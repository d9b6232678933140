import OpenflowDatapath.Forward.Disposal
import OpenflowDatapath.Netlink.Message

/-! # The packet-in

`dp_output_control` in full: how much of the frame it forwards, the `PACKET_IN` message it
builds with `alloc_openflow_skb`, the fields it stores, and the one `kfree_skb` at `out:`. The
output path's `dpOutputControl` keeps only the `in_port` and the frame's disposal; the last
section proves that every run of the full model that does not oops is a run of that view.
-/

namespace OpenflowDatapath.Control

def ofptPacketIn : Nat := 10

def packetInDataOffset : Nat := 18

def noBuffer : UInt32 := 0xffffffff

structure Frame where
  skb : Skb
  data : List UInt8
  len_eq : data.length = skb.len

structure PacketIn where
  msg : NlMsg
  bufferId : UInt32
  totalLen : Nat
  inPort : Nat
  reason : Nat
  data : List UInt8

/-- What `fwd_save_skb`, `genlmsg_new` and `genlmsg_multicast` give `dp_output_control`. -/
structure ControlEnv where
  bufferId : UInt32
  room : Option Int
  sendRet : Int

/-- `fwd_len`: the whole frame, or at most `max_len` bytes of a buffered one. -/
def fwdLen (bufferId : UInt32) (len maxLen : Nat) : Nat :=
  if bufferId ≠ noBuffer then min len maxLen else len

/-- `skb->dev && skb->dev->br_port ? skb->dev->br_port->port_no : OFPP_LOCAL`. -/
def packetInPort (s : Sys) : Option DevId → OutM Nat
  | none => pure ofppLocal
  | some d => do
    let dev ← derefO (s.devs d)
    match dev.brPort with
    | none => pure ofppLocal
    | some p => do
      let port ← derefO (s.portHeap p)
      pure port.portNo

/-- `dp_output_control`; the frame's `kfree_skb` at `out:` goes on the trace. -/
def dpOutputControl (cenv : ControlEnv) (s : Sys) (dp : Datapath) (fr : Frame)
    (maxLen reason : Nat) : OutM (Int × Option PacketIn) := do
  let fwd := fwdLen cenv.bufferId fr.skb.len maxLen
  let opi ← StateT.lift
    (allocOpenflowSkb dp.dpIdx (packetInDataOffset + fwd) ofptPacketIn none cenv.room)
  match opi with
  | none =>
    kfreeSkb fr.skb
    return (-enomem, none)
  | some m =>
    let inPort ← packetInPort s fr.skb.dev
    let pi : PacketIn :=
      ⟨m, cenv.bufferId, fr.skb.len % 2 ^ 16, inPort, reason % 2 ^ 8, fr.data.take fwd⟩
    kfreeSkb fr.skb
    return (cenv.sendRet, some pi)

def inPortOf (s : Sys) : Option DevId → Option Nat
  | none => some ofppLocal
  | some d => (s.devs d).bind fun dev =>
    match dev.brPort with
    | none => some ofppLocal
    | some p => (s.portHeap p).map (·.portNo)

theorem packetInPort_eq (s : Sys) (dev : Option DevId) :
    packetInPort s dev = derefO (inPortOf s dev) := by
  rcases dev with _ | d
  · rfl
  rcases hd : s.devs d with _ | dv
  · simp only [packetInPort, inPortOf, hd]
    rfl
  rcases hb : dv.brPort with _ | p
  · simp only [packetInPort, inPortOf, hd, hb, derefO_some_bind, Option.some_bind]
    rfl
  rcases hp : s.portHeap p with _ | port
  · simp only [packetInPort, inPortOf, hd, hb, hp, derefO_some_bind, Option.some_bind,
      Option.map_none']
    rfl
  · simp only [packetInPort, inPortOf, hd, hb, hp, derefO_some_bind, Option.some_bind,
      Option.map_some']
    rfl

theorem inPortOf_attached {s : Sys} {d : DevId} {dev : NetDevice} {p : PortRef}
    {port : BridgePort} (hdev : s.devs d = some dev) (hbr : dev.brPort = some p)
    (hp : s.portHeap p = some port) : inPortOf s (some d) = some port.portNo := by
  simp only [inPortOf, hdev, hbr, hp, Option.some_bind, Option.map_some']

theorem inPortOf_unbound {s : Sys} {d : DevId} {dev : NetDevice} (hdev : s.devs d = some dev)
    (hbr : dev.brPort = none) : inPortOf s (some d) = some ofppLocal := by
  simp only [inPortOf, hdev, hbr, Option.some_bind]

/-- A packet-in as `dp_output_control` is meant to send it. -/
structure PacketInOf (cenv : ControlEnv) (fr : Frame) (maxLen reason inPort : Nat)
    (pi : PacketIn) : Prop where
  bufferId : pi.bufferId = cenv.bufferId
  data : pi.data = fr.data.take (fwdLen cenv.bufferId fr.skb.len maxLen)
  dataLen : pi.data.length = fwdLen cenv.bufferId fr.skb.len maxLen
  length : pi.msg.ofLength = packetInDataOffset + fwdLen cenv.bufferId fr.skb.len maxLen
  type : pi.msg.ofType = ofptPacketIn
  totalLen : pi.totalLen = fr.skb.len % 2 ^ 16
  inPort : pi.inPort = inPort
  reason : pi.reason = reason % 2 ^ 8

theorem fwdLen_le (bufferId : UInt32) (len maxLen : Nat) : fwdLen bufferId len maxLen ≤ len := by
  unfold fwdLen
  split <;> omega

variable {cenv : ControlEnv} {s : Sys} {dp : Datapath} {fr : Frame} {maxLen reason : Nat}

theorem dpOutputControl_run {r : K (Option NlMsg)}
    (halloc : allocOpenflowSkb dp.dpIdx
      (packetInDataOffset + fwdLen cenv.bufferId fr.skb.len maxLen) ofptPacketIn none cenv.room = r) {inPort : Nat} (hin : inPortOf s fr.skb.dev = some inPort)
    (o : Out) :
    dpOutputControl cenv s dp fr maxLen reason o =
      r.map fun m? => (match m? with
        | none => (-enomem, none)
        | some m => (cenv.sendRet, some ⟨m, cenv.bufferId, fr.skb.len % 2 ^ 16, inPort,
            reason % 2 ^ 8, fr.data.take (fwdLen cenv.bufferId fr.skb.len maxLen)⟩),
        { o with trace := o.trace ++ [.free fr.skb.id] }) := by
  subst halloc
  rcases hr : allocOpenflowSkb dp.dpIdx
    (packetInDataOffset + fwdLen cenv.bufferId fr.skb.len maxLen) ofptPacketIn none cenv.room
    with e | _ | m
  · simp only [dpOutputControl, hr]
    rfl
  · simp only [dpOutputControl, hr]
    rfl
  · simp only [dpOutputControl, hr, packetInPort_eq, hin]
    rfl

theorem dpOutputControl_sends {inPort : Nat} (hin : inPortOf s fr.skb.dev = some inPort)
    {t : Int} (hroom : cenv.room = some t)
    (hfit : packetInDataOffset + fwdLen cenv.bufferId fr.skb.len maxLen + ofpHeaderLen ≤ uint16Max)
    (ht : genlmsgNewSize (genlLen (packetInDataOffset + fwdLen cenv.bufferId fr.skb.len maxLen)) ≤
      t)
    (hwrap : t < 65564) (o : Out) :
    ∃ pi, dpOutputControl cenv s dp fr maxLen reason o =
        .ok ((cenv.sendRet, some pi), { o with trace := o.trace ++ [.free fr.skb.id] }) ∧
      PacketInOf cenv fr maxLen reason inPort pi := by
  obtain ⟨m, halloc, -, -, -, -, htype, -, hlen⟩ :=
    allocOpenflowSkb_ok hfit ht hwrap dp.dpIdx ofptPacketIn none
  rw [← hroom] at halloc
  rw [dpOutputControl_run halloc hin]
  have hle := fwdLen_le cenv.bufferId fr.skb.len maxLen
  exact ⟨_, rfl, rfl, rfl, by simp only [List.length_take, fr.len_eq]; omega, hlen, htype, rfl,
    rfl, rfl⟩

theorem dpOutputControl_enomem {inPort : Nat} (hin : inPortOf s fr.skb.dev = some inPort)
    (h : cenv.room = none ∨
      uint16Max < packetInDataOffset + fwdLen cenv.bufferId fr.skb.len maxLen + ofpHeaderLen)
    (o : Out) :
    dpOutputControl cenv s dp fr maxLen reason o =
      .ok ((-enomem, none), { o with trace := o.trace ++ [.free fr.skb.id] }) := by
  have halloc : allocOpenflowSkb dp.dpIdx
      (packetInDataOffset + fwdLen cenv.bufferId fr.skb.len maxLen) ofptPacketIn none cenv.room =
      .ok none := by
    rcases h with h | h
    · simp only [allocOpenflowSkb, h]
      split <;> rfl
    · unfold allocOpenflowSkb
      rw [if_pos h]
      rfl
  rw [dpOutputControl_run halloc hin]
  rfl

/-- An unbuffered frame of 65491 to 65509 bytes makes `dp_output_control` hit `BUG_ON`. -/
theorem dpOutputControl_bug_unbuffered (hbuf : cenv.bufferId = noBuffer)
    (hlo : 65491 ≤ fr.skb.len) (hhi : fr.skb.len ≤ 65509)
    (hroom : cenv.room = some (genlmsgNewSize (genlLen (packetInDataOffset + fr.skb.len))))
    (o : Out) : dpOutputControl cenv s dp fr maxLen reason o = .error .bug := by
  have hfwd : fwdLen cenv.bufferId fr.skb.len maxLen = fr.skb.len := by
    rw [fwdLen, hbuf, if_neg (not_not.2 rfl)]
  simp only [dpOutputControl, hfwd, hroom]
  rw [allocOpenflowSkb_bug_of_wrap (by simp only [packetInDataOffset]; omega)
    (by simp only [packetInDataOffset, ofpHeaderLen, uint16Max]; omega)]
  rfl

def bigFrame : Frame :=
  ⟨⟨0, none, 65491, false, false⟩, List.replicate 65491 0, List.length_replicate _ _⟩

theorem packetIn_bug_65491 :
    (⟨noBuffer, some (genlmsgNewSize (genlLen (packetInDataOffset + 65491))), 0⟩ :
      ControlEnv).bufferId = noBuffer ∧
    65491 ≤ bigFrame.skb.len ∧ bigFrame.skb.len ≤ 65509 ∧
    dpOutputControl ⟨noBuffer, some (genlmsgNewSize (genlLen (packetInDataOffset + 65491))), 0⟩
      demoSys demoDp bigFrame 0 0 ⟨[], 0, 0⟩ = .error .bug :=
  ⟨rfl, by decide, by decide, dpOutputControl_bug_unbuffered rfl (by decide) (by decide) rfl _⟩

theorem dpOutputControl_view (env : FwdEnv) {skb : Skb} {inPort : Nat}
    (hin : inPortOf s skb.dev = some inPort) (o : Out) :
    OpenflowDatapath.dpOutputControl env s skb o =
      .ok (env.controlRet skb.id, { o with trace := o.trace ++ [.control skb.id inPort] }) := by
  rcases hdev : skb.dev with _ | d
  · rw [hdev] at hin
    cases hin
    simp only [OpenflowDatapath.dpOutputControl, hdev]
    rfl
  rw [hdev] at hin
  obtain ⟨dev, hd, h⟩ := Option.bind_eq_some.1 hin
  rcases hb : dev.brPort with _ | p
  · rw [hb] at h
    cases h
    simp only [OpenflowDatapath.dpOutputControl, hdev, hd, hb, derefO_some_bind]
    rfl
  · rw [hb] at h
    obtain ⟨port, hp, rfl⟩ := Option.map_eq_some'.1 h
    simp only [OpenflowDatapath.dpOutputControl, hdev, hd, hb, hp, derefO_some_bind]
    rfl

/-- Every run of `dp_output_control` that does not oops is a run of the output path's model. -/
theorem dpOutputControl_refines {inPort : Nat} (hin : inPortOf s fr.skb.dev = some inPort)
    {o o' : Out} {r : Int} {pi? : Option PacketIn}
    (hrun : dpOutputControl cenv s dp fr maxLen reason o = .ok ((r, pi?), o')) (env : FwdEnv)
    (hret : env.controlRet fr.skb.id = r) :
    o' = { o with trace := o.trace ++ [.free fr.skb.id] } ∧ (∀ pi ∈ pi?, pi.inPort = inPort) ∧
      OpenflowDatapath.dpOutputControl env s fr.skb o =
        .ok (r, { o with trace := o.trace ++ [.control fr.skb.id inPort] }) := by
  have hview := hret ▸ dpOutputControl_view env hin o
  rcases halloc : allocOpenflowSkb dp.dpIdx
    (packetInDataOffset + fwdLen cenv.bufferId fr.skb.len maxLen) ofptPacketIn none cenv.room
    with e | _ | m <;> rw [dpOutputControl_run halloc hin] at hrun <;> cases hrun
  · exact ⟨rfl, nofun, hview⟩
  · exact ⟨rfl, by rintro _ ⟨⟩; rfl, hview⟩

end OpenflowDatapath.Control
