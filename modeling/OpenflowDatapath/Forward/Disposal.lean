import OpenflowDatapath.Forward.Output

/-! # Every frame is disposed of once

A call of `dp_output_port` on a frame that came in on a port appends to the trace one event
that disposes of the frame, or, for `OFPP_FLOOD` and `OFPP_ALL`, the run of `output_all`:
one clone for every target but the last, each passed to `dp_output_port` once in
`port_list` order, the original frame last, and on a failed clone the original freed.
-/

namespace OpenflowDatapath

variable {s : Sys}


def Attached (s : Sys) (dev : Option DevId) : Prop :=
  ∃ d devr p port, dev = some d ∧ s.devs d = some devr ∧ devr.brPort = some p ∧
    s.portHeap p = some port

/-- A run that appends exactly one event, which disposes of frame `f`. -/
def Disposes (x : OutM Int) (f : SkbId) : Prop :=
  ∀ o, ∃ r e, x o = .ok (r, { o with trace := o.trace ++ [e] }) ∧ e.consumed = some f

theorem Disposes.emit_pure {e : Event} {f : SkbId} (h : e.consumed = some f) (r : Int) :
    Disposes (do emit e; return r) f := fun _ => ⟨r, e, rfl, h⟩

theorem dpXmitSkb_disposes {skb : Skb} {d : DevId} {dev : NetDevice} {p : PortRef}
    {port : BridgePort} (hd : skb.dev = some d) (hdev : s.devs d = some dev)
    (hbr : dev.brPort = some p) (hp : s.portHeap p = some port) :
    Disposes (dpXmitSkb s skb) skb.id := by
  simp only [dpXmitSkb, hd, hdev, hbr, hp, derefO_some_bind]
  split <;> exact Disposes.emit_pure (by rfl) _

theorem dpOutputControl_disposes (env : FwdEnv) {skb : Skb} (hatt : Attached s skb.dev) :
    Disposes (dpOutputControl env s skb) skb.id := by
  obtain ⟨d, dev, p, port, hd, hdev, hbr, hp⟩ := hatt
  simp only [dpOutputControl, hd, hdev, hbr, hp, derefO_some_bind]
  exact fun o => ⟨_, _, rfl, rfl⟩

theorem dpOutputPortNoFlood_disposes (hs : Inv s) {a : DpRef} {dp : Datapath}
    (hlive : Live s a dp) (env : FwdEnv) {skb : Skb} (hatt : Attached s skb.dev) (q : Nat)
    (ign : Bool) : Disposes (dpOutputPortNoFlood env s dp skb q ign) skb.id := by
  have hw := hs.wf_of_live hlive
  obtain ⟨d, dev, p, port, hd, hdev, hbr, hp⟩ := hatt
  unfold dpOutputPortNoFlood
  by_cases h₁ : q = ofppInPort
  · rw [if_pos h₁, hd]; exact dpXmitSkb_disposes hd hdev hbr hp
  rw [if_neg h₁]
  by_cases h₂ : q = ofppTable
  · rw [if_pos h₂]
    simp only [hd, hdev, derefO_some_bind, runFlowThroughTables]
    by_cases hr : env.tableRet skb.id = 0 <;>
      simp only [hr, ite_true, ite_false, ne_eq, not_true_eq_false, not_false_eq_true, pure_bind,
        bind_assoc] <;>
      exact Disposes.emit_pure (by rfl) _
  rw [if_neg h₂]
  by_cases h₃ : q = ofppController
  · rw [if_pos h₃]; exact dpOutputControl_disposes env ⟨d, dev, p, port, hd, hdev, hbr, hp⟩
  rw [if_neg h₃]
  by_cases h₄ : q = ofppLocal
  · obtain ⟨e, hne, -⟩ := hw.netdev
    rw [if_pos h₄, hne]
    exact Disposes.emit_pure (by rfl) _
  rw [if_neg h₄]
  by_cases h₅ : q < dpMaxPorts
  · rw [if_pos h₅]
    cases hq : dp.ports q with
    | none => exact Disposes.emit_pure (by rfl) _
    | some p' =>
      obtain ⟨d', hpa, hda⟩ := hw.slot q p' hq
      obtain ⟨port', hp', -, -, rfl⟩ := Sys.portAt_eq_some.1 hpa
      obtain ⟨dev', hdev', hbr', -⟩ := Sys.devAt_eq_some.1 hda
      simp only [hp', derefO_some_bind]
      split
      · exact Disposes.emit_pure (by rfl) _
      split
      · exact Disposes.emit_pure (by rfl) _
      · exact dpXmitSkb_disposes (show ({ skb with dev := some port'.dev } : Skb).dev = _ from rfl)
          hdev' hbr' hp'
  · rw [if_neg h₅]; exact Disposes.emit_pure (by rfl) _

/-- The port numbers of `l` that `output_all` sends to, in order. -/
def floodTargets (s : Sys) (skb : Skb) (flood : Bool) (l : List PortRef) : List Nat :=
  l.filterMap fun p => (s.portHeap p).bind fun port =>
    if skb.dev ≠ some port.dev ∧ (flood = false ∨ port.config &&& ofppcNoFlood = 0) then
      some port.portNo
    else none

def cloneRun (ok : Nat → Bool) (n : Nat) : Nat → Nat
  | 0 => 0
  | m + 1 => if ok n then cloneRun ok (n + 1) m + 1 else 0

def cloneIds (next j : Nat) : List SkbId := (List.range j).map (next + ·)

@[simp] theorem cloneIds_zero (next : Nat) : cloneIds next 0 = [] := rfl

theorem cloneIds_succ (next j : Nat) : cloneIds next (j + 1) = next :: cloneIds (next + 1) j := by
  simp [cloneIds, List.range_succ_eq_map, Nat.add_assoc, Nat.add_comm 1]

theorem cloneRun_le (ok : Nat → Bool) : ∀ n m, cloneRun ok n m ≤ m
  | _, 0 => le_rfl
  | n, m + 1 => by
    unfold cloneRun
    split
    · exact Nat.succ_le_succ (cloneRun_le ok (n + 1) m)
    · exact Nat.zero_le _

structure LoopRun (skb : Skb) (T : List Nat) (next j : Nat) (res : Option (Option Nat))
    (N : List Event) : Prop where
  cloned : N.filterMap Event.cloned = cloneIds next j
  outputs : N.filterMap Event.outputTo = (cloneIds next j).zip T
  consumed : (N.filterMap Event.consumed).Perm
    (cloneIds next j ++ if j < T.length - 1 then [skb.id] else [])
  empty : T.length ≤ 1 → N = []
  failed : j < T.length - 1 → res = none ∧ N.getLast? = some (.free skb.id)
  done : j = T.length - 1 → res = some T.getLast?

theorem config_and_zero (x : UInt32) : x &&& 0 = 0 := UInt32.eq_of_toBitVec_eq BitVec.and_zero

theorem skip_iff (skb : Skb) (port : BridgePort) (flood : Bool) :
    (skb.dev = some port.dev ∨ port.config &&& (if flood then ofppcNoFlood else 0) ≠ 0) ↔
      ¬(skb.dev ≠ some port.dev ∧ (flood = false ∨ port.config &&& ofppcNoFlood = 0)) := by
  cases flood <;> simp [config_and_zero, or_iff_not_imp_left]


namespace LoopRun

variable {skb : Skb}

theorem nil (prev : Option Nat) (next : Nat) : LoopRun skb prev.toList next 0 (some prev) [] where
  cloned := rfl
  outputs := rfl
  consumed := by cases prev <;> simp
  empty _ := rfl
  failed h := by cases prev <;> simp at h
  done _ := by cases prev <;> rfl

theorem fail {q : Nat} {T : List Nat} (hT : T ≠ []) (next : Nat) :
    LoopRun skb (q :: T) next 0 none [.free skb.id] where
  cloned := rfl
  outputs := rfl
  consumed := by
    have : 0 < T.length := List.length_pos.2 hT
    simp [this, Event.consumed]
  empty h := by
    have := List.length_pos.2 hT
    simp only [List.length_cons] at h
    omega
  failed _ := ⟨rfl, rfl⟩
  done h := by
    have := List.length_pos.2 hT
    simp only [List.length_cons, Nat.add_sub_cancel] at h
    omega

theorem cons {T : List Nat} {next j : Nat} {res : Option (Option Nat)} {N : List Event}
    (h : LoopRun skb T (next + 1) j res N) (hT : T ≠ []) (q : Nat) {e : Event}
    (he : e.consumed = some next) :
    LoopRun skb (q :: T) next (j + 1) res ([.clone skb.id next, .output next q, e] ++ N) where
  cloned := by
    simp only [List.cons_append, List.nil_append, List.filterMap_cons,
      (Event.not_cloned_of_consumed he).1]
    rw [cloneIds_succ, ← h.cloned]
    rfl
  outputs := by
    simp only [List.cons_append, List.nil_append, List.filterMap_cons,
      (Event.not_cloned_of_consumed he).2]
    rw [cloneIds_succ, List.zip_cons_cons, ← h.outputs]
    rfl
  consumed := by
    have hlen : 0 < T.length := List.length_pos.2 hT
    have hc : (j + 1 < (q :: T).length - 1) = (j < T.length - 1) := by
      simp only [List.length_cons, Nat.add_sub_cancel]; apply propext; omega
    simp only [List.cons_append, List.nil_append, List.filterMap_cons, he, hc, cloneIds_succ]
    exact List.Perm.cons _ h.consumed
  empty hl := by
    have := List.length_pos.2 hT
    simp only [List.length_cons] at hl
    omega
  failed hj := by
    have hlen : 0 < T.length := List.length_pos.2 hT
    obtain ⟨hres, hlast⟩ := h.failed (by simp only [List.length_cons, Nat.add_sub_cancel] at hj; omega)
    refine ⟨hres, ?_⟩
    rw [List.getLast?_append, hlast]
    rfl
  done hj := by
    have hlen : 0 < T.length := List.length_pos.2 hT
    rw [h.done (by simp only [List.length_cons, Nat.add_sub_cancel] at hj; omega)]
    obtain ⟨t, ts, rfl⟩ := List.exists_cons_of_ne_nil hT
    simp

end LoopRun


theorem floodTargets_cons_skip {skb : Skb} {flood : Bool} {p : PortRef} {port : BridgePort}
    (ps : List PortRef) (hp : s.portHeap p = some port)
    (h : skb.dev = some port.dev ∨ port.config &&& (if flood then ofppcNoFlood else 0) ≠ 0) :
    floodTargets s skb flood (p :: ps) = floodTargets s skb flood ps := by
  simp [floodTargets, hp, (skip_iff skb port flood).1 h]

theorem floodTargets_cons_send {skb : Skb} {flood : Bool} {p : PortRef} {port : BridgePort}
    (ps : List PortRef) (hp : s.portHeap p = some port)
    (h : ¬(skb.dev = some port.dev ∨ port.config &&& (if flood then ofppcNoFlood else 0) ≠ 0)) :
    floodTargets s skb flood (p :: ps) = port.portNo :: floodTargets s skb flood ps := by
  simp [floodTargets, hp, not_not.1 ((skip_iff skb port flood).not.1 h)]

theorem outputAllLoop_run (hs : Inv s) {a : DpRef} {dp : Datapath} (hlive : Live s a dp)
    (env : FwdEnv) {skb : Skb} (hatt : Attached s skb.dev) (flood : Bool) :
    ∀ (l : List PortRef) (prev : Option Nat) (o : Out), (∀ p ∈ l, (s.portHeap p).isSome) →
    ∃ res N o', outputAllLoop env s dp skb (if flood then ofppcNoFlood else 0) l prev o =
        .ok (res, o') ∧ o'.trace = o.trace ++ N ∧
      LoopRun skb (prev.toList ++ floodTargets s skb flood l) o.next
        (cloneRun env.cloneOk o.clones ((prev.toList ++ floodTargets s skb flood l).length - 1))
        res N
  | [], prev, o, _ => by
    have hj : (prev.toList ++ floodTargets s skb flood []).length - 1 = 0 := by
      cases prev <;> rfl
    rw [hj]
    exact ⟨some prev, [], o, rfl, by simp, by simpa [floodTargets] using LoopRun.nil prev o.next⟩
  | p :: ps, prev, o, hl => by
    obtain ⟨port, hp⟩ := Option.isSome_iff_exists.1 (hl p (List.mem_cons_self p ps))
    have hps : ∀ q ∈ ps, (s.portHeap q).isSome := fun q hq => hl q (List.mem_cons_of_mem p hq)
    simp only [outputAllLoop, hp, derefO_some_bind]
    by_cases hskip : skb.dev = some port.dev ∨
        port.config &&& (if flood then ofppcNoFlood else 0) ≠ 0
    · rw [if_pos hskip, floodTargets_cons_skip ps hp hskip]
      exact outputAllLoop_run hs hlive env hatt flood ps prev o hps
    rw [if_neg hskip, floodTargets_cons_send ps hp hskip]
    cases prev with
    | none => exact outputAllLoop_run hs hlive env hatt flood ps (some port.portNo) o hps
    | some q =>
      have hT : port.portNo :: floodTargets s skb flood ps ≠ [] := List.cons_ne_nil _ _
      by_cases hc : env.cloneOk o.clones
      · let c : Skb := { skb with id := o.next }
        have hcl : skbClone env skb o =
            .ok (some c, ⟨o.trace ++ [.clone skb.id o.next], o.next + 1, o.clones + 1⟩) := by
          simp [skbClone, hc, c]
        let o₁ : Out := ⟨o.trace ++ [.clone skb.id o.next] ++ [.output o.next q], o.next + 1,
          o.clones + 1⟩
        obtain ⟨r, e, hout, he⟩ :=
          dpOutputPortNoFlood_disposes hs hlive env (show Attached s c.dev from hatt) q false o₁
        obtain ⟨res, N, o', hrun, htr, hlr⟩ := outputAllLoop_run hs hlive env hatt flood ps
          (some port.portNo) { o₁ with trace := o₁.trace ++ [e] } hps
        refine ⟨res, [.clone skb.id o.next, .output o.next q, e] ++ N, o', ?_, by simp [htr, o₁], ?_⟩
        · dsimp only
          rw [bind_run_ok hcl]
          dsimp only
          rw [bind_run_ok rfl, bind_run_ok hout]
          exact hrun
        · simp only [Option.toList_some, List.singleton_append, List.length_cons,
            Nat.add_sub_cancel, cloneRun, hc, if_true] at hlr ⊢
          exact hlr.cons hT q he
      · have hcl : skbClone env skb o = .ok (none, { o with clones := o.clones + 1 }) := by
          simp [skbClone, hc]
        refine ⟨none, [.free skb.id], ⟨o.trace ++ [.free skb.id], o.next, o.clones + 1⟩,
          by dsimp only; rw [bind_run_ok hcl]; rfl, rfl, ?_⟩
        simp only [Option.toList_some, List.singleton_append, List.length_cons,
          Nat.add_sub_cancel, cloneRun, hc]
        exact LoopRun.fail hT o.next

theorem cloneIds_length (next j : Nat) : (cloneIds next j).length = j := by simp [cloneIds]

theorem cloneIds_nodup {f next : Nat} (h : f < next) (j : Nat) :
    (f :: cloneIds next j).Nodup := by
  refine List.nodup_cons.2 ⟨?_, List.Nodup.map (fun x y hxy => Nat.add_left_cancel hxy)
    (List.nodup_range j)⟩
  simp only [cloneIds, List.mem_map, List.mem_range, not_exists, not_and]
  intro x _
  omega

/-- What `output_all` did for targets `T` with `j` clones numbered from `next`. -/
structure OutputAllRun (skb : Skb) (T : List Nat) (next j : Nat) (r : Int) (N : List Event) :
    Prop where
  -- The clones, in order.
  cloned : N.filterMap Event.cloned = cloneIds next j
  -- All clones succeeded: every target got one call, the original frame the last.
  done : j = T.length - 1 → r = 0 ∧ N.filterMap Event.outputTo = (cloneIds next j ++ [skb.id]).zip T ∧
    (T = [] → N = [.free skb.id])
  -- A clone failed: the targets before it got one call each, then the original was freed.
  failed : j < T.length - 1 → r = -enomem ∧ N.filterMap Event.outputTo = (cloneIds next j).zip T ∧
    N.getLast? = some (.free skb.id)

theorem outputAll_run (hs : Inv s) {a : DpRef} {dp : Datapath} (hlive : Live s a dp)
    (env : FwdEnv) {skb : Skb} (hatt : Attached s skb.dev) (flood : Bool) (o : Out) :
    ∃ r N o', outputAll env s dp skb flood o = .ok (r, o') ∧ o'.trace = o.trace ++ N ∧
      (N.filterMap Event.consumed).Perm (skb.id :: N.filterMap Event.cloned) ∧
      OutputAllRun skb (floodTargets s skb flood dp.portList) o.next
        (cloneRun env.cloneOk o.clones ((floodTargets s skb flood dp.portList).length - 1)) r N := by
  have hw := hs.wf_of_live hlive
  have hps : ∀ p ∈ dp.portList, (s.portHeap p).isSome := fun p hp => by
    obtain ⟨n, d, hpa, -⟩ := hw.port_of_mem hp
    obtain ⟨port, hport, -⟩ := Sys.portAt_eq_some.1 hpa
    simp [hport]
  obtain ⟨res, N, o₁, hrun, htr, hlr⟩ := outputAllLoop_run hs hlive env hatt flood dp.portList none o hps
  simp only [Option.toList_none, List.nil_append] at hlr
  set T := floodTargets s skb flood dp.portList
  set j := cloneRun env.cloneOk o.clones (T.length - 1)
  have hcons := hlr.consumed
  rw [← hlr.cloned] at hcons
  by_cases hjm : j < T.length - 1
  · obtain ⟨rfl, hlast⟩ := hlr.failed hjm
    refine ⟨-enomem, N, o₁, by simp only [outputAll]; rw [bind_run_ok hrun]; rfl, htr,
      hcons.trans ?_, ⟨hlr.cloned, fun h => absurd h (by omega), fun _ => ⟨rfl, hlr.outputs, hlast⟩⟩⟩
    rw [if_pos hjm]
    exact List.perm_append_singleton _ _
  have hj : j = T.length - 1 := le_antisymm (cloneRun_le _ _ _) (by omega)
  rw [if_neg hjm, List.append_nil] at hcons
  cases hq : T.getLast? with
  | none =>
    have hT : T = [] := List.getLast?_eq_none_iff.1 hq
    have hN : N = [] := hlr.empty (by simp [hT])
    rw [hlr.done hj, hq] at hrun
    refine ⟨0, [.free skb.id], { o₁ with trace := o₁.trace ++ [.free skb.id] },
      by simp only [outputAll]; rw [bind_run_ok hrun]; rfl,
      by show o₁.trace ++ _ = _; rw [htr, hN, List.append_nil], by simp [Event.consumed, Event.cloned],
      ⟨by simp [hj, hT, Event.cloned], fun _ => ⟨rfl, by simp [hT, Event.outputTo], fun _ => rfl⟩,
        fun h => absurd h (by omega)⟩⟩
  | some q =>
    rw [hlr.done hj, hq] at hrun
    obtain ⟨ys, hys⟩ := List.getLast?_eq_some_iff.1 hq
    have hlen : (cloneIds o.next j).length = ys.length := by
      rw [cloneIds_length, hj, hys]; simp
    let o₂ : Out := { o₁ with trace := o₁.trace ++ [.output skb.id q] }
    obtain ⟨r, e, hout, he⟩ := dpOutputPortNoFlood_disposes hs hlive env hatt q false o₂
    have hc₁ : [Event.output skb.id q, e].filterMap Event.consumed = [skb.id] := by
      simp only [List.filterMap_cons, he]; rfl
    have hc₂ : [Event.output skb.id q, e].filterMap Event.cloned = [] := by
      simp only [List.filterMap_cons, (Event.not_cloned_of_consumed he).1]; rfl
    have hc₃ : [Event.output skb.id q, e].filterMap Event.outputTo = [(skb.id, q)] := by
      simp only [List.filterMap_cons, (Event.not_cloned_of_consumed he).2]; rfl
    refine ⟨0, N ++ [.output skb.id q, e], { o₂ with trace := o₂.trace ++ [e] }, ?_,
      by simp [o₂, htr], ?_, ⟨?_, fun _ => ⟨rfl, ?_, fun hT => by simp [hT] at hq⟩,
        fun h => absurd h (by omega)⟩⟩
    · simp only [outputAll]
      rw [bind_run_ok hrun]
      dsimp only
      rw [bind_run_ok rfl, bind_run_ok hout]
      rfl
    · rw [List.filterMap_append, List.filterMap_append, hc₁, hc₂, List.append_nil]
      exact (hcons.append_right _).trans (List.perm_append_singleton _ _)
    · rw [List.filterMap_append, hc₂, List.append_nil, hlr.cloned]
    · have hz : (cloneIds o.next j).zip (ys ++ [q]) = (cloneIds o.next j).zip ys := by
        conv_lhs => rw [← List.append_nil (cloneIds o.next j)]
        rw [List.zip_append hlen, List.zip_nil_left, List.append_nil]
      rw [List.filterMap_append, hc₃, hlr.outputs, hys, List.zip_append hlen, hz]
      rfl


theorem Inv.attached (hs : Inv s) {a : DpRef} {dp : Datapath} (hlive : Live s a dp) {n : Nat}
    {p : PortRef} {port : BridgePort} (hn : dp.ports n = some p) (hp : s.portHeap p = some port) :
    Attached s (some port.dev) := by
  obtain ⟨d, hpa, hda⟩ := (hs.wf_of_live hlive).slot n p hn
  obtain ⟨port', hp', -, -, rfl⟩ := Sys.portAt_eq_some.1 hpa
  obtain ⟨dev, hdev, hbr, -⟩ := Sys.devAt_eq_some.1 hda
  rw [hp] at hp'
  cases hp'
  exact ⟨_, dev, p, port, rfl, hdev, hbr, hp⟩

/-- `dp_output_port` returns and disposes of each frame it was given or made exactly once. -/
def ConsumesOnce (env : FwdEnv) (s : Sys) (dp : Datapath) (skb : Skb) (outPort : Nat)
    (ignoreNoFwd : Bool) (o : Out) : Prop :=
  ∃ r N o', dpOutputPort env s dp skb outPort ignoreNoFwd o = .ok (r, o') ∧
    o'.trace = o.trace ++ N ∧
    (N.filterMap Event.consumed).Perm (skb.id :: N.filterMap Event.cloned) ∧
    (skb.id :: N.filterMap Event.cloned).Nodup ∧
    (outPort = ofppFlood → OutputAllRun skb (floodTargets s skb true dp.portList) o.next
      (cloneRun env.cloneOk o.clones ((floodTargets s skb true dp.portList).length - 1)) r N) ∧
    (outPort = ofppAll → OutputAllRun skb (floodTargets s skb false dp.portList) o.next
      (cloneRun env.cloneOk o.clones ((floodTargets s skb false dp.portList).length - 1)) r N)

theorem dpOutputPort_consumes_once (hs : Reach s) {a : DpRef} {dp : Datapath}
    (hlive : Live s a dp) {skb : Skb}
    (hdev : ∃ a' dp' n p port, Live s a' dp' ∧ dp'.ports n = some p ∧ s.portHeap p = some port ∧
      skb.dev = some port.dev)
    (env : FwdEnv) (outPort : Nat) (ignoreNoFwd : Bool) (o : Out) (hfresh : skb.id < o.next) :
    ConsumesOnce env s dp skb outPort ignoreNoFwd o := by
  have hi := hs.inv
  obtain ⟨a', dp', n, p, port, hlive', hn, hp, hd⟩ := hdev
  have hatt : Attached s skb.dev := hd ▸ hi.attached hlive' hn hp
  have hne : ofppFlood ≠ ofppAll := by decide
  by_cases hF : outPort = ofppFlood
  · subst hF
    obtain ⟨r, N, o', hrun, htr, hperm, hres⟩ := outputAll_run hi hlive env hatt true o
    exact ⟨r, N, o', hrun, htr, hperm, by rw [hres.cloned]; exact cloneIds_nodup hfresh _,
      fun _ => hres, fun h => absurd h hne⟩
  by_cases hA : outPort = ofppAll
  · subst hA
    obtain ⟨r, N, o', hrun, htr, hperm, hres⟩ := outputAll_run hi hlive env hatt false o
    exact ⟨r, N, o', hrun, htr, hperm, by rw [hres.cloned]; exact cloneIds_nodup hfresh _,
      fun h => absurd h.symm hne, fun _ => hres⟩
  obtain ⟨r, e, hrun, he⟩ := dpOutputPortNoFlood_disposes hi hlive env hatt outPort ignoreNoFwd o
  have hc : [e].filterMap Event.cloned = [] := by
    simp only [List.filterMap_cons, (Event.not_cloned_of_consumed he).1]; rfl
  refine ⟨r, [e], _, by simpa [dpOutputPort, hF, hA] using hrun, rfl, ?_, by simp [hc],
    fun h => absurd h hF, fun h => absurd h hA⟩
  rw [hc]
  simp only [List.filterMap_cons, he]
  rfl

theorem demoDp_live : Live demoSys 0 demoDp := ⟨⟨0, rfl⟩, rfl⟩

theorem consumes_once_demo :
    Live demoSys 0 demoDp ∧ ConsumesOnce demoFwdEnv demoSys demoDp demoSkb ofppFlood false ⟨[], 1, 0⟩ :=
  ⟨demoDp_live, dpOutputPort_consumes_once reach_demoSys demoDp_live
    ⟨0, demoDp, 1, 1, _, demoDp_live, rfl, rfl, rfl⟩ _ _ _ _ (by decide)⟩

end OpenflowDatapath
