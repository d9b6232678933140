import OpenflowDatapath.Control.Buffer

/-! # The replies built byte by byte

`dp_send_hello`, `dp_send_error_msg`, `dp_send_echo_reply`, `dp_send_config_reply` and
`dp_send_barrier_reply` allocate a message with `alloc_openflow_skb`, store their fields after
the header it fills in, and hand it to `send_openflow_skb`. Their stores fill the message one
after the other, so each message is its header followed by its fields, and none carries a byte
of what the buffer held before. The datagram goes on to the end of the attribute, which
`nla_shrink` rounds up to 4 bytes: a message whose length is not a multiple of 4 is followed
by 1 to 3 bytes of what the buffer held there. An echo reply is the request with its version
and type rewritten; a `HELLO` of an older version is answered by `OFPET_HELLO_FAILED` and
`-EINVAL`.
-/

namespace OpenflowDatapath

def ofptHello : Nat := 0
def ofptError : Nat := 1
def ofptEchoReply : Nat := 3
def ofptGetConfigReply : Nat := 8
def ofptBarrierReply : Nat := 19
def ofpetHelloFailed : Nat := 0
def ofphfcIncompatible : Nat := 0

def errorMsgSize : Nat := 12

def switchConfigSize : Nat := 12

def nMcGroups : Nat := 16

/-- `ntohs` and `ntohl`: the `w` bytes at `off`, most significant first. -/
def readBe (b : Buf) (off : Nat) : Nat → Nat
  | 0 => 0
  | w + 1 => readBe b off w * 256 + (b (off + w)).toNat

theorem uint8_ofNat_toNat (x : UInt8) : UInt8.ofNat x.toNat = x := by
  simp [UInt8.ofNat, UInt8.toNat]

theorem be_readBe (b : Buf) (off : Nat) :
    ∀ w, be w (readBe b off w) = (List.range w).map fun k => b (off + k)
  | 0 => rfl
  | w + 1 => by
    have hx := UInt8.toNat_lt_size (b (off + w))
    simp only [UInt8.size] at hx
    rw [be, readBe, show (readBe b off w * 256 + (b (off + w)).toNat) / 256 = readBe b off w by
      omega, show (readBe b off w * 256 + (b (off + w)).toNat) % 256 = (b (off + w)).toNat by
      omega, be_readBe b off w, uint8_ofNat_toNat, List.range_succ, List.map_append]
    rfl

theorem Buf.read_add (b : Buf) (n m : Nat) :
    b.read (n + m) = b.read n ++ (List.range m).map fun k => b (n + k) := by
  simp [Buf.read, List.range_add]

theorem Buf.read_write_append (b : Buf) (off : Nat) (bytes : List UInt8) :
    (b.write ⟨off, bytes⟩).read (off + bytes.length) = b.read off ++ bytes := by
  rw [Buf.read_add]
  congr 1
  · exact List.map_congr_left fun k hk => by
      simp [Buf.write, Nat.not_le.2 (List.mem_range.1 hk)]
  · apply List.ext_getElem (by simp)
    intro i h _
    simp at h
    simp [Buf.write, h, List.getD_eq_getElem]

theorem Buf.writeAll_append (b : Buf) (ws ws' : List Write) :
    b.writeAll (ws ++ ws') = (b.writeAll ws).writeAll ws' :=
  List.foldl_append _ _ _ _

def Tiled : Nat → List Write → Prop
  | _, [] => True
  | off, w :: ws => w.off = off ∧ Tiled (off + w.bytes.length) ws

def Write.total (ws : List Write) : Nat := (ws.map fun w => w.bytes.length).sum

theorem read_writeAll_tiled :
    ∀ (ws : List Write) (b : Buf) (off : Nat), Tiled off ws →
      (b.writeAll ws).read (off + Write.total ws) = b.read off ++ (ws.map Write.bytes).flatten
  | [], b, off, _ => by simp [Buf.writeAll, Write.total]
  | ⟨o, bytes⟩ :: ws, b, off, ⟨ho, h⟩ => by
    subst ho
    have ih := read_writeAll_tiled ws (b.write ⟨o, bytes⟩) _ h
    simp only [Write.total, List.map_cons, List.sum_cons, ← Nat.add_assoc] at ih ⊢
    rw [Buf.writeAll, List.foldl_cons, ← Buf.writeAll, ih, Buf.read_write_append]
    simp

/-- The OpenFlow header's stores: `put_openflow_headers`'s, then `resize_openflow_skb`'s length. -/
def headerWrites (m : NlMsg) : List Write :=
  [⟨0, [UInt8.ofNat m.ofVersion]⟩, ⟨1, [UInt8.ofNat m.ofType]⟩, ⟨4, be 4 m.ofXid⟩,
    ⟨2, be 2 m.ofLength⟩]

theorem read_writeAll_headerWrites (b : Buf) (m : NlMsg) :
    (b.writeAll (headerWrites m)).read ofpHeaderLen =
      [UInt8.ofNat m.ofVersion, UInt8.ofNat m.ofType] ++ be 2 m.ofLength ++ be 4 m.ofXid := by
  simp [Buf.writeAll, headerWrites, Buf.write, Buf.read, List.range_succ, be, ofpHeaderLen]

inductive Dest where
  -- `genlmsg_unicast` to the requester's port id.
  | unicast (pid : Nat)
  -- `genlmsg_multicast` to a group.
  | multicast (group : Nat)
  deriving DecidableEq, Repr

/-- `dp_mc_group`; `mcGroupIds` are the ids `dp_init_netlink` got for `mc_groups[]`. -/
def dpMcGroup (mcGroupIds : Nat → Nat) (dpIdx : Nat) : Nat :=
  mcGroupIds (dpIdx &&& (nMcGroups - 1))

/-- `send_openflow_skb`: to the requester, or to the datapath's group when there is none. -/
def sendOpenflowSkb (mcGroupIds : Nat → Nat) (dpIdx : Nat) : Option Sender → Dest
  | some sender => .unicast sender.pid
  | none => .multicast (dpMcGroup mcGroupIds dpIdx)

/-- What `send_openflow_skb` hands over, read up to the header's `length`. -/
structure Sent where
  dest : Dest
  bytes : List UInt8
  deriving DecidableEq, Repr

/-- What a reply gets from outside: group ids, `genlmsg_new`'s tailroom, the send, the old bytes. -/
structure MsgEnv where
  mcGroupIds : Nat → Nat
  room : Option Int
  sendRet : Int
  prior : Buf

/-- A message a reply builds: its length and type, and the stores after the header. -/
structure OfMessage where
  len : Nat
  type : Nat
  body : K (List Write)

/-- `alloc_openflow_skb`, then the builder's stores; `none` when `genlmsg_new` fails. -/
def buildOpenflowSkb (env : MsgEnv) (dpIdx : Nat) (sender : Option Sender) (msg : OfMessage) :
    K (Option (NlMsg × Buf)) := do
  match ← allocOpenflowSkb dpIdx msg.len msg.type sender env.room with
  | none => return none
  | some m =>
    let ws ← msg.body
    return some (m, env.prior.writeAll (headerWrites m ++ ws))

/-- The shape the replies share: the message built, then `send_openflow_skb`. -/
def sendOpenflowMessage (env : MsgEnv) (dpIdx : Nat) (sender : Option Sender)
    (msg : OfMessage) : K (Int × Option Sent) := do
  match ← buildOpenflowSkb env dpIdx sender msg with
  | none => return (-enomem, none)
  | some (_, area) =>
    return (env.sendRet, some ⟨sendOpenflowSkb env.mcGroupIds dpIdx sender, area.read msg.len⟩)

def openflowOffset : Nat := 32

/-- The attribute as the datagram carries it, up to `nla_total_size(len)`: pad included. -/
def openflowDatagram (env : MsgEnv) (dpIdx : Nat) (sender : Option Sender) (msg : OfMessage) :
    K (Option (List UInt8)) := do
  match ← buildOpenflowSkb env dpIdx sender msg with
  | none => return none
  | some (m, area) => return some (area.read (m.nlmsgLen - openflowOffset))

def errorMsg (type code : Nat) (data : List UInt8) : OfMessage :=
  ⟨errorMsgSize + data.length, ofptError,
    pure [⟨8, be 2 type⟩, ⟨10, be 2 code⟩, ⟨errorMsgSize, data⟩]⟩

def dpSendErrorMsg (env : MsgEnv) (dpIdx : Nat) (sender : Option Sender) (type code : Nat)
    (data : List UInt8) : K (Int × Option Sent) :=
  sendOpenflowMessage env dpIdx sender (errorMsg type code data)

/-- `dp_send_echo_reply`'s message; below a header's length the `size_t` copy length wraps. -/
def echoReply (rq : Buf) : OfMessage :=
  let len := readBe rq 2 2
  ⟨len, ofptEchoReply, if len < ofpHeaderLen then .error .badDeref
    else pure [⟨ofpHeaderLen, (List.range (len - ofpHeaderLen)).map fun k => rq (ofpHeaderLen + k)⟩]⟩

def dpSendEchoReply (env : MsgEnv) (dpIdx : Nat) (sender : Option Sender) (rq : Buf) :
    K (Int × Option Sent) :=
  sendOpenflowMessage env dpIdx sender (echoReply rq)

def configReply (dp : Datapath) : OfMessage :=
  ⟨switchConfigSize, ofptGetConfigReply, pure [⟨8, be 2 dp.flags⟩, ⟨10, be 2 dp.missSendLen⟩]⟩

def dpSendConfigReply (env : MsgEnv) (dp : Datapath) (sender : Option Sender) :
    K (Int × Option Sent) :=
  sendOpenflowMessage env dp.dpIdx sender (configReply dp)

def headerMsg (type : Nat) : OfMessage := ⟨ofpHeaderLen, type, pure []⟩

def dpSendBarrierReply (env : MsgEnv) (dpIdx : Nat) (sender : Option Sender) :
    K (Int × Option Sent) :=
  sendOpenflowMessage env dpIdx sender (headerMsg ofptBarrierReply)

def hex02 (v : Nat) : List Char := [Nat.digitChar (v / 16 % 16), Nat.digitChar (v % 16)]

def helloFailedText : List UInt8 :=
  ("Only version 0x".toList ++ hex02 ofpVersion ++ " supported".toList).map fun c =>
    UInt8.ofNat c.toNat

example : helloFailedText = "Only version 0x01 supported".toList.map fun c => UInt8.ofNat c.toNat := by
  decide

/-- `dp_send_hello`: an older version gets the error and `-EINVAL` whatever the send does. -/
def dpSendHello (env : MsgEnv) (dpIdx : Nat) (sender : Option Sender) (version : Nat) :
    K (Int × Option Sent) :=
  if version < ofpVersion then do
    let (_, sent) ← dpSendErrorMsg env dpIdx sender ofpetHelloFailed ofphfcIncompatible
      helloFailedText
    return (-einval, sent)
  else sendOpenflowMessage env dpIdx sender (headerMsg ofptHello)

/-- The messages the reply builders send. -/
inductive ReplyMsg : OfMessage → Prop
  | error (type code : Nat) (data : List UInt8) : ReplyMsg (errorMsg type code data)
  | echo (rq : Buf) : ofpHeaderLen ≤ readBe rq 2 2 → ReplyMsg (echoReply rq)
  | config (dp : Datapath) : ReplyMsg (configReply dp)
  | hello : ReplyMsg (headerMsg ofptHello)
  | barrier : ReplyMsg (headerMsg ofptBarrierReply)

theorem coveredBy_append (sps sps' : List (Nat × Nat)) (k : Nat) :
    coveredBy (sps ++ sps') k = (coveredBy sps k || coveredBy sps' k) :=
  List.any_append

theorem coveredBy_tiled : ∀ {off : Nat} {ws : List Write}, Tiled off ws →
    ∀ {k : Nat}, off + Write.total ws ≤ k → coveredBy (ws.map Write.span) k = false
  | _, [], _, _, _ => rfl
  | off, w :: ws, ⟨ho, h⟩, k, hk => by
    simp only [Write.total, List.map_cons, List.sum_cons] at hk
    rw [List.map_cons, coveredBy_cons, coveredBy_tiled h (by simp only [Write.total]; omega),
      Bool.or_false, Write.span, ho]
    simp only [Bool.and_eq_false_iff, decide_eq_false_iff_not]
    omega

theorem coveredBy_headerWrites (m : NlMsg) {k : Nat} (hk : ofpHeaderLen ≤ k) :
    coveredBy ((headerWrites m).map Write.span) k = false := by
  simp only [headerWrites, List.map_cons, List.map_nil, coveredBy_cons, Write.span,
    List.length_singleton, be_length, ofpHeaderLen] at hk ⊢
  simp only [coveredBy, List.any_nil, Bool.or_false, Bool.or_eq_false_iff, Bool.and_eq_false_iff,
    decide_eq_false_iff_not]
  omega

theorem ReplyMsg.tiled {msg : OfMessage} (h : ReplyMsg msg) :
    ∃ ws, msg.body = .ok ws ∧ Tiled ofpHeaderLen ws ∧ ofpHeaderLen + Write.total ws = msg.len := by
  cases h with
  | error type code data =>
    refine ⟨_, rfl, ⟨rfl, rfl, rfl, trivial⟩, ?_⟩
    simp [Write.total, errorMsg, errorMsgSize, ofpHeaderLen]
    omega
  | echo rq hlen =>
    refine ⟨_, if_neg (Nat.not_lt.2 hlen), ⟨rfl, trivial⟩, ?_⟩
    simp only [Write.total, List.map_cons, List.length_map, List.length_range, List.map_nil,
      List.sum_cons, List.sum_nil, echoReply]
    omega
  | config dp => exact ⟨_, rfl, ⟨rfl, rfl, trivial⟩, rfl⟩
  | hello => exact ⟨[], rfl, trivial, rfl⟩
  | barrier => exact ⟨[], rfl, trivial, rfl⟩

theorem read_writeAll_message (b : Buf) (m : NlMsg) {ws : List Write}
    (htiled : Tiled ofpHeaderLen ws) :
    (b.writeAll (headerWrites m ++ ws)).read (ofpHeaderLen + Write.total ws) =
      [UInt8.ofNat m.ofVersion, UInt8.ofNat m.ofType] ++ be 2 m.ofLength ++ be 4 m.ofXid ++
        (ws.map Write.bytes).flatten := by
  rw [Buf.writeAll_append, read_writeAll_tiled _ _ _ htiled, read_writeAll_headerWrites]

theorem buildOpenflowSkb_ok {env : MsgEnv} {t : Int} (hroom : env.room = some t)
    {msg : OfMessage} {ws : List Write} (hbody : msg.body = .ok ws)
    (ht : genlmsgNewSize (genlLen msg.len) ≤ t) (hwrap : t < 65564) (dpIdx : Nat)
    (sender : Option Sender) :
    ∃ m, buildOpenflowSkb env dpIdx sender msg =
        .ok (some (m, env.prior.writeAll (headerWrites m ++ ws))) ∧
      (m.nlmsgLen : Int) = openflowOffset + align4 msg.len ∧ m.ofVersion = ofpVersion ∧
      m.ofType = msg.type ∧ m.ofXid = (sender.map (·.xid)).getD 0 ∧ m.ofLength = msg.len := by
  have hn : msg.len + ofpHeaderLen ≤ uint16Max := by
    rw [genlmsgNewSize_genlLen] at ht
    simp only [align4, ofpHeaderLen, uint16Max] at ht ⊢
    omega
  obtain ⟨m, halloc, -, hml, hnl, hver, htype, hxid, hofl⟩ :=
    allocOpenflowSkb_ok hn ht hwrap dpIdx msg.type sender
  refine ⟨m, by simp only [buildOpenflowSkb, hroom, halloc, hbody, ok_bind]; rfl, ?_, hver, htype,
    hxid, hofl⟩
  rw [hnl, hml]
  simp only [nlaTotalSize, align4, nlaHdrlen, openflowOffset]
  omega

theorem sendOpenflowMessage_sent {env : MsgEnv} {t : Int} (hroom : env.room = some t)
    {msg : OfMessage} {ws : List Write} (hbody : msg.body = .ok ws) (htiled : Tiled ofpHeaderLen ws)
    (hlen : ofpHeaderLen + Write.total ws = msg.len)
    (ht : genlmsgNewSize (genlLen msg.len) ≤ t) (hwrap : t < 65564) (dpIdx : Nat)
    (sender : Option Sender) :
    sendOpenflowMessage env dpIdx sender msg =
      .ok (env.sendRet, some ⟨sendOpenflowSkb env.mcGroupIds dpIdx sender,
        [UInt8.ofNat ofpVersion, UInt8.ofNat msg.type] ++ be 2 msg.len ++
          be 4 ((sender.map (·.xid)).getD 0) ++ (ws.map Write.bytes).flatten⟩) := by
  obtain ⟨m, hbuild, -, hver, htype, hxid, hofl⟩ :=
    buildOpenflowSkb_ok hroom hbody ht hwrap dpIdx sender
  simp only [sendOpenflowMessage, hbuild, ok_bind, ← hlen, read_writeAll_message _ _ htiled]
  rw [hver, htype, hxid, hofl, hlen]
  rfl

theorem openflowDatagram_ok {env : MsgEnv} {t : Int} (hroom : env.room = some t)
    {msg : OfMessage} {ws : List Write} (hbody : msg.body = .ok ws) (htiled : Tiled ofpHeaderLen ws)
    (hlen : ofpHeaderLen + Write.total ws = msg.len)
    (ht : genlmsgNewSize (genlLen msg.len) ≤ t) (hwrap : t < 65564) (dpIdx : Nat)
    (sender : Option Sender) :
    openflowDatagram env dpIdx sender msg = .ok (some
      ([UInt8.ofNat ofpVersion, UInt8.ofNat msg.type] ++ be 2 msg.len ++
          be 4 ((sender.map (·.xid)).getD 0) ++ (ws.map Write.bytes).flatten ++
        (List.range ((4 - msg.len % 4) % 4)).map fun k => env.prior (msg.len + k))) := by
  obtain ⟨m, hbuild, hnl, hver, htype, hxid, hofl⟩ :=
    buildOpenflowSkb_ok hroom hbody ht hwrap dpIdx sender
  have hpad : m.nlmsgLen - openflowOffset = msg.len + (4 - msg.len % 4) % 4 := by
    simp only [align4, openflowOffset] at hnl ⊢
    omega
  simp only [openflowDatagram, hbuild, ok_bind, hpad, Buf.read_add]
  rw [← hlen, read_writeAll_message _ _ htiled, hver, htype, hxid, hofl, hlen]
  -- nothing stores past the message
  congr 3
  refine List.map_congr_left fun k _ => writeAll_of_not_covered _ ?_ _
  rw [List.map_append, coveredBy_append, coveredBy_headerWrites m (by omega),
    coveredBy_tiled htiled (by omega), Bool.or_false]

/-- An echo reply is the request's first `length` bytes, version and type rewritten. -/
theorem dpSendEchoReply_echoes {env : MsgEnv} {t : Int} (hroom : env.room = some t) {rq : Buf}
    (hlen : ofpHeaderLen ≤ readBe rq 2 2) (ht : genlmsgNewSize (genlLen (readBe rq 2 2)) ≤ t)
    (hwrap : t < 65564) (dpIdx : Nat) {sender : Sender} (hxid : sender.xid = readBe rq 4 4) :
    dpSendEchoReply env dpIdx (some sender) rq = .ok (env.sendRet, some ⟨.unicast sender.pid,
      [UInt8.ofNat ofpVersion, UInt8.ofNat ofptEchoReply] ++ (rq.read (readBe rq 2 2)).drop 2⟩) := by
  obtain ⟨ws, hbody, htiled, hws⟩ := (ReplyMsg.echo rq hlen).tiled
  rw [dpSendEchoReply, sendOpenflowMessage_sent hroom hbody htiled hws ht hwrap dpIdx (some sender)]
  simp only [echoReply, if_neg (Nat.not_lt.2 hlen), pure, Except.pure, Except.ok.injEq] at hbody
  subst hbody
  simp only [echoReply, Option.map_some', Option.getD_some, hxid, be_readBe]
  -- the request's first `length` bytes are its header and the copied payload
  rw [← Nat.add_sub_cancel' hlen, Buf.read_add]
  simp [Buf.read, List.range_succ, ofpHeaderLen, sendOpenflowSkb]

def demoMsgEnv : MsgEnv := ⟨fun _ => 0, some 100, 0, fun _ => 0⟩

def demoEchoRequest : Buf := fun k => [1, 2, 0, 10, 0, 0, 0, 7, 0xab, 0xcd].getD k 0

theorem echo_demo :
    demoMsgEnv.room = some 100 ∧ ofpHeaderLen ≤ readBe demoEchoRequest 2 2 ∧
      genlmsgNewSize (genlLen (readBe demoEchoRequest 2 2)) ≤ 100 ∧ (100 : Int) < 65564 ∧
      (⟨7, 1, 1⟩ : Sender).xid = readBe demoEchoRequest 4 4 ∧
      dpSendEchoReply demoMsgEnv 0 (some ⟨7, 1, 1⟩) demoEchoRequest =
        .ok (demoMsgEnv.sendRet, some ⟨.unicast (⟨7, 1, 1⟩ : Sender).pid,
          [UInt8.ofNat ofpVersion, UInt8.ofNat ofptEchoReply] ++
            (demoEchoRequest.read (readBe demoEchoRequest 2 2)).drop 2⟩) :=
  ⟨rfl, by decide, by decide, by decide, rfl,
    dpSendEchoReply_echoes rfl (by decide) (by decide) (by decide) 0 rfl⟩

example : dpSendEchoReply demoMsgEnv 0 (some ⟨7, 1, 1⟩) demoEchoRequest =
    .ok (0, some ⟨.unicast 1, [1, 3, 0, 10, 0, 0, 0, 7, 0xab, 0xcd]⟩) := rfl

/-- A reply's message ignores the old buffer; its datagram ends with 0 to 3 bytes of it. -/
theorem reply_datagram_pad {msg : OfMessage} (hmsg : ReplyMsg msg) {env : MsgEnv} {t : Int}
    (hroom : env.room = some t) (ht : genlmsgNewSize (genlLen msg.len) ≤ t) (hwrap : t < 65564)
    (dpIdx : Nat) (sender : Option Sender) :
    ∃ bytes, (∀ b, sendOpenflowMessage { env with prior := b } dpIdx sender msg =
        .ok (env.sendRet, some ⟨sendOpenflowSkb env.mcGroupIds dpIdx sender, bytes⟩)) ∧
      ∀ b, openflowDatagram { env with prior := b } dpIdx sender msg =
        .ok (some (bytes ++ (List.range ((4 - msg.len % 4) % 4)).map fun k => b (msg.len + k))) := by
  obtain ⟨ws, hbody, htiled, hlen⟩ := hmsg.tiled
  have hroom' : ∀ b, ({ env with prior := b } : MsgEnv).room = some t := fun _ => hroom
  exact ⟨_, fun b => sendOpenflowMessage_sent (hroom' b) hbody htiled hlen ht hwrap dpIdx sender,
    fun b => openflowDatagram_ok (hroom' b) hbody htiled hlen ht hwrap dpIdx sender⟩

theorem helloFailed_datagram :
    ReplyMsg (errorMsg ofpetHelloFailed ofphfcIncompatible helloFailedText) ∧
      demoMsgEnv.room = some 100 ∧
      genlmsgNewSize (genlLen (errorMsg ofpetHelloFailed ofphfcIncompatible helloFailedText).len)
        ≤ 100 ∧ (100 : Int) < 65564 ∧
      ∃ bytes, (∀ b, sendOpenflowMessage { demoMsgEnv with prior := b } 0 none
          (errorMsg ofpetHelloFailed ofphfcIncompatible helloFailedText) =
            .ok (demoMsgEnv.sendRet, some ⟨sendOpenflowSkb demoMsgEnv.mcGroupIds 0 none, bytes⟩)) ∧
        ∀ b, openflowDatagram { demoMsgEnv with prior := b } 0 none
          (errorMsg ofpetHelloFailed ofphfcIncompatible helloFailedText) =
            .ok (some (bytes ++ (List.range
              ((4 - (errorMsg ofpetHelloFailed ofphfcIncompatible helloFailedText).len % 4) % 4)).map
                fun k => b ((errorMsg ofpetHelloFailed ofphfcIncompatible helloFailedText).len + k))) :=
  ⟨.error _ _ _, rfl, by decide, by decide,
    reply_datagram_pad (.error _ _ _) rfl (by decide) (by decide) 0 none⟩

example : (errorMsg ofpetHelloFailed ofphfcIncompatible helloFailedText).len = 39 := by decide

end OpenflowDatapath
