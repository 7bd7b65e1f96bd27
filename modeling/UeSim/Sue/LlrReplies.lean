import UeSim.Sue.SourceRewriting

/-!
# Where the answers of a switch port go

A switch port answers a data packet with a control frame, whatever way the packet has come,
and sends each of them to its peer.  So the answer to a packet that another port of the
switch has forwarded is processed by the network card behind the port, and not by the manager
that keeps a copy of the packet.
-/

namespace UeSim

open NetworkOrder SuePacketUtils

/-- `IsGroup`. -/
def Mac48Address.isGroup (mac : Mac48Address) : Bool := mac.b0 &&& 0x01 = 0x01

/-! ## Control frames of a switch port -/

namespace LlrReply

/-- The kind of the control frame. -/
def kind : LlrReply → FrameKind
  | .ack _ => .ack
  | .nack _ => .nack

/-- The protocol of the control frame. -/
def protocol : LlrReply → UInt16
  | .ack _ => ackRev
  | .nack _ => nackRev

/-- The number that it carries. -/
def seq : LlrReply → ℕ
  | .ack seq => seq
  | .nack seq => seq

end LlrReply

/-- Where a control frame is sent: to the peer over the link, or to another port of the
node. -/
inductive ControlDelivery
  | toPeer (p : MarkedPacket)
  | toPort (mac : Mac48Address) (p : MarkedPacket)

/-- Where a manager keeps a packet that it has sent: the manager of a network card, or that
of the switch, through which its ports forward packets to one another. -/
inductive LlrStore
  | card (mac : Mac48Address) (vcId : UInt8)
  | forwarding (mac : Mac48Address) (vcId : UInt8)
  deriving DecidableEq, Repr

/-- What meets a control frame on its way to the peer. -/
structure ReplyPath where
  asserts : Bool := false
  linkUp : Bool := true
  queueAccepts : Bool := true
  corrupt : Bool := false

namespace LlrPort

/-- The control frame of `SendLlrAck` or `SendLlrNack`. -/
def sendLlr (d : LlrPort) (now : ℤ) (vcId : UInt8) (mac : Mac48Address) (reply : LlrReply) :
    MarkedPacket where
  bytes := ({ destination := mac, source := d.localMac, kind := reply.kind } : SueFrame).bytes vcId
  tag := some { timestamp := now, sequence := UInt32.ofNat reply.seq }

/-- `FindDeviceAndSend`. -/
def findDeviceAndSend (d : LlrPort) (p : MarkedPacket) (targetMac : Mac48Address) :
    List ControlDelivery :=
  if targetMac = d.peerMac then [.toPeer p]
  else
    (d.devices.filter fun mac => mac = targetMac).map fun mac =>
      .toPort mac { p with bytes := pppBytes protCbfcUpdate ++ p.bytes }

/-- `LlrSwitchPortManager::SendControlPacket`. -/
def sendControlPacket (d : LlrPort) (p : MarkedPacket) : List ControlDelivery :=
  if d.peerMac.isGroup then [] else d.findDeviceAndSend p d.peerMac

end LlrPort

/-- `ProcessLlrAck` and `ProcessLlrNack` of a network card, as far as they read the frame
that `Receive` gives to one of them by its PPP header. -/
def readReply (numVcs : UInt8) (p : MarkedPacket) : Option (UInt8 × LlrReply) :=
  p.tag.bind fun tag => (removePpp p.bytes).bind fun ppp => (removeCbfc ppp.2).bind fun cbfc =>
    if numVcs ≤ cbfc.1.vcId then none
    else if ppp.1 = etherToPpp ackRev then some (cbfc.1.vcId, .ack tag.sequence.toNat)
    else if ppp.1 = etherToPpp nackRev then some (cbfc.1.vcId, .nack tag.sequence.toNat)
    else none

namespace LlrPort

/-- What becomes of a control frame: the peer reads an answer from it, and another port takes
it for a credit update. -/
def deliver (path : ReplyPath) (d : LlrPort) (now : ℤ) :
    ControlDelivery → Option (LlrStore × LlrReply)
  | .toPort _ _ => none
  | .toPeer p =>
      if path.linkUp ∧ path.queueAccepts then
        (transmitStart path.asserts d.localMac now p).bind fun t =>
          if path.corrupt then none
          else (readReply d.numVcs t.packet).map fun x => (.card d.peerMac x.1, x.2)
      else none

/-- The packets that are answered for, where an answer is processed. -/
def answeredAt (path : ReplyPath) (d : LlrPort) (now : ℤ) (vcId : UInt8) (mac : Mac48Address)
    (reply : LlrReply) : List (LlrStore × LlrReply) :=
  (d.sendControlPacket (d.sendLlr now vcId mac reply)).filterMap (d.deliver path now)

end LlrPort

/-! ## What should hold -/

namespace DataArrival

/-- The virtual channel with which a packet comes to `LlrReceivePacket`. -/
def llrVcId (a : DataArrival) (vcId : UInt8) : Option UInt8 :=
  (a.readFrom vcId).bind extractVcIdFromPacket

/-- Where the manager that sent a packet keeps it: its virtual channel was read from the
packet without a PPP header. -/
def keptAt (d : LlrPort) (a : DataArrival) (vcId : UInt8) : Option LlrStore :=
  (extractVcIdFromPacket
    (({ a.frame with kind := .data false a.contents } : SueFrame).bytes vcId)).map fun v =>
      match a.entry with
      | .receive => .card d.peerMac v
      | .enqueueToVcQueue _ => .forwarding d.localMac v

/-- A packet comes to the manager of a switch port, whose peer is a network card, on a virtual
channel that it has. -/
structure ComesToPort (d : LlrPort) (a : DataArrival) (vcId v : UInt8) : Prop where
  port : d.localMac.isSwitchDevice = true
  card : d.peerMac.isSwitchDevice = false
  enters : a.entersLlr vcId = true
  channel : a.llrVcId vcId = some v
  served : v < d.numVcs

/-- The packet is answered, and the answer is processed where the packet is kept. -/
def AnswersSender (path : ReplyPath) (d : LlrPort) (a : DataArrival) (vcId : UInt8) : Prop :=
  ∀ v, ComesToPort d a vcId v → ∀ mac bytes, a.passed vcId = some (mac, bytes) →
    ∀ m : LlrSwitchPortManager (List UInt8), (LlrManager.traffic d.lanes).Reachable m →
      m.llrEnabled = true → m.numVcs = d.numVcs → ∀ (now : ℤ) (seq : UInt32),
        ∃ reply store, (m.initializeLlr d.localMac d.peerMac d.devices).answer (mac, v)
            seq.toNat = some reply ∧
          keptAt d a vcId = some store ∧ d.answeredAt path now v mac reply = [(store, reply)]

/-- A control frame gets to the peer: nothing stands in its way, and assertions, of which the
transmission fails one, are not compiled in. -/
structure Carries (path : ReplyPath) (d : LlrPort) : Prop where
  asserts : path.asserts = false
  linkUp : path.linkUp = true
  queueAccepts : path.queueAccepts = true
  corrupt : path.corrupt = false
  peer : d.peerMac.isGroup = false

/-- When a packet that comes to the manager is answered where it is kept: it has come over
the link, and the port has lanes for the address that it reads two bytes off. -/
def ComesFromCard (path : ReplyPath) (d : LlrPort) (a : DataArrival) (vcId : UInt8) : Prop :=
  ∀ v, ComesToPort d a vcId v → a.entry = .receive ∧
    a.source.shifted ∈ LlrSwitchPortManager.knownMacs d.localMac d.peerMac d.devices ∧
    Carries path d

end DataArrival

/-! ## The way of an answer -/

namespace LlrPort

variable {path : ReplyPath} {d : LlrPort} {now : ℤ} {v : UInt8} {mac : Mac48Address}
variable {reply : LlrReply}

/-- What a switch port transmits of its answer: its beginning, up to the credit header, is
left as it is. -/
theorem transmitStart_sendLlr (hport : d.localMac.isSwitchDevice = true) (now : ℤ)
    (v : UInt8) (mac : Mac48Address) (reply : LlrReply) :
    transmitStart true d.localMac now (d.sendLlr now v mac reply) = none ∧
      ∃ t rest, transmitStart false d.localMac now (d.sendLlr now v mac reply) = some t ∧
        t.packet.bytes = pppBytes reply.protocol ++ (v :: 0 :: rest) ∧
        t.packet.tag = (d.sendLlr now v mac reply).tag := by
  have hframe : (d.sendLlr now v mac reply).bytes = SueFrame.controlBytes
      { destination := mac, source := d.localMac, kind := reply.kind } reply.protocol ⟨v, 0⟩ := by
    cases reply <;> rfl
  have hzero : etherToPpp reply.protocol ≠ 0 := by cases reply <;> exact of_decide_eq_true rfl
  have hcredit : etherToPpp reply.protocol ≠ 0x00FB := by
    cases reply <;> exact of_decide_eq_true rfl
  obtain ⟨q, hq⟩ : ∃ q : QueuedFrame, q.frame =
      { destination := mac, source := d.localMac, kind := reply.kind } := by
    cases reply <;> exact ⟨⟨_, v, rfl⟩, rfl⟩
  obtain ⟨h, -, hbytes⟩ := q.controlBytes_eq reply.protocol ⟨v, 0⟩
  rw [hq] at hbytes
  have hnone := SueFrame.extractVcIdFromPacket_controlBytes
    { destination := mac, source := d.localMac, kind := reply.kind } hzero hcredit ⟨v, 0⟩
  have hstart : h.destination.b0 = v ∧ h.destination.b1 = 0 := by
    have hbehind := List.append_cancel_left hbytes
    obtain ⟨hfirst, hrest⟩ := List.cons.inj hbehind
    exact ⟨hfirst.symm, (List.cons.inj hrest).1.symm⟩
  rw [← hframe] at hbytes hnone
  have hpacket : d.sendLlr now v mac reply =
      ⟨pppBytes reply.protocol ++ (h.serialize ++ [0x08, 0x00]),
        (d.sendLlr now v mac reply).tag⟩ := by
    rw [← hbytes]
  constructor
  · have hppp : removePpp (d.sendLlr now v mac reply).bytes =
        some (etherToPpp reply.protocol, h.serialize ++ [0x08, 0x00]) := by
      rw [hbytes]
      exact removePpp_pppBytes _ _
    rw [transmitStart_port hport now hppp, if_pos hcredit, if_pos ⟨rfl, hnone⟩]
  · have htwo : (h.setSource d.localMac).serialize ++ [0x08, 0x00] =
        v :: 0 :: ((h.setSource d.localMac).serialize ++ [0x08, 0x00]).drop 2 :=
      congrArg₂ (fun x y => x :: y :: _) hstart.1 hstart.2
    rw [hpacket]
    refine ⟨_, ((h.setSource d.localMac).serialize ++ [0x08, 0x00]).drop 2,
      transmitStart_rewrites hport now _ hcredit h _
        fun hasserts => absurd hasserts Bool.false_ne_true, ?_, rfl⟩
    exact congrArg (pppBytes reply.protocol ++ ·) htwo

/-- The peer reads an answer from a control frame. -/
theorem readReply_eq {numVcs : UInt8} {p : MarkedPacket} {rest : List UInt8}
    (hbytes : p.bytes = pppBytes reply.protocol ++ (v :: 0 :: rest))
    (htag : p.tag = (d.sendLlr now v mac reply).tag) (hseq : reply.seq < 2 ^ 32)
    (hv : v < numVcs) : readReply numVcs p = some (v, reply) := by
  have hnumber : (UInt32.ofNat reply.seq).toNat = reply.seq := UInt32.toNat_ofNat_of_lt' hseq
  unfold readReply
  rw [htag, hbytes]
  unfold sendLlr
  rw [Option.bind_some, removePpp_pppBytes, Option.bind_some]
  have hcbfc : removeCbfc (v :: 0 :: rest) = some (⟨v, 0⟩, rest) := rfl
  rw [hcbfc, Option.bind_some, if_neg (UInt8.not_le.mpr hv), hnumber]
  cases reply <;> rfl

/-- An answer that gets to the peer is processed by it. -/
theorem answeredAt_of_carries (hcarries : DataArrival.Carries path d)
    (hport : d.localMac.isSwitchDevice = true) (hv : v < d.numVcs) (hseq : reply.seq < 2 ^ 32)
    (now : ℤ) (mac : Mac48Address) :
    d.answeredAt path now v mac reply = [(.card d.peerMac v, reply)] := by
  obtain ⟨-, t, rest, ht, hbytes, htag⟩ := transmitStart_sendLlr hport now v mac reply
  have hdelivered : d.deliver path now (.toPeer (d.sendLlr now v mac reply)) =
      some (.card d.peerMac v, reply) := by
    unfold deliver
    dsimp only
    rw [if_pos ⟨hcarries.linkUp, hcarries.queueAccepts⟩, hcarries.asserts, ht, Option.bind_some,
      hcarries.corrupt, if_neg Bool.false_ne_true, readReply_eq hbytes htag hseq hv]
    rfl
  have hsent : d.sendControlPacket (d.sendLlr now v mac reply) =
      [.toPeer (d.sendLlr now v mac reply)] := by
    unfold sendControlPacket findDeviceAndSend
    rw [hcarries.peer, if_neg Bool.false_ne_true, if_pos rfl]
  unfold answeredAt
  rw [hsent, List.filterMap_cons_some hdelivered]
  rfl

/-- Only the peer processes an answer, and only if it gets there. -/
theorem carries_of_mem_answeredAt {x : LlrStore × LlrReply}
    (hport : d.localMac.isSwitchDevice = true)
    (hx : x ∈ d.answeredAt path now v mac reply) :
    DataArrival.Carries path d ∧ ∃ vcId, x.1 = .card d.peerMac vcId := by
  obtain ⟨delivery, hdelivery, hdelivered⟩ := List.mem_filterMap.mp hx
  unfold sendControlPacket findDeviceAndSend at hdelivery
  rw [if_pos rfl] at hdelivery
  cases hgroup : d.peerMac.isGroup with
  | true =>
      rw [hgroup, if_pos rfl] at hdelivery
      cases hdelivery
  | false =>
      rw [hgroup, if_neg Bool.false_ne_true, List.mem_singleton] at hdelivery
      subst hdelivery
      unfold deliver at hdelivered
      dsimp only at hdelivered
      by_cases hup : path.linkUp = true ∧ path.queueAccepts = true
      · rw [if_pos hup] at hdelivered
        obtain ⟨t, ht, hread⟩ := Option.bind_eq_some_iff.mp hdelivered
        cases hasserts : path.asserts with
        | true =>
            rw [hasserts, (transmitStart_sendLlr hport now v mac reply).1] at ht
            cases ht
        | false =>
            cases hcorrupt : path.corrupt with
            | true =>
                rw [hcorrupt, if_pos rfl] at hread
                cases hread
            | false =>
                rw [hcorrupt, if_neg Bool.false_ne_true] at hread
                obtain ⟨y, -, rfl⟩ := Option.map_eq_some_iff.mp hread
                exact ⟨⟨hasserts, hup.1, hup.2, hcorrupt, hgroup⟩, y.1, rfl⟩
      · rw [if_neg hup] at hdelivered
        cases hdelivered

end LlrPort

/-! ## Which packets are answered where they are kept -/

namespace DataArrival

open LlrSwitchPortManager

variable {path : ReplyPath} {d : LlrPort} {a : DataArrival} {vcId v : UInt8}
variable {mac : Mac48Address}

/-- A packet from the link is read as it was before it got its PPP header. -/
theorem keptAt_receive (hentry : a.entry = .receive) :
    keptAt d a vcId = (a.llrVcId vcId).map (.card d.peerMac) := by
  have hread : a.readFrom vcId =
      some (({ a.frame with kind := .data false a.contents } : SueFrame).bytes vcId) :=
    readFrom_receive hentry vcId
  unfold keptAt llrVcId
  rw [hread, Option.bind_some, hentry]

/-- The address with which a packet comes to the manager can always be read. -/
theorem exists_passed (a : DataArrival) (vcId : UInt8) :
    ∃ mac bytes, a.passed vcId = some (mac, bytes) := by
  cases hentry : a.entry with
  | receive =>
      obtain ⟨bytes, -, hpassed⟩ := passed_receive hentry vcId
      exact ⟨_, bytes, hpassed⟩
  | enqueueToVcQueue ppp =>
      cases ppp with
      | true =>
          obtain ⟨bytes, -, hpassed⟩ := passed_enqueue_ppp hentry vcId
          exact ⟨_, bytes, hpassed⟩
      | false =>
          obtain ⟨bytes, -, hpassed⟩ := passed_enqueue_bare hentry vcId
          exact ⟨_, bytes, hpassed⟩

/-- The lane from which a port answers. -/
theorem answer_eq {m : LlrSwitchPortManager (List UInt8)} (henabled : m.llrEnabled = true)
    (hnumVcs : m.numVcs = d.numVcs) (hv : v < d.numVcs) (seq : ℕ) :
    (m.initializeLlr d.localMac d.peerMac d.devices).answer (mac, v) seq =
      ((m.initializeLlr d.localMac d.peerMac d.devices).lanes.lookup (mac, v)).map
        fun lane => lane.reply seq := by
  have hserves : (m.initializeLlr d.localMac d.peerMac d.devices).serves v = true := by
    unfold initializeLlr LlrManager.serves
    rw [LlrManager.llrEnabled_openLanes, LlrManager.numVcs_openLanes, henabled, hnumVcs]
    exact decide_eq_true hv
  unfold LlrManager.answer
  exact if_pos hserves

/-- A number in an answer has 32 bits if that of the packet has. -/
theorem seq_reply_le {α : Type} (lane : LlrLane α) (seq : ℕ) : (lane.reply seq).seq ≤ seq := by
  unfold LlrLane.reply
  split_ifs with hahead
  · exact hahead.le
  · exact le_rfl

/-- The answers of a port reach the managers that keep the packets exactly when the packets
come from its network card, and are taken for packets of an address that it knows. -/
theorem answersSender_iff_comesFromCard (path : ReplyPath) (d : LlrPort) (a : DataArrival)
    (vcId : UInt8) : AnswersSender path d a vcId ↔ ComesFromCard path d a vcId := by
  constructor
  · intro hanswers v hcomes
    obtain ⟨mac, bytes, hpassed⟩ := a.exists_passed vcId
    -- a manager without lanes: those that it answers from are made by its initialization
    obtain ⟨reply, store, hanswer, hkept, hat⟩ :=
      hanswers v hcomes mac bytes hpassed { numVcs := d.numVcs } (.init rfl) rfl rfl 0 0
    have hmem : (store, reply) ∈ d.answeredAt path 0 v mac reply := by
      rw [hat]
      exact List.mem_singleton.mpr rfl
    obtain ⟨hcarries, v', hcard⟩ := LlrPort.carries_of_mem_answeredAt hcomes.port hmem
    have hentry : a.entry = .receive := by
      cases hentry : a.entry with
      | receive => rfl
      | enqueueToVcQueue ppp =>
          unfold keptAt at hkept
          rw [hentry] at hkept
          obtain ⟨w, -, hforwarding⟩ := Option.map_eq_some_iff.mp hkept
          cases hforwarding.trans hcard
    refine ⟨hentry, ?_, hcarries⟩
    obtain ⟨bytes', -, hpassed'⟩ := passed_receive hentry vcId
    cases hpassed.symm.trans hpassed'
    rw [answer_eq rfl rfl hcomes.served] at hanswer
    obtain ⟨lane, hlane, -⟩ := Option.map_eq_some_iff.mp hanswer
    by_contra hmac
    unfold initializeLlr at hlane
    rw [LlrManager.lookup_openLanes, if_neg fun hkey => hmac (mem_portLanes.mp hkey).1] at hlane
    cases hlane
  · intro hcard v hcomes mac bytes hpassed m _ henabled hnumVcs now seq
    obtain ⟨hentry, hmac, hcarries⟩ := hcard v hcomes
    obtain ⟨bytes', -, hpassed'⟩ := passed_receive hentry vcId
    cases hpassed.symm.trans hpassed'
    obtain ⟨lane, hlane⟩ : ∃ lane, (m.initializeLlr d.localMac d.peerMac d.devices).lanes.lookup
        (a.source.shifted, v) = some lane := by
      unfold initializeLlr
      rw [LlrManager.lookup_openLanes, if_pos]
      · exact ⟨_, rfl⟩
      · refine mem_portLanes.mpr ⟨hmac, ?_⟩
        rw [hnumVcs]
        exact hcomes.served
    have hnumber : (lane.reply seq.toNat).seq < 2 ^ 32 :=
      lt_of_le_of_lt (seq_reply_le lane seq.toNat) seq.toNat_lt
    refine ⟨lane.reply seq.toNat, .card d.peerMac v, ?_, ?_, ?_⟩
    · rw [answer_eq henabled hnumVcs hcomes.served, hlane]
      rfl
    · rw [keptAt_receive hentry, hcomes.channel]
      rfl
    · exact LlrPort.answeredAt_of_carries hcarries hcomes.port hcomes.served hnumber now _

/-- A transaction that another port of the switch has forwarded to the first one. -/
def forwarded : DataArrival where
  entry := .enqueueToVcQueue true
  destination := { b5 := 1 }
  source := { b5 := 4 }
  contents := SueFrame.transaction

theorem comesToPort_forwarded : ComesToPort firstPort forwarded 0 0 where
  port := rfl
  card := rfl
  enters := by decide
  channel := by decide
  served := by decide

/-- The packet that another port has forwarded is kept by the manager of the switch, but the
network card processes the answer, even if nothing meets it on its way. -/
theorem not_answersSender_forwarded :
    keptAt firstPort forwarded 0 = some (.forwarding { b5 := 2 } 0) ∧
      firstPort.answeredAt {} 0 0 { b5 := 4 } (.ack 0) = [(.card { b5 := 1 } 0, .ack 0)] ∧
      ¬AnswersSender {} firstPort forwarded 0 := by
  have hkept : keptAt firstPort forwarded 0 = some (.forwarding { b5 := 2 } 0) := by decide
  have hack : firstPort.answeredAt {} 0 0 { b5 := 4 } (.ack 0) =
      [(.card { b5 := 1 } 0, .ack 0)] := by decide
  refine ⟨hkept, hack, fun hanswers => ?_⟩
  obtain ⟨bytes, -, hpassed⟩ := passed_enqueue_ppp (a := forwarded) rfl 0
  obtain ⟨reply, store, hanswer, hstore, hat⟩ :=
    hanswers 0 comesToPort_forwarded _ bytes hpassed { numVcs := 4 } (.init rfl) rfl rfl 0 0
  have hreply : reply = .ack 0 := Option.some.inj (hanswer.symm.trans (by decide))
  subst hreply
  rw [hkept] at hstore
  cases hstore
  exact absurd (hat.symm.trans hack) (by decide)

end DataArrival

end UeSim
