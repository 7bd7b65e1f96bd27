import UeSim.Sue.FrameSources

/-!
# Rewriting the source of frames

A switch port puts its own address for the source of a frame when it transmits it, so that
its peer returns credits to it, and returns credits itself to the source that was there.
It does so for every frame but credit updates, and always at the place that the source has
in a data packet.
-/

namespace UeSim

open NetworkOrder SuePacketUtils

/-! ## Transmission -/

/-- `SueTag`, with its times in nanoseconds. -/
structure SueTag where
  timestamp : ℤ := 0
  sequence : UInt32 := 0
  linkType : UInt8 := 0
  vcQueueEnqueueTime : ℤ := 0
  nodeId : UInt32 := 0
  deviceId : UInt32 := 0
  vcId : UInt8 := 0
  processingQueueEnqueueTime : ℤ := 0
  deriving DecidableEq, Repr

namespace SueTag

/-- A tag but for its timestamp. -/
def untimed (tag : SueTag) : SueTag := { tag with timestamp := 0 }

end SueTag

/-- A packet with its tag. -/
structure MarkedPacket where
  bytes : List UInt8
  tag : Option SueTag := none
  deriving DecidableEq, Repr

namespace MarkedPacket

/-- `SueTag::UpdateTimestampInPacket`. -/
def updateTimestamp (p : MarkedPacket) (newTimestamp : ℤ) : MarkedPacket :=
  { p with tag := p.tag.map fun tag => { tag with timestamp := newTimestamp } }

end MarkedPacket

/-- The credit return that is scheduled for the end of a transmission.  There is no virtual
channel where it was read past the end of the packet. -/
structure ScheduledReturn where
  targetMac : Mac48Address
  vcId : Option UInt8
  size : ℕ
  deriving DecidableEq, Repr

/-- What `TransmitStart` hands to the channel, and what it schedules. -/
structure Transmission where
  packet : MarkedPacket
  creditReturn : Option ScheduledReturn := none
  deriving DecidableEq, Repr

/-- `TransmitStart`, up to the call of the channel.  With `asserts`, where assertions are
compiled in, a read past the end of the packet has no result. -/
def transmitStart (asserts : Bool) (localMac : Mac48Address) (now : ℤ) (p : MarkedPacket) :
    Option Transmission :=
  let p := if localMac.isSwitchDevice then p else p.updateTimestamp now
  (removePpp p.bytes).bind fun ppp =>
    if localMac.isSwitchDevice ∧ ppp.1 ≠ etherToPpp protCbfcUpdate then
      let vcId := extractVcIdFromPacket p.bytes
      if asserts ∧ vcId = none then none
      else (SuePacketUtils.extractSourceMac p.bytes true localMac).map fun x =>
        { packet := { p with bytes := x.2 }, creditReturn := some ⟨x.1, vcId, x.2.length⟩ }
    else some { packet := p }

/-! ## What should hold -/

/-- A frame in a queue of a device: it has a PPP header. -/
structure QueuedFrame where
  frame : SueFrame
  vcId : UInt8
  hasPpp : frame.hasPpp = true

namespace QueuedFrame

/-- The bytes of a frame in a queue. -/
def bytes (q : QueuedFrame) : List UInt8 := q.frame.bytes q.vcId

/-- The frame that a switch port should transmit: only a data packet has the port's own
address for its source. -/
def rewritten (q : QueuedFrame) (localMac : Mac48Address) : SueFrame :=
  match q.frame.kind with
  | .data _ _ => { q.frame with source := localMac }
  | _ => q.frame

/-- A switch port transmits the frame, rewrites its source if it is a data packet, and
keeps its tag but for the timestamp. -/
def RewritesSource (asserts : Bool) (localMac : Mac48Address) (q : QueuedFrame) : Prop :=
  localMac.isSwitchDevice = true → ∀ (now : ℤ) (tag : Option SueTag), ∃ t,
    transmitStart asserts localMac now ⟨q.bytes, tag⟩ = some t ∧
      t.packet.bytes = (q.rewritten localMac).bytes q.vcId ∧
      t.packet.tag.map SueTag.untimed = tag.map SueTag.untimed

/-- The bytes of a control frame that are at the place of a data packet's source: the end of
its destination and the beginning of its source. -/
def atSource (q : QueuedFrame) : Mac48Address :=
  ⟨q.frame.destination.b4, q.frame.destination.b5, q.frame.source.b0, q.frame.source.b1,
    q.frame.source.b2, q.frame.source.b3⟩

/-- When the source is where it is looked for: in data packets and credit updates, and in
another control frame if the port's own address is there already, and assertions are not
compiled in. -/
def SourceInPlace (asserts : Bool) (localMac : Mac48Address) (q : QueuedFrame) : Prop :=
  localMac.isSwitchDevice = true →
    match q.frame.kind with
    | .data _ _ => True
    | .creditUpdate _ => True
    | .ack => asserts = false ∧ localMac = q.atSource
    | .nack => asserts = false ∧ localMac = q.atSource

end QueuedFrame

/-! ## Transmission by a switch port -/

variable {asserts : Bool} {localMac : Mac48Address}

/-- What a switch port transmits, by the two bytes at the start. -/
theorem transmitStart_port (hport : localMac.isSwitchDevice = true) (now : ℤ)
    {p : MarkedPacket} {protocol : UInt16} {rest : List UInt8}
    (hppp : removePpp p.bytes = some (protocol, rest)) :
    transmitStart asserts localMac now p =
      if protocol ≠ 0x00FB then
        if asserts ∧ extractVcIdFromPacket p.bytes = none then none
        else (SuePacketUtils.extractSourceMac p.bytes true localMac).map fun x =>
          { packet := { p with bytes := x.2 },
            creditReturn := some ⟨x.1, extractVcIdFromPacket p.bytes, x.2.length⟩ }
      else some { packet := p } := by
  have hcredit : etherToPpp protCbfcUpdate = 0x00FB := by decide
  unfold transmitStart
  rw [if_pos hport]
  dsimp only
  rw [hppp, Option.bind_some, hcredit]
  simp only [hport, true_and]

/-- A packet that is not a credit update gets the address of the port at one place. -/
theorem transmitStart_rewrites (hport : localMac.isSwitchDevice = true) (now : ℤ)
    (tag : Option SueTag) {protocol : UInt16} (hcredit : etherToPpp protocol ≠ 0x00FB)
    (h : EthernetFields) (rest : List UInt8)
    (hreads : asserts = true →
      extractVcIdFromPacket (pppBytes protocol ++ (h.serialize ++ rest)) ≠ none) :
    transmitStart asserts localMac now ⟨pppBytes protocol ++ (h.serialize ++ rest), tag⟩ =
      some {
        packet := ⟨pppBytes protocol ++ ((h.setSource localMac).serialize ++ rest), tag⟩
        creditReturn := some ⟨h.source,
          extractVcIdFromPacket (pppBytes protocol ++ (h.serialize ++ rest)),
          (pppBytes protocol ++ ((h.setSource localMac).serialize ++ rest)).length⟩ } := by
  rw [transmitStart_port hport now (removePpp_pppBytes protocol _), if_pos hcredit, if_neg,
    extractSourceMac_ppp, Option.map_some]
  · rfl
  · rintro ⟨hasserts, hnone⟩
    exact hreads hasserts hnone

namespace QueuedFrame

variable {q : QueuedFrame}

/-- A data packet is transmitted with the port's own address, and credits are returned to
the address that was there. -/
theorem transmitStart_data {contents : DataContents} (hkind : q.frame.kind = .data true contents)
    (hport : localMac.isSwitchDevice = true) (now : ℤ) (tag : Option SueTag) :
    transmitStart asserts localMac now ⟨q.bytes, tag⟩ =
      some {
        packet := ⟨(q.rewritten localMac).bytes q.vcId, tag⟩
        creditReturn := some ⟨q.frame.source, some (q.vcId &&& 3),
          ((q.rewritten localMac).bytes q.vcId).length⟩ } := by
  have hbytes : q.bytes = pppBytes 0x0800 ++
      (q.frame.ethernet.serialize ++ contents.bytes q.vcId) := SueFrame.bytes_ppp hkind q.vcId
  have hrewritten : (q.rewritten localMac).bytes q.vcId = pppBytes 0x0800 ++
      ((q.frame.ethernet.setSource localMac).serialize ++ contents.bytes q.vcId) := by
    have hframe : q.rewritten localMac = { q.frame with source := localMac } := by
      unfold rewritten
      rw [hkind]
    have hsame : ({ q.frame with source := localMac } : SueFrame).kind = .data true contents :=
      hkind
    rw [hframe, SueFrame.bytes_ppp hsame]
    rfl
  have hvc : extractVcIdFromPacket (pppBytes 0x0800 ++
      (q.frame.ethernet.serialize ++ contents.bytes q.vcId)) = some (q.vcId &&& 3) := by
    rw [extractVcIdFromPacket_eq (removePpp_pppBytes 0x0800 _), if_neg (by decide),
      if_neg (by decide)]
    exact dataVcId_frame q.frame.ethernet contents
  rw [hbytes, hrewritten, transmitStart_rewrites hport now tag (by decide), hvc]
  · rfl
  · intro _
    rw [hvc]
    exact Option.some_ne_none _

/-- A credit update is transmitted as it is. -/
theorem transmitStart_creditUpdate {credits : UInt8} (hkind : q.frame.kind = .creditUpdate credits)
    (hport : localMac.isSwitchDevice = true) (now : ℤ) (tag : Option SueTag) :
    transmitStart asserts localMac now ⟨q.bytes, tag⟩ = some { packet := ⟨q.bytes, tag⟩ } := by
  obtain ⟨rest, hbytes⟩ : ∃ rest, removePpp q.bytes = some (etherToPpp protCbfcUpdate, rest) := by
    unfold bytes
    rw [SueFrame.bytes_creditUpdate hkind]
    exact ⟨_, removePpp_pppBytes protCbfcUpdate _⟩
  rw [transmitStart_port hport now hbytes, if_neg]
  exact not_not.mpr (by decide)

/-- Another control frame has, behind its PPP header, what is taken for an Ethernet header:
the source in it is made of two addresses. -/
theorem controlBytes_eq (q : QueuedFrame) (protocol : UInt16) (header : SueCbfcHeader) :
    ∃ h : EthernetFields, h.source = q.atSource ∧
      q.frame.controlBytes protocol header =
        pppBytes protocol ++ (h.serialize ++ [0x08, 0x00]) := by
  refine ⟨⟨⟨header.vcId, header.credits, q.frame.destination.b0, q.frame.destination.b1,
    q.frame.destination.b2, q.frame.destination.b3⟩, q.atSource,
    word16 q.frame.source.b4 q.frame.source.b5⟩, rfl, ?_⟩
  have htype : bytes16 (word16 q.frame.source.b4 q.frame.source.b5) =
      [q.frame.source.b4, q.frame.source.b5] := bytes16_word16 _ _
  unfold SueFrame.controlBytes
  rw [SueFrame.serialize_ethernet]
  unfold EthernetFields.serialize
  rw [htype]
  rfl

theorem setSource_eq_self {h : EthernetFields} {rest : List UInt8} {mac : Mac48Address}
    (heq : (h.setSource mac).serialize ++ rest = h.serialize ++ rest) : mac = h.source := by
  have hread := congrArg removeEthernet heq
  rw [removeEthernet_serialize, removeEthernet_serialize] at hread
  exact congrArg EthernetFields.source (congrArg Prod.fst (Option.some.inj hread))

/-- An acknowledgment, or a negative one, is transmitted as it is exactly when the port's
own address is there already. -/
theorem rewritesSource_control {protocol : UInt16} {header : SueCbfcHeader}
    (hbytes : q.bytes = q.frame.controlBytes protocol header)
    (hrewritten : q.rewritten localMac = q.frame)
    (hzero : etherToPpp protocol ≠ 0) (hcredit : etherToPpp protocol ≠ 0x00FB)
    (hport : localMac.isSwitchDevice = true) :
    RewritesSource asserts localMac q ↔ asserts = false ∧ localMac = q.atSource := by
  obtain ⟨h, hsource, hframe⟩ := q.controlBytes_eq protocol header
  have hnone : extractVcIdFromPacket (pppBytes protocol ++ (h.serialize ++ [0x08, 0x00])) =
      none := by
    rw [← hframe]
    exact q.frame.extractVcIdFromPacket_controlBytes hzero hcredit header
  constructor
  · intro hrewrites
    obtain ⟨t, ht, hsame, -⟩ := hrewrites hport 0 none
    rw [hbytes, hframe] at ht
    cases asserts with
    | true =>
        rw [transmitStart_port hport 0 (removePpp_pppBytes protocol _), if_pos hcredit,
          if_pos ⟨rfl, hnone⟩] at ht
        cases ht
    | false =>
        rw [transmitStart_rewrites hport 0 none hcredit h _
          fun hasserts => absurd hasserts Bool.false_ne_true] at ht
        cases ht
        rw [hrewritten] at hsame
        have hkept := hsame.trans (hbytes.trans hframe)
        refine ⟨rfl, ?_⟩
        rw [← hsource]
        exact setSource_eq_self (List.append_cancel_left hkept)
  · rintro ⟨rfl, hmac⟩ _ now tag
    have hsame : h.setSource localMac = h := by
      rw [hmac, ← hsource]
      rfl
    have hsent := transmitStart_rewrites hport now tag hcredit h [0x08, 0x00]
      fun hasserts => absurd hasserts Bool.false_ne_true
    rw [← hframe, ← hbytes] at hsent
    refine ⟨_, hsent, ?_, rfl⟩
    · rw [hrewritten, hsame]
      exact (hbytes.trans hframe).symm

/-- A switch port rewrites only the sources of data packets exactly when the source of the
frame is where it is looked for. -/
theorem rewritesSource_iff_sourceInPlace (asserts : Bool) (localMac : Mac48Address)
    (q : QueuedFrame) : RewritesSource asserts localMac q ↔ SourceInPlace asserts localMac q := by
  by_cases hport : localMac.isSwitchDevice = true
  · have hcondition : SourceInPlace asserts localMac q ↔ match q.frame.kind with
        | .data _ _ => True
        | .creditUpdate _ => True
        | .ack => asserts = false ∧ localMac = q.atSource
        | .nack => asserts = false ∧ localMac = q.atSource := imp_iff_right hport
    rw [hcondition]
    cases hkind : q.frame.kind with
    | data ppp contents =>
        have hppp := q.hasPpp
        unfold SueFrame.hasPpp at hppp
        rw [hkind] at hppp
        dsimp only at hppp
        subst hppp
        refine iff_of_true (fun _ now tag => ?_) trivial
        exact ⟨_, transmitStart_data hkind hport now tag, rfl, rfl⟩
    | creditUpdate credits =>
        have hsame : q.rewritten localMac = q.frame := by
          unfold rewritten
          rw [hkind]
        refine iff_of_true (fun _ now tag => ?_) trivial
        refine ⟨_, transmitStart_creditUpdate hkind hport now tag, ?_, rfl⟩
        rw [hsame]
        rfl
    | ack =>
        have hsame : q.rewritten localMac = q.frame := by
          unfold rewritten
          rw [hkind]
        exact rewritesSource_control (SueFrame.bytes_ack hkind q.vcId) hsame (by decide)
          (by decide) hport
    | nack =>
        have hsame : q.rewritten localMac = q.frame := by
          unfold rewritten
          rw [hkind]
        exact rewritesSource_control (SueFrame.bytes_nack hkind q.vcId) hsame (by decide)
          (by decide) hport
  · exact iff_of_true (fun h => absurd h hport) fun h => absurd h hport

/-- An acknowledgment of a switch port to its network card. -/
def queuedAck : QueuedFrame := ⟨SueFrame.firstAck, 1, rfl⟩

/-- A switch port that transmits an acknowledgment puts its address over parts of the two
addresses that are there. -/
theorem not_rewritesSource_queuedAck :
    (transmitStart false { b5 := 2 } 0 ⟨queuedAck.bytes, none⟩).map (fun t => t.packet.bytes) =
        some [0x11, 0x11, 1, 0, 0, 0, 0, 0, 0, 0, 0, 0, 0, 2, 0, 2, 8, 0] ∧
      queuedAck.bytes = [0x11, 0x11, 1, 0, 0, 0, 0, 0, 0, 1, 0, 0, 0, 0, 0, 2, 8, 0] ∧
      ¬RewritesSource false { b5 := 2 } queuedAck := by
  have hsent : (transmitStart false { b5 := 2 } 0 ⟨queuedAck.bytes, none⟩).map
      (fun t => t.packet.bytes) =
        some [0x11, 0x11, 1, 0, 0, 0, 0, 0, 0, 0, 0, 0, 0, 2, 0, 2, 8, 0] := by decide
  refine ⟨hsent, by decide, fun hrewrites => ?_⟩
  obtain ⟨t, ht, hsame, -⟩ := hrewrites rfl 0 none
  rw [ht, Option.map_some, hsame] at hsent
  exact absurd hsent (by decide)

end QueuedFrame

end UeSim
