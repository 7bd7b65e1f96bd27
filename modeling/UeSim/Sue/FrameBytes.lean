import UeSim.Sue.LlrLink
import UeSim.Sue.SueHeader
import UeSim.Support.NetworkOrder

/-!
# The bytes of frames

The frames of a scale-up link as bytes, and what `SuePacketUtils` reads from them.  Data
packets have their Ethernet header in front, behind a PPP header where they have one;
credit updates, acknowledgments and negative acknowledgments have a PPP header, a credit
header and an Ethernet header behind it.

A receiver guesses the layout from the first two bytes.  A read past the end of a packet
has no result here: it fails an assertion, where assertions are compiled in.
-/

namespace UeSim

open NetworkOrder

/-! ## Headers -/

namespace SuePacketUtils

/-- `PROT_CBFC_UPDATE`. -/
def protCbfcUpdate : UInt16 := 0xCBFC

/-- `ACK_REV`. -/
def ackRev : UInt16 := 0x1111

/-- `NACK_REV`. -/
def nackRev : UInt16 := 0x2222

/-- `EtherToPpp`.  Another protocol fails an assertion, and is 0 without it. -/
def etherToPpp (proto : UInt16) : UInt16 :=
  if proto = 0x0800 then 0x0021
  else if proto = 0x86DD then 0x0057
  else if proto = protCbfcUpdate then 0x00FB
  else if proto = ackRev then 0x1111
  else if proto = nackRev then 0x2222
  else 0

end SuePacketUtils

/-- The serialised `SuePppHeader`. -/
def pppBytes (protocol : UInt16) : List UInt8 := bytes16 (SuePacketUtils.etherToPpp protocol)

/-- All fields of an `EthernetHeader`. -/
structure EthernetFields where
  destination : Mac48Address
  source : Mac48Address
  lengthType : UInt16 := 0x0800
  deriving DecidableEq, Repr

namespace EthernetFields

/-- `EthernetHeader::Serialize`. -/
def serialize (h : EthernetFields) : List UInt8 :=
  h.destination.bytes ++ h.source.bytes ++ bytes16 h.lengthType

/-- `SetSource`. -/
def setSource (h : EthernetFields) (source : Mac48Address) : EthernetFields :=
  { h with source := source }

end EthernetFields

/-- The serialised `SueHeader`. -/
def SueHeader.bytes (h : SueHeader) : List UInt8 :=
  bytes32 h.serialize.first ++ bytes32 h.serialize.second

/-! ## Reading headers -/

/-- `RemoveHeader`, for a `SuePppHeader`. -/
def removePpp : List UInt8 → Option (UInt16 × List UInt8)
  | hi :: lo :: rest => some (word16 hi lo, rest)
  | _ => none

/-- `RemoveHeader`, for an `EthernetHeader`. -/
def removeEthernet : List UInt8 → Option (EthernetFields × List UInt8)
  | d0 :: d1 :: d2 :: d3 :: d4 :: d5 :: s0 :: s1 :: s2 :: s3 :: s4 :: s5 :: hi :: lo :: rest =>
      some (⟨⟨d0, d1, d2, d3, d4, d5⟩, ⟨s0, s1, s2, s3, s4, s5⟩, word16 hi lo⟩, rest)
  | _ => none

/-- The size of an IPv4 header by its first byte, 0 for another version: the source then
refuses to decode the header, and removes nothing. -/
def ipv4Size (verIhl : UInt8) : ℕ :=
  if verIhl >>> 4 = 4 then 4 * (verIhl &&& 0x0F).toNat else 0

/-- `RemoveHeader`, for an `Ipv4Header`, with what is left of the packet. -/
def removeIpv4 : List UInt8 → Option (List UInt8)
  | [] => none
  | verIhl :: rest =>
      if verIhl >>> 4 = 4 ∧ rest.length < 19 then none
      else some ((verIhl :: rest).drop (ipv4Size verIhl))

/-- `RemoveHeader`, for a `UdpHeader`, with what is left of the packet. -/
def removeUdp (bytes : List UInt8) : Option (List UInt8) :=
  if bytes.length < 8 then none else some (bytes.drop 8)

/-- `RemoveHeader`, for a `SueHeader`. -/
def removeSue : List UInt8 → Option (SueHeader × List UInt8)
  | b0 :: b1 :: b2 :: b3 :: b4 :: b5 :: b6 :: b7 :: rest =>
      some (SueHeader.deserialize ⟨word32 b0 b1 b2 b3, word32 b4 b5 b6 b7⟩, rest)
  | _ => none

/-- `RemoveHeader`, for a `SueCbfcHeader`. -/
def removeCbfc : List UInt8 → Option (SueCbfcHeader × List UInt8)
  | vcId :: credits :: rest => some (⟨vcId, credits⟩, rest)
  | _ => none

namespace SuePacketUtils

/-- The virtual channel of a data packet that has its Ethernet header in front. -/
def dataVcId (bytes : List UInt8) : Option UInt8 :=
  (removeEthernet bytes).bind fun ethernet =>
    (removeIpv4 ethernet.2).bind fun ipv4 =>
      (removeUdp ipv4).bind fun udp => (removeSue udp).map fun sue => sue.1.getVc

/-- `SuePacketUtils::ExtractVcIdFromPacket`. -/
def extractVcIdFromPacket (bytes : List UInt8) : Option UInt8 :=
  (removePpp bytes).bind fun ppp =>
    if ppp.1 = 0 then dataVcId bytes
    else if ppp.1 = 0x00FB then
      (removeCbfc ppp.2).bind fun cbfc => (removeEthernet cbfc.2).map fun _ => cbfc.1.vcId
    else dataVcId ppp.2

/-- `SuePacketUtils::ExtractSourceMac`, with the packet that it leaves. -/
def extractSourceMac (bytes : List UInt8) (modifyHeader : Bool) (newSourceMac : Mac48Address) :
    Option (Mac48Address × List UInt8) :=
  (removePpp bytes).bind fun ppp =>
    (removeEthernet ppp.2).map fun ethernet =>
      let header := if modifyHeader then ethernet.1.setSource newSourceMac else ethernet.1
      (ethernet.1.source, bytes16 ppp.1 ++ (header.serialize ++ ethernet.2))

end SuePacketUtils

/-- The protocols that `EnqueueToVcQueue` knows. -/
def knownPppProtocols : List UInt16 :=
  [0x0800, 0x86DD, SuePacketUtils.protCbfcUpdate, SuePacketUtils.ackRev,
    SuePacketUtils.nackRev].map SuePacketUtils.etherToPpp

/-- `HasValidPppHeader` of `EnqueueToVcQueue`. -/
def hasValidPppHeader (bytes : List UInt8) : Bool :=
  (removePpp bytes).any fun ppp => ppp.1 ∈ knownPppProtocols

/-! ## Frames -/

/-- What a data packet has behind its Ethernet header: an IPv4 header of version 4 and five
words, whose other bytes are `ipv4`, a UDP header, the reliability header, to which the
virtual channel is added, and the payload. -/
structure DataContents where
  ipv4 : List UInt8
  udp : List UInt8
  sue : SueHeader := {}
  payload : List UInt8 := []
  length_ipv4 : ipv4.length = 19
  length_udp : udp.length = 8

/-- The kinds of frames. -/
inductive FrameKind
  | data (ppp : Bool) (contents : DataContents)
  | creditUpdate (credits : UInt8)
  | ack
  | nack

/-- A frame, but for its virtual channel. -/
structure SueFrame where
  destination : Mac48Address
  source : Mac48Address
  kind : FrameKind

namespace DataContents

/-- The bytes behind the Ethernet header. -/
def bytes (contents : DataContents) (vcId : UInt8) : List UInt8 :=
  0x45 :: (contents.ipv4 ++ (contents.udp ++ ((contents.sue.setVc vcId).bytes ++
    contents.payload)))

theorem length_bytes (contents : DataContents) (vcId : UInt8) :
    (contents.bytes vcId).length = 36 + contents.payload.length := by
  have hsue : (contents.sue.setVc vcId).bytes.length = 8 := rfl
  unfold bytes
  rw [List.length_cons, List.length_append, List.length_append, List.length_append, hsue,
    contents.length_ipv4, contents.length_udp]
  omega

end DataContents

namespace SueFrame

/-- The Ethernet header of a frame. -/
def ethernet (f : SueFrame) : EthernetFields := ⟨f.destination, f.source, 0x0800⟩

/-- A control frame, which `CreditReturn`, `SendLlrAck` and `SendLlrNack` build. -/
def controlBytes (f : SueFrame) (protocol : UInt16) (header : SueCbfcHeader) : List UInt8 :=
  pppBytes protocol ++ (header.serialize ++ f.ethernet.serialize)

/-- The bytes of a frame with a virtual channel. -/
def bytes (f : SueFrame) (vcId : UInt8) : List UInt8 :=
  match f.kind with
  | .data ppp contents =>
      (if ppp then pppBytes 0x0800 else []) ++ (f.ethernet.serialize ++ contents.bytes vcId)
  | .creditUpdate credits => f.controlBytes SuePacketUtils.protCbfcUpdate ⟨vcId, credits⟩
  | .ack => f.controlBytes SuePacketUtils.ackRev ⟨vcId, 0⟩
  | .nack => f.controlBytes SuePacketUtils.nackRev ⟨vcId, 0⟩

/-- Whether a virtual channel fits the header that carries it. -/
def carries (f : SueFrame) (vcId : UInt8) : Bool :=
  match f.kind with
  | .data _ _ => vcId < 4
  | _ => true

/-- Whether a frame has a PPP header. -/
def hasPpp (f : SueFrame) : Bool :=
  match f.kind with
  | .data ppp _ => ppp
  | _ => true

end SueFrame

/-! ## What should hold -/

namespace SueFrame

/-- A frame is told apart: its virtual channel is read back, whichever it is, and a PPP
header is recognised exactly when there is one. -/
structure ToldApart (f : SueFrame) : Prop where
  vcId : ∀ vcId, f.carries vcId = true →
    SuePacketUtils.extractVcIdFromPacket (f.bytes vcId) = some vcId
  ppp : ∀ vcId, f.carries vcId = true → hasValidPppHeader (f.bytes vcId) = f.hasPpp

/-- The frames whose layout is guessed right: data packets with a PPP header, data packets
without one to an address that begins with two zero bytes, and credit updates. -/
def GuessedRight (f : SueFrame) : Prop :=
  match f.kind with
  | .data ppp _ => ppp = true ∨ (f.destination.b0 = 0 ∧ f.destination.b1 = 0)
  | .creditUpdate _ => True
  | .ack => False
  | .nack => False

end SueFrame

/-! ## The bytes by the kind of the frame -/

namespace SueFrame

variable {f : SueFrame} {contents : DataContents}

theorem bytes_ppp (hkind : f.kind = .data true contents) (vcId : UInt8) :
    f.bytes vcId = pppBytes 0x0800 ++ (f.ethernet.serialize ++ contents.bytes vcId) := by
  unfold bytes
  rw [hkind]
  rfl

theorem bytes_bare (hkind : f.kind = .data false contents) (vcId : UInt8) :
    f.bytes vcId = f.ethernet.serialize ++ contents.bytes vcId := by
  unfold bytes
  rw [hkind]
  rfl

theorem bytes_creditUpdate {credits : UInt8} (hkind : f.kind = .creditUpdate credits)
    (vcId : UInt8) :
    f.bytes vcId = f.controlBytes SuePacketUtils.protCbfcUpdate ⟨vcId, credits⟩ := by
  unfold bytes
  rw [hkind]

theorem bytes_ack (hkind : f.kind = .ack) (vcId : UInt8) :
    f.bytes vcId = f.controlBytes SuePacketUtils.ackRev ⟨vcId, 0⟩ := by
  unfold bytes
  rw [hkind]

theorem bytes_nack (hkind : f.kind = .nack) (vcId : UInt8) :
    f.bytes vcId = f.controlBytes SuePacketUtils.nackRev ⟨vcId, 0⟩ := by
  unfold bytes
  rw [hkind]

end SueFrame

/-! ## Headers that are read back -/

theorem removePpp_pppBytes (protocol : UInt16) (rest : List UInt8) :
    removePpp (pppBytes protocol ++ rest) =
      some (SuePacketUtils.etherToPpp protocol, rest) := by
  have hword := word16_bytes16 (SuePacketUtils.etherToPpp protocol)
  show some (word16 _ _, rest) = _
  rw [hword]

theorem removeEthernet_serialize (h : EthernetFields) (rest : List UInt8) :
    removeEthernet (h.serialize ++ rest) = some (h, rest) := by
  have hword := word16_bytes16 h.lengthType
  show some (EthernetFields.mk _ _ (word16 _ _), rest) = _
  rw [hword]

theorem removeSue_bytes (h : SueHeader) (rest : List UInt8) :
    removeSue (h.bytes ++ rest) = some (h.onWire, rest) := by
  have hfirst := word32_bytes32 h.serialize.first
  have hsecond := word32_bytes32 h.serialize.second
  show some (SueHeader.deserialize ⟨word32 _ _ _ _, word32 _ _ _ _⟩, rest) = _
  rw [hfirst, hsecond, SueHeader.deserialize_serialize]

namespace SuePacketUtils

/-- What is read depends on the two bytes at the start. -/
theorem extractVcIdFromPacket_eq {bytes rest : List UInt8} {protocol : UInt16}
    (h : removePpp bytes = some (protocol, rest)) :
    extractVcIdFromPacket bytes =
      if protocol = 0 then dataVcId bytes
      else if protocol = 0x00FB then
        (removeCbfc rest).bind fun cbfc => (removeEthernet cbfc.2).map fun _ => cbfc.1.vcId
      else dataVcId rest := by
  unfold extractVcIdFromPacket
  rw [h, Option.bind_some]

/-- The virtual channel of a data packet is read behind its Ethernet header. -/
theorem dataVcId_frame (ethernet : EthernetFields) (contents : DataContents) {vcId : UInt8} :
    dataVcId (ethernet.serialize ++ contents.bytes vcId) = some (vcId &&& 3) := by
  have hipv4 : removeIpv4 (contents.bytes vcId) =
      some (contents.udp ++ ((contents.sue.setVc vcId).bytes ++ contents.payload)) := by
    unfold DataContents.bytes removeIpv4
    have hlength := contents.length_ipv4
    dsimp only
    rw [if_neg]
    · have hsize : ipv4Size 0x45 = contents.ipv4.length + 1 := by
        rw [hlength]
        rfl
      rw [hsize, List.drop_succ_cons, List.drop_left]
    · rw [List.length_append, hlength]
      omega
  have hudp : removeUdp (contents.udp ++ ((contents.sue.setVc vcId).bytes ++
      contents.payload)) = some ((contents.sue.setVc vcId).bytes ++ contents.payload) := by
    unfold removeUdp
    have hlength := contents.length_udp
    rw [if_neg, ← hlength, List.drop_left]
    rw [List.length_append, hlength]
    omega
  unfold dataVcId
  rw [removeEthernet_serialize, Option.bind_some, hipv4, Option.bind_some, hudp,
    Option.bind_some, removeSue_bytes, Option.map_some, SueHeader.getVc_onWire,
    SueHeader.getVc_setVc]

/-- The source address has no part in what is read from a data packet without a PPP header:
what is read behind a wrong start is read behind the addresses, too. -/
theorem extractVcIdFromPacket_source (destination source source' : Mac48Address)
    (contents : DataContents) (vcId : UInt8) :
    extractVcIdFromPacket (SueFrame.bytes ⟨destination, source, .data false contents⟩ vcId) =
      extractVcIdFromPacket
        (SueFrame.bytes ⟨destination, source', .data false contents⟩ vcId) := by
  show extractVcIdFromPacket (EthernetFields.serialize ⟨destination, source, 0x0800⟩ ++
      contents.bytes vcId) =
    extractVcIdFromPacket (EthernetFields.serialize ⟨destination, source', 0x0800⟩ ++
      contents.bytes vcId)
  -- the headers that are read end at most four bytes behind the Ethernet header
  rcases contents.bytes vcId with _ | ⟨b0, _ | ⟨b1, _ | ⟨b2, _ | ⟨b3, rest⟩⟩⟩⟩ <;> rfl

end SuePacketUtils

theorem hasValidPppHeader_eq {bytes rest : List UInt8} {protocol : UInt16}
    (h : removePpp bytes = some (protocol, rest)) :
    hasValidPppHeader bytes = decide (protocol ∈ knownPppProtocols) := by
  unfold hasValidPppHeader
  rw [h]
  rfl

/-! ## Headers that are read at the wrong place -/

theorem eq_drop_of_removeEthernet {bytes : List UInt8} {x : EthernetFields × List UInt8}
    (h : removeEthernet bytes = some x) : x.2 = bytes.drop 14 := by
  unfold removeEthernet at h
  split at h
  · cases h
    rfl
  · cases h

theorem eq_drop_of_removeIpv4 {bytes rest : List UInt8} (h : removeIpv4 bytes = some rest) :
    ∃ verIhl, bytes[0]? = some verIhl ∧ rest = bytes.drop (ipv4Size verIhl) := by
  unfold removeIpv4 at h
  split at h
  · cases h
  · rename_i verIhl tail
    split_ifs at h
    cases h
    exact ⟨verIhl, rfl, rfl⟩

theorem eq_drop_of_removeUdp {bytes rest : List UInt8} (h : removeUdp bytes = some rest) :
    rest = bytes.drop 8 := by
  unfold removeUdp at h
  split_ifs at h
  exact (Option.some.inj h).symm

theorem SueHeader.getVc_deserialize (first : UInt32) (b0 b1 b2 b3 : UInt8) :
    (SueHeader.deserialize ⟨first, word32 b0 b1 b2 b3⟩).getVc = b0 >>> 6 := by
  have hvc : (SueHeader.deserialize ⟨first, word32 b0 b1 b2 b3⟩).getVc =
      (({} : SueHeader).setVc ((word32 b0 b1 b2 b3 >>> 30) &&& 0x03).toUInt8).getVc := rfl
  rw [hvc, SueHeader.getVc_setVc]
  unfold word32
  refine eq_of_bits8 fun i hi => ?_
  interval_cases i <;> simp

theorem getVc_of_removeSue {bytes : List UInt8} {x : SueHeader × List UInt8}
    (h : removeSue bytes = some x) : ∃ b : UInt8, bytes[4]? = some b ∧ x.1.getVc = b >>> 6 := by
  unfold removeSue at h
  split at h
  · cases h
    exact ⟨_, rfl, SueHeader.getVc_deserialize _ _ _ _ _⟩
  · cases h

theorem four_dvd_ipv4Size (verIhl : UInt8) : 4 ∣ ipv4Size verIhl := by
  unfold ipv4Size
  split_ifs
  · exact Nat.dvd_mul_right 4 _
  · exact Nat.dvd_zero 4

/-- The two bytes that decide which virtual channel is read: the first one of the IPv4
header, and the one at which the second word of the reliability header is looked for. -/
theorem exists_of_dataVcId {bytes : List UInt8} {vcId : UInt8}
    (h : SuePacketUtils.dataVcId bytes = some vcId) :
    ∃ verIhl b : UInt8, bytes[14]? = some verIhl ∧ bytes[26 + ipv4Size verIhl]? = some b ∧
      vcId = b >>> 6 := by
  obtain ⟨ethernet, hethernet, h⟩ := Option.bind_eq_some_iff.mp h
  obtain ⟨ipv4, hipv4, h⟩ := Option.bind_eq_some_iff.mp h
  obtain ⟨udp, hudp, h⟩ := Option.bind_eq_some_iff.mp h
  obtain ⟨sue, hsue, rfl⟩ := Option.map_eq_some_iff.mp h
  obtain ⟨verIhl, hfirst, rfl⟩ := eq_drop_of_removeIpv4 hipv4
  obtain ⟨b, hb, hvc⟩ := getVc_of_removeSue hsue
  rw [eq_drop_of_removeEthernet hethernet] at hfirst hudp
  rw [eq_drop_of_removeUdp hudp, List.drop_drop, List.drop_drop, List.getElem?_drop] at hb
  rw [List.getElem?_drop] at hfirst
  refine ⟨verIhl, b, hfirst, ?_, hvc⟩
  rw [← hb]
  congr 1
  omega

/-- Only one byte of a serialised header carries the virtual channel. -/
theorem SueHeader.bytes_setVc (h : SueHeader) (vcId : UInt8) :
    (h.setVc vcId).bytes = bytes32 h.serialize.first ++
      ((h.setVc vcId).serialize.second >>> 24).toUInt8 ::
        [0, (h.rpsn >>> 8).toUInt8, h.rpsn.toUInt8] := by
  have hfirst : (h.setVc vcId).serialize.first = h.serialize.first := rfl
  have h16 : ((h.setVc vcId).serialize.second >>> 16).toUInt8 = 0 := by
    unfold serialize
    refine eq_of_bits8 fun i hi => ?_
    interval_cases i <;> simp [setVc]
  have h8 : ((h.setVc vcId).serialize.second >>> 8).toUInt8 = (h.rpsn >>> 8).toUInt8 := by
    unfold serialize
    refine eq_of_bits8 fun i hi => ?_
    interval_cases i <;> simp [setVc]
  have h0 : (h.setVc vcId).serialize.second.toUInt8 = h.rpsn.toUInt8 := by
    unfold serialize
    refine eq_of_bits8 fun i hi => ?_
    interval_cases i <;> simp [setVc]
  unfold SueHeader.bytes
  rw [hfirst, ← h16, ← h8, ← h0]
  rfl

/-- Only one of the bytes behind an Ethernet header carries the virtual channel. -/
theorem DataContents.exists_bytes (contents : DataContents) :
    ∃ (before after : List UInt8) (top : UInt8 → UInt8), before.length = 32 ∧
      ∀ vcId, contents.bytes vcId = before ++ top vcId :: after := by
  refine ⟨0x45 :: (contents.ipv4 ++ (contents.udp ++ bytes32 contents.sue.serialize.first)),
    (0 : UInt8) :: (contents.sue.rpsn >>> 8).toUInt8 :: contents.sue.rpsn.toUInt8 ::
      contents.payload,
    fun vcId => ((contents.sue.setVc vcId).serialize.second >>> 24).toUInt8, ?_, fun vcId => ?_⟩
  · have hfour : (bytes32 contents.sue.serialize.first).length = 4 := rfl
    rw [List.length_cons, List.length_append, List.length_append, hfour,
      contents.length_ipv4, contents.length_udp]
  · unfold DataContents.bytes
    rw [SueHeader.bytes_setVc]
    simp only [List.cons_append, List.append_assoc, List.nil_append]

theorem List.getElem?_append_cons_of_ne {α : Type} {before after : List α} {x y : α} {i : ℕ}
    (hi : i ≠ before.length) :
    (before ++ x :: after)[i]? = (before ++ y :: after)[i]? := by
  rcases Nat.lt_or_gt_of_ne hi with hlt | hgt
  · rw [List.getElem?_append_left hlt, List.getElem?_append_left hlt]
  · rw [List.getElem?_append_right hgt.le, List.getElem?_append_right hgt.le]
    obtain ⟨n, hn⟩ := Nat.exists_eq_add_of_lt hgt
    have hsub : i - before.length = n + 1 := by omega
    rw [hsub, List.getElem?_cons_succ, List.getElem?_cons_succ]

/-! ## Which frames are told apart -/

theorem word16_eq_zero {hi lo : UInt8} : word16 hi lo = 0 ↔ hi = 0 ∧ lo = 0 := by
  constructor
  · intro hword
    have hbytes := bytes16_word16 hi lo
    rw [hword] at hbytes
    obtain ⟨hhi, htail⟩ := List.cons.inj hbytes
    exact ⟨hhi.symm, (List.cons.inj htail).1.symm⟩
  · rintro ⟨rfl, rfl⟩
    rfl

namespace SueFrame

open SuePacketUtils

variable {f : SueFrame} {contents : DataContents} {vcId : UInt8}

/-- The bytes of a data packet without a PPP header, behind its first two. -/
def behindTwo (f : SueFrame) (contents : DataContents) (vcId : UInt8) : List UInt8 :=
  (f.ethernet.serialize.drop 2) ++ contents.bytes vcId

theorem removePpp_bare (f : SueFrame) (contents : DataContents) (vcId : UInt8) :
    removePpp (f.ethernet.serialize ++ contents.bytes vcId) =
      some (word16 f.destination.b0 f.destination.b1, f.behindTwo contents vcId) := rfl

/-- Behind a wrong start, the virtual channel is not read: it would be read from a byte
that does not carry it. -/
theorem dataVcId_behindTwo (f : SueFrame) (contents : DataContents) :
    ¬∀ vcId < 4, dataVcId (f.behindTwo contents vcId) = some vcId := by
  intro hreads
  obtain ⟨before, after, top, hlength, hbytes⟩ := contents.exists_bytes
  have hsplit : ∀ vcId, f.behindTwo contents vcId =
      (f.ethernet.serialize.drop 2 ++ before) ++ top vcId :: after := by
    intro vcId
    unfold behindTwo
    rw [hbytes, List.append_assoc]
  have hcount : (f.ethernet.serialize.drop 2 ++ before).length = 44 := by
    rw [List.length_append, hlength]
    rfl
  have hsame : ∀ i, i ≠ 44 →
      (f.behindTwo contents 0)[i]? = (f.behindTwo contents 1)[i]? := by
    intro i hi
    rw [hsplit, hsplit]
    exact List.getElem?_append_cons_of_ne (by rw [hcount]; exact hi)
  obtain ⟨first, b, hfirst, hb, hzero⟩ := exists_of_dataVcId (hreads 0 (by decide))
  obtain ⟨first', b', hfirst', hb', hone⟩ := exists_of_dataVcId (hreads 1 (by decide))
  rw [hsame 14 (by decide), hfirst'] at hfirst
  cases hfirst
  have hother : 26 + ipv4Size first ≠ 44 := by
    have hdvd := four_dvd_ipv4Size first
    omega
  rw [hsame _ hother, hb'] at hb
  cases hb
  exact absurd (hzero.trans hone.symm) (by decide)

/-- A data packet with a PPP header is told apart. -/
theorem toldApart_ppp (hkind : f.kind = .data true contents) : f.ToldApart := by
  refine ⟨fun vcId hcarries => ?_, fun vcId _ => ?_⟩
  · unfold carries at hcarries
    rw [hkind] at hcarries
    rw [bytes_ppp hkind, extractVcIdFromPacket_eq (removePpp_pppBytes 0x0800 _), if_neg (by decide),
      if_neg (by decide), dataVcId_frame f.ethernet contents,
      SueHeader.and_three_of_lt (of_decide_eq_true hcarries)]
  · rw [bytes_ppp hkind, hasValidPppHeader_eq (removePpp_pppBytes 0x0800 _)]
    unfold hasPpp
    rw [hkind]
    rfl

/-- A data packet without a PPP header is told apart exactly when it begins with two zero
bytes. -/
theorem toldApart_bare (hkind : f.kind = .data false contents) :
    f.ToldApart ↔ f.destination.b0 = 0 ∧ f.destination.b1 = 0 := by
  have hcarries : ∀ vcId, f.carries vcId = decide (vcId < 4) := by
    intro vcId
    unfold carries
    rw [hkind]
  constructor
  · intro htold
    by_contra hstart
    have hread : ∀ vcId < 4, extractVcIdFromPacket
        (f.ethernet.serialize ++ contents.bytes vcId) = some vcId := by
      intro vcId hlt
      rw [← bytes_bare hkind]
      exact htold.vcId vcId (by rw [hcarries]; exact decide_eq_true hlt)
    simp only [extractVcIdFromPacket_eq (removePpp_bare f contents _)] at hread
    rw [← word16_eq_zero] at hstart
    by_cases hcredit : word16 f.destination.b0 f.destination.b1 = 0x00FB
    · have hzero := hread 0 (by decide)
      have hone := hread 1 (by decide)
      rw [if_neg hstart, if_pos hcredit] at hzero hone
      obtain ⟨cbfc, hcbfc, hzero⟩ := Option.bind_eq_some_iff.mp hzero
      obtain ⟨cbfc', hcbfc', hone⟩ := Option.bind_eq_some_iff.mp hone
      cases hcbfc
      cases hcbfc'
      obtain ⟨-, -, hzero⟩ := Option.map_eq_some_iff.mp hzero
      obtain ⟨-, -, hone⟩ := Option.map_eq_some_iff.mp hone
      exact absurd (hzero.symm.trans hone) (by decide)
    · refine dataVcId_behindTwo f contents fun vcId hlt => ?_
      have hvc := hread vcId hlt
      rw [if_neg hstart, if_neg hcredit] at hvc
      exact hvc
  · rintro ⟨hb0, hb1⟩
    have hword : word16 f.destination.b0 f.destination.b1 = 0 := word16_eq_zero.mpr ⟨hb0, hb1⟩
    refine ⟨fun vcId hfits => ?_, fun vcId _ => ?_⟩
    · rw [hcarries] at hfits
      rw [bytes_bare hkind, extractVcIdFromPacket_eq (removePpp_bare f contents vcId), if_pos hword,
        dataVcId_frame f.ethernet contents,
        SueHeader.and_three_of_lt (of_decide_eq_true hfits)]
    · rw [bytes_bare hkind, hasValidPppHeader_eq (removePpp_bare f contents vcId), hword]
      unfold hasPpp
      rw [hkind]
      rfl

/-- A PPP header of a control frame is recognised. -/
theorem hasValidPppHeader_controlBytes (f : SueFrame) {protocol : UInt16}
    (hknown : SuePacketUtils.etherToPpp protocol ∈ knownPppProtocols)
    (header : SueCbfcHeader) : hasValidPppHeader (f.controlBytes protocol header) = true := by
  unfold controlBytes
  rw [hasValidPppHeader_eq (removePpp_pppBytes protocol _)]
  exact decide_eq_true hknown

/-- A credit update is told apart. -/
theorem toldApart_creditUpdate {credits : UInt8} (hkind : f.kind = .creditUpdate credits) :
    f.ToldApart := by
  refine ⟨fun vcId _ => ?_, fun vcId _ => ?_⟩
  · rw [bytes_creditUpdate hkind]
    unfold controlBytes
    rw [extractVcIdFromPacket_eq (removePpp_pppBytes protCbfcUpdate _), if_neg (by decide),
      if_pos (by decide)]
    rfl
  · rw [bytes_creditUpdate hkind, hasValidPppHeader_controlBytes f (by decide)]
    unfold hasPpp
    rw [hkind]

theorem serialize_ethernet (f : SueFrame) :
    f.ethernet.serialize = ethernetBytes f.destination f.source := by
  have htype : bytes16 0x0800 = [0x08, 0x00] := by decide
  show f.destination.bytes ++ f.source.bytes ++ bytes16 0x0800 = _
  rw [htype]
  rfl

/-- An acknowledgment is taken for a data packet, and read past its end. -/
theorem extractVcIdFromPacket_controlBytes (f : SueFrame) {protocol : UInt16}
    (hzero : etherToPpp protocol ≠ 0) (hcredit : etherToPpp protocol ≠ 0x00FB)
    (header : SueCbfcHeader) :
    extractVcIdFromPacket (f.controlBytes protocol header) = none := by
  unfold controlBytes
  rw [extractVcIdFromPacket_eq (removePpp_pppBytes protocol _), if_neg hzero, if_neg hcredit]
  obtain ⟨fields, hethernet⟩ : ∃ fields, removeEthernet (header.serialize ++
      f.ethernet.serialize) = some (fields, [0x08, 0x00]) := by
    rw [serialize_ethernet]
    exact ⟨_, rfl⟩
  unfold dataVcId
  rw [hethernet, Option.bind_some]
  rfl

/-- An acknowledgment is not told apart. -/
theorem not_toldApart_control {protocol : UInt16} {header : SueCbfcHeader}
    (hcarries : f.carries 0 = true) (hbytes : f.bytes 0 = f.controlBytes protocol header)
    (hzero : etherToPpp protocol ≠ 0) (hcredit : etherToPpp protocol ≠ 0x00FB) :
    ¬f.ToldApart := by
  intro htold
  have hread := htold.vcId 0 hcarries
  rw [hbytes, extractVcIdFromPacket_controlBytes f hzero hcredit header] at hread
  cases hread

/-- A frame is told apart exactly when its layout is guessed right. -/
theorem toldApart_iff_guessedRight (f : SueFrame) : f.ToldApart ↔ f.GuessedRight := by
  unfold GuessedRight
  cases hkind : f.kind with
  | data ppp contents =>
      cases ppp with
      | true => exact iff_of_true (toldApart_ppp hkind) (.inl rfl)
      | false =>
          rw [toldApart_bare hkind]
          exact (or_iff_right (by decide)).symm
  | creditUpdate credits => exact iff_of_true (toldApart_creditUpdate hkind) trivial
  | ack =>
      refine iff_of_false (not_toldApart_control ?_ (bytes_ack hkind 0) ?_ ?_) not_false
      · unfold carries
        rw [hkind]
      · decide
      · decide
  | nack =>
      refine iff_of_false (not_toldApart_control ?_ (bytes_nack hkind 0) ?_ ?_) not_false
      · unfold carries
        rw [hkind]
      · decide
      · decide

/-- A transaction from 10.1.1.1 to 10.2.1.1. -/
def transaction : DataContents where
  ipv4 := [0, 0, 52, 0, 0, 0, 0, 64, 17, 0, 0, 10, 1, 1, 1, 10, 2, 1, 1]
  udp := [0xC0, 0x01, 0x1F, 0x90, 0, 32, 0, 0]
  payload := List.replicate 16 0
  length_ipv4 := rfl
  length_udp := rfl

/-- A data packet without a PPP header, to an address. -/
def bareTo (destination : Mac48Address) : SueFrame :=
  ⟨destination, { b5 := 1 }, .data false transaction⟩

/-- An acknowledgment of a switch port. -/
def firstAck : SueFrame := ⟨{ b5 := 1 }, { b5 := 2 }, .ack⟩

/-- An acknowledgment is read past its end; of two data packets on virtual channel 1, one is
read as being on another, and in the other one a PPP header is recognised that is not
there. -/
theorem not_toldApart_samples :
    (extractVcIdFromPacket (firstAck.bytes 1) = none ∧ ¬firstAck.ToldApart) ∧
      (extractVcIdFromPacket ((bareTo { b0 := 2, b5 := 3 }).bytes 1) = some 0 ∧
        ¬(bareTo { b0 := 2, b5 := 3 }).ToldApart) ∧
      hasValidPppHeader ((bareTo { b1 := 0x21, b5 := 3 }).bytes 1) = true ∧
        ¬(bareTo { b1 := 0x21, b5 := 3 }).ToldApart := by
  have hack : extractVcIdFromPacket (firstAck.bytes 1) = none := by decide
  have hvc : extractVcIdFromPacket ((bareTo { b0 := 2, b5 := 3 }).bytes 1) = some 0 := by decide
  have hppp : hasValidPppHeader ((bareTo { b1 := 0x21, b5 := 3 }).bytes 1) = true := by decide
  refine ⟨⟨hack, fun htold => ?_⟩, ⟨hvc, fun htold => ?_⟩, hppp, fun htold => ?_⟩
  · cases hack.symm.trans (htold.vcId 1 rfl)
  · exact absurd (hvc.symm.trans (htold.vcId 1 rfl)) (by decide)
  · exact absurd (hppp.symm.trans (htold.ppp 1 rfl)) (by decide)

end SueFrame

end UeSim
