import UeSim.Common.Types
import UeSim.Support.ByteCursor

/-!
# The bytes of headers and packet tags

The `PDSHeader` and the packet tags with all their fields, as they are written to memory and
read back.  An enumeration is the byte that it is stored in, so that a field has every value
that the field of the source has.  A `Time` is its number of nanoseconds, which is the
resolution of the simulator.

The other modules hand tags on as values.  The last section says that this is what a packet
does with them.
-/

namespace UeSim

open ByteStream

/-! ## The header -/

/-- `PDSHeader`. -/
structure PDSHeader where
  pdcId : UInt16 := 0
  sequenceNum : UInt32 := 0
  som : Bool := false
  eom : Bool := false
  reliable : Bool := false
  deriving DecidableEq, Repr

namespace PDSHeader

/-- `PDSHeader::GetSerializedSize`. -/
def getSerializedSize (_ : PDSHeader) : ℕ := 7

/-- The byte of the three flags. -/
def flags (h : PDSHeader) : UInt8 :=
  (if h.som then 0x01 else 0) ||| (if h.eom then 0x02 else 0) |||
    (if h.reliable then 0x04 else 0)

/-- `PDSHeader::Serialize`. -/
def serialize (h : PDSHeader) : ByteStream Unit := do
  writeU16 h.pdcId
  writeU32 h.sequenceNum
  writeU8 h.flags

/-- `PDSHeader::Deserialize`, with the number of bytes that it returns. -/
def deserialize : ByteStream (PDSHeader × ℕ) := do
  let pdcId ← readU16
  let sequenceNum ← readU32
  let flags ← readU8
  let header : PDSHeader :=
    { pdcId := pdcId
      sequenceNum := sequenceNum
      som := flags &&& 0x01 != 0
      eom := flags &&& 0x02 != 0
      reliable := flags &&& 0x04 != 0 }
  return (header, header.getSerializedSize)

/-- Each flag has a bit of its own. -/
theorem flags_bits (h : PDSHeader) :
    (h.flags &&& 0x01 != 0) = h.som ∧ (h.flags &&& 0x02 != 0) = h.eom ∧
      (h.flags &&& 0x04 != 0) = h.reliable := by
  unfold flags
  cases h.som <;> cases h.eom <;> cases h.reliable <;> decide

/-- The header comes back, and `Deserialize` returns the number of bytes that it has read. -/
theorem codes (h : PDSHeader) :
    Codes h.serialize deserialize (h, h.getSerializedSize) h.getSerializedSize := by
  change Codes h.serialize deserialize (h, h.getSerializedSize) (2 + (4 + 1))
  unfold serialize deserialize
  apply (codes_u16 _).bind
  apply (codes_u32 _).bind
  apply (codes_u8 _).last
  obtain ⟨hsom, heom, hreliable⟩ := h.flags_bits
  rw [hsom, heom, hreliable]

end PDSHeader

/-! ## Tags -/

/-- The methods that a packet calls on a `Tag`. -/
class Tag (α : Type) where
  getSerializedSize : α → ℕ
  serialize : α → ByteStream Unit
  deserialize : ByteStream α

/-- `Packet::AddPacketTag`: the bytes that `PacketTagList` keeps for the tag. -/
def addPacketTag {α : Type} [Tag α] (tag : α) : Option (List UInt8) :=
  (Tag.serialize tag ⟨[], List.replicate (Tag.getSerializedSize tag) 0⟩).map fun result =>
    result.2.passed

/-- `Packet::PeekPacketTag`, from the bytes that are kept for the tag. -/
def peekPacketTag {α : Type} [Tag α] (data : List UInt8) : Option α :=
  (Tag.deserialize ⟨[], data⟩).map Prod.fst

/-- What is written for a tag is read back as the tag, and takes exactly the bytes that the tag
asks for. -/
def RoundTrips (α : Type) [Tag α] : Prop :=
  ∀ tag : α, Codes (Tag.serialize tag) Tag.deserialize tag (Tag.getSerializedSize tag)

/-- A tag that round-trips is peeked as it was added. -/
theorem RoundTrips.peekPacketTag_addPacketTag {α : Type} [Tag α] (h : RoundTrips α) (tag : α) :
    (addPacketTag tag).bind peekPacketTag = some tag := by
  obtain ⟨bytes, hlength, hwrites, hreads⟩ := h tag
  have hadd := hwrites [] (List.replicate (Tag.getSerializedSize tag) 0) []
    (by rw [List.length_replicate, hlength])
  have hpeek := hreads [] []
  rw [List.append_nil] at hadd hpeek
  rw [addPacketTag, hadd, Option.map_some, Option.bind_some, peekPacketTag, List.nil_append,
    hpeek, Option.map_some]

/-- A flag in a byte of its own. -/
theorem flagByte_ne_zero (flag : Bool) : ((if flag then 1 else 0 : UInt8) != 0) = flag := by
  cases flag <;> rfl

namespace Wire

/-- `Time`, in nanoseconds. -/
abbrev Time := Int64

/-- `SoftUeHeaderTag`. -/
structure SoftUeHeaderTag where
  /-- `PDSType`. -/
  pdsType : UInt8 := 0
  pdcId : UInt16 := 0
  psn : UInt32 := 0
  sourceEndpoint : UInt32 := 0
  destEndpoint : UInt32 := 0
  jobId : UInt32 := 0
  deriving DecidableEq

instance : Tag SoftUeHeaderTag where
  getSerializedSize _ := 1 + 2 + 4 * 4
  serialize tag := do
    writeU8 tag.pdsType
    writeU16 tag.pdcId
    writeU32 tag.psn
    writeU32 tag.sourceEndpoint
    writeU32 tag.destEndpoint
    writeU32 tag.jobId
  deserialize := do
    let pdsType ← readU8
    let pdcId ← readU16
    let psn ← readU32
    let sourceEndpoint ← readU32
    let destEndpoint ← readU32
    let jobId ← readU32
    return ⟨pdsType, pdcId, psn, sourceEndpoint, destEndpoint, jobId⟩

/-- `SoftUeMetadataTag`. -/
structure SoftUeMetadataTag where
  /-- `OpType`. -/
  opType : UInt8 := 1
  messageId : UInt32 := 0
  resourceIndex : UInt16 := 0
  reliable : Bool := false
  requestLength : UInt32 := 0
  fragmentOffset : UInt32 := 0
  remoteAddress : UInt64 := 0
  remoteKey : UInt64 := 0
  flags : UInt8 := 0
  responseOpCode : UInt8 := 0
  returnCode : UInt8 := 0
  modifiedLength : UInt32 := 0
  deriving DecidableEq

instance : Tag SoftUeMetadataTag where
  getSerializedSize _ := 4 * 5 + 2 + 1 * 4 + 8 * 2
  serialize tag := do
    writeU32 tag.opType.toUInt32
    writeU32 tag.messageId
    writeU16 tag.resourceIndex
    writeU8 (if tag.reliable then 1 else 0)
    writeU32 tag.requestLength
    writeU32 tag.fragmentOffset
    writeU64 tag.remoteAddress
    writeU64 tag.remoteKey
    writeU8 tag.flags
    writeU8 tag.responseOpCode
    writeU8 tag.returnCode
    writeU32 tag.modifiedLength
  deserialize := do
    let opType ← readU32
    let messageId ← readU32
    let resourceIndex ← readU16
    let reliable ← readU8
    let requestLength ← readU32
    let fragmentOffset ← readU32
    let remoteAddress ← readU64
    let remoteKey ← readU64
    let flags ← readU8
    let responseOpCode ← readU8
    let returnCode ← readU8
    let modifiedLength ← readU32
    return ⟨opType.toUInt8, messageId, resourceIndex, reliable != 0, requestLength,
      fragmentOffset, remoteAddress, remoteKey, flags, responseOpCode, returnCode,
      modifiedLength⟩

/-- `SoftUeTpdcControlTag`. -/
structure SoftUeTpdcControlTag where
  flags : UInt8 := 0
  cumulativeAck : UInt32 := 0
  selectiveAck : UInt32 := 0
  gapNack : UInt32 := 0
  deriving DecidableEq

instance : Tag SoftUeTpdcControlTag where
  getSerializedSize _ := 1 + 4 * 3
  serialize tag := do
    writeU8 tag.flags
    writeU32 tag.cumulativeAck
    writeU32 tag.selectiveAck
    writeU32 tag.gapNack
  deserialize := do
    let flags ← readU8
    let cumulativeAck ← readU32
    let selectiveAck ← readU32
    let gapNack ← readU32
    return ⟨flags, cumulativeAck, selectiveAck, gapNack⟩

/-- `SoftUeTimingTag`. -/
structure SoftUeTimingTag where
  timestamp : Time
  expectedDeliveryTime : Time
  detailTimestamp : Time
  deriving DecidableEq

instance : Tag SoftUeTimingTag where
  getSerializedSize _ := 3 * 8
  serialize tag := do
    writeU64 tag.timestamp.toUInt64
    writeU64 tag.expectedDeliveryTime.toUInt64
    writeU64 tag.detailTimestamp.toUInt64
  deserialize := do
    let timestamp ← readU64
    let expectedDeliveryTime ← readU64
    let detailTimestamp ← readU64
    return ⟨timestamp.toInt64, expectedDeliveryTime.toInt64, detailTimestamp.toInt64⟩

/-- `SoftUeChannelTimingTag`. -/
structure SoftUeChannelTimingTag where
  baselineReceiveTime : Time
  holdReleaseTime : Time
  channelReceiveTime : Time
  deriving DecidableEq

instance : Tag SoftUeChannelTimingTag where
  getSerializedSize _ := 3 * 8
  serialize tag := do
    writeU64 tag.baselineReceiveTime.toUInt64
    writeU64 tag.holdReleaseTime.toUInt64
    writeU64 tag.channelReceiveTime.toUInt64
  deserialize := do
    let baselineReceiveTime ← readU64
    let holdReleaseTime ← readU64
    let channelReceiveTime ← readU64
    return ⟨baselineReceiveTime.toInt64, holdReleaseTime.toInt64, channelReceiveTime.toInt64⟩

/-- `SoftUeTransportTimingTag`. -/
structure SoftUeTransportTimingTag where
  transportAcceptTime : Time
  transportTransmitTime : Time
  queuedForSendWindow : Bool := false
  deriving DecidableEq

instance : Tag SoftUeTransportTimingTag where
  getSerializedSize _ := 2 * 8 + 1
  serialize tag := do
    writeU64 tag.transportAcceptTime.toUInt64
    writeU64 tag.transportTransmitTime.toUInt64
    writeU8 (if tag.queuedForSendWindow then 1 else 0)
  deserialize := do
    let transportAcceptTime ← readU64
    let transportTransmitTime ← readU64
    let queuedForSendWindow ← readU8
    return ⟨transportAcceptTime.toInt64, transportTransmitTime.toInt64,
      queuedForSendWindow != 0⟩

/-- `SoftUeRecoveryTag`. -/
structure SoftUeRecoveryTag where
  gapNackSentTime : Time
  retransmitTxTime : Time
  deriving DecidableEq

instance : Tag SoftUeRecoveryTag where
  getSerializedSize _ := 2 * 8
  serialize tag := do
    writeU64 tag.gapNackSentTime.toUInt64
    writeU64 tag.retransmitTxTime.toUInt64
  deserialize := do
    let gapNackSentTime ← readU64
    let retransmitTxTime ← readU64
    return ⟨gapNackSentTime.toInt64, retransmitTxTime.toInt64⟩

/-- `SoftUeFragmentTag`. -/
structure SoftUeFragmentTag where
  fragmentIndex : UInt32 := 0
  totalFragments : UInt32 := 0
  deriving DecidableEq

instance : Tag SoftUeFragmentTag where
  getSerializedSize _ := 4 * 2
  serialize tag := do
    writeU32 tag.fragmentIndex
    writeU32 tag.totalFragments
  deserialize := do
    let fragmentIndex ← readU32
    let totalFragments ← readU32
    return ⟨fragmentIndex, totalFragments⟩

/-- `SoftUeTransactionTag`. -/
structure SoftUeTransactionTag where
  transactionIndex : UInt32 := 0
  totalTransactions : UInt32 := 0
  deriving DecidableEq

instance : Tag SoftUeTransactionTag where
  getSerializedSize _ := 4 * 2
  serialize tag := do
    writeU32 tag.transactionIndex
    writeU32 tag.totalTransactions
  deserialize := do
    let transactionIndex ← readU32
    let totalTransactions ← readU32
    return ⟨transactionIndex, totalTransactions⟩

/-! ## Round trips -/

theorem roundTrips_headerTag : RoundTrips SoftUeHeaderTag := by
  intro tag
  change Codes (Tag.serialize tag) Tag.deserialize tag (1 + (2 + (4 + (4 + (4 + 4)))))
  unfold Tag.serialize Tag.deserialize
  apply (codes_u8 _).bind
  apply (codes_u16 _).bind
  apply (codes_u32 _).bind
  apply (codes_u32 _).bind
  apply (codes_u32 _).bind
  exact (codes_u32 _).last rfl

theorem roundTrips_metadataTag : RoundTrips SoftUeMetadataTag := by
  intro tag
  change Codes (Tag.serialize tag) Tag.deserialize tag
    (4 + (4 + (2 + (1 + (4 + (4 + (8 + (8 + (1 + (1 + (1 + 4)))))))))))
  unfold Tag.serialize Tag.deserialize
  apply (codes_u32 _).bind
  apply (codes_u32 _).bind
  apply (codes_u16 _).bind
  apply (codes_u8 _).bind
  apply (codes_u32 _).bind
  apply (codes_u32 _).bind
  apply (codes_u64 _).bind
  apply (codes_u64 _).bind
  apply (codes_u8 _).bind
  apply (codes_u8 _).bind
  apply (codes_u8 _).bind
  apply (codes_u32 _).last
  rw [flagByte_ne_zero, UInt8.toUInt8_toUInt32]

theorem roundTrips_tpdcControlTag : RoundTrips SoftUeTpdcControlTag := by
  intro tag
  change Codes (Tag.serialize tag) Tag.deserialize tag (1 + (4 + (4 + 4)))
  unfold Tag.serialize Tag.deserialize
  apply (codes_u8 _).bind
  apply (codes_u32 _).bind
  apply (codes_u32 _).bind
  exact (codes_u32 _).last rfl

theorem roundTrips_timingTag : RoundTrips SoftUeTimingTag := by
  intro tag
  change Codes (Tag.serialize tag) Tag.deserialize tag (8 + (8 + 8))
  unfold Tag.serialize Tag.deserialize
  apply (codes_u64 _).bind
  apply (codes_u64 _).bind
  exact (codes_u64 _).last rfl

theorem roundTrips_channelTimingTag : RoundTrips SoftUeChannelTimingTag := by
  intro tag
  change Codes (Tag.serialize tag) Tag.deserialize tag (8 + (8 + 8))
  unfold Tag.serialize Tag.deserialize
  apply (codes_u64 _).bind
  apply (codes_u64 _).bind
  exact (codes_u64 _).last rfl

theorem roundTrips_transportTimingTag : RoundTrips SoftUeTransportTimingTag := by
  intro tag
  change Codes (Tag.serialize tag) Tag.deserialize tag (8 + (8 + 1))
  unfold Tag.serialize Tag.deserialize
  apply (codes_u64 _).bind
  apply (codes_u64 _).bind
  apply (codes_u8 _).last
  rw [flagByte_ne_zero]
  rfl

theorem roundTrips_recoveryTag : RoundTrips SoftUeRecoveryTag := by
  intro tag
  change Codes (Tag.serialize tag) Tag.deserialize tag (8 + 8)
  unfold Tag.serialize Tag.deserialize
  apply (codes_u64 _).bind
  exact (codes_u64 _).last rfl

theorem roundTrips_fragmentTag : RoundTrips SoftUeFragmentTag := by
  intro tag
  change Codes (Tag.serialize tag) Tag.deserialize tag (4 + 4)
  unfold Tag.serialize Tag.deserialize
  apply (codes_u32 _).bind
  exact (codes_u32 _).last rfl

theorem roundTrips_transactionTag : RoundTrips SoftUeTransactionTag := by
  intro tag
  change Codes (Tag.serialize tag) Tag.deserialize tag (4 + 4)
  unfold Tag.serialize Tag.deserialize
  apply (codes_u32 _).bind
  exact (codes_u32 _).last rfl

end Wire

/-- What is read back is what was written, for the header and for every tag, and the number of
bytes is the same on both sides. -/
theorem codecs_inverse :
    (∀ h : PDSHeader,
      Codes h.serialize PDSHeader.deserialize (h, h.getSerializedSize) h.getSerializedSize) ∧
      RoundTrips Wire.SoftUeHeaderTag ∧ RoundTrips Wire.SoftUeMetadataTag ∧
      RoundTrips Wire.SoftUeTpdcControlTag ∧ RoundTrips Wire.SoftUeTimingTag ∧
      RoundTrips Wire.SoftUeChannelTimingTag ∧ RoundTrips Wire.SoftUeTransportTimingTag ∧
      RoundTrips Wire.SoftUeRecoveryTag ∧ RoundTrips Wire.SoftUeFragmentTag ∧
      RoundTrips Wire.SoftUeTransactionTag :=
  ⟨PDSHeader.codes, Wire.roundTrips_headerTag, Wire.roundTrips_metadataTag,
    Wire.roundTrips_tpdcControlTag, Wire.roundTrips_timingTag, Wire.roundTrips_channelTimingTag,
    Wire.roundTrips_transportTimingTag, Wire.roundTrips_recoveryTag, Wire.roundTrips_fragmentTag,
    Wire.roundTrips_transactionTag⟩

/-! ## Tags as values -/

/-- The byte of an `OpType`. -/
def OpType.code : OpType → UInt8
  | .send => 1
  | .read => 2
  | .write => 3
  | .deferrable => 4

/-- The `OpType` of a byte, if it has a name. -/
def OpType.ofCode (code : UInt8) : Option OpType :=
  [OpType.send, .read, .write, .deferrable].find? fun opType => opType.code == code

/-- The byte of a `ResponseOpCode`. -/
def ResponseOpCode.code : ResponseOpCode → UInt8
  | .response => 0x00
  | .defaultResponse => 0x01
  | .responseWithData => 0x02
  | .noResponse => 0x03
  | .nack => 0x04

/-- The `ResponseOpCode` of a byte, if it has a name. -/
def ResponseOpCode.ofCode (code : UInt8) : Option ResponseOpCode :=
  [ResponseOpCode.response, .defaultResponse, .responseWithData, .noResponse, .nack].find?
    fun opCode => opCode.code == code

/-- The byte of a `ResponseReturnCode`. -/
def ResponseReturnCode.code : ResponseReturnCode → UInt8
  | .ok => 0x00
  | .partialWrite => 0x01
  | .noMatch => 0x02
  | .invalidOp => 0x03
  | .noBuffer => 0x10
  | .invalidKey => 0x11
  | .accessDenied => 0x12
  | .addrUnreachable => 0x13
  | .securityDomainMismatch => 0x20
  | .integrityCheckFail => 0x21
  | .replayDetected => 0x22
  | .internalError => 0x30
  | .resourceExhaust => 0x31
  | .protocolError => 0x32

/-- The `ResponseReturnCode` of a byte, if it has a name. -/
def ResponseReturnCode.ofCode (code : UInt8) : Option ResponseReturnCode :=
  [ResponseReturnCode.ok, .partialWrite, .noMatch, .invalidOp, .noBuffer, .invalidKey,
    .accessDenied, .addrUnreachable, .securityDomainMismatch, .integrityCheckFail,
    .replayDetected, .internalError, .resourceExhaust, .protocolError].find?
    fun returnCode => returnCode.code == code

theorem OpType.ofCode_code (opType : OpType) : ofCode opType.code = some opType := by
  cases opType <;> rfl

theorem ResponseOpCode.ofCode_code (opCode : ResponseOpCode) :
    ofCode opCode.code = some opCode := by
  cases opCode <;> rfl

theorem ResponseReturnCode.ofCode_code (returnCode : ResponseReturnCode) :
    ofCode returnCode.code = some returnCode := by
  cases returnCode <;> rfl

namespace SoftUeMetadataTag

/-- The numbers of the tag fit into the fields of the source. -/
structure Fits (tag : SoftUeMetadataTag) : Prop where
  messageId : tag.messageId < 2 ^ 32
  requestLength : tag.requestLength < 2 ^ 32
  fragmentOffset : tag.fragmentOffset < 2 ^ 32
  remoteAddress : tag.remoteAddress < 2 ^ 64
  remoteKey : tag.remoteKey < 2 ^ 64
  modifiedLength : tag.modifiedLength < 2 ^ 32

/-- The tag with the fields of the source. -/
def toWire (tag : SoftUeMetadataTag) : Wire.SoftUeMetadataTag where
  opType := tag.operationType.code
  messageId := .ofNat tag.messageId
  requestLength := .ofNat tag.requestLength
  fragmentOffset := .ofNat tag.fragmentOffset
  remoteAddress := .ofNat tag.remoteAddress
  remoteKey := .ofNat tag.remoteKey
  flags := (if tag.isResponse then 0x01 else 0) ||| (if tag.isRetry then 0x02 else 0)
  responseOpCode := tag.responseOpCode.code
  returnCode := tag.returnCode.code
  modifiedLength := .ofNat tag.modifiedLength

/-- The tag as the getters of the source return its fields. -/
def ofWire (wire : Wire.SoftUeMetadataTag) : Option SoftUeMetadataTag := do
  let operationType ← OpType.ofCode wire.opType
  let responseOpCode ← ResponseOpCode.ofCode wire.responseOpCode
  let returnCode ← ResponseReturnCode.ofCode wire.returnCode
  return {
    operationType := operationType
    messageId := wire.messageId.toNat
    requestLength := wire.requestLength.toNat
    fragmentOffset := wire.fragmentOffset.toNat
    remoteAddress := wire.remoteAddress.toNat
    remoteKey := wire.remoteKey.toNat
    isRetry := wire.flags &&& 0x02 != 0
    isResponse := wire.flags &&& 0x01 != 0
    responseOpCode := responseOpCode
    returnCode := returnCode
    modifiedLength := wire.modifiedLength.toNat }

theorem ofWire_toWire {tag : SoftUeMetadataTag} (h : tag.Fits) : ofWire tag.toWire = some tag := by
  have hflags : ∀ isResponse isRetry : Bool,
      (((if isResponse then 0x01 else 0) ||| (if isRetry then 0x02 else 0) : UInt8) &&& 0x02 != 0) =
          isRetry ∧
        (((if isResponse then 0x01 else 0) ||| (if isRetry then 0x02 else 0) : UInt8) &&& 0x01
          != 0) = isResponse := by
    decide
  obtain ⟨hretry, hresponse⟩ := hflags tag.isResponse tag.isRetry
  simp only [ofWire, toWire, OpType.ofCode_code, ResponseOpCode.ofCode_code,
    ResponseReturnCode.ofCode_code, Option.bind_eq_bind, Option.bind_some, hretry, hresponse,
    UInt32.toNat_ofNat_of_lt' h.messageId, UInt32.toNat_ofNat_of_lt' h.requestLength,
    UInt32.toNat_ofNat_of_lt' h.fragmentOffset, UInt64.toNat_ofNat_of_lt' h.remoteAddress,
    UInt64.toNat_ofNat_of_lt' h.remoteKey, UInt32.toNat_ofNat_of_lt' h.modifiedLength]
  rfl

/-- A packet gives back the metadata tag that was added to it. -/
theorem peek_add {tag : SoftUeMetadataTag} (h : tag.Fits) :
    ((addPacketTag tag.toWire).bind peekPacketTag).bind ofWire = some tag := by
  rw [Wire.roundTrips_metadataTag.peekPacketTag_addPacketTag, Option.bind_some, ofWire_toWire h]

end SoftUeMetadataTag
end UeSim
