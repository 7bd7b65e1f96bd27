import UeSim.Common.Types
import UeSim.Support.KeyedMap

/-!
# Receive state of the packet delivery sublayer

The receive contexts of a `PdsManager`, the buffers that the application has
posted, the memory of completed messages and the pool of receive resources.
A context that is not in the map is one that is not `present` in the source.
-/

namespace UeSim

/-! ## Keys -/

/-- `RxMessageKey`: a receive context belongs to one message on one delivery
context. -/
structure RxMessageKey where
  opcode : OpType
  jobId : ℕ
  msgId : ℕ
  srcFep : ℕ
  pdcId : ℕ
  deriving DecidableEq, Repr

/-- `PdsManager::ReceiveLookupKey`. -/
structure ReceiveLookupKey where
  jobId : ℕ
  msgId : ℕ
  peerFep : ℕ
  deriving DecidableEq, Repr

/-- `PdsManager::BuildRxMessageKey` for an incoming packet. -/
def rxMessageKey (opcode : OpType) (header : SoftUeHeaderTag) (tag : SoftUeMetadataTag)
    (pdcId : ℕ) : RxMessageKey where
  opcode := opcode
  jobId := header.jobId
  msgId := toU16 tag.messageId
  srcFep := header.sourceEndpoint
  pdcId := pdcId

/-- `PdsManager::BuildLookupKey` for the message of a receive context. -/
def RxMessageKey.lookupKey (key : RxMessageKey) : ReceiveLookupKey where
  jobId := key.jobId
  msgId := key.msgId
  peerFep := key.srcFep

/-! ## Records -/

/-- `RxMessageMode`. -/
inductive RxMessageMode
  | directExpected
  | unexpectedBuffered
  | unexpectedMatched
  | readResponse
  deriving DecidableEq, Repr

/-- `RxMessageContext`, without the fields that only feed statistics.  The
message fields of the source are those of `key`. -/
structure RxMessageContext where
  key : RxMessageKey
  totalLength : ℕ := 0
  payloadPerPacket : ℕ := 0
  expectedChunks : ℕ := 0
  chunksDone : ℕ := 0
  chunkArrived : List Bool := []
  mode : RxMessageMode := .directExpected
  semanticAccepted : Bool := false
  bufferedComplete : Bool := false
  matchedToRecv : Bool := false
  completed : Bool := false
  failed : Bool := false
  lastActivityMs : ℕ := 0
  targetBaseAddr : ℕ := 0
  targetLength : ℕ := 0
  payloadBuffer : List UInt8 := []
  responseSent : Bool := false
  arrivalReserved : Bool := false
  unexpectedReserved : Bool := false
  readTrackReserved : Bool := false
  retired : Bool := false
  retiredAtMs : ℕ := 0
  deriving DecidableEq, Repr

/-- `PdsManager::PostedReceiveBinding`. -/
structure PostedReceiveBinding where
  baseAddr : ℕ
  length : ℕ
  consumed : Bool := false
  deriving DecidableEq, Repr

/-- `PdsManager::ReadResponseTarget`. -/
structure ReadResponseTarget where
  baseAddr : ℕ
  length : ℕ
  deriving DecidableEq, Repr

/-- `PdsManager::CompletedSendTombstone`. -/
structure CompletedSendTombstone where
  modifiedLength : ℕ
  completedAtMs : ℕ
  deriving DecidableEq, Repr

/-- `PdsManager::RudReceiveResourcePool`, without its failure counters. -/
structure RudReceiveResourcePool where
  maxUnexpectedMessages : ℕ := 64
  maxUnexpectedBytes : ℕ := 2 ^ 20
  maxArrivalBlocks : ℕ := 64
  maxReadTracks : ℕ := 64
  unexpectedMessagesInUse : ℕ := 0
  unexpectedBytesInUse : ℕ := 0
  arrivalBlocksInUse : ℕ := 0
  readTracksInUse : ℕ := 0
  deriving DecidableEq, Repr

/-- A `memcpy` to an address. -/
structure MemoryWrite where
  addr : ℕ
  size : ℕ
  deriving DecidableEq, Repr

/-! ## The manager -/

/-- The receive side of `PdsManager`, with the memory that it writes. -/
structure PdsManager where
  nowNs : ℕ := 0
  payloadMtu : ℕ := 0
  deviceMtu : ℕ := 1500
  receiveStateTimeoutMs : ℕ := 80
  receivePool : RudReceiveResourcePool := {}
  postedReceives : KeyedMap ReceiveLookupKey PostedReceiveBinding := ∅
  readResponseTargets : KeyedMap ReceiveLookupKey ReadResponseTarget := ∅
  rxMessageContexts : KeyedMap RxMessageKey RxMessageContext := ∅
  completedSendTombstones : KeyedMap RxMessageKey CompletedSendTombstone := ∅
  completedSendLookupTombstones : KeyedMap ReceiveLookupKey CompletedSendTombstone := ∅
  memory : ℕ → UInt8 := fun _ => 0
  /-- The writes to `memory`, oldest first. -/
  memoryWrites : List MemoryWrite := []

namespace PdsManager

/-- `PdsManager::NowMs`. -/
def nowMs (s : PdsManager) : ℕ := s.nowNs / 1000000

/-- `PdsManager::ComputePayloadPerPacket`. -/
def computePayloadPerPacket (s : PdsManager) : ℕ :=
  if 0 < s.payloadMtu then s.payloadMtu else payloadCapacityFromDeviceMtu s.deviceMtu

/-- `PdsManager::ComputeExpectedChunks`.  The rounding term is added in
`uint32_t`, so the sum can wrap. -/
def computeExpectedChunks (s : PdsManager) (totalLength : ℕ) : ℕ :=
  if totalLength = 0 then 1
  else toU32 (totalLength + s.computePayloadPerPacket - 1) / s.computePayloadPerPacket

/-- The receive posted for a message, if its buffer is not null. -/
def postedReceive (s : PdsManager) (lookup : ReceiveLookupKey) :
    Option PostedReceiveBinding :=
  (s.postedReceives.lookup lookup).filter (·.baseAddr ≠ 0)

/-- The tombstone that answers for a completed SEND: first the one of the
receive context, then the one of the message. -/
def completedSend (s : PdsManager) (key : RxMessageKey) : Option CompletedSendTombstone :=
  (s.completedSendTombstones.lookup key).or
    (s.completedSendLookupTombstones.lookup key.lookupKey)

/-- The lifetime of receive state that nothing touches. -/
def receiveTtl (s : PdsManager) : ℕ := max 500 (s.receiveStateTimeoutMs * 4)

end PdsManager
end UeSim
