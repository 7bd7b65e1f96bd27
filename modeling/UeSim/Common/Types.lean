import Mathlib.Data.List.Basic
import Mathlib.Order.Nat
import Mathlib.Algebra.Order.Ring.Nat

/-!
# Common transport-layer types

The enumerations, keys, tags and packets shared by the semantic sublayer, the
packet delivery sublayer and the delivery contexts.  Fields of machine-integer
type are natural numbers; where the code relies on a width, the conversion
`toU16`, `toU32` or `toU64` is written out.
-/

namespace UeSim

/-! ## Machine integers -/

/-- Conversion to `uint16_t`. -/
def toU16 (n : ℕ) : ℕ := n % 2 ^ 16

/-- Conversion to `uint32_t`. -/
def toU32 (n : ℕ) : ℕ := n % 2 ^ 32

/-- Conversion to `uint64_t`. -/
def toU64 (n : ℕ) : ℕ := n % 2 ^ 64

/-- Subtraction on `uint32_t`. -/
def subU32 (a b : ℕ) : ℕ := toU32 (a + (2 ^ 32 - toU32 b))

theorem toU32_of_lt {n : ℕ} (h : n < 2 ^ 32) : toU32 n = n :=
  Nat.mod_eq_of_lt h

theorem toU32_lt (n : ℕ) : toU32 n < 2 ^ 32 :=
  Nat.mod_lt _ (Nat.two_pow_pos 32)

theorem toU64_of_lt {n : ℕ} (h : n < 2 ^ 64) : toU64 n = n :=
  Nat.mod_eq_of_lt h

theorem subU32_of_le {a b : ℕ} (ha : a < 2 ^ 32) (hba : b ≤ a) :
    subU32 a b = a - b := by
  unfold subU32
  rw [toU32_of_lt (Nat.lt_of_le_of_lt hba ha)]
  unfold toU32
  omega

/-! ## Enumerations -/

/-- The kind of a semantic operation. -/
inductive OpType
  | send
  | read
  | write
  | deferrable
  deriving DecidableEq, Repr

/-- The return codes of semantic responses that the modelled code produces. -/
inductive ResponseReturnCode
  | ok
  | partialWrite
  | noMatch
  | invalidOp
  | noBuffer
  | invalidKey
  | accessDenied
  | addrUnreachable
  | securityDomainMismatch
  | integrityCheckFail
  | replayDetected
  | internalError
  | resourceExhaust
  | protocolError
  deriving DecidableEq, Repr

/-- The operation codes of semantic responses. -/
inductive ResponseOpCode
  | response
  | defaultResponse
  | responseWithData
  | noResponse
  | nack
  deriving DecidableEq, Repr

/-- Why a request reached its terminal state. -/
inductive RequestTerminalReason
  | none
  | rcOkResponse
  | rcNoMatchTerminal
  | retryExhausted
  | invalidRequest
  | protocolError
  | responseTimeoutExhausted
  deriving DecidableEq, Repr

/-- What made a whole-message retry necessary. -/
inductive RetryTrigger
  | none
  | rcNoMatch
  | responseTimeout
  deriving DecidableEq, Repr

/-- `Max_RTO_Retx_Cnt`. -/
def maxRtoRetxCnt : ℕ := 5

/-! ## Packets and tags -/

/-- The bytes of a packet. -/
abbrev Packet := List UInt8

/-- `Packet::CreateFragment`.  A range that runs past the end of the packet
leaves nothing, because the number of bytes to remove at the end wraps. -/
def Packet.createFragment (p : Packet) (start length : ℕ) : Packet :=
  if start + length ≤ p.length then (p.drop start).take length else []

/-- `PayloadCapacityFromDeviceMtu`. -/
def payloadCapacityFromDeviceMtu (mtu : ℕ) : ℕ :=
  if mtu ≤ 128 then 1 else mtu - 128

/-- `SoftUeHeaderTag`. -/
structure SoftUeHeaderTag where
  isRudReq : Bool := true
  pdcId : ℕ := 0
  psn : ℕ := 0
  sourceEndpoint : ℕ := 0
  destinationEndpoint : ℕ := 0
  jobId : ℕ := 0
  deriving DecidableEq, Repr

/-- `SoftUeMetadataTag`. -/
structure SoftUeMetadataTag where
  operationType : OpType := .send
  messageId : ℕ := 0
  requestLength : ℕ := 0
  fragmentOffset : ℕ := 0
  remoteAddress : ℕ := 0
  remoteKey : ℕ := 0
  isRetry : Bool := false
  isResponse : Bool := false
  responseOpCode : ResponseOpCode := .response
  returnCode : ResponseReturnCode := .ok
  modifiedLength : ℕ := 0
  deriving DecidableEq, Repr

/-- A packet with the semantic tags that travel with it. -/
structure TaggedPacket where
  header : SoftUeHeaderTag
  metadata : SoftUeMetadataTag
  bytes : Packet
  deriving DecidableEq, Repr

/-- `PdcRxSemanticResult`: what the packet delivery sublayer makes of a packet
and the answer that it asks for. -/
structure PdcRxSemanticResult where
  handled : Bool := false
  responseReady : Bool := false
  responseOpCode : ResponseOpCode := .response
  returnCode : ResponseReturnCode := .ok
  modifiedLength : ℕ := 0
  semanticAccepted : Bool := false
  matchedToRecv : Bool := false
  deliveryComplete : Bool := false
  failed : Bool := false
  receiveConsumeCompleteNs : ℕ := 0
  deriving DecidableEq, Repr

/-! ## Operation metadata -/

/-- `ExtendedOperationMetadata`, with the fields the modelled code reads. -/
structure ExtendedOperationMetadata where
  opType : OpType := .send
  deliveryMode : ℕ := 0
  rkey : ℕ := 0
  startAddr : ℕ := 0
  payloadLength : ℕ := 0
  immData : ℕ := 0
  jobId : ℕ := 0
  messagesId : ℕ := 0
  sourceNodeId : ℕ := 0
  sourceEndpointId : ℕ := 0
  destNodeId : ℕ := 0
  destEndpointId : ℕ := 0
  expectResponse : Bool := true
  isRetry : Bool := false
  deriving DecidableEq, Repr

namespace ExtendedOperationMetadata

/-- `ExtendedOperationMetadata::IsValid`. -/
def isValid (m : ExtendedOperationMetadata) : Bool :=
  (0 < m.sourceNodeId || 0 < m.destNodeId) &&
    (0 < m.sourceEndpointId || 0 < m.destEndpointId)

/-- The payload length as the budgets and the fragment loop see it. -/
def payloadBytes (m : ExtendedOperationMetadata) : ℕ := toU32 m.payloadLength

/-- `ExtendedOperationMetadata::CalculatePacketCount`.  The rounding term is
added in `uint32_t`, so the sum can wrap. -/
def calculatePacketCount (m : ExtendedOperationMetadata) (payloadCapacity : ℕ) : ℕ :=
  if m.payloadBytes = 0 then 1
  else if payloadCapacity = 0 then 1
  else toU32 (m.payloadBytes + payloadCapacity - 1) / payloadCapacity

end ExtendedOperationMetadata

/-- `SesManager::RequestKey`. -/
structure RequestKey where
  jobId : ℕ
  msgId : ℕ
  peerFep : ℕ
  deriving DecidableEq, Repr

end UeSim
