import UeSim.Common.Types
import UeSim.Pds.Budget
import UeSim.Ses.BlockedPeers

/-!
# State of the semantic sublayer manager

The records of `SesManager` that its control flow depends on, together with
the two budgets of its `PdsManager`.  Simulator events appear as flags: an
event handle is pending until the event fires or is cancelled.
-/

namespace UeSim

/-! ## Request records -/

/-- `SesManager::RequestLifecycleState`, without the timing samples that only
feed statistics. -/
structure RequestLifecycleState where
  metadata : ExtendedOperationMetadata
  packet : Packet
  waitingResponse : Bool := false
  dispatchStarted : Bool := false
  attemptGeneration : ℕ := 0
  waitingResponseGeneration : ℕ := 0
  lastResponseGeneration : ℕ := 0
  readResponseTargetRegistered : Bool := false
  blockedOnCreditGate : Bool := false
  blockedQueueLinked : Bool := false
  blockedQueueRedispatchCount : ℕ := 0
  sendAdmissionReserved : Bool := false
  sendAdmissionReservedBytes : ℕ := 0
  writeBudgetReserved : Bool := false
  writeBudgetReservedBytes : ℕ := 0
  terminalized : Bool := false
  terminalReason : RequestTerminalReason := .none
  responseDeadlineMs : ℕ := 0
  pendingPsns : ℕ := 0
  lastRetryCount : ℕ := 0
  timeoutRetryCount : ℕ := 0
  noMatchRetryCount : ℕ := 0
  lastRetryTrigger : RetryTrigger := .none
  retryExhausted : Bool := false
  totalPacketCount : ℕ := 0
  createdAtNs : ℕ := 0
  terminalizedAtNs : ℕ := 0
  receiveConsumeCompleteNs : ℕ := 0
  finalReturnCode : ResponseReturnCode := .ok
  completedPayloadBytes : ℕ := 0
  countedInSemanticStats : Bool := false
  deriving DecidableEq, Repr

/-- `SesManager::RetryState`. -/
structure RetryState where
  metadata : ExtendedOperationMetadata
  packet : Packet
  waitingResponse : Bool := false
  retryCount : ℕ := 0
  nextRetryMs : ℕ := 0
  scheduledRetryGeneration : ℕ := 0
  trigger : RetryTrigger := .none
  eventPending : Bool := false
  deriving DecidableEq, Repr

/-- `SesManager::SimulatedMemoryRegion`. -/
structure SimulatedMemoryRegion where
  startAddr : ℕ
  length : ℕ
  readable : Bool := true
  writable : Bool := true
  deriving DecidableEq, Repr

/-! ## Statistics -/

/-- `SoftUeSemanticStats`; the in-flight count is computed on demand. -/
structure SoftUeSemanticStats where
  opsStartedTotal : ℕ := 0
  opsTerminalTotal : ℕ := 0
  opsSuccessTotal : ℕ := 0
  opsFailedTotal : ℕ := 0
  opsInFlight : ℕ := 0
  sendStartedTotal : ℕ := 0
  writeStartedTotal : ℕ := 0
  readStartedTotal : ℕ := 0
  sendSuccessTotal : ℕ := 0
  writeSuccessTotal : ℕ := 0
  readSuccessTotal : ℕ := 0
  sendSuccessBytesTotal : ℕ := 0
  writeSuccessBytesTotal : ℕ := 0
  readSuccessBytesTotal : ℕ := 0
  successLatencySamples : ℕ := 0
  successLatencyMaxNs : ℕ := 0
  deriving DecidableEq, Repr

/-- `SoftUeCompletionRecord`, up to the stage timings and the failure text. -/
structure SoftUeCompletionRecord where
  timestampNs : ℕ
  key : RequestKey
  opcode : OpType
  success : Bool
  returnCode : ResponseReturnCode
  terminalReason : RequestTerminalReason
  payloadBytes : ℕ
  latencyNs : ℕ
  retryCount : ℕ
  deriving DecidableEq, Repr

/-- `kCompletionRecordLimit`. -/
def kCompletionRecordLimit : ℕ := 1024

/-! ## The manager -/

/-- `SesManager` with the budgets of its `PdsManager`. -/
structure SesManager where
  nowNs : ℕ := 0
  payloadMtu : ℕ := 0
  deviceMtu : ℕ := 1500
  retryEnabled : Bool := true
  retryTimeoutMs : ℕ := 80
  allowAllJobs : Bool := true
  authorizedJobs : List ℕ := []
  permissionChecker : Option (ℕ → ℕ → Bool) := none
  strictValidation : Bool := true
  localFep : ℕ := 0
  memoryRegions : KeyedMap ℕ SimulatedMemoryRegion := ∅
  currentMessageId : ℕ := 0
  requestStates : KeyedMap RequestKey RequestLifecycleState := ∅
  retryStates : KeyedMap RequestKey RetryState := ∅
  blockedPeerQueues : BlockedPeerQueues := (∅ : KeyedMap ℕ BlockedPeerQueueState)
  /-- `PdsManager::m_sendAdmissionBudget`. -/
  sendAdmissionBudget : SemanticBudgetState := {}
  /-- `PdsManager::m_writeBudget`. -/
  writeBudget : SemanticBudgetState := {}
  semanticStats : SoftUeSemanticStats := {}
  successLatencyTotalNs : ℕ := 0
  completionRecords : List SoftUeCompletionRecord := []
  /-- The records passed to `SoftUeNetDevice::NotifyProtocolCompletion`. -/
  protocolCompletionTrace : List SoftUeCompletionRecord := []
  /-- The packets handed to the packet delivery sublayer, oldest first. -/
  dispatched : List TaggedPacket := []
  /-- The number of calls of `PdsManager::DispatchPacket`. -/
  dispatchCalls : ℕ := 0
  /-- The semantic responses sent as a responder, oldest first. -/
  responses : List TaggedPacket := []
  /-- The memory of the process, by address. -/
  memory : ℕ → UInt8 := fun _ => 0
  totalSendRequests : ℕ := 0
  totalSuccessfulRequests : ℕ := 0
  totalResponses : ℕ := 0
  totalErrors : ℕ := 0
  totalPacketsGenerated : ℕ := 0

/-- What the layers below decide: the result of each call of
`PdsManager::DispatchPacket`, by its index. -/
structure Environment where
  dispatchPacket : ℕ → Bool

namespace SesManager

/-! ## Clock and sizes -/

/-- `SesManager::NowMs`. -/
def nowMs (s : SesManager) : ℕ := s.nowNs / 1000000

/-- `SesManager::GetPayloadMtu`. -/
def getPayloadMtu (s : SesManager) : ℕ :=
  if 0 < s.payloadMtu then s.payloadMtu else payloadCapacityFromDeviceMtu s.deviceMtu

theorem getPayloadMtu_pos (s : SesManager) : 0 < s.getPayloadMtu := by
  unfold getPayloadMtu payloadCapacityFromDeviceMtu
  split
  · assumption
  · split <;> omega

/-! ## Access to the per-request and per-peer records -/

/-- Change the record of a request, if it exists. -/
def modifyRequest (s : SesManager) (key : RequestKey)
    (f : RequestLifecycleState → RequestLifecycleState) : SesManager :=
  { s with requestStates := KeyedMap.modify s.requestStates key f }

/-- The keys waiting in the blocked queue of a peer, head first. -/
def blockedQueue (s : SesManager) (peerFep : ℕ) : List RequestKey :=
  s.blockedPeerQueues.requests peerFep

/-- Whether the blocked queue of a peer has a pending wakeup event. -/
def wakeupPending (s : SesManager) (peerFep : ℕ) : Bool :=
  s.blockedPeerQueues.wakeupPending peerFep

/-- Whether a retry event of the request is pending. -/
def retryPending (s : SesManager) (key : RequestKey) : Bool :=
  (s.retryStates.lookup key).elim false (·.eventPending)

end SesManager

end UeSim
