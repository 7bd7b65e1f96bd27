import UeSim.Ses.Dispatch
import UeSim.Support.Transition

/-!
# Submission, responses, timeouts and retries

The entry points of `SesManager` as a requester, and the transition system of
one manager: its actions are the calls and the simulator events that change
the state of its requests.
-/

namespace UeSim

/-- `PdcSesResponse`.  There is no packet when the packet or its semantic tags
are missing; `auxTimestampNs` is zero when the timing tag carries no valid
time; `rxResult` is what the packet delivery sublayer makes of the packet when
it carries read data. -/
structure PdcSesResponse where
  packet : Option TaggedPacket
  auxTimestampNs : ℕ := 0
  rxResult : PdcRxSemanticResult := {}
  deriving DecidableEq, Repr

namespace SesManager

/-! ## Submission -/

/-- `SesManager::GenerateMessageId`: the new value of `m_currentMessageId` and
the identifier. -/
def generateMessageId (currentMessageId : ℕ) (m : ExtendedOperationMetadata) : ℕ × ℕ :=
  if m.messagesId ≠ 0 then (currentMessageId, toU16 m.messagesId)
  else
    let id := if 65535 ≤ currentMessageId then 1 else currentMessageId + 1
    (id, id)

/-- The defaults that `ProcessSendRequest` fills into the metadata, with the
new value of `m_currentMessageId`. -/
def fillMetadata (currentMessageId : ℕ) (m : ExtendedOperationMetadata) :
    ℕ × ExtendedOperationMetadata :=
  let job :=
    if m.jobId = 0 then
      let generated := generateMessageId currentMessageId m
      (generated.1, { m with jobId := toU32 ((m.sourceNodeId <<< 16) ^^^ (generated.2 + 1)) })
    else (currentMessageId, m)
  let message :=
    if job.2.messagesId = 0 then
      let generated := generateMessageId job.1 job.2
      (generated.1, { job.2 with messagesId := generated.2 })
    else job
  (message.1,
    { message.2 with
      deliveryMode := if 3 < message.2.deliveryMode then 0 else message.2.deliveryMode })

/-- `SesManager::ValidateAuthorization`. -/
def validateAuthorization (s : SesManager) (m : ExtendedOperationMetadata) : Bool :=
  match s.permissionChecker with
  | some checker => checker m.sourceNodeId m.jobId
  | none => s.allowAllJobs || m.jobId ∈ s.authorizedJobs

/-- `SesManager::ValidateOperationMetadata`. -/
def validateOperationMetadata (s : SesManager) (m : ExtendedOperationMetadata) : Bool :=
  m.isValid && m.jobId ≠ 0 && m.messagesId ≠ 0 && m.sourceNodeId ≠ 0 && m.destNodeId ≠ 0 &&
    s.validateAuthorization m &&
    !((m.opType = .read || m.opType = .write) && m.rkey = 0) &&
    !(m.payloadLength = 0 && m.opType ≠ .read)

/-- `SesManager::AuthorizeJob`. -/
def authorizeJob (s : SesManager) (jobId : ℕ) : SesManager :=
  if jobId ≠ 0 then { s with authorizedJobs := s.authorizedJobs.insert jobId } else s

/-- `SesManager::BuildRequestKey` for an outgoing request. -/
def requestKey (m : ExtendedOperationMetadata) : RequestKey where
  jobId := m.jobId
  msgId := toU16 m.messagesId
  peerFep := m.destNodeId

/-- The cancellation of a pending retry event when a retry is submitted. -/
def cancelPendingRetry (s : SesManager) (key : RequestKey)
    (m : ExtendedOperationMetadata) : SesManager :=
  if m.isRetry && s.retryPending key then
    { s with retryStates := s.retryStates.erase key }
  else s

/-- The record that `ProcessSendRequest` builds from scratch.  Of the record it
replaces, `old`, it keeps the retry counters, the generations and, for a retry,
the creation time. -/
def rebuiltRequest (s : SesManager) (m : ExtendedOperationMetadata) (packet : Packet)
    (old : Option RequestLifecycleState) : RequestLifecycleState :=
  let createdAtNs := old.elim 0 (·.createdAtNs)
  { metadata := m
    packet := packet
    lastRetryCount := old.elim 0 (·.lastRetryCount)
    timeoutRetryCount := old.elim 0 (·.timeoutRetryCount)
    noMatchRetryCount := old.elim 0 (·.noMatchRetryCount)
    lastRetryTrigger := old.elim .none (·.lastRetryTrigger)
    retryExhausted := old.elim false (·.retryExhausted)
    attemptGeneration := old.elim 0 (·.attemptGeneration)
    lastResponseGeneration := old.elim 0 (·.lastResponseGeneration)
    createdAtNs := if m.isRetry && createdAtNs ≠ 0 then createdAtNs else s.nowNs
    receiveConsumeCompleteNs :=
      if m.isRetry then old.elim 0 (·.receiveConsumeCompleteNs) else 0
    blockedQueueRedispatchCount :=
      if m.isRetry then old.elim 0 (·.blockedQueueRedispatchCount) else 0
    readResponseTargetRegistered :=
      m.isRetry && old.elim false (·.readResponseTargetRegistered)
    pendingPsns := m.calculatePacketCount s.getPayloadMtu
    totalPacketCount := m.calculatePacketCount s.getPayloadMtu }

/-- The step of `ProcessSendRequest` that replaces the record of the request
and counts the start of an operation. -/
def rebuildRequest (s : SesManager) (key : RequestKey) (m : ExtendedOperationMetadata)
    (packet : Packet) : SesManager :=
  let old := s.requestStates.lookup key
  let s' := { s with
    requestStates := s.requestStates.insert key (s.rebuiltRequest m packet old) }
  if !m.isRetry || old.elim 0 (·.createdAtNs) = 0 then s'.recordSemanticStart m.opType
  else s'

/-- The part of `ProcessSendRequest` after its validations. -/
def submitRequest (env : Environment) (s : SesManager) (m : ExtendedOperationMetadata)
    (packet : Packet) : SesManager × Bool :=
  let key := requestKey m
  let s := (s.authorizeJob m.jobId).cancelPendingRetry key m
  let result := (s.rebuildRequest key m packet).dispatchRequestPackets env key
  if !result.2 then (result.1.handleDispatchFailure key, false)
  else
    let s := result.1.completeWithoutResponse key
    ({ s with totalSuccessfulRequests := s.totalSuccessfulRequests + 1 }, true)

/-- The packet and the metadata that `ProcessSendRequest` validates, when there
is a packet: a READ without one gets a packet of one byte. -/
def preparedRequest (m : ExtendedOperationMetadata) (packet : Option Packet) :
    Option (ExtendedOperationMetadata × Packet) :=
  let requestPacket : Option Packet := match packet with
    | some p => some p
    | none => if m.opType = OpType.read then some [0] else none
  requestPacket.map fun p => ({ m with payloadLength := max m.payloadLength p.length }, p)

/-- The manager after it counted a submission and filled its metadata. -/
def submissionCounted (s : SesManager) (m : ExtendedOperationMetadata) : SesManager :=
  { s with
    totalSendRequests := s.totalSendRequests + 1
    currentMessageId := (fillMetadata s.currentMessageId m).1 }

/-- The manager after it counted an error. -/
def errorCounted (s : SesManager) : SesManager :=
  { s with totalErrors := s.totalErrors + 1 }

/-- `SesManager::ProcessSendRequest`. -/
def processSendRequest (env : Environment) (s : SesManager) (m : ExtendedOperationMetadata)
    (packet : Option Packet) : SesManager × Bool :=
  match preparedRequest (fillMetadata s.currentMessageId m).2 packet with
  | none => ((s.submissionCounted m).errorCounted, false)
  | some (m', p') =>
      if (s.submissionCounted m).validateOperationMetadata m' then
        (s.submissionCounted m).submitRequest env m' p'
      else ((s.submissionCounted m).errorCounted, false)

/-! ## Retries and timeouts -/

/-- The record of a request whose retry is being scheduled. -/
def retryMarked (trigger : RetryTrigger) (retryCount : ℕ) (state : RequestLifecycleState) :
    RequestLifecycleState :=
  { state with
    lastRetryCount := retryCount
    lastRetryTrigger := trigger
    retryExhausted := false
    waitingResponse := false
    dispatchStarted := false
    pendingPsns := 0
    responseDeadlineMs := 0
    waitingResponseGeneration := 0
    timeoutRetryCount :=
      if trigger = .responseTimeout then toU16 (state.timeoutRetryCount + 1)
      else state.timeoutRetryCount
    noMatchRetryCount :=
      if trigger = .rcNoMatch then toU16 (state.noMatchRetryCount + 1)
      else state.noMatchRetryCount }

/-- The record of a request that ran out of retries. -/
def retriesExhausted (state : RequestLifecycleState) : RequestLifecycleState :=
  { state with retryExhausted := true }

/-- The retry entry of a request whose retry event is pending. -/
def armedRetry (s : SesManager) (trigger : RetryTrigger) (retryCount : ℕ)
    (state : RequestLifecycleState) : RetryState where
  metadata := { state.metadata with isRetry := true }
  packet := state.packet
  retryCount := retryCount
  nextRetryMs := s.nowMs + s.retryTimeoutMs
  scheduledRetryGeneration := state.attemptGeneration
  trigger := trigger
  eventPending := true

/-- `SesManager::ScheduleRetry`. -/
def scheduleRetry (s : SesManager) (key : RequestKey) (trigger : RetryTrigger) : SesManager :=
  match s.requestStates.lookup key with
  | none => s
  | some state =>
      let retryCount := toU16 (state.lastRetryCount + 1)
      let marked := s.modifyRequest key (retryMarked trigger retryCount)
      if maxRtoRetxCnt < retryCount then
        marked.modifyRequest key retriesExhausted
          |>.setRequestCompletionOutcome key .internalError 0
          |>.terminalizeRequest key
            (if trigger = .responseTimeout then .responseTimeoutExhausted else .retryExhausted)
      else
        { marked with
          retryStates := s.retryStates.insert key (s.armedRetry trigger retryCount state) }

/-- The retry entry after the re-submission that it caused. -/
def refreshRetry (s : SesManager) (key : RequestKey) : SesManager :=
  { s with
    retryStates := KeyedMap.modify s.retryStates key fun retry =>
      match s.requestStates.lookup key with
      | none => { retry with waitingResponse := false }
      | some state =>
          { retry with
            waitingResponse := state.waitingResponse
            nextRetryMs := state.responseDeadlineMs
            scheduledRetryGeneration := state.attemptGeneration } }

/-- Whether the retry of a request belongs to an attempt that is over. -/
def retryStale (s : SesManager) (key : RequestKey) (retry : RetryState) : Bool :=
  match s.requestStates.lookup key with
  | none => false
  | some state => state.attemptGeneration ≠ retry.scheduledRetryGeneration

/-- The manager when the retry event of `key` has just fired: the event is no
longer pending. -/
def retryFired (s : SesManager) (key : RequestKey) (retry : RetryState) : SesManager :=
  { s with retryStates := s.retryStates.insert key { retry with eventPending := false } }

/-- The manager without the retry entry of `key`. -/
def retryDropped (s : SesManager) (key : RequestKey) : SesManager :=
  { s with retryStates := s.retryStates.erase key }

/-- `SesManager::ExecuteRetry`, as the simulator runs it when the retry event
of `key` fires. -/
def executeRetry (env : Environment) (s : SesManager) (key : RequestKey) : SesManager :=
  match s.retryStates.lookup key with
  | none => s
  | some retry =>
      if s.retryStale key retry then (s.retryFired key retry).retryDropped key
      else
        ((s.retryFired key retry).processSendRequest env retry.metadata
          (some retry.packet)).1.refreshRetry key

/-- The record of a request whose response timeout was dropped. -/
def deadlineCleared (state : RequestLifecycleState) : RequestLifecycleState :=
  { state with responseDeadlineMs := 0 }

/-- The body of the loop of `SesManager::DoPeriodicProcessing`. -/
def checkResponseTimeout (s : SesManager) (key : RequestKey) : SesManager :=
  match s.requestStates.lookup key with
  | none => s
  | some state =>
      if state.terminalized || !state.waitingResponse || state.responseDeadlineMs = 0 then s
      else if s.retryPending key then s
      else if state.waitingResponseGeneration ≠ state.attemptGeneration then
        s.modifyRequest key deadlineCleared
      else if s.nowMs < state.responseDeadlineMs then s
      else if !s.retryEnabled then
        s.modifyRequest key retriesExhausted
          |>.setRequestCompletionOutcome key .internalError 0
          |>.terminalizeRequest key .responseTimeoutExhausted
      else s.scheduleRetry key .responseTimeout

/-- `SesManager::DoPeriodicProcessing`, as far as it concerns requests. -/
def doPeriodicProcessing (s : SesManager) : SesManager :=
  s.requestStates.keys.foldl checkResponseTimeout s

/-! ## Responses -/

/-- `SesManager::BuildRequestKey` for an incoming packet. -/
def packetKey (p : TaggedPacket) : RequestKey where
  jobId := p.header.jobId
  msgId := toU16 p.metadata.messageId
  peerFep := p.header.sourceEndpoint

/-- The consume time that a successful SEND response makes known. -/
def consumeObserved (auxTimestampNs : ℕ) (state : RequestLifecycleState) :
    RequestLifecycleState :=
  { state with
    receiveConsumeCompleteNs :=
      if auxTimestampNs ≠ 0 ∧ (state.receiveConsumeCompleteNs = 0 ∨
          auxTimestampNs < state.receiveConsumeCompleteNs) then auxTimestampNs
      else state.receiveConsumeCompleteNs }

/-- The reaction to the receiver having consumed a SEND: the request gives its
admission back before it is closed. -/
def noteSendConsumed (s : SesManager) (key : RequestKey) (auxTimestampNs : ℕ) : SesManager :=
  let s := s.modifyRequest key (consumeObserved auxTimestampNs)
  match s.requestStates.lookup key with
  | none => s
  | some state =>
      if state.sendAdmissionReserved && state.receiveConsumeCompleteNs ≠ 0 then
        s.releaseDispatchBudget key
      else s

/-- The record of a READ whose response data is complete. -/
def readDataComplete (state : RequestLifecycleState) : RequestLifecycleState :=
  { state with
    readResponseTargetRegistered := false
    lastResponseGeneration := state.attemptGeneration }

/-- The record of a request that waits for more response data. -/
def readDataAwaited (s : SesManager) (state : RequestLifecycleState) :
    RequestLifecycleState :=
  s.armResponseTimeout
    { state with
      waitingResponse := true
      waitingResponseGeneration := state.attemptGeneration }

/-- The record of a request whose response was a success without data. -/
def okObserved (state : RequestLifecycleState) : RequestLifecycleState :=
  { state with
    waitingResponse := false
    pendingPsns := 0
    responseDeadlineMs := 0
    lastResponseGeneration := state.attemptGeneration }

/-- The reaction to a successful response that carries read data. -/
def receiveReadData (s : SesManager) (key : RequestKey) (state : RequestLifecycleState)
    (tag : SoftUeMetadataTag) (rx : PdcRxSemanticResult) : SesManager :=
  if !rx.handled then s
  else if rx.failed || rx.returnCode ≠ .ok then
    (s.setRequestCompletionOutcome key rx.returnCode 0).terminalizeRequest key .protocolError
  else if rx.deliveryComplete then
    s.modifyRequest key readDataComplete
      |>.setRequestCompletionOutcome key tag.returnCode
        (if tag.modifiedLength ≠ 0 then tag.modifiedLength else state.metadata.payloadBytes)
      |>.terminalizeRequest key .rcOkResponse
  else
    s.modifyRequest key s.readDataAwaited

/-- The reaction to a successful response without data: the request is
closed. -/
def receiveOk (s : SesManager) (key : RequestKey) (state : RequestLifecycleState)
    (tag : SoftUeMetadataTag) : SesManager :=
  s.modifyRequest key okObserved
    |>.setRequestCompletionOutcome key tag.returnCode state.metadata.payloadBytes
    |>.terminalizeRequest key .rcOkResponse

/-- The reaction of a live request to a response. -/
def receiveLiveResponse (s : SesManager) (key : RequestKey) (state : RequestLifecycleState)
    (response : PdcSesResponse) (tag : SoftUeMetadataTag) : SesManager :=
  if tag.returnCode = .ok then
    let s := if tag.operationType = .send then s.noteSendConsumed key response.auxTimestampNs
      else s
    if tag.responseOpCode = .responseWithData then
      s.receiveReadData key state tag response.rxResult
    else s.receiveOk key state tag
  else if tag.returnCode = .noMatch ∧ tag.operationType = .send then
    if !s.retryEnabled then
      (s.setRequestCompletionOutcome key tag.returnCode 0).terminalizeRequest key
        .rcNoMatchTerminal
    else s.scheduleRetry key .rcNoMatch
  else
    (s.setRequestCompletionOutcome key tag.returnCode 0).terminalizeRequest key .protocolError

/-- The manager after it counted a response. -/
def responseCounted (s : SesManager) : SesManager :=
  { s with totalResponses := s.totalResponses + 1 }

/-- The part of `ProcessReceiveResponse` for a packet with semantic tags. -/
def receiveResponsePacket (s : SesManager) (response : PdcSesResponse)
    (packet : TaggedPacket) : SesManager :=
  if packet.metadata.isResponse then
    match s.requestStates.lookup (packetKey packet) with
    | none => s
    | some state =>
        if state.terminalized then s
        else s.receiveLiveResponse (packetKey packet) state response packet.metadata
  else s.errorCounted

/-- `SesManager::ProcessReceiveResponse`. -/
def processReceiveResponse (s : SesManager) (response : PdcSesResponse) : SesManager :=
  match response.packet with
  | none => s.responseCounted.errorCounted
  | some packet => s.responseCounted.receiveResponsePacket response packet

end SesManager
end UeSim
