import UeSim.Ses.State

/-!
# Dispatch, blocked queues and termination

The functions of `SesManager` that reserve and release budgets, queue blocked
requests, emit the fragments of a request, and close it.  A boolean result of
the source is the second component of the result here.
-/

namespace UeSim
namespace SesManager

/-! ## Blocked queues -/

/-- `SesManager::ScheduleBlockedPeerWakeup`. -/
def scheduleBlockedPeerWakeup (s : SesManager) (peerFep : ℕ) : SesManager :=
  { s with blockedPeerQueues := s.blockedPeerQueues.wake peerFep }

/-- `SesManager::NotifyPeerCreditsAvailable`.  The drain of pending read
responses that the source schedules here does not touch requests. -/
def notifyPeerCreditsAvailable (s : SesManager) (peerFep : ℕ) : SesManager :=
  s.scheduleBlockedPeerWakeup peerFep

/-- The record of a request that joined its blocked queue. -/
def linked (state : RequestLifecycleState) : RequestLifecycleState :=
  { state with blockedQueueLinked := true, blockedOnCreditGate := true }

/-- `SesManager::EnqueueBlockedRequest`. -/
def enqueueBlockedRequest (s : SesManager) (key : RequestKey) : SesManager :=
  match s.requestStates.lookup key with
  | none => s
  | some state =>
      if state.blockedQueueLinked then s
      else
        { s with
          requestStates := s.requestStates.insert key (linked state)
          blockedPeerQueues := s.blockedPeerQueues.push key }

/-- The record of a request that left its blocked queue. -/
def unlinked (state : RequestLifecycleState) : RequestLifecycleState :=
  { state with blockedQueueLinked := false, blockedOnCreditGate := false }

/-- `SesManager::RemoveBlockedRequest`. -/
def removeBlockedRequest (s : SesManager) (key : RequestKey) : SesManager :=
  { s with
    requestStates := KeyedMap.modify s.requestStates key unlinked
    blockedPeerQueues := s.blockedPeerQueues.remove key }

/-- `SesManager::IsBlockedQueueHead`. -/
def isBlockedQueueHead (s : SesManager) (key : RequestKey) : Bool :=
  (s.blockedQueue key.peerFep).head? = some key

/-! ## Budgets -/

/-- The record of a request that holds a send-admission reservation. -/
def sendReserved (state : RequestLifecycleState) : RequestLifecycleState :=
  { state with
    sendAdmissionReserved := true
    sendAdmissionReservedBytes := state.metadata.payloadBytes }

/-- The record of a request that holds a write reservation. -/
def writeReserved (state : RequestLifecycleState) : RequestLifecycleState :=
  { state with
    writeBudgetReserved := true
    writeBudgetReservedBytes := state.metadata.payloadBytes }

/-- `SesManager::TryReserveDispatchBudget`; there is no result when the
reservation fails. -/
def tryReserveDispatchBudget (s : SesManager) (key : RequestKey)
    (state : RequestLifecycleState) : Option SesManager :=
  match state.metadata.opType with
  | .send =>
      if state.sendAdmissionReserved then some s
      else
        (s.sendAdmissionBudget.tryReserve state.metadata.payloadBytes).map fun budget =>
          { s with
            sendAdmissionBudget := budget
            requestStates := s.requestStates.insert key (sendReserved state) }
  | .write =>
      if state.writeBudgetReserved then some s
      else
        (s.writeBudget.tryReserve state.metadata.payloadBytes).map fun budget =>
          { s with
            writeBudget := budget
            requestStates := s.requestStates.insert key (writeReserved state) }
  | .read => some s
  | .deferrable => some s

/-- `PdsManager::ReleaseSendAdmission` with the notification of the peer. -/
def releaseSendAdmission (s : SesManager) (peerFep payloadBytes : ℕ) : SesManager :=
  { s with sendAdmissionBudget := s.sendAdmissionBudget.release payloadBytes }
    |>.notifyPeerCreditsAvailable peerFep

/-- `PdsManager::ReleaseWriteBudget` with the notification of the peer. -/
def releaseWriteBudget (s : SesManager) (peerFep payloadBytes : ℕ) : SesManager :=
  { s with writeBudget := s.writeBudget.release payloadBytes }
    |>.notifyPeerCreditsAvailable peerFep

/-- The record of a request that gave its send-admission reservation back. -/
def sendReleased (state : RequestLifecycleState) : RequestLifecycleState :=
  { state with sendAdmissionReserved := false, sendAdmissionReservedBytes := 0 }

/-- The record of a request that gave its write reservation back. -/
def writeReleased (state : RequestLifecycleState) : RequestLifecycleState :=
  { state with writeBudgetReserved := false, writeBudgetReservedBytes := 0 }

/-- The send-admission half of `SesManager::ReleaseDispatchBudget`. -/
def releaseSendReservation (s : SesManager) (key : RequestKey) : SesManager :=
  match s.requestStates.lookup key with
  | none => s
  | some state =>
      if state.sendAdmissionReserved then
        { s.releaseSendAdmission key.peerFep state.sendAdmissionReservedBytes with
          requestStates := s.requestStates.insert key (sendReleased state) }
      else s

/-- The write half of `SesManager::ReleaseDispatchBudget`. -/
def releaseWriteReservation (s : SesManager) (key : RequestKey) : SesManager :=
  match s.requestStates.lookup key with
  | none => s
  | some state =>
      if state.writeBudgetReserved then
        { s.releaseWriteBudget key.peerFep state.writeBudgetReservedBytes with
          requestStates := s.requestStates.insert key (writeReleased state) }
      else s

/-- `SesManager::ReleaseDispatchBudget`. -/
def releaseDispatchBudget (s : SesManager) (key : RequestKey) : SesManager :=
  (s.releaseSendReservation key).releaseWriteReservation key

/-! ## Closing a request -/

/-- `SesManager::RecordSemanticStart`. -/
def recordSemanticStart (s : SesManager) (opcode : OpType) : SesManager :=
  let stats := { s.semanticStats with opsStartedTotal := s.semanticStats.opsStartedTotal + 1 }
  let stats := match opcode with
    | .send => { stats with sendStartedTotal := stats.sendStartedTotal + 1 }
    | .write => { stats with writeStartedTotal := stats.writeStartedTotal + 1 }
    | .read => { stats with readStartedTotal := stats.readStartedTotal + 1 }
    | .deferrable => stats
  { s with semanticStats := stats }

/-- The record of a request with its completion outcome. -/
def withOutcome (returnCode : ResponseReturnCode) (completedPayloadBytes : ℕ)
    (state : RequestLifecycleState) : RequestLifecycleState :=
  { state with
    finalReturnCode := returnCode
    completedPayloadBytes := completedPayloadBytes }

/-- `SesManager::SetRequestCompletionOutcome`. -/
def setRequestCompletionOutcome (s : SesManager) (key : RequestKey)
    (returnCode : ResponseReturnCode) (completedPayloadBytes : ℕ) : SesManager :=
  s.modifyRequest key (withOutcome returnCode completedPayloadBytes)

/-- Whether a closed request counts as a success. -/
def completionSuccess (state : RequestLifecycleState) : Bool :=
  state.terminalReason = .rcOkResponse && state.finalReturnCode = .ok

/-- The completion record of a closed request. -/
def completionRecord (key : RequestKey) (state : RequestLifecycleState) :
    SoftUeCompletionRecord where
  timestampNs := state.terminalizedAtNs
  key := key
  opcode := state.metadata.opType
  success := completionSuccess state
  returnCode := state.finalReturnCode
  terminalReason := state.terminalReason
  payloadBytes := state.completedPayloadBytes
  latencyNs := state.terminalizedAtNs - state.createdAtNs
  retryCount := state.lastRetryCount

/-- The statistics after one more termination. -/
def completionStats (stats : SoftUeSemanticStats) (key : RequestKey)
    (state : RequestLifecycleState) : SoftUeSemanticStats :=
  let stats := { stats with opsTerminalTotal := stats.opsTerminalTotal + 1 }
  if completionSuccess state then
    let bytes := state.completedPayloadBytes
    let stats := { stats with
      opsSuccessTotal := stats.opsSuccessTotal + 1
      successLatencySamples := stats.successLatencySamples + 1
      successLatencyMaxNs :=
        max stats.successLatencyMaxNs (completionRecord key state).latencyNs }
    match state.metadata.opType with
    | .send => { stats with
        sendSuccessTotal := stats.sendSuccessTotal + 1
        sendSuccessBytesTotal := stats.sendSuccessBytesTotal + bytes }
    | .write => { stats with
        writeSuccessTotal := stats.writeSuccessTotal + 1
        writeSuccessBytesTotal := stats.writeSuccessBytesTotal + bytes }
    | .read => { stats with
        readSuccessTotal := stats.readSuccessTotal + 1
        readSuccessBytesTotal := stats.readSuccessBytesTotal + bytes }
    | .deferrable => stats
  else { stats with opsFailedTotal := stats.opsFailedTotal + 1 }

/-- `SesManager::RecordCompletion`. -/
def recordCompletion (s : SesManager) (key : RequestKey)
    (state : RequestLifecycleState) : SesManager :=
  if state.countedInSemanticStats then s
  else
    let record := completionRecord key state
    let records := s.completionRecords ++ [record]
    { s with
      semanticStats := completionStats s.semanticStats key state
      successLatencyTotalNs :=
        if completionSuccess state then s.successLatencyTotalNs + record.latencyNs
        else s.successLatencyTotalNs
      completionRecords := records.drop (records.length - kCompletionRecordLimit)
      protocolCompletionTrace := s.protocolCompletionTrace ++ [record] }

/-- `SesManager::GetSoftUeSemanticStats`, without the latency means: the
operations in flight are the live request records. -/
def getSoftUeSemanticStats (s : SesManager) : SoftUeSemanticStats :=
  { s.semanticStats with
    opsInFlight := KeyedMap.total (fun _ r => if r.terminalized then 0 else 1) s.requestStates }

/-- The record of a request closed at time `nowNs`. -/
def closed (nowNs : ℕ) (reason : RequestTerminalReason)
    (state : RequestLifecycleState) : RequestLifecycleState :=
  { state with
    terminalized := true
    terminalReason := reason
    terminalizedAtNs := nowNs
    waitingResponse := false
    dispatchStarted := false
    pendingPsns := 0
    responseDeadlineMs := 0
    waitingResponseGeneration := 0
    readResponseTargetRegistered :=
      if state.metadata.opType = .read then false else state.readResponseTargetRegistered }

/-- The last part of `SesManager::TerminalizeRequest`: the terminal fields and
the completion record. -/
def closeRequest (s : SesManager) (key : RequestKey) (reason : RequestTerminalReason)
    (state : RequestLifecycleState) : SesManager :=
  let state := closed s.nowNs reason state
  let s := s.recordCompletion key state
  { s with
    requestStates :=
      s.requestStates.insert key { state with countedInSemanticStats := true } }

/-- `SesManager::TerminalizeRequest`. -/
def terminalizeRequest (s : SesManager) (key : RequestKey)
    (reason : RequestTerminalReason) : SesManager :=
  match s.requestStates.lookup key with
  | none => s
  | some _ =>
      let s := { s with retryStates := s.retryStates.erase key }
      let s := (s.removeBlockedRequest key).releaseDispatchBudget key
      match s.requestStates.lookup key with
      | none => s
      | some state => s.closeRequest key reason state

/-- `SesManager::HandleDispatchFailure`. -/
def handleDispatchFailure (s : SesManager) (key : RequestKey) : SesManager :=
  match s.requestStates.lookup key with
  | none => s.removeBlockedRequest key
  | some state =>
      if state.terminalized then s.removeBlockedRequest key
      else
        let s := (s.setRequestCompletionOutcome key .internalError 0).terminalizeRequest key
          .protocolError
        { s with totalErrors := s.totalErrors + 1 }

/-! ## Dispatch of a request -/

/-- The tags of `SesManager::AttachSemanticTags` on a request fragment. -/
def requestTags (m : ExtendedOperationMetadata) (offset : ℕ) :
    SoftUeHeaderTag × SoftUeMetadataTag :=
  ({ sourceEndpoint := m.sourceNodeId
     destinationEndpoint := m.destNodeId
     jobId := m.jobId },
   { operationType := m.opType
     messageId := m.messagesId
     requestLength := m.payloadBytes
     fragmentOffset := offset
     remoteAddress := if m.opType = .read then m.immData else m.startAddr
     remoteKey := m.rkey
     isRetry := m.isRetry
     modifiedLength := m.payloadBytes })

/-- Fragment `i` of `packetCount`, as the loop of `DispatchRequestPackets`
builds it. -/
def requestFragment (m : ExtendedOperationMetadata) (packet : Packet)
    (payloadPerPacket packetCount i : ℕ) : TaggedPacket :=
  let offset := toU32 (i * payloadPerPacket)
  let fragLen := min payloadPerPacket (subU32 m.payloadBytes offset)
  let tags := requestTags m offset
  { header := tags.1
    metadata := tags.2
    bytes :=
      if packetCount = 1 ∨ m.opType = .read then packet
      else packet.createFragment offset fragLen }

/-- All fragments of one dispatch, in the order of emission. -/
def requestFragments (m : ExtendedOperationMetadata) (packet : Packet)
    (payloadPerPacket packetCount : ℕ) : List TaggedPacket :=
  (List.range packetCount).map (requestFragment m packet payloadPerPacket packetCount)

/-- The fragments that the packet delivery sublayer accepts, up to the first
one that it refuses, and whether it accepts all of them. -/
def acceptedFragments (env : Environment) :
    ℕ → List TaggedPacket → List TaggedPacket × Bool
  | _, [] => ([], true)
  | calls, fragment :: rest =>
      if env.dispatchPacket calls then
        let accepted := acceptedFragments env (calls + 1) rest
        (fragment :: accepted.1, accepted.2)
      else ([], false)

/-- The fragment loop of `DispatchRequestPackets`: it stops at the first
fragment that the packet delivery sublayer refuses. -/
def dispatchSemanticPackets (env : Environment) (s : SesManager)
    (fragments : List TaggedPacket) : SesManager × Bool :=
  let accepted := acceptedFragments env s.dispatchCalls fragments
  ({ s with
      dispatchCalls := s.dispatchCalls + accepted.1.length + (if accepted.2 then 0 else 1)
      dispatched := s.dispatched ++ accepted.1
      totalPacketsGenerated := s.totalPacketsGenerated + accepted.1.length },
    accepted.2)

/-- `SesManager::ArmResponseTimeout`. -/
def armResponseTimeout (s : SesManager) (state : RequestLifecycleState) :
    RequestLifecycleState :=
  let awaited := state.waitingResponse && state.dispatchStarted
  { state with
    waitingResponseGeneration :=
      if !awaited then 0
      else if state.waitingResponseGeneration = 0 then state.attemptGeneration
      else state.waitingResponseGeneration
    responseDeadlineMs := if awaited then s.nowMs + s.retryTimeoutMs else 0 }

/-- The record of a request all of whose fragments were handed down. -/
def attemptStarted (s : SesManager) (state : RequestLifecycleState) :
    RequestLifecycleState :=
  let generation := toU32 (state.attemptGeneration + 1)
  s.armResponseTimeout
    { state with
      attemptGeneration := generation
      dispatchStarted := true
      waitingResponse := state.metadata.expectResponse
      waitingResponseGeneration := if state.metadata.expectResponse then generation else 0 }

/-- The record of a request that was granted its budget; a READ registers its
response target, which never fails. -/
def granted (state : RequestLifecycleState) : RequestLifecycleState :=
  { state with
    blockedOnCreditGate := false
    readResponseTargetRegistered :=
      state.readResponseTargetRegistered || state.metadata.opType = .read }

/-- The part of `DispatchRequestPackets` after the budget was granted. -/
def dispatchFragments (env : Environment) (s : SesManager) (key : RequestKey)
    (state : RequestLifecycleState) : SesManager × Bool :=
  let fragments := requestFragments state.metadata state.packet s.getPayloadMtu
    (max 1 state.totalPacketCount)
  let result := dispatchSemanticPackets env s fragments
  if result.2 then (result.1.modifyRequest key result.1.attemptStarted, true)
  else (result.1.releaseDispatchBudget key, false)

/-- The record of a request whose dispatch waits for its turn or its budget. -/
def gateClosed (state : RequestLifecycleState) : RequestLifecycleState :=
  { state with blockedOnCreditGate := true }

/-- `SesManager::DispatchRequestPackets`. -/
def dispatchRequestPackets (env : Environment) (s : SesManager) (key : RequestKey) :
    SesManager × Bool :=
  match s.requestStates.lookup key with
  | none => (s, false)
  | some state =>
      if state.terminalized then (s.removeBlockedRequest key, false)
      else if state.blockedQueueLinked && !s.isBlockedQueueHead key then
        (s.modifyRequest key gateClosed, true)
      else
        match s.tryReserveDispatchBudget key state with
        | none =>
            ((s.enqueueBlockedRequest key).modifyRequest key gateClosed, true)
        | some s =>
            let s := if state.blockedQueueLinked then s.removeBlockedRequest key else s
            dispatchFragments env (s.modifyRequest key granted) key state

/-! ## Draining a blocked queue -/

/-- The close of a request that expects no response, once its fragments are
on their way. -/
def completeWithoutResponse (s : SesManager) (key : RequestKey) : SesManager :=
  match s.requestStates.lookup key with
  | none => s
  | some state =>
      if !state.metadata.expectResponse && state.dispatchStarted &&
          !state.blockedOnCreditGate && !state.blockedQueueLinked then
        (s.setRequestCompletionOutcome key .ok state.metadata.payloadBytes).terminalizeRequest
          key .rcOkResponse
      else s

/-- The record of a request that its blocked queue dispatches once more. -/
def redispatchCounted (state : RequestLifecycleState) : RequestLifecycleState :=
  { state with blockedQueueRedispatchCount := state.blockedQueueRedispatchCount + 1 }

/-- The body of the loop of `SesManager::DrainBlockedPeerQueue` for the head of
the queue; the second component says whether the loop ends here. -/
def redispatchHead (env : Environment) (s : SesManager) (key : RequestKey) :
    SesManager × Bool :=
  match s.requestStates.lookup key with
  | none => (s.removeBlockedRequest key, false)
  | some state =>
      if state.terminalized then (s.removeBlockedRequest key, false)
      else
        let result := dispatchRequestPackets env (s.modifyRequest key redispatchCounted) key
        if !result.2 then (result.1.handleDispatchFailure key, false)
        else
          match result.1.requestStates.lookup key with
          | none => (result.1, false)
          | some state =>
              if state.blockedQueueLinked || state.blockedOnCreditGate then (result.1, true)
              else (result.1.completeWithoutResponse key, false)

/-- `SesManager::DrainBlockedPeerQueue`.  The loop of the source has no bound
of its own, so the number of its iterations is bounded by `fuel`; there is no
result when the fuel does not suffice. -/
def drainBlockedPeerQueue (env : Environment) (peerFep : ℕ) :
    ℕ → SesManager → Option SesManager
  | 0, _ => none
  | fuel + 1, s =>
      match s.blockedQueue peerFep with
      | [] => some s
      | key :: _ =>
          let result := redispatchHead env s key
          if result.2 then some result.1
          else drainBlockedPeerQueue env peerFep fuel result.1

end SesManager
end UeSim
