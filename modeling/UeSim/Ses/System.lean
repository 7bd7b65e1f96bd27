import UeSim.Ses.Responder

/-!
# The transition system of one semantic sublayer manager

An action is a call into the manager or a simulator event that fires in it.
The handlers of the source run to completion, so one action is one step.
-/

namespace UeSim

/-- The calls and events of one manager. -/
inductive SesAction
  /-- Simulated time passes. -/
  | advanceClock (deltaNs : ℕ)
  /-- The application submits a request. -/
  | sendRequest (metadata : ExtendedOperationMetadata) (packet : Option Packet)
  /-- A semantic response arrives. -/
  | receiveResponse (response : PdcSesResponse)
  /-- A WRITE fragment of a peer arrives. -/
  | receiveWrite (packet : TaggedPacket)
  /-- The periodic processing reaches one request. -/
  | checkTimeout (key : RequestKey)
  /-- A pending retry event fires. -/
  | retryEvent (key : RequestKey)
  /-- A pending wakeup of a blocked queue fires; the loop takes at most `fuel`
  iterations. -/
  | wakeupEvent (peerFep fuel : ℕ)
  /-- The packet delivery sublayer signals that a peer may send again. -/
  | creditsAvailable (peerFep : ℕ)
  /-- `SetAuthorizeAllJobs`. -/
  | setAuthorizeAllJobs (allowAll : Bool)
  /-- `RevokeJobAuthorization`. -/
  | revokeJobAuthorization (jobId : ℕ)
  /-- `SetPermissionChecker`. -/
  | setPermissionChecker (checker : Option (ℕ → ℕ → Bool))

namespace SesManager

/-- The manager when the wakeup event of a blocked queue has just fired: the
event is no longer pending. -/
def wakeupFired (s : SesManager) (peerFep : ℕ) : SesManager :=
  { s with blockedPeerQueues := s.blockedPeerQueues.fire peerFep }

/-- The drain of a blocked queue as its wakeup event runs it. -/
def wakeBlockedPeer (env : Environment) (s : SesManager) (peerFep fuel : ℕ) :
    Option SesManager :=
  drainBlockedPeerQueue env peerFep fuel (s.wakeupFired peerFep)

/-- One action of the manager.  An event fires only while it is pending. -/
def sesStep (env : Environment) (s : SesManager) : SesAction → Option SesManager
  | .advanceClock deltaNs => some { s with nowNs := s.nowNs + deltaNs }
  | .sendRequest m packet => some (s.processSendRequest env m packet).1
  | .receiveResponse response => some (s.processReceiveResponse response)
  | .receiveWrite packet => some (s.receiveWriteRequest packet)
  | .checkTimeout key => some (s.checkResponseTimeout key)
  | .retryEvent key => if s.retryPending key then some (s.executeRetry env key) else none
  | .wakeupEvent peerFep fuel =>
      if s.wakeupPending peerFep then s.wakeBlockedPeer env peerFep fuel else none
  | .creditsAvailable peerFep => some (s.notifyPeerCreditsAvailable peerFep)
  | .setAuthorizeAllJobs allowAll => some { s with allowAllJobs := allowAll }
  | .revokeJobAuthorization jobId =>
      some { s with authorizedJobs := s.authorizedJobs.erase jobId }
  | .setPermissionChecker checker => some { s with permissionChecker := checker }

/-- A manager before its first request: any configuration, any time, any
memory. -/
structure Initial (s : SesManager) : Prop where
  requestStates : s.requestStates = ∅
  retryStates : s.retryStates = ∅
  blockedPeerQueues : s.blockedPeerQueues = ∅
  sendMessages : s.sendAdmissionBudget.messagesInUse = 0
  sendBytes : s.sendAdmissionBudget.bytesInUse = 0
  writeMessages : s.writeBudget.messagesInUse = 0
  writeBytes : s.writeBudget.bytesInUse = 0
  semanticStats : s.semanticStats = {}
  completionRecords : s.completionRecords = []
  protocolCompletionTrace : s.protocolCompletionTrace = []

/-- The transition system of one manager over given lower layers. -/
def sesSystem (env : Environment) : TransitionSystem SesManager SesAction where
  init := Initial
  step := sesStep env

/-- The periodic processing is a run of single timeout checks. -/
theorem doPeriodicProcessing_eq_runActions (env : Environment) (s : SesManager) :
    (sesSystem env).runActions s (s.requestStates.keys.map .checkTimeout) =
      some s.doPeriodicProcessing := by
  unfold doPeriodicProcessing
  generalize s.requestStates.keys = keys
  induction keys generalizing s with
  | nil => rfl
  | cons key keys ih => exact ih (s.checkResponseTimeout key)

/-! ## Sample actions -/

/-- A SEND of endpoint 1 for job 7. -/
def sampleSend (peerFep messagesId : ℕ) : ExtendedOperationMetadata where
  jobId := 7
  messagesId := messagesId
  sourceNodeId := 1
  sourceEndpointId := 1
  destNodeId := peerFep
  destEndpointId := 1

/-- The key of a sample SEND. -/
def sampleKey (peerFep messagesId : ℕ) : RequestKey := ⟨7, messagesId, peerFep⟩

/-- A response of a peer to a sample SEND. -/
def sampleResponse (peerFep messagesId : ℕ) (returnCode : ResponseReturnCode) :
    PdcSesResponse where
  packet := some
    { header := { sourceEndpoint := peerFep, destinationEndpoint := 1, jobId := 7 }
      metadata :=
        { messageId := messagesId
          isResponse := true
          responseOpCode := .defaultResponse
          returnCode := returnCode }
      bytes := [0] }

/-- A SEND whose response times out once and then arrives. -/
def retriedSend : List SesAction :=
  [.sendRequest (sampleSend 2 1) (some [0]), .advanceClock 80000000,
    .checkTimeout (sampleKey 2 1), .retryEvent (sampleKey 2 1),
    .receiveResponse (sampleResponse 2 1 .ok)]

theorem initial_default : Initial {} :=
  ⟨rfl, rfl, rfl, rfl, rfl, rfl, rfl, rfl, rfl, rfl⟩

/-- Lower layers that accept every packet. -/
def reliable : Environment where
  dispatchPacket := fun _ => true

end SesManager
end UeSim
