import UeSim.Pds.Receive
import UeSim.Ses.Responder

/-!
# Pending responses of a responder

A responder answers a request with one semantic response.  Until all of its
fragments are handed down, the response is kept under the key of the request,
and a response that could not be handed down waits in a queue of its peer.  A
response with read data holds a share of the read-responder budget until it is
removed.
-/

namespace UeSim

/-- `SesManager::PendingResponseState`, without its timing samples. -/
structure PendingResponseState where
  metadata : ExtendedOperationMetadata
  payload : Packet
  responseOpCode : ResponseOpCode
  returnCode : ResponseReturnCode
  modifiedLength : ℕ
  responseWithData : Bool
  readResponderBudgetReserved : Bool := false
  readResponderBudgetPeerFep : ℕ := 0
  readResponderBudgetBytes : ℕ := 0
  packetCount : ℕ
  retryCount : ℕ := 0
  nextRetryMs : ℕ := 0
  enqueued : Bool := false
  terminalized : Bool := false
  deriving DecidableEq, Repr

/-- A response that was asked for. -/
structure SemanticAnswer where
  key : RequestKey
  responseOpCode : ResponseOpCode
  returnCode : ResponseReturnCode
  deriving DecidableEq, Repr

/-- `SesManager::m_pendingResponseQueues`: a queue of keys for each peer, with
the drain event in the place of the wakeup event of a blocked queue. -/
abbrev PendingResponseQueues := BlockedPeerQueues

/-- A `SoftUeNetDevice` with its two managers.  The fields of the managers that
only answer inbound requests are kept here, and the memory of the process is
the one of `ses`. -/
structure SoftUeNetDevice where
  ses : SesManager := {}
  pds : PdsManager := {}
  /-- `SesManager::m_rudSemanticModeEnabled`. -/
  rudSemanticModeEnabled : Bool := true
  /-- `SesManager::m_processInterval`. -/
  processIntervalMs : ℕ := 10
  /-- `SesManager::m_pendingResponses`. -/
  pendingResponses : KeyedMap RequestKey PendingResponseState := ∅
  /-- `SesManager::m_pendingResponseQueues`. -/
  pendingResponseQueues : PendingResponseQueues := (∅ : KeyedMap ℕ BlockedPeerQueueState)
  /-- `SesManager::m_failNextResponseDispatchesForTesting`. -/
  failNextResponseDispatches : ℕ := 0
  /-- `PdsManager::m_readResponderBudget`. -/
  readResponderBudget : SemanticBudgetState := {}
  /-- The responses that were asked for, oldest first. -/
  answers : List SemanticAnswer := []
  /-- The packets handed to `DeliverReceivedPacket`, oldest first. -/
  delivered : List Packet := []

namespace SoftUeNetDevice

/-! ## Queues and budget -/

/-- `SesManager::SchedulePendingResponseDrain`. -/
def schedulePendingResponseDrain (d : SoftUeNetDevice) (peerFep : ℕ) : SoftUeNetDevice :=
  { d with pendingResponseQueues := d.pendingResponseQueues.wake peerFep }

/-- `SesManager::NotifyPeerCreditsAvailable`. -/
def notifyPeerCreditsAvailable (d : SoftUeNetDevice) (peerFep : ℕ) : SoftUeNetDevice :=
  { d with ses := d.ses.scheduleBlockedPeerWakeup peerFep }.schedulePendingResponseDrain peerFep

/-- The response after it joined the queue of its peer. -/
def enqueuedAt (nowMs : ℕ) (state : PendingResponseState) : PendingResponseState :=
  { state with enqueued := true, nextRetryMs := nowMs }

/-- `SesManager::EnqueuePendingResponse`. -/
def enqueuePendingResponse (d : SoftUeNetDevice) (key : RequestKey) : SoftUeNetDevice :=
  match d.pendingResponses.lookup key with
  | none => d
  | some state =>
      if state.enqueued then d
      else
        { d with
          pendingResponses := d.pendingResponses.insert key (enqueuedAt d.ses.nowMs state)
          pendingResponseQueues := d.pendingResponseQueues.push key
          }.schedulePendingResponseDrain key.peerFep

/-- `SesManager::ReleasePendingResponseBudget` for a response that is about to
be erased. -/
def releasePendingResponseBudget (d : SoftUeNetDevice) (state : PendingResponseState) :
    SoftUeNetDevice :=
  if state.readResponderBudgetReserved then
    { d with
      readResponderBudget := d.readResponderBudget.release state.readResponderBudgetBytes
      }.notifyPeerCreditsAvailable state.readResponderBudgetPeerFep
  else d

/-- `SesManager::RemovePendingResponse`. -/
def removePendingResponse (d : SoftUeNetDevice) (key : RequestKey) : SoftUeNetDevice :=
  let released := match d.pendingResponses.lookup key with
    | none => d
    | some state => d.releasePendingResponseBudget state
  { released with
    pendingResponseQueues := released.pendingResponseQueues.remove key
    pendingResponses := released.pendingResponses.erase key }

/-! ## Dispatch of a response -/

/-- The tags of `SesManager::AttachSemanticTags` on a fragment of a response. -/
def responseTags (state : PendingResponseState) (offset : ℕ) :
    SoftUeHeaderTag × SoftUeMetadataTag :=
  let tags := SesManager.requestTags state.metadata offset
  ({ tags.1 with isRudReq := false },
    { tags.2 with
      requestLength := state.modifiedLength
      isResponse := true
      responseOpCode := state.responseOpCode
      returnCode := state.returnCode
      modifiedLength := state.modifiedLength })

/-- Fragment `i` of a response, as the loop of `TryDispatchPendingResponse`
builds it. -/
def responseFragment (state : PendingResponseState) (payloadPerPacket i : ℕ) : TaggedPacket :=
  let totalLength := if state.responseWithData then state.modifiedLength
    else state.payload.length
  let offset := toU32 (i * payloadPerPacket)
  let tags := responseTags state offset
  { header := tags.1
    metadata := tags.2
    bytes :=
      if !state.responseWithData ∨ max 1 state.packetCount = 1 then state.payload
      else state.payload.createFragment offset
        (min payloadPerPacket (subU32 totalLength offset)) }

/-- All fragments of a response, in the order of emission. -/
def responseFragments (state : PendingResponseState) (payloadPerPacket : ℕ) :
    List TaggedPacket :=
  (List.range (max 1 state.packetCount)).map (responseFragment state payloadPerPacket)

/-- The response after all of its fragments were handed down. -/
def dispatchedWhole (state : PendingResponseState) : PendingResponseState :=
  { state with terminalized := true, enqueued := false }

/-- `SesManager::TryDispatchPendingResponse`. -/
def tryDispatchPendingResponse (env : Environment) (d : SoftUeNetDevice) (key : RequestKey)
    (state : PendingResponseState) : SoftUeNetDevice × Bool :=
  if 0 < d.failNextResponseDispatches then
    ({ d with failNextResponseDispatches := d.failNextResponseDispatches - 1 }, false)
  else
    let accepted := SesManager.acceptedFragments env d.ses.dispatchCalls
      (responseFragments state d.ses.getPayloadMtu)
    ({ d with
        ses := { d.ses with
          dispatchCalls :=
            d.ses.dispatchCalls + accepted.1.length + (if accepted.2 then 0 else 1)
          dispatched := d.ses.dispatched ++ accepted.1 }
        pendingResponses :=
          if accepted.2 then d.pendingResponses.insert key (dispatchedWhole state)
          else d.pendingResponses },
      accepted.2)

/-! ## Generating a response -/

/-- The pending response that `SendSemanticResponseForRequest` builds.
`reservedBytes` is the share of the read-responder budget that it holds. -/
def pendingResponse (payloadPerPacket : ℕ) (localFep : ℕ) (answer : SemanticAnswer)
    (modifiedLength : ℕ) (payload : Packet) (reservedBytes : Option ℕ) :
    PendingResponseState :=
  let withData := decide (answer.responseOpCode = .responseWithData)
  let totalLength := if withData then modifiedLength else payload.length
  { metadata :=
      { opType := if withData then .read else .send
        jobId := toU32 answer.key.jobId
        messagesId := answer.key.msgId
        payloadLength := modifiedLength
        deliveryMode := 0
        expectResponse := false
        sourceNodeId := localFep
        sourceEndpointId := 1
        destNodeId := answer.key.peerFep
        destEndpointId := 1 }
    payload := payload
    responseOpCode := answer.responseOpCode
    returnCode := answer.returnCode
    modifiedLength := modifiedLength
    responseWithData := withData
    readResponderBudgetReserved := reservedBytes.isSome
    readResponderBudgetPeerFep := reservedBytes.elim 0 fun _ => answer.key.peerFep
    readResponderBudgetBytes := reservedBytes.getD 0
    packetCount :=
      if !withData ∨ totalLength = 0 then 1
      else max 1 (toU32 (totalLength + payloadPerPacket - 1) / payloadPerPacket) }

/-- The part of `SendSemanticResponseForRequest` after the response is built:
the response takes the place of whatever was pending under its key. -/
def sendPendingResponse (env : Environment) (d : SoftUeNetDevice) (key : RequestKey)
    (state : PendingResponseState) : SoftUeNetDevice :=
  let attempt := { d with pendingResponses := d.pendingResponses.insert key state
    }.tryDispatchPendingResponse env key state
  if attempt.2 then attempt.1.removePendingResponse key
  else attempt.1.enqueuePendingResponse key

/-- `SesManager::SendSemanticResponseForRequest`. -/
def sendSemanticResponseForRequest (env : Environment) (d : SoftUeNetDevice) (localFep : ℕ)
    (answer : SemanticAnswer) (modifiedLength : ℕ) (payload : Packet)
    (reservedBytes : Option ℕ) : SoftUeNetDevice :=
  { d with answers := d.answers ++ [answer] }.sendPendingResponse env answer.key
    (pendingResponse d.ses.getPayloadMtu localFep answer modifiedLength payload reservedBytes)

/-- A negative response. -/
def sendNack (env : Environment) (d : SoftUeNetDevice) (localFep : ℕ) (key : RequestKey)
    (returnCode : ResponseReturnCode) : SoftUeNetDevice :=
  d.sendSemanticResponseForRequest env localFep ⟨key, .nack, returnCode⟩ 0 [0] none

/-! ## Draining a queue -/

/-- The response after a failed dispatch from its queue. -/
def dispatchFailed (nextRetryMs : ℕ) (state : PendingResponseState) : PendingResponseState :=
  { state with retryCount := toU16 (state.retryCount + 1), nextRetryMs := nextRetryMs }

/-- The body of the loop of `SesManager::DrainPendingResponseQueue` for the head
of the queue; the second component says whether the loop ends here. -/
def drainHead (env : Environment) (d : SoftUeNetDevice) (key : RequestKey) :
    SoftUeNetDevice × Bool :=
  match d.pendingResponses.lookup key with
  | none => (d.removePendingResponse key, false)
  | some state =>
      if state.terminalized then (d.removePendingResponse key, false)
      else if d.ses.nowMs < state.nextRetryMs then (d, true)
      else
        let attempt := d.tryDispatchPendingResponse env key state
        if attempt.2 then (attempt.1.removePendingResponse key, false)
        else
          ({ attempt.1 with
              pendingResponses := attempt.1.pendingResponses.insert key
                (dispatchFailed (d.ses.nowMs + d.processIntervalMs) state) }, true)

/-- At most `fuel` iterations of the loop of
`SesManager::DrainPendingResponseQueue`. -/
def drainHeads (env : Environment) (peerFep : ℕ) : ℕ → SoftUeNetDevice → SoftUeNetDevice
  | 0, d => d
  | fuel + 1, d =>
      match d.pendingResponseQueues.requests peerFep with
      | [] => d
      | key :: _ =>
          let result := d.drainHead env key
          if result.2 then result.1 else drainHeads env peerFep fuel result.1

/-- `SesManager::DrainPendingResponseQueue`: every iteration that does not end
the loop takes a response out of the queue. -/
def drainPendingResponseQueue (env : Environment) (d : SoftUeNetDevice) (peerFep : ℕ) :
    SoftUeNetDevice :=
  (drainHeads env peerFep (d.pendingResponseQueues.requests peerFep).length
    d).schedulePendingResponseDrain peerFep

/-! ## What responses leave alone -/

/-- Two states that agree on the memory, on the receive side, on what was
delivered and on what was answered. -/
structure Undisturbed (d d' : SoftUeNetDevice) : Prop where
  memory : d'.ses.memory = d.ses.memory
  pds : d'.pds = d.pds
  delivered : d'.delivered = d.delivered
  answers : d'.answers = d.answers

variable {d d' d'' : SoftUeNetDevice}

theorem Undisturbed.refl (d : SoftUeNetDevice) : Undisturbed d d := ⟨rfl, rfl, rfl, rfl⟩

theorem Undisturbed.trans (h : Undisturbed d d') (h' : Undisturbed d' d'') :
    Undisturbed d d'' where
  memory := h'.memory.trans h.memory
  pds := h'.pds.trans h.pds
  delivered := h'.delivered.trans h.delivered
  answers := h'.answers.trans h.answers

theorem undisturbed_removePendingResponse (d : SoftUeNetDevice) (key : RequestKey) :
    Undisturbed d (d.removePendingResponse key) := by
  unfold removePendingResponse releasePendingResponseBudget
  dsimp only
  split
  · exact ⟨rfl, rfl, rfl, rfl⟩
  · split <;> exact ⟨rfl, rfl, rfl, rfl⟩

theorem undisturbed_enqueuePendingResponse (d : SoftUeNetDevice) (key : RequestKey) :
    Undisturbed d (d.enqueuePendingResponse key) := by
  unfold enqueuePendingResponse
  split
  · exact .refl d
  · split <;> exact ⟨rfl, rfl, rfl, rfl⟩

theorem undisturbed_tryDispatchPendingResponse (env : Environment) (d : SoftUeNetDevice)
    (key : RequestKey) (state : PendingResponseState) :
    Undisturbed d (d.tryDispatchPendingResponse env key state).1 := by
  unfold tryDispatchPendingResponse
  split <;> exact ⟨rfl, rfl, rfl, rfl⟩

theorem undisturbed_sendPendingResponse (env : Environment) (d : SoftUeNetDevice)
    (key : RequestKey) (state : PendingResponseState) :
    Undisturbed d (d.sendPendingResponse env key state) := by
  have hattempt := undisturbed_tryDispatchPendingResponse env
    { d with pendingResponses := d.pendingResponses.insert key state } key state
  have hstart : Undisturbed d
      { d with pendingResponses := d.pendingResponses.insert key state } := ⟨rfl, rfl, rfl, rfl⟩
  unfold sendPendingResponse
  dsimp only
  split
  · exact hstart.trans (hattempt.trans (undisturbed_removePendingResponse _ key))
  · exact hstart.trans (hattempt.trans (undisturbed_enqueuePendingResponse _ key))

/-- Sending a response changes nothing here but the record of the answers. -/
theorem undisturbed_sendSemanticResponseForRequest (env : Environment) (d : SoftUeNetDevice)
    (localFep : ℕ) (answer : SemanticAnswer) (modifiedLength : ℕ) (payload : Packet)
    (reservedBytes : Option ℕ) :
    Undisturbed { d with answers := d.answers ++ [answer] }
      (d.sendSemanticResponseForRequest env localFep answer modifiedLength payload
        reservedBytes) :=
  undisturbed_sendPendingResponse env _ _ _

end SoftUeNetDevice
end UeSim
