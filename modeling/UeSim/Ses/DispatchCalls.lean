import UeSim.Ses.BlockedQueue

/-!
# The dispatch calls of an action

Submissions, retries and wakeups all reach `DispatchRequestPackets`.  The calls
that one action makes are listed here with the state in which each is made.
Between two calls the blocked queues only lose requests; a call adds at most its
own request, and to the end of its queue.
-/

namespace UeSim
namespace SesManager

variable {s s' : SesManager} {key : RequestKey}

/-! ## The calls -/

/-- The call of an accepted submission: the record of its request has just been
rebuilt. -/
def submissionCalls (s : SesManager) (m : ExtendedOperationMetadata) (packet : Option Packet) :
    List (SesManager × RequestKey) :=
  match s.acceptedRequest m packet with
  | none => []
  | some (m', p') =>
      [((s.preparedState m m').rebuildRequest (requestKey m') m' p', requestKey m')]

/-- The call of one iteration of a drain: none when the record of the head is
gone or closed. -/
def headCalls (s : SesManager) (key : RequestKey) : List (SesManager × RequestKey) :=
  match s.requestStates.lookup key with
  | none => []
  | some state => if state.terminalized then [] else [(s.modifyRequest key redispatchCounted, key)]

/-- The calls of a drain of at most `fuel` iterations. -/
def drainCalls (env : Environment) (peerFep : ℕ) :
    ℕ → SesManager → List (SesManager × RequestKey)
  | 0, _ => []
  | fuel + 1, s =>
      match s.blockedQueue peerFep with
      | [] => []
      | key :: _ =>
          let result := redispatchHead env s key
          s.headCalls key ++ (if result.2 then [] else drainCalls env peerFep fuel result.1)

/-- The calls of `DispatchRequestPackets` that an action makes. -/
def dispatchRequestCalls (env : Environment) (s : SesManager) :
    SesAction → List (SesManager × RequestKey)
  | .sendRequest m packet => s.submissionCalls m packet
  | .retryEvent key =>
      match s.dueRetry key with
      | none => []
      | some retry =>
          (s.retryFired key retry).submissionCalls retry.metadata (some retry.packet)
  | .wakeupEvent peerFep fuel => drainCalls env peerFep fuel (s.wakeupFired peerFep)
  | _ => []

/-- The record of a request whose dispatch call is granted its budget: the call comes
to the reservation, and the reservation succeeds. -/
def admittedRecord (s : SesManager) (key : RequestKey) : Option RequestLifecycleState :=
  match s.requestStates.lookup key with
  | none => none
  | some state =>
      if state.terminalized then none
      else if state.blockedQueueLinked && !s.isBlockedQueueHead key then none
      else if (s.tryReserveDispatchBudget key state).isSome then some state
      else none

theorem mem_headCalls {call : SesManager × RequestKey} (h : call ∈ s.headCalls key) :
    call = (s.modifyRequest key redispatchCounted, key) ∧ ∃ r, Live s key r := by
  unfold headCalls at h
  cases hr : s.requestStates.lookup key with
  | none => simp [hr] at h
  | some r =>
      cases hterm : r.terminalized with
      | true => simp [hr, hterm] at h
      | false =>
          simp only [hr, hterm, Bool.false_eq_true, if_false, List.mem_singleton] at h
          exact ⟨h, r, hr, hterm⟩

/-- The call of a submission: the record of its request has been rebuilt, queues and
budgets are as before. -/
structure SubmissionCall (s : SesManager) (m : ExtendedOperationMetadata) (packet : Packet)
    (call : SesManager × RequestKey) : Prop where
  key : call.2 = requestKey m
  requestStates : call.1.requestStates = s.requestStates.insert (requestKey m)
    (s.rebuiltRequest m packet (s.requestStates.lookup (requestKey m)))
  blockedPeerQueues : call.1.blockedPeerQueues = s.blockedPeerQueues
  sendAdmissionBudget : call.1.sendAdmissionBudget = s.sendAdmissionBudget
  writeBudget : call.1.writeBudget = s.writeBudget
  payloadMtu : call.1.getPayloadMtu = s.getPayloadMtu

theorem SubmissionCall.lookup {m : ExtendedOperationMetadata} {packet : Packet}
    {call : SesManager × RequestKey} (h : s.SubmissionCall m packet call) :
    call.1.requestStates.lookup call.2 =
      some (s.rebuiltRequest m packet (s.requestStates.lookup (requestKey m))) := by
  rw [h.requestStates, h.key, AList.lookup_insert]

theorem submissionCall_rebuilt (s : SesManager) (m m' : ExtendedOperationMetadata)
    (packet : Packet) :
    s.SubmissionCall m' packet
      ((s.preparedState m m').rebuildRequest (requestKey m') m' packet, requestKey m') := by
  obtain ⟨hstates, -, hqueues, hsend, hwrite⟩ :=
    rebuildRequest_frame (s.preparedState m m') (requestKey m') m' packet
  have hmtu : ((s.preparedState m m').rebuildRequest (requestKey m') m'
      packet).getPayloadMtu = (s.preparedState m m').getPayloadMtu := by
    simp only [rebuildRequest, recordSemanticStart]
    split_ifs <;> rfl
  unfold preparedState cancelPendingRetry authorizeJob at *
  split_ifs at hstates hqueues hsend hwrite hmtu ⊢ <;>
    exact ⟨rfl, hstates, hqueues, hsend, hwrite, hmtu⟩

theorem mem_submissionCalls {m₀ m : ExtendedOperationMetadata} {packet₀ : Option Packet}
    {packet : Packet} {call : SesManager × RequestKey}
    (haccepted : s.acceptedRequest m₀ packet₀ = some (m, packet))
    (h : call ∈ s.submissionCalls m₀ packet₀) : s.SubmissionCall m packet call := by
  simp only [submissionCalls, haccepted, List.mem_singleton] at h
  exact h ▸ submissionCall_rebuilt s m₀ m packet

/-- The call of an action that submits a request. -/
theorem submissionCall_of_rebuild {env : Environment} {a : SesAction}
    {m : ExtendedOperationMetadata} {packet : Packet} {call : SesManager × RequestKey}
    (hrebuild : s.rebuildOf a = some (m, packet))
    (hcall : call ∈ s.dispatchRequestCalls env a) : s.SubmissionCall m packet call := by
  cases a with
  | sendRequest m₀ packet₀ => exact mem_submissionCalls hrebuild hcall
  | retryEvent key =>
      obtain ⟨retry, hdue, haccepted⟩ := Option.bind_eq_some_iff.mp hrebuild
      have haccepted' : (s.retryFired key retry).acceptedRequest retry.metadata
          (some retry.packet) = some (m, packet) := haccepted
      simp only [dispatchRequestCalls, hdue] at hcall
      obtain ⟨hkey, hstates, hqueues, hsend, hwrite, hmtu⟩ :=
        mem_submissionCalls haccepted' hcall
      exact ⟨hkey, hstates, hqueues, hsend, hwrite, hmtu⟩
  | receiveResponse _ | receiveWrite _ | checkTimeout _ | wakeupEvent _ _ | advanceClock _
  | creditsAvailable _ | setAuthorizeAllJobs _ | revokeJobAuthorization _
  | setPermissionChecker _ => cases hrebuild

/-- An action that submits a request makes a call. -/
theorem exists_submissionCall (env : Environment) {a : SesAction}
    {m : ExtendedOperationMetadata} {packet : Packet}
    (hrebuild : s.rebuildOf a = some (m, packet)) :
    ∃ call, call ∈ s.dispatchRequestCalls env a := by
  cases a with
  | sendRequest m₀ packet₀ =>
      have haccepted : s.acceptedRequest m₀ packet₀ = some (m, packet) := hrebuild
      simp [dispatchRequestCalls, submissionCalls, haccepted]
  | retryEvent key =>
      obtain ⟨retry, hdue, haccepted⟩ := Option.bind_eq_some_iff.mp hrebuild
      have haccepted' : (s.retryFired key retry).acceptedRequest retry.metadata
          (some retry.packet) = some (m, packet) := haccepted
      simp [dispatchRequestCalls, hdue, submissionCalls, haccepted']
  | receiveResponse _ | receiveWrite _ | checkTimeout _ | wakeupEvent _ _ | advanceClock _
  | creditsAvailable _ | setAuthorizeAllJobs _ | revokeJobAuthorization _
  | setPermissionChecker _ => cases hrebuild

/-- An action that submits no request makes calls only as a drain. -/
theorem drainCall_of_quiet {env : Environment} {a : SesAction} {call : SesManager × RequestKey}
    (hquiet : s.rebuildOf a = none) (hcall : call ∈ s.dispatchRequestCalls env a) :
    ∃ peerFep fuel, call ∈ drainCalls env peerFep fuel (s.wakeupFired peerFep) := by
  cases a with
  | sendRequest m packet =>
      have hrejected : s.acceptedRequest m packet = none := hquiet
      simp [dispatchRequestCalls, submissionCalls, hrejected] at hcall
  | retryEvent key =>
      cases hdue : s.dueRetry key with
      | none => simp [dispatchRequestCalls, hdue] at hcall
      | some retry =>
          have hrejected : s.acceptedRequest retry.metadata (some retry.packet) = none := by
            simpa [rebuildOf, hdue] using hquiet
          have hrejected' : (s.retryFired key retry).acceptedRequest retry.metadata
              (some retry.packet) = none := hrejected
          simp [dispatchRequestCalls, hdue, submissionCalls, hrejected'] at hcall
  | wakeupEvent peerFep fuel => exact ⟨peerFep, fuel, hcall⟩
  | receiveResponse _ | receiveWrite _ | checkTimeout _ | advanceClock _
  | creditsAvailable _ | setAuthorizeAllJobs _ | revokeJobAuthorization _
  | setPermissionChecker _ => simp [dispatchRequestCalls] at hcall

/-- The state of every call of a drain follows from the state before the drain. -/
theorem drainCalls_updates {env : Environment} {p fuel : ℕ} {call : SesManager × RequestKey}
    (hcall : call ∈ drainCalls env p fuel s) : Updates s call.1 := by
  induction fuel generalizing s with
  | zero => simp [drainCalls] at hcall
  | succ fuel ih =>
      unfold drainCalls at hcall
      cases hqueue : s.blockedQueue p with
      | nil => simp [hqueue] at hcall
      | cons key rest =>
          simp only [hqueue, List.mem_append] at hcall
          rcases hcall with hhead | hrest
          · obtain ⟨rfl, r, hlive⟩ := mem_headCalls hhead
            rw [modifyRequest_of_some hlive.lookup]
            exact (Update.redispatch hlive).updates
          · split_ifs at hrest with hstop
            · cases hrest
            exact (redispatchHead_updates env s key).trans (ih hrest)

/-! ## Queues that lose requests -/

/-- No queue gains a request, and none is reordered. -/
def Shrinks (s s' : SesManager) : Prop :=
  ∀ p, (s'.blockedQueue p).Sublist (s.blockedQueue p)

theorem Shrinks.of_same (h : s'.blockedPeerQueues = s.blockedPeerQueues) : Shrinks s s' := by
  intro p
  simp only [blockedQueue, h]
  exact .refl _

theorem Shrinks.refl (s : SesManager) : Shrinks s s := .of_same rfl

theorem Shrinks.trans {s'' : SesManager} (h : Shrinks s s') (h' : Shrinks s' s'') :
    Shrinks s s'' :=
  fun p => (h' p).trans (h p)

theorem shrinks_wake (s : SesManager) (peerFep : ℕ) :
    Shrinks s (s.scheduleBlockedPeerWakeup peerFep) := by
  intro p
  have hsame : (s.scheduleBlockedPeerWakeup peerFep).blockedQueue p = s.blockedQueue p :=
    BlockedPeerQueues.requests_wake _ _ _
  rw [hsame]

theorem shrinks_removeBlockedRequest (s : SesManager) (key : RequestKey) :
    Shrinks s (s.removeBlockedRequest key) := by
  intro p
  by_cases hp : p = key.peerFep
  · subst hp
    have hleft : (s.removeBlockedRequest key).blockedQueue key.peerFep =
        (s.blockedQueue key.peerFep).erase key :=
      BlockedPeerQueues.requests_remove_self _ key
    rw [hleft]
    exact List.erase_sublist
  · have hsame : (s.removeBlockedRequest key).blockedQueue p = s.blockedQueue p :=
      BlockedPeerQueues.requests_remove_ne _ hp
    rw [hsame]

theorem shrinks_releaseDispatchBudget (s : SesManager) (key : RequestKey) :
    Shrinks s (s.releaseDispatchBudget key) := by
  have hsend : Shrinks s (s.releaseSendReservation key) := by
    unfold releaseSendReservation
    cases s.requestStates.lookup key with
    | none => exact .refl s
    | some r =>
        dsimp only
        split_ifs
        · exact shrinks_wake _ _
        · exact .refl s
  refine hsend.trans ?_
  unfold releaseDispatchBudget
  generalize s.releaseSendReservation key = s₁
  unfold releaseWriteReservation
  cases s₁.requestStates.lookup key with
  | none => exact .refl s₁
  | some r =>
      dsimp only
      split_ifs
      · exact shrinks_wake _ _
      · exact .refl s₁

theorem shrinks_terminalizeRequest (s : SesManager) (key : RequestKey)
    (reason : RequestTerminalReason) : Shrinks s (s.terminalizeRequest key reason) := by
  unfold terminalizeRequest
  cases s.requestStates.lookup key with
  | none => exact .refl s
  | some r =>
      dsimp only
      have hfreed : Shrinks s (({ s with
          retryStates := s.retryStates.erase key }.removeBlockedRequest
            key).releaseDispatchBudget key) :=
        ((Shrinks.of_same rfl).trans (shrinks_removeBlockedRequest _ key)).trans
          (shrinks_releaseDispatchBudget _ key)
      generalize ({ s with retryStates := s.retryStates.erase key }.removeBlockedRequest
        key).releaseDispatchBudget key = s₁ at hfreed ⊢
      cases s₁.requestStates.lookup key with
      | none => exact hfreed
      | some r₁ => exact hfreed.trans (.of_same (closeRequest_frame s₁ key reason r₁).2.2.1)

theorem shrinks_handleDispatchFailure (s : SesManager) (key : RequestKey) :
    Shrinks s (s.handleDispatchFailure key) := by
  unfold handleDispatchFailure
  cases s.requestStates.lookup key with
  | none => exact shrinks_removeBlockedRequest s key
  | some r =>
      dsimp only
      split_ifs
      · exact shrinks_removeBlockedRequest s key
      · exact shrinks_terminalizeRequest _ key .protocolError

theorem shrinks_completeWithoutResponse (s : SesManager) (key : RequestKey) :
    Shrinks s (s.completeWithoutResponse key) := by
  unfold completeWithoutResponse
  cases s.requestStates.lookup key with
  | none => exact .refl s
  | some r =>
      dsimp only
      split_ifs
      · exact shrinks_terminalizeRequest _ key .rcOkResponse
      · exact .refl s

/-! ## Dispatch -/

theorem shrinks_dispatchFragments (env : Environment) (s : SesManager) (key : RequestKey)
    (state : RequestLifecycleState) : Shrinks s (dispatchFragments env s key state).1 := by
  simp only [dispatchFragments]
  generalize requestFragments state.metadata state.packet _ _ = fragments
  have hsame := (dispatchSemanticPackets_same env s fragments).blockedPeerQueues
  generalize dispatchSemanticPackets env s fragments = result at hsame
  split_ifs
  · exact .of_same hsame
  · exact (Shrinks.of_same hsame).trans (shrinks_releaseDispatchBudget _ key)

/-- The state in which the request has joined the end of its queue. -/
def queueJoined (s : SesManager) (key : RequestKey) : SesManager :=
  { s with blockedPeerQueues := s.blockedPeerQueues.push key }

theorem shrinks_queueJoined (s : SesManager) (key : RequestKey) :
    Shrinks (s.queueJoined key) s := by
  intro p
  by_cases hp : p = key.peerFep
  · subst hp
    have hjoined : (s.queueJoined key).blockedQueue key.peerFep =
        s.blockedQueue key.peerFep ++ [key] := BlockedPeerQueues.requests_push_self _ key
    rw [hjoined]
    exact List.sublist_append_left _ _
  · have hsame : (s.queueJoined key).blockedQueue p = s.blockedQueue p :=
      BlockedPeerQueues.requests_push_ne _ hp
    rw [hsame]

theorem shrinks_tryReserve {s₁ : SesManager} {r : RequestLifecycleState}
    (h : s.tryReserveDispatchBudget key r = some s₁) : Shrinks s s₁ := by
  rcases tryReserveDispatchBudget_cases h with ⟨-, -, -, rfl⟩ | ⟨-, -, -, rfl⟩ | rfl
  all_goals exact .of_same rfl

/-- A dispatch adds at most its own request, to the end of its queue, and only when
the request is not queued yet. -/
theorem shrinks_dispatchRequestPackets (env : Environment) (s : SesManager)
    (key : RequestKey) :
    Shrinks s (dispatchRequestPackets env s key).1 ∨
      (∀ r, s.requestStates.lookup key = some r → r.blockedQueueLinked = false) ∧
        Shrinks (s.queueJoined key) (dispatchRequestPackets env s key).1 := by
  unfold dispatchRequestPackets
  cases hr : s.requestStates.lookup key with
  | none => exact .inl (.refl s)
  | some r =>
      dsimp only
      by_cases hterm : r.terminalized = true
      · rw [if_pos hterm]
        exact .inl (shrinks_removeBlockedRequest s key)
      rw [if_neg hterm]
      by_cases hqueued : (r.blockedQueueLinked && !s.isBlockedQueueHead key) = true
      · rw [if_pos hqueued]
        exact .inl (.of_same rfl)
      rw [if_neg hqueued]
      cases hgrant : s.tryReserveDispatchBudget key r with
      | none =>
          cases hlinked : r.blockedQueueLinked with
          | true =>
              refine .inl (.of_same ?_)
              simp [enqueueBlockedRequest, hr, hlinked, modifyRequest]
          | false =>
              refine .inr ⟨fun r' hr' => ?_, .of_same ?_⟩
              · cases hr'
                exact hlinked
              · simp [enqueueBlockedRequest, hr, hlinked, modifyRequest, queueJoined]
      | some s₁ =>
          refine .inl ((shrinks_tryReserve hgrant).trans ?_)
          refine Shrinks.trans ?_ (shrinks_dispatchFragments env _ key r)
          split_ifs
          · exact (shrinks_removeBlockedRequest s₁ key).trans (.of_same rfl)
          · exact .of_same rfl

/-- An iteration of a drain for a queued request only takes requests out. -/
theorem shrinks_redispatchHead (env : Environment) {r : RequestLifecycleState}
    (hlive : Live s key r) (hlinked : r.blockedQueueLinked = true) :
    Shrinks s (redispatchHead env s key).1 := by
  simp only [redispatchHead, hlive.lookup, hlive.live, Bool.false_eq_true, if_false]
  have hdispatched : Shrinks s
      (dispatchRequestPackets env (s.modifyRequest key redispatchCounted) key).1 := by
    have hcounted : Shrinks s (s.modifyRequest key redispatchCounted) := .of_same rfl
    rcases shrinks_dispatchRequestPackets env (s.modifyRequest key redispatchCounted) key with
      h | ⟨hfree, -⟩
    · exact hcounted.trans h
    · have hr : (s.modifyRequest key redispatchCounted).requestStates.lookup key =
          some (redispatchCounted r) := by
        rw [modifyRequest_of_some hlive.lookup, AList.lookup_insert]
      have hunlinked : (redispatchCounted r).blockedQueueLinked = false := hfree _ hr
      exact absurd (hunlinked.symm.trans hlinked) Bool.false_ne_true
  generalize dispatchRequestPackets env (s.modifyRequest key redispatchCounted) key = result
    at hdispatched ⊢
  split_ifs
  · exact hdispatched.trans (shrinks_handleDispatchFailure _ key)
  · cases result.1.requestStates.lookup key with
    | none => exact hdispatched
    | some r' =>
        dsimp only
        split_ifs
        · exact hdispatched
        · exact hdispatched.trans (shrinks_completeWithoutResponse _ key)

/-- A drain of matching queues only takes requests out. -/
theorem shrinks_drainBlockedPeerQueue (env : Environment) {p fuel : ℕ} (h : QueuesMatch s)
    (hdrain : drainBlockedPeerQueue env p fuel s = some s') : Shrinks s s' := by
  induction fuel generalizing s with
  | zero => cases hdrain
  | succ fuel ih =>
      unfold drainBlockedPeerQueue at hdrain
      cases hqueue : s.blockedQueue p with
      | nil =>
          simp only [hqueue, Option.some.injEq] at hdrain
          exact hdrain ▸ .refl s
      | cons key rest =>
          simp only [hqueue] at hdrain
          obtain ⟨-, r, hlive, hlinked⟩ := (h.mem_iff key p).mp (by simp [hqueue])
          have hhead := shrinks_redispatchHead env hlive hlinked
          split_ifs at hdrain with hstop
          · cases hdrain
            exact hhead
          · exact hhead.trans (ih (h.updates (redispatchHead_updates env s key)) hdrain)

/-! ## Responses, timeouts and incoming requests -/

theorem shrinks_scheduleRetry (s : SesManager) (key : RequestKey) (trigger : RetryTrigger) :
    Shrinks s (s.scheduleRetry key trigger) := by
  unfold scheduleRetry
  cases s.requestStates.lookup key with
  | none => exact .refl s
  | some r =>
      dsimp only
      split_ifs
      · exact shrinks_terminalizeRequest _ key _
      · exact shrinks_terminalizeRequest _ key _
      · exact .of_same rfl

theorem shrinks_checkResponseTimeout (s : SesManager) (key : RequestKey) :
    Shrinks s (s.checkResponseTimeout key) := by
  unfold checkResponseTimeout
  cases s.requestStates.lookup key with
  | none => exact .refl s
  | some r =>
      dsimp only
      split_ifs
      · exact .refl s
      · exact .refl s
      · exact .of_same rfl
      · exact .refl s
      · exact shrinks_terminalizeRequest _ key _
      · exact shrinks_scheduleRetry s key _

theorem shrinks_noteSendConsumed (s : SesManager) (key : RequestKey) (auxTimestampNs : ℕ) :
    Shrinks s (s.noteSendConsumed key auxTimestampNs) := by
  simp only [noteSendConsumed]
  cases (s.modifyRequest key (consumeObserved auxTimestampNs)).requestStates.lookup key with
  | none => exact .of_same rfl
  | some r =>
      dsimp only
      split_ifs
      · exact shrinks_releaseDispatchBudget _ key
      · exact .of_same rfl

theorem shrinks_receiveReadData (s : SesManager) (key : RequestKey)
    (state : RequestLifecycleState) (tag : SoftUeMetadataTag) (rx : PdcRxSemanticResult) :
    Shrinks s (s.receiveReadData key state tag rx) := by
  unfold receiveReadData
  split_ifs
  · exact .refl s
  · exact shrinks_terminalizeRequest _ key _
  · exact shrinks_terminalizeRequest _ key _
  · exact shrinks_terminalizeRequest _ key _
  · exact .of_same rfl

theorem shrinks_receiveLiveResponse (s : SesManager) (key : RequestKey)
    (state : RequestLifecycleState) (response : PdcSesResponse) (tag : SoftUeMetadataTag) :
    Shrinks s (s.receiveLiveResponse key state response tag) := by
  unfold receiveLiveResponse
  by_cases hok : tag.returnCode = .ok
  · rw [if_pos hok]
    have hconsumed : Shrinks s (if tag.operationType = .send
        then s.noteSendConsumed key response.auxTimestampNs else s) := by
      split_ifs
      · exact shrinks_noteSendConsumed s key _
      · exact .refl s
    refine hconsumed.trans ?_
    dsimp only
    generalize (if tag.operationType = .send
      then s.noteSendConsumed key response.auxTimestampNs else s) = s₁
    split_ifs
    · exact shrinks_receiveReadData s₁ key state tag _
    · exact shrinks_terminalizeRequest _ key _
  · rw [if_neg hok]
    split_ifs
    · exact shrinks_terminalizeRequest _ key _
    · exact shrinks_scheduleRetry s key _
    · exact shrinks_terminalizeRequest _ key _

theorem shrinks_processReceiveResponse (s : SesManager) (response : PdcSesResponse) :
    Shrinks s (s.processReceiveResponse response) := by
  unfold processReceiveResponse
  cases response.packet with
  | none => exact .of_same rfl
  | some packet =>
      dsimp only [receiveResponsePacket]
      split_ifs
      · cases s.responseCounted.requestStates.lookup (packetKey packet) with
        | none => exact .of_same rfl
        | some r =>
            dsimp only
            split_ifs
            · exact .of_same rfl
            · exact shrinks_receiveLiveResponse s.responseCounted _ r response _
      · exact .of_same rfl

theorem shrinks_receiveWriteRequest (s : SesManager) (packet : TaggedPacket) :
    Shrinks s (s.receiveWriteRequest packet) := by
  unfold receiveWriteRequest
  split_ifs
  · cases s.validateInboundHeader packet.header with
    | error failure => exact .of_same rfl
    | ok _ =>
        simp only [handleIncomingWriteRequest]
        cases s.validateRmaRequest packet.header packet.metadata true packet.bytes.length with
        | error failure => exact .of_same rfl
        | ok _ =>
            cases s.writeBudget.tryReserve packet.bytes.length with
            | none => exact .of_same rfl
            | some budget =>
                refine Shrinks.trans ?_ (shrinks_wake _ (packetKey packet).peerFep)
                unfold writePacketBytesToAddress
                split_ifs
                · exact .of_same rfl
                · exact .of_same rfl
  · exact .of_same rfl

/-- An action that submits no request only takes requests out of their queues. -/
theorem shrinks_sesStep {env : Environment} {a : SesAction} (h : QueuesMatch s)
    (hquiet : s.rebuildOf a = none) (hstep : sesStep env s a = some s') : Shrinks s s' := by
  cases a with
  | sendRequest m packet =>
      cases hstep
      rw [processSendRequest_rejected env hquiet]
      exact .of_same rfl
  | receiveResponse response =>
      cases hstep
      exact shrinks_processReceiveResponse s response
  | receiveWrite packet =>
      cases hstep
      exact shrinks_receiveWriteRequest s packet
  | checkTimeout key =>
      cases hstep
      exact shrinks_checkResponseTimeout s key
  | retryEvent key =>
      simp only [sesStep, Option.ite_none_right_eq_some, Option.some.injEq] at hstep
      obtain ⟨-, rfl⟩ := hstep
      cases hdue : s.dueRetry key with
      | none =>
          unfold executeRetry
          cases hretry : s.retryStates.lookup key with
          | none => exact .refl s
          | some retry =>
              have hstale : s.retryStale key retry = true := by
                simpa [dueRetry, hretry, Option.filter] using hdue
              simp only [hstale, if_true]
              exact .of_same rfl
      | some retry =>
          have hrejected : s.acceptedRequest retry.metadata (some retry.packet) = none := by
            simpa [rebuildOf, hdue] using hquiet
          have hrejected' : (s.retryFired key retry).acceptedRequest retry.metadata
              (some retry.packet) = none := hrejected
          rw [executeRetry_of_due env hdue, processSendRequest_rejected env hrejected']
          exact .of_same rfl
  | wakeupEvent peerFep fuel =>
      simp only [sesStep, Option.ite_none_right_eq_some] at hstep
      have hfired : Shrinks s (s.wakeupFired peerFep) := by
        intro p
        have hsame : (s.wakeupFired peerFep).blockedQueue p = s.blockedQueue p :=
          BlockedPeerQueues.requests_fire _ _ _
        rw [hsame]
      exact hfired.trans
        (shrinks_drainBlockedPeerQueue env (h.update (.fire s peerFep)) hstep.2)
  | creditsAvailable peerFep =>
      cases hstep
      exact shrinks_wake s peerFep
  | advanceClock _ | setAuthorizeAllJobs _ | revokeJobAuthorization _ | setPermissionChecker _ =>
      cases hstep
      exact .of_same rfl

/-! ## Submissions -/

/-- An accepted submission adds at most its own request, to the end of its queue. -/
theorem shrinks_submitRequest (env : Environment) (s : SesManager)
    (m m' : ExtendedOperationMetadata) (p' : Packet) :
    Shrinks (s.queueJoined (requestKey m'))
      ((s.submissionCounted m).submitRequest env m' p').1 := by
  have hprepared : (s.preparedState m m').blockedPeerQueues = s.blockedPeerQueues := by
    unfold preparedState cancelPendingRetry authorizeJob
    split_ifs <;> rfl
  have hqueues := (rebuildRequest_frame (s.preparedState m m') (requestKey m') m' p').2.2.1
  simp only [submitRequest]
  rw [show (authorizeJob _ m'.jobId).cancelPendingRetry (requestKey m') m' =
    s.preparedState m m' from rfl]
  rw [hprepared] at hqueues
  generalize (s.preparedState m m').rebuildRequest (requestKey m') m' p' = s₁ at hqueues ⊢
  have hdispatched : Shrinks (s.queueJoined (requestKey m'))
      (dispatchRequestPackets env s₁ (requestKey m')).1 := by
    have hjoined : Shrinks (s.queueJoined (requestKey m')) (s₁.queueJoined (requestKey m')) :=
      .of_same (by simp only [queueJoined, hqueues])
    rcases shrinks_dispatchRequestPackets env s₁ (requestKey m') with h | ⟨-, h⟩
    · exact (hjoined.trans (shrinks_queueJoined s₁ _)).trans h
    · exact hjoined.trans h
  generalize dispatchRequestPackets env s₁ (requestKey m') = result at hdispatched ⊢
  split_ifs
  · exact hdispatched.trans (shrinks_handleDispatchFailure _ _)
  · exact hdispatched.trans (shrinks_completeWithoutResponse _ _)

/-- A step that submits a request adds at most that request, to the end of its
queue. -/
theorem shrinks_sesStep_rebuild {env : Environment} {a : SesAction}
    {m : ExtendedOperationMetadata} {packet : Packet} (hrebuild : s.rebuildOf a = some (m, packet))
    (hstep : sesStep env s a = some s') : Shrinks (s.queueJoined (requestKey m)) s' := by
  cases a with
  | sendRequest m₀ packet₀ =>
      cases hstep
      rw [processSendRequest_accepted env hrebuild]
      exact shrinks_submitRequest env s m₀ m packet
  | retryEvent key =>
      simp only [sesStep, Option.ite_none_right_eq_some, Option.some.injEq] at hstep
      obtain ⟨-, rfl⟩ := hstep
      obtain ⟨retry, hdue, haccepted⟩ := Option.bind_eq_some_iff.mp hrebuild
      have haccepted' : (s.retryFired key retry).acceptedRequest retry.metadata
          (some retry.packet) = some (m, packet) := haccepted
      rw [executeRetry_of_due env hdue, processSendRequest_accepted env haccepted']
      exact shrinks_submitRequest env (s.retryFired key retry) retry.metadata m packet
  | receiveResponse _ | receiveWrite _ | checkTimeout _ | wakeupEvent _ _ | advanceClock _
  | creditsAvailable _ | setAuthorizeAllJobs _ | revokeJobAuthorization _
  | setPermissionChecker _ => cases hrebuild

end SesManager
end UeSim
