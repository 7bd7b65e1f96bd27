import UeSim.Ses.Advances

/-!
# Live requests keep advancing

No handler orphans a live request, with one exception: a retry that no longer
passes the validation of a submission.  Its event is gone, the request waits for
nothing, and nothing reports its failure.
-/

namespace UeSim
namespace SesManager

variable {s s' : SesManager} {key k : RequestKey}

/-! ## Runs -/

/-- The invariant of the manager between two actions. -/
structure Progressing (s : SesManager) : Prop where
  linked : LinkedQueued s
  advances : ∀ key, Advances s key

theorem Progressing.steady (h : Progressing s) (hupd : Updates s s')
    (hsteady : ∀ key, Steady key s s') : Progressing s' :=
  ⟨h.linked.updates hupd, fun key => (h.advances key).steady (hsteady key)⟩

/-- Effects on behalf of one request only have to be checked for it. -/
theorem Progressing.effects (h : Progressing s) (heff : Effects key s s')
    (hown : Advances s' key) : Progressing s' := by
  refine ⟨h.linked.updates heff.updates, fun k => ?_⟩
  by_cases hk : k = key
  · exact hk ▸ hown
  · exact (h.advances k).steady (heff.steady hk)

/-- An accepted submission makes its request advance, whatever became of the
trigger that it had before. -/
theorem LinkedQueued.submitRequest (env : Environment) (hlinked : LinkedQueued s)
    {m m' : ExtendedOperationMetadata} (hothers : ∀ k, k ≠ requestKey m' → Advances s k)
    (hdeadline : s.responseDeadline ≠ 0) (p' : Packet) :
    Progressing ((s.submissionCounted m).submitRequest env m' p').1 := by
  have hbefore := preparedState_effects s m m'
  have hafter := submitRequest_effects env s m m' p'
  refine ⟨((hlinked.updates hbefore.updates).rebuild _ _ _).updates hafter.updates, fun k => ?_⟩
  by_cases hk : k = requestKey m'
  · exact hk ▸ submitRequest_advances env hlinked hdeadline m m' p'
  · refine (hothers k hk).steady ((hbefore.steady hk).trans (Steady.trans ?_ (hafter.steady hk)))
    obtain ⟨hstates, hretries, hqueues, -⟩ :=
      rebuildRequest_frame (s.preparedState m m') (requestKey m') m' p'
    refine ⟨?_, by rw [hretries], by simp only [blockedQueue, hqueues]⟩
    rw [hstates, AList.lookup_insert_ne hk]

theorem Progressing.processSendRequest (env : Environment) (h : Progressing s)
    (hdeadline : s.responseDeadline ≠ 0) (m : ExtendedOperationMetadata)
    (packet : Option Packet) : Progressing (s.processSendRequest env m packet).1 := by
  cases haccepted : s.acceptedRequest m packet with
  | none =>
      rw [processSendRequest_rejected env haccepted]
      exact h.steady (SameTracked.updates (.of_tracked rfl) rfl)
        fun _ => .of_same rfl rfl fun _ => rfl
  | some accepted =>
      rw [processSendRequest_accepted env haccepted]
      exact h.linked.submitRequest env (fun k _ => h.advances k) hdeadline _

/-- The retry entry that is refreshed stays due. -/
theorem Progressing.refreshRetry (h : Progressing s) (key : RequestKey) :
    Progressing (s.refreshRetry key) := by
  refine h.effects (refreshRetry_effects s key) fun r hlive => ?_
  have hr : s.requestStates.lookup key = some r := hlive.lookup
  rcases h.advances key r ⟨hr, hlive.live⟩ with harmed | ⟨retry, hretry, hpending, -⟩ | hqueued
  · exact .inl harmed
  · have hentry : (s.refreshRetry key).retryStates.lookup key = some { retry with
        waitingResponse := r.waitingResponse
        nextRetryMs := r.responseDeadlineMs
        scheduledRetryGeneration := r.attemptGeneration } := by
      simp [SesManager.refreshRetry, KeyedMap.lookup_modify_self, hretry, hr]
    exact .inr (.inl ⟨_, hentry, hpending, rfl⟩)
  · exact .inr (.inr hqueued)

/-- The retry event of the request, when it re-submits it, passes the validation
of a submission, or the request is linked in its queue. -/
def RetriesAccepted (s : SesManager) : SesAction → Prop
  | .retryEvent key => s.dueRetry key ≠ none → s.rebuildOf (.retryEvent key) = none →
      ∀ r, s.requestStates.lookup key = some r → r.blockedQueueLinked = true
  | _ => True

/-- A response timeout that the action arms has a deadline other than zero,
which means no deadline. -/
def TimeoutsArmed (s : SesManager) : SesAction → Prop
  | .sendRequest _ _ | .receiveResponse _ | .retryEvent _ | .wakeupEvent _ _ =>
      s.responseDeadline ≠ 0
  | _ => True

/-- A stale retry goes away without a trace; the current attempt does not rest
on it. -/
theorem Progressing.staleRetry (h : Progressing s) {retry : RetryState}
    (hretry : s.retryStates.lookup key = some retry) (hstale : s.retryStale key retry = true) :
    Progressing ((s.retryFired key retry).retryDropped key) := by
  have heff : Effects key s ((s.retryFired key retry).retryDropped key) :=
    (retryFired_effect hretry).effects.tail (.retryErase _)
  refine h.effects heff fun r hlive => ?_
  have hr : s.requestStates.lookup key = some r := hlive.lookup
  rcases h.advances key r ⟨hr, hlive.live⟩ with harmed | ⟨retry', hretry', -, hdue⟩ | hqueued
  · exact .inl harmed
  · cases hretry.symm.trans hretry'
    simp [retryStale, hr, hdue] at hstale
  · exact .inr (.inr hqueued)

/-- A retry that is not accepted leaves a linked request in its queue. -/
theorem Progressing.rejectedRetry (env : Environment) (h : Progressing s) {retry : RetryState}
    (hdue : s.dueRetry key = some retry)
    (hrejected : s.acceptedRequest retry.metadata (some retry.packet) = none)
    (hlinked : ∀ r, s.requestStates.lookup key = some r → r.blockedQueueLinked = true) :
    Progressing (s.executeRetry env key) := by
  have hrejected' : (s.retryFired key retry).acceptedRequest retry.metadata
      (some retry.packet) = none := hrejected
  rw [executeRetry_of_due env hdue, processSendRequest_rejected env hrejected']
  have hfired : Effects key s (s.retryFired key retry) :=
    (retryFired_effect (dueRetry_lookup hdue)).effects
  have hcounted : Effects key (s.retryFired key retry)
      (((s.retryFired key retry).submissionCounted retry.metadata).errorCounted) :=
    SameTracked.effects (.of_tracked rfl) rfl
  refine h.effects ((hfired.trans hcounted).trans (refreshRetry_effects _ key)) fun r hlive => ?_
  have hr : s.requestStates.lookup key = some r := hlive.lookup
  exact .inr (.inr ⟨hlinked r hr, h.linked key r hr (hlinked r hr)⟩)

theorem Progressing.executeRetry (env : Environment) (h : Progressing s)
    (hdeadline : s.responseDeadline ≠ 0) (haccepted : s.RetriesAccepted (.retryEvent key))
    (howned : RetriesOwned s) : Progressing (s.executeRetry env key) := by
  cases hdue : s.dueRetry key with
  | none =>
      unfold SesManager.executeRetry
      cases hretry : s.retryStates.lookup key with
      | none => exact h
      | some retry =>
          have hstale : s.retryStale key retry = true := by
            simpa [dueRetry, hretry, Option.filter] using hdue
          simp only [hstale, if_true]
          exact h.staleRetry hretry hstale
  | some retry =>
      cases hsubmitted : s.acceptedRequest retry.metadata (some retry.packet) with
      | none =>
          refine h.rejectedRetry env hdue hsubmitted (haccepted (by simp [hdue]) ?_)
          simp [rebuildOf, hdue, hsubmitted]
      | some accepted =>
          obtain ⟨m', p'⟩ := accepted
          have hsubmitted' : (s.retryFired key retry).acceptedRequest retry.metadata
              (some retry.packet) = some (m', p') := hsubmitted
          have hkey : requestKey m' = key :=
            (howned.rebuildOf_retryEvent (Option.bind_eq_some_iff.mpr
              ⟨retry, hdue, hsubmitted⟩)).1
          have hfired := (retryFired_effect (dueRetry_lookup hdue)).effects
          have hothers : ∀ k, k ≠ requestKey m' → Advances (s.retryFired key retry) k :=
            fun k hk => (h.advances k).steady (hfired.steady (hkey ▸ hk))
          rw [executeRetry_of_due env hdue, processSendRequest_accepted env hsubmitted']
          exact ((h.linked.updates hfired.updates).submitRequest env hothers
            (hfired.responseDeadline ▸ hdeadline) p').refreshRetry key

theorem Progressing.drain (env : Environment) {p fuel : ℕ} (h : Progressing s)
    (hdeadline : s.responseDeadline ≠ 0)
    (hdrain : drainBlockedPeerQueue env p fuel s = some s') : Progressing s' := by
  induction fuel generalizing s with
  | zero => cases hdrain
  | succ fuel ih =>
      unfold drainBlockedPeerQueue at hdrain
      cases hqueue : s.blockedQueue p with
      | nil =>
          simp only [hqueue, Option.some.injEq] at hdrain
          exact hdrain ▸ h
      | cons key rest =>
          simp only [hqueue] at hdrain
          have hown := redispatchHead_advances env h.linked hdeadline key
          obtain ⟨hhead, hclock⟩ : Progressing (redispatchHead env s key).1 ∧
              (redispatchHead env s key).1.responseDeadline = s.responseDeadline := by
            rcases redispatchHead_effects env s key with heff | ⟨r, hlive, heff⟩
            · exact ⟨h.effects heff hown, heff.responseDeadline⟩
            · have hcounted : Progressing (s.modifyRequest key redispatchCounted) := by
                refine ⟨?_, fun k => (h.advances k).steady ?_⟩
                · rw [modifyRequest_of_some hlive.lookup]
                  exact h.linked.updates (Update.redispatch hlive).updates
                · by_cases hk : k = key
                  · exact hk ▸ .modify s fun _ => rfl
                  · exact ⟨by rw [lookup_redispatchCounted_ne s hk], rfl, Iff.rfl⟩
              exact ⟨hcounted.effects heff hown, heff.responseDeadline⟩
          cases hgo : (redispatchHead env s key).2 with
          | true =>
              simp only [hgo, if_true, Option.some.injEq] at hdrain
              exact hdrain ▸ hhead
          | false =>
              simp only [hgo, Bool.false_eq_true, if_false] at hdrain
              exact ih hhead (hclock ▸ hdeadline) hdrain

theorem receiveWriteRequest_steady (s : SesManager) (packet : TaggedPacket) :
    Steady key s (s.receiveWriteRequest packet) := by
  unfold receiveWriteRequest
  split_ifs
  swap
  · exact .of_same rfl rfl fun _ => rfl
  cases s.validateInboundHeader packet.header with
  | error failure => exact .of_same rfl rfl fun _ => rfl
  | ok _ =>
      simp only [handleIncomingWriteRequest]
      cases s.validateRmaRequest packet.header packet.metadata true packet.bytes.length with
      | error failure => exact .of_same rfl rfl fun _ => rfl
      | ok _ =>
          cases s.writeBudget.tryReserve packet.bytes.length with
          | none => exact .of_same rfl rfl fun _ => rfl
          | some budget =>
              unfold writePacketBytesToAddress
              split_ifs
              · exact .of_same rfl rfl fun _ => BlockedPeerQueues.requests_wake _ _ _
              · exact .of_same rfl rfl fun _ => BlockedPeerQueues.requests_wake _ _ _

theorem progressing_step {env : Environment} {a : SesAction}
    (h : Progressing s ∧ RetriesOwned s) (haccepted : s.RetriesAccepted a)
    (harmed : s.TimeoutsArmed a) (hstep : sesStep env s a = some s') :
    Progressing s' ∧ RetriesOwned s' := by
  refine ⟨?_, retriesOwned_step h.2 hstep⟩
  obtain ⟨h, howned⟩ := h
  cases a with
  | sendRequest m packet =>
      cases hstep
      exact h.processSendRequest env harmed m packet
  | receiveResponse response =>
      cases hstep
      exact h.effects (processReceiveResponse_effects s response)
        (processReceiveResponse_advances h.advances harmed response)
  | receiveWrite packet =>
      cases hstep
      exact h.steady (receiveWriteRequest_updates s packet)
        fun _ => receiveWriteRequest_steady s packet
  | checkTimeout key =>
      cases hstep
      exact h.effects (checkResponseTimeout_effects s key)
        (checkResponseTimeout_advances (h.advances key))
  | retryEvent key =>
      simp only [sesStep, Option.ite_none_right_eq_some, Option.some.injEq] at hstep
      exact hstep.2 ▸ h.executeRetry env harmed haccepted howned
  | wakeupEvent peerFep fuel =>
      simp only [sesStep, Option.ite_none_right_eq_some] at hstep
      refine Progressing.drain env (s := s.wakeupFired peerFep) ?_ harmed hstep.2
      exact h.steady (Update.fire s peerFep).updates
        fun _ => .of_same rfl rfl fun _ => BlockedPeerQueues.requests_fire _ _ _
  | creditsAvailable peerFep =>
      cases hstep
      exact h.steady (Update.wake s peerFep).updates
        fun _ => .of_same rfl rfl fun _ => BlockedPeerQueues.requests_wake _ _ _
  | advanceClock deltaNs =>
      cases hstep
      exact h.steady (Update.advance s deltaNs).updates fun _ => .of_same rfl rfl fun _ => rfl
  | setAuthorizeAllJobs _ | revokeJobAuthorization _ | setPermissionChecker _ =>
      cases hstep
      exact h.steady (SameTracked.updates (.of_tracked rfl) rfl)
        fun _ => .of_same rfl rfl fun _ => rfl

theorem progressing_initial (h : Initial s) : Progressing s where
  linked key r hr := by simp [h.requestStates] at hr
  advances key r hlive := by
    have hr := hlive.lookup
    simp [h.requestStates] at hr

/-- Along every run whose retries are accepted and whose timeouts have a
deadline, every live request advances. -/
theorem advancing_of_retriesAccepted (env : Environment) (s : SesManager)
    (hreach : (sesSystem env).ReachableBy
      (fun s a => s.RetriesAccepted a ∧ s.TimeoutsArmed a) s) :
    ∀ key r, s.requestStates.lookup key = some r → r.terminalized = false →
      Armed r ∨ RetryDue s key r ∨ Queued s key r := by
  have hinv := hreach.invariant (P := fun s => Progressing s ∧ RetriesOwned s)
    (fun _ hinit => ⟨progressing_initial hinit, retriesOwned_initial hinit⟩)
    (fun _ _ _ h hguard hstep => progressing_step h hguard.1 hguard.2 hstep)
  exact fun key r hr hlive => hinv.1.advances key r ⟨hr, hlive⟩

/-- The run that submits one SEND meets the condition. -/
theorem advancing_after_submission :
    let s := (processSendRequest reliable {} (sampleSend 2 1) (some [0])).1
    ∀ key r, s.requestStates.lookup key = some r → r.terminalized = false →
      Armed r ∨ RetryDue s key r ∨ Queued s key r :=
  advancing_of_retriesAccepted reliable _
    (.step (.sendRequest (sampleSend 2 1) (some [0])) (.init initial_default)
      ⟨trivial, show responseDeadline {} ≠ 0 by decide⟩ rfl)

/-! ## A request that nothing advances -/

/-- A SEND whose response times out while its job loses its authorization. -/
def revokedSend : List SesAction :=
  [.sendRequest (sampleSend 2 1) (some [0]), .advanceClock 80000000,
    .checkTimeout (sampleKey 2 1), .revokeJobAuthorization 7,
    .retryEvent (sampleKey 2 1)]

/-- A manager that admits authorized jobs only. -/
def authorizedOnly : SesManager where
  allowAllJobs := false
  authorizedJobs := [7]

/-- After the retry was rejected the SEND is live, but it waits for nothing. -/
theorem request_orphaned_by_retry :
    ∃ s, (sesSystem reliable).Reachable s ∧
      (sesSystem reliable).runActions authorizedOnly revokedSend = some s ∧
      ¬ ∀ key r, s.requestStates.lookup key = some r → r.terminalized = false →
        Armed r ∨ RetryDue s key r ∨ Queued s key r := by
  obtain ⟨s, hs⟩ : ∃ s, (sesSystem reliable).runActions authorizedOnly revokedSend = some s :=
    Option.isSome_iff_exists.mp (by decide)
  have hend : ((sesSystem reliable).runActions authorizedOnly revokedSend).map (fun s =>
      ((s.requestStates.lookup (sampleKey 2 1)).map fun r =>
        (r.terminalized, r.waitingResponse, r.blockedQueueLinked),
        s.retryPending (sampleKey 2 1))) =
      some (some (false, false, false), false) := by decide
  rw [hs, Option.map_some, Option.some.injEq, Prod.mk.injEq] at hend
  obtain ⟨hrecord, hpending⟩ := hend
  obtain ⟨r, hr, hfields⟩ := Option.map_eq_some_iff.mp hrecord
  rw [Prod.mk.injEq, Prod.mk.injEq] at hfields
  obtain ⟨hlive, hwaiting, hlinked⟩ := hfields
  refine ⟨s, ?_, hs, fun hadvancing => ?_⟩
  · exact TransitionSystem.ReachableBy.runActions
      (.init ⟨rfl, rfl, rfl, rfl, rfl, rfl, rfl, rfl, rfl, rfl⟩) (fun _ _ _ => trivial) hs
  · rcases hadvancing _ r hr hlive with harmed | ⟨retry, hretry, hdue, -⟩ | hqueued
    · exact Bool.false_ne_true (hwaiting.symm.trans harmed.1.waiting)
    · simp [retryPending, hretry, hdue] at hpending
    · exact Bool.false_ne_true (hlinked.symm.trans hqueued.1)

end SesManager
end UeSim
