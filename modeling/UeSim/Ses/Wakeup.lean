import UeSim.Ses.Releases

/-!
# Wakeups of blocked requests

The budgets belong to the endpoint, but a released reservation wakes only the
queue of the peer it was held for.  The head of a queue without a pending
wakeup is refused by the budgets along every run in which what a request gives
back is enough for no head of another peer's queue.  With one message admitted
at a time, the completion of a request to one peer leaves the request to
another peer blocked for good.
-/

namespace UeSim
namespace SesManager

variable {s s' : SesManager} {key : RequestKey} {p : ℕ}

/-! ## Submissions -/

/-- The invariant of the manager between two actions. -/
structure Attended (s : SesManager) : Prop extends Orderly s where
  heads : ∀ p, HeadRefused p s

theorem preparedState_quiet (s : SesManager) (m m' : ExtendedOperationMetadata) :
    Quiet s (s.preparedState m m') := by
  unfold preparedState cancelPendingRetry authorizeJob
  split_ifs <;> exact .of_same rfl rfl rfl rfl

/-- An accepted submission charges the budgets, if at all, and queues its
request only when it is refused. -/
theorem Attended.submit (env : Environment) (h : Attended s)
    {m m' : ExtendedOperationMetadata} {p' : Packet}
    (hunlinked : ∀ r, s.requestStates.lookup (requestKey m') = some r →
      r.blockedQueueLinked = false) :
    Attended ((s.submissionCounted m).submitRequest env m' p').1 := by
  have hquiet := preparedState_quiet s m m'
  have hstates := preparedState_requestStates s m m'
  have horderly := h.toOrderly.updates (preparedState_effects s m m').updates
  have hsubmit := submitRequest_effects env s m m' p'
  generalize s.preparedState m m' = s₁ at hquiet hstates horderly hsubmit
  have hfree : ¬ Linked s₁ (requestKey m') := by
    rintro ⟨r, hlive, hlinked⟩
    rw [← hstates] at hunlinked
    exact Bool.false_ne_true ((hunlinked r hlive.lookup).symm.trans hlinked)
  obtain ⟨hrebuilt, -, hqueues, hsb, hwb⟩ := rebuildRequest_frame s₁ (requestKey m') m' p'
  have horderly₂ : Orderly (s₁.rebuildRequest (requestKey m') m' p') :=
    ⟨horderly.queues.rebuild hfree, horderly.records.rebuild _ _ _,
      horderly.closed.rebuild _ _ _⟩
  have hlive := rebuildRequest_live s₁ (requestKey m') m' p'
  generalize s₁.rebuildRequest (requestKey m') m' p' = s₂ at *
  have habsent : ∀ p, requestKey m' ∉ s₂.blockedQueue p := by
    intro p hmem
    refine hfree ((horderly.queues.mem_iff _ p).mp ?_).2
    simpa only [blockedQueue, hqueues] using hmem
  refine ⟨horderly₂.updates hsubmit.updates, fun p => ?_⟩
  have hhead : HeadRefused p s₂ := by
    intro hpending k r hk hr
    have hne : k ≠ requestKey m' := by
      rintro rfl
      exact habsent p (List.mem_of_head? hk)
    rw [hrebuilt, AList.lookup_insert_ne hne] at hr
    simp only [blockedQueue, hqueues] at hk
    simp only [SesManager.wakeupPending, hqueues] at hpending
    simp only [budgets, hsb, hwb]
    exact ((h.heads p).quiet hquiet) hpending k r hk hr
  refine .effects horderly₂ hsubmit hhead.self (hhead.others (habsent p) fun r hr => ?_)
  cases hlive.lookup.symm.trans hr
  exact ⟨rfl, rfl⟩

theorem Attended.processSendRequest (env : Environment) (h : Attended s)
    (m : ExtendedOperationMetadata) (packet : Option Packet)
    (hunlinked : ∀ m' p', s.acceptedRequest m packet = some (m', p') →
      ∀ r, s.requestStates.lookup (requestKey m') = some r → r.blockedQueueLinked = false) :
    Attended (s.processSendRequest env m packet).1 := by
  cases haccepted : s.acceptedRequest m packet with
  | none =>
      refine ⟨h.toOrderly.updates (processSendRequest_updates env haccepted), fun p => ?_⟩
      rw [processSendRequest_rejected env haccepted]
      exact (h.heads p).quiet (.of_same rfl rfl rfl rfl)
  | some accepted =>
      obtain ⟨m', p'⟩ := accepted
      rw [processSendRequest_accepted env haccepted]
      exact h.submit env (hunlinked m' p' haccepted)

/-! ## Drains -/

/-- The dispatch of the head of a queue: it is refused and stays, or the dispatch
fails, or the request leaves the queue. -/
theorem dispatchRequestPackets_head (env : Environment) {r : RequestLifecycleState}
    (hlive : Live s key r) (hlinked : r.blockedQueueLinked = true)
    (hhead : s.isBlockedQueueHead key = true) :
    (s.budgets.admits r = false ∧
        dispatchRequestPackets env s key = (s.modifyRequest key gateClosed, true)) ∨
      (dispatchRequestPackets env s key).2 = false ∨
      ∃ r', Live (dispatchRequestPackets env s key).1 key r' ∧
        r'.blockedQueueLinked = false ∧ r'.blockedOnCreditGate = false := by
  simp only [dispatchRequestPackets, hlive.lookup, hlive.live, hhead, Bool.not_true,
    Bool.and_false, Bool.false_eq_true, if_false]
  cases hgrant : s.tryReserveDispatchBudget key r with
  | none =>
      have hqueued : s.enqueueBlockedRequest key = s := by
        simp [enqueueBlockedRequest, hlive.lookup, hlinked]
      rw [hqueued]
      exact .inl ⟨tryReserveDispatchBudget_eq_none.mp hgrant, rfl⟩
  | some s₁ =>
      obtain ⟨r', -, hlive', hlinked', hgate', -⟩ :=
        grant_effects hlive (fun _ => hhead) hgrant rfl
      refine .inr ?_
      simp only [dispatchFragments]
      generalize hfragments : requestFragments r.metadata r.packet _ _ = fragments
      generalize (if r.blockedQueueLinked = true then s₁.removeBlockedRequest key
        else s₁).modifyRequest key granted = s₂ at hlive' ⊢
      have hsame := dispatchSemanticPackets_same env s₂ fragments
      generalize dispatchSemanticPackets env s₂ fragments = result at hsame
      obtain ⟨s₃, accepted⟩ := result
      cases accepted with
      | false => exact .inl rfl
      | true =>
          have hlive₃ : Live s₃ key r' :=
            ⟨by rw [hsame.requestStates, hlive'.lookup], hlive'.live⟩
          obtain ⟨-, hlive₄⟩ := hlive₃.modify (f := s₃.attemptStarted) rfl
          exact .inr ⟨_, hlive₄, hlinked', hgate'⟩

/-- A drain that ends at a head leaves a refused head. -/
theorem redispatchHead_refused {env : Environment} {rest : List RequestKey}
    (hmatch : QueuesMatch s) (hqueue : s.blockedQueue p = key :: rest)
    (hstop : (redispatchHead env s key).2 = true) :
    HeadRefused p (redispatchHead env s key).1 := by
  obtain ⟨hpeer, r, hlive, hlinked⟩ := (hmatch.mem_iff key p).mp (by simp [hqueue])
  have hlive₁ : Live (s.modifyRequest key redispatchCounted) key (redispatchCounted r) := by
    rw [modifyRequest_of_some hlive.lookup]
    exact ⟨AList.lookup_insert _, hlive.live⟩
  have hqueue₁ : (s.modifyRequest key redispatchCounted).blockedQueue p = key :: rest := hqueue
  simp only [redispatchHead, hlive.lookup, hlive.live, Bool.false_eq_true, if_false]
    at hstop ⊢
  generalize s.modifyRequest key redispatchCounted = s₁ at hlive₁ hqueue₁ hstop ⊢
  have hhead₁ : s₁.isBlockedQueueHead key = true := by
    simp [isBlockedQueueHead, hpeer, hqueue₁]
  rcases dispatchRequestPackets_head env hlive₁ hlinked hhead₁ with
    ⟨hrefused, heq⟩ | hfailed | ⟨r', hlive', hlinked', hgate'⟩
  · obtain ⟨-, hlive₂⟩ := hlive₁.modify (f := gateClosed) rfl
    simp only [heq, Bool.not_true, Bool.false_eq_true, if_false, hlive₂.lookup]
    have hgate : (gateClosed (redispatchCounted r)).blockedOnCreditGate = true := rfl
    simp only [hgate, Bool.or_true, if_true]
    refine HeadRefused.quiet ?_ (.modify s₁ key fun _ _ => rfl)
    intro _ k r'' hk hr''
    have hk' : key = k := by simpa [hqueue₁] using hk
    subst hk'
    cases hlive₁.lookup.symm.trans hr''
    exact hrefused
  · simp [hfailed] at hstop
  · cases hsent : (dispatchRequestPackets env s₁ key).2 with
    | false => simp [hsent] at hstop
    | true => simp [hsent, hlive'.lookup, hlinked', hgate'] at hstop

/-- One iteration of a drain of `p` keeps the heads of other queues refused. -/
theorem redispatchHead_other (env : Environment) {p' : ℕ} {rest : List RequestKey}
    (horderly : Orderly s) (hqueue : s.blockedQueue p = key :: rest) (hp : p' ≠ p)
    (h : HeadRefused p' s) : HeadRefused p' (redispatchHead env s key).1 := by
  obtain ⟨hpeer, r, hlive, hlinked⟩ := (horderly.queues.mem_iff key p).mp (by simp [hqueue])
  have hcounted : Quiet s (s.modifyRequest key redispatchCounted) :=
    .modify s key fun _ _ => rfl
  have horderly₁ : Orderly (s.modifyRequest key redispatchCounted) := by
    refine horderly.updates (Update.updates ?_)
    rw [modifyRequest_of_some hlive.lookup]
    exact .redispatch hlive
  have hfree := (horderly.records key r hlive.lookup).queued hlinked
  have habsent : key ∉ s.blockedQueue p' := by
    intro hmem
    exact hp (((horderly.queues.mem_iff key p').mp hmem).1.symm.trans hpeer)
  rcases redispatchHead_effects env s key with heff | ⟨_, _, heff⟩
  · refine .effects horderly heff h.self (h.others habsent fun r' hr' => ?_)
    cases hlive.lookup.symm.trans hr'
    exact hfree
  · have h₁ := h.quiet hcounted
    refine .effects horderly₁ heff h₁.self (h₁.others habsent fun r' hr' => ?_)
    rw [modifyRequest_of_some hlive.lookup, AList.lookup_insert] at hr'
    cases hr'
    exact hfree

/-- A drain ends with an empty queue or with a refused head, and leaves the
heads of other queues refused. -/
theorem drainBlockedPeerQueue_refused (env : Environment) {fuel : ℕ}
    (horderly : Orderly s) (hothers : ∀ p', p' ≠ p → HeadRefused p' s)
    (hdrain : drainBlockedPeerQueue env p fuel s = some s') : ∀ p', HeadRefused p' s' := by
  induction fuel generalizing s with
  | zero => cases hdrain
  | succ fuel ih =>
      unfold drainBlockedPeerQueue at hdrain
      cases hqueue : s.blockedQueue p with
      | nil =>
          simp only [hqueue, Option.some.injEq] at hdrain
          subst hdrain
          intro p'
          by_cases hp : p' = p
          · subst hp
            intro _ k r hhead
            simp [hqueue] at hhead
          · exact hothers p' hp
      | cons key rest =>
          simp only [hqueue] at hdrain
          have hothers' : ∀ p', p' ≠ p → HeadRefused p' (redispatchHead env s key).1 :=
            fun p' hp => redispatchHead_other env horderly hqueue hp (hothers p' hp)
          cases hgo : (redispatchHead env s key).2 with
          | true =>
              simp only [hgo, if_true, Option.some.injEq] at hdrain
              subst hdrain
              intro p'
              by_cases hp : p' = p
              · subst hp
                exact redispatchHead_refused horderly.queues hqueue hgo
              · exact hothers' p' hp
          | false =>
              simp only [hgo, Bool.false_eq_true, if_false] at hdrain
              exact ih (horderly.updates (redispatchHead_updates env s key)) hothers' hdrain

theorem Attended.wakeBlockedPeer (env : Environment) {fuel : ℕ} (h : Attended s)
    (hwake : s.wakeBlockedPeer env p fuel = some s') : Attended s' := by
  have horderly : Orderly (s.wakeupFired p) := h.toOrderly.updates (Update.updates (.fire s p))
  refine ⟨horderly.updates (drainBlockedPeerQueue_updates env p hwake), ?_⟩
  refine drainBlockedPeerQueue_refused env horderly (fun p' hp hpending k r hk hr => ?_) hwake
  have hqueue : (s.wakeupFired p).blockedQueue p' = s.blockedQueue p' :=
    BlockedPeerQueues.requests_fire _ _ _
  have hsame : (s.wakeupFired p).wakeupPending p' = s.wakeupPending p' :=
    BlockedPeerQueues.wakeupPending_fire_ne _ hp
  rw [hsame] at hpending
  rw [hqueue] at hk
  exact h.heads p' hpending k r hk hr

/-! ## Runs -/

/-- Nobody else waits for what the action makes a request give back: once its
reservations are returned, the first other request of a queue without a pending
wakeup is still refused.  The queue of the request's own peer is exempt when
there is a reservation, because its release wakes that queue. -/
def ReturnsUnawaited (s : SesManager) (a : SesAction) : Prop :=
  ∀ key r, s.releaseOf a = some (key, r) →
    ∀ p, s.wakeupPending p = false → (p = key.peerFep → reserves r = false) →
      ∀ k r', ((s.blockedQueue p).erase key).head? = some k →
        s.requestStates.lookup k = some r' → (s.budgets.giveBack r).admits r' = false

theorem ReturnsUnawaited.returning {a : SesAction} {r : RequestLifecycleState}
    (h : s.ReturnsUnawaited a) (hrel : s.releaseOf a = some (key, r))
    (hr : s.requestStates.lookup key = some r) (p : ℕ) : Returning key p s := by
  by_cases hown : p = key.peerFep ∧ reserves r = true
  · exact .inl ⟨hown.1, r, hr, hown.2⟩
  · refine .inr fun hpending k r' hfirst hr' => ?_
    rw [returnedBudgets_of_some hr]
    refine h key r hrel p hpending (fun hp => ?_) k r' hfirst hr'
    exact Bool.eq_false_iff.mpr fun hheld => hown ⟨hp, hheld⟩

theorem Attended.quiet (h : Attended s) (hupd : Updates s s') (hquiet : Quiet s s') :
    Attended s' :=
  ⟨h.toOrderly.updates hupd, fun p => (h.heads p).quiet hquiet⟩

theorem receiveWriteRequest_quiet (s : SesManager) (packet : TaggedPacket) :
    Quiet s (s.receiveWriteRequest packet) := by
  unfold receiveWriteRequest
  split_ifs
  swap
  · exact .of_same rfl rfl rfl rfl
  cases s.validateInboundHeader packet.header with
  | error failure => exact .of_same rfl rfl rfl rfl
  | ok _ =>
      simp only [handleIncomingWriteRequest]
      cases s.validateRmaRequest packet.header packet.metadata true packet.bytes.length with
      | error failure => exact .of_same rfl rfl rfl rfl
      | ok _ =>
          cases hgrant : s.writeBudget.tryReserve packet.bytes.length with
          | none => exact .of_same rfl rfl rfl rfl
          | some budget =>
              obtain ⟨-, rfl⟩ := SemanticBudgetState.tryReserve_eq_some.mp hgrant
              refine (Quiet.wake s (packetKey packet).peerFep).trans ?_
              unfold writePacketBytesToAddress
              split_ifs
              · exact .of_same rfl rfl rfl (SemanticBudgetState.release_reserve _ _)
              · exact .of_same rfl rfl rfl (SemanticBudgetState.release_reserve _ _)

theorem Attended.executeRetry (env : Environment) (h : Attended s)
    (hunlinked : s.RebuildsUnlinked (.retryEvent key)) :
    Attended (s.executeRetry env key) := by
  cases hdue : s.dueRetry key with
  | none =>
      refine h.quiet (executeRetry_of_not_due env hdue) ?_
      unfold SesManager.executeRetry
      cases hretry : s.retryStates.lookup key with
      | none => exact .refl s
      | some retry =>
          have hstale : s.retryStale key retry = true := by
            simpa [dueRetry, hretry, Option.filter] using hdue
          simp only [hstale, if_true]
          exact .of_same rfl rfl rfl rfl
  | some retry =>
      rw [executeRetry_of_due env hdue]
      have hfired : Attended (s.retryFired key retry) :=
        h.quiet (retryFired_effect (dueRetry_lookup hdue)).effects.updates
          (.of_same rfl rfl rfl rfl)
      have hsubmitted := hfired.processSendRequest env retry.metadata
        (some retry.packet) fun m' p' haccepted =>
          hunlinked m' p' (Option.bind_eq_some_iff.mpr ⟨retry, hdue, haccepted⟩)
      exact hsubmitted.quiet (refreshRetry_effects _ key).updates (.of_same rfl rfl rfl rfl)

theorem attended_step {env : Environment} {a : SesAction} (h : Attended s)
    (hunlinked : s.RebuildsUnlinked a) (hunawaited : s.ReturnsUnawaited a)
    (hstep : sesStep env s a = some s') : Attended s' := by
  cases hrel : s.releaseOf a with
  | some released =>
      obtain ⟨key, r⟩ := released
      obtain ⟨hr, heff, hsettled⟩ := releaseOf_spec hrel hstep
      exact ⟨h.toOrderly.updates heff.updates, fun p =>
        .settled h.toOrderly heff (h.heads p).self (hunawaited.returning hrel hr p) hsettled⟩
  | none =>
      cases a with
      | sendRequest m packet =>
          cases hstep
          exact h.processSendRequest env m packet hunlinked
      | receiveResponse response =>
          cases hstep
          exact h.quiet (processReceiveResponse_effects s response).updates
            (processReceiveResponse_quiet hrel)
      | receiveWrite packet =>
          cases hstep
          exact h.quiet (receiveWriteRequest_updates s packet) (receiveWriteRequest_quiet s packet)
      | checkTimeout key =>
          cases hstep
          exact h.quiet (checkResponseTimeout_effects s key).updates
            (checkResponseTimeout_quiet hrel)
      | retryEvent key =>
          simp only [sesStep, Option.ite_none_right_eq_some, Option.some.injEq] at hstep
          exact hstep.2 ▸ h.executeRetry env hunlinked
      | wakeupEvent peerFep fuel =>
          simp only [sesStep, Option.ite_none_right_eq_some] at hstep
          exact h.wakeBlockedPeer env hstep.2
      | creditsAvailable peerFep =>
          cases hstep
          exact h.quiet (Update.wake s peerFep).updates (.wake s peerFep)
      | advanceClock deltaNs =>
          cases hstep
          exact h.quiet (Update.advance s deltaNs).updates (.of_same rfl rfl rfl rfl)
      | setAuthorizeAllJobs _ | revokeJobAuthorization _ | setPermissionChecker _ =>
          cases hstep
          exact h.quiet (SameTracked.updates (.of_tracked rfl) rfl)
            (.of_same rfl rfl rfl rfl)

theorem attended_initial (h : Initial s) : Attended s where
  queues := queuesMatch_initial h
  records key r hr := by simp [h.requestStates] at hr
  closed := (budgets_initial h).2
  heads p _ k r _ hr := by simp [h.requestStates] at hr

/-- Along every run that replaces no record of a queued request and in which no
other queue waits for what a request gives back, `TryReserveDispatchBudget`
fails for the head of every queue without a pending wakeup. -/
theorem heads_refused_of_returnsUnawaited (env : Environment) (s : SesManager)
    (hreach : (sesSystem env).ReachableBy
      (fun s a => s.RebuildsUnlinked a ∧ s.ReturnsUnawaited a) s) :
    ∀ p key r, s.wakeupPending p = false → (s.blockedQueue p).head? = some key →
      s.requestStates.lookup key = some r → s.tryReserveDispatchBudget key r = none := by
  have hattended : Attended s := hreach.invariant (P := Attended)
    (fun _ => attended_initial)
    (fun _ _ _ h hguard hstep => attended_step h hguard.1 hguard.2 hstep)
  intro p key r hpending hhead hr
  exact tryReserveDispatchBudget_eq_none.mpr (hattended.heads p hpending key r hhead hr)

/-- A manager that admits one byte at a time. -/
def oneByte : SesManager where
  sendAdmissionBudget := { byteLimit := 1 }

/-- The run that submits one SEND of two bytes meets the condition. -/
theorem heads_refused_after_refusal :
    let s := (processSendRequest reliable oneByte (sampleSend 2 1) (some [0, 0])).1
    ∀ p key r, s.wakeupPending p = false → (s.blockedQueue p).head? = some key →
      s.requestStates.lookup key = some r → s.tryReserveDispatchBudget key r = none :=
  heads_refused_of_returnsUnawaited reliable _
    (.step (.sendRequest (sampleSend 2 1) (some [0, 0]))
      (.init ⟨rfl, rfl, rfl, rfl, rfl, rfl, rfl, rfl, rfl, rfl⟩)
      ⟨(by rintro m packet - r hr; cases hr), fun _ _ hrel => nomatch hrel⟩ rfl)

/-! ## A wakeup that is lost -/

/-- With room for one message, a SEND to peer 2 is dispatched, a SEND to peer 3
is refused, and the first one completes. -/
def completedSend : List SesAction :=
  [.sendRequest (sampleSend 2 1) (some [0]), .sendRequest (sampleSend 3 2) (some [0]),
    .receiveResponse (sampleResponse 2 1 .ok)]

/-- After the completion the budget admits the SEND to peer 3, but no wakeup of
its queue is pending. -/
theorem wakeup_lost :
    ∃ s, (sesSystem reliable).Reachable s ∧
      (sesSystem reliable).runActions oneMessage completedSend = some s ∧
      ¬ ∀ p key r, s.wakeupPending p = false → (s.blockedQueue p).head? = some key →
        s.requestStates.lookup key = some r → s.tryReserveDispatchBudget key r = none := by
  obtain ⟨s, hs⟩ : ∃ s, (sesSystem reliable).runActions oneMessage completedSend = some s :=
    Option.isSome_iff_exists.mp (by decide)
  have hend : ((sesSystem reliable).runActions oneMessage completedSend).map (fun s =>
      (s.wakeupPending 3, (s.blockedQueue 3).head?,
        (s.requestStates.lookup (sampleKey 3 2)).map s.budgets.admits)) =
      some (false, some (sampleKey 3 2), some true) := by decide
  rw [hs, Option.map_some, Option.some.injEq, Prod.mk.injEq, Prod.mk.injEq] at hend
  obtain ⟨hpending, hhead, hadmits⟩ := hend
  obtain ⟨r, hr, hadmits⟩ := Option.map_eq_some_iff.mp hadmits
  refine ⟨s, ?_, hs, fun hrefused => ?_⟩
  · exact TransitionSystem.ReachableBy.runActions
      (.init ⟨rfl, rfl, rfl, rfl, rfl, rfl, rfl, rfl, rfl, rfl⟩) (fun _ _ _ => trivial) hs
  · have hnone := tryReserveDispatchBudget_eq_none.mp (hrefused 3 _ r hpending hhead hr)
    exact Bool.false_ne_true (hnone.symm.trans hadmits)

end SesManager
end UeSim
