import UeSim.Ses.Retries

/-!
# What advances a live request

A live request waits for a response with an armed timeout, or has a retry event
pending for its current attempt, or is queued.  A linked request is always in
its queue, and what a handler does for one request does not concern another.
-/

namespace UeSim
namespace SesManager

variable {s s' : SesManager} {key k : RequestKey}

/-! ## Triggers -/

/-- The request waits for the response to its current attempt, with an armed
timeout. -/
def Armed (r : RequestLifecycleState) : Prop :=
  Awaiting r.responseDeadlineMs r ∧ r.responseDeadlineMs ≠ 0

/-- A retry event for the current attempt of the request is pending. -/
def RetryDue (s : SesManager) (key : RequestKey) (r : RequestLifecycleState) : Prop :=
  ∃ retry, s.retryStates.lookup key = some retry ∧ retry.eventPending = true ∧
    retry.scheduledRetryGeneration = r.attemptGeneration

/-- The request is linked in the blocked queue of its peer. -/
def Queued (s : SesManager) (key : RequestKey) (r : RequestLifecycleState) : Prop :=
  r.blockedQueueLinked = true ∧ key ∈ s.blockedQueue key.peerFep

/-- Something will still advance the request. -/
def Advancing (s : SesManager) (key : RequestKey) (r : RequestLifecycleState) : Prop :=
  Armed r ∨ RetryDue s key r ∨ Queued s key r

/-- The request `key` is not orphaned: if it is live, it advances. -/
def Advances (s : SesManager) (key : RequestKey) : Prop :=
  ∀ r, Live s key r → Advancing s key r

theorem Advances.of_closed
    (h : ∀ r, s.requestStates.lookup key = some r → r.terminalized = true) :
    Advances s key := by
  intro r hlive
  exact absurd (hlive.live.symm.trans (h r hlive.lookup)) Bool.false_ne_true

theorem Awaiting.armed {deadlineMs : ℕ} {r : RequestLifecycleState}
    (h : Awaiting deadlineMs r) (hdeadline : deadlineMs ≠ 0) : Armed r :=
  ⟨⟨h.waiting, h.started, h.generation, rfl⟩, h.deadline ▸ hdeadline⟩

/-! ## Linked requests are queued -/

/-- A request whose record says that it is linked is in the queue of its peer. -/
def LinkedQueued (s : SesManager) : Prop :=
  ∀ key r, s.requestStates.lookup key = some r → r.blockedQueueLinked = true →
    key ∈ s.blockedQueue key.peerFep

/-- A write to the record of `key` that leaves the other requests in their
queues. -/
theorem LinkedQueued.write {r' : RequestLifecycleState} (h : LinkedQueued s)
    (hstates : s'.requestStates = s.requestStates.insert key r')
    (hself : r'.blockedQueueLinked = true → key ∈ s'.blockedQueue key.peerFep)
    (hothers : ∀ k, k ≠ key → (k ∈ s'.blockedQueue k.peerFep ↔ k ∈ s.blockedQueue k.peerFep)) :
    LinkedQueued s' := by
  intro k r hr hlinked
  by_cases hk : k = key
  · subst hk
    rw [hstates, AList.lookup_insert, Option.some.injEq] at hr
    exact hself (hr ▸ hlinked)
  · rw [hstates, AList.lookup_insert_ne hk] at hr
    exact (hothers k hk).mpr (h k r hr hlinked)

theorem LinkedQueued.of_same (h : LinkedQueued s)
    (hstates : s'.requestStates = s.requestStates)
    (hqueues : ∀ p, s'.blockedQueue p = s.blockedQueue p) : LinkedQueued s' := by
  intro k r hr hlinked
  rw [hqueues]
  exact h k r (hstates ▸ hr) hlinked

theorem LinkedQueued.effect (h : LinkedQueued s) (heff : Effect key s s') :
    LinkedQueued s' := by
  have hothers : ∀ k, k ≠ key →
      (k ∈ s'.blockedQueue k.peerFep ↔ k ∈ s.blockedQueue k.peerFep) :=
    fun k hk => heff.mem_blockedQueue_ne hk
  cases heff with
  | other hsame _ =>
      exact h.of_same hsame.requestStates fun p => by
        simp only [blockedQueue, hsame.blockedPeerQueues]
  | progress hr _ hkeep =>
      refine h.write rfl (fun hlinked => h key _ hr ?_) hothers
      exact (congrArg Standing.blockedQueueLinked hkeep).symm.trans hlinked
  | retryErase | retrySet _ _ _ _ | retryUpdate _ _ _ => exact h.of_same rfl fun _ => rfl
  | grantSend | grantWrite | grantFree =>
      exact h.write rfl (fun hlinked => absurd hlinked Bool.false_ne_true) hothers
  | releaseSend hr _ _ | releaseWrite hr _ _ =>
      refine h.write rfl (fun hlinked => ?_) hothers
      simp only [blockedQueue, BlockedPeerQueues.requests_wake]
      exact h key _ hr hlinked
  | link =>
      refine h.write rfl (fun _ => ?_) hothers
      simp [blockedQueue, BlockedPeerQueues.requests_push_self]
  | unlink =>
      cases hr : s.requestStates.lookup key with
      | none =>
          intro k r hr' hlinked
          have hk : k ≠ key := by
            rintro rfl
            simp [removeBlockedRequest, KeyedMap.lookup_modify_self, hr] at hr'
          rw [hothers k hk]
          exact h k r (by simpa [removeBlockedRequest, KeyedMap.modify, hr] using hr') hlinked
      | some r =>
          exact h.write (KeyedMap.modify_of_some hr)
            (fun hlinked => absurd hlinked Bool.false_ne_true) hothers
  | close reason hr _ _ hunlinked _ _ =>
      exact h.write (closeRequest_frame s key reason _).1
        (fun hlinked => absurd (hunlinked.symm.trans hlinked) Bool.false_ne_true) hothers

theorem LinkedQueued.updates (h : LinkedQueued s) (hupd : Updates s s') : LinkedQueued s' := by
  refine hupd.invariant (P := LinkedQueued) h fun t t' h hupd => ?_
  cases hupd with
  | effect heff => exact h.effect heff
  | redispatch hlive =>
      exact h.write rfl (fun hlinked => h _ _ hlive.lookup hlinked) fun _ _ => Iff.rfl
  | wake => exact h.of_same rfl fun _ => BlockedPeerQueues.requests_wake _ _ _
  | fire => exact h.of_same rfl fun _ => BlockedPeerQueues.requests_fire _ _ _
  | advance => exact h.of_same rfl fun _ => rfl

theorem LinkedQueued.rebuild (h : LinkedQueued s) (key : RequestKey)
    (m : ExtendedOperationMetadata) (packet : Packet) :
    LinkedQueued (s.rebuildRequest key m packet) := by
  obtain ⟨hstates, -, hqueues, -⟩ := rebuildRequest_frame s key m packet
  refine h.write hstates (fun hlinked => absurd hlinked Bool.false_ne_true) fun k _ => ?_
  simp only [blockedQueue, hqueues]

/-! ## What does not concern a request -/

/-- The part of a request record that says what it waits for. -/
structure Pace where
  waitingResponse : Bool
  dispatchStarted : Bool
  attemptGeneration : ℕ
  waitingResponseGeneration : ℕ
  responseDeadlineMs : ℕ
  blockedQueueLinked : Bool
  terminalized : Bool

/-- What a request waits for. -/
def pace (r : RequestLifecycleState) : Pace where
  waitingResponse := r.waitingResponse
  dispatchStarted := r.dispatchStarted
  attemptGeneration := r.attemptGeneration
  waitingResponseGeneration := r.waitingResponseGeneration
  responseDeadlineMs := r.responseDeadlineMs
  blockedQueueLinked := r.blockedQueueLinked
  terminalized := r.terminalized

/-- What the request `key` waits for stays the same. -/
structure Steady (key : RequestKey) (s s' : SesManager) : Prop where
  request : (s'.requestStates.lookup key).map pace = (s.requestStates.lookup key).map pace
  retry : s'.retryStates.lookup key = s.retryStates.lookup key
  queue : key ∈ s'.blockedQueue key.peerFep ↔ key ∈ s.blockedQueue key.peerFep

theorem Steady.trans {s'' : SesManager} (h : Steady key s s') (h' : Steady key s' s'') :
    Steady key s s'' :=
  ⟨h'.request.trans h.request, h'.retry.trans h.retry, h'.queue.trans h.queue⟩

theorem Steady.of_same (hstates : s'.requestStates = s.requestStates)
    (hretries : s'.retryStates = s.retryStates)
    (hqueues : ∀ p, s'.blockedQueue p = s.blockedQueue p) : Steady key s s' :=
  ⟨by rw [hstates], by rw [hretries], by rw [hqueues]⟩

theorem Steady.refl (s : SesManager) : Steady key s s :=
  .of_same rfl rfl fun _ => rfl

/-- A change of one record that keeps what its request waits for. -/
theorem Steady.modify (s : SesManager) {f : RequestLifecycleState → RequestLifecycleState}
    (hkeep : ∀ r, pace (f r) = pace r) : Steady key s (s.modifyRequest key f) := by
  refine ⟨?_, rfl, Iff.rfl⟩
  simp only [modifyRequest, KeyedMap.lookup_modify_self, Option.map_map]
  exact congrArg (Option.map · _) (funext hkeep)

/-- Effects on behalf of another request do not concern this one. -/
theorem Effects.steady (heff : Effects key s s') (hk : k ≠ key) : Steady k s s' :=
  ⟨by rw [heff.lookup_ne hk], heff.retry_ne hk, heff.mem_blockedQueue_ne hk⟩

theorem Advances.steady (h : Advances s key) (hsteady : Steady key s s') : Advances s' key := by
  intro r' hlive'
  have hsame := hsteady.request
  rw [hlive'.lookup, Option.map_some] at hsame
  obtain ⟨r, hr, hpace⟩ := Option.map_eq_some_iff.mp hsame.symm
  have hterm : r.terminalized = r'.terminalized := congrArg Pace.terminalized hpace
  have hgen : r.attemptGeneration = r'.attemptGeneration :=
    congrArg Pace.attemptGeneration hpace
  have hlinked : r.blockedQueueLinked = r'.blockedQueueLinked :=
    congrArg Pace.blockedQueueLinked hpace
  have hdeadline : r.responseDeadlineMs = r'.responseDeadlineMs :=
    congrArg Pace.responseDeadlineMs hpace
  rcases h r ⟨hr, hterm.trans hlive'.live⟩ with harmed | ⟨retry, hretry, hpending, hdue⟩ | hqueued
  · refine .inl ⟨⟨?_, ?_, ?_, rfl⟩, hdeadline ▸ harmed.2⟩
    · exact (congrArg Pace.waitingResponse hpace).symm.trans harmed.1.waiting
    · exact (congrArg Pace.dispatchStarted hpace).symm.trans harmed.1.started
    · rw [← hgen, ← harmed.1.generation]
      exact (congrArg Pace.waitingResponseGeneration hpace).symm
  · exact .inr (.inl ⟨retry, hsteady.retry.trans hretry, hpending, hdue.trans hgen⟩)
  · exact .inr (.inr ⟨hlinked.symm.trans hqueued.1, hsteady.queue.mpr hqueued.2⟩)

end SesManager
end UeSim
