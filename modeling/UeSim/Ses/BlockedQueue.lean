import UeSim.Ses.Frames

/-!
# The representation invariant of the blocked queues

The queues and the `blockedQueueLinked` flags agree along every run in which
no submission replaces the record of a queued request: each queue lists
exactly the live requests of its peer that are linked, each once.  A drain
then terminates and dispatches each queued request at most once.  Replacing
the record of a queued request clears its flag but leaves its key in the
queue, and the next refusal queues the key a second time.
-/

namespace UeSim
namespace SesManager

/-! ## The invariant -/

/-- The request is live and its record says that it is queued. -/
def Linked (s : SesManager) (key : RequestKey) : Prop :=
  ∃ r, Live s key r ∧ r.blockedQueueLinked = true

/-- Each queue lists the linked requests of its peer, each once. -/
structure QueuesMatch (s : SesManager) : Prop where
  nodup : ∀ p, (s.blockedQueue p).Nodup
  mem_iff : ∀ key p, key ∈ s.blockedQueue p ↔ key.peerFep = p ∧ Linked s key

/-- Whether a record makes its request a queued one. -/
def Standing.queued (t : Standing) : Bool := !t.terminalized && t.blockedQueueLinked

theorem linked_iff {s : SesManager} {key : RequestKey} :
    Linked s key ↔ ∃ r, s.requestStates.lookup key = some r ∧ (standing r).queued = true := by
  constructor
  · rintro ⟨r, hlive, hlinked⟩
    exact ⟨r, hlive.lookup, by simp [Standing.queued, standing, hlive.live, hlinked]⟩
  · rintro ⟨r, hr, hqueued⟩
    simp only [Standing.queued, standing, Bool.and_eq_true, Bool.not_eq_eq_eq_not,
      Bool.not_true] at hqueued
    exact ⟨r, ⟨hr, hqueued.1⟩, hqueued.2⟩

theorem linked_insert_self {s s' : SesManager} {key : RequestKey}
    {r' : RequestLifecycleState}
    (hstates : s'.requestStates = s.requestStates.insert key r') :
    Linked s' key ↔ (standing r').queued = true := by
  rw [linked_iff, hstates]
  simp [AList.lookup_insert]

theorem linked_insert_ne {s s' : SesManager} {key k : RequestKey}
    {r' : RequestLifecycleState}
    (hstates : s'.requestStates = s.requestStates.insert key r') (hk : k ≠ key) :
    Linked s' k ↔ Linked s k := by
  rw [linked_iff, linked_iff, hstates, AList.lookup_insert_ne hk]

/-- A write to one record that keeps it queued or unqueued keeps the match. -/
theorem QueuesMatch.keep {s s' : SesManager} {key : RequestKey}
    {r' : RequestLifecycleState} (h : QueuesMatch s)
    (hstates : s'.requestStates = s.requestStates.insert key r')
    (hqueued : (standing r').queued = true ↔ Linked s key)
    (hqueue : ∀ p, s'.blockedQueue p = s.blockedQueue p) : QueuesMatch s' := by
  constructor
  · intro p
    rw [hqueue]
    exact h.nodup p
  · intro k p
    rw [hqueue, h.mem_iff]
    by_cases hk : k = key
    · subst hk
      rw [linked_insert_self hstates, hqueued]
    · rw [linked_insert_ne hstates hk]

/-- A write that takes a request out of its queue and clears its flag keeps the
match. -/
theorem QueuesMatch.leave {s s' : SesManager} {key : RequestKey}
    {r' : RequestLifecycleState} (h : QueuesMatch s)
    (hstates : s'.requestStates = s.requestStates.insert key r')
    (hqueued : (standing r').queued = false)
    (hqueue : s'.blockedPeerQueues = s.blockedPeerQueues.remove key) : QueuesMatch s' := by
  have hself : s'.blockedQueue key.peerFep = (s.blockedQueue key.peerFep).erase key := by
    simp only [blockedQueue, hqueue, BlockedPeerQueues.requests_remove_self]
  have hne : ∀ p, p ≠ key.peerFep → s'.blockedQueue p = s.blockedQueue p := by
    intro p hp
    simp only [blockedQueue, hqueue, BlockedPeerQueues.requests_remove_ne _ hp]
  constructor
  · intro p
    by_cases hp : p = key.peerFep
    · rw [hp, hself]
      exact (h.nodup _).erase key
    · rw [hne p hp]
      exact h.nodup p
  · intro k p
    by_cases hk : k = key
    · subst hk
      rw [linked_insert_self hstates, hqueued]
      simp only [Bool.false_eq_true, and_false, iff_false]
      by_cases hp : p = k.peerFep
      · rw [hp, hself]
        exact (h.nodup _).not_mem_erase
      · rw [hne p hp, h.mem_iff]
        exact fun hmem => hp hmem.1.symm
    · rw [linked_insert_ne hstates hk, ← h.mem_iff]
      simp only [blockedQueue, hqueue]
      exact mem_requests_remove_ne hk

/-- A request that is not queued joins the end of its queue. -/
theorem QueuesMatch.join {s s' : SesManager} {key : RequestKey}
    {r' : RequestLifecycleState} (h : QueuesMatch s) (hnew : ¬ Linked s key)
    (hstates : s'.requestStates = s.requestStates.insert key r')
    (hqueued : (standing r').queued = true)
    (hqueue : s'.blockedPeerQueues = s.blockedPeerQueues.push key) : QueuesMatch s' := by
  have hself : s'.blockedQueue key.peerFep = s.blockedQueue key.peerFep ++ [key] := by
    simp only [blockedQueue, hqueue, BlockedPeerQueues.requests_push_self]
  have hne : ∀ p, p ≠ key.peerFep → s'.blockedQueue p = s.blockedQueue p := by
    intro p hp
    simp only [blockedQueue, hqueue, BlockedPeerQueues.requests_push_ne _ hp]
  have habsent : ∀ p, key ∉ s.blockedQueue p := fun p hmem => hnew ((h.mem_iff key p).mp hmem).2
  constructor
  · intro p
    by_cases hp : p = key.peerFep
    · rw [hp, hself]
      exact (h.nodup _).append (List.nodup_singleton key)
        (List.disjoint_singleton.mpr (habsent _))
    · rw [hne p hp]
      exact h.nodup p
  · intro k p
    by_cases hk : k = key
    · subst hk
      rw [linked_insert_self hstates, hqueued]
      simp only [and_true]
      by_cases hp : p = k.peerFep
      · simp [hp, hself]
      · simp [hne p hp, habsent p, Ne.symm hp]
    · rw [linked_insert_ne hstates hk, ← h.mem_iff]
      simp only [blockedQueue, hqueue]
      exact mem_requests_push_ne hk

theorem QueuesMatch.of_same {s s' : SesManager} (h : QueuesMatch s)
    (hstates : s'.requestStates = s.requestStates)
    (hqueue : ∀ p, s'.blockedQueue p = s.blockedQueue p) : QueuesMatch s' := by
  constructor
  · intro p
    rw [hqueue]
    exact h.nodup p
  · intro k p
    rw [hqueue, h.mem_iff, linked_iff, linked_iff, hstates]

/-! ## Effects -/

theorem linked_of_lookup {s : SesManager} {key : RequestKey} {r : RequestLifecycleState}
    (hr : s.requestStates.lookup key = some r) :
    Linked s key ↔ (standing r).queued = true := by
  rw [linked_iff]
  simp [hr]

/-- A granted request leaves its queue, if it was in it. -/
theorem QueuesMatch.grant {s s' : SesManager} {key : RequestKey}
    {r r' : RequestLifecycleState} (h : QueuesMatch s)
    (hr : s.requestStates.lookup key = some r)
    (hstates : s'.requestStates = s.requestStates.insert key r')
    (hqueued : (standing r').queued = false)
    (hqueue : s'.blockedPeerQueues = s.grantedQueues key r) : QueuesMatch s' := by
  cases hlinked : r.blockedQueueLinked with
  | true =>
      refine h.leave hstates hqueued ?_
      rw [hqueue, grantedQueues, if_pos hlinked]
  | false =>
      refine h.keep hstates ?_ ?_
      · rw [hqueued, linked_of_lookup hr]
        simp [Standing.queued, standing, hlinked]
      · intro p
        simp only [blockedQueue, hqueue, grantedQueues, hlinked, Bool.false_eq_true, if_false]

theorem QueuesMatch.effect {s s' : SesManager} {key : RequestKey} (h : QueuesMatch s)
    (heff : Effect key s s') : QueuesMatch s' := by
  have hunqueued : ∀ r : RequestLifecycleState, (standing (unlinked r)).queued = false :=
    fun r => by simp [Standing.queued, standing, unlinked]
  cases heff with
  | other hsame _ =>
      exact h.of_same hsame.requestStates fun p => by
        simp only [blockedQueue, hsame.blockedPeerQueues]
  | progress hr _ hkeep =>
      refine h.keep rfl ?_ fun _ => rfl
      rw [linked_of_lookup hr, hkeep]
  | retryErase | retrySet _ _ _ _ | retryUpdate _ _ _ => exact h.of_same rfl fun _ => rfl
  | grantSend hr _ _ _ _ _ | grantWrite hr _ _ _ _ _ | grantFree hr _ _ =>
      exact h.grant hr rfl (hunqueued _) rfl
  | releaseSend hr _ _ | releaseWrite hr _ _ =>
      refine h.keep rfl ?_ fun p => BlockedPeerQueues.requests_wake _ _ _
      rw [linked_of_lookup hr]
      exact Iff.rfl
  | link hr hlive hnew _ =>
      refine h.join ?_ rfl ?_ rfl
      · rw [linked_of_lookup hr]
        simp [Standing.queued, standing, hnew]
      · simp [Standing.queued, standing, linked, hlive]
  | unlink =>
      cases hr : s.requestStates.lookup key with
      | none =>
          refine h.of_same (by simp [removeBlockedRequest, KeyedMap.modify, hr]) fun p => ?_
          have habsent : key ∉ s.blockedQueue key.peerFep := by
            intro hmem
            obtain ⟨r, hlive, -⟩ := ((h.mem_iff key key.peerFep).mp hmem).2
            exact Option.some_ne_none r (hlive.lookup.symm.trans hr)
          by_cases hp : p = key.peerFep
          · rw [hp]
            exact (BlockedPeerQueues.requests_remove_self _ _).trans
              (List.erase_of_not_mem habsent)
          · exact BlockedPeerQueues.requests_remove_ne _ hp
      | some r => exact h.leave (KeyedMap.modify_of_some hr) (hunqueued r) rfl
  | close reason hr _ _ hunlinked _ _ =>
      obtain ⟨hstates, -, hqueue, -⟩ := closeRequest_frame s key reason _
      refine h.keep hstates ?_ fun p => by simp only [blockedQueue, hqueue]
      rw [linked_of_lookup hr]
      simp [Standing.queued, standing, closedRecord, closed, hunlinked]

theorem QueuesMatch.update {s s' : SesManager} (h : QueuesMatch s) (hupd : Update s s') :
    QueuesMatch s' := by
  cases hupd with
  | effect heff => exact h.effect heff
  | redispatch hlive =>
      refine h.keep rfl ?_ fun _ => rfl
      rw [linked_of_lookup hlive.lookup]
      exact Iff.rfl
  | wake => exact h.of_same rfl fun _ => BlockedPeerQueues.requests_wake _ _ _
  | fire => exact h.of_same rfl fun _ => BlockedPeerQueues.requests_fire _ _ _
  | advance => exact h.of_same rfl fun _ => rfl

theorem QueuesMatch.updates {s s' : SesManager} (h : QueuesMatch s) (hupd : Updates s s') :
    QueuesMatch s' :=
  hupd.invariant (P := QueuesMatch) h fun _ _ => QueuesMatch.update

/-- A replacement keeps the match when the request is not queued. -/
theorem QueuesMatch.rebuild {s : SesManager} {key : RequestKey}
    {m : ExtendedOperationMetadata} {packet : Packet} (h : QueuesMatch s)
    (hfree : ¬ Linked s key) : QueuesMatch (s.rebuildRequest key m packet) := by
  obtain ⟨hstates, -, hqueue, -⟩ := rebuildRequest_frame s key m packet
  refine h.keep hstates ?_ fun p => by simp only [blockedQueue, hqueue]
  simp [hfree, Standing.queued, standing, rebuiltRequest]

/-! ## Drains -/

theorem not_linked_of_terminalized {s : SesManager} {key : RequestKey}
    (h : ∀ r, s.requestStates.lookup key = some r → r.terminalized = true) :
    ¬ Linked s key := by
  rintro ⟨r, hlive, -⟩
  exact absurd (hlive.live.symm.trans (h r hlive.lookup)) Bool.false_ne_true

/-- One iteration of the drain that does not end the loop leaves its request
unlinked. -/
theorem redispatchHead_not_linked {env : Environment} {s : SesManager} {key : RequestKey}
    {r : RequestLifecycleState} (hlive : Live s key r)
    (hgo : (redispatchHead env s key).2 = false) :
    ¬ Linked (redispatchHead env s key).1 key := by
  have hlive₁ : Live (s.modifyRequest key redispatchCounted) key (redispatchCounted r) := by
    rw [modifyRequest_of_some hlive.lookup]
    exact ⟨AList.lookup_insert _, hlive.live⟩
  simp only [redispatchHead, hlive.lookup, hlive.live, Bool.false_eq_true, if_false] at hgo ⊢
  generalize s.modifyRequest key redispatchCounted = s₁ at hlive₁ hgo ⊢
  obtain ⟨-, hout⟩ := dispatchRequestPackets_effects env hlive₁
  generalize dispatchRequestPackets env s₁ key = result at hout hgo ⊢
  cases hout with
  | failed s₂ => exact not_linked_of_terminalized (handleDispatchFailure_effects s₂ key).2
  | waiting hlive' _ hlinked => simp [hlive'.lookup, hlinked] at hgo
  | started hlive' _ hlinked hgate _ _ =>
      simp only [hlive'.lookup, hlinked, hgate, Bool.not_true, Bool.or_self,
        Bool.false_eq_true, if_false]
      rcases (completeWithoutResponse_effects hlive').2 with hsame | ⟨r', hr', hclosed⟩
      · rw [hsame, linked_of_lookup hlive'.lookup]
        simp [Standing.queued, standing, hlinked]
      · refine not_linked_of_terminalized fun r'' hr'' => ?_
        exact Option.some.inj (hr'.symm.trans hr'') ▸ hclosed

/-- The queue of a peer after one iteration that does not end the loop: the
head is gone, the others wait on. -/
theorem redispatchHead_queue {env : Environment} {s : SesManager} {key : RequestKey}
    {rest : List RequestKey} {p : ℕ} (h : QueuesMatch s) (hqueue : s.blockedQueue p = key :: rest)
    (hgo : (redispatchHead env s key).2 = false) :
    ((redispatchHead env s key).1.blockedQueue p).Perm rest := by
  have hmatch : QueuesMatch (redispatchHead env s key).1 :=
    h.updates (redispatchHead_updates env s key)
  obtain ⟨hpeer, r, hlive, -⟩ := (h.mem_iff key p).mp (by simp [hqueue])
  have hnodup : (key :: rest).Nodup := hqueue ▸ h.nodup p
  have hnot := redispatchHead_not_linked hlive hgo
  refine (List.perm_ext_iff_of_nodup (hmatch.nodup p) hnodup.of_cons).mpr fun k => ?_
  by_cases hk : k = key
  · subst hk
    rw [hmatch.mem_iff]
    simp [hnot, (List.nodup_cons.mp hnodup).1]
  · have hkeep := redispatchHead_mem_ne env s hk (p := p)
    rw [hkeep, hqueue, List.mem_cons]
    simp [hk]

/-- Whether a drain may dispatch a request. -/
def drainAllowance (s : SesManager) (p : ℕ) (k : RequestKey) : ℕ :=
  if k ∈ s.blockedQueue p then 1 else 0

/-- A drain of matching queues ends after one iteration for each queued
request, and dispatches no request twice. -/
theorem drainBlockedPeerQueue_terminates (env : Environment) {p fuel : ℕ} {s : SesManager}
    (h : QueuesMatch s) (hfuel : (s.blockedQueue p).length < fuel) :
    ∃ s', drainBlockedPeerQueue env p fuel s = some s' ∧
      ∀ k, s'.redispatchCount k ≤ s.redispatchCount k + s.drainAllowance p k := by
  induction fuel generalizing s with
  | zero => omega
  | succ fuel ih =>
      unfold drainBlockedPeerQueue
      cases hqueue : s.blockedQueue p with
      | nil => exact ⟨s, rfl, fun k => Nat.le_add_right _ _⟩
      | cons key rest =>
          have hself := redispatchHead_count_self env s key
          have hother : ∀ k, k ≠ key → (redispatchHead env s key).1.redispatchCount k =
              s.redispatchCount k := by
            intro k hk
            simp only [redispatchCount, redispatchHead_lookup_ne env s hk]
          cases hgo : (redispatchHead env s key).2 with
          | true =>
              simp only [hgo, if_true]
              refine ⟨_, rfl, fun k => ?_⟩
              by_cases hk : k = key
              · subst hk
                simpa [drainAllowance, hqueue] using hself
              · rw [hother k hk]
                exact Nat.le_add_right _ _
          | false =>
              simp only [hgo, Bool.false_eq_true, if_false]
              have hperm := redispatchHead_queue h hqueue hgo
              have hnodup : (key :: rest).Nodup := hqueue ▸ h.nodup p
              have hlength : ((redispatchHead env s key).1.blockedQueue p).length < fuel := by
                rw [hperm.length_eq]
                simpa [hqueue] using hfuel
              obtain ⟨s', hdrain, hcount⟩ :=
                ih (h.updates (redispatchHead_updates env s key)) hlength
              refine ⟨s', hdrain, fun k => (hcount k).trans ?_⟩
              simp only [drainAllowance, hperm.mem_iff, hqueue, List.mem_cons]
              by_cases hk : k = key
              · subst hk
                simpa [(List.nodup_cons.mp hnodup).1] using hself
              · simp [hother k hk, hk]

/-! ## Runs -/

/-- The action replaces no record of a queued request. -/
def RebuildsUnlinked (s : SesManager) (a : SesAction) : Prop :=
  ∀ m packet, s.rebuildOf a = some (m, packet) →
    ∀ r, s.requestStates.lookup (requestKey m) = some r → r.blockedQueueLinked = false

instance (s : SesManager) (a : SesAction) : Decidable (s.RebuildsUnlinked a) :=
  decidable_of_iff ((s.rebuildOf a).all fun rebuilt =>
      (s.requestStates.lookup (requestKey rebuilt.1)).all fun r => !r.blockedQueueLinked) <| by
    simp [RebuildsUnlinked, Option.all_eq_true]

theorem queuesMatch_step {env : Environment} {s s' : SesManager} {a : SesAction}
    (h : QueuesMatch s) (hguard : RebuildsUnlinked s a)
    (hstep : sesStep env s a = some s') : QueuesMatch s' := by
  cases hrebuild : s.rebuildOf a with
  | none => exact h.updates (sesStep_updates hstep hrebuild)
  | some p =>
      obtain ⟨m, packet⟩ := p
      obtain ⟨s₁, hbefore, hsame, hafter⟩ := (sesStep_rebuild hstep hrebuild).split
      refine ((h.updates hbefore).rebuild ?_).updates hafter
      rintro ⟨r, hlive, hlinked⟩
      have hfree := hguard m packet hrebuild r (hsame ▸ hlive.lookup)
      exact Bool.false_ne_true (hfree.symm.trans hlinked)

theorem queuesMatch_initial {s : SesManager} (h : Initial s) : QueuesMatch s := by
  have hempty : ∀ p, s.blockedQueue p = [] := by
    intro p
    simp [blockedQueue, BlockedPeerQueues.requests, h.blockedPeerQueues]
  constructor
  · intro p
    simp [hempty]
  · intro key p
    rw [hempty, linked_iff]
    simp [h.requestStates]

/-- Every drain of the queue of any peer ends, and dispatches each queued
request at most once. -/
def DrainsTerminate (env : Environment) (s : SesManager) : Prop :=
  ∀ p, ∃ fuel s', s.wakeBlockedPeer env p fuel = some s' ∧
    ∀ k, s'.redispatchCount k ≤ s.redispatchCount k + s.drainAllowance p k

/-- Along every run that replaces no record of a queued request, the queues
list exactly the linked requests of their peers, each once, and every drain
ends after dispatching each of them at most once. -/
theorem queuesMatch_of_rebuildsUnlinked (env : Environment) (s : SesManager)
    (hreach : (sesSystem env).ReachableBy RebuildsUnlinked s) :
    (∀ p, (s.blockedQueue p).Nodup) ∧
      (∀ key p, key ∈ s.blockedQueue p ↔ key.peerFep = p ∧ Linked s key) ∧
      DrainsTerminate env s := by
  have hmatch : QueuesMatch s := hreach.invariant
    (fun _ => queuesMatch_initial) (fun _ _ _ => queuesMatch_step)
  refine ⟨hmatch.nodup, hmatch.mem_iff, fun p => ?_⟩
  have hqueue : (s.wakeupFired p).blockedQueue p = s.blockedQueue p :=
    BlockedPeerQueues.requests_fire _ _ _
  obtain ⟨s', hdrain, hcount⟩ := drainBlockedPeerQueue_terminates env
    (hmatch.update (.fire s p)) (Nat.lt_succ_self _)
  refine ⟨_, s', hdrain, fun k => (hcount k).trans (le_of_eq ?_)⟩
  simp only [drainAllowance, hqueue]
  rfl

/-- A manager that admits one message at a time. -/
def oneMessage : SesManager where
  sendAdmissionBudget := { messageLimit := 1 }

/-- Two SENDs of which the second waits for the first and leaves its queue in a drain, a
third that waits for the second, and the second again once it has completed. -/
def servedSends : List SesAction :=
  [.sendRequest (sampleSend 2 1) (some [0]), .sendRequest (sampleSend 2 2) (some [0]),
    .receiveResponse (sampleResponse 2 1 .ok), .wakeupEvent 2 2,
    .sendRequest (sampleSend 2 3) (some [0]), .receiveResponse (sampleResponse 2 2 .ok),
    .sendRequest (sampleSend 2 2) (some [0])]

/-- The submission after the drain replaces the record of a request that has left its
queue, while another one waits. -/
theorem queuesMatch_of_servedSends :
    ∃ s, (sesSystem reliable).runActions oneMessage servedSends = some s ∧
      s.blockedQueue 2 = [sampleKey 2 3] ∧
      (∀ p, (s.blockedQueue p).Nodup) ∧
      (∀ key p, key ∈ s.blockedQueue p ↔ key.peerFep = p ∧ Linked s key) ∧
      DrainsTerminate reliable s := by
  obtain ⟨s, hs⟩ : ∃ s, (sesSystem reliable).runActions oneMessage servedSends = some s :=
    Option.isSome_iff_exists.mp (by decide)
  have hqueue : ((sesSystem reliable).runActions oneMessage servedSends).map
      (fun s => s.blockedQueue 2) = some [sampleKey 2 3] := by decide
  rw [hs, Option.map_some, Option.some.injEq] at hqueue
  have hguarded : (sesSystem reliable).GuardedRun RebuildsUnlinked oneMessage servedSends := by
    decide
  exact ⟨s, hs, hqueue, queuesMatch_of_rebuildsUnlinked reliable s
    (.of_guardedRun (.init ⟨rfl, rfl, rfl, rfl, rfl, rfl, rfl, rfl, rfl, rfl⟩) hguarded hs)⟩

/-! ## A request queued twice -/

/-- With room for one message, a first SEND is dispatched, a second one is
blocked, and the second one is submitted again. -/
def resubmittedSend : List SesAction :=
  [.sendRequest (sampleSend 2 1) (some [0]), .sendRequest (sampleSend 2 2) (some [0]),
    .sendRequest (sampleSend 2 2) (some [0])]

/-- After the resubmission the blocked request is in its queue twice. -/
theorem request_queued_twice :
    ∃ s, (sesSystem reliable).Reachable s ∧
      (sesSystem reliable).runActions oneMessage resubmittedSend = some s ∧
      ¬ ((∀ p, (s.blockedQueue p).Nodup) ∧
        (∀ key p, key ∈ s.blockedQueue p ↔ key.peerFep = p ∧ Linked s key) ∧
        DrainsTerminate reliable s) := by
  obtain ⟨s, hs⟩ : ∃ s, (sesSystem reliable).runActions oneMessage resubmittedSend = some s :=
    Option.isSome_iff_exists.mp (by decide)
  have hend : ((sesSystem reliable).runActions oneMessage resubmittedSend).map
      (fun s => s.blockedQueue 2) = some [sampleKey 2 2, sampleKey 2 2] := by decide
  rw [hs, Option.map_some, Option.some.injEq] at hend
  refine ⟨s, ?_, hs, ?_⟩
  · exact TransitionSystem.ReachableBy.runActions
      (.init ⟨rfl, rfl, rfl, rfl, rfl, rfl, rfl, rfl, rfl, rfl⟩) (fun _ _ _ => trivial) hs
  · rintro ⟨hnodup, -⟩
    have htwice := hnodup 2
    rw [hend] at htwice
    simp at htwice

end SesManager
end UeSim
