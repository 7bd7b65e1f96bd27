import UeSim.Ses.Steps

/-!
# What an effect leaves alone

Effects on behalf of one request do not touch the record or the retry entry of
another request, nor its place in a queue, and they leave the queues of other
peers alone.  The queue of the request's own peer can only lose or gain the
request itself.
-/

namespace UeSim
namespace SesManager

/-! ## Queues after an effect -/

theorem mem_requests_remove_ne {queues : BlockedPeerQueues} {key k : RequestKey} {p : ℕ}
    (hk : k ≠ key) : k ∈ (queues.remove key).requests p ↔ k ∈ queues.requests p := by
  by_cases hp : p = key.peerFep
  · subst hp
    rw [BlockedPeerQueues.requests_remove_self, List.mem_erase_of_ne hk]
  · rw [BlockedPeerQueues.requests_remove_ne queues hp]

theorem mem_requests_push_ne {queues : BlockedPeerQueues} {key k : RequestKey} {p : ℕ}
    (hk : k ≠ key) : k ∈ (queues.push key).requests p ↔ k ∈ queues.requests p := by
  by_cases hp : p = key.peerFep
  · subst hp
    simp [BlockedPeerQueues.requests_push_self, hk]
  · rw [BlockedPeerQueues.requests_push_ne queues hp]

theorem mem_requests_grantedQueues_ne {s : SesManager} {key k : RequestKey}
    {r : RequestLifecycleState} {p : ℕ} (hk : k ≠ key) :
    k ∈ (s.grantedQueues key r).requests p ↔ k ∈ s.blockedQueue p := by
  unfold grantedQueues
  split_ifs
  · exact mem_requests_remove_ne hk
  · exact Iff.rfl

/-- The place of another request in a queue does not change. -/
theorem Effect.mem_blockedQueue_ne {s s' : SesManager} {key k : RequestKey} {p : ℕ}
    (heff : Effect key s s') (hk : k ≠ key) :
    k ∈ s'.blockedQueue p ↔ k ∈ s.blockedQueue p := by
  cases heff with
  | other hsame _ => simp only [blockedQueue, hsame.blockedPeerQueues]
  | progress | retryErase | retrySet _ _ _ _ | retryUpdate _ _ _ => exact Iff.rfl
  | grantSend | grantWrite | grantFree => exact mem_requests_grantedQueues_ne hk
  | releaseSend | releaseWrite => simp [blockedQueue]
  | link => exact mem_requests_push_ne hk
  | unlink => exact mem_requests_remove_ne hk
  | close reason _ _ _ _ _ =>
      simp only [blockedQueue, (closeRequest_frame s key reason _).2.2.1]

theorem grantedQueues_ne {s : SesManager} {key : RequestKey} {r : RequestLifecycleState}
    {p : ℕ} (hp : p ≠ key.peerFep) :
    (s.grantedQueues key r).requests p = s.blockedQueue p ∧
      ((s.grantedQueues key r).requests p ≠ [] →
        (s.grantedQueues key r).wakeupPending p = s.wakeupPending p) := by
  unfold grantedQueues
  split_ifs
  · exact ⟨BlockedPeerQueues.requests_remove_ne _ hp,
      BlockedPeerQueues.wakeupPending_remove⟩
  · exact ⟨rfl, fun _ => rfl⟩

/-- The queue of another peer does not change, nor does its wakeup. -/
theorem Effect.queue_ne {s s' : SesManager} {key : RequestKey} {p : ℕ}
    (heff : Effect key s s') (hp : p ≠ key.peerFep) :
    s'.blockedQueue p = s.blockedQueue p ∧
      (s'.blockedQueue p ≠ [] → s'.wakeupPending p = s.wakeupPending p) := by
  cases heff with
  | other hsame _ =>
      simp [blockedQueue, wakeupPending, hsame.blockedPeerQueues]
  | progress | retryErase | retrySet _ _ _ _ | retryUpdate _ _ _ => exact ⟨rfl, fun _ => rfl⟩
  | grantSend | grantWrite | grantFree => exact grantedQueues_ne hp
  | releaseSend | releaseWrite =>
      exact ⟨BlockedPeerQueues.requests_wake _ _ _,
        fun _ => BlockedPeerQueues.wakeupPending_wake_ne _ hp⟩
  | link =>
      exact ⟨BlockedPeerQueues.requests_push_ne _ hp,
        fun _ => BlockedPeerQueues.wakeupPending_push _ _ _⟩
  | unlink =>
      exact ⟨BlockedPeerQueues.requests_remove_ne _ hp,
        BlockedPeerQueues.wakeupPending_remove⟩
  | close reason _ _ _ _ _ =>
      simp [blockedQueue, wakeupPending, (closeRequest_frame s key reason _).2.2.1]

/-! ## Records after an effect -/

/-- The record of another request does not change. -/
theorem Effect.lookup_ne {s s' : SesManager} {key k : RequestKey} (heff : Effect key s s')
    (hk : k ≠ key) : s'.requestStates.lookup k = s.requestStates.lookup k := by
  cases heff with
  | other hsame _ => rw [hsame.requestStates]
  | retryErase | retrySet _ _ _ _ | retryUpdate _ _ _ => rfl
  | progress | grantSend | grantWrite | grantFree | releaseSend | releaseWrite | link =>
      exact AList.lookup_insert_ne hk
  | unlink => exact KeyedMap.lookup_modify_ne hk
  | close reason _ _ _ _ _ =>
      rw [(closeRequest_frame s key reason _).1]
      exact AList.lookup_insert_ne hk

/-- The retry entry of another request does not change. -/
theorem Effect.retry_ne {s s' : SesManager} {key k : RequestKey} (heff : Effect key s s')
    (hk : k ≠ key) : s'.retryStates.lookup k = s.retryStates.lookup k := by
  cases heff with
  | other hsame _ => rw [hsame.retryStates]
  | retryErase => exact AList.lookup_erase_ne hk
  | retrySet _ _ _ _ | retryUpdate _ _ _ => exact AList.lookup_insert_ne hk
  | progress | grantSend | grantWrite | grantFree | releaseSend | releaseWrite | link
  | unlink => rfl
  | close reason _ _ _ _ _ => rw [(closeRequest_frame s key reason _).2.1]

/-- How often the drain has dispatched a request. -/
def redispatchCount (s : SesManager) (key : RequestKey) : ℕ :=
  (s.requestStates.lookup key).elim 0 (·.blockedQueueRedispatchCount)

theorem redispatchCount_insert {s s' : SesManager} {key k : RequestKey}
    {r r' : RequestLifecycleState} (hr : s.requestStates.lookup key = some r)
    (hstates : s'.requestStates = s.requestStates.insert key r')
    (hcount : r'.blockedQueueRedispatchCount = r.blockedQueueRedispatchCount) :
    s'.redispatchCount k = s.redispatchCount k := by
  unfold redispatchCount
  rw [hstates]
  by_cases hk : k = key
  · subst hk
    simp [hr, hcount]
  · rw [AList.lookup_insert_ne hk]

/-- Only the drain counts its dispatches. -/
theorem Effect.redispatchCount {s s' : SesManager} {key : RequestKey}
    (heff : Effect key s s') (k : RequestKey) :
    s'.redispatchCount k = s.redispatchCount k := by
  cases heff with
  | other hsame _ => simp only [SesManager.redispatchCount, hsame.requestStates]
  | retryErase | retrySet _ _ _ _ | retryUpdate _ _ _ => rfl
  | progress hr _ hkeep =>
      exact redispatchCount_insert hr rfl
        (congrArg Standing.blockedQueueRedispatchCount hkeep)
  | grantSend hr _ _ _ _ _ | grantWrite hr _ _ _ _ _ | grantFree hr _ _
  | releaseSend hr _ _ | releaseWrite hr _ _ | link hr _ _ _ =>
      exact redispatchCount_insert hr rfl rfl
  | unlink =>
      cases hr : s.requestStates.lookup key with
      | none =>
          have hsame : KeyedMap.modify s.requestStates key unlinked = s.requestStates := by
            simp [KeyedMap.modify, hr]
          simp only [SesManager.redispatchCount, removeBlockedRequest, hsame]
      | some r => exact redispatchCount_insert hr (KeyedMap.modify_of_some hr) rfl
  | close reason hr _ _ _ _ _ =>
      exact redispatchCount_insert hr (closeRequest_frame s key reason _).1 rfl

/-- No handler changes the time or the timeout. -/
theorem Effect.responseDeadline {s s' : SesManager} {key : RequestKey}
    (heff : Effect key s s') : s'.responseDeadline = s.responseDeadline := by
  cases heff with
  | other hsame _ => exact hsame.responseDeadline
  | close reason _ _ _ _ _ =>
      simp only [closeRequest, recordCompletion]
      split_ifs <;> rfl
  | _ => rfl

theorem Effect.getPayloadMtu {s s' : SesManager} {key : RequestKey}
    (heff : Effect key s s') : s'.getPayloadMtu = s.getPayloadMtu := by
  cases heff with
  | other hsame _ => exact hsame.payloadMtu
  | close reason _ _ _ _ _ =>
      simp only [closeRequest, recordCompletion]
      split_ifs <;> rfl
  | _ => rfl

theorem closeRequest_dispatched (s : SesManager) (key : RequestKey)
    (reason : RequestTerminalReason) (r : RequestLifecycleState) :
    (s.closeRequest key reason r).dispatched = s.dispatched := by
  simp only [closeRequest, recordCompletion]
  split_ifs <;> rfl

theorem closeRequest_memory (s : SesManager) (key : RequestKey)
    (reason : RequestTerminalReason) (r : RequestLifecycleState) :
    (s.closeRequest key reason r).memory = s.memory := by
  simp only [closeRequest, recordCompletion]
  split_ifs <;> rfl

theorem rebuildRequest_dispatched (s : SesManager) (key : RequestKey)
    (m : ExtendedOperationMetadata) (p : Packet) :
    (s.rebuildRequest key m p).dispatched = s.dispatched := by
  simp only [rebuildRequest, recordSemanticStart]
  split_ifs <;> rfl

/-- No effect takes back a packet that was handed down. -/
theorem Effect.dispatched_prefix {s s' : SesManager} {key : RequestKey}
    (heff : Effect key s s') : s.dispatched <+: s'.dispatched := by
  cases heff with
  | other _ hemits =>
      obtain ⟨fragments, hfragments, -⟩ := hemits
      exact ⟨fragments, hfragments.symm⟩
  | close reason _ _ _ _ _ => exact ⟨[], by rw [closeRequest_dispatched, List.append_nil]⟩
  | _ => exact List.prefix_rfl

/-! ## Sequences of effects -/

variable {s s' : SesManager} {key k : RequestKey} {p : ℕ}

theorem Effects.lookup_ne (heff : Effects key s s') (hk : k ≠ key) :
    s'.requestStates.lookup k = s.requestStates.lookup k :=
  heff.invariant (P := fun t => t.requestStates.lookup k = s.requestStates.lookup k) rfl
    fun _ _ hinv h => (h.lookup_ne hk).trans hinv

theorem Effects.retry_ne (heff : Effects key s s') (hk : k ≠ key) :
    s'.retryStates.lookup k = s.retryStates.lookup k :=
  heff.invariant (P := fun t => t.retryStates.lookup k = s.retryStates.lookup k) rfl
    fun _ _ hinv h => (h.retry_ne hk).trans hinv

theorem Effects.mem_blockedQueue_ne (heff : Effects key s s') (hk : k ≠ key) :
    k ∈ s'.blockedQueue p ↔ k ∈ s.blockedQueue p :=
  heff.invariant (P := fun t => k ∈ t.blockedQueue p ↔ k ∈ s.blockedQueue p) Iff.rfl
    fun _ _ hinv h => (h.mem_blockedQueue_ne hk).trans hinv

theorem Effects.redispatchCount (heff : Effects key s s') (k : RequestKey) :
    s'.redispatchCount k = s.redispatchCount k :=
  heff.invariant (P := fun t => t.redispatchCount k = s.redispatchCount k) rfl
    fun _ _ hinv h => (h.redispatchCount k).trans hinv

theorem Effects.responseDeadline (heff : Effects key s s') :
    s'.responseDeadline = s.responseDeadline :=
  heff.invariant (P := fun t => t.responseDeadline = s.responseDeadline) rfl
    fun _ _ hinv h => h.responseDeadline.trans hinv

theorem Effects.getPayloadMtu (heff : Effects key s s') :
    s'.getPayloadMtu = s.getPayloadMtu :=
  heff.invariant (P := fun t => t.getPayloadMtu = s.getPayloadMtu) rfl
    fun _ _ hinv h => h.getPayloadMtu.trans hinv

theorem Effects.dispatched_prefix (heff : Effects key s s') : s.dispatched <+: s'.dispatched :=
  heff.invariant (P := fun t => s.dispatched <+: t.dispatched) List.prefix_rfl
    fun _ _ hinv h => hinv.trans h.dispatched_prefix

/-- The queue of another peer and its wakeup survive a sequence of effects. -/
theorem Effects.queue_ne (heff : Effects key s s') (hp : p ≠ key.peerFep) :
    s'.blockedQueue p = s.blockedQueue p ∧
      (s'.blockedQueue p ≠ [] → s'.wakeupPending p = s.wakeupPending p) := by
  refine heff.invariant (P := fun t => t.blockedQueue p = s.blockedQueue p ∧
    (t.blockedQueue p ≠ [] → t.wakeupPending p = s.wakeupPending p)) ⟨rfl, fun _ => rfl⟩ ?_
  intro t t' ⟨hqueue, hwake⟩ h
  obtain ⟨hqueue', hwake'⟩ := h.queue_ne hp
  refine ⟨hqueue'.trans hqueue, fun hne => (hwake' hne).trans (hwake ?_)⟩
  rwa [← hqueue']

/-- The payload MTU survives a sequence of updates. -/
theorem Updates.getPayloadMtu (hupd : Updates s s') : s'.getPayloadMtu = s.getPayloadMtu := by
  refine hupd.invariant (P := fun t => t.getPayloadMtu = s.getPayloadMtu) rfl ?_
  intro t t' hinv hupd
  cases hupd with
  | effect heff => exact heff.getPayloadMtu.trans hinv
  | redispatch | wake | fire | advance => exact hinv

/-! ## Iterations of the drain -/

theorem lookup_redispatchCounted_ne (s : SesManager) (hk : k ≠ key) :
    (s.modifyRequest key redispatchCounted).requestStates.lookup k =
      s.requestStates.lookup k :=
  KeyedMap.lookup_modify_ne hk

theorem redispatchHead_mem_ne (env : Environment) (s : SesManager) (hk : k ≠ key) :
    k ∈ (redispatchHead env s key).1.blockedQueue p ↔ k ∈ s.blockedQueue p := by
  rcases redispatchHead_effects env s key with heff | ⟨r, hlive, heff⟩
  · exact heff.mem_blockedQueue_ne hk
  · exact heff.mem_blockedQueue_ne hk

theorem redispatchHead_lookup_ne (env : Environment) (s : SesManager) (hk : k ≠ key) :
    (redispatchHead env s key).1.requestStates.lookup k = s.requestStates.lookup k := by
  rcases redispatchHead_effects env s key with heff | ⟨r, hlive, heff⟩
  · exact heff.lookup_ne hk
  · exact (heff.lookup_ne hk).trans (lookup_redispatchCounted_ne s hk)

/-- An iteration counts at most one dispatch of its request. -/
theorem redispatchHead_count_self (env : Environment) (s : SesManager) (key : RequestKey) :
    (redispatchHead env s key).1.redispatchCount key ≤ s.redispatchCount key + 1 := by
  rcases redispatchHead_effects env s key with heff | ⟨r, hlive, heff⟩
  · rw [heff.redispatchCount]
    exact Nat.le_succ _
  · rw [heff.redispatchCount]
    simp [redispatchCount, modifyRequest, KeyedMap.lookup_modify_self, hlive.lookup,
      redispatchCounted]

end SesManager
end UeSim
