import UeSim.NetDevice.System
import UeSim.Support.Reservations

/-!
# Accounting of pending responses

Pending responses are kept by the key of the request.  As long as every answered
request finds no response pending under its key, the read-responder budget in
use is what the pending responses hold, every pending response waits in the
queue of its peer exactly once, and no response is lost before it is dispatched.
An answer that finds a pending response under its key takes its place: the share
of the budget that it held stays in use, and the key is queued once more.
-/

namespace UeSim

/-- What a pending response holds of the read-responder budget. -/
def PendingResponseState.held (state : PendingResponseState) : Option ℕ :=
  if state.readResponderBudgetReserved then some state.readResponderBudgetBytes else none

/-- A response apart from the progress of its dispatch. -/
def PendingResponseState.content (state : PendingResponseState) : PendingResponseState :=
  { state with retryCount := 0, nextRetryMs := 0, enqueued := false, terminalized := false }

namespace SoftUeNetDevice

variable {env : Environment} {d d' d'' : SoftUeNetDevice} {key k : RequestKey}
  {state : PendingResponseState}

/-- The keys in the response queue of a peer, head first. -/
def responseQueue (d : SoftUeNetDevice) (peerFep : ℕ) : List RequestKey :=
  d.pendingResponseQueues.requests peerFep

/-! ## What is to be shown -/

/-- The read-responder budget in use is what the pending responses hold, and a
key is in the queue of its peer, once, exactly when its response is marked. -/
structure PendingAccounted (d : SoftUeNetDevice) : Prop where
  budget : Reservations.Balanced PendingResponseState.held d.pendingResponses
    d.readResponderBudget.messagesInUse d.readResponderBudget.bytesInUse
  nodup : ∀ peerFep, (d.responseQueue peerFep).Nodup
  peer : ∀ peerFep, ∀ key ∈ d.responseQueue peerFep, key.peerFep = peerFep
  enqueued : ∀ key, key ∈ d.responseQueue key.peerFep ↔
    ∃ state, d.pendingResponses.lookup key = some state ∧ state.enqueued = true

/-- All fragments of a response were handed down. -/
def Dispatched (d : SoftUeNetDevice) (state : PendingResponseState) : Prop :=
  responseFragments state d.ses.getPayloadMtu <:+: d.ses.dispatched

/-- Between two states, every response that was not dispatched is kept or
dispatched. -/
structure Kept (d d' : SoftUeNetDevice) : Prop where
  payloadMtu : d'.ses.getPayloadMtu = d.ses.getPayloadMtu
  dispatched : d.ses.dispatched <+: d'.ses.dispatched
  pending : ∀ key state, d.pendingResponses.lookup key = some state →
    state.terminalized = false →
    (∃ state', d'.pendingResponses.lookup key = some state' ∧
      state'.content = state.content ∧ state'.terminalized = false) ∨ d'.Dispatched state

/-- An arriving request that will be answered finds no response pending under
its key. -/
def RepliesFree (d : SoftUeNetDevice) (a : DeviceAction) : Prop :=
  ∀ packet key, a = .receivePacket packet → d.answeredKey packet = some key →
    d.pendingResponses.lookup key = none

/-! ## Keeping responses -/

theorem responseFragments_content (state : PendingResponseState) (payloadPerPacket : ℕ) :
    responseFragments state.content payloadPerPacket =
      responseFragments state payloadPerPacket := rfl

theorem Dispatched.mono (h : d.Dispatched state) (hkept : Kept d d') : d'.Dispatched state := by
  unfold Dispatched at h ⊢
  rw [hkept.payloadMtu]
  exact h.trans hkept.dispatched.isInfix

theorem Dispatched.of_content {state' : PendingResponseState} (h : d.Dispatched state')
    (hcontent : state'.content = state.content) : d.Dispatched state := by
  unfold Dispatched at h ⊢
  rwa [← responseFragments_content, ← hcontent, responseFragments_content]

theorem Kept.refl (d : SoftUeNetDevice) : Kept d d :=
  ⟨rfl, List.prefix_rfl, fun _ state h hlive => .inl ⟨state, h, rfl, hlive⟩⟩

theorem Kept.trans (h : Kept d d') (h' : Kept d' d'') : Kept d d'' where
  payloadMtu := h'.payloadMtu.trans h.payloadMtu
  dispatched := h.dispatched.trans h'.dispatched
  pending := by
    intro key state hlookup hlive
    rcases h.pending key state hlookup hlive with ⟨state', hlookup', hcontent, hlive'⟩ | hsent
    · rcases h'.pending key state' hlookup' hlive' with ⟨state'', hlookup'', hcontent', hlive''⟩ |
        hsent
      · exact .inl ⟨state'', hlookup'', hcontent'.trans hcontent, hlive''⟩
      · exact .inr (hsent.of_content hcontent)
    · exact .inr (hsent.mono h')

/-- Steps that do not touch the pending responses keep them. -/
theorem Kept.of_same (hpending : d'.pendingResponses = d.pendingResponses)
    (hmtu : d'.ses.getPayloadMtu = d.ses.getPayloadMtu)
    (hdispatched : d.ses.dispatched <+: d'.ses.dispatched) : Kept d d' :=
  ⟨hmtu, hdispatched, fun _ state h hlive => .inl ⟨state, hpending ▸ h, rfl, hlive⟩⟩

/-- Two states that agree on the pending responses of all other keys. -/
structure OnlyAt (key : RequestKey) (d d' : SoftUeNetDevice) : Prop where
  payloadMtu : d'.ses.getPayloadMtu = d.ses.getPayloadMtu
  dispatched : d.ses.dispatched <+: d'.ses.dispatched
  others : ∀ k, k ≠ key → d'.pendingResponses.lookup k = d.pendingResponses.lookup k

theorem OnlyAt.trans (h : OnlyAt key d d') (h' : OnlyAt key d' d'') : OnlyAt key d d'' where
  payloadMtu := h'.payloadMtu.trans h.payloadMtu
  dispatched := h.dispatched.trans h'.dispatched
  others := fun k hk => (h'.others k hk).trans (h.others k hk)

/-- A step that touches one key only has to be checked for it. -/
theorem OnlyAt.kept (h : OnlyAt key d d')
    (hkey : ∀ state, d.pendingResponses.lookup key = some state → state.terminalized = false →
      (∃ state', d'.pendingResponses.lookup key = some state' ∧
        state'.content = state.content ∧ state'.terminalized = false) ∨ d'.Dispatched state) :
    Kept d d' where
  payloadMtu := h.payloadMtu
  dispatched := h.dispatched
  pending := by
    intro k state hlookup hlive
    by_cases hk : k = key
    · subst hk
      exact hkey state hlookup hlive
    · exact .inl ⟨state, (h.others k hk).trans hlookup, rfl, hlive⟩

/-! ## Accounting up to one key -/

/-- The accounting, where nothing is said about the queue entry and the marks of
one key. -/
structure AccountedUpTo (key : RequestKey) (d : SoftUeNetDevice) : Prop where
  budget : Reservations.Balanced PendingResponseState.held d.pendingResponses
    d.readResponderBudget.messagesInUse d.readResponderBudget.bytesInUse
  nodup : ∀ peerFep, (d.responseQueue peerFep).Nodup
  peer : ∀ peerFep, ∀ k ∈ d.responseQueue peerFep, k.peerFep = peerFep
  queued : ∀ k, k ≠ key →
    (k ∈ d.responseQueue k.peerFep ↔ (d.pendingResponses.lookup k).isSome = true)
  waiting : ∀ k state, k ≠ key → d.pendingResponses.lookup k = some state →
    state.enqueued = true ∧ state.terminalized = false

/-- The accounting between two actions: every pending response waits in the
queue of its peer. -/
structure Accounted (d : SoftUeNetDevice) : Prop where
  budget : Reservations.Balanced PendingResponseState.held d.pendingResponses
    d.readResponderBudget.messagesInUse d.readResponderBudget.bytesInUse
  nodup : ∀ peerFep, (d.responseQueue peerFep).Nodup
  peer : ∀ peerFep, ∀ k ∈ d.responseQueue peerFep, k.peerFep = peerFep
  queued : ∀ k, k ∈ d.responseQueue k.peerFep ↔ (d.pendingResponses.lookup k).isSome = true
  waiting : ∀ k state, d.pendingResponses.lookup k = some state →
    state.enqueued = true ∧ state.terminalized = false

theorem Accounted.upTo (h : Accounted d) (key : RequestKey) : AccountedUpTo key d :=
  ⟨h.budget, h.nodup, h.peer, fun k _ => h.queued k, fun k state _ => h.waiting k state⟩

theorem AccountedUpTo.accounted (h : AccountedUpTo key d)
    (hqueued : key ∈ d.responseQueue key.peerFep ↔
      (d.pendingResponses.lookup key).isSome = true)
    (hwaiting : ∀ state, d.pendingResponses.lookup key = some state →
      state.enqueued = true ∧ state.terminalized = false) : Accounted d where
  budget := h.budget
  nodup := h.nodup
  peer := h.peer
  queued := by
    intro k
    by_cases hk : k = key
    · exact hk ▸ hqueued
    · exact h.queued k hk
  waiting := by
    intro k state hlookup
    by_cases hk : k = key
    · subst hk
      exact hwaiting state hlookup
    · exact h.waiting k state hk hlookup

/-- Accounting says what is to be shown. -/
theorem Accounted.pendingAccounted (h : Accounted d) : PendingAccounted d where
  budget := h.budget
  nodup := h.nodup
  peer := h.peer
  enqueued := by
    intro key
    rw [h.queued, Option.isSome_iff_exists]
    constructor
    · rintro ⟨state, hlookup⟩
      exact ⟨state, hlookup, (h.waiting key state hlookup).1⟩
    · rintro ⟨state, hlookup, -⟩
      exact ⟨state, hlookup⟩

/-- The accounting depends only on the pending responses, their queues and the
counters of the budget. -/
theorem Accounted.of_same (h : Accounted d)
    (hpending : d'.pendingResponses = d.pendingResponses)
    (hqueue : ∀ peerFep, d'.responseQueue peerFep = d.responseQueue peerFep)
    (hmessages : d'.readResponderBudget.messagesInUse = d.readResponderBudget.messagesInUse)
    (hbytes : d'.readResponderBudget.bytesInUse = d.readResponderBudget.bytesInUse) :
    Accounted d' where
  budget := by
    rw [hpending, hmessages, hbytes]
    exact h.budget
  nodup := fun peerFep => hqueue peerFep ▸ h.nodup peerFep
  peer := fun peerFep => hqueue peerFep ▸ h.peer peerFep
  queued := by
    intro k
    rw [hqueue, hpending]
    exact h.queued k
  waiting := by
    rw [hpending]
    exact h.waiting

/-! ## Removing a response -/

theorem releasePendingResponseBudget_frame (d : SoftUeNetDevice)
    (state : PendingResponseState) :
    (d.releasePendingResponseBudget state).pendingResponses = d.pendingResponses ∧
      (∀ peerFep, (d.releasePendingResponseBudget state).responseQueue peerFep =
        d.responseQueue peerFep) ∧
      (d.releasePendingResponseBudget state).ses.getPayloadMtu = d.ses.getPayloadMtu ∧
      (d.releasePendingResponseBudget state).ses.dispatched = d.ses.dispatched := by
  unfold releasePendingResponseBudget
  split
  · exact ⟨rfl, fun _ => BlockedPeerQueues.requests_wake _ _ _, rfl, rfl⟩
  · exact ⟨rfl, fun _ => rfl, rfl, rfl⟩

theorem readResponderBudget_releasePendingResponseBudget (d : SoftUeNetDevice)
    (state : PendingResponseState) :
    (d.releasePendingResponseBudget state).readResponderBudget =
      state.held.elim d.readResponderBudget d.readResponderBudget.release := by
  unfold releasePendingResponseBudget PendingResponseState.held
  split <;> rfl

/-- The device after the budget of the response under a key was released. -/
def released (d : SoftUeNetDevice) (key : RequestKey) : SoftUeNetDevice :=
  match d.pendingResponses.lookup key with
  | none => d
  | some state => d.releasePendingResponseBudget state

theorem removePendingResponse_eq (d : SoftUeNetDevice) (key : RequestKey) :
    d.removePendingResponse key =
      { d.released key with
        pendingResponseQueues := (d.released key).pendingResponseQueues.remove key
        pendingResponses := (d.released key).pendingResponses.erase key } := rfl

theorem released_frame (d : SoftUeNetDevice) (key : RequestKey) :
    (d.released key).pendingResponses = d.pendingResponses ∧
      (∀ peerFep, (d.released key).responseQueue peerFep = d.responseQueue peerFep) ∧
      (d.released key).ses.getPayloadMtu = d.ses.getPayloadMtu ∧
      (d.released key).ses.dispatched = d.ses.dispatched := by
  unfold released
  split
  · exact ⟨rfl, fun _ => rfl, rfl, rfl⟩
  · exact releasePendingResponseBudget_frame d _

theorem pendingResponses_removePendingResponse (d : SoftUeNetDevice) (key : RequestKey) :
    (d.removePendingResponse key).pendingResponses = d.pendingResponses.erase key := by
  rw [removePendingResponse_eq, (released_frame d key).1]

theorem responseQueue_removePendingResponse_self (d : SoftUeNetDevice) (key : RequestKey) :
    (d.removePendingResponse key).responseQueue key.peerFep =
      (d.responseQueue key.peerFep).erase key := by
  rw [removePendingResponse_eq, responseQueue, BlockedPeerQueues.requests_remove_self]
  exact congrArg (List.erase · key) ((released_frame d key).2.1 key.peerFep)

theorem responseQueue_removePendingResponse_ne (d : SoftUeNetDevice) {p : ℕ}
    (hp : p ≠ key.peerFep) :
    (d.removePendingResponse key).responseQueue p = d.responseQueue p := by
  rw [removePendingResponse_eq, responseQueue, BlockedPeerQueues.requests_remove_ne _ hp]
  exact (released_frame d key).2.1 p

theorem mem_responseQueue_removePendingResponse (d : SoftUeNetDevice) {p : ℕ}
    (hk : k ≠ key) :
    k ∈ (d.removePendingResponse key).responseQueue p ↔ k ∈ d.responseQueue p := by
  by_cases hp : p = key.peerFep
  · subst hp
    rw [responseQueue_removePendingResponse_self, List.mem_erase_of_ne hk]
  · rw [responseQueue_removePendingResponse_ne d hp]

/-- Erasing a response gives its share of the budget back. -/
theorem balanced_removePendingResponse
    (h : Reservations.Balanced PendingResponseState.held d.pendingResponses
      d.readResponderBudget.messagesInUse d.readResponderBudget.bytesInUse)
    (key : RequestKey) :
    Reservations.Balanced PendingResponseState.held
      (d.removePendingResponse key).pendingResponses
      (d.removePendingResponse key).readResponderBudget.messagesInUse
      (d.removePendingResponse key).readResponderBudget.bytesInUse := by
  rw [pendingResponses_removePendingResponse, removePendingResponse_eq]
  unfold released
  cases hlookup : d.pendingResponses.lookup key with
  | none => exact h.erase_free (by simp [Reservations.heldAt, hlookup])
  | some state =>
      have hheldAt : Reservations.heldAt PendingResponseState.held d.pendingResponses key =
          state.held := Reservations.heldAt_of_some hlookup
      dsimp only
      rw [readResponderBudget_releasePendingResponseBudget]
      cases hheld : state.held with
      | none => exact h.erase_free (hheldAt.trans hheld)
      | some bytes => exact h.erase_held (hheldAt.trans hheld)

/-- Removing the response of the key restores the accounting. -/
theorem AccountedUpTo.remove (h : AccountedUpTo key d) :
    Accounted (d.removePendingResponse key) := by
  have hnodup : ∀ p, ((d.removePendingResponse key).responseQueue p).Nodup := by
    intro p
    by_cases hp : p = key.peerFep
    · subst hp
      rw [responseQueue_removePendingResponse_self]
      exact (h.nodup _).erase key
    · rw [responseQueue_removePendingResponse_ne d hp]
      exact h.nodup p
  have hsub : ∀ p, ∀ k ∈ (d.removePendingResponse key).responseQueue p,
      k ∈ d.responseQueue p := by
    intro p k hk
    by_cases hp : p = key.peerFep
    · subst hp
      rw [responseQueue_removePendingResponse_self] at hk
      exact List.mem_of_mem_erase hk
    · rwa [responseQueue_removePendingResponse_ne d hp] at hk
  have hupTo : AccountedUpTo key (d.removePendingResponse key) := by
    refine ⟨balanced_removePendingResponse h.budget key, hnodup,
      fun p k hk => h.peer p k (hsub p k hk), fun k hk => ?_, fun k state hk hlookup => ?_⟩
    · rw [mem_responseQueue_removePendingResponse d hk,
        pendingResponses_removePendingResponse, AList.lookup_erase_ne hk]
      exact h.queued k hk
    · rw [pendingResponses_removePendingResponse, AList.lookup_erase_ne hk] at hlookup
      exact h.waiting k state hk hlookup
  have hgone : (d.removePendingResponse key).pendingResponses.lookup key = none := by
    rw [pendingResponses_removePendingResponse, AList.lookup_erase]
  refine hupTo.accounted (iff_of_false ?_ (by simp [hgone])) (by simp [hgone])
  rw [responseQueue_removePendingResponse_self]
  exact fun hmem => ((h.nodup _).mem_erase_iff.mp hmem).1 rfl

/-! ## Dispatching a response -/

/-- What an attempt to dispatch the pending response of a key does. -/
structure Attempted (key : RequestKey) (state : PendingResponseState) (d : SoftUeNetDevice)
    (result : SoftUeNetDevice × Bool) : Prop where
  pending : result.1.pendingResponses =
    if result.2 then d.pendingResponses.insert key (dispatchedWhole state)
    else d.pendingResponses
  queue : ∀ peerFep, result.1.responseQueue peerFep = d.responseQueue peerFep
  budget : result.1.readResponderBudget = d.readResponderBudget
  payloadMtu : result.1.ses.getPayloadMtu = d.ses.getPayloadMtu
  dispatched : d.ses.dispatched <+: result.1.ses.dispatched
  whole : result.2 = true → result.1.Dispatched state

theorem attempted_tryDispatchPendingResponse (env : Environment) (d : SoftUeNetDevice)
    (key : RequestKey) (state : PendingResponseState) :
    Attempted key state d (d.tryDispatchPendingResponse env key state) := by
  unfold tryDispatchPendingResponse
  split
  · exact ⟨rfl, fun _ => rfl, rfl, rfl, List.prefix_rfl, nofun⟩
  · refine ⟨rfl, fun _ => rfl, rfl, rfl, List.prefix_append _ _, fun hwhole => ?_⟩
    change responseFragments state d.ses.getPayloadMtu <:+: d.ses.dispatched ++
      (SesManager.acceptedFragments env d.ses.dispatchCalls
        (responseFragments state d.ses.getPayloadMtu)).1
    rw [SesManager.acceptedFragments_whole hwhole]
    exact (List.suffix_append _ _).isInfix

theorem held_dispatchedWhole (state : PendingResponseState) :
    (dispatchedWhole state).held = state.held := rfl

theorem held_dispatchFailed (nextRetryMs : ℕ) (state : PendingResponseState) :
    (dispatchFailed nextRetryMs state).held = state.held := rfl

theorem held_enqueuedAt (nowMs : ℕ) (state : PendingResponseState) :
    (enqueuedAt nowMs state).held = state.held := rfl

/-- Writing the record of the key keeps the accounting up to it. -/
theorem AccountedUpTo.insert {state' : PendingResponseState} (h : AccountedUpTo key d)
    (hlookup : d.pendingResponses.lookup key = some state) (hheld : state'.held = state.held)
    (hpending : d'.pendingResponses = d.pendingResponses.insert key state')
    (hqueue : ∀ peerFep, d'.responseQueue peerFep = d.responseQueue peerFep)
    (hbudget : d'.readResponderBudget = d.readResponderBudget) : AccountedUpTo key d' where
  budget := by
    rw [hpending, hbudget]
    exact h.budget.replace hlookup hheld
  nodup := fun peerFep => hqueue peerFep ▸ h.nodup peerFep
  peer := fun peerFep => hqueue peerFep ▸ h.peer peerFep
  queued := by
    intro k hk
    rw [hqueue, hpending, AList.lookup_insert_ne hk]
    exact h.queued k hk
  waiting := by
    intro k state hk
    rw [hpending, AList.lookup_insert_ne hk]
    exact h.waiting k state hk

/-- A failed attempt to dispatch changes nothing that is accounted. -/
theorem AccountedUpTo.of_failed {result : SoftUeNetDevice × Bool} (h : AccountedUpTo key d)
    (hattempt : Attempted key state d result) (hfailed : result.2 = false) :
    AccountedUpTo key result.1 := by
  have hpending := hattempt.pending
  rw [hfailed, if_neg Bool.false_ne_true] at hpending
  refine ⟨?_, fun p => hattempt.queue p ▸ h.nodup p, fun p => hattempt.queue p ▸ h.peer p, ?_, ?_⟩
  · rw [hpending, hattempt.budget]
    exact h.budget
  · intro k hk
    rw [hattempt.queue, hpending]
    exact h.queued k hk
  · rw [hpending]
    exact h.waiting

/-! ## Queueing a response -/

/-- Queueing the new response of the key restores the accounting. -/
theorem AccountedUpTo.enqueue (h : AccountedUpTo key d)
    (hlookup : d.pendingResponses.lookup key = some state) (hfresh : state.enqueued = false)
    (hlive : state.terminalized = false) (hnew : key ∉ d.responseQueue key.peerFep) :
    Accounted (d.enqueuePendingResponse key) := by
  have hqueue : ∀ p, (d.enqueuePendingResponse key).responseQueue p =
      (d.pendingResponseQueues.push key).requests p := by
    intro p
    simp only [enqueuePendingResponse, hlookup, hfresh, Bool.false_eq_true, if_false]
    exact BlockedPeerQueues.requests_wake _ _ _
  have hpending : (d.enqueuePendingResponse key).pendingResponses =
      d.pendingResponses.insert key (enqueuedAt d.ses.nowMs state) := by
    simp only [enqueuePendingResponse, hlookup, hfresh, Bool.false_eq_true, if_false]
    rfl
  have hbudget : (d.enqueuePendingResponse key).readResponderBudget = d.readResponderBudget := by
    simp only [enqueuePendingResponse, hlookup, hfresh, Bool.false_eq_true, if_false]
    rfl
  have hself := BlockedPeerQueues.requests_push_self d.pendingResponseQueues key
  have hupTo : AccountedUpTo key (d.enqueuePendingResponse key) := by
    refine ⟨?_, fun p => ?_, fun p k hk => ?_, fun k hk => ?_, fun k state' hk => ?_⟩
    · rw [hpending, hbudget]
      exact h.budget.replace hlookup (held_enqueuedAt _ _)
    · by_cases hp : p = key.peerFep
      · subst hp
        rw [hqueue, hself]
        exact (h.nodup _).append (List.nodup_singleton key) (by simpa using hnew)
      · rw [hqueue, BlockedPeerQueues.requests_push_ne _ hp]
        exact h.nodup p
    · by_cases hp : p = key.peerFep
      · subst hp
        rw [hqueue, hself, List.mem_append, List.mem_singleton] at hk
        rcases hk with hk | rfl
        · exact h.peer _ k hk
        · rfl
      · rw [hqueue, BlockedPeerQueues.requests_push_ne _ hp] at hk
        exact h.peer p k hk
    · rw [hqueue, SesManager.mem_requests_push_ne hk, hpending, AList.lookup_insert_ne hk]
      exact h.queued k hk
    · rw [hpending, AList.lookup_insert_ne hk]
      exact h.waiting k state' hk
  refine hupTo.accounted (iff_of_true ?_ ?_) ?_
  · rw [hqueue, hself]
    exact List.mem_append_right _ (List.mem_singleton_self key)
  · simp [hpending]
  · intro state' hstate'
    rw [hpending, AList.lookup_insert, Option.some.injEq] at hstate'
    subst hstate'
    exact ⟨rfl, hlive⟩

theorem onlyAt_removePendingResponse (d : SoftUeNetDevice) (key : RequestKey) :
    OnlyAt key d (d.removePendingResponse key) := by
  obtain ⟨-, -, hmtu, hdispatched⟩ := released_frame d key
  refine ⟨hmtu, ?_, fun k hk => ?_⟩
  · exact ⟨[], (List.append_nil _).trans hdispatched.symm⟩
  · rw [pendingResponses_removePendingResponse, AList.lookup_erase_ne hk]

theorem onlyAt_enqueuePendingResponse (d : SoftUeNetDevice) (key : RequestKey) :
    OnlyAt key d (d.enqueuePendingResponse key) := by
  unfold enqueuePendingResponse
  split
  · exact ⟨rfl, List.prefix_rfl, fun _ _ => rfl⟩
  · split
    · exact ⟨rfl, List.prefix_rfl, fun _ _ => rfl⟩
    · exact ⟨rfl, List.prefix_rfl, fun k hk => AList.lookup_insert_ne hk⟩

theorem Attempted.onlyAt {result : SoftUeNetDevice × Bool}
    (h : Attempted key state d result) : OnlyAt key d result.1 := by
  refine ⟨h.payloadMtu, h.dispatched, fun k hk => ?_⟩
  rw [h.pending]
  split
  · exact AList.lookup_insert_ne hk
  · rfl

/-! ## Sending a response -/

/-- Sending a new response restores the accounting up to its key. -/
theorem AccountedUpTo.send (env : Environment)
    (h : AccountedUpTo key { d with pendingResponses := d.pendingResponses.insert key state })
    (hfresh : state.enqueued = false) (hlive : state.terminalized = false)
    (hnew : key ∉ d.responseQueue key.peerFep) :
    Accounted (d.sendPendingResponse env key state) := by
  have hattempt := attempted_tryDispatchPendingResponse env
    { d with pendingResponses := d.pendingResponses.insert key state } key state
  unfold sendPendingResponse
  generalize tryDispatchPendingResponse env _ key state = attempt at hattempt
  have hlookup : (d.pendingResponses.insert key state).lookup key = some state :=
    AList.lookup_insert _
  have hpending := hattempt.pending
  cases hwhole : attempt.2 with
  | true =>
      rw [hwhole, if_pos rfl] at hpending
      dsimp only
      rw [hwhole, if_pos rfl]
      exact (h.insert hlookup (held_dispatchedWhole state) hpending hattempt.queue
        hattempt.budget).remove
  | false =>
      rw [hwhole, if_neg Bool.false_ne_true] at hpending
      dsimp only
      rw [hwhole, if_neg Bool.false_ne_true]
      refine (h.of_failed hattempt hwhole).enqueue (hpending ▸ hlookup) hfresh hlive ?_
      rwa [hattempt.queue]

theorem onlyAt_sendPendingResponse (env : Environment) (d : SoftUeNetDevice)
    (key : RequestKey) (state : PendingResponseState) :
    OnlyAt key d (d.sendPendingResponse env key state) := by
  have hstart : OnlyAt key d
      { d with pendingResponses := d.pendingResponses.insert key state } :=
    ⟨rfl, List.prefix_rfl, fun k hk => AList.lookup_insert_ne hk⟩
  have hattempt := (attempted_tryDispatchPendingResponse env
    { d with pendingResponses := d.pendingResponses.insert key state } key state).onlyAt
  unfold sendPendingResponse
  dsimp only
  split
  · exact hstart.trans (hattempt.trans (onlyAt_removePendingResponse _ key))
  · exact hstart.trans (hattempt.trans (onlyAt_enqueuePendingResponse _ key))

/-! ## Draining a queue -/

/-- One iteration of the drain keeps the accounting and the responses. -/
theorem Accounted.drainHead (h : Accounted d) (env : Environment) (key : RequestKey) :
    Accounted (d.drainHead env key).1 ∧ Kept d (d.drainHead env key).1 := by
  unfold SoftUeNetDevice.drainHead
  cases hlookup : d.pendingResponses.lookup key with
  | none =>
      exact ⟨(h.upTo key).remove, (onlyAt_removePendingResponse d key).kept
        fun state hstate => by rw [hlookup] at hstate; cases hstate⟩
  | some state =>
      obtain ⟨henqueued, hlive⟩ := h.waiting key state hlookup
      dsimp only
      rw [hlive, if_neg Bool.false_ne_true]
      split
      · exact ⟨h, .refl d⟩
      · have hattempt := attempted_tryDispatchPendingResponse env d key state
        generalize d.tryDispatchPendingResponse env key state = attempt at hattempt
        have hpending := hattempt.pending
        cases hwhole : attempt.2 with
        | true =>
            rw [hwhole, if_pos rfl] at hpending
            rw [if_pos rfl]
            refine ⟨((h.upTo key).insert hlookup (held_dispatchedWhole state) hpending
              hattempt.queue hattempt.budget).remove, ?_⟩
            have honly := onlyAt_removePendingResponse attempt.1 key
            refine (hattempt.onlyAt.trans honly).kept fun state' hstate' _ => .inr ?_
            rw [hlookup, Option.some.injEq] at hstate'
            subst hstate'
            have hsent := hattempt.whole hwhole
            unfold Dispatched at hsent ⊢
            rw [honly.payloadMtu]
            exact hsent.trans honly.dispatched.isInfix
        | false =>
            rw [hwhole, if_neg Bool.false_ne_true] at hpending
            rw [if_neg Bool.false_ne_true]
            have hlookup' : attempt.1.pendingResponses.lookup key = some state := by
              rw [hpending, hlookup]
            constructor
            · have hretried : AccountedUpTo key { attempt.1 with
                  pendingResponses := attempt.1.pendingResponses.insert key
                    (dispatchFailed (d.ses.nowMs + d.processIntervalMs) state) } :=
                ((h.upTo key).of_failed hattempt hwhole).insert hlookup'
                  (held_dispatchFailed _ state) rfl (fun _ => rfl) rfl
              refine hretried.accounted (iff_of_true ?_ (by simp)) ?_
              · change key ∈ attempt.1.responseQueue key.peerFep
                rw [hattempt.queue, h.queued, hlookup]
                rfl
              · intro state' hstate'
                rw [AList.lookup_insert, Option.some.injEq] at hstate'
                subst hstate'
                exact ⟨henqueued, hlive⟩
            · have honly : OnlyAt key attempt.1 { attempt.1 with
                  pendingResponses := attempt.1.pendingResponses.insert key
                    (dispatchFailed (d.ses.nowMs + d.processIntervalMs) state) } :=
                ⟨rfl, List.prefix_rfl, fun k hk => AList.lookup_insert_ne hk⟩
              refine (hattempt.onlyAt.trans honly).kept fun state' hstate' _ => .inl ?_
              rw [hlookup, Option.some.injEq] at hstate'
              subst hstate'
              exact ⟨_, AList.lookup_insert _, rfl, hlive⟩

theorem Accounted.drainHeads (h : Accounted d) (env : Environment) (peerFep fuel : ℕ) :
    Accounted (drainHeads env peerFep fuel d) ∧ Kept d (drainHeads env peerFep fuel d) := by
  induction fuel generalizing d with
  | zero => exact ⟨h, .refl d⟩
  | succ fuel ih =>
      unfold SoftUeNetDevice.drainHeads
      split
      · exact ⟨h, .refl d⟩
      · rename_i key _ _
        have hhead := h.drainHead env key
        dsimp only
        split
        · exact hhead
        · exact ⟨(ih hhead.1).1, hhead.2.trans (ih hhead.1).2⟩

theorem Accounted.drainPendingResponseQueue (h : Accounted d) (env : Environment)
    (peerFep : ℕ) :
    Accounted (d.drainPendingResponseQueue env peerFep) ∧
      Kept d (d.drainPendingResponseQueue env peerFep) := by
  have hdrained := h.drainHeads env peerFep (d.pendingResponseQueues.requests peerFep).length
  exact ⟨hdrained.1.of_same rfl (fun _ => BlockedPeerQueues.requests_wake _ _ _) rfl rfl,
    hdrained.2.trans (.of_same rfl rfl List.prefix_rfl)⟩

/-! ## Answering a request -/

/-- Two states that agree on the pending responses and their queues. -/
structure Aside (d d' : SoftUeNetDevice) : Prop where
  pending : d'.pendingResponses = d.pendingResponses
  queue : ∀ peerFep, d'.responseQueue peerFep = d.responseQueue peerFep
  payloadMtu : d'.ses.getPayloadMtu = d.ses.getPayloadMtu
  dispatched : d.ses.dispatched <+: d'.ses.dispatched

theorem Aside.kept (h : Aside d d') : Kept d d' := .of_same h.pending h.payloadMtu h.dispatched

/-- Sending a response under a free key keeps the accounting and the other
responses, when the budget was charged with what the response holds. -/
theorem Accounted.sendResponse (h : Accounted d) (env : Environment) (localFep : ℕ)
    (answer : SemanticAnswer) (hfree : d.pendingResponses.lookup answer.key = none)
    {modifiedLength : ℕ} {payload : Packet} {reservedBytes : Option ℕ} (haside : Aside d d')
    (hbudget : d'.readResponderBudget =
      reservedBytes.elim d.readResponderBudget d.readResponderBudget.reserve) :
    Accounted (d'.sendSemanticResponseForRequest env localFep answer modifiedLength payload
        reservedBytes) ∧
      Kept d (d'.sendSemanticResponseForRequest env localFep answer modifiedLength payload
        reservedBytes) := by
  have hheld : (pendingResponse d'.ses.getPayloadMtu localFep answer modifiedLength payload
      reservedBytes).held = reservedBytes := by
    cases reservedBytes <;> rfl
  have hheldAt : Reservations.heldAt PendingResponseState.held d.pendingResponses answer.key =
      none := by
    simp [Reservations.heldAt, hfree]
  have hnew : answer.key ∉ d.responseQueue answer.key.peerFep := by
    rw [h.queued, hfree]
    simp
  unfold sendSemanticResponseForRequest
  generalize hstate : pendingResponse d'.ses.getPayloadMtu localFep answer modifiedLength payload
    reservedBytes = state at hheld
  have hfresh : state.enqueued = false := by rw [← hstate]; rfl
  have hlive : state.terminalized = false := by rw [← hstate]; rfl
  constructor
  · refine AccountedUpTo.send env ?_ hfresh hlive (haside.queue _ ▸ hnew)
    refine ⟨?_, fun p => haside.queue p ▸ h.nodup p, fun p => haside.queue p ▸ h.peer p, ?_, ?_⟩
    · dsimp only
      rw [haside.pending, hbudget]
      cases reservedBytes with
      | none => exact h.budget.keep (hheld.trans hheldAt.symm)
      | some bytes => exact h.budget.acquire hheldAt hheld
    · intro k hk
      change k ∈ d'.responseQueue _ ↔ _
      rw [haside.queue, AList.lookup_insert_ne hk, haside.pending]
      exact h.queued k
    · intro k state' hk
      rw [AList.lookup_insert_ne hk, haside.pending]
      exact h.waiting k state'
  · have hlogged : OnlyAt answer.key d' { d' with answers := d'.answers ++ [answer] } :=
      ⟨rfl, List.prefix_rfl, fun _ _ => rfl⟩
    have honly := hlogged.trans (onlyAt_sendPendingResponse env _ answer.key state)
    refine haside.kept.trans (honly.kept fun state' hstate' => ?_)
    rw [haside.pending, hfree] at hstate'
    cases hstate'

theorem Aside.refl (d : SoftUeNetDevice) : Aside d d := ⟨rfl, fun _ => rfl, rfl, List.prefix_rfl⟩

theorem Accounted.sendNack (h : Accounted d) (env : Environment) (localFep : ℕ)
    (hfree : d.pendingResponses.lookup key = none) (returnCode : ResponseReturnCode) :
    Accounted (d.sendNack env localFep key returnCode) ∧
      Kept d (d.sendNack env localFep key returnCode) :=
  h.sendResponse env localFep ⟨key, .nack, returnCode⟩ hfree (.refl d) rfl

theorem aside_copyWrite (d : SoftUeNetDevice) (peerFep : ℕ) (packet : TaggedPacket)
    (budget : SemanticBudgetState) : Aside d (d.copyWrite peerFep packet budget) := by
  refine ⟨rfl, fun _ => BlockedPeerQueues.requests_wake _ _ _, ?_, ?_⟩
  all_goals
    unfold copyWrite schedulePendingResponseDrain SesManager.writePacketBytesToAddress
    split
  · rfl
  · rfl
  · exact List.prefix_rfl
  · exact List.prefix_rfl

theorem Accounted.handleIncomingSendRequest (h : Accounted d) (env : Environment) {pdcId : ℕ}
    {packet : TaggedPacket}
    (hfree : d.pdsView.sendEncounter pdcId packet ≠ .underway →
      d.pendingResponses.lookup (SesManager.packetKey packet) = none) :
    Accounted (d.handleIncomingSendRequest env pdcId packet).1 ∧
      Kept d (d.handleIncomingSendRequest env pdcId packet).1 := by
  have hanswers := PdsManager.handleIncomingSendPacket_answers d.pdsView pdcId packet
  unfold SoftUeNetDevice.handleIncomingSendRequest
  generalize d.pdsView.handleIncomingSendPacket pdcId packet = received at hanswers
  have haside : Aside d (d.setPds received.1) := ⟨rfl, fun _ => rfl, rfl, List.prefix_rfl⟩
  dsimp only
  rw [hanswers.handled, Bool.not_true, Bool.false_or]
  split
  · exact ⟨h.of_same rfl (fun _ => rfl) rfl rfl, haside.kept⟩
  · rename_i hready
    rw [Bool.not_eq_true, Bool.not_eq_false'] at hready
    exact h.sendResponse env _ _ (hfree (hanswers.ready.mp hready)) haside rfl

theorem Accounted.handleIncomingWriteRequest (h : Accounted d) (env : Environment)
    {packet : TaggedPacket}
    (hfree : d.pendingResponses.lookup (SesManager.packetKey packet) = none) :
    Accounted (d.handleIncomingWriteRequest env packet).1 ∧
      Kept d (d.handleIncomingWriteRequest env packet).1 := by
  unfold SoftUeNetDevice.handleIncomingWriteRequest
  dsimp only
  split
  · exact h.sendNack env _ hfree _
  · split
    · exact h.sendNack env _ hfree _
    · exact h.sendResponse env _ ⟨SesManager.packetKey packet, _, _⟩ hfree
        (aside_copyWrite d _ packet _) rfl

theorem Accounted.handleIncomingReadRequest (h : Accounted d) (env : Environment)
    {packet : TaggedPacket}
    (hfree : d.pendingResponses.lookup (SesManager.packetKey packet) = none) :
    Accounted (d.handleIncomingReadRequest env packet).1 ∧
      Kept d (d.handleIncomingReadRequest env packet).1 := by
  unfold SoftUeNetDevice.handleIncomingReadRequest
  dsimp only
  split
  · exact h.sendNack env _ hfree _
  · split
    · exact h.sendNack env _ hfree _
    · rename_i budget hbudget
      obtain ⟨-, rfl⟩ := SemanticBudgetState.tryReserve_eq_some.mp hbudget
      exact h.sendResponse env _ ⟨SesManager.packetKey packet, _, _⟩ hfree
        ⟨rfl, fun _ => rfl, rfl, List.prefix_rfl⟩ rfl

/-- A request whose answer finds its key free keeps the accounting and the other
responses. -/
theorem Accounted.handleIncomingRequest (h : Accounted d) (env : Environment) (pdcId : ℕ)
    (packet : TaggedPacket)
    (hfree : d.answersRequest pdcId packet = true →
      d.pendingResponses.lookup (SesManager.packetKey packet) = none) :
    Accounted (d.handleIncomingRequest env pdcId packet).1 ∧
      Kept d (d.handleIncomingRequest env pdcId packet).1 := by
  unfold answersRequest at hfree
  unfold SoftUeNetDevice.handleIncomingRequest
  cases hheader : d.ses.validateInboundHeader packet.header with
  | error failure => exact h.sendNack env _ (hfree (by rw [hheader])) _
  | ok _ =>
      simp only [hheader] at hfree
      cases hoperation : packet.metadata.operationType with
      | send =>
          refine h.handleIncomingSendRequest env fun hencounter => hfree ?_
          simpa [hoperation] using hencounter
      | write => exact h.handleIncomingWriteRequest env (hfree (by simp [hoperation]))
      | read => exact h.handleIncomingReadRequest env (hfree (by simp [hoperation]))
      | deferrable => exact h.sendNack env _ (hfree (by simp [hoperation])) _

/-! ## Runs -/

theorem Aside.deliver (h : Aside d d') (packet : Packet) :
    Aside d (d'.deliverReceivedPacket packet) :=
  ⟨h.pending, h.queue, h.payloadMtu, h.dispatched⟩

/-- An arriving packet whose answer finds its key free keeps the accounting and
the other responses. -/
theorem Accounted.processReceivedPacket (h : Accounted d) (env : Environment)
    {packet : InboundPacket}
    (hfree : ∀ key, d.answeredKey packet = some key → d.pendingResponses.lookup key = none) :
    Accounted (d.processReceivedPacket env packet) ∧
      Kept d (d.processReceivedPacket env packet) := by
  cases hadmitted : d.admittedRequest packet with
  | none =>
      have hquiet := unanswered_of_not_admitted env hadmitted
      exact ⟨h.of_same hquiet.pendingResponses hquiet.requests
        (by rw [hquiet.readResponderBudget]) (by rw [hquiet.readResponderBudget]),
        .of_same hquiet.pendingResponses hquiet.payloadMtu hquiet.dispatched⟩
  | some tagged =>
      have hhandled := h.handleIncomingRequest env packet.pdcId tagged fun hanswers =>
          hfree _ (by simp [answeredKey, hadmitted, hanswers])
      rw [processReceivedPacket_of_admitted env hadmitted]
      split
      · exact hhandled
      · exact ⟨hhandled.1.of_same rfl (fun _ => rfl) rfl rfl,
          hhandled.2.trans (((Aside.refl _).deliver packet.payload).kept)⟩

theorem Accounted.deviceStep (h : Accounted d) {a : DeviceAction} (hfree : d.RepliesFree a)
    (hstep : d.deviceStep env a = some d') : Accounted d' ∧ Kept d d' := by
  cases a with
  | receivePacket packet =>
      cases hstep
      exact h.processReceivedPacket env fun key => hfree packet key rfl
  | responseDrainEvent peerFep =>
      simp only [SoftUeNetDevice.deviceStep, Option.ite_none_right_eq_some,
        Option.some.injEq] at hstep
      obtain ⟨-, rfl⟩ := hstep
      have hfired : Accounted (d.drainFired peerFep) :=
        h.of_same rfl (fun _ => BlockedPeerQueues.requests_fire _ _ _) rfl rfl
      have hkept : Kept d (d.drainFired peerFep) := .of_same rfl rfl List.prefix_rfl
      have hdrained := hfired.drainPendingResponseQueue env peerFep
      exact ⟨hdrained.1, hkept.trans hdrained.2⟩
  | periodicDrain peerFep =>
      simp only [SoftUeNetDevice.deviceStep] at hstep
      split at hstep
      · cases hstep
        exact h.drainPendingResponseQueue env peerFep
      · cases hstep
        exact ⟨h, .refl d⟩
  | creditsAvailable peerFep =>
      cases hstep
      exact ⟨h.of_same rfl (fun _ => BlockedPeerQueues.requests_wake _ _ _) rfl rfl,
        .of_same rfl rfl List.prefix_rfl⟩
  | receiver a | failNextResponseDispatches count | configureReadResponder _ _
  | setRudSemanticMode enabled | advanceClock deltaNs =>
      cases hstep
      exact ⟨h.of_same rfl (fun _ => rfl) rfl rfl, .of_same rfl rfl List.prefix_rfl⟩

theorem accounted_of_unasked (h : Unasked d) : Accounted d := by
  have hqueue : ∀ peerFep, d.responseQueue peerFep = [] := by
    intro peerFep
    rw [responseQueue, h.pendingResponseQueues]
    rfl
  refine ⟨?_, fun p => by simp [hqueue], fun p => by simp [hqueue], fun k => ?_,
    fun k state hlookup => ?_⟩
  · rw [h.pendingResponses, h.readMessages, h.readBytes]
    exact Reservations.balanced_empty
  · rw [hqueue, h.pendingResponses]
    simp
  · rw [h.pendingResponses] at hlookup
    cases hlookup

/-- Along every run in which no answered request finds a response pending under
its key, the pending responses are accounted, and every step keeps each of them
or dispatches it. -/
theorem pendingAccounted_of_repliesFree (env : Environment) (d : SoftUeNetDevice)
    (hreach : (deviceSystem env).ReachableBy RepliesFree d) :
    PendingAccounted d ∧
      ∀ a d', d.RepliesFree a → (deviceSystem env).step d a = some d' → Kept d d' := by
  have haccounted : Accounted d :=
    hreach.invariant (fun _ => accounted_of_unasked)
      fun _ _ _ h hfree hstep => (h.deviceStep hfree hstep).1
  exact ⟨haccounted.pendingAccounted, fun a d' hfree hstep => (haccounted.deviceStep hfree hstep).2⟩

/-! ## Samples -/

/-- Lower layers that refuse every packet. -/
def refusing : Environment where
  dispatchPacket := fun _ => false

/-- A READ of 16 bytes from a region of the responder. -/
def readPacket : InboundPacket where
  pdcId := 1
  header := some { sourceEndpoint := 1, destinationEndpoint := 2, jobId := 7 }
  metadata := some
    { operationType := .read
      messageId := 1
      requestLength := 16
      remoteAddress := 4096
      remoteKey := 5 }
  bytes := [0, 0, 0, 0, 0, 0, 0, 9]

/-- A responder with one region of 256 bytes at address 4096. -/
def readResponder : SoftUeNetDevice where
  ses := { memoryRegions := AList.insert 5 ⟨4096, 256, true, true⟩ ∅ }

theorem unasked_readResponder : Unasked readResponder := ⟨rfl, rfl, rfl, rfl⟩

/-- The first answer finds its key free. -/
theorem pendingAccounted_after_read :
    PendingAccounted (readResponder.processReceivedPacket refusing readPacket) :=
  (pendingAccounted_of_repliesFree refusing _ (.step (.receivePacket readPacket)
    (.init unasked_readResponder) (fun _ _ _ _ => rfl) rfl)).1

/-- When the response to a READ waits in its queue and the READ arrives again,
two shares of the budget are in use, and one response holds one. -/
theorem share_lost_by_duplicate :
    ∃ d, (deviceSystem refusing).Reachable d ∧ ¬ PendingAccounted d := by
  obtain ⟨d, hrun⟩ : ∃ d, (deviceSystem refusing).runActions readResponder
      [.receivePacket readPacket, .receivePacket readPacket] = some d := ⟨_, rfl⟩
  have hend : ((deviceSystem refusing).runActions readResponder
      [.receivePacket readPacket, .receivePacket readPacket]).map (fun d =>
        (d.readResponderBudget.messagesInUse,
          Reservations.count PendingResponseState.held d.pendingResponses)) = some (2, 1) := by
    decide
  rw [hrun, Option.map_some, Option.some.injEq, Prod.mk.injEq] at hend
  refine ⟨d, TransitionSystem.ReachableBy.runActions (.init unasked_readResponder)
    (fun _ _ _ => trivial) hrun, fun h => ?_⟩
  have hmessages := h.budget.messages
  omega

end SoftUeNetDevice
end UeSim
