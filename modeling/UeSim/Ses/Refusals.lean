import UeSim.Ses.Admission
import UeSim.Ses.BudgetConservation

/-!
# Refused heads of blocked queues

A queue without a pending wakeup waits for the budgets: its head is refused.
What a request does on its own behalf keeps every head refused, as long as the
others are refused even without the reservations of that request.
-/

namespace UeSim
namespace SesManager

variable {s s' : SesManager} {key : RequestKey} {p : ℕ}

/-! ## Refused heads -/

/-- The head of the queue of `p` is refused by the budgets, unless the queue is
about to be drained. -/
def HeadRefused (p : ℕ) (s : SesManager) : Prop :=
  s.wakeupPending p = false → ∀ k r, (s.blockedQueue p).head? = some k →
    s.requestStates.lookup k = some r → s.budgets.admits r = false

/-- The first request of the queue of `p` other than `key` is refused even
without the reservations of `key`, unless the queue is about to be drained. -/
def OthersRefused (key : RequestKey) (p : ℕ) (s : SesManager) : Prop :=
  s.wakeupPending p = false → ∀ k r, ((s.blockedQueue p).erase key).head? = some k →
    s.requestStates.lookup k = some r → (s.returnedBudgets key).admits r = false

/-- The request `key` is refused when it heads the queue of `p`, unless the
queue is about to be drained. -/
def SelfRefused (key : RequestKey) (p : ℕ) (s : SesManager) : Prop :=
  s.wakeupPending p = false → ∀ r, (s.blockedQueue p).head? = some key →
    s.requestStates.lookup key = some r → s.budgets.admits r = false

theorem HeadRefused.self (h : HeadRefused p s) : SelfRefused key p s :=
  fun hpending r => h hpending key r

/-- A head is the request itself or the first of the others. -/
theorem HeadRefused.of_parts (hself : SelfRefused key p s) (hothers : OthersRefused key p s) :
    HeadRefused p s := by
  intro hpending k r hhead hr
  by_cases hk : k = key
  · subst hk
    exact hself hpending r hhead hr
  · have hfirst : ((s.blockedQueue p).erase key).head? = some k := by
      cases hqueue : s.blockedQueue p with
      | nil => simp [hqueue] at hhead
      | cons k' rest =>
          have heq : k' = k := by simpa [hqueue] using hhead
          subst heq
          simp [hk]
    have hrefused := hothers hpending k r hfirst hr
    refine Bool.eq_false_iff.mpr fun hadmits => ?_
    exact Bool.eq_false_iff.mp hrefused ((s.returnedBudgets_below key).admits hadmits)

/-- A request outside of the queue that holds no reservation can be left out of
account. -/
theorem HeadRefused.others (h : HeadRefused p s) (habsent : key ∉ s.blockedQueue p)
    (hfree : ∀ r, s.requestStates.lookup key = some r →
      r.sendAdmissionReserved = false ∧ r.writeBudgetReserved = false) :
    OthersRefused key p s := by
  unfold OthersRefused
  rw [List.erase_of_not_mem habsent, returnedBudgets_of_unreserved hfree]
  exact h

/-! ## Effects on the queues -/

/-- Apart from the request itself, an effect leaves every queue as it is. -/
theorem Effect.queue_erase (hmatch : QueuesMatch s) (heff : Effect key s s') (p : ℕ) :
    (s'.blockedQueue p).erase key = (s.blockedQueue p).erase key := by
  by_cases hp : p = key.peerFep
  swap
  · rw [(heff.queue_ne hp).1]
  subst hp
  have hremoved : ((s.blockedPeerQueues.remove key).requests key.peerFep).erase key =
      (s.blockedQueue key.peerFep).erase key := by
    rw [BlockedPeerQueues.requests_remove_self]
    exact List.erase_of_not_mem (hmatch.nodup _).not_mem_erase
  have hgranted : ∀ r, ((s.grantedQueues key r).requests key.peerFep).erase key =
      (s.blockedQueue key.peerFep).erase key := by
    intro r
    unfold grantedQueues
    split_ifs
    · exact hremoved
    · rfl
  cases heff with
  | other hsame _ => simp only [blockedQueue, hsame.blockedPeerQueues]
  | progress | retryErase | retrySet _ _ _ _ | retryUpdate _ _ _ => rfl
  | grantSend | grantWrite | grantFree => exact hgranted _
  | releaseSend | releaseWrite => simp [blockedQueue]
  | link hr hlive hnew _ =>
      have habsent : key ∉ s.blockedQueue key.peerFep := by
        intro hmem
        obtain ⟨r, hlive', hlinked⟩ := ((hmatch.mem_iff key _).mp hmem).2
        cases Option.some.inj (hlive'.lookup.symm.trans hr)
        exact Bool.false_ne_true (hnew.symm.trans hlinked)
      have hpushed : (s.blockedPeerQueues.push key).requests key.peerFep =
          s.blockedQueue key.peerFep ++ [key] := BlockedPeerQueues.requests_push_self _ _
      simp only [blockedQueue] at habsent hpushed ⊢
      rw [hpushed, List.erase_append_right _ habsent, List.erase_cons_head, List.append_nil,
        List.erase_of_not_mem habsent]
  | unlink => exact hremoved
  | close reason _ _ _ _ _ =>
      simp only [blockedQueue, (closeRequest_frame s key reason _).2.2.1]

/-- An effect cancels no wakeup, except of a queue that it empties. -/
theorem Effect.wakeupPending (heff : Effect key s s') (hpending : s.wakeupPending p = true)
    (hwaiting : s'.blockedQueue p ≠ []) : s'.wakeupPending p = true := by
  have hgranted : ∀ r, (s.grantedQueues key r).requests p ≠ [] →
      (s.grantedQueues key r).wakeupPending p = true := by
    intro r hne
    unfold grantedQueues at hne ⊢
    split_ifs with hlinked
    · rw [if_pos hlinked] at hne
      rw [BlockedPeerQueues.wakeupPending_remove hne]
      exact hpending
    · exact hpending
  cases heff with
  | other hsame _ =>
      unfold SesManager.wakeupPending at hpending ⊢
      rw [hsame.blockedPeerQueues]
      exact hpending
  | progress | retryErase | retrySet _ _ _ _ | retryUpdate _ _ _ => exact hpending
  | grantSend | grantWrite | grantFree => exact hgranted _ hwaiting
  | releaseSend | releaseWrite => exact BlockedPeerQueues.wakeupPending_wake_of_pending hpending
  | link => exact (BlockedPeerQueues.wakeupPending_push _ _ _).trans hpending
  | unlink => exact (BlockedPeerQueues.wakeupPending_remove hwaiting).trans hpending
  | close reason _ _ _ _ _ =>
      unfold SesManager.wakeupPending at hpending ⊢
      rw [(closeRequest_frame s key reason _).2.2.1]
      exact hpending

/-- A queue with somebody to drain and no wakeup had none before either. -/
theorem Effect.wakeupPending_eq_false (heff : Effect key s s')
    (hpending : s'.wakeupPending p = false) (hwaiting : s'.blockedQueue p ≠ []) :
    s.wakeupPending p = false := by
  refine Bool.eq_false_iff.mpr fun hbefore => ?_
  exact Bool.eq_false_iff.mp hpending (heff.wakeupPending hbefore hwaiting)

/-! ## Effects on refusals -/

theorem OthersRefused.effect (h : OthersRefused key p s) (hmatch : QueuesMatch s)
    (heff : Effect key s s') : OthersRefused key p s' := by
  intro hpending k r hfirst hr
  rw [heff.queue_erase hmatch] at hfirst
  have hmem : k ∈ (s.blockedQueue p).erase key := List.mem_of_head? hfirst
  have hk : k ≠ key := ((hmatch.nodup p).mem_erase_iff.mp hmem).1
  have hwaiting : s'.blockedQueue p ≠ [] := by
    refine List.ne_nil_of_mem (a := k) ((heff.mem_blockedQueue_ne hk).mpr ?_)
    exact List.mem_of_mem_erase hmem
  rw [heff.lookup_ne hk] at hr
  rw [heff.returnedBudgets]
  exact h (heff.wakeupPending_eq_false hpending hwaiting) k r hfirst hr

/-- A request joins its queue only when it is refused, and a queued request
holds nothing that it could release. -/
theorem SelfRefused.effect (h : SelfRefused key p s) (hmatch : QueuesMatch s)
    (hcoherent : RecordsCoherent s) (heff : Effect key s s') : SelfRefused key p s' := by
  intro hpending r hhead hr
  have hmem : key ∈ s'.blockedQueue p := List.mem_of_head? hhead
  have hbefore := heff.wakeupPending_eq_false hpending (List.ne_nil_of_mem hmem)
  obtain ⟨-, r', hlive, hlinked⟩ := ((hmatch.effect heff).mem_iff key p).mp hmem
  cases Option.some.inj (hlive.lookup.symm.trans hr)
  cases heff with
  | other hsame _ =>
      rw [hsame.requestStates] at hr
      simp only [blockedQueue, hsame.blockedPeerQueues] at hhead
      simp only [budgets, hsame.sendAdmissionBudget, hsame.writeBudget]
      exact h hbefore r hhead hr
  | progress hr₀ _ hkeep =>
      cases (AList.lookup_insert _).symm.trans hr
      exact (DispatchBudgets.admits_congr _ hkeep).trans (h hbefore _ hhead hr₀)
  | retryErase | retrySet _ _ _ _ | retryUpdate _ _ _ => exact h hbefore r hhead hr
  | grantSend | grantWrite | grantFree =>
      cases (AList.lookup_insert _).symm.trans hr
      cases hlinked
  | releaseSend hr₀ _ hheld =>
      cases (AList.lookup_insert _).symm.trans hr
      have hfree := ((hcoherent key _ hr₀).queued hlinked).1
      exact absurd (hfree.symm.trans hheld) Bool.false_ne_true
  | releaseWrite hr₀ _ hheld =>
      cases (AList.lookup_insert _).symm.trans hr
      have hfree := ((hcoherent key _ hr₀).queued hlinked).2
      exact absurd (hfree.symm.trans hheld) Bool.false_ne_true
  | link _ _ _ hblocked =>
      cases (AList.lookup_insert _).symm.trans hr
      have hrefused := tryReserveDispatchBudget_eq_none.mp hblocked
      exact hrefused
  | unlink =>
      cases hr₀ : s.requestStates.lookup key with
      | none => simp [removeBlockedRequest, KeyedMap.lookup_modify_self, hr₀] at hr
      | some r₀ =>
          rw [removeBlockedRequest_of_some hr₀, AList.lookup_insert] at hr
          cases hr
          cases hlinked
  | close reason _ _ _ hunlinked _ _ =>
      rw [(closeRequest_frame s key reason _).1, AList.lookup_insert] at hr
      cases hr
      exact absurd (hunlinked.symm.trans hlinked) Bool.false_ne_true

/-- The invariants of queues and records that refusals rest on. -/
structure Orderly (s : SesManager) : Prop where
  queues : QueuesMatch s
  records : RecordsCoherent s
  closed : TerminalReleased s

theorem Orderly.update (h : Orderly s) (hupd : Update s s') : Orderly s' :=
  ⟨h.queues.update hupd, h.records.update hupd, h.closed.update hupd⟩

theorem Orderly.updates (h : Orderly s) (hupd : Updates s s') : Orderly s' :=
  hupd.invariant (P := Orderly) h fun _ _ => Orderly.update

theorem Orderly.effect (h : Orderly s) (heff : Effect key s s') : Orderly s' :=
  h.update (.effect heff)

/-- What a request does on its own behalf leaves every refused head refused, if
the others are refused even without its reservations. -/
theorem HeadRefused.effects (horderly : Orderly s) (heff : Effects key s s')
    (hself : SelfRefused key p s) (hothers : OthersRefused key p s) : HeadRefused p s' := by
  obtain ⟨-, hself', hothers'⟩ := heff.invariant
    (P := fun t => Orderly t ∧ SelfRefused key p t ∧ OthersRefused key p t)
    ⟨horderly, hself, hothers⟩
    fun t t' ⟨horderly, hself, hothers⟩ h => ⟨horderly.effect h,
      hself.effect horderly.queues horderly.records h, hothers.effect horderly.queues h⟩
  exact .of_parts hself' hothers'

/-! ## Quiet changes -/

/-- A change that touches neither the queues nor the budgets nor what a request
needs of them, and cancels no wakeup. -/
structure Quiet (s s' : SesManager) : Prop where
  requests : ∀ (b : DispatchBudgets) k, (s'.requestStates.lookup k).map b.admits =
    (s.requestStates.lookup k).map b.admits
  queues : ∀ p, s'.blockedQueue p = s.blockedQueue p
  pending : ∀ p, s.wakeupPending p = true → s'.wakeupPending p = true
  budgets : s'.budgets = s.budgets

theorem Quiet.trans {s'' : SesManager} (h : Quiet s s') (h' : Quiet s' s'') : Quiet s s'' where
  requests b k := (h'.requests b k).trans (h.requests b k)
  queues p := (h'.queues p).trans (h.queues p)
  pending p := fun hp => h'.pending p (h.pending p hp)
  budgets := h'.budgets.trans h.budgets

/-- A change of fields that refusals do not depend on. -/
theorem Quiet.of_same (hstates : s'.requestStates = s.requestStates)
    (hqueues : s'.blockedPeerQueues = s.blockedPeerQueues)
    (hsb : s'.sendAdmissionBudget = s.sendAdmissionBudget)
    (hwb : s'.writeBudget = s.writeBudget) : Quiet s s' where
  requests b k := by rw [hstates]
  queues p := by simp only [blockedQueue, hqueues]
  pending p := by
    unfold SesManager.wakeupPending
    rw [hqueues]
    exact id
  budgets := by simp only [SesManager.budgets, hsb, hwb]

theorem Quiet.refl (s : SesManager) : Quiet s s :=
  .of_same rfl rfl rfl rfl

theorem Quiet.wake (s : SesManager) (peerFep : ℕ) : Quiet s (s.scheduleBlockedPeerWakeup peerFep)
    where
  requests _ _ := rfl
  queues _ := BlockedPeerQueues.requests_wake _ _ _
  pending _ := BlockedPeerQueues.wakeupPending_wake_of_pending
  budgets := rfl

/-- A change of one record that keeps what its request needs. -/
theorem Quiet.modify (s : SesManager) (key : RequestKey)
    {f : RequestLifecycleState → RequestLifecycleState}
    (hkeep : ∀ (b : DispatchBudgets) r, b.admits (f r) = b.admits r) :
    Quiet s (s.modifyRequest key f) where
  requests b k := by
    by_cases hk : k = key
    · subst hk
      simp only [modifyRequest, KeyedMap.lookup_modify_self, Option.map_map]
      exact congrArg (Option.map · _) (funext (hkeep b))
    · simp only [modifyRequest, KeyedMap.lookup_modify_ne hk]
  queues _ := rfl
  pending _ := id
  budgets := rfl

theorem HeadRefused.quiet (h : HeadRefused p s) (hquiet : Quiet s s') : HeadRefused p s' := by
  intro hpending k r hhead hr
  have hbefore : s.wakeupPending p = false :=
    Bool.eq_false_iff.mpr fun hp => Bool.eq_false_iff.mp hpending (hquiet.pending p hp)
  rw [hquiet.queues] at hhead
  have hsame := hquiet.requests s'.budgets k
  rw [hr, Option.map_some] at hsame
  obtain ⟨r₀, hr₀, hadmits⟩ := Option.map_eq_some_iff.mp hsame.symm
  rw [← hadmits, hquiet.budgets]
  exact h hbefore k r₀ hhead hr₀

end SesManager
end UeSim
