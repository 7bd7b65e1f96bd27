import Mathlib.Data.List.Sort
import Mathlib.Algebra.Order.Ring.Nat

/-!
# The events of a discrete-event simulation

Events are scheduled for a time and run in the order of their times, and in the order in which
they were scheduled where the times are the same.  The pending events are kept in the order in
which they will run.
-/

/-- An event with its time and its number. -/
structure ScheduledEvent (ε : Type*) where
  time : ℕ
  uid : ℕ
  action : ε
  deriving DecidableEq

/-- The clock, the number of the next event, and the events that are pending. -/
structure EventQueue (ε : Type*) where
  now : ℕ := 0
  nextUid : ℕ := 0
  pending : List (ScheduledEvent ε) := []
  deriving DecidableEq

namespace EventQueue

variable {ε : Type*} {q : EventQueue ε} {R : ScheduledEvent ε → ScheduledEvent ε → Prop}

/-- The event that `schedule` makes. -/
def newEvent (q : EventQueue ε) (delay : ℕ) (action : ε) : ScheduledEvent ε :=
  ⟨q.now + delay, q.nextUid, action⟩

/-- Schedule an event: it runs after those that are pending for the same time. -/
def schedule (q : EventQueue ε) (delay : ℕ) (action : ε) : EventQueue ε :=
  { q with
    nextUid := q.nextUid + 1
    pending := q.pending.orderedInsert (fun e e' => e.time < e'.time) (q.newEvent delay action) }

/-- Whether an event is still pending. -/
def isPending (q : EventQueue ε) (uid : Option ℕ) : Bool :=
  q.pending.any fun e => some e.uid = uid

/-- Cancel an event. -/
def cancel (q : EventQueue ε) (uid : Option ℕ) : EventQueue ε :=
  { q with pending := q.pending.filter fun e => some e.uid ≠ uid }

/-- The event that runs next, with the clock at its time. -/
def next (q : EventQueue ε) : Option (ε × EventQueue ε) :=
  match q.pending with
  | [] => none
  | e :: rest => some (e.action, { q with now := e.time, pending := rest })

/-- Let the clock run, but not past a pending event. -/
def advance (q : EventQueue ε) (time : ℕ) : Option (EventQueue ε) :=
  if q.now ≤ time ∧ ∀ e ∈ q.pending, time ≤ e.time then some { q with now := time } else none

/-- The order in which two events run. -/
def RunsBefore (e e' : ScheduledEvent ε) : Prop :=
  e.time < e'.time ∨ e.time = e'.time ∧ e.uid < e'.uid

/-- The pending events are in the order in which they run, none of them is in the past, and their
numbers are different. -/
structure Ordered (q : EventQueue ε) : Prop where
  sorted : q.pending.Pairwise RunsBefore
  future : ∀ e ∈ q.pending, q.now ≤ e.time
  uid_lt : ∀ e ∈ q.pending, e.uid < q.nextUid
  uid_ne : q.pending.Pairwise fun e e' => e.uid ≠ e'.uid

theorem RunsBefore.time_le {e e' : ScheduledEvent ε} (h : RunsBefore e e') : e.time ≤ e'.time := by
  rcases h with hlt | ⟨heq, -⟩
  · exact hlt.le
  · exact heq.le

/-! ## Scheduling -/

theorem mem_schedule {delay : ℕ} {action : ε} {e : ScheduledEvent ε} :
    e ∈ (q.schedule delay action).pending ↔ e = q.newEvent delay action ∨ e ∈ q.pending :=
  List.mem_orderedInsert _

theorem perm_schedule (q : EventQueue ε) (delay : ℕ) (action : ε) :
    (q.schedule delay action).pending.Perm (q.newEvent delay action :: q.pending) :=
  List.perm_orderedInsert _ _ _

/-- A relation between events that run one before the other holds after an insertion, if it holds
between the new event and those on either side of it. -/
theorem pairwise_orderedInsert {l : List (ScheduledEvent ε)} (e : ScheduledEvent ε)
    (hsorted : l.Pairwise RunsBefore) (hR : l.Pairwise R)
    (hbefore : ∀ a ∈ l, a.time ≤ e.time → R a e) (hafter : ∀ a ∈ l, e.time < a.time → R e a) :
    (l.orderedInsert (fun e e' => e.time < e'.time) e).Pairwise R := by
  induction l with
  | nil => exact List.pairwise_singleton _ _
  | cons b l ih =>
      rw [List.pairwise_cons] at hsorted hR
      rw [List.orderedInsert_cons]
      split_ifs with hlt
      · refine List.pairwise_cons.mpr ⟨fun a ha => hafter a ha ?_, List.pairwise_cons.mpr hR⟩
        rcases List.mem_cons.mp ha with rfl | ha
        · exact hlt
        · exact hlt.trans_le (hsorted.1 a ha).time_le
      · refine List.pairwise_cons.mpr ⟨fun a ha => ?_, ih hsorted.2 hR.2 ?_ ?_⟩
        · rcases (List.mem_orderedInsert _).mp ha with rfl | ha
          · exact hbefore b List.mem_cons_self (not_lt.mp hlt)
          · exact hR.1 a ha
        · exact fun a ha => hbefore a (List.mem_cons_of_mem _ ha)
        · exact fun a ha => hafter a (List.mem_cons_of_mem _ ha)

theorem Ordered.pairwise_schedule (h : q.Ordered) {delay : ℕ} {action : ε}
    (hR : q.pending.Pairwise R)
    (hbefore : ∀ e ∈ q.pending, e.time ≤ q.now + delay → R e (q.newEvent delay action))
    (hafter : ∀ e ∈ q.pending, q.now + delay < e.time → R (q.newEvent delay action) e) :
    (q.schedule delay action).pending.Pairwise R :=
  pairwise_orderedInsert _ h.sorted hR hbefore hafter

/-! ## The order is kept -/

theorem ordered_empty : ({} : EventQueue ε).Ordered :=
  ⟨.nil, fun _ he => absurd he List.not_mem_nil, fun _ he => absurd he List.not_mem_nil, .nil⟩

theorem Ordered.schedule (h : q.Ordered) (delay : ℕ) (action : ε) :
    (q.schedule delay action).Ordered where
  sorted := by
    refine h.pairwise_schedule h.sorted (fun e he hle => ?_) fun e _ hlt => .inl hlt
    rcases Nat.lt_or_eq_of_le hle with hlt | heq
    · exact .inl hlt
    · exact .inr ⟨heq, h.uid_lt e he⟩
  future e he := by
    rcases mem_schedule.mp he with rfl | he
    · exact Nat.le_add_right _ _
    · exact h.future e he
  uid_lt e he := by
    rcases mem_schedule.mp he with rfl | he
    · exact Nat.lt_succ_self _
    · exact Nat.lt_succ_of_lt (h.uid_lt e he)
  uid_ne :=
    h.pairwise_schedule h.uid_ne (fun e he _ => (h.uid_lt e he).ne)
      fun e he _ => (h.uid_lt e he).ne'

theorem Ordered.cancel (h : q.Ordered) (uid : Option ℕ) : (q.cancel uid).Ordered where
  sorted := h.sorted.sublist List.filter_sublist
  future e he := h.future e (List.mem_of_mem_filter he)
  uid_lt e he := h.uid_lt e (List.mem_of_mem_filter he)
  uid_ne := h.uid_ne.sublist List.filter_sublist

/-- What runs next is the first of the pending events. -/
theorem next_eq_some {action : ε} {q' : EventQueue ε} (h : q.next = some (action, q')) :
    ∃ e, e.action = action ∧ q.pending = e :: q'.pending ∧ q'.now = e.time ∧
      q'.nextUid = q.nextUid := by
  unfold next at h
  cases hpending : q.pending with
  | nil =>
      rw [hpending] at h
      cases h
  | cons e rest =>
      rw [hpending] at h
      cases h
      exact ⟨e, rfl, rfl, rfl, rfl⟩

theorem Ordered.next (h : q.Ordered) {action : ε} {q' : EventQueue ε}
    (hnext : q.next = some (action, q')) : q'.Ordered ∧ q.now ≤ q'.now := by
  obtain ⟨e, -, hpending, hnow, huid⟩ := next_eq_some hnext
  have hsorted := h.sorted
  have hne := h.uid_ne
  rw [hpending, List.pairwise_cons] at hsorted hne
  have hmem : ∀ e' ∈ q'.pending, e' ∈ q.pending := by
    intro e' he'
    rw [hpending]
    exact List.mem_cons_of_mem _ he'
  refine ⟨⟨hsorted.2, fun e' he' => ?_, fun e' he' => ?_, hne.2⟩, ?_⟩
  · rw [hnow]
    exact (hsorted.1 e' he').time_le
  · rw [huid]
    exact h.uid_lt e' (hmem e' he')
  · rw [hnow]
    exact h.future e (by rw [hpending]; exact List.mem_cons_self)

theorem Ordered.advance (h : q.Ordered) {time : ℕ} {q' : EventQueue ε}
    (hadvance : q.advance time = some q') : q'.Ordered ∧ q' = { q with now := time } ∧
      q.now ≤ time := by
  unfold EventQueue.advance at hadvance
  split_ifs at hadvance with hguard
  cases hadvance
  exact ⟨⟨h.sorted, hguard.2, h.uid_lt, h.uid_ne⟩, rfl, hguard.1⟩

end EventQueue
