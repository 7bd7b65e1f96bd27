import Mathlib.Algebra.Order.Ring.Nat
import UeSim.Support.PriorityQueue

/-!
# The schedulers of the simulator

A `Scheduler` holds the events that are pending.  It hands them out in the order of their times,
and in the order in which they were scheduled where the times are the same.  The simulator uses a
`MapScheduler` unless it is told otherwise; a `ListScheduler` is the plain alternative.

An assertion that fails, and a call that a scheduler does not allow, have no result.
-/

namespace UeSim
namespace Scheduler

/-- `Scheduler::EventKey`.  The time stamp is a `Time` that is not negative. -/
structure EventKey where
  ts : ℕ
  uid : ℕ
  context : ℕ
  ts_lt : ts < 2 ^ 63
  deriving DecidableEq

/-- `Scheduler::Event`, with the number of its `EventImpl`. -/
structure Event where
  impl : ℕ
  key : EventKey
  deriving DecidableEq

/-- The time stamp of an event. -/
def Event.ts (ev : Event) : ℕ := ev.key.ts

/-- The number of an event. -/
def Event.uid (ev : Event) : ℕ := ev.key.uid

/-- `operator<` of two keys. -/
def EventKey.before (a b : EventKey) : Bool :=
  a.ts < b.ts || (a.ts = b.ts && a.uid < b.uid)

/-- The place of an event in the order. -/
abbrev order : Event → ℕ ×ₗ ℕ := PriorityQueue.rank Event.ts Event.uid

/-- One event comes before another. -/
abbrev Before (a b : Event) : Prop := order a < order b

theorem before_iff {a b : Event} : a.key.before b.key = true ↔ Before a b := by
  unfold Before
  rw [PriorityQueue.rank_lt_rank]
  simp [EventKey.before, Event.ts, Event.uid]

/-! ## The list -/

namespace ListScheduler

/-- `ListScheduler::Insert`. -/
def insert : List Event → Event → List Event
  | [], ev => [ev]
  | e :: events, ev => if ev.key.before e.key then ev :: e :: events else e :: insert events ev

/-- `ListScheduler::Remove`: the first event with the number, which has to be the same event. -/
def remove : List Event → Event → Option (List Event)
  | [], _ => none
  | e :: events, ev =>
      if e.uid = ev.uid then if e.impl = ev.impl then some events else none
      else (remove events ev).map (e :: ·)

end ListScheduler

/-- `ListScheduler`. -/
def listScheduler : PriorityQueue (List Event) Event where
  empty := []
  isEmpty := List.isEmpty
  insert := ListScheduler.insert
  peekNext := List.head?
  removeNext
    | [] => none
    | ev :: events => some (ev, events)
  remove := ListScheduler.remove

/-- The order of the events that are pending. -/
abbrev Ordered := PriorityQueue.Ordered Event.ts Event.uid

/-- A scheduler hands out the events in their order. -/
abbrev Implements {σ : Type*} (Q : PriorityQueue σ Event) :=
  Q.Implements Event.ts Event.uid fun _ _ => True

/-- The events in their order, as a queue. -/
abbrev reference : PriorityQueue (List Event) Event :=
  PriorityQueue.sortedList Event.ts Event.uid

/-- Calls that the simulator may make of a new scheduler. -/
abbrev Legal : List (PriorityQueue.Call Event) → Prop :=
  PriorityQueue.Legal Event.ts Event.uid ⊥ []

/-- An event, for samples. -/
def sampleEvent (uid : ℕ) (ts : UInt32) : Event :=
  ⟨uid, ⟨ts.toNat, uid, 0, ts.toNat_lt.trans (by decide)⟩⟩

variable {last : WithBot ℕ} {l : List Event} {ev : Event}

theorem ListScheduler.insert_eq (l : List Event) (ev : Event) :
    insert l ev = PriorityQueue.insertSorted Event.ts Event.uid ev l := by
  induction l with
  | nil => rfl
  | cons e l ih => simp only [insert, PriorityQueue.insertSorted, before_iff, ih]

/-- The first event with the number of a pending event is that event. -/
theorem ListScheduler.remove_eq (hdistinct : l.Pairwise fun a b => a.uid ≠ b.uid) (hev : ev ∈ l) :
    remove l ev = some (l.erase ev) := by
  induction l with
  | nil => cases hev
  | cons e l ih =>
      rw [List.pairwise_cons] at hdistinct
      rw [remove]
      by_cases heq : e = ev
      · rw [if_pos (congrArg Event.uid heq), if_pos (congrArg Event.impl heq), heq,
          List.erase_cons_head]
      · have hmem : ev ∈ l := (List.mem_cons.mp hev).resolve_left (Ne.symm heq)
        rw [if_neg (hdistinct.1 ev hmem), ih hdistinct.2 hmem,
          List.erase_cons_tail (by simpa using heq)]
        rfl

theorem implements_listScheduler :
    Implements listScheduler fun last l s => s = l ∧ Ordered last l where
  ordered h := h.2
  empty := ⟨rfl, .nil, .nil, fun _ ha => absurd ha List.not_mem_nil⟩
  isEmpty := by
    rintro last l s ⟨rfl, -⟩
    rfl
  peekNext := by
    rintro last l s ⟨rfl, -⟩
    rfl
  insert := by
    rintro last l s ev ⟨rfl, h⟩ hnew hlast
    exact ⟨ListScheduler.insert_eq s ev, h.insert hnew hlast⟩
  removeNext_nil := by
    rintro - s ⟨rfl, -⟩
    rfl
  removeNext_cons := by
    rintro last ev l s ⟨rfl, h⟩
    exact ⟨l, rfl, rfl, h.tail⟩
  remove := by
    rintro last ev l s ⟨rfl, h⟩ hev -
    exact ⟨s.erase ev, ListScheduler.remove_eq h.distinct hev, rfl, h.erase ev⟩

/-! ## The map -/

/-- `EventMap`: a `std::map`, which is in the order of its keys. -/
abbrev EventMap := List (EventKey × ℕ)

namespace MapScheduler

/-- An entry of the map as an event. -/
def eventOf (entry : EventKey × ℕ) : Event := ⟨entry.2, entry.1⟩

/-- `MapScheduler::Insert`.  A map has no two entries with equivalent keys. -/
def insert : EventMap → Event → EventMap
  | [], ev => [(ev.key, ev.impl)]
  | entry :: entries, ev =>
      if ev.key.before entry.1 then (ev.key, ev.impl) :: entry :: entries
      else if entry.1.before ev.key then entry :: insert entries ev
      else entry :: entries

/-- `MapScheduler::Remove`: the entry with an equivalent key, which has to be the same event. -/
def remove : EventMap → Event → Option EventMap
  | [], _ => none
  | entry :: entries, ev =>
      if ev.key.before entry.1 then none
      else if entry.1.before ev.key then (remove entries ev).map (entry :: ·)
      else if entry.2 = ev.impl then some entries
      else none

end MapScheduler

/-- `MapScheduler`. -/
def mapScheduler : PriorityQueue EventMap Event where
  empty := []
  isEmpty := List.isEmpty
  insert := MapScheduler.insert
  peekNext entries := entries.head?.map MapScheduler.eventOf
  removeNext
    | [] => none
    | entry :: entries => some (MapScheduler.eventOf entry, entries)
  remove := MapScheduler.remove

/-- The entry of an event. -/
def entryOf (ev : Event) : EventKey × ℕ := (ev.key, ev.impl)

/-- An event with a new number has a new key. -/
theorem MapScheduler.insert_eq (hnew : ∀ e ∈ l, e.uid ≠ ev.uid) :
    insert (l.map entryOf) ev =
      (PriorityQueue.insertSorted Event.ts Event.uid ev l).map entryOf := by
  induction l with
  | nil => rfl
  | cons e l ih =>
      have htail := ih fun e' he' => hnew e' (List.mem_cons_of_mem e he')
      rw [List.map_cons, insert, PriorityQueue.insertSorted]
      by_cases hbefore : Before ev e
      · have hkey : ev.key.before (entryOf e).1 = true := before_iff.mpr hbefore
        rw [if_pos hkey, if_pos hbefore]
        rfl
      · have hne : order e ≠ order ev :=
          fun heq => hnew e List.mem_cons_self (congrArg Prod.snd (toLex.injective heq))
        have hafter := lt_of_le_of_ne (not_lt.mp hbefore) hne
        have hnot : ¬ev.key.before (entryOf e).1 = true := fun h => hbefore (before_iff.mp h)
        have hkey : (entryOf e).1.before ev.key = true := before_iff.mpr hafter
        rw [if_neg hnot, if_pos hkey, if_neg hbefore, htail, List.map_cons]

/-- The entry with the key of a pending event is that of the event. -/
theorem MapScheduler.remove_eq (h : Ordered last l) (hev : ev ∈ l) :
    remove (l.map entryOf) ev = some ((l.erase ev).map entryOf) := by
  induction l with
  | nil => cases hev
  | cons e l ih =>
      rw [List.map_cons, remove]
      by_cases heq : e = ev
      · subst heq
        have hirrefl : (entryOf e).1.before e.key = false := by
          simp [entryOf, EventKey.before]
        have hirrefl' : e.key.before (entryOf e).1 = false := hirrefl
        rw [hirrefl, hirrefl', List.erase_cons_head]
        simp [entryOf]
      · have hmem : ev ∈ l := (List.mem_cons.mp hev).resolve_left (Ne.symm heq)
        have hlt := (List.pairwise_cons.mp h.sorted).1 ev hmem
        have hnot : ¬ev.key.before (entryOf e).1 = true :=
          fun hback => (before_iff.mp hback).asymm hlt
        have hkey : (entryOf e).1.before ev.key = true := before_iff.mpr hlt
        have htail := ih ⟨(List.pairwise_cons.mp h.sorted).2, (List.pairwise_cons.mp h.distinct).2,
          fun a ha => h.bound a (List.mem_cons_of_mem e ha)⟩ hmem
        rw [if_neg hnot, if_pos hkey, htail, List.erase_cons_tail (by simpa using heq)]
        rfl

theorem implements_mapScheduler :
    Implements mapScheduler fun last l s => s = l.map entryOf ∧ Ordered last l where
  ordered h := h.2
  empty := ⟨rfl, .nil, .nil, fun _ ha => absurd ha List.not_mem_nil⟩
  isEmpty := by
    rintro last l s ⟨rfl, -⟩
    exact List.isEmpty_map
  peekNext := by
    rintro last l s ⟨rfl, -⟩
    cases l <;> rfl
  insert := by
    rintro last l s ev ⟨rfl, h⟩ hnew hlast
    exact ⟨MapScheduler.insert_eq hnew, h.insert hnew hlast⟩
  removeNext_nil := by
    rintro - s ⟨rfl, -⟩
    rfl
  removeNext_cons := by
    rintro last ev l s ⟨rfl, h⟩
    exact ⟨l.map entryOf, rfl, rfl, h.tail⟩
  remove := by
    rintro last ev l s ⟨rfl, h⟩ hev -
    exact ⟨_, MapScheduler.remove_eq h hev, rfl, h.erase ev⟩

end Scheduler
end UeSim
