import UeSim.Simulator.Scheduler
import UeSim.Support.BinaryHeap

/-!
# The binary heap

A `HeapScheduler` keeps its events in a binary heap, whose first element is not used.  `Remove`
puts the last event in the place of the one that it removes, and moves it down only.  If that event
comes before the parent of its new place, then the heap is out of order afterwards.
-/

namespace UeSim
namespace Scheduler

open BinaryHeap

/-- The event in front of the heap. -/
instance : Inhabited Event := ⟨⟨0, ⟨0, 0, 0, Nat.two_pow_pos 63⟩⟩⟩

namespace HeapScheduler

/-- `HeapScheduler::Insert`. -/
def insert (heap : List Event) (ev : Event) : List Event :=
  bottomUp order (heap ++ [ev]).length (heap ++ [ev]) heap.length

/-- The heap without the event at a position, in whose place the last one is put. -/
def takeOut (heap : List Event) (i : ℕ) : List Event :=
  topDown order heap.length (exch heap i (heap.length - 1)).dropLast i

/-- `HeapScheduler::RemoveNext`. -/
def removeNext (heap : List Event) : Option (Event × List Event) :=
  if heap.length = 1 then none else some (entry heap 1, takeOut heap 1)

/-- The first position from one on with the number of an event. -/
def find (heap : List Event) (uid : ℕ) : Option ℕ :=
  (heap.tail.findIdx? fun ev => ev.uid = uid).map (· + 1)

/-- `HeapScheduler::Remove`. -/
def remove (heap : List Event) (ev : Event) : Option (List Event) :=
  (find heap ev.uid).bind fun i =>
    if (entry heap i).impl = ev.impl then some (takeOut heap i) else none

end HeapScheduler

/-- `HeapScheduler`. -/
def heapScheduler : PriorityQueue (List Event) Event where
  empty := [default]
  isEmpty heap := heap.length = 1
  insert := HeapScheduler.insert
  peekNext heap := if heap.length = 1 then none else some (entry heap 1)
  removeNext := HeapScheduler.removeNext
  remove := HeapScheduler.remove

namespace HeapScheduler

variable {heap : List Event} {l : List Event} {last : WithBot ℕ} {ev : Event} {i : ℕ}

/-- The event that takes the place of a removed one does not come before the parent of that
place. -/
def Removable (heap : List Event) (ev : Event) : Prop :=
  ∀ i ∈ find heap ev.uid, 1 < i → i + 1 < heap.length →
    order (entry heap (i / 2)) ≤ order (entry heap (heap.length - 1))

instance (heap : List Event) (ev : Event) : Decidable (Removable heap ev) :=
  inferInstanceAs (Decidable (∀ i ∈ find heap ev.uid, 1 < i → i + 1 < heap.length →
    order (entry heap (i / 2)) ≤ order (entry heap (heap.length - 1))))

/-- The heap holds the events of a sorted list. -/
structure Represents (last : WithBot ℕ) (l : List Event) (heap : List Event) : Prop where
  ordered : Ordered last l
  length_pos : 0 < heap.length
  perm : heap.tail.Perm l
  heapOrdered : HeapOrdered order heap

theorem entry_dropLast (hi : i + 1 < heap.length) : entry heap.dropLast i = entry heap i := by
  have hlen : i < heap.dropLast.length := by
    rw [List.length_dropLast]
    omega
  rw [entry_eq_getElem hlen, entry_eq_getElem (by omega), List.getElem_dropLast]

theorem length_eq_of_perm (hpos : 0 < heap.length) (hperm : heap.tail.Perm l) :
    heap.length = l.length + 1 := by
  have hlength := hperm.length_eq
  rw [List.length_tail] at hlength
  omega

theorem mem_tail (hi : 0 < i) (hlen : i < heap.length) : entry heap i ∈ heap.tail := by
  obtain ⟨j, rfl⟩ := Nat.exists_eq_succ_of_ne_zero hi.ne'
  have htail : j < heap.tail.length := by
    rw [List.length_tail]
    omega
  rw [entry_eq_getElem hlen]
  have hget : heap.tail[j] = heap[j + 1] := List.getElem_tail htail
  exact hget ▸ List.getElem_mem htail

/-! ## Insertion -/

/-- The new event is the only one that may be out of order. -/
theorem upReady_append (hordered : HeapOrdered order heap) (ev : Event) :
    UpReady order (heap ++ [ev]) heap.length := by
  have hentry : ∀ i, i < heap.length → entry (heap ++ [ev]) i = entry heap i := by
    intro i hi
    unfold entry
    rw [List.getD_eq_getElem?_getD, List.getD_eq_getElem?_getD, List.getElem?_append_left hi]
  constructor
  · intro i hi hil hne
    rw [List.length_append, List.length_singleton] at hil
    rw [hentry i (by omega), hentry (i / 2) (by omega)]
    exact hordered i hi (by omega)
  · intro hone i hi hil
    rw [List.length_append, List.length_singleton] at hil
    omega

theorem Represents.insert (h : Represents last l heap) (hnew : ∀ e ∈ l, e.uid ≠ ev.uid)
    (hlast : last ≤ ev.ts) :
    Represents last (PriorityQueue.insertSorted Event.ts Event.uid ev l)
      (HeapScheduler.insert heap ev) := by
  have hlen : heap.length < (heap ++ [ev]).length := by
    rw [List.length_append, List.length_singleton]
    exact Nat.lt_succ_self _
  obtain ⟨hordered, hlength, hperm⟩ :=
    bottomUp_spec (upReady_append h.heapOrdered ev) h.length_pos hlen hlen.le
  refine ⟨h.ordered.insert hnew hlast, ?_, ?_, hordered⟩
  · rw [HeapScheduler.insert, hlength]
    exact h.length_pos.trans hlen
  · refine hperm.trans (List.Perm.trans ?_ (PriorityQueue.perm_insertSorted ev l).symm)
    rw [List.tail_append_of_ne_nil (List.length_pos_iff.mp h.length_pos)]
    exact List.perm_append_comm.trans (h.perm.cons ev)

/-! ## Taking an event out -/

/-- The heap with the last event in the place of another one. -/
def replaced (heap : List Event) (i : ℕ) : List Event := (exch heap i (heap.length - 1)).dropLast

theorem length_replaced (heap : List Event) (i : ℕ) :
    (replaced heap i).length = heap.length - 1 := by
  rw [replaced, List.length_dropLast, length_exch]

/-- What is left has the same events but one. -/
theorem cons_tail_replaced (hi : 0 < i) (hlen : i < heap.length) :
    (entry heap i :: (replaced heap i).tail).Perm heap.tail := by
  have hlast : heap.length - 1 < heap.length := by omega
  have hexch := exch_tail_perm hi (show 0 < heap.length - 1 by omega) hlen hlast
  refine List.Perm.trans ?_ hexch
  have hne : (exch heap i (heap.length - 1)).tail ≠ [] := by
    rw [← List.length_pos_iff, List.length_tail, length_exch]
    omega
  have hentry : (exch heap i (heap.length - 1)).tail.getLast hne = entry heap i := by
    rw [List.getLast_tail, List.getLast_eq_getElem, ← entry_eq_getElem, length_exch,
      entry_exch hlen hlast]
    by_cases heq : heap.length - 1 = i
    · rw [if_pos heq, heq]
    · rw [if_neg heq, if_pos rfl]
  have hsplit := List.dropLast_append_getLast hne
  rw [hentry] at hsplit
  rw [replaced, List.tail_dropLast]
  refine List.Perm.trans ?_ (List.Perm.of_eq hsplit)
  exact (List.perm_append_singleton _ _).symm

/-- The entries of the heap after the replacement. -/
theorem entry_replaced (hlen : i + 1 < heap.length) {j : ℕ} (hj : j + 1 < heap.length) :
    entry (replaced heap i) j = if j = i then entry heap (heap.length - 1) else entry heap j := by
  have hlast : heap.length - 1 < heap.length := by omega
  rw [replaced, entry_dropLast (by rw [length_exch]; exact hj), entry_exch (by omega) hlast]
  split_ifs
  · rfl
  · omega
  · rfl

/-- The replacement may be too large for its place. -/
theorem downReady_replaced (hordered : HeapOrdered order heap) (hi : 0 < i)
    (hlen : i + 1 < heap.length)
    (hparent : 1 < i → order (entry heap (i / 2)) ≤ order (entry heap (heap.length - 1))) :
    DownReady order (replaced heap i) i := by
  constructor
  · intro j hj hjl hp
    rw [length_replaced] at hjl
    rw [entry_replaced hlen (show j + 1 < heap.length by omega),
      entry_replaced hlen (show j / 2 + 1 < heap.length by omega), if_neg hp]
    split_ifs with hji
    · rw [hji]
      exact hparent (by omega)
    · exact hordered j hj (by omega)
  · intro hone j hp hjl
    rw [length_replaced] at hjl
    rw [entry_replaced hlen (show j + 1 < heap.length by omega),
      entry_replaced hlen (show i / 2 + 1 < heap.length by omega), if_neg (by omega),
      if_neg (by omega)]
    have hparent := hordered i hone (by omega)
    have hchild := hordered j (by omega) (by omega)
    rw [hp] at hchild
    exact hparent.trans hchild

theorem takeOut_spec (hordered : HeapOrdered order heap) (hi : 0 < i) (hlen : i < heap.length)
    (hparent : 1 < i → i + 1 < heap.length →
      order (entry heap (i / 2)) ≤ order (entry heap (heap.length - 1))) :
    HeapOrdered order (takeOut heap i) ∧ (takeOut heap i).length = heap.length - 1 ∧
      (entry heap i :: (takeOut heap i).tail).Perm heap.tail := by
  have htail := cons_tail_replaced hi hlen
  have hready : DownReady order (replaced heap i) i := by
    by_cases hlast : i + 1 < heap.length
    · exact downReady_replaced hordered hi hlast fun hone => hparent hone hlast
    · -- The last event is removed, and nothing takes its place.
      have hentry : ∀ j, j + 1 < heap.length → entry (replaced heap i) j = entry heap j := by
        intro j hj
        rw [replaced, entry_dropLast (by rw [length_exch]; exact hj),
          entry_exch hlen (by omega), if_neg (by omega), if_neg (by omega)]
      constructor
      · intro j hj hjl _
        rw [length_replaced] at hjl
        rw [hentry j (by omega), hentry (j / 2) (by omega)]
        exact hordered j hj (by omega)
      · intro _ j hp hjl
        rw [length_replaced] at hjl
        omega
  have hfuel : (replaced heap i).length ≤ heap.length + i := by
    rw [length_replaced]
    omega
  obtain ⟨hdone, hlength, hperm⟩ := topDown_spec hready hi hfuel
  rw [length_replaced] at hlength
  exact ⟨hdone, hlength, (hperm.cons _).trans htail⟩

theorem Represents.takeOut (h : Represents last (ev :: l) heap) (hi : 0 < i)
    (hlen : i < heap.length) (hentry : entry heap i = ev)
    (hparent : 1 < i → i + 1 < heap.length →
      order (entry heap (i / 2)) ≤ order (entry heap (heap.length - 1))) :
    (HeapScheduler.takeOut heap i).tail.Perm l ∧ 0 < (HeapScheduler.takeOut heap i).length ∧
      HeapOrdered order (HeapScheduler.takeOut heap i) := by
  obtain ⟨hordered, hlength, hperm⟩ := takeOut_spec h.heapOrdered hi hlen hparent
  rw [hentry] at hperm
  refine ⟨(hperm.trans h.perm).cons_inv, ?_, hordered⟩
  rw [hlength, length_eq_of_perm h.length_pos h.perm, List.length_cons]
  exact Nat.succ_pos _

/-- The root is the first of the pending events. -/
theorem Represents.root (h : Represents last (ev :: l) heap) : entry heap 1 = ev := by
  have hlength := length_eq_of_perm h.length_pos h.perm
  rw [List.length_cons] at hlength
  have hroot := h.perm.mem_iff.mp (mem_tail Nat.one_pos (show 1 < heap.length by omega))
  have hev : ev ∈ heap.tail := h.perm.mem_iff.mpr List.mem_cons_self
  obtain ⟨j, hj, heq⟩ := List.mem_iff_getElem.mp hev
  rw [List.length_tail] at hj
  have hentry : entry heap (j + 1) = ev := by
    rw [entry_eq_getElem (by omega), ← heq, List.getElem_tail]
  have hle := h.heapOrdered.root_le (j + 1) (Nat.succ_pos j) (by omega)
  rw [hentry] at hle
  rcases List.mem_cons.mp hroot with hroot | hroot
  · exact hroot
  · exact absurd ((List.pairwise_cons.mp h.ordered.sorted).1 _ hroot) (not_lt.mpr hle)

theorem Represents.removeNext (h : Represents last (ev :: l) heap) :
    ∃ heap', HeapScheduler.removeNext heap = some (ev, heap') ∧ Represents ev.ts l heap' := by
  have hlength := length_eq_of_perm h.length_pos h.perm
  rw [List.length_cons] at hlength
  obtain ⟨hperm, hpos, hordered⟩ := h.takeOut Nat.one_pos (by omega) h.root
    fun hone => absurd hone (lt_irrefl 1)
  refine ⟨HeapScheduler.takeOut heap 1, ?_, h.ordered.tail, hpos, hperm, hordered⟩
  unfold HeapScheduler.removeNext
  rw [if_neg (by omega), h.root]

/-- A pending event is found where it is. -/
theorem Represents.find_eq (h : Represents last l heap) (hev : ev ∈ l) :
    ∃ i, find heap ev.uid = some i ∧ 0 < i ∧ i < heap.length ∧ entry heap i = ev := by
  have hmem := h.perm.mem_iff.mpr hev
  have hsome : (heap.tail.findIdx? fun e => e.uid = ev.uid).isSome := by
    rw [List.findIdx?_isSome, List.any_eq_true]
    exact ⟨ev, hmem, decide_eq_true rfl⟩
  obtain ⟨j, hj⟩ := Option.isSome_iff_exists.mp hsome
  obtain ⟨hlt, huid, -⟩ := List.findIdx?_eq_some_iff_getElem.mp hj
  have hlen : j + 1 < heap.length := by
    rw [List.length_tail] at hlt
    omega
  have hentry : entry heap (j + 1) = heap.tail[j] := by
    rw [entry_eq_getElem hlen, List.getElem_tail]
  refine ⟨j + 1, congrArg (Option.map (· + 1)) hj, Nat.succ_pos j, hlen, ?_⟩
  rw [hentry]
  exact h.ordered.eq_of_ident_eq (h.perm.mem_iff.mp (List.getElem_mem hlt)) hev
    (of_decide_eq_true huid)

theorem remove_of_find (hfind : find heap ev.uid = some i) (hentry : entry heap i = ev) :
    HeapScheduler.remove heap ev = some (HeapScheduler.takeOut heap i) := by
  unfold HeapScheduler.remove
  rw [hfind, Option.bind_some, hentry, if_pos rfl]

theorem Represents.remove (h : Represents last l heap) (hev : ev ∈ l)
    (hremovable : Removable heap ev) :
    ∃ heap', HeapScheduler.remove heap ev = some heap' ∧ Represents last (l.erase ev) heap' := by
  obtain ⟨i, hfind, hi, hlen, hentry⟩ := h.find_eq hev
  obtain ⟨hordered, hlength, hperm⟩ := takeOut_spec h.heapOrdered hi hlen
    (hremovable i hfind)
  rw [hentry] at hperm
  have hpos : 0 < l.length := List.length_pos_of_mem hev
  refine ⟨_, remove_of_find hfind hentry, h.ordered.erase ev, ?_, ?_, hordered⟩
  · rw [hlength, length_eq_of_perm h.length_pos h.perm]
    omega
  · exact ((hperm.trans h.perm).trans (List.perm_cons_erase hev)).cons_inv

/-- An event that comes before the parent of its new place stays there, and the heap is out of
order. -/
theorem not_heapOrdered_takeOut (hordered : HeapOrdered order heap) (hone : 1 < i)
    (hlast : i + 1 < heap.length)
    (hless : order (entry heap (heap.length - 1)) < order (entry heap (i / 2))) :
    ¬HeapOrdered order (takeOut heap i) ∧ takeOut heap i = replaced heap i := by
  have hi := entry_replaced hlast hlast
  have hparent := entry_replaced hlast (show i / 2 + 1 < heap.length by omega)
  rw [if_pos rfl] at hi
  rw [if_neg (by omega)] at hparent
  have hstays : takeOut heap i = replaced heap i := by
    refine topDown_eq_self fun j hp hjl => ?_
    rw [← replaced, length_replaced] at hjl
    rw [← replaced, hi, entry_replaced hlast (show j + 1 < heap.length by omega),
      if_neg (by omega)]
    have hchild := hordered j (by omega) (by omega)
    rw [hp] at hchild
    exact hless.trans_le ((hordered i hone (by omega)).trans hchild)
  refine ⟨fun hfail => ?_, hstays⟩
  rw [hstays] at hfail
  have hedge := hfail i hone (by rw [length_replaced]; omega)
  rw [hi, hparent] at hedge
  exact absurd hless (not_lt.mpr hedge)

/-- `Remove` takes out the right event, and leaves the heap in order exactly if the event that
takes its place does not come before the parent of that place. -/
theorem heapOrdered_remove_iff (h : Represents last l heap) (hev : ev ∈ l) :
    ∃ heap', HeapScheduler.remove heap ev = some heap' ∧ heap'.tail.Perm (l.erase ev) ∧
      (HeapOrdered order heap' ↔ Removable heap ev) := by
  by_cases hremovable : Removable heap ev
  · obtain ⟨heap', hremove, h'⟩ := h.remove hev hremovable
    exact ⟨heap', hremove, h'.perm, iff_of_true h'.heapOrdered hremovable⟩
  · obtain ⟨i, hfind, hi, hlen, hentry⟩ := h.find_eq hev
    unfold Removable at hremovable
    push Not at hremovable
    obtain ⟨i', hfind', hone, hlast, hless⟩ := hremovable
    cases hfind.symm.trans hfind'
    obtain ⟨hout, hstays⟩ := not_heapOrdered_takeOut h.heapOrdered hone hlast hless
    refine ⟨_, remove_of_find hfind hentry, ?_, iff_of_false hout fun hno => ?_⟩
    · have hperm := cons_tail_replaced hi hlen
      rw [hentry] at hperm
      rw [hstays]
      exact ((hperm.trans h.perm).trans (List.perm_cons_erase hev)).cons_inv
    · exact absurd hless (not_lt.mpr (hno i hfind hone hlast))

end HeapScheduler

open HeapScheduler in
/-- The heap hands out the events in their order, as long as it removes only what is
removable. -/
theorem implements_heapScheduler :
    heapScheduler.Implements Event.ts Event.uid Removable Represents where
  ordered h := h.ordered
  empty := by
    refine ⟨⟨.nil, .nil, fun _ he => absurd he List.not_mem_nil⟩, Nat.one_pos, .nil, ?_⟩
    intro i hi hlen
    exact absurd (show i < 1 from hlen) (by omega)
  isEmpty := by
    intro last l heap h
    change decide (heap.length = 1) = l.isEmpty
    rw [length_eq_of_perm h.length_pos h.perm]
    cases l <;> simp
  peekNext := by
    intro last l heap h
    change (if heap.length = 1 then none else some (entry heap 1)) = l.head?
    have hlength := length_eq_of_perm h.length_pos h.perm
    cases l with
    | nil => exact if_pos hlength
    | cons ev l =>
        rw [List.length_cons] at hlength
        rw [if_neg (by omega), h.root]
        rfl
  insert h hnew hlast := h.insert hnew hlast
  removeNext_nil := by
    intro last heap h
    exact if_pos (length_eq_of_perm h.length_pos h.perm)
  removeNext_cons h := h.removeNext
  remove h hev hremovable := h.remove hev hremovable

open HeapScheduler in
/-- The heap answers calls as the list of all pending events does, as long as every removal is one
that it can make. -/
theorem answers_heapScheduler {calls : List (PriorityQueue.Call Event)} (hlegal : Legal calls)
    (hallowed : heapScheduler.Allowed Removable heapScheduler.empty calls) :
    heapScheduler.answers heapScheduler.empty calls = reference.answers [] calls ∧
      (reference.answers [] calls).isSome :=
  implements_heapScheduler.answers_eq implements_heapScheduler.empty hlegal hallowed

/-- Seven events, which form a full heap: the last one comes before the children of the second. -/
def sampleHeapCalls : List (PriorityQueue.Call Event) :=
  [.insert (sampleEvent 4 10), .insert (sampleEvent 5 100), .insert (sampleEvent 6 20),
    .insert (sampleEvent 7 101), .insert (sampleEvent 8 102), .insert (sampleEvent 9 30),
    .insert (sampleEvent 10 40)]

theorem answers_heapScheduler_sample :
    heapScheduler.answers heapScheduler.empty
        (sampleHeapCalls ++ [.remove (sampleEvent 9 30), .removeNext, .removeNext]) =
      reference.answers []
        (sampleHeapCalls ++ [.remove (sampleEvent 9 30), .removeNext, .removeNext]) ∧
      (reference.answers []
        (sampleHeapCalls ++ [.remove (sampleEvent 9 30), .removeNext, .removeNext])).isSome :=
  answers_heapScheduler (by decide) (by decide)

open HeapScheduler in
/-- In every run of the heap, a `Remove` leaves the heap in order exactly if the event that takes
the place of the removed one does not come before the parent of that place. -/
theorem heapOrdered_after_remove_iff {calls : List (PriorityQueue.Call Event)}
    (hlegal : Legal calls)
    (hallowed : heapScheduler.Allowed Removable heapScheduler.empty calls) {l : List Event}
    (hl : reference.after [] calls = some l) {ev : Event} (hev : ev ∈ l) :
    ∃ heap heap', heapScheduler.after heapScheduler.empty calls = some heap ∧
      HeapScheduler.remove heap ev = some heap' ∧ heap'.tail.Perm (l.erase ev) ∧
      (HeapOrdered order heap' ↔ Removable heap ev) := by
  obtain ⟨last, l', heap, hafter, hreference, hrepresents⟩ :=
    implements_heapScheduler.after_eq implements_heapScheduler.empty hlegal hallowed
  cases hl.symm.trans hreference
  obtain ⟨heap', hremove⟩ := heapOrdered_remove_iff hrepresents hev
  exact ⟨heap, heap', hafter, hremove⟩

open HeapScheduler in
theorem heapOrdered_after_remove_iff_sample :
    ∃ heap heap', heapScheduler.after heapScheduler.empty sampleHeapCalls = some heap ∧
      HeapScheduler.remove heap (sampleEvent 7 101) = some heap' ∧ ¬HeapOrdered order heap' := by
  obtain ⟨l, hl⟩ : ∃ l, reference.after [] sampleHeapCalls = some l := ⟨_, rfl⟩
  have hev : sampleEvent 7 101 ∈ l := by
    cases hl
    decide
  obtain ⟨heap, heap', hafter, hremove, -, hiff⟩ :=
    heapOrdered_after_remove_iff (by decide) (by decide) hl hev
  refine ⟨heap, heap', hafter, hremove, fun hordered => ?_⟩
  have hremovable := hiff.mp hordered
  cases hafter
  revert hremovable
  decide

end Scheduler
end UeSim
