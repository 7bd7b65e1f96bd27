import Mathlib.Data.List.Basic
import Mathlib.Order.Lattice
import Mathlib.Algebra.Order.Ring.Nat

/-!
# A server that serves in order of arrival

A server is busy until some time, and keeps the finish times of the customers that it has not
seen leave.  It looks at them only when the next customer arrives.  With every customer goes a
slot, and the history of all slots says what the server knows.
-/

/-- A server with one customer at a time. -/
structure FifoServer where
  nextAvailable : ℕ := 0
  finishTimes : List ℕ := []

/-- When a customer arrived, when its service starts and ends, and how many customers were in
front of it. -/
structure ServiceSlot where
  time : ℕ
  start : ℕ
  finish : ℕ
  depth : ℕ
  deriving DecidableEq

namespace FifoServer

variable {s : FifoServer} {now : ℕ} {slots : List ServiceSlot}

/-- Forget the customers that have left. -/
def refresh (s : FifoServer) (now : ℕ) : FifoServer :=
  { s with finishTimes := s.finishTimes.dropWhile (· ≤ now) }

/-- The slot of a customer that arrives now. -/
def slot (s : FifoServer) (now duration : ℕ) : ServiceSlot where
  time := now
  start := max now s.nextAvailable
  finish := max now s.nextAvailable + duration
  depth := (s.refresh now).finishTimes.length

/-- Serve a customer that arrives now. -/
def serve (s : FifoServer) (now duration : ℕ) : FifoServer where
  nextAvailable := max now s.nextAvailable + duration
  finishTimes := (s.refresh now).finishTimes ++ [max now s.nextAvailable + duration]

/-- What holds of a server and its history. -/
structure Records (s : FifoServer) (now : ℕ) (slots : List ServiceSlot) : Prop where
  time_le : ∀ slot ∈ slots, slot.time ≤ now
  start_le : ∀ slot ∈ slots, slot.start ≤ slot.finish
  finish_le : ∀ slot ∈ slots, slot.finish ≤ s.nextAvailable
  /-- A customer is served after those in front of it. -/
  ordered : slots.Pairwise fun a b => a.finish ≤ b.start
  sorted : s.finishTimes.Pairwise (· ≤ ·)
  times_le : ∀ t ∈ s.finishTimes, t ≤ s.nextAvailable
  /-- The finish times that are not over yet are all there. -/
  recorded : s.finishTimes.filter (now < ·) = (slots.map ServiceSlot.finish).filter (now < ·)
  /-- The depth that a customer sees is the number of those before it that are not finished. -/
  depths : ∀ before slot after, slots = before ++ slot :: after →
    slot.depth = before.countP fun earlier => slot.time < earlier.finish

/-- The times that are over are in front. -/
theorem dropWhile_eq_filter {times : List ℕ} (h : times.Pairwise (· ≤ ·)) (now : ℕ) :
    times.dropWhile (· ≤ now) = times.filter (now < ·) := by
  induction times with
  | nil => rfl
  | cons t times ih =>
      rw [List.pairwise_cons] at h
      by_cases hle : t ≤ now
      · rw [List.dropWhile_cons_of_pos (by simpa using hle),
          List.filter_cons_of_neg (by simpa using hle), ih h.2]
      · have hall : ∀ t' ∈ t :: times, decide (now < t') = true := by
          intro t' ht'
          rcases List.mem_cons.mp ht' with rfl | ht'
          · exact decide_eq_true (not_le.mp hle)
          · exact decide_eq_true ((not_le.mp hle).trans_le (h.1 t' ht'))
        rw [List.dropWhile_cons_of_neg (by simpa using hle), List.filter_eq_self.mpr hall]

theorem records_nil (now : ℕ) : ({} : FifoServer).Records now [] where
  time_le _ h := absurd h List.not_mem_nil
  start_le _ h := absurd h List.not_mem_nil
  finish_le _ h := absurd h List.not_mem_nil
  ordered := .nil
  sorted := .nil
  times_le _ h := absurd h List.not_mem_nil
  recorded := rfl
  depths before slot after h := by simp at h

/-- Nothing is forgotten as time goes on. -/
theorem Records.later (h : s.Records now slots) {later : ℕ} (hle : now ≤ later) :
    s.Records later slots := by
  have hfilter : ∀ times : List ℕ,
      times.filter (later < ·) = (times.filter (now < ·)).filter (later < ·) := by
    intro times
    rw [List.filter_filter]
    refine List.filter_congr fun t _ => ?_
    rw [← Bool.decide_and, decide_eq_decide]
    omega
  exact
    { h with
      time_le := fun slot hslot => (h.time_le slot hslot).trans hle
      recorded := by rw [hfilter, h.recorded, ← hfilter] }

theorem Records.refresh (h : s.Records now slots) : (s.refresh now).Records now slots := by
  have hsublist : (s.refresh now).finishTimes.Sublist s.finishTimes := List.dropWhile_sublist _
  exact
    { h with
      sorted := h.sorted.sublist hsublist
      times_le := fun t ht => h.times_le t (hsublist.subset ht)
      recorded := by
        rw [FifoServer.refresh, dropWhile_eq_filter h.sorted, List.filter_filter,
          ← h.recorded]
        simp }

/-- The number of customers that a server has in mind is the number of those that are not
finished. -/
theorem Records.length_finishTimes (h : s.Records now slots) :
    (s.refresh now).finishTimes.length = slots.countP fun slot => now < slot.finish := by
  rw [FifoServer.refresh, dropWhile_eq_filter h.sorted, h.recorded, ← List.countP_eq_length_filter,
    List.countP_map]
  rfl

/-- The finish times of the history are in order. -/
theorem Records.finish_sorted (h : s.Records now slots) :
    slots.Pairwise fun a b => a.finish ≤ b.finish :=
  h.ordered.imp_of_mem fun _ hb hle => hle.trans (h.start_le _ hb)

/-- The next customer is served after all others. -/
theorem Records.serve (h : s.Records now slots) (duration : ℕ) :
    (s.serve now duration).Records now (slots ++ [s.slot now duration]) := by
  have hrefreshed := h.refresh
  have hlater : s.nextAvailable ≤ (s.serve now duration).nextAvailable := by
    change s.nextAvailable ≤ max now s.nextAvailable + duration
    omega
  constructor
  case time_le =>
    refine List.forall_mem_append.mpr ⟨h.time_le, ?_⟩
    exact List.forall_mem_singleton.mpr le_rfl
  case start_le =>
    refine List.forall_mem_append.mpr ⟨h.start_le, ?_⟩
    exact List.forall_mem_singleton.mpr (Nat.le_add_right _ _)
  case finish_le =>
    refine List.forall_mem_append.mpr ⟨fun slot hslot => (h.finish_le slot hslot).trans hlater, ?_⟩
    exact List.forall_mem_singleton.mpr le_rfl
  case ordered =>
    refine List.pairwise_append.mpr ⟨h.ordered, List.pairwise_singleton _ _, ?_⟩
    intro a ha b hb
    rw [List.mem_singleton.mp hb]
    exact (h.finish_le a ha).trans (le_max_right _ _)
  case sorted =>
    refine List.pairwise_append.mpr ⟨hrefreshed.sorted, List.pairwise_singleton _ _, ?_⟩
    intro t ht t' ht'
    rw [List.mem_singleton.mp ht']
    exact (hrefreshed.times_le t ht).trans hlater
  case times_le =>
    refine List.forall_mem_append.mpr ⟨fun t ht => (hrefreshed.times_le t ht).trans hlater, ?_⟩
    exact List.forall_mem_singleton.mpr le_rfl
  case recorded =>
    rw [FifoServer.serve, List.filter_append, hrefreshed.recorded, List.map_append,
      List.filter_append]
    rfl
  case depths =>
    intro before slot after hsplit
    rcases List.eq_nil_or_concat after with rfl | ⟨after, last, rfl⟩
    · obtain ⟨rfl, hlast⟩ := List.append_inj' hsplit rfl
      cases hlast
      exact h.length_finishTimes
    · have hsplit' : slots ++ [s.slot now duration] = (before ++ slot :: after) ++ [last] := by
        rw [hsplit]
        simp
      exact h.depths before slot after (List.append_inj' hsplit' rfl).1

end FifoServer
