import Mathlib.Data.List.Basic
import Mathlib.Data.Nat.Basic

/-!
# Round robin

The places of a ring are looked at one after another, from a start on, and the first one
that is ready is served.  The next look starts behind it.  The number of places that are
looked at before a place that stays ready falls with every service of another one, which
bounds how often it is passed over.
-/

namespace RoundRobin

variable {n start place first i passed : ℕ}

/-- The places of a ring of `n`, in the order in which they are looked at. -/
def order (n start : ℕ) : List ℕ := (List.range n).map fun i => (start + i) % n

/-- How many places are looked at before a place. -/
def ahead (n start place : ℕ) : ℕ := (place + (n - start % n)) % n

theorem ahead_lt (hn : 0 < n) : ahead n start place < n := Nat.mod_lt _ hn

theorem ahead_mod (n start place : ℕ) : ahead n (start % n) place = ahead n start place := by
  unfold ahead
  rw [Nat.mod_mod]

/-- Counting on from the start leads back to the count. -/
theorem ahead_add_mod (hi : i < n) : ahead n start ((start + i) % n) = i := by
  have hmod : start % n < n := Nat.mod_lt start (Nat.zero_lt_of_lt hi)
  have hdiv := Nat.div_add_mod start n
  have hsum : start + i + (n - start % n) = i + n * (start / n + 1) := by
    rw [Nat.mul_succ]
    omega
  unfold ahead
  rw [Nat.mod_add_mod, hsum, Nat.add_mul_mod_self_left, Nat.mod_eq_of_lt hi]

/-- The place at a count from the start. -/
theorem add_ahead_mod (hplace : place < n) : (start + ahead n start place) % n = place := by
  have hmod : start % n < n := Nat.mod_lt start (Nat.zero_lt_of_lt hplace)
  have hdiv := Nat.div_add_mod start n
  have hsum : start + (place + (n - start % n)) = place + n * (start / n + 1) := by
    rw [Nat.mul_succ]
    omega
  unfold ahead
  rw [Nat.add_mod_mod, hsum, Nat.add_mul_mod_self_left, Nat.mod_eq_of_lt hplace]

/-- The order comes to every place. -/
theorem mem_order (start : ℕ) (hplace : place < n) : place ∈ order n start :=
  List.mem_map.mpr ⟨ahead n start place,
    List.mem_range.mpr (ahead_lt (Nat.zero_lt_of_lt hplace)), add_ahead_mod hplace⟩

/-- What is found first is ready, and no further from the start than any other place that
is. -/
theorem find?_order {ready : ℕ → Bool} (h : (order n start).find? ready = some first) :
    first < n ∧ ready first = true ∧
      ∀ place < n, ready place = true → ahead n start first ≤ ahead n start place := by
  unfold order at h
  rw [List.find?_map] at h
  obtain ⟨i, hi, rfl⟩ := Option.map_eq_some_iff.mp h
  obtain ⟨hready, hmem, hbefore⟩ := List.find?_range_eq_some.mp hi
  have hlt : i < n := List.mem_range.mp hmem
  refine ⟨Nat.mod_lt _ (Nat.zero_lt_of_lt hlt), hready, fun place hplace hother => ?_⟩
  rw [ahead_add_mod hlt]
  by_contra hcloser
  have hnot := hbefore _ (Nat.not_le.mp hcloser)
  dsimp only [Function.comp_apply] at hnot
  rw [add_ahead_mod hplace, hother] at hnot
  cases hnot

/-- A place that is passed over comes closer to the start. -/
theorem ahead_succ (hfirst : first < n) (hplace : place < n) (hne : first ≠ place)
    (hle : ahead n start first ≤ ahead n start place) :
    ahead n (first + 1) place + ahead n start first + 1 = ahead n start place := by
  have hlt : ahead n start first < ahead n start place := by
    refine Nat.lt_of_le_of_ne hle fun hsame => hne ?_
    rw [← add_ahead_mod hfirst, hsame, add_ahead_mod hplace]
  have hbound : ahead n start place < n := ahead_lt (Nat.zero_lt_of_lt hplace)
  obtain ⟨gap, hgap⟩ := Nat.exists_eq_add_of_lt hlt
  have hcount : (first + 1 + gap) % n = place := by
    have hsum : start + ahead n start first + (1 + gap) = start + ahead n start place := by
      omega
    calc (first + 1 + gap) % n = ((start + ahead n start first) % n + (1 + gap)) % n := by
          rw [add_ahead_mod hfirst, Nat.add_assoc]
      _ = place := by rw [Nat.mod_add_mod, hsum, add_ahead_mod hplace]
  have hahead : ahead n (first + 1) place = gap := by
    have hgap' : gap < n := by omega
    rw [← hcount]
    exact ahead_add_mod hgap'
  omega

/-- How often a place that stays ready is passed over, and how far it still is from the
start, are together less than the number of places. -/
theorem passed_succ (hfirst : first < n) (hplace : place < n) (hne : first ≠ place)
    (hle : ahead n start first ≤ ahead n start place)
    (hpassed : passed + ahead n start place < n) :
    passed + 1 + ahead n ((first + 1) % n) place < n := by
  have hcloser := ahead_succ hfirst hplace hne hle
  rw [ahead_mod]
  omega

end RoundRobin
