import Mathlib.Logic.Function.Basic
import Mathlib.Data.List.Basic
import UeSim.Support.NestedLoops

/-!
# The least loaded other

Each of `n` sources in turn gives one unit to the least loaded of the others, the first one if
there are several.  A source and the next one serve each other, so that after a round the loads
of an even number are level again.  With an odd number, the last source has nobody left and
loads the first; the round after it makes this good.
-/

namespace UeSim

variable {n h a x y : ℕ} {load load' load'' : ℕ → ℕ}

/-- The first of the least loaded others. -/
def LeastOther (n : ℕ) (load : ℕ → ℕ) (x y : ℕ) : Prop :=
  y < n ∧ y ≠ x ∧ ∀ z < n, z ≠ x → z ≠ y → load y < load z ∨ (load y = load z ∧ y < z)

/-- One source after the other gives a unit to the least loaded other. -/
inductive Serves (n : ℕ) : (ℕ → ℕ) → List ℕ → (ℕ → ℕ) → Prop
  | nil (load : ℕ → ℕ) : Serves n load [] load
  | cons {load load' : ℕ → ℕ} {x y : ℕ} {sources : List ℕ} (hleast : LeastOther n load x y)
      (hrest : Serves n (Function.update load y (load y + 1)) sources load') :
      Serves n load (x :: sources) load'

/-- The loads are level up to a step between two neighbours. -/
def Stair (n h a : ℕ) (load : ℕ → ℕ) : Prop :=
  ∀ z < n, load z = if z < a then h + 1 else h

theorem Serves.append {sources sources' : List ℕ} (hfirst : Serves n load sources load')
    (hsecond : Serves n load' sources' load'') : Serves n load (sources ++ sources') load'' := by
  induction hfirst with
  | nil _ => exact hsecond
  | cons hleast _ ih => exact .cons hleast (ih hsecond)

/-- One unit for one other. -/
theorem Serves.single (hleast : LeastOther n load x y) :
    Serves n load [x] (Function.update load y (load y + 1)) :=
  .cons hleast (.nil _)

/-- The two sources at the step serve each other. -/
theorem Stair.pair (hload : Stair n h a load) (ha : a + 1 < n) :
    ∃ load', Serves n load [a, a + 1] load' ∧ Stair n h (a + 2) load' := by
  have hnext : load (a + 1) = h := by
    rw [hload (a + 1) ha, if_neg (by omega)]
  have hstep : load a = h := by
    rw [hload a (by omega), if_neg (by omega)]
  have hfirst : LeastOther n load a (a + 1) := by
    refine ⟨ha, by omega, fun z hz hza hzn => ?_⟩
    rw [hnext, hload z hz]
    split_ifs <;> omega
  have hsecond : LeastOther n (Function.update load (a + 1) (load (a + 1) + 1)) (a + 1) a := by
    refine ⟨by omega, by omega, fun z hz hza hzn => ?_⟩
    rw [Function.update_of_ne (by omega), Function.update_of_ne (by omega), hstep, hload z hz]
    split_ifs <;> omega
  refine ⟨_, .cons hfirst (.single hsecond), ?_⟩
  intro z hz
  by_cases hza : z = a
  · rw [hza, Function.update_self, Function.update_of_ne (by omega), hstep, if_pos (by omega)]
  · rw [Function.update_of_ne hza]
    by_cases hzn : z = a + 1
    · rw [hzn, Function.update_self, hnext, if_pos (by omega)]
    · rw [Function.update_of_ne hzn, hload z hz]
      split_ifs <;> omega

/-- Pairs of sources move the step on. -/
theorem Stair.pairs (hload : Stair n h a load) {k : ℕ} (hk : a + 2 * k ≤ n) :
    ∃ load', Serves n load (List.range' a (2 * k)) load' ∧ Stair n h (a + 2 * k) load' := by
  induction k generalizing a load with
  | zero => exact ⟨load, .nil _, hload⟩
  | succ k ih =>
      obtain ⟨load₁, hpair, hload₁⟩ := hload.pair (by omega)
      obtain ⟨load₂, hpairs, hload₂⟩ := ih hload₁ (by omega)
      refine ⟨load₂, ?_, ?_⟩
      · have hrange : List.range' a (2 * (k + 1)) = [a, a + 1] ++ List.range' (a + 2) (2 * k) := by
          rw [Nat.mul_succ]
          rfl
        rw [hrange]
        exact hpair.append hpairs
      · rwa [show a + 2 * (k + 1) = a + 2 + 2 * k by omega]

/-- A step at the end is none. -/
theorem Stair.level (hload : Stair n h n load) : Stair n (h + 1) 0 load := by
  intro z hz
  rw [hload z hz, if_pos hz, if_neg (by omega)]

/-- A round of an even number of sources. -/
theorem Stair.round_even (hload : Stair n h 0 load) (heven : n % 2 = 0) :
    ∃ load', Serves n load (List.range n) load' ∧ Stair n (h + 1) 0 load' := by
  obtain ⟨load', hserves, hload'⟩ := hload.pairs (k := n / 2) (by omega)
  rw [show 2 * (n / 2) = n by omega, ← List.range_eq_range'] at hserves
  rw [show 0 + 2 * (n / 2) = n by omega] at hload'
  exact ⟨load', hserves, hload'.level⟩

/-- The loads after the first round of an odd number of sources. -/
structure OddRound (n h : ℕ) (load : ℕ → ℕ) : Prop where
  first : load 0 = h + 2
  last : load (n - 1) = h
  between : ∀ z < n, z ≠ 0 → z ≠ n - 1 → load z = h + 1

/-- A round of an odd number of sources. -/
theorem Stair.round_odd (hload : Stair n h 0 load) (hodd : n % 2 = 1) (hn : 2 ≤ n) :
    ∃ load', Serves n load (List.range n) load' ∧ OddRound n h load' := by
  obtain ⟨load₁, hserves, hload₁⟩ := hload.pairs (k := (n - 1) / 2) (by omega)
  rw [show 2 * ((n - 1) / 2) = n - 1 by omega, ← List.range_eq_range'] at hserves
  rw [show 0 + 2 * ((n - 1) / 2) = n - 1 by omega] at hload₁
  have hfirst : load₁ 0 = h + 1 := by
    rw [hload₁ 0 (by omega), if_pos (by omega)]
  have hleast : LeastOther n load₁ (n - 1) 0 := by
    refine ⟨by omega, by omega, fun z hz hlast hz0 => ?_⟩
    rw [hfirst, hload₁ z hz, if_pos (by omega)]
    exact Or.inr ⟨rfl, by omega⟩
  refine ⟨Function.update load₁ 0 (load₁ 0 + 1), ?_, ?_, ?_, ?_⟩
  · rw [show List.range n = List.range (n - 1) ++ [n - 1] by
      rw [← List.range_succ]
      congr 1
      omega]
    exact hserves.append (.single hleast)
  · rw [Function.update_self, hfirst]
  · rw [Function.update_of_ne (by omega), hload₁ _ (by omega), if_neg (by omega)]
  · intro z hz hz0 hlast
    rw [Function.update_of_ne hz0, hload₁ z hz, if_pos (by omega)]

/-- The round after it. -/
theorem OddRound.round (hload : OddRound n h load) (hodd : n % 2 = 1) (hn : 2 ≤ n) :
    ∃ load', Serves n load (List.range n) load' ∧ Stair n (h + 2) 0 load' := by
  have hleast : LeastOther n load 0 (n - 1) := by
    refine ⟨by omega, by omega, fun z hz hz0 hlast => ?_⟩
    rw [hload.last, hload.between z hz hz0 hlast]
    omega
  have hstair : Stair n (h + 1) 1 (Function.update load (n - 1) (load (n - 1) + 1)) := by
    intro z hz
    by_cases hlast : z = n - 1
    · rw [hlast, Function.update_self, hload.last, if_neg (by omega)]
    · rw [Function.update_of_ne hlast]
      by_cases hz0 : z = 0
      · rw [hz0, hload.first, if_pos (by omega)]
      · rw [hload.between z hz hz0 hlast, if_neg (by omega)]
  obtain ⟨load', hserves, hload'⟩ := hstair.pairs (k := (n - 1) / 2) (by omega)
  rw [show 2 * ((n - 1) / 2) = n - 1 by omega] at hserves
  rw [show 1 + 2 * ((n - 1) / 2) = n by omega] at hload'
  refine ⟨load', ?_, hload'.level⟩
  rw [show List.range n = 0 :: List.range' 1 (n - 1) by
    rw [List.range_eq_range', show n = n - 1 + 1 by omega]
    rfl]
  exact .cons hleast hserves

/-! ## Several rounds -/

/-- The sources of some rounds. -/
def roundSources (n k : ℕ) : List ℕ := (List.range k).flatMap fun _ => List.range n

theorem roundSources_succ (n k : ℕ) :
    roundSources n (k + 1) = roundSources n k ++ List.range n := by
  simp [roundSources, List.range_succ]

/-- The sources are the remainders of the numbers of units. -/
theorem roundSources_eq (n k : ℕ) : roundSources n k = (List.range (k * n)).map (· % n) := by
  rw [roundSources, ← flatMap_range_map k n fun _ b => b]
  simp

/-- The loads are level after any number of rounds of an even number of sources. -/
theorem Stair.rounds_even (hload : Stair n 0 0 load) (heven : n % 2 = 0) (k : ℕ) :
    ∃ load', Serves n load (roundSources n k) load' ∧ Stair n k 0 load' := by
  induction k with
  | zero => exact ⟨load, .nil _, hload⟩
  | succ k ih =>
      obtain ⟨load₁, hserves₁, hload₁⟩ := ih
      obtain ⟨load₂, hserves₂, hload₂⟩ := hload₁.round_even heven
      refine ⟨load₂, ?_, hload₂⟩
      rw [roundSources_succ]
      exact hserves₁.append hserves₂

/-- The loads are level after an even number of rounds of an odd number of sources. -/
theorem Stair.rounds_odd (hload : Stair n 0 0 load) (hodd : n % 2 = 1) (hn : 2 ≤ n) (q : ℕ) :
    ∃ load', Serves n load (roundSources n (2 * q)) load' ∧ Stair n (2 * q) 0 load' := by
  induction q with
  | zero => exact ⟨load, .nil _, hload⟩
  | succ q ih =>
      obtain ⟨load₁, hserves₁, hload₁⟩ := ih
      obtain ⟨load₂, hserves₂, hload₂⟩ := hload₁.round_odd hodd hn
      obtain ⟨load₃, hserves₃, hload₃⟩ := hload₂.round hodd hn
      refine ⟨load₃, ?_, hload₃⟩
      rw [show 2 * (q + 1) = 2 * q + 1 + 1 by omega, roundSources_succ, roundSources_succ]
      exact (hserves₁.append hserves₂).append hserves₃

/-- The loads after some rounds: level if the number of sources or the number of rounds is even,
and otherwise with the first source above the second. -/
theorem exists_serves_rounds (hload : Stair n 0 0 load) (hn : 2 ≤ n) (k : ℕ) :
    ∃ load', Serves n load (roundSources n k) load' ∧
      ((n % 2 = 0 ∨ k % 2 = 0) → ∀ z < n, load' z = k) ∧
      (¬ (n % 2 = 0 ∨ k % 2 = 0) → load' 0 ≠ load' 1) := by
  have hlevel : ∀ {h load'}, Stair n h 0 load' → ∀ z < n, load' z = h := by
    intro h load' hstair z hz
    rw [hstair z hz, if_neg (by omega)]
  by_cases heven : n % 2 = 0
  · obtain ⟨load', hserves, hload'⟩ := hload.rounds_even heven k
    exact ⟨load', hserves, fun _ => hlevel hload', fun hnot => absurd (Or.inl heven) hnot⟩
  · have hodd : n % 2 = 1 := by omega
    obtain ⟨load₁, hserves₁, hload₁⟩ := hload.rounds_odd hodd hn (k / 2)
    by_cases hk : k % 2 = 0
    · rw [show 2 * (k / 2) = k by omega] at hserves₁ hload₁
      exact ⟨load₁, hserves₁, fun _ => hlevel hload₁, fun hnot => absurd (Or.inr hk) hnot⟩
    · obtain ⟨load₂, hserves₂, hload₂⟩ := hload₁.round_odd hodd hn
      refine ⟨load₂, ?_, fun hnot => absurd hnot (by omega), fun _ => ?_⟩
      · rw [show k = 2 * (k / 2) + 1 by omega, roundSources_succ]
        exact hserves₁.append hserves₂
      · rw [hload₂.first, hload₂.between 1 (by omega) (by omega) (by omega)]
        omega

end UeSim
