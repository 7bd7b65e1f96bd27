import Mathlib.Algebra.Order.Group.Nat
import Mathlib.Data.List.Pairwise
import Mathlib.Tactic.Linarith

/-!
# Cutting a range into pieces

A piece is an offset and a length.  Pieces partition the range below a size when
they are not empty, stay in the range, are disjoint and cover it.  The pieces at
the multiples of a step, the last one cut off at a total, do so exactly when the
last one starts below the total and the size is where it ends.
-/

namespace Pieces

/-- The pieces, each an offset and a length, partition the positions below `size`. -/
structure Partitions (pieces : List (ℕ × ℕ)) (size : ℕ) : Prop where
  nonempty : ∀ piece ∈ pieces, 0 < piece.2
  within : ∀ piece ∈ pieces, piece.1 + piece.2 ≤ size
  disjoint : pieces.Pairwise fun piece other =>
    piece.1 + piece.2 ≤ other.1 ∨ other.1 + other.2 ≤ piece.1
  cover : ∀ pos < size, ∃ piece ∈ pieces, piece.1 ≤ pos ∧ pos < piece.1 + piece.2

/-- The pieces at the first `count` multiples of `step`, cut off at `total`. -/
def cut (step total count : ℕ) : List (ℕ × ℕ) :=
  (List.range count).map fun i => (i * step, min step (total - i * step))

/-- The position lies in one of the pieces. -/
def Covered (pieces : List (ℕ × ℕ)) (pos : ℕ) : Prop :=
  ∃ piece ∈ pieces, piece.1 ≤ pos ∧ pos < piece.1 + piece.2

instance (pieces : List (ℕ × ℕ)) (pos : ℕ) : Decidable (Covered pieces pos) :=
  inferInstanceAs (Decidable (∃ piece ∈ pieces, _))

/-- More pieces cover no less. -/
theorem Covered.append {pieces : List (ℕ × ℕ)} {pos : ℕ} (h : Covered pieces pos)
    (others : List (ℕ × ℕ)) : Covered (pieces ++ others) pos := by
  obtain ⟨piece, hmem, hpos⟩ := h
  exact ⟨piece, List.mem_append_left others hmem, hpos⟩

variable {step total count size : ℕ}

/-- One piece partitions the range that it is. -/
theorem partitions_single : Partitions [(0, size)] size ↔ 0 < size := by
  constructor
  · intro h
    exact h.nonempty _ (List.mem_singleton_self _)
  · intro hsize
    refine ⟨?_, ?_, List.pairwise_singleton _ _, ?_⟩
    · simpa using hsize
    · simp
    · intro pos hpos
      exact ⟨_, List.mem_singleton_self _, Nat.zero_le _, by simpa using hpos⟩

/-- Two pieces that share their start overlap. -/
theorem not_partitions_of_overlap {pieces : ℕ → ℕ × ℕ} (i j pos : ℕ)
    (hij : i < j) (hj : j < count) (hi_mem : (pieces i).1 ≤ pos ∧ pos < (pieces i).1 + (pieces i).2)
    (hj_mem : (pieces j).1 ≤ pos ∧ pos < (pieces j).1 + (pieces j).2) :
    ¬ Partitions ((List.range count).map pieces) size := by
  intro h
  have hdisjoint := List.pairwise_iff_getElem.mp h.disjoint i j
    (by simp; omega) (by simpa using hj) hij
  simp only [List.getElem_map, List.getElem_range] at hdisjoint
  omega

theorem mul_le_pred {i : ℕ} (hi : i < count) : i * step ≤ (count - 1) * step :=
  Nat.mul_le_mul_right _ (by omega)

/-- The last piece starts below the total and the size is where the pieces end. -/
theorem partitions_cut (hstep : 0 < step) (hcount : 0 < count) :
    Partitions (cut step total count) size ↔
      (count - 1) * step < total ∧ size = min (count * step) total := by
  have hlast : (count - 1) * step + step = count * step := by
    rw [← Nat.succ_mul]
    congr 1
    omega
  constructor
  · intro h
    have hmem : ((count - 1) * step, min step (total - (count - 1) * step)) ∈
        cut step total count :=
      List.mem_map.mpr ⟨count - 1, List.mem_range.mpr (by omega), rfl⟩
    have hpos : 0 < min step (total - (count - 1) * step) := h.nonempty _ hmem
    have hend : (count - 1) * step + min step (total - (count - 1) * step) ≤ size :=
      h.within _ hmem
    refine ⟨by omega, le_antisymm ?_ (by omega)⟩
    by_contra hlong
    obtain ⟨piece, hpiece, hlow, hhigh⟩ := h.cover (min (count * step) total) (by omega)
    obtain ⟨i, hi, rfl⟩ := List.mem_map.mp hpiece
    have hnext : i * step + step ≤ count * step := by
      rw [← Nat.succ_mul]
      exact Nat.mul_le_mul_right _ (List.mem_range.mp hi)
    dsimp only at hlow hhigh
    omega
  · rintro ⟨hstart, rfl⟩
    have hpiece : ∀ piece ∈ cut step total count, ∃ i < count,
        piece = (i * step, min step (total - i * step)) ∧ i * step < total ∧
          i * step + step ≤ count * step := by
      intro piece hmem
      obtain ⟨i, hi, rfl⟩ := List.mem_map.mp hmem
      have hi' : i < count := List.mem_range.mp hi
      refine ⟨i, hi', rfl, (mul_le_pred hi').trans_lt hstart, ?_⟩
      rw [← Nat.succ_mul]
      exact Nat.mul_le_mul_right _ hi'
    refine ⟨fun piece hmem => ?_, fun piece hmem => ?_, ?_, fun pos hpos => ?_⟩
    · obtain ⟨i, -, rfl, hlow, -⟩ := hpiece piece hmem
      dsimp only
      omega
    · obtain ⟨i, -, rfl, hlow, hhigh⟩ := hpiece piece hmem
      dsimp only
      omega
    · refine List.pairwise_map.mpr (List.pairwise_lt_range.imp fun {i j} hij => .inl ?_)
      have hnext : i * step + step ≤ j * step := by
        rw [← Nat.succ_mul]
        exact Nat.mul_le_mul_right _ hij
      dsimp only
      omega
    · have hbelow : pos / step < count := (Nat.div_lt_iff_lt_mul hstep).mpr (by omega)
      refine ⟨_, List.mem_map.mpr ⟨pos / step, List.mem_range.mpr hbelow, rfl⟩, ?_⟩
      have hdiv := Nat.div_add_mod pos step
      have hmod := Nat.mod_lt pos hstep
      have hcomm : step * (pos / step) = pos / step * step := Nat.mul_comm _ _
      dsimp only
      omega

end Pieces
