import Mathlib.Data.List.Nodup
import Mathlib.Tactic.Linarith

/-!
# Nested loops

Two nested loops with a fixed inner bound go through the numbers below the product of the
bounds: the outer index is the quotient by the inner bound, and the inner index the remainder.

A loop whose body may fail is a `foldlM`; what holds of the part that has been gone through is
carried along as an invariant of that part and of the state.
-/

namespace UeSim

/-! ## Indices -/

/-- Two nested loops are one loop over the product. -/
theorem flatMap_range_map {α : Type*} (n m : ℕ) (f : ℕ → ℕ → α) :
    ((List.range n).flatMap fun a => (List.range m).map (f a)) =
      (List.range (n * m)).map fun k => f (k / m) (k % m) := by
  induction n with
  | zero => simp
  | succ n ih =>
      rw [List.range_succ, List.flatMap_append, ih, Nat.succ_mul, List.range_add, List.map_append]
      congr 1
      rw [List.flatMap_singleton, List.map_map]
      apply List.map_congr_left
      intro b hb
      have hb' : b < m := List.mem_range.mp hb
      have hdiv : (n * m + b) / m = n := by
        rw [Nat.mul_comm, Nat.mul_add_div (by omega), Nat.div_eq_of_lt hb', Nat.add_zero]
      have hmod : (n * m + b) % m = b := by
        rw [Nat.mul_comm, Nat.mul_add_mod, Nat.mod_eq_of_lt hb']
      simp only [Function.comp_apply, hdiv, hmod]

/-- A loop in which only one index does something. -/
theorem flatMap_range_single {α : Type*} {n a : ℕ} (ha : a < n) (f : ℕ → List α) :
    ((List.range n).flatMap fun x => if x = a then f x else []) = f a := by
  induction n with
  | zero => omega
  | succ n ih =>
      rw [List.range_succ, List.flatMap_append, List.flatMap_singleton]
      by_cases hn : n = a
      · subst hn
        have hbefore : ((List.range n).flatMap fun x => if x = n then f x else []) = [] := by
          rw [List.flatMap_eq_nil_iff]
          intro x hx
          rw [if_neg (Nat.ne_of_lt (List.mem_range.mp hx))]
        rw [hbefore, if_pos rfl, List.nil_append]
      · rw [ih (by omega), if_neg hn, List.append_nil]

/-- The number of a pair of indices is below the product. -/
theorem mul_add_lt {n m a b : ℕ} (ha : a < n) (hb : b < m) : a * m + b < n * m := by
  calc a * m + b < a * m + m := by omega
    _ = (a + 1) * m := by rw [Nat.succ_mul]
    _ ≤ n * m := Nat.mul_le_mul_right m ha

/-- The place of an element in a list of images is the number that the image tells. -/
theorem length_of_append_eq_map {α : Type*} {m : ℕ} {g : ℕ → α} (number : α → ℕ)
    (hnumber : ∀ k < m, number (g k) = k) {before after : List α} {x : α}
    (hlist : before ++ x :: after = (List.range m).map g) : before.length = number x := by
  have hlength : before.length < m := by
    have hsize := congrArg List.length hlist
    simp only [List.length_append, List.length_cons, List.length_map, List.length_range] at hsize
    omega
  have hget : ((List.range m).map g)[before.length]? = some x := by simp [← hlist]
  rw [List.getElem?_map, List.getElem?_range hlength, Option.map_some, Option.some.injEq] at hget
  rw [← hget, hnumber _ hlength]

/-! ## Loops that may fail -/

/-- An invariant of the part that has been gone through holds at the end, if no round that
starts from it fails. -/
theorem foldlM_invariant {α β ε : Type} (f : β → α → Except ε β) (Inv : List α → β → Prop)
    {l : List α} {b : β} (hinit : Inv [] b)
    (hstep : ∀ before x after b, l = before ++ x :: after → Inv before b →
      ∃ b', f b x = .ok b' ∧ Inv (before ++ [x]) b') :
    ∃ b', l.foldlM f b = .ok b' ∧ Inv l b' := by
  suffices h : ∀ after before b, l = before ++ after → Inv before b →
      ∃ b', after.foldlM f b = .ok b' ∧ Inv l b' from h l [] b rfl hinit
  intro after
  induction after with
  | nil =>
      intro before b hl hinv
      rw [List.append_nil] at hl
      exact ⟨b, rfl, hl ▸ hinv⟩
  | cons x after ih =>
      intro before b hl hinv
      obtain ⟨b', hf, hinv'⟩ := hstep before x after b hl hinv
      obtain ⟨b'', hfold, hend⟩ := ih (before ++ [x]) b' (by simp [hl]) hinv'
      exact ⟨b'', by rw [List.foldlM_cons, hf]; exact hfold, hend⟩

/-- An invariant of the part that has been gone through holds at the end of a loop that has not
failed. -/
theorem foldlM_invariant_of_ok {α β ε : Type} (f : β → α → Except ε β)
    (Inv : List α → β → Prop) {l : List α} {b b' : β} (hfold : l.foldlM f b = .ok b')
    (hinit : Inv [] b)
    (hstep : ∀ before x b b', f b x = .ok b' → Inv before b → Inv (before ++ [x]) b') :
    Inv l b' := by
  suffices h : ∀ after before b, after.foldlM f b = .ok b' → Inv before b →
      Inv (before ++ after) b' from h l [] b hfold hinit
  intro after
  induction after with
  | nil =>
      intro before b hfold hinv
      cases hfold
      simpa using hinv
  | cons x after ih =>
      intro before b hfold hinv
      rw [List.foldlM_cons] at hfold
      cases hf : f b x with
      | error e =>
          rw [hf] at hfold
          cases hfold
      | ok next =>
          rw [hf] at hfold
          have hend := ih (before ++ [x]) next hfold (hstep before x b next hf hinv)
          simpa using hend

/-- A list is filled if no element fails. -/
theorem mapM_ok {α β ε : Type} {f : α → Except ε β} {P : α → β → Prop} {l : List α}
    (hf : ∀ x ∈ l, ∃ b, f x = .ok b ∧ P x b) :
    ∃ bs, l.mapM f = .ok bs ∧ List.Forall₂ P l bs := by
  induction l with
  | nil => exact ⟨[], rfl, .nil⟩
  | cons x l ih =>
      obtain ⟨b, hb, hP⟩ := hf x List.mem_cons_self
      obtain ⟨bs, hbs, hall⟩ := ih fun y hy => hf y (List.mem_cons_of_mem _ hy)
      refine ⟨b :: bs, ?_, .cons hP hall⟩
      rw [List.mapM_cons, hb, hbs]
      rfl

end UeSim
