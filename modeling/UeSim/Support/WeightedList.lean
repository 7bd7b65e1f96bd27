import Mathlib.Algebra.BigOperators.Group.List.Basic
import Mathlib.Algebra.Order.Ring.Nat
import Mathlib.Algebra.BigOperators.Ring.List
import Mathlib.Algebra.Order.BigOperators.Group.List
import Mathlib.Data.List.Perm.Basic

/-!
# Lists with weights

The things that are on their way between the parties of a system form a list, from
which any element may leave.  A weight on the elements has a sum, and the lemmas below
say how it moves when an element joins, leaves or is replaced.
-/

namespace WeightedList

variable {α β : Type*} {w : α → ℕ} {l : List α} {i : ℕ} {x y : α}

/-- The sum of a weight over a list. -/
def weight (w : α → ℕ) (l : List α) : ℕ :=
  (l.map w).sum

@[simp] theorem weight_nil : weight w [] = 0 := rfl

@[simp] theorem weight_cons (x : α) (l : List α) : weight w (x :: l) = w x + weight w l := by
  simp [weight]

@[simp] theorem weight_append (l l' : List α) :
    weight w (l ++ l') = weight w l + weight w l' := by
  simp [weight]

@[simp] theorem weight_singleton (x : α) : weight w [x] = w x := by
  simp [weight]

/-- The weight does not depend on the order of the elements. -/
theorem weight_perm {l' : List α} (h : l.Perm l') : weight w l = weight w l' :=
  (h.map w).sum_eq

theorem cons_eraseIdx_perm (h : l[i]? = some x) : (x :: l.eraseIdx i).Perm l := by
  obtain ⟨hi, hx⟩ := List.getElem?_eq_some_iff.mp h
  subst hx
  exact List.getElem_cons_eraseIdx_perm hi

/-- An element leaves with its weight. -/
theorem weight_eraseIdx (h : l[i]? = some x) :
    weight w l = w x + weight w (l.eraseIdx i) := by
  rw [← weight_perm (cons_eraseIdx_perm h), weight_cons]

theorem weight_filterMap (f : β → Option α) (l : List β) :
    weight w (l.filterMap f) = weight (fun x => (f x).elim 0 w) l := by
  induction l with
  | nil => rfl
  | cons x l ih =>
      cases hx : f x with
      | none => simp [List.filterMap_cons_none hx, hx, ih]
      | some y => simp [List.filterMap_cons_some hx, hx, ih]

theorem weight_toList (o : Option α) : weight w o.toList = o.elim 0 w := by
  cases o <;> simp

theorem weight_flatMap (f : β → List α) (l : List β) :
    weight w (l.flatMap f) = weight (fun x => weight w (f x)) l := by
  induction l with
  | nil => rfl
  | cons x l ih => rw [List.flatMap_cons, weight_append, weight_cons, ih]

/-- Lists of the same weights have the same elements. -/
theorem perm_of_weight {l' : List α} (h : ∀ w : α → ℕ, weight w l = weight w l') :
    l.Perm l' := by
  classical
  refine List.perm_iff_count.mpr fun a => ?_
  have hcount : ∀ l : List α, weight (fun x => if x = a then 1 else 0) l = l.count a := by
    intro l
    induction l with
    | nil => rfl
    | cons x l ih =>
        rw [weight_cons, ih, List.count_cons, Nat.add_comm]
        simp only [beq_iff_eq]
  rw [← hcount, ← hcount, h]

theorem weight_mono {w' : α → ℕ} (h : ∀ x ∈ l, w x ≤ w' x) : weight w l ≤ weight w' l := by
  induction l with
  | nil => exact le_refl 0
  | cons x l ih =>
      rw [weight_cons, weight_cons]
      have hx := h x (List.mem_cons_self ..)
      have htail := ih fun y hy => h y (List.mem_cons_of_mem x hy)
      omega

theorem weight_eq_zero (h : ∀ x ∈ l, w x = 0) : weight w l = 0 := by
  refine List.sum_eq_zero ?_
  intro n hn
  obtain ⟨x, hx, rfl⟩ := List.mem_map.mp hn
  exact h x hx

theorem weight_filter (p : α → Bool) (l : List α) :
    weight w (l.filter p) = weight (fun x => if p x then w x else 0) l := by
  induction l with
  | nil => rfl
  | cons x l ih =>
      cases hx : p x with
      | true => simp [hx, ih]
      | false => simp [hx, ih]

theorem weight_filter_le (p : α → Bool) (l : List α) : weight w (l.filter p) ≤ weight w l := by
  rw [weight_filter]
  refine weight_mono fun x _ => ?_
  split_ifs
  · exact le_refl _
  · exact Nat.zero_le _

theorem weight_mul (c : ℕ) (l : List α) : weight (fun x => c * w x) l = c * weight w l :=
  List.sum_map_mul_left l w c

/-- The first element with a property leaves with its weight. -/
theorem weight_eraseP {p : α → Bool} (h : l.find? p = some x) :
    weight w l = w x + weight w (l.eraseP p) := by
  obtain ⟨hx, before, after, rfl, hbefore⟩ := List.find?_eq_some_iff_append.mp h
  have hnone : ∀ y ∈ before, ¬p y = true := by
    intro y hy
    simpa using hbefore y hy
  rw [List.eraseP_append_right _ hnone, List.eraseP_cons_of_pos hx, weight_append, weight_cons,
    weight_append]
  omega

/-- A weight is at most the sum of the weights of its classes. -/
theorem weight_le_sum_classes {κ : Type*} [DecidableEq κ] {keys : List κ} {g : α → κ}
    (hkeys : ∀ x ∈ l, g x ∈ keys) :
    weight w l ≤
      (keys.map fun k => weight (fun x => if g x = k then w x else 0) l).sum := by
  induction l with
  | nil => exact Nat.zero_le _
  | cons x l ih =>
      have htail := ih fun y hy => hkeys y (List.mem_cons_of_mem x hy)
      have hsplit : (keys.map fun k =>
          weight (fun y => if g y = k then w y else 0) (x :: l)).sum =
          (keys.map fun k => if g x = k then w x else 0).sum +
            (keys.map fun k => weight (fun y => if g y = k then w y else 0) l).sum := by
        simp only [weight_cons]
        exact List.sum_map_add
      have hmem : w x ∈ keys.map fun k => if g x = k then w x else 0 :=
        List.mem_map.mpr ⟨g x, hkeys x (List.mem_cons_self ..), if_pos rfl⟩
      have hhead := List.single_le_sum (fun n _ => Nat.zero_le n) (w x) hmem
      rw [hsplit, weight_cons]
      omega

/-- A weight whose classes are bounded is bounded. -/
theorem weight_le_of_classes {κ : Type*} [DecidableEq κ] {keys : List κ} {g : α → κ}
    {bound : ℕ} (hkeys : ∀ x ∈ l, g x ∈ keys)
    (hbound : ∀ k ∈ keys, weight (fun x => if g x = k then w x else 0) l ≤ bound) :
    weight w l ≤ keys.length * bound := by
  refine (weight_le_sum_classes hkeys).trans ?_
  rw [← List.length_map (f := fun k => weight (fun x => if g x = k then w x else 0) l)]
  refine List.sum_le_card_nsmul _ _ ?_
  intro n hn
  obtain ⟨k, hk, rfl⟩ := List.mem_map.mp hn
  exact hbound k hk

end WeightedList
