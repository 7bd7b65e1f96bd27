import Mathlib.Data.List.Basic
import Mathlib.Order.Lattice
import Mathlib.Order.Nat

/-!
# Binary heaps

A binary heap is an array whose first element is not used, so that the children of the element at
`i` are at `2 * i` and `2 * i + 1`.  An element that is too small for its place is moved up, and one
that is too large is moved down; each of the two repairs a heap that is in order but for one
element, if the neighbours of that element are in order among themselves.
-/

namespace BinaryHeap

variable {α κ : Type*} [Inhabited α] [LinearOrder κ] {key : α → κ}

/-- The element at a position. -/
def entry (h : List α) (i : ℕ) : α := h.getD i default

/-- Exchange two elements. -/
def exch (h : List α) (a b : ℕ) : List α := (h.set a (entry h b)).set b (entry h a)

/-- The smaller of two elements. -/
def smallest (key : α → κ) (h : List α) (a b : ℕ) : ℕ :=
  if key (entry h a) < key (entry h b) then a else b

/-- Move an element up as long as it is smaller than its parent. -/
def bottomUp (key : α → κ) : ℕ → List α → ℕ → List α
  | 0, h, _ => h
  | fuel + 1, h, index =>
      if index ≠ 1 ∧ key (entry h index) < key (entry h (index / 2)) then
        bottomUp key fuel (exch h index (index / 2)) (index / 2)
      else h

/-- Move an element down as long as a child is not greater. -/
def topDown (key : α → κ) : ℕ → List α → ℕ → List α
  | 0, h, _ => h
  | fuel + 1, h, index =>
      if index * 2 + 1 < h.length then
        if key (entry h index) < key (entry h (smallest key h (index * 2) (index * 2 + 1))) then h
        else
          topDown key fuel (exch h index (smallest key h (index * 2) (index * 2 + 1)))
            (smallest key h (index * 2) (index * 2 + 1))
      else if h.length ≤ index then h
      else if h.length ≤ index * 2 then h
      else if key (entry h index) < key (entry h (index * 2)) then h
      else exch h index (index * 2)

/-- No element is smaller than its parent. -/
def HeapOrdered (key : α → κ) (h : List α) : Prop :=
  ∀ i, 1 < i → i < h.length → key (entry h (i / 2)) ≤ key (entry h i)

/-- The heap is in order but for the element at `index`, which may be smaller than its parent. -/
structure UpReady (key : α → κ) (h : List α) (index : ℕ) : Prop where
  except : ∀ i, 1 < i → i < h.length → i ≠ index → key (entry h (i / 2)) ≤ key (entry h i)
  across : 1 < index → ∀ i, i / 2 = index → i < h.length →
    key (entry h (index / 2)) ≤ key (entry h i)

/-- The heap is in order but for the element at `index`, which may be greater than its children. -/
structure DownReady (key : α → κ) (h : List α) (index : ℕ) : Prop where
  except : ∀ i, 1 < i → i < h.length → i / 2 ≠ index → key (entry h (i / 2)) ≤ key (entry h i)
  across : 1 < index → ∀ i, i / 2 = index → i < h.length →
    key (entry h (index / 2)) ≤ key (entry h i)

variable {h : List α} {index a b i fuel : ℕ}

/-! ## Exchanges -/

@[simp]
theorem length_exch (h : List α) (a b : ℕ) : (exch h a b).length = h.length := by
  unfold exch
  rw [List.length_set, List.length_set]

theorem entry_eq_getElem (hi : i < h.length) : entry h i = h[i] := by
  unfold entry
  rw [List.getD_eq_getElem?_getD, List.getElem?_eq_getElem hi, Option.getD_some]

theorem entry_exch (ha : a < h.length) (hb : b < h.length) (i : ℕ) :
    entry (exch h a b) i = if i = a then entry h b else if i = b then entry h a else entry h i := by
  unfold exch
  rw [entry, List.getD_eq_getElem?_getD, List.getElem?_set, List.getElem?_set, List.length_set]
  by_cases hia : i = a
  · by_cases hib : i = b
    · subst hia hib
      simp [hb]
    · simp [hia, ha, Ne.symm (hia ▸ hib)]
  · by_cases hib : i = b
    · subst hib
      simp [hb, hia]
    · simp [hia, hib, Ne.symm hia, Ne.symm hib, entry]

theorem exch_perm (ha : a < h.length) (hb : b < h.length) : (exch h a b).Perm h := by
  unfold exch
  rw [entry_eq_getElem ha, entry_eq_getElem hb]
  exact List.set_set_perm ha hb

/-- An exchange does not touch the element that is not used. -/
theorem exch_tail_perm (ha : 0 < a) (hb : 0 < b) (hal : a < h.length) (hbl : b < h.length) :
    (exch h a b).tail.Perm h.tail := by
  cases h with
  | nil => exact absurd hal (Nat.not_lt_zero a)
  | cons d xs =>
      have hperm := exch_perm hal hbl
      have hhead : exch (d :: xs) a b = d :: (exch (d :: xs) a b).tail := by
        obtain ⟨a, rfl⟩ := Nat.exists_eq_succ_of_ne_zero ha.ne'
        obtain ⟨b, rfl⟩ := Nat.exists_eq_succ_of_ne_zero hb.ne'
        rfl
      rw [hhead] at hperm
      exact hperm.cons_inv

/-! ## Up -/

theorem UpReady.exch (hready : UpReady key h index) (hone : 1 < index) (hlen : index < h.length)
    (hless : key (entry h index) < key (entry h (index / 2))) :
    UpReady key (exch h index (index / 2)) (index / 2) := by
  have hparent : index / 2 < h.length := by omega
  have hentry := entry_exch hlen hparent
  constructor
  · intro i hi hil hne
    rw [length_exch] at hil
    rw [hentry, hentry]
    by_cases hii : i = index
    · subst hii
      rw [if_neg (by omega), if_pos rfl, if_pos rfl]
      exact hless.le
    · rw [if_neg hii, if_neg hne]
      by_cases hp : i / 2 = index
      · rw [if_pos hp]
        exact hready.across hone i hp hil
      · rw [if_neg hp]
        have hedge := hready.except i hi hil hii
        by_cases hpp : i / 2 = index / 2
        · rw [if_pos hpp]
          rw [hpp] at hedge
          exact hless.le.trans hedge
        · rw [if_neg hpp]
          exact hedge
  · intro hp i hi hil
    rw [length_exch] at hil
    rw [hentry, hentry, if_neg (by omega), if_neg (by omega)]
    have hgrand := hready.except (index / 2) hp hparent (by omega)
    by_cases hii : i = index
    · rw [if_pos hii]
      exact hgrand
    · rw [if_neg hii, if_neg (by omega)]
      have hedge := hready.except i (by omega) hil hii
      rw [hi] at hedge
      exact hgrand.trans hedge

theorem heapOrdered_of_upReady (hready : UpReady key h index)
    (hstop : ¬(index ≠ 1 ∧ key (entry h index) < key (entry h (index / 2)))) :
    HeapOrdered key h := by
  intro i hi hil
  by_cases hii : i = index
  · subst hii
    exact not_lt.mp fun hless => hstop ⟨hi.ne', hless⟩
  · exact hready.except i hi hil hii

/-- Moving the last element up repairs the heap. -/
theorem bottomUp_spec (hready : UpReady key h index) (hpos : 0 < index) (hlen : index < h.length)
    (hfuel : index ≤ fuel) :
    HeapOrdered key (bottomUp key fuel h index) ∧
      (bottomUp key fuel h index).length = h.length ∧
      (bottomUp key fuel h index).tail.Perm h.tail := by
  induction fuel generalizing h index with
  | zero => omega
  | succ fuel ih =>
      rw [bottomUp]
      split_ifs with hless
      · have hone : 1 < index := by omega
        obtain ⟨hordered, hlength, hperm⟩ := ih (hready.exch hone hlen hless.2) (by omega)
          (by rw [length_exch]; omega) (by omega)
        rw [length_exch] at hlength
        exact ⟨hordered, hlength, hperm.trans (exch_tail_perm hpos (by omega) hlen (by omega))⟩
      · exact ⟨heapOrdered_of_upReady hready hless, rfl, .refl _⟩

/-! ## Down -/

theorem smallest_cases (key : α → κ) (h : List α) (a b : ℕ) :
    (smallest key h a b = a ∨ smallest key h a b = b) ∧
      key (entry h (smallest key h a b)) ≤ key (entry h a) ∧
      key (entry h (smallest key h a b)) ≤ key (entry h b) := by
  unfold smallest
  split_ifs with hless
  · exact ⟨.inl rfl, le_rfl, hless.le⟩
  · exact ⟨.inr rfl, not_lt.mp hless, le_rfl⟩

/-- The element at `index` and the least of its children are exchanged. -/
theorem DownReady.exch (hready : DownReady key h index) (hpos : 0 < index) {child : ℕ}
    (hchild : child / 2 = index) (hlen : child < h.length)
    (hleast : ∀ i, i / 2 = index → i < h.length → key (entry h child) ≤ key (entry h i))
    (hle : key (entry h child) ≤ key (entry h index)) :
    DownReady key (exch h index child) child := by
  have hindex : index < h.length := by omega
  have hentry := entry_exch hindex hlen
  constructor
  · intro i hi hil hne
    rw [length_exch] at hil
    rw [hentry, hentry, if_neg hne]
    by_cases hp : i / 2 = index
    · rw [if_pos hp, if_neg (by omega)]
      by_cases hic : i = child
      · rw [if_pos hic]
        exact hle
      · rw [if_neg hic]
        exact hleast i hp hil
    · rw [if_neg hp]
      have hedge := hready.except i hi hil hp
      by_cases hii : i = index
      · subst hii
        rw [if_pos rfl]
        exact hready.across hi child hchild hlen
      · rw [if_neg hii, if_neg (by rintro rfl; exact hp hchild)]
        exact hedge
  · intro _ i hi hil
    rw [length_exch] at hil
    rw [hchild, hentry, hentry, if_pos rfl, if_neg (by omega), if_neg (by omega)]
    have hedge := hready.except i (by omega) hil (by omega)
    rw [hi] at hedge
    exact hedge

theorem heapOrdered_of_downReady (hready : DownReady key h index)
    (hstop : ∀ i, 1 < i → i / 2 = index → i < h.length → key (entry h index) ≤ key (entry h i)) :
    HeapOrdered key h := by
  intro i hi hil
  by_cases hp : i / 2 = index
  · rw [hp]
    exact hstop i hi hp hil
  · exact hready.except i hi hil hp

/-- Moving an element down repairs the heap. -/
theorem topDown_spec (hready : DownReady key h index) (hpos : 0 < index)
    (hfuel : h.length ≤ fuel + index) :
    HeapOrdered key (topDown key fuel h index) ∧
      (topDown key fuel h index).length = h.length ∧
      (topDown key fuel h index).tail.Perm h.tail := by
  induction fuel generalizing h index with
  | zero =>
      rw [topDown]
      exact ⟨heapOrdered_of_downReady hready fun i _ hp hil => by omega, rfl, .refl _⟩
  | succ fuel ih =>
      rw [topDown]
      have hchildren : ∀ i, i / 2 = index → i = index * 2 ∨ i = index * 2 + 1 := by omega
      split_ifs with hright hless hbottom hleft hless
      · obtain ⟨-, hl, hr⟩ := smallest_cases key h (index * 2) (index * 2 + 1)
        refine ⟨heapOrdered_of_downReady hready fun i _ hp _ => ?_, rfl, .refl _⟩
        rcases hchildren i hp with rfl | rfl
        · exact hless.le.trans hl
        · exact hless.le.trans hr
      · obtain ⟨hwhich, hl, hr⟩ := smallest_cases key h (index * 2) (index * 2 + 1)
        generalize smallest key h (index * 2) (index * 2 + 1) = child at *
        have hchild : child / 2 = index := by omega
        have hlen : child < h.length := by omega
        have hdown := hready.exch hpos hchild hlen
          (fun i hp _ => by rcases hchildren i hp with rfl | rfl <;> assumption)
          (not_lt.mp hless)
        obtain ⟨hordered, hlength, hperm⟩ := ih hdown (by omega) (by rw [length_exch]; omega)
        rw [length_exch] at hlength
        exact ⟨hordered, hlength,
          hperm.trans (exch_tail_perm hpos (by omega) (by omega) hlen)⟩
      · exact ⟨heapOrdered_of_downReady hready fun i _ hp hil => by omega, rfl, .refl _⟩
      · exact ⟨heapOrdered_of_downReady hready fun i _ hp hil => by omega, rfl, .refl _⟩
      · refine ⟨heapOrdered_of_downReady hready fun i _ hp hil => ?_, rfl, .refl _⟩
        obtain rfl : i = index * 2 := by omega
        exact hless.le
      · have hdown := hready.exch hpos (show index * 2 / 2 = index by omega) (by omega)
          (fun i hp hil => by
            obtain rfl : i = index * 2 := by omega
            exact le_rfl)
          (not_lt.mp hless)
        refine ⟨heapOrdered_of_downReady hdown fun i _ hp hil => ?_, length_exch _ _ _,
          exch_tail_perm hpos (by omega) (by omega) (by omega)⟩
        rw [length_exch] at hil
        omega

/-- An element that is smaller than its children stays where it is. -/
theorem topDown_eq_self
    (hless : ∀ i, i / 2 = index → i < h.length → key (entry h index) < key (entry h i)) :
    topDown key fuel h index = h := by
  cases fuel with
  | zero => rfl
  | succ fuel =>
      rw [topDown]
      split_ifs with hright hstop hbottom hleft hstop
      · rfl
      · obtain ⟨hwhich | hwhich, -, -⟩ := smallest_cases key h (index * 2) (index * 2 + 1)
        · rw [hwhich] at hstop
          exact absurd (hless _ (by omega) (by omega)) hstop
        · rw [hwhich] at hstop
          exact absurd (hless _ (by omega) (by omega)) hstop
      · rfl
      · rfl
      · rfl
      · exact absurd (hless _ (by omega) (by omega)) hstop

/-- The first element of a heap is the least one. -/
theorem HeapOrdered.root_le (hordered : HeapOrdered key h) :
    ∀ i, 0 < i → i < h.length → key (entry h 1) ≤ key (entry h i) := by
  intro i
  induction i using Nat.strongRecOn with
  | ind i ih =>
      intro hpos hlen
      by_cases hone : i = 1
      · rw [hone]
      · exact (ih (i / 2) (by omega) (by omega) (by omega)).trans
          (hordered i (by omega) hlen)

end BinaryHeap
