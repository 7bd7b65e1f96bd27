import Mathlib.Data.List.Sort
import Mathlib.Data.Prod.Lex
import Mathlib.Order.WithBot

/-!
# Priority queues

A priority queue hands out its elements in the order of their priorities, and in the order of
their numbers where the priorities are the same.  What it does is said once, with a sorted list,
and an implementation is compared with that list: calls that are legal for the list have the same
answers for both.

The numbers of the elements are different.  No element is inserted with a priority before that of
the last one that was handed out; an implementation may rely on it.
-/

/-- The operations of a priority queue. -/
structure PriorityQueue (σ α : Type*) where
  empty : σ
  isEmpty : σ → Bool
  insert : σ → α → σ
  peekNext : σ → Option α
  /-- The first element and the queue without it, if there is one. -/
  removeNext : σ → Option (α × σ)
  /-- The queue without an element, which has to be there. -/
  remove : σ → α → Option σ

namespace PriorityQueue

variable {σ α κ ι : Type*} [LinearOrder κ] [LinearOrder ι] {prio : α → κ} {ident : α → ι}
variable {last : WithBot κ} {a : α} {l l' : List α}

/-! ## The sorted list -/

/-- The place of an element in the order. -/
def rank (prio : α → κ) (ident : α → ι) (a : α) : κ ×ₗ ι := toLex (prio a, ident a)

/-- An element in its place of a sorted list. -/
def insertSorted (prio : α → κ) (ident : α → ι) (a : α) : List α → List α
  | [] => [a]
  | b :: l =>
      if rank prio ident a < rank prio ident b then a :: b :: l
      else b :: insertSorted prio ident a l

/-- The sorted list as a priority queue. -/
def sortedList [DecidableEq α] (prio : α → κ) (ident : α → ι) : PriorityQueue (List α) α where
  empty := []
  isEmpty := List.isEmpty
  insert l a := insertSorted prio ident a l
  peekNext := List.head?
  removeNext
    | [] => none
    | a :: l => some (a, l)
  remove l a := if a ∈ l then some (l.erase a) else none

/-- The elements are in their order, their numbers are different, and none has a priority before
that of the last one that was handed out. -/
structure Ordered (prio : α → κ) (ident : α → ι) (last : WithBot κ) (l : List α) : Prop where
  sorted : l.Pairwise fun a b => rank prio ident a < rank prio ident b
  distinct : l.Pairwise fun a b => ident a ≠ ident b
  bound : ∀ a ∈ l, last ≤ prio a

theorem rank_lt_rank {b : α} : rank prio ident a < rank prio ident b ↔
    prio a < prio b ∨ prio a = prio b ∧ ident a < ident b :=
  Prod.Lex.toLex_lt_toLex

theorem prio_le_of_rank_lt {b : α} (h : rank prio ident a < rank prio ident b) :
    prio a ≤ prio b := by
  rcases rank_lt_rank.mp h with hlt | ⟨heq, -⟩
  · exact hlt.le
  · exact heq.le

theorem perm_insertSorted (a : α) (l : List α) : (insertSorted prio ident a l).Perm (a :: l) := by
  induction l with
  | nil => exact .refl _
  | cons b l ih =>
      rw [insertSorted]
      split_ifs
      · exact .refl _
      · exact (ih.cons b).trans (.swap a b l)

theorem mem_insertSorted {b : α} : b ∈ insertSorted prio ident a l ↔ b = a ∨ b ∈ l :=
  (perm_insertSorted a l).mem_iff.trans List.mem_cons

theorem sorted_insertSorted
    (hsorted : l.Pairwise fun b c => rank prio ident b < rank prio ident c)
    (hnew : ∀ b ∈ l, ident b ≠ ident a) :
    (insertSorted prio ident a l).Pairwise fun b c => rank prio ident b < rank prio ident c := by
  induction l with
  | nil => exact List.pairwise_singleton _ _
  | cons b l ih =>
      rw [List.pairwise_cons] at hsorted
      rw [insertSorted]
      split_ifs with hlt
      · refine List.pairwise_cons.mpr ⟨fun c hc => ?_, List.pairwise_cons.mpr hsorted⟩
        rcases List.mem_cons.mp hc with rfl | hc
        · exact hlt
        · exact hlt.trans (hsorted.1 c hc)
      · refine List.pairwise_cons.mpr ⟨fun c hc => ?_, ?_⟩
        · rcases mem_insertSorted.mp hc with rfl | hc
          · refine lt_of_le_of_ne (not_lt.mp hlt) fun heq => hnew b List.mem_cons_self ?_
            exact congrArg Prod.snd (toLex.injective heq)
          · exact hsorted.1 c hc
        · exact ih hsorted.2 fun c hc => hnew c (List.mem_cons_of_mem _ hc)

theorem Ordered.insert (h : Ordered prio ident last l) (hnew : ∀ b ∈ l, ident b ≠ ident a)
    (hlast : last ≤ prio a) : Ordered prio ident last (insertSorted prio ident a l) where
  sorted := sorted_insertSorted h.sorted hnew
  distinct := by
    refine ((perm_insertSorted a l).pairwise_iff fun hne => hne.symm).mpr ?_
    exact List.pairwise_cons.mpr ⟨fun b hb => (hnew b hb).symm, h.distinct⟩
  bound b hb := by
    rcases mem_insertSorted.mp hb with rfl | hb
    · exact hlast
    · exact h.bound b hb

theorem Ordered.tail (h : Ordered prio ident last (a :: l)) : Ordered prio ident (prio a) l where
  sorted := (List.pairwise_cons.mp h.sorted).2
  distinct := (List.pairwise_cons.mp h.distinct).2
  bound b hb :=
    WithBot.coe_le_coe.mpr (prio_le_of_rank_lt ((List.pairwise_cons.mp h.sorted).1 b hb))

theorem Ordered.erase [DecidableEq α] (h : Ordered prio ident last l) (a : α) :
    Ordered prio ident last (l.erase a) where
  sorted := h.sorted.sublist List.erase_sublist
  distinct := h.distinct.sublist List.erase_sublist
  bound b hb := h.bound b (List.mem_of_mem_erase hb)

/-- The numbers of different elements are different. -/
theorem Ordered.eq_of_ident_eq (h : Ordered prio ident last l) {b : α} (ha : a ∈ l) (hb : b ∈ l)
    (heq : ident a = ident b) : a = b :=
  List.inj_on_of_nodup_map (List.pairwise_map.mpr h.distinct) ha hb heq

/-! ## Implementations -/

/-- A queue implements the sorted list, as long as it removes only what is `Removable`: `R last l s`
says that the queue `s` holds the elements of the sorted list `l`, after an element of priority
`last` was handed out. -/
structure Implements [DecidableEq α] (Q : PriorityQueue σ α) (prio : α → κ) (ident : α → ι)
    (Removable : σ → α → Prop) (R : WithBot κ → List α → σ → Prop) : Prop where
  ordered : ∀ {last l s}, R last l s → Ordered prio ident last l
  empty : R ⊥ [] Q.empty
  isEmpty : ∀ {last l s}, R last l s → Q.isEmpty s = l.isEmpty
  peekNext : ∀ {last l s}, R last l s → Q.peekNext s = l.head?
  insert : ∀ {last l s a}, R last l s → (∀ b ∈ l, ident b ≠ ident a) → last ≤ prio a →
    R last (insertSorted prio ident a l) (Q.insert s a)
  removeNext_nil : ∀ {last s}, R last [] s → Q.removeNext s = none
  removeNext_cons : ∀ {last a l s}, R last (a :: l) s →
    ∃ s', Q.removeNext s = some (a, s') ∧ R (prio a) l s'
  remove : ∀ {last a l s}, R last l s → a ∈ l → Removable s a →
    ∃ s', Q.remove s a = some s' ∧ R last (l.erase a) s'

/-! ## Calls and their answers -/

/-- A call of a priority queue. -/
inductive Call (α : Type*)
  | insert (a : α)
  | peekNext
  | removeNext
  | remove (a : α)

/-- The element that a call removes. -/
def Call.removed : Call α → Option α
  | .remove a => some a
  | _ => none

/-- One call, with the queue after it and its answer. -/
def call (Q : PriorityQueue σ α) (s : σ) : Call α → Option (σ × Option α)
  | .insert a => some (Q.insert s a, none)
  | .peekNext => some (s, Q.peekNext s)
  | .removeNext => (Q.removeNext s).map fun next => (next.2, some next.1)
  | .remove a => (Q.remove s a).map fun s' => (s', none)

/-- The answers of a list of calls. -/
def answers (Q : PriorityQueue σ α) : σ → List (Call α) → Option (List (Option α))
  | _, [] => some []
  | s, c :: cs => (Q.call s c).bind fun r => (Q.answers r.1 cs).map (r.2 :: ·)

/-- The queue after a list of calls. -/
def after (Q : PriorityQueue σ α) : σ → List (Call α) → Option σ
  | s, [] => some s
  | s, c :: cs => (Q.call s c).bind fun r => Q.after r.1 cs

/-- Calls that may be made of a sorted list, after an element of priority `last` was handed out:
what is inserted has a new number and no priority before `last`, and what is removed is there. -/
def Legal [DecidableEq α] (prio : α → κ) (ident : α → ι) :
    WithBot κ → List α → List (Call α) → Prop
  | _, _, [] => True
  | last, l, .insert a :: cs =>
      last ≤ prio a ∧ (∀ b ∈ l, ident b ≠ ident a) ∧
        Legal prio ident last (insertSorted prio ident a l) cs
  | last, l, .peekNext :: cs => Legal prio ident last l cs
  | _, [], .removeNext :: _ => False
  | _, a :: rest, .removeNext :: cs => Legal prio ident (prio a) rest cs
  | last, l, .remove a :: cs => a ∈ l ∧ Legal prio ident last (l.erase a) cs

/-- Whether a list of calls is legal is decided call by call. -/
instance decidableLegal [DecidableEq α] :
    (last : WithBot κ) → (l : List α) → (cs : List (Call α)) →
      Decidable (Legal prio ident last l cs)
  | _, _, [] => .isTrue trivial
  | last, l, .insert a :: cs =>
      have := decidableLegal last (insertSorted prio ident a l) cs
      inferInstanceAs (Decidable (last ≤ prio a ∧ (∀ b ∈ l, ident b ≠ ident a) ∧
        Legal prio ident last (insertSorted prio ident a l) cs))
  | last, l, .peekNext :: cs => decidableLegal last l cs
  | _, [], .removeNext :: _ => .isFalse id
  | _, a :: rest, .removeNext :: cs => decidableLegal (prio a) rest cs
  | last, l, .remove a :: cs =>
      have := decidableLegal last (l.erase a) cs
      inferInstanceAs (Decidable (a ∈ l ∧ Legal prio ident last (l.erase a) cs))

/-- All removals of a list of calls are removals that the queue can make. -/
def Allowed (Q : PriorityQueue σ α) (Removable : σ → α → Prop) : σ → List (Call α) → Prop
  | _, [] => True
  | s, c :: cs =>
      (∀ a ∈ c.removed, Removable s a) ∧ ∀ r ∈ Q.call s c, Q.Allowed Removable r.1 cs

instance decidableAllowed {Q : PriorityQueue σ α} {Removable : σ → α → Prop}
    [∀ s a, Decidable (Removable s a)] :
    (s : σ) → (cs : List (Call α)) → Decidable (Q.Allowed Removable s cs)
  | _, [] => .isTrue trivial
  | s, c :: cs =>
      have : DecidablePred fun r : σ × Option α => Q.Allowed Removable r.1 cs :=
        fun r => decidableAllowed r.1 cs
      inferInstanceAs (Decidable ((∀ a ∈ c.removed, Removable s a) ∧
        ∀ r ∈ Q.call s c, Q.Allowed Removable r.1 cs))

theorem allowed_of_forall {Q : PriorityQueue σ α} {Removable : σ → α → Prop}
    (h : ∀ s a, Removable s a) (s : σ) (cs : List (Call α)) : Q.Allowed Removable s cs := by
  induction cs generalizing s with
  | nil => trivial
  | cons c cs ih => exact ⟨fun a _ => h s a, fun r _ => ih r.1⟩

section Correctness

variable [DecidableEq α] {Q : PriorityQueue σ α} {Removable : σ → α → Prop}
variable {R : WithBot κ → List α → σ → Prop} {s : σ}

/-- One legal call has the answer that it has for the sorted list, and the calls that follow it are
legal. -/
theorem Implements.call_eq (h : Q.Implements prio ident Removable R) (hs : R last l s)
    {c : Call α} {cs : List (Call α)} (hlegal : Legal prio ident last l (c :: cs))
    (hremovable : ∀ a ∈ c.removed, Removable s a) :
    ∃ last' l' s' answer, Q.call s c = some (s', answer) ∧
      (sortedList prio ident).call l c = some (l', answer) ∧ R last' l' s' ∧
      Legal prio ident last' l' cs := by
  cases c with
  | insert a =>
      obtain ⟨hlast, hnew, hrest⟩ := hlegal
      exact ⟨last, _, Q.insert s a, none, rfl, rfl, h.insert hs hnew hlast, hrest⟩
  | peekNext =>
      have hpeek : Q.call s .peekNext = some (s, l.head?) :=
        congrArg (fun answer => some (s, answer)) (h.peekNext hs)
      exact ⟨last, l, s, l.head?, hpeek, rfl, hs, by rwa [Legal] at hlegal⟩
  | removeNext =>
      cases l with
      | nil => exact hlegal.elim
      | cons a rest =>
          obtain ⟨s', hnext, hs'⟩ := h.removeNext_cons hs
          have hcall : Q.call s .removeNext = some (s', some a) := by simp [call, hnext]
          exact ⟨prio a, rest, s', some a, hcall, rfl, hs', hlegal⟩
  | remove a =>
      obtain ⟨ha, hrest⟩ := hlegal
      obtain ⟨s', hremove, hs'⟩ := h.remove hs ha (hremovable a rfl)
      have hcall : Q.call s (.remove a) = some (s', none) := by simp [call, hremove]
      have hreference : (sortedList prio ident).call l (.remove a) = some (l.erase a, none) := by
        simp [call, sortedList, ha]
      exact ⟨last, l.erase a, s', none, hcall, hreference, hs', hrest⟩

/-- Legal calls have the answers that they have for the sorted list. -/
theorem Implements.answers_eq (h : Q.Implements prio ident Removable R) (hs : R last l s)
    {cs : List (Call α)} (hlegal : Legal prio ident last l cs)
    (hallowed : Q.Allowed Removable s cs) :
    Q.answers s cs = (sortedList prio ident).answers l cs ∧
      ((sortedList prio ident).answers l cs).isSome := by
  induction cs generalizing last l s with
  | nil => exact ⟨rfl, rfl⟩
  | cons c cs ih =>
      obtain ⟨last', l', s', answer, hcall, hreference, hs', hrest⟩ :=
        h.call_eq hs hlegal hallowed.1
      obtain ⟨heq, hsome⟩ := ih hs' hrest (hallowed.2 _ hcall)
      rw [answers, answers, hcall, hreference, Option.bind_some, Option.bind_some]
      exact ⟨congrArg (Option.map (answer :: ·)) heq, Option.isSome_map.trans hsome⟩

/-- After legal calls the queue holds the elements that the sorted list has. -/
theorem Implements.after_eq (h : Q.Implements prio ident Removable R) (hs : R last l s)
    {cs : List (Call α)} (hlegal : Legal prio ident last l cs)
    (hallowed : Q.Allowed Removable s cs) :
    ∃ last' l' s', Q.after s cs = some s' ∧ (sortedList prio ident).after l cs = some l' ∧
      R last' l' s' := by
  induction cs generalizing last l s with
  | nil => exact ⟨last, l, s, rfl, rfl, hs⟩
  | cons c cs ih =>
      obtain ⟨last', l', s', answer, hcall, hreference, hs', hrest⟩ :=
        h.call_eq hs hlegal hallowed.1
      rw [after, after, hcall, hreference, Option.bind_some, Option.bind_some]
      exact ih hs' hrest (hallowed.2 _ hcall)

end Correctness

end PriorityQueue
