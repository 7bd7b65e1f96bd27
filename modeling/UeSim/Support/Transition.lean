import Mathlib.Data.List.Basic
import Mathlib.Order.Basic

/-!
# Partial transition systems

A system has a set of initial states and a partial step function: an action
that is not enabled in a state has no successor.  Reachability is relative to
a guard on the steps, so that a safety theorem can say which runs it covers.
-/

/-- A transition system whose step function is partial. -/
structure TransitionSystem (σ α : Type*) where
  /-- The states a run may start in. -/
  init : σ → Prop
  /-- The successor under an action, when the action is enabled. -/
  step : σ → α → Option σ

namespace TransitionSystem

variable {σ α : Type*} {S : TransitionSystem σ α}
variable {guard guard' : σ → α → Prop}

/-- The states of runs whose steps all satisfy `guard`. -/
inductive ReachableBy (S : TransitionSystem σ α) (guard : σ → α → Prop) : σ → Prop
  | init {s : σ} (hinit : S.init s) : ReachableBy S guard s
  | step {s s' : σ} (a : α) (hreach : ReachableBy S guard s) (hguard : guard s a)
      (hstep : S.step s a = some s') : ReachableBy S guard s'

/-- The states of arbitrary runs. -/
def Reachable (S : TransitionSystem σ α) : σ → Prop :=
  S.ReachableBy fun _ _ => True

/-- The invariant rule: a property that holds initially and survives every
guarded step from a reachable state holds along every guarded run. -/
theorem ReachableBy.invariant {P : σ → Prop} {s : σ}
    (hreach : S.ReachableBy guard s)
    (hinit : ∀ s, S.init s → P s)
    (hstep : ∀ s a s', P s → guard s a → S.step s a = some s' → P s') :
    P s := by
  induction hreach with
  | init h => exact hinit _ h
  | step a _ hguard hs ih => exact hstep _ a _ ih hguard hs

/-- A weaker guard reaches at least as much. -/
theorem ReachableBy.mono {s : σ} (hreach : S.ReachableBy guard s)
    (himp : ∀ s a, guard s a → guard' s a) : S.ReachableBy guard' s := by
  induction hreach with
  | init h => exact .init h
  | step a _ hguard hs ih => exact .step a ih (himp _ _ hguard) hs

/-- Every guarded run is a run. -/
theorem ReachableBy.reachable {s : σ} (hreach : S.ReachableBy guard s) :
    S.Reachable s :=
  hreach.mono fun _ _ _ => trivial

/-- The state after a list of actions, when each of them is enabled. -/
def runActions (S : TransitionSystem σ α) (s : σ) : List α → Option σ
  | [] => some s
  | a :: as => (S.step s a).bind fun s' => S.runActions s' as

theorem runActions_cons_eq_some {s s' : σ} {a : α} {as : List α} :
    S.runActions s (a :: as) = some s' ↔
      ∃ t, S.step s a = some t ∧ S.runActions t as = some s' :=
  Option.bind_eq_some_iff

/-- A run given by its list of actions reaches its final state. -/
theorem ReachableBy.runActions {s s' : σ} {as : List α}
    (hreach : S.ReachableBy guard s) (hguard : ∀ s a, a ∈ as → guard s a)
    (hrun : S.runActions s as = some s') : S.ReachableBy guard s' := by
  induction as generalizing s with
  | nil =>
      cases hrun
      exact hreach
  | cons a as ih =>
      cases hstep : S.step s a with
      | none => simp [TransitionSystem.runActions, hstep] at hrun
      | some t =>
          refine ih (.step a hreach (hguard s a (by simp)) hstep) ?_ ?_
          · exact fun s b hb => hguard s b (List.mem_cons_of_mem a hb)
          · simpa [TransitionSystem.runActions, hstep] using hrun

/-- Every step of a run given by its list of actions satisfies `guard`. -/
def GuardedRun (S : TransitionSystem σ α) (guard : σ → α → Prop) : σ → List α → Prop
  | _, [] => True
  | s, a :: as => guard s a ∧ ∀ t, S.step s a = some t → S.GuardedRun guard t as

/-- A guard that can be decided in a state can be decided along a run. -/
instance GuardedRun.decidable [∀ s a, Decidable (guard s a)] :
    ∀ (s : σ) (as : List α), Decidable (S.GuardedRun guard s as)
  | _, [] => .isTrue trivial
  | s, a :: as =>
      have := fun t => GuardedRun.decidable t as
      inferInstanceAs (Decidable (guard s a ∧ ∀ t, t ∈ S.step s a → S.GuardedRun guard t as))

/-- A run whose steps satisfy a guard satisfies every weaker one. -/
theorem GuardedRun.mono {s : σ} {as : List α} (h : S.GuardedRun guard s as)
    (himp : ∀ s a, guard s a → guard' s a) : S.GuardedRun guard' s as := by
  induction as generalizing s with
  | nil => trivial
  | cons a as ih => exact ⟨himp s a h.1, fun t hstep => ih (h.2 t hstep)⟩

/-- A run whose steps all satisfy the guard reaches its final state. -/
theorem ReachableBy.of_guardedRun {s s' : σ} {as : List α} (hreach : S.ReachableBy guard s)
    (hguarded : S.GuardedRun guard s as) (hrun : S.runActions s as = some s') :
    S.ReachableBy guard s' := by
  induction as generalizing s with
  | nil =>
      cases hrun
      exact hreach
  | cons a as ih =>
      obtain ⟨t, hstep, hrest⟩ := runActions_cons_eq_some.mp hrun
      exact ih (.step a hreach hguarded.1 hstep) (hguarded.2 t hstep) hrest

/-- The rule for a property that a run has exactly as long as its steps satisfy the
guard: guarded steps keep it, other steps break it, and no step restores it. -/
theorem iff_guardedRun {P Q : σ → Prop} {s s' : σ} {as : List α}
    (hkeep : ∀ s a t, P s → Q s → guard s a → S.step s a = some t → Q t)
    (hbreak : ∀ s a t, P s → Q s → ¬guard s a → S.step s a = some t → ¬Q t)
    (hbroken : ∀ s a t, P s → ¬Q s → S.step s a = some t → ¬Q t)
    (hinvariant : ∀ s a t, P s → S.step s a = some t → P t)
    (hP : P s) (hQ : Q s) (hrun : S.runActions s as = some s') :
    Q s' ↔ S.GuardedRun guard s as := by
  have hlost : ∀ as s, P s → ¬Q s → S.runActions s as = some s' → ¬Q s' := by
    intro as
    induction as with
    | nil =>
        intro s _ hnot hrun
        cases hrun
        exact hnot
    | cons a as ih =>
        intro s hP hnot hrun
        obtain ⟨t, hstep, hrest⟩ := runActions_cons_eq_some.mp hrun
        exact ih t (hinvariant s a t hP hstep) (hbroken s a t hP hnot hstep) hrest
  induction as generalizing s with
  | nil =>
      cases hrun
      exact iff_of_true hQ trivial
  | cons a as ih =>
      obtain ⟨t, hstep, hrest⟩ := runActions_cons_eq_some.mp hrun
      have hPt := hinvariant s a t hP hstep
      by_cases hguard : guard s a
      · have htail : Q s' ↔ S.GuardedRun guard t as :=
          ih hPt (hkeep s a t hP hQ hguard hstep) hrest
        constructor
        · intro hQ'
          refine ⟨hguard, fun t' hstep' => ?_⟩
          rw [hstep] at hstep'
          cases hstep'
          exact htail.mp hQ'
        · exact fun hall => htail.mpr (hall.2 t hstep)
      · refine iff_of_false ?_ fun hall => hguard hall.1
        exact hlost as t hPt (hbreak s a t hP hQ hguard hstep) hrest

/-- A property of every state of a run given by its list of actions. -/
def Throughout (S : TransitionSystem σ α) (Q : σ → Prop) : σ → List α → Prop
  | s, [] => Q s
  | s, a :: as => Q s ∧ ∀ t, S.step s a = some t → S.Throughout Q t as

theorem Throughout.head {Q : σ → Prop} {s : σ} {as : List α} (h : S.Throughout Q s as) : Q s := by
  cases as with
  | nil => exact h
  | cons a as => exact h.1

section Beside

variable {τ : Type*} {T : TransitionSystem τ α} {guard : τ → α → Prop} {R : σ → τ → Prop}
variable {Q : σ → Prop} {s s' : σ} {t t' : τ} {as : List α}

/-- The rule for a property of a run, when the guard is on the steps of a run beside it: as
long as the two are related, guarded steps keep the relation and the property. -/
theorem Throughout.of_guardedRun_beside
    (hkeep : ∀ s t a s' t', R s t → Q s → guard t a → S.step s a = some s' →
      T.step t a = some t' → R s' t' ∧ Q s')
    (hR : R s t) (hQ : Q s) (hrun : T.runActions t as = some t') (h : T.GuardedRun guard t as) :
    S.Throughout Q s as := by
  induction as generalizing s t with
  | nil => exact hQ
  | cons a as ih =>
      obtain ⟨u, hbeside, hrest⟩ := runActions_cons_eq_some.mp hrun
      refine ⟨hQ, fun s' hstep => ?_⟩
      obtain ⟨hR', hQ'⟩ := hkeep s t a s' u hR hQ h.1 hstep hbeside
      exact ih hR' hQ' hrest (h.2 u hbeside)

/-- The rule when other steps break the property: it holds throughout exactly when all steps
beside satisfy the guard. -/
theorem throughout_iff_guardedRun_beside
    (hkeep : ∀ s t a s' t', R s t → Q s → guard t a → S.step s a = some s' →
      T.step t a = some t' → R s' t' ∧ Q s')
    (hbreak : ∀ s t a s' t', R s t → Q s → ¬guard t a → S.step s a = some s' →
      T.step t a = some t' → ¬Q s')
    (hR : R s t) (hQ : Q s) (hrun : S.runActions s as = some s')
    (hbeside : T.runActions t as = some t') :
    S.Throughout Q s as ↔ T.GuardedRun guard t as := by
  constructor
  · intro hall
    induction as generalizing s t with
    | nil => trivial
    | cons a as ih =>
        obtain ⟨u, hstep, hrest⟩ := runActions_cons_eq_some.mp hrun
        obtain ⟨v, hstep', hrest'⟩ := runActions_cons_eq_some.mp hbeside
        have htail := hall.2 u hstep
        have hguard : guard t a := by
          by_contra hnot
          exact hbreak s t a u v hR hQ hnot hstep hstep' htail.head
        obtain ⟨hR', hQ'⟩ := hkeep s t a u v hR hQ hguard hstep hstep'
        refine ⟨hguard, fun v' hv' => ?_⟩
        cases hstep'.symm.trans hv'
        exact ih hR' hQ' hrest hrest' htail
  · exact .of_guardedRun_beside hkeep hR hQ hbeside

end Beside

/-- The rule for a property that guarded steps keep and other steps break: it holds
throughout a run exactly when all its steps satisfy the guard. -/
theorem throughout_iff_guardedRun {P Q : σ → Prop} {s s' : σ} {as : List α}
    (hkeep : ∀ s a t, P s → Q s → guard s a → S.step s a = some t → P t ∧ Q t)
    (hbreak : ∀ s a t, P s → Q s → ¬guard s a → S.step s a = some t → ¬Q t)
    (hP : P s) (hQ : Q s) (hrun : S.runActions s as = some s') :
    S.Throughout Q s as ↔ S.GuardedRun guard s as := by
  have hboth : s = s ∧ P s := ⟨rfl, hP⟩
  refine throughout_iff_guardedRun_beside (R := fun s t => s = t ∧ P s) ?_ ?_ hboth hQ hrun hrun
  · rintro s _ a t t' ⟨rfl, hP⟩ hQ hguard hstep hstep'
    cases hstep.symm.trans hstep'
    obtain ⟨hP', hQ'⟩ := hkeep s a t hP hQ hguard hstep
    exact ⟨⟨rfl, hP'⟩, hQ'⟩
  · rintro s _ a t _ ⟨rfl, hP⟩ hQ hnot hstep -
    exact hbreak s a t hP hQ hnot hstep

end TransitionSystem
