import UeSim.Simulator.CalendarQueue
import UeSim.Simulator.DefaultSimulatorImpl

/-!
# Events run once, in their order, whatever the scheduler is

The simulator is compared with the one that has the list of all pending events for a scheduler.  For
that one an invariant says where every event is: it was executed, or removed, or is pending, and
what is pending comes after all that was executed.  A simulator with another scheduler does the
same, as long as the numbers of the events do not wrap.
-/

namespace UeSim

open Scheduler

namespace DefaultSimulatorImpl

variable {σ τ : Type*} {Q : PriorityQueue σ Event} {Q' : PriorityQueue τ Event}
variable {R : WithBot ℕ → List Event → σ → Prop} {R' : WithBot ℕ → List Event → τ → Prop}

/-- The place of the event that runs now. -/
def current (s : DefaultSimulatorImpl σ) : ℕ ×ₗ ℕ := toLex (s.currentTs, s.currentUid)

/-- Whether an action takes the number of an event. -/
def takesNumber : SimulatorAction → Bool
  | .schedule _ => true
  | .scheduleWithContext _ _ => true
  | .scheduleDestroy => true
  | _ => false

/-- There is a number for another event. -/
def NumbersLeft (s : DefaultSimulatorImpl σ) (a : SimulatorAction) : Prop :=
  takesNumber a = true → s.uid + 1 < 2 ^ 32

/-! ## Where the events are -/

/-- The simulator with the list of all pending events. -/
abbrev Reference := DefaultSimulatorImpl (List Event)

/-- Every event was executed, was removed or is pending; what was executed came in order, and what
is pending comes later. -/
structure Accounts (t : Reference) : Prop where
  perm : t.scheduled.Perm (t.executed ++ t.removed ++ t.events)
  inOrder : (t.executed ++ t.events).Pairwise Before
  executed_le : ∀ ev ∈ t.executed, order ev ≤ t.current
  current_lt : ∀ ev ∈ t.events, t.current < order ev
  currentUid_lt : t.currentUid < t.uid
  valid_le : EventId.valid ≤ t.uid
  numbers : ∀ ev ∈ t.scheduled, EventId.valid ≤ ev.uid ∧ ev.uid < t.uid ∧ ev.impl < t.nextImpl
  uids : t.scheduled.Pairwise fun a b => a.uid ≠ b.uid
  impls : t.scheduled.Pairwise fun a b => a.impl ≠ b.impl
  removed : ∀ ev ∈ t.removed, ev.impl ∈ t.cancelled
  destroyed : ∀ id ∈ t.destroyEvents, ∀ impl ∈ id.impl, impl < t.nextImpl ∧
    ∀ ev ∈ t.scheduled, ev.impl ≠ impl
  notified_eq :
    t.notified = (t.executed.filter fun ev => ev.impl ∉ t.cancelled).map Event.impl
  unscheduled_eq : t.unscheduledEvents = t.events.length
  count_eq : t.eventCount = t.executed.length

variable {t t' : Reference} {ev : Event}

theorem Accounts.fresh : Accounts { events := [] } where
  perm := .refl _
  inOrder := .nil
  executed_le := by simp
  current_lt := by simp
  currentUid_lt := by decide
  valid_le := le_rfl
  numbers := by simp
  uids := .nil
  impls := .nil
  removed := by simp
  destroyed := by simp
  notified_eq := rfl
  unscheduled_eq := rfl
  count_eq := rfl

/-- Where a scheduled event is. -/
theorem Accounts.mem_cases (h : Accounts t) (hev : ev ∈ t.scheduled) :
    ev ∈ t.executed ∨ ev ∈ t.removed ∨ ev ∈ t.events := by
  rcases List.mem_append.mp (h.perm.mem_iff.mp hev) with hev | hev
  · rcases List.mem_append.mp hev with hev | hev
    · exact .inl hev
    · exact .inr (.inl hev)
  · exact .inr (.inr hev)

theorem Accounts.scheduled_of_mem (h : Accounts t)
    (hev : ev ∈ t.executed ∨ ev ∈ t.removed ∨ ev ∈ t.events) : ev ∈ t.scheduled := by
  refine h.perm.mem_iff.mpr ?_
  rcases hev with hev | hev | hev
  · exact List.mem_append_left _ (List.mem_append_left _ hev)
  · exact List.mem_append_left _ (List.mem_append_right _ hev)
  · exact List.mem_append_right _ hev

/-- An event has expired exactly if it is no longer pending, or it was cancelled. -/
theorem Accounts.isExpired_iff (h : Accounts t) (hev : ev ∈ t.scheduled) :
    t.isExpired ev.id = false ↔ ev ∈ t.events ∧ ev.impl ∉ t.cancelled := by
  have hvalid : ¬ev.uid = EventId.destroy := by
    have hle := (h.numbers ev hev).1
    unfold EventId.valid at hle
    unfold EventId.destroy
    omega
  have hexpired : t.isExpired ev.id = true ↔
      order ev ≤ t.current ∨ ev.impl ∈ t.cancelled := by
    unfold isExpired Event.id current order PriorityQueue.rank
    rw [Prod.Lex.toLex_le_toLex]
    simp [hvalid]
  rw [Bool.eq_false_iff, ne_eq, hexpired, not_or, not_le]
  refine and_congr_left fun hcancelled => ⟨fun hlt => ?_, h.current_lt ev⟩
  rcases h.mem_cases hev with hexecuted | hremoved | hpending
  · exact absurd (h.executed_le ev hexecuted) (not_le.mpr hlt)
  · exact absurd (h.removed ev hremoved) hcancelled
  · exact hpending

/-- A new event is scheduled. -/
theorem Accounts.insertEvent (h : Accounts t) (hguard : t.uid + 1 < 2 ^ 32) {context delay : ℕ}
    (hts : t.currentTs + delay < 2 ^ 63) :
    Accounts (t.insertEvent reference (t.newEvent context (t.currentTs + delay) hts)) := by
  set ev := t.newEvent context (t.currentTs + delay) hts with hev
  have hperm : (PriorityQueue.insertSorted Event.ts Event.uid ev t.events).Perm
      (ev :: t.events) := PriorityQueue.perm_insertSorted ev t.events
  have huid : toU32 (t.uid + 1) = t.uid + 1 := toU32_of_lt hguard
  have hnew : ∀ e ∈ t.scheduled, e.uid ≠ ev.uid ∧ e.impl ≠ ev.impl := fun e he =>
    ⟨(h.numbers e he).2.1.ne, (h.numbers e he).2.2.ne⟩
  have hafter : t.current < order ev := by
    refine Prod.Lex.toLex_lt_toLex.mpr ?_
    rcases Nat.eq_zero_or_pos delay with rfl | hpos
    · exact .inr ⟨rfl, h.currentUid_lt⟩
    · exact .inl (Nat.lt_add_of_pos_right hpos)
  have hmem : ∀ e ∈ PriorityQueue.insertSorted Event.ts Event.uid ev t.events,
      t.current < order e := by
    intro e he
    rcases PriorityQueue.mem_insertSorted.mp he with rfl | he
    · exact hafter
    · exact h.current_lt e he
  obtain ⟨hexecuted, hpending, -⟩ := List.pairwise_append.mp h.inOrder
  unfold DefaultSimulatorImpl.insertEvent
  rw [huid]
  refine ⟨?_, ?_, h.executed_le, hmem, h.currentUid_lt.trans (Nat.lt_succ_self _),
    h.valid_le.trans (Nat.le_succ _), ?_, ?_, ?_, h.removed, ?_, h.notified_eq, ?_, h.count_eq⟩
  · refine (h.perm.append_right [ev]).trans ?_
    rw [List.append_assoc]
    exact (List.perm_append_comm.trans hperm.symm).append_left _
  · refine List.pairwise_append.mpr ⟨hexecuted, ?_, fun e he e' he' => ?_⟩
    · refine PriorityQueue.sorted_insertSorted hpending fun e he => ?_
      exact (hnew e (h.scheduled_of_mem (.inr (.inr he)))).1
    · exact (h.executed_le e he).trans_lt (hmem e' he')
  · intro e he
    rcases List.mem_append.mp he with he | he
    · obtain ⟨hvalid, hlt, himpl⟩ := h.numbers e he
      exact ⟨hvalid, hlt.trans (Nat.lt_succ_self _), himpl.trans (Nat.lt_succ_self _)⟩
    · rw [List.mem_singleton.mp he]
      exact ⟨h.valid_le, Nat.lt_succ_self _, Nat.lt_succ_self _⟩
  · refine List.pairwise_append.mpr ⟨h.uids, List.pairwise_singleton _ _, fun e he e' he' => ?_⟩
    rw [List.mem_singleton.mp he']
    exact (hnew e he).1
  · refine List.pairwise_append.mpr ⟨h.impls, List.pairwise_singleton _ _, fun e he e' he' => ?_⟩
    rw [List.mem_singleton.mp he']
    exact (hnew e he).2
  · intro id hid impl himpl
    obtain ⟨hlt, hne⟩ := h.destroyed id hid impl himpl
    refine ⟨hlt.trans (Nat.lt_succ_self _), fun e he => ?_⟩
    rcases List.mem_append.mp he with he | he
    · exact hne e he
    · rw [List.mem_singleton.mp he]
      exact hlt.ne'
  · change t.unscheduledEvents + 1 =
      ((PriorityQueue.insertSorted Event.ts Event.uid ev t.events).length : ℤ)
    rw [hperm.length_eq, h.unscheduled_eq]
    rfl

theorem Accounts.scheduleDestroy (h : Accounts t) (hguard : t.uid + 1 < 2 ^ 32) :
    Accounts t.scheduleDestroy := by
  have huid : toU32 (t.uid + 1) = t.uid + 1 := toU32_of_lt hguard
  unfold DefaultSimulatorImpl.scheduleDestroy
  rw [huid]
  refine { h with
    currentUid_lt := h.currentUid_lt.trans (Nat.lt_succ_self _)
    valid_le := h.valid_le.trans (Nat.le_succ _)
    numbers := fun e he => ?_
    destroyed := fun id hid impl himpl => ?_ }
  · obtain ⟨hvalid, hlt, himpl⟩ := h.numbers e he
    exact ⟨hvalid, hlt.trans (Nat.lt_succ_self _), himpl.trans (Nat.lt_succ_self _)⟩
  · rcases List.mem_append.mp hid with hid | hid
    · obtain ⟨hlt, hne⟩ := h.destroyed id hid impl himpl
      exact ⟨hlt.trans (Nat.lt_succ_self _), hne⟩
    · rw [List.mem_singleton.mp hid] at himpl
      cases himpl
      exact ⟨Nat.lt_succ_self _, fun e he => (h.numbers e he).2.2.ne⟩

/-- What is cancelled has not been executed. -/
theorem Accounts.cancelImpl (h : Accounts t) {impl : ℕ}
    (hnot : ∀ ev ∈ t.executed, ev.impl ≠ impl) :
    Accounts { t with cancelled := t.cancelled ++ [impl] } := by
  refine { h with
    removed := fun ev hev => List.mem_append_left _ (h.removed ev hev)
    notified_eq := ?_ }
  rw [h.notified_eq]
  refine congrArg (List.map Event.impl) (List.filter_congr fun ev hev => ?_)
  have hne := hnot ev hev
  simp [hne]

theorem Accounts.cancel (h : Accounts t) {id : EventId}
    (hid : id.impl = none ∨ id ∈ t.scheduled.map Event.id ∨ id.uid = EventId.destroy) :
    Accounts (t.cancel id) := by
  unfold DefaultSimulatorImpl.cancel
  split_ifs with hexpired
  · exact h
  · rw [Bool.not_eq_true] at hexpired
    cases himpl : id.impl with
    | none =>
        unfold isExpired at hexpired
        rw [himpl] at hexpired
        cases hexpired
    | some impl =>
        refine h.cancelImpl fun ev hev => ?_
        rcases hid with hnone | hscheduled | hdestroy
        · rw [himpl] at hnone
          cases hnone
        · obtain ⟨e, he, rfl⟩ := List.mem_map.mp hscheduled
          cases himpl
          have hpending := ((h.isExpired_iff he).mp hexpired).1
          have hbefore := (List.pairwise_append.mp h.inOrder).2.2 ev hev e hpending
          intro heq
          have hevents := List.inj_on_of_nodup_map (List.pairwise_map.mpr h.impls)
            (h.scheduled_of_mem (.inl hev)) he heq
          rw [hevents] at hbefore
          exact lt_irrefl _ hbefore
        · unfold isExpired at hexpired
          rw [himpl] at hexpired
          simp only [hdestroy, if_true, Bool.or_eq_false_iff, decide_eq_false_iff_not,
            not_not] at hexpired
          exact (h.destroyed id hexpired.2 impl himpl).2 ev (h.scheduled_of_mem (.inl hev))

theorem Accounts.removeEvent (h : Accounts t) (hev : ev ∈ t.events) :
    Accounts (t.removeEvent ev (t.events.erase ev)) := by
  have hnot : ∀ e ∈ t.executed, e.impl ≠ ev.impl := by
    intro e he heq
    have hbefore := (List.pairwise_append.mp h.inOrder).2.2 e he ev hev
    have heq' := List.inj_on_of_nodup_map (List.pairwise_map.mpr h.impls)
      (h.scheduled_of_mem (.inl he)) (h.scheduled_of_mem (.inr (.inr hev))) heq
    rw [heq'] at hbefore
    exact lt_irrefl _ hbefore
  have hcancelled := h.cancelImpl hnot
  have herase := List.perm_cons_erase hev
  refine { hcancelled with
    perm := ?_
    inOrder := ?_
    current_lt := fun e he => h.current_lt e (List.mem_of_mem_erase he)
    removed := fun e he => ?_
    unscheduled_eq := ?_ }
  · refine h.perm.trans ?_
    change (t.executed ++ t.removed ++ t.events).Perm
      (t.executed ++ (t.removed ++ [ev]) ++ t.events.erase ev)
    rw [List.append_assoc, List.append_assoc, List.append_assoc]
    exact (herase.append_left _).append_left _
  · exact h.inOrder.sublist (List.Sublist.append_left List.erase_sublist _)
  · rcases List.mem_append.mp he with he | he
    · exact hcancelled.removed e he
    · rw [List.mem_singleton.mp he]
      exact List.mem_append_right _ (List.mem_singleton_self _)
  · change t.unscheduledEvents - 1 = ((t.events.erase ev).length : ℤ)
    rw [h.unscheduled_eq, herase.length_eq, List.length_cons]
    omega

theorem Accounts.execute (h : Accounts t) {rest : List Event} (hevents : t.events = ev :: rest) :
    Accounts (t.execute ev rest) := by
  have hperm := h.perm
  have horder := h.inOrder
  have hunscheduled := h.unscheduled_eq
  rw [hevents] at hperm horder hunscheduled
  have hmem : ev ∈ t.events := hevents ▸ List.mem_cons_self
  obtain ⟨hexecuted, hpending, hcross⟩ := List.pairwise_append.mp horder
  obtain ⟨hfirst, hrest⟩ := List.pairwise_cons.mp hpending
  refine { h with
    perm := ?_
    inOrder := ?_
    executed_le := fun e he => ?_
    current_lt := hfirst
    currentUid_lt := (h.numbers ev (h.scheduled_of_mem (.inr (.inr hmem)))).2.1
    notified_eq := ?_
    unscheduled_eq := ?_
    count_eq := ?_ }
  · refine hperm.trans ?_
    change (t.executed ++ t.removed ++ ev :: rest).Perm (t.executed ++ [ev] ++ t.removed ++ rest)
    rw [List.append_assoc, List.append_assoc, List.append_assoc]
    exact List.perm_middle.append_left _
  · change (t.executed ++ [ev] ++ rest).Pairwise Before
    rw [List.append_assoc]
    exact horder
  · rcases List.mem_append.mp he with he | he
    · exact (hcross e he ev List.mem_cons_self).le
    · rw [List.mem_singleton.mp he]
      exact le_rfl
  · change (if ev.impl ∈ t.cancelled then t.notified else t.notified ++ [ev.impl]) =
      ((t.executed ++ [ev]).filter fun ev => ev.impl ∉ t.cancelled).map Event.impl
    rw [List.filter_append, List.map_append, ← h.notified_eq]
    split_ifs with hcancelled <;> simp [hcancelled]
  · change t.unscheduledEvents - 1 = (rest.length : ℤ)
    rw [hunscheduled, List.length_cons]
    omega
  · change t.eventCount + 1 = (t.executed ++ [ev]).length
    rw [h.count_eq, List.length_append, List.length_singleton]

theorem Accounts.removeCall (h : Accounts t) (hremove : t.remove reference ev = some t')
    (hev : ev ∈ t.scheduled) : Accounts t' := by
  unfold DefaultSimulatorImpl.remove at hremove
  split_ifs at hremove with hexpired
  · cases hremove
    exact h
  · have hpending := ((h.isExpired_iff hev).mp (Bool.not_eq_true _ ▸ hexpired)).1
    have hevents : reference.remove t.events ev = some (t.events.erase ev) := if_pos hpending
    rw [hevents] at hremove
    cases hremove
    exact h.removeEvent hpending

theorem Accounts.runNext (h : Accounts t) (hrun : t.runNext reference = some t') :
    Accounts t' := by
  unfold DefaultSimulatorImpl.runNext processOneEvent at hrun
  split_ifs at hrun
  cases hevents : t.events with
  | nil =>
      rw [hevents] at hrun
      cases hrun
  | cons ev rest =>
      have hnext : reference.removeNext t.events = some (ev, rest) := by rw [hevents]; rfl
      rw [hnext, Option.bind_some] at hrun
      split_ifs at hrun
      cases hrun
      exact h.execute hevents

theorem Accounts.step {a : SimulatorAction} (h : Accounts t) (hguard : t.NumbersLeft a)
    (hstep : t.simulatorStep reference a = some t') : Accounts t' := by
  have hschedule : ∀ {context delay}, t.uid + 1 < 2 ^ 32 →
      t.scheduleWithContext reference context delay = some t' → Accounts t' := by
    intro context delay hguard hschedule
    unfold DefaultSimulatorImpl.scheduleWithContext at hschedule
    split_ifs at hschedule with hts
    cases hschedule
    exact h.insertEvent hguard hts
  cases a with
  | schedule delay => exact hschedule (hguard rfl) hstep
  | scheduleWithContext context delay => exact hschedule (hguard rfl) hstep
  | scheduleDestroy =>
      cases hstep
      exact h.scheduleDestroy (hguard rfl)
  | cancel id =>
      rw [simulatorStep] at hstep
      split_ifs at hstep with hid
      cases hstep
      exact h.cancel hid
  | remove ev =>
      rw [simulatorStep] at hstep
      split_ifs at hstep with hev
      exact h.removeCall hstep hev
  | removeDestroy id =>
      cases hstep
      exact { h with destroyed := fun id' hid => h.destroyed id' (List.mem_of_mem_erase hid) }
  | run =>
      cases hstep
      exact { h with }
  | runNext => exact h.runNext hstep
  | stop =>
      cases hstep
      exact { h with }
  | destroyNext =>
      rw [simulatorStep, destroyNext] at hstep
      split at hstep
      · cases hstep
      · rename_i id rest hevents
        cases hstep
        exact { h with
          destroyed := fun id' hid => h.destroyed id' (hevents ▸ List.mem_cons_of_mem id hid) }

/-! ## Another scheduler -/

/-- The simulator with another scheduler. -/
def withEvents (s : DefaultSimulatorImpl σ) (events : τ) : DefaultSimulatorImpl τ where
  events := events
  stop := s.stop
  uid := s.uid
  currentUid := s.currentUid
  currentTs := s.currentTs
  currentContext := s.currentContext
  unscheduledEvents := s.unscheduledEvents
  eventCount := s.eventCount
  destroyEvents := s.destroyEvents
  cancelled := s.cancelled
  nextImpl := s.nextImpl
  scheduled := s.scheduled
  executed := s.executed
  removed := s.removed
  notified := s.notified
  ended := s.ended

/-- The scheduler holds the events of the list, and has handed out none from the future. -/
def Holds (R : WithBot ℕ → List Event → σ → Prop) (t : Reference) (events : σ) : Prop :=
  ∃ last : WithBot ℕ, last ≤ t.currentTs ∧ R last t.events events

variable {events : σ} {a : SimulatorAction}

/-- A step that does not touch the scheduler keeps what it holds. -/
theorem Holds.congr (h : Holds R t events) (hevents : t'.events = t.events)
    (hts : t'.currentTs = t.currentTs) : Holds R t' events := by
  unfold Holds
  rw [hevents, hts]
  exact h

/-- The simulator does what the one with the list does. -/
def Matches (R : WithBot ℕ → List Event → σ → Prop)
    (result : Option (DefaultSimulatorImpl σ)) (expected : Option Reference) : Prop :=
  result = none ∧ expected = none ∨
    ∃ t' events', result = some (t'.withEvents events') ∧ expected = some t' ∧ Holds R t' events'

theorem Matches.scheduleWithContext (hQ : Implements Q R) (haccounts : Accounts t)
    (hholds : Holds R t events) (context delay : ℕ) :
    Matches R ((t.withEvents events).scheduleWithContext Q context delay)
      (t.scheduleWithContext reference context delay) := by
  unfold DefaultSimulatorImpl.scheduleWithContext
  by_cases hts : t.currentTs + delay < 2 ^ 63
  · rw [dif_pos hts, dif_pos (show (t.withEvents events).currentTs + delay < 2 ^ 63 from hts)]
    obtain ⟨last, hlast, hR⟩ := hholds
    refine .inr ⟨_, _, rfl, rfl, last, hlast, hQ.insert hR (fun e he => ?_) (hlast.trans ?_)⟩
    · exact (haccounts.numbers e (haccounts.scheduled_of_mem (.inr (.inr he)))).2.1.ne
    · exact WithBot.coe_le_coe.mpr (Nat.le_add_right _ _)
  · rw [dif_neg hts, dif_neg (show ¬(t.withEvents events).currentTs + delay < 2 ^ 63 from hts)]
    exact .inl ⟨rfl, rfl⟩

theorem withEvents_cancel (t : Reference) (events : σ) (id : EventId) :
    (t.withEvents events).cancel id = (t.cancel id).withEvents events := by
  unfold DefaultSimulatorImpl.cancel
  have hexpired : (t.withEvents events).isExpired id = t.isExpired id := rfl
  rw [hexpired]
  split_ifs <;> rfl

theorem holds_cancel (hholds : Holds R t events) (id : EventId) : Holds R (t.cancel id) events := by
  unfold DefaultSimulatorImpl.cancel
  split_ifs
  · exact hholds
  · exact hholds.congr rfl rfl

theorem Matches.remove (hQ : Implements Q R) (haccounts : Accounts t) (hholds : Holds R t events)
    (hev : ev ∈ t.scheduled) :
    Matches R ((t.withEvents events).remove Q ev) (t.remove reference ev) := by
  unfold DefaultSimulatorImpl.remove
  have hexpired : (t.withEvents events).isExpired ev.id = t.isExpired ev.id := rfl
  rw [hexpired]
  split_ifs with hdone
  · exact .inr ⟨t, events, rfl, rfl, hholds⟩
  · have hpending := ((haccounts.isExpired_iff hev).mp (Bool.not_eq_true _ ▸ hdone)).1
    have hreference : reference.remove t.events ev = some (t.events.erase ev) := if_pos hpending
    obtain ⟨last, hlast, hR⟩ := hholds
    obtain ⟨events', hremove, hR'⟩ := hQ.remove hR hpending trivial
    have hremove' : Q.remove (t.withEvents events).events ev = some events' := hremove
    rw [hreference, hremove']
    exact .inr ⟨_, events', rfl, rfl, last, hlast, hR'⟩

theorem Matches.runNext (hQ : Implements Q R) (haccounts : Accounts t)
    (hholds : Holds R t events) :
    Matches R ((t.withEvents events).runNext Q) (t.runNext reference) := by
  obtain ⟨last, hlast, hR⟩ := hholds
  have hempty : Q.isEmpty (t.withEvents events).events = t.events.isEmpty := hQ.isEmpty hR
  have hstop : (t.withEvents events).stop = t.stop := rfl
  have hreference : reference.isEmpty t.events = t.events.isEmpty := rfl
  unfold DefaultSimulatorImpl.runNext processOneEvent
  rw [hempty, hstop, hreference]
  split_ifs with hidle
  · exact .inl ⟨rfl, rfl⟩
  · cases hevents : t.events with
    | nil =>
        rw [hevents] at hidle
        exact absurd rfl hidle
    | cons ev rest =>
        rw [hevents] at hR
        obtain ⟨events', hnext, hR'⟩ := hQ.removeNext_cons hR
        have hnext' : Q.removeNext (t.withEvents events).events = some (ev, events') := hnext
        have hrest : reference.removeNext (ev :: rest) = some (ev, rest) := rfl
        have hts : t.currentTs ≤ ev.ts := by
          have hlt := haccounts.current_lt ev (hevents ▸ List.mem_cons_self)
          exact Prod.Lex.monotone_fst _ _ hlt.le
        rw [hnext', hrest, Option.bind_some, Option.bind_some, if_pos hts,
          if_pos (show (t.withEvents events).currentTs ≤ ev.ts from hts)]
        exact .inr ⟨_, events', rfl, rfl, ev.ts, le_rfl, hR'⟩

/-- Every step has the counterpart that it has for the list of the pending events. -/
theorem matches_step (hQ : Implements Q R) (haccounts : Accounts t) (hholds : Holds R t events)
    (a : SimulatorAction) :
    Matches R ((t.withEvents events).simulatorStep Q a) (t.simulatorStep reference a) := by
  cases a with
  | schedule delay => exact .scheduleWithContext hQ haccounts hholds t.currentContext delay
  | scheduleWithContext context delay =>
      exact .scheduleWithContext hQ haccounts hholds context delay
  | scheduleDestroy =>
      exact .inr ⟨t.scheduleDestroy, events, rfl, rfl, hholds.congr rfl rfl⟩
  | cancel id =>
      rw [simulatorStep, simulatorStep, withEvents_cancel]
      have hscheduled : (t.withEvents events).scheduled = t.scheduled := rfl
      rw [hscheduled]
      split_ifs
      · exact .inr ⟨t.cancel id, events, rfl, rfl, holds_cancel hholds id⟩
      · exact .inl ⟨rfl, rfl⟩
  | remove ev =>
      rw [simulatorStep, simulatorStep]
      have hscheduled : (t.withEvents events).scheduled = t.scheduled := rfl
      rw [hscheduled]
      split_ifs with hev
      · exact .remove hQ haccounts hholds hev
      · exact .inl ⟨rfl, rfl⟩
  | removeDestroy id =>
      exact .inr ⟨t.removeDestroy id, events, rfl, rfl, hholds.congr rfl rfl⟩
  | run => exact .inr ⟨{ t with stop := false }, events, rfl, rfl, hholds.congr rfl rfl⟩
  | runNext => exact .runNext hQ haccounts hholds
  | stop => exact .inr ⟨{ t with stop := true }, events, rfl, rfl, hholds.congr rfl rfl⟩
  | destroyNext =>
      rw [simulatorStep, simulatorStep]
      unfold destroyNext
      have hdestroy : (t.withEvents events).destroyEvents = t.destroyEvents := rfl
      rw [hdestroy]
      cases t.destroyEvents with
      | nil => exact .inl ⟨rfl, rfl⟩
      | cons id rest => exact .inr ⟨_, events, rfl, rfl, hholds.congr rfl rfl⟩

/-! ## Whole runs -/

/-- Every event was executed, was removed or is pending, and is in one place only.  Events are
executed in their order, those that are pending come later, and the next one is the first of them.
A cancelled event is not notified, and `IsExpired` knows which events are still to run. -/
structure Orderly (Q : PriorityQueue σ Event) (s : DefaultSimulatorImpl σ)
    (pending : List Event) : Prop where
  accounted : s.scheduled.Perm (s.executed ++ s.removed ++ pending)
  distinct : s.scheduled.Pairwise fun a b => a.uid ≠ b.uid
  inOrder : (s.executed ++ pending).Pairwise Before
  past : ∀ ev ∈ s.executed, ev.ts ≤ s.currentTs
  future : ∀ ev ∈ pending, s.currentTs ≤ ev.ts
  notified_eq : s.notified = (s.executed.filter fun ev => ev.impl ∉ s.cancelled).map Event.impl
  isExpired_iff : ∀ ev ∈ s.scheduled,
    s.isExpired ev.id = false ↔ ev ∈ pending ∧ ev.impl ∉ s.cancelled
  unscheduled_eq : s.unscheduledEvents = pending.length
  isEmpty_eq : Q.isEmpty s.events = pending.isEmpty
  goes_on : ∀ ev ∈ pending.head?, ∃ s', s.processOneEvent Q = some s' ∧
    s'.executed = s.executed ++ [ev] ∧ s'.currentTs = ev.ts

theorem orderly_withEvents (hQ : Implements Q R) (haccounts : Accounts t)
    (hholds : Holds R t events) : Orderly Q (t.withEvents events) t.events where
  accounted := haccounts.perm
  distinct := haccounts.uids
  inOrder := haccounts.inOrder
  past ev hev := Prod.Lex.monotone_fst _ _ (haccounts.executed_le ev hev)
  future ev hev := Prod.Lex.monotone_fst _ _ (haccounts.current_lt ev hev).le
  notified_eq := haccounts.notified_eq
  isExpired_iff ev hev := haccounts.isExpired_iff hev
  unscheduled_eq := haccounts.unscheduled_eq
  isEmpty_eq := by
    obtain ⟨last, -, hR⟩ := hholds
    exact hQ.isEmpty hR
  goes_on ev hev := by
    obtain ⟨last, -, hR⟩ := hholds
    obtain ⟨rest, hevents⟩ := List.head?_eq_some_iff.mp hev
    rw [hevents] at hR
    obtain ⟨events', hnext, -⟩ := hQ.removeNext_cons hR
    have hnext' : Q.removeNext (t.withEvents events).events = some (ev, events') := hnext
    have hlt := haccounts.current_lt ev (hevents ▸ List.mem_cons_self)
    have hts : (t.withEvents events).currentTs ≤ ev.ts := Prod.Lex.monotone_fst _ _ hlt.le
    unfold processOneEvent
    rw [hnext', Option.bind_some, if_pos hts]
    exact ⟨_, rfl, rfl, rfl⟩

/-- A simulator that is reached has a counterpart with the list of its pending events. -/
theorem exists_reference_of_reachable (hQ : Implements Q R) {s : DefaultSimulatorImpl σ}
    (hreach : (simulatorSystem Q).ReachableBy NumbersLeft s) :
    ∃ t events, s = withEvents t events ∧ Accounts t ∧ Holds R t events := by
  refine hreach.invariant
    (P := fun s => ∃ t events, s = withEvents t events ∧ Accounts t ∧ Holds R t events) ?_ ?_
  · rintro s rfl
    exact ⟨{ events := [] }, Q.empty, rfl, .fresh, ⊥, bot_le, hQ.empty⟩
  · rintro - a s' ⟨t, events, rfl, haccounts, hholds⟩ hguard hstep
    have hstep' : (t.withEvents events).simulatorStep Q a = some s' := hstep
    rcases matches_step hQ haccounts hholds a with ⟨hnone, -⟩ | ⟨t', events', heq, ht, hholds'⟩
    · cases hnone.symm.trans hstep'
    · cases heq.symm.trans hstep'
      exact ⟨t', events', rfl, haccounts.step hguard ht, hholds'⟩

/-- With any scheduler that hands out the events in their order, the simulator runs every event at
most once and in order, and loses none. -/
theorem orderly_of_reachable (hQ : Implements Q R) {s : DefaultSimulatorImpl σ}
    (hreach : (simulatorSystem Q).ReachableBy NumbersLeft s) :
    ∃ pending, Orderly Q s pending := by
  obtain ⟨t, events, rfl, haccounts, hholds⟩ := exists_reference_of_reachable hQ hreach
  exact ⟨t.events, orderly_withEvents hQ haccounts hholds⟩

/-- A step takes at most one number. -/
theorem uid_step_le {s s' : DefaultSimulatorImpl σ} (hstep : s.simulatorStep Q a = some s') :
    s'.uid ≤ s.uid + (if takesNumber a then 1 else 0) := by
  have hmod : toU32 (s.uid + 1) ≤ s.uid + 1 := Nat.mod_le _ _
  have hschedule : ∀ {context delay}, s.scheduleWithContext Q context delay = some s' →
      s'.uid ≤ s.uid + 1 := by
    intro context delay hschedule
    unfold scheduleWithContext at hschedule
    split_ifs at hschedule
    cases hschedule
    exact hmod
  cases a with
  | schedule delay => exact hschedule hstep
  | scheduleWithContext context delay => exact hschedule hstep
  | scheduleDestroy =>
      cases hstep
      exact hmod
  | cancel id =>
      rw [simulatorStep] at hstep
      split_ifs at hstep
      cases hstep
      have huid : (s.cancel id).uid = s.uid := by
        unfold cancel
        split_ifs <;> rfl
      exact huid.le.trans (Nat.le_add_right _ _)
  | remove ev =>
      rw [simulatorStep] at hstep
      unfold remove at hstep
      split_ifs at hstep
      · cases hstep
        exact le_rfl
      · obtain ⟨events, -, rfl⟩ := Option.map_eq_some_iff.mp hstep
        exact le_rfl
  | removeDestroy id =>
      cases hstep
      exact le_rfl
  | run =>
      cases hstep
      exact le_rfl
  | runNext =>
      rw [simulatorStep] at hstep
      unfold runNext processOneEvent at hstep
      split_ifs at hstep
      obtain ⟨next, -, hnext⟩ := Option.bind_eq_some_iff.mp hstep
      split_ifs at hnext
      cases hnext
      exact le_rfl
  | stop =>
      cases hstep
      exact le_rfl
  | destroyNext =>
      rw [simulatorStep] at hstep
      unfold destroyNext at hstep
      split at hstep
      · cases hstep
      · cases hstep
        exact le_rfl

/-- Numbers are left throughout a run that takes no more than there are. -/
theorem guardedRun_of_count {s : DefaultSimulatorImpl σ} {actions : List SimulatorAction}
    (hcount : s.uid + actions.countP takesNumber < 2 ^ 32) :
    (simulatorSystem Q).GuardedRun NumbersLeft s actions := by
  induction actions generalizing s with
  | nil => trivial
  | cons a actions ih =>
      rw [List.countP_cons] at hcount
      refine ⟨fun htakes => ?_, fun s' hstep => ih ?_⟩
      · rw [if_pos htakes] at hcount
        omega
      · have hle : s'.uid ≤ s.uid + (if takesNumber a then 1 else 0) := uid_step_le hstep
        split_ifs at hle hcount <;> omega

/-- Two simulators with different schedulers do the same. -/
theorem runActions_alike (hQ : Implements Q R) (hQ' : Implements Q' R') {events' : τ}
    {actions : List SimulatorAction} {s : DefaultSimulatorImpl σ} (haccounts : Accounts t)
    (hholds : Holds R t events) (hholds' : Holds R' t events')
    (hcount : t.uid + actions.countP takesNumber < 2 ^ 32)
    (hrun : (simulatorSystem Q).runActions (t.withEvents events) actions = some s) :
    ∃ last, (simulatorSystem Q').runActions (t.withEvents events') actions =
      some (s.withEvents last) := by
  induction actions generalizing t events events' with
  | nil =>
      cases hrun
      exact ⟨events', rfl⟩
  | cons a actions ih =>
      rw [List.countP_cons] at hcount
      obtain ⟨s₁, hstep, hrest⟩ := TransitionSystem.runActions_cons_eq_some.mp hrun
      have hstep₁ : (t.withEvents events).simulatorStep Q a = some s₁ := hstep
      rcases matches_step hQ haccounts hholds a with ⟨hnone, -⟩ | ⟨t₁, events₁, heq, ht, hholds₁⟩
      · cases hnone.symm.trans hstep₁
      cases heq.symm.trans hstep₁
      rcases matches_step hQ' haccounts hholds' a with
        ⟨-, hnone⟩ | ⟨t₂, events₂, heq', ht', hholds₂⟩
      · cases hnone.symm.trans ht
      cases ht.symm.trans ht'
      have hguard : t.NumbersLeft a := by
        intro htakes
        rw [if_pos htakes] at hcount
        omega
      have hle := uid_step_le ht
      obtain ⟨last, hlast⟩ := ih (haccounts.step hguard ht) hholds₁ hholds₂
        (by split_ifs at hle hcount <;> omega) hrest
      refine ⟨last, TransitionSystem.runActions_cons_eq_some.mpr ⟨_, heq', hlast⟩⟩

/-- The scheduler does not matter: what the simulator does with one scheduler it does with any
other, with the same events executed, notified and pending at the same times. -/
theorem run_with_other_scheduler (hQ : Implements Q R) (hQ' : Implements Q' R')
    {actions : List SimulatorAction} {s : DefaultSimulatorImpl σ}
    (hcount : EventId.valid + actions.countP takesNumber < 2 ^ 32)
    (hrun : (simulatorSystem Q).runActions { events := Q.empty } actions = some s) :
    ∃ events', (simulatorSystem Q').runActions { events := Q'.empty } actions =
      some (s.withEvents events') :=
  runActions_alike (t := { events := [] }) hQ hQ' .fresh ⟨⊥, bot_le, hQ.empty⟩
    ⟨⊥, bot_le, hQ'.empty⟩ hcount hrun

/-- Three events are scheduled, of which one is cancelled and one removed, and one of them
schedules another. -/
def sampleRun : List SimulatorAction :=
  [.schedule 20, .schedule 10, .scheduleWithContext 3 10, .cancel ⟨some 1, 10, 0xffffffff, 5⟩,
    .remove ⟨0, ⟨20, 4, 0xffffffff, by decide⟩⟩, .run, .runNext, .schedule 0, .runNext, .runNext]

theorem orderly_of_reachable_sample :
    ∃ s, (simulatorSystem (calendarScheduler false)).runActions
        { events := (calendarScheduler false).empty } sampleRun = some s ∧
      s.notified = [2, 3] ∧ ∃ pending, Orderly (calendarScheduler false) s pending := by
  obtain ⟨s, hrun⟩ : ∃ s, (simulatorSystem (calendarScheduler false)).runActions
      { events := (calendarScheduler false).empty } sampleRun = some s := ⟨_, rfl⟩
  have hreach : (simulatorSystem (calendarScheduler false)).ReachableBy NumbersLeft s :=
    TransitionSystem.ReachableBy.of_guardedRun (.init rfl) (guardedRun_of_count (by decide)) hrun
  refine ⟨s, hrun, ?_, orderly_of_reachable (implements_calendarScheduler false) hreach⟩
  cases hrun
  rfl

theorem run_with_other_scheduler_sample :
    ∃ s, (simulatorSystem (calendarScheduler true)).runActions
        { events := (calendarScheduler true).empty } sampleRun = some s ∧
      ∃ events', (simulatorSystem mapScheduler).runActions
        { events := mapScheduler.empty } sampleRun = some (s.withEvents events') := by
  obtain ⟨s, hrun⟩ : ∃ s, (simulatorSystem (calendarScheduler true)).runActions
      { events := (calendarScheduler true).empty } sampleRun = some s := ⟨_, rfl⟩
  exact ⟨s, hrun, run_with_other_scheduler (implements_calendarScheduler true)
    implements_mapScheduler (by decide) hrun⟩

end DefaultSimulatorImpl
end UeSim
