import UeSim.Network.ChannelSystem
import Mathlib.Data.List.Count
import Mathlib.Data.List.Nodup

/-!
# What becomes of the copies

A call of `Transmit` owes a copy to every device that it is for.  A copy that is no longer owed is
dropped, or with its device, or on its way to it, or it is the one copy that is held.  A held copy
and its timer stay in step in whatever order the events run.  Times are natural numbers that do not
wrap, as in the model of the channel.
-/

namespace UeSim

/-- The copy that an event delivers. -/
def ChannelEvent.copy? : ChannelEvent → Option ChannelCopy
  | .receivePacket copy => some copy
  | .releaseHeldPacket _ => none

namespace SoftUeChannel

variable {env : ChannelEnvironment} {s s' : SoftUeChannel} {owed : List ChannelTarget}
variable {target : ChannelTarget} {copy : ChannelCopy} {delay : ℕ}

/-! ## Where the copies are -/

/-- The copies whose reception is scheduled, in the order in which they arrive. -/
def pendingCopies (s : SoftUeChannel) : List ChannelCopy :=
  s.events.pending.filterMap fun e => e.action.copy?

/-- The copy that is held. -/
def heldTargets (s : SoftUeChannel) : List ChannelTarget :=
  s.held.toList.map fun held => held.copy.target

/-- All copies: those that were dropped, those that have arrived, those on their way, and the one
that is held. -/
def copies (s : SoftUeChannel) : List ChannelTarget :=
  s.dropped ++ s.delivered.map ChannelCopy.target ++ s.ignored.map ChannelCopy.target ++
    s.pendingCopies.map ChannelCopy.target ++ s.heldTargets

/-- The copies are those of the targets, but for the ones that are still owed.  The copies that
were held are the ones that were released and the one that is held now, and the release timer is
the event that the channel remembers. -/
structure Conserved (s : SoftUeChannel) (owed : List ChannelTarget) : Prop where
  balance : ∀ target, s.copies.count target + owed.count target = s.targets.count target
  holds_eq : s.holds = s.releases ++ s.heldTargets
  holds_le : ∀ target, s.holds.count target + s.dropped.count target ≤ s.copies.count target
  delivered : ∀ copy ∈ s.delivered, copy.dest.localFep.isSome
  ignored : ∀ copy ∈ s.ignored, copy.dest.localFep = none
  ordered : s.events.Ordered
  timer : ∀ e ∈ s.events.pending, e.action.copy? = none ↔ some e.uid = s.heldFlushEvent
  flushEvent_lt : ∀ uid, s.heldFlushEvent = some uid → uid < s.events.nextUid

/-- While a copy is held its timer is pending, if there is one, and no timer is pending
otherwise. -/
structure TimerInStep (s : SoftUeChannel) : Prop where
  held : ∀ e ∈ s.events.pending, e.action.copy? = none → ∃ held, s.held = some held ∧
    0 < s.config.reorderHoldDelay ∧ e.action = .releaseHeldPacket held.delay ∧
    e.time = held.heldAt + s.config.reorderHoldDelay
  pending : ∀ held, s.held = some held → 0 < s.config.reorderHoldDelay →
    ∃ e ∈ s.events.pending, e.action.copy? = none

theorem Conserved.congr (h : Conserved s owed) (htraffic : s'.traffic = s.traffic) :
    Conserved s' owed := by
  have hs : Conserved s.traffic owed := { h with }
  rw [← htraffic] at hs
  exact { hs with }

theorem TimerInStep.congr (h : TimerInStep s) (htraffic : s'.traffic = s.traffic) :
    TimerInStep s' := by
  have hs : TimerInStep s.traffic := { h with }
  rw [← htraffic] at hs
  exact { hs with }

/-! ## The operations on a copy -/

theorem count_copies (s : SoftUeChannel) (target : ChannelTarget) :
    s.copies.count target = s.dropped.count target +
      (s.delivered.map ChannelCopy.target).count target +
      (s.ignored.map ChannelCopy.target).count target +
      (s.pendingCopies.map ChannelCopy.target).count target + s.heldTargets.count target := by
  simp only [copies, List.count_append]

/-- An event that is scheduled adds the copy that it delivers. -/
theorem count_copies_schedule (s : SoftUeChannel) (target : ChannelTarget) (delay : ℕ)
    (event : ChannelEvent) :
    ({ s with events := s.events.schedule delay event } : SoftUeChannel).copies.count target =
      s.copies.count target + (event.copy?.toList.map ChannelCopy.target).count target := by
  have hperm := (s.events.perm_schedule delay event).filterMap fun e => e.action.copy?
  have hpending : (({ s with events := s.events.schedule delay event } :
      SoftUeChannel).pendingCopies.map ChannelCopy.target).count target =
        (s.pendingCopies.map ChannelCopy.target).count target +
          (event.copy?.toList.map ChannelCopy.target).count target := by
    rw [pendingCopies, (hperm.map ChannelCopy.target).count_eq, List.filterMap_cons]
    cases h : event.copy? with
    | none => simp [EventQueue.newEvent, h, pendingCopies]
    | some copy => simp [EventQueue.newEvent, h, pendingCopies, List.count_cons]
  have hheld : ({ s with events := s.events.schedule delay event } : SoftUeChannel).heldTargets =
      s.heldTargets := rfl
  rw [count_copies, count_copies, hpending, hheld]
  dsimp only
  omega

/-- A copy that is held is one more, if none was held before. -/
theorem count_copies_hold (target : ChannelTarget) (hheld : s.held = none)
    (held : HeldTransmission) (holds : List ChannelTarget) :
    ({ s with held := some held, holds := holds } : SoftUeChannel).copies.count target =
      s.copies.count target + [held.copy.target].count target := by
  have hnone : s.heldTargets = [] := by rw [heldTargets, hheld]; rfl
  have hsome : ({ s with held := some held, holds := holds } : SoftUeChannel).heldTargets =
      [held.copy.target] := rfl
  have hpending : ({ s with held := some held, holds := holds } : SoftUeChannel).pendingCopies =
      s.pendingCopies := rfl
  rw [count_copies, count_copies, hnone, hsome, hpending, List.count_nil]
  dsimp only
  omega

/-- A copy that arrives moves from the events to the devices. -/
theorem count_copies_receivePacket (target : ChannelTarget) {e : ScheduledEvent ChannelEvent}
    {q : EventQueue ChannelEvent} (hpending : s.events.pending = e :: q.pending)
    (haction : e.action = .receivePacket copy) :
    (({ s with events := q } : SoftUeChannel).receivePacket copy).copies.count target =
      s.copies.count target := by
  have hcopies : s.pendingCopies = copy :: q.pending.filterMap fun e => e.action.copy? := by
    rw [pendingCopies, hpending, List.filterMap_cons, haction]
    rfl
  unfold SoftUeChannel.receivePacket
  split_ifs
  · rw [count_copies, count_copies s, hcopies]
    simp only [pendingCopies, heldTargets, List.map_append, List.count_append, List.map_cons,
      List.map_nil, List.count_cons, List.count_nil]
    omega
  · rw [count_copies, count_copies s, hcopies]
    simp only [pendingCopies, heldTargets, List.map_append, List.count_append, List.map_cons,
      List.map_nil, List.count_cons, List.count_nil]
    omega

/-- The timer is still the only event that delivers nothing, when a reception is scheduled. -/
theorem Conserved.timer_schedule (h : Conserved s owed) (delay : ℕ) (copy : ChannelCopy) :
    ∀ e ∈ (s.events.schedule delay (.receivePacket copy)).pending,
      e.action.copy? = none ↔ some e.uid = s.heldFlushEvent := by
  intro e he
  rcases EventQueue.mem_schedule.mp he with rfl | he
  · refine iff_of_false (Option.some_ne_none copy) fun huid => ?_
    exact (h.flushEvent_lt _ huid.symm).false
  · exact h.timer e he

theorem Conserved.dropCopy (h : Conserved s (target :: owed)) :
    Conserved (s.dropCopy target) owed := by
  have hcount : ∀ t, (s.dropCopy target).copies.count t =
      s.copies.count t + [target].count t := by
    intro t
    have hpending : (s.dropCopy target).pendingCopies = s.pendingCopies := rfl
    have hheld : (s.dropCopy target).heldTargets = s.heldTargets := rfl
    rw [count_copies, count_copies, hpending, hheld]
    simp only [SoftUeChannel.dropCopy, List.count_append]
    omega
  exact
    { h with
      balance := fun t => by
        have hbalance := h.balance t
        rw [List.count_cons] at hbalance
        change (s.dropCopy target).copies.count t + owed.count t = s.targets.count t
        rw [hcount, List.count_singleton]
        omega
      holds_le := fun t => by
        have hle := h.holds_le t
        change s.holds.count t + (s.dropped ++ [target]).count t ≤ _
        rw [hcount, List.count_append]
        omega }

theorem Conserved.scheduleReceive (h : Conserved s (copy.target :: owed)) (delay : ℕ) :
    Conserved (s.scheduleReceive copy delay) owed where
  balance t := by
    have hbalance := h.balance t
    rw [List.count_cons] at hbalance
    rw [SoftUeChannel.scheduleReceive, count_copies_schedule, ← hbalance]
    simp only [ChannelEvent.copy?, Option.toList_some, List.map_singleton, List.count_singleton]
    omega
  holds_eq := h.holds_eq
  holds_le t := by
    rw [SoftUeChannel.scheduleReceive, count_copies_schedule]
    exact (h.holds_le t).trans (Nat.le_add_right _ _)
  delivered := h.delivered
  ignored := h.ignored
  ordered := h.ordered.schedule delay _
  timer := h.timer_schedule delay copy
  flushEvent_lt uid huid := Nat.lt_succ_of_lt (h.flushEvent_lt uid huid)

theorem TimerInStep.scheduleReceive (h : TimerInStep s) (copy : ChannelCopy) (delay : ℕ) :
    TimerInStep (s.scheduleReceive copy delay) where
  held e he hcopy := by
    rcases EventQueue.mem_schedule.mp he with rfl | he
    · cases hcopy
    · exact h.held e he hcopy
  pending held hheld hpos := by
    obtain ⟨e, he, hcopy⟩ := h.pending held hheld hpos
    exact ⟨e, EventQueue.mem_schedule.mpr (.inr he), hcopy⟩

/-- Without a held copy no timer is pending. -/
theorem TimerInStep.isPending (h : TimerInStep s) (hconserved : Conserved s owed)
    (hheld : s.held = none) : s.events.isPending s.heldFlushEvent = false := by
  rw [EventQueue.isPending, List.any_eq_false]
  intro e he huid
  have hcopy := (hconserved.timer e he).mpr (of_decide_eq_true huid)
  obtain ⟨held, hsome, -⟩ := h.held e he hcopy
  cases hheld.symm.trans hsome

/-- The copies when one more of them is held. -/
theorem Conserved.hold (h : Conserved s (copy.target :: owed)) (hheld : s.held = none)
    (held : HeldTransmission) (hcopy : held.copy.target = copy.target) :
    Conserved { s with held := some held, holds := s.holds ++ [copy.target] } owed :=
  { h with
    balance := fun t => by
      have hbalance := h.balance t
      rw [List.count_cons] at hbalance
      rw [count_copies_hold t hheld, hcopy, List.count_singleton]
      dsimp only
      omega
    holds_eq := by
      have heq := h.holds_eq
      rw [heldTargets, hheld] at heq
      simp only [heldTargets, heq, Option.toList_none, Option.toList_some, List.map_nil,
        List.append_nil, List.map_singleton, hcopy]
    holds_le := fun t => by
      have hle := h.holds_le t
      rw [count_copies_hold t hheld, hcopy, List.count_append]
      dsimp only
      omega }

/-- The timer of a copy is set when no other timer is pending. -/
theorem Conserved.arm (h : Conserved s owed)
    (hpending : s.events.isPending s.heldFlushEvent = false) (wait delay : ℕ) :
    Conserved { s with
      heldFlushEvent := some s.events.nextUid
      events := s.events.schedule wait (.releaseHeldPacket delay) } owed where
  balance t :=
    (congrArg (· + owed.count t)
      (count_copies_schedule s t wait (.releaseHeldPacket delay))).trans (h.balance t)
  holds_eq := h.holds_eq
  holds_le t :=
    (h.holds_le t).trans_eq (count_copies_schedule s t wait (.releaseHeldPacket delay)).symm
  delivered := h.delivered
  ignored := h.ignored
  ordered := h.ordered.schedule wait _
  timer e he := by
    rcases EventQueue.mem_schedule.mp he with rfl | he
    · exact iff_of_true rfl rfl
    · refine iff_of_false (fun hcopy => ?_) fun huid => ?_
      · rw [EventQueue.isPending, List.any_eq_false] at hpending
        exact hpending e he (decide_eq_true ((h.timer e he).mp hcopy))
      · exact (h.ordered.uid_lt e he).ne (Option.some_injective _ huid)
  flushEvent_lt uid huid := by
    cases huid
    exact Nat.lt_succ_self _

theorem Conserved.holdCopy (h : Conserved s (copy.target :: owed))
    (hheld : s.held = none) (delay : ℕ) : Conserved (s.holdCopy copy delay) owed := by
  have hholding := h.hold hheld ⟨{ copy with wasHeld := true }, delay, s.events.now⟩ rfl
  rw [holdCopy_cases]
  split_ifs with hguard
  · exact hholding.arm hguard.2 _ _
  · exact hholding

theorem TimerInStep.holdCopy (htimer : TimerInStep s) (h : Conserved s owed)
    (hheld : s.held = none) (copy : ChannelCopy) (delay : ℕ) :
    TimerInStep (s.holdCopy copy delay) := by
  have hpending := htimer.isPending h hheld
  have hnone : ∀ e ∈ s.events.pending, e.action.copy? ≠ none := by
    intro e he hcopy
    obtain ⟨held, hsome, -⟩ := htimer.held e he hcopy
    cases hheld.symm.trans hsome
  rw [holdCopy_cases]
  split_ifs with hguard
  · refine ⟨fun e he hcopy => ?_, fun _ _ _ => ?_⟩
    · rcases EventQueue.mem_schedule.mp he with rfl | he
      · exact ⟨_, rfl, hguard.1, rfl, rfl⟩
      · exact absurd hcopy (hnone e he)
    · exact ⟨_, EventQueue.mem_schedule.mpr (.inl rfl), rfl⟩
  · refine ⟨fun e he hcopy => absurd hcopy (hnone e he), fun _ _ hpos => ?_⟩
    exact absurd ⟨hpos, hpending⟩ hguard

/-! ## A release -/

/-- The channel after its timer is cancelled. -/
theorem Conserved.cancel (h : Conserved s owed) :
    Conserved s.cancelTimer owed := by
  have hpending : s.cancelTimer.pendingCopies = s.pendingCopies := by
    simp only [pendingCopies, cancelTimer, EventQueue.cancel, List.filterMap_filter]
    refine List.filterMap_congr fun e he => ?_
    split_ifs with huid
    · rfl
    · exact ((h.timer e he).mpr (by simpa using huid)).symm
  exact
    { h with
      balance := fun t => by
        rw [copies, hpending]
        exact h.balance t
      holds_le := fun t => by
        rw [copies, hpending]
        exact h.holds_le t
      ordered := h.ordered.cancel _
      timer := fun e he => h.timer e (List.mem_of_mem_filter he) }

/-- The held copy is scheduled, and no copy is held. -/
theorem Conserved.release (h : Conserved s owed) {held : HeldTransmission}
    (hheld : s.held = some held) (delay : ℕ) :
    Conserved { s.scheduleReceive held.copy delay with
      held := none
      releases := s.releases ++ [held.copy.target] } owed := by
  have hcount : ∀ t, ({ s.scheduleReceive held.copy delay with
      held := none
      releases := s.releases ++ [held.copy.target] } : SoftUeChannel).copies.count t =
        s.copies.count t := by
    intro t
    have hscheduled := count_copies_schedule s t delay (.receivePacket held.copy)
    have hbefore : s.heldTargets = [held.copy.target] := by rw [heldTargets, hheld]; rfl
    rw [count_copies, count_copies s, hbefore] at hscheduled
    rw [count_copies, count_copies s, hbefore]
    simp only [pendingCopies, heldTargets, hheld, SoftUeChannel.scheduleReceive,
      ChannelEvent.copy?, Option.toList_none, Option.toList_some, List.map_nil, List.map_singleton,
      List.count_nil] at hscheduled ⊢
    omega
  exact
    { balance := fun t => by
        rw [hcount]
        exact h.balance t
      holds_eq := by
        have heq := h.holds_eq
        rw [heldTargets, hheld] at heq
        exact heq.trans (List.append_nil _).symm
      holds_le := fun t => by
        rw [hcount]
        exact h.holds_le t
      delivered := h.delivered
      ignored := h.ignored
      ordered := h.ordered.schedule delay _
      timer := h.timer_schedule delay held.copy
      flushEvent_lt := fun uid huid => Nat.lt_succ_of_lt (h.flushEvent_lt uid huid) }

theorem Conserved.releaseHeldPacket (h : Conserved s owed) (scheduleDelay : ℕ) :
    Conserved (s.releaseHeldPacket env scheduleDelay) owed := by
  cases hheld : s.held with
  | none =>
      rw [releaseHeldPacket_of_none env hheld]
      exact h
  | some held =>
      obtain ⟨delayed, -, htraffic, heq⟩ := releaseHeldPacket_of_held env hheld scheduleDelay
      have hsame := eq_of_traffic htraffic SoftUeChannel.held fun _ => rfl
      rw [heq]
      exact (h.cancel.congr htraffic).release (hsame.trans hheld) _

/-- After a release nothing is held and no timer is pending. -/
theorem TimerInStep.releaseHeldPacket (h : Conserved s owed) {held : HeldTransmission}
    (hheld : s.held = some held) (scheduleDelay : ℕ) :
    TimerInStep (s.releaseHeldPacket env scheduleDelay) := by
  obtain ⟨delayed, -, htraffic, heq⟩ := releaseHeldPacket_of_held env hheld scheduleDelay
  have hevents := eq_of_traffic htraffic SoftUeChannel.events fun _ => rfl
  rw [heq]
  refine ⟨fun e he hcopy => ?_, fun _ hsome => nomatch hsome⟩
  rcases EventQueue.mem_schedule.mp he with rfl | he
  · cases hcopy
  · rw [hevents, cancelTimer, EventQueue.cancel, List.mem_filter] at he
    exact absurd ((h.timer e he.1).mp hcopy) (of_decide_eq_true he.2)

/-! ## Transmit -/

/-- The channel pays what it owes to a device. -/
theorem Conserved.transmitCopy (env : ChannelEnvironment)
    (h : Conserved s (copy.target :: owed)) (htimer : TimerInStep s) (reserved : Option ℕ) :
    Conserved (s.transmitCopy env reserved copy).1 owed ∧
      TimerInStep (s.transmitCopy env reserved copy).1 := by
  obtain ⟨t, htraffic, -, heq | heq⟩ := transmitCopy_cases env s reserved copy
  · rw [heq]
    exact ⟨(h.congr htraffic).dropCopy, { htimer.congr htraffic with }⟩
  · have hdelayed := (traffic_receiveDelay env t reserved copy).trans htraffic
    rw [heq]
    obtain ⟨u, hu, -, hcases⟩ := holdOrSchedule_cases env
      (t.receiveDelay env reserved copy).1.1 copy (t.receiveDelay env reserved copy).1.2
    have hconserved := h.congr (hu.trans hdelayed)
    have hstep := htimer.congr (hu.trans hdelayed)
    rcases hcases with ⟨hheld, hresult⟩ | hresult
    · have hnone : u.held = none := (eq_of_traffic hu SoftUeChannel.held fun _ => rfl).trans hheld
      rw [forwardCopy, hresult]
      exact ⟨hconserved.holdCopy hnone _, hstep.holdCopy hconserved hnone copy _⟩
    · rw [forwardCopy, hresult]
      exact ⟨hconserved.scheduleReceive _, hstep.scheduleReceive copy _⟩

theorem isDestination_congr (hdevices : s'.devices = s.devices) :
    s'.isDestination = s.isDestination := by
  funext src destFep dest
  unfold isDestination getDestinationFepForDevice
  rw [hdevices]

/-- The loop of `Transmit` pays what it owes. -/
theorem Conserved.transmitTo {src : ChannelDevice} {copyFor : ChannelDevice → ChannelCopy}
    (destFep : UInt32) (id : ℕ) (hdestFep : ∀ dest, (copyFor dest).destFep = destFep)
    (htarget : ∀ dest, (copyFor dest).target = (id, dest)) (devices : List ChannelDevice)
    (h : Conserved s ((devices.filter (s.isDestination src destFep)).map fun dest => (id, dest)))
    (htimer : TimerInStep s) (reserved : Option ℕ) :
    Conserved (SoftUeChannel.transmitTo env src copyFor devices s reserved) [] ∧
      TimerInStep (SoftUeChannel.transmitTo env src copyFor devices s reserved) := by
  obtain ⟨-, hconserved, hstep, -⟩ := transmitTo_induction env src copyFor
    (P := fun rest t _ => Conserved t
        ((rest.filter (s.isDestination src destFep)).map fun dest => (id, dest)) ∧
      TimerInStep t ∧ t.devices = s.devices)
    (fun dest rest t _ hdest ⟨hconserved, hstep, hdevices⟩ => by
      rw [isDestination_congr hdevices, hdestFep] at hdest
      rw [List.filter_cons_of_neg (by simp [hdest])] at hconserved
      exact ⟨hconserved, hstep, hdevices⟩)
    (fun dest rest t reserved hdest ⟨hconserved, hstep, hdevices⟩ => by
      rw [isDestination_congr hdevices, hdestFep] at hdest
      rw [List.filter_cons_of_pos hdest, List.map_cons, ← htarget] at hconserved
      have hpaid := hconserved.transmitCopy env hstep reserved
      have hcalls := (calls_transmitCopy env t reserved (copyFor dest)).1
      exact ⟨hpaid.1, hpaid.2, (congrArg Calls.devices hcalls).trans hdevices⟩)
    devices s reserved ⟨h, htimer, rfl⟩
  exact ⟨hconserved, hstep⟩

theorem Conserved.transmit (env : ChannelEnvironment) (h : Conserved s [])
    (htimer : TimerInStep s) (packet : Option ChannelPacket) (src : Option ChannelDevice)
    (sourceFep destFep : UInt32) :
    Conserved (s.transmit env packet src sourceFep destFep) [] ∧
      TimerInStep (s.transmit env packet src sourceFep destFep) := by
  unfold SoftUeChannel.transmit
  split
  · rename_i packet src
    have howed : Conserved (s.started src destFep) (s.targetsOf src destFep) :=
      { h with
        balance := fun t => by
          have hbalance := h.balance t
          rw [List.count_nil, Nat.add_zero] at hbalance
          rw [started, List.count_append, ← hbalance]
          rfl }
    have htraffic := traffic_ensurePathStateSize (s := s.started src destFep)
    have hdevices : (s.started src destFep).ensurePathStateSize.devices = s.devices :=
      eq_of_traffic htraffic SoftUeChannel.devices fun _ => rfl
    have hstep : TimerInStep (s.started src destFep) := { htimer with }
    refine Conserved.transmitTo destFep s.transmissions (fun _ => rfl) (fun _ => rfl)
      s.devices ?_ (hstep.congr htraffic) none
    rw [isDestination_congr hdevices]
    exact howed.congr htraffic
  · exact ⟨h, htimer⟩

/-! ## Events -/

/-- A copy arrives. -/
theorem Conserved.receivePacket (h : Conserved s []) (htimer : TimerInStep s)
    {e : ScheduledEvent ChannelEvent} {q : EventQueue ChannelEvent}
    (hpending : s.events.pending = e :: q.pending) (haction : e.action = .receivePacket copy)
    (hordered : q.Ordered) (huid : q.nextUid = s.events.nextUid) :
    Conserved (({ s with events := q } : SoftUeChannel).receivePacket copy) [] ∧
      TimerInStep (({ s with events := q } : SoftUeChannel).receivePacket copy) := by
  have hmem : ∀ e' ∈ q.pending, e' ∈ s.events.pending := by
    intro e' he'
    rw [hpending]
    exact List.mem_cons_of_mem _ he'
  have hstep : TimerInStep { s with events := q } := by
    refine ⟨fun e' he' => htimer.held e' (hmem e' he'), fun held hheld hpos => ?_⟩
    obtain ⟨e', he', hnone⟩ := htimer.pending held hheld hpos
    rw [hpending] at he'
    rcases List.mem_cons.mp he' with rfl | he'
    · rw [haction] at hnone
      cases hnone
    · exact ⟨e', he', hnone⟩
  have hcount := fun t => count_copies_receivePacket (s := s) t hpending haction
  have hlt : ∀ uid, s.heldFlushEvent = some uid → uid < q.nextUid := by
    rw [huid]
    exact h.flushEvent_lt
  have hbalance : ∀ t, (({ s with events := q } : SoftUeChannel).receivePacket copy).copies.count t
      + ([] : List ChannelTarget).count t = s.targets.count t := by
    intro t
    rw [hcount]
    exact h.balance t
  have hle : ∀ t, s.holds.count t + s.dropped.count t ≤
      (({ s with events := q } : SoftUeChannel).receivePacket copy).copies.count t := by
    intro t
    rw [hcount]
    exact h.holds_le t
  unfold SoftUeChannel.receivePacket at hbalance hle ⊢
  split_ifs at hbalance hle ⊢ with hdevice
  · refine ⟨⟨hbalance, h.holds_eq, hle, ?_, h.ignored, hordered,
      fun e' he' => h.timer e' (hmem e' he'), hlt⟩, { hstep with }⟩
    exact List.forall_mem_append.mpr ⟨h.delivered, List.forall_mem_singleton.mpr hdevice⟩
  · refine ⟨⟨hbalance, h.holds_eq, hle, h.delivered, ?_, hordered,
      fun e' he' => h.timer e' (hmem e' he'), hlt⟩, { hstep with }⟩
    refine List.forall_mem_append.mpr ⟨h.ignored, List.forall_mem_singleton.mpr ?_⟩
    exact Option.not_isSome_iff_eq_none.mp hdevice

/-- The timer of the held copy goes off. -/
theorem Conserved.fire (h : Conserved s []) {e : ScheduledEvent ChannelEvent}
    {q : EventQueue ChannelEvent} (hpending : s.events.pending = e :: q.pending)
    (haction : e.action.copy? = none) (hordered : q.Ordered)
    (huid : q.nextUid = s.events.nextUid) : Conserved { s with events := q } [] := by
  have hcopies : ({ s with events := q } : SoftUeChannel).pendingCopies = s.pendingCopies := by
    rw [pendingCopies, pendingCopies, hpending, List.filterMap_cons, haction]
  exact
    { h with
      balance := fun t => by
        rw [copies, hcopies]
        exact h.balance t
      holds_le := fun t => by
        rw [copies, hcopies]
        exact h.holds_le t
      ordered := hordered
      timer := fun e' he' => h.timer e' (by rw [hpending]; exact List.mem_cons_of_mem _ he')
      flushEvent_lt := by
        rw [huid]
        exact h.flushEvent_lt }

/-! ## Runs -/

/-- The devices and the targets are different. -/
structure Distinct (s : SoftUeChannel) : Prop where
  devices : s.devices.Nodup
  targets : s.targets.Nodup
  targets_lt : ∀ target ∈ s.targets, target.1 < s.transmissions

theorem Distinct.congr (h : Distinct s) (hcalls : s'.calls = s.calls) : Distinct s' := by
  have hdevices : s'.devices = s.devices := congrArg Calls.devices hcalls
  have htargets : s'.targets = s.targets := congrArg Calls.targets hcalls
  have htransmissions : s'.transmissions = s.transmissions := congrArg Calls.transmissions hcalls
  refine ⟨?_, ?_, ?_⟩
  · rw [hdevices]
    exact h.devices
  · rw [htargets]
    exact h.targets
  · rw [htargets, htransmissions]
    exact h.targets_lt

/-- The targets of a call are new. -/
theorem Distinct.started (h : Distinct s) (src : ChannelDevice) (destFep : UInt32) :
    Distinct (s.started src destFep) where
  devices := h.devices
  targets := by
    refine List.nodup_append.mpr ⟨h.targets, ?_, ?_⟩
    · exact (h.devices.filter _).map fun _ _ heq => (Prod.mk.inj heq).2
    · rintro target htarget _ hnew rfl
      obtain ⟨dest, -, rfl⟩ := List.mem_map.mp hnew
      exact (h.targets_lt _ htarget).false
  targets_lt target htarget := by
    rcases List.mem_append.mp htarget with hold | hnew
    · exact Nat.lt_succ_of_lt (h.targets_lt _ hold)
    · obtain ⟨dest, -, rfl⟩ := List.mem_map.mp hnew
      exact Nat.lt_succ_self _

/-- What holds after every action. -/
structure Consistent (s : SoftUeChannel) : Prop where
  conserved : Conserved s []
  timer : TimerInStep s
  distinct : Distinct s

theorem Consistent.fresh (h : Fresh s) : Consistent s := by
  rw [h]
  exact
    { conserved :=
        { balance := fun _ => rfl
          holds_eq := rfl
          holds_le := fun _ => le_rfl
          delivered := fun _ hmem => absurd hmem List.not_mem_nil
          ignored := fun _ hmem => absurd hmem List.not_mem_nil
          ordered := EventQueue.ordered_empty
          timer := fun _ hmem => absurd hmem List.not_mem_nil
          flushEvent_lt := fun _ huid => nomatch huid }
      timer :=
        { held := fun _ hmem => absurd hmem List.not_mem_nil
          pending := fun _ hheld => nomatch hheld }
      distinct := ⟨.nil, .nil, fun _ hmem => absurd hmem List.not_mem_nil⟩ }

theorem Consistent.releaseHeldPacket (h : Consistent s) (scheduleDelay : ℕ) :
    Consistent (s.releaseHeldPacket env scheduleDelay) where
  conserved := h.conserved.releaseHeldPacket scheduleDelay
  timer := by
    cases hheld : s.held with
    | none =>
        rw [releaseHeldPacket_of_none env hheld]
        exact h.timer
    | some held => exact .releaseHeldPacket h.conserved hheld scheduleDelay
  distinct := h.distinct.congr (calls_releaseHeldPacket scheduleDelay)

theorem Consistent.attach (h : Consistent s) (device : ChannelDevice) :
    Consistent (s.attach device) := by
  unfold SoftUeChannel.attach
  split_ifs with hmem
  · exact h
  · exact h
  · refine ⟨{ h.conserved with }, { h.timer with }, { h.distinct with devices := ?_ }⟩
    refine List.nodup_append.mpr ⟨h.distinct.devices, List.nodup_singleton _, ?_⟩
    rintro dest hdest _ hnew rfl
    exact hmem (List.mem_singleton.mp hnew ▸ hdest)

theorem Consistent.transmit (h : Consistent s) (packet : Option ChannelPacket)
    (src : Option ChannelDevice) (sourceFep destFep : UInt32) :
    Consistent (s.transmit env packet src sourceFep destFep) := by
  obtain ⟨hconserved, htimer⟩ :=
    h.conserved.transmit env h.timer packet src sourceFep destFep
  refine ⟨hconserved, htimer, ?_⟩
  match packet, src with
  | some packet, some src =>
      exact (h.distinct.started src destFep).congr
        (calls_transmit env s packet src sourceFep destFep).1
  | none, _ => exact h.distinct
  | some _, none => exact h.distinct

/-- The next event is run. -/
theorem Consistent.runEvent (h : Consistent s) {event : ChannelEvent}
    {q : EventQueue ChannelEvent} (hnext : s.events.next = some (event, q)) :
    Consistent (({ s with events := q } : SoftUeChannel).runEvent env event) := by
  obtain ⟨e, haction, hpending, -, huid⟩ := EventQueue.next_eq_some hnext
  have hordered := (h.conserved.ordered.next hnext).1
  cases event with
  | receivePacket copy =>
      obtain ⟨hconserved, htimer⟩ :=
        h.conserved.receivePacket h.timer hpending haction hordered huid
      refine ⟨hconserved, htimer, ?_⟩
      change Distinct (SoftUeChannel.receivePacket _ copy)
      unfold SoftUeChannel.receivePacket
      split_ifs <;> exact { h.distinct with }
  | releaseHeldPacket scheduleDelay =>
      have hnone : e.action.copy? = none := by rw [haction]; rfl
      obtain ⟨held, hheld, -⟩ :=
        h.timer.held e (by rw [hpending]; exact List.mem_cons_self) hnone
      have hfired := h.conserved.fire hpending hnone hordered huid
      exact ⟨hfired.releaseHeldPacket scheduleDelay,
        .releaseHeldPacket hfired hheld scheduleDelay,
        h.distinct.congr (calls_releaseHeldPacket scheduleDelay)⟩

theorem Consistent.quiet (h : Consistent s) (htraffic : s'.traffic = s.traffic) :
    Consistent s' :=
  ⟨h.conserved.congr htraffic, h.timer.congr htraffic,
    h.distinct.congr (calls_eq_of_traffic htraffic).1⟩

theorem Consistent.step (h : Consistent s) (a : ChannelAction)
    (hstep : s.channelStep env a = some s') : Consistent s' := by
  cases a with
  | attach device =>
      cases hstep
      exact h.attach device
  | transmit packet src sourceFep destFep =>
      cases hstep
      exact h.transmit packet src sourceFep destFep
  | flushHeldPacket =>
      cases hstep
      exact h.releaseHeldPacket 1
  | dropNextRequests count =>
      cases hstep
      exact h.quiet rfl
  | dropNextResponses count =>
      cases hstep
      exact h.quiet rfl
  | holdNextResponse =>
      cases hstep
      exact h.quiet rfl
  | clearDeterministicFaultPlan =>
      cases hstep
      exact h.quiet rfl
  | fillFabricRuntimeStats =>
      cases hstep
      exact h.quiet traffic_ensurePathStateSize
  | runEvent =>
      obtain ⟨⟨event, q⟩, hnext, rfl⟩ := Option.map_eq_some_iff.mp hstep
      exact h.runEvent hnext
  | advance time =>
      obtain ⟨q, hadvance, rfl⟩ := Option.map_eq_some_iff.mp hstep
      obtain ⟨hordered, rfl, -⟩ := h.conserved.ordered.advance hadvance
      exact ⟨{ h.conserved with ordered := hordered }, { h.timer with }, { h.distinct with }⟩

/-- The invariant holds along every run. -/
theorem consistent_of_reachable (h : (channelSystem env).Reachable s) : Consistent s :=
  h.invariant (fun _ => Consistent.fresh) fun _ a _ hs _ hstep => hs.step a hstep

/-! ## The result -/

/-- The pending release timers. -/
def timers (s : SoftUeChannel) : List (ScheduledEvent ChannelEvent) :=
  s.events.pending.filter fun e => e.action.copy?.isNone

theorem Consistent.perm_targets (h : Consistent s) : s.copies.Perm s.targets :=
  List.perm_iff_count.mpr fun target => h.conserved.balance target

theorem Consistent.holds_nodup (h : Consistent s) : s.holds.Nodup := by
  refine List.nodup_iff_count_le_one.mpr fun target => ?_
  have hle := h.conserved.holds_le target
  have hcount := List.nodup_iff_count_le_one.mp h.distinct.targets target
  rw [h.perm_targets.count_eq] at hle
  omega

/-- No more than one release timer is pending. -/
theorem Consistent.timers_eq (h : Consistent s) {e : ScheduledEvent ChannelEvent}
    (he : e ∈ s.timers) : s.timers = [e] := by
  have huid : ∀ e' ∈ s.timers, some e'.uid = s.heldFlushEvent := by
    intro e' he'
    rw [timers, List.mem_filter, Option.isNone_iff_eq_none] at he'
    exact (h.conserved.timer e' he'.1).mp he'.2
  have hdistinct : s.timers.Pairwise fun e e' => e.uid ≠ e'.uid :=
    h.conserved.ordered.uid_ne.sublist List.filter_sublist
  match htimers : s.timers with
  | [] =>
      rw [htimers] at he
      cases he
  | [e'] =>
      rw [htimers] at he
      rw [List.mem_singleton.mp he]
  | e₁ :: e₂ :: rest =>
      rw [htimers] at hdistinct huid
      have hsame := (huid e₁ (by simp)).trans (huid e₂ (by simp)).symm
      exact absurd (Option.some_injective _ hsame) (List.rel_of_pairwise_cons hdistinct (by simp))

/-- The release timer of the held copy is pending exactly while the copy is held, if the channel
has one. -/
theorem Consistent.timers_iff (h : Consistent s) :
    s.timers.map (fun e => (e.time, e.action)) =
      if 0 < s.config.reorderHoldDelay then
        s.held.toList.map fun held =>
          (held.heldAt + s.config.reorderHoldDelay, .releaseHeldPacket held.delay)
      else [] := by
  cases htimers : s.timers with
  | nil =>
      split_ifs with hpos
      · cases hheld : s.held with
        | none => rfl
        | some held =>
            obtain ⟨e, he, hnone⟩ := h.timer.pending held hheld hpos
            have hmem : e ∈ s.timers := List.mem_filter.mpr ⟨he, by rw [hnone]; rfl⟩
            rw [htimers] at hmem
            cases hmem
      · rfl
  | cons e rest =>
      have hmem : e ∈ s.timers := by
        rw [htimers]
        exact List.mem_cons_self
      have hsingle := (h.timers_eq hmem).symm.trans htimers
      cases hsingle
      rw [timers, List.mem_filter, Option.isNone_iff_eq_none] at hmem
      obtain ⟨held, hheld, hpos, haction, htime⟩ := h.timer.held e hmem.1 hmem.2
      rw [if_pos hpos, hheld, List.map_singleton, haction, htime]
      rfl

/-- A copy is not held for longer than its timer. -/
theorem Consistent.now_le (h : Consistent s) {held : HeldTransmission}
    (hheld : s.held = some held) (hpos : 0 < s.config.reorderHoldDelay) :
    s.events.now ≤ held.heldAt + s.config.reorderHoldDelay := by
  obtain ⟨e, he, hnone⟩ := h.timer.pending held hheld hpos
  obtain ⟨held', hheld', -, -, htime⟩ := h.timer.held e he hnone
  cases hheld.symm.trans hheld'
  exact (h.conserved.ordered.future e he).trans_eq htime

/-- Along every run each device that a packet is for gets its copy at most once: the copy is
dropped by fault injection, or on its way, or with the device, or it is the one that is held.
A held copy is released once, by a flush or by its timer, and by no transmission. -/
theorem copies_conserved (h : (channelSystem env).Reachable s) :
    (s.targets.Nodup ∧ s.copies.Perm s.targets) ∧
    ((∀ copy ∈ s.delivered, copy.dest.localFep.isSome) ∧
      ∀ copy ∈ s.ignored, copy.dest.localFep = none) ∧
    (s.holds.Nodup ∧ s.holds = s.releases ++ s.heldTargets) ∧
    (s.timers.map (fun e => (e.time, e.action)) =
      if 0 < s.config.reorderHoldDelay then
        s.held.toList.map fun held =>
          (held.heldAt + s.config.reorderHoldDelay, .releaseHeldPacket held.delay)
      else []) ∧
    (∀ held, s.held = some held → 0 < s.config.reorderHoldDelay →
      s.events.now ≤ held.heldAt + s.config.reorderHoldDelay) ∧
    ∀ packet src sourceFep destFep,
      (s.transmit env (some packet) (some src) sourceFep destFep).targets =
        s.targets ++ s.targetsOf src destFep ∧
      (s.transmit env (some packet) (some src) sourceFep destFep).releases = s.releases := by
  have hs := consistent_of_reachable h
  refine ⟨⟨hs.distinct.targets, hs.perm_targets⟩, ⟨hs.conserved.delivered, hs.conserved.ignored⟩,
    ⟨hs.holds_nodup, hs.conserved.holds_eq⟩, hs.timers_iff,
    fun _ hheld hpos => hs.now_le hheld hpos, fun packet src sourceFep destFep => ?_⟩
  obtain ⟨hcalls, hreleases⟩ := calls_transmit env s packet src sourceFep destFep
  exact ⟨congrArg Calls.targets hcalls, hreleases⟩

/-- An environment whose random numbers never cause a fault of probability below one. -/
def calmEnvironment : ChannelEnvironment where
  random _ := 1
  seconds bits bps := bits * 1000000000 / bps

/-- A response of 100 bytes. -/
def sampleResponse : ChannelPacket where
  size := 100
  metadata := some { isResponse := true }

/-- A response is held, and one to an endpoint without a device follows. -/
def heldResponseRun : List ChannelAction :=
  [.attach ⟨1, some 1⟩, .attach ⟨2, some 2⟩, .holdNextResponse,
    .transmit (some sampleResponse) (some ⟨1, some 1⟩) 1 2,
    .transmit (some sampleResponse) (some ⟨1, some 1⟩) 1 9]

theorem copies_conserved_heldResponse :
    ∃ s, (channelSystem calmEnvironment).runActions {} heldResponseRun = some s ∧
      s.copies.Perm s.targets := by
  obtain ⟨s, hrun⟩ : ∃ s, (channelSystem calmEnvironment).runActions {} heldResponseRun =
      some s := ⟨_, rfl⟩
  exact ⟨s, hrun, (copies_conserved (reachable_of_run hrun)).1.2⟩

/-- A transmission to an endpoint without a device leaves no copy, and a held response without a
timer is not released by the transmissions that follow. -/
theorem transmission_without_copy :
    (¬ ∀ env s, (channelSystem env).Reachable s →
      ∀ id < s.transmissions, s.copies.countP (fun target => target.1 = id) = 1) ∧
    ¬ ∀ env s, (channelSystem env).Reachable s → ∀ held, s.held = some held →
      s.timers ≠ [] ∨ ∃ packet src sourceFep destFep,
        (s.transmit env packet src sourceFep destFep).releases ≠ s.releases := by
  obtain ⟨s, hrun⟩ : ∃ s, (channelSystem calmEnvironment).runActions {} heldResponseRun =
      some s := ⟨_, rfl⟩
  have hreach := reachable_of_run hrun
  refine ⟨fun hall => ?_, fun hall => ?_⟩
  · have hcount := hall _ _ hreach 1
    cases hrun
    exact absurd (hcount (by decide)) (by decide)
  · have hheld : ∃ held, s.held = some held ∧ s.timers = [] := by
      cases hrun
      exact ⟨_, rfl, rfl⟩
    obtain ⟨held, hsome, htimers⟩ := hheld
    rcases hall _ _ hreach held hsome with hne | ⟨packet, src, sourceFep, destFep, hne⟩
    · exact hne htimers
    · exact hne (releases_transmit _ s packet src sourceFep destFep)

end SoftUeChannel
end UeSim
