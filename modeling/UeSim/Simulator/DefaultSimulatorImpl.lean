import UeSim.Common.Types
import UeSim.Simulator.Scheduler
import UeSim.Support.Transition

/-!
# The simulator

`DefaultSimulatorImpl` runs one event after the other.  While an event runs it may schedule more
events, and cancel or remove those that are pending.  A cancelled event stays in the scheduler and
is handed out like the others, but does nothing; a removed one is taken out.

The scheduler is a parameter.  An `EventImpl` is known by its number, and every event is made with
a new one.  Events come from one thread.

Delays are natural numbers here.  In the source a `Time` may be negative: `Schedule` asserts that
the delay is not, `ScheduleWithContext` asserts nothing, and no call with a negative delay is
modelled.  It is assumed that the sums of times stay below `2 ^ 63`, and that fewer than `2 ^ 31`
events are pending at a time: the source counts them in an `int`, which is an integer here.
-/

namespace UeSim

open Scheduler

/-- `EventId`; one that was not assigned has no `EventImpl`. -/
structure EventId where
  impl : Option ℕ := none
  ts : ℕ := 0
  context : ℕ := 0
  uid : ℕ := 0
  deriving DecidableEq

namespace EventId

/-- `EventId::UID::DESTROY`, the number of all events that run at the end. -/
def destroy : ℕ := 2

/-- `EventId::UID::VALID`, the first number of an event. -/
def valid : ℕ := 4

end EventId

/-- The `EventId` of an event. -/
def Scheduler.Event.id (ev : Event) : EventId := ⟨some ev.impl, ev.ts, ev.key.context, ev.uid⟩

/-- `DefaultSimulatorImpl`, with a record of what happened. -/
structure DefaultSimulatorImpl (σ : Type*) where
  /-- `m_events`. -/
  events : σ
  stop : Bool := false
  uid : ℕ := EventId.valid
  currentUid : ℕ := 0
  currentTs : ℕ := 0
  currentContext : ℕ := 0xffffffff
  unscheduledEvents : ℤ := 0
  eventCount : ℕ := 0
  destroyEvents : List EventId := []
  /-- The `EventImpl`s whose `m_cancel` is set. -/
  cancelled : List ℕ := []
  nextImpl : ℕ := 0
  /-- The events that were scheduled, oldest first. -/
  scheduled : List Event := []
  /-- The events that were handed out, oldest first. -/
  executed : List Event := []
  /-- The events that were removed, oldest first. -/
  removed : List Event := []
  /-- The `EventImpl`s that were notified, oldest first. -/
  notified : List ℕ := []
  /-- The `EventImpl`s that were notified at the end, oldest first. -/
  ended : List ℕ := []

namespace DefaultSimulatorImpl

variable {σ : Type*}

/-! ## Scheduling -/

/-- The event that is made for a time. -/
def newEvent (s : DefaultSimulatorImpl σ) (context ts : ℕ) (hts : ts < 2 ^ 63) : Event :=
  ⟨s.nextImpl, ⟨ts, s.uid, context, hts⟩⟩

/-- The simulator with an event in its scheduler. -/
def insertEvent (Q : PriorityQueue σ Event) (s : DefaultSimulatorImpl σ) (ev : Event) :
    DefaultSimulatorImpl σ :=
  { s with
    uid := toU32 (s.uid + 1)
    unscheduledEvents := s.unscheduledEvents + 1
    events := Q.insert s.events ev
    nextImpl := s.nextImpl + 1
    scheduled := s.scheduled ++ [ev] }

/-- `DefaultSimulatorImpl::ScheduleWithContext`.  A `Time` ends at `2 ^ 63`. -/
def scheduleWithContext (Q : PriorityQueue σ Event) (s : DefaultSimulatorImpl σ)
    (context delay : ℕ) : Option (DefaultSimulatorImpl σ) :=
  if hts : s.currentTs + delay < 2 ^ 63 then
    some (s.insertEvent Q (s.newEvent context (s.currentTs + delay) hts))
  else none

/-- `DefaultSimulatorImpl::Schedule`. -/
def schedule (Q : PriorityQueue σ Event) (s : DefaultSimulatorImpl σ) (delay : ℕ) :
    Option (DefaultSimulatorImpl σ) :=
  s.scheduleWithContext Q s.currentContext delay

/-- `DefaultSimulatorImpl::ScheduleDestroy`. -/
def scheduleDestroy (s : DefaultSimulatorImpl σ) : DefaultSimulatorImpl σ :=
  { s with
    uid := toU32 (s.uid + 1)
    nextImpl := s.nextImpl + 1
    destroyEvents := s.destroyEvents ++
      [⟨some s.nextImpl, s.currentTs, 0xffffffff, EventId.destroy⟩] }

/-! ## Events that are pending -/

/-- `DefaultSimulatorImpl::IsExpired`. -/
def isExpired (s : DefaultSimulatorImpl σ) (id : EventId) : Bool :=
  match id.impl with
  | none => true
  | some impl =>
      if id.uid = EventId.destroy then impl ∈ s.cancelled || id ∉ s.destroyEvents
      else
        id.ts < s.currentTs || (id.ts = s.currentTs && id.uid ≤ s.currentUid) ||
          impl ∈ s.cancelled

/-- `DefaultSimulatorImpl::Cancel`. -/
def cancel (s : DefaultSimulatorImpl σ) (id : EventId) : DefaultSimulatorImpl σ :=
  if s.isExpired id then s else { s with cancelled := s.cancelled ++ id.impl.toList }

/-- The simulator without an event. -/
def removeEvent (s : DefaultSimulatorImpl σ) (ev : Event) (events : σ) :
    DefaultSimulatorImpl σ :=
  { s with
    events := events
    cancelled := s.cancelled ++ [ev.impl]
    unscheduledEvents := s.unscheduledEvents - 1
    removed := s.removed ++ [ev] }

/-- `DefaultSimulatorImpl::Remove` of an event of the scheduler. -/
def remove (Q : PriorityQueue σ Event) (s : DefaultSimulatorImpl σ) (ev : Event) :
    Option (DefaultSimulatorImpl σ) :=
  if s.isExpired ev.id then some s
  else (Q.remove s.events ev).map (s.removeEvent ev)

/-- `DefaultSimulatorImpl::Remove` of an event that runs at the end. -/
def removeDestroy (s : DefaultSimulatorImpl σ) (id : EventId) : DefaultSimulatorImpl σ :=
  { s with destroyEvents := s.destroyEvents.erase id }

/-! ## Running -/

/-- The simulator when an event runs: it is notified unless it was cancelled. -/
def execute (s : DefaultSimulatorImpl σ) (next : Event) (events : σ) : DefaultSimulatorImpl σ :=
  { s with
    events := events
    unscheduledEvents := s.unscheduledEvents - 1
    eventCount := s.eventCount + 1
    currentTs := next.ts
    currentContext := next.key.context
    currentUid := next.uid
    executed := s.executed ++ [next]
    notified := if next.impl ∈ s.cancelled then s.notified else s.notified ++ [next.impl] }

/-- `DefaultSimulatorImpl::ProcessOneEvent`, up to what the event does. -/
def processOneEvent (Q : PriorityQueue σ Event) (s : DefaultSimulatorImpl σ) :
    Option (DefaultSimulatorImpl σ) :=
  (Q.removeNext s.events).bind fun next =>
    if s.currentTs ≤ next.1.ts then some (s.execute next.1 next.2) else none

/-- The loop of `DefaultSimulatorImpl::Run`. -/
def runNext (Q : PriorityQueue σ Event) (s : DefaultSimulatorImpl σ) :
    Option (DefaultSimulatorImpl σ) :=
  if Q.isEmpty s.events || s.stop then none else s.processOneEvent Q

/-- One round of the loop of `DefaultSimulatorImpl::Destroy`. -/
def destroyNext (s : DefaultSimulatorImpl σ) : Option (DefaultSimulatorImpl σ) :=
  match s.destroyEvents with
  | [] => none
  | id :: rest =>
      some { s with
        destroyEvents := rest
        ended := s.ended ++ id.impl.toList.filter (· ∉ s.cancelled) }

end DefaultSimulatorImpl

/-! ## The transition system -/

/-- What can happen to the simulator: the loop of `Run` goes on, or an event that runs calls one of
the other functions. -/
inductive SimulatorAction
  | schedule (delay : ℕ)
  | scheduleWithContext (context delay : ℕ)
  | scheduleDestroy
  | cancel (id : EventId)
  | remove (ev : Event)
  | removeDestroy (id : EventId)
  /-- `Run` begins. -/
  | run
  | runNext
  | stop
  | destroyNext

namespace DefaultSimulatorImpl

variable {σ : Type*}

/-- One action.  Only an `EventId` that the simulator has handed out, or an unassigned one, is
cancelled or removed. -/
def simulatorStep (Q : PriorityQueue σ Event) (s : DefaultSimulatorImpl σ) :
    SimulatorAction → Option (DefaultSimulatorImpl σ)
  | .schedule delay => s.schedule Q delay
  | .scheduleWithContext context delay => s.scheduleWithContext Q context delay
  | .scheduleDestroy => some s.scheduleDestroy
  | .cancel id =>
      if id.impl = none ∨ id ∈ s.scheduled.map Event.id ∨ id.uid = EventId.destroy then
        some (s.cancel id)
      else none
  | .remove ev => if ev ∈ s.scheduled then s.remove Q ev else none
  | .removeDestroy id => some (s.removeDestroy id)
  | .run => some { s with stop := false }
  | .runNext => s.runNext Q
  | .stop => some { s with stop := true }
  | .destroyNext => s.destroyNext

/-- The transition system of a simulator with a scheduler. -/
def simulatorSystem (Q : PriorityQueue σ Event) :
    TransitionSystem (DefaultSimulatorImpl σ) SimulatorAction where
  init s := s = { events := Q.empty }
  step := simulatorStep Q

end DefaultSimulatorImpl
end UeSim
