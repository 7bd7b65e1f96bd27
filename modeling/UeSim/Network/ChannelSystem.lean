import UeSim.Network.SoftUeChannel
import UeSim.Support.Transition

/-!
# The transition system of a channel

Devices are attached, packets are transmitted and faults are planned in any order, while the
simulator runs the events of the channel.  What an operation can do to a copy is said once, and
so is which part of the state it leaves alone.
-/

namespace UeSim

/-- What can happen to a channel. -/
inductive ChannelAction
  /-- `Attach`. -/
  | attach (device : ChannelDevice)
  /-- `Transmit`. -/
  | transmit (packet : Option ChannelPacket) (src : Option ChannelDevice)
      (sourceFep destFep : UInt32)
  /-- `FlushHeldPacket`. -/
  | flushHeldPacket
  /-- `DropNextRequests`. -/
  | dropNextRequests (count : ℕ)
  /-- `DropNextResponses`. -/
  | dropNextResponses (count : ℕ)
  /-- `HoldNextResponse`. -/
  | holdNextResponse
  /-- `ClearDeterministicFaultPlan`. -/
  | clearDeterministicFaultPlan
  /-- `FillFabricRuntimeStats`, of which only the resizing of the path states matters. -/
  | fillFabricRuntimeStats
  /-- The simulator runs the next event. -/
  | runEvent
  /-- Time passes, up to an event of another component. -/
  | advance (time : ℕ)

namespace SoftUeChannel

/-- One action.  The simulator runs the events in their order. -/
def channelStep (env : ChannelEnvironment) (s : SoftUeChannel) :
    ChannelAction → Option SoftUeChannel
  | .attach device => some (s.attach device)
  | .transmit packet src sourceFep destFep => some (s.transmit env packet src sourceFep destFep)
  | .flushHeldPacket => some (s.flushHeldPacket env)
  | .dropNextRequests count =>
      some { s with dropNextRequests := toU32 (s.dropNextRequests + count) }
  | .dropNextResponses count =>
      some { s with dropNextResponses := toU32 (s.dropNextResponses + count) }
  | .holdNextResponse => some { s with holdNextResponse := true }
  | .clearDeterministicFaultPlan =>
      some { s with dropNextRequests := 0, dropNextResponses := 0, holdNextResponse := false }
  | .fillFabricRuntimeStats => some s.ensurePathStateSize
  | .runEvent =>
      s.events.next.map fun next =>
        ({ s with events := next.2 } : SoftUeChannel).runEvent env next.1
  | .advance time => (s.events.advance time).map fun events => { s with events := events }

/-- A channel that has just been made, with any attributes. -/
def Fresh (s : SoftUeChannel) : Prop := s = { config := s.config }

/-- The transition system of a channel. -/
def channelSystem (env : ChannelEnvironment) : TransitionSystem SoftUeChannel ChannelAction where
  init := Fresh
  step := channelStep env

variable {env : ChannelEnvironment} {s : SoftUeChannel}

/-- What a list of actions makes of a new channel is reachable. -/
theorem reachable_of_run {config : ChannelConfig} {actions : List ChannelAction}
    (hrun : (channelSystem env).runActions { config := config } actions = some s) :
    (channelSystem env).Reachable s := by
  have hfresh : Fresh { config := config } := rfl
  exact TransitionSystem.ReachableBy.runActions (.init hfresh) (fun _ _ _ => trivial) hrun

/-! ## What an operation leaves alone -/

/-- The channel without its paths and the plans of its faults: where the copies are. -/
def traffic (s : SoftUeChannel) : SoftUeChannel :=
  { s with
    dropNextRequests := 0
    dropNextResponses := 0
    holdNextResponse := false
    nextTxAvailable := 0
    pathStates := []
    flowPathAssignments := ∅
    draws := 0
    reservations := [] }

/-- What does not look at the paths and the plans is the same for channels with the same
traffic. -/
theorem eq_of_traffic {β : Type*} {s' : SoftUeChannel} (htraffic : s'.traffic = s.traffic)
    (f : SoftUeChannel → β) (hf : ∀ t, f t.traffic = f t) : f s' = f s := by
  rw [← hf s', htraffic, hf]

/-- The paths of the channel, with the clock: what decides how long a packet takes. -/
structure Paths where
  config : ChannelConfig
  now : ℕ
  nextTxAvailable : ℕ
  pathStates : List PathState
  flowPathAssignments : KeyedMap UInt64 ℕ
  reservations : List PathReservation

/-- The paths of a channel. -/
def paths (s : SoftUeChannel) : Paths where
  config := s.config
  now := s.events.now
  nextTxAvailable := s.nextTxAvailable
  pathStates := s.pathStates
  flowPathAssignments := s.flowPathAssignments
  reservations := s.reservations

@[simp]
theorem traffic_ensurePathStateSize : s.ensurePathStateSize.traffic = s.traffic := by
  unfold ensurePathStateSize
  dsimp only
  split_ifs <;> rfl

@[simp]
theorem traffic_selectPathIndex (env : ChannelEnvironment) (s : SoftUeChannel)
    (packet : ChannelPacket) (sourceFep destFep : UInt32) :
    (s.selectPathIndex env packet sourceFep destFep).1.traffic = s.traffic := by
  unfold selectPathIndex selectAdaptivePathIndex
  split_ifs
  · rfl
  · dsimp only
    split
    · exact traffic_ensurePathStateSize
    · exact traffic_ensurePathStateSize (s := s)
  · rfl
  · rfl

@[simp]
theorem traffic_reserveExplicitPath (env : ChannelEnvironment) (s : SoftUeChannel)
    (copy : ChannelCopy) :
    (s.reserveExplicitPathAndCalculateDelay env copy).1.traffic = s.traffic := by
  have hselected := traffic_selectPathIndex env s.ensurePathStateSize copy.packet
    copy.sourceFep copy.destFep
  rw [traffic_ensurePathStateSize] at hselected
  exact hselected

@[simp]
theorem traffic_calculateScheduleDelay (env : ChannelEnvironment) (s : SoftUeChannel)
    (packet : ChannelPacket) :
    (s.calculateScheduleDelay env packet).1.traffic = s.traffic := by
  unfold calculateScheduleDelay
  dsimp only
  split_ifs <;> rfl

/-- The delay of a copy is found without moving any copy. -/
@[simp]
theorem traffic_receiveDelay (env : ChannelEnvironment) (s : SoftUeChannel)
    (reserved : Option ℕ) (copy : ChannelCopy) :
    (s.receiveDelay env reserved copy).1.1.traffic = s.traffic := by
  unfold receiveDelay
  split_ifs
  · split
    · rfl
    · exact traffic_reserveExplicitPath env s copy
  · exact traffic_calculateScheduleDelay env s copy.packet

@[simp]
theorem traffic_releaseDelay (env : ChannelEnvironment) (s : SoftUeChannel)
    (held : HeldTransmission) (scheduleDelay : ℕ) :
    (s.releaseDelay env held scheduleDelay).1.traffic = s.traffic := by
  unfold releaseDelay
  split_ifs
  · exact traffic_reserveExplicitPath env s held.copy
  · exact traffic_calculateScheduleDelay env s held.copy.packet
  · rfl

@[simp]
theorem paths_armFlushEvent (delay : ℕ) : (s.armFlushEvent delay).paths = s.paths := by
  unfold armFlushEvent
  split_ifs <;> rfl

@[simp]
theorem paths_holdCopy (copy : ChannelCopy) (delay : ℕ) :
    (s.holdCopy copy delay).paths = s.paths :=
  paths_armFlushEvent _

/-- What becomes of a copy after its delay is known does not change the paths. -/
@[simp]
theorem paths_holdOrSchedule (copy : ChannelCopy) (delay : ℕ) :
    (s.holdOrSchedule env copy delay).paths = s.paths := by
  unfold holdOrSchedule
  dsimp only
  split_ifs
  · exact paths_holdCopy copy delay
  · exact paths_holdCopy copy delay
  · rfl
  · rfl

/-! ## What an operation can do -/

/-- A copy is dropped or forwarded, after no more than a change to the plans of the faults. -/
theorem transmitCopy_cases (env : ChannelEnvironment) (s : SoftUeChannel) (reserved : Option ℕ)
    (copy : ChannelCopy) :
    ∃ s' : SoftUeChannel, s'.traffic = s.traffic ∧ s'.paths = s.paths ∧
      (s.transmitCopy env reserved copy = (s'.dropCopy copy.target, reserved) ∨
        s.transmitCopy env reserved copy = s'.forwardCopy env reserved copy) := by
  unfold transmitCopy
  dsimp only
  split_ifs
  · exact ⟨{ s with dropNextRequests := s.dropNextRequests - 1 }, rfl, rfl, .inl rfl⟩
  · exact ⟨{ s with dropNextResponses := s.dropNextResponses - 1 }, rfl, rfl, .inl rfl⟩
  · exact ⟨(s.draw env s.config.dropProbability).1, rfl, rfl, .inl rfl⟩
  · exact ⟨(s.draw env s.config.dropProbability).1, rfl, rfl, .inr rfl⟩
  · exact ⟨s, rfl, rfl, .inr rfl⟩

/-- A copy is held, if no other is, or its reception is scheduled. -/
theorem holdOrSchedule_cases (env : ChannelEnvironment) (s : SoftUeChannel) (copy : ChannelCopy)
    (delay : ℕ) :
    ∃ s' : SoftUeChannel, s'.traffic = s.traffic ∧ s'.paths = s.paths ∧
      (s.held = none ∧ s.holdOrSchedule env copy delay = s'.holdCopy copy delay ∨
        s.holdOrSchedule env copy delay = s'.scheduleReceive copy delay) := by
  unfold holdOrSchedule
  dsimp only
  split_ifs with hresponse hreorder
  · have hheld : s.held = none := by simp_all
    exact ⟨{ s with holdNextResponse := false }, rfl, rfl, .inl ⟨hheld, rfl⟩⟩
  · have hheld : s.held = none := by simp_all
    exact ⟨(s.draw env s.config.reorderProbability).1, rfl, rfl, .inl ⟨hheld, rfl⟩⟩
  · exact ⟨(s.draw env s.config.reorderProbability).1, rfl, rfl, .inr rfl⟩
  · exact ⟨s, rfl, rfl, .inr rfl⟩

/-- The timer is set for a copy that is held, or it is pending already, or there is none. -/
theorem holdCopy_cases (s : SoftUeChannel) (copy : ChannelCopy) (delay : ℕ) :
    s.holdCopy copy delay =
      if 0 < s.config.reorderHoldDelay ∧ s.events.isPending s.heldFlushEvent = false then
        { s with
          held := some ⟨{ copy with wasHeld := true }, delay, s.events.now⟩
          holds := s.holds ++ [copy.target]
          heldFlushEvent := some s.events.nextUid
          events := s.events.schedule s.config.reorderHoldDelay (.releaseHeldPacket delay) }
      else
        { s with
          held := some ⟨{ copy with wasHeld := true }, delay, s.events.now⟩
          holds := s.holds ++ [copy.target] } := by
  unfold holdCopy armFlushEvent
  simp only [Bool.and_eq_true, decide_eq_true_eq, Bool.not_eq_true']

/-- The channel after its release timer is cancelled. -/
def cancelTimer (s : SoftUeChannel) : SoftUeChannel :=
  { s with events := s.events.cancel s.heldFlushEvent }

theorem releaseHeldPacket_of_none (env : ChannelEnvironment) (hheld : s.held = none)
    (scheduleDelay : ℕ) : s.releaseHeldPacket env scheduleDelay = s := by
  unfold releaseHeldPacket
  rw [hheld]

/-- A release schedules the held copy, after its timer is cancelled. -/
theorem releaseHeldPacket_of_held (env : ChannelEnvironment) {held : HeldTransmission}
    (hheld : s.held = some held) (scheduleDelay : ℕ) :
    ∃ delayed : SoftUeChannel × ℕ,
      delayed = s.cancelTimer.releaseDelay env held scheduleDelay ∧
      delayed.1.traffic = s.cancelTimer.traffic ∧
      s.releaseHeldPacket env scheduleDelay =
        { delayed.1.scheduleReceive held.copy delayed.2 with
          held := none
          releases := delayed.1.releases ++ [held.copy.target] } := by
  refine ⟨_, rfl, traffic_releaseDelay env _ held scheduleDelay, ?_⟩
  unfold releaseHeldPacket cancelTimer
  rw [hheld]

/-- The rule for the loop of `Transmit`: what holds of the devices that are left, the channel and
the delay that is shared survives every device. -/
theorem transmitTo_induction (env : ChannelEnvironment) (src : ChannelDevice)
    (copyFor : ChannelDevice → ChannelCopy)
    {P : List ChannelDevice → SoftUeChannel → Option ℕ → Prop}
    (hskip : ∀ dest rest s reserved, s.isDestination src (copyFor dest).destFep dest = false →
      P (dest :: rest) s reserved → P rest s reserved)
    (hcopy : ∀ dest rest s reserved, s.isDestination src (copyFor dest).destFep dest = true →
      P (dest :: rest) s reserved →
      P rest (s.transmitCopy env reserved (copyFor dest)).1
        (s.transmitCopy env reserved (copyFor dest)).2)
    (devices : List ChannelDevice) (s : SoftUeChannel) (reserved : Option ℕ)
    (h : P devices s reserved) :
    ∃ reserved', P [] (transmitTo env src copyFor devices s reserved) reserved' := by
  induction devices generalizing s reserved with
  | nil => exact ⟨reserved, h⟩
  | cons dest rest ih =>
      cases hdest : s.isDestination src (copyFor dest).destFep dest with
      | false =>
          rw [transmitTo, if_neg (by simp [hdest])]
          exact ih _ _ (hskip dest rest s reserved hdest h)
      | true =>
          rw [transmitTo, if_pos hdest]
          exact ih _ _ (hcopy dest rest s reserved hdest h)

/-! ## What sending a copy leaves alone -/

/-- The devices and the calls of `Transmit`, and what has arrived. -/
structure Calls where
  config : ChannelConfig
  devices : List ChannelDevice
  transmissions : ℕ
  targets : List ChannelTarget
  delivered : List ChannelCopy
  ignored : List ChannelCopy

/-- The calls of a channel. -/
def calls (s : SoftUeChannel) : Calls where
  config := s.config
  devices := s.devices
  transmissions := s.transmissions
  targets := s.targets
  delivered := s.delivered
  ignored := s.ignored

theorem calls_eq_of_traffic {s' : SoftUeChannel} (htraffic : s'.traffic = s.traffic) :
    s'.calls = s.calls ∧ s'.releases = s.releases :=
  ⟨eq_of_traffic htraffic calls fun _ => rfl, eq_of_traffic htraffic releases fun _ => rfl⟩

theorem calls_holdCopy (copy : ChannelCopy) (delay : ℕ) :
    (s.holdCopy copy delay).calls = s.calls ∧ (s.holdCopy copy delay).releases = s.releases := by
  rw [holdCopy_cases]
  split_ifs <;> exact ⟨rfl, rfl⟩

theorem calls_holdOrSchedule (env : ChannelEnvironment) (s : SoftUeChannel) (copy : ChannelCopy)
    (delay : ℕ) :
    (s.holdOrSchedule env copy delay).calls = s.calls ∧
      (s.holdOrSchedule env copy delay).releases = s.releases := by
  obtain ⟨s', htraffic, -, hcases⟩ := holdOrSchedule_cases env s copy delay
  have hcalls := calls_eq_of_traffic htraffic
  rcases hcases with ⟨-, heq⟩ | heq
  · rw [heq, (calls_holdCopy copy delay).1, (calls_holdCopy copy delay).2]
    exact hcalls
  · rw [heq]
    exact hcalls

theorem calls_transmitCopy (env : ChannelEnvironment) (s : SoftUeChannel) (reserved : Option ℕ)
    (copy : ChannelCopy) :
    (s.transmitCopy env reserved copy).1.calls = s.calls ∧
      (s.transmitCopy env reserved copy).1.releases = s.releases := by
  obtain ⟨s', htraffic, -, heq | heq⟩ := transmitCopy_cases env s reserved copy
  · have hcalls := calls_eq_of_traffic htraffic
    rw [heq]
    exact hcalls
  · have hforward := calls_holdOrSchedule env (s'.receiveDelay env reserved copy).1.1 copy
      (s'.receiveDelay env reserved copy).1.2
    have hdelayed := calls_eq_of_traffic
      ((traffic_receiveDelay env s' reserved copy).trans htraffic)
    rw [heq]
    exact ⟨hforward.1.trans hdelayed.1, hforward.2.trans hdelayed.2⟩

theorem calls_transmitTo (env : ChannelEnvironment) (s : SoftUeChannel) (src : ChannelDevice)
    (copyFor : ChannelDevice → ChannelCopy) (devices : List ChannelDevice)
    (reserved : Option ℕ) :
    (transmitTo env src copyFor devices s reserved).calls = s.calls ∧
      (transmitTo env src copyFor devices s reserved).releases = s.releases := by
  obtain ⟨-, hresult⟩ := transmitTo_induction env src copyFor
    (P := fun _ t _ => t.calls = s.calls ∧ t.releases = s.releases)
    (fun _ _ _ _ _ h => h)
    (fun dest _ t reserved _ h =>
      ⟨(calls_transmitCopy env t reserved (copyFor dest)).1.trans h.1,
        (calls_transmitCopy env t reserved (copyFor dest)).2.trans h.2⟩)
    devices s reserved ⟨rfl, rfl⟩
  exact hresult

theorem calls_releaseHeldPacket (scheduleDelay : ℕ) :
    (s.releaseHeldPacket env scheduleDelay).calls = s.calls := by
  cases hheld : s.held with
  | none => rw [releaseHeldPacket_of_none env hheld]
  | some held =>
      obtain ⟨delayed, -, htraffic, heq⟩ := releaseHeldPacket_of_held env hheld scheduleDelay
      rw [heq]
      exact (calls_eq_of_traffic htraffic).1

/-- The devices that a packet is for, with the number of its transmission. -/
def targetsOf (s : SoftUeChannel) (src : ChannelDevice) (destFep : UInt32) : List ChannelTarget :=
  (s.devices.filter (s.isDestination src destFep)).map fun dest => (s.transmissions, dest)

/-- The channel when a call of `Transmit` starts. -/
def started (s : SoftUeChannel) (src : ChannelDevice) (destFep : UInt32) : SoftUeChannel :=
  { s with
    transmissions := s.transmissions + 1
    targets := s.targets ++ s.targetsOf src destFep }

/-- A transmission releases no copy that is held, and delivers nothing. -/
theorem calls_transmit (env : ChannelEnvironment) (s : SoftUeChannel) (packet : ChannelPacket)
    (src : ChannelDevice) (sourceFep destFep : UInt32) :
    (s.transmit env (some packet) (some src) sourceFep destFep).calls =
        (s.started src destFep).calls ∧
      (s.transmit env (some packet) (some src) sourceFep destFep).releases = s.releases := by
  have hloop := calls_transmitTo env (s.started src destFep).ensurePathStateSize src
    (fun dest => { transmission := s.transmissions, packet, dest, sourceFep, destFep })
    s.devices none
  have hstarted := calls_eq_of_traffic (traffic_ensurePathStateSize (s := s.started src destFep))
  exact ⟨hloop.1.trans hstarted.1, hloop.2.trans hstarted.2⟩

theorem releases_transmit (env : ChannelEnvironment) (s : SoftUeChannel)
    (packet : Option ChannelPacket) (src : Option ChannelDevice) (sourceFep destFep : UInt32) :
    (s.transmit env packet src sourceFep destFep).releases = s.releases :=
  match packet, src with
  | some packet, some src => (calls_transmit env s packet src sourceFep destFep).2
  | none, _ => rfl
  | some _, none => rfl

end SoftUeChannel
end UeSim
