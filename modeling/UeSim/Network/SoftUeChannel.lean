import UeSim.Common.PacketTags
import UeSim.Pdc.Tpdc
import UeSim.Support.EventQueue
import UeSim.Support.FifoServer
import Mathlib.Data.Rat.Defs

/-!
# The channel between network devices

`SoftUeChannel` copies a packet to the devices that it is for, after a delay.  It may drop a
copy, or hold one copy back until a timer or a flush releases it.  With several explicit paths
each path is a transmitter of its own, and a flow stays on the path that it was given; without
them all packets may share one transmitter.

The random numbers and the conversion of a number of bits to a transmission time, which is done
in floating point, come from the environment.  The fields that only statistics read, other than
those of the queue depth, and the timing tags are left out.

Times and delays are natural numbers.  In the source a `Time` is an `int64_t`: it is assumed that
no attribute of the channel is a negative delay and that no sum of times reaches `2 ^ 63`.
-/

namespace UeSim

/-! ## Packets, devices and settings -/

/-- What the channel reads of a packet. -/
structure ChannelPacket where
  size : ℕ
  metadata : Option SoftUeMetadataTag := none
  control : Option SoftUeTpdcControlTag := none
  deriving DecidableEq, Repr

namespace ChannelPacket

/-- `SoftUeChannel::IsResponsePacket`. -/
def isResponsePacket (packet : ChannelPacket) : Bool :=
  packet.metadata.elim false (·.isResponse)

/-- `SoftUeChannel::IsGapNackControlPacket`. -/
def isGapNackControlPacket (packet : ChannelPacket) : Bool :=
  packet.control.elim false (·.gapNackFlag)

end ChannelPacket

/-- A `NetDevice`, known by its address, with the endpoint of its configuration if it is a
`SoftUeNetDevice`. -/
structure ChannelDevice where
  address : ℕ
  localFep : Option UInt32
  deriving DecidableEq, Repr

/-- What the channel gets from outside. -/
structure ChannelEnvironment where
  /-- The values of `m_rng`. -/
  random : ℕ → ℚ
  /-- `Seconds (bits / bps)`, in nanoseconds. -/
  seconds : ℕ → ℕ → ℕ

/-- The attributes of the channel.  Times are in nanoseconds. -/
structure ChannelConfig where
  dataRate : ℕ := 1000000000
  pathDataRate : ℕ := 1000000000
  delay : ℕ := 100
  pathDelay : ℕ := 100
  extraDelay : ℕ := 0
  reorderHoldDelay : ℕ := 0
  dropProbability : ℚ := 0
  reorderProbability : ℚ := 0
  serializeTransmissions : Bool := false
  pathCount : ℕ := 1
  useEcmpHash : Bool := false
  dynamicPathSelection : Bool := false
  enableEcnObservation : Bool := false

namespace ChannelConfig

/-- Whether packets go over explicit paths. -/
def explicitPaths (c : ChannelConfig) : Bool := 1 < c.pathCount && c.useEcmpHash

end ChannelConfig

/-! ## State -/

/-- `PathState`. -/
structure PathState where
  nextTxAvailable : ℕ := 0
  txBytes : ℕ := 0
  txPackets : ℕ := 0
  queueDepthMax : ℕ := 0
  queueDepthSampleTotal : ℕ := 0
  queueDepthSampleCount : ℕ := 0
  ecnMarks : ℕ := 0
  finishTimes : List ℕ := []

/-- A copy of a packet for one device, with the number of the transmission that it belongs to
and whether it was held back. -/
structure ChannelCopy where
  transmission : ℕ
  packet : ChannelPacket
  dest : ChannelDevice
  sourceFep : UInt32
  destFep : UInt32
  wasHeld : Bool := false
  deriving DecidableEq, Repr

/-- `HeldTransmission`, with the time at which it was held. -/
structure HeldTransmission where
  copy : ChannelCopy
  delay : ℕ
  heldAt : ℕ
  deriving DecidableEq, Repr

/-- The events that the channel schedules. -/
inductive ChannelEvent
  /-- `ReceivePacket`. -/
  | receivePacket (copy : ChannelCopy)
  /-- `ReleaseHeldPacket`. -/
  | releaseHeldPacket (scheduleDelay : ℕ)
  deriving DecidableEq, Repr

/-- A reservation of a path: the transmission and the flow that it is for, the queue depth that
was reported, and when the path serves it. -/
structure PathReservation where
  path : ℕ
  transmission : ℕ
  flowKey : UInt64
  queueDepth : ℕ
  slot : ServiceSlot
  deriving DecidableEq

/-- A transmission and a device that it is for. -/
abbrev ChannelTarget := ℕ × ChannelDevice

/-- `SoftUeChannel`, with the simulator that runs its events and a record of what happened. -/
structure SoftUeChannel where
  config : ChannelConfig := {}
  devices : List ChannelDevice := []
  /-- `m_hasHeldTransmission` and `m_heldTransmission`. -/
  held : Option HeldTransmission := none
  heldFlushEvent : Option ℕ := none
  dropNextRequests : ℕ := 0
  dropNextResponses : ℕ := 0
  holdNextResponse : Bool := false
  nextTxAvailable : ℕ := 0
  pathStates : List PathState := []
  flowPathAssignments : KeyedMap UInt64 ℕ := ∅
  /-- How many random values have been drawn. -/
  draws : ℕ := 0
  events : EventQueue ChannelEvent := {}
  /-- The number of calls of `Transmit` with a packet and a source. -/
  transmissions : ℕ := 0
  /-- The devices that the transmissions were for. -/
  targets : List ChannelTarget := []
  /-- The copies that fault injection has dropped. -/
  dropped : List ChannelTarget := []
  /-- The copies that were handed to their devices, oldest first. -/
  delivered : List ChannelCopy := []
  /-- The copies that arrived at a device that is no `SoftUeNetDevice`. -/
  ignored : List ChannelCopy := []
  /-- The copies that were held back, oldest first. -/
  holds : List ChannelTarget := []
  /-- The copies that were released, oldest first. -/
  releases : List ChannelTarget := []
  /-- The reservations of paths, oldest first. -/
  reservations : List PathReservation := []

/-- The device and the transmission of a copy. -/
def ChannelCopy.target (copy : ChannelCopy) : ChannelTarget := (copy.transmission, copy.dest)

/-! ## Flows and paths -/

/-- `MixFlowKey`. -/
def mixFlowKey (value : UInt64) : UInt64 :=
  let value := value + 0x9e3779b97f4a7c15
  let value := (value ^^^ (value >>> 30)) * 0xbf58476d1ce4e5b9
  let value := (value ^^^ (value >>> 27)) * 0x94d049bb133111eb
  value ^^^ (value >>> 31)

/-- `SoftUeChannel::BuildFlowKey`. -/
def buildFlowKey (packet : ChannelPacket) (sourceFep destFep : UInt32) : UInt64 :=
  (sourceFep.toUInt64 <<< 32) ^^^ destFep.toUInt64 ^^^
    ((packet.metadata.elim 0 fun tag => tag.operationType.code.toUInt64) <<< 56)

/-- The flow of a copy. -/
def ChannelCopy.flowKey (copy : ChannelCopy) : UInt64 :=
  buildFlowKey copy.packet copy.sourceFep copy.destFep

/-- `SoftUeChannel::CalculateTransmissionTime`.  The number of bits is a `uint32_t`. -/
def ChannelEnvironment.calculateTransmissionTime (env : ChannelEnvironment)
    (packet : ChannelPacket) (dataRate : ℕ) : ℕ :=
  if 0 < dataRate then env.seconds (toU32 (packet.size * 8)) dataRate else 0

namespace PathState

/-- `SoftUeChannel::RefreshPathState`. -/
def refresh (state : PathState) (now : ℕ) : PathState :=
  { state with finishTimes := state.finishTimes.dropWhile (· ≤ now) }

/-- `SoftUeChannel::CapturePathScore`. -/
def score (state : PathState) (now txTime : ℕ) : ℕ :=
  toU64 ((state.nextTxAvailable - now) + toU64 (toU32 state.finishTimes.length * txTime))

/-- What `ReserveExplicitPathAndCalculateDelay` does to the state of the path. -/
def reserve (state : PathState) (config : ChannelConfig) (packet : ChannelPacket)
    (now txTime : ℕ) : PathState :=
  let queueDepth := toU32 (state.refresh now).finishTimes.length
  let finishTx := max now state.nextTxAvailable + txTime
  { nextTxAvailable := finishTx
    txBytes := toU64 (state.txBytes + packet.size)
    txPackets := toU64 (state.txPackets + 1)
    queueDepthMax := max state.queueDepthMax queueDepth
    queueDepthSampleTotal := toU64 (state.queueDepthSampleTotal + queueDepth)
    queueDepthSampleCount := toU64 (state.queueDepthSampleCount + 1)
    ecnMarks := if config.enableEcnObservation && 8 ≤ queueDepth then toU64 (state.ecnMarks + 1)
      else state.ecnMarks
    finishTimes := (state.refresh now).finishTimes ++ [finishTx] }

end PathState

/-- The best score so far and the paths that have it, after one more path. -/
def considerPath (best : Option (ℕ × List ℕ)) (candidate : ℕ × ℕ) : Option (ℕ × List ℕ) :=
  match best with
  | none => some (candidate.1, [candidate.2])
  | some (bestScore, bestPaths) =>
      if candidate.1 < bestScore then some (candidate.1, [candidate.2])
      else if candidate.1 = bestScore then some (bestScore, bestPaths ++ [candidate.2])
      else some (bestScore, bestPaths)

/-- `bestPaths`, from the scores of the paths. -/
def bestPaths (scores : List ℕ) : List ℕ :=
  (scores.zipIdx.foldl considerPath none).elim [] Prod.snd

/-- `selectedPath`: the hash of the flow decides between paths with the same score. -/
def selectedPath (useEcmpHash : Bool) (flowKey : UInt64) (paths : List ℕ) : ℕ :=
  if paths.length = 1 || !useEcmpHash then paths.headD 0
  else paths.getD ((mixFlowKey flowKey).toNat % paths.length) 0

namespace SoftUeChannel

/-- `SoftUeChannel::EnsurePathStateSize`. -/
def ensurePathStateSize (s : SoftUeChannel) : SoftUeChannel :=
  let effectiveCount := max 1 s.config.pathCount
  if s.pathStates.length = effectiveCount then s
  else
    { s with
      pathStates := s.pathStates.take effectiveCount ++
        List.replicate (effectiveCount - s.pathStates.length) {} }

/-- `SoftUeChannel::SelectAdaptivePathIndex`. -/
def selectAdaptivePathIndex (env : ChannelEnvironment) (s : SoftUeChannel)
    (packet : ChannelPacket) (sourceFep destFep : UInt32) : SoftUeChannel × ℕ :=
  if s.config.pathCount ≤ 1 then (s, 0)
  else
    let s := s.ensurePathStateSize
    let flowKey := buildFlowKey packet sourceFep destFep
    match s.flowPathAssignments.lookup flowKey with
    | some existing => (s, existing)
    | none =>
        let txTime := env.calculateTransmissionTime packet s.config.pathDataRate
        let refreshed := s.pathStates.map (·.refresh s.events.now)
        let path := selectedPath s.config.useEcmpHash flowKey
          (bestPaths (refreshed.map (·.score s.events.now txTime)))
        ({ s with
            pathStates := refreshed
            flowPathAssignments := s.flowPathAssignments.insert flowKey path }, path)

/-- `SoftUeChannel::SelectPathIndex`. -/
def selectPathIndex (env : ChannelEnvironment) (s : SoftUeChannel) (packet : ChannelPacket)
    (sourceFep destFep : UInt32) : SoftUeChannel × ℕ :=
  if s.config.dynamicPathSelection then s.selectAdaptivePathIndex env packet sourceFep destFep
  else if s.config.pathCount ≤ 1 || !s.config.useEcmpHash then (s, 0)
  else (s, (mixFlowKey (buildFlowKey packet sourceFep destFep)).toNat % s.config.pathCount)

/-- The channel with a path reserved for a copy. -/
def reservePath (s : SoftUeChannel) (copy : ChannelCopy) (txTime pathIndex : ℕ) :
    SoftUeChannel :=
  let state := s.pathStates.getD pathIndex {}
  { s with
    pathStates := s.pathStates.set pathIndex
      (state.reserve s.config copy.packet s.events.now txTime)
    reservations := s.reservations ++ [{
      path := pathIndex
      transmission := copy.transmission
      flowKey := copy.flowKey
      queueDepth := toU32 (state.refresh s.events.now).finishTimes.length
      slot := {
        time := s.events.now
        start := max s.events.now state.nextTxAvailable
        finish := max s.events.now state.nextTxAvailable + txTime
        depth := (state.refresh s.events.now).finishTimes.length } }] }

/-- `SoftUeChannel::ReserveExplicitPathAndCalculateDelay`. -/
def reserveExplicitPathAndCalculateDelay (env : ChannelEnvironment) (s : SoftUeChannel)
    (copy : ChannelCopy) : SoftUeChannel × ℕ :=
  let selected := s.ensurePathStateSize.selectPathIndex env copy.packet copy.sourceFep copy.destFep
  let state := selected.1.pathStates.getD selected.2 {}
  let txTime := env.calculateTransmissionTime copy.packet s.config.pathDataRate
  let finishTx := max s.events.now state.nextTxAvailable + txTime
  (selected.1.reservePath copy txTime selected.2,
    (finishTx - s.events.now) + s.config.pathDelay + s.config.extraDelay)

/-- `SoftUeChannel::CalculateScheduleDelay`. -/
def calculateScheduleDelay (env : ChannelEnvironment) (s : SoftUeChannel)
    (packet : ChannelPacket) : SoftUeChannel × ℕ :=
  let txTime := env.calculateTransmissionTime packet s.config.dataRate
  if !s.config.serializeTransmissions then (s, s.config.delay + s.config.extraDelay + txTime)
  else
    let finishTx := max s.events.now s.nextTxAvailable + txTime
    ({ s with nextTxAvailable := finishTx },
      (finishTx - s.events.now) + s.config.delay + s.config.extraDelay)

/-! ## Copies -/

/-- `SoftUeChannel::GetDestinationFepForDevice`. -/
def getDestinationFepForDevice (s : SoftUeChannel) (device : ChannelDevice) : UInt32 :=
  device.localFep.getD (.ofNat (s.devices.idxOf device + 1))

/-- The condition of the loop of `Transmit`: the device is not the source, and the packet is for
it or for all devices. -/
def isDestination (s : SoftUeChannel) (src : ChannelDevice) (destFep : UInt32)
    (dest : ChannelDevice) : Bool :=
  dest ≠ src && (destFep = 0 || destFep = s.getDestinationFepForDevice dest)

/-- `m_rng->GetValue () < probability`. -/
def draw (env : ChannelEnvironment) (s : SoftUeChannel) (probability : ℚ) :
    SoftUeChannel × Bool :=
  ({ s with draws := s.draws + 1 }, env.random s.draws < probability)

/-- A copy is dropped. -/
def dropCopy (s : SoftUeChannel) (target : ChannelTarget) : SoftUeChannel :=
  { s with dropped := s.dropped ++ [target] }

/-- `SoftUeChannel::ScheduleReceive`. -/
def scheduleReceive (s : SoftUeChannel) (copy : ChannelCopy) (delay : ℕ) : SoftUeChannel :=
  { s with events := s.events.schedule delay (.receivePacket copy) }

/-- The timer of a copy that is held, unless it is pending already or there is none. -/
def armFlushEvent (s : SoftUeChannel) (delay : ℕ) : SoftUeChannel :=
  if 0 < s.config.reorderHoldDelay && !s.events.isPending s.heldFlushEvent then
    { s with
      heldFlushEvent := some s.events.nextUid
      events := s.events.schedule s.config.reorderHoldDelay (.releaseHeldPacket delay) }
  else s

/-- A copy is held back. -/
def holdCopy (s : SoftUeChannel) (copy : ChannelCopy) (delay : ℕ) : SoftUeChannel :=
  ({ s with
      held := some ⟨{ copy with wasHeld := true }, delay, s.events.now⟩
      holds := s.holds ++ [copy.target] } : SoftUeChannel).armFlushEvent delay

/-- The delay of a copy: the devices of one transmission share one reservation of a path. -/
def receiveDelay (env : ChannelEnvironment) (s : SoftUeChannel) (reserved : Option ℕ)
    (copy : ChannelCopy) : (SoftUeChannel × ℕ) × Option ℕ :=
  if s.config.explicitPaths then
    match reserved with
    | some delay => ((s, delay), some delay)
    | none =>
        let result := s.reserveExplicitPathAndCalculateDelay env copy
        (result, some result.2)
  else (s.calculateScheduleDelay env copy.packet, reserved)

/-- Hold a copy back or schedule its reception. -/
def holdOrSchedule (env : ChannelEnvironment) (s : SoftUeChannel) (copy : ChannelCopy)
    (delay : ℕ) : SoftUeChannel :=
  if s.held.isNone && copy.packet.isResponsePacket && s.holdNextResponse then
    { s with holdNextResponse := false }.holdCopy copy delay
  else if s.held.isNone && !copy.packet.isGapNackControlPacket then
    let drawn := s.draw env s.config.reorderProbability
    if drawn.2 then drawn.1.holdCopy copy delay else drawn.1.scheduleReceive copy delay
  else s.scheduleReceive copy delay

/-- What becomes of a copy that is not dropped by a counter. -/
def forwardCopy (env : ChannelEnvironment) (s : SoftUeChannel) (reserved : Option ℕ)
    (copy : ChannelCopy) : SoftUeChannel × Option ℕ :=
  let delayed := s.receiveDelay env reserved copy
  (delayed.1.1.holdOrSchedule env copy delayed.1.2, delayed.2)

/-- The body of the loop of `Transmit`, for a device that the packet is for. -/
def transmitCopy (env : ChannelEnvironment) (s : SoftUeChannel) (reserved : Option ℕ)
    (copy : ChannelCopy) : SoftUeChannel × Option ℕ :=
  if !copy.packet.isResponsePacket && 0 < s.dropNextRequests then
    ({ s with dropNextRequests := s.dropNextRequests - 1 }.dropCopy copy.target, reserved)
  else if copy.packet.isResponsePacket && 0 < s.dropNextResponses then
    ({ s with dropNextResponses := s.dropNextResponses - 1 }.dropCopy copy.target, reserved)
  else if !copy.packet.isGapNackControlPacket then
    let drawn := s.draw env s.config.dropProbability
    if drawn.2 then (drawn.1.dropCopy copy.target, reserved)
    else drawn.1.forwardCopy env reserved copy
  else s.forwardCopy env reserved copy

/-- The loop of `Transmit` over some of the devices. -/
def transmitTo (env : ChannelEnvironment) (src : ChannelDevice)
    (copyFor : ChannelDevice → ChannelCopy) :
    List ChannelDevice → SoftUeChannel → Option ℕ → SoftUeChannel
  | [], s, _ => s
  | dest :: rest, s, reserved =>
      if s.isDestination src (copyFor dest).destFep dest then
        let result := s.transmitCopy env reserved (copyFor dest)
        transmitTo env src copyFor rest result.1 result.2
      else transmitTo env src copyFor rest s reserved

/-- `SoftUeChannel::Transmit`; a null pointer is `none`. -/
def transmit (env : ChannelEnvironment) (s : SoftUeChannel) (packet : Option ChannelPacket)
    (src : Option ChannelDevice) (sourceFep destFep : UInt32) : SoftUeChannel :=
  match packet, src with
  | some packet, some src =>
      let copyFor := fun dest : ChannelDevice =>
        ({ transmission := s.transmissions
           packet := packet
           dest := dest
           sourceFep := sourceFep
           destFep := destFep } : ChannelCopy)
      let started : SoftUeChannel :=
        { s with
          transmissions := s.transmissions + 1
          targets := s.targets ++
            (s.devices.filter (s.isDestination src destFep)).map fun dest =>
              (s.transmissions, dest) }
      transmitTo env src copyFor s.devices started.ensurePathStateSize none
  | _, _ => s

/-! ## Events -/

/-- The delay of a copy that is released. -/
def releaseDelay (env : ChannelEnvironment) (s : SoftUeChannel) (held : HeldTransmission)
    (scheduleDelay : ℕ) : SoftUeChannel × ℕ :=
  if s.config.explicitPaths then s.reserveExplicitPathAndCalculateDelay env held.copy
  else if s.config.serializeTransmissions then s.calculateScheduleDelay env held.copy.packet
  else (s, scheduleDelay)

/-- `SoftUeChannel::ReleaseHeldPacket`. -/
def releaseHeldPacket (env : ChannelEnvironment) (s : SoftUeChannel) (scheduleDelay : ℕ) :
    SoftUeChannel :=
  match s.held with
  | none => s
  | some held =>
      let cancelled : SoftUeChannel := { s with events := s.events.cancel s.heldFlushEvent }
      let delayed := cancelled.releaseDelay env held scheduleDelay
      { delayed.1.scheduleReceive held.copy delayed.2 with
        held := none
        releases := delayed.1.releases ++ [held.copy.target] }

/-- `SoftUeChannel::FlushHeldPacket`. -/
def flushHeldPacket (env : ChannelEnvironment) (s : SoftUeChannel) : SoftUeChannel :=
  s.releaseHeldPacket env 1

/-- `SoftUeChannel::ReceivePacket`. -/
def receivePacket (s : SoftUeChannel) (copy : ChannelCopy) : SoftUeChannel :=
  if copy.dest.localFep.isSome then { s with delivered := s.delivered ++ [copy] }
  else { s with ignored := s.ignored ++ [copy] }

/-- Run an event. -/
def runEvent (env : ChannelEnvironment) (s : SoftUeChannel) : ChannelEvent → SoftUeChannel
  | .receivePacket copy => s.receivePacket copy
  | .releaseHeldPacket scheduleDelay => s.releaseHeldPacket env scheduleDelay

/-- `SoftUeChannel::Attach`. -/
def attach (s : SoftUeChannel) (device : ChannelDevice) : SoftUeChannel :=
  if device ∈ s.devices then s
  else if 1000 ≤ s.devices.length then s
  else { s with devices := s.devices ++ [device] }

end SoftUeChannel
end UeSim
