import Mathlib.Algebra.Order.Floor.Div
import UeSim.Sue.UniformGenerator

/-!
# The flow generator

`ConfigurableTrafficGenerator` generates the transactions of the flows of its XPU.  A round goes
through the active flows and generates a transaction for each whose packet interval has passed;
then the next round is scheduled for the earliest of their times.  The load balancer pauses the
generator from inside a round, when it has to buffer a transaction, and resumes it between
rounds; it keeps a flag of its own, so that the two calls alternate.

Times are in nanoseconds, and are added in 64 bits without a sign.  A difference becomes a
`Time`, which has a sign.  The start time and the packet interval of a flow are computed from
floating-point numbers, and are taken here as they come out.
-/

namespace UeSim

/-! ## The state -/

/-- A flow of the list, with its start time and its packet interval in nanoseconds. -/
structure ConfiguredFlow where
  sourceXpuId : UInt32
  destXpuId : UInt32
  vcId : UInt8
  totalBytes : UInt32
  startTimeNs : ℕ
  packetIntervalNs : ℕ
  startTimeNs_lt : startTimeNs < 2 ^ 64
  packetIntervalNs_lt : packetIntervalNs < 2 ^ 63

/-- `FlowState`, with its flow and the times of its transactions. -/
structure FlowState where
  flow : ConfiguredFlow
  bytesSent : ℕ := 0
  lastGenerationTime : ℕ
  isActive : Bool := true
  generated : List ℕ := []

/-- An event of the simulator that starts a round. -/
structure GenerationEvent where
  uid : ℕ
  time : ℕ
  deriving DecidableEq

/-- The attributes of a `ConfigurableTrafficGenerator`. -/
structure FlowGenerator where
  transactionSize : UInt32 := 256
  localXpuId : UInt32 := 0
  fineGrainedFlows : List ConfiguredFlow
  transactionSize_pos : 0 < transactionSize.toNat

/-- The state of a `ConfigurableTrafficGenerator`, with the events of the simulator that are
its own, and the flag of the load balancer. -/
structure FlowGeneratorState where
  started : Bool := false
  now : ℕ := 0
  psn : UInt32 := 0
  /-- The states of the flows of `m_activeFlowIndices`. -/
  flowStates : List FlowState := []
  generationPaused : Bool := false
  transmissionComplete : Bool := false
  nextUid : ℕ := 0
  events : List GenerationEvent := []
  /-- The event of `m_generateEvent`. -/
  generateEvent : Option ℕ := none
  /-- `m_trafficGenerationPaused` of the load balancer. -/
  pausedByLoadBalancer : Bool := false
  handed : List HandedTransaction := []

/-- What happens to a generator.  In a round, the load balancer buffers the transactions that
are told by their sequence numbers. -/
inductive FlowAction where
  | startApplication (time : ℕ)
  | generateTransactions (uid : ℕ) (buffers : UInt32 → Bool)
  | resumeGeneration (time : ℕ)

/-! ## The time of the next round -/

/-- The 64 bits of a `Time`. -/
def toTime (n : ℕ) : ℤ := if n < 2 ^ 63 then n else n - 2 ^ 64

/-- `Time::Max`. -/
def maxTime : ℤ := 2 ^ 63 - 1

/-- The end of the simulated time, `GetMaximumSimulationTime`. -/
def maximumSimulationTime : ℕ := 2 ^ 63 - 1

namespace FlowState

/-- `nextGenerationTime`. -/
def nextGenerationTime (f : FlowState) : ℕ :=
  (f.lastGenerationTime + f.flow.packetIntervalNs) % 2 ^ 64

/-- The loop of `CalculateNextEventTime`, with its minimum. -/
def nextEventLoop (now : ℕ) : List FlowState → ℤ → ℤ
  | [], minNextEvent => if minNextEvent = maxTime then 0 else minNextEvent
  | f :: rest, minNextEvent =>
    if f.isActive = false then nextEventLoop now rest minNextEvent
    else if f.nextGenerationTime > now then
      let nextEvent := toTime (f.nextGenerationTime - now)
      nextEventLoop now rest (if nextEvent < minNextEvent then nextEvent else minNextEvent)
    else 1

/-- `CalculateNextEventTime`. -/
def calculateNextEventTime (now : ℕ) (flowStates : List FlowState) : ℤ :=
  nextEventLoop now flowStates maxTime

end FlowState

namespace FlowGeneratorState

/-- `ScheduleNextTransaction`. -/
def scheduleNextTransaction (s : FlowGeneratorState) : FlowGeneratorState :=
  let nextEventTime := FlowState.calculateNextEventTime s.now s.flowStates
  if s.generationPaused = true ∨ s.transmissionComplete = true then s
  else if 0 ≤ nextEventTime then
    { s with
      nextUid := s.nextUid + 1
      events := s.events ++ [⟨s.nextUid, s.now + nextEventTime.toNat⟩]
      generateEvent := some s.nextUid }
  else s

/-- `PauseGeneration`. -/
def pauseGeneration (s : FlowGeneratorState) : FlowGeneratorState :=
  { s with
    generationPaused := true
    events := s.events.filter fun e => some e.uid ≠ s.generateEvent }

/-- `ResumeGeneration`. -/
def resumeGeneration (s : FlowGeneratorState) : FlowGeneratorState :=
  if s.transmissionComplete = true then { s with generationPaused := false }
  else { s with generationPaused := false }.scheduleNextTransaction

/-- `NotifyTrafficGeneratorToPause`. -/
def notifyToPause (s : FlowGeneratorState) : FlowGeneratorState :=
  if s.pausedByLoadBalancer = true then s
  else { s with pausedByLoadBalancer := true }.pauseGeneration

/-- `NotifyTrafficGeneratorToResume`. -/
def notifyToResume (s : FlowGeneratorState) : FlowGeneratorState :=
  if s.pausedByLoadBalancer = false then s
  else { s with pausedByLoadBalancer := false }.resumeGeneration

end FlowGeneratorState

/-! ## A round -/

namespace FlowGenerator

/-- `AddSueHeader` and `DistributeTransaction` for a transaction of a flow. -/
def distribute (g : FlowGenerator) (buffers : UInt32 → Bool) (s : FlowGeneratorState)
    (flow : ConfiguredFlow) : FlowGeneratorState :=
  let handed : FlowGeneratorState :=
    { s with
      psn := s.psn + 1
      handed := s.handed ++ [⟨s.psn, flow.destXpuId, flow.vcId, g.transactionSize⟩] }
  if buffers s.psn = true then handed.notifyToPause else handed

/-- Whether a flow has all its bytes sent. -/
def finished (f : FlowState) : Bool := f.bytesSent ≥ f.flow.totalBytes.toNat

/-- Whether a round generates a transaction for a flow. -/
def generates (now : ℕ) (f : FlowState) : Bool :=
  f.isActive && !finished f && decide (now ≥ f.nextGenerationTime)

/-- What a round does to the state of a flow. -/
def visit (g : FlowGenerator) (now : ℕ) (f : FlowState) : FlowState :=
  if f.isActive = false then f
  else if finished f = true then { f with isActive := false }
  else if now ≥ f.nextGenerationTime then
    { f with
      bytesSent := (f.bytesSent + g.transactionSize.toNat) % 2 ^ 64
      lastGenerationTime := now
      generated := f.generated ++ [now] }
  else f

/-- The loop of a round over the flows that are left. -/
def roundLoop (g : FlowGenerator) (buffers : UInt32 → Bool) :
    FlowGeneratorState → List FlowState → FlowGeneratorState × List FlowState
  | s, [] => (s, [])
  | s, f :: rest =>
    let visited := if generates s.now f = true then g.distribute buffers s f.flow else s
    let r := g.roundLoop buffers visited rest
    (r.1, g.visit s.now f :: r.2)

/-- `GenerateTransactions`. -/
def generateTransactions (g : FlowGenerator) (buffers : UInt32 → Bool) (s : FlowGeneratorState) :
    FlowGeneratorState :=
  if s.generationPaused = true ∨ s.transmissionComplete = true then s
  else
    let r := g.roundLoop buffers s s.flowStates
    let after := { r.1 with flowStates := r.2 }
    if after.flowStates.all (fun f => !f.isActive) then { after with transmissionComplete := true }
    else after.scheduleNextTransaction

/-- `InitializeActiveFlows`: the flows of the local XPU. -/
def initializeActiveFlows (g : FlowGenerator) : List FlowState :=
  (g.fineGrainedFlows.filter fun flow => flow.sourceXpuId = g.localXpuId).map fun flow =>
    { flow := flow, lastGenerationTime := flow.startTimeNs }

/-- `StartApplication`. -/
def startApplication (g : FlowGenerator) (s : FlowGeneratorState) : FlowGeneratorState :=
  let started : FlowGeneratorState :=
    { s with
      started := true
      transmissionComplete := false
      psn := 0
      generationPaused := false
      flowStates := g.initializeActiveFlows }
  if g.initializeActiveFlows = [] then { started with transmissionComplete := true }
  else started.scheduleNextTransaction

/-- Whether the time can go on to a point: it passes no event, and not its end. -/
def canReach (s : FlowGeneratorState) (time : ℕ) : Bool :=
  s.now ≤ time && time ≤ maximumSimulationTime && s.events.all fun e => time ≤ e.time

/-- A step of a generator and its load balancer. -/
def flowStep (g : FlowGenerator) (s : FlowGeneratorState) :
    FlowAction → Option FlowGeneratorState
  | .startApplication time =>
    if s.started = false ∧ canReach s time = true then
      some (g.startApplication { s with now := time })
    else none
  | .generateTransactions uid buffers =>
    (s.events.find? fun e => e.uid = uid).bind fun event =>
      if canReach s event.time = true then
        some (g.generateTransactions buffers
          { s with now := event.time, events := s.events.filter fun e => e.uid ≠ uid })
      else none
  | .resumeGeneration time =>
    if s.pausedByLoadBalancer = true ∧ canReach s time = true then
      some { s with now := time }.notifyToResume
    else none

/-- The runs of a generator and its load balancer. -/
def flowSystem (g : FlowGenerator) : TransitionSystem FlowGeneratorState FlowAction where
  init s := s = {}
  step := g.flowStep

/-! ## What is promised -/

/-- The number of transactions of a flow. -/
def transactionCount (g : FlowGenerator) (flow : ConfiguredFlow) : ℕ :=
  flow.totalBytes.toNat ⌈/⌉ g.transactionSize.toNat

/-- The promises, in a state of a run: never more transactions of a flow than its bytes need
and all of them when the transmission is complete, two transactions of a flow with its packet
interval between them, and one pending event at most, which is there while generation is not
paused and a flow is active. -/
structure RateLimited (g : FlowGenerator) (s : FlowGeneratorState) : Prop where
  flows : s.started = true → s.flowStates.map FlowState.flow =
    g.fineGrainedFlows.filter fun flow => flow.sourceXpuId = g.localXpuId
  count_le : ∀ f ∈ s.flowStates, f.generated.length ≤ g.transactionCount f.flow
  count_eq : s.transmissionComplete = true →
    ∀ f ∈ s.flowStates, f.generated.length = g.transactionCount f.flow
  spaced : ∀ f ∈ s.flowStates,
    f.generated.Pairwise fun earlier later => earlier + f.flow.packetIntervalNs ≤ later
  events_le : s.events.length ≤ 1
  pending : s.generationPaused = false → (∃ f ∈ s.flowStates, f.isActive = true) →
    s.events ≠ []

/-- A next round can be scheduled: some active flow is due, or none of them is due so far ahead
that the difference is negative as a `Time`. -/
def Schedulable (now : ℕ) (flowStates : List FlowState) : Prop :=
  (∃ f ∈ flowStates, f.isActive = true ∧ f.nextGenerationTime ≤ now) ∨
    ∀ f ∈ flowStates, f.isActive = true → f.nextGenerationTime - now < 2 ^ 63

/-- Whether the load balancer buffers a transaction of a round. -/
def roundBuffers (now : ℕ) (buffers : UInt32 → Bool) : UInt32 → List FlowState → Bool
  | _, [] => false
  | psn, f :: rest =>
    if generates now f = true then buffers psn || roundBuffers now buffers (psn + 1) rest
    else roundBuffers now buffers psn rest

/-- A next round can be scheduled after a round: some flow with bytes left is due again at
once, or none of them that is not due is so far ahead. -/
def SchedulableAfter (now : ℕ) (flowStates : List FlowState) : Prop :=
  (∃ f ∈ flowStates, generates now f = true ∧ f.flow.packetIntervalNs = 0) ∨
    ∀ f ∈ flowStates, f.isActive = true → finished f = false → generates now f = false →
      f.nextGenerationTime - now < 2 ^ 63

/-- The condition on a step: where it goes on with the generation, a next round can be
scheduled. -/
def StepSchedulable (g : FlowGenerator) (s : FlowGeneratorState) : FlowAction → Prop
  | .startApplication time => Schedulable time g.initializeActiveFlows
  | .generateTransactions uid buffers => ∀ e ∈ s.events, e.uid = uid →
    roundBuffers e.time buffers s.psn s.flowStates = true ∨ SchedulableAfter e.time s.flowStates
  | .resumeGeneration time => Schedulable time s.flowStates

end FlowGenerator

end UeSim
