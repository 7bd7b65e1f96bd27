import UeSim.Config.SimulationConfig
import UeSim.Support.KeyedMap

/-!
# The planned operations of a simulation

`BuildTruthPlan` takes one of six planners, and each numbers its operations in order: the
number of an operation selects its type, where a trace does not give it.  All operations of a
plan have the same payload.

What the files of flows and traces contain is an input, and so are the rows of devices, which
`CreateSoftUeTruthConnections` makes.  Where the program ends before there is a plan, the result is
`none`; a plan without operations is one, which `InstallSoftUeTruthScenario` then refuses.
-/

namespace UeSim

open SueSimulationConfig

/-- An endpoint of a planner. -/
structure PlanEndpoint where
  xpuId : UInt32
  port : UInt32
  deriving DecidableEq

/-- `FineGrainedTrafficFlow`, for the planner. -/
structure FineGrainedTrafficFlow where
  sourceXpuId : UInt32
  destXpuId : UInt32
  sueId : UInt32
  suePort : UInt32
  destPort : UInt32
  totalBytes : UInt32
  hasExplicitDestPort : Bool

/-- A line of a trace: `gpuId`, `dieId` and the operation. -/
structure TruthTraceLine where
  gpuId : UInt32
  dieId : UInt32
  operation : String

/-- What is in the files.  The program ends at a file that cannot be opened, and at a line of the
trace with a field that is not a number. -/
structure TruthFiles where
  flows : Option (List FineGrainedTrafficFlow) := none
  trace : Option (List TruthTraceLine) := none

/-- `TruthPlannedOperation`: its endpoints, its type and its size. -/
structure TruthPlannedOperation where
  srcXpuId : UInt32
  srcPort : UInt32
  dstXpuId : UInt32
  dstPort : UInt32
  opType : OpType
  payloadBytes : UInt32

/-- The `FlowPlan` of the uniform and the striped planner. -/
structure FlowPlan where
  srcXpuId : UInt32
  srcPort : UInt32
  dstXpuId : UInt32
  baseDstPort : UInt32
  preferredDstPort : UInt32
  flowIdx : UInt32

/-- A loop that numbers what it goes through. -/
def numbered {α β : Type} (f : α → UInt32 → β) : UInt32 → List α → List β
  | _, [] => []
  | ordinal, x :: rest => f x ordinal :: numbered f (ordinal + 1) rest

/-- Two nested loops: for each number below a bound, through a list. -/
def rounds {α : Type} (count : ℕ) (l : List α) : List (UInt32 × α) :=
  (List.range count).flatMap fun i => l.map fun x => (UInt32.ofNat i, x)

namespace SueSimulationConfig

/-- `SelectTruthOpType`. -/
def selectTruthOpType (c : SueSimulationConfig) (ordinal : UInt32) : OpType :=
  if ordinal % 100 < c.truthSendPercent then .send
  else if ordinal % 100 < c.truthSendPercent + c.truthWritePercent then .write
  else .read

/-- `GetTruthPayloadBytes`. -/
def getTruthPayloadBytes (c : SueSimulationConfig) : UInt32 :=
  let baseBytes := max c.truthPayloadBytes 32
  let payloadPerPacket := max 1 c.traffic.payloadMtu
  if c.truthExperimentClass ≠ "system_pressure" then baseBytes
  else if c.truthPressureProfile = "credit_pressure" ∨ c.truthPressureProfile = "lossy" then
    max baseBytes (payloadPerPacket * 3 + 17)
  else if c.truthPressureProfile = "mixed" then max baseBytes (payloadPerPacket * 4 + 17)
  else baseBytes

/-- `pressureProfile`. -/
def pressureProfile (c : SueSimulationConfig) : String :=
  if c.truthExperimentClass = "system_pressure" then c.truthPressureProfile else "baseline"

/-! ## Flows -/

/-- The endpoints of rows of devices. -/
def planEndpoints (c : SueSimulationConfig) (rows : UInt32) : List PlanEndpoint :=
  (List.range rows.toNat).flatMap fun xpuIdx =>
    (List.range c.network.portsPerXpu.toNat).map fun portIdx =>
      ⟨UInt32.ofNat xpuIdx, UInt32.ofNat portIdx⟩

/-- Whether the rows of senders and of receivers are told apart. -/
def sixBySix (c : SueSimulationConfig) : Bool := c.fabricEndpointMode = "six_by_six"

/-- Whether an endpoint of the fabric sends. -/
def senderSide (c : SueSimulationConfig) (e : PlanEndpoint) : Bool :=
  !c.sixBySix || e.xpuId < c.network.nXpus

/-- Whether an endpoint of the fabric receives. -/
def receiverSide (c : SueSimulationConfig) (e : PlanEndpoint) : Bool :=
  !c.sixBySix || e.xpuId ≥ c.network.nXpus

/-- Whether the fabric has a flow from an endpoint to each other one. -/
def connects (c : SueSimulationConfig) (src dst : PlanEndpoint) : Bool :=
  src ≠ dst && (c.sixBySix || src.xpuId ≠ dst.xpuId) &&
    (!c.sixBySix || (src.xpuId < c.network.nXpus && dst.xpuId ≥ c.network.nXpus))

/-- The flows of `BuildFabricTruthPlan`, if it does not abort. -/
def fabricFlows (c : SueSimulationConfig) (rows : UInt32) :
    Option (List (PlanEndpoint × PlanEndpoint)) :=
  let sources := (c.planEndpoints rows).filter c.senderSide
  let destinations := (c.planEndpoints rows).filter c.receiverSide
  let flows :=
    if c.fabricTrafficPattern = "hotspot" ∨ c.fabricTrafficPattern = "incast" then
      destinations.head?.map fun hotspot =>
        (sources.filter fun src => src ≠ hotspot).map fun src => (src, hotspot)
    else
      some (sources.flatMap fun src =>
        (destinations.filter fun dst => c.connects src dst).map fun dst => (src, dst))
  flows.bind fun flows =>
    let kept :=
      if 0 < c.truthFlowCount ∧ c.truthFlowCount.toNat < flows.length then
        flows.take c.truthFlowCount.toNat
      else flows
    if kept = [] then none else some kept

/-- The source of a flow of the uniform and the striped planner. -/
def flowSource (c : SueSimulationConfig) (rows flowIdx : UInt32) : PlanEndpoint :=
  let srcGlobal := flowIdx % (rows * c.network.portsPerXpu)
  ⟨srcGlobal / c.network.portsPerXpu, srcGlobal % c.network.portsPerXpu⟩

/-- `maxFlows`. -/
def maxFlows (c : SueSimulationConfig) : UInt32 := max 1 c.truthFlowCount

/-- A flow of `BuildUniformTruthPlan`. -/
def uniformFlow (c : SueSimulationConfig) (rows flowIdx : UInt32) : FlowPlan :=
  let src := c.flowSource rows flowIdx
  let next := (src.xpuId + 1 + flowIdx % max 1 (rows - 1)) % rows
  let dstXpuId := if next = src.xpuId ∧ rows > 1 then (next + 1) % rows else next
  let baseDstPort := (src.port + 1 + flowIdx / max 1 rows) % c.network.portsPerXpu
  let dstPort :=
    if c.truthExperimentClass = "system_pressure" ∧ c.pressureProfile = "credit_pressure" then 0
    else if c.truthExperimentClass = "system_pressure" ∧ c.pressureProfile = "mixed" ∧
      flowIdx % 2 = 0 then 0
    else baseDstPort
  ⟨src.xpuId, src.port, dstXpuId, baseDstPort, dstPort, flowIdx⟩

/-- Whether an endpoint with a count comes before the best so far. -/
def comesBefore (endpoint : PlanEndpoint) (count : UInt32) (selected : PlanEndpoint)
    (selectedCount : UInt32) : Bool :=
  count < selectedCount ∨ count = selectedCount ∧ (endpoint.xpuId < selected.xpuId ∨
    endpoint.xpuId = selected.xpuId ∧ endpoint.port < selected.port)

/-- The endpoint that `BuildStripedTruthPlan` selects for a source. -/
def selectStriped (assignedCounts : KeyedMap PlanEndpoint UInt32) (srcXpuId : UInt32)
    (candidates : List PlanEndpoint) : Option (PlanEndpoint × UInt32) :=
  candidates.foldl
    (fun best endpoint =>
      let count := (assignedCounts.lookup endpoint).getD 0
      if endpoint.xpuId = srcXpuId then best
      else
        match best with
        | none => some (endpoint, count)
        | some (selected, selectedCount) =>
            if comesBefore endpoint count selected selectedCount then some (endpoint, count)
            else best)
    none

/-- The flows of `BuildStripedTruthPlan`, if it does not abort. -/
def stripedFlows (c : SueSimulationConfig) (rows : UInt32) :
    List ℕ → KeyedMap PlanEndpoint UInt32 → Option (List FlowPlan)
  | [], _ => some []
  | flowIdx :: rest, assignedCounts =>
      let src := c.flowSource rows (UInt32.ofNat flowIdx)
      (selectStriped assignedCounts src.xpuId (c.planEndpoints rows)).bind fun selected =>
        (c.stripedFlows rows rest (assignedCounts.insert selected.1 (selected.2 + 1))).map
          fun flows =>
            ⟨src.xpuId, src.port, selected.1.xpuId, selected.1.port, selected.1.port,
              UInt32.ofNat flowIdx⟩ :: flows

/-! ## Planners -/

/-- An operation of `BuildFabricTruthPlan`. -/
def fabricOperation (c : SueSimulationConfig)
    (flow : UInt32 × PlanEndpoint × PlanEndpoint) (ordinal : UInt32) : TruthPlannedOperation where
  srcXpuId := flow.2.1.xpuId
  srcPort := flow.2.1.port
  dstXpuId := flow.2.2.xpuId
  dstPort := flow.2.2.port
  opType := c.selectTruthOpType ordinal
  payloadBytes := c.getTruthPayloadBytes

/-- An operation of `BuildUniformTruthPlan` and `BuildStripedTruthPlan`. -/
def flowOperation (c : SueSimulationConfig) (flow : UInt32 × FlowPlan) (ordinal : UInt32) :
    TruthPlannedOperation where
  srcXpuId := flow.2.srcXpuId
  srcPort := flow.2.srcPort
  dstXpuId := flow.2.dstXpuId
  dstPort :=
    if c.truthExperimentClass = "system_pressure" ∧ c.pressureProfile = "lossy" ∨
      c.truthExperimentClass = "system_pressure" ∧ c.pressureProfile = "mixed" ∧
        flow.2.flowIdx % 2 ≠ 0 then
      (flow.2.baseDstPort + ordinal + flow.1) % c.network.portsPerXpu
    else flow.2.preferredDstPort
  opType := c.selectTruthOpType ordinal
  payloadBytes := c.getTruthPayloadBytes

/-- `BuildFabricTruthPlan`. -/
def buildFabricTruthPlan (c : SueSimulationConfig) (rows : UInt32) :
    Option (List TruthPlannedOperation) :=
  (c.fabricFlows rows).map fun flows =>
    numbered c.fabricOperation 0 (rounds c.truthOpsPerFlow.toNat flows)

/-- `BuildSemanticDemoTruthPlan`. -/
def buildSemanticDemoTruthPlan (c : SueSimulationConfig) (rows : UInt32) :
    Option (List TruthPlannedOperation) :=
  let payloadBytes := max c.truthPayloadBytes 64
  let secondaryPort : UInt32 := if c.network.portsPerXpu > 1 then 1 else 0
  if rows < 2 ∨ c.network.portsPerXpu = 0 then none
  else
    some [⟨0, 0, 1, 0, .send, payloadBytes⟩,
      ⟨0, secondaryPort, 1, secondaryPort, .write, payloadBytes⟩,
      ⟨1, 0, 0, 0, .read, payloadBytes⟩,
      ⟨0, 0, 1, 0, .write, payloadBytes⟩]

/-- `BuildUniformTruthPlan`. -/
def buildUniformTruthPlan (c : SueSimulationConfig) (rows : UInt32) :
    List TruthPlannedOperation :=
  numbered c.flowOperation 0 (rounds c.truthOpsPerFlow.toNat
    ((List.range c.maxFlows.toNat).map fun i => c.uniformFlow rows (UInt32.ofNat i)))

/-- `BuildStripedTruthPlan`. -/
def buildStripedTruthPlan (c : SueSimulationConfig) (rows : UInt32) :
    Option (List TruthPlannedOperation) :=
  (c.stripedFlows rows (List.range c.maxFlows.toNat) ∅).map fun flows =>
    numbered c.flowOperation 0 (rounds c.truthOpsPerFlow.toNat flows)

/-- `opCount` of a flow. -/
def opCount (c : SueSimulationConfig) (flow : FineGrainedTrafficFlow) : UInt32 :=
  max 1 ((flow.totalBytes + c.getTruthPayloadBytes - 1) / c.getTruthPayloadBytes)

/-- The flows of `BuildFineGrainedTruthPlan`, each as often as it has operations. -/
def fineGrainedSlots (c : SueSimulationConfig) (flows : List FineGrainedTrafficFlow) :
    List FineGrainedTrafficFlow :=
  flows.flatMap fun flow => List.replicate (c.opCount flow).toNat flow

/-- `BuildFineGrainedTruthPlan`. -/
def buildFineGrainedTruthPlan (c : SueSimulationConfig) (rows : UInt32)
    (flows : List FineGrainedTrafficFlow) : List TruthPlannedOperation :=
  numbered
    (fun flow ordinal =>
      let rawSrcPort := flow.sueId * c.network.portsPerSue + flow.suePort
      { srcXpuId := flow.sourceXpuId % rows
        srcPort := rawSrcPort % c.network.portsPerXpu
        dstXpuId := flow.destXpuId % rows
        dstPort :=
          (if flow.hasExplicitDestPort then flow.destPort
            else rawSrcPort % c.network.portsPerXpu) % c.network.portsPerXpu
        opType := c.selectTruthOpType ordinal
        payloadBytes := c.getTruthPayloadBytes })
    0 (c.fineGrainedSlots flows)

/-- The type of an operation of a trace. -/
def traceOpType (operation : String) : OpType :=
  if operation = "LOAD" then .read else if operation = "STORE" then .write else .send

/-- The lines of a trace that are planned. -/
def tracedLines (c : SueSimulationConfig) (trace : List TruthTraceLine) : List TruthTraceLine :=
  trace.take (max 1 (c.truthFlowCount * c.truthOpsPerFlow)).toNat

/-- `BuildTraceTruthPlan`. -/
def buildTraceTruthPlan (c : SueSimulationConfig) (rows : UInt32)
    (trace : List TruthTraceLine) : List TruthPlannedOperation :=
  (c.tracedLines trace).map fun line =>
    let dstXpuId := line.gpuId % rows
    { srcXpuId := 0
      srcPort := line.dieId % c.network.portsPerXpu
      dstXpuId := if dstXpuId = 0 ∧ rows > 1 then (dstXpuId + 1) % rows else dstXpuId
      dstPort := line.dieId % c.network.portsPerXpu % c.network.portsPerXpu
      opType := traceOpType line.operation
      payloadBytes := c.getTruthPayloadBytes }

/-- The rows of devices of `CreateSoftUeTruthConnections`, if it does not abort. -/
def truthRows (c : SueSimulationConfig) : Option UInt32 :=
  if c.network.nXpus < 2 ∨ c.network.portsPerXpu = 0 then none
  else
    some (if c.systemScenarioMode = "soft_ue_fabric" ∧ c.fabricEndpointMode = "six_by_six" then
      c.network.nXpus * 2 else c.network.nXpus)

/-- `BuildTruthPlan` for rows of devices. -/
def buildTruthPlanOf (c : SueSimulationConfig) (files : TruthFiles) (rows : UInt32) :
    Option (List TruthPlannedOperation) :=
  if c.systemScenarioMode = "soft_ue_fabric" then c.buildFabricTruthPlan rows
  else if c.truthExperimentClass = "semantic_demo" then c.buildSemanticDemoTruthPlan rows
  else if c.traffic.enableFineGrainedMode then
    files.flows.map (c.buildFineGrainedTruthPlan rows)
  else if c.traffic.enableTraceMode then files.trace.map (c.buildTraceTruthPlan rows)
  else if c.truthPlannerMode = "striped" then c.buildStripedTruthPlan rows
  else some (c.buildUniformTruthPlan rows)

/-- `BuildTruthPlan`, over the devices that have been made. -/
def buildTruthPlan (c : SueSimulationConfig) (files : TruthFiles) :
    Option (List TruthPlannedOperation) :=
  c.truthRows.bind (c.buildTruthPlanOf files)

end SueSimulationConfig

end UeSim
