import Mathlib.Data.Rat.Defs
import UeSim.Common.Types

/-!
# The configuration of a simulation

`ValidateAndCalculate` ends the program if a parameter is not one that it knows, and derives
the parameters that have been left at zero.  Data rates and delays are given here as the
numbers that they are parsed to, and the drop rate as a rational number.
-/

namespace UeSim

/-- `NetworkConfig`. -/
structure NetworkConfig where
  nXpus : UInt32 := 4
  portsPerXpu : UInt32 := 8
  portsPerSue : UInt32 := 2
  suesPerXpu : UInt32 := 0
  deriving DecidableEq

/-- `TrafficConfig`, for the planners of operations. -/
structure TrafficConfig where
  transactionSize : UInt32 := 256
  mtu : UInt32 := 2500
  payloadMtu : UInt32 := 2048
  enableTraceMode : Bool := false
  enableFineGrainedMode : Bool := false
  deriving DecidableEq

/-- `SueSimulationConfig`, with the defaults of its constructor. -/
structure SueSimulationConfig where
  network : NetworkConfig := {}
  traffic : TrafficConfig := {}
  loadBalanceAlgorithm : UInt32 := 3
  systemScenarioMode : String := ""
  truthExperimentClass : String := "semantic_demo"
  truthPlannerMode : String := ""
  truthFlowCount : UInt32 := 0
  truthOpsPerFlow : UInt32 := 0
  truthPressureProfile : String := "baseline"
  truthSendPercent : UInt32 := 40
  truthWritePercent : UInt32 := 30
  truthReadPercent : UInt32 := 30
  truthPayloadBytes : UInt32 := 0
  truthUnexpectedMessages : UInt32 := 0
  truthUnexpectedBytes : UInt32 := 0
  truthArrivalBlocks : UInt32 := 0
  truthReadTracks : UInt32 := 0
  truthDropRate : ℚ := 0
  truthReorderWindowNs : ℕ := 0
  truthExtraDelayNs : ℕ := 0
  /-- In bits per second. -/
  truthLinkDataRate : ℕ := 1000000000
  truthInitialCredits : UInt32 := 0
  truthCreditRefreshIntervalNs : ℕ := 0
  truthSendAdmissionMessages : UInt32 := 0
  truthSendAdmissionBytes : ℕ := 0
  truthWriteBudgetMessages : UInt32 := 0
  truthWriteBudgetBytes : ℕ := 0
  truthReadResponderMessages : UInt32 := 0
  truthReadResponseBytes : ℕ := 0
  truthRequireFailureEvidence : Bool := false
  fabricTopologyMode : String := "explicit_multipath"
  fabricEndpointMode : String := "six_endpoint"
  fabricPathCount : UInt32 := 4
  /-- In bits per second. -/
  fabricPathDataRate : ℕ := 100000000000
  /-- In nanoseconds. -/
  fabricLinkDelay : ℤ := 10
  fabricTrafficPattern : String := "all_to_all"

namespace SueSimulationConfig

/-- `kSoftUeSemanticHeaderOverheadBytes`. -/
def semanticHeaderOverheadBytes : UInt32 := 128

/-- `IsSupportedPayloadMtu`. -/
def isSupportedPayloadMtu (payloadMtu : UInt32) : Bool :=
  payloadMtu = 2048 ∨ payloadMtu = 4096 ∨ payloadMtu = 8192

/-- `truthPressureClass`. -/
def truthPressureClass (c : SueSimulationConfig) : Bool :=
  c.truthExperimentClass = "system_pressure"

/-- `truthTightResourceProfile`. -/
def truthTightResourceProfile (c : SueSimulationConfig) : Bool :=
  c.truthPressureClass ∧
    (c.truthPressureProfile = "credit_pressure" ∨ c.truthPressureProfile = "mixed")

/-- A profile of pressure in which packets are lost. -/
def truthLossyProfile (c : SueSimulationConfig) : Bool :=
  c.truthPressureClass ∧ (c.truthPressureProfile = "lossy" ∨ c.truthPressureProfile = "mixed")

/-- Whether the devices are those of the semantic stack. -/
def truthBacked (c : SueSimulationConfig) : Bool :=
  c.systemScenarioMode = "soft_ue_truth" ∨ c.systemScenarioMode = "soft_ue_fabric"

/-! ## What is refused -/

/-- The checks of every mode. -/
def refusal (c : SueSimulationConfig) : Option String :=
  if c.network.portsPerSue ≠ 1 ∧ c.network.portsPerSue ≠ 2 ∧ c.network.portsPerSue ≠ 4 then
    some s!"portsPerSue must be 1, 2, or 4. Current value: {c.network.portsPerSue}"
  else if c.network.portsPerXpu % c.network.portsPerSue ≠ 0 then
    some <| s!"portsPerXpu ({c.network.portsPerXpu}) must be divisible by portsPerSue " ++
      s!"({c.network.portsPerSue})"
  else if c.loadBalanceAlgorithm > 5 then
    some <| "loadBalanceAlgorithm must be 0-5 (0=SIMPLE_MOD, 1=MOD_WITH_SEED, 2=PRIME_HASH, " ++
      "3=ENHANCED_HASH, 4=ROUND_ROBIN, 5=CONSISTENT_HASH). Current value: " ++
      s!"{c.loadBalanceAlgorithm}"
  else if c.systemScenarioMode = "" then
    some <| "systemScenarioMode is required. Pass --systemScenarioMode=soft_ue_truth or " ++
      "--systemScenarioMode=legacy_sue."
  else if c.systemScenarioMode ≠ "legacy_sue" ∧ c.systemScenarioMode ≠ "soft_ue_truth" ∧
      c.systemScenarioMode ≠ "soft_ue_fabric" then
    some <| "systemScenarioMode must be legacy_sue, soft_ue_truth, or soft_ue_fabric. " ++
      s!"Current value: {c.systemScenarioMode}"
  else if c.truthExperimentClass ≠ "semantic_demo" ∧ c.truthExperimentClass ≠ "system_smoke" ∧
      c.truthExperimentClass ≠ "system_pressure" then
    some <| "truthExperimentClass must be semantic_demo, system_smoke, or system_pressure. " ++
      s!"Current value: {c.truthExperimentClass}"
  else if c.truthPressureProfile ≠ "baseline" ∧ c.truthPressureProfile ≠ "credit_pressure" ∧
      c.truthPressureProfile ≠ "lossy" ∧ c.truthPressureProfile ≠ "mixed" then
    some <| "truthPressureProfile must be baseline, credit_pressure, lossy, or mixed. " ++
      s!"Current value: {c.truthPressureProfile}"
  else if c.truthSendPercent + c.truthWritePercent + c.truthReadPercent ≠ 100 then
    some <| "truthSendPercent + truthWritePercent + truthReadPercent must equal 100. " ++
      s!"Current sum: {c.truthSendPercent + c.truthWritePercent + c.truthReadPercent}"
  else if c.truthDropRate < 0 ∨ c.truthDropRate > 1 then
    some s!"truthDropRate must be in [0, 1]. Current value: {c.truthDropRate}"
  else if c.truthPlannerMode ≠ "" ∧ c.truthPlannerMode ≠ "uniform" ∧
      c.truthPlannerMode ≠ "striped" then
    some <| "truthPlannerMode must be empty, uniform, or striped. " ++
      s!"Current value: {c.truthPlannerMode}"
  else none

/-- The checks of the payload in `soft_ue_truth`. -/
def payloadRefusal (c : SueSimulationConfig) : Option String :=
  if c.systemScenarioMode ≠ "soft_ue_truth" then none
  else if isSupportedPayloadMtu c.traffic.payloadMtu = false then
    some <| "PayloadMtu must be one of 2048, 4096, or 8192 for soft_ue_truth. " ++
      s!"Current value: {c.traffic.payloadMtu}"
  else if c.traffic.payloadMtu + semanticHeaderOverheadBytes > c.traffic.mtu then
    some <| "PayloadMtu + semantic header overhead must fit within device MTU for " ++
      s!"soft_ue_truth. Current values: PayloadMtu={c.traffic.payloadMtu} " ++
      s!"header_overhead={semanticHeaderOverheadBytes} Mtu={c.traffic.mtu}"
  else none

/-- The checks of the rates and of the fabric, with the texts up to the values. -/
def fabricRefusal (c : SueSimulationConfig) : Option String :=
  if c.truthBacked = true ∧ c.truthLinkDataRate = 0 then
    some <| "truthLinkDataRate must be a positive parsable data rate string for truth-backed " ++
      "modes."
  else if c.systemScenarioMode ≠ "soft_ue_fabric" then none
  else if c.fabricTopologyMode ≠ "shared_truth" ∧
      c.fabricTopologyMode ≠ "explicit_multipath" then
    some <| "fabricTopologyMode must be shared_truth or explicit_multipath. " ++
      s!"Current value: {c.fabricTopologyMode}"
  else if c.fabricEndpointMode ≠ "six_endpoint" ∧ c.fabricEndpointMode ≠ "six_by_six" then
    some <| "fabricEndpointMode must be six_endpoint or six_by_six. " ++
      s!"Current value: {c.fabricEndpointMode}"
  else if c.fabricTrafficPattern ≠ "all_to_all" ∧ c.fabricTrafficPattern ≠ "hotspot" ∧
      c.fabricTrafficPattern ≠ "incast" then
    some <| "fabricTrafficPattern must be all_to_all, hotspot, or incast. " ++
      s!"Current value: {c.fabricTrafficPattern}"
  else if c.fabricPathCount = 0 then
    some "fabricPathCount must be > 0 for soft_ue_fabric"
  else if c.fabricPathDataRate = 0 then
    some "fabricPathDataRate must be a positive parsable data rate string."
  else if c.fabricLinkDelay < 0 then
    some "fabricLinkDelay must be non-negative."
  else none

/-! ## What is derived -/

/-- A parameter of 32 bits that is derived if it has been left at zero. -/
def orDerived (value derived : UInt32) : UInt32 := if value = 0 then derived else value

/-- A parameter of 64 bits that is derived if it has been left at zero. -/
def orDerived64 (value derived : ℕ) : ℕ := if value = 0 then derived else value

/-- `truthPayloadBytes` after the calculation. -/
def payloadBytes (c : SueSimulationConfig) : UInt32 :=
  orDerived c.truthPayloadBytes c.traffic.transactionSize

/-- `truthArrivalBlocks` after the calculation. -/
def arrivalBlocks (c : SueSimulationConfig) : UInt32 :=
  orDerived c.truthArrivalBlocks (if c.truthTightResourceProfile then 4 else 64)

/-- `truthReadTracks` after the calculation. -/
def readTracks (c : SueSimulationConfig) : UInt32 :=
  orDerived c.truthReadTracks (if c.truthTightResourceProfile then 4 else 64)

/-- `truthSendAdmissionMessages` after the calculation. -/
def sendAdmissionMessages (c : SueSimulationConfig) : UInt32 :=
  orDerived c.truthSendAdmissionMessages c.arrivalBlocks

/-- What `ValidateAndCalculate` does to the parameters. -/
def calculate (c : SueSimulationConfig) : SueSimulationConfig :=
  { c with
    network := { c.network with suesPerXpu := c.network.portsPerXpu / c.network.portsPerSue }
    truthFlowCount := orDerived c.truthFlowCount (c.network.nXpus * c.network.portsPerXpu)
    truthOpsPerFlow := orDerived c.truthOpsPerFlow
      (if c.truthExperimentClass = "semantic_demo" then 1
        else if c.truthExperimentClass = "system_smoke" then 3 else 8)
    truthPayloadBytes := c.payloadBytes
    truthUnexpectedMessages := orDerived c.truthUnexpectedMessages
      (if c.truthTightResourceProfile then 4 else 64)
    truthUnexpectedBytes := orDerived c.truthUnexpectedBytes
      (if c.truthTightResourceProfile then 8192 else 1048576)
    truthArrivalBlocks := c.arrivalBlocks
    truthReadTracks := c.readTracks
    truthCreditRefreshIntervalNs := orDerived64 c.truthCreditRefreshIntervalNs 5000000
    truthSendAdmissionMessages := c.sendAdmissionMessages
    truthSendAdmissionBytes := orDerived64 c.truthSendAdmissionBytes
      (c.sendAdmissionMessages.toNat * c.payloadBytes.toNat)
    truthWriteBudgetMessages := orDerived c.truthWriteBudgetMessages c.arrivalBlocks
    truthWriteBudgetBytes := orDerived64 c.truthWriteBudgetBytes
      (c.arrivalBlocks.toNat * c.payloadBytes.toNat)
    truthReadResponderMessages := orDerived c.truthReadResponderMessages c.readTracks
    truthReadResponseBytes := orDerived64 c.truthReadResponseBytes
      (c.readTracks.toNat * c.payloadBytes.toNat)
    truthDropRate :=
      if c.truthLossyProfile ∧ c.truthDropRate = 0 then 1 / 10 else c.truthDropRate
    truthReorderWindowNs :=
      if c.truthLossyProfile then orDerived64 c.truthReorderWindowNs 200000
      else c.truthReorderWindowNs
    truthExtraDelayNs :=
      if c.truthLossyProfile then orDerived64 c.truthExtraDelayNs 50000
      else c.truthExtraDelayNs
    truthInitialCredits :=
      if c.truthTightResourceProfile then orDerived c.truthInitialCredits 4
      else c.truthInitialCredits
    truthRequireFailureEvidence :=
      c.truthRequireFailureEvidence ||
        (c.truthPressureClass && decide (c.truthPressureProfile ≠ "baseline")) }

/-- `ValidateAndCalculate`, with the text with which it aborts. -/
def validateAndCalculate (c : SueSimulationConfig) : Except String SueSimulationConfig :=
  match (c.refusal.or c.payloadRefusal).or c.fabricRefusal with
  | some text => .error text
  | none => .ok c.calculate

/-- What is accepted has its parameters calculated. -/
theorem validateAndCalculate_eq_ok {c c' : SueSimulationConfig}
    (h : c.validateAndCalculate = .ok c') : c' = c.calculate := by
  unfold validateAndCalculate at h
  cases htext : (c.refusal.or c.payloadRefusal).or c.fabricRefusal with
  | none =>
      rw [htext] at h
      cases h
      rfl
  | some text =>
      rw [htext] at h
      cases h

end SueSimulationConfig

end UeSim
