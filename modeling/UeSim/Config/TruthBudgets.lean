import UeSim.Config.TruthPlan
import UeSim.Pds.Budget

/-!
# Budgets of planned operations

The budgets of bytes that `ValidateAndCalculate` derives are a number of messages times the
size of a payload.  The planners give their operations the size of a payload of their own,
which is larger where a small one is made up to 32 or 64 bytes, and where an operation is to
have several packets in a profile of pressure.
-/

namespace UeSim

/-- The budgets that the devices are configured with. -/
structure SemanticBudgets where
  sendAdmission : SemanticBudgetState
  writeBudget : SemanticBudgetState
  readResponder : SemanticBudgetState

/-- The budget that an operation of a type reserves. -/
def SemanticBudgets.budgetFor (b : SemanticBudgets) : OpType → Option SemanticBudgetState
  | .send => some b.sendAdmission
  | .write => some b.writeBudget
  | .read => some b.readResponder
  | .deferrable => none

namespace SueSimulationConfig

variable {c c' : SueSimulationConfig} {files : TruthFiles} {rows : UInt32}
variable {plan : List TruthPlannedOperation}

/-- What `CreateSoftUeTruthConnections` passes to `ConfigureSemanticBudgets`, for an endpoint
that is idle. -/
def configureSemanticBudgets (c : SueSimulationConfig) : SemanticBudgets where
  sendAdmission :=
    { messageLimit := c.truthSendAdmissionMessages.toNat
      byteLimit := c.truthSendAdmissionBytes }
  writeBudget :=
    { messageLimit := c.truthWriteBudgetMessages.toNat
      byteLimit := c.truthWriteBudgetBytes }
  readResponder :=
    { messageLimit := c.truthReadResponderMessages.toNat
      byteLimit := c.truthReadResponseBytes }

/-- Whether the budget of bytes for a type has been left to be derived. -/
def leavesBytes (c : SueSimulationConfig) : OpType → Bool
  | .send => c.truthSendAdmissionBytes = 0
  | .write => c.truthWriteBudgetBytes = 0
  | .read => c.truthReadResponseBytes = 0
  | .deferrable => false

/-- Every planned operation fits a budget that has been derived for its type. -/
def OperationsFit (c c' : SueSimulationConfig) (plan : List TruthPlannedOperation) : Prop :=
  ∀ op ∈ plan, c.leavesBytes op.opType = true →
    ∀ b, c'.configureSemanticBudgets.budgetFor op.opType = some b →
      b.admits op.payloadBytes.toNat = true

/-! ## What is planned -/

/-- The size of the operations of a plan. -/
def plannedPayload (c : SueSimulationConfig) : UInt32 :=
  if c.systemScenarioMode ≠ "soft_ue_fabric" ∧ c.truthExperimentClass = "semantic_demo" then
    max c.truthPayloadBytes 64
  else c.getTruthPayloadBytes

/-- How many operations of a plan are numbered. -/
def numberedOperations (c : SueSimulationConfig) (files : TruthFiles) (rows : UInt32) : ℕ :=
  if c.systemScenarioMode = "soft_ue_fabric" then
    c.truthOpsPerFlow.toNat * ((c.fabricFlows rows).getD []).length
  else if c.traffic.enableFineGrainedMode then
    ((files.flows.getD []).map fun flow => (c.opCount flow).toNat).sum
  else c.truthOpsPerFlow.toNat * c.maxFlows.toNat

/-- The types that a plan has: those of the demonstration, those of the trace, or those that
the numbers of the operations select. -/
def PlansType (c : SueSimulationConfig) (files : TruthFiles) (rows : UInt32) (t : OpType) :
    Prop :=
  if c.systemScenarioMode ≠ "soft_ue_fabric" ∧ c.truthExperimentClass = "semantic_demo" then
    t ≠ .deferrable
  else if c.systemScenarioMode ≠ "soft_ue_fabric" ∧ c.traffic.enableFineGrainedMode = false ∧
      c.traffic.enableTraceMode = true then
    ∃ line ∈ c.tracedLines (files.trace.getD []), traceOpType line.operation = t
  else ∃ n < c.numberedOperations files rows, c.selectTruthOpType (UInt32.ofNat n) = t

/-- The bytes that are derived for a type. -/
def derivedBytes (c : SueSimulationConfig) : OpType → ℕ
  | .send => c.sendAdmissionMessages.toNat * c.payloadBytes.toNat
  | .write => c.arrivalBlocks.toNat * c.payloadBytes.toNat
  | .read => c.readTracks.toNat * c.payloadBytes.toNat
  | .deferrable => 0

/-- For each type that is planned, with a budget that is derived, the messages times the
payload are none, which is no limit, or at least the size of the operations. -/
def BudgetsSuffice (c : SueSimulationConfig) (files : TruthFiles) : Prop :=
  ∀ rows ∈ c.calculate.truthRows, ∀ t, c.calculate.PlansType files rows t →
    c.leavesBytes t = true →
      c.derivedBytes t = 0 ∨ c.calculate.plannedPayload.toNat ≤ c.derivedBytes t

section Loops

variable {α β : Type}

theorem add_ofNat_succ (start : UInt32) (i : ℕ) :
    start + UInt32.ofNat (i + 1) = start + 1 + UInt32.ofNat i := by
  rw [UInt32.ofNat_add, UInt32.add_assoc, UInt32.add_comm (UInt32.ofNat i)]
  rfl

/-- What a loop that numbers makes. -/
theorem mem_numbered_iff {f : α → UInt32 → β} {start : UInt32} {l : List α} {y : β} :
    y ∈ numbered f start l ↔ ∃ i x, l[i]? = some x ∧ y = f x (start + UInt32.ofNat i) := by
  induction l generalizing start with
  | nil =>
      constructor
      · intro h
        cases h
      · rintro ⟨i, x, h, -⟩
        cases h
  | cons x rest ih =>
      unfold numbered
      rw [List.mem_cons, ih]
      constructor
      · rintro (rfl | ⟨i, x', hx', rfl⟩)
        · exact ⟨0, x, rfl, congrArg (f x) (UInt32.add_zero start).symm⟩
        · exact ⟨i + 1, x', hx', congrArg (f x') (add_ofNat_succ start i).symm⟩
      · rintro ⟨i, x', hx', rfl⟩
        cases i with
        | zero =>
            cases hx'
            exact .inl (congrArg (f x) (UInt32.add_zero start))
        | succ i => exact .inr ⟨i, x', hx', congrArg (f x') (add_ofNat_succ start i)⟩

theorem length_rounds (count : ℕ) (l : List α) : (rounds count l).length = count * l.length := by
  unfold rounds
  simp [List.length_flatMap]

/-- The types of operations whose numbers select them. -/
theorem exists_mem_numbered_iff {f : α → UInt32 → TruthPlannedOperation} {l : List α}
    {t : OpType} (hf : ∀ x ordinal, (f x ordinal).opType = c.selectTruthOpType ordinal) :
    (∃ op ∈ numbered f 0 l, op.opType = t) ↔
      ∃ n < l.length, c.selectTruthOpType (UInt32.ofNat n) = t := by
  constructor
  · rintro ⟨op, hop, htype⟩
    obtain ⟨n, x, hx, rfl⟩ := mem_numbered_iff.mp hop
    rw [hf, UInt32.zero_add] at htype
    exact ⟨n, (List.getElem?_eq_some_iff.mp hx).1, htype⟩
  · rintro ⟨n, hn, htype⟩
    refine ⟨_, mem_numbered_iff.mpr ⟨n, l[n], List.getElem?_eq_getElem hn, rfl⟩, ?_⟩
    rw [hf, UInt32.zero_add]
    exact htype

end Loops

theorem length_stripedFlows {l : List ℕ} {counts : KeyedMap PlanEndpoint UInt32}
    {flows : List FlowPlan} (h : c.stripedFlows rows l counts = some flows) :
    flows.length = l.length := by
  induction l generalizing counts flows with
  | nil =>
      cases h
      rfl
  | cons flowIdx rest ih =>
      obtain ⟨selected, -, hrest⟩ := Option.bind_eq_some_iff.mp h
      obtain ⟨flows', hflows, rfl⟩ := Option.map_eq_some_iff.mp hrest
      rw [List.length_cons, List.length_cons, ih hflows]

/-- A plan has the types that are to be planned, all of one size. -/
structure PlanIs (c : SueSimulationConfig) (files : TruthFiles) (rows : UInt32)
    (plan : List TruthPlannedOperation) : Prop where
  types : ∀ t, (∃ op ∈ plan, op.opType = t) ↔ c.PlansType files rows t
  sizes : ∀ op ∈ plan, op.payloadBytes = c.plannedPayload

/-- The plan of a loop that numbers its operations. -/
theorem planIs_numbered {α : Type} {f : α → UInt32 → TruthPlannedOperation} {l : List α}
    (htype : ∀ x ordinal, (f x ordinal).opType = c.selectTruthOpType ordinal)
    (hsize : ∀ x ordinal, (f x ordinal).payloadBytes = c.getTruthPayloadBytes)
    (hdemo : ¬(c.systemScenarioMode ≠ "soft_ue_fabric" ∧
      c.truthExperimentClass = "semantic_demo"))
    (htrace : ¬(c.systemScenarioMode ≠ "soft_ue_fabric" ∧
      c.traffic.enableFineGrainedMode = false ∧ c.traffic.enableTraceMode = true))
    (hcount : l.length = c.numberedOperations files rows) :
    c.PlanIs files rows (numbered f 0 l) := by
  constructor
  · intro t
    unfold PlansType
    rw [exists_mem_numbered_iff htype, hcount, if_neg hdemo, if_neg htrace]
  · intro op hop
    obtain ⟨n, x, -, rfl⟩ := mem_numbered_iff.mp hop
    unfold plannedPayload
    rw [hsize, if_neg hdemo]

/-- The plan of the demonstration. -/
theorem planIs_semanticDemo (hfabric : c.systemScenarioMode ≠ "soft_ue_fabric")
    (hdemo : c.truthExperimentClass = "semantic_demo")
    (h : c.buildSemanticDemoTruthPlan rows = some plan) : c.PlanIs files rows plan := by
  have hpayload : c.plannedPayload = max c.truthPayloadBytes 64 := if_pos ⟨hfabric, hdemo⟩
  unfold buildSemanticDemoTruthPlan at h
  dsimp only at h
  by_cases hrefused : rows < 2 ∨ c.network.portsPerXpu = 0
  · rw [if_pos hrefused] at h
    cases h
  rw [if_neg hrefused] at h
  cases h
  constructor
  · intro t
    have hplans : c.PlansType files rows t ↔ t ≠ .deferrable := by
      unfold PlansType
      rw [if_pos ⟨hfabric, hdemo⟩]
    rw [hplans]
    cases t <;> simp
  · intro op hop
    rw [hpayload]
    simp only [List.mem_cons, List.not_mem_nil, or_false] at hop
    rcases hop with rfl | rfl | rfl | rfl <;> rfl

/-- The plan of a trace. -/
theorem planIs_trace {trace : List TruthTraceLine} (hfile : files.trace = some trace)
    (hfabric : c.systemScenarioMode ≠ "soft_ue_fabric")
    (hdemo : c.truthExperimentClass ≠ "semantic_demo")
    (hfine : c.traffic.enableFineGrainedMode = false)
    (htrace : c.traffic.enableTraceMode = true) :
    c.PlanIs files rows (c.buildTraceTruthPlan rows trace) := by
  constructor
  · intro t
    unfold PlansType buildTraceTruthPlan
    rw [if_neg fun h => hdemo h.2, if_pos ⟨hfabric, hfine, htrace⟩, hfile, Option.getD_some]
    simp only [List.mem_map, exists_exists_and_eq_and]
  · intro op hop
    obtain ⟨line, -, rfl⟩ := List.mem_map.mp hop
    exact (if_neg fun h => hdemo h.2).symm

theorem planIs_of_buildTruthPlanOf (h : c.buildTruthPlanOf files rows = some plan) :
    c.PlanIs files rows plan := by
  unfold buildTruthPlanOf at h
  by_cases hfabric : c.systemScenarioMode = "soft_ue_fabric"
  · rw [if_pos hfabric] at h
    obtain ⟨flows, hflows, rfl⟩ := Option.map_eq_some_iff.mp h
    refine planIs_numbered (fun _ _ => rfl) (fun _ _ => rfl) (fun h => h.1 hfabric)
      (fun h => h.1 hfabric) ?_
    unfold numberedOperations
    rw [if_pos hfabric, length_rounds, hflows]
    rfl
  rw [if_neg hfabric] at h
  by_cases hdemo : c.truthExperimentClass = "semantic_demo"
  · rw [if_pos hdemo] at h
    exact planIs_semanticDemo hfabric hdemo h
  rw [if_neg hdemo] at h
  by_cases hfine : c.traffic.enableFineGrainedMode = true
  · rw [if_pos hfine] at h
    obtain ⟨flows, hflows, rfl⟩ := Option.map_eq_some_iff.mp h
    refine planIs_numbered (fun _ _ => rfl) (fun _ _ => rfl) (fun h => hdemo h.2)
      (fun h => absurd h.2.1 (by rw [hfine]; decide)) ?_
    unfold numberedOperations fineGrainedSlots
    rw [if_neg hfabric, if_pos hfine, hflows, Option.getD_some, List.length_flatMap]
    simp only [List.length_replicate]
  rw [if_neg hfine] at h
  by_cases htrace : c.traffic.enableTraceMode = true
  · rw [if_pos htrace] at h
    obtain ⟨trace, hfile, rfl⟩ := Option.map_eq_some_iff.mp h
    exact planIs_trace hfile hfabric hdemo (Bool.not_eq_true _ ▸ hfine) htrace
  rw [if_neg htrace] at h
  have hcount : c.numberedOperations files rows =
      c.truthOpsPerFlow.toNat * c.maxFlows.toNat := by
    unfold numberedOperations
    rw [if_neg hfabric, if_neg hfine]
  by_cases hstriped : c.truthPlannerMode = "striped"
  · rw [if_pos hstriped] at h
    obtain ⟨flows, hflows, rfl⟩ := Option.map_eq_some_iff.mp h
    refine planIs_numbered (fun _ _ => rfl) (fun _ _ => rfl) (fun h => hdemo h.2)
      (fun h => htrace h.2.2) ?_
    rw [hcount, length_rounds, length_stripedFlows hflows, List.length_range]
  · rw [if_neg hstriped] at h
    cases h
    refine planIs_numbered (fun _ _ => rfl) (fun _ _ => rfl) (fun h => hdemo h.2)
      (fun h => htrace h.2.2) ?_
    rw [hcount, length_rounds, List.length_map, List.length_range]

/-! ## The budgets that suffice -/

/-- An idle endpoint admits a payload if it is within the limit on bytes. -/
theorem admits_idle_iff {b : SemanticBudgetState} {size : ℕ} (hmessages : b.messagesInUse = 0)
    (hbytes : b.bytesInUse = 0) :
    b.admits size = true ↔ b.byteLimit = 0 ∨ size ≤ b.byteLimit := by
  unfold SemanticBudgetState.admits
  simp only [hmessages, hbytes, Bool.and_eq_true, Bool.or_eq_true, decide_eq_true_eq]
  omega

/-- A type with a budget that has been derived reserves it. -/
theorem exists_budgetFor {t : OpType} (hleaves : c.leavesBytes t = true) :
    ∃ b, c.calculate.configureSemanticBudgets.budgetFor t = some b ∧ b.messagesInUse = 0 ∧
      b.bytesInUse = 0 ∧ b.byteLimit = c.derivedBytes t := by
  have hderived : ∀ value derived, decide (value = 0) = true →
      orDerived64 value derived = derived := fun _ _ h => if_pos (of_decide_eq_true h)
  cases t with
  | send => exact ⟨_, rfl, rfl, rfl, hderived _ _ hleaves⟩
  | read => exact ⟨_, rfl, rfl, rfl, hderived _ _ hleaves⟩
  | write => exact ⟨_, rfl, rfl, rfl, hderived _ _ hleaves⟩
  | deferrable => cases hleaves

/-- The planned operations fit the derived budgets exactly if the messages times the payload
are enough for the size of the operations, for each type that is planned. -/
theorem operationsFit_iff_budgetsSuffice (hvalid : c.validateAndCalculate = .ok c')
    (hplan : c'.buildTruthPlan files = some plan) :
    OperationsFit c c' plan ↔ c.BudgetsSuffice files := by
  obtain rfl := validateAndCalculate_eq_ok hvalid
  obtain ⟨rows, hrows, hbuilt⟩ := Option.bind_eq_some_iff.mp hplan
  have hplanned := planIs_of_buildTruthPlanOf hbuilt
  constructor
  · intro hfit rows' hrows' t ht hleaves
    cases hrows.symm.trans hrows'
    obtain ⟨op, hop, rfl⟩ := (hplanned.types t).mpr ht
    obtain ⟨b, hb, hmessages, hbytes, hlimit⟩ := exists_budgetFor hleaves
    have hadmits := hfit op hop hleaves b hb
    rw [hplanned.sizes op hop, admits_idle_iff hmessages hbytes, hlimit] at hadmits
    exact hadmits
  · intro hsuffice op hop hleaves b hb
    obtain ⟨b', hb', hmessages, hbytes, hlimit⟩ := exists_budgetFor hleaves
    cases hb'.symm.trans hb
    rw [hplanned.sizes op hop, admits_idle_iff hmessages hbytes, hlimit]
    exact hsuffice rows hrows op.opType ((hplanned.types _).mp ⟨op, hop, rfl⟩) hleaves

/-! ## A profile of pressure -/

/-- A configuration for the demonstration or for a profile of pressure. -/
def inClass (truthExperimentClass truthPressureProfile : String) : SueSimulationConfig :=
  { systemScenarioMode := "soft_ue_truth"
    truthExperimentClass := truthExperimentClass
    truthPressureProfile := truthPressureProfile }

/-- The defaults are accepted for the pressure on credits, with 1024 bytes for the sends, of
which each has 6161. -/
theorem not_operationsFit_creditPressure :
    ∃ c' plan, (inClass "system_pressure" "credit_pressure").validateAndCalculate = .ok c' ∧
      c'.buildTruthPlan {} = some plan ∧
      ¬OperationsFit (inClass "system_pressure" "credit_pressure") c' plan := by
  refine ⟨_, _, rfl, rfl, fun hfit => ?_⟩
  exact absurd (hfit _ List.mem_cons_self rfl _ rfl) (by decide)

/-- The defaults suffice for the demonstration. -/
theorem operationsFit_iff_budgetsSuffice_demo :
    ∃ c' plan, (inClass "semantic_demo" "baseline").validateAndCalculate = .ok c' ∧
      c'.buildTruthPlan {} = some plan ∧ plan.length = 4 ∧
      OperationsFit (inClass "semantic_demo" "baseline") c' plan ∧
      (inClass "semantic_demo" "baseline").BudgetsSuffice {} := by
  have hvalid : (inClass "semantic_demo" "baseline").validateAndCalculate =
    .ok (inClass "semantic_demo" "baseline").calculate := rfl
  obtain ⟨plan, hplan⟩ : ∃ plan,
    (inClass "semantic_demo" "baseline").calculate.buildTruthPlan {} = some plan := ⟨_, rfl⟩
  have hfit : OperationsFit (inClass "semantic_demo" "baseline")
      (inClass "semantic_demo" "baseline").calculate plan := by
    cases hplan
    intro op hop _ b hb
    simp only [List.mem_cons, List.not_mem_nil, or_false] at hop
    rcases hop with rfl | rfl | rfl | rfl <;> cases hb <;> decide
  have hlength : plan.length = 4 := by
    cases hplan
    rfl
  exact ⟨_, plan, hvalid, hplan, hlength, hfit,
    (operationsFit_iff_budgetsSuffice hvalid hplan).mp hfit⟩

end SueSimulationConfig

end UeSim
