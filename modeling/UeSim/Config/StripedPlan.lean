import UeSim.Config.TruthPlan
import UeSim.Support.LeastLoaded

/-!
# The striped planner

`BuildStripedTruthPlan` gives each flow to the endpoint with the fewest flows so far, among
those of other XPUs.  The ports of a source XPU go one after the other to the ports of one
other XPU, so that XPUs load each other as in `LeastOther`: the flows are spread evenly if the
number of XPUs or the number of rounds is even, and otherwise XPU 0 gets more than XPU 1.
-/

namespace UeSim

namespace SueSimulationConfig

variable {c : SueSimulationConfig} {rows : UInt32} {m m' m'' : KeyedMap PlanEndpoint UInt32}

/-! ## What is promised -/

/-- The endpoint that a flow goes to, if the profile does not move its operations. -/
def flowDestination (f : FlowPlan) : PlanEndpoint := ⟨f.dstXpuId, f.preferredDstPort⟩

/-- No flow goes to its own XPU, and all endpoints have the same number of incoming flows. -/
def StripesEvenly (c : SueSimulationConfig) : Prop :=
  ∃ flows, c.stripedFlows c.network.nXpus (List.range c.maxFlows.toNat) ∅ = some flows ∧
    (∀ f ∈ flows, f.dstXpuId ≠ f.srcXpuId) ∧
    ∃ incoming, ∀ e ∈ c.planEndpoints c.network.nXpus,
      (flows.filter fun f => flowDestination f = e).length = incoming

/-- Outside the lossy and the mixed profile, the operations of a flow go to its endpoint. -/
theorem flowOperation_destination (c : SueSimulationConfig) (flow : UInt32 × FlowPlan)
    (ordinal : UInt32) (hlossy : c.truthPressureProfile ≠ "lossy")
    (hmixed : c.truthPressureProfile ≠ "mixed") :
    (⟨(c.flowOperation flow ordinal).dstXpuId, (c.flowOperation flow ordinal).dstPort⟩ :
      PlanEndpoint) = flowDestination flow.2 := by
  have hprofile : ¬ (c.truthExperimentClass = "system_pressure" ∧ c.pressureProfile = "lossy" ∨
      c.truthExperimentClass = "system_pressure" ∧ c.pressureProfile = "mixed" ∧
        flow.2.flowIdx % 2 ≠ 0) := by
    unfold pressureProfile
    rintro (⟨hclass, h⟩ | ⟨hclass, h, -⟩)
    · rw [if_pos hclass] at h
      exact hlossy h
    · rw [if_pos hclass] at h
      exact hmixed h
  rw [flowOperation, if_neg hprofile]
  rfl

/-! ## The choice -/

/-- The number of flows of an endpoint. -/
def assigned (m : KeyedMap PlanEndpoint UInt32) (e : PlanEndpoint) : UInt32 :=
  (m.lookup e).getD 0

/-- A round of the loop over the candidates. -/
def better (m : KeyedMap PlanEndpoint UInt32) (srcXpuId : UInt32)
    (best : Option (PlanEndpoint × UInt32)) (e : PlanEndpoint) :
    Option (PlanEndpoint × UInt32) :=
  if e.xpuId = srcXpuId then best
  else
    match best with
    | none => some (e, assigned m e)
    | some (selected, selectedCount) =>
        if comesBefore e (assigned m e) selected selectedCount then some (e, assigned m e)
        else best

theorem selectStriped_eq_foldl (m : KeyedMap PlanEndpoint UInt32) (srcXpuId : UInt32)
    (candidates : List PlanEndpoint) :
    selectStriped m srcXpuId candidates = candidates.foldl (better m srcXpuId) none := rfl

/-- What has been selected is a candidate of another XPU, with its count. -/
def SelectedOf (m : KeyedMap PlanEndpoint UInt32) (srcXpuId : UInt32)
    (candidates : List PlanEndpoint) (best : Option (PlanEndpoint × UInt32)) : Prop :=
  ∀ s ∈ best, s.1 ∈ candidates ∧ s.1.xpuId ≠ srcXpuId ∧ s.2 = assigned m s.1

theorem better_cases (m : KeyedMap PlanEndpoint UInt32) (srcXpuId : UInt32)
    (best : Option (PlanEndpoint × UInt32)) (e : PlanEndpoint) :
    better m srcXpuId best e = best ∨
      (e.xpuId ≠ srcXpuId ∧ better m srcXpuId best e = some (e, assigned m e)) := by
  unfold better
  by_cases he : e.xpuId = srcXpuId
  · rw [if_pos he]
    exact Or.inl rfl
  · rw [if_neg he]
    cases best with
    | none => exact Or.inr ⟨he, rfl⟩
    | some s =>
        obtain ⟨selected, selectedCount⟩ := s
        dsimp only
        split_ifs
        · exact Or.inr ⟨he, rfl⟩
        · exact Or.inl rfl

/-- The loop selects among the candidates. -/
theorem selectedOf_foldl (srcXpuId : UInt32) {all candidates : List PlanEndpoint}
    (hsub : ∀ e ∈ candidates, e ∈ all) {best : Option (PlanEndpoint × UInt32)}
    (hbest : SelectedOf m srcXpuId all best) :
    SelectedOf m srcXpuId all (candidates.foldl (better m srcXpuId) best) := by
  induction candidates generalizing best with
  | nil => exact hbest
  | cons e candidates ih =>
      apply ih fun e' he' => hsub e' (List.mem_cons_of_mem _ he')
      rcases better_cases m srcXpuId best e with h | ⟨hne, h⟩
      · rwa [h]
      · rw [h]
        rintro s hs
        cases hs
        exact ⟨hsub e List.mem_cons_self, hne, rfl⟩

/-- An endpoint that comes before all other candidates stays selected. -/
theorem foldl_better_of_least (srcXpuId : UInt32) {candidates : List PlanEndpoint}
    {least : PlanEndpoint}
    (hleast : ∀ e ∈ candidates, e.xpuId ≠ srcXpuId →
      comesBefore e (assigned m e) least (assigned m least) = false) :
    candidates.foldl (better m srcXpuId) (some (least, assigned m least)) =
      some (least, assigned m least) := by
  induction candidates with
  | nil => rfl
  | cons e candidates ih =>
      rw [List.foldl_cons]
      have hstay : better m srcXpuId (some (least, assigned m least)) e =
          some (least, assigned m least) := by
        unfold better
        by_cases he : e.xpuId = srcXpuId
        · rw [if_pos he]
        · rw [if_neg he]
          dsimp only
          rw [if_neg (by rw [hleast e List.mem_cons_self he]; decide)]
      rw [hstay]
      exact ih fun e' he' => hleast e' (List.mem_cons_of_mem _ he')

/-- The candidate that comes before all others is selected. -/
theorem selectStriped_of_least (srcXpuId : UInt32) {candidates : List PlanEndpoint}
    {least : PlanEndpoint} (hmem : least ∈ candidates) (hother : least.xpuId ≠ srcXpuId)
    (hleast : ∀ e ∈ candidates, e.xpuId ≠ srcXpuId → e ≠ least →
      comesBefore least (assigned m least) e (assigned m e) = true ∧
        comesBefore e (assigned m e) least (assigned m least) = false) :
    selectStriped m srcXpuId candidates = some (least, assigned m least) := by
  obtain ⟨before, after, rfl⟩ := List.append_of_mem hmem
  have hself : comesBefore least (assigned m least) least (assigned m least) = false := by
    simp [comesBefore]
  have hbefore : SelectedOf m srcXpuId (before ++ least :: after)
      (before.foldl (better m srcXpuId) none) :=
    selectedOf_foldl srcXpuId (fun e he => by simp [he]) fun s hs => by cases hs
  rw [selectStriped_eq_foldl, List.foldl_append, List.foldl_cons]
  have hturn : better m srcXpuId (before.foldl (better m srcXpuId) none) least =
      some (least, assigned m least) := by
    cases hbest : before.foldl (better m srcXpuId) none with
    | none => simp [better, hother]
    | some s =>
        obtain ⟨selected, selectedCount⟩ := s
        rw [hbest] at hbefore
        obtain ⟨hcandidate, hne, hcount⟩ := hbefore (selected, selectedCount) rfl
        dsimp only at hcandidate hne hcount
        unfold better
        rw [if_neg hother]
        dsimp only
        by_cases hsame : selected = least
        · rw [hcount, hsame, if_neg (by rw [hself]; decide)]
        · rw [hcount, if_pos (hleast selected hcandidate hne hsame).1]
  rw [hturn]
  apply foldl_better_of_least
  intro e he hne
  by_cases hsame : e = least
  · rw [hsame]
    exact hself
  · exact (hleast e (by simp [he]) hne hsame).2

/-! ## The flows -/

/-- The endpoints that are selected for a list of flows, one after the other. -/
inductive Selects (c : SueSimulationConfig) (rows : UInt32) :
    KeyedMap PlanEndpoint UInt32 → List ℕ → List PlanEndpoint →
      KeyedMap PlanEndpoint UInt32 → Prop
  | nil (m : KeyedMap PlanEndpoint UInt32) : Selects c rows m [] [] m
  | cons {m m' : KeyedMap PlanEndpoint UInt32} {i : ℕ} {e : PlanEndpoint} {l : List ℕ}
      {es : List PlanEndpoint}
      (hselect : selectStriped m (c.flowSource rows (UInt32.ofNat i)).xpuId
        (c.planEndpoints rows) = some (e, assigned m e))
      (hrest : Selects c rows (m.insert e (assigned m e + 1)) l es m') :
      Selects c rows m (i :: l) (e :: es) m'

theorem Selects.append {l l' : List ℕ} {es es' : List PlanEndpoint}
    (hfirst : Selects c rows m l es m') (hsecond : Selects c rows m' l' es' m'') :
    Selects c rows m (l ++ l') (es ++ es') m'' := by
  induction hfirst with
  | nil _ => exact hsecond
  | cons hselect _ ih => exact .cons hselect (ih hsecond)

/-- The flows go to the endpoints that are selected. -/
theorem Selects.stripedFlows {l : List ℕ} {es : List PlanEndpoint}
    (h : Selects c rows m l es m') :
    ∃ flows, c.stripedFlows rows l m = some flows ∧ flows.map flowDestination = es := by
  induction h with
  | nil _ => exact ⟨[], rfl, rfl⟩
  | cons hselect _ ih =>
      obtain ⟨flows, hflows, hmap⟩ := ih
      rw [SueSimulationConfig.stripedFlows]
      rw [hselect, Option.bind_some, hflows]
      exact ⟨_, rfl, by rw [List.map_cons, hmap]; rfl⟩

theorem assigned_insert (m : KeyedMap PlanEndpoint UInt32) (e e' : PlanEndpoint) (n : UInt32) :
    assigned (m.insert e n) e' = if e' = e then n else assigned m e' := by
  unfold assigned
  by_cases h : e' = e
  · rw [if_pos h, h, AList.lookup_insert]
    rfl
  · rw [if_neg h, AList.lookup_insert_ne h]

/-- The counts tell the selections. -/
theorem Selects.count {l : List ℕ} {es : List PlanEndpoint} (h : Selects c rows m l es m')
    (e : PlanEndpoint) (hbound : (assigned m e).toNat + l.length < 2 ^ 32) :
    (assigned m' e).toNat = (assigned m e).toNat + es.count e := by
  induction h with
  | nil _ => simp
  | @cons m m' i e' l es _ _ ih =>
      rw [List.length_cons] at hbound
      have hinsert := assigned_insert m e' e (assigned m e' + 1)
      by_cases he : e = e'
      · subst he
        rw [if_pos rfl] at hinsert
        have hsucc : (assigned m e + 1).toNat = (assigned m e).toNat + 1 := by
          rw [UInt32.toNat_add]
          exact Nat.mod_eq_of_lt (by simp; omega)
        rw [ih (by rw [hinsert, hsucc]; omega), hinsert, hsucc, List.count_cons_self]
        omega
      · rw [if_neg he] at hinsert
        rw [ih (by rw [hinsert]; omega), hinsert, List.count_cons_of_ne (Ne.symm he)]

/-- No flow goes to its own XPU, and each goes to an endpoint. -/
theorem stripedFlows_spec {l : List ℕ} {flows : List FlowPlan}
    (h : c.stripedFlows rows l m = some flows) :
    flows.length = l.length ∧ ∀ f ∈ flows, f.dstXpuId ≠ f.srcXpuId ∧
      flowDestination f ∈ c.planEndpoints rows := by
  induction l generalizing m flows with
  | nil =>
      cases h
      exact ⟨rfl, by simp⟩
  | cons i l ih =>
      rw [SueSimulationConfig.stripedFlows] at h
      obtain ⟨s, hselect, hmap⟩ := Option.bind_eq_some_iff.mp h
      obtain ⟨rest, hrest, rfl⟩ := Option.map_eq_some_iff.mp hmap
      obtain ⟨hlength, hall⟩ := ih hrest
      have hselected : SelectedOf m (c.flowSource rows (UInt32.ofNat i)).xpuId
          (c.planEndpoints rows) (some s) := by
        rw [← hselect, selectStriped_eq_foldl]
        exact selectedOf_foldl _ (fun _ he => he) fun s hs => by cases hs
      obtain ⟨hmem, hne, -⟩ := hselected s rfl
      refine ⟨by simp [hlength], ?_⟩
      intro f hf
      rcases List.mem_cons.mp hf with rfl | hf
      · exact ⟨hne, hmem⟩
      · exact hall f hf

/-! ## A block of flows -/

/-- The counts of all endpoints, by XPU and port. -/
def CountsAre (c : SueSimulationConfig) (rows : UInt32) (m : KeyedMap PlanEndpoint UInt32)
    (load : ℕ → ℕ → ℕ) : Prop :=
  ∀ x < rows.toNat, ∀ q < c.network.portsPerXpu.toNat,
    (assigned m ⟨UInt32.ofNat x, UInt32.ofNat q⟩).toNat = load x q

theorem mem_planEndpoints {e : PlanEndpoint} :
    e ∈ c.planEndpoints rows ↔ ∃ x < rows.toNat, ∃ q < c.network.portsPerXpu.toNat,
      e = ⟨UInt32.ofNat x, UInt32.ofNat q⟩ := by
  simp only [planEndpoints, List.mem_flatMap, List.mem_map, List.mem_range]
  constructor
  · rintro ⟨x, hx, q, hq, rfl⟩
    exact ⟨x, hx, q, hq, rfl⟩
  · rintro ⟨x, hx, q, hq, rfl⟩
    exact ⟨x, hx, q, hq, rfl⟩

theorem toNat_ofNat_of_lt {x : ℕ} {bound : UInt32} (hx : x < bound.toNat) :
    (UInt32.ofNat x).toNat = x :=
  UInt32.toNat_ofNat_of_lt' (lt_trans hx bound.toNat_lt)

/-- The least endpoint, by its count, its XPU and its port, is selected. -/
theorem CountsAre.selectStriped {load : ℕ → ℕ → ℕ} (hm : c.CountsAre rows m load) {x y j : ℕ}
    (hx : x < rows.toNat) (hy : y < rows.toNat) (hj : j < c.network.portsPerXpu.toNat)
    (hyx : y ≠ x)
    (hleast : ∀ z < rows.toNat, z ≠ x → ∀ q < c.network.portsPerXpu.toNat, (z ≠ y ∨ q ≠ j) →
      load y j < load z q ∨ load y j = load z q ∧ (y < z ∨ y = z ∧ j < q)) :
    SueSimulationConfig.selectStriped m (UInt32.ofNat x) (c.planEndpoints rows) =
      some (⟨UInt32.ofNat y, UInt32.ofNat j⟩, assigned m ⟨UInt32.ofNat y, UInt32.ofNat j⟩) := by
  have hne : ∀ {a b : ℕ}, a < rows.toNat → b < rows.toNat → UInt32.ofNat a = UInt32.ofNat b →
      a = b := by
    intro a b ha hb hab
    rw [← toNat_ofNat_of_lt ha, ← toNat_ofNat_of_lt hb, hab]
  apply selectStriped_of_least
  · exact mem_planEndpoints.mpr ⟨y, hy, j, hj, rfl⟩
  · exact fun h => hyx (hne hy hx h)
  · intro e he hother hdiff
    obtain ⟨z, hz, q, hq, rfl⟩ := mem_planEndpoints.mp he
    have hzx : z ≠ x := fun h => hother (congrArg UInt32.ofNat h)
    have hkeys : z ≠ y ∨ q ≠ j := by
      by_contra hboth
      apply hdiff
      rw [show z = y by tauto, show q = j by tauto]
    have horder := hleast z hz hzx q hq hkeys
    have hcountY := hm y hy j hj
    have hcountZ := hm z hz q hq
    simp only [comesBefore, decide_eq_true_eq, decide_eq_false_iff_not, UInt32.lt_iff_toNat_lt,
      ← UInt32.toNat_inj, hcountY, hcountZ, toNat_ofNat_of_lt hy, toNat_ofNat_of_lt hz,
      toNat_ofNat_of_lt hj, toNat_ofNat_of_lt hq]
    omega

/-- The source of a flow, by its block and its port. -/
theorem flowSource_block {b j : ℕ} (hrows : 0 < rows.toNat)
    (hproduct : rows.toNat * c.network.portsPerXpu.toNat < 2 ^ 32)
    (hj : j < c.network.portsPerXpu.toNat)
    (hlt : b * c.network.portsPerXpu.toNat + j < 2 ^ 32) :
    (c.flowSource rows (UInt32.ofNat (b * c.network.portsPerXpu.toNat + j))).xpuId =
      UInt32.ofNat (b % rows.toNat) := by
  have hmod : (b * c.network.portsPerXpu.toNat + j) %
      (c.network.portsPerXpu.toNat * rows.toNat) / c.network.portsPerXpu.toNat =
        b % rows.toNat := by
    rw [Nat.mod_mul_right_div_self, Nat.mul_comm b, Nat.mul_add_div (by omega),
      Nat.div_eq_of_lt hj, Nat.add_zero]
  have hblock : b % rows.toNat < rows.toNat := Nat.mod_lt _ hrows
  rw [flowSource, ← UInt32.toNat_inj]
  simp only [UInt32.toNat_div, UInt32.toNat_mod, UInt32.toNat_mul]
  rw [UInt32.toNat_ofNat_of_lt' hlt, Nat.mod_eq_of_lt hproduct, toNat_ofNat_of_lt hblock,
    Nat.mul_comm rows.toNat, hmod]

/-- The counts while the ports of a source are served: some ports of the least loaded XPU have
one flow more. -/
def blockLoad (load : ℕ → ℕ) (y served : ℕ) : ℕ → ℕ → ℕ := fun z q =>
  if z = y ∧ q < served then load z + 1 else load z

/-- The ports of a source XPU are served by the ports of the least loaded other XPU, in their
order. -/
theorem selects_block {load : ℕ → ℕ} {b y : ℕ} (hrows : 0 < rows.toNat)
    (hproduct : rows.toNat * c.network.portsPerXpu.toNat < 2 ^ 32)
    (hlt : (b + 1) * c.network.portsPerXpu.toNat < 2 ^ 32)
    (hleast : LeastOther rows.toNat load (b % rows.toNat) y) (hload : load y + 1 < 2 ^ 32)
    (hm : c.CountsAre rows m fun z _ => load z) :
    ∃ es m', Selects c rows m ((List.range c.network.portsPerXpu.toNat).map
        fun j => b * c.network.portsPerXpu.toNat + j) es m' ∧
      c.CountsAre rows m' fun z _ => Function.update load y (load y + 1) z := by
  obtain ⟨hy, hyx, hmin⟩ := hleast
  rw [Nat.succ_mul] at hlt
  suffices h : ∀ served ≤ c.network.portsPerXpu.toNat, ∃ es m',
      Selects c rows m ((List.range served).map
        fun j => b * c.network.portsPerXpu.toNat + j) es m' ∧
      c.CountsAre rows m' (blockLoad load y served) by
    obtain ⟨es, m', hselects, hm'⟩ := h _ le_rfl
    refine ⟨es, m', hselects, fun z hz q hq => ?_⟩
    rw [hm' z hz q hq, blockLoad]
    dsimp only
    by_cases hzy : z = y
    · rw [if_pos ⟨hzy, hq⟩, hzy, Function.update_self]
    · rw [if_neg (by tauto), Function.update_of_ne hzy]
  intro served
  induction served with
  | zero =>
      intro _
      refine ⟨[], m, .nil m, fun z hz q hq => ?_⟩
      rw [hm z hz q hq, blockLoad, if_neg (by omega)]
  | succ served ih =>
      intro hserved
      obtain ⟨es, m', hselects, hm'⟩ := ih (by omega)
      have hselect := hm'.selectStriped (Nat.mod_lt b hrows) hy (j := served) (by omega) hyx (by
        intro z hz hzx q hq hkeys
        rw [blockLoad, blockLoad, if_neg (by omega)]
        by_cases hzy : z = y
        · subst hzy
          split_ifs <;> omega
        · rw [if_neg (by tauto)]
          have hless := hmin z hz hzx hzy
          omega)
      rw [← flowSource_block hrows hproduct (b := b) (j := served) (by omega) (by omega)] at hselect
      refine ⟨es ++ [⟨UInt32.ofNat y, UInt32.ofNat served⟩],
        m'.insert ⟨UInt32.ofNat y, UInt32.ofNat served⟩
          (assigned m' ⟨UInt32.ofNat y, UInt32.ofNat served⟩ + 1), ?_, ?_⟩
      · rw [List.range_succ, List.map_append]
        exact hselects.append (.cons hselect (.nil _))
      · intro z hz q hq
        have hcount := hm' y hy served (by omega)
        rw [blockLoad, if_neg (by omega)] at hcount
        have hsucc : (assigned m' ⟨UInt32.ofNat y, UInt32.ofNat served⟩ + 1).toNat =
            load y + 1 := by
          rw [UInt32.toNat_add, hcount]
          exact Nat.mod_eq_of_lt (by simpa using hload)
        have hport : served < c.network.portsPerXpu.toNat := by omega
        have hkey : (⟨UInt32.ofNat z, UInt32.ofNat q⟩ : PlanEndpoint) =
            ⟨UInt32.ofNat y, UInt32.ofNat served⟩ ↔ z = y ∧ q = served := by
          rw [PlanEndpoint.mk.injEq, ← UInt32.toNat_inj, ← UInt32.toNat_inj,
            toNat_ofNat_of_lt hz, toNat_ofNat_of_lt hy, toNat_ofNat_of_lt hq,
            toNat_ofNat_of_lt hport]
        rw [assigned_insert]
        by_cases hsame : z = y ∧ q = served
        · rw [if_pos (hkey.mpr hsame), hsucc, blockLoad, if_pos ⟨hsame.1, by omega⟩, hsame.1]
        · rw [if_neg (fun h => hsame (hkey.mp h)), hm' z hz q hq, blockLoad, blockLoad]
          split_ifs <;> omega

/-- The blocks of flows follow the sources. -/
theorem selects_of_serves {load load' : ℕ → ℕ} {blocks : List ℕ} (hrows : 0 < rows.toNat)
    (hproduct : rows.toNat * c.network.portsPerXpu.toNat < 2 ^ 32)
    (hserves : Serves rows.toNat load (blocks.map (· % rows.toNat)) load')
    (hblocks : ∀ b ∈ blocks, (b + 1) * c.network.portsPerXpu.toNat < 2 ^ 32)
    (hload : ∀ z < rows.toNat, load z + blocks.length < 2 ^ 32)
    (hm : c.CountsAre rows m fun z _ => load z) :
    ∃ es m', Selects c rows m (blocks.flatMap fun b =>
        (List.range c.network.portsPerXpu.toNat).map
          fun j => b * c.network.portsPerXpu.toNat + j) es m' ∧
      c.CountsAre rows m' fun z _ => load' z := by
  induction blocks generalizing load m with
  | nil =>
      cases hserves
      exact ⟨[], m, .nil m, hm⟩
  | cons b blocks ih =>
      rw [List.map_cons] at hserves
      cases hserves with
      | @cons _ _ _ y _ hleast hrest =>
          have hy := hload y hleast.1
          rw [List.length_cons] at hy
          obtain ⟨es₁, m₁, hselects₁, hm₁⟩ := selects_block hrows hproduct
            (hblocks b List.mem_cons_self) hleast (by omega) hm
          obtain ⟨es₂, m₂, hselects₂, hm₂⟩ := ih hrest
            (fun b' hb' => hblocks b' (List.mem_cons_of_mem _ hb')) (fun z hz => by
              have hz' := hload z hz
              rw [List.length_cons] at hz'
              by_cases hzy : z = y
              · rw [hzy, Function.update_self]
                omega
              · rw [Function.update_of_ne hzy]
                omega) hm₁
          refine ⟨es₁ ++ es₂, m₂, ?_, hm₂⟩
          rw [List.flatMap_cons]
          exact hselects₁.append hselects₂

/-! ## The plan -/

/-- The flows of each endpoint, for a number of flows that is a multiple of the endpoints. -/
theorem exists_stripedFlows {k : ℕ} (hrows : 2 ≤ rows.toNat)
    (hports : 1 ≤ c.network.portsPerXpu.toNat)
    (hcount : k * (rows.toNat * c.network.portsPerXpu.toNat) < 2 ^ 32) (hk : 1 ≤ k) :
    ∃ flows, c.stripedFlows rows
        (List.range (k * (rows.toNat * c.network.portsPerXpu.toNat))) ∅ = some flows ∧
      ∃ load : ℕ → ℕ,
        (∀ x < rows.toNat, ∀ q < c.network.portsPerXpu.toNat, (flows.filter fun f =>
          flowDestination f = ⟨UInt32.ofNat x, UInt32.ofNat q⟩).length = load x) ∧
        ((rows.toNat % 2 = 0 ∨ k % 2 = 0) → ∀ z < rows.toNat, load z = k) ∧
        (¬ (rows.toNat % 2 = 0 ∨ k % 2 = 0) → load 0 ≠ load 1) := by
  have hproduct : rows.toNat * c.network.portsPerXpu.toNat < 2 ^ 32 :=
    lt_of_le_of_lt (Nat.le_mul_of_pos_left _ hk) hcount
  have hstair : Stair rows.toNat 0 0 fun _ => 0 := by
    intro z _
    simp
  obtain ⟨load, hserves, hlevel, huneven⟩ := exists_serves_rounds hstair hrows k
  rw [roundSources_eq] at hserves
  have hassoc : k * rows.toNat * c.network.portsPerXpu.toNat =
      k * (rows.toNat * c.network.portsPerXpu.toNat) := Nat.mul_assoc _ _ _
  have hindices : ((List.range (k * rows.toNat)).flatMap fun b =>
      (List.range c.network.portsPerXpu.toNat).map
        fun j => b * c.network.portsPerXpu.toNat + j) =
      List.range (k * (rows.toNat * c.network.portsPerXpu.toNat)) := by
    rw [flatMap_range_map _ _ fun b j => b * c.network.portsPerXpu.toNat + j, hassoc]
    simp [Nat.div_add_mod']
  have hblocks : k * rows.toNat < 2 ^ 32 :=
    lt_of_le_of_lt (Nat.le_mul_of_pos_right _ hports) (hassoc ▸ hcount)
  have hempty : c.CountsAre rows ∅ fun _ _ => 0 := fun x _ q _ => rfl
  obtain ⟨es, m', hselects, hm'⟩ := selects_of_serves (by omega) hproduct hserves
    (fun b hb => by
      have hb' : b + 1 ≤ k * rows.toNat := List.mem_range.mp hb
      have hle := Nat.mul_le_mul_right c.network.portsPerXpu.toNat hb'
      omega)
    (fun z _ => by simpa using hblocks) hempty
  rw [hindices] at hselects
  obtain ⟨flows, hflows, hmap⟩ := hselects.stripedFlows
  refine ⟨flows, hflows, load, ?_, hlevel, huneven⟩
  intro x hx q hq
  have hassigned := hselects.count ⟨UInt32.ofNat x, UInt32.ofNat q⟩ (by
    rw [List.length_range]
    change 0 + _ < _
    omega)
  rw [hm' x hx q hq] at hassigned
  change load x = 0 + _ at hassigned
  rw [hassigned, Nat.zero_add, ← hmap, List.count, List.countP_map, List.countP_eq_length_filter]
  rfl

/-- A number of flows that is a multiple of the endpoints is striped evenly if and only if it
is not zero and the number of XPUs or the number of rounds is even. -/
theorem stripesEvenly_iff (c : SueSimulationConfig) (hxpus : 2 ≤ c.network.nXpus.toNat)
    (hports : 1 ≤ c.network.portsPerXpu.toNat) (k : ℕ)
    (hcount : c.truthFlowCount.toNat =
      k * (c.network.nXpus.toNat * c.network.portsPerXpu.toNat)) :
    c.StripesEvenly ↔
      c.truthFlowCount ≠ 0 ∧ (c.network.nXpus.toNat % 2 = 0 ∨ k % 2 = 0) := by
  have hmem : ∀ x < c.network.nXpus.toNat, ∀ q < c.network.portsPerXpu.toNat,
      (⟨UInt32.ofNat x, UInt32.ofNat q⟩ : PlanEndpoint) ∈
        c.planEndpoints c.network.nXpus :=
    fun x hx q hq => mem_planEndpoints.mpr ⟨x, hx, q, hq, rfl⟩
  by_cases hzero : c.truthFlowCount = 0
  · refine iff_of_false ?_ fun h => h.1 hzero
    rintro ⟨flows, hflows, -, incoming, heven⟩
    have hmax : c.maxFlows.toNat = 1 := by
      rw [maxFlows, hzero]
      rfl
    rw [hmax] at hflows
    obtain ⟨hlength, hall⟩ := stripedFlows_spec hflows
    obtain ⟨f, rfl⟩ := List.length_eq_one_iff.mp hlength
    obtain ⟨x, hx, q, hq, hdest⟩ := mem_planEndpoints.mp (hall f List.mem_cons_self).2
    have hone : 1 = incoming := by
      rw [← heven _ (hmem x hx q hq), List.filter_cons_of_pos (by simpa using hdest)]
      rfl
    have honly : ∀ e ∈ c.planEndpoints c.network.nXpus, flowDestination f = e := by
      intro e he
      by_contra hne
      have hnone := heven e he
      rw [List.filter_cons_of_neg (by simpa using hne), ← hone] at hnone
      cases hnone
    have hfirst := honly _ (hmem 0 (by omega) 0 (by omega))
    have hsecond := honly _ (hmem 1 (by omega) 0 (by omega))
    exact absurd (hfirst.symm.trans hsecond) (by decide)
  · have hpos : c.truthFlowCount.toNat ≠ 0 := fun h => hzero (UInt32.toNat_inj.mp h)
    have hk : 1 ≤ k := by
      by_contra hnot
      rw [show k = 0 by omega, Nat.zero_mul] at hcount
      exact hpos hcount
    have hmax : c.maxFlows.toNat =
        k * (c.network.nXpus.toNat * c.network.portsPerXpu.toNat) := by
      have hone : 1 ≤ c.truthFlowCount := Nat.one_le_iff_ne_zero.mpr hpos
      rw [← hcount]
      exact congrArg UInt32.toNat (if_pos hone)
    have hlt : k * (c.network.nXpus.toNat * c.network.portsPerXpu.toNat) < 2 ^ 32 := by
      rw [← hcount]
      exact c.truthFlowCount.toNat_lt
    obtain ⟨flows, hflows, load, hload, hlevel, huneven⟩ :=
      exists_stripedFlows hxpus hports hlt hk
    rw [← hmax] at hflows
    constructor
    · rintro ⟨flows', hflows', -, incoming, heven⟩
      rw [hflows] at hflows'
      cases hflows'
      refine ⟨hzero, ?_⟩
      by_contra hodd
      apply huneven hodd
      rw [← hload 0 (by omega) 0 (by omega), ← hload 1 (by omega) 0 (by omega),
        heven _ (hmem 0 (by omega) 0 (by omega)), heven _ (hmem 1 (by omega) 0 (by omega))]
    · rintro ⟨-, hparity⟩
      refine ⟨flows, hflows, fun f hf => ((stripedFlows_spec hflows).2 f hf).1, k, ?_⟩
      intro e he
      obtain ⟨x, hx, q, hq, rfl⟩ := mem_planEndpoints.mp he
      rw [hload x hx q hq, hlevel hparity x hx]

/-- A striped plan of two flows for each of ten endpoints. -/
def fiveXpus : SueSimulationConfig where
  network := { nXpus := 5, portsPerXpu := 2, portsPerSue := 1 }
  truthPlannerMode := "striped"
  truthFlowCount := 20

/-- An odd number of XPUs gets two flows at each endpoint. -/
theorem stripesEvenly_fiveXpus : fiveXpus.StripesEvenly :=
  (stripesEvenly_iff fiveXpus (by decide) (by decide) 2 (by decide)).mpr (by decide)

/-- A striped plan with one port for each XPU and one flow for each endpoint. -/
def onePortConfig (nXpus : UInt32) : SueSimulationConfig where
  network := { nXpus := nXpus, portsPerXpu := 1, portsPerSue := 1 }
  truthPlannerMode := "striped"
  truthFlowCount := nXpus

/-- Of three XPUs, the first gets two flows and the last none. -/
theorem not_stripesEvenly_three_xpus : ¬ (onePortConfig 3).StripesEvenly := by
  rintro ⟨flows, hflows, -, incoming, heven⟩
  have hplan : (onePortConfig 3).stripedFlows 3 [0, 1, 2] ∅ =
      some [⟨0, 0, 1, 0, 0, 0⟩, ⟨1, 0, 0, 0, 0, 1⟩, ⟨2, 0, 0, 0, 0, 2⟩] := rfl
  have hindices : List.range (onePortConfig 3).maxFlows.toNat = [0, 1, 2] := rfl
  rw [hindices] at hflows
  cases hplan.symm.trans hflows
  have hfirst := heven ⟨0, 0⟩ (by decide)
  have hlast := heven ⟨2, 0⟩ (by decide)
  exact absurd (hfirst.trans hlast.symm) (by decide)

end SueSimulationConfig

end UeSim
