import UeSim.Network.ChannelConservation
import Mathlib.Data.List.GetD

/-!
# The reservations of the paths

Each path is a server that serves in order of arrival.  A flow keeps the path that it was given,
whatever the other flows do, and the scores that decide where a new flow goes change nothing but
the finish times that are over.
-/

namespace UeSim

/-- The path as a server. -/
def PathState.server (state : PathState) : FifoServer where
  nextAvailable := state.nextTxAvailable
  finishTimes := state.finishTimes

@[simp]
theorem PathState.server_refresh (state : PathState) (now : ℕ) :
    (state.refresh now).server = state.server.refresh now := rfl

@[simp]
theorem PathState.server_reserve (state : PathState) (config : ChannelConfig)
    (packet : ChannelPacket) (now txTime : ℕ) :
    (state.reserve config packet now txTime).server = state.server.serve now txTime := rfl

/-! ## The choice of a path -/

theorem mem_considerPath {best : Option (ℕ × List ℕ)} {candidate : ℕ × ℕ} {i : ℕ}
    (hi : i ∈ (considerPath best candidate).elim [] Prod.snd) :
    i ∈ best.elim [] Prod.snd ∨ i = candidate.2 := by
  match best with
  | none => exact .inr (List.mem_singleton.mp hi)
  | some (bestScore, paths) =>
      unfold considerPath at hi
      dsimp only at hi
      split_ifs at hi
      · exact .inr (List.mem_singleton.mp hi)
      · exact (List.mem_append.mp hi).imp_right List.mem_singleton.mp
      · exact .inl hi

theorem mem_foldl_considerPath {candidates : List (ℕ × ℕ)} {best : Option (ℕ × List ℕ)} {i : ℕ}
    (hi : i ∈ (candidates.foldl considerPath best).elim [] Prod.snd) :
    i ∈ best.elim [] Prod.snd ∨ ∃ candidate ∈ candidates, i = candidate.2 := by
  induction candidates generalizing best with
  | nil => exact .inl hi
  | cons candidate candidates ih =>
      rcases ih hi with hbest | ⟨later, hlater, heq⟩
      · rcases mem_considerPath hbest with hold | hnew
        · exact .inl hold
        · exact .inr ⟨candidate, List.mem_cons_self, hnew⟩
      · exact .inr ⟨later, List.mem_cons_of_mem _ hlater, heq⟩

/-- The best paths are paths. -/
theorem lt_of_mem_bestPaths {scores : List ℕ} {i : ℕ} (hi : i ∈ bestPaths scores) :
    i < scores.length := by
  rcases mem_foldl_considerPath hi with hnone | ⟨candidate, hmem, rfl⟩
  · cases hnone
  · simpa using List.snd_lt_of_mem_zipIdx hmem

theorem selectedPath_mem (useEcmpHash : Bool) (flowKey : UInt64) (paths : List ℕ) :
    selectedPath useEcmpHash flowKey paths = 0 ∨
      selectedPath useEcmpHash flowKey paths ∈ paths := by
  cases paths with
  | nil =>
      left
      unfold selectedPath
      split_ifs <;> rfl
  | cons i rest =>
      right
      unfold selectedPath
      split_ifs
      · exact List.mem_cons_self
      · have hlt : (mixFlowKey flowKey).toNat % (i :: rest).length < (i :: rest).length :=
          Nat.mod_lt _ (Nat.succ_pos _)
        rw [List.getD_eq_getElem _ _ hlt]
        exact List.getElem_mem _

namespace SoftUeChannel

variable {env : ChannelEnvironment} {s s' : SoftUeChannel}

namespace Paths

variable {p p' p'' : Paths} {flow : UInt64} {i j : ℕ}

/-- The state of a path; one that was never used is idle. -/
def pathState (p : Paths) (i : ℕ) : PathState := p.pathStates.getD i {}

/-- The number of paths. -/
def effectiveCount (p : Paths) : ℕ := max 1 p.config.pathCount

/-- The reservations of a path, oldest first. -/
def reservationsOf (p : Paths) (i : ℕ) : List PathReservation :=
  p.reservations.filter (·.path = i)

/-- The path of a flow over explicit paths. -/
def Routes (p : Paths) (flow : UInt64) (i : ℕ) : Prop :=
  if p.config.dynamicPathSelection then p.flowPathAssignments.lookup flow = some i
  else i = (mixFlowKey flow).toNat % p.config.pathCount

/-- What the paths know is what their reservations say. -/
structure Recorded (p : Paths) : Prop where
  records : ∀ i, (p.pathState i).server.Records p.now
    ((p.reservationsOf i).map PathReservation.slot)
  sized : p.pathStates = [] ∨ p.pathStates.length = p.effectiveCount
  queueDepth : ∀ r ∈ p.reservations, r.queueDepth = toU32 r.slot.depth
  routed : ∀ r ∈ p.reservations, p.Routes r.flowKey r.path
  assigned : ∀ flow i, p.flowPathAssignments.lookup flow = some i → i < p.effectiveCount

/-- The transmitters only get busier, and no flow changes its path. -/
structure Grows (p p' : Paths) : Prop where
  config : p'.config = p.config
  shared : p.nextTxAvailable ≤ p'.nextTxAvailable
  pathState : ∀ i, (p.pathState i).nextTxAvailable ≤ (p'.pathState i).nextTxAvailable
  routes : ∀ flow i, p.Routes flow i → p'.Routes flow i

theorem routes_iff_lookup (hdynamic : p.config.dynamicPathSelection = true) :
    p.Routes flow i ↔ p.flowPathAssignments.lookup flow = some i := by
  rw [Routes, if_pos hdynamic]

theorem routes_iff_hash (hstatic : ¬p.config.dynamicPathSelection = true) :
    p.Routes flow i ↔ i = (mixFlowKey flow).toNat % p.config.pathCount := by
  rw [Routes, if_neg hstatic]

theorem Routes.unique (h : p.Routes flow i) (h' : p.Routes flow j) : i = j := by
  unfold Routes at h h'
  split_ifs at h h'
  · exact Option.some_injective _ (h.symm.trans h')
  · exact h.trans h'.symm

theorem Grows.refl (p : Paths) : p.Grows p :=
  ⟨rfl, le_rfl, fun _ => le_rfl, fun _ _ h => h⟩

theorem Grows.of_eq (h : p' = p) : p.Grows p' := h ▸ .refl p

theorem Grows.trans (h : p.Grows p') (h' : p'.Grows p'') : p.Grows p'' where
  config := h'.config.trans h.config
  shared := h.shared.trans h'.shared
  pathState i := (h.pathState i).trans (h'.pathState i)
  routes flow i hroutes := h'.routes flow i (h.routes flow i hroutes)

end Paths

/-! ## The size of the path states -/

/-- New path states are idle. -/
theorem pathState_ensurePathStateSize (h : s.paths.Recorded) (i : ℕ) :
    s.ensurePathStateSize.paths.pathState i = s.paths.pathState i := by
  unfold ensurePathStateSize
  dsimp only
  split_ifs with hlength
  · rfl
  · rcases h.sized with hnil | hsized
    · have hstates : s.pathStates = [] := hnil
      change (s.pathStates.take _ ++ List.replicate _ _).getD i _ = s.pathStates.getD i _
      rw [hstates, List.take_nil, List.nil_append, List.getD_eq_getElem?_getD,
        List.getElem?_getD_replicate_default_eq, List.getD_nil]
    · exact absurd hsized hlength

theorem length_ensurePathStateSize (h : s.paths.Recorded) :
    s.ensurePathStateSize.pathStates.length = s.paths.effectiveCount := by
  unfold ensurePathStateSize
  dsimp only
  split_ifs with hlength
  · exact hlength
  · rcases h.sized with hnil | hsized
    · have hstates : s.pathStates = [] := hnil
      rw [hstates, List.take_nil, List.nil_append, List.length_replicate, List.length_nil]
      exact Nat.sub_zero _
    · exact absurd hsized hlength

/-- The number of path states changes only when the first packet comes. -/
theorem ensurePathStateSize_paths (s : SoftUeChannel) :
    s.ensurePathStateSize.paths =
      { s.paths with pathStates := s.ensurePathStateSize.pathStates } := by
  unfold ensurePathStateSize
  dsimp only
  split_ifs <;> rfl

theorem Paths.Recorded.ensurePathStateSize (h : s.paths.Recorded) :
    s.ensurePathStateSize.paths.Recorded ∧ s.paths.Grows s.ensurePathStateSize.paths := by
  have hpath := pathState_ensurePathStateSize h
  have hlength := length_ensurePathStateSize h
  rw [ensurePathStateSize_paths] at hpath ⊢
  constructor
  · exact
      { h with
        records := fun i => by
          rw [hpath]
          exact h.records i
        sized := .inr hlength }
  · exact ⟨rfl, le_rfl, fun i => (congrArg PathState.nextTxAvailable (hpath i)).ge, fun _ _ h => h⟩

theorem ensurePathStateSize_of_length (h : s.pathStates.length = s.paths.effectiveCount) :
    s.ensurePathStateSize = s := if_pos h

/-! ## The path of a packet -/

/-- The paths after a new flow got one: the finish times that are over are forgotten. -/
def Paths.assign (p : Paths) (flow : UInt64) (i : ℕ) : Paths :=
  { p with
    pathStates := p.pathStates.map (·.refresh p.now)
    flowPathAssignments := p.flowPathAssignments.insert flow i }

namespace Paths

variable {p : Paths} {flow : UInt64} {i : ℕ}

theorem pathState_assign (j : ℕ) : (p.assign flow i).pathState j = (p.pathState j).refresh p.now :=
  List.getD_map p.pathStates {} (PathState.refresh · p.now)

/-- A new flow does not change the path of another one. -/
theorem Routes.assign {flow' : UInt64} {j : ℕ} (hroutes : p.Routes flow' j)
    (hdynamic : p.config.dynamicPathSelection = true)
    (hnew : p.flowPathAssignments.lookup flow = none) : (p.assign flow i).Routes flow' j := by
  have hlookup := (routes_iff_lookup hdynamic).mp hroutes
  have hne : flow' ≠ flow := by
    rintro rfl
    cases hnew.symm.trans hlookup
  refine (routes_iff_lookup (p := p.assign flow i) hdynamic).mpr ?_
  exact (AList.lookup_insert_ne hne).trans hlookup

theorem Recorded.assign (h : p.Recorded) (hdynamic : p.config.dynamicPathSelection = true)
    (hnew : p.flowPathAssignments.lookup flow = none) (hi : i < p.effectiveCount) :
    (p.assign flow i).Recorded ∧ p.Grows (p.assign flow i) := by
  constructor
  · refine ⟨fun j => ?_, ?_, h.queueDepth, fun r hr => (h.routed r hr).assign hdynamic hnew, ?_⟩
    · rw [pathState_assign, PathState.server_refresh]
      exact (h.records j).refresh
    · exact h.sized.imp (fun hnil => by rw [Paths.assign, hnil]; rfl) fun hlength =>
        (List.length_map _).trans hlength
    · intro flow' j hlookup
      by_cases hflow : flow' = flow
      · rw [hflow, Paths.assign, AList.lookup_insert] at hlookup
        cases hlookup
        exact hi
      · rw [Paths.assign, AList.lookup_insert_ne hflow] at hlookup
        exact h.assigned flow' j hlookup
  · refine ⟨rfl, le_rfl, fun j => ?_, fun _ _ hroutes => hroutes.assign hdynamic hnew⟩
    exact (congrArg PathState.nextTxAvailable (pathState_assign j)).ge

end Paths

/-- The path of a packet is the one of its flow. -/
theorem selectPathIndex_spec (env : ChannelEnvironment) (h : s.paths.Recorded)
    (hlength : s.pathStates.length = s.paths.effectiveCount) (hexplicit : s.config.explicitPaths)
    (packet : ChannelPacket) (sourceFep destFep : UInt32) :
    let selected := s.selectPathIndex env packet sourceFep destFep
    selected.1.paths.Recorded ∧ s.paths.Grows selected.1.paths ∧
      selected.1.paths.Routes (buildFlowKey packet sourceFep destFep) selected.2 ∧
      selected.2 < selected.1.pathStates.length := by
  simp only [ChannelConfig.explicitPaths, Bool.and_eq_true, decide_eq_true_eq] at hexplicit
  have hcount : s.paths.effectiveCount = s.config.pathCount := max_eq_right hexplicit.1.le
  dsimp only
  unfold selectPathIndex
  split_ifs with hdynamic hsingle
  · unfold selectAdaptivePathIndex
    rw [if_neg (by omega), ensurePathStateSize_of_length hlength]
    dsimp only
    split
    · rename_i existing hlookup
      refine ⟨h, .refl _, (Paths.routes_iff_lookup hdynamic).mpr hlookup, ?_⟩
      rw [hlength]
      exact h.assigned _ _ hlookup
    · rename_i hlookup
      set i := selectedPath _ _ _ with hselected
      have hi : i < s.paths.effectiveCount := by
        rcases selectedPath_mem s.config.useEcmpHash (buildFlowKey packet sourceFep destFep)
          (bestPaths ((s.pathStates.map (·.refresh s.events.now)).map
            (·.score s.events.now (env.calculateTransmissionTime packet s.config.pathDataRate))))
          with hzero | hmem
        · rw [← hselected] at hzero
          omega
        · have hlt := lt_of_mem_bestPaths hmem
          rw [List.length_map, List.length_map, hlength] at hlt
          exact hlt
      obtain ⟨hrecorded, hgrows⟩ := h.assign hdynamic hlookup hi
      refine ⟨hrecorded, hgrows, ?_, ?_⟩
      · exact (Paths.routes_iff_lookup hdynamic).mpr (AList.lookup_insert _)
      · rw [List.length_map, hlength]
        exact hi
  · simp only [hexplicit.2, Bool.not_true, Bool.or_false, decide_eq_true_eq] at hsingle
    omega
  · refine ⟨h, .refl _, (Paths.routes_iff_hash hdynamic).mpr rfl, ?_⟩
    rw [hlength, hcount]
    exact Nat.mod_lt _ (by omega)

/-! ## A reservation -/

/-- The reservation that `reservePath` makes. -/
theorem reservationsOf_reservePath (s : SoftUeChannel) (copy : ChannelCopy) (txTime i j : ℕ) :
    ((s.reservePath copy txTime i).paths.reservationsOf j).map PathReservation.slot =
      (s.paths.reservationsOf j).map PathReservation.slot ++
        if i = j then [(s.paths.pathState i).server.slot s.events.now txTime] else [] := by
  unfold Paths.reservationsOf
  change ((s.reservations ++ [_]).filter _).map _ = _
  rw [List.filter_append, List.map_append]
  congr 1
  split_ifs with heq
  · rw [List.filter_cons_of_pos (by simpa using heq)]
    rfl
  · rw [List.filter_cons_of_neg (by simpa using heq)]
    rfl

/-- The state of the path that is reserved, and of the others. -/
theorem pathState_reservePath (copy : ChannelCopy) (txTime : ℕ) {i : ℕ}
    (hi : i < s.pathStates.length) (j : ℕ) :
    (s.reservePath copy txTime i).paths.pathState j =
      if i = j then (s.paths.pathState i).reserve s.config copy.packet s.events.now txTime
      else s.paths.pathState j := by
  change (s.pathStates.set i _).getD j {} = _
  rw [List.getD_eq_getElem?_getD, List.getElem?_set]
  split_ifs with heq
  · rfl
  · exact List.getD_eq_getElem?_getD.symm

/-- A reservation of the path of a flow. -/
theorem Paths.Recorded.reservePath (h : s.paths.Recorded) (copy : ChannelCopy) (txTime : ℕ) {i : ℕ}
    (hi : i < s.pathStates.length) (hroutes : s.paths.Routes copy.flowKey i) :
    (s.reservePath copy txTime i).paths.Recorded ∧
      s.paths.Grows (s.reservePath copy txTime i).paths := by
  constructor
  · refine ⟨fun j => ?_, ?_, ?_, ?_, h.assigned⟩
    · rw [reservationsOf_reservePath, pathState_reservePath copy txTime hi]
      split_ifs with heq
      · rw [← heq, PathState.server_reserve]
        exact (h.records i).serve txTime
      · rw [List.append_nil]
        exact h.records j
    · rcases h.sized with hnil | hlength
      · rw [show s.pathStates = [] from hnil] at hi
        cases hi
      · exact .inr (List.length_set.trans hlength)
    · exact List.forall_mem_append.mpr ⟨h.queueDepth, List.forall_mem_singleton.mpr rfl⟩
    · exact List.forall_mem_append.mpr ⟨h.routed, List.forall_mem_singleton.mpr hroutes⟩
  · refine ⟨rfl, le_rfl, fun j => ?_, fun _ _ hroute => hroute⟩
    rw [pathState_reservePath copy txTime hi]
    split_ifs with heq
    · rw [← heq]
      exact (le_max_right _ _).trans (Nat.le_add_right _ _)
    · exact le_rfl

/-- The delay of a packet over explicit paths: it arrives when its path has sent it and the
latency is over. -/
theorem reserveExplicitPath_spec (env : ChannelEnvironment) (h : s.paths.Recorded)
    (hexplicit : s.config.explicitPaths) (copy : ChannelCopy) :
    let result := s.reserveExplicitPathAndCalculateDelay env copy
    result.1.paths.Recorded ∧ s.paths.Grows result.1.paths ∧
      ∃ i, result.1.paths.Routes copy.flowKey i ∧
        s.events.now + result.2 = (result.1.paths.pathState i).nextTxAvailable +
          s.config.pathDelay + s.config.extraDelay := by
  obtain ⟨hensured, hgrows⟩ := h.ensurePathStateSize
  have hlength := length_ensurePathStateSize h
  have hconfig : s.ensurePathStateSize.paths.config = s.config := hgrows.config
  have hcount : s.ensurePathStateSize.paths.effectiveCount = s.paths.effectiveCount := by
    rw [Paths.effectiveCount, hconfig]
    rfl
  obtain ⟨hselected, hgrows', hroutes, hlt⟩ := selectPathIndex_spec env hensured
    (hlength.trans hcount.symm) (by rw [show s.ensurePathStateSize.config = s.config from hconfig]
                                    exact hexplicit) copy.packet copy.sourceFep copy.destFep
  dsimp only at hselected hgrows' hroutes hlt ⊢
  unfold reserveExplicitPathAndCalculateDelay
  dsimp only
  set selected := s.ensurePathStateSize.selectPathIndex env copy.packet copy.sourceFep copy.destFep
    with hdef
  set txTime := env.calculateTransmissionTime copy.packet s.config.pathDataRate
  have hnow : selected.1.events.now = s.events.now := by
    have htraffic := (traffic_selectPathIndex env s.ensurePathStateSize copy.packet
      copy.sourceFep copy.destFep).trans traffic_ensurePathStateSize
    exact eq_of_traffic htraffic (fun t => t.events.now) fun _ => rfl
  obtain ⟨hrecorded, hgrows''⟩ := hselected.reservePath copy txTime hlt hroutes
  refine ⟨hrecorded, (hgrows.trans hgrows').trans hgrows'', selected.2, hroutes, ?_⟩
  rw [pathState_reservePath copy txTime hlt, if_pos rfl]
  simp only [PathState.reserve, hnow, Paths.pathState, paths]
  omega

/-! ## Every operation -/

theorem Paths.Recorded.calculateScheduleDelay (env : ChannelEnvironment) (h : s.paths.Recorded)
    (packet : ChannelPacket) :
    (s.calculateScheduleDelay env packet).1.paths.Recorded ∧
      s.paths.Grows (s.calculateScheduleDelay env packet).1.paths := by
  unfold SoftUeChannel.calculateScheduleDelay
  dsimp only
  split_ifs
  · exact ⟨h, .refl _⟩
  · refine ⟨{ h with }, rfl, ?_, fun _ => le_rfl, fun _ _ hroutes => hroutes⟩
    exact (le_max_right _ _).trans (Nat.le_add_right _ _)

theorem Paths.Recorded.receiveDelay (env : ChannelEnvironment) (h : s.paths.Recorded)
    (reserved : Option ℕ) (copy : ChannelCopy) :
    (s.receiveDelay env reserved copy).1.1.paths.Recorded ∧
      s.paths.Grows (s.receiveDelay env reserved copy).1.1.paths := by
  unfold SoftUeChannel.receiveDelay
  split_ifs with hexplicit
  · split
    · exact ⟨h, .refl _⟩
    · have hspec := reserveExplicitPath_spec env h hexplicit copy
      exact ⟨hspec.1, hspec.2.1⟩
  · exact h.calculateScheduleDelay env copy.packet

theorem Paths.Recorded.releaseDelay (env : ChannelEnvironment) (h : s.paths.Recorded)
    (held : HeldTransmission) (scheduleDelay : ℕ) :
    (s.releaseDelay env held scheduleDelay).1.paths.Recorded ∧
      s.paths.Grows (s.releaseDelay env held scheduleDelay).1.paths := by
  unfold SoftUeChannel.releaseDelay
  split_ifs with hexplicit
  · have hspec := reserveExplicitPath_spec env h hexplicit held.copy
    exact ⟨hspec.1, hspec.2.1⟩
  · exact h.calculateScheduleDelay env held.copy.packet
  · exact ⟨h, .refl _⟩

theorem Paths.Recorded.transmitCopy (env : ChannelEnvironment) (h : s.paths.Recorded)
    (reserved : Option ℕ) (copy : ChannelCopy) :
    (s.transmitCopy env reserved copy).1.paths.Recorded ∧
      s.paths.Grows (s.transmitCopy env reserved copy).1.paths := by
  obtain ⟨t, -, hpaths, heq | heq⟩ := transmitCopy_cases env s reserved copy
  · rw [heq, ← hpaths]
    rw [← hpaths] at h
    exact ⟨h, .refl _⟩
  · rw [← hpaths] at h
    rw [heq, ← hpaths, forwardCopy, paths_holdOrSchedule]
    exact h.receiveDelay env reserved copy

theorem Paths.Recorded.transmit (env : ChannelEnvironment) (h : s.paths.Recorded)
    (packet : Option ChannelPacket) (src : Option ChannelDevice) (sourceFep destFep : UInt32) :
    (s.transmit env packet src sourceFep destFep).paths.Recorded ∧
      s.paths.Grows (s.transmit env packet src sourceFep destFep).paths := by
  unfold SoftUeChannel.transmit
  split
  · rename_i packet src
    have hstarted : (s.started src destFep).paths.Recorded := h
    obtain ⟨-, hrecorded, hgrows⟩ := transmitTo_induction env src
      (fun dest => { transmission := s.transmissions, packet, dest, sourceFep, destFep })
      (P := fun _ t _ => t.paths.Recorded ∧ s.paths.Grows t.paths)
      (fun _ _ _ _ _ ht => ht)
      (fun _ _ t reserved _ ht => by
        obtain ⟨hrecorded, hgrows⟩ := ht.1.transmitCopy env reserved _
        exact ⟨hrecorded, ht.2.trans hgrows⟩)
      s.devices (s.started src destFep).ensurePathStateSize none hstarted.ensurePathStateSize
    exact ⟨hrecorded, hgrows⟩
  · exact ⟨h, .refl _⟩

theorem Paths.Recorded.releaseHeldPacket (env : ChannelEnvironment) (h : s.paths.Recorded)
    (scheduleDelay : ℕ) :
    (s.releaseHeldPacket env scheduleDelay).paths.Recorded ∧
      s.paths.Grows (s.releaseHeldPacket env scheduleDelay).paths := by
  cases hheld : s.held with
  | none =>
      rw [releaseHeldPacket_of_none env hheld]
      exact ⟨h, .refl _⟩
  | some held =>
      obtain ⟨delayed, hdelayed, -, heq⟩ := releaseHeldPacket_of_held env hheld scheduleDelay
      have hcancelled : s.cancelTimer.paths.Recorded := h
      have hresult := hcancelled.releaseDelay env held scheduleDelay
      rw [← hdelayed] at hresult
      rw [heq]
      exact hresult

/-- Nothing is forgotten as time goes on. -/
theorem Paths.Recorded.later {p : Paths} (h : p.Recorded) {time : ℕ} (hle : p.now ≤ time) :
    Paths.Recorded { p with now := time } ∧ p.Grows { p with now := time } :=
  ⟨{ h with records := fun i => (h.records i).later hle },
    rfl, le_rfl, fun _ => le_rfl, fun _ _ hroutes => hroutes⟩

/-- What the paths know stays true, the transmitters only get busier, and no flow changes its
path. -/
theorem Paths.Recorded.step (h : s.paths.Recorded) (hs : Consistent s) (a : ChannelAction)
    (hstep : s.channelStep env a = some s') : s'.paths.Recorded ∧ s.paths.Grows s'.paths := by
  cases a with
  | attach device =>
      cases hstep
      have hpaths : (s.attach device).paths = s.paths := by
        unfold SoftUeChannel.attach
        split_ifs <;> rfl
      rw [hpaths]
      exact ⟨h, .refl _⟩
  | transmit packet src sourceFep destFep =>
      cases hstep
      exact h.transmit env packet src sourceFep destFep
  | flushHeldPacket =>
      cases hstep
      exact h.releaseHeldPacket env 1
  | dropNextRequests count =>
      cases hstep
      exact ⟨h, .refl _⟩
  | dropNextResponses count =>
      cases hstep
      exact ⟨h, .refl _⟩
  | holdNextResponse =>
      cases hstep
      exact ⟨h, .refl _⟩
  | clearDeterministicFaultPlan =>
      cases hstep
      exact ⟨h, .refl _⟩
  | fillFabricRuntimeStats =>
      cases hstep
      exact h.ensurePathStateSize
  | runEvent =>
      obtain ⟨⟨event, q⟩, hnext, rfl⟩ := Option.map_eq_some_iff.mp hstep
      have hnow := (hs.conserved.ordered.next hnext).2
      obtain ⟨hlater, hgrows⟩ := h.later hnow
      have hfired : ({ s with events := q } : SoftUeChannel).paths.Recorded := hlater
      cases event with
      | receivePacket copy =>
          have hpaths : (({ s with events := q } : SoftUeChannel).receivePacket copy).paths =
              ({ s with events := q } : SoftUeChannel).paths := by
            unfold SoftUeChannel.receivePacket
            split_ifs <;> rfl
          change Recorded (SoftUeChannel.receivePacket _ copy).paths ∧
            s.paths.Grows (SoftUeChannel.receivePacket _ copy).paths
          rw [hpaths]
          exact ⟨hlater, hgrows⟩
      | releaseHeldPacket scheduleDelay =>
          obtain ⟨hrecorded, hgrows'⟩ := hfired.releaseHeldPacket env scheduleDelay
          exact ⟨hrecorded, hgrows.trans hgrows'⟩
  | advance time =>
      obtain ⟨q, hadvance, rfl⟩ := Option.map_eq_some_iff.mp hstep
      obtain ⟨-, rfl, hle⟩ := hs.conserved.ordered.advance hadvance
      exact h.later hle

theorem Paths.Recorded.fresh (h : Fresh s) : s.paths.Recorded := by
  rw [h]
  refine ⟨fun i => ?_, .inl rfl, ?_, ?_, fun _ _ hlookup => nomatch hlookup⟩
  · exact FifoServer.records_nil 0
  · exact fun _ hmem => absurd hmem List.not_mem_nil
  · exact fun _ hmem => absurd hmem List.not_mem_nil

/-- Along every run the paths know what their reservations say. -/
theorem recorded_of_reachable (h : (channelSystem env).Reachable s) : s.paths.Recorded := by
  have hboth : Consistent s ∧ s.paths.Recorded := by
    refine h.invariant (P := fun s => Consistent s ∧ s.paths.Recorded)
      (fun t hfresh => ⟨.fresh hfresh, .fresh hfresh⟩) fun t a t' ht _ hstep => ?_
    exact ⟨ht.1.step a hstep, (ht.2.step ht.1 a hstep).1⟩
  exact hboth.2

end SoftUeChannel
end UeSim
