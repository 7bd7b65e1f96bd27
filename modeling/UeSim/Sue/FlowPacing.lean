import UeSim.Sue.FlowGenerator
import UeSim.Sue.BackPressure

/-!
# The pace of the flow generator

In every run of a flow generator with its load balancer, a flow has as many transactions as its
bytes need when the transmission is complete, they are a packet interval apart, and at most one
event is pending.  That an event is pending while generation goes on holds in a run if and only
if a next round can be scheduled at each of its steps: the only way in which an event is missing
is that the earliest round is 2^63 nanoseconds ahead or more.
-/

namespace UeSim

namespace FlowGenerator

variable {g : FlowGenerator} {now : ℕ}

/-! ## The time of the next round -/

/-- The difference is negative as a `Time` from 2^63 on. -/
theorem toTime_nonneg {n : ℕ} (hn : n < 2 ^ 64) : 0 ≤ toTime n ↔ n < 2 ^ 63 := by
  unfold toTime
  split_ifs with h
  · exact iff_of_true (Int.natCast_nonneg n) h
  · exact iff_of_false (by omega) h

theorem nextGenerationTime_lt (f : FlowState) : f.nextGenerationTime < 2 ^ 64 :=
  Nat.mod_lt _ (by decide)

/-- What the loop over the flows finds, from the sign of its minimum. -/
theorem nextEventLoop_nonneg (now : ℕ) (flowStates : List FlowState) (minNextEvent : ℤ) :
    0 ≤ FlowState.nextEventLoop now flowStates minNextEvent ↔
      (∃ f ∈ flowStates, f.isActive = true ∧ f.nextGenerationTime ≤ now) ∨
        (0 ≤ minNextEvent ∧
          ∀ f ∈ flowStates, f.isActive = true → f.nextGenerationTime - now < 2 ^ 63) := by
  induction flowStates generalizing minNextEvent with
  | nil =>
      simp only [FlowState.nextEventLoop, maxTime, List.not_mem_nil, false_and, exists_false,
        false_or, false_imp_iff, implies_true, and_true]
      split_ifs <;> omega
  | cons f rest ih =>
      by_cases hactive : f.isActive = false
      · simp [FlowState.nextEventLoop, hactive, ih]
      · have hactive' : f.isActive = true := by simpa using hactive
        by_cases hahead : f.nextGenerationTime > now
        · have hnext := nextGenerationTime_lt f
          have hsign := toTime_nonneg (n := f.nextGenerationTime - now) (by omega)
          have hmin : 0 ≤ (if toTime (f.nextGenerationTime - now) < minNextEvent then
              toTime (f.nextGenerationTime - now) else minNextEvent) ↔
              0 ≤ minNextEvent ∧ f.nextGenerationTime - now < 2 ^ 63 := by
            rw [← hsign]
            split_ifs <;> omega
          have hnot : ¬ f.nextGenerationTime ≤ now := by omega
          rw [FlowState.nextEventLoop, if_neg hactive, if_pos hahead]
          dsimp only
          rw [ih, hmin]
          simp only [List.exists_mem_cons_iff, List.forall_mem_cons, hactive', hnot, and_false,
            false_or, true_imp_iff, and_assoc]
        · have hdue : f.nextGenerationTime ≤ now := by omega
          rw [FlowState.nextEventLoop, if_neg hactive, if_neg hahead]
          exact iff_of_true (by decide) (Or.inl ⟨f, List.mem_cons_self, hactive', hdue⟩)

/-- A round can be scheduled exactly if the time that is calculated is not negative. -/
theorem calculateNextEventTime_nonneg (now : ℕ) (flowStates : List FlowState) :
    0 ≤ FlowState.calculateNextEventTime now flowStates ↔ Schedulable now flowStates := by
  rw [FlowState.calculateNextEventTime, nextEventLoop_nonneg, Schedulable]
  have hmax : (0 : ℤ) ≤ maxTime := by decide
  simp only [hmax, true_and]

/-! ## A flow -/

/-- A flow in a run: its bytes and its times tell the same transactions. -/
structure FlowRight (g : FlowGenerator) (now : ℕ) (f : FlowState) : Prop where
  bytesSent : f.bytesSent = f.generated.length * g.transactionSize.toNat
  count_le : f.generated.length ≤ g.transactionCount f.flow
  inactive : f.isActive = false → f.generated.length = g.transactionCount f.flow
  spaced : f.generated.Pairwise fun earlier later => earlier + f.flow.packetIntervalNs ≤ later
  last : (f.generated = [] ∧ f.lastGenerationTime = f.flow.startTimeNs) ∨
    ∃ earlier, f.generated = earlier ++ [f.lastGenerationTime] ∧ f.lastGenerationTime ≤ now

/-- All bytes are sent when all transactions have been generated. -/
theorem FlowRight.finished_iff {f : FlowState} (hf : g.FlowRight now f) :
    finished f = true ↔ g.transactionCount f.flow ≤ f.generated.length := by
  rw [finished, decide_eq_true_eq, hf.bytesSent, transactionCount,
    ceilDiv_le_iff_le_mul g.transactionSize_pos, Nat.mul_comm]

/-- A flow stays right as the time goes on. -/
theorem FlowRight.mono {f : FlowState} (hf : g.FlowRight now f) {later : ℕ} (hle : now ≤ later) :
    g.FlowRight later f := by
  refine ⟨hf.bytesSent, hf.count_le, hf.inactive, hf.spaced, ?_⟩
  rcases hf.last with h | ⟨earlier, hgenerated, hlast⟩
  · exact Or.inl h
  · exact Or.inr ⟨earlier, hgenerated, by omega⟩

/-- After the last transaction, the next time does not wrap. -/
theorem nextGenerationTime_eq {f : FlowState} (hnow : now < 2 ^ 63)
    (hlast : f.lastGenerationTime ≤ now) :
    f.nextGenerationTime = f.lastGenerationTime + f.flow.packetIntervalNs := by
  have hinterval := f.flow.packetIntervalNs_lt
  exact Nat.mod_eq_of_lt (by omega)

/-- A round keeps a flow right. -/
theorem FlowRight.visit {f : FlowState} (hf : g.FlowRight now f) (hnow : now < 2 ^ 63) :
    g.FlowRight now (g.visit now f) := by
  unfold FlowGenerator.visit
  by_cases hactive : f.isActive = false
  · rwa [if_pos hactive]
  · rw [if_neg hactive]
    by_cases hfinished : finished f = true
    · rw [if_pos hfinished]
      have hall := hf.finished_iff.mp hfinished
      exact ⟨hf.bytesSent, hf.count_le, fun _ => le_antisymm hf.count_le hall, hf.spaced, hf.last⟩
    · rw [if_neg hfinished]
      by_cases hdue : now ≥ f.nextGenerationTime
      · rw [if_pos hdue]
        have hmore : f.generated.length < g.transactionCount f.flow := by
          by_contra hnot
          exact hfinished (hf.finished_iff.mpr (Nat.le_of_not_lt hnot))
        have hless : f.bytesSent < f.flow.totalBytes.toNat := by
          rw [finished, decide_eq_true_eq] at hfinished
          omega
        have hbytes := f.flow.totalBytes.toNat_lt
        have hsize := g.transactionSize.toNat_lt
        constructor
        · simp only [List.length_append, List.length_singleton]
          rw [Nat.mod_eq_of_lt (by omega), hf.bytesSent, Nat.succ_mul]
        · simp only [List.length_append, List.length_singleton]
          omega
        · exact fun h => absurd h hactive
        · rw [List.pairwise_append]
          refine ⟨hf.spaced, List.pairwise_singleton _ _, ?_⟩
          intro t ht later hlater
          rw [List.mem_singleton.mp hlater]
          change t + f.flow.packetIntervalNs ≤ now
          rcases hf.last with ⟨hnone, -⟩ | ⟨earlier, hgenerated, hlast⟩
          · rw [hnone] at ht
            cases ht
          · have hnext := nextGenerationTime_eq hnow hlast
            have hspaced := hf.spaced
            rw [hgenerated] at ht hspaced
            rcases List.mem_append.mp ht with ht | ht
            · have hbefore : t + f.flow.packetIntervalNs ≤ f.lastGenerationTime :=
                (List.pairwise_append.mp hspaced).2.2 t ht _ List.mem_cons_self
              omega
            · rw [List.mem_singleton.mp ht]
              omega
        · exact Or.inr ⟨f.generated, rfl, le_rfl⟩
      · rwa [if_neg hdue]

/-! ## A round -/

theorem flow_visit (f : FlowState) : (g.visit now f).flow = f.flow := by
  unfold visit
  split_ifs <;> rfl

/-- A flow is active after a round if it has bytes left before it. -/
theorem isActive_visit (f : FlowState) :
    (g.visit now f).isActive = true ↔ f.isActive = true ∧ finished f = false := by
  unfold visit
  cases hactive : f.isActive <;> cases hfinished : finished f <;>
    by_cases hdue : now ≥ f.nextGenerationTime <;> simp [hdue, hactive]

theorem now_distribute (buffers : UInt32 → Bool) (s : FlowGeneratorState) (flow : ConfiguredFlow) :
    (g.distribute buffers s flow).now = s.now := by
  unfold distribute
  dsimp only
  split_ifs
  · unfold FlowGeneratorState.notifyToPause
    split_ifs <;> rfl
  · rfl

/-- The loop of a round visits each flow once. -/
theorem roundLoop_snd (buffers : UInt32 → Bool) (s : FlowGeneratorState)
    (flowStates : List FlowState) :
    (g.roundLoop buffers s flowStates).2 = flowStates.map (g.visit s.now) := by
  induction flowStates generalizing s with
  | nil => rfl
  | cons f rest ih =>
      have hnow : (if generates s.now f = true then g.distribute buffers s f.flow else s).now =
          s.now := by
        split_ifs
        · exact now_distribute buffers s f.flow
        · rfl
      simp only [roundLoop, ih, hnow, List.map_cons]

/-- What a distribution leaves alone, and whether the generator is paused after it. -/
theorem distribute_spec {s : FlowGeneratorState} (buffers : UInt32 → Bool) (flow : ConfiguredFlow)
    (hflag : s.generationPaused = s.pausedByLoadBalancer) (hevents : s.events = []) :
    let s' := g.distribute buffers s flow
    s'.generationPaused = (s.generationPaused || buffers s.psn) ∧
      s'.generationPaused = s'.pausedByLoadBalancer ∧ s'.events = [] ∧ s'.psn = s.psn + 1 ∧
      s'.started = s.started ∧ s'.now = s.now ∧
      s'.transmissionComplete = s.transmissionComplete := by
  dsimp only
  unfold distribute FlowGeneratorState.notifyToPause FlowGeneratorState.pauseGeneration
  cases hbuffers : buffers s.psn <;> cases hpaused : s.pausedByLoadBalancer <;>
    simp_all

/-- What the loop of a round leaves alone, and whether the generator is paused after it. -/
theorem roundLoop_spec (buffers : UInt32 → Bool) {s : FlowGeneratorState}
    (flowStates : List FlowState) (hflag : s.generationPaused = s.pausedByLoadBalancer)
    (hevents : s.events = []) :
    let s' := (g.roundLoop buffers s flowStates).1
    s'.generationPaused = (s.generationPaused || roundBuffers s.now buffers s.psn flowStates) ∧
      s'.generationPaused = s'.pausedByLoadBalancer ∧ s'.events = [] ∧ s'.started = s.started ∧
      s'.now = s.now ∧ s'.transmissionComplete = s.transmissionComplete := by
  induction flowStates generalizing s with
  | nil => simp [roundLoop, roundBuffers, hflag, hevents]
  | cons f rest ih =>
      dsimp only at ih ⊢
      by_cases hgenerates : generates s.now f = true
      · simp only [roundLoop, roundBuffers, if_pos hgenerates]
        obtain ⟨hpaused, hflag', hevents', hpsn, hstarted, hnow, hcomplete⟩ :=
          distribute_spec (g := g) buffers f.flow hflag hevents
        obtain ⟨h₁, h₂, h₃, h₄, h₅, h₆⟩ := ih hflag' hevents'
        rw [hpaused, hpsn, hnow, Bool.or_assoc] at h₁
        exact ⟨h₁, h₂, h₃, h₄.trans hstarted, h₅.trans hnow, h₆.trans hcomplete⟩
      · simp only [roundLoop, roundBuffers, if_neg hgenerates]
        exact ih hflag hevents

/-- After a round, the flows are due or ahead as they were before it, but for those that have
generated a transaction. -/
theorem schedulable_visit_iff {flowStates : List FlowState} (hnow : now < 2 ^ 63) :
    Schedulable now (flowStates.map (g.visit now)) ↔ SchedulableAfter now flowStates := by
  have hgenerated : ∀ f, generates now f = true →
      (g.visit now f).isActive = true ∧
        (g.visit now f).nextGenerationTime = now + f.flow.packetIntervalNs := by
    intro f hf
    simp only [generates, Bool.and_eq_true, Bool.not_eq_true', decide_eq_true_eq] at hf
    obtain ⟨⟨hactive, hfinished⟩, hdue⟩ := hf
    refine ⟨isActive_visit f |>.mpr ⟨hactive, hfinished⟩, ?_⟩
    have hinterval := f.flow.packetIntervalNs_lt
    have hvisit : (g.visit now f).lastGenerationTime = now := by
      rw [visit, if_neg (by simp [hactive]), if_neg (by simp [hfinished]), if_pos hdue]
    rw [FlowState.nextGenerationTime, hvisit, flow_visit]
    exact Nat.mod_eq_of_lt (by omega)
  have hwaiting : ∀ f, f.isActive = true → finished f = false → generates now f = false →
      now < f.nextGenerationTime ∧ g.visit now f = f := by
    intro f hactive hfinished hf
    have hnot : ¬ now ≥ f.nextGenerationTime := by
      simpa [generates, hactive, hfinished] using hf
    refine ⟨by omega, ?_⟩
    simp only [visit, hactive, hfinished, hnot, reduceCtorEq, if_false]
  unfold Schedulable SchedulableAfter
  simp only [List.mem_map, exists_exists_and_eq_and, forall_exists_index, and_imp,
    forall_apply_eq_imp_iff₂]
  apply or_congr
  · apply exists_congr
    intro f
    apply and_congr_right
    intro _
    constructor
    · rintro ⟨hactive, hdue⟩
      obtain ⟨hactive, hfinished⟩ := (isActive_visit f).mp hactive
      cases hf : generates now f with
      | true =>
          rw [(hgenerated f hf).2] at hdue
          exact ⟨rfl, by omega⟩
      | false =>
          obtain ⟨hahead, hsame⟩ := hwaiting f hactive hfinished hf
          rw [hsame] at hdue
          omega
    · rintro ⟨hf, hzero⟩
      obtain ⟨hactive, hnext⟩ := hgenerated f hf
      exact ⟨hactive, by omega⟩
  · apply forall₂_congr
    intro f _
    constructor
    · intro hahead hactive hfinished hf
      have h := hahead ((isActive_visit f).mpr ⟨hactive, hfinished⟩)
      rwa [(hwaiting f hactive hfinished hf).2] at h
    · intro hahead hactive
      obtain ⟨hactive, hfinished⟩ := (isActive_visit f).mp hactive
      cases hf : generates now f with
      | true =>
          have hinterval := f.flow.packetIntervalNs_lt
          rw [(hgenerated f hf).2]
          omega
      | false =>
          rw [(hwaiting f hactive hfinished hf).2]
          exact hahead hactive hfinished hf

/-! ## Every run -/

/-- What every run keeps: the flows are right, the generator is paused exactly while the load
balancer has paused it, and an event is only pending while generation goes on. -/
structure Flowing (g : FlowGenerator) (s : FlowGeneratorState) : Prop where
  now_lt : s.now < 2 ^ 63
  flows : s.started = true → s.flowStates.map FlowState.flow =
    g.fineGrainedFlows.filter fun flow => flow.sourceXpuId = g.localXpuId
  unstarted : s.started = false →
    s.flowStates = [] ∧ s.events = [] ∧ s.generationPaused = false
  flag : s.generationPaused = s.pausedByLoadBalancer
  states : ∀ f ∈ s.flowStates, g.FlowRight s.now f
  complete : s.transmissionComplete = true → ∀ f ∈ s.flowStates, f.isActive = false
  idle : s.generationPaused = true ∨ s.transmissionComplete = true → s.events = []
  events_le : s.events.length ≤ 1

/-- An event is pending while generation goes on. -/
def Pending (s : FlowGeneratorState) : Prop :=
  s.generationPaused = false → (∃ f ∈ s.flowStates, f.isActive = true) → s.events ≠ []

/-- Beside the pending event, the promises are kept by every run. -/
theorem Flowing.rateLimited_iff {s : FlowGeneratorState} (hs : g.Flowing s) :
    g.RateLimited s ↔ Pending s := by
  constructor
  · exact RateLimited.pending
  · intro hpending
    exact
      { flows := hs.flows
        count_le := fun f hf => (hs.states f hf).count_le
        count_eq := fun hcomplete f hf => (hs.states f hf).inactive (hs.complete hcomplete f hf)
        spaced := fun f hf => (hs.states f hf).spaced
        events_le := hs.events_le
        pending := hpending }

theorem flowing_init (g : FlowGenerator) : g.Flowing {} := by
  constructor <;> simp

/-- Scheduling from a state without an event keeps everything, and an event is pending after it
exactly if a next round can be scheduled. -/
theorem Flowing.scheduleNextTransaction {s : FlowGeneratorState} (hs : g.Flowing s)
    (hstarted : s.started = true) (hrunning : s.generationPaused = false)
    (hlive : s.transmissionComplete = false) (hevents : s.events = []) :
    g.Flowing s.scheduleNextTransaction ∧
      (Pending s.scheduleNextTransaction ↔ Schedulable s.now s.flowStates) := by
  unfold FlowGeneratorState.scheduleNextTransaction
  dsimp only
  rw [if_neg (by simp [hrunning, hlive])]
  have hsign := calculateNextEventTime_nonneg s.now s.flowStates
  by_cases hnext : 0 ≤ FlowState.calculateNextEventTime s.now s.flowStates
  · rw [if_pos hnext]
    refine ⟨?_, iff_of_true (fun _ _ => by simp) (hsign.mp hnext)⟩
    exact
      { now_lt := hs.now_lt
        flows := hs.flows
        unstarted := fun h => absurd (hstarted.symm.trans h) (by decide)
        flag := hs.flag
        states := hs.states
        complete := hs.complete
        idle := fun h => by simp [hrunning, hlive] at h
        events_le := by simp [hevents] }
  · rw [if_neg hnext]
    refine ⟨hs, iff_of_false ?_ fun h => hnext (hsign.mpr h)⟩
    intro hpending
    apply hpending hrunning ?_ hevents
    by_contra hnone
    apply hnext
    rw [hsign]
    refine Or.inr fun f hf hactive => ?_
    exact absurd ⟨f, hf, hactive⟩ hnone

/-- The time goes on to a point before its end. -/
theorem now_le_of_canReach {s : FlowGeneratorState} {time : ℕ} (h : canReach s time = true) :
    s.now ≤ time ∧ time < 2 ^ 63 := by
  simp only [canReach, Bool.and_eq_true, decide_eq_true_eq] at h
  have hend : maximumSimulationTime < 2 ^ 63 := by decide
  exact ⟨h.1.1, lt_of_le_of_lt h.1.2 hend⟩

/-- The start of the application. -/
theorem Flowing.startApplication {s : FlowGeneratorState} (hs : g.Flowing s)
    (hstarted : s.started = false) {time : ℕ} (hreach : canReach s time = true) :
    g.Flowing (g.startApplication { s with now := time }) ∧
      (Pending (g.startApplication { s with now := time }) ↔
        Schedulable time g.initializeActiveFlows) := by
  obtain ⟨-, hnow⟩ := now_le_of_canReach hreach
  obtain ⟨hflows, hevents, hpaused⟩ := hs.unstarted hstarted
  have hflag : s.pausedByLoadBalancer = false := hs.flag ▸ hpaused
  have hright : ∀ f ∈ g.initializeActiveFlows, g.FlowRight time f ∧ f.isActive = true := by
    intro f hf
    obtain ⟨flow, -, rfl⟩ := List.mem_map.mp hf
    refine ⟨⟨by simp, by simp, nofun, List.Pairwise.nil, Or.inl ⟨rfl, rfl⟩⟩, rfl⟩
  have hinitial : g.initializeActiveFlows.map FlowState.flow =
      g.fineGrainedFlows.filter fun flow => flow.sourceXpuId = g.localXpuId := by
    simp [initializeActiveFlows, Function.comp_def]
  unfold FlowGenerator.startApplication
  dsimp only
  by_cases hnone : g.initializeActiveFlows = []
  · rw [if_pos hnone, hnone]
    refine ⟨?_, iff_of_true ?_ (Or.inr (by simp))⟩
    · exact
        { now_lt := hnow
          flows := fun _ => by rw [← hinitial, hnone]
          unstarted := nofun
          flag := hflag.symm
          states := by simp
          complete := by simp
          idle := fun _ => hevents
          events_le := by simp [hevents] }
    · rintro - ⟨f, hf, -⟩
      cases hf
  · rw [if_neg hnone]
    apply Flowing.scheduleNextTransaction
    · exact
        { now_lt := hnow
          flows := fun _ => hinitial
          unstarted := nofun
          flag := hflag.symm
          states := fun f hf => (hright f hf).1
          complete := nofun
          idle := fun _ => hevents
          events_le := by simp [hevents] }
    · rfl
    · rfl
    · rfl
    · exact hevents

/-- The load balancer resumes the generator. -/
theorem Flowing.resumeGeneration {s : FlowGeneratorState} (hs : g.Flowing s)
    (hpaused : s.pausedByLoadBalancer = true) {time : ℕ} (hreach : canReach s time = true) :
    g.Flowing { s with now := time }.notifyToResume ∧
      (Pending { s with now := time }.notifyToResume ↔ Schedulable time s.flowStates) := by
  obtain ⟨hle, hnow⟩ := now_le_of_canReach hreach
  have hpaused' : s.generationPaused = true := hs.flag.trans hpaused
  have hevents := hs.idle (Or.inl hpaused')
  have hstarted : s.started = true := by
    rw [← Bool.not_eq_false]
    intro h
    exact absurd (hpaused'.symm.trans (hs.unstarted h).2.2) (by decide)
  have hflowing : g.Flowing
      { s with now := time, pausedByLoadBalancer := false, generationPaused := false } :=
    { now_lt := hnow
      flows := hs.flows
      unstarted := fun h => absurd (hstarted.symm.trans h) (by decide)
      flag := rfl
      states := fun f hf => (hs.states f hf).mono hle
      complete := hs.complete
      idle := fun _ => hevents
      events_le := hs.events_le }
  unfold FlowGeneratorState.notifyToResume FlowGeneratorState.resumeGeneration
  dsimp only
  rw [if_neg (by simp [hpaused])]
  by_cases hcomplete : s.transmissionComplete = true
  · rw [if_pos hcomplete]
    refine ⟨hflowing, iff_of_true ?_ (Or.inr ?_)⟩
    · rintro - ⟨f, hf, hactive⟩
      exact absurd (hactive.symm.trans (hs.complete hcomplete f hf)) (by decide)
    · intro f hf hactive
      exact absurd (hactive.symm.trans (hs.complete hcomplete f hf)) (by decide)
  · rw [if_neg hcomplete]
    exact hflowing.scheduleNextTransaction hstarted rfl (by simpa using hcomplete) hevents

/-- A round. -/
theorem Flowing.generateTransactions {s : FlowGeneratorState} (hs : g.Flowing s)
    {event : GenerationEvent} (hevent : event ∈ s.events) (hreach : canReach s event.time = true)
    (buffers : UInt32 → Bool) :
    let s' := g.generateTransactions buffers
      { s with now := event.time, events := s.events.filter fun e => e.uid ≠ event.uid }
    g.Flowing s' ∧ (Pending s' ↔
      roundBuffers event.time buffers s.psn s.flowStates = true ∨
        SchedulableAfter event.time s.flowStates) := by
  obtain ⟨hle, hnow⟩ := now_le_of_canReach hreach
  have hrunning : s.generationPaused = false := by
    rw [← Bool.not_eq_true]
    intro h
    rw [hs.idle (Or.inl h)] at hevent
    cases hevent
  have hlive : s.transmissionComplete = false := by
    rw [← Bool.not_eq_true]
    intro h
    rw [hs.idle (Or.inr h)] at hevent
    cases hevent
  have hstarted : s.started = true := by
    rw [← Bool.not_eq_false]
    intro h
    rw [(hs.unstarted h).2.1] at hevent
    cases hevent
  have hnone : (s.events.filter fun e => e.uid ≠ event.uid) = [] := by
    obtain ⟨e, he⟩ := List.length_eq_one_iff.mp
      (le_antisymm hs.events_le (List.length_pos_of_mem hevent))
    rw [he] at hevent ⊢
    rw [List.mem_singleton.mp hevent]
    simp
  dsimp only
  rw [hnone]
  generalize hfired : ({ s with now := event.time, events := [] } : FlowGeneratorState) = fired
  have hflows : fired.flowStates = s.flowStates := by rw [← hfired]
  have hfiredNow : fired.now = event.time := by rw [← hfired]
  have hfiredPsn : fired.psn = s.psn := by rw [← hfired]
  have hfiredRunning : fired.generationPaused = false := by rw [← hfired]; exact hrunning
  have hfiredLive : fired.transmissionComplete = false := by rw [← hfired]; exact hlive
  have hfiredStarted : fired.started = true := by rw [← hfired]; exact hstarted
  obtain ⟨hpaused', hflag', hevents', hstarted', hnow', hcomplete'⟩ :=
    roundLoop_spec (g := g) buffers (s := fired) fired.flowStates
      (by rw [← hfired]; exact hs.flag) (by rw [← hfired])
  rw [hfiredRunning, Bool.false_or, hfiredNow, hfiredPsn, hflows] at hpaused'
  rw [hflows] at hflag' hevents' hstarted' hnow' hcomplete'
  have hvisited := roundLoop_snd (g := g) buffers fired s.flowStates
  rw [hfiredNow] at hvisited
  unfold FlowGenerator.generateTransactions
  rw [if_neg (by simp [hfiredRunning, hfiredLive]), hflows]
  dsimp only
  rw [hvisited]
  generalize (g.roundLoop buffers fired s.flowStates).1 = after at *
  have hright : ∀ f ∈ s.flowStates.map (g.visit event.time), g.FlowRight event.time f := by
    intro visited hmem
    obtain ⟨f, hf, rfl⟩ := List.mem_map.mp hmem
    exact ((hs.states f hf).mono hle).visit hnow
  have hflowing : ∀ complete : Bool,
      (complete = true → ∀ f ∈ s.flowStates.map (g.visit event.time), f.isActive = false) →
      g.Flowing
        { after with
          flowStates := s.flowStates.map (g.visit event.time)
          transmissionComplete := complete } := by
    intro complete hall
    exact
      { now_lt := by rw [hnow', hfiredNow]; exact hnow
        flows := fun _ => by
          rw [← hs.flows hstarted, List.map_map]
          exact List.map_congr_left fun f _ => flow_visit f
        unstarted := fun h => by
          rw [hstarted', hfiredStarted] at h
          cases h
        flag := hflag'
        states := fun f hf => by
          rw [hnow', hfiredNow]
          exact hright f hf
        complete := hall
        idle := fun _ => hevents'
        events_le := by simp [hevents'] }
  have hafter : Schedulable event.time (s.flowStates.map (g.visit event.time)) ↔
      SchedulableAfter event.time s.flowStates := schedulable_visit_iff hnow
  by_cases hall : (s.flowStates.map (g.visit event.time)).all (fun f => !f.isActive) = true
  · rw [if_pos hall]
    simp only [List.all_eq_true, Bool.not_eq_true'] at hall
    refine ⟨hflowing true fun _ => hall, iff_of_true ?_ (Or.inr (hafter.mp (Or.inr ?_)))⟩
    · rintro - ⟨f, hf, hactive⟩
      exact absurd (hactive.symm.trans (hall f hf)) (by decide)
    · intro f hf hactive
      exact absurd (hactive.symm.trans (hall f hf)) (by decide)
  · rw [if_neg hall]
    have hstate := hflowing false fun h => absurd h Bool.false_ne_true
    have hsame : ({ after with flowStates := s.flowStates.map (g.visit event.time) } :
        FlowGeneratorState) =
        { after with
          flowStates := s.flowStates.map (g.visit event.time), transmissionComplete := false } := by
      rw [hfiredLive] at hcomplete'
      rw [← hcomplete']
    rw [hsame]
    by_cases hbuffers : roundBuffers event.time buffers s.psn s.flowStates = true
    · rw [hbuffers] at hpaused'
      unfold FlowGeneratorState.scheduleNextTransaction
      dsimp only
      rw [if_pos (Or.inl hpaused')]
      refine ⟨hstate, iff_of_true ?_ (Or.inl hbuffers)⟩
      intro hrun
      exact absurd (hpaused'.symm.trans hrun) (by decide)
    · have hbuffers' : roundBuffers event.time buffers s.psn s.flowStates = false := by
        simpa using hbuffers
      rw [hbuffers'] at hpaused'
      obtain ⟨hnext, hpending⟩ := hstate.scheduleNextTransaction
        (hstarted'.trans hfiredStarted) hpaused' rfl hevents'
      refine ⟨hnext, hpending.trans ?_⟩
      dsimp only
      rw [hnow', hfiredNow, hafter]
      simp [hbuffers']

/-- What a step does to the invariant and to the pending event. -/
theorem Flowing.step {s s' : FlowGeneratorState} (hs : g.Flowing s) {a : FlowAction}
    (hstep : g.flowStep s a = some s') :
    g.Flowing s' ∧ (Pending s' ↔ g.StepSchedulable s a) := by
  cases a with
  | startApplication time =>
      by_cases hcan : s.started = false ∧ canReach s time = true
      · rw [flowStep, if_pos hcan] at hstep
        cases hstep
        exact hs.startApplication hcan.1 hcan.2
      · rw [flowStep, if_neg hcan] at hstep
        cases hstep
  | generateTransactions uid buffers =>
      rw [flowStep] at hstep
      obtain ⟨event, hfind, hfire⟩ := Option.bind_eq_some_iff.mp hstep
      have hevent := List.mem_of_find?_eq_some hfind
      have huid : event.uid = uid := by simpa using List.find?_some hfind
      subst huid
      by_cases hcan : canReach s event.time = true
      · rw [if_pos hcan] at hfire
        cases hfire
        obtain ⟨hflowing, hpending⟩ := hs.generateTransactions hevent hcan buffers
        refine ⟨hflowing, hpending.trans ?_⟩
        have hone : s.events = [event] := by
          obtain ⟨e, he⟩ := List.length_eq_one_iff.mp
            (le_antisymm hs.events_le (List.length_pos_of_mem hevent))
          rw [he] at hevent ⊢
          rw [List.mem_singleton.mp hevent]
        simp [StepSchedulable, hone]
      · rw [if_neg hcan] at hfire
        cases hfire
  | resumeGeneration time =>
      by_cases hcan : s.pausedByLoadBalancer = true ∧ canReach s time = true
      · rw [flowStep, if_pos hcan] at hstep
        cases hstep
        exact hs.resumeGeneration hcan.1 hcan.2
      · rw [flowStep, if_neg hcan] at hstep
        cases hstep

/-- In every run, the promises are kept throughout if and only if a next round can be scheduled
at each step. -/
theorem throughout_rateLimited_iff (g : FlowGenerator) {actions : List FlowAction}
    {s' : FlowGeneratorState} (hrun : g.flowSystem.runActions {} actions = some s') :
    g.flowSystem.Throughout g.RateLimited {} actions ↔
      g.flowSystem.GuardedRun g.StepSchedulable {} actions := by
  apply TransitionSystem.throughout_iff_guardedRun (P := g.Flowing) ?_ ?_ (flowing_init g) ?_ hrun
  · intro s a t hs _ hguard hstep
    obtain ⟨ht, hpending⟩ := hs.step hstep
    exact ⟨ht, ht.rateLimited_iff.mpr (hpending.mpr hguard)⟩
  · intro s a t hs _ hguard hstep hrate
    obtain ⟨ht, hpending⟩ := hs.step hstep
    exact hguard (hpending.mp (ht.rateLimited_iff.mp hrate))
  · exact (flowing_init g).rateLimited_iff.mpr fun _ h => by simp at h

/-- One flow that starts 2^63 nanoseconds after the beginning. -/
def lateGenerator : FlowGenerator where
  fineGrainedFlows :=
    [{ sourceXpuId := 0, destXpuId := 1, vcId := 0, totalBytes := 256, startTimeNs := 2 ^ 63
       packetIntervalNs := 0, startTimeNs_lt := by decide, packetIntervalNs_lt := by decide }]
  transactionSize_pos := UniformGenerator.defaultSize_pos

/-- Its first round is never scheduled, although the flow is active. -/
theorem late_flow_not_scheduled :
    ∃ s, lateGenerator.flowSystem.runActions {} [.startApplication 0] = some s ∧
      s.generationPaused = false ∧ (∃ f ∈ s.flowStates, f.isActive = true) ∧ s.events = [] ∧
      ¬ lateGenerator.RateLimited s := by
  refine ⟨_, rfl, rfl, ⟨_, List.mem_cons_self, rfl⟩, rfl, fun h => ?_⟩
  exact h.pending rfl ⟨_, List.mem_cons_self, rfl⟩ rfl

/-! ## Flows that are near -/

/-- A flow that is right is not far ahead, if its first transaction is not. -/
theorem FlowRight.ahead_lt {f : FlowState} (hf : g.FlowRight now f) (hnow : now < 2 ^ 63)
    (hfirst : (f.flow.startTimeNs + f.flow.packetIntervalNs) % 2 ^ 64 < 2 ^ 63) {time : ℕ}
    (hle : now ≤ time) : f.nextGenerationTime - time < 2 ^ 63 := by
  rcases hf.last with ⟨-, hstart⟩ | ⟨-, -, hlast⟩
  · rw [FlowState.nextGenerationTime, hstart]
    omega
  · have hinterval := f.flow.packetIntervalNs_lt
    rw [nextGenerationTime_eq hnow hlast]
    omega

/-- If the first transaction of each flow is before the end of the time, a next round can be
scheduled at each step. -/
theorem Flowing.stepSchedulable {s s' : FlowGeneratorState} (hs : g.Flowing s)
    (hfirst : ∀ flow ∈ g.fineGrainedFlows, flow.sourceXpuId = g.localXpuId →
      (flow.startTimeNs + flow.packetIntervalNs) % 2 ^ 64 < 2 ^ 63)
    {a : FlowAction} (hstep : g.flowStep s a = some s') : g.StepSchedulable s a := by
  have hnear : ∀ f ∈ s.flowStates, ∀ time, s.now ≤ time →
      f.nextGenerationTime - time < 2 ^ 63 := by
    intro f hf time hle
    have hstarted : s.started = true := by
      rw [← Bool.not_eq_false]
      intro h
      rw [(hs.unstarted h).1] at hf
      cases hf
    have hflow : f.flow ∈ s.flowStates.map FlowState.flow := List.mem_map_of_mem hf
    rw [hs.flows hstarted, List.mem_filter, decide_eq_true_eq] at hflow
    exact (hs.states f hf).ahead_lt hs.now_lt (hfirst f.flow hflow.1 hflow.2) hle
  cases a with
  | startApplication time =>
      refine Or.inr fun f hf _ => ?_
      obtain ⟨flow, hflow, rfl⟩ := List.mem_map.mp hf
      rw [List.mem_filter, decide_eq_true_eq] at hflow
      have hlt := hfirst flow hflow.1 hflow.2
      simp only [FlowState.nextGenerationTime]
      omega
  | generateTransactions uid buffers =>
      rintro e he rfl
      rw [flowStep] at hstep
      obtain ⟨event, hfind, hfire⟩ := Option.bind_eq_some_iff.mp hstep
      have hone : e = event := by
        obtain ⟨only, honly⟩ := List.length_eq_one_iff.mp
          (le_antisymm hs.events_le (List.length_pos_of_mem he))
        have hevent := List.mem_of_find?_eq_some hfind
        rw [honly] at he hevent
        rw [List.mem_singleton.mp he, List.mem_singleton.mp hevent]
      by_cases hcan : canReach s event.time = true
      · refine Or.inr (Or.inr fun f hf _ _ _ => hnear f hf e.time ?_)
        rw [hone]
        exact (now_le_of_canReach hcan).1
      · rw [if_neg hcan] at hfire
        cases hfire
  | resumeGeneration time =>
      by_cases hcan : s.pausedByLoadBalancer = true ∧ canReach s time = true
      · exact Or.inr fun f hf _ => hnear f hf time (now_le_of_canReach hcan.2).1
      · rw [flowStep, if_neg hcan] at hstep
        cases hstep

/-- If the first transaction of each flow is before the end of the time, every run meets the
condition. -/
theorem Flowing.guardedRun {actions : List FlowAction} {s s' : FlowGeneratorState}
    (hs : g.Flowing s)
    (hfirst : ∀ flow ∈ g.fineGrainedFlows, flow.sourceXpuId = g.localXpuId →
      (flow.startTimeNs + flow.packetIntervalNs) % 2 ^ 64 < 2 ^ 63)
    (hrun : g.flowSystem.runActions s actions = some s') :
    g.flowSystem.GuardedRun g.StepSchedulable s actions := by
  induction actions generalizing s with
  | nil => trivial
  | cons a actions ih =>
      obtain ⟨t, hstep, hrest⟩ := TransitionSystem.runActions_cons_eq_some.mp hrun
      refine ⟨hs.stepSchedulable hfirst hstep, fun t' hstep' => ?_⟩
      cases hstep.symm.trans hstep'
      exact ih (hs.step hstep).1 hrest

/-- If the first transaction of each flow is before the end of the time, the promises are kept
in every run. -/
theorem rateLimited_of_near (g : FlowGenerator)
    (hfirst : ∀ flow ∈ g.fineGrainedFlows, flow.sourceXpuId = g.localXpuId →
      (flow.startTimeNs + flow.packetIntervalNs) % 2 ^ 64 < 2 ^ 63)
    {s : FlowGeneratorState} (h : g.flowSystem.Reachable s) : g.RateLimited s := by
  have hboth : g.Flowing s ∧ Pending s := by
    apply h.invariant
    · rintro s rfl
      exact ⟨flowing_init g, fun _ h => by simp at h⟩
    · rintro s a s' ⟨hs, -⟩ - hstep
      obtain ⟨hs', hpending⟩ := hs.step hstep
      exact ⟨hs', hpending.mpr (hs.stepSchedulable hfirst hstep)⟩
  exact hboth.1.rateLimited_iff.mpr hboth.2

/-- One flow of one transaction, from the beginning on. -/
def nearGenerator : FlowGenerator where
  fineGrainedFlows :=
    [{ sourceXpuId := 0, destXpuId := 1, vcId := 0, totalBytes := 256, startTimeNs := 0
       packetIntervalNs := 10, startTimeNs_lt := by decide, packetIntervalNs_lt := by decide }]
  transactionSize_pos := UniformGenerator.defaultSize_pos

/-- Its transaction is buffered, the generator is resumed, and the next round completes the
transmission. -/
theorem near_flow_rateLimited :
    nearGenerator.flowSystem.Throughout nearGenerator.RateLimited {}
      [.startApplication 0, .generateTransactions 0 fun _ => true, .resumeGeneration 20,
        .generateTransactions 1 fun _ => true] := by
  obtain ⟨s', hrun⟩ : ∃ s', nearGenerator.flowSystem.runActions {}
      [.startApplication 0, .generateTransactions 0 fun _ => true, .resumeGeneration 20,
        .generateTransactions 1 fun _ => true] = some s' := ⟨_, rfl⟩
  apply (throughout_rateLimited_iff nearGenerator hrun).mpr
  exact (flowing_init nearGenerator).guardedRun (by decide) hrun

end FlowGenerator

/-! ## The calls of the load balancer -/

namespace LoadBalancer

/-- An operation calls the generator at most once, and only if it turns the flag; the generator
is told what the flag says. -/
def CallsGenerator (paused : Bool) (lb lb' : LoadBalancer) : Prop :=
  (lb'.trafficGenerationPaused = lb.trafficGenerationPaused ∧
      lb'.trafficGenerator = lb.trafficGenerator) ∨
    (lb.trafficGenerationPaused = !paused ∧ lb'.trafficGenerationPaused = paused ∧
      lb'.trafficGenerator = lb.trafficGenerator.map fun _ => ⟨paused⟩)

variable {lb : LoadBalancer}

theorem callsGenerator_notify (lb : LoadBalancer) (paused : Bool) :
    CallsGenerator paused lb (lb.notifyTrafficGenerator paused) := by
  unfold notifyTrafficGenerator
  by_cases h : lb.trafficGenerationPaused = paused
  · rw [if_pos h]
    exact Or.inl ⟨rfl, rfl⟩
  · rw [if_neg h]
    exact Or.inr ⟨by cases paused <;> simpa using h, rfl, rfl⟩

/-- A distribution can only pause the generator. -/
theorem callsGenerator_distributeTransaction (lb : LoadBalancer) (now : ℕ)
    (b : BufferedTransaction) : CallsGenerator true lb (lb.distributeTransaction now b) := by
  unfold distributeTransaction
  dsimp only
  split_ifs
  · exact Or.inl ⟨rfl, rfl⟩
  · unfold deliver
    cases ({ lb with distributed := lb.distributed ++ [b] }.advanceRoundRobin).sueClients.lookup
      (lb.select b) <;> exact Or.inl ⟨rfl, rfl⟩
  · unfold buffer
    dsimp only
    split_ifs
    · exact callsGenerator_notify _ true
    · exact Or.inl ⟨rfl, rfl⟩

/-- A removal from the queues of a client can only resume the generator, once. -/
theorem callsGenerator_popTransactionsFromQueue (lb : LoadBalancer) (now : ℕ) (sueId : UInt32)
    (key : Destination) (count : ℕ) :
    CallsGenerator false lb (popTransactionsFromQueue now sueId key count lb) := by
  refine popTransactionsFromQueue_induction (P := CallsGenerator false lb) ?_ count
    (Or.inl ⟨rfl, rfl⟩)
  intro mid popped hmid hpop
  obtain ⟨c, c', -, -, rfl⟩ := popFront_eq_some.mp hpop
  generalize hpopped : { mid with sueClients := mid.sueClients.insert sueId c' } = popped
  have hflag : popped.trafficGenerationPaused = mid.trafficGenerationPaused := by rw [← hpopped]
  have hgenerator : popped.trafficGenerator = mid.trafficGenerator := by rw [← hpopped]
  have hturn : CallsGenerator false popped (popped.notifyDestQueueSpaceAvailable now) := by
    obtain ⟨hloopFlag, hloopGenerator⟩ := generator_processLoop now popped.bufferQueue popped
    unfold notifyDestQueueSpaceAvailable processBufferedTransactions
    dsimp only
    split_ifs
    · exact Or.inl ⟨rfl, rfl⟩
    · have hnotify := callsGenerator_notify (processLoop now popped.bufferQueue popped) false
      unfold CallsGenerator at hnotify ⊢
      rwa [hloopFlag, hloopGenerator] at hnotify
    · exact Or.inl ⟨hloopFlag, hloopGenerator⟩
  rcases hturn with ⟨h₁, h₂⟩ | ⟨h₀, h₁, h₂⟩
  · unfold CallsGenerator at hmid ⊢
    rwa [h₁, h₂, hflag, hgenerator]
  · rcases hmid with ⟨hsame₁, hsame₂⟩ | ⟨-, hdone, -⟩
    · refine Or.inr ⟨?_, h₁, ?_⟩
      · rw [← h₀, hflag, hsame₁]
      · rw [h₂, hgenerator, hsame₂]
    · rw [hflag, hdone] at h₀
      exact absurd h₀ (by decide)

end LoadBalancer

end UeSim
