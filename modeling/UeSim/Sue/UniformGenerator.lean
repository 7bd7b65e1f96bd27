import Mathlib.Algebra.Order.Floor.Div
import UeSim.Support.Transition

/-!
# The uniform traffic generator

`TrafficGenerator` hands a transaction to the load balancer each time its event fires, until it
has sent the configured number of bytes.  While it is paused, the event is only scheduled
again.  The number of bytes is formed from a number of megabytes in 32 bits.

The destination is drawn from a range and is moved on while it is the local XPU.  The step is
taken modulo the number of XPUs up to the upper end of the range, so it can leave the range at
its lower end.
-/

namespace UeSim

/-- The attributes of a `TrafficGenerator`.  Numbers can be drawn from both ranges. -/
structure UniformGenerator where
  transactionSize : UInt32 := 256
  minXpuId : UInt32 := 0
  maxXpuId : UInt32 := 3
  minVcId : UInt8 := 0
  maxVcId : UInt8 := 3
  localXpuId : UInt32 := 0
  /-- `TotalBytesToSend`, in megabytes. -/
  totalBytesToSend : UInt32 := 1
  transactionSize_pos : 0 < transactionSize.toNat
  xpuRange : minXpuId.toNat ≤ maxXpuId.toNat
  vcRange : minVcId.toNat ≤ maxVcId.toNat

/-- A transaction that has been handed to the load balancer. -/
structure HandedTransaction where
  psn : UInt32
  destXpuId : UInt32
  vcId : UInt8
  size : UInt32
  deriving DecidableEq

/-- The state of a `TrafficGenerator`, with the transactions that it has handed over. -/
structure UniformState where
  totalBytesToSend : UInt32
  bytesSent : ℕ := 0
  psn : UInt32 := 0
  generationPaused : Bool := false
  /-- Whether `m_generateEvent` is pending. -/
  generateEvent : Bool := false
  /-- Whether the logging has been stopped at the end of the transmission. -/
  loggingStopped : Bool := false
  handed : List HandedTransaction := []
  deriving DecidableEq

/-- What happens to a generator: its event, with what is drawn and with whether the load
balancer pauses it meanwhile, and the calls of the load balancer. -/
inductive UniformAction where
  | generate (destXpuId : UInt32) (vcId : UInt8) (paused : Bool)
  | pauseGeneration
  | resumeGeneration
  deriving DecidableEq

namespace UniformGenerator

/-! ## The code -/

/-- A round of the loop that picks the destination; `none` if it divides by zero. -/
def nextDestination (g : UniformGenerator) (destXpuId : UInt32) : Option UInt32 :=
  if g.maxXpuId + 1 = 0 then none else some ((destXpuId + 1) % (g.maxXpuId + 1))

/-- The loop that picks the destination, for a number of rounds. -/
def pickDestination (g : UniformGenerator) : ℕ → UInt32 → Option UInt32
  | 0, _ => none
  | rounds + 1, destXpuId =>
    if destXpuId = g.localXpuId then (g.nextDestination destXpuId).bind (g.pickDestination rounds)
    else some destXpuId

/-- `StartApplication`. -/
def startApplication (g : UniformGenerator) : UniformState where
  totalBytesToSend := g.totalBytesToSend * 1024 * 1024
  generateEvent := true

/-- `CheckTransmissionComplete`. -/
def checkTransmissionComplete (s : UniformState) : Bool :=
  s.bytesSent ≥ s.totalBytesToSend.toNat

/-- `ScheduleNextTransaction`. -/
def scheduleNextTransaction (s : UniformState) : UniformState :=
  { s with generateEvent := true }

/-- The transaction is handed over, and the load balancer may pause the generator. -/
def distribute (g : UniformGenerator) (s : UniformState) (destXpuId : UInt32) (vcId : UInt8)
    (paused : Bool) : UniformState :=
  { s with
    psn := s.psn + 1
    generationPaused := s.generationPaused || paused
    bytesSent := (s.bytesSent + g.transactionSize.toNat) % 2 ^ 64
    handed := s.handed ++ [⟨s.psn, destXpuId, vcId, g.transactionSize⟩] }

/-- `GenerateTransaction`, when its event has fired; `none` if the loop that picks the
destination does not end. -/
def generateTransaction (g : UniformGenerator) (s : UniformState) (drawn : UInt32) (vcId : UInt8)
    (paused : Bool) : Option UniformState :=
  if s.generationPaused then some (scheduleNextTransaction s)
  else if checkTransmissionComplete s then some { s with loggingStopped := true }
  else (g.pickDestination 2 drawn).map fun destXpuId =>
    scheduleNextTransaction (g.distribute s destXpuId vcId paused)

/-- A step: the event fires only if it is pending, and what is drawn is in its range. -/
def uniformStep (g : UniformGenerator) (s : UniformState) : UniformAction → Option UniformState
  | .generate drawn vcId paused =>
    if s.generateEvent = true ∧ g.minXpuId ≤ drawn ∧ drawn ≤ g.maxXpuId ∧ g.minVcId ≤ vcId ∧
        vcId ≤ g.maxVcId then
      g.generateTransaction { s with generateEvent := false } drawn vcId paused
    else none
  | .pauseGeneration => some { s with generationPaused := true }
  | .resumeGeneration => some { s with generationPaused := false }

/-- The runs of a generator. -/
def uniformSystem (g : UniformGenerator) : TransitionSystem UniformState UniformAction where
  init s := s = g.startApplication
  step := g.uniformStep

/-! ## What was configured -/

/-- The number of transactions for the configured number of bytes. -/
def transactionCount (g : UniformGenerator) : ℕ :=
  g.totalBytesToSend.toNat * 2 ^ 20 ⌈/⌉ g.transactionSize.toNat

/-- A destination that may be picked. -/
def InRange (g : UniformGenerator) (destXpuId : UInt32) : Prop :=
  g.minXpuId ≤ destXpuId ∧ destXpuId ≤ g.maxXpuId ∧ destXpuId ≠ g.localXpuId

/-- What is configured, in a state of a run: never more transactions than configured, each to
a destination of the range if there is one; an event that can fire, with one more transaction
if it is not paused, until all have been handed over, and none after. -/
structure SendsConfigured (g : UniformGenerator) (s : UniformState) : Prop where
  handed_le : s.handed.length ≤ g.transactionCount
  destinations : (∃ d, g.InRange d) → ∀ h ∈ s.handed, g.InRange h.destXpuId
  stopped : s.loggingStopped = true →
    s.handed.length = g.transactionCount ∧ s.generateEvent = false
  pending : s.loggingStopped = false → s.generateEvent = true
  terminates : ∀ drawn vcId paused, s.generateEvent = true →
    g.minXpuId ≤ drawn → drawn ≤ g.maxXpuId → g.minVcId ≤ vcId → vcId ≤ g.maxVcId →
    ∃ s', g.uniformStep s (.generate drawn vcId paused) = some s' ∧
      (s.generationPaused = false →
        s'.handed.length = s.handed.length + 1 ∨ s'.loggingStopped = true)

/-- The condition on the range of destinations. -/
def RangeFits (g : UniformGenerator) : Prop :=
  ¬ (g.maxXpuId = 0xFFFFFFFF ∧ g.minXpuId ≤ g.localXpuId) ∧
    ¬ (g.localXpuId = g.maxXpuId ∧ 0 < g.minXpuId ∧ g.minXpuId < g.maxXpuId) ∧
    ¬ (g.localXpuId = 0 ∧ g.maxXpuId = 0)

/-- The condition on the attributes: nothing is to be sent, or the bytes fit in 32 bits and the
range of destinations is one for which the loop works. -/
def GenerationFits (g : UniformGenerator) : Prop :=
  g.totalBytesToSend = 0 ∨ (g.totalBytesToSend < 4096 ∧ g.RangeFits)

/-! ## The destination -/

variable {g : UniformGenerator}

/-- The round after the local XPU. -/
theorem nextDestination_local (hmax : g.maxXpuId ≠ 0xFFFFFFFF)
    (hlocal : g.localXpuId ≤ g.maxXpuId) :
    g.nextDestination g.localXpuId =
      some (if g.localXpuId = g.maxXpuId then 0 else g.localXpuId + 1) := by
  have hmax' : g.maxXpuId.toNat ≠ 0xFFFFFFFF := fun h => hmax (UInt32.toNat_inj.mp h)
  have hlt := g.maxXpuId.toNat_lt
  have hlocal' : g.localXpuId.toNat ≤ g.maxXpuId.toNat := hlocal
  have hsucc : (g.maxXpuId + 1).toNat = g.maxXpuId.toNat + 1 := by
    rw [UInt32.toNat_add]
    exact Nat.mod_eq_of_lt (by simp; omega)
  have hlocalSucc : (g.localXpuId + 1).toNat = g.localXpuId.toNat + 1 := by
    rw [UInt32.toNat_add]
    exact Nat.mod_eq_of_lt (by simp; omega)
  have hne : g.maxXpuId + 1 ≠ 0 := by
    intro h
    rw [h] at hsucc
    simp at hsucc
  rw [nextDestination, if_neg hne, Option.some.injEq, ← UInt32.toNat_inj, UInt32.toNat_mod, hsucc,
    hlocalSucc]
  by_cases heq : g.localXpuId = g.maxXpuId
  · rw [if_pos heq, heq, Nat.mod_self]
    rfl
  · have hless : g.localXpuId.toNat ≠ g.maxXpuId.toNat := fun h => heq (UInt32.toNat_inj.mp h)
    rw [if_neg heq, hlocalSucc, Nat.mod_eq_of_lt (by omega)]

/-- A loop that comes back to the local XPU does not end. -/
theorem pickDestination_local_eq_none (hnext : g.nextDestination g.localXpuId =
    some g.localXpuId) (rounds : ℕ) : g.pickDestination rounds g.localXpuId = none := by
  induction rounds with
  | zero => rfl
  | succ rounds ih => rw [pickDestination, if_pos rfl, hnext, Option.bind_some, ih]

/-- Two rounds of the loop are enough: if it ends at all, it ends with them. -/
theorem pickDestination_two {rounds : ℕ} {drawn destXpuId : UInt32}
    (h : g.pickDestination rounds drawn = some destXpuId) :
    g.pickDestination 2 drawn = some destXpuId := by
  cases rounds with
  | zero => cases h
  | succ rounds =>
      rw [pickDestination] at h ⊢
      by_cases hdrawn : drawn = g.localXpuId
      · rw [if_pos hdrawn] at h ⊢
        obtain ⟨next, hnext, hpick⟩ := Option.bind_eq_some_iff.mp h
        have hother : next ≠ g.localXpuId := by
          rintro rfl
          rw [hdrawn] at hnext
          rw [pickDestination_local_eq_none hnext] at hpick
          cases hpick
        cases rounds with
        | zero => cases hpick
        | succ rounds =>
            rw [pickDestination, if_neg hother] at hpick
            rw [hnext, Option.bind_some, pickDestination, if_neg hother, hpick]
      · rwa [if_neg hdrawn] at h ⊢

/-- If the range fits, the loop ends, in the range if it has another XPU. -/
theorem RangeFits.pickDestination (hfit : g.RangeFits) {drawn : UInt32}
    (hmin : g.minXpuId ≤ drawn) (hmax : drawn ≤ g.maxXpuId) :
    ∃ d, g.pickDestination 2 drawn = some d ∧ ((∃ e, g.InRange e) → g.InRange d) := by
  obtain ⟨hwrap, hlower, hzero⟩ := hfit
  by_cases hdrawn : drawn = g.localXpuId
  · subst hdrawn
    have hmaxId : g.maxXpuId ≠ 0xFFFFFFFF := fun h => hwrap ⟨h, hmin⟩
    have hnext := nextDestination_local hmaxId hmax
    by_cases hlast : g.localXpuId = g.maxXpuId
    · rw [if_pos hlast] at hnext
      have hother : (0 : UInt32) ≠ g.localXpuId := fun h => hzero ⟨h.symm, by rw [← hlast, h]⟩
      refine ⟨0, ?_, ?_⟩
      · rw [UniformGenerator.pickDestination, if_pos rfl, hnext, Option.bind_some,
          UniformGenerator.pickDestination, if_neg hother]
      · rintro ⟨e, hlow, hhigh, hne⟩
        refine ⟨?_, UInt32.zero_le, hother⟩
        by_contra hpos
        have hbelow : e.toNat < g.maxXpuId.toNat := by
          have hne' : e.toNat ≠ g.maxXpuId.toNat := by
            rw [← hlast]
            exact fun h => hne (UInt32.toNat_inj.mp h)
          have hle : e.toNat ≤ g.maxXpuId.toNat := hhigh
          omega
        exact hlower ⟨hlast, UInt32.not_le.mp hpos, Nat.lt_of_le_of_lt hlow hbelow⟩
    · rw [if_neg hlast] at hnext
      have hlt : g.localXpuId.toNat < g.maxXpuId.toNat :=
        Nat.lt_of_le_of_ne hmax fun h => hlast (UInt32.toNat_inj.mp h)
      have hsucc : (g.localXpuId + 1).toNat = g.localXpuId.toNat + 1 := by
        have hbound := g.maxXpuId.toNat_lt
        rw [UInt32.toNat_add]
        exact Nat.mod_eq_of_lt (by simp; omega)
      have hother : g.localXpuId + 1 ≠ g.localXpuId := by
        intro h
        rw [h] at hsucc
        omega
      refine ⟨g.localXpuId + 1, ?_, fun _ => ⟨?_, ?_, hother⟩⟩
      · rw [UniformGenerator.pickDestination, if_pos rfl, hnext, Option.bind_some,
          UniformGenerator.pickDestination, if_neg hother]
      · rw [UInt32.le_iff_toNat_le, hsucc]
        have hle : g.minXpuId.toNat ≤ g.localXpuId.toNat := hmin
        omega
      · rw [UInt32.le_iff_toNat_le, hsucc]
        exact hlt
  · refine ⟨drawn, ?_, fun _ => ⟨hmin, hmax, hdrawn⟩⟩
    rw [UniformGenerator.pickDestination, if_neg hdrawn]

/-! ## The number of transactions -/

/-- The number of bytes as the code forms it. -/
def wrappedBytes (g : UniformGenerator) : ℕ := (g.totalBytesToSend * 1024 * 1024).toNat

/-- The number of transactions as the code counts them. -/
def wrappedCount (g : UniformGenerator) : ℕ := g.wrappedBytes ⌈/⌉ g.transactionSize.toNat

theorem wrappedBytes_eq (g : UniformGenerator) :
    g.wrappedBytes = g.totalBytesToSend.toNat * 2 ^ 20 % 2 ^ 32 := by
  rw [wrappedBytes, UInt32.toNat_mul, UInt32.toNat_mul]
  simp only [UInt32.reduceToNat]
  omega

/-- Below 4096 megabytes, the bytes do not wrap. -/
theorem wrappedCount_eq (h : g.totalBytesToSend < 4096) : g.wrappedCount = g.transactionCount := by
  have hlt : g.totalBytesToSend.toNat < 4096 := h
  rw [wrappedCount, wrappedBytes_eq, transactionCount, Nat.mod_eq_of_lt (by omega)]

/-- From 4096 megabytes on, transactions are missing. -/
theorem wrappedCount_lt (h : ¬ g.totalBytesToSend < 4096) :
    g.wrappedCount < g.transactionCount := by
  have hge : 4096 ≤ g.totalBytesToSend.toNat := UInt32.not_lt.mp h
  have hsize := g.transactionSize.toNat_lt
  have hpos := g.transactionSize_pos
  have hbytes := g.wrappedBytes_eq
  have hceil : g.transactionSize.toNat * g.wrappedCount ≤
      g.wrappedBytes + g.transactionSize.toNat - 1 := by
    rw [wrappedCount, Nat.ceilDiv_eq_add_pred_div]
    exact Nat.mul_div_le _ _
  by_contra hnot
  have hcover := (ceilDiv_le_iff_le_mul hpos).mp (Nat.le_of_not_lt hnot)
  omega

/-! ## Every run -/

/-- The transmission is complete when the counted transactions have been handed over. -/
structure Counted (g : UniformGenerator) (s : UniformState) : Prop where
  totalBytesToSend : s.totalBytesToSend.toNat = g.wrappedBytes
  bytesSent : s.bytesSent = s.handed.length * g.transactionSize.toNat
  handed_le : s.handed.length ≤ g.wrappedCount
  stopped : s.loggingStopped = true →
    s.handed.length = g.wrappedCount ∧ s.generateEvent = false
  pending : s.loggingStopped = false → s.generateEvent = true

/-- Completion is read off the number of transactions. -/
theorem Counted.complete_iff {s : UniformState} (hs : g.Counted s) :
    checkTransmissionComplete s = true ↔ g.wrappedCount ≤ s.handed.length := by
  rw [checkTransmissionComplete, decide_eq_true_eq, hs.totalBytesToSend, hs.bytesSent, wrappedCount,
    ceilDiv_le_iff_le_mul g.transactionSize_pos, Nat.mul_comm]

theorem counted_startApplication (g : UniformGenerator) : g.Counted g.startApplication := by
  constructor
  · rfl
  · simp [startApplication]
  · simp [startApplication]
  · intro h
    cases h
  · intro _
    rfl

/-- What a firing of the event does: it is only scheduled again, or it stops, or it hands one
transaction over. -/
theorem generate_cases {s s' : UniformState} (hs : g.Counted s) {drawn : UInt32} {vcId : UInt8}
    {paused : Bool} (hstep : g.uniformStep s (.generate drawn vcId paused) = some s') :
    s.loggingStopped = false ∧
      ((s.generationPaused = true ∧ s' = s) ∨
      (s.generationPaused = false ∧ s.handed.length = g.wrappedCount ∧
        s' = { s with generateEvent := false, loggingStopped := true }) ∨
      (s.generationPaused = false ∧ s.handed.length < g.wrappedCount ∧
        ∃ d, g.pickDestination 2 drawn = some d ∧
          s' = scheduleNextTransaction (g.distribute s d vcId paused))) := by
  unfold uniformStep at hstep
  by_cases hdrawn : s.generateEvent = true ∧ g.minXpuId ≤ drawn ∧ drawn ≤ g.maxXpuId ∧
      g.minVcId ≤ vcId ∧ vcId ≤ g.maxVcId
  · dsimp only at hstep
    rw [if_pos hdrawn] at hstep
    have hlive : s.loggingStopped = false := by
      rw [← Bool.not_eq_true]
      intro hstopped
      rw [(hs.stopped hstopped).2] at hdrawn
      exact absurd hdrawn.1 (by decide)
    have hsame : { s with generateEvent := true } = s := by rw [← hdrawn.1]
    refine ⟨hlive, ?_⟩
    unfold generateTransaction at hstep
    dsimp only at hstep
    by_cases hpaused : s.generationPaused = true
    · rw [if_pos hpaused] at hstep
      cases hstep
      exact Or.inl ⟨hpaused, hsame⟩
    · rw [if_neg hpaused] at hstep
      have hrunning : s.generationPaused = false := Bool.not_eq_true _ ▸ hpaused
      have hcomplete : checkTransmissionComplete { s with generateEvent := false } =
          checkTransmissionComplete s := rfl
      rw [hcomplete] at hstep
      by_cases hdone : checkTransmissionComplete s = true
      · rw [if_pos hdone] at hstep
        cases hstep
        have hall := hs.complete_iff.mp hdone
        exact Or.inr (Or.inl ⟨hrunning, le_antisymm hs.handed_le hall, rfl⟩)
      · rw [if_neg hdone] at hstep
        obtain ⟨d, hpick, rfl⟩ := Option.map_eq_some_iff.mp hstep
        have hmore : s.handed.length < g.wrappedCount := by
          by_contra hnot
          exact hdone (hs.complete_iff.mpr (Nat.le_of_not_lt hnot))
        exact Or.inr (Or.inr ⟨hrunning, hmore, d, hpick, rfl⟩)
  · dsimp only at hstep
    rw [if_neg hdrawn] at hstep
    cases hstep

/-- One more transaction is counted, without a wrap. -/
theorem Counted.distribute {s : UniformState} (hs : g.Counted s) (hlive : s.loggingStopped = false)
    (hmore : s.handed.length < g.wrappedCount) (d : UInt32) (vcId : UInt8) (paused : Bool) :
    g.Counted (scheduleNextTransaction (g.distribute s d vcId paused)) := by
  have hless : s.handed.length * g.transactionSize.toNat < g.wrappedBytes := by
    rw [Nat.mul_comm]
    exact Nat.lt_of_not_le fun h =>
      absurd ((ceilDiv_le_iff_le_mul g.transactionSize_pos).mpr h) (Nat.not_le_of_lt hmore)
  have hbytes : g.wrappedBytes < 2 ^ 32 := (g.totalBytesToSend * 1024 * 1024).toNat_lt
  have hsize := g.transactionSize.toNat_lt
  constructor
  · exact hs.totalBytesToSend
  · simp only [scheduleNextTransaction, UniformGenerator.distribute, hs.bytesSent,
      List.length_append, List.length_singleton]
    rw [Nat.mod_eq_of_lt (by omega), Nat.succ_mul]
  · simp only [scheduleNextTransaction, UniformGenerator.distribute, List.length_append,
      List.length_singleton]
    omega
  · intro hstopped
    rw [show (scheduleNextTransaction (g.distribute s d vcId paused)).loggingStopped =
      s.loggingStopped from rfl, hlive] at hstopped
    cases hstopped
  · intro _
    rfl

/-- The count is kept. -/
theorem Counted.step {s s' : UniformState} (hs : g.Counted s) {a : UniformAction}
    (hstep : g.uniformStep s a = some s') : g.Counted s' := by
  cases a with
  | generate drawn vcId paused =>
      obtain ⟨hlive, ⟨-, rfl⟩ | ⟨-, hall, rfl⟩ | ⟨-, hmore, d, -, rfl⟩⟩ := generate_cases hs hstep
      · exact hs
      · exact ⟨hs.totalBytesToSend, hs.bytesSent, hs.handed_le, fun _ => ⟨hall, rfl⟩, nofun⟩
      · exact hs.distribute hlive hmore d vcId paused
  | pauseGeneration =>
      cases hstep
      exact ⟨hs.totalBytesToSend, hs.bytesSent, hs.handed_le, hs.stopped, hs.pending⟩
  | resumeGeneration =>
      cases hstep
      exact ⟨hs.totalBytesToSend, hs.bytesSent, hs.handed_le, hs.stopped, hs.pending⟩

/-- The count is kept in every run. -/
theorem counted_of_reachable {s : UniformState} (h : g.uniformSystem.Reachable s) :
    g.Counted s := by
  apply h.invariant
  · rintro s rfl
    exact counted_startApplication g
  · intro s a s' hs _ hstep
    exact hs.step hstep

/-! ## When the configuration is met -/

/-- The event can fire, and goes on with the transmission, if the loop ends wherever it is
needed. -/
theorem generate_enabled {s : UniformState} (hs : g.Counted s) {drawn : UInt32} {vcId : UInt8}
    (paused : Bool) (hevent : s.generateEvent = true) (hmin : g.minXpuId ≤ drawn)
    (hmax : drawn ≤ g.maxXpuId) (hvcMin : g.minVcId ≤ vcId) (hvcMax : vcId ≤ g.maxVcId)
    (hpick : s.handed.length < g.wrappedCount → ∃ d, g.pickDestination 2 drawn = some d) :
    ∃ s', g.uniformStep s (.generate drawn vcId paused) = some s' ∧
      (s.generationPaused = false →
        s'.handed.length = s.handed.length + 1 ∨ s'.loggingStopped = true) := by
  rw [uniformStep, if_pos ⟨hevent, hmin, hmax, hvcMin, hvcMax⟩, generateTransaction]
  dsimp only
  by_cases hpaused : s.generationPaused = true
  · rw [if_pos hpaused]
    exact ⟨_, rfl, fun h => absurd (hpaused.symm.trans h) (by decide)⟩
  · rw [if_neg hpaused]
    have hcomplete : checkTransmissionComplete { s with generateEvent := false } =
        checkTransmissionComplete s := rfl
    rw [hcomplete]
    by_cases hdone : checkTransmissionComplete s = true
    · rw [if_pos hdone]
      exact ⟨_, rfl, fun _ => Or.inr rfl⟩
    · rw [if_neg hdone]
      have hmore : s.handed.length < g.wrappedCount := by
        by_contra hnot
        exact hdone (hs.complete_iff.mpr (Nat.le_of_not_lt hnot))
      obtain ⟨d, hd⟩ := hpick hmore
      refine ⟨_, by rw [hd]; rfl, fun _ => Or.inl ?_⟩
      simp [scheduleNextTransaction, UniformGenerator.distribute]

/-- If the range fits, all destinations are in it. -/
theorem RangeFits.destinations (hfit : g.RangeFits) (hother : ∃ d, g.InRange d) {s : UniformState}
    (h : g.uniformSystem.Reachable s) : ∀ t ∈ s.handed, g.InRange t.destXpuId := by
  suffices hboth : g.Counted s ∧ ∀ t ∈ s.handed, g.InRange t.destXpuId from hboth.2
  apply h.invariant
  · rintro s rfl
    exact ⟨counted_startApplication g, by simp [startApplication]⟩
  · rintro s a s' ⟨hs, hdest⟩ - hstep
    refine ⟨hs.step hstep, ?_⟩
    cases a with
    | generate drawn vcId paused =>
        have hdrawn : g.minXpuId ≤ drawn ∧ drawn ≤ g.maxXpuId := by
          by_contra hnot
          rw [show g.uniformSystem.step s (.generate drawn vcId paused) = none from
            if_neg fun h => hnot ⟨h.2.1, h.2.2.1⟩] at hstep
          cases hstep
        obtain ⟨-, ⟨-, rfl⟩ | ⟨-, -, rfl⟩ | ⟨-, -, d, hpick, rfl⟩⟩ := generate_cases hs hstep
        · exact hdest
        · exact hdest
        · intro t ht
          rcases List.mem_append.mp ht with ht | ht
          · exact hdest t ht
          · obtain ⟨d', hpick', hd'⟩ := hfit.pickDestination hdrawn.1 hdrawn.2
            rw [hpick] at hpick'
            cases hpick'
            rw [List.mem_singleton.mp ht]
            exact hd' hother
    | pauseGeneration =>
        cases hstep
        exact hdest
    | resumeGeneration =>
        cases hstep
        exact hdest

/-- Below 4096 megabytes, with a range that fits or nothing to send, what was configured is
sent. -/
theorem GenerationFits.sendsConfigured (hfit : g.GenerationFits) {s : UniformState}
    (h : g.uniformSystem.Reachable s) : g.SendsConfigured s := by
  have hs := counted_of_reachable h
  have hbelow : g.totalBytesToSend < 4096 := by
    rcases hfit with hzero | hfit
    · rw [hzero]
      decide
    · exact hfit.1
  have hcount := wrappedCount_eq hbelow
  have hnone : g.totalBytesToSend = 0 → g.transactionCount = 0 := by
    intro hzero
    simp [transactionCount, hzero]
  constructor
  · rw [← hcount]
    exact hs.handed_le
  · intro hother t ht
    rcases hfit with hzero | hfit
    · have hle := hs.handed_le
      have hlength := List.length_pos_of_mem ht
      rw [hcount, hnone hzero] at hle
      omega
    · exact hfit.2.destinations hother h t ht
  · rw [← hcount]
    exact hs.stopped
  · exact hs.pending
  · intro drawn vcId paused hevent hmin hmax hvcMin hvcMax
    apply generate_enabled hs paused hevent hmin hmax hvcMin hvcMax
    intro hmore
    rcases hfit with hzero | hfit
    · rw [hcount, hnone hzero] at hmore
      omega
    · obtain ⟨d, hd, -⟩ := hfit.2.pickDestination hmin hmax
      exact ⟨d, hd⟩

/-- If the loop always ends, some run stops. -/
theorem exists_stopped (hall : ∀ s, g.uniformSystem.Reachable s → g.SendsConfigured s) :
    ∃ s, g.uniformSystem.Reachable s ∧ s.loggingStopped = true := by
  suffices h : ∀ k s, g.uniformSystem.Reachable s → s.generationPaused = false →
      g.wrappedCount - s.handed.length = k →
      ∃ s', g.uniformSystem.Reachable s' ∧ s'.loggingStopped = true from
    h _ g.startApplication (.init rfl) rfl rfl
  intro k
  induction k with
  | zero =>
      intro s hreach hrunning hk
      have hs := counted_of_reachable hreach
      by_cases hstopped : s.loggingStopped = true
      · exact ⟨s, hreach, hstopped⟩
      · have hevent := hs.pending (Bool.not_eq_true _ ▸ hstopped)
        obtain ⟨s', hstep, -⟩ := (hall s hreach).terminates g.minXpuId g.minVcId false hevent
          UInt32.le_rfl g.xpuRange UInt8.le_rfl g.vcRange
        have hreach' : g.uniformSystem.Reachable s' :=
          .step (.generate g.minXpuId g.minVcId false) hreach trivial hstep
        obtain ⟨-, ⟨hpaused, -⟩ | ⟨-, -, rfl⟩ | ⟨-, hmore, -⟩⟩ := generate_cases hs hstep
        · exact absurd (hrunning.symm.trans hpaused) (by decide)
        · exact ⟨_, hreach', rfl⟩
        · omega
  | succ k ih =>
      intro s hreach hrunning hk
      have hs := counted_of_reachable hreach
      have hlive : s.loggingStopped = false := by
        rw [← Bool.not_eq_true]
        intro hstopped
        have hdone := (hs.stopped hstopped).1
        omega
      obtain ⟨s', hstep, -⟩ := (hall s hreach).terminates g.minXpuId g.minVcId false
        (hs.pending hlive) UInt32.le_rfl g.xpuRange UInt8.le_rfl g.vcRange
      have hreach' : g.uniformSystem.Reachable s' :=
        .step (.generate g.minXpuId g.minVcId false) hreach trivial hstep
      obtain ⟨-, ⟨hpaused, -⟩ | ⟨-, hdone, -⟩ | ⟨-, -, d, -, rfl⟩⟩ := generate_cases hs hstep
      · exact absurd (hrunning.symm.trans hpaused) (by decide)
      · omega
      · apply ih _ hreach'
        · simp [scheduleNextTransaction, UniformGenerator.distribute, hrunning]
        · simp only [scheduleNextTransaction, UniformGenerator.distribute, List.length_append,
            List.length_singleton]
          omega

/-- A range that does not fit fails with the first transaction, if the local XPU is drawn. -/
theorem rangeFits_of_sendsConfigured
    (hall : ∀ s, g.uniformSystem.Reachable s → g.SendsConfigured s)
    (hsome : 0 < g.wrappedCount) : g.RangeFits := by
  have hreach : g.uniformSystem.Reachable g.startApplication := .init rfl
  have hfirst : g.minXpuId ≤ g.localXpuId → g.localXpuId ≤ g.maxXpuId →
      ∃ d, g.pickDestination 2 g.localXpuId = some d ∧ ((∃ e, g.InRange e) → g.InRange d) := by
    intro hmin hmax
    obtain ⟨s', hstep, -⟩ := (hall _ hreach).terminates g.localXpuId g.minVcId false rfl hmin hmax
      UInt8.le_rfl g.vcRange
    have hreach' : g.uniformSystem.Reachable s' :=
      .step (.generate g.localXpuId g.minVcId false) hreach trivial hstep
    obtain ⟨-, ⟨hpaused, -⟩ | ⟨-, hdone, -⟩ | ⟨-, -, d, hpick, rfl⟩⟩ :=
      generate_cases (counted_startApplication g) hstep
    · cases hpaused
    · simp only [startApplication, List.length_nil] at hdone
      omega
    · refine ⟨d, hpick, fun hother => ?_⟩
      apply (hall _ hreach').destinations hother ⟨0, d, g.minVcId, g.transactionSize⟩
      simp [scheduleNextTransaction, UniformGenerator.distribute, startApplication]
  refine ⟨?_, ?_, ?_⟩
  · rintro ⟨hmax, hmin⟩
    have hle : g.localXpuId ≤ g.maxXpuId := by
      rw [hmax]
      exact Nat.le_of_lt_succ g.localXpuId.toNat_lt
    obtain ⟨d, hpick, -⟩ := hfirst hmin hle
    have hnext : g.nextDestination g.localXpuId = none := by
      rw [nextDestination, hmax]
      rfl
    rw [UniformGenerator.pickDestination, if_pos rfl, hnext] at hpick
    cases hpick
  · rintro ⟨hlast, hpos, hless⟩
    have hless' : g.minXpuId.toNat < g.maxXpuId.toNat := hless
    obtain ⟨d, hpick, hrange⟩ := hfirst (by rw [hlast]; exact Nat.le_of_lt hless)
      (by rw [hlast]; exact UInt32.le_rfl)
    have hother : g.InRange g.minXpuId := by
      refine ⟨UInt32.le_rfl, g.xpuRange, fun h => ?_⟩
      rw [h, hlast] at hless'
      omega
    have hzero : (0 : UInt32) ≠ g.localXpuId := by
      intro h
      rw [hlast] at h
      rw [← h] at hless'
      simp at hless'
    by_cases hmax : g.maxXpuId = 0xFFFFFFFF
    · have hnext : g.nextDestination g.localXpuId = none := by
        rw [nextDestination, hmax]
        rfl
      rw [UniformGenerator.pickDestination, if_pos rfl, hnext] at hpick
      cases hpick
    · have hnext := nextDestination_local hmax (by rw [hlast]; exact UInt32.le_rfl)
      rw [if_pos hlast] at hnext
      rw [UniformGenerator.pickDestination, if_pos rfl, hnext, Option.bind_some,
        UniformGenerator.pickDestination, if_neg hzero] at hpick
      cases hpick
      exact absurd (hrange ⟨_, hother⟩).1 (UInt32.not_le.mpr hpos)
  · rintro ⟨hlocal, hmax⟩
    have hmin : g.minXpuId = g.localXpuId := by
      have hle := g.xpuRange
      rw [hmax] at hle
      rw [hlocal, ← UInt32.toNat_inj]
      exact Nat.le_zero.mp hle
    obtain ⟨d, hpick, -⟩ := hfirst (by rw [hmin]; exact UInt32.le_rfl)
      (by rw [hmax, hlocal]; exact UInt32.le_rfl)
    have hnext : g.nextDestination g.localXpuId = some g.localXpuId := by
      rw [nextDestination, hmax, hlocal]
      rfl
    rw [pickDestination_local_eq_none hnext] at hpick
    cases hpick

/-- What was configured is sent in every run if and only if the attributes fit. -/
theorem sendsConfigured_iff (g : UniformGenerator) :
    (∀ s, g.uniformSystem.Reachable s → g.SendsConfigured s) ↔ g.GenerationFits := by
  constructor
  · intro hall
    by_cases hzero : g.totalBytesToSend = 0
    · exact Or.inl hzero
    · have hbelow : g.totalBytesToSend < 4096 := by
        by_contra hnot
        obtain ⟨s, hreach, hstopped⟩ := exists_stopped hall
        have hwrapped := ((counted_of_reachable hreach).stopped hstopped).1
        have hmeant := ((hall s hreach).stopped hstopped).1
        have hless := wrappedCount_lt hnot
        omega
      refine Or.inr ⟨hbelow, rangeFits_of_sendsConfigured hall ?_⟩
      have hne : g.totalBytesToSend.toNat ≠ 0 := fun h => hzero (UInt32.toNat_inj.mp h)
      by_contra hnone
      rw [wrappedCount_eq hbelow, transactionCount] at hnone
      have hcover := (ceilDiv_le_iff_le_mul g.transactionSize_pos).mp (Nat.le_of_not_lt hnone)
      omega
  · intro hfit s hreach
    exact hfit.sendsConfigured hreach

theorem defaultSize_pos : 0 < (256 : UInt32).toNat := by decide

/-- 4096 megabytes, in transactions of 256 bytes. -/
def fourGigabytes : UniformGenerator where
  totalBytesToSend := 4096
  transactionSize_pos := defaultSize_pos
  xpuRange := by decide
  vcRange := by decide

/-- Of 4096 megabytes nothing is sent: the first firing of the event stops the generator. -/
theorem four_gigabytes_not_sent :
    ∃ s, fourGigabytes.uniformSystem.Reachable s ∧ s.loggingStopped = true ∧ s.handed = [] ∧
      ¬ fourGigabytes.SendsConfigured s := by
  obtain ⟨s, hrun⟩ : ∃ s, fourGigabytes.uniformSystem.runActions fourGigabytes.startApplication
      [.generate 1 0 false] = some s := ⟨_, rfl⟩
  have hreach : fourGigabytes.uniformSystem.Reachable s :=
    (TransitionSystem.ReachableBy.init rfl).runActions (fun _ _ _ => trivial) hrun
  cases hrun
  refine ⟨_, hreach, rfl, rfl, fun h => ?_⟩
  exact absurd (h.stopped rfl).1 (by decide)

end UniformGenerator

end UeSim
