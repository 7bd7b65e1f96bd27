import UeSim.Ses.Retries

/-!
# Accounting of operations

The statistics count each operation once when it starts and once when it ends,
and an ended operation has one completion record.  For runs in which every
submission uses a fresh key this holds as long as no retry replaces the record
of a request that was created at simulated time zero: the code takes a zero
creation time to mean that the operation was never counted, and counts it
again.
-/

namespace UeSim
namespace SesManager

/-! ## The invariant -/

/-- The weight of a closed request. -/
def closedWeight (_ : RequestKey) (r : RequestLifecycleState) : ℕ :=
  if r.terminalized then 1 else 0

/-- The number of completion records of a request. -/
def completionsOf (s : SesManager) (key : RequestKey) : ℕ :=
  s.protocolCompletionTrace.countP fun record => record.key = key

/-- The statistics and the completion records agree with the request
records. -/
structure Accounted (s : SesManager) : Prop where
  started : s.semanticStats.opsStartedTotal = KeyedMap.total (fun _ _ => 1) s.requestStates
  terminal : s.semanticStats.opsTerminalTotal = KeyedMap.total closedWeight s.requestStates
  outcome : s.semanticStats.opsSuccessTotal + s.semanticStats.opsFailedTotal =
    s.semanticStats.opsTerminalTotal
  records : ∀ key, s.completionsOf key = KeyedMap.weightAt closedWeight s.requestStates key
  counted : ∀ key r, s.requestStates.lookup key = some r →
    r.countedInSemanticStats = r.terminalized
  recent : s.completionRecords =
    s.protocolCompletionTrace.drop (s.protocolCompletionTrace.length - kCompletionRecordLimit)

theorem weightAt_insert_self (w : RequestKey → RequestLifecycleState → ℕ)
    (m : KeyedMap RequestKey RequestLifecycleState) (key : RequestKey)
    (r : RequestLifecycleState) : KeyedMap.weightAt w (m.insert key r) key = w key r :=
  KeyedMap.weightAt_of_some (AList.lookup_insert _)

theorem weightAt_insert_ne (w : RequestKey → RequestLifecycleState → ℕ)
    (m : KeyedMap RequestKey RequestLifecycleState) {key k : RequestKey}
    (r : RequestLifecycleState) (hk : k ≠ key) :
    KeyedMap.weightAt w (m.insert key r) k = KeyedMap.weightAt w m k := by
  simp only [KeyedMap.weightAt, AList.lookup_insert_ne hk]

/-- The accounting side of a state. -/
structure SameBooks (s s' : SesManager) : Prop where
  semanticStats : s'.semanticStats = s.semanticStats
  completionRecords : s'.completionRecords = s.completionRecords
  protocolCompletionTrace : s'.protocolCompletionTrace = s.protocolCompletionTrace

/-- A write to a record that neither closes nor reopens it. -/
theorem Accounted.keep {s s' : SesManager} {key : RequestKey}
    {r r' : RequestLifecycleState} (h : Accounted s)
    (hr : s.requestStates.lookup key = some r)
    (hstates : s'.requestStates = s.requestStates.insert key r')
    (hterm : r'.terminalized = r.terminalized)
    (hcounted : r'.countedInSemanticStats = r.countedInSemanticStats)
    (hbooks : SameBooks s s') : Accounted s' := by
  have hweight : closedWeight key r' = KeyedMap.weightAt closedWeight s.requestStates key := by
    rw [KeyedMap.weightAt_of_some hr, closedWeight, closedWeight, hterm]
  constructor
  · rw [hbooks.semanticStats, hstates, KeyedMap.total_insert_of_weight_eq, h.started]
    rw [KeyedMap.weightAt_of_some hr]
  · rw [hbooks.semanticStats, hstates, KeyedMap.total_insert_of_weight_eq hweight, h.terminal]
  · rw [hbooks.semanticStats]
    exact h.outcome
  · intro k
    rw [completionsOf, hbooks.protocolCompletionTrace, hstates]
    refine (h.records k).trans ?_
    by_cases hk : k = key
    · rw [hk, weightAt_insert_self, hweight]
    · rw [weightAt_insert_ne _ _ _ hk]
  · rw [hstates]
    exact KeyedMap.forall_insert h.counted
      (hcounted.trans ((h.counted key r hr).trans hterm.symm))
  · rw [hbooks.completionRecords, hbooks.protocolCompletionTrace]
    exact h.recent

theorem Accounted.of_same {s s' : SesManager} (h : Accounted s)
    (hstates : s'.requestStates = s.requestStates) (hbooks : SameBooks s s') :
    Accounted s' := by
  constructor
  · rw [hbooks.semanticStats, hstates]
    exact h.started
  · rw [hbooks.semanticStats, hstates]
    exact h.terminal
  · rw [hbooks.semanticStats]
    exact h.outcome
  · intro k
    rw [completionsOf, hbooks.protocolCompletionTrace, hstates]
    exact h.records k
  · rw [hstates]
    exact h.counted
  · rw [hbooks.completionRecords, hbooks.protocolCompletionTrace]
    exact h.recent

/-! ## Closing -/

/-- One termination adds one to the terminal count and one to exactly one of
the outcome counts. -/
theorem completionStats_totals (stats : SoftUeSemanticStats) (key : RequestKey)
    (r : RequestLifecycleState) :
    (completionStats stats key r).opsStartedTotal = stats.opsStartedTotal ∧
      (completionStats stats key r).opsTerminalTotal = stats.opsTerminalTotal + 1 ∧
      (completionStats stats key r).opsSuccessTotal +
          (completionStats stats key r).opsFailedTotal =
        stats.opsSuccessTotal + stats.opsFailedTotal + 1 := by
  unfold completionStats
  cases completionSuccess r with
  | true => cases r.metadata.opType <;> refine ⟨rfl, rfl, ?_⟩ <;> simp <;> omega
  | false =>
      refine ⟨rfl, rfl, ?_⟩
      simp
      omega

theorem closeRequest_books {s : SesManager} {key : RequestKey}
    {r : RequestLifecycleState} (reason : RequestTerminalReason)
    (hcounted : r.countedInSemanticStats = false) :
    (s.closeRequest key reason r).semanticStats =
        completionStats s.semanticStats key (closed s.nowNs reason r) ∧
      (s.closeRequest key reason r).protocolCompletionTrace =
        s.protocolCompletionTrace ++ [completionRecord key (closed s.nowNs reason r)] ∧
      (s.closeRequest key reason r).completionRecords =
        (s.completionRecords ++ [completionRecord key (closed s.nowNs reason r)]).drop
          ((s.completionRecords ++
            [completionRecord key (closed s.nowNs reason r)]).length - kCompletionRecordLimit) := by
  have hc : (closed s.nowNs reason r).countedInSemanticStats = false := hcounted
  simp only [closeRequest, recordCompletion, hc, Bool.false_eq_true, if_false, and_self]

/-- Bounding a log that was bounded before is bounding the whole log. -/
theorem drop_bounded_append {α : Type*} (l : List α) (a : α) (n : ℕ) :
    (l.drop (l.length - n) ++ [a]).drop ((l.drop (l.length - n) ++ [a]).length - n) =
      (l ++ [a]).drop ((l ++ [a]).length - n) := by
  rw [← List.drop_append_of_le_length (Nat.sub_le _ _), List.drop_drop]
  congr 1
  simp only [List.length_drop, List.length_append, List.length_singleton]
  omega

theorem Accounted.close {s : SesManager} {key : RequestKey} {r : RequestLifecycleState}
    (h : Accounted s) (reason : RequestTerminalReason)
    (hr : s.requestStates.lookup key = some r) (hlive : r.terminalized = false) :
    Accounted (s.closeRequest key reason r) := by
  obtain ⟨hstats, htrace, hrecords⟩ :=
    closeRequest_books (s := s) reason ((h.counted key r hr).trans hlive)
  obtain ⟨hstates, -⟩ := closeRequest_frame s key reason r
  obtain ⟨hstarted, hterminal, houtcome⟩ :=
    completionStats_totals s.semanticStats key (closed s.nowNs reason r)
  have hopen : KeyedMap.weightAt closedWeight s.requestStates key = 0 := by
    rw [KeyedMap.weightAt_of_some hr]
    simp [closedWeight, hlive]
  have hclosed : closedWeight key (closedRecord s.nowNs reason r) = 1 := rfl
  constructor
  · rw [hstats, hstarted, hstates, KeyedMap.total_insert_of_weight_eq, h.started]
    rw [KeyedMap.weightAt_of_some hr]
  · have hbal := KeyedMap.total_insert_add closedWeight s.requestStates key
      (closedRecord s.nowNs reason r)
    rw [hstats, hterminal, hstates, h.terminal]
    omega
  · rw [hstats, houtcome, hterminal, h.outcome]
  · intro k
    rw [completionsOf, htrace, List.countP_append, hstates]
    have hbefore := h.records k
    unfold completionsOf at hbefore
    by_cases hk : k = key
    · subst hk
      rw [hbefore, weightAt_insert_self, hopen, hclosed]
      simp [completionRecord]
    · rw [hbefore, weightAt_insert_ne _ _ _ hk]
      simp [completionRecord, Ne.symm hk]
  · rw [hstates]
    exact KeyedMap.forall_insert h.counted rfl
  · rw [hrecords, htrace, h.recent]
    exact drop_bounded_append _ _ _

/-! ## Updates -/

theorem Accounted.effect {s s' : SesManager} {key : RequestKey} (h : Accounted s)
    (heff : Effect key s s') : Accounted s' := by
  cases heff with
  | other hsame _ =>
      exact h.of_same hsame.requestStates
        ⟨hsame.semanticStats, hsame.completionRecords, hsame.protocolCompletionTrace⟩
  | progress hr _ hkeep =>
      exact h.keep hr rfl (congrArg Standing.terminalized hkeep)
        (congrArg Standing.countedInSemanticStats hkeep) ⟨rfl, rfl, rfl⟩
  | retryErase | retrySet _ _ _ _ | retryUpdate _ _ _ => exact h.of_same rfl ⟨rfl, rfl, rfl⟩
  | grantSend hr _ _ _ _ _ | grantWrite hr _ _ _ _ _ | grantFree hr _ _
  | releaseSend hr _ _ | releaseWrite hr _ _ | link hr _ _ _ =>
      exact h.keep hr rfl rfl rfl ⟨rfl, rfl, rfl⟩
  | unlink =>
      cases hr : s.requestStates.lookup key with
      | none =>
          exact h.of_same (by simp [removeBlockedRequest, KeyedMap.modify, hr]) ⟨rfl, rfl, rfl⟩
      | some r => exact h.keep hr (KeyedMap.modify_of_some hr) rfl rfl ⟨rfl, rfl, rfl⟩
  | close reason hr hlive _ _ _ _ => exact h.close reason hr hlive

theorem Accounted.updates {s s' : SesManager} (h : Accounted s) (hupd : Updates s s') :
    Accounted s' := by
  refine hupd.invariant (P := Accounted) h fun t t' h hupd => ?_
  cases hupd with
  | effect heff => exact h.effect heff
  | redispatch hlive => exact h.keep hlive.lookup rfl rfl rfl ⟨rfl, rfl, rfl⟩
  | wake | fire | advance => exact h.of_same rfl ⟨rfl, rfl, rfl⟩

/-! ## Replacements -/

theorem recordSemanticStart_books (s : SesManager) (opcode : OpType) :
    (s.recordSemanticStart opcode).semanticStats.opsStartedTotal =
        s.semanticStats.opsStartedTotal + 1 ∧
      (s.recordSemanticStart opcode).semanticStats.opsTerminalTotal =
        s.semanticStats.opsTerminalTotal ∧
      (s.recordSemanticStart opcode).semanticStats.opsSuccessTotal =
        s.semanticStats.opsSuccessTotal ∧
      (s.recordSemanticStart opcode).semanticStats.opsFailedTotal =
        s.semanticStats.opsFailedTotal := by
  cases opcode <;> exact ⟨rfl, rfl, rfl, rfl⟩

/-- A fresh request is one more started operation. -/
theorem Accounted.rebuild_fresh {s : SesManager} {key : RequestKey}
    {m : ExtendedOperationMetadata} {packet : Packet} (h : Accounted s)
    (hfresh : s.requestStates.lookup key = none) :
    Accounted (s.rebuildRequest key m packet) := by
  set r := s.rebuiltRequest m packet none with hr
  have heq : s.rebuildRequest key m packet =
      recordSemanticStart { s with requestStates := s.requestStates.insert key r }
        m.opType := by
    simp [rebuildRequest, hfresh, hr]
  obtain ⟨hstarted, hterminal, hsuccess, hfailed⟩ := recordSemanticStart_books
    { s with requestStates := s.requestStates.insert key r } m.opType
  have hopen : closedWeight key r = KeyedMap.weightAt closedWeight s.requestStates key :=
    (KeyedMap.weightAt_of_none hfresh).symm
  rw [heq]
  constructor
  · have hbal := KeyedMap.total_insert_add (fun _ _ => 1) s.requestStates key r
    rw [KeyedMap.weightAt_of_none hfresh, ← h.started] at hbal
    exact hstarted.trans hbal.symm
  · rw [hterminal]
    exact h.terminal.trans (KeyedMap.total_insert_of_weight_eq hopen).symm
  · rw [hsuccess, hfailed, hterminal]
    exact h.outcome
  · intro k
    refine (h.records k).trans ?_
    change _ = KeyedMap.weightAt closedWeight (s.requestStates.insert key r) k
    by_cases hk : k = key
    · rw [hk, weightAt_insert_self, hopen]
    · rw [weightAt_insert_ne _ _ _ hk]
  · exact KeyedMap.forall_insert h.counted rfl
  · exact h.recent

/-- A retry of a live request that was created at a positive time is no new
operation. -/
theorem Accounted.rebuild_retry {s : SesManager} {key : RequestKey}
    {r : RequestLifecycleState} {m : ExtendedOperationMetadata} {packet : Packet}
    (h : Accounted s) (hlive : Live s key r) (hretry : m.isRetry = true)
    (htimed : r.createdAtNs ≠ 0) : Accounted (s.rebuildRequest key m packet) := by
  have heq : s.rebuildRequest key m packet = { s with
      requestStates := s.requestStates.insert key (s.rebuiltRequest m packet (some r)) } := by
    simp [rebuildRequest, hlive.lookup, hretry, htimed]
  rw [heq]
  refine h.keep hlive.lookup rfl hlive.live.symm ?_ ⟨rfl, rfl, rfl⟩
  exact ((h.counted key r hlive.lookup).trans hlive.live).symm

/-! ## Runs -/

/-- An accepted submission uses a key that no request has used. -/
def SubmitsFresh (s : SesManager) : SesAction → Prop
  | .sendRequest m packet => ∀ m' p', s.acceptedRequest m packet = some (m', p') →
      s.requestStates.lookup (requestKey m') = none
  | _ => True

/-- A retry event that re-submits its request finds it created at a positive
time. -/
def RetriesTimed (s : SesManager) : SesAction → Prop
  | .retryEvent key => s.rebuildOf (.retryEvent key) ≠ none →
      ∀ r, s.requestStates.lookup key = some r → r.createdAtNs ≠ 0
  | _ => True

theorem accounted_step {env : Environment} {s s' : SesManager} {a : SesAction}
    (h : Accounted s ∧ RetriesOwned s) (hfresh : SubmitsFresh s a) (htimed : RetriesTimed s a)
    (hstep : sesStep env s a = some s') : Accounted s' ∧ RetriesOwned s' := by
  refine ⟨?_, retriesOwned_step h.2 hstep⟩
  cases hrebuild : s.rebuildOf a with
  | none => exact h.1.updates (sesStep_updates hstep hrebuild)
  | some p =>
      obtain ⟨m, packet⟩ := p
      obtain ⟨s₁, hbefore, hsame, hafter⟩ := (sesStep_rebuild hstep hrebuild).split
      have haccounted : Accounted s₁ := h.1.updates hbefore
      refine Accounted.updates ?_ hafter
      cases a with
      | sendRequest m₀ packet₀ =>
          exact haccounted.rebuild_fresh (hsame ▸ hfresh m packet hrebuild)
      | retryEvent key =>
          obtain ⟨hkey, hretry, r, hlive⟩ := h.2.rebuildOf_retryEvent hrebuild
          have hcreated := htimed (by simp [hrebuild]) r hlive.lookup
          rw [hkey]
          exact haccounted.rebuild_retry ⟨hsame ▸ hlive.lookup, hlive.live⟩ hretry hcreated
      | _ => cases hrebuild

theorem accounted_initial {s : SesManager} (h : Initial s) : Accounted s := by
  constructor
  · rw [h.semanticStats, h.requestStates]
    rfl
  · rw [h.semanticStats, h.requestStates]
    rfl
  · rw [h.semanticStats]
    rfl
  · intro key
    simp [completionsOf, h.protocolCompletionTrace, KeyedMap.weightAt, h.requestStates]
  · simp [h.requestStates]
  · simp [h.completionRecords, h.protocolCompletionTrace]

/-- The accounting of operations: the published counters add up, each request
key is one started operation, and it has one completion record exactly when it
has ended; the retained records are the latest ones. -/
def OperationsAccounted (s : SesManager) : Prop :=
  let stats := s.getSoftUeSemanticStats
  stats.opsStartedTotal = stats.opsTerminalTotal + stats.opsInFlight ∧
    stats.opsSuccessTotal + stats.opsFailedTotal = stats.opsTerminalTotal ∧
    stats.opsStartedTotal = s.requestStates.keys.length ∧
    (∀ key r, s.requestStates.lookup key = some r →
      s.completionsOf key = if r.terminalized then 1 else 0) ∧
    (∀ key, s.requestStates.lookup key = none → s.completionsOf key = 0) ∧
    s.completionRecords =
      s.protocolCompletionTrace.drop (s.protocolCompletionTrace.length - kCompletionRecordLimit)

theorem Accounted.operationsAccounted {s : SesManager} (h : Accounted s) :
    OperationsAccounted s := by
  have hsplit := KeyedMap.total_add closedWeight
    (fun _ r => if r.terminalized then 0 else 1) s.requestStates
  have hone : ∀ r : RequestLifecycleState,
      (if r.terminalized = true then 1 else 0) + (if r.terminalized = true then 0 else 1) =
        1 := by
    intro r
    split <;> rfl
  refine ⟨?_, h.outcome, ?_, fun key r hr => ?_, fun key hnone => ?_, h.recent⟩
  · simp only [getSoftUeSemanticStats, h.started, h.terminal, ← hsplit, closedWeight, hone]
  · simp only [getSoftUeSemanticStats, h.started, KeyedMap.total, AList.keys, List.keys]
    simp
  · rw [h.records, KeyedMap.weightAt_of_some hr, closedWeight]
  · rw [h.records, KeyedMap.weightAt_of_none hnone]

/-- Along every run that submits fresh keys and retries no request created at
time zero, operations are accounted for. -/
theorem operationsAccounted_of_retriesTimed (env : Environment) (s : SesManager)
    (hreach : (sesSystem env).ReachableBy
      (fun s a => SubmitsFresh s a ∧ RetriesTimed s a) s) : OperationsAccounted s := by
  have hinv := hreach.invariant (P := fun s => Accounted s ∧ RetriesOwned s)
    (fun _ hinit => ⟨accounted_initial hinit, retriesOwned_initial hinit⟩)
    (fun _ _ _ h hguard hstep => accounted_step h hguard.1 hguard.2 hstep)
  exact hinv.1.operationsAccounted

/-- The run that submits one SEND meets the condition. -/
theorem operationsAccounted_after_submission :
    OperationsAccounted (processSendRequest reliable {} (sampleSend 2 1) (some [0])).1 :=
  operationsAccounted_of_retriesTimed reliable _
    (.step (.sendRequest (sampleSend 2 1) (some [0])) (.init initial_default)
      ⟨fun _ _ _ => rfl, trivial⟩ rfl)

/-! ## An operation counted twice -/

/-- A SEND submitted at time zero that is retried once counts as two started
operations, of which only one ever ends. -/
theorem operation_counted_twice :
    ∃ s, (sesSystem reliable).ReachableBy SubmitsFresh s ∧
      (sesSystem reliable).runActions {} retriedSend = some s ∧ ¬ OperationsAccounted s := by
  obtain ⟨s, hs⟩ : ∃ s, (sesSystem reliable).runActions {} retriedSend = some s :=
    Option.isSome_iff_exists.mp (by decide)
  have hend : ((sesSystem reliable).runActions {} retriedSend).map (fun s =>
      (s.semanticStats.opsStartedTotal, s.requestStates.keys.length)) = some (2, 1) := by decide
  rw [hs, Option.map_some, Option.some.injEq, Prod.mk.injEq] at hend
  refine ⟨s, ?_, hs, ?_⟩
  · obtain ⟨s₁, hstep, hrun⟩ := TransitionSystem.runActions_cons_eq_some.mp hs
    have hfirst : (sesSystem reliable).ReachableBy SubmitsFresh s₁ :=
      .step (.sendRequest (sampleSend 2 1) (some [0])) (.init initial_default)
        (fun _ _ _ => rfl) hstep
    refine hfirst.runActions (fun t a ha => ?_) hrun
    simp only [List.mem_cons, List.not_mem_nil, or_false] at ha
    rcases ha with rfl | rfl | rfl | rfl <;> trivial
  · rintro ⟨-, -, hkeys, -⟩
    have hstarted : s.semanticStats.opsStartedTotal = s.requestStates.keys.length := hkeys
    omega

end SesManager
end UeSim
