import UeSim.Ses.Steps
import UeSim.Support.Reservations

/-!
# Conservation of the dispatch budgets

The counters of both budgets agree with the reservations recorded in the
request states, along every run in which no submission replaces the record of
a request that holds a reservation.  A replacement of such a record forgets
the reservation without giving it back: the retry of a timed-out SEND does
exactly that, and the budget of that attempt is lost for good.
-/

namespace UeSim
namespace SesManager

open Reservations

/-! ## The invariant -/

/-- The send-admission reservation of a request in a given standing. -/
def Standing.sendHeld (t : Standing) : Option ℕ :=
  if t.sendAdmissionReserved then some t.sendAdmissionReservedBytes else none

/-- The write reservation of a request in a given standing. -/
def Standing.writeHeld (t : Standing) : Option ℕ :=
  if t.writeBudgetReserved then some t.writeBudgetReservedBytes else none

/-- The send-admission reservation that a request holds. -/
def sendHeld (r : RequestLifecycleState) : Option ℕ := (standing r).sendHeld

/-- The write reservation that a request holds. -/
def writeHeld (r : RequestLifecycleState) : Option ℕ := (standing r).writeHeld

theorem sendHeld_eq_none {r : RequestLifecycleState} :
    sendHeld r = none ↔ r.sendAdmissionReserved = false := by
  cases h : r.sendAdmissionReserved <;> simp [sendHeld, Standing.sendHeld, standing, h]

theorem writeHeld_eq_none {r : RequestLifecycleState} :
    writeHeld r = none ↔ r.writeBudgetReserved = false := by
  cases h : r.writeBudgetReserved <;> simp [writeHeld, Standing.writeHeld, standing, h]

theorem sendHeld_of_reserved {r : RequestLifecycleState} (h : r.sendAdmissionReserved = true) :
    sendHeld r = some r.sendAdmissionReservedBytes := by
  simp [sendHeld, Standing.sendHeld, standing, h]

theorem writeHeld_of_reserved {r : RequestLifecycleState} (h : r.writeBudgetReserved = true) :
    writeHeld r = some r.writeBudgetReservedBytes := by
  simp [writeHeld, Standing.writeHeld, standing, h]

/-- Both budgets count exactly the reservations that requests hold. -/
structure BudgetsConserved (s : SesManager) : Prop where
  send : Balanced sendHeld s.requestStates s.sendAdmissionBudget.messagesInUse
    s.sendAdmissionBudget.bytesInUse
  write : Balanced writeHeld s.requestStates s.writeBudget.messagesInUse
    s.writeBudget.bytesInUse

/-- Closed requests hold no reservation. -/
def TerminalReleased (s : SesManager) : Prop :=
  ∀ key r, s.requestStates.lookup key = some r → r.terminalized = true →
    sendHeld r = none ∧ writeHeld r = none

/-- A write to one record that keeps its reservations keeps both balances. -/
theorem BudgetsConserved.keep {s s' : SesManager} {key : RequestKey}
    {r r' : RequestLifecycleState} (h : BudgetsConserved s)
    (hr : s.requestStates.lookup key = some r)
    (hstates : s'.requestStates = s.requestStates.insert key r')
    (hsend : sendHeld r' = sendHeld r) (hwrite : writeHeld r' = writeHeld r)
    (hsb : s'.sendAdmissionBudget = s.sendAdmissionBudget)
    (hwb : s'.writeBudget = s.writeBudget) : BudgetsConserved s' := by
  constructor
  · rw [hstates, hsb]
    exact h.send.replace hr hsend
  · rw [hstates, hwb]
    exact h.write.replace hr hwrite

theorem BudgetsConserved.of_same {s s' : SesManager} (h : BudgetsConserved s)
    (hstates : s'.requestStates = s.requestStates)
    (hsb : s'.sendAdmissionBudget = s.sendAdmissionBudget)
    (hwb : s'.writeBudget = s.writeBudget) : BudgetsConserved s' := by
  constructor
  · rw [hstates, hsb]
    exact h.send
  · rw [hstates, hwb]
    exact h.write

theorem BudgetsConserved.effect {s s' : SesManager} {key : RequestKey}
    (h : BudgetsConserved s) (heff : Effect key s s') : BudgetsConserved s' := by
  cases heff with
  | other hsame _ =>
      exact h.of_same hsame.requestStates hsame.sendAdmissionBudget hsame.writeBudget
  | progress hr _ hkeep =>
      exact h.keep hr rfl (congrArg Standing.sendHeld hkeep) (congrArg Standing.writeHeld hkeep)
        rfl rfl
  | retryErase | retrySet _ _ _ _ | retryUpdate _ _ _ => exact h.of_same rfl rfl rfl
  | grantSend hr _ _ _ hfree _ =>
      have hheld := (heldAt_of_some hr).trans (sendHeld_eq_none.mpr hfree)
      exact ⟨h.send.acquire hheld rfl, h.write.replace hr rfl⟩
  | grantWrite hr _ _ _ hfree _ =>
      have hheld := (heldAt_of_some hr).trans (writeHeld_eq_none.mpr hfree)
      exact ⟨h.send.replace hr rfl, h.write.acquire hheld rfl⟩
  | grantFree hr _ _ => exact h.keep hr rfl rfl rfl rfl rfl
  | releaseSend hr _ hheld =>
      have hheld := (heldAt_of_some hr).trans (sendHeld_of_reserved hheld)
      exact ⟨h.send.release hheld rfl, h.write.replace hr rfl⟩
  | releaseWrite hr _ hheld =>
      have hheld := (heldAt_of_some hr).trans (writeHeld_of_reserved hheld)
      exact ⟨h.send.replace hr rfl, h.write.release hheld rfl⟩
  | link hr _ _ _ => exact h.keep hr rfl rfl rfl rfl rfl
  | unlink =>
      cases hr : s.requestStates.lookup key with
      | none =>
          have hsame : KeyedMap.modify s.requestStates key unlinked = s.requestStates := by
            simp [KeyedMap.modify, hr]
          exact h.of_same hsame rfl rfl
      | some r => exact h.keep hr (KeyedMap.modify_of_some hr) rfl rfl rfl rfl
  | close reason hr _ _ _ _ _ =>
      obtain ⟨hstates, -, -, hsb, hwb⟩ := closeRequest_frame s key reason _
      exact h.keep hr hstates rfl rfl hsb hwb

theorem BudgetsConserved.update {s s' : SesManager} (h : BudgetsConserved s)
    (hupd : Update s s') : BudgetsConserved s' := by
  cases hupd with
  | effect heff => exact h.effect heff
  | redispatch hlive => exact h.keep hlive.lookup rfl rfl rfl rfl rfl
  | wake | fire | advance => exact h.of_same rfl rfl rfl

/-- A replacement keeps both balances when the old record held nothing. -/
theorem BudgetsConserved.rebuild {s : SesManager} {key : RequestKey}
    {m : ExtendedOperationMetadata} {packet : Packet} (h : BudgetsConserved s)
    (hsend : heldAt sendHeld s.requestStates key = none)
    (hwrite : heldAt writeHeld s.requestStates key = none) :
    BudgetsConserved (s.rebuildRequest key m packet) := by
  obtain ⟨hstates, -, -, hsb, hwb⟩ := rebuildRequest_frame s key m packet
  constructor
  · rw [hstates, hsb]
    exact h.send.keep hsend.symm
  · rw [hstates, hwb]
    exact h.write.keep hwrite.symm

/-! ## Closed requests -/

/-- A closed request was released before. -/
theorem TerminalReleased.effect {s s' : SesManager} {key : RequestKey}
    (h : TerminalReleased s) (heff : Effect key s s') : TerminalReleased s' := by
  cases heff with
  | other hsame _ =>
      unfold TerminalReleased
      rw [hsame.requestStates]
      exact h
  | progress _ hlive hkeep =>
      refine KeyedMap.forall_insert h fun hterm => ?_
      have hlive' := (congrArg Standing.terminalized hkeep).trans hlive
      exact absurd (hlive'.symm.trans hterm) Bool.false_ne_true
  | retryErase | retrySet _ _ _ _ | retryUpdate _ _ _ => exact h
  | grantSend _ hlive _ _ _ _ | grantWrite _ hlive _ _ _ _ | grantFree _ hlive _
  | releaseSend _ hlive _ | releaseWrite _ hlive _ | link _ hlive _ _ =>
      refine KeyedMap.forall_insert h fun hterm => ?_
      exact absurd (hlive.symm.trans hterm) Bool.false_ne_true
  | unlink => exact KeyedMap.forall_modify h fun r hr => hr
  | close reason hr _ _ _ hsend hwrite =>
      obtain ⟨hstates, -⟩ := closeRequest_frame s key reason _
      unfold TerminalReleased
      rw [hstates]
      exact KeyedMap.forall_insert h fun _ =>
        ⟨sendHeld_eq_none.mpr hsend, writeHeld_eq_none.mpr hwrite⟩

theorem TerminalReleased.update {s s' : SesManager} (h : TerminalReleased s)
    (hupd : Update s s') : TerminalReleased s' := by
  cases hupd with
  | effect heff => exact h.effect heff
  | redispatch hlive =>
      refine KeyedMap.forall_insert h fun hterm => ?_
      exact absurd (hlive.live.symm.trans hterm) Bool.false_ne_true
  | wake | fire | advance => exact h

theorem TerminalReleased.rebuild {s : SesManager} (h : TerminalReleased s)
    (key : RequestKey) (m : ExtendedOperationMetadata) (packet : Packet) :
    TerminalReleased (s.rebuildRequest key m packet) := by
  obtain ⟨hstates, -⟩ := rebuildRequest_frame s key m packet
  unfold TerminalReleased
  rw [hstates]
  exact KeyedMap.forall_insert h fun _ => ⟨rfl, rfl⟩

/-! ## Runs -/

/-- The action replaces no record that holds a reservation. -/
def RebuildsUnreserved (s : SesManager) (a : SesAction) : Prop :=
  ∀ m packet, s.rebuildOf a = some (m, packet) →
    ∀ r, s.requestStates.lookup (requestKey m) = some r →
      r.sendAdmissionReserved = false ∧ r.writeBudgetReserved = false

theorem heldAt_none_of_forall {held : RequestLifecycleState → Option ℕ} {s : SesManager}
    {key : RequestKey} (h : ∀ r, s.requestStates.lookup key = some r → held r = none) :
    heldAt held s.requestStates key = none := by
  cases hr : s.requestStates.lookup key with
  | none => simp [heldAt, hr]
  | some r => rw [heldAt_of_some hr, h r hr]

theorem budgets_step {env : Environment} {s s' : SesManager} {a : SesAction}
    (h : BudgetsConserved s ∧ TerminalReleased s) (hguard : RebuildsUnreserved s a)
    (hstep : sesStep env s a = some s') : BudgetsConserved s' ∧ TerminalReleased s' := by
  have hupdates : ∀ {s s' : SesManager}, BudgetsConserved s ∧ TerminalReleased s →
      Updates s s' → BudgetsConserved s' ∧ TerminalReleased s' := by
    intro s s' hinv hupd
    exact hupd.invariant (P := fun s => BudgetsConserved s ∧ TerminalReleased s) hinv
      fun _ _ hinv hupd => ⟨hinv.1.update hupd, hinv.2.update hupd⟩
  cases hrebuild : s.rebuildOf a with
  | none => exact hupdates h (sesStep_updates hstep hrebuild)
  | some p =>
      obtain ⟨m, packet⟩ := p
      obtain ⟨s₁, hbefore, hsame, hafter⟩ := (sesStep_rebuild hstep hrebuild).split
      obtain ⟨hbudgets, hterminal⟩ := hupdates h hbefore
      have hfree := hguard m packet hrebuild
      refine hupdates ⟨hbudgets.rebuild ?_ ?_, hterminal.rebuild _ m packet⟩ hafter
      · rw [hsame]
        exact heldAt_none_of_forall fun r hr => sendHeld_eq_none.mpr (hfree r hr).1
      · rw [hsame]
        exact heldAt_none_of_forall fun r hr => writeHeld_eq_none.mpr (hfree r hr).2

theorem budgets_initial {s : SesManager} (h : Initial s) :
    BudgetsConserved s ∧ TerminalReleased s := by
  refine ⟨⟨?_, ?_⟩, ?_⟩
  · rw [h.requestStates, h.sendMessages, h.sendBytes]
    exact balanced_empty
  · rw [h.requestStates, h.writeMessages, h.writeBytes]
    exact balanced_empty
  · intro key r hr
    simp [h.requestStates] at hr

/-- The budget counters that the law of conservation compares. -/
def BudgetsMatchReservations (s : SesManager) : Prop :=
  s.sendAdmissionBudget.messagesInUse = count sendHeld s.requestStates ∧
    s.sendAdmissionBudget.bytesInUse = amount sendHeld s.requestStates ∧
    s.writeBudget.messagesInUse = count writeHeld s.requestStates ∧
    s.writeBudget.bytesInUse = amount writeHeld s.requestStates

/-- Neither budget is charged. -/
def BudgetsIdle (s : SesManager) : Prop :=
  s.sendAdmissionBudget.messagesInUse = 0 ∧ s.sendAdmissionBudget.bytesInUse = 0 ∧
    s.writeBudget.messagesInUse = 0 ∧ s.writeBudget.bytesInUse = 0

/-- Without a request in flight every record is closed. -/
theorem terminalized_of_idle {s : SesManager}
    (hidle : s.getSoftUeSemanticStats.opsInFlight = 0) {key : RequestKey}
    {r : RequestLifecycleState} (hr : s.requestStates.lookup key = some r) :
    r.terminalized = true := by
  have hle := KeyedMap.weightAt_le_total
    (fun _ r => if r.terminalized then 0 else 1) s.requestStates key
  rw [KeyedMap.weightAt_of_some hr] at hle
  unfold getSoftUeSemanticStats at hidle
  dsimp only at hidle hle
  cases hterm : r.terminalized with
  | true => rfl
  | false => simp [hterm, hidle] at hle

/-- Along every run that replaces no record holding a reservation, both budgets
are the totals of the reservations held, and they are empty when no request is
in flight. -/
theorem budgets_conserved_of_rebuildsUnreserved (env : Environment) (s : SesManager)
    (hreach : (sesSystem env).ReachableBy RebuildsUnreserved s) :
    BudgetsMatchReservations s ∧
      (s.getSoftUeSemanticStats.opsInFlight = 0 → BudgetsIdle s) := by
  obtain ⟨hbudgets, hterminal⟩ := hreach.invariant
    (P := fun s => BudgetsConserved s ∧ TerminalReleased s)
    (fun _ => budgets_initial) (fun _ _ _ => budgets_step)
  refine ⟨⟨hbudgets.send.messages, hbudgets.send.bytes, hbudgets.write.messages,
    hbudgets.write.bytes⟩, fun hidle => ?_⟩
  have hreleased := fun key r hr => hterminal key r hr (terminalized_of_idle hidle hr)
  obtain ⟨hsm, hsb⟩ := hbudgets.send.eq_zero fun key r hr => (hreleased key r hr).1
  obtain ⟨hwm, hwb⟩ := hbudgets.write.eq_zero fun key r hr => (hreleased key r hr).2
  exact ⟨hsm, hsb, hwm, hwb⟩

/-- The run that submits one SEND meets the condition. -/
theorem budgets_conserved_after_submission :
    BudgetsMatchReservations
        (processSendRequest reliable {} (sampleSend 2 1) (some [0])).1 ∧
      ((processSendRequest reliable {} (sampleSend 2 1)
          (some [0])).1.getSoftUeSemanticStats.opsInFlight = 0 →
        BudgetsIdle (processSendRequest reliable {} (sampleSend 2 1) (some [0])).1) :=
  budgets_conserved_of_rebuildsUnreserved reliable _
    (.step (.sendRequest (sampleSend 2 1) (some [0])) (.init initial_default)
      (by rintro m packet - r hr; cases hr) rfl)

/-! ## A leaked reservation -/

/-- After one retry the send-admission budget stays charged for good: the only
request is closed and one message is still in use. -/
theorem budget_leaked_by_retry :
    ∃ s, (sesSystem reliable).Reachable s ∧
      (sesSystem reliable).runActions {} retriedSend = some s ∧
      ¬ (BudgetsMatchReservations s ∧
        (s.getSoftUeSemanticStats.opsInFlight = 0 → BudgetsIdle s)) := by
  obtain ⟨s, hs⟩ : ∃ s, (sesSystem reliable).runActions {} retriedSend = some s :=
    Option.isSome_iff_exists.mp (by decide)
  have hend : ((sesSystem reliable).runActions {} retriedSend).map (fun s =>
      (s.getSoftUeSemanticStats.opsInFlight, s.sendAdmissionBudget.messagesInUse)) =
        some (0, 1) := by decide
  rw [hs, Option.map_some, Option.some.injEq, Prod.mk.injEq] at hend
  refine ⟨s, ?_, hs, ?_⟩
  · exact TransitionSystem.ReachableBy.runActions (.init initial_default)
      (fun _ _ _ => trivial) hs
  · rintro ⟨-, hidle⟩
    have hzero := (hidle hend.1).1
    omega

end SesManager
end UeSim
