import UeSim.Ses.BlockedQueue

/-!
# Who would be admitted

The two budgets of an endpoint, seen as one pair: which requests they admit,
and what is left of them once one request has given its reservations back.
Effects on behalf of a request do not change what remains without it, so a
request that is refused even then stays refused.
-/

namespace UeSim
namespace SesManager

/-! ## The pair of budgets -/

/-- The send-admission budget and the write budget. -/
structure DispatchBudgets where
  send : SemanticBudgetState
  write : SemanticBudgetState

/-- The budgets of the packet delivery sublayer. -/
def budgets (s : SesManager) : DispatchBudgets := ⟨s.sendAdmissionBudget, s.writeBudget⟩

namespace DispatchBudgets

/-- Whether the budgets let a request be dispatched. -/
def admits (b : DispatchBudgets) (r : RequestLifecycleState) : Bool :=
  match r.metadata.opType with
  | .send => r.sendAdmissionReserved || b.send.admits r.metadata.payloadBytes
  | .write => r.writeBudgetReserved || b.write.admits r.metadata.payloadBytes
  | .read => true
  | .deferrable => true

/-- The budgets after a request has given its reservations back. -/
def giveBack (b : DispatchBudgets) (r : RequestLifecycleState) : DispatchBudgets where
  send := bif r.sendAdmissionReserved then b.send.release r.sendAdmissionReservedBytes
    else b.send
  write := bif r.writeBudgetReserved then b.write.release r.writeBudgetReservedBytes
    else b.write

/-- `b` is at most as loaded as `b'`. -/
structure Below (b b' : DispatchBudgets) : Prop where
  send : b.send.Below b'.send
  write : b.write.Below b'.write

theorem Below.admits {b b' : DispatchBudgets} (h : b.Below b') {r : RequestLifecycleState}
    (hadmits : b'.admits r = true) : b.admits r = true := by
  unfold DispatchBudgets.admits at hadmits ⊢
  cases hop : r.metadata.opType with
  | send =>
      simp only [hop, Bool.or_eq_true] at hadmits ⊢
      exact hadmits.imp_right h.send.admits
  | write =>
      simp only [hop, Bool.or_eq_true] at hadmits ⊢
      exact hadmits.imp_right h.write.admits
  | read => rfl
  | deferrable => rfl

theorem giveBack_below (b : DispatchBudgets) (r : RequestLifecycleState) :
    (b.giveBack r).Below b := by
  constructor
  · dsimp only [giveBack]
    cases r.sendAdmissionReserved
    · exact .refl _
    · exact SemanticBudgetState.release_below _ _
  · dsimp only [giveBack]
    cases r.writeBudgetReserved
    · exact .refl _
    · exact SemanticBudgetState.release_below _ _

/-- Admission depends on the standing of a request only. -/
theorem admits_congr (b : DispatchBudgets) {r r' : RequestLifecycleState}
    (h : standing r' = standing r) : b.admits r' = b.admits r := by
  have hmeta : r'.metadata = r.metadata := congrArg Standing.metadata h
  have hsend : r'.sendAdmissionReserved = r.sendAdmissionReserved :=
    congrArg Standing.sendAdmissionReserved h
  have hwrite : r'.writeBudgetReserved = r.writeBudgetReserved :=
    congrArg Standing.writeBudgetReserved h
  simp only [admits, hmeta, hsend, hwrite]

theorem giveBack_congr (b : DispatchBudgets) {r r' : RequestLifecycleState}
    (h : standing r' = standing r) : b.giveBack r' = b.giveBack r := by
  have hsend : r'.sendAdmissionReserved = r.sendAdmissionReserved :=
    congrArg Standing.sendAdmissionReserved h
  have hsb : r'.sendAdmissionReservedBytes = r.sendAdmissionReservedBytes :=
    congrArg Standing.sendAdmissionReservedBytes h
  have hwrite : r'.writeBudgetReserved = r.writeBudgetReserved :=
    congrArg Standing.writeBudgetReserved h
  have hwb : r'.writeBudgetReservedBytes = r.writeBudgetReservedBytes :=
    congrArg Standing.writeBudgetReservedBytes h
  simp only [giveBack, hsend, hsb, hwrite, hwb]

end DispatchBudgets

/-- `TryReserveDispatchBudget` fails exactly when the budgets do not admit the
request. -/
theorem tryReserveDispatchBudget_eq_none {s : SesManager} {key : RequestKey}
    {r : RequestLifecycleState} :
    s.tryReserveDispatchBudget key r = none ↔ s.budgets.admits r = false := by
  unfold tryReserveDispatchBudget DispatchBudgets.admits budgets
  cases r.metadata.opType with
  | send =>
      cases r.sendAdmissionReserved <;> simp [SemanticBudgetState.tryReserve_eq_none]
  | write =>
      cases r.writeBudgetReserved <;> simp [SemanticBudgetState.tryReserve_eq_none]
  | read => simp
  | deferrable => simp

/-! ## Coherent reservations -/

/-- Whether a request holds a reservation. -/
def reserves (r : RequestLifecycleState) : Bool :=
  r.sendAdmissionReserved || r.writeBudgetReserved

/-- A reservation is of the kind of its operation, and a queued request holds
none. -/
structure Standing.Coherent (t : Standing) : Prop where
  send : t.sendAdmissionReserved = true → t.metadata.opType = .send
  write : t.writeBudgetReserved = true → t.metadata.opType = .write
  queued : t.blockedQueueLinked = true →
    t.sendAdmissionReserved = false ∧ t.writeBudgetReserved = false

/-- Every record is coherent. -/
def RecordsCoherent (s : SesManager) : Prop :=
  ∀ key r, s.requestStates.lookup key = some r → (standing r).Coherent

/-- A request that the budgets refuse holds no reservation. -/
theorem Standing.Coherent.unreserved_of_refused {r : RequestLifecycleState}
    (h : (standing r).Coherent) {b : DispatchBudgets} (hrefused : b.admits r = false) :
    r.sendAdmissionReserved = false ∧ r.writeBudgetReserved = false := by
  unfold DispatchBudgets.admits at hrefused
  have hs : r.sendAdmissionReserved = true → r.metadata.opType = .send := h.send
  have hw : r.writeBudgetReserved = true → r.metadata.opType = .write := h.write
  cases hop : r.metadata.opType with
  | send => simp_all
  | write => simp_all
  | read => simp [hop] at hrefused
  | deferrable => simp [hop] at hrefused

theorem RecordsCoherent.effect {s s' : SesManager} {key : RequestKey}
    (h : RecordsCoherent s) (heff : Effect key s s') : RecordsCoherent s' := by
  cases heff with
  | other hsame _ =>
      unfold RecordsCoherent
      rw [hsame.requestStates]
      exact h
  | progress hr _ hkeep =>
      refine KeyedMap.forall_insert h ?_
      rw [hkeep]
      exact h key _ hr
  | retryErase | retrySet _ _ _ _ | retryUpdate _ _ _ => exact h
  | grantSend hr _ _ hop _ _ =>
      exact KeyedMap.forall_insert h ⟨fun _ => hop, (h key _ hr).write, nofun⟩
  | grantWrite hr _ _ hop _ _ =>
      exact KeyedMap.forall_insert h ⟨(h key _ hr).send, fun _ => hop, nofun⟩
  | grantFree hr _ _ =>
      exact KeyedMap.forall_insert h
        ⟨(h key _ hr).send, (h key _ hr).write, nofun⟩
  | releaseSend hr _ _ =>
      exact KeyedMap.forall_insert h ⟨nofun, (h key _ hr).write,
        fun hq => ⟨rfl, ((h key _ hr).queued hq).2⟩⟩
  | releaseWrite hr _ _ =>
      exact KeyedMap.forall_insert h ⟨(h key _ hr).send, nofun,
        fun hq => ⟨((h key _ hr).queued hq).1, rfl⟩⟩
  | link hr _ _ hblocked =>
      have hrefused := tryReserveDispatchBudget_eq_none.mp hblocked
      exact KeyedMap.forall_insert h ⟨(h key _ hr).send, (h key _ hr).write,
        fun _ => (h key _ hr).unreserved_of_refused hrefused⟩
  | unlink =>
      exact KeyedMap.forall_modify h fun r hr => ⟨hr.send, hr.write, nofun⟩
  | close reason hr _ _ hunlinked _ _ =>
      obtain ⟨hstates, -⟩ := closeRequest_frame s key reason _
      unfold RecordsCoherent
      rw [hstates]
      have hclosed := h key _ hr
      exact KeyedMap.forall_insert h ⟨hclosed.send, hclosed.write, hclosed.queued⟩

theorem RecordsCoherent.update {s s' : SesManager} (h : RecordsCoherent s)
    (hupd : Update s s') : RecordsCoherent s' := by
  cases hupd with
  | effect heff => exact h.effect heff
  | redispatch hlive =>
      have hsame := h _ _ hlive.lookup
      exact KeyedMap.forall_insert h ⟨hsame.send, hsame.write, hsame.queued⟩
  | wake | fire | advance => exact h

theorem RecordsCoherent.updates {s s' : SesManager} (h : RecordsCoherent s)
    (hupd : Updates s s') : RecordsCoherent s' :=
  hupd.invariant (P := RecordsCoherent) h fun _ _ => RecordsCoherent.update

theorem RecordsCoherent.rebuild {s : SesManager} (h : RecordsCoherent s)
    (key : RequestKey) (m : ExtendedOperationMetadata) (packet : Packet) :
    RecordsCoherent (s.rebuildRequest key m packet) := by
  obtain ⟨hstates, -⟩ := rebuildRequest_frame s key m packet
  unfold RecordsCoherent
  rw [hstates]
  exact KeyedMap.forall_insert h
    ⟨nofun, nofun, nofun⟩

/-! ## The budgets without one request -/

/-- The budgets once the request `key` has given its reservations back. -/
def returnedBudgets (s : SesManager) (key : RequestKey) : DispatchBudgets :=
  (s.requestStates.lookup key).elim s.budgets s.budgets.giveBack

theorem returnedBudgets_of_some {s : SesManager} {key : RequestKey}
    {r : RequestLifecycleState} (hr : s.requestStates.lookup key = some r) :
    s.returnedBudgets key = s.budgets.giveBack r := by
  simp [returnedBudgets, hr]

theorem returnedBudgets_below (s : SesManager) (key : RequestKey) :
    (s.returnedBudgets key).Below s.budgets := by
  unfold returnedBudgets
  cases s.requestStates.lookup key with
  | none => exact ⟨.refl _, .refl _⟩
  | some r => exact DispatchBudgets.giveBack_below _ _

/-- A request without reservations has nothing to give back. -/
theorem returnedBudgets_of_unreserved {s : SesManager} {key : RequestKey}
    (h : ∀ r, s.requestStates.lookup key = some r →
      r.sendAdmissionReserved = false ∧ r.writeBudgetReserved = false) :
    s.returnedBudgets key = s.budgets := by
  unfold returnedBudgets
  cases hr : s.requestStates.lookup key with
  | none => rfl
  | some r =>
      obtain ⟨hs, hw⟩ := h r hr
      simp [DispatchBudgets.giveBack, hs, hw]

/-- What a request does on its own behalf does not change the budgets without
it. -/
theorem Effect.returnedBudgets {s s' : SesManager} {key : RequestKey}
    (heff : Effect key s s') : s'.returnedBudgets key = s.returnedBudgets key := by
  have hwrite : ∀ {s s' : SesManager} {r r' : RequestLifecycleState},
      s.requestStates.lookup key = some r →
      s'.requestStates = s.requestStates.insert key r' →
      s'.budgets.giveBack r' = s.budgets.giveBack r →
      s'.returnedBudgets key = s.returnedBudgets key := by
    intro s s' r r' hr hstates hsame
    rw [returnedBudgets_of_some hr,
      returnedBudgets_of_some (hstates ▸ AList.lookup_insert _), hsame]
  cases heff with
  | other hsame _ =>
      simp only [SesManager.returnedBudgets, budgets, hsame.requestStates,
        hsame.sendAdmissionBudget, hsame.writeBudget]
  | progress hr _ hkeep => exact hwrite hr rfl (DispatchBudgets.giveBack_congr _ hkeep)
  | retryErase | retrySet _ _ _ _ | retryUpdate _ _ _ => rfl
  | grantSend hr _ _ _ hfree _ =>
      refine hwrite hr rfl ?_
      simp [DispatchBudgets.giveBack, budgets, unlinked, sendReserved, hfree]
  | grantWrite hr _ _ _ hfree _ =>
      refine hwrite hr rfl ?_
      simp [DispatchBudgets.giveBack, budgets, unlinked, writeReserved, hfree]
  | grantFree hr _ _ => exact hwrite hr rfl rfl
  | releaseSend hr _ hheld =>
      refine hwrite hr rfl ?_
      simp [DispatchBudgets.giveBack, budgets, sendReleased, hheld]
  | releaseWrite hr _ hheld =>
      refine hwrite hr rfl ?_
      simp [DispatchBudgets.giveBack, budgets, writeReleased, hheld]
  | link hr _ _ _ => exact hwrite hr rfl rfl
  | unlink =>
      cases hr : s.requestStates.lookup key with
      | none =>
          have hsame : KeyedMap.modify s.requestStates key unlinked = s.requestStates := by
            simp [KeyedMap.modify, hr]
          simp only [SesManager.returnedBudgets, budgets, removeBlockedRequest, hsame]
      | some r => exact hwrite hr (KeyedMap.modify_of_some hr) rfl
  | close reason hr _ _ _ _ _ =>
      obtain ⟨hstates, -, -, hsb, hwb⟩ := closeRequest_frame s key reason _
      refine hwrite hr hstates ?_
      simp only [budgets, hsb, hwb]
      rfl

end SesManager
end UeSim
