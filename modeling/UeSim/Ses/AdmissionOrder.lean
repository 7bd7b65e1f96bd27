import UeSim.Ses.DispatchCalls

/-!
# Who is granted a budget first

Every accepted submission, by the application or by a retry, gets the next
ticket.  The blocked queue of a peer is in the order of the tickets along every
run that replaces no record of a queued request, and a drain grants the budgets
in that order.  A new submission is dispatched without a look at the queue,
though: it is granted its budget ahead of the requests that wait for the same
budget whenever the budget admits it.
-/

namespace UeSim

/-- The budgets that a dispatch can draw on. -/
inductive DispatchPool
  | sendAdmission
  | write
  deriving DecidableEq, Repr

/-- The order of the submissions so far: how many there were, and for each
request the number of its last submission. -/
structure SubmissionOrder where
  submissions : ℕ := 0
  ticket : RequestKey → ℕ := fun _ => 0

/-- One more accepted submission takes the next ticket. -/
def SubmissionOrder.record (order : SubmissionOrder) :
    Option (ExtendedOperationMetadata × Packet) → SubmissionOrder
  | none => order
  | some (m, _) =>
      { submissions := order.submissions + 1
        ticket := Function.update order.ticket (SesManager.requestKey m)
          (order.submissions + 1) }

namespace SesManager

/-! ## Grants -/

/-- The budget that the dispatch of a request draws on. -/
def drawnPool (m : ExtendedOperationMetadata) : Option DispatchPool :=
  match m.opType with
  | .send => some .sendAdmission
  | .write => some .write
  | .read => none
  | .deferrable => none

/-- The budget that a call of `DispatchRequestPackets` is granted, if any. -/
def grantedPool (s : SesManager) (key : RequestKey) : Option DispatchPool :=
  (s.admittedRecord key).bind fun state => drawnPool state.metadata

/-- The request waits in the blocked queue of a peer for a budget. -/
def WaitsFor (s : SesManager) (peerFep : ℕ) (pool : DispatchPool) (key : RequestKey) : Prop :=
  key ∈ s.blockedQueue peerFep ∧
    ∃ r, s.requestStates.lookup key = some r ∧ drawnPool r.metadata = some pool

/-- A dispatch call is granted a budget only while no request to the same peer that
was submitted earlier waits for the same budget. -/
def GrantedInTurn (order : SubmissionOrder) (call : SesManager × RequestKey) : Prop :=
  ∀ pool, call.1.grantedPool call.2 = some pool →
    ∀ key, call.1.WaitsFor call.2.peerFep pool key → order.ticket call.2 ≤ order.ticket key

/-! ## The order of the queues -/

/-- The queues match the records and are in the order of the submissions. -/
structure InOrder (order : SubmissionOrder) (s : SesManager) : Prop where
  queues : QueuesMatch s
  sorted : ∀ p, (s.blockedQueue p).Pairwise fun k k' => order.ticket k < order.ticket k'
  issued : ∀ p, ∀ k ∈ s.blockedQueue p, order.ticket k ≤ order.submissions

variable {order : SubmissionOrder} {s s' : SesManager} {key : RequestKey}

theorem InOrder.shrinks (h : InOrder order s) (hmatch : QueuesMatch s') (hshrinks : Shrinks s s') :
    InOrder order s' where
  queues := hmatch
  sorted p := (h.sorted p).sublist (hshrinks p)
  issued p k hk := h.issued p k ((hshrinks p).subset hk)

/-- The newest request may join the end of its queue. -/
theorem InOrder.submit {m : ExtendedOperationMetadata} {packet : Packet} (h : InOrder order s)
    (hfree : ∀ p, requestKey m ∉ s.blockedQueue p) (hmatch : QueuesMatch s')
    (hshrinks : Shrinks (s.queueJoined (requestKey m)) s') :
    InOrder (order.record (some (m, packet))) s' := by
  have hother : ∀ p, ∀ k ∈ s.blockedQueue p,
      (order.record (some (m, packet))).ticket k = order.ticket k := by
    intro p k hk
    refine Function.update_of_ne ?_ _ _
    rintro rfl
    exact hfree p hk
  have hself : (order.record (some (m, packet))).ticket (requestKey m) = order.submissions + 1 :=
    Function.update_self _ _ _
  have hold : ∀ p, (s.blockedQueue p).Pairwise fun k k' =>
      (order.record (some (m, packet))).ticket k <
        (order.record (some (m, packet))).ticket k' := by
    intro p
    refine (h.sorted p).imp_of_mem fun {k k'} hk hk' hlt => ?_
    rw [hother p k hk, hother p k' hk']
    exact hlt
  refine ⟨hmatch, fun p => ?_, fun p k hk => ?_⟩
  · refine List.Pairwise.sublist (hshrinks p) ?_
    by_cases hp : p = (requestKey m).peerFep
    · subst hp
      have hjoined : (s.queueJoined (requestKey m)).blockedQueue (requestKey m).peerFep =
          s.blockedQueue (requestKey m).peerFep ++ [requestKey m] :=
        BlockedPeerQueues.requests_push_self _ _
      rw [hjoined, List.pairwise_append]
      refine ⟨hold _, List.pairwise_singleton _ _, fun k hk k' hk' => ?_⟩
      rw [List.mem_singleton.mp hk', hself, hother _ k hk]
      exact Nat.lt_succ_of_le (h.issued _ k hk)
    · have hsame : (s.queueJoined (requestKey m)).blockedQueue p = s.blockedQueue p :=
        BlockedPeerQueues.requests_push_ne _ hp
      rw [hsame]
      exact hold p
  · have hmem := (hshrinks p).subset hk
    by_cases hkey : k = requestKey m
    · subst hkey
      exact hself.le
    · have hbefore : k ∈ s.blockedQueue p := (mem_requests_push_ne hkey).mp hmem
      rw [hother p k hbefore]
      exact (h.issued p k hbefore).trans (Nat.le_succ _)

/-! ## Drains -/

/-- The calls of a drain of matching queues are made for the head of the queue, in
states whose queues have only lost requests. -/
theorem mem_drainCalls {env : Environment} {p fuel : ℕ} {call : SesManager × RequestKey}
    (h : QueuesMatch s) (hcall : call ∈ drainCalls env p fuel s) :
    QueuesMatch call.1 ∧ Shrinks s call.1 ∧ call.2.peerFep = p ∧
      (call.1.blockedQueue p).head? = some call.2 := by
  induction fuel generalizing s with
  | zero => simp [drainCalls] at hcall
  | succ fuel ih =>
      unfold drainCalls at hcall
      cases hqueue : s.blockedQueue p with
      | nil => simp [hqueue] at hcall
      | cons key rest =>
          simp only [hqueue, List.mem_append] at hcall
          obtain ⟨hpeer, r, hlive, hlinked⟩ := (h.mem_iff key p).mp (by simp [hqueue])
          rcases hcall with hhead | hrest
          · obtain ⟨rfl, r', hlive'⟩ := mem_headCalls hhead
            have hcounted : QueuesMatch (s.modifyRequest key redispatchCounted) := by
              rw [modifyRequest_of_some hlive.lookup]
              exact h.update (.redispatch hlive)
            refine ⟨hcounted, .of_same rfl, hpeer, ?_⟩
            exact (congrArg List.head? hqueue : _)
          · split_ifs at hrest with hstop
            · cases hrest
            obtain ⟨hmatch, hshrinks, hmine, hfirst⟩ :=
              ih (h.updates (redispatchHead_updates env s key)) hrest
            exact ⟨hmatch, (shrinks_redispatchHead env hlive hlinked).trans hshrinks, hmine,
              hfirst⟩

/-- The head of a queue is the earliest request in it. -/
theorem InOrder.head_le {p : ℕ} {k : RequestKey} (h : InOrder order s)
    (hhead : (s.blockedQueue p).head? = some key) (hk : k ∈ s.blockedQueue p) :
    order.ticket key ≤ order.ticket k := by
  obtain ⟨rest, hqueue⟩ := List.head?_eq_some_iff.mp hhead
  have hsorted := h.sorted p
  rw [hqueue, List.pairwise_cons] at hsorted
  rw [hqueue] at hk
  rcases List.mem_cons.mp hk with rfl | hrest
  · exact le_rfl
  · exact (hsorted.1 k hrest).le

theorem InOrder.grantedInTurn_drain {env : Environment} {p fuel : ℕ}
    {call : SesManager × RequestKey} (h : InOrder order s)
    (hcall : call ∈ drainCalls env p fuel s) : GrantedInTurn order call := by
  obtain ⟨hmatch, hshrinks, hpeer, hhead⟩ := mem_drainCalls h.queues hcall
  rintro pool - key ⟨hmem, -⟩
  rw [hpeer] at hmem
  exact (h.shrinks hmatch hshrinks).head_le hhead hmem

/-! ## Submissions -/

/-- Whether the budget that a request draws on refuses it. -/
def refusedByPool (s : SesManager) (m : ExtendedOperationMetadata) : Bool :=
  match m.opType with
  | .send => !s.sendAdmissionBudget.admits m.payloadBytes
  | .write => !s.writeBudget.admits m.payloadBytes
  | .read => false
  | .deferrable => false

/-- A request that is submitted while others to its peer wait for the same budget is
refused by that budget. -/
def SubmissionsWait (s : SesManager) (a : SesAction) : Prop :=
  ∀ m packet, s.rebuildOf a = some (m, packet) → ∀ pool key, drawnPool m = some pool →
    s.WaitsFor (requestKey m).peerFep pool key → s.refusedByPool m = true

instance (s : SesManager) (a : SesAction) : Decidable (s.SubmissionsWait a) :=
  decidable_of_iff ((s.rebuildOf a).all fun rebuilt => (drawnPool rebuilt.1).all fun pool =>
      (s.blockedQueue (requestKey rebuilt.1).peerFep).all fun key =>
        (s.requestStates.lookup key).all fun r =>
          drawnPool r.metadata != some pool || s.refusedByPool rebuilt.1) <| by
    simp only [SubmissionsWait, WaitsFor, Option.all_eq_true, List.all_eq_true, Bool.or_eq_true,
      bne_iff_ne, Prod.forall, and_imp, forall_exists_index]
    refine forall_congr' fun m => forall_congr' fun packet => imp_congr_right fun _ => ?_
    refine ⟨fun h pool key hpool hmem r hr hdrawn => ?_, fun h pool hpool key hmem r hr => ?_⟩
    · exact (h pool hpool key hmem r hr).resolve_left fun hne => hne hdrawn
    · by_cases hdrawn : drawnPool r.metadata = some pool
      · exact .inr (h pool key hpool hmem r hr hdrawn)
      · exact .inl hdrawn

theorem isSome_tryReserveDispatchBudget {m : ExtendedOperationMetadata} {r : RequestLifecycleState}
    (hmeta : r.metadata = m) (hsend : r.sendAdmissionReserved = false)
    (hwrite : r.writeBudgetReserved = false) :
    (s.tryReserveDispatchBudget key r).isSome = !s.refusedByPool m := by
  subst hmeta
  unfold tryReserveDispatchBudget refusedByPool SemanticBudgetState.tryReserve
  cases r.metadata.opType with
  | send =>
      cases s.sendAdmissionBudget.admits r.metadata.payloadBytes <;> simp [hsend]
  | write =>
      cases s.writeBudget.admits r.metadata.payloadBytes <;> simp [hwrite]
  | read => rfl
  | deferrable => rfl

/-- A submission is granted what it draws on, unless it is refused. -/
theorem SubmissionCall.grantedPool {m : ExtendedOperationMetadata} {packet : Packet}
    {call : SesManager × RequestKey} (h : s.SubmissionCall m packet call) :
    call.1.grantedPool call.2 = if s.refusedByPool m then none else drawnPool m := by
  have hrefused : call.1.refusedByPool m = s.refusedByPool m := by
    simp only [refusedByPool, h.sendAdmissionBudget, h.writeBudget]
  have hreserve : (call.1.tryReserveDispatchBudget call.2 (s.rebuiltRequest m packet
      (s.requestStates.lookup (requestKey m)))).isSome = !s.refusedByPool m := by
    rw [isSome_tryReserveDispatchBudget (m := m) rfl rfl rfl, hrefused]
  have hlive : (s.rebuiltRequest m packet
      (s.requestStates.lookup (requestKey m))).terminalized = false := rfl
  have hunlinked : (s.rebuiltRequest m packet
      (s.requestStates.lookup (requestKey m))).blockedQueueLinked = false := rfl
  have hmeta : (s.rebuiltRequest m packet
      (s.requestStates.lookup (requestKey m))).metadata = m := rfl
  simp only [SesManager.grantedPool, admittedRecord, h.lookup, hlive, hunlinked, hreserve,
    Bool.false_and, Bool.false_eq_true, if_false]
  cases s.refusedByPool m with
  | true => rfl
  | false => exact congrArg drawnPool hmeta

/-- Who waits while a submission is dispatched has waited before it. -/
theorem SubmissionCall.waitsFor_iff {m : ExtendedOperationMetadata} {packet : Packet}
    {call : SesManager × RequestKey} {p : ℕ} {pool : DispatchPool}
    (h : s.SubmissionCall m packet call) (hfree : requestKey m ∉ s.blockedQueue p) :
    call.1.WaitsFor p pool key ↔ s.WaitsFor p pool key := by
  have hqueue : call.1.blockedQueue p = s.blockedQueue p := by
    simp only [blockedQueue, h.blockedPeerQueues]
  unfold WaitsFor
  rw [hqueue]
  refine and_congr_right fun hmem => ?_
  have hne : key ≠ requestKey m := by
    rintro rfl
    exact hfree hmem
  rw [h.requestStates, AList.lookup_insert_ne hne]

/-! ## Runs -/

/-- A manager together with the order of the submissions so far. -/
structure OrderedManager where
  manager : SesManager
  order : SubmissionOrder

namespace OrderedManager

/-- The order once the submission of an action, if it makes one, is recorded. -/
def submitted (t : OrderedManager) (a : SesAction) : SubmissionOrder :=
  t.order.record (t.manager.rebuildOf a)

/-- Every dispatch call of the action is granted its budget in its turn. -/
def ServesInTurn (env : Environment) (t : OrderedManager) (a : SesAction) : Prop :=
  ∀ call ∈ t.manager.dispatchRequestCalls env a, GrantedInTurn (t.submitted a) call

end OrderedManager

/-- The manager with the order of its submissions. -/
def orderedSystem (env : Environment) : TransitionSystem OrderedManager SesAction where
  init t := Initial t.manager ∧ t.order = {}
  step t a := (sesStep env t.manager a).map fun s' => ⟨s', t.submitted a⟩

/-- Without the record of a queued request replaced, a request that is submitted is
in no queue. -/
theorem RebuildsUnlinked.not_queued {a : SesAction} {m : ExtendedOperationMetadata}
    {packet : Packet} (hguard : RebuildsUnlinked s a) (h : QueuesMatch s)
    (hrebuild : s.rebuildOf a = some (m, packet)) (p : ℕ) : requestKey m ∉ s.blockedQueue p := by
  intro hmem
  obtain ⟨-, r, hlive, hlinked⟩ := (h.mem_iff _ p).mp hmem
  have hunlinked := hguard m packet hrebuild r hlive.lookup
  exact Bool.false_ne_true (hunlinked.symm.trans hlinked)

theorem inOrder_step {env : Environment} {t t' : OrderedManager} {a : SesAction}
    (h : InOrder t.order t.manager) (hguard : RebuildsUnlinked t.manager a)
    (hstep : (orderedSystem env).step t a = some t') : InOrder t'.order t'.manager := by
  obtain ⟨s', hses, rfl⟩ := Option.map_eq_some_iff.mp hstep
  have hmatch : QueuesMatch s' := queuesMatch_step h.queues hguard hses
  dsimp only
  cases hrebuild : t.manager.rebuildOf a with
  | none =>
      have hsame : t.submitted a = t.order := by
        simp only [OrderedManager.submitted, hrebuild, SubmissionOrder.record]
      rw [hsame]
      exact h.shrinks hmatch (shrinks_sesStep h.queues hrebuild hses)
  | some accepted =>
      obtain ⟨m, packet⟩ := accepted
      have hsame : t.submitted a = t.order.record (some (m, packet)) := by
        simp only [OrderedManager.submitted, hrebuild]
      rw [hsame]
      exact h.submit (hguard.not_queued h.queues hrebuild) hmatch
        (shrinks_sesStep_rebuild hrebuild hses)

theorem inOrder_initial {t : OrderedManager} (h : (orderedSystem env).init t) :
    InOrder t.order t.manager := by
  obtain ⟨hinit, -⟩ := h
  have hempty : ∀ p, t.manager.blockedQueue p = [] := by
    intro p
    simp [blockedQueue, BlockedPeerQueues.requests, hinit.blockedPeerQueues]
  refine ⟨queuesMatch_initial hinit, fun p => ?_, fun p k hk => ?_⟩
  · rw [hempty p]
    exact List.Pairwise.nil
  · rw [hempty p] at hk
    cases hk

/-- An action serves in turn exactly when its submission waits for those that wait
already. -/
theorem servesInTurn_iff {env : Environment} {t : OrderedManager} {a : SesAction}
    (h : InOrder t.order t.manager) (hguard : RebuildsUnlinked t.manager a) :
    t.ServesInTurn env a ↔ SubmissionsWait t.manager a := by
  cases hrebuild : t.manager.rebuildOf a with
  | none =>
      refine iff_of_true (fun call hcall => ?_) fun m packet hsome => ?_
      · obtain ⟨p, fuel, hdrain⟩ := drainCall_of_quiet hrebuild hcall
        have hsame : t.submitted a = t.order := by
          simp only [OrderedManager.submitted, hrebuild, SubmissionOrder.record]
        rw [hsame]
        have hfired : Shrinks t.manager (t.manager.wakeupFired p) := fun p' => by
          have hqueue : (t.manager.wakeupFired p).blockedQueue p' = t.manager.blockedQueue p' :=
            BlockedPeerQueues.requests_fire _ _ _
          rw [hqueue]
        exact (h.shrinks (h.queues.update (.fire _ p)) hfired).grantedInTurn_drain hdrain
      · cases hrebuild.symm.trans hsome
  | some accepted =>
      obtain ⟨m, packet⟩ := accepted
      have hnew : (t.submitted a).ticket (requestKey m) = t.order.submissions + 1 := by
        simp only [OrderedManager.submitted, hrebuild, SubmissionOrder.record,
          Function.update_self]
      have hfree := hguard.not_queued h.queues hrebuild
      constructor
      · intro hserves m' packet' hsome pool key hpool hwaits
        cases hrebuild.symm.trans hsome
        refine Bool.not_eq_false _ ▸ fun hadmitted => ?_
        obtain ⟨call, hcall⟩ := exists_submissionCall env hrebuild
        have hsubmission := submissionCall_of_rebuild hrebuild hcall
        have hgranted : call.1.grantedPool call.2 = some pool := by
          rw [hsubmission.grantedPool, hadmitted]
          exact hpool
        have hwaits' : call.1.WaitsFor call.2.peerFep pool key := by
          rw [hsubmission.key]
          exact (hsubmission.waitsFor_iff (hfree _)).mpr hwaits
        have hturn := hserves call hcall pool hgranted key hwaits'
        have hother : (t.submitted a).ticket key = t.order.ticket key := by
          simp only [OrderedManager.submitted, hrebuild, SubmissionOrder.record]
          refine Function.update_of_ne ?_ _ _
          rintro rfl
          exact hfree _ hwaits.1
        have hissued := h.issued _ key hwaits.1
        rw [hsubmission.key, hnew, hother] at hturn
        omega
      · intro hwait call hcall pool hgranted key hwaits
        have hsubmission := submissionCall_of_rebuild hrebuild hcall
        rw [hsubmission.key] at hwaits
        rw [hsubmission.grantedPool] at hgranted
        have hwaits' := (hsubmission.waitsFor_iff (hfree _)).mp hwaits
        cases hrefused : t.manager.refusedByPool m with
        | true => simp [hrefused] at hgranted
        | false =>
            simp only [hrefused, Bool.false_eq_true, if_false] at hgranted
            have := hwait m packet hrebuild pool key hgranted hwaits'
            exact absurd (hrefused.symm.trans this) Bool.false_ne_true

/-- The condition on one action: it replaces no record of a queued request, and its
submission waits for those that wait already. -/
def QueuesBehind (t : OrderedManager) (a : SesAction) : Prop :=
  RebuildsUnlinked t.manager a ∧ SubmissionsWait t.manager a

instance (t : OrderedManager) (a : SesAction) : Decidable (QueuesBehind t a) :=
  inferInstanceAs (Decidable (RebuildsUnlinked t.manager a ∧ SubmissionsWait t.manager a))

/-- Along every run whose submissions queue behind those that wait for the same
budget, every dispatch is granted its budget in the order of the submissions. -/
theorem servesInTurn_of_queuesBehind (env : Environment) (t : OrderedManager) (a : SesAction)
    (hreach : (orderedSystem env).ReachableBy QueuesBehind t) (hguard : QueuesBehind t a) :
    t.ServesInTurn env a := by
  have horder : InOrder t.order t.manager := hreach.invariant
    (P := fun t => InOrder t.order t.manager) (fun _ => inOrder_initial)
    (fun _ _ _ h hstep => inOrder_step h hstep.1)
  exact (servesInTurn_iff horder hguard.1).mpr hguard.2

/-- A manager that admits ten bytes at a time. -/
def tenBytes : SesManager where
  sendAdmissionBudget := { byteLimit := 10 }

/-- Three SENDs of six bytes, of which two wait, and the completion of the first. -/
def waitingSends : List SesAction :=
  [.sendRequest (sampleSend 2 1) (some [0, 0, 0, 0, 0, 0]),
    .sendRequest (sampleSend 2 2) (some [0, 0, 0, 0, 0, 0]),
    .sendRequest (sampleSend 2 3) (some [0, 0, 0, 0, 0, 0]),
    .receiveResponse (sampleResponse 2 1 .ok)]

/-- The drain after the completion is granted the budget for the second SEND, for which the
third one waits too. -/
theorem servesInTurn_waitingSends :
    ∃ t, (orderedSystem reliable).runActions ⟨tenBytes, {}⟩ waitingSends = some t ∧
      t.manager.blockedQueue 2 = [sampleKey 2 2, sampleKey 2 3] ∧
      (t.manager.dispatchRequestCalls reliable (.wakeupEvent 2 3)).map
          (fun call => (call.2, call.1.grantedPool call.2)) =
        [(sampleKey 2 2, some .sendAdmission), (sampleKey 2 3, none)] ∧
      t.ServesInTurn reliable (.wakeupEvent 2 3) := by
  obtain ⟨t, ht⟩ :
      ∃ t, (orderedSystem reliable).runActions ⟨tenBytes, {}⟩ waitingSends = some t :=
    Option.isSome_iff_exists.mp (by decide)
  have hend : ((orderedSystem reliable).runActions ⟨tenBytes, {}⟩ waitingSends).map
      (fun t => (t.manager.blockedQueue 2,
        (t.manager.dispatchRequestCalls reliable (.wakeupEvent 2 3)).map
          fun call => (call.2, call.1.grantedPool call.2))) =
      some ([sampleKey 2 2, sampleKey 2 3],
        [(sampleKey 2 2, some .sendAdmission), (sampleKey 2 3, none)]) := by decide
  rw [ht, Option.map_some, Option.some.injEq, Prod.mk.injEq] at hend
  have hguarded : (orderedSystem reliable).GuardedRun QueuesBehind ⟨tenBytes, {}⟩ waitingSends := by
    decide
  refine ⟨t, ht, hend.1, hend.2, servesInTurn_of_queuesBehind reliable t _
    (.of_guardedRun (.init ⟨?_, rfl⟩) hguarded ht) ⟨?_, ?_⟩⟩
  · exact ⟨rfl, rfl, rfl, rfl, rfl, rfl, rfl, rfl, rfl, rfl⟩
  · rintro m packet hrebuild
    cases hrebuild
  · rintro m packet hrebuild
    cases hrebuild

/-! ## A request that overtakes another -/

/-- A SEND of six bytes is dispatched, and a second one is blocked. -/
def blockedSend : List SesAction :=
  [.sendRequest (sampleSend 2 1) (some [0, 0, 0, 0, 0, 0]),
    .sendRequest (sampleSend 2 2) (some [0, 0, 0, 0, 0, 0])]

/-- A SEND of two bytes. -/
def smallSend : SesAction := .sendRequest (sampleSend 2 3) (some [0, 0])

/-- Whether a dispatch call of the action is granted a send admission while the
second SEND waits for one. -/
def overtakesSecond (t : OrderedManager) (a : SesAction) : Bool :=
  (t.manager.dispatchRequestCalls reliable a).any fun call =>
    call.1.grantedPool call.2 = some .sendAdmission &&
      (call.1.blockedQueue call.2.peerFep).contains (sampleKey 2 2) &&
      (call.1.requestStates.lookup (sampleKey 2 2)).any
        (fun r => drawnPool r.metadata = some .sendAdmission) &&
      (t.submitted a).ticket (sampleKey 2 2) < (t.submitted a).ticket call.2

/-- A third SEND of two bytes is granted its budget while the second one waits. -/
theorem small_send_overtakes :
    ∃ t, (orderedSystem reliable).Reachable t ∧
      (orderedSystem reliable).runActions ⟨tenBytes, {}⟩ blockedSend = some t ∧
      ¬ t.ServesInTurn reliable smallSend := by
  obtain ⟨t, ht⟩ : ∃ t, (orderedSystem reliable).runActions ⟨tenBytes, {}⟩ blockedSend = some t :=
    Option.isSome_iff_exists.mp (by decide)
  have hend : ((orderedSystem reliable).runActions ⟨tenBytes, {}⟩ blockedSend).map
      (fun t => overtakesSecond t smallSend) = some true := by decide
  rw [ht, Option.map_some, Option.some.injEq, overtakesSecond, List.any_eq_true] at hend
  obtain ⟨call, hcall, hovertakes⟩ := hend
  simp only [Bool.and_eq_true, decide_eq_true_eq, List.contains_iff_mem, Option.any_eq_true]
    at hovertakes
  obtain ⟨⟨⟨hgranted, hmem⟩, r, hr, hpool⟩, hlater⟩ := hovertakes
  refine ⟨t, ?_, ht, fun hserves => ?_⟩
  · refine TransitionSystem.ReachableBy.runActions (.init ⟨?_, rfl⟩) (fun _ _ _ => trivial) ht
    exact ⟨rfl, rfl, rfl, rfl, rfl, rfl, rfl, rfl, rfl, rfl⟩
  · have hturn := hserves call hcall _ hgranted _ ⟨hmem, r, hr, hpool⟩
    omega

end SesManager
end UeSim
