import UeSim.Ses.Cargo
import UeSim.Ses.DispatchCalls

/-!
# Requests that can be served

A queued request waits for its budget.  An endpoint with nothing in use grants
it, unless its payload exceeds the byte limit: such a request is queued like any
other, and neither a release nor a wakeup can ever admit it.
-/

namespace UeSim
namespace SesManager

variable {s s' : SesManager} {key : RequestKey}

/-! ## Limits -/

/-- The endpoint with nothing in use. -/
def budgetsEmptied (s : SesManager) : SesManager :=
  { s with
    sendAdmissionBudget := s.sendAdmissionBudget.emptied
    writeBudget := s.writeBudget.emptied }

/-- Whether the payload of a request is within the byte limit of its budget. -/
def fitsLimits (s : SesManager) (m : ExtendedOperationMetadata) : Bool :=
  match m.opType with
  | .send => s.sendAdmissionBudget.fits m.payloadBytes
  | .write => s.writeBudget.fits m.payloadBytes
  | .read => true
  | .deferrable => true

/-- The endpoint with nothing in use grants every request within its limit. -/
theorem tryReserve_budgetsEmptied {r : RequestLifecycleState}
    (h : s.fitsLimits r.metadata = true) :
    (s.budgetsEmptied.tryReserveDispatchBudget key r).isSome = true := by
  unfold fitsLimits at h
  unfold tryReserveDispatchBudget budgetsEmptied SemanticBudgetState.tryReserve
  cases hop : r.metadata.opType with
  | send =>
      simp only [hop] at h
      simp only [SemanticBudgetState.admits_emptied, h]
      split_ifs <;> rfl
  | write =>
      simp only [hop] at h
      simp only [SemanticBudgetState.admits_emptied, h]
      split_ifs <;> rfl
  | read => rfl
  | deferrable => rfl

/-- A request beyond its limit is refused whatever is in use. -/
theorem tryReserve_of_not_fits {r : RequestLifecycleState}
    (h : s.fitsLimits r.metadata = false) (hsend : r.sendAdmissionReserved = false)
    (hwrite : r.writeBudgetReserved = false) :
    s.tryReserveDispatchBudget key r = none := by
  unfold fitsLimits at h
  unfold tryReserveDispatchBudget
  cases hop : r.metadata.opType with
  | send =>
      simp only [hop] at h
      simp [hsend, SemanticBudgetState.tryReserve_eq_none.mpr
        (SemanticBudgetState.admits_eq_false_of_not_fits h)]
  | write =>
      simp only [hop] at h
      simp [hwrite, SemanticBudgetState.tryReserve_eq_none.mpr
        (SemanticBudgetState.admits_eq_false_of_not_fits h)]
  | read => simp [hop] at h
  | deferrable => simp [hop] at h

theorem SameLimits.fitsLimits (h : SameLimits s s') (m : ExtendedOperationMetadata) :
    s'.fitsLimits m = s.fitsLimits m := by
  simp only [SesManager.fitsLimits, SemanticBudgetState.fits, h.send, h.write]

/-- Every request on record is within the limit of its budget. -/
def RecordsFit (s : SesManager) : Prop :=
  RecordsCarry (fun m _ _ => s.fitsLimits m = true) s

/-! ## The queues -/

/-- Every queued request would be granted its budget by an endpoint with nothing in
use. -/
def QueuesServable (s : SesManager) : Prop :=
  ∀ p key r, key ∈ s.blockedQueue p → s.requestStates.lookup key = some r →
    (s.budgetsEmptied.tryReserveDispatchBudget key r).isSome = true

/-- The action submits no request beyond the limit of its budget. -/
def SubmissionsFit (s : SesManager) (a : SesAction) : Prop :=
  ∀ m packet, s.rebuildOf a = some (m, packet) → s.fitsLimits m = true

instance (s : SesManager) (a : SesAction) : Decidable (s.SubmissionsFit a) :=
  decidable_of_iff ((s.rebuildOf a).all fun rebuilt => s.fitsLimits rebuilt.1) <| by
    simp [SubmissionsFit, Option.all_eq_true]

/-- A submitted request beyond the limit of its budget is refused with an error and
not queued. -/
def RefusesOversized (env : Environment) (s : SesManager) (a : SesAction) : Prop :=
  ∀ m packet, s.rebuildOf a = some (m, packet) → s.fitsLimits m = false →
    (∀ call ∈ s.dispatchRequestCalls env a,
      (dispatchRequestPackets env call.1 call.2).2 = false) ∧
    ∀ s', sesStep env s a = some s' → requestKey m ∉ s'.blockedQueue (requestKey m).peerFep

theorem RecordsFit.queuesServable (h : RecordsFit s) : QueuesServable s :=
  fun _ key r _ hr => tryReserve_budgetsEmptied (h key r hr)

theorem recordsFit_step {env : Environment} {a : SesAction} (h : RecordsFit s)
    (hguard : SubmissionsFit s a) (hstep : sesStep env s a = some s') : RecordsFit s' := by
  have hkeep := recordsCarry_step h hguard hstep
  intro key r hr
  rw [(sameLimits_step hstep).fitsLimits]
  exact hkeep key r hr

/-! ## Requests beyond their limit -/

/-- A request that is refused when it is submitted joins its queue. -/
theorem dispatchRequestPackets_refused (env : Environment) {r : RequestLifecycleState}
    (h : Live s key r) (hunlinked : r.blockedQueueLinked = false)
    (hrefused : s.tryReserveDispatchBudget key r = none) :
    dispatchRequestPackets env s key =
      ({ s with
        requestStates := s.requestStates.insert key (gateClosed (linked r))
        blockedPeerQueues := s.blockedPeerQueues.push key }, true) := by
  have hjoined : s.enqueueBlockedRequest key = { s with
      requestStates := s.requestStates.insert key (linked r)
      blockedPeerQueues := s.blockedPeerQueues.push key } := by
    simp [enqueueBlockedRequest, h.lookup, hunlinked]
  simp only [dispatchRequestPackets, h.lookup, h.live, hunlinked, hrefused, hjoined,
    Bool.false_and, Bool.false_eq_true, if_false]
  rw [modifyRequest_of_some (AList.lookup_insert _)]
  simp only [AList.insert_insert]

/-- The request is queued beyond the limit of its budget. -/
structure Stuck (s : SesManager) (m : ExtendedOperationMetadata) : Prop where
  queued : requestKey m ∈ s.blockedQueue (requestKey m).peerFep
  beyond : ∃ r, s.requestStates.lookup (requestKey m) = some r ∧
    s.fitsLimits r.metadata = false ∧ r.sendAdmissionReserved = false ∧
      r.writeBudgetReserved = false

theorem Stuck.not_servable {m : ExtendedOperationMetadata} (h : Stuck s m) :
    ¬ QueuesServable s := by
  obtain ⟨r, hr, hover, hsend, hwrite⟩ := h.beyond
  intro hservable
  have hgranted := hservable _ _ r h.queued hr
  have hover' : s.budgetsEmptied.fitsLimits r.metadata = false := hover
  rw [tryReserve_of_not_fits hover' hsend hwrite] at hgranted
  exact absurd hgranted (by decide)

/-- A submission beyond its limit is queued all the same. -/
theorem submitRequest_stuck (env : Environment) (s : SesManager)
    (m₀ m : ExtendedOperationMetadata) (packet : Packet) (hover : s.fitsLimits m = false) :
    Stuck ((s.submissionCounted m₀).submitRequest env m packet).1 m := by
  obtain ⟨-, hstates, -, hsend, hwrite, -⟩ := submissionCall_rebuilt s m₀ m packet
  simp only [submitRequest]
  rw [show (authorizeJob _ m.jobId).cancelPendingRetry (requestKey m) m =
    s.preparedState m₀ m from rfl]
  generalize (s.preparedState m₀ m).rebuildRequest (requestKey m) m packet = s₁ at *
  generalize hfresh : s.rebuiltRequest m packet _ = r at hstates
  have hmeta : r.metadata = m := by rw [← hfresh]; rfl
  have hlive : Live s₁ (requestKey m) r :=
    ⟨by rw [hstates, AList.lookup_insert], by rw [← hfresh]; rfl⟩
  have hover₁ : s₁.fitsLimits r.metadata = false := by
    rw [hmeta, (SameLimits.of_same hsend hwrite).fitsLimits, hover]
  have hrefused : s₁.tryReserveDispatchBudget (requestKey m) r = none :=
    tryReserve_of_not_fits hover₁ (by rw [← hfresh]; rfl) (by rw [← hfresh]; rfl)
  rw [dispatchRequestPackets_refused env hlive (by rw [← hfresh]; rfl) hrefused]
  have hwaits : ({ s₁ with
      requestStates := s₁.requestStates.insert (requestKey m) (gateClosed (linked r))
      blockedPeerQueues := s₁.blockedPeerQueues.push (requestKey m) } :
        SesManager).completeWithoutResponse (requestKey m) = { s₁ with
      requestStates := s₁.requestStates.insert (requestKey m) (gateClosed (linked r))
      blockedPeerQueues := s₁.blockedPeerQueues.push (requestKey m) } := by
    simp [completeWithoutResponse, gateClosed, linked]
  simp only [Bool.not_true, Bool.false_eq_true, if_false, hwaits]
  refine ⟨?_, gateClosed (linked r), AList.lookup_insert _, hover₁, ?_, ?_⟩
  · have hpushed := BlockedPeerQueues.requests_push_self s₁.blockedPeerQueues (requestKey m)
    change requestKey m ∈ (s₁.blockedPeerQueues.push (requestKey m)).requests _
    rw [hpushed]
    exact List.mem_append_right _ (List.mem_singleton_self _)
  · rw [← hfresh]
    rfl
  · rw [← hfresh]
    rfl

/-- A step that submits a request beyond its limit leaves it stuck in its queue. -/
theorem sesStep_stuck {env : Environment} {a : SesAction} {m : ExtendedOperationMetadata}
    {packet : Packet} (hrebuild : s.rebuildOf a = some (m, packet))
    (hover : s.fitsLimits m = false) (hstep : sesStep env s a = some s') : Stuck s' m := by
  cases a with
  | sendRequest m₀ packet₀ =>
      cases hstep
      rw [processSendRequest_accepted env hrebuild]
      exact submitRequest_stuck env s m₀ m packet hover
  | retryEvent key =>
      simp only [sesStep, Option.ite_none_right_eq_some, Option.some.injEq] at hstep
      obtain ⟨-, rfl⟩ := hstep
      obtain ⟨retry, hdue, haccepted⟩ := Option.bind_eq_some_iff.mp hrebuild
      have haccepted' : (s.retryFired key retry).acceptedRequest retry.metadata
          (some retry.packet) = some (m, packet) := haccepted
      rw [executeRetry_of_due env hdue, processSendRequest_accepted env haccepted']
      have hstuck := submitRequest_stuck env (s.retryFired key retry) retry.metadata m packet hover
      exact ⟨hstuck.queued, hstuck.beyond⟩
  | receiveResponse _ | receiveWrite _ | checkTimeout _ | wakeupEvent _ _ | advanceClock _
  | creditsAvailable _ | setAuthorizeAllJobs _ | revokeJobAuthorization _
  | setPermissionChecker _ => cases hrebuild

/-! ## Runs -/

/-- Along a run, every queued request can be served and every request beyond its
limit is refused with an error exactly when no step submits a request beyond its
limit. -/
theorem queuesServable_iff (env : Environment) (s : SesManager) (as : List SesAction)
    (s' : SesManager) (hinit : Initial s) (hrun : (sesSystem env).runActions s as = some s') :
    ((sesSystem env).Throughout QueuesServable s as ∧
        (sesSystem env).GuardedRun (RefusesOversized env) s as) ↔
      (sesSystem env).GuardedRun SubmissionsFit s as := by
  have hempty : RecordsFit s := recordsCarry_initial hinit
  have hserved : (sesSystem env).Throughout QueuesServable s as ↔
      (sesSystem env).GuardedRun SubmissionsFit s as := by
    apply TransitionSystem.throughout_iff_guardedRun (P := RecordsFit) _ _ hempty
      hempty.queuesServable hrun
    · intro s a t hfit _ hguard hstep
      have hfit' := recordsFit_step hfit hguard hstep
      exact ⟨hfit', hfit'.queuesServable⟩
    · intro s a t _ _ hguard hstep hservable
      apply hguard
      intro m packet hrebuild
      by_contra hover
      exact (sesStep_stuck hrebuild (Bool.eq_false_iff.mpr hover) hstep).not_servable hservable
  refine ⟨fun h => hserved.mp h.1, fun h => ⟨hserved.mpr h, h.mono ?_⟩⟩
  intro s a hfits m packet hrebuild hover
  exact absurd (hover.symm.trans (hfits m packet hrebuild)) Bool.false_ne_true

/-- Three SENDs of ten, six and ten bytes at a manager that admits ten bytes at a time: two
wait, and a drain serves the first of them when the SEND before it has completed. -/
def tenByteSends : List SesAction :=
  [.sendRequest (sampleSend 2 1) (some (List.replicate 10 0)),
    .sendRequest (sampleSend 2 2) (some (List.replicate 6 0)),
    .sendRequest (sampleSend 2 3) (some (List.replicate 10 0)),
    .receiveResponse (sampleResponse 2 1 .ok), .wakeupEvent 2 3]

/-- The last of these SENDs still waits at the end, and can be served. -/
theorem queuesServable_tenByteSends :
    ∃ s, (sesSystem reliable).runActions { sendAdmissionBudget := { byteLimit := 10 } }
        tenByteSends = some s ∧
      s.blockedQueue 2 = [sampleKey 2 3] ∧
      (sesSystem reliable).Throughout QueuesServable
        { sendAdmissionBudget := { byteLimit := 10 } } tenByteSends ∧
      (sesSystem reliable).GuardedRun (RefusesOversized reliable)
        { sendAdmissionBudget := { byteLimit := 10 } } tenByteSends := by
  obtain ⟨s, hs⟩ : ∃ s, (sesSystem reliable).runActions
      { sendAdmissionBudget := { byteLimit := 10 } } tenByteSends = some s :=
    Option.isSome_iff_exists.mp (by decide)
  have hqueue : ((sesSystem reliable).runActions { sendAdmissionBudget := { byteLimit := 10 } }
      tenByteSends).map (fun s => s.blockedQueue 2) = some [sampleKey 2 3] := by decide
  rw [hs, Option.map_some, Option.some.injEq] at hqueue
  have hguarded : (sesSystem reliable).GuardedRun SubmissionsFit
      { sendAdmissionBudget := { byteLimit := 10 } } tenByteSends := by
    decide
  have hserved := (queuesServable_iff reliable _ _ _
    ⟨rfl, rfl, rfl, rfl, rfl, rfl, rfl, rfl, rfl, rfl⟩ hs).mpr hguarded
  exact ⟨s, hs, hqueue, hserved.1, hserved.2⟩

/-- A SEND of eleven bytes is queued by that manager, although it can never be
admitted. -/
theorem oversized_send_queued :
    ∃ s, (sesSystem reliable).Reachable s ∧
      (sesSystem reliable).runActions { sendAdmissionBudget := { byteLimit := 10 } }
        [.sendRequest (sampleSend 2 1) (some [0, 0, 0, 0, 0, 0, 0, 0, 0, 0, 0])] = some s ∧
      ¬ QueuesServable s := by
  refine ⟨_, ?_, rfl, ?_⟩
  · exact .step (.sendRequest (sampleSend 2 1) (some [0, 0, 0, 0, 0, 0, 0, 0, 0, 0, 0]))
      (.init ⟨rfl, rfl, rfl, rfl, rfl, rfl, rfl, rfl, rfl, rfl⟩) trivial rfl
  · intro hservable
    have hgranted := hservable 2 (sampleKey 2 1) _ (by decide) rfl
    exact absurd hgranted (by decide)

end SesManager
end UeSim
