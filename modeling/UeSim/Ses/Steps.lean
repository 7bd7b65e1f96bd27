import UeSim.Ses.Effects

/-!
# Steps of the manager as sequences of updates

One action of the manager is a sequence of elementary updates, except that an
accepted submission also replaces the record of its request.  `rebuildOf` says
from the state before the step and the action whether and for which request
this happens.  An invariant of the elementary updates that survives this
replacement is an invariant of all runs.
-/

namespace UeSim
namespace SesManager

/-! ## Updates -/

/-- The elementary updates of one manager. -/
inductive Update : SesManager → SesManager → Prop
  | effect {s s' : SesManager} {key : RequestKey} (heff : Effect key s s') : Update s s'
  | redispatch {s : SesManager} {key : RequestKey} {r : RequestLifecycleState}
      (h : Live s key r) :
      Update s { s with requestStates := s.requestStates.insert key (redispatchCounted r) }
  | wake (s : SesManager) (peerFep : ℕ) :
      Update s { s with blockedPeerQueues := s.blockedPeerQueues.wake peerFep }
  | fire (s : SesManager) (peerFep : ℕ) :
      Update s (s.wakeupFired peerFep)
  | advance (s : SesManager) (deltaNs : ℕ) :
      Update s { s with nowNs := s.nowNs + deltaNs }

/-- A sequence of elementary updates. -/
abbrev Updates : SesManager → SesManager → Prop :=
  Relation.ReflTransGen Update

theorem Update.updates {s s' : SesManager} (h : Update s s') : Updates s s' :=
  Relation.ReflTransGen.single h

theorem Effects.updates {key : RequestKey} {s s' : SesManager} (h : Effects key s s') :
    Updates s s' :=
  Relation.ReflTransGen.mono (fun _ _ heff => Update.effect heff) _ _ h

theorem SameTracked.updates {s s' : SesManager} (h : SameTracked s s')
    (hdispatched : s'.dispatched = s.dispatched) : Updates s s' :=
  have heff : Effect ⟨0, 0, 0⟩ s s' := .other h (.of_same hdispatched)
  (Update.effect heff).updates

/-- An invariant of the single updates is an invariant of their sequences. -/
theorem Updates.invariant {s s' : SesManager} {P : SesManager → Prop}
    (h : Updates s s') (hinv : P s)
    (hstep : ∀ s s', P s → Update s s' → P s') : P s' := by
  induction h with
  | refl => exact hinv
  | tail _ hupd ih => exact hstep _ _ ih hupd

/-! ## Actions without a replacement -/

theorem redispatchHead_updates (env : Environment) (s : SesManager) (key : RequestKey) :
    Updates s (redispatchHead env s key).1 := by
  rcases redispatchHead_effects env s key with heff | ⟨r, hlive, heff⟩
  · exact heff.updates
  · refine Relation.ReflTransGen.head ?_ heff.updates
    rw [modifyRequest_of_some hlive.lookup]
    exact .redispatch hlive

theorem drainBlockedPeerQueue_updates (env : Environment) (peerFep : ℕ) {fuel : ℕ}
    {s s' : SesManager} (h : drainBlockedPeerQueue env peerFep fuel s = some s') :
    Updates s s' := by
  induction fuel generalizing s with
  | zero => cases h
  | succ fuel ih =>
      unfold drainBlockedPeerQueue at h
      cases hqueue : s.blockedQueue peerFep with
      | nil =>
          simp only [hqueue, Option.some.injEq] at h
          exact h ▸ .refl
      | cons key rest =>
          simp only [hqueue] at h
          have hhead := redispatchHead_updates env s key
          split_ifs at h with hstop
          · cases h
            exact hhead
          · exact hhead.trans (ih h)

theorem wakeBlockedPeer_updates (env : Environment) {s s' : SesManager} {peerFep fuel : ℕ}
    (h : s.wakeBlockedPeer env peerFep fuel = some s') : Updates s s' :=
  Relation.ReflTransGen.head (.fire s peerFep) (drainBlockedPeerQueue_updates env peerFep h)

/-- A WRITE fragment holds the write budget only inside of its handler. -/
theorem handleIncomingWriteRequest_updates (s : SesManager) (packet : TaggedPacket) :
    Updates s (s.handleIncomingWriteRequest packet) := by
  simp only [handleIncomingWriteRequest]
  cases s.validateRmaRequest packet.header packet.metadata true packet.bytes.length with
  | error failure =>
      exact SameTracked.updates (.of_tracked rfl) rfl
  | ok _ =>
      cases hgrant : s.writeBudget.tryReserve packet.bytes.length with
      | none => exact SameTracked.updates (.of_tracked rfl) rfl
      | some budget =>
          obtain ⟨-, rfl⟩ := SemanticBudgetState.tryReserve_eq_some.mp hgrant
          refine Relation.ReflTransGen.head (.wake s (packetKey packet).peerFep) ?_
          unfold writePacketBytesToAddress
          split_ifs
          · exact SameTracked.updates
              ⟨rfl, rfl, rfl, rfl, SemanticBudgetState.release_reserve _ _, rfl, rfl, rfl, rfl,
                rfl⟩ rfl
          · exact SameTracked.updates
              ⟨rfl, rfl, rfl, rfl, SemanticBudgetState.release_reserve _ _, rfl, rfl, rfl, rfl,
                rfl⟩ rfl

theorem receiveWriteRequest_updates (s : SesManager) (packet : TaggedPacket) :
    Updates s (s.receiveWriteRequest packet) := by
  unfold receiveWriteRequest
  split_ifs
  · cases s.validateInboundHeader packet.header with
    | error failure =>
        exact SameTracked.updates (.of_tracked rfl) rfl
    | ok _ => exact handleIncomingWriteRequest_updates s packet
  · exact SameTracked.updates (.of_tracked rfl) rfl

/-! ## The replacement of a record -/

/-- The metadata and packet of the retry that `ExecuteRetry` submits, if its
entry exists and is not stale. -/
def dueRetry (s : SesManager) (key : RequestKey) : Option RetryState :=
  (s.retryStates.lookup key).filter fun retry => !s.retryStale key retry

/-- The request whose record an action replaces: its metadata and packet. -/
def rebuildOf (s : SesManager) : SesAction → Option (ExtendedOperationMetadata × Packet)
  | .sendRequest m packet => s.acceptedRequest m packet
  | .retryEvent key =>
      (s.dueRetry key).bind fun retry => s.acceptedRequest retry.metadata (some retry.packet)
  | _ => none

/-- A step that replaces the record of a request: updates that leave all
records alone, the replacement, and further updates. -/
structure RebuildStep (m : ExtendedOperationMetadata) (packet : Packet)
    (s s' : SesManager) : Prop where
  split : ∃ s₁, Updates s s₁ ∧ s₁.requestStates = s.requestStates ∧
    Updates (s₁.rebuildRequest (requestKey m) m packet) s'

theorem processSendRequest_updates (env : Environment) {s : SesManager}
    {m : ExtendedOperationMetadata} {packet : Option Packet}
    (h : s.acceptedRequest m packet = none) :
    Updates s (s.processSendRequest env m packet).1 := by
  rw [processSendRequest_rejected env h]
  exact SameTracked.updates (.of_tracked rfl) rfl

theorem processSendRequest_rebuild (env : Environment) {s : SesManager}
    {m m' : ExtendedOperationMetadata} {packet : Option Packet} {p' : Packet}
    (h : s.acceptedRequest m packet = some (m', p')) :
    RebuildStep m' p' s (s.processSendRequest env m packet).1 := by
  rw [processSendRequest_accepted env h]
  exact ⟨_, (preparedState_effects s m m').updates, preparedState_requestStates s m m',
    (submitRequest_effects env s m m' p').updates⟩

theorem executeRetry_of_due (env : Environment) {s : SesManager} {key : RequestKey}
    {retry : RetryState} (h : s.dueRetry key = some retry) :
    s.executeRetry env key =
      ((s.retryFired key retry).processSendRequest env retry.metadata
        (some retry.packet)).1.refreshRetry key := by
  obtain ⟨hretry, hfresh⟩ := Option.filter_eq_some_iff.mp h
  have hfresh' : ¬ s.retryStale key retry = true := by simpa using hfresh
  unfold executeRetry
  rw [hretry]
  exact if_neg hfresh'

theorem executeRetry_of_not_due (env : Environment) {s : SesManager} {key : RequestKey}
    (h : s.dueRetry key = none) : Updates s (s.executeRetry env key) := by
  unfold executeRetry
  cases hretry : s.retryStates.lookup key with
  | none => exact .refl
  | some retry =>
      have hstale : s.retryStale key retry = true := by
        simpa [dueRetry, hretry, Option.filter] using h
      simp only [hstale, if_true]
      refine Relation.ReflTransGen.head (.effect (retryFired_effect hretry)) ?_
      exact (Update.effect (.retryErase (s.retryFired key retry))).updates

theorem dueRetry_lookup {s : SesManager} {key : RequestKey} {retry : RetryState}
    (h : s.dueRetry key = some retry) : s.retryStates.lookup key = some retry :=
  (Option.filter_eq_some_iff.mp h).1

/-- A step whose action replaces no record is a sequence of updates. -/
theorem sesStep_updates {env : Environment} {s s' : SesManager} {a : SesAction}
    (hstep : sesStep env s a = some s') (h : s.rebuildOf a = none) : Updates s s' := by
  cases a with
  | sendRequest m packet =>
      cases hstep
      exact processSendRequest_updates env h
  | receiveResponse response =>
      cases hstep
      exact (processReceiveResponse_effects s response).updates
  | receiveWrite packet =>
      cases hstep
      exact receiveWriteRequest_updates s packet
  | checkTimeout key =>
      cases hstep
      exact (checkResponseTimeout_effects s key).updates
  | retryEvent key =>
      simp only [sesStep, Option.ite_none_right_eq_some, Option.some.injEq] at hstep
      obtain ⟨-, rfl⟩ := hstep
      cases hdue : s.dueRetry key with
      | none => exact executeRetry_of_not_due env hdue
      | some retry =>
          have hrejected : s.acceptedRequest retry.metadata (some retry.packet) = none := by
            simpa [rebuildOf, hdue] using h
          have hrejected' : (s.retryFired key retry).acceptedRequest retry.metadata
              (some retry.packet) = none := hrejected
          rw [executeRetry_of_due env hdue]
          refine Relation.ReflTransGen.head
            (.effect (retryFired_effect (dueRetry_lookup hdue))) ?_
          exact (processSendRequest_updates env hrejected').trans
            (refreshRetry_effects _ key).updates
  | wakeupEvent peerFep fuel =>
      simp only [sesStep, Option.ite_none_right_eq_some] at hstep
      exact wakeBlockedPeer_updates env hstep.2
  | creditsAvailable peerFep =>
      cases hstep
      exact (Update.wake s peerFep).updates
  | advanceClock deltaNs =>
      cases hstep
      exact (Update.advance s deltaNs).updates
  | setAuthorizeAllJobs _ | revokeJobAuthorization _ | setPermissionChecker _ =>
      cases hstep
      exact SameTracked.updates (.of_tracked rfl) rfl

/-- A step whose action replaces a record goes through the replacement. -/
theorem sesStep_rebuild {env : Environment} {s s' : SesManager} {a : SesAction}
    {m : ExtendedOperationMetadata} {packet : Packet}
    (hstep : sesStep env s a = some s') (h : s.rebuildOf a = some (m, packet)) :
    RebuildStep m packet s s' := by
  cases a with
  | sendRequest m₀ packet₀ =>
      cases hstep
      exact processSendRequest_rebuild env h
  | retryEvent key =>
      simp only [sesStep, Option.ite_none_right_eq_some, Option.some.injEq] at hstep
      obtain ⟨-, rfl⟩ := hstep
      obtain ⟨retry, hdue, haccepted⟩ := Option.bind_eq_some_iff.mp h
      have haccepted' : (s.retryFired key retry).acceptedRequest retry.metadata
          (some retry.packet) = some (m, packet) := haccepted
      rw [executeRetry_of_due env hdue]
      obtain ⟨s₁, hbefore, hsame, hafter⟩ :=
        (processSendRequest_rebuild env haccepted').split
      refine ⟨s₁, Relation.ReflTransGen.head ?_ hbefore, hsame, ?_⟩
      · exact .effect (retryFired_effect (dueRetry_lookup hdue))
      · exact hafter.trans (refreshRetry_effects _ key).updates
  | receiveResponse _ | receiveWrite _ | checkTimeout _ | wakeupEvent _ _ | advanceClock _
  | creditsAvailable _ | setAuthorizeAllJobs _ | revokeJobAuthorization _
  | setPermissionChecker _ => cases h

end SesManager
end UeSim
