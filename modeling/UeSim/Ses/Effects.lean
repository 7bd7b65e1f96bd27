import UeSim.Ses.System
import Mathlib.Logic.Relation

/-!
# Elementary effects of the handlers

Every handler of the manager is a sequence of a few elementary effects on
behalf of one request: a change of its record that keeps its standing, a
reservation or a release, joining or leaving the blocked queue, a change of its
retry entry, or its close.  Each handler is decomposed here once; an invariant
is then checked against the effects.  The only step that is no effect is the
one in which `ProcessSendRequest` replaces the record of a request.
-/

namespace UeSim
namespace SesManager

/-! ## Effects -/

/-- The deadline of a response timeout that is armed now. -/
def responseDeadline (s : SesManager) : ℕ := s.nowMs + s.retryTimeoutMs

/-- Two states that agree on requests, retries, queues, budgets, accounting, the
timeout and the payload MTU. -/
structure SameTracked (s s' : SesManager) : Prop where
  requestStates : s'.requestStates = s.requestStates
  retryStates : s'.retryStates = s.retryStates
  blockedPeerQueues : s'.blockedPeerQueues = s.blockedPeerQueues
  sendAdmissionBudget : s'.sendAdmissionBudget = s.sendAdmissionBudget
  writeBudget : s'.writeBudget = s.writeBudget
  semanticStats : s'.semanticStats = s.semanticStats
  completionRecords : s'.completionRecords = s.completionRecords
  protocolCompletionTrace : s'.protocolCompletionTrace = s.protocolCompletionTrace
  responseDeadline : s'.responseDeadline = s.responseDeadline
  payloadMtu : s'.getPayloadMtu = s.getPayloadMtu

/-- What `SameTracked` compares, as one value. -/
def tracked (s : SesManager) :=
  (s.requestStates, s.retryStates, s.blockedPeerQueues, s.sendAdmissionBudget, s.writeBudget,
    s.semanticStats, s.completionRecords, s.protocolCompletionTrace, s.responseDeadline,
    s.getPayloadMtu)

theorem SameTracked.of_tracked {s s' : SesManager} (h : s'.tracked = s.tracked) :
    SameTracked s s' := by
  simp only [tracked, Prod.mk.injEq] at h
  obtain ⟨hstates, hretries, hqueues, hsend, hwrite, hstats, hrecords, htrace, hdeadline, hmtu⟩ := h
  exact ⟨hstates, hretries, hqueues, hsend, hwrite, hstats, hrecords, htrace, hdeadline, hmtu⟩

/-- The part of a request record that its fragments, its reservations, its queue
membership and its accounting depend on. -/
structure Standing where
  metadata : ExtendedOperationMetadata
  packet : Packet
  totalPacketCount : ℕ
  sendAdmissionReserved : Bool
  sendAdmissionReservedBytes : ℕ
  writeBudgetReserved : Bool
  writeBudgetReservedBytes : ℕ
  blockedQueueLinked : Bool
  blockedQueueRedispatchCount : ℕ
  terminalized : Bool
  createdAtNs : ℕ
  countedInSemanticStats : Bool

/-- The standing of a request. -/
def standing (r : RequestLifecycleState) : Standing where
  metadata := r.metadata
  packet := r.packet
  totalPacketCount := r.totalPacketCount
  sendAdmissionReserved := r.sendAdmissionReserved
  sendAdmissionReservedBytes := r.sendAdmissionReservedBytes
  writeBudgetReserved := r.writeBudgetReserved
  writeBudgetReservedBytes := r.writeBudgetReservedBytes
  blockedQueueLinked := r.blockedQueueLinked
  blockedQueueRedispatchCount := r.blockedQueueRedispatchCount
  terminalized := r.terminalized
  createdAtNs := r.createdAtNs
  countedInSemanticStats := r.countedInSemanticStats

/-- The queues after a request was granted its budget. -/
def grantedQueues (s : SesManager) (key : RequestKey) (r : RequestLifecycleState) :
    BlockedPeerQueues :=
  if r.blockedQueueLinked then s.blockedPeerQueues.remove key else s.blockedPeerQueues

/-- A live request whose record is `r`. -/
structure Live (s : SesManager) (key : RequestKey) (r : RequestLifecycleState) : Prop where
  lookup : s.requestStates.lookup key = some r
  live : r.terminalized = false

/-- The packets handed down between two states are fragments of the live request
`key`. -/
def Emits (key : RequestKey) (s s' : SesManager) : Prop :=
  ∃ fragments, s'.dispatched = s.dispatched ++ fragments ∧
    ∀ f ∈ fragments, ∃ r, Live s key r ∧
      f ∈ requestFragments r.metadata r.packet s.getPayloadMtu (max 1 r.totalPacketCount)

theorem Emits.of_same {key : RequestKey} {s s' : SesManager}
    (h : s'.dispatched = s.dispatched) : Emits key s s' :=
  ⟨[], by rw [h, List.append_nil], by simp⟩

/-- The elementary effects on behalf of the request `key`. -/
inductive Effect (key : RequestKey) : SesManager → SesManager → Prop
  | other {s s' : SesManager} (hsame : SameTracked s s') (hemits : Emits key s s') :
      Effect key s s'
  | progress {s : SesManager} {r r' : RequestLifecycleState}
      (hr : s.requestStates.lookup key = some r) (hlive : r.terminalized = false)
      (hkeep : standing r' = standing r) :
      Effect key s { s with requestStates := s.requestStates.insert key r' }
  | retryErase (s : SesManager) :
      Effect key s { s with retryStates := s.retryStates.erase key }
  | retrySet {s : SesManager} {r : RequestLifecycleState} {retry : RetryState}
      (hr : s.requestStates.lookup key = some r) (hlive : r.terminalized = false)
      (hmeta : retry.metadata = { r.metadata with isRetry := true })
      (hpacket : retry.packet = r.packet) :
      Effect key s { s with retryStates := s.retryStates.insert key retry }
  | retryUpdate {s : SesManager} {retry retry' : RetryState}
      (hretry : s.retryStates.lookup key = some retry)
      (hmeta : retry'.metadata = retry.metadata) (hpacket : retry'.packet = retry.packet) :
      Effect key s { s with retryStates := s.retryStates.insert key retry' }
  | grantSend {s : SesManager} {r : RequestLifecycleState}
      (hr : s.requestStates.lookup key = some r) (hlive : r.terminalized = false)
      (hhead : r.blockedQueueLinked = true → s.isBlockedQueueHead key = true)
      (hop : r.metadata.opType = .send) (hfree : r.sendAdmissionReserved = false)
      (hadmits : s.sendAdmissionBudget.admits r.metadata.payloadBytes = true) :
      Effect key s { s with
        sendAdmissionBudget := s.sendAdmissionBudget.reserve r.metadata.payloadBytes
        requestStates := s.requestStates.insert key (unlinked (sendReserved r))
        blockedPeerQueues := s.grantedQueues key r }
  | grantWrite {s : SesManager} {r : RequestLifecycleState}
      (hr : s.requestStates.lookup key = some r) (hlive : r.terminalized = false)
      (hhead : r.blockedQueueLinked = true → s.isBlockedQueueHead key = true)
      (hop : r.metadata.opType = .write) (hfree : r.writeBudgetReserved = false)
      (hadmits : s.writeBudget.admits r.metadata.payloadBytes = true) :
      Effect key s { s with
        writeBudget := s.writeBudget.reserve r.metadata.payloadBytes
        requestStates := s.requestStates.insert key (unlinked (writeReserved r))
        blockedPeerQueues := s.grantedQueues key r }
  | grantFree {s : SesManager} {r : RequestLifecycleState}
      (hr : s.requestStates.lookup key = some r) (hlive : r.terminalized = false)
      (hhead : r.blockedQueueLinked = true → s.isBlockedQueueHead key = true) :
      Effect key s { s with
        requestStates := s.requestStates.insert key (unlinked r)
        blockedPeerQueues := s.grantedQueues key r }
  | releaseSend {s : SesManager} {r : RequestLifecycleState}
      (hr : s.requestStates.lookup key = some r) (hlive : r.terminalized = false)
      (hheld : r.sendAdmissionReserved = true) :
      Effect key s { s with
        sendAdmissionBudget := s.sendAdmissionBudget.release r.sendAdmissionReservedBytes
        requestStates := s.requestStates.insert key (sendReleased r)
        blockedPeerQueues := s.blockedPeerQueues.wake key.peerFep }
  | releaseWrite {s : SesManager} {r : RequestLifecycleState}
      (hr : s.requestStates.lookup key = some r) (hlive : r.terminalized = false)
      (hheld : r.writeBudgetReserved = true) :
      Effect key s { s with
        writeBudget := s.writeBudget.release r.writeBudgetReservedBytes
        requestStates := s.requestStates.insert key (writeReleased r)
        blockedPeerQueues := s.blockedPeerQueues.wake key.peerFep }
  | link {s : SesManager} {r : RequestLifecycleState}
      (hr : s.requestStates.lookup key = some r) (hlive : r.terminalized = false)
      (hnew : r.blockedQueueLinked = false)
      (hblocked : s.tryReserveDispatchBudget key r = none) :
      Effect key s { s with
        requestStates := s.requestStates.insert key (linked r)
        blockedPeerQueues := s.blockedPeerQueues.push key }
  | unlink (s : SesManager) : Effect key s (s.removeBlockedRequest key)
  | close {s : SesManager} {r : RequestLifecycleState} (reason : RequestTerminalReason)
      (hr : s.requestStates.lookup key = some r) (hlive : r.terminalized = false)
      (hretry : s.retryStates.lookup key = none) (hunlinked : r.blockedQueueLinked = false)
      (hsend : r.sendAdmissionReserved = false) (hwrite : r.writeBudgetReserved = false) :
      Effect key s (s.closeRequest key reason r)

/-- A sequence of effects on behalf of one request. -/
abbrev Effects (key : RequestKey) : SesManager → SesManager → Prop :=
  Relation.ReflTransGen (Effect key)

theorem Effect.effects {key : RequestKey} {s s' : SesManager} (h : Effect key s s') :
    Effects key s s' :=
  Relation.ReflTransGen.single h

theorem SameTracked.effects {key : RequestKey} {s s' : SesManager} (h : SameTracked s s')
    (hdispatched : s'.dispatched = s.dispatched) : Effects key s s' :=
  (Effect.other h (.of_same hdispatched)).effects

/-- An invariant of the single effects is an invariant of their sequences. -/
theorem Effects.invariant {key : RequestKey} {s s' : SesManager} {P : SesManager → Prop}
    (h : Effects key s s') (hinv : P s)
    (hstep : ∀ s s', P s → Effect key s s' → P s') : P s' := by
  induction h with
  | refl => exact hinv
  | tail _ heff ih => exact hstep _ _ ih heff

theorem SameTracked.refl (s : SesManager) : SameTracked s s :=
  .of_tracked rfl

/-! ## Records along a handler -/

theorem modifyRequest_of_some {s : SesManager} {key : RequestKey}
    {r : RequestLifecycleState} {f : RequestLifecycleState → RequestLifecycleState}
    (hr : s.requestStates.lookup key = some r) :
    s.modifyRequest key f = { s with requestStates := s.requestStates.insert key (f r) } := by
  simp only [modifyRequest, KeyedMap.modify_of_some hr]

theorem removeBlockedRequest_of_some {s : SesManager} {key : RequestKey}
    {r : RequestLifecycleState} (hr : s.requestStates.lookup key = some r) :
    s.removeBlockedRequest key =
      { s with
        requestStates := s.requestStates.insert key (unlinked r)
        blockedPeerQueues := s.blockedPeerQueues.remove key } := by
  simp only [removeBlockedRequest, KeyedMap.modify_of_some hr]

/-- The record that a close leaves behind. -/
def closedRecord (nowNs : ℕ) (reason : RequestTerminalReason) (r : RequestLifecycleState) :
    RequestLifecycleState :=
  { closed nowNs reason r with countedInSemanticStats := true }

theorem closeRequest_frame (s : SesManager) (key : RequestKey)
    (reason : RequestTerminalReason) (r : RequestLifecycleState) :
    (s.closeRequest key reason r).requestStates =
        s.requestStates.insert key (closedRecord s.nowNs reason r) ∧
      (s.closeRequest key reason r).retryStates = s.retryStates ∧
      (s.closeRequest key reason r).blockedPeerQueues = s.blockedPeerQueues ∧
      (s.closeRequest key reason r).sendAdmissionBudget = s.sendAdmissionBudget ∧
      (s.closeRequest key reason r).writeBudget = s.writeBudget := by
  simp only [closeRequest, recordCompletion]
  split_ifs <;> exact ⟨rfl, rfl, rfl, rfl, rfl⟩

/-- A change of a live record that keeps its standing. -/
theorem Live.modify {s : SesManager} {key : RequestKey} {r : RequestLifecycleState}
    {f : RequestLifecycleState → RequestLifecycleState} (h : Live s key r)
    (hkeep : standing (f r) = standing r) :
    Effect key s (s.modifyRequest key f) ∧ Live (s.modifyRequest key f) key (f r) := by
  rw [modifyRequest_of_some h.lookup]
  exact ⟨.progress h.lookup h.live hkeep,
    ⟨AList.lookup_insert _, (congrArg Standing.terminalized hkeep).trans h.live⟩⟩

/-! ## Releasing and closing -/

/-- `r'` is `r` without its reservations. -/
structure Released (r r' : RequestLifecycleState) : Prop where
  send : r'.sendAdmissionReserved = false
  write : r'.writeBudgetReserved = false
  metadata : r'.metadata = r.metadata
  linked : r'.blockedQueueLinked = r.blockedQueueLinked

theorem releaseSendReservation_effects {s : SesManager} {key : RequestKey}
    {r : RequestLifecycleState} (h : Live s key r) :
    Effects key s (s.releaseSendReservation key) ∧
      ∃ r', Live (s.releaseSendReservation key) key r' ∧
        r'.sendAdmissionReserved = false ∧ r'.metadata = r.metadata ∧
        r'.blockedQueueLinked = r.blockedQueueLinked := by
  unfold releaseSendReservation
  cases hheld : r.sendAdmissionReserved with
  | false =>
      simp only [h.lookup, hheld, Bool.false_eq_true, if_false]
      exact ⟨.refl, r, h, hheld, rfl, rfl⟩
  | true =>
      simp only [h.lookup, hheld, if_true]
      exact ⟨(Effect.releaseSend h.lookup h.live hheld).effects, sendReleased r,
        ⟨AList.lookup_insert _, h.live⟩, rfl, rfl, rfl⟩

theorem releaseWriteReservation_effects {s : SesManager} {key : RequestKey}
    {r : RequestLifecycleState} (h : Live s key r) :
    Effects key s (s.releaseWriteReservation key) ∧
      ∃ r', Live (s.releaseWriteReservation key) key r' ∧
        r'.writeBudgetReserved = false ∧
        r'.sendAdmissionReserved = r.sendAdmissionReserved ∧ r'.metadata = r.metadata ∧
        r'.blockedQueueLinked = r.blockedQueueLinked := by
  unfold releaseWriteReservation
  cases hheld : r.writeBudgetReserved with
  | false =>
      simp only [h.lookup, hheld, Bool.false_eq_true, if_false]
      exact ⟨.refl, r, h, hheld, rfl, rfl, rfl⟩
  | true =>
      simp only [h.lookup, hheld, if_true]
      exact ⟨(Effect.releaseWrite h.lookup h.live hheld).effects, writeReleased r,
        ⟨AList.lookup_insert _, h.live⟩, rfl, rfl, rfl, rfl⟩

theorem releaseDispatchBudget_retryStates (s : SesManager) (key : RequestKey) :
    (s.releaseDispatchBudget key).retryStates = s.retryStates := by
  unfold releaseDispatchBudget releaseWriteReservation releaseSendReservation
  repeat' split
  all_goals rfl

theorem releaseDispatchBudget_effects {s : SesManager} {key : RequestKey}
    {r : RequestLifecycleState} (h : Live s key r) :
    Effects key s (s.releaseDispatchBudget key) ∧
      ∃ r', Live (s.releaseDispatchBudget key) key r' ∧ Released r r' := by
  obtain ⟨heff₁, r₁, hlive₁, hsend₁, hmeta₁, hlinked₁⟩ := releaseSendReservation_effects h
  obtain ⟨heff₂, r₂, hlive₂, hwrite₂, hsend₂, hmeta₂, hlinked₂⟩ :=
    releaseWriteReservation_effects hlive₁
  refine ⟨heff₁.trans heff₂, r₂, hlive₂, ?_⟩
  exact
    { send := hsend₂.trans hsend₁
      write := hwrite₂
      metadata := hmeta₂.trans hmeta₁
      linked := hlinked₂.trans hlinked₁ }

theorem terminalizeRequest_effects {s : SesManager} {key : RequestKey}
    {r : RequestLifecycleState} (h : Live s key r) (reason : RequestTerminalReason) :
    Effects key s (s.terminalizeRequest key reason) ∧
      ∃ r', (s.terminalizeRequest key reason).requestStates.lookup key = some r' ∧
        r'.terminalized = true := by
  let s₁ := { s with retryStates := s.retryStates.erase key }
  have heff₁ : Effect key s s₁ := .retryErase s
  have heff₂ : Effect key s₁ (s₁.removeBlockedRequest key) := .unlink s₁
  have hlive₂ : Live (s₁.removeBlockedRequest key) key (unlinked r) := by
    have hr : s₁.requestStates.lookup key = some r := h.lookup
    rw [removeBlockedRequest_of_some hr]
    exact ⟨AList.lookup_insert _, h.live⟩
  obtain ⟨heff₃, r₃, hlive₃, hreleased⟩ := releaseDispatchBudget_effects hlive₂
  have hfinal : s.terminalizeRequest key reason =
      ((s₁.removeBlockedRequest key).releaseDispatchBudget key).closeRequest key reason r₃ := by
    simp only [terminalizeRequest, h.lookup]
    rw [show ({ s with retryStates := s.retryStates.erase key } : SesManager) = s₁ from rfl,
      hlive₃.lookup]
  have hretry : ((s₁.removeBlockedRequest key).releaseDispatchBudget key).retryStates.lookup
      key = none := by
    rw [releaseDispatchBudget_retryStates]
    exact AList.lookup_erase key s.retryStates
  have hclose := Effect.close reason hlive₃.lookup hlive₃.live hretry hreleased.linked
    hreleased.send hreleased.write
  rw [hfinal]
  refine ⟨(heff₁.effects.tail heff₂).trans (heff₃.tail hclose), ?_⟩
  exact ⟨_, AList.lookup_insert _, rfl⟩

/-- Setting the outcome of a live request and closing it. -/
theorem close_effects {s : SesManager} {key : RequestKey} {r : RequestLifecycleState}
    (h : Live s key r) (returnCode : ResponseReturnCode) (bytes : ℕ)
    (reason : RequestTerminalReason) :
    Effects key s
        ((s.setRequestCompletionOutcome key returnCode bytes).terminalizeRequest key reason) ∧
      ∃ r', ((s.setRequestCompletionOutcome key returnCode bytes).terminalizeRequest key
          reason).requestStates.lookup key = some r' ∧ r'.terminalized = true := by
  obtain ⟨heff, hlive₁⟩ := h.modify (f := withOutcome returnCode bytes) rfl
  obtain ⟨hterm, hclosed⟩ := terminalizeRequest_effects hlive₁ reason
  exact ⟨heff.effects.trans hterm, hclosed⟩

theorem handleDispatchFailure_effects (s : SesManager) (key : RequestKey) :
    Effects key s (s.handleDispatchFailure key) ∧
      ∀ r', (s.handleDispatchFailure key).requestStates.lookup key = some r' →
        r'.terminalized = true := by
  unfold handleDispatchFailure
  cases hr : s.requestStates.lookup key with
  | none =>
      refine ⟨(Effect.unlink s).effects, fun r' hr' => ?_⟩
      simp [removeBlockedRequest, KeyedMap.lookup_modify_self, hr] at hr'
  | some r =>
      cases hterm : r.terminalized with
      | true =>
          simp only [hterm, if_true]
          refine ⟨(Effect.unlink s).effects, fun r' hr' => ?_⟩
          rw [removeBlockedRequest_of_some hr, AList.lookup_insert, Option.some.injEq] at hr'
          exact hr' ▸ hterm
      | false =>
          simp only [hterm, Bool.false_eq_true, if_false]
          obtain ⟨heff, r₁, hr₁, hclosed⟩ :=
            close_effects ⟨hr, hterm⟩ .internalError 0 .protocolError
          refine ⟨heff.tail ?_, fun r' hr' => ?_⟩
          · exact .other (.of_tracked rfl) (.of_same rfl)
          have heq : some r' = some r₁ := hr'.symm.trans hr₁
          exact Option.some.inj heq ▸ hclosed

/-! ## Dispatch -/

/-- The request awaits the response to its current attempt until the given
deadline. -/
structure Awaiting (deadlineMs : ℕ) (r : RequestLifecycleState) : Prop where
  waiting : r.waitingResponse = true
  started : r.dispatchStarted = true
  generation : r.waitingResponseGeneration = r.attemptGeneration
  deadline : r.responseDeadlineMs = deadlineMs

theorem attemptStarted_awaiting (s : SesManager) {r : RequestLifecycleState}
    (hexpect : r.metadata.expectResponse = true) :
    Awaiting s.responseDeadline (s.attemptStarted r) := by
  constructor <;> simp [attemptStarted, armResponseTimeout, responseDeadline, hexpect]

/-- The outcome of a dispatch: it has failed, or the live request waits in its
queue, or its new attempt has started outside of the queue. -/
inductive DispatchOutcome (key : RequestKey) (m : ExtendedOperationMetadata)
    (deadlineMs : ℕ) : SesManager × Bool → Prop
  | failed (s' : SesManager) : DispatchOutcome key m deadlineMs (s', false)
  | waiting {s' : SesManager} {r' : RequestLifecycleState} (hlive : Live s' key r')
      (hmeta : r'.metadata = m) (hlinked : r'.blockedQueueLinked = true) :
      DispatchOutcome key m deadlineMs (s', true)
  | started {s' : SesManager} {r' : RequestLifecycleState} (hlive : Live s' key r')
      (hmeta : r'.metadata = m) (hlinked : r'.blockedQueueLinked = false)
      (hgate : r'.blockedOnCreditGate = false) (hstarted : r'.dispatchStarted = true)
      (hawaiting : m.expectResponse = true → Awaiting deadlineMs r') :
      DispatchOutcome key m deadlineMs (s', true)

theorem dispatchSemanticPackets_same (env : Environment) (s : SesManager)
    (fragments : List TaggedPacket) :
    SameTracked s (dispatchSemanticPackets env s fragments).1 :=
  .of_tracked rfl

theorem acceptedFragments_subset (env : Environment) (calls : ℕ)
    (fragments : List TaggedPacket) : (acceptedFragments env calls fragments).1 ⊆ fragments := by
  induction fragments generalizing calls with
  | nil => exact List.Subset.refl _
  | cons fragment rest ih =>
      simp only [acceptedFragments]
      split_ifs
      · exact List.cons_subset_cons fragment (ih (calls + 1))
      · exact List.nil_subset _

/-- All fragments were handed down when none was refused. -/
theorem acceptedFragments_whole {env : Environment} {calls : ℕ} {fragments : List TaggedPacket}
    (h : (acceptedFragments env calls fragments).2 = true) :
    (acceptedFragments env calls fragments).1 = fragments := by
  induction fragments generalizing calls with
  | nil => rfl
  | cons fragment rest ih =>
      simp only [acceptedFragments] at h ⊢
      split_ifs at h ⊢
      simpa using ih h

/-- Two records of one request that send the same fragments. -/
structure SameCargo (r r' : RequestLifecycleState) : Prop where
  metadata : r'.metadata = r.metadata
  packet : r'.packet = r.packet
  totalPacketCount : r'.totalPacketCount = r.totalPacketCount

theorem dispatchFragments_effects (env : Environment) {s : SesManager} {key : RequestKey}
    {r : RequestLifecycleState} (state : RequestLifecycleState) (h : Live s key r)
    (hlinked : r.blockedQueueLinked = false) (hgate : r.blockedOnCreditGate = false)
    (hcargo : SameCargo state r) :
    Effects key s (dispatchFragments env s key state).1 ∧
      DispatchOutcome key r.metadata s.responseDeadline (dispatchFragments env s key state) := by
  simp only [dispatchFragments]
  rw [← hcargo.metadata, ← hcargo.packet, ← hcargo.totalPacketCount]
  generalize hfragments : requestFragments r.metadata r.packet s.getPayloadMtu
    (max 1 r.totalPacketCount) = fragments
  have hsame := dispatchSemanticPackets_same env s fragments
  have hemits : Emits key s (dispatchSemanticPackets env s fragments).1 :=
    ⟨_, rfl, fun f hf => ⟨r, h, hfragments ▸ acceptedFragments_subset env _ _ hf⟩⟩
  have hdeadline : (dispatchSemanticPackets env s fragments).1.responseDeadline =
      s.responseDeadline := rfl
  generalize dispatchSemanticPackets env s fragments = result at hsame hemits hdeadline
  obtain ⟨s₁, accepted⟩ := result
  have hlive : Live s₁ key r := ⟨by rw [hsame.requestStates, h.lookup], h.live⟩
  have hother : Effects key s s₁ := (Effect.other hsame hemits).effects
  cases accepted with
  | true =>
      obtain ⟨heff, hlive'⟩ := hlive.modify (f := s₁.attemptStarted) rfl
      have hclock : s₁.responseDeadline = s.responseDeadline := hdeadline
      refine ⟨hother.tail heff, .started hlive' rfl hlinked hgate rfl fun hexpect => ?_⟩
      rw [← hclock]
      exact attemptStarted_awaiting s₁ hexpect
  | false =>
      obtain ⟨heff, -⟩ := releaseDispatchBudget_effects hlive
      exact ⟨hother.trans heff, .failed _⟩

/-- What a successful reservation does: it charges the budget of the operation,
unless the request needs none or holds it already. -/
theorem tryReserveDispatchBudget_cases {s s₁ : SesManager} {key : RequestKey}
    {r : RequestLifecycleState} (h : s.tryReserveDispatchBudget key r = some s₁) :
    (r.metadata.opType = .send ∧ r.sendAdmissionReserved = false ∧
      s.sendAdmissionBudget.admits r.metadata.payloadBytes = true ∧
      s₁ = { s with
        sendAdmissionBudget := s.sendAdmissionBudget.reserve r.metadata.payloadBytes
        requestStates := s.requestStates.insert key (sendReserved r) }) ∨
    (r.metadata.opType = .write ∧ r.writeBudgetReserved = false ∧
      s.writeBudget.admits r.metadata.payloadBytes = true ∧
      s₁ = { s with
        writeBudget := s.writeBudget.reserve r.metadata.payloadBytes
        requestStates := s.requestStates.insert key (writeReserved r) }) ∨
    s₁ = s := by
  unfold tryReserveDispatchBudget at h
  cases hop : r.metadata.opType with
  | send =>
      simp only [hop] at h
      cases hheld : r.sendAdmissionReserved with
      | true =>
          simp only [hheld, if_true, Option.some.injEq] at h
          exact .inr (.inr h.symm)
      | false =>
          simp only [hheld, Bool.false_eq_true, if_false, Option.map_eq_some_iff,
            SemanticBudgetState.tryReserve_eq_some] at h
          obtain ⟨budget, ⟨hadmits, rfl⟩, rfl⟩ := h
          exact .inl ⟨rfl, rfl, hadmits, rfl⟩
  | write =>
      simp only [hop] at h
      cases hheld : r.writeBudgetReserved with
      | true =>
          simp only [hheld, if_true, Option.some.injEq] at h
          exact .inr (.inr h.symm)
      | false =>
          simp only [hheld, Bool.false_eq_true, if_false, Option.map_eq_some_iff,
            SemanticBudgetState.tryReserve_eq_some] at h
          obtain ⟨budget, ⟨hadmits, rfl⟩, rfl⟩ := h
          exact .inr (.inl ⟨rfl, rfl, hadmits, rfl⟩)
  | read =>
      simp only [hop, Option.some.injEq] at h
      exact .inr (.inr h.symm)
  | deferrable =>
      simp only [hop, Option.some.injEq] at h
      exact .inr (.inr h.symm)

/-- Leaving the blocked queue after the budget was granted. -/
theorem leaveQueue_eq {s : SesManager} {key : RequestKey} {r q : RequestLifecycleState}
    (hr : s.requestStates.lookup key = some q)
    (hlinked : q.blockedQueueLinked = r.blockedQueueLinked) :
    (if r.blockedQueueLinked then s.removeBlockedRequest key else s).modifyRequest key
        granted =
      { s with
        requestStates := s.requestStates.insert key (granted (unlinked q))
        blockedPeerQueues := s.grantedQueues key r } := by
  cases hl : r.blockedQueueLinked with
  | true =>
      rw [if_pos rfl, removeBlockedRequest_of_some hr,
        modifyRequest_of_some (r := unlinked q) (AList.lookup_insert _)]
      simp only [AList.insert_insert, grantedQueues, hl, if_true]
  | false =>
      have hsame : granted (unlinked q) = granted q := by
        have hl' := hlinked.trans hl
        cases q
        cases hl'
        rfl
      rw [if_neg (by simp), modifyRequest_of_some hr, hsame]
      simp only [grantedQueues, hl, Bool.false_eq_true, if_false]

/-- The end of a grant: the request outside of its queue has its gate open. -/
theorem grant_effects_of_effect {s s' s₂ : SesManager} {key : RequestKey}
    {r q : RequestLifecycleState} (heff : Effect key s s')
    (hr : s'.requestStates.lookup key = some (unlinked q)) (hlive : q.terminalized = false)
    (hcargo : SameCargo r q) (hs₂ : s₂ = s'.modifyRequest key granted) :
    ∃ r', Effects key s s₂ ∧ Live s₂ key r' ∧ r'.blockedQueueLinked = false ∧
      r'.blockedOnCreditGate = false ∧ SameCargo r r' := by
  subst hs₂
  obtain ⟨hprogress, hlive'⟩ := Live.modify (f := granted) ⟨hr, hlive⟩ rfl
  exact ⟨_, heff.effects.tail hprogress, hlive', rfl, rfl,
    ⟨hcargo.metadata, hcargo.packet, hcargo.totalPacketCount⟩⟩

/-- A request that was granted its budget leaves its queue. -/
theorem grant_effects {s s₁ s₂ : SesManager} {key : RequestKey} {r : RequestLifecycleState}
    (h : Live s key r)
    (hhead : r.blockedQueueLinked = true → s.isBlockedQueueHead key = true)
    (hgrant : s.tryReserveDispatchBudget key r = some s₁)
    (hs₂ : s₂ = (if r.blockedQueueLinked then s₁.removeBlockedRequest key else s₁).modifyRequest
      key granted) :
    ∃ r', Effects key s s₂ ∧ Live s₂ key r' ∧ r'.blockedQueueLinked = false ∧
      r'.blockedOnCreditGate = false ∧ SameCargo r r' := by
  rcases tryReserveDispatchBudget_cases hgrant with
    ⟨hop, hfree, hadmits, rfl⟩ | ⟨hop, hfree, hadmits, rfl⟩ | rfl
  · refine grant_effects_of_effect (q := sendReserved r)
      (.grantSend h.lookup h.live hhead hop hfree hadmits) (AList.lookup_insert _) h.live
      ⟨rfl, rfl, rfl⟩ ?_
    rw [hs₂, leaveQueue_eq (r := r) (q := sendReserved r) (AList.lookup_insert _) rfl,
      modifyRequest_of_some (AList.lookup_insert _)]
    simp only [AList.insert_insert, grantedQueues]
  · refine grant_effects_of_effect (q := writeReserved r)
      (.grantWrite h.lookup h.live hhead hop hfree hadmits) (AList.lookup_insert _) h.live
      ⟨rfl, rfl, rfl⟩ ?_
    rw [hs₂, leaveQueue_eq (r := r) (q := writeReserved r) (AList.lookup_insert _) rfl,
      modifyRequest_of_some (AList.lookup_insert _)]
    simp only [AList.insert_insert, grantedQueues]
  · refine grant_effects_of_effect (q := r)
      (.grantFree h.lookup h.live hhead) (AList.lookup_insert _) h.live
      ⟨rfl, rfl, rfl⟩ ?_
    rw [hs₂, leaveQueue_eq h.lookup rfl, modifyRequest_of_some (AList.lookup_insert _)]
    simp only [AList.insert_insert, grantedQueues]

theorem grant_responseDeadline {s s₁ s₂ : SesManager} {key : RequestKey}
    {r : RequestLifecycleState} (hgrant : s.tryReserveDispatchBudget key r = some s₁)
    (hs₂ : s₂ = (if r.blockedQueueLinked then s₁.removeBlockedRequest key else s₁).modifyRequest
      key granted) : s₂.responseDeadline = s.responseDeadline := by
  have hleave : s₂.responseDeadline = s₁.responseDeadline := by
    subst hs₂
    split_ifs <;> rfl
  rcases tryReserveDispatchBudget_cases hgrant with ⟨-, -, -, rfl⟩ | ⟨-, -, -, rfl⟩ | rfl
  all_goals exact hleave

/-- A request that was refused its budget is in its queue. -/
theorem block_effects {s : SesManager} {key : RequestKey} {r : RequestLifecycleState}
    (h : Live s key r) (hblocked : s.tryReserveDispatchBudget key r = none) :
    Effects key s (s.enqueueBlockedRequest key) ∧
      ∃ r', Live (s.enqueueBlockedRequest key) key r' ∧ r'.metadata = r.metadata ∧
        r'.blockedQueueLinked = true := by
  cases hlinked : r.blockedQueueLinked with
  | true =>
      have heq : s.enqueueBlockedRequest key = s := by
        simp [enqueueBlockedRequest, h.lookup, hlinked]
      rw [heq]
      exact ⟨.refl, r, h, rfl, hlinked⟩
  | false =>
      have heff := Effect.link h.lookup h.live hlinked hblocked
      have heq : s.enqueueBlockedRequest key = { s with
          requestStates := s.requestStates.insert key (linked r)
          blockedPeerQueues := s.blockedPeerQueues.push key } := by
        simp [enqueueBlockedRequest, h.lookup, hlinked]
      rw [heq]
      exact ⟨heff.effects, linked r, ⟨AList.lookup_insert _, h.live⟩, rfl, rfl⟩

theorem dispatchRequestPackets_effects (env : Environment) {s : SesManager}
    {key : RequestKey} {r : RequestLifecycleState} (h : Live s key r) :
    Effects key s (dispatchRequestPackets env s key).1 ∧
      DispatchOutcome key r.metadata s.responseDeadline (dispatchRequestPackets env s key) := by
  simp only [dispatchRequestPackets, h.lookup, h.live, Bool.false_eq_true, if_false]
  by_cases hqueued : (r.blockedQueueLinked && !s.isBlockedQueueHead key) = true
  · rw [if_pos hqueued]
    have hlinked : r.blockedQueueLinked = true := by
      simp only [Bool.and_eq_true] at hqueued
      exact hqueued.1
    obtain ⟨heff, hlive⟩ := h.modify (f := gateClosed) rfl
    exact ⟨heff.effects, .waiting hlive rfl hlinked⟩
  · rw [if_neg hqueued]
    cases hgrant : s.tryReserveDispatchBudget key r with
    | none =>
        obtain ⟨heff, r', hlive, hmeta, hlinked⟩ := block_effects h hgrant
        obtain ⟨heff', hlive'⟩ := hlive.modify (f := gateClosed) rfl
        exact ⟨heff.tail heff', .waiting hlive' hmeta hlinked⟩
    | some s₁ =>
        have hhead : r.blockedQueueLinked = true → s.isBlockedQueueHead key = true := by
          intro hlinked
          simpa [hlinked] using hqueued
        obtain ⟨r', heff, hlive, hlinked, hgate, hcargo⟩ := grant_effects h hhead hgrant rfl
        obtain ⟨heff', hout⟩ := dispatchFragments_effects env r hlive hlinked hgate hcargo
        rw [hcargo.metadata, grant_responseDeadline hgrant rfl] at hout
        exact ⟨heff.trans heff', hout⟩

/-- A request that needs no response is closed once its attempt has started. -/
theorem completeWithoutResponse_effects {s : SesManager} {key : RequestKey}
    {r : RequestLifecycleState} (h : Live s key r) :
    Effects key s (s.completeWithoutResponse key) ∧
      (s.completeWithoutResponse key = s ∨
        ∃ r', (s.completeWithoutResponse key).requestStates.lookup key = some r' ∧
          r'.terminalized = true) := by
  simp only [completeWithoutResponse, h.lookup]
  split_ifs with hdone
  · exact ⟨(close_effects h _ _ _).1, .inr (close_effects h _ _ _).2⟩
  · exact ⟨.refl, .inl rfl⟩

/-! ## Retries, timeouts and responses -/

theorem scheduleRetry_effects {s : SesManager} {key : RequestKey}
    {r : RequestLifecycleState} (h : Live s key r) (trigger : RetryTrigger) :
    Effects key s (s.scheduleRetry key trigger) := by
  simp only [scheduleRetry, h.lookup]
  generalize toU16 (r.lastRetryCount + 1) = retryCount
  obtain ⟨heff, hlive⟩ := h.modify (f := retryMarked trigger retryCount) rfl
  split_ifs with hexhausted
  all_goals refine (heff.effects).trans ?_
  · obtain ⟨heff', hlive'⟩ := hlive.modify (f := retriesExhausted) rfl
    exact heff'.effects.trans (close_effects hlive' _ _ _).1
  · obtain ⟨heff', hlive'⟩ := hlive.modify (f := retriesExhausted) rfl
    exact heff'.effects.trans (close_effects hlive' _ _ _).1
  · rw [modifyRequest_of_some h.lookup] at hlive ⊢
    exact (Effect.retrySet hlive.lookup hlive.live rfl rfl).effects

theorem checkResponseTimeout_effects (s : SesManager) (key : RequestKey) :
    Effects key s (s.checkResponseTimeout key) := by
  unfold checkResponseTimeout
  cases hr : s.requestStates.lookup key with
  | none => exact .refl
  | some r =>
      dsimp only
      by_cases hidle :
          (r.terminalized || !r.waitingResponse || decide (r.responseDeadlineMs = 0)) = true
      · rw [if_pos hidle]
      rw [if_neg hidle]
      have hlive : Live s key r := by
        simp only [Bool.or_eq_true, not_or, Bool.not_eq_true] at hidle
        exact ⟨hr, hidle.1.1⟩
      split_ifs with hretry hstale hearly hdisabled
      · exact .refl
      · exact (hlive.modify (f := deadlineCleared) rfl).1.effects
      · exact .refl
      · obtain ⟨heff, hlive'⟩ := hlive.modify (f := retriesExhausted) rfl
        exact heff.effects.trans (close_effects hlive' _ _ _).1
      · exact scheduleRetry_effects hlive _

theorem noteSendConsumed_effects {s : SesManager} {key : RequestKey}
    {r : RequestLifecycleState} (h : Live s key r) (auxTimestampNs : ℕ) :
    Effects key s (s.noteSendConsumed key auxTimestampNs) ∧
      ∃ r', Live (s.noteSendConsumed key auxTimestampNs) key r' := by
  obtain ⟨heff, hlive⟩ := h.modify (f := consumeObserved auxTimestampNs) rfl
  simp only [noteSendConsumed, hlive.lookup]
  split_ifs with hconsumed
  · obtain ⟨heff', r', hlive', -⟩ := releaseDispatchBudget_effects hlive
    exact ⟨heff.effects.trans heff', r', hlive'⟩
  · exact ⟨heff.effects, _, hlive⟩

theorem receiveReadData_effects {s : SesManager} {key : RequestKey}
    {r : RequestLifecycleState} (h : Live s key r) (state : RequestLifecycleState)
    (tag : SoftUeMetadataTag) (rx : PdcRxSemanticResult) :
    Effects key s (s.receiveReadData key state tag rx) := by
  simp only [receiveReadData]
  split_ifs with hunhandled hfailed hcomplete
  · exact .refl
  · exact (close_effects h _ _ _).1
  all_goals
    first
    | exact (h.modify (f := s.readDataAwaited) rfl).1.effects
    | obtain ⟨heff, hlive⟩ := h.modify (f := readDataComplete) rfl
      exact heff.effects.trans (close_effects hlive _ _ _).1

theorem receiveOk_effects {s : SesManager} {key : RequestKey} {r : RequestLifecycleState}
    (h : Live s key r) (state : RequestLifecycleState) (tag : SoftUeMetadataTag) :
    Effects key s (s.receiveOk key state tag) := by
  obtain ⟨heff, hlive⟩ := h.modify (f := okObserved) rfl
  exact heff.effects.trans (close_effects hlive _ _ _).1

theorem receiveLiveResponse_effects {s : SesManager} {key : RequestKey}
    {r : RequestLifecycleState} (h : Live s key r) (state : RequestLifecycleState)
    (response : PdcSesResponse) (tag : SoftUeMetadataTag) :
    Effects key s (s.receiveLiveResponse key state response tag) := by
  simp only [receiveLiveResponse]
  by_cases hok : tag.returnCode = .ok
  · rw [if_pos hok]
    generalize hs₁ : (if tag.operationType = .send
      then s.noteSendConsumed key response.auxTimestampNs else s) = s₁
    obtain ⟨heff, r', hlive⟩ : Effects key s s₁ ∧ ∃ r', Live s₁ key r' := by
      subst hs₁
      split_ifs with hsend
      · exact noteSendConsumed_effects h _
      · exact ⟨.refl, r, h⟩
    refine heff.trans ?_
    split_ifs with hdata
    · exact receiveReadData_effects hlive _ _ _
    · exact receiveOk_effects hlive _ _
  · rw [if_neg hok]
    split_ifs with hmatch hdisabled
    · exact (close_effects h _ _ _).1
    · exact scheduleRetry_effects h _
    · exact (close_effects h _ _ _).1

/-- The request that a response is about. -/
def responseKey (response : PdcSesResponse) : RequestKey :=
  response.packet.elim ⟨0, 0, 0⟩ packetKey

theorem receiveResponsePacket_effects (s : SesManager) (response : PdcSesResponse)
    (packet : TaggedPacket) :
    Effects (packetKey packet) s (s.receiveResponsePacket response packet) := by
  unfold receiveResponsePacket
  split_ifs with htag
  · cases hr : s.requestStates.lookup (packetKey packet) with
    | none => exact .refl
    | some r =>
        dsimp only
        split_ifs with hterm
        · exact .refl
        · exact receiveLiveResponse_effects ⟨hr, by simpa using hterm⟩ _ _ _
  · exact SameTracked.effects (.of_tracked rfl) rfl

theorem processReceiveResponse_effects (s : SesManager) (response : PdcSesResponse) :
    Effects (responseKey response) s (s.processReceiveResponse response) := by
  unfold processReceiveResponse responseKey
  cases response.packet with
  | none => exact SameTracked.effects (.of_tracked rfl) rfl
  | some packet =>
      have hcounted : SameTracked s s.responseCounted := .of_tracked rfl
      exact (hcounted.effects rfl).trans (receiveResponsePacket_effects _ _ _)

/-! ## Submission -/

/-- The metadata and packet of a submission that passes every validation of
`ProcessSendRequest`, with the defaults filled in. -/
def acceptedRequest (s : SesManager) (m : ExtendedOperationMetadata)
    (packet : Option Packet) : Option (ExtendedOperationMetadata × Packet) :=
  (preparedRequest (fillMetadata s.currentMessageId m).2 packet).filter fun p =>
    s.validateOperationMetadata p.1

/-- The state in which an accepted submission replaces the record of its
request. -/
def preparedState (s : SesManager) (m m' : ExtendedOperationMetadata) : SesManager :=
  ((s.submissionCounted m).authorizeJob m'.jobId).cancelPendingRetry (requestKey m') m'

/-- A rejected submission changes only bookkeeping. -/
theorem processSendRequest_rejected (env : Environment) {s : SesManager}
    {m : ExtendedOperationMetadata} {packet : Option Packet}
    (h : s.acceptedRequest m packet = none) :
    s.processSendRequest env m packet = ((s.submissionCounted m).errorCounted, false) := by
  unfold acceptedRequest at h
  unfold processSendRequest
  cases hp : preparedRequest (fillMetadata s.currentMessageId m).2 packet with
  | none => rfl
  | some p =>
      have hinvalid : ¬ s.validateOperationMetadata p.1 = true := by
        simpa [hp, Option.filter] using h
      exact if_neg hinvalid

/-- An accepted submission goes through its last part. -/
theorem processSendRequest_accepted (env : Environment) {s : SesManager}
    {m m' : ExtendedOperationMetadata} {packet : Option Packet} {p' : Packet}
    (h : s.acceptedRequest m packet = some (m', p')) :
    s.processSendRequest env m packet = (s.submissionCounted m).submitRequest env m' p' := by
  unfold acceptedRequest at h
  obtain ⟨hp, hvalid⟩ := Option.filter_eq_some_iff.mp h
  have hvalid' : (s.submissionCounted m).validateOperationMetadata m' = true := hvalid
  unfold processSendRequest
  rw [hp]
  exact if_pos hvalid'

theorem preparedState_requestStates (s : SesManager) (m m' : ExtendedOperationMetadata) :
    (s.preparedState m m').requestStates = s.requestStates := by
  unfold preparedState cancelPendingRetry authorizeJob
  split_ifs <;> rfl

/-- Nothing but bookkeeping and the retry entry of the request changes before
its record is replaced. -/
theorem preparedState_effects (s : SesManager) (m m' : ExtendedOperationMetadata) :
    Effects (requestKey m') s (s.preparedState m m') := by
  unfold preparedState
  have hsame : Effects (requestKey m') s ((s.submissionCounted m).authorizeJob m'.jobId) := by
    unfold authorizeJob
    split_ifs <;>
      exact SameTracked.effects (.of_tracked rfl) rfl
  refine hsame.trans ?_
  unfold cancelPendingRetry
  split_ifs with hpending
  · exact (Effect.retryErase _).effects
  · exact .refl

theorem rebuildRequest_frame (s : SesManager) (key : RequestKey)
    (m : ExtendedOperationMetadata) (packet : Packet) :
    (s.rebuildRequest key m packet).requestStates =
        s.requestStates.insert key (s.rebuiltRequest m packet (s.requestStates.lookup key)) ∧
      (s.rebuildRequest key m packet).retryStates = s.retryStates ∧
      (s.rebuildRequest key m packet).blockedPeerQueues = s.blockedPeerQueues ∧
      (s.rebuildRequest key m packet).sendAdmissionBudget = s.sendAdmissionBudget ∧
      (s.rebuildRequest key m packet).writeBudget = s.writeBudget := by
  simp only [rebuildRequest, recordSemanticStart]
  split_ifs <;> exact ⟨rfl, rfl, rfl, rfl, rfl⟩

/-- The record that an accepted submission installs is live. -/
theorem rebuildRequest_live (s : SesManager) (key : RequestKey)
    (m : ExtendedOperationMetadata) (packet : Packet) :
    Live (s.rebuildRequest key m packet) key
      (s.rebuiltRequest m packet (s.requestStates.lookup key)) := by
  refine ⟨?_, rfl⟩
  rw [(rebuildRequest_frame s key m packet).1]
  exact AList.lookup_insert _

/-- After the replacement an accepted submission is a sequence of effects. -/
theorem submitRequest_effects (env : Environment) (s : SesManager)
    (m m' : ExtendedOperationMetadata) (p' : Packet) :
    Effects (requestKey m')
      ((s.preparedState m m').rebuildRequest (requestKey m') m' p')
      ((s.submissionCounted m).submitRequest env m' p').1 := by
  have hlive := rebuildRequest_live (s.preparedState m m') (requestKey m') m' p'
  simp only [submitRequest]
  rw [show (authorizeJob _ m'.jobId).cancelPendingRetry (requestKey m') m' =
    s.preparedState m m' from rfl]
  generalize (s.preparedState m m').rebuildRequest (requestKey m') m' p' = s₁ at hlive ⊢
  obtain ⟨heff, hout⟩ := dispatchRequestPackets_effects env hlive
  generalize dispatchRequestPackets env s₁ (requestKey m') = result at heff hout ⊢
  refine heff.trans ?_
  cases hout with
  | failed s₂ => exact (handleDispatchFailure_effects s₂ _).1
  | waiting hlive' _ _ =>
      exact (completeWithoutResponse_effects hlive').1.trans
        (SameTracked.effects (.of_tracked rfl) rfl)
  | started hlive' _ _ _ _ _ =>
      exact (completeWithoutResponse_effects hlive').1.trans
        (SameTracked.effects (.of_tracked rfl) rfl)

theorem retryFired_effect {s : SesManager} {key : RequestKey} {retry : RetryState}
    (hretry : s.retryStates.lookup key = some retry) :
    Effect key s (s.retryFired key retry) := by
  unfold retryFired
  exact .retryUpdate hretry rfl rfl

theorem refreshRetry_effects (s : SesManager) (key : RequestKey) :
    Effects key s (s.refreshRetry key) := by
  unfold refreshRetry KeyedMap.modify
  cases hretry : s.retryStates.lookup key with
  | none => exact .refl
  | some retry =>
      refine (Effect.retryUpdate hretry ?_ ?_).effects
      · cases s.requestStates.lookup key <;> rfl
      · cases s.requestStates.lookup key <;> rfl

/-! ## The loop of the drain -/

/-- One iteration of the drain works for the head of the queue only. -/
theorem redispatchHead_effects (env : Environment) (s : SesManager) (key : RequestKey) :
    Effects key s (redispatchHead env s key).1 ∨
      ∃ r, Live s key r ∧
        Effects key (s.modifyRequest key redispatchCounted) (redispatchHead env s key).1 := by
  simp only [redispatchHead]
  cases hr : s.requestStates.lookup key with
  | none => exact .inl (Effect.unlink s).effects
  | some r =>
      cases hterm : r.terminalized with
      | true =>
          simp only [hterm, if_true]
          exact .inl (Effect.unlink s).effects
      | false =>
          have hlive : Live s key r := ⟨hr, hterm⟩
          refine .inr ⟨r, hlive, ?_⟩
          simp only [hterm, Bool.false_eq_true, if_false]
          have hlive₁ : Live (s.modifyRequest key redispatchCounted) key
              (redispatchCounted r) := by
            rw [modifyRequest_of_some hr]
            exact ⟨AList.lookup_insert _, hterm⟩
          generalize s.modifyRequest key redispatchCounted = s₁ at hlive₁ ⊢
          obtain ⟨heff, hout⟩ := dispatchRequestPackets_effects env hlive₁
          generalize dispatchRequestPackets env s₁ key = result at heff hout ⊢
          refine heff.trans ?_
          cases hout with
          | failed s₂ => exact (handleDispatchFailure_effects s₂ _).1
          | waiting hlive' _ hlinked =>
              simp only [hlive'.lookup, hlinked]
              exact .refl
          | started hlive' _ hlinked hgate _ _ =>
              simp only [hlive'.lookup, hlinked, hgate]
              exact (completeWithoutResponse_effects hlive').1

end SesManager
end UeSim
