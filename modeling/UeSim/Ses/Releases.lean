import UeSim.Ses.Refusals

/-!
# Responses and timeouts that give reservations back

Which responses and which timeouts make a request release its budget or close
is decided by the state before the step.  The others are quiet; these leave
their request without a reservation and wake the queue of its peer.
-/

namespace UeSim
namespace SesManager

variable {s s' : SesManager} {key : RequestKey} {p : ℕ}

/-! ## Responses and timeouts that give nothing back -/

/-- Whether one more retry is one too many. -/
def retriesSpent (r : RequestLifecycleState) : Bool :=
  maxRtoRetxCnt < toU16 (r.lastRetryCount + 1)

/-- Whether a successful SEND response gives the admission back ahead of the
close. -/
def consumeReleases (r : RequestLifecycleState) (response : PdcSesResponse)
    (tag : SoftUeMetadataTag) : Bool :=
  tag.operationType = .send && r.sendAdmissionReserved &&
    (consumeObserved response.auxTimestampNs r).receiveConsumeCompleteNs ≠ 0

/-- Whether a response makes a live request release its budget or close. -/
def responseReleases (s : SesManager) (r : RequestLifecycleState) (response : PdcSesResponse)
    (tag : SoftUeMetadataTag) : Bool :=
  if tag.returnCode = .ok then
    consumeReleases r response tag || tag.responseOpCode ≠ .responseWithData ||
      (response.rxResult.handled && (response.rxResult.failed ||
        response.rxResult.returnCode ≠ .ok || response.rxResult.deliveryComplete))
  else if tag.returnCode = .noMatch ∧ tag.operationType = .send then
    !s.retryEnabled || retriesSpent r
  else true

/-- Whether the response timeout of a request has expired. -/
def timeoutExpired (s : SesManager) (key : RequestKey) (r : RequestLifecycleState) : Bool :=
  !r.terminalized && r.waitingResponse && r.responseDeadlineMs ≠ 0 && !s.retryPending key &&
    r.waitingResponseGeneration = r.attemptGeneration && r.responseDeadlineMs ≤ s.nowMs

/-- The request that an action makes release its budget or close, with its
record before the action. -/
def releaseOf (s : SesManager) : SesAction → Option (RequestKey × RequestLifecycleState)
  | .receiveResponse response =>
      response.packet.bind fun packet =>
        if packet.metadata.isResponse then
          ((s.requestStates.lookup (packetKey packet)).filter fun r =>
            !r.terminalized && s.responseReleases r response packet.metadata).map fun r =>
              (packetKey packet, r)
        else none
  | .checkTimeout key =>
      ((s.requestStates.lookup key).filter fun r =>
        s.timeoutExpired key r && (!s.retryEnabled || retriesSpent r)).map fun r => (key, r)
  | _ => none

/-- Scheduling a retry that is not one too many gives nothing back. -/
theorem scheduleRetry_quiet {r : RequestLifecycleState} (trigger : RetryTrigger)
    (hr : s.requestStates.lookup key = some r) (hleft : retriesSpent r = false) :
    Quiet s (s.scheduleRetry key trigger) := by
  have hcount : ¬ maxRtoRetxCnt < toU16 (r.lastRetryCount + 1) := by
    simpa [retriesSpent] using hleft
  simp only [scheduleRetry, hr, if_neg hcount]
  have hmarked : Quiet s (s.modifyRequest key
      (retryMarked trigger (toU16 (r.lastRetryCount + 1)))) := .modify s key fun _ _ => rfl
  exact hmarked.trans (.of_same rfl rfl rfl rfl)

theorem noteSendConsumed_quiet {r : RequestLifecycleState} {response : PdcSesResponse}
    {tag : SoftUeMetadataTag} (hsend : tag.operationType = .send)
    (hr : s.requestStates.lookup key = some r)
    (hkeep : consumeReleases r response tag = false) :
    Quiet s (s.noteSendConsumed key response.auxTimestampNs) := by
  have hr' : (s.modifyRequest key (consumeObserved response.auxTimestampNs)).requestStates.lookup
      key = some (consumeObserved response.auxTimestampNs r) := by
    rw [modifyRequest_of_some hr, AList.lookup_insert]
  simp only [consumeReleases, hsend, decide_true, Bool.true_and] at hkeep
  have hidle : ((consumeObserved response.auxTimestampNs r).sendAdmissionReserved &&
      decide ((consumeObserved response.auxTimestampNs r).receiveConsumeCompleteNs ≠ 0)) =
        false := hkeep
  simp only [noteSendConsumed, hr', hidle, Bool.false_eq_true, if_false]
  exact .modify s key fun _ _ => rfl

theorem receiveLiveResponse_quiet {r : RequestLifecycleState} {response : PdcSesResponse}
    {tag : SoftUeMetadataTag} (hr : s.requestStates.lookup key = some r)
    (hkeep : s.responseReleases r response tag = false) :
    Quiet s (s.receiveLiveResponse key r response tag) := by
  unfold responseReleases at hkeep
  unfold receiveLiveResponse
  by_cases hok : tag.returnCode = .ok
  · rw [if_pos hok] at hkeep ⊢
    simp only [Bool.or_eq_false_iff, decide_eq_false_iff_not, not_not] at hkeep
    obtain ⟨⟨hconsume, hdata⟩, hrx⟩ := hkeep
    have hbefore : Quiet s (if tag.operationType = .send
        then s.noteSendConsumed key response.auxTimestampNs else s) := by
      split_ifs with hsend
      · exact noteSendConsumed_quiet hsend hr hconsume
      · exact .refl s
    refine hbefore.trans ?_
    simp only [hdata, if_true, receiveReadData]
    generalize (if tag.operationType = .send
      then s.noteSendConsumed key response.auxTimestampNs else s) = s₁
    cases hhandled : response.rxResult.handled with
    | false => exact .refl s₁
    | true =>
        simp only [hhandled, Bool.true_and, Bool.or_eq_false_iff, decide_eq_false_iff_not,
          not_not] at hrx
        obtain ⟨⟨hfailed, hcode⟩, hcomplete⟩ := hrx
        simp only [hfailed, hcode, hcomplete]
        exact .modify s₁ key fun _ _ => rfl
  · rw [if_neg hok] at hkeep ⊢
    by_cases hmatch : tag.returnCode = .noMatch ∧ tag.operationType = .send
    · rw [if_pos hmatch] at hkeep ⊢
      simp only [Bool.or_eq_false_iff] at hkeep
      simp only [hkeep.1, Bool.false_eq_true, if_false]
      exact scheduleRetry_quiet _ hr hkeep.2
    · rw [if_neg hmatch] at hkeep
      cases hkeep

/-- A response that makes no request release its budget is quiet. -/
theorem processReceiveResponse_quiet {response : PdcSesResponse}
    (hkeep : s.releaseOf (.receiveResponse response) = none) :
    Quiet s (s.processReceiveResponse response) := by
  have hcounted : Quiet s s.responseCounted := .of_same rfl rfl rfl rfl
  unfold processReceiveResponse
  cases hpacket : response.packet with
  | none => exact hcounted.trans (.of_same rfl rfl rfl rfl)
  | some packet =>
      refine hcounted.trans ?_
      simp only [releaseOf, hpacket, Option.bind_some] at hkeep
      dsimp only [receiveResponsePacket]
      split_ifs with htag
      · cases hr : s.requestStates.lookup (packetKey packet) with
        | none =>
            simp only [show s.responseCounted.requestStates = s.requestStates from rfl, hr]
            exact .refl _
        | some r =>
            have hr' : s.responseCounted.requestStates.lookup (packetKey packet) = some r := hr
            simp only [hr']
            split_ifs with hterm
            · exact .refl _
            · have hleft : s.responseReleases r response packet.metadata = false := by
                simpa [htag, hr, hterm, Option.filter] using hkeep
              exact receiveLiveResponse_quiet hr' hleft
      · exact .of_same rfl rfl rfl rfl

theorem checkResponseTimeout_quiet (hkeep : s.releaseOf (.checkTimeout key) = none) :
    Quiet s (s.checkResponseTimeout key) := by
  unfold checkResponseTimeout
  cases hr : s.requestStates.lookup key with
  | none => exact .refl s
  | some r =>
      dsimp only
      by_cases hidle :
          (r.terminalized || !r.waitingResponse || decide (r.responseDeadlineMs = 0)) = true
      · rw [if_pos hidle]
        exact .refl s
      rw [if_neg hidle]
      by_cases hretry : s.retryPending key = true
      · rw [if_pos hretry]
        exact .refl s
      rw [if_neg hretry]
      by_cases hstale : r.waitingResponseGeneration ≠ r.attemptGeneration
      · rw [if_pos hstale]
        exact .modify s key fun _ _ => rfl
      rw [if_neg hstale]
      by_cases hearly : s.nowMs < r.responseDeadlineMs
      · rw [if_pos hearly]
        exact .refl s
      rw [if_neg hearly]
      have hexpired : s.timeoutExpired key r = true := by
        simp only [Bool.or_eq_true, decide_eq_true_eq, not_or, Bool.not_eq_true,
          Bool.not_eq_eq_eq_not] at hidle
        simp_all [timeoutExpired]
      have hleft : (!s.retryEnabled || retriesSpent r) = false := by
        simpa [releaseOf, hr, hexpired, Option.filter] using hkeep
      simp only [Bool.or_eq_false_iff] at hleft
      simp only [hleft.1, Bool.false_eq_true, if_false]
      exact scheduleRetry_quiet _ hr hleft.2

/-! ## Responses and timeouts that give something back -/

/-- The request is closed or holds no reservation. -/
def Settled (s : SesManager) (key : RequestKey) : Prop :=
  ∃ r, s.requestStates.lookup key = some r ∧
    (r.terminalized = true ∨ r.sendAdmissionReserved = false ∧ r.writeBudgetReserved = false)

theorem Settled.unreserved (h : Settled s key) (hclosed : TerminalReleased s) :
    ∀ r, s.requestStates.lookup key = some r →
      r.sendAdmissionReserved = false ∧ r.writeBudgetReserved = false := by
  intro r hr
  obtain ⟨r', hr', hsettled⟩ := h
  cases hr'.symm.trans hr
  rcases hsettled with hterm | hfree
  · obtain ⟨hsend, hwrite⟩ := hclosed key r hr hterm
    exact ⟨sendHeld_eq_none.mp hsend, writeHeld_eq_none.mp hwrite⟩
  · exact hfree

theorem close_settled {r : RequestLifecycleState} (h : Live s key r)
    (returnCode : ResponseReturnCode) (bytes : ℕ) (reason : RequestTerminalReason) :
    Settled ((s.setRequestCompletionOutcome key returnCode bytes).terminalizeRequest key reason)
      key := by
  obtain ⟨r', hr', hclosed⟩ := (close_effects h returnCode bytes reason).2
  exact ⟨r', hr', .inl hclosed⟩

/-- A retry that is one too many closes the request. -/
theorem scheduleRetry_settled {r : RequestLifecycleState} (trigger : RetryTrigger)
    (h : Live s key r) (hspent : retriesSpent r = true) :
    Settled (s.scheduleRetry key trigger) key := by
  have hcount : maxRtoRetxCnt < toU16 (r.lastRetryCount + 1) := by
    simpa [retriesSpent] using hspent
  simp only [scheduleRetry, h.lookup, if_pos hcount]
  generalize toU16 (r.lastRetryCount + 1) = retryCount
  obtain ⟨-, hlive⟩ := h.modify (f := retryMarked trigger retryCount) rfl
  obtain ⟨-, hlive'⟩ := hlive.modify (f := retriesExhausted) rfl
  exact close_settled hlive' _ _ _

/-- A request whose consumption is known has given its reservations back. -/
theorem noteSendConsumed_released {r : RequestLifecycleState} {response : PdcSesResponse}
    {tag : SoftUeMetadataTag} (h : Live s key r)
    (hconsume : consumeReleases r response tag = true) :
    ∃ r', Live (s.noteSendConsumed key response.auxTimestampNs) key r' ∧
      r'.sendAdmissionReserved = false ∧ r'.writeBudgetReserved = false := by
  obtain ⟨-, hlive⟩ := h.modify (f := consumeObserved response.auxTimestampNs) rfl
  simp only [consumeReleases, Bool.and_eq_true] at hconsume
  have hknown : ((consumeObserved response.auxTimestampNs r).sendAdmissionReserved &&
      decide ((consumeObserved response.auxTimestampNs r).receiveConsumeCompleteNs ≠ 0)) =
        true := by
    rw [Bool.and_eq_true]
    exact ⟨hconsume.1.2, hconsume.2⟩
  simp only [noteSendConsumed, hlive.lookup, hknown, if_true]
  obtain ⟨-, r', hlive', hreleased⟩ := releaseDispatchBudget_effects hlive
  exact ⟨r', hlive', hreleased.send, hreleased.write⟩

theorem receiveReadData_settled {r state : RequestLifecycleState} {tag : SoftUeMetadataTag}
    {rx : PdcRxSemanticResult} (h : Live s key r)
    (hrel : r.sendAdmissionReserved = false ∧ r.writeBudgetReserved = false ∨
      (rx.handled && (rx.failed || rx.returnCode ≠ .ok || rx.deliveryComplete)) = true) :
    Settled (s.receiveReadData key state tag rx) key := by
  simp only [receiveReadData]
  cases hhandled : rx.handled with
  | false =>
      have hfree := hrel.resolve_right (by simp [hhandled])
      exact ⟨r, h.lookup, .inr hfree⟩
  | true =>
      simp only [Bool.not_true, Bool.false_eq_true, if_false]
      by_cases hfailed : (rx.failed || decide (rx.returnCode ≠ .ok)) = true
      · rw [if_pos hfailed]
        exact close_settled h _ _ _
      rw [if_neg hfailed]
      cases hcomplete : rx.deliveryComplete with
      | true =>
          obtain ⟨-, hlive⟩ := h.modify (f := readDataComplete) rfl
          simp only [if_true]
          exact close_settled hlive _ _ _
      | false =>
          have hfree := hrel.resolve_right (by simpa [hhandled, hcomplete] using hfailed)
          obtain ⟨-, hlive⟩ := h.modify (f := s.readDataAwaited) rfl
          exact ⟨_, hlive.lookup, .inr hfree⟩

theorem receiveLiveResponse_settled {r : RequestLifecycleState} {response : PdcSesResponse}
    {tag : SoftUeMetadataTag} (h : Live s key r)
    (hrel : s.responseReleases r response tag = true) :
    Settled (s.receiveLiveResponse key r response tag) key := by
  unfold responseReleases at hrel
  unfold receiveLiveResponse
  by_cases hok : tag.returnCode = .ok
  · rw [if_pos hok] at hrel ⊢
    obtain ⟨r₁, hlive₁, hfree₁⟩ : ∃ r₁, Live (if tag.operationType = .send
        then s.noteSendConsumed key response.auxTimestampNs else s) key r₁ ∧
        (consumeReleases r response tag = true →
          r₁.sendAdmissionReserved = false ∧ r₁.writeBudgetReserved = false) := by
      cases hconsume : consumeReleases r response tag with
      | true =>
          have hsend : tag.operationType = .send := by
            simp only [consumeReleases, Bool.and_eq_true, decide_eq_true_eq] at hconsume
            exact hconsume.1.1
          rw [if_pos hsend]
          obtain ⟨r', hlive', hfree⟩ := noteSendConsumed_released h hconsume
          exact ⟨r', hlive', fun _ => hfree⟩
      | false =>
          split_ifs with hsend
          · obtain ⟨-, r', hlive'⟩ := noteSendConsumed_effects h response.auxTimestampNs
            exact ⟨r', hlive', nofun⟩
          · exact ⟨r, h, nofun⟩
    dsimp only
    generalize (if tag.operationType = .send
      then s.noteSendConsumed key response.auxTimestampNs else s) = s₁ at hlive₁ ⊢
    by_cases hdata : tag.responseOpCode = .responseWithData
    · rw [if_pos hdata]
      simp only [Bool.or_eq_true, decide_eq_true_eq, hdata, ne_eq, not_true, or_false] at hrel
      refine receiveReadData_settled hlive₁ (hrel.imp hfree₁ fun hrx => ?_)
      simpa using hrx
    · rw [if_neg hdata]
      obtain ⟨-, hlive₂⟩ := hlive₁.modify (f := okObserved) rfl
      exact close_settled hlive₂ _ _ _
  · rw [if_neg hok] at hrel ⊢
    by_cases hmatch : tag.returnCode = .noMatch ∧ tag.operationType = .send
    · rw [if_pos hmatch] at hrel ⊢
      cases hdisabled : s.retryEnabled with
      | false => exact close_settled h _ _ _
      | true =>
          simp only [hdisabled, Bool.not_true, Bool.false_or] at hrel
          simp only [Bool.not_true, Bool.false_eq_true, if_false]
          exact scheduleRetry_settled _ h hrel
    · rw [if_neg hmatch]
      exact close_settled h _ _ _

/-- What an action that makes a request release its budget or close has seen
and done. -/
theorem releaseOf_spec {env : Environment} {a : SesAction} {r : RequestLifecycleState}
    (hrel : s.releaseOf a = some (key, r)) (hstep : sesStep env s a = some s') :
    s.requestStates.lookup key = some r ∧ Effects key s s' ∧ Settled s' key := by
  cases a with
  | receiveResponse response =>
      cases hstep
      obtain ⟨packet, hpacket, hrel⟩ := Option.bind_eq_some_iff.mp hrel
      obtain ⟨htag, hrel⟩ := Option.ite_none_right_eq_some.mp hrel
      obtain ⟨r', hfound, heq⟩ := Option.map_eq_some_iff.mp hrel
      obtain ⟨rfl, rfl⟩ := Prod.mk.injEq _ _ _ _ ▸ heq
      obtain ⟨hr, hlive⟩ := Option.filter_eq_some_iff.mp hfound
      simp only [Bool.and_eq_true, Bool.not_eq_eq_eq_not, Bool.not_true] at hlive
      have heff := processReceiveResponse_effects s response
      rw [responseKey, hpacket] at heff
      refine ⟨hr, heff, ?_⟩
      have hr' : s.responseCounted.requestStates.lookup (packetKey packet) = some r' := hr
      simp only [processReceiveResponse, hpacket, receiveResponsePacket, htag, if_true, hr',
        hlive.1, Bool.false_eq_true, if_false]
      exact receiveLiveResponse_settled ⟨hr', hlive.1⟩ hlive.2
  | checkTimeout k =>
      cases hstep
      obtain ⟨r', hfound, heq⟩ := Option.map_eq_some_iff.mp hrel
      obtain ⟨rfl, rfl⟩ := Prod.mk.injEq _ _ _ _ ▸ heq
      obtain ⟨hr, hdue⟩ := Option.filter_eq_some_iff.mp hfound
      refine ⟨hr, checkResponseTimeout_effects s k, ?_⟩
      simp only [Bool.and_eq_true, timeoutExpired, decide_eq_true_eq,
        Bool.not_eq_eq_eq_not, Bool.not_true] at hdue
      obtain ⟨⟨⟨⟨⟨⟨hlive, hwaiting⟩, hdeadline⟩, hpending⟩, hgeneration⟩, hlate⟩, hspent⟩ := hdue
      simp only [checkResponseTimeout, hr, hlive, hwaiting, hdeadline, hpending, hgeneration,
        Nat.not_lt.mpr hlate, Bool.not_true, Bool.or_self, Bool.false_eq_true, if_false,
        ne_eq, not_true, decide_false]
      cases henabled : s.retryEnabled with
      | false =>
          obtain ⟨-, hlive'⟩ := Live.modify (f := retriesExhausted) ⟨hr, hlive⟩ rfl
          exact close_settled hlive' _ _ _
      | true =>
          simp only [henabled, Bool.not_true, Bool.false_or] at hspent
          exact scheduleRetry_settled _ ⟨hr, hlive⟩ hspent
  | _ => cases hrel

/-- Either `p` is the peer that the pending release of `key` will wake, or the
others in its queue are refused whatever `key` gives back. -/
def Returning (key : RequestKey) (p : ℕ) (s : SesManager) : Prop :=
  (p = key.peerFep ∧ ∃ r, s.requestStates.lookup key = some r ∧ reserves r = true) ∨
    OthersRefused key p s

/-- A release wakes the queue of its peer. -/
theorem othersRefused_of_woken
    (hqueues : s'.blockedPeerQueues = s.blockedPeerQueues.wake p) : OthersRefused key p s' := by
  intro hpending k r hfirst
  have hmem : k ∈ s'.blockedQueue p := List.mem_of_mem_erase (List.mem_of_head? hfirst)
  simp only [SesManager.wakeupPending, blockedQueue, hqueues] at hpending hmem
  rw [BlockedPeerQueues.requests_wake] at hmem
  have hwoken := BlockedPeerQueues.wakeupPending_wake_self (List.ne_nil_of_mem hmem)
  exact absurd (hpending.symm.trans hwoken) Bool.false_ne_true

theorem Returning.effect (h : Returning key p s) (hmatch : QueuesMatch s)
    (heff : Effect key s s') : Returning key p s' := by
  rcases h with ⟨hp, r, hr, hheld⟩ | hothers
  swap
  · exact .inr (hothers.effect hmatch heff)
  subst hp
  have hstill : ∀ {q : RequestLifecycleState}, reserves q = true →
      s'.requestStates = s.requestStates.insert key q → Returning key key.peerFep s' :=
    fun hheld hstates => .inl ⟨rfl, _, hstates ▸ AList.lookup_insert _, hheld⟩
  cases heff with
  | other hsame _ => exact .inl ⟨rfl, r, by rw [hsame.requestStates, hr], hheld⟩
  | progress hr₀ _ hkeep =>
      cases hr₀.symm.trans hr
      refine hstill ?_ rfl
      have hsend := congrArg Standing.sendAdmissionReserved hkeep
      have hwrite := congrArg Standing.writeBudgetReserved hkeep
      simp only [standing] at hsend hwrite
      rwa [reserves, hsend, hwrite]
  | retryErase | retrySet _ _ _ _ | retryUpdate _ _ _ => exact .inl ⟨rfl, r, hr, hheld⟩
  | grantSend => exact hstill (by simp [reserves, unlinked, sendReserved]) rfl
  | grantWrite => exact hstill (by simp [reserves, unlinked, writeReserved]) rfl
  | grantFree hr₀ _ _ =>
      cases hr₀.symm.trans hr
      exact hstill (q := unlinked r) hheld rfl
  | link hr₀ _ _ _ =>
      cases hr₀.symm.trans hr
      exact hstill (q := linked r) hheld rfl
  | releaseSend | releaseWrite => exact .inr (othersRefused_of_woken rfl)
  | unlink => exact hstill (q := unlinked r) hheld (KeyedMap.modify_of_some hr)
  | close reason hr₀ _ _ _ hsend hwrite =>
      cases hr₀.symm.trans hr
      simp [reserves, hsend, hwrite] at hheld

/-- A request that gives back its reservations leaves every refused head
refused, if no other queue waits for what it gives back. -/
theorem HeadRefused.settled (horderly : Orderly s) (heff : Effects key s s')
    (hself : SelfRefused key p s) (hreturning : Returning key p s) (hsettled : Settled s' key) :
    HeadRefused p s' := by
  obtain ⟨horderly', hself', hreturning'⟩ := heff.invariant
    (P := fun t => Orderly t ∧ SelfRefused key p t ∧ Returning key p t)
    ⟨horderly, hself, hreturning⟩
    fun t t' ⟨horderly, hself, hreturning⟩ h => ⟨horderly.effect h,
      hself.effect horderly.queues horderly.records h, hreturning.effect horderly.queues h⟩
  refine .of_parts hself' (hreturning'.resolve_left ?_)
  rintro ⟨-, r, hr, hheld⟩
  obtain ⟨hsend, hwrite⟩ := hsettled.unreserved horderly'.closed r hr
  simp [reserves, hsend, hwrite] at hheld

end SesManager
end UeSim
