import UeSim.Ses.Triggers

/-!
# Handlers leave their request advancing

The handlers are followed one by one for the request they work for: it ends
armed, linked, due for a retry, or closed.
-/

namespace UeSim
namespace SesManager

variable {s s' : SesManager} {key k : RequestKey}

/-! ## Dispatches -/

/-- After a dispatch that did not fail the request is armed or linked, unless it
expects no response and is closed. -/
theorem completeWithoutResponse_advances {m : ExtendedOperationMetadata} {deadlineMs : ℕ}
    {result : SesManager × Bool} (hout : DispatchOutcome key m deadlineMs result)
    (hsent : result.2 = true) (hdeadline : deadlineMs ≠ 0) :
    ∀ r, Live (result.1.completeWithoutResponse key) key r →
      Armed r ∨ r.blockedQueueLinked = true := by
  intro r hr
  cases hout with
  | failed => cases hsent
  | waiting hlive hmeta hlinked =>
      refine .inr ?_
      simp only [completeWithoutResponse, hlive.lookup, hlinked, Bool.not_true,
        Bool.and_false, Bool.false_eq_true, if_false] at hr
      cases hlive.lookup.symm.trans hr.lookup
      exact hlinked
  | started hlive hmeta hlinked hgate hstarted hawaiting =>
      cases hexpect : m.expectResponse with
      | true =>
          refine .inl ?_
          simp only [completeWithoutResponse, hlive.lookup, hmeta, hexpect, Bool.not_true,
            Bool.false_and, Bool.false_eq_true, if_false] at hr
          cases hlive.lookup.symm.trans hr.lookup
          exact (hawaiting hexpect).armed hdeadline
      | false =>
          simp only [completeWithoutResponse, hlive.lookup, hmeta, hexpect, hlinked, hgate,
            hstarted, Bool.not_false, Bool.and_self, if_true] at hr
          obtain ⟨r', hr', hclosed⟩ := (close_effects hlive .ok m.payloadBytes .rcOkResponse).2
          cases hr'.symm.trans hr.lookup
          exact absurd (hr.live.symm.trans hclosed) Bool.false_ne_true

theorem handleDispatchFailure_closed (s : SesManager) (key : RequestKey) :
    ∀ r, ¬ Live (s.handleDispatchFailure key) key r := fun r hr =>
  absurd (hr.live.symm.trans ((handleDispatchFailure_effects s key).2 r hr.lookup))
    Bool.false_ne_true

theorem LinkedQueued.advances (h : LinkedQueued s)
    (hown : ∀ r, Live s key r → Armed r ∨ r.blockedQueueLinked = true) : Advances s key := by
  intro r hr
  rcases hown r hr with harmed | hlinked
  · exact .inl harmed
  · exact .inr (.inr ⟨hlinked, h key r hr.lookup hlinked⟩)

theorem rebuildRequest_responseDeadline (s : SesManager) (key : RequestKey)
    (m : ExtendedOperationMetadata) (packet : Packet) :
    (s.rebuildRequest key m packet).responseDeadline = s.responseDeadline := by
  simp only [rebuildRequest, recordSemanticStart]
  split_ifs <;> rfl

/-- An accepted submission leaves its request armed, linked or closed. -/
theorem submitRequest_advances (env : Environment) (hlinked : LinkedQueued s)
    (hdeadline : s.responseDeadline ≠ 0) (m m' : ExtendedOperationMetadata) (p' : Packet) :
    Advances ((s.submissionCounted m).submitRequest env m' p').1 (requestKey m') := by
  have hqueued : LinkedQueued ((s.submissionCounted m).submitRequest env m' p').1 :=
    ((hlinked.updates (preparedState_effects s m m').updates).rebuild _ _ _).updates
      (submitRequest_effects env s m m' p').updates
  refine hqueued.advances ?_
  have hclock : ((s.preparedState m m').rebuildRequest (requestKey m') m' p').responseDeadline =
      s.responseDeadline :=
    (rebuildRequest_responseDeadline _ _ _ _).trans
      (preparedState_effects s m m').responseDeadline
  have hlive := rebuildRequest_live (s.preparedState m m') (requestKey m') m' p'
  simp only [submitRequest]
  rw [show (authorizeJob _ m'.jobId).cancelPendingRetry (requestKey m') m' =
    s.preparedState m m' from rfl]
  generalize (s.preparedState m m').rebuildRequest (requestKey m') m' p' = s₁ at hclock hlive ⊢
  obtain ⟨-, hout⟩ := dispatchRequestPackets_effects env hlive
  rw [hclock] at hout
  generalize dispatchRequestPackets env s₁ (requestKey m') = result at hout ⊢
  cases hsent : result.2 with
  | false => exact fun r hr => absurd hr (handleDispatchFailure_closed result.1 _ r)
  | true =>
      intro r hr
      exact completeWithoutResponse_advances hout hsent hdeadline r ⟨hr.lookup, hr.live⟩

/-- One iteration of a drain leaves its request armed, linked or closed. -/
theorem redispatchHead_advances (env : Environment) (hlinked : LinkedQueued s)
    (hdeadline : s.responseDeadline ≠ 0) (key : RequestKey) :
    Advances (redispatchHead env s key).1 key := by
  have hqueued := hlinked.updates (redispatchHead_updates env s key)
  refine hqueued.advances ?_
  simp only [redispatchHead]
  cases hr : s.requestStates.lookup key with
  | none =>
      intro r hlive
      have hnone := hlive.lookup
      simp [removeBlockedRequest, KeyedMap.lookup_modify_self, hr] at hnone
  | some r₀ =>
      cases hterm : r₀.terminalized with
      | true =>
          simp only [hterm, if_true]
          intro r hlive
          rw [removeBlockedRequest_of_some hr] at hlive
          cases (AList.lookup_insert _).symm.trans hlive.lookup
          exact absurd (hlive.live.symm.trans hterm) Bool.false_ne_true
      | false =>
          simp only [hterm, Bool.false_eq_true, if_false]
          have hlive₁ : Live (s.modifyRequest key redispatchCounted) key
              (redispatchCounted r₀) := by
            rw [modifyRequest_of_some hr]
            exact ⟨AList.lookup_insert _, hterm⟩
          have hclock : (s.modifyRequest key redispatchCounted).responseDeadline =
              s.responseDeadline := rfl
          generalize s.modifyRequest key redispatchCounted = s₁ at hlive₁ hclock ⊢
          obtain ⟨-, hout⟩ := dispatchRequestPackets_effects env hlive₁
          rw [hclock] at hout
          generalize dispatchRequestPackets env s₁ key = result at hout ⊢
          cases hsent : result.2 with
          | false => exact fun r hr => absurd hr (handleDispatchFailure_closed result.1 _ r)
          | true =>
              have hadvances := completeWithoutResponse_advances hout hsent hdeadline
              cases hout with
              | failed => cases hsent
              | waiting hlive' _ hlinked' =>
                  simp only [hlive'.lookup, hlinked', Bool.true_or, if_true]
                  intro r hr
                  cases hlive'.lookup.symm.trans hr.lookup
                  exact .inr hlinked'
              | started hlive' _ hlinked' hgate' _ _ =>
                  simp only [hlive'.lookup, hlinked', hgate', Bool.or_self,
                    Bool.false_eq_true, if_false]
                  exact hadvances

/-! ## Retries, timeouts and responses -/

theorem close_advances {r : RequestLifecycleState} (h : Live s key r)
    (returnCode : ResponseReturnCode) (bytes : ℕ) (reason : RequestTerminalReason) :
    Advances ((s.setRequestCompletionOutcome key returnCode bytes).terminalizeRequest key
      reason) key := by
  obtain ⟨r', hr', hclosed⟩ := (close_effects h returnCode bytes reason).2
  exact .of_closed fun r'' hr'' => Option.some.inj (hr'.symm.trans hr'') ▸ hclosed

/-- A retry that is scheduled is due for the current attempt; one that is one
too many closes the request. -/
theorem scheduleRetry_advances {r : RequestLifecycleState} (h : Live s key r)
    (trigger : RetryTrigger) : Advances (s.scheduleRetry key trigger) key := by
  simp only [scheduleRetry, h.lookup]
  generalize toU16 (r.lastRetryCount + 1) = retryCount
  obtain ⟨-, hlive⟩ := h.modify (f := retryMarked trigger retryCount) rfl
  by_cases hspent : maxRtoRetxCnt < retryCount
  · rw [if_pos hspent]
    obtain ⟨-, hlive'⟩ := hlive.modify (f := retriesExhausted) rfl
    exact close_advances hlive' _ _ _
  · rw [if_neg hspent]
    intro r' hr'
    cases hlive.lookup.symm.trans hr'.lookup
    exact .inr (.inl ⟨_, AList.lookup_insert _, rfl, rfl⟩)

theorem checkResponseTimeout_advances (h : Advances s key) :
    Advances (s.checkResponseTimeout key) key := by
  unfold checkResponseTimeout
  cases hr : s.requestStates.lookup key with
  | none => exact h
  | some r =>
      dsimp only
      by_cases hidle :
          (r.terminalized || !r.waitingResponse || decide (r.responseDeadlineMs = 0)) = true
      · rw [if_pos hidle]
        exact h
      rw [if_neg hidle]
      have hlive : Live s key r := by
        simp only [Bool.or_eq_true, not_or, Bool.not_eq_true] at hidle
        exact ⟨hr, hidle.1.1⟩
      split_ifs with hretry hstale hearly hdisabled
      · exact h
      · -- a timeout of an earlier attempt is not armed
        intro r' hr'
        obtain ⟨-, hlive'⟩ := hlive.modify (f := deadlineCleared) rfl
        cases hlive'.lookup.symm.trans hr'.lookup
        rcases h r hlive with harmed | hdue | hqueued
        · exact absurd harmed.1.generation hstale
        · exact .inr (.inl hdue)
        · exact .inr (.inr hqueued)
      · exact h
      · obtain ⟨-, hlive'⟩ := hlive.modify (f := retriesExhausted) rfl
        exact close_advances hlive' _ _ _
      · exact scheduleRetry_advances hlive _

theorem releaseSendReservation_steady (s : SesManager) (key : RequestKey) :
    Steady key s (s.releaseSendReservation key) := by
  unfold releaseSendReservation
  cases hr : s.requestStates.lookup key with
  | none => exact .refl s
  | some r =>
      dsimp only
      split_ifs
      · refine ⟨?_, rfl, iff_of_eq (congrArg _ (BlockedPeerQueues.requests_wake _ _ _))⟩
        rw [AList.lookup_insert, hr]
        rfl
      · exact .refl s

theorem releaseWriteReservation_steady (s : SesManager) (key : RequestKey) :
    Steady key s (s.releaseWriteReservation key) := by
  unfold releaseWriteReservation
  cases hr : s.requestStates.lookup key with
  | none => exact .refl s
  | some r =>
      dsimp only
      split_ifs
      · refine ⟨?_, rfl, iff_of_eq (congrArg _ (BlockedPeerQueues.requests_wake _ _ _))⟩
        rw [AList.lookup_insert, hr]
        rfl
      · exact .refl s

/-- Knowing that a SEND was consumed changes nothing that it waits for. -/
theorem noteSendConsumed_steady (s : SesManager) (key : RequestKey) (auxTimestampNs : ℕ) :
    Steady key s (s.noteSendConsumed key auxTimestampNs) := by
  have hobserved : Steady key s (s.modifyRequest key (consumeObserved auxTimestampNs)) :=
    .modify s fun _ => rfl
  simp only [noteSendConsumed]
  generalize s.modifyRequest key (consumeObserved auxTimestampNs) = s₁ at hobserved ⊢
  cases hr : s₁.requestStates.lookup key with
  | none => exact hobserved
  | some r =>
      dsimp only
      split_ifs
      · exact hobserved.trans ((releaseSendReservation_steady s₁ key).trans
          (releaseWriteReservation_steady _ key))
      · exact hobserved

/-- More response data restarts the timeout of an attempt that has started. -/
theorem readDataAwaited_advances {r : RequestLifecycleState} (h : Live s key r)
    (hadvances : Advances s key) (hdeadline : s.responseDeadline ≠ 0) :
    Advances (s.modifyRequest key s.readDataAwaited) key := by
  intro r' hr'
  obtain ⟨-, hlive⟩ := h.modify (f := s.readDataAwaited) rfl
  cases hlive.lookup.symm.trans hr'.lookup
  cases hstarted : r.dispatchStarted with
  | true =>
      refine .inl (Awaiting.armed ?_ hdeadline)
      constructor <;>
        simp [readDataAwaited, armResponseTimeout, responseDeadline, hstarted]
  | false =>
      rcases hadvances r h with harmed | hdue | hqueued
      · exact absurd (hstarted.symm.trans harmed.1.started) Bool.false_ne_true
      · exact .inr (.inl hdue)
      · exact .inr (.inr hqueued)

theorem receiveReadData_advances {r : RequestLifecycleState} (h : Live s key r)
    (hadvances : Advances s key) (hdeadline : s.responseDeadline ≠ 0)
    (state : RequestLifecycleState) (tag : SoftUeMetadataTag) (rx : PdcRxSemanticResult) :
    Advances (s.receiveReadData key state tag rx) key := by
  simp only [receiveReadData]
  by_cases hhandled : (!rx.handled) = true
  · rw [if_pos hhandled]
    exact hadvances
  rw [if_neg hhandled]
  by_cases hfailed : (rx.failed || decide (rx.returnCode ≠ .ok)) = true
  · rw [if_pos hfailed]
    exact close_advances h _ _ _
  rw [if_neg hfailed]
  by_cases hcomplete : rx.deliveryComplete = true
  · rw [if_pos hcomplete]
    obtain ⟨-, hlive⟩ := h.modify (f := readDataComplete) rfl
    exact close_advances hlive _ _ _
  · rw [if_neg hcomplete]
    exact readDataAwaited_advances h hadvances hdeadline

theorem receiveLiveResponse_advances {r : RequestLifecycleState} (h : Live s key r)
    (hadvances : Advances s key) (hdeadline : s.responseDeadline ≠ 0)
    (response : PdcSesResponse) (tag : SoftUeMetadataTag) :
    Advances (s.receiveLiveResponse key r response tag) key := by
  simp only [receiveLiveResponse]
  by_cases hok : tag.returnCode = .ok
  · rw [if_pos hok]
    generalize hs₁ : (if tag.operationType = .send
      then s.noteSendConsumed key response.auxTimestampNs else s) = s₁
    obtain ⟨⟨r₁, hlive₁⟩, hadvances₁, hdeadline₁⟩ : (∃ r₁, Live s₁ key r₁) ∧
        Advances s₁ key ∧ s₁.responseDeadline ≠ 0 := by
      subst hs₁
      split_ifs with hsend
      · obtain ⟨heff, hlive⟩ := noteSendConsumed_effects h response.auxTimestampNs
        exact ⟨hlive, hadvances.steady (noteSendConsumed_steady s key _),
          heff.responseDeadline ▸ hdeadline⟩
      · exact ⟨⟨r, h⟩, hadvances, hdeadline⟩
    split_ifs with hdata
    · exact receiveReadData_advances hlive₁ hadvances₁ hdeadline₁ _ _ _
    · obtain ⟨-, hlive₂⟩ := hlive₁.modify (f := okObserved) rfl
      exact close_advances hlive₂ _ _ _
  · rw [if_neg hok]
    split_ifs with hmatch hdisabled
    · exact close_advances h _ _ _
    · exact scheduleRetry_advances h _
    · exact close_advances h _ _ _

theorem processReceiveResponse_advances (h : ∀ key, Advances s key)
    (hdeadline : s.responseDeadline ≠ 0) (response : PdcSesResponse) :
    Advances (s.processReceiveResponse response) (responseKey response) := by
  have hcounted : ∀ key, Advances s.responseCounted key := fun key =>
    (h key).steady (.of_same rfl rfl fun _ => rfl)
  have hclock : s.responseCounted.responseDeadline ≠ 0 := hdeadline
  unfold processReceiveResponse responseKey
  generalize s.responseCounted = s₁ at hcounted hclock ⊢
  cases response.packet with
  | none => exact (hcounted _).steady (.of_same rfl rfl fun _ => rfl)
  | some packet =>
      dsimp only [receiveResponsePacket, Option.elim]
      split_ifs with htag
      · cases hr : s₁.requestStates.lookup (packetKey packet) with
        | none => exact hcounted _
        | some r =>
            dsimp only
            split_ifs with hterm
            · exact hcounted _
            · exact receiveLiveResponse_advances ⟨hr, by simpa using hterm⟩ (hcounted _) hclock
                _ _
      · exact (hcounted _).steady (.of_same rfl rfl fun _ => rfl)

end SesManager
end UeSim
