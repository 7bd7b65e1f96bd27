import UeSim.Ses.Frames
import UeSim.Ses.Releases

/-!
# What the handlers do to the retry count

Only `ScheduleRetry` raises the retry count of a request, and only the start of
an attempt marks a request as dispatched.  All other handlers keep the count;
they can take the mark of a dispatched attempt away, but not set it.
-/

namespace UeSim
namespace SesManager

variable {s s' s'' : SesManager} {key : RequestKey} {exhausts : Prop}

/-! ## Records -/

/-- The request was closed because it ran out of retries. -/
def Exhausted (reason : RequestTerminalReason) : Prop :=
  reason = .retryExhausted ∨ reason = .responseTimeoutExhausted

/-- A response timeout is armed only for an attempt that was dispatched. -/
def TimeoutStarted (r : RequestLifecycleState) : Prop :=
  r.responseDeadlineMs ≠ 0 → r.dispatchStarted = true

/-- `r'` is `r` after a handler that neither counts a retry nor starts an
attempt; `exhausts` says whether it may close the request for good. -/
structure RetryKept (exhausts : Prop) (r r' : RequestLifecycleState) : Prop where
  lastRetryCount : r'.lastRetryCount = r.lastRetryCount
  started : r'.dispatchStarted = true → r.dispatchStarted = true
  timeout : TimeoutStarted r → TimeoutStarted r'
  live : r'.terminalized = false → r.terminalized = false
  exhausted : Exhausted r'.terminalReason → Exhausted r.terminalReason ∨ exhausts

theorem RetryKept.refl (r : RequestLifecycleState) : RetryKept exhausts r r :=
  ⟨rfl, id, id, id, .inl⟩

theorem RetryKept.trans {r r' r'' : RequestLifecycleState} (h : RetryKept exhausts r r')
    (h' : RetryKept exhausts r' r'') : RetryKept exhausts r r'' where
  lastRetryCount := h'.lastRetryCount.trans h.lastRetryCount
  started hstarted := h.started (h'.started hstarted)
  timeout htimeout := h'.timeout (h.timeout htimeout)
  live hlive := h.live (h'.live hlive)
  exhausted hexhausted := (h'.exhausted hexhausted).elim h.exhausted .inr

/-- The fields that count retries. -/
structure RetryFields where
  lastRetryCount : ℕ
  dispatchStarted : Bool
  responseDeadlineMs : ℕ
  terminalized : Bool
  terminalReason : RequestTerminalReason

/-- The fields of a record that count retries. -/
def retryFields (r : RequestLifecycleState) : RetryFields where
  lastRetryCount := r.lastRetryCount
  dispatchStarted := r.dispatchStarted
  responseDeadlineMs := r.responseDeadlineMs
  terminalized := r.terminalized
  terminalReason := r.terminalReason

theorem RetryKept.of_fields {r r' : RequestLifecycleState}
    (h : retryFields r' = retryFields r) : RetryKept exhausts r r' := by
  obtain ⟨hcount, hstarted, hdeadline, hlive, hreason⟩ := RetryFields.mk.inj h
  refine ⟨hcount, hstarted.symm.trans, ?_, hlive.symm.trans, fun hexhausted => ?_⟩
  · unfold TimeoutStarted
    rw [hdeadline, hstarted]
    exact id
  · exact .inl (hreason ▸ hexhausted)

/-- A closed request is dispatched no more. -/
theorem retryKept_closed (nowNs : ℕ) {reason : RequestTerminalReason}
    (hreason : Exhausted reason → exhausts) (r : RequestLifecycleState) :
    RetryKept exhausts r (closedRecord nowNs reason r) := by
  constructor
  · rfl
  · intro hstarted
    cases hstarted
  · intro _ hdeadline
    exact absurd rfl hdeadline
  · intro hlive
    cases hlive
  · intro hexhausted
    exact .inr (hreason hexhausted)

/-- Waiting for more read data restarts the timeout of a dispatched attempt. -/
theorem retryKept_readDataAwaited (s : SesManager) (r : RequestLifecycleState) :
    RetryKept exhausts r (s.readDataAwaited r) := by
  refine ⟨rfl, id, fun _ hdeadline => ?_, id, .inl⟩
  cases hstarted : r.dispatchStarted with
  | true => exact hstarted
  | false => simp [readDataAwaited, armResponseTimeout, hstarted] at hdeadline

/-! ## States -/

/-- Nothing was handed down or written to memory, and the record of the request
afterwards is the one before, kept. -/
structure Keeps (key : RequestKey) (exhausts : Prop) (s s' : SesManager) : Prop where
  dispatched : s'.dispatched = s.dispatched
  memory : s'.memory = s.memory
  record : ∀ r', s'.requestStates.lookup key = some r' →
    ∃ r, s.requestStates.lookup key = some r ∧ RetryKept exhausts r r'

theorem Keeps.of_same (hdispatched : s'.dispatched = s.dispatched)
    (hmemory : s'.memory = s.memory)
    (h : s'.requestStates.lookup key = s.requestStates.lookup key) :
    Keeps key exhausts s s' :=
  ⟨hdispatched, hmemory, fun r' hr' => ⟨r', h ▸ hr', .refl r'⟩⟩

theorem Keeps.refl (s : SesManager) : Keeps key exhausts s s := .of_same rfl rfl rfl

theorem Keeps.trans (h : Keeps key exhausts s s') (h' : Keeps key exhausts s' s'') :
    Keeps key exhausts s s'' := by
  refine ⟨h'.dispatched.trans h.dispatched, h'.memory.trans h.memory, fun r'' hr'' => ?_⟩
  obtain ⟨r', hr', hkept'⟩ := h'.record r'' hr''
  obtain ⟨r, hr, hkept⟩ := h.record r' hr'
  exact ⟨r, hr, hkept.trans hkept'⟩

theorem Keeps.modify {f : RequestLifecycleState → RequestLifecycleState} (s : SesManager)
    (hf : ∀ r, RetryKept exhausts r (f r)) : Keeps key exhausts s (s.modifyRequest key f) := by
  refine ⟨rfl, rfl, fun r' hr' => ?_⟩
  rw [modifyRequest, KeyedMap.lookup_modify_self, Option.map_eq_some_iff] at hr'
  obtain ⟨r, hr, rfl⟩ := hr'
  exact ⟨r, hr, hf r⟩

/-- A write to the record of the request. -/
theorem Keeps.write {r r' : RequestLifecycleState} (hr : s.requestStates.lookup key = some r)
    (hdispatched : s'.dispatched = s.dispatched) (hmemory : s'.memory = s.memory)
    (hstates : s'.requestStates = s.requestStates.insert key r')
    (hkept : RetryKept exhausts r r') : Keeps key exhausts s s' := by
  refine ⟨hdispatched, hmemory, fun r'' hr'' => ?_⟩
  rw [hstates, AList.lookup_insert, Option.some.injEq] at hr''
  exact ⟨r, hr, hr'' ▸ hkept⟩

/-! ## Budgets, queues and closing -/

theorem keeps_releaseDispatchBudget (s : SesManager) (key : RequestKey) :
    Keeps key exhausts s (s.releaseDispatchBudget key) := by
  have hsend : Keeps key exhausts s (s.releaseSendReservation key) := by
    unfold releaseSendReservation
    cases hr : s.requestStates.lookup key with
    | none => exact .refl s
    | some r =>
        dsimp only
        split_ifs
        · exact .write hr rfl rfl rfl (.of_fields rfl)
        · exact .refl s
  refine hsend.trans ?_
  unfold releaseDispatchBudget
  generalize s.releaseSendReservation key = s₁
  unfold releaseWriteReservation
  cases hr : s₁.requestStates.lookup key with
  | none => exact .refl s₁
  | some r =>
      dsimp only
      split_ifs
      · exact .write hr rfl rfl rfl (.of_fields rfl)
      · exact .refl s₁

theorem keeps_removeBlockedRequest (s : SesManager) (key : RequestKey) :
    Keeps key exhausts s (s.removeBlockedRequest key) := by
  have hunlinked : Keeps key exhausts s (s.modifyRequest key unlinked) :=
    .modify s fun _ => .of_fields rfl
  exact hunlinked.trans (.of_same rfl rfl rfl)

theorem keeps_enqueueBlockedRequest (s : SesManager) (key : RequestKey) :
    Keeps key exhausts s (s.enqueueBlockedRequest key) := by
  unfold enqueueBlockedRequest
  cases hr : s.requestStates.lookup key with
  | none => exact .refl s
  | some r =>
      dsimp only
      split_ifs
      · exact .refl s
      · exact .write hr rfl rfl rfl (.of_fields rfl)

theorem keeps_tryReserveDispatchBudget {r : RequestLifecycleState}
    (hr : s.requestStates.lookup key = some r)
    (hgrant : s.tryReserveDispatchBudget key r = some s') : Keeps key exhausts s s' := by
  rcases tryReserveDispatchBudget_cases hgrant with ⟨-, -, -, rfl⟩ | ⟨-, -, -, rfl⟩ | rfl
  · exact .write hr rfl rfl rfl (.of_fields rfl)
  · exact .write hr rfl rfl rfl (.of_fields rfl)
  · exact .refl s'

/-- Only a close for that reason says that the retries are exhausted. -/
theorem keeps_terminalizeRequest (s : SesManager) (key : RequestKey)
    {reason : RequestTerminalReason} (hreason : Exhausted reason → exhausts) :
    Keeps key exhausts s (s.terminalizeRequest key reason) := by
  unfold terminalizeRequest
  cases hr : s.requestStates.lookup key with
  | none => exact .refl s
  | some _ =>
      dsimp only
      have herased : Keeps key exhausts s { s with retryStates := s.retryStates.erase key } :=
        .of_same rfl rfl rfl
      have hbefore := (herased.trans (keeps_removeBlockedRequest _ key)).trans
        (keeps_releaseDispatchBudget _ key)
      generalize (removeBlockedRequest _ key).releaseDispatchBudget key = s₁ at hbefore ⊢
      refine hbefore.trans ?_
      cases hr₁ : s₁.requestStates.lookup key with
      | none => exact .refl s₁
      | some r₁ =>
          exact .write hr₁ (closeRequest_dispatched s₁ key reason r₁)
            (closeRequest_memory s₁ key reason r₁) (closeRequest_frame s₁ key reason r₁).1
            (retryKept_closed _ hreason r₁)

/-- Setting the outcome of a request and closing it. -/
theorem keeps_close (s : SesManager) (key : RequestKey) (returnCode : ResponseReturnCode)
    (bytes : ℕ) {reason : RequestTerminalReason} (hreason : Exhausted reason → exhausts) :
    Keeps key exhausts s
      ((s.setRequestCompletionOutcome key returnCode bytes).terminalizeRequest key reason) :=
  (Keeps.modify (f := withOutcome returnCode bytes) s fun _ => .of_fields rfl).trans
    (keeps_terminalizeRequest _ key hreason)

theorem not_exhausted_protocolError : Exhausted .protocolError → exhausts := by
  rintro (h | h) <;> cases h

theorem not_exhausted_rcOkResponse : Exhausted .rcOkResponse → exhausts := by
  rintro (h | h) <;> cases h

theorem not_exhausted_rcNoMatchTerminal : Exhausted .rcNoMatchTerminal → exhausts := by
  rintro (h | h) <;> cases h

theorem keeps_handleDispatchFailure (s : SesManager) (key : RequestKey) :
    Keeps key exhausts s (s.handleDispatchFailure key) := by
  unfold handleDispatchFailure
  cases s.requestStates.lookup key with
  | none => exact keeps_removeBlockedRequest s key
  | some r =>
      dsimp only
      split_ifs
      · exact keeps_removeBlockedRequest s key
      · exact (keeps_close s key _ _ not_exhausted_protocolError).trans (.of_same rfl rfl rfl)

theorem keeps_completeWithoutResponse (s : SesManager) (key : RequestKey) :
    Keeps key exhausts s (s.completeWithoutResponse key) := by
  unfold completeWithoutResponse
  cases s.requestStates.lookup key with
  | none => exact .refl s
  | some r =>
      dsimp only
      split_ifs
      · exact keeps_close s key _ _ not_exhausted_rcOkResponse
      · exact .refl s

/-! ## Responses -/

theorem keeps_noteSendConsumed (s : SesManager) (key : RequestKey) (auxTimestampNs : ℕ) :
    Keeps key exhausts s (s.noteSendConsumed key auxTimestampNs) := by
  have hobserved : Keeps key exhausts s
      (s.modifyRequest key (consumeObserved auxTimestampNs)) :=
    Keeps.modify (f := consumeObserved auxTimestampNs) s fun _ => .of_fields rfl
  unfold noteSendConsumed
  dsimp only
  generalize s.modifyRequest key (consumeObserved auxTimestampNs) = s₁ at hobserved ⊢
  refine hobserved.trans ?_
  cases s₁.requestStates.lookup key with
  | none => exact .refl s₁
  | some r =>
      dsimp only
      split_ifs
      · exact keeps_releaseDispatchBudget s₁ key
      · exact .refl s₁

theorem keeps_receiveReadData (s : SesManager) (key : RequestKey)
    (state : RequestLifecycleState) (tag : SoftUeMetadataTag) (rx : PdcRxSemanticResult) :
    Keeps key exhausts s (s.receiveReadData key state tag rx) := by
  unfold receiveReadData
  split_ifs
  · exact .refl s
  · exact keeps_close s key _ _ not_exhausted_protocolError
  · exact (Keeps.modify (f := readDataComplete) s fun _ => .of_fields rfl).trans
      (keeps_close _ key _ _ not_exhausted_rcOkResponse)
  · exact (Keeps.modify (f := readDataComplete) s fun _ => .of_fields rfl).trans
      (keeps_close _ key _ _ not_exhausted_rcOkResponse)
  · exact .modify s (retryKept_readDataAwaited s)

theorem keeps_receiveOk (s : SesManager) (key : RequestKey) (state : RequestLifecycleState)
    (tag : SoftUeMetadataTag) : Keeps key exhausts s (s.receiveOk key state tag) := by
  have hobserved : ∀ r, RetryKept exhausts r (okObserved r) := by
    intro r
    exact ⟨rfl, id, fun _ hdeadline => absurd rfl hdeadline, id, .inl⟩
  exact (Keeps.modify s hobserved).trans (keeps_close _ key _ _ not_exhausted_rcOkResponse)

/-- The response is a negative one that makes the manager schedule a retry. -/
def schedulesRetry (s : SesManager) (tag : SoftUeMetadataTag) : Bool :=
  tag.returnCode = .noMatch && tag.operationType = .send && s.retryEnabled

/-- A response schedules a retry, or it keeps the count. -/
theorem keeps_receiveLiveResponse (s : SesManager) (key : RequestKey)
    (state : RequestLifecycleState) (response : PdcSesResponse) {tag : SoftUeMetadataTag}
    (hquiet : s.schedulesRetry tag = false) :
    Keeps key exhausts s (s.receiveLiveResponse key state response tag) := by
  unfold receiveLiveResponse
  by_cases hok : tag.returnCode = .ok
  · rw [if_pos hok]
    dsimp only
    have hconsumed : Keeps key exhausts s (if tag.operationType = .send
        then s.noteSendConsumed key response.auxTimestampNs else s) := by
      split_ifs
      · exact keeps_noteSendConsumed s key _
      · exact .refl s
    refine hconsumed.trans ?_
    generalize (if tag.operationType = .send
      then s.noteSendConsumed key response.auxTimestampNs else s) = s₁
    split_ifs
    · exact keeps_receiveReadData s₁ key state tag _
    · exact keeps_receiveOk s₁ key state tag
  · rw [if_neg hok]
    split_ifs with hmatch hdisabled
    · exact keeps_close s key _ _ not_exhausted_rcNoMatchTerminal
    · rw [Bool.not_eq_true, Bool.not_eq_false'] at hdisabled
      simp [schedulesRetry, hmatch, hdisabled] at hquiet
    · exact keeps_close s key _ _ not_exhausted_protocolError

end SesManager
end UeSim
