import UeSim.Ses.RetryCounting
import UeSim.Ses.Retries

/-!
# The retry budget of a request

A request is allowed `maxRtoRetxCnt` retries.  The history of a run keeps where
the current submission of a key started and which of its attempts were counted
as failed.  The count should be spent on attempts of that submission, each of
which fails at most once.

Every negative response raises the count, so the responses to the fragments of
one attempt can use up the budget; and a new submission takes over the count of
the request that used its key before.
-/

namespace UeSim
namespace SesManager

/-! ## Attempts -/

/-- The request that a packet on its way to the responder belongs to. -/
def sentKey (packet : TaggedPacket) : RequestKey where
  jobId := packet.header.jobId
  msgId := toU16 packet.metadata.messageId
  peerFep := packet.header.destinationEndpoint

/-- Whether a packet is the first fragment of a dispatch of the request. -/
def opensAttempt (key : RequestKey) (packet : TaggedPacket) : Bool :=
  sentKey packet = key && packet.metadata.fragmentOffset = 0

/-- How often the request was dispatched after the first `start` packets. -/
def attemptsSince (start : ℕ) (s : SesManager) (key : RequestKey) : ℕ :=
  (s.dispatched.drop start).countP (opensAttempt key)

/-- The request that an action submits. -/
def submittedKey (s : SesManager) : SesAction → Option RequestKey
  | .sendRequest m packet => (s.acceptedRequest m packet).map fun p => requestKey p.1
  | _ => none

/-- The request of which an action counts an attempt as failed. -/
def failedKey (s : SesManager) : SesAction → Option RequestKey
  | .receiveResponse response =>
      response.packet.bind fun packet =>
        if packet.metadata.isResponse && s.schedulesRetry packet.metadata then
          ((s.requestStates.lookup (packetKey packet)).filter (!·.terminalized)).map fun _ =>
            packetKey packet
        else none
  | .checkTimeout key =>
      ((s.requestStates.lookup key).filter fun r =>
        s.timeoutExpired key r && s.retryEnabled).map fun _ => key
  | _ => none

end SesManager

/-! ## Histories -/

/-- An action, and for a response the attempt whose fragment it answers: the
attempts of a request are numbered from one since its submission. -/
structure RetryAction where
  action : SesAction
  attempt : ℕ := 0

/-- A run of a manager: where the submission of each request started in the
sequence of packets, and the attempts of the request that were counted as failed
since then. -/
structure RetryHistory where
  manager : SesManager
  submittedAt : RequestKey → ℕ := fun _ => 0
  failedAttempts : RequestKey → List ℕ := fun _ => []

namespace RetryHistory

open SesManager

/-- The number of dispatches of the request since its submission. -/
def attempts (h : RetryHistory) (key : RequestKey) : ℕ :=
  h.manager.attemptsSince (h.submittedAt key) key

/-- The number of dispatches of the request after the first one. -/
def redispatches (h : RetryHistory) (key : RequestKey) : ℕ := h.attempts key - 1

/-- The attempt that an action counts as failed: the one that the response
answers, or the current one when it has timed out. -/
def failedAttempt (h : RetryHistory) (key : RequestKey) (a : RetryAction) : ℕ :=
  match a.action with
  | .receiveResponse _ => a.attempt
  | _ => h.attempts key

/-- The history after an action that led to the manager `s`. -/
def after (h : RetryHistory) (a : RetryAction) (s : SesManager) : RetryHistory where
  manager := s
  submittedAt key :=
    if h.manager.submittedKey a.action = some key then h.manager.dispatched.length
    else h.submittedAt key
  failedAttempts key :=
    if h.manager.submittedKey a.action = some key then []
    else if h.manager.failedKey a.action = some key then
      h.failedAttempts key ++ [h.failedAttempt key a]
    else h.failedAttempts key

/-- The runs of a manager with their histories. -/
def system (env : Environment) : TransitionSystem RetryHistory RetryAction where
  init h := Initial h.manager ∧ (∀ key, h.submittedAt key = 0) ∧
    ∀ key, h.failedAttempts key = []
  step h a := (sesStep env h.manager a.action).map (h.after a)

/-- The budget of the request is spent on its own attempts: the count is the
number of its failed attempts, none of which counts twice, and it gives up only
after it was dispatched `maxRtoRetxCnt` times again. -/
structure SpentOnRetries (h : RetryHistory) (key : RequestKey) (r : RequestLifecycleState) :
    Prop where
  counted : r.lastRetryCount = (h.failedAttempts key).length
  once : (h.failedAttempts key).Nodup
  exhausted : Exhausted r.terminalReason → maxRtoRetxCnt ≤ h.redispatches key

/-- The condition on a step: a submission finds no retries counted under its
key, a negative response answers the attempt that is on its way and has not
failed yet, and no timeout expires while retries are disabled. -/
def OneFailurePerAttempt (h : RetryHistory) (a : RetryAction) : Prop :=
  match a.action with
  | .sendRequest m packet => ∀ key, h.manager.submittedKey (.sendRequest m packet) = some key →
      ∀ old, h.manager.requestStates.lookup key = some old → old.lastRetryCount = 0
  | .receiveResponse response => ∀ key,
      h.manager.failedKey (.receiveResponse response) = some key →
      a.attempt = h.attempts key ∧
        ∀ r, h.manager.requestStates.lookup key = some r → r.dispatchStarted = true
  | .checkTimeout key => ∀ r, h.manager.requestStates.lookup key = some r →
      h.manager.timeoutExpired key r = true → h.manager.retryEnabled = true
  | _ => True

/-! ## The invariant of a record -/

/-- A dispatched attempt that is on its way has not failed yet. -/
def onItsWay (r : RequestLifecycleState) : ℕ := if r.dispatchStarted then 1 else 0

/-- The count of a request against its attempts and the failed ones of them. -/
structure RetriesCounted (attempts : ℕ) (failed : List ℕ) (r : RequestLifecycleState) :
    Prop where
  counted : r.lastRetryCount = failed.length
  once : failed.Nodup
  past : ∀ a ∈ failed, a + onItsWay r ≤ attempts
  spent : failed.length + onItsWay r ≤ attempts
  timeout : TimeoutStarted r
  live : r.terminalized = false → r.lastRetryCount ≤ maxRtoRetxCnt
  exhausted : Exhausted r.terminalReason → maxRtoRetxCnt < attempts

variable {attempts n : ℕ} {failed : List ℕ} {r r' : RequestLifecycleState}

theorem onItsWay_le_of_started (h : r'.dispatchStarted = true → r.dispatchStarted = true) :
    onItsWay r' ≤ onItsWay r := by
  unfold onItsWay
  cases hstarted : r'.dispatchStarted with
  | true => simp [h hstarted]
  | false => simp

/-- A record that is kept stays counted when more attempts are made. -/
theorem RetriesCounted.kept (h : RetriesCounted attempts failed r)
    (hkept : RetryKept False r r') (hattempts : attempts ≤ n) : RetriesCounted n failed r' := by
  have hway := onItsWay_le_of_started hkept.started
  constructor
  · exact hkept.lastRetryCount.trans h.counted
  · exact h.once
  · intro a ha
    have hpast := h.past a ha
    omega
  · have hspent := h.spent
    omega
  · exact hkept.timeout h.timeout
  · intro hlive
    exact hkept.lastRetryCount ▸ h.live (hkept.live hlive)
  · intro hexhausted
    exact (h.exhausted ((hkept.exhausted hexhausted).elim id False.elim)).trans_le hattempts

/-- The start of one more attempt. -/
theorem RetriesCounted.attemptStarted (h : RetriesCounted attempts failed r)
    (hattempts : attempts < n) (s : SesManager) : RetriesCounted n failed (s.attemptStarted r) := by
  have hway : onItsWay (s.attemptStarted r) = 1 := rfl
  constructor
  · exact h.counted
  · exact h.once
  · intro a ha
    have hpast := h.past a ha
    omega
  · have hspent := h.spent
    omega
  · intro _
    rfl
  · exact h.live
  · intro hexhausted
    exact (h.exhausted hexhausted).trans hattempts

/-- Counting the attempt that is on its way as failed, and whatever the manager
does to the record afterwards. -/
theorem RetriesCounted.retryMarked (h : RetriesCounted attempts failed r)
    (hstarted : r.dispatchStarted = true) {trigger : RetryTrigger}
    (hkept : RetryKept (maxRtoRetxCnt < r.lastRetryCount + 1)
      (SesManager.retryMarked trigger (r.lastRetryCount + 1) r) r')
    (hlive : r'.terminalized = false → r.lastRetryCount + 1 ≤ maxRtoRetxCnt) :
    RetriesCounted attempts (failed ++ [attempts]) r' := by
  have hway : onItsWay r = 1 := by simp [onItsWay, hstarted]
  have hdone : onItsWay r' = 0 := Nat.le_zero.mp (onItsWay_le_of_started hkept.started)
  have hcount : r'.lastRetryCount = failed.length + 1 :=
    hkept.lastRetryCount.trans (congrArg (· + 1) h.counted)
  have hspent := h.spent
  constructor
  · rw [hcount, List.length_append, List.length_singleton]
  · refine List.nodup_append.mpr ⟨h.once, List.nodup_singleton _, fun a ha b hb => ?_⟩
    have hpast := h.past a ha
    rw [List.mem_singleton] at hb
    omega
  · intro a ha
    rcases List.mem_append.mp ha with hold | hnew
    · have hpast := h.past a hold
      omega
    · rw [List.mem_singleton] at hnew
      omega
  · rw [List.length_append, List.length_singleton]
    omega
  · exact hkept.timeout fun hdeadline => absurd rfl hdeadline
  · intro hlive'
    exact hkept.lastRetryCount ▸ hlive hlive'
  · intro hexhausted
    rcases hkept.exhausted hexhausted with hbefore | hspent'
    · exact h.exhausted hbefore
    · have hcounted := h.counted
      omega

/-! ## The invariant along a handler -/

variable {env : Environment} {s s' : SesManager} {key : RequestKey} {start : ℕ}
  {packet : TaggedPacket}

theorem attemptsSince_mono (h : s.dispatched <+: s'.dispatched) (start : ℕ)
    (key : RequestKey) : s.attemptsSince start key ≤ s'.attemptsSince start key := by
  obtain ⟨fragments, hfragments⟩ := h
  unfold attemptsSince
  rw [← hfragments, List.drop_append, List.countP_append]
  exact Nat.le_add_right _ _

/-- The record of the request is counted against its attempts since `start`. -/
def Counted (start : ℕ) (failed : List ℕ) (key : RequestKey) (s : SesManager) : Prop :=
  ∀ r, s.requestStates.lookup key = some r →
    RetriesCounted (s.attemptsSince start key) failed r

/-- The records that carry their own key. -/
def Keyed (key : RequestKey) (s : SesManager) : Prop :=
  ∀ r, s.requestStates.lookup key = some r → requestKey r.metadata = key

theorem Counted.keeps (h : Counted start failed key s) (hkeeps : Keeps key False s s') :
    Counted start failed key s' := by
  intro r' hr'
  obtain ⟨r, hr, hkept⟩ := hkeeps.record r' hr'
  exact (h r hr).kept hkept (attemptsSince_mono ⟨[], by simp [hkeeps.dispatched]⟩ start key)

/-- The record of a request that a handler leaves alone. -/
theorem Counted.of_same (h : Counted start failed key s)
    (hlog : s.dispatched <+: s'.dispatched)
    (hsame : s'.requestStates.lookup key = s.requestStates.lookup key) :
    Counted start failed key s' := by
  intro r hr
  exact (h r (hsame ▸ hr)).kept (.refl r) (attemptsSince_mono hlog start key)

/-- The first fragment of a request opens an attempt of it. -/
theorem opensAttempt_requestFragment {m : ExtendedOperationMetadata} (packet : Packet)
    (payloadPerPacket packetCount : ℕ) (hkey : requestKey m = key) :
    opensAttempt key (requestFragment m packet payloadPerPacket packetCount 0) = true := by
  have hsent : sentKey (requestFragment m packet payloadPerPacket packetCount 0) = key := hkey
  have hoffset : (requestFragment m packet payloadPerPacket packetCount 0).metadata.fragmentOffset
      = 0 := by
    simp [requestFragment, requestTags, toU32]
  simp [opensAttempt, hsent, hoffset]

/-- Of the fragments of one dispatch only the first opens an attempt. -/
theorem countP_opensAttempt_requestFragments (m : ExtendedOperationMetadata) (packet : Packet)
    {payloadPerPacket : ℕ} (hsize : 0 < payloadPerPacket) :
    (requestFragments m packet payloadPerPacket
      (max 1 (m.calculatePacketCount payloadPerPacket))).countP
        (opensAttempt (requestKey m)) = 1 := by
  generalize hcount : max 1 (m.calculatePacketCount payloadPerPacket) = packetCount
  have hoffset : ∀ i < packetCount, toU32 (i * payloadPerPacket) = 0 ↔ i = 0 := by
    intro i hi
    rcases Nat.eq_zero_or_pos i with rfl | hpos
    · simp [toU32]
    · have hle : i ≤ toU32 (m.payloadBytes + payloadPerPacket - 1) / payloadPerPacket := by
        rw [← hcount, ExtendedOperationMetadata.calculatePacketCount] at hi
        split_ifs at hi <;> omega
      have hlt := ((Nat.mul_le_mul_right payloadPerPacket hle).trans
        (Nat.div_mul_le_self _ _)).trans_lt (toU32_lt _)
      rw [toU32_of_lt hlt, Nat.mul_eq_zero]
      omega
  have hopens : ∀ i < packetCount, opensAttempt (requestKey m)
      (requestFragment m packet payloadPerPacket packetCount i) = decide (i = 0) := by
    intro i hi
    have hsent : sentKey (requestFragment m packet payloadPerPacket packetCount i) =
        requestKey m := rfl
    have hfield : (requestFragment m packet payloadPerPacket
        packetCount i).metadata.fragmentOffset = toU32 (i * payloadPerPacket) := rfl
    simp [opensAttempt, hsent, hfield, hoffset i hi]
  unfold requestFragments
  rw [List.countP_map]
  have hfirst : (List.range packetCount).countP (opensAttempt (requestKey m) ∘
      requestFragment m packet payloadPerPacket packetCount) =
        (List.range packetCount).count 0 := by
    refine List.countP_congr fun i hi => ?_
    simp [hopens i (List.mem_range.mp hi)]
  rw [hfirst]
  exact List.count_eq_one_of_mem List.nodup_range (List.mem_range.mpr (by omega))

/-- A dispatch that is not refused is one more attempt. -/
theorem attemptsSince_lt_of_dispatched {m : ExtendedOperationMetadata} {packet : Packet}
    {payloadPerPacket packetCount : ℕ} (hstart : start ≤ s.dispatched.length)
    (hkey : requestKey m = key) (hcount : 0 < packetCount)
    (hdispatched : s'.dispatched = s.dispatched ++
      requestFragments m packet payloadPerPacket packetCount) :
    s.attemptsSince start key < s'.attemptsSince start key := by
  unfold attemptsSince
  rw [hdispatched, List.drop_append_of_le_length hstart, List.countP_append]
  refine Nat.lt_add_of_pos_right (List.countP_pos_iff.mpr ⟨_, ?_,
    opensAttempt_requestFragment packet payloadPerPacket packetCount hkey⟩)
  exact List.mem_map.mpr ⟨0, List.mem_range.mpr hcount, rfl⟩

theorem Counted.dispatchFragments (h : Counted start failed key s)
    (hstart : start ≤ s.dispatched.length) {state : RequestLifecycleState}
    (hkey : requestKey state.metadata = key) :
    Counted start failed key (SesManager.dispatchFragments env s key state).1 := by
  unfold SesManager.dispatchFragments
  dsimp only
  generalize hresult : dispatchSemanticPackets env s (requestFragments state.metadata
    state.packet s.getPayloadMtu (max 1 state.totalPacketCount)) = result
  have hsame : result.1.requestStates = s.requestStates := by rw [← hresult]; rfl
  have hlog : s.dispatched <+: result.1.dispatched := ⟨_, by rw [← hresult]; rfl⟩
  have hbefore : Counted start failed key result.1 :=
    h.of_same hlog (by rw [hsame])
  cases haccepted : result.2 with
  | false =>
      rw [if_neg Bool.false_ne_true]
      exact hbefore.keeps (keeps_releaseDispatchBudget _ key)
  | true =>
      rw [if_pos rfl]
      have hdispatched : result.1.dispatched = s.dispatched ++ requestFragments state.metadata
          state.packet s.getPayloadMtu (max 1 state.totalPacketCount) := by
        subst hresult
        exact congrArg (s.dispatched ++ ·) (acceptedFragments_whole haccepted)
      have hattempts := attemptsSince_lt_of_dispatched hstart hkey (by omega) hdispatched
      intro r' hr'
      rw [modifyRequest, KeyedMap.lookup_modify_self, Option.map_eq_some_iff, hsame] at hr'
      obtain ⟨r, hr, rfl⟩ := hr'
      exact (h r hr).attemptStarted hattempts result.1

theorem Counted.dispatchRequestPackets (env : Environment) (h : Counted start failed key s)
    (hkeyed : Keyed key s) (hstart : start ≤ s.dispatched.length) :
    Counted start failed key (SesManager.dispatchRequestPackets env s key).1 := by
  unfold SesManager.dispatchRequestPackets
  cases hr : s.requestStates.lookup key with
  | none => exact h
  | some r =>
      dsimp only
      by_cases hterm : r.terminalized = true
      · rw [if_pos hterm]
        exact h.keeps (keeps_removeBlockedRequest s key)
      rw [if_neg hterm]
      by_cases hqueued : (r.blockedQueueLinked && !s.isBlockedQueueHead key) = true
      · rw [if_pos hqueued]
        exact h.keeps (.modify s fun _ => .of_fields rfl)
      rw [if_neg hqueued]
      cases hgrant : s.tryReserveDispatchBudget key r with
      | none =>
          have hblocked := h.keeps (keeps_enqueueBlockedRequest s key)
          exact hblocked.keeps (.modify _ fun _ => .of_fields rfl)
      | some s₁ =>
          have hleave : Keeps key False s₁ (if r.blockedQueueLinked
              then s₁.removeBlockedRequest key else s₁) := by
            split_ifs
            · exact keeps_removeBlockedRequest s₁ key
            · exact .refl s₁
          have hgranted : Keeps key False s ((if r.blockedQueueLinked
              then s₁.removeBlockedRequest key else s₁).modifyRequest key granted) :=
            ((keeps_tryReserveDispatchBudget hr hgrant).trans hleave).trans
              (.modify _ fun _ => .of_fields rfl)
          refine (h.keeps hgranted).dispatchFragments ?_ (hkeyed r hr)
          rw [hgranted.dispatched]
          exact hstart

/-! ## The drain of a blocked queue -/

theorem Counted.redispatchHead (h : Counted start failed key s) (hkeyed : Keyed key s)
    (hstart : start ≤ s.dispatched.length) :
    Counted start failed key (SesManager.redispatchHead env s key).1 := by
  unfold SesManager.redispatchHead
  cases hr : s.requestStates.lookup key with
  | none => exact h.keeps (keeps_removeBlockedRequest s key)
  | some r =>
      dsimp only
      by_cases hterm : r.terminalized = true
      · rw [if_pos hterm]
        exact h.keeps (keeps_removeBlockedRequest s key)
      rw [if_neg hterm]
      have hcounted : Counted start failed key (s.modifyRequest key redispatchCounted) :=
        h.keeps (.modify s fun _ => .of_fields rfl)
      have hkeyed' : Keyed key (s.modifyRequest key redispatchCounted) := by
        intro r' hr'
        rw [modifyRequest_of_some hr, AList.lookup_insert, Option.some.injEq] at hr'
        exact hr' ▸ hkeyed r hr
      have hdispatch := hcounted.dispatchRequestPackets env hkeyed' hstart
      generalize SesManager.dispatchRequestPackets env
        (s.modifyRequest key redispatchCounted) key = result at hdispatch ⊢
      split_ifs
      · exact hdispatch.keeps (keeps_handleDispatchFailure _ key)
      · cases result.1.requestStates.lookup key with
        | none => exact hdispatch
        | some r' =>
            dsimp only
            split_ifs
            · exact hdispatch
            · exact hdispatch.keeps (keeps_completeWithoutResponse _ key)

theorem redispatchHead_dispatched_grows (env : Environment) (s : SesManager)
    (key : RequestKey) : s.dispatched <+: (SesManager.redispatchHead env s key).1.dispatched := by
  rcases redispatchHead_effects env s key with heff | ⟨r, -, heff⟩
  · exact heff.dispatched_prefix
  · exact heff.dispatched_prefix

/-! ## The invariant of a run -/

variable {starts : RequestKey → ℕ} {failures failures' : RequestKey → List ℕ}

/-- The invariant of a run: every record is counted. -/
structure AllCounted (starts : RequestKey → ℕ) (failures : RequestKey → List ℕ)
    (s : SesManager) : Prop where
  owned : RetriesOwned s
  started : ∀ key, starts key ≤ s.dispatched.length
  counted : ∀ key, Counted (starts key) (failures key) key s

theorem AllCounted.keyed (h : AllCounted starts failures s) (key : RequestKey) : Keyed key s :=
  fun r hr => (h.owned.keyed key r hr).key

/-- Only the record of the request that a handler works for has to be
checked. -/
theorem AllCounted.own (h : AllCounted starts failures s) (hupd : Updates s s')
    (hlog : s.dispatched <+: s'.dispatched)
    (hothers : ∀ k, k ≠ key → s'.requestStates.lookup k = s.requestStates.lookup k)
    (hfailures : ∀ k, k ≠ key → failures' k = failures k)
    (hown : Counted (starts key) (failures' key) key s') : AllCounted starts failures' s' := by
  refine ⟨h.owned.updates hupd, fun k => (h.started k).trans hlog.length_le, fun k => ?_⟩
  by_cases hk : k = key
  · exact hk ▸ hown
  · rw [hfailures k hk]
    exact (h.counted k).of_same hlog (hothers k hk)

theorem AllCounted.effects (h : AllCounted starts failures s) (heff : Effects key s s')
    (hfailures : ∀ k, k ≠ key → failures' k = failures k)
    (hown : Counted (starts key) (failures' key) key s') : AllCounted starts failures' s' :=
  h.own heff.updates heff.dispatched_prefix (fun _ hk => heff.lookup_ne hk) hfailures hown

/-- A step that changes neither records nor packets. -/
theorem AllCounted.of_same (h : AllCounted starts failures s) (hupd : Updates s s')
    (hdispatched : s'.dispatched = s.dispatched)
    (hstates : s'.requestStates = s.requestStates) : AllCounted starts failures s' := by
  have hlog : s.dispatched <+: s'.dispatched := ⟨[], by rw [hdispatched, List.append_nil]⟩
  exact ⟨h.owned.updates hupd, fun k => (h.started k).trans hlog.length_le,
    fun k => (h.counted k).of_same hlog (by rw [hstates])⟩

theorem AllCounted.redispatchHead (env : Environment) (h : AllCounted starts failures s)
    (key : RequestKey) :
    AllCounted starts failures (SesManager.redispatchHead env s key).1 :=
  h.own (redispatchHead_updates env s key) (redispatchHead_dispatched_grows env s key)
    (fun _ hk => redispatchHead_lookup_ne env s hk) (fun _ _ => rfl)
    ((h.counted key).redispatchHead (h.keyed key) (h.started key))

theorem AllCounted.drainBlockedPeerQueue {peerFep fuel : ℕ} (h : AllCounted starts failures s)
    (hdrain : SesManager.drainBlockedPeerQueue env peerFep fuel s = some s') :
    AllCounted starts failures s' := by
  induction fuel generalizing s with
  | zero => cases hdrain
  | succ fuel ih =>
      unfold SesManager.drainBlockedPeerQueue at hdrain
      cases hqueue : s.blockedQueue peerFep with
      | nil =>
          simp only [hqueue, Option.some.injEq] at hdrain
          exact hdrain ▸ h
      | cons key rest =>
          simp only [hqueue] at hdrain
          have hhead := h.redispatchHead env key
          split_ifs at hdrain with hstop
          · cases hdrain
            exact hhead
          · exact ih hhead hdrain

/-! ## Submissions -/

/-- The part of a submission after its record was replaced. -/
theorem Counted.submitRequest {m m' : ExtendedOperationMetadata} {p' : Packet}
    (h : Counted start failed (requestKey m')
      ((s.preparedState m m').rebuildRequest (requestKey m') m' p'))
    (hkeyed : Keyed (requestKey m')
      ((s.preparedState m m').rebuildRequest (requestKey m') m' p'))
    (hstart : start ≤ s.dispatched.length) :
    Counted start failed (requestKey m')
      ((s.submissionCounted m).submitRequest env m' p').1 := by
  have hdispatched : ((s.preparedState m m').rebuildRequest (requestKey m') m' p').dispatched =
      s.dispatched := by
    rw [rebuildRequest_dispatched]
    unfold preparedState cancelPendingRetry authorizeJob
    split_ifs <;> rfl
  have hdispatch := h.dispatchRequestPackets env hkeyed (hdispatched ▸ hstart)
  unfold SesManager.submitRequest
  dsimp only
  rw [show (authorizeJob _ m'.jobId).cancelPendingRetry (requestKey m') m' =
    s.preparedState m m' from rfl]
  generalize SesManager.dispatchRequestPackets env
    ((s.preparedState m m').rebuildRequest (requestKey m') m' p') (requestKey m') = result
    at hdispatch ⊢
  split_ifs
  · exact hdispatch.keeps (keeps_handleDispatchFailure _ _)
  · exact (hdispatch.keeps (keeps_completeWithoutResponse _ _)).keeps (.of_same rfl rfl rfl)

/-- An accepted submission whose new record is counted, whatever the old one
was. -/
theorem allCounted_submitRequest (howned : RetriesOwned s)
    (hstarted : ∀ k, starts k ≤ s.dispatched.length) {m m' : ExtendedOperationMetadata}
    (hothers : ∀ k, k ≠ requestKey m' → Counted (starts k) (failures k) k s)
    (hm : WellKeyed (requestKey m') m') {p' : Packet}
    (hrebuilt : RetriesCounted (s.attemptsSince (starts (requestKey m')) (requestKey m'))
      (failures (requestKey m'))
      ((s.preparedState m m').rebuiltRequest m' p'
        (s.requestStates.lookup (requestKey m')))) :
    AllCounted starts failures ((s.submissionCounted m).submitRequest env m' p').1 := by
  have hbefore := preparedState_effects s m m'
  have hafter := submitRequest_effects env s m m' p'
  obtain ⟨hstates, -⟩ := rebuildRequest_frame (s.preparedState m m') (requestKey m') m' p'
  rw [preparedState_requestStates] at hstates
  have hlog : s.dispatched <+:
      ((s.preparedState m m').rebuildRequest (requestKey m') m' p').dispatched := by
    rw [rebuildRequest_dispatched]
    exact hbefore.dispatched_prefix
  have howned' := (howned.updates hbefore.updates).rebuild p' hm
  have hcounted : Counted (starts (requestKey m')) (failures (requestKey m')) (requestKey m')
      ((s.preparedState m m').rebuildRequest (requestKey m') m' p') := by
    intro r hr
    rw [hstates, AList.lookup_insert, Option.some.injEq] at hr
    exact hr ▸ hrebuilt.kept (.refl _) (attemptsSince_mono hlog _ _)
  refine ⟨howned'.updates hafter.updates, fun k => ?_, fun k => ?_⟩
  · exact (hstarted k).trans (hlog.trans hafter.dispatched_prefix).length_le
  · by_cases hk : k = requestKey m'
    · subst hk
      exact hcounted.submitRequest (fun r hr => (howned'.keyed _ r hr).key) (hstarted _)
    · refine (hothers k hk).of_same (hlog.trans hafter.dispatched_prefix) ?_
      rw [hafter.lookup_ne hk, hstates, AList.lookup_insert_ne hk]

/-- A submission of the application starts with an empty count. -/
theorem retriesCounted_rebuilt_fresh (s : SesManager) (m : ExtendedOperationMetadata)
    (p : Packet) {old : Option RequestLifecycleState}
    (hold : ∀ r, old = some r → r.lastRetryCount = 0) (n : ℕ) :
    RetriesCounted n [] (s.rebuiltRequest m p old) := by
  have hcount : (s.rebuiltRequest m p old).lastRetryCount = 0 := by
    cases old with
    | none => rfl
    | some r => exact hold r rfl
  constructor
  · exact hcount
  · exact List.nodup_nil
  · intro a ha
    cases ha
  · exact Nat.zero_le n
  · intro hdeadline
    exact absurd rfl hdeadline
  · intro _
    rw [hcount]
    exact Nat.zero_le _
  · rintro (hreason | hreason) <;> cases hreason

/-- A retry keeps the count of the record that it replaces. -/
theorem retryKept_rebuilt (s : SesManager) (m : ExtendedOperationMetadata) (p : Packet)
    (hlive : r.terminalized = false) : RetryKept False r (s.rebuiltRequest m p (some r)) := by
  constructor
  · rfl
  · intro hstarted
    cases hstarted
  · intro _ hdeadline
    exact absurd rfl hdeadline
  · intro _
    exact hlive
  · rintro (hreason | hreason) <;> cases hreason

/-- A retry event that submits nothing changes neither records nor packets. -/
theorem executeRetry_idle (env : Environment) (h : s.rebuildOf (.retryEvent key) = none) :
    (s.executeRetry env key).dispatched = s.dispatched ∧
      (s.executeRetry env key).requestStates = s.requestStates := by
  cases hdue : s.dueRetry key with
  | none =>
      unfold executeRetry
      cases hretry : s.retryStates.lookup key with
      | none => exact ⟨rfl, rfl⟩
      | some retry =>
          have hstale : s.retryStale key retry = true := by
            simpa [dueRetry, hretry, Option.filter] using hdue
          dsimp only
          rw [if_pos hstale]
          exact ⟨rfl, rfl⟩
  | some retry =>
      have hrejected : s.acceptedRequest retry.metadata (some retry.packet) = none := by
        simpa [rebuildOf, hdue] using h
      have hrejected' : (s.retryFired key retry).acceptedRequest retry.metadata
          (some retry.packet) = none := hrejected
      rw [executeRetry_of_due env hdue, processSendRequest_rejected env hrejected']
      exact ⟨rfl, rfl⟩

theorem AllCounted.executeRetry (h : AllCounted starts failures s)
    (hstep : sesStep env s (.retryEvent key) = some (s.executeRetry env key)) :
    AllCounted starts failures (s.executeRetry env key) := by
  cases hrebuild : s.rebuildOf (.retryEvent key) with
  | none =>
      obtain ⟨hdispatched, hstates⟩ := executeRetry_idle env hrebuild
      exact h.of_same (sesStep_updates hstep hrebuild) hdispatched hstates
  | some p =>
      obtain ⟨m', p'⟩ := p
      obtain ⟨hkey, -, r, hr, hlive⟩ := h.owned.rebuildOf_retryEvent hrebuild
      obtain ⟨retry, hdue, haccepted⟩ := Option.bind_eq_some_iff.mp hrebuild
      have hfired : AllCounted starts failures (s.retryFired key retry) :=
        h.of_same (Update.effect (retryFired_effect (dueRetry_lookup hdue))).updates rfl rfl
      have haccepted' : (s.retryFired key retry).acceptedRequest retry.metadata
          (some retry.packet) = some (m', p') := haccepted
      rw [executeRetry_of_due env hdue, processSendRequest_accepted env haccepted']
      have hr' : (s.retryFired key retry).requestStates.lookup (requestKey m') = some r :=
        hkey ▸ hr
      refine AllCounted.of_same ?_ (refreshRetry_effects _ key).updates rfl rfl
      refine allCounted_submitRequest hfired.owned hfired.started
        (fun k _ => hfired.counted k) (acceptedRequest_wellKeyed haccepted') ?_
      rw [hr']
      exact (hfired.counted _ r hr').kept (retryKept_rebuilt _ _ _ hlive) (Nat.le_refl _)

/-! ## Failed attempts -/

theorem scheduleRetry_dispatched (s : SesManager) (key : RequestKey) (trigger : RetryTrigger) :
    (s.scheduleRetry key trigger).dispatched = s.dispatched := by
  unfold scheduleRetry
  cases s.requestStates.lookup key with
  | none => rfl
  | some r =>
      dsimp only
      split
      · exact (keeps_close _ key _ _ fun _ => trivial).dispatched
      · rfl

/-- Scheduling a retry counts the attempt that is on its way as failed. -/
theorem scheduleRetry_counted (h : Counted start failed key s) (hlive : Live s key r)
    (hstarted : r.dispatchStarted = true) (trigger : RetryTrigger) :
    Counted start (failed ++ [s.attemptsSince start key]) key
      (s.scheduleRetry key trigger) := by
  intro r' hr'
  have hcounted := h r hlive.lookup
  have hsame : (s.scheduleRetry key trigger).attemptsSince start key =
      s.attemptsSince start key := by
    simp only [attemptsSince, scheduleRetry_dispatched]
  rw [hsame]
  have hspent := hcounted.live hlive.live
  have hcount : toU16 (r.lastRetryCount + 1) = r.lastRetryCount + 1 := by
    unfold toU16 maxRtoRetxCnt at *
    omega
  simp only [scheduleRetry, hlive.lookup, hcount] at hr'
  obtain ⟨-, hmarked⟩ := hlive.modify
    (f := SesManager.retryMarked trigger (r.lastRetryCount + 1)) rfl
  generalize s.modifyRequest key (SesManager.retryMarked trigger (r.lastRetryCount + 1)) = s₁
    at hmarked hr'
  by_cases hexhausted : maxRtoRetxCnt < r.lastRetryCount + 1
  · rw [if_pos hexhausted] at hr'
    generalize (if trigger = .responseTimeout then .responseTimeoutExhausted
      else .retryExhausted : RequestTerminalReason) = reason at hr'
    -- the close is for good, so the new record is not live
    obtain ⟨-, hlast⟩ := hmarked.modify (f := retriesExhausted) rfl
    obtain ⟨-, r'', hr'', hclosed⟩ := close_effects hlast .internalError 0 reason
    cases hr''.symm.trans hr'
    have hgone : Keeps key (maxRtoRetxCnt < r.lastRetryCount + 1) s₁
        (s₁.modifyRequest key retriesExhausted) := .modify s₁ fun _ => .of_fields rfl
    have hkeeps : Keeps key (maxRtoRetxCnt < r.lastRetryCount + 1) s₁
        (((s₁.modifyRequest key retriesExhausted).setRequestCompletionOutcome key
          .internalError 0).terminalizeRequest key reason) :=
      hgone.trans (keeps_close _ key _ _ fun _ => hexhausted)
    obtain ⟨r₁, hr₁, hkept⟩ := hkeeps.record _ hr'
    cases hmarked.lookup.symm.trans hr₁
    refine hcounted.retryMarked hstarted hkept fun hlive' => ?_
    exact absurd (hlive'.symm.trans hclosed) Bool.false_ne_true
  · rw [if_neg hexhausted] at hr'
    cases hmarked.lookup.symm.trans hr'
    exact hcounted.retryMarked hstarted (.refl _) fun _ => by omega

/-- A response that counts no failure. -/
theorem receiveResponsePacket_counted (h : Counted start failed (packetKey packet) s)
    {response : PdcSesResponse} (hpacket : response.packet = some packet)
    (hquiet : s.failedKey (.receiveResponse response) = none) :
    Counted start failed (packetKey packet) (s.receiveResponsePacket response packet) := by
  unfold receiveResponsePacket
  split_ifs with htag
  · cases hr : s.requestStates.lookup (packetKey packet) with
    | none => exact h
    | some r =>
        dsimp only
        split_ifs with hterm
        · exact h
        · refine h.keeps (keeps_receiveLiveResponse s _ r response ?_)
          simpa [failedKey, hpacket, htag, hr, hterm, Option.filter] using hquiet
  · exact h.keeps (.of_same rfl rfl rfl)

/-- A response that counts a failure schedules a retry and does nothing else. -/
theorem processReceiveResponse_of_failedKey {response : PdcSesResponse}
    (h : s.failedKey (.receiveResponse response) = some key) :
    s.processReceiveResponse response = s.responseCounted.scheduleRetry key .rcNoMatch ∧
      ∃ r, Live s key r := by
  obtain ⟨packet, hpacket, hfailed⟩ := Option.bind_eq_some_iff.mp h
  rw [Option.ite_none_right_eq_some, Option.map_eq_some_iff] at hfailed
  obtain ⟨hnack, r, hfilter, rfl⟩ := hfailed
  obtain ⟨hr, hlive⟩ := Option.filter_eq_some_iff.mp hfilter
  rw [Bool.not_eq_true'] at hlive
  refine ⟨?_, r, hr, hlive⟩
  have hr' : s.responseCounted.requestStates.lookup (packetKey packet) = some r := hr
  have henabled : s.responseCounted.retryEnabled = s.retryEnabled := rfl
  simp only [schedulesRetry, Bool.and_eq_true, decide_eq_true_eq] at hnack
  obtain ⟨hresponse, ⟨hcode, hsend⟩, hretry⟩ := hnack
  simp [processReceiveResponse, hpacket, receiveResponsePacket, hresponse, hr', hlive,
    receiveLiveResponse, hcode, hsend, henabled, hretry]

/-- A timeout that counts a failure schedules a retry. -/
theorem checkResponseTimeout_of_failedKey {k : RequestKey}
    (h : s.failedKey (.checkTimeout key) = some k) :
    k = key ∧ s.checkResponseTimeout key = s.scheduleRetry key .responseTimeout ∧
      ∃ r, Live s key r ∧ r.responseDeadlineMs ≠ 0 := by
  obtain ⟨r, hfilter, hk⟩ := Option.map_eq_some_iff.mp h
  obtain ⟨hr, hexpired⟩ := Option.filter_eq_some_iff.mp hfilter
  simp only [timeoutExpired, Bool.and_eq_true, Bool.not_eq_true', decide_eq_true_eq] at hexpired
  obtain ⟨⟨⟨⟨⟨⟨hlive, hwaiting⟩, hdeadline⟩, hretry⟩, hcurrent⟩, hdue⟩, henabled⟩ := hexpired
  refine ⟨hk.symm, ?_, r, ⟨hr, hlive⟩, hdeadline⟩
  simp [checkResponseTimeout, hr, hlive, hwaiting, hdeadline, hretry, hcurrent,
    Nat.not_lt.mpr hdue, henabled]

/-- A timeout check that counts no failure, and finds no expired request while retries are
disabled. -/
theorem keeps_checkResponseTimeout
    (henabled : ∀ r, s.requestStates.lookup key = some r → s.timeoutExpired key r = true →
      s.retryEnabled = true)
    (hquiet : s.failedKey (.checkTimeout key) = none) :
    Keeps key False s (s.checkResponseTimeout key) := by
  unfold checkResponseTimeout
  cases hr : s.requestStates.lookup key with
  | none => exact .refl s
  | some r =>
      dsimp only
      split_ifs with hidle hretry hstale hearly hdisabled
      · exact .refl s
      · exact .refl s
      · exact .modify s fun r =>
          ⟨rfl, id, fun _ hdeadline => absurd rfl hdeadline, id, .inl⟩
      · exact .refl s
      -- every test was passed, so the timeout has expired
      all_goals
        have hexpired : s.timeoutExpired key r = true := by
          simp_all [timeoutExpired]
        have hretries := henabled r hr hexpired
      · simp [hretries] at hdisabled
      · simp [failedKey, hr, hexpired, Option.filter, hretries] at hquiet

/-! ## Steps -/

theorem receiveWriteRequest_same (s : SesManager) (packet : TaggedPacket) :
    (s.receiveWriteRequest packet).dispatched = s.dispatched ∧
      (s.receiveWriteRequest packet).requestStates = s.requestStates := by
  unfold receiveWriteRequest
  split_ifs
  · cases s.validateInboundHeader packet.header with
    | error failure => exact ⟨rfl, rfl⟩
    | ok _ =>
        simp only [handleIncomingWriteRequest, writePacketBytesToAddress]
        cases s.validateRmaRequest packet.header packet.metadata true packet.bytes.length with
        | error failure => exact ⟨rfl, rfl⟩
        | ok _ =>
            cases s.writeBudget.tryReserve packet.bytes.length with
            | none => exact ⟨rfl, rfl⟩
            | some budget =>
                dsimp only
                split_ifs <;> exact ⟨rfl, rfl⟩
  · exact ⟨rfl, rfl⟩

/-- The invariant of a history. -/
def Spending (h : RetryHistory) : Prop :=
  AllCounted h.submittedAt h.failedAttempts h.manager

/-- An action that neither submits a request nor counts a failure. -/
theorem after_quiet {h : RetryHistory} {a : RetryAction} (s : SesManager)
    (hsubmitted : h.manager.submittedKey a.action = none)
    (hfailed : h.manager.failedKey a.action = none) :
    h.after a s = { h with manager := s } := by
  simp [after, hsubmitted, hfailed]

/-- An action that counts a failure of the request `key`. -/
theorem after_failed {h : RetryHistory} {a : RetryAction} (s : SesManager)
    (hsubmitted : h.manager.submittedKey a.action = none)
    (hfailed : h.manager.failedKey a.action = some key) :
    h.after a s =
      { h with
        manager := s
        failedAttempts := fun k => if key = k then h.failedAttempts k ++ [h.failedAttempt k a]
          else h.failedAttempts k } := by
  simp [after, hsubmitted, hfailed]

/-- An attempt that is on its way fails. -/
theorem spending_failed {h : RetryHistory} {a : RetryAction} (hspending : Spending h)
    (hsubmitted : h.manager.submittedKey a.action = none)
    (hfailed : h.manager.failedKey a.action = some key)
    (hattempt : h.failedAttempt key a = h.attempts key) {s : SesManager}
    (hsame : Counted (h.submittedAt key) (h.failedAttempts key) key s)
    (hupd : Effects key h.manager s) {trigger : RetryTrigger} (hlive : Live s key r)
    (hstarted : r.dispatchStarted = true)
    (hattempts : s.attemptsSince (h.submittedAt key) key = h.attempts key) :
    Spending (h.after a (s.scheduleRetry key trigger)) := by
  rw [after_failed _ hsubmitted hfailed]
  have heff := hupd.trans (scheduleRetry_effects hlive trigger)
  refine hspending.effects heff (fun k hk => if_neg (Ne.symm hk)) ?_
  have hcounted := scheduleRetry_counted hsame hlive hstarted trigger
  rw [hattempts] at hcounted
  dsimp only
  rw [if_pos rfl, hattempt]
  exact hcounted

theorem spending_receiveResponse {h : RetryHistory} {a : RetryAction}
    {response : PdcSesResponse} (ha : a.action = .receiveResponse response)
    (hspending : Spending h) (hguard : OneFailurePerAttempt h a) :
    Spending (h.after a (h.manager.processReceiveResponse response)) := by
  have hsubmitted : h.manager.submittedKey a.action = none := by rw [ha]; rfl
  cases hfailed : h.manager.failedKey (.receiveResponse response) with
  | none =>
      rw [after_quiet _ hsubmitted (ha ▸ hfailed)]
      have hcounted : AllCounted h.submittedAt h.failedAttempts h.manager.responseCounted :=
        hspending.of_same (SameTracked.updates (.of_tracked rfl) rfl) rfl rfl
      change AllCounted _ _ (h.manager.processReceiveResponse response)
      unfold processReceiveResponse
      cases hpacket : response.packet with
      | none =>
          exact hcounted.of_same (SameTracked.updates (.of_tracked rfl) rfl) rfl rfl
      | some packet =>
          exact hcounted.effects (receiveResponsePacket_effects _ response packet)
            (fun _ _ => rfl)
            (receiveResponsePacket_counted (hcounted.counted _) hpacket hfailed)
  | some key =>
      obtain ⟨hstep, r, hlive⟩ := processReceiveResponse_of_failedKey hfailed
      simp only [OneFailurePerAttempt, ha] at hguard
      obtain ⟨hattempt, hstarted⟩ := hguard key hfailed
      have hsame : SameTracked h.manager h.manager.responseCounted := .of_tracked rfl
      have hcounted : Counted (h.submittedAt key) (h.failedAttempts key) key
          h.manager.responseCounted :=
        (hspending.counted key).of_same ⟨[], List.append_nil _⟩ rfl
      have hattempt' : h.failedAttempt key a = h.attempts key := by
        simp only [failedAttempt, ha, hattempt]
      rw [hstep]
      exact spending_failed hspending hsubmitted (ha ▸ hfailed) hattempt' hcounted
        (hsame.effects rfl) ⟨hlive.lookup, hlive.live⟩ (hstarted r hlive.lookup) rfl

theorem spending_checkTimeout {h : RetryHistory} {a : RetryAction}
    (ha : a.action = .checkTimeout key) (hspending : Spending h)
    (hguard : OneFailurePerAttempt h a) :
    Spending (h.after a (h.manager.checkResponseTimeout key)) := by
  have hsubmitted : h.manager.submittedKey a.action = none := by rw [ha]; rfl
  have henabled : ∀ r, h.manager.requestStates.lookup key = some r →
      h.manager.timeoutExpired key r = true → h.manager.retryEnabled = true := by
    simpa only [OneFailurePerAttempt, ha] using hguard
  cases hfailed : h.manager.failedKey (.checkTimeout key) with
  | none =>
      rw [after_quiet _ hsubmitted (ha ▸ hfailed)]
      exact hspending.effects (checkResponseTimeout_effects _ key) (fun _ _ => rfl)
        ((hspending.counted key).keeps (keeps_checkResponseTimeout henabled hfailed))
  | some k =>
      obtain ⟨rfl, hstep, r, hlive, hdeadline⟩ := checkResponseTimeout_of_failedKey hfailed
      -- an armed timeout belongs to an attempt that is on its way
      have hstarted := (hspending.counted k r hlive.lookup).timeout hdeadline
      rw [hstep]
      exact spending_failed hspending hsubmitted (ha ▸ hfailed)
        (by simp only [failedAttempt, ha]) (hspending.counted k) .refl hlive hstarted rfl

theorem spending_sendRequest {h : RetryHistory} {a : RetryAction}
    {m : ExtendedOperationMetadata} {packet : Option Packet}
    (ha : a.action = .sendRequest m packet) (hspending : Spending h)
    (hguard : OneFailurePerAttempt h a) :
    Spending (h.after a (h.manager.processSendRequest env m packet).1) := by
  have hfailed : h.manager.failedKey a.action = none := by rw [ha]; rfl
  cases haccepted : h.manager.acceptedRequest m packet with
  | none =>
      have hsubmitted : h.manager.submittedKey a.action = none := by
        simp [ha, submittedKey, haccepted]
      rw [after_quiet _ hsubmitted hfailed, processSendRequest_rejected env haccepted]
      exact hspending.of_same (SameTracked.updates (.of_tracked rfl) rfl) rfl rfl
  | some p =>
      obtain ⟨m', p'⟩ := p
      have hsubmitted : h.manager.submittedKey a.action = some (requestKey m') := by
        simp [ha, submittedKey, haccepted]
      simp only [OneFailurePerAttempt, ha] at hguard
      rw [processSendRequest_accepted env haccepted]
      unfold Spending
      simp only [after, hsubmitted, hfailed, Option.some.injEq, reduceCtorEq, if_false]
      refine allCounted_submitRequest hspending.owned (fun k => ?_) (fun k hk => ?_)
        (acceptedRequest_wellKeyed haccepted) ?_
      · split_ifs
        · exact Nat.le_refl _
        · exact hspending.started k
      · rw [if_neg (Ne.symm hk), if_neg (Ne.symm hk)]
        exact hspending.counted k
      · rw [if_pos rfl, if_pos rfl]
        exact retriesCounted_rebuilt_fresh _ m' p' (hguard _ (ha ▸ hsubmitted)) _

/-- Every guarded step keeps the records counted. -/
theorem spending_step {h h' : RetryHistory} {a : RetryAction} (hspending : Spending h)
    (hguard : OneFailurePerAttempt h a) (hstep : (system env).step h a = some h') :
    Spending h' := by
  obtain ⟨s, hs, rfl⟩ := Option.map_eq_some_iff.mp hstep
  cases ha : a.action with
  | sendRequest m packet =>
      rw [ha] at hs
      cases hs
      exact spending_sendRequest ha hspending hguard
  | receiveResponse response =>
      rw [ha] at hs
      cases hs
      exact spending_receiveResponse ha hspending hguard
  | checkTimeout key =>
      rw [ha] at hs
      cases hs
      exact spending_checkTimeout ha hspending hguard
  | receiveWrite packet =>
      rw [ha] at hs
      cases hs
      rw [after_quiet _ (by rw [ha]; rfl) (by rw [ha]; rfl)]
      obtain ⟨hdispatched, hstates⟩ := receiveWriteRequest_same h.manager packet
      exact hspending.of_same (receiveWriteRequest_updates _ packet) hdispatched hstates
  | retryEvent key =>
      rw [after_quiet _ (by rw [ha]; rfl) (by rw [ha]; rfl)]
      rw [ha] at hs
      have hstep' := hs
      simp only [sesStep, Option.ite_none_right_eq_some, Option.some.injEq] at hs
      obtain ⟨-, rfl⟩ := hs
      exact AllCounted.executeRetry hspending hstep'
  | wakeupEvent peerFep fuel =>
      rw [after_quiet _ (by rw [ha]; rfl) (by rw [ha]; rfl)]
      rw [ha] at hs
      simp only [sesStep, Option.ite_none_right_eq_some] at hs
      have hfired : AllCounted h.submittedAt h.failedAttempts (h.manager.wakeupFired peerFep) :=
        hspending.of_same (Update.fire _ peerFep).updates rfl rfl
      exact hfired.drainBlockedPeerQueue hs.2
  | advanceClock _ | creditsAvailable _ | setAuthorizeAllJobs _ | revokeJobAuthorization _
  | setPermissionChecker _ =>
      rw [after_quiet _ (by rw [ha]; rfl) (by rw [ha]; rfl)]
      rw [ha] at hs
      have hupd := sesStep_updates hs rfl
      cases hs
      exact hspending.of_same hupd rfl rfl

/-- Along every run in which an attempt fails at most once, the budget of a
request is spent on its own attempts. -/
theorem retryBudget_spentOnRetries (env : Environment) (h : RetryHistory)
    (hreach : (system env).ReachableBy OneFailurePerAttempt h) (key : RequestKey)
    (r : RequestLifecycleState) (hr : h.manager.requestStates.lookup key = some r) :
    SpentOnRetries h key r := by
  have hspending : Spending h := by
    refine hreach.invariant (P := Spending) (fun h hinit => ?_)
      fun _ _ _ hspending hguard hstep => spending_step hspending hguard hstep
    obtain ⟨hinitial, hsubmitted, -⟩ := hinit
    refine ⟨retriesOwned_initial hinitial, fun key => ?_, fun key r hr => ?_⟩
    · rw [hsubmitted]
      exact Nat.zero_le _
    · simp [hinitial.requestStates] at hr
  have hcounted := hspending.counted key r hr
  refine ⟨hcounted.counted, hcounted.once, fun hexhausted => ?_⟩
  exact Nat.le_sub_one_of_lt (hcounted.exhausted hexhausted)

/-! ## A sample run -/

/-- A manager with fragments of one byte, before its first request. -/
def singleBytes : RetryHistory where
  manager := { payloadMtu := 1 }

theorem init_singleBytes (env : Environment) : (system env).init singleBytes :=
  ⟨⟨rfl, rfl, rfl, rfl, rfl, rfl, rfl, rfl, rfl, rfl⟩, fun _ => rfl, fun _ => rfl⟩

/-- The submission of a SEND of six fragments. -/
def sixFragments : RetryAction where
  action := .sendRequest (sampleSend 2 1) (some (List.replicate 6 0))

/-- A negative response to a fragment of an attempt of the sample SEND. -/
def fragmentRejected (attempt : ℕ) : RetryAction where
  action := .receiveResponse (sampleResponse 2 1 .noMatch)
  attempt := attempt

/-- One negative response to the first attempt counts one failure. -/
theorem retryBudget_spentOnRetries_sample :
    ∃ h r, (system reliable).runActions singleBytes [sixFragments, fragmentRejected 1] = some h ∧
      h.manager.requestStates.lookup (sampleKey 2 1) = some r ∧
      SpentOnRetries h (sampleKey 2 1) r := by
  obtain ⟨h₁, hsubmit⟩ : ∃ h, (system reliable).step singleBytes sixFragments = some h := ⟨_, rfl⟩
  obtain ⟨h, hreject⟩ : ∃ h, (system reliable).step h₁ (fragmentRejected 1) = some h := ⟨_, rfl⟩
  have hrun : (system reliable).runActions singleBytes [sixFragments, fragmentRejected 1] =
      some h := by
    simp [TransitionSystem.runActions, hsubmit, hreject]
  obtain ⟨r, hr⟩ : ∃ r, h.manager.requestStates.lookup (sampleKey 2 1) = some r := by
    cases hsubmit
    cases hreject
    exact ⟨_, rfl⟩
  refine ⟨h, r, hrun, hr, retryBudget_spentOnRetries reliable h (.step _ (.step _
    (.init (init_singleBytes reliable)) ?_ hsubmit) ?_ hreject) _ r hr⟩
  · intro key _ old hold
    cases hold
  · intro key hkey
    cases hsubmit
    cases hkey
    exact ⟨by decide, fun r hr => by cases hr; rfl⟩

/-- The negative responses to the six fragments of one attempt use up the whole
budget: the request gives up without having been dispatched again. -/
theorem budget_spent_on_one_attempt :
    ∃ h r, (system reliable).Reachable h ∧
      (system reliable).runActions singleBytes
        (sixFragments :: List.replicate 6 (fragmentRejected 1)) = some h ∧
      h.manager.requestStates.lookup (sampleKey 2 1) = some r ∧
      ¬ SpentOnRetries h (sampleKey 2 1) r := by
  obtain ⟨h, hrun⟩ : ∃ h, (system reliable).runActions singleBytes
      (sixFragments :: List.replicate 6 (fragmentRejected 1)) = some h := ⟨_, rfl⟩
  have hend : ((system reliable).runActions singleBytes
      (sixFragments :: List.replicate 6 (fragmentRejected 1))).map (fun h =>
        ((h.manager.requestStates.lookup (sampleKey 2 1)).map (·.terminalReason),
          h.redispatches (sampleKey 2 1))) = some (some .retryExhausted, 0) := by decide
  rw [hrun, Option.map_some, Option.some.injEq, Prod.mk.injEq, Option.map_eq_some_iff] at hend
  obtain ⟨⟨r, hr, hreason⟩, hnone⟩ := hend
  refine ⟨h, r, ?_, hrun, hr, fun hspent => ?_⟩
  · exact TransitionSystem.ReachableBy.runActions (.init (init_singleBytes reliable))
      (fun _ _ _ => trivial) hrun
  · have hretries := hspent.exhausted (.inl hreason)
    rw [hnone] at hretries
    exact absurd hretries (by decide)

end RetryHistory
end UeSim
