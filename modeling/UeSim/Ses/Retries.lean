import UeSim.Ses.Frames

/-!
# Retry entries belong to live requests

In every reachable state the record of a request is filed under the key of its
own metadata, and a retry entry belongs to a live request of the same key.  A
retry that fires therefore replaces the record of exactly that request.
-/

namespace UeSim
namespace SesManager

/-! ## Keys and metadata -/

/-- The metadata identifies the request filed under `key`. -/
structure WellKeyed (key : RequestKey) (m : ExtendedOperationMetadata) : Prop where
  key : requestKey m = key
  jobId : m.jobId ≠ 0
  messagesId : m.messagesId ≠ 0

theorem preparedRequest_eq_some {m m' : ExtendedOperationMetadata} {packet : Option Packet}
    {p' : Packet} (h : preparedRequest m packet = some (m', p')) :
    m' = { m with payloadLength := max m.payloadLength p'.length } := by
  unfold preparedRequest at h
  obtain ⟨p, -, hp⟩ := Option.map_eq_some_iff.mp h
  obtain ⟨rfl, rfl⟩ := Prod.mk.injEq _ _ _ _ ▸ hp
  rfl

/-- Identifiers that are set are not touched by the defaults. -/
theorem fillMetadata_of_set {m : ExtendedOperationMetadata} (current : ℕ)
    (hjob : m.jobId ≠ 0) (hmsg : m.messagesId ≠ 0) :
    (fillMetadata current m).2 =
      { m with deliveryMode := if 3 < m.deliveryMode then 0 else m.deliveryMode } := by
  simp [fillMetadata, hjob, hmsg]

theorem acceptedRequest_valid {s : SesManager} {m m' : ExtendedOperationMetadata}
    {packet : Option Packet} {p' : Packet} (h : s.acceptedRequest m packet = some (m', p')) :
    s.validateOperationMetadata m' = true :=
  (Option.filter_eq_some_iff.mp h).2

/-- Accepted metadata is filed under its own key. -/
theorem acceptedRequest_wellKeyed {s : SesManager} {m m' : ExtendedOperationMetadata}
    {packet : Option Packet} {p' : Packet} (h : s.acceptedRequest m packet = some (m', p')) :
    WellKeyed (requestKey m') m' := by
  have hvalid := acceptedRequest_valid h
  simp only [validateOperationMetadata, Bool.and_eq_true, decide_eq_true_eq] at hvalid
  exact ⟨rfl, by tauto, by tauto⟩

/-- An accepted retry keeps its key and stays a retry. -/
theorem acceptedRequest_of_wellKeyed {s : SesManager} {m m' : ExtendedOperationMetadata}
    {packet : Option Packet} {p' : Packet} {key : RequestKey}
    (h : s.acceptedRequest m packet = some (m', p')) (hm : WellKeyed key m) :
    requestKey m' = key ∧ m'.isRetry = m.isRetry := by
  have hprepared := preparedRequest_eq_some (Option.filter_eq_some_iff.mp h).1
  rw [fillMetadata_of_set _ hm.jobId hm.messagesId] at hprepared
  subst hprepared
  exact ⟨hm.key, rfl⟩

/-! ## The invariant -/

/-- Records are filed under the keys of their metadata, and retry entries
belong to live requests. -/
structure RetriesOwned (s : SesManager) : Prop where
  keyed : ∀ key r, s.requestStates.lookup key = some r → WellKeyed key r.metadata
  live : ∀ key retry, s.retryStates.lookup key = some retry → ∃ r, Live s key r
  retry : ∀ key retry, s.retryStates.lookup key = some retry →
    WellKeyed key retry.metadata ∧ retry.metadata.isRetry = true

/-- A write to a live record that keeps its metadata and leaves it live. -/
theorem RetriesOwned.keep {s s' : SesManager} {key : RequestKey}
    {r r' : RequestLifecycleState} (h : RetriesOwned s)
    (hr : s.requestStates.lookup key = some r)
    (hstates : s'.requestStates = s.requestStates.insert key r')
    (hmeta : r'.metadata = r.metadata)
    (hlive : r'.terminalized = r.terminalized ∨ s.retryStates.lookup key = none)
    (hretries : s'.retryStates = s.retryStates) : RetriesOwned s' := by
  constructor
  · rw [hstates]
    exact KeyedMap.forall_insert h.keyed (hmeta ▸ h.keyed key r hr)
  · intro k retry hretry
    rw [hretries] at hretry
    obtain ⟨r₀, hlive₀⟩ := h.live k retry hretry
    by_cases hk : k = key
    · subst hk
      rcases hlive with hsame | hnone
      · have heq : r₀ = r := Option.some.inj (hlive₀.lookup.symm.trans hr)
        exact ⟨r', by rw [hstates, AList.lookup_insert], hsame.trans (heq ▸ hlive₀.live)⟩
      · exact absurd (hretry.symm.trans hnone) (Option.some_ne_none retry)
    · exact ⟨r₀, by rw [hstates, AList.lookup_insert_ne hk, hlive₀.lookup], hlive₀.live⟩
  · rw [hretries]
    exact h.retry

/-- A write to the retry entry of a live request. -/
theorem RetriesOwned.write {s s' : SesManager} {key : RequestKey} {r : RequestLifecycleState}
    {retry : RetryState} (h : RetriesOwned s) (hlive : Live s key r)
    (hkeyed : WellKeyed key retry.metadata) (his : retry.metadata.isRetry = true)
    (hstates : s'.requestStates = s.requestStates)
    (hretries : s'.retryStates = s.retryStates.insert key retry) : RetriesOwned s' := by
  have hsame : ∀ k r, Live s k r → Live s' k r :=
    fun k r hlive => ⟨by rw [hstates, hlive.lookup], hlive.live⟩
  constructor
  · rw [hstates]
    exact h.keyed
  · rw [hretries]
    refine KeyedMap.forall_insert (fun k retry hretry => ?_) ⟨r, hsame _ _ hlive⟩
    obtain ⟨r₀, hlive₀⟩ := h.live k retry hretry
    exact ⟨r₀, hsame _ _ hlive₀⟩
  · rw [hretries]
    exact KeyedMap.forall_insert h.retry ⟨hkeyed, his⟩

theorem RetriesOwned.of_same {s s' : SesManager} (h : RetriesOwned s)
    (hstates : s'.requestStates = s.requestStates)
    (hretries : s'.retryStates = s.retryStates) : RetriesOwned s' := by
  constructor
  · rw [hstates]
    exact h.keyed
  · intro k retry hretry
    rw [hretries] at hretry
    obtain ⟨r, hlive⟩ := h.live k retry hretry
    exact ⟨r, by rw [hstates, hlive.lookup], hlive.live⟩
  · rw [hretries]
    exact h.retry

theorem RetriesOwned.effect {s s' : SesManager} {key : RequestKey} (h : RetriesOwned s)
    (heff : Effect key s s') : RetriesOwned s' := by
  cases heff with
  | other hsame _ => exact h.of_same hsame.requestStates hsame.retryStates
  | progress hr _ hkeep =>
      exact h.keep hr rfl (congrArg Standing.metadata hkeep)
        (.inl (congrArg Standing.terminalized hkeep)) rfl
  | retryErase =>
      have hentry : ∀ k retry, (s.retryStates.erase key).lookup k = some retry →
          s.retryStates.lookup k = some retry := by
        intro k retry hretry
        by_cases hk : k = key
        · subst hk
          simp at hretry
        · rwa [AList.lookup_erase_ne hk] at hretry
      refine ⟨h.keyed, fun k retry hretry => ?_, fun k retry hretry => ?_⟩
      · obtain ⟨r, hlive⟩ := h.live k retry (hentry k retry hretry)
        exact ⟨r, hlive.lookup, hlive.live⟩
      · exact h.retry k retry (hentry k retry hretry)
  | retrySet hr hlive hmeta =>
      have hkeyed := h.keyed key _ hr
      refine h.write ⟨hr, hlive⟩ ?_ (by rw [hmeta]) rfl rfl
      rw [hmeta]
      exact ⟨hkeyed.key, hkeyed.jobId, hkeyed.messagesId⟩
  | retryUpdate hretry hmeta =>
      obtain ⟨r, hlive⟩ := h.live key _ hretry
      obtain ⟨hkeyed, his⟩ := h.retry key _ hretry
      exact h.write hlive (hmeta ▸ hkeyed) (hmeta ▸ his) rfl rfl
  | grantSend hr _ _ _ _ _ | grantWrite hr _ _ _ _ _ | grantFree hr _ _
  | releaseSend hr _ _ | releaseWrite hr _ _ | link hr _ _ _ =>
      exact h.keep hr rfl rfl (.inl rfl) rfl
  | unlink =>
      cases hr : s.requestStates.lookup key with
      | none => exact h.of_same (by simp [removeBlockedRequest, KeyedMap.modify, hr]) rfl
      | some r => exact h.keep hr (KeyedMap.modify_of_some hr) rfl (.inl rfl) rfl
  | close reason hr _ hretry _ _ _ =>
      obtain ⟨hstates, hretries, -⟩ := closeRequest_frame s key reason _
      exact h.keep hr hstates rfl (.inr hretry) hretries

theorem RetriesOwned.updates {s s' : SesManager} (h : RetriesOwned s)
    (hupd : Updates s s') : RetriesOwned s' := by
  refine hupd.invariant (P := RetriesOwned) h fun t t' h hupd => ?_
  cases hupd with
  | effect heff => exact h.effect heff
  | redispatch hlive => exact h.keep hlive.lookup rfl rfl (.inl rfl) rfl
  | wake | fire | advance => exact h.of_same rfl rfl

theorem RetriesOwned.rebuild {s : SesManager} (h : RetriesOwned s)
    {m : ExtendedOperationMetadata} (packet : Packet) (hm : WellKeyed (requestKey m) m) :
    RetriesOwned (s.rebuildRequest (requestKey m) m packet) := by
  obtain ⟨hstates, hretries, -⟩ := rebuildRequest_frame s (requestKey m) m packet
  constructor
  · rw [hstates]
    exact KeyedMap.forall_insert h.keyed hm
  · intro k retry hretry
    rw [hretries] at hretry
    by_cases hk : k = requestKey m
    · subst hk
      exact ⟨_, rebuildRequest_live s _ m packet⟩
    · obtain ⟨r, hlive⟩ := h.live k retry hretry
      exact ⟨r, by rw [hstates, AList.lookup_insert_ne hk, hlive.lookup], hlive.live⟩
  · rw [hretries]
    exact h.retry

/-! ## Runs -/

theorem rebuildOf_wellKeyed {s : SesManager} {a : SesAction} {m : ExtendedOperationMetadata}
    {packet : Packet} (h : s.rebuildOf a = some (m, packet)) :
    WellKeyed (requestKey m) m := by
  cases a with
  | sendRequest m₀ packet₀ => exact acceptedRequest_wellKeyed h
  | retryEvent key =>
      obtain ⟨retry, -, haccepted⟩ := Option.bind_eq_some_iff.mp h
      exact acceptedRequest_wellKeyed haccepted
  | _ => cases h

theorem retriesOwned_step {env : Environment} {s s' : SesManager} {a : SesAction}
    (h : RetriesOwned s) (hstep : sesStep env s a = some s') : RetriesOwned s' := by
  cases hrebuild : s.rebuildOf a with
  | none => exact h.updates (sesStep_updates hstep hrebuild)
  | some p =>
      obtain ⟨m, packet⟩ := p
      obtain ⟨s₁, hbefore, -, hafter⟩ := (sesStep_rebuild hstep hrebuild).split
      exact ((h.updates hbefore).rebuild packet (rebuildOf_wellKeyed hrebuild)).updates hafter

theorem retriesOwned_initial {s : SesManager} (h : Initial s) : RetriesOwned s := by
  constructor <;> simp [h.requestStates, h.retryStates]

/-- A retry that fires replaces the record of its own live request. -/
theorem RetriesOwned.rebuildOf_retryEvent {s : SesManager} (h : RetriesOwned s)
    {key : RequestKey} {m : ExtendedOperationMetadata} {packet : Packet}
    (hrebuild : s.rebuildOf (.retryEvent key) = some (m, packet)) :
    requestKey m = key ∧ m.isRetry = true ∧ ∃ r, Live s key r := by
  obtain ⟨retry, hdue, haccepted⟩ := Option.bind_eq_some_iff.mp hrebuild
  obtain ⟨hkeyed, his⟩ := h.retry key retry (dueRetry_lookup hdue)
  obtain ⟨hkey, hretry⟩ := acceptedRequest_of_wellKeyed haccepted hkeyed
  exact ⟨hkey, hretry.trans his, h.live key retry (dueRetry_lookup hdue)⟩

end SesManager
end UeSim
