import UeSim.Pds.Steps

/-!
# Late fragments of a completed SEND

A SEND that completes into a posted receive leaves a tombstone under its receive
context and one under its message.  Until the tombstone expires, a fragment of
the message is answered from it, on whatever delivery context it arrives, and
the call does nothing else than prune stale receive state.
-/

namespace UeSim
namespace PdsManager

/-! ## Messages -/

/-- The fragments of a message announce its length. -/
def Announces (lookup : ReceiveLookupKey) (length : ℕ) : PdsAction → Prop
  | .sendPacket pdcId packet =>
      (rxMessageKey .send packet.header packet.metadata pdcId).lookupKey = lookup →
        packet.metadata.requestLength = length
  | _ => True

/-- Nothing is left of a message: no active context and no tombstone. -/
structure Forgotten (lookup : ReceiveLookupKey) (s : PdsManager) : Prop where
  contexts : ∀ key context, s.rxMessageContexts.lookup key = some context →
    key.opcode = .send → key.lookupKey = lookup → context.retired = true
  tombstones : ∀ key tombstone, s.completedSendTombstones.lookup key = some tombstone →
    key.lookupKey ≠ lookup
  messageTombstone : s.completedSendLookupTombstones.lookup lookup = none

/-- The life of a message at a receiver that has run before and has nothing left
of an earlier message under the same key. -/
def messageSystem (lookup : ReceiveLookupKey) : TransitionSystem PdsManager PdsAction where
  init s := pdsSystem.Reachable s ∧ Forgotten lookup s
  step := pdsSystem.step

/-- What comes after a state. -/
def laterSystem (s : PdsManager) : TransitionSystem PdsManager PdsAction where
  init t := t = s
  step := pdsSystem.step

/-- The action completes the context of a SEND. -/
structure Completes (s : PdsManager) (a : PdsAction) (key : RxMessageKey)
    (context : RxMessageContext) : Prop where
  opcode : key.opcode = .send
  lookup : (s.pdsStep a).rxMessageContexts.lookup key = some context
  new : s.rxMessageContexts.lookup key ≠ some context
  completed : context.completed = true

/-- A tombstone of time `completedAtMs` has not expired. -/
def Unexpired (completedAtMs : ℕ) (s : PdsManager) : Prop :=
  s.nowMs - completedAtMs ≤ s.receiveTtl

instance (completedAtMs : ℕ) (s : PdsManager) : Decidable (Unexpired completedAtMs s) :=
  inferInstanceAs (Decidable (_ ≤ _))

/-- The answer to a late fragment of a message of some length, and what the call
leaves as it is. -/
structure LateFragmentAnswered (length : ℕ) (s : PdsManager)
    (outcome : PdsManager × PdcRxSemanticResult) : Prop where
  ready : outcome.2.responseReady = true
  opcode : outcome.2.responseOpCode ≠ .nack
  returnCode : outcome.2.returnCode = .ok
  modifiedLength : outcome.2.modifiedLength = length
  memory : outcome.1.memory = s.memory ∧ outcome.1.memoryWrites = s.memoryWrites
  posted : ∀ lookup posted, s.postedReceives.lookup lookup = some posted →
    posted.consumed = false → outcome.1.postedReceives.lookup lookup = some posted
  contexts : ∀ key, s.rxMessageContexts.lookup key = none →
    outcome.1.rxMessageContexts.lookup key = none
  pruned : outcome.1 = s.pruneReceiveState

/-! ## Tombstones -/

/-- The tombstones of a message record its length. -/
structure TombstonesOfLength (lookup : ReceiveLookupKey) (length : ℕ) (s : PdsManager) :
    Prop where
  byKey : ∀ key tombstone, s.completedSendTombstones.lookup key = some tombstone →
    key.lookupKey = lookup → tombstone.modifiedLength = length
  byMessage : ∀ key tombstone, s.completedSendLookupTombstones.lookup key = some tombstone →
    key = lookup → tombstone.modifiedLength = length

/-- The message is remembered as completed at some time or later. -/
def Remembered (lookup : ReceiveLookupKey) (completedAtMs : ℕ) (s : PdsManager) : Prop :=
  ∃ tombstone, s.completedSendLookupTombstones.lookup lookup = some tombstone ∧
    completedAtMs ≤ tombstone.completedAtMs

variable {lookup : ReceiveLookupKey} {length time : ℕ} {s₀ s s' : PdsManager} {a : PdsAction}
  {key : RxMessageKey} {context context' : RxMessageContext} {before : Prop}

theorem TombstonesOfLength.congr (h : TombstonesOfLength lookup length s)
    (hkeys : s'.completedSendTombstones = s.completedSendTombstones)
    (hmessages : s'.completedSendLookupTombstones = s.completedSendLookupTombstones) :
    TombstonesOfLength lookup length s' :=
  ⟨hkeys ▸ h.byKey, hmessages ▸ h.byMessage⟩

theorem Remembered.congr (h : Remembered lookup time s)
    (hmessages : s'.completedSendLookupTombstones = s.completedSendLookupTombstones) :
    Remembered lookup time s' := by
  obtain ⟨tombstone, hlookup, htime⟩ := h
  exact ⟨tombstone, by rw [hmessages, hlookup], htime⟩

/-! ## The work on one context -/

/-- What the work on a context keeps; `before` says that the message was
remembered when the work began. -/
structure Tracked (lookup : ReceiveLookupKey) (length time : ℕ) (before : Prop)
    (key : RxMessageKey) (w : Working) : Prop where
  belongs : Belongs key w.2
  announced : key.lookupKey = lookup → key.opcode = .send → w.2.totalLength = length
  retired : w.2.completed = true → w.2.retired = true
  remembers : before ∨ (w.2.completed = true ∧ key.opcode = .send ∧ key.lookupKey = lookup) →
    Remembered lookup time w.1
  tombstones : TombstonesOfLength lookup length w.1
  now : time ≤ w.1.nowMs

/-- A step that touches neither the tombstones nor the life of the context. -/
theorem Tracked.keep (h : Tracked lookup length time before key (s, context))
    (hbelongs : Belongs key context') (hlength : context'.totalLength = context.totalLength)
    (hcompleted : context'.completed = context.completed)
    (hretired : context.retired = true → context'.retired = true)
    (hkeys : s'.completedSendTombstones = s.completedSendTombstones)
    (hmessages : s'.completedSendLookupTombstones = s.completedSendLookupTombstones)
    (hnow : s'.nowNs = s.nowNs) : Tracked lookup length time before key (s', context') where
  belongs := hbelongs
  announced hkey hopcode := hlength.trans (h.announced hkey hopcode)
  retired hdone := hretired (h.retired (hcompleted ▸ hdone))
  remembers hdone := by
    dsimp only at hdone
    rw [hcompleted] at hdone
    exact (h.remembers hdone).congr hmessages
  tombstones := h.tombstones.congr hkeys hmessages
  now := h.now.trans_eq (congrArg (· / 1000000) hnow.symm)

theorem retireContextResources_retired (s : PdsManager) (context : RxMessageContext) :
    (s.retireContextResources context).2.retired = true ∧
      (s.retireContextResources context).2.completed = context.completed ∧
      (s.retireContextResources context).2.totalLength = context.totalLength := by
  unfold retireContextResources
  split
  · rename_i hretired
    exact ⟨hretired, rfl, rfl⟩
  · exact ⟨rfl, rfl, rfl⟩

theorem Tracked.retire (h : Tracked lookup length time before key (s, context)) :
    Tracked lookup length time before key (s.retireContextResources context) := by
  obtain ⟨pool, hretire⟩ := retireContextResources_eq s context
  obtain ⟨hretired, hcompleted, hlength⟩ := retireContextResources_retired s context
  change Tracked lookup length time before key
    ((s.retireContextResources context).1, (s.retireContextResources context).2)
  refine h.keep h.belongs.retire hlength hcompleted (fun _ => hretired) ?_ ?_ ?_ <;> rw [hretire]

/-- The end of a SEND leaves a tombstone of its length and of this time. -/
theorem Tracked.completeSend (h : Tracked lookup length time before key (s, context))
    (hopcode : key.opcode = .send) :
    Tracked lookup length time before key (s.completeSend key context) := by
  obtain ⟨pool, hretire⟩ := retireContextResources_eq s { context with completed := true }
  obtain ⟨hretired, hcompleted, hlength⟩ :=
    retireContextResources_retired s { context with completed := true }
  have hbelongs : Belongs key (s.completeSend key context).2 :=
    Belongs.retire ⟨h.belongs.keyed, h.belongs.mode⟩
  have hmessage : context.key.lookupKey = key.lookupKey :=
    congrArg RxMessageKey.lookupKey h.belongs.keyed
  refine ⟨hbelongs, fun hkey _ => hlength.trans (h.announced hkey hopcode), fun _ => hretired,
    fun hdone => ?_, ⟨?_, ?_⟩, ?_⟩
  · rw [Remembered, PdsManager.completeSend, hretire, hmessage]
    by_cases hkey : key.lookupKey = lookup
    · rw [← hkey]
      exact ⟨_, AList.lookup_insert _, h.now⟩
    · have hbefore := hdone.resolve_right fun hnew => hkey hnew.2.2
      obtain ⟨tombstone, hlookup, htime⟩ := h.remembers (.inl hbefore)
      exact ⟨tombstone, (AList.lookup_insert_ne fun heq => hkey heq.symm).trans hlookup, htime⟩
  · rw [PdsManager.completeSend, hretire]
    exact KeyedMap.forall_insert h.tombstones.byKey fun hkey => h.announced hkey hopcode
  · rw [PdsManager.completeSend, hretire]
    exact KeyedMap.forall_insert h.tombstones.byMessage fun hkey =>
      h.announced (hmessage.symm.trans hkey) hopcode
  · rw [PdsManager.completeSend, hretire]
    exact h.now

theorem Tracked.finish (h : Tracked lookup length time before key (s, context)) :
    Tracked lookup length time before key (s.tryRetireCompletedContext key context) := by
  apply tryRetireCompletedContext_rule h
  · intro hmode
    exact h.completeSend (h.belongs.opcode_eq_send hmode)
  · intro hmode
    obtain ⟨hretired, hcompleted, hlength⟩ := retireContextResources_retired
      { s with readResponseTargets := s.readResponseTargets.erase context.key.lookupKey }
      { context with completed := true }
    obtain ⟨pool, hretire⟩ := retireContextResources_eq
      { s with readResponseTargets := s.readResponseTargets.erase context.key.lookupKey }
      { context with completed := true }
    refine ⟨Belongs.retire ⟨h.belongs.keyed, h.belongs.mode⟩,
      fun hkey hopcode => hlength.trans (h.announced hkey hopcode), fun _ => hretired,
      fun hdone => ?_, ?_, ?_⟩
    · rw [hretire]
      refine (h.remembers (hdone.imp_right fun hnew => ?_)).congr rfl
      exact absurd hnew.2.1 (h.belongs.mode.mp hmode)
    · rw [hretire]
      exact h.tombstones.congr rfl rfl
    · rw [hretire]
      exact h.now

theorem storeChunkInContext_life (s : PdsManager) (context : RxMessageContext)
    (tag : SoftUeMetadataTag) (packet : Packet) :
    (s.storeChunkInContext context tag packet).2.totalLength = context.totalLength ∧
      (s.storeChunkInContext context tag packet).2.completed = context.completed ∧
      (s.storeChunkInContext context tag packet).2.retired = context.retired := by
  unfold storeChunkInContext
  split <;> exact ⟨rfl, rfl, rfl⟩

theorem acceptExpected_life (context : RxMessageContext) :
    context.acceptExpected.totalLength = context.totalLength ∧
      context.acceptExpected.completed = context.completed ∧
      context.acceptExpected.retired = context.retired := by
  unfold RxMessageContext.acceptExpected
  split <;> exact ⟨rfl, rfl, rfl⟩

theorem Tracked.work {w w' : Working} (h : Tracked lookup length time before key w)
    (hwork : Work s₀ a key w w') : Tracked lookup length time before key w' := by
  have hbelongs := h.belongs.work hwork
  cases hwork with
  | arrivalBlock | unexpected | readTrack | target | buffer | answer =>
      exact h.keep hbelongs rfl rfl id rfl rfl rfl
  | @expect s context =>
      obtain ⟨hlength, hcompleted, hretired⟩ := acceptExpected_life context
      exact h.keep hbelongs hlength hcompleted hretired.trans rfl rfl rfl
  | @direct s context tag packet =>
      obtain ⟨memory, memoryWrites, hcopy⟩ := copyPacketBytesToTarget_eq s packet
        context.targetBaseAddr tag.fragmentOffset (max 1 context.targetLength)
      rw [hcopy]
      exact h.keep hbelongs rfl rfl id rfl rfl rfl
  | @store s context tag packet =>
      obtain ⟨memory, memoryWrites, hstore⟩ := storeChunkInContext_eq s context tag packet
      obtain ⟨hlength, hcompleted, hretired⟩ := storeChunkInContext_life s context tag packet
      change Tracked lookup length time before key ((s.storeChunkInContext context tag packet).1,
        (s.storeChunkInContext context tag packet).2)
      exact h.keep hbelongs hlength hcompleted hretired.trans (by rw [hstore]) (by rw [hstore])
        (by rw [hstore])
  | @promote s context =>
      unfold tryPromoteUnexpectedToMatched at hbelongs ⊢
      split
      · rename_i hmode
        split
        · exact h
        · rename_i posted hposted
          simp only [if_pos hmode, hposted] at hbelongs
          obtain ⟨memory, memoryWrites, hwrite⟩ := writeMemory_eq s posted.baseAddr
            (context.payloadBuffer.take posted.length)
          rw [hwrite]
          exact h.keep hbelongs rfl rfl id rfl rfl rfl
      · exact h
  | finish => exact h.finish
  | refuse =>
      exact Tracked.retire (h.keep ⟨h.belongs.keyed, h.belongs.mode⟩ rfl rfl id rfl rfl rfl)

theorem Tracked.works {w w' : Working} (h : Tracked lookup length time before key w)
    (hworks : Works s₀ a key w w') : Tracked lookup length time before key w' := by
  induction hworks with
  | refl => exact h
  | tail _ hwork ih => exact ih.work hwork

/-! ## Whole actions -/

/-- An active context is not completed, and one of the message has its length. -/
structure ContextTracked (lookup : ReceiveLookupKey) (length : ℕ) (key : RxMessageKey)
    (context : RxMessageContext) : Prop where
  belongs : Belongs key context
  announced : context.retired = false → key.lookupKey = lookup → key.opcode = .send →
    context.totalLength = length
  retired : context.completed = true → context.retired = true

/-- What every state of the life of a message has. -/
structure MessageTracked (lookup : ReceiveLookupKey) (length : ℕ) (s : PdsManager) : Prop where
  contexts : ∀ key context, s.rxMessageContexts.lookup key = some context →
    ContextTracked lookup length key context
  tombstones : TombstonesOfLength lookup length s

/-- What the pieces of an action that begins in `s₀` keep: contexts of the
message are completed only with a tombstone. -/
structure TrackedSince (lookup : ReceiveLookupKey) (length time : ℕ) (before : Prop)
    (s₀ s : PdsManager) : Prop extends MessageTracked lookup length s where
  now : time ≤ s.nowMs
  remembers : before → Remembered lookup time s
  completions : ∀ key context, s.rxMessageContexts.lookup key = some context →
    context.completed = true → key.opcode = .send → key.lookupKey = lookup →
      s₀.rxMessageContexts.lookup key = some context ∨
        Remembered lookup time s ∧ context.totalLength = length

theorem TombstonesOfLength.prune (h : TombstonesOfLength lookup length s) :
    TombstonesOfLength lookup length s.pruneReceiveState where
  byKey := by
    refine KeyedMap.forall_filterMap h.byKey fun _ _ _ hlength hkept => ?_
    split_ifs at hkept
    cases hkept
    exact hlength
  byMessage := by
    refine KeyedMap.forall_filterMap h.byMessage fun _ _ _ hlength hkept => ?_
    split_ifs at hkept
    cases hkept
    exact hlength

/-- A tombstone that has not expired is not pruned. -/
theorem Remembered.prune (h : Remembered lookup time s) (hunexpired : Unexpired time s) :
    Remembered lookup time s.pruneReceiveState := by
  obtain ⟨tombstone, hlookup, htime⟩ := h
  refine ⟨tombstone, ?_, htime⟩
  have hfresh : ¬ s.receiveTtl < s.nowMs - tombstone.completedAtMs := by
    have hold : s.nowMs - time ≤ s.receiveTtl := hunexpired
    omega
  rw [pruneReceiveState, KeyedMap.lookup_filterMap, hlookup, Option.bind_some, if_neg hfresh]

theorem ContextTracked.prune {nowMs ttl : ℕ} (h : ContextTracked lookup length key context)
    (hprune : context.prune nowMs ttl = some context') :
    ContextTracked lookup length key context' ∧
      (context'.completed = true → context' = context) := by
  have hbelongs := h.belongs.prune hprune
  unfold RxMessageContext.prune at hprune
  dsimp only at hprune
  split_ifs at hprune with hstale
  · cases hprune
    refine ⟨⟨hbelongs, nofun, fun _ => rfl⟩, fun hdone => ?_⟩
    rw [RxMessageContext.isStale, Bool.and_eq_true, Bool.not_eq_true'] at hstale
    exact absurd (hstale.1.symm.trans (h.retired hdone)) Bool.false_ne_true
  · cases hprune
    exact ⟨h, fun _ => rfl⟩

theorem TrackedSince.prune (h : TrackedSince lookup length time before s s)
    (hunexpired : before → Unexpired time s) :
    TrackedSince lookup length time before s s.pruneReceiveState where
  contexts := KeyedMap.forall_filterMap h.contexts fun _ _ _ htracked hprune =>
    (htracked.prune hprune).1
  tombstones := h.tombstones.prune
  now := h.now
  remembers hbefore := (h.remembers hbefore).prune (hunexpired hbefore)
  completions key context hlookup hdone _ _ := by
    rw [pruneReceiveState, KeyedMap.lookup_filterMap] at hlookup
    obtain ⟨context₀, hlookup₀, hprune⟩ := Option.bind_eq_some_iff.mp hlookup
    rw [((h.contexts key context₀ hlookup₀).prune hprune).2 hdone]
    exact .inl hlookup₀

theorem completedSend_of_remembered (h : Remembered lookup time s) (hkey : key.lookupKey = lookup) :
    s.completedSend key ≠ none := by
  obtain ⟨tombstone, hlookup, -⟩ := h
  unfold completedSend
  rw [hkey, hlookup]
  cases s.completedSendTombstones.lookup key <;> simp

/-- A context that is opened for the message has its length; once the message
is remembered, none is opened. -/
theorem TrackedSince.opened (h : TrackedSince lookup length time before s₀ s)
    (haction : before ∨ Announces lookup length a) (hopened : Opened s₀ a s key context) :
    Tracked lookup length time (Remembered lookup time s) key (s, context) := by
  have hbelongs := hopened.belongs fun key context hlookup =>
    (h.contexts key context hlookup).belongs
  have hopen : context.completed = false ∧
      (key.lookupKey = lookup → key.opcode = .send → context.totalLength = length) := by
    cases hopened with
    | active hlookup hactive =>
        have hcontext := h.contexts key context hlookup
        refine ⟨Bool.eq_false_iff.mpr fun hdone => ?_, hcontext.announced hactive⟩
        exact absurd (hactive.symm.trans (hcontext.retired hdone)) Bool.false_ne_true
    | send ha _ hkey _ hnew =>
        subst ha hkey
        refine ⟨rfl, fun hlookup _ => haction.elim (fun hbefore => ?_) (· hlookup)⟩
        exact absurd hnew (completedSend_of_remembered (h.remembers hbefore) hlookup)
    | read _ _ hkey => exact ⟨rfl, fun _ hopcode => by simp [hkey, rxMessageKey] at hopcode⟩
  refine ⟨hbelongs, hopen.2, fun hdone => ?_, fun hdone => ?_, h.tombstones, h.now⟩
  · exact absurd (hopen.1.symm.trans hdone) Bool.false_ne_true
  · refine hdone.resolve_right fun hnew => ?_
    exact absurd (hopen.1.symm.trans hnew.1) Bool.false_ne_true

/-- Every piece of an action keeps the accounts of a message that is remembered
or whose fragments announce its length. -/
theorem TrackedSince.change (h : TrackedSince lookup length time before s₀ s)
    (haction : before ∨ Announces lookup length a) (hunexpired : before → Unexpired time s₀)
    (hstart : TrackedSince lookup length time before s₀ s₀) (hchange : Change s₀ a s s') :
    TrackedSince lookup length time before s₀ s' := by
  cases hchange with
  | prune => exact hstart.prune hunexpired
  | @work s s' key context context' hopened hwork =>
      have hdone := (h.opened haction hopened).works hwork
      have hmap : s'.rxMessageContexts = s.rxMessageContexts := rxMessageContexts_works hwork
      refine ⟨⟨?_, hdone.tombstones.congr rfl rfl⟩, hdone.now, fun hbefore =>
        (hdone.remembers (.inl (h.remembers hbefore))).congr rfl, ?_⟩
      · rw [setContext, hmap]
        exact KeyedMap.forall_insert h.contexts
          ⟨hdone.belongs, fun _ => hdone.announced, hdone.retired⟩
      · rw [setContext, hmap]
        refine KeyedMap.forall_insert (fun k c hlookup hcompleted hopcode hkey => ?_)
          fun hcompleted hopcode hkey => .inr ?_
        · refine (h.completions k c hlookup hcompleted hopcode hkey).imp_right ?_
          exact And.imp_left fun hbefore => (hdone.remembers (.inl hbefore)).congr rfl
        · exact ⟨(hdone.remembers (.inr ⟨hcompleted, hopcode, hkey⟩)).congr rfl,
            hdone.announced hkey hopcode⟩
  | post | register | unregister | configure =>
      exact ⟨⟨h.contexts, h.tombstones.congr rfl rfl⟩, h.now, fun hbefore =>
        (h.remembers hbefore).congr rfl, fun k c hlookup hcompleted hopcode hkey =>
          (h.completions k c hlookup hcompleted hopcode hkey).imp_right
            (And.imp_left (·.congr rfl))⟩
  | clock deltaNs =>
      have hlater : s₀.nowMs ≤ ({ s₀ with nowNs := s₀.nowNs + deltaNs } : PdsManager).nowMs :=
        Nat.div_le_div_right (Nat.le_add_right _ _)
      exact ⟨⟨h.contexts, h.tombstones.congr rfl rfl⟩, h.now.trans hlater, fun hbefore =>
        (h.remembers hbefore).congr rfl, fun k c hlookup hcompleted hopcode hkey =>
          (h.completions k c hlookup hcompleted hopcode hkey).imp_right
            (And.imp_left (·.congr rfl))⟩

theorem TrackedSince.pdsStep (h : TrackedSince lookup length time before s s)
    (haction : before ∨ Announces lookup length a) (hunexpired : before → Unexpired time s) :
    TrackedSince lookup length time before s (s.pdsStep a) := by
  have hchanges := pdsStep_changes s a
  generalize s.pdsStep a = s' at hchanges
  induction hchanges with
  | refl => exact h
  | tail _ hchange ih => exact ih.change haction hunexpired h hchange

theorem MessageTracked.trackedSince (h : MessageTracked lookup length s) (time : ℕ)
    (before : Prop) (htime : time ≤ s.nowMs) (hremembers : before → Remembered lookup time s) :
    TrackedSince lookup length time before s s :=
  ⟨h, htime, hremembers, fun _ _ hlookup _ _ _ => .inl hlookup⟩

/-! ## Whole runs -/

theorem Idle.messageTracked (h : Idle s) : MessageTracked lookup length s where
  contexts key context hlookup := by simp [h.rxMessageContexts] at hlookup
  tombstones :=
    { byKey := fun key tombstone hlookup => by simp [h.completedSendTombstones] at hlookup
      byMessage := fun key tombstone hlookup => by
        simp [h.completedSendLookupTombstones] at hlookup }

/-- No action concerns a message whose number is not one of `uint16_t`. -/
theorem announces_of_unused (a : PdsAction) : Announces ⟨0, 2 ^ 16, 0⟩ length a := by
  cases a with
  | sendPacket pdcId packet =>
      intro hlookup
      have hnumber : toU16 packet.metadata.messageId = 2 ^ 16 :=
        congrArg ReceiveLookupKey.msgId hlookup
      unfold toU16 at hnumber
      omega
  | _ => trivial

theorem contextTracked_of_reachable (hreach : pdsSystem.Reachable s) :
    ∀ key context, s.rxMessageContexts.lookup key = some context →
      Belongs key context ∧ (context.completed = true → context.retired = true) := by
  have htracked : MessageTracked ⟨0, 2 ^ 16, 0⟩ 0 s := by
    refine hreach.invariant (P := MessageTracked ⟨0, 2 ^ 16, 0⟩ 0)
      (fun _ => Idle.messageTracked) fun s a s' h _ hstep => ?_
    cases hstep
    exact ((h.trackedSince 0 False (Nat.zero_le _) nofun).pdsStep
      (.inr (announces_of_unused a)) nofun).toMessageTracked
  exact fun key context hlookup =>
    ⟨(htracked.contexts key context hlookup).belongs,
      (htracked.contexts key context hlookup).retired⟩

theorem messageTracked_of_life
    (hlife : (messageSystem lookup).ReachableBy (fun _ a => Announces lookup length a) s) :
    MessageTracked lookup length s := by
  refine hlife.invariant (P := MessageTracked lookup length) (fun s hinit => ?_)
    fun s a s' h haction hstep => ?_
  · obtain ⟨hreach, hforgotten⟩ := hinit
    refine ⟨fun key context hlookup => ?_, ⟨fun key tombstone hlookup hkey => ?_,
      fun key tombstone hlookup hkey => ?_⟩⟩
    · obtain ⟨hbelongs, hretired⟩ := contextTracked_of_reachable hreach key context hlookup
      refine ⟨hbelongs, fun hactive hkey hopcode => ?_, hretired⟩
      have hgone := hforgotten.contexts key context hlookup hopcode hkey
      exact absurd (hactive.symm.trans hgone) Bool.false_ne_true
    · exact absurd hkey (hforgotten.tombstones key tombstone hlookup)
    · rw [hkey, hforgotten.messageTombstone] at hlookup
      cases hlookup
  · cases hstep
    exact ((h.trackedSince 0 False (Nat.zero_le _) nofun).pdsStep
      (.inr haction) nofun).toMessageTracked

/-- A fragment that meets a tombstone is answered from it, and the call only
prunes. -/
theorem lateFragmentAnswered_of_remembered {pdcId : ℕ} {packet : TaggedPacket}
    (htracked : MessageTracked lookup length s) (hremembered : Remembered lookup time s)
    (hunexpired : Unexpired time s)
    (hpacket : (rxMessageKey .send packet.header packet.metadata pdcId).lookupKey = lookup) :
    LateFragmentAnswered length s (s.handleIncomingSendPacket pdcId packet) := by
  obtain ⟨messageTombstone, hmessage, -⟩ := hremembered.prune hunexpired
  have htombstones := htracked.tombstones.prune
  obtain ⟨tombstone, hcompleted, hlength⟩ : ∃ tombstone,
      s.pruneReceiveState.completedSend
        (rxMessageKey .send packet.header packet.metadata pdcId) = some tombstone ∧
      tombstone.modifiedLength = length := by
    unfold completedSend
    cases hown : s.pruneReceiveState.completedSendTombstones.lookup
        (rxMessageKey .send packet.header packet.metadata pdcId) with
    | some tombstone => exact ⟨tombstone, rfl, htombstones.byKey _ tombstone hown hpacket⟩
    | none =>
        rw [hpacket]
        exact ⟨messageTombstone, hmessage,
          htombstones.byMessage lookup messageTombstone hmessage rfl⟩
  have hcall : s.handleIncomingSendPacket pdcId packet =
      (s.pruneReceiveState, tombstoneResult tombstone) := by
    rw [handleIncomingSendPacket, receiveSend, hcompleted]
  rw [hcall]
  refine ⟨rfl, by simp [tombstoneResult], rfl, hlength, ⟨rfl, rfl⟩, ?_, ?_, rfl⟩
  · intro lookup posted hposted hconsumed
    rw [pruneReceiveState, KeyedMap.lookup_filterMap, hposted, Option.bind_some,
      if_neg (by simp [hconsumed])]
  · intro key hnone
    rw [pruneReceiveState, KeyedMap.lookup_filterMap, hnone, Option.bind_none]

/-- After the completion of a SEND, until its tombstone expires, every fragment
of the message is answered with the length of the completion, and the call only
prunes stale receive state. -/
theorem lateFragment_answered {s t : PdsManager} {a : PdsAction} {key : RxMessageKey}
    {context : RxMessageContext} {lookup : ReceiveLookupKey} {length pdcId : ℕ}
    {packet : TaggedPacket}
    (hlife : (messageSystem lookup).ReachableBy (fun _ a => Announces lookup length a) s)
    (haction : Announces lookup length a) (hkey : key.lookupKey = lookup)
    (hcompletes : s.Completes a key context)
    (hlater : (laterSystem (s.pdsStep a)).ReachableBy (fun t _ => Unexpired s.nowMs t) t)
    (hunexpired : Unexpired s.nowMs t)
    (hpacket : (rxMessageKey .send packet.header packet.metadata pdcId).lookupKey = lookup) :
    LateFragmentAnswered context.totalLength t (t.handleIncomingSendPacket pdcId packet) := by
  have hdone : TrackedSince lookup length s.nowMs False s (s.pdsStep a) :=
    ((messageTracked_of_life hlife).trackedSince s.nowMs False le_rfl nofun).pdsStep
      (.inr haction) nofun
  obtain ⟨hremembered, hlength⟩ := (hdone.completions key context hcompletes.lookup
    hcompletes.completed hcompletes.opcode hkey).resolve_left hcompletes.new
  have hkept : MessageTracked lookup length t ∧ s.nowMs ≤ t.nowMs ∧
      Remembered lookup s.nowMs t := by
    refine hlater.invariant (P := fun t => MessageTracked lookup length t ∧
      s.nowMs ≤ t.nowMs ∧ Remembered lookup s.nowMs t) (fun t hstart => ?_)
      fun t b t' h hguard hstep => ?_
    · cases hstart
      exact ⟨hdone.toMessageTracked, hdone.now, hremembered⟩
    · cases hstep
      have hnext := (h.1.trackedSince s.nowMs True h.2.1 fun _ => h.2.2).pdsStep
        (a := b) (.inl trivial) fun _ => hguard
      exact ⟨hnext.toMessageTracked, hnext.now, hnext.remembers trivial⟩
  rw [hlength]
  exact lateFragmentAnswered_of_remembered hkept.1 hkept.2.2 hunexpired hpacket

theorem Idle.forgotten (h : Idle s) (lookup : ReceiveLookupKey) : Forgotten lookup s where
  contexts key context hlookup := by simp [h.rxMessageContexts] at hlookup
  tombstones key tombstone hlookup := by simp [h.completedSendTombstones] at hlookup
  messageTombstone := by simp [h.completedSendLookupTombstones]

/-- The theorem at work: a posted receive is completed by a message of one
fragment, and the fragment arrives again on another delivery context. -/
theorem lateFragment_answered_after_completion :
    let s := (({} : PdsManager).pdsStep (.postReceive (sampleLookup 1) 100 1)).pdsStep
      (.sendPacket 1 (sampleFragment 1 1 0 [7]))
    LateFragmentAnswered 1 s (s.handleIncomingSendPacket 2 (sampleFragment 1 1 0 [7])) := by
  intro s
  obtain ⟨context, hcontext⟩ : ∃ context,
      s.rxMessageContexts.lookup ⟨.send, 7, 1, 1, 1⟩ = some context :=
    Option.isSome_iff_exists.mp (by decide)
  have hfields : (s.rxMessageContexts.lookup ⟨.send, 7, 1, 1, 1⟩).map
      (fun context => (context.completed, context.totalLength)) = some (true, 1) := by decide
  rw [hcontext, Option.map_some, Option.some.injEq, Prod.mk.injEq] at hfields
  have hanswered : LateFragmentAnswered context.totalLength s
      (s.handleIncomingSendPacket 2 (sampleFragment 1 1 0 [7])) :=
    lateFragment_answered
      (a := .sendPacket 1 (sampleFragment 1 1 0 [7]))
      (.step (.postReceive (sampleLookup 1) 100 1)
        (.init ⟨.init idle_default, idle_default.forgotten _⟩) trivial rfl)
      (fun _ => rfl) rfl
      ⟨rfl, hcontext, (Option.isNone_iff_eq_none.mp (by decide)).trans_ne nofun, hfields.1⟩
      (.init rfl) (by decide) rfl
  rwa [hfields.2] at hanswered

/-- Message 1 is in progress for 400 ms when message 2 is completed.  After
another 150 ms a late fragment of message 2 is answered from its tombstone, but
the call gives back the arrival block of message 1, which has gone stale. -/
theorem pool_changed_by_late_fragment :
    ∃ (s t : PdsManager) (a : PdsAction) (key : RxMessageKey) (context : RxMessageContext)
      (lookup : ReceiveLookupKey) (length pdcId : ℕ) (packet : TaggedPacket),
      (messageSystem lookup).ReachableBy (fun _ a => Announces lookup length a) s ∧
      Announces lookup length a ∧ key.lookupKey = lookup ∧ s.Completes a key context ∧
      (laterSystem (s.pdsStep a)).ReachableBy (fun t _ => Unexpired s.nowMs t) t ∧
      Unexpired s.nowMs t ∧
      (rxMessageKey .send packet.header packet.metadata pdcId).lookupKey = lookup ∧
      (t.handleIncomingSendPacket pdcId packet).1.receivePool ≠ t.receivePool := by
  have hlife : (messageSystem (sampleLookup 2)).ReachableBy
      (fun _ a => Announces (sampleLookup 2) 1 a) _ :=
    .step (.advanceClock 400000000)
      (.step (.sendPacket 1 (sampleFragment 1 2 0 [7]))
        (.step (.postReceive (sampleLookup 2) 100 1)
          (.step (.postReceive (sampleLookup 1) 200 2)
            (.init ⟨.init (idle_of_payloadMtu 1), (idle_of_payloadMtu 1).forgotten _⟩)
            trivial rfl)
          trivial rfl)
        (fun hlookup => absurd hlookup (by decide)) rfl)
      trivial rfl
  generalize hs : PdsManager.pdsStep _ (.advanceClock 400000000) = s at hlife
  obtain ⟨context, hcontext⟩ : ∃ context,
      (s.pdsStep (.sendPacket 1 (sampleFragment 2 1 0 [7]))).rxMessageContexts.lookup
        ⟨.send, 7, 2, 1, 1⟩ = some context :=
    Option.isSome_iff_exists.mp (by rw [← hs]; decide)
  have hcompleted : ((s.pdsStep (.sendPacket 1 (sampleFragment 2 1 0
      [7]))).rxMessageContexts.lookup ⟨.send, 7, 2, 1, 1⟩).map (·.completed) = some true := by
    rw [← hs]
    decide
  rw [hcontext, Option.map_some, Option.some.injEq] at hcompleted
  subst hs
  exact ⟨_, _, .sendPacket 1 (sampleFragment 2 1 0 [7]), ⟨.send, 7, 2, 1, 1⟩, context,
    sampleLookup 2, 1, 2, sampleFragment 2 1 0 [7], hlife, fun _ => rfl, rfl,
    ⟨rfl, hcontext, (Option.isNone_iff_eq_none.mp (by decide)).trans_ne nofun, hcompleted⟩,
    .step (.advanceClock 150000000) (.init rfl) (by decide) rfl, by decide, rfl,
    by decide⟩

end PdsManager
end UeSim
