import UeSim.Pds.SettledContexts
import UeSim.Support.Reassembly

/-!
# An unexpected SEND until it is completed

A SEND that is accepted as unexpected has a context with a place for each of its chunks.
As long as that context does not go stale, it keeps the chunks that have arrived and takes
in those that arrive, until a posted receive completes the message.
-/

namespace UeSim

open Reassembly

namespace PdsManager

/-! ## The context of an unexpected message -/

/-- The message is remembered as completed. -/
def Recalls (s : PdsManager) (lookup : ReceiveLookupKey) : Prop :=
  (s.completedSendLookupTombstones.lookup lookup).isSome = true

/-- The end of a SEND leaves a tombstone of its message. -/
theorem recalls_completeSend (s : PdsManager) (key : RxMessageKey) (context : RxMessageContext) :
    (s.completeSend key context).1.Recalls context.key.lookupKey := by
  unfold Recalls completeSend
  dsimp only
  rw [AList.lookup_insert]
  rfl

/-- The messages of which a tombstone is left. -/
def rememberedSends (s : PdsManager) : List ReceiveLookupKey :=
  s.completedSendLookupTombstones.keys ++ s.completedSendTombstones.keys.map RxMessageKey.lookupKey

variable {s : PdsManager} {key : RxMessageKey} {lookup : ReceiveLookupKey}

theorem Recalls.mem_rememberedSends (h : s.Recalls lookup) : lookup ∈ s.rememberedSends :=
  List.mem_append_left _ (AList.lookup_isSome.mp h)

/-- A message that answers from a tombstone is remembered. -/
theorem mem_rememberedSends (h : (s.completedSend key).isSome = true) :
    key.lookupKey ∈ s.rememberedSends := by
  unfold completedSend at h
  rw [Option.isSome_or, Bool.or_eq_true] at h
  rcases h with hkey | hmessage
  · exact List.mem_append_right _ (List.mem_map_of_mem (AList.lookup_isSome.mp hkey))
  · exact List.mem_append_left _ (AList.lookup_isSome.mp hmessage)

/-- A prune leaves no tombstone that was not there before. -/
theorem completedSend_prune (h : (s.pruneReceiveState.completedSend key).isSome = true) :
    (s.completedSend key).isSome = true := by
  unfold completedSend at h ⊢
  rw [Option.isSome_or, Bool.or_eq_true] at h ⊢
  unfold pruneReceiveState at h
  dsimp only at h
  rw [KeyedMap.lookup_filterMap, KeyedMap.lookup_filterMap] at h
  rcases h with hkey | hmessage
  · refine .inl ?_
    cases hsome : s.completedSendTombstones.lookup key with
    | some tombstone => rfl
    | none =>
        rw [hsome] at hkey
        cases hkey
  · refine .inr ?_
    cases hsome : s.completedSendLookupTombstones.lookup key.lookupKey with
    | some tombstone => rfl
    | none =>
        rw [hsome] at hmessage
        cases hmessage

/-- A fragment that is answered from a tombstone is one of a remembered message. -/
theorem mem_rememberedSends_of_encounter {pdcId : ℕ} {packet : TaggedPacket}
    (h : s.sendEncounter pdcId packet = .remembered) :
    (rxMessageKey .send packet.header packet.metadata pdcId).lookupKey ∈ s.rememberedSends := by
  unfold sendEncounter at h
  dsimp only at h
  split_ifs at h with hremembered
  exact mem_rememberedSends (completedSend_prune hremembered)

theorem Forgotten.not_mem_rememberedSends (h : Forgotten lookup s) :
    lookup ∉ s.rememberedSends := by
  intro hmem
  rcases List.mem_append.mp hmem with hmessage | hkeys
  · have hsome := AList.lookup_isSome.mpr hmessage
    rw [h.messageTombstone] at hsome
    cases hsome
  · obtain ⟨key, hkey, hlookup⟩ := List.mem_map.mp hkeys
    obtain ⟨tombstone, htombstone⟩ := Option.isSome_iff_exists.mp (AList.lookup_isSome.mpr hkey)
    exact h.tombstones key tombstone htombstone hlookup

end PdsManager

/-- An active context of an unexpected message of `count` chunks, with a place for each of
them, in which those that have arrived are marked. -/
structure RxMessageContext.KeepsChunks (key : RxMessageKey) (count size : ℕ) (arrived : ℕ → Prop)
    (context : RxMessageContext) : Prop where
  keyed : context.key = key
  active : context.retired = false
  unexpected : context.mode = .unexpectedBuffered ∨ context.mode = .unexpectedMatched
  accepted : context.semanticAccepted = true
  payloadPerPacket : context.payloadPerPacket = size
  slots : context.chunkArrived.length = count
  marked : ∀ j, arrived j → context.chunkArrived[j]? = some true
  expectedChunks : context.expectedChunks = count
  chunksDone : context.chunksDone = context.chunkArrived.count true
  complete : context.bufferedComplete = true ↔ count ≤ context.chunksDone

namespace RxMessageContext

open PdsManager

variable {s : PdsManager} {context : RxMessageContext} {key : RxMessageKey} {count size k : ℕ}
  {arrived arrived' : ℕ → Prop} {tag : SoftUeMetadataTag}

theorem KeepsChunks.settled (h : context.KeepsChunks key count size arrived) :
    context.Settled := by
  refine ⟨h.accepted, ?_⟩
  unfold RxMessageContext.lacksTarget
  rcases h.unexpected with hmode | hmode <;> rw [hmode] <;> rfl

/-- When all chunks have arrived, the context is complete. -/
theorem KeepsChunks.bufferedComplete (h : context.KeepsChunks key count size arrived)
    (hall : ∀ j, j < count → arrived j) : context.bufferedComplete = true := by
  rw [h.complete, h.chunksDone, ← h.slots, length_le_count_iff]
  intro j hj
  exact h.marked j (hall j (h.slots ▸ hj))

/-- A chunk that is stored is marked. -/
theorem KeepsChunks.store (h : context.KeepsChunks key count size arrived) (hk : k < count)
    (hindex : tag.fragmentOffset / max 1 size = k) (bytes : Packet) :
    (s.storeChunkInContext context tag bytes).2.KeepsChunks key count size
      fun j => arrived j ∨ j = k := by
  have hslot : context.chunkIndex tag = k := by
    rw [RxMessageContext.chunkIndex, h.payloadPerPacket, hindex]
  have hlt : k < context.chunkArrived.length := h.slots.symm ▸ hk
  have hdone : context.chunksDone + (if context.chunkArrived[k] then 0 else 1) =
      (context.chunkArrived.set k true).count true := by
    rw [count_set_true hlt, h.chunksDone]
  unfold storeChunkInContext
  rw [hslot, List.getElem?_eq_getElem hlt]
  dsimp only [chunkStored]
  rw [hslot]
  refine ⟨h.keyed, h.active, h.unexpected, h.accepted, h.payloadPerPacket, ?_, ?_,
    h.expectedChunks, hdone, ?_⟩
  · dsimp only
    rw [List.length_set, h.slots]
  · intro j hj
    dsimp only
    by_cases hsame : k = j
    · subst hsame
      exact List.getElem?_set_self hlt
    · rw [List.getElem?_set_ne hsame]
      exact h.marked j (hj.resolve_right (Ne.symm hsame))
  · dsimp only
    rw [decide_eq_true_eq, h.expectedChunks]

theorem KeepsChunks.promote (h : context.KeepsChunks key count size arrived) :
    (s.tryPromoteUnexpectedToMatched context).2.KeepsChunks key count size arrived := by
  refine tryPromoteUnexpectedToMatched_rule
    (P := fun w => w.2.KeepsChunks key count size arrived) h ?_
  intro posted _ _
  exact ⟨h.keyed, h.active, .inr rfl, h.accepted, h.payloadPerPacket, h.slots, h.marked,
    h.expectedChunks, h.chunksDone, h.complete⟩

/-- The context stays as it is, or the message is completed. -/
theorem KeepsChunks.finish (h : context.KeepsChunks key count size arrived) :
    (s.tryRetireCompletedContext key context).1.Recalls key.lookupKey ∨
      (s.tryRetireCompletedContext key context).2.KeepsChunks key count size arrived := by
  refine tryRetireCompletedContext_rule (P := fun w => w.1.Recalls key.lookupKey ∨
    w.2.KeepsChunks key count size arrived) (.inr h) ?_ ?_
  · intro _
    have hrecalls := recalls_completeSend s key context
    rw [h.keyed] at hrecalls
    exact .inl hrecalls
  · intro hread
    rcases h.unexpected with hmode | hmode <;> cases hmode.symm.trans hread

/-- A fragment that joins the context is stored there, or it completes the message. -/
theorem KeepsChunks.storeSend (h : context.KeepsChunks key count size arrived) (hk : k < count)
    (hindex : tag.fragmentOffset / max 1 size = k) (bytes : Packet) :
    (s.storeSend key context tag bytes).1.Recalls key.lookupKey ∨
      (s.storeSend key context tag bytes).2.KeepsChunks key count size
        fun j => arrived j ∨ j = k :=
  (h.store hk hindex bytes).promote.finish

/-- Whether a fragment was answered makes no difference. -/
theorem KeepsChunks.answer (h : context.KeepsChunks key count size arrived)
    (sent : Bool) : { context with responseSent := sent }.KeepsChunks key count size arrived :=
  ⟨h.keyed, h.active, h.unexpected, h.accepted, h.payloadPerPacket, h.slots, h.marked,
    h.expectedChunks, h.chunksDone, h.complete⟩

end RxMessageContext

namespace PdsManager

variable {s : PdsManager} {context : RxMessageContext} {key : RxMessageKey} {count size k : ℕ}
  {arrived arrived' : ℕ → Prop} {tag : SoftUeMetadataTag} {pdcId : ℕ} {packet : TaggedPacket}

/-- The context of the key keeps the chunks that have arrived. -/
def HasChunks (s : PdsManager) (key : RxMessageKey) (count size : ℕ) (arrived : ℕ → Prop) :
    Prop :=
  ∃ context, s.rxMessageContexts.lookup key = some context ∧
    context.KeepsChunks key count size arrived

theorem HasChunks.congr {s' : PdsManager} (h : s.HasChunks key count size arrived)
    (hlookup : s'.rxMessageContexts.lookup key = s.rxMessageContexts.lookup key) :
    s'.HasChunks key count size arrived := by
  obtain ⟨context, hcontext, hkeeps⟩ := h
  exact ⟨context, hlookup.trans hcontext, hkeeps⟩

theorem HasChunks.mono (h : s.HasChunks key count size arrived)
    (harrived : ∀ j, arrived' j → arrived j) : s.HasChunks key count size arrived' := by
  obtain ⟨context, hcontext, hkeeps⟩ := h
  exact ⟨context, hcontext, hkeeps.keyed, hkeeps.active, hkeeps.unexpected, hkeeps.accepted,
    hkeeps.payloadPerPacket, hkeeps.slots, fun j hj => hkeeps.marked j (harrived j hj),
    hkeeps.expectedChunks, hkeeps.chunksDone, hkeeps.complete⟩

theorem hasChunks_setContext (h : context.KeepsChunks key count size arrived) :
    (s.setContext key context).HasChunks key count size arrived :=
  ⟨context, AList.lookup_insert _, h⟩

/-! ## What the calls do to it -/

/-- The context of the key has not gone stale, unless it takes its chunks directly to a
posted receive. -/
def KeepsFresh (s : PdsManager) (key : RxMessageKey) : Prop :=
  ∀ context ∈ s.rxMessageContexts.lookup key, context.mode ≠ .directExpected →
    context.isStale s.nowMs s.receiveTtl = false

instance (s : PdsManager) (key : RxMessageKey) : Decidable (s.KeepsFresh key) :=
  inferInstanceAs (Decidable (∀ context ∈ s.rxMessageContexts.lookup key, _))

/-- A context that has not gone stale is not pruned. -/
theorem HasChunks.prune (h : s.HasChunks key count size arrived)
    (hfresh : s.KeepsFresh key) : s.pruneReceiveState.HasChunks key count size arrived := by
  obtain ⟨context, hcontext, hkeeps⟩ := h
  refine ⟨context, ?_, hkeeps⟩
  have hbuffered : context.mode ≠ .directExpected := by
    rcases hkeeps.unexpected with hmode | hmode <;> rw [hmode] <;> decide
  have hstale := hfresh context hcontext hbuffered
  rw [pruneReceiveState, KeyedMap.lookup_filterMap, hcontext, Option.bind_some]
  unfold RxMessageContext.prune
  dsimp only
  rw [hstale, if_neg Bool.false_ne_true, hkeeps.active]
  rfl

/-- A fragment of the message on its delivery context. -/
theorem HasChunks.receiveSend (h : s.HasChunks key count size arrived)
    (hnew : s.completedSend key = none) (hk : k < count)
    (hindex : tag.fragmentOffset / max 1 size = k) (bytes : Packet) :
    (s.receiveSend key tag bytes).1.Recalls key.lookupKey ∨
      (s.receiveSend key tag bytes).1.HasChunks key count size fun j => arrived j ∨ j = k := by
  obtain ⟨context, hcontext, hkeeps⟩ := h
  have hjoined : s.sendContext key tag = context := by
    rw [sendContext, hcontext, Option.filter_some, hkeeps.active]
    rfl
  unfold PdsManager.receiveSend
  rw [hnew, hjoined]
  dsimp only
  cases hadmission : s.admitSend key.lookupKey context with
  | error refusal =>
      have hlacks := (admitSend_error hadmission).1
      rw [lacksResources_of_settled hkeeps.settled] at hlacks
      cases hlacks
  | ok admission =>
      obtain ⟨-, -, hadmitted⟩ := admitSend_ok hadmission
      have hsame : admission.context = context := by
        rw [hadmitted, admittedContext]
        split
        · rw [if_neg (by simp [hkeeps.settled.2]), hkeeps.settled.acceptExpected]
        · rw [if_neg (by simp [hkeeps.settled.not_unsettled])]
      dsimp only
      rw [hsame]
      rcases hkeeps.storeSend hk hindex bytes with hrecalls | hstored
      · exact .inl hrecalls
      · exact .inr (hasChunks_setContext (hstored.answer _))

theorem admittedContext_life (s : PdsManager) (lookup : ReceiveLookupKey)
    (context : RxMessageContext) :
    (s.admittedContext lookup context).key = context.key ∧
      (s.admittedContext lookup context).completed = context.completed := by
  unfold admittedContext RxMessageContext.acceptExpected
  split
  · split_ifs <;> exact ⟨rfl, rfl⟩
  · split_ifs <;> exact ⟨rfl, rfl⟩

theorem storeChunkInContext_key (s : PdsManager) (context : RxMessageContext)
    (tag : SoftUeMetadataTag) (packet : Packet) :
    (s.storeChunkInContext context tag packet).2.key = context.key := by
  unfold storeChunkInContext
  split <;> rfl

/-- A fragment that completes a direct context leaves a tombstone of the message. -/
theorem recalls_storeSend (hkeyed : context.key = key) (hopen : context.completed = false)
    (hcompletes : completesReceive context tag = true) (bytes : Packet) :
    (s.storeSend key context tag bytes).1.Recalls key.lookupKey := by
  simp only [completesReceive, hopen, Bool.false_or, Bool.and_eq_true, decide_eq_true_eq]
    at hcompletes
  obtain ⟨⟨hdirect, hcomplete⟩, -⟩ := hcompletes
  unfold storeSend
  dsimp only
  generalize (if context.mode = .directExpected then _ else s) = direct
  obtain ⟨hmode, -, -, hbuffered⟩ := storeChunkInContext_mode direct context tag bytes
  have hstored := storeChunkInContext_key direct context tag bytes
  generalize direct.storeChunkInContext context tag bytes = stored at *
  have hmode' : stored.2.mode = .directExpected := hmode.trans hdirect
  rw [tryPromoteUnexpectedToMatched_of_mode (by rw [hmode']; decide)]
  unfold tryRetireCompletedContext
  rw [if_pos (hbuffered.trans hcomplete), hmode']
  have hrecalls := recalls_completeSend stored.1 key stored.2
  rwa [hstored, hkeyed] at hrecalls

/-- A fragment that is accepted as unexpected is the first chunk of its context. -/
theorem hasChunks_of_room (hsettled : s.ContextsSettled)
    (hroom : s.sendEncounter pdcId packet = .room) (hk : k < count)
    (hchunks : s.computeExpectedChunks packet.metadata.requestLength = count)
    (hindex : packet.metadata.fragmentOffset / max 1 s.computePayloadPerPacket = k) :
    let key := rxMessageKey .send packet.header packet.metadata pdcId
    (s.pdsStep (.sendPacket pdcId packet)).Recalls key.lookupKey ∨
      (s.pdsStep (.sendPacket pdcId packet)).HasChunks key count s.computePayloadPerPacket
        fun j => j = k := by
  obtain ⟨hplace, hfresh, hfree, hnone⟩ := opens_of_room hsettled hroom
  rw [pdsStep, handleIncomingSendPacket]
  have hchunks' : s.pruneReceiveState.computeExpectedChunks packet.metadata.requestLength =
      count := hchunks
  have hsize : s.pruneReceiveState.computePayloadPerPacket = s.computePayloadPerPacket := rfl
  dsimp only at hplace hfresh hfree ⊢
  generalize s.pruneReceiveState = u at *
  generalize s.computePayloadPerPacket = size at *
  generalize rxMessageKey .send packet.header packet.metadata pdcId = key at *
  have hnew : u.completedSend key = none := by
    cases hremembered : u.completedSend key with
    | none => rfl
    | some tombstone => exact absurd (.inl (by rw [hremembered]; rfl)) hplace
  unfold PdsManager.receiveSend
  rw [hnew, hfresh]
  dsimp only
  cases hadmission : u.admitSend key.lookupKey
      (u.freshContext key packet.metadata.requestLength) with
  | error refusal =>
      rw [(admitSend_error hadmission).1] at hfree
      cases hfree
  | ok admission =>
      obtain ⟨-, -, hadmitted⟩ := admitSend_ok hadmission
      have hopened : admission.context.KeepsChunks key count size fun _ => False := by
        rw [hadmitted, admittedContext, hnone]
        have hunsettled : (u.freshContext key packet.metadata.requestLength).unsettled = true :=
          rfl
        dsimp only
        rw [if_pos hunsettled]
        refine ⟨rfl, rfl, .inl rfl, rfl, hsize, ?_, fun _ => False.elim, hchunks', ?_, ?_⟩
        · exact (List.length_replicate ..).trans hchunks'
        · exact (List.count_replicate.trans (if_neg (by decide))).symm
        · exact iff_of_false Bool.false_ne_true (Nat.not_le.mpr (Nat.zero_lt_of_lt hk))
      dsimp only
      rcases hopened.storeSend hk hindex packet.bytes with hrecalls | hstored
      · exact .inl hrecalls
      · exact .inr ((hasChunks_setContext (hstored.answer _)).mono fun j hj => .inr hj)

/-- The last chunk that a posted receive waits for completes the message. -/
theorem recalls_of_lastChunk (hreach : pdsSystem.Reachable s)
    (hlast : s.sendEncounter pdcId packet = .lastChunk) :
    (s.pdsStep (.sendPacket pdcId packet)).Recalls
      (rxMessageKey .send packet.header packet.metadata pdcId).lookupKey := by
  have htracked := contextTracked_of_reachable (.step .prune hreach trivial rfl)
  rw [pdsStep, handleIncomingSendPacket]
  unfold sendEncounter at hlast
  dsimp only [pdsStep] at htracked hlast
  generalize s.pruneReceiveState = u at *
  generalize rxMessageKey .send packet.header packet.metadata pdcId = key at *
  split_ifs at hlast with hremembered hlacks hopens hcompletes
  have hnew : u.completedSend key = none := by
    cases hsome : u.completedSend key with
    | none => rfl
    | some tombstone => exact absurd (by rw [hsome]; rfl) hremembered
  -- The context that the fragment joins is its own, and not completed yet.
  obtain ⟨hkeyed, hopen⟩ : (u.sendContext key packet.metadata).key = key ∧
      (u.sendContext key packet.metadata).completed = false := by
    unfold PdsManager.sendContext
    cases hactive : (u.rxMessageContexts.lookup key).filter fun context => !context.retired with
    | none => exact ⟨rfl, rfl⟩
    | some context =>
        obtain ⟨hlookup, hretired⟩ := Option.filter_eq_some_iff.mp hactive
        obtain ⟨hbelongs, hdone⟩ := htracked key context hlookup
        refine ⟨hbelongs.keyed, Bool.eq_false_iff.mpr fun hcompleted => ?_⟩
        rw [hdone hcompleted] at hretired
        cases hretired
  unfold PdsManager.receiveSend
  rw [hnew]
  dsimp only
  cases hadmission : u.admitSend key.lookupKey (u.sendContext key packet.metadata) with
  | error refusal => exact absurd (admitSend_error hadmission).1 hlacks
  | ok admission =>
      obtain ⟨-, -, hadmitted⟩ := admitSend_ok hadmission
      rw [← hadmitted] at hcompletes
      obtain ⟨hkeyed', hopen'⟩ : admission.context.key = key ∧
          admission.context.completed = false := by
        rw [hadmitted]
        exact ⟨(admittedContext_life _ _ _).1.trans hkeyed,
          (admittedContext_life _ _ _).2.trans hopen⟩
      exact recalls_storeSend hkeyed' hopen' hcompletes packet.bytes

/-! ## The size of the chunks -/

/-- Two managers cut messages into chunks of the same size. -/
def CutsLike (s' s : PdsManager) : Prop :=
  s'.payloadMtu = s.payloadMtu ∧ s'.deviceMtu = s.deviceMtu

theorem CutsLike.trans {s' s'' : PdsManager} (h : s''.CutsLike s') (h' : s'.CutsLike s) :
    s''.CutsLike s :=
  ⟨h.1.trans h'.1, h.2.trans h'.2⟩

theorem CutsLike.computePayloadPerPacket {s' : PdsManager} (h : s'.CutsLike s) :
    s'.computePayloadPerPacket = s.computePayloadPerPacket := by
  unfold PdsManager.computePayloadPerPacket
  rw [h.1, h.2]

theorem CutsLike.computeExpectedChunks {s' : PdsManager} (h : s'.CutsLike s) (length : ℕ) :
    s'.computeExpectedChunks length = s.computeExpectedChunks length := by
  unfold PdsManager.computeExpectedChunks
  rw [h.computePayloadPerPacket]

variable {s₀ s' : PdsManager} {a : PdsAction}

theorem cutsLike_work {w w' : Working} (hwork : Work s₀ a key w w') : w'.1.CutsLike w.1 := by
  cases hwork with
  | arrivalBlock | unexpected | readTrack | target | expect | buffer | answer => exact ⟨rfl, rfl⟩
  | @direct s context tag packet =>
      obtain ⟨memory, memoryWrites, hcopy⟩ := copyPacketBytesToTarget_eq s packet
        context.targetBaseAddr tag.fragmentOffset (max 1 context.targetLength)
      rw [hcopy]
      exact ⟨rfl, rfl⟩
  | @store s context tag packet =>
      obtain ⟨memory, memoryWrites, hstore⟩ := storeChunkInContext_eq s context tag packet
      rw [hstore]
      exact ⟨rfl, rfl⟩
  | @promote s context =>
      refine tryPromoteUnexpectedToMatched_rule (P := fun w => w.1.CutsLike s) ⟨rfl, rfl⟩ ?_
      intro posted _ _
      obtain ⟨memory, memoryWrites, hwrite⟩ := writeMemory_eq s posted.baseAddr
        (context.payloadBuffer.take posted.length)
      rw [hwrite]
      exact ⟨rfl, rfl⟩
  | @finish s context =>
      refine tryRetireCompletedContext_rule (P := fun w => w.1.CutsLike s) ⟨rfl, rfl⟩ ?_ ?_
      · intro _
        obtain ⟨pool, hretire⟩ := retireContextResources_eq s { context with completed := true }
        rw [completeSend, hretire]
        exact ⟨rfl, rfl⟩
      · intro _
        obtain ⟨pool, hretire⟩ := retireContextResources_eq
          { s with readResponseTargets := s.readResponseTargets.erase context.key.lookupKey }
          { context with completed := true }
        rw [hretire]
        exact ⟨rfl, rfl⟩
  | @refuse s context =>
      obtain ⟨pool, hretire⟩ := retireContextResources_eq s { context with failed := true }
      rw [hretire]
      exact ⟨rfl, rfl⟩

theorem cutsLike_works {w w' : Working} (hworks : Works s₀ a key w w') : w'.1.CutsLike w.1 := by
  induction hworks with
  | refl => exact ⟨rfl, rfl⟩
  | tail _ hwork ih => exact (cutsLike_work hwork).trans ih

/-- No call changes the size of the chunks. -/
theorem cutsLike_pdsStep (s : PdsManager) (a : PdsAction) : (s.pdsStep a).CutsLike s := by
  have hchanges := pdsStep_changes s a
  generalize s.pdsStep a = s' at hchanges
  induction hchanges with
  | refl => exact ⟨rfl, rfl⟩
  | tail _ hchange ih =>
      cases hchange with
      | prune | post | register | unregister | configure | clock => exact ⟨rfl, rfl⟩
      | work _ hwork => exact (cutsLike_works hwork).trans ih

/-! ## What the other calls do to it -/

/-- A fragment of another context leaves the context as the prune does. -/
theorem lookup_sendPacket_of_ne
    (hne : key ≠ rxMessageKey .send packet.header packet.metadata pdcId) :
    (s.pdsStep (.sendPacket pdcId packet)).rxMessageContexts.lookup key =
      s.pruneReceiveState.rxMessageContexts.lookup key := by
  have hopcode : (rxMessageKey .send packet.header packet.metadata pdcId).opcode = .send := rfl
  rcases receiveSend_works (a := .sendPacket pdcId packet) (s := s.pruneReceiveState)
      packet.metadata packet.bytes hopcode (fun h : s.ActionFits _ => h) id with
    ⟨_, -, hsame⟩ | ⟨-, s', context', hwork, hset⟩
  · rw [pdsStep, handleIncomingSendPacket, hsame]
  · have hmap := rxMessageContexts_works hwork
    rw [pdsStep, handleIncomingSendPacket, hset, setContext_rxMessageContexts hmap,
      AList.lookup_insert_ne hne]

theorem lookup_readResponsePacket_of_ne
    (hne : key ≠ rxMessageKey .read packet.header packet.metadata pdcId) :
    (s.pdsStep (.readResponsePacket pdcId packet)).rxMessageContexts.lookup key =
      s.pruneReceiveState.rxMessageContexts.lookup key := by
  rcases receiveReadResponse_works (a := .readResponsePacket pdcId packet) s pdcId packet rfl rfl
      rfl id with ⟨-, hsame⟩ | ⟨-, -, context, s', context', -, hwork, hset⟩
  · rw [pdsStep, handleIncomingReadResponsePacket, hsame]
  · have hmap := rxMessageContexts_works hwork
    rw [pdsStep, handleIncomingReadResponsePacket, hset, setContext_rxMessageContexts hmap,
      AList.lookup_insert_ne hne]

/-- A tombstone outlasts the end of another message. -/
theorem Recalls.finish {lookup : ReceiveLookupKey} (h : s.Recalls lookup) :
    (s.tryRetireCompletedContext key context).1.Recalls lookup := by
  unfold Recalls at h ⊢
  refine tryRetireCompletedContext_rule (P := fun w =>
    (w.1.completedSendLookupTombstones.lookup lookup).isSome = true) h ?_ ?_
  · intro _
    obtain ⟨pool, hretire⟩ := retireContextResources_eq s { context with completed := true }
    rw [completeSend, hretire]
    by_cases hsame : lookup = context.key.lookupKey
    · rw [hsame, AList.lookup_insert]
      rfl
    · rw [AList.lookup_insert_ne hsame]
      exact h
  · intro _
    obtain ⟨pool, hretire⟩ := retireContextResources_eq
      { s with readResponseTargets := s.readResponseTargets.erase context.key.lookupKey }
      { context with completed := true }
    rw [hretire]
    exact h

theorem Recalls.matchPostedReceive {lookup posted : ReceiveLookupKey} (h : s.Recalls lookup)
    (key : RxMessageKey) : (matchPostedReceive posted s key).Recalls lookup := by
  unfold PdsManager.matchPostedReceive
  cases s.rxMessageContexts.lookup key with
  | none => exact h
  | some context =>
      dsimp only
      split
      · have hpromoted : (s.tryPromoteUnexpectedToMatched context).1.Recalls lookup := by
          refine tryPromoteUnexpectedToMatched_rule (P := fun w => w.1.Recalls lookup) h ?_
          intro binding _ _
          obtain ⟨memory, memoryWrites, hwrite⟩ := writeMemory_eq s binding.baseAddr
            (context.payloadBuffer.take binding.length)
          rw [hwrite]
          exact h
        exact hpromoted.finish
      · exact h

/-- A posted receive completes the message, or leaves its context with all that has
arrived. -/
theorem HasChunks.matchPostedReceive (h : s.HasChunks key count size arrived)
    (lookup : ReceiveLookupKey) (key' : RxMessageKey) :
    (matchPostedReceive lookup s key').Recalls key.lookupKey ∨
      (matchPostedReceive lookup s key').HasChunks key count size arrived := by
  unfold PdsManager.matchPostedReceive
  cases hlookup : s.rxMessageContexts.lookup key' with
  | none => exact .inr h
  | some context =>
      dsimp only
      split
      · by_cases hsame : key = key'
        · subst hsame
          obtain ⟨_, hcontext, hkeeps⟩ := h
          cases hlookup.symm.trans hcontext
          rcases hkeeps.promote.finish with hrecalls | hkept
          · exact .inl hrecalls
          · exact .inr (hasChunks_setContext hkept)
        · refine .inr (h.congr ?_)
          rw [setContext, AList.lookup_insert_ne hsame,
            tryRetireCompletedContext_rxMessageContexts,
            tryPromoteUnexpectedToMatched_rxMessageContexts]
      · exact .inr h

theorem HasChunks.matchPostedReceives (lookup : ReceiveLookupKey) (keys : List RxMessageKey)
    (h : s.Recalls key.lookupKey ∨ s.HasChunks key count size arrived) :
    (keys.foldl (PdsManager.matchPostedReceive lookup) s).Recalls key.lookupKey ∨
      (keys.foldl (PdsManager.matchPostedReceive lookup) s).HasChunks key count size arrived := by
  induction keys generalizing s with
  | nil => exact h
  | cons key' keys ih =>
      refine ih ?_
      rcases h with hrecalls | hchunks
      · exact .inl (hrecalls.matchPostedReceive key')
      · exact hchunks.matchPostedReceive lookup key'

/-- The key is one under which the action takes in a fragment of a SEND. -/
def TakesIn (a : PdsAction) (key : RxMessageKey) : Prop :=
  ∃ pdcId packet, a = .sendPacket pdcId packet ∧
    key = rxMessageKey .send packet.header packet.metadata pdcId

/-- Any call but the arrival of a fragment leaves the context with all that has arrived, or
completes the message. -/
theorem HasChunks.pdsStep_of_other (h : s.HasChunks key count size arrived)
    (hsend : key.opcode = .send) (hfresh : s.KeepsFresh key) (a : PdsAction)
    (hother : ¬TakesIn a key) :
    (s.pdsStep a).Recalls key.lookupKey ∨ (s.pdsStep a).HasChunks key count size arrived := by
  have hpruned := h.prune hfresh
  cases a with
  | sendPacket pdcId packet =>
      refine .inr (hpruned.congr (lookup_sendPacket_of_ne fun hkey => ?_))
      exact hother ⟨pdcId, packet, rfl, hkey⟩
  | readResponsePacket pdcId packet =>
      refine .inr (hpruned.congr (lookup_readResponsePacket_of_ne fun hkey => ?_))
      rw [hkey] at hsend
      cases hsend
  | postReceive lookup baseAddr length =>
      exact HasChunks.matchPostedReceives (s := { s.pruneReceiveState with
        postedReceives := s.pruneReceiveState.postedReceives.insert lookup
          { baseAddr := baseAddr, length := length } }) lookup _ (.inr hpruned)
  | registerReadTarget | prune => exact .inr hpruned
  | unregisterReadTarget | configure | advanceClock => exact .inr h

/-- A fragment of the message on its delivery context is taken in, or the message is
completed. -/
theorem HasChunks.pdsStep_sendPacket
    (h : s.HasChunks (rxMessageKey .send packet.header packet.metadata pdcId) count size arrived)
    (hfresh : s.KeepsFresh (rxMessageKey .send packet.header packet.metadata pdcId))
    (hnew : s.pruneReceiveState.completedSend
      (rxMessageKey .send packet.header packet.metadata pdcId) = none)
    (hk : k < count) (hindex : packet.metadata.fragmentOffset / max 1 size = k) :
    (s.pdsStep (.sendPacket pdcId packet)).Recalls
        (rxMessageKey .send packet.header packet.metadata pdcId).lookupKey ∨
      (s.pdsStep (.sendPacket pdcId packet)).HasChunks
        (rxMessageKey .send packet.header packet.metadata pdcId) count size
        fun j => arrived j ∨ j = k :=
  (h.prune hfresh).receiveSend hnew hk hindex packet.bytes

end PdsManager
end UeSim
