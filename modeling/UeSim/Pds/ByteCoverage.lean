import UeSim.Pds.Steps
import UeSim.Support.Pieces

/-!
# The bytes behind a completed message

A receive context counts the chunks of its own packet payload size.  A fragment
counts for the chunk in which it starts, whatever its length is, so a message
can be complete while some of its bytes have never arrived.  It is complete with
all its bytes in every run in which the fragments of a message, once they start
in every chunk of it, contain all of it.
-/

namespace UeSim

open Pieces

/-- The length of a message is a `uint32_t` field of its packets. -/
def PdsAction.lengthFits : PdsAction → Bool
  | .sendPacket _ packet => packet.metadata.requestLength < 2 ^ 32
  | .readResponsePacket _ packet => packet.metadata.modifiedLength < 2 ^ 32
  | _ => true

/-- The bytes of its message that a packet contains: an offset and a length. -/
def TaggedPacket.extent (packet : TaggedPacket) : ℕ × ℕ :=
  (packet.metadata.fragmentOffset, packet.bytes.length)

/-! ## Arrivals -/

/-- A fragment together with the receive context that it joins. -/
structure FragmentArrival where
  key : RxMessageKey
  context : RxMessageContext
  packet : TaggedPacket
  /-- Whether the context has the resources for the fragment to be stored. -/
  admitted : Bool

/-- Once the fragments start in every chunk of the message, they contain the whole
message. -/
def RxMessageContext.WholeOnceStarted (context : RxMessageContext)
    (fragments : List (ℕ × ℕ)) : Prop :=
  (0 < context.expectedChunks ∧ ∀ k < context.expectedChunks,
      ∃ fragment ∈ fragments, fragment.1 / max 1 context.payloadPerPacket = k) →
    ∀ pos < context.totalLength, Covered fragments pos

instance (context : RxMessageContext) (fragments : List (ℕ × ℕ)) :
    Decidable (context.WholeOnceStarted fragments) :=
  inferInstanceAs (Decidable ((_ ∧ ∀ k < _, ∃ fragment ∈ _, _) → ∀ pos < _, Covered _ pos))

/-- A fragment that is stored is not the last one to start in a chunk of its message
while a byte is missing in it and in the fragments before it. -/
def FragmentArrival.WholeOnceStarted (arrival : FragmentArrival)
    (earlier : List (ℕ × ℕ)) : Prop :=
  arrival.admitted = true →
    arrival.context.WholeOnceStarted (earlier ++ [arrival.packet.extent])

instance (arrival : FragmentArrival) (earlier : List (ℕ × ℕ)) :
    Decidable (arrival.WholeOnceStarted earlier) :=
  inferInstanceAs (Decidable (_ → _))

namespace PdsManager

/-- The receive context of a message, unless it is retired. -/
def activeContext (s : PdsManager) (key : RxMessageKey) : Option RxMessageContext :=
  (s.rxMessageContexts.lookup key).filter fun context => !context.retired

/-- The arrival that an action is.  A fragment joins the active context of its
message or a fresh one; it joins none when a tombstone answers for the SEND, or
when no target of the READ is registered. -/
def arrival (s : PdsManager) : PdsAction → Option FragmentArrival
  | .sendPacket pdcId packet =>
      let s := s.pruneReceiveState
      let key := rxMessageKey .send packet.header packet.metadata pdcId
      let context := s.sendContext key packet.metadata
      if (s.completedSend key).isSome then none
      else some ⟨key, context, packet, !s.lacksResources key.lookupKey context⟩
  | .readResponsePacket pdcId packet =>
      let s := s.pruneReceiveState
      let key := rxMessageKey .read packet.header packet.metadata pdcId
      (s.readResponseTargets.lookup key.lookupKey).map fun target =>
        { key := key
          context := (s.activeContext key).getD
            (s.freshReadContext key target packet.metadata.modifiedLength)
          packet := packet
          admitted := (s.readContext key target packet.metadata).isSome }
  | _ => none

end PdsManager

/-- A receive side and the fragments that have arrived for each of its receive
contexts. -/
structure GatheringManager where
  manager : PdsManager
  fragments : RxMessageKey → List (ℕ × ℕ) := fun _ => []

namespace GatheringManager

/-- The fragments that have arrived for the active context of a message; a fresh
context begins with none. -/
def earlier (g : GatheringManager) (key : RxMessageKey) : List (ℕ × ℕ) :=
  if (g.manager.pruneReceiveState.activeContext key).isSome then g.fragments key else []

/-- The fragments that have arrived after an action. -/
def fragmentsAfter (g : GatheringManager) (a : PdsAction) : RxMessageKey → List (ℕ × ℕ) :=
  match g.manager.arrival a with
  | none => g.fragments
  | some arrival =>
      Function.update g.fragments arrival.key
        (g.earlier arrival.key ++ [arrival.packet.extent])

/-- The receive side after an action. -/
def afterAction (g : GatheringManager) (a : PdsAction) : GatheringManager where
  manager := g.manager.pdsStep a
  fragments := g.fragmentsAfter a

/-- One action of a receive side. -/
def gatheringStep (g : GatheringManager) (a : PdsAction) : Option GatheringManager :=
  if a.lengthFits then some (g.afterAction a) else none

/-- The receive side of one manager, with the fragments that have arrived. -/
def gatheringSystem : TransitionSystem GatheringManager PdsAction where
  init g := g.manager.Idle
  step := gatheringStep

/-- The fragments of a message that start in every chunk of it contain all of it. -/
def WholeOnceStarted (g : GatheringManager) (a : PdsAction) : Prop :=
  ∀ arrival ∈ g.manager.arrival a, arrival.WholeOnceStarted (g.earlier arrival.key)

instance (g : GatheringManager) (a : PdsAction) : Decidable (g.WholeOnceStarted a) :=
  inferInstanceAs (Decidable (∀ arrival ∈ g.manager.arrival a, _))

/-- Every byte of a message whose context is complete was contained in a fragment
that arrived for it. -/
def CompletionsCovered (g : GatheringManager) : Prop :=
  ∀ key context, g.manager.rxMessageContexts.lookup key = some context →
    (context.bufferedComplete = true ∨ context.completed = true) →
      ∀ pos < context.totalLength, Covered (g.fragments key) pos

end GatheringManager

/-! ## What a context has counted -/

namespace RxMessageContext

variable {context context' : RxMessageContext} {fragments : List (ℕ × ℕ)}

/-- A fragment starts in each chunk that a context has marked, and a complete message
is contained in the fragments. -/
structure Accounted (fragments : List (ℕ × ℕ)) (context : RxMessageContext) : Prop where
  length : context.retired = false → context.chunkArrived.length = context.expectedChunks
  chunksDone : context.retired = false → context.chunksDone = context.chunkArrived.count true
  started : ∀ k, context.chunkArrived[k]? = some true →
    ∃ fragment ∈ fragments, fragment.1 / max 1 context.payloadPerPacket = k
  complete : (context.bufferedComplete = true ∨ context.completed = true) →
    ∀ pos < context.totalLength, Covered fragments pos

/-- The fields of a context that counting depends on. -/
structure ChunkAccount where
  retired : Bool
  totalLength : ℕ
  payloadPerPacket : ℕ
  expectedChunks : ℕ
  chunksDone : ℕ
  chunkArrived : List Bool
  bufferedComplete : Bool
  completed : Bool

/-- The account that a context keeps of its chunks. -/
def account (context : RxMessageContext) : ChunkAccount where
  retired := context.retired
  totalLength := context.totalLength
  payloadPerPacket := context.payloadPerPacket
  expectedChunks := context.expectedChunks
  chunksDone := context.chunksDone
  chunkArrived := context.chunkArrived
  bufferedComplete := context.bufferedComplete
  completed := context.completed

/-- Contexts with one account have counted the same. -/
theorem Accounted.congr (h : context.Accounted fragments)
    (hsame : context'.account = context.account) : context'.Accounted fragments := by
  simp only [account, ChunkAccount.mk.injEq] at hsame
  obtain ⟨hretired, htotal, hsize, hexpected, hdone, harrived, hbuffered, hcompleted⟩ := hsame
  refine ⟨?_, ?_, ?_, ?_⟩
  · rw [hretired, harrived, hexpected]
    exact h.length
  · rw [hretired, hdone, harrived]
    exact h.chunksDone
  · rw [harrived, hsize]
    exact h.started
  · rw [hbuffered, hcompleted, htotal]
    exact h.complete

theorem WholeOnceStarted.congr (h : context.WholeOnceStarted fragments)
    (hsame : context'.account = context.account) : context'.WholeOnceStarted fragments := by
  simp only [account, ChunkAccount.mk.injEq] at hsame
  obtain ⟨-, htotal, hsize, hexpected, -, -, -, -⟩ := hsame
  unfold WholeOnceStarted
  rw [hexpected, hsize, htotal]
  exact h

/-- What a context has counted is still contained in more fragments. -/
theorem Accounted.append (h : context.Accounted fragments) (others : List (ℕ × ℕ)) :
    context.Accounted (fragments ++ others) := by
  refine ⟨h.length, h.chunksDone, ?_, ?_⟩
  · intro k hk
    obtain ⟨fragment, hmem, hstart⟩ := h.started k hk
    exact ⟨fragment, List.mem_append_left others hmem, hstart⟩
  · intro hcomplete pos hpos
    exact (h.complete hcomplete pos hpos).append others

theorem Accounted.retire (h : context.Accounted fragments) (nowMs : ℕ) :
    (context.retire nowMs).Accounted fragments := by
  refine ⟨?_, ?_, ?_, h.complete⟩
  · intro hactive
    cases hactive
  · intro hactive
    cases hactive
  · intro k hk
    cases hk

theorem Accounted.prune {nowMs ttl : ℕ} (h : context.Accounted fragments)
    (hprune : context.prune nowMs ttl = some context') : context'.Accounted fragments := by
  have hfailed : { context with failed := !context.completed }.Accounted fragments :=
    h.congr rfl
  unfold RxMessageContext.prune at hprune
  dsimp only at hprune
  split_ifs at hprune
  · cases hprune
    exact hfailed.retire nowMs
  · cases hprune
    exact h

/-- A context whose message is complete may be completed. -/
theorem Accounted.completed (h : context.Accounted fragments)
    (hcomplete : context.bufferedComplete = true) :
    { context with completed := true }.Accounted fragments :=
  ⟨h.length, h.chunksDone, h.started, fun _ => h.complete (.inl hcomplete)⟩

theorem account_acceptExpected (context : RxMessageContext) :
    context.acceptExpected.account = context.account := by
  unfold RxMessageContext.acceptExpected
  split <;> rfl

/-- A stored fragment is counted for its chunk; when it is the last one to start in a
chunk, the message has to be contained in the fragments. -/
theorem Accounted.chunkStored {tag : SoftUeMetadataTag} {packet : Packet} {arrived : Bool}
    (h : context.Accounted fragments) (hactive : context.retired = false)
    (hslot : context.chunkArrived[context.chunkIndex tag]? = some arrived)
    (hstart : ∃ fragment ∈ fragments,
      fragment.1 / max 1 context.payloadPerPacket = context.chunkIndex tag)
    (hwhole : context.WholeOnceStarted fragments) (nowMs : ℕ) :
    (PdsManager.chunkStored context nowMs tag packet arrived).Accounted fragments := by
  obtain ⟨hk, harrived⟩ := List.getElem?_eq_some_iff.mp hslot
  have hlength := h.length hactive
  have hdone : context.chunksDone + (if arrived then 0 else 1) =
      (context.chunkArrived.set (context.chunkIndex tag) true).count true := by
    rw [Reassembly.count_set_true hk, h.chunksDone hactive, harrived]
  have hstarted : ∀ k,
      (context.chunkArrived.set (context.chunkIndex tag) true)[k]? = some true →
        ∃ fragment ∈ fragments, fragment.1 / max 1 context.payloadPerPacket = k := by
    intro k hset
    by_cases hindex : context.chunkIndex tag = k
    · exact hindex ▸ hstart
    · rw [List.getElem?_set_ne hindex] at hset
      exact h.started k hset
  refine ⟨?_, fun _ => hdone, hstarted, ?_⟩
  · intro _
    exact (List.length_set ..).trans hlength
  · rintro (hcomplete | hcompleted)
    · have hall : context.expectedChunks ≤ context.chunksDone + if arrived then 0 else 1 :=
        of_decide_eq_true hcomplete
      rw [hdone, ← hlength, ← List.length_set (a := true) (i := context.chunkIndex tag),
        Reassembly.length_le_count_iff, List.length_set, hlength] at hall
      exact hwhole ⟨by omega, fun k hbelow => hstarted k (hall k hbelow)⟩
    · exact h.complete (.inr hcompleted)

end RxMessageContext

namespace PdsManager

open RxMessageContext

variable {s : PdsManager} {key : RxMessageKey} {context : RxMessageContext}
  {fragments : List (ℕ × ℕ)} {tag : SoftUeMetadataTag} {packet : Packet}

theorem accounted_freshContext (totalLength : ℕ) :
    (s.freshContext key totalLength).Accounted [] := by
  refine ⟨fun _ => List.length_replicate, ?_, ?_, ?_⟩
  · intro _
    simp [freshContext, List.count_replicate]
  · intro k hk
    simp [freshContext, List.getElem?_replicate] at hk
  · rintro (hcomplete | hcompleted)
    · cases hcomplete
    · cases hcompleted

theorem accounted_freshReadContext (target : ReadResponseTarget) (totalLength : ℕ) :
    (s.freshReadContext key target totalLength).Accounted [] := by
  have hfresh : (s.freshContext key totalLength).Accounted [] := accounted_freshContext _
  exact hfresh.congr rfl

/-! ## The work on a context -/

theorem accounted_retireContextResources (h : context.Accounted fragments) :
    (s.retireContextResources context).2.Accounted fragments := by
  unfold retireContextResources
  split
  · exact h
  · exact h.retire s.nowMs

theorem accounted_tryPromoteUnexpectedToMatched (h : context.Accounted fragments) :
    (s.tryPromoteUnexpectedToMatched context).2.Accounted fragments := by
  apply tryPromoteUnexpectedToMatched_rule (P := fun w => w.2.Accounted fragments) h
  intro posted _ _
  exact h.congr rfl

theorem accounted_tryRetireCompletedContext (h : context.Accounted fragments) :
    (s.tryRetireCompletedContext key context).2.Accounted fragments := by
  cases hcomplete : context.bufferedComplete with
  | false =>
      unfold tryRetireCompletedContext
      simpa [hcomplete] using h
  | true =>
      have hcompleted := h.completed hcomplete
      apply tryRetireCompletedContext_rule (P := fun w => w.2.Accounted fragments) h
      · intro _
        exact accounted_retireContextResources hcompleted
      · intro _
        exact accounted_retireContextResources hcompleted

/-- A fragment is stored in an active context. -/
theorem accounted_storeChunkInContext (h : context.Accounted fragments)
    (hactive : context.retired = false)
    (hstart : ∃ fragment ∈ fragments,
      fragment.1 / max 1 context.payloadPerPacket = context.chunkIndex tag)
    (hwhole : context.WholeOnceStarted fragments) :
    (s.storeChunkInContext context tag packet).2.Accounted fragments := by
  unfold storeChunkInContext
  cases hslot : context.chunkArrived[context.chunkIndex tag]? with
  | none => exact h
  | some arrived => exact h.chunkStored hactive hslot hstart hwhole s.nowMs

/-- An admission changes nothing that a context has counted. -/
theorem account_admittedContext (s : PdsManager) (lookup : ReceiveLookupKey)
    (context : RxMessageContext) :
    (s.admittedContext lookup context).account = context.account := by
  unfold admittedContext
  split
  · split
    · exact account_acceptExpected _
    · exact account_acceptExpected _
  · split <;> rfl

/-- A refused fragment leaves what its context has counted. -/
theorem account_admitSend_error {lookup : ReceiveLookupKey} {refusal : SendRefusal}
    (herror : s.admitSend lookup context = .error refusal) :
    refusal.context.account = context.account := by
  unfold admitSend admitExpected admitUnexpected at herror
  cases hblock : s.receivePool.reserveArrivalBlock context with
  | none =>
      simp only [hblock] at herror
      split at herror <;> split at herror <;> cases herror <;> rfl
  | some reserved =>
      obtain ⟨pool, context'⟩ := reserved
      obtain ⟨-, rfl⟩ := RudReceiveResourcePool.reserveArrivalBlock_eq_some hblock
      simp only [hblock] at herror
      split at herror
      · split at herror <;> cases herror
      · split at herror
        · split at herror <;> cases herror
          rfl
        · cases herror

theorem account_admitReadResponse (s : PdsManager) (context : RxMessageContext) :
    (s.admitReadResponse context).2.2.account = context.account := by
  unfold admitReadResponse
  dsimp only
  split
  · rfl
  · split
    · rfl
    · rename_i hblock
      rw [(RudReceiveResourcePool.reserveArrivalBlock_eq_some hblock).2]
      rfl

theorem accounted_storeSend (h : context.Accounted fragments)
    (hactive : context.retired = false)
    (hstart : ∃ fragment ∈ fragments,
      fragment.1 / max 1 context.payloadPerPacket = context.chunkIndex tag)
    (hwhole : context.WholeOnceStarted fragments) :
    (s.storeSend key context tag packet).2.Accounted fragments :=
  accounted_tryRetireCompletedContext (accounted_tryPromoteUnexpectedToMatched
    (accounted_storeChunkInContext h hactive hstart hwhole))

/-- The fragment that arrives starts in its chunk. -/
theorem exists_start (earlier : List (ℕ × ℕ)) (packet : TaggedPacket)
    (context : RxMessageContext) :
    ∃ fragment ∈ earlier ++ [packet.extent],
      fragment.1 / max 1 context.payloadPerPacket = context.chunkIndex packet.metadata :=
  ⟨packet.extent, by simp, rfl⟩

/-! ## Arrivals and the map of contexts -/

/-- The context that an arrival leaves behind has counted what the fragments
contain, if they contain the whole message once they start in every chunk. -/
def KeepsAccount (arrival : FragmentArrival) (context : RxMessageContext) : Prop :=
  ∀ earlier, arrival.context.Accounted earlier → arrival.WholeOnceStarted earlier →
    context.Accounted (earlier ++ [arrival.packet.extent])

/-- The only context that a fragment of a SEND changes is the one that it joins. -/
theorem receiveSend_gathers (key : RxMessageKey) (packet : TaggedPacket)
    (hnew : s.completedSend key = none) :
    ∃ context', (s.receiveSend key packet.metadata packet.bytes).1.rxMessageContexts =
      s.rxMessageContexts.insert key context' ∧
      KeepsAccount ⟨key, s.sendContext key packet.metadata, packet,
        !s.lacksResources key.lookupKey (s.sendContext key packet.metadata)⟩ context' := by
  have hactive := retired_sendContext s key packet.metadata
  unfold receiveSend
  rw [hnew]
  dsimp only
  cases hadmission : s.admitSend key.lookupKey (s.sendContext key packet.metadata) with
  | error refusal =>
      refine ⟨_, setContext_rxMessageContexts
        (retireContextResources_rxMessageContexts _ _) _ _, ?_⟩
      intro earlier haccounted _
      have hrefused : { refusal.context with failed := true }.Accounted earlier :=
        haccounted.congr (account_admitSend_error hadmission)
      exact accounted_retireContextResources (hrefused.append _)
  | ok admission =>
      obtain ⟨hfree, -, hcontext⟩ := admitSend_ok hadmission
      have hsame := account_admittedContext s key.lookupKey (s.sendContext key packet.metadata)
      refine ⟨_, setContext_rxMessageContexts (storeSend_rxMessageContexts _ _ _ _ _) _ _, ?_⟩
      intro earlier haccounted hwhole
      have hadmitted := (haccounted.append [packet.extent]).congr hsame
      have hadmittedWhole : (s.admittedContext key.lookupKey
          (s.sendContext key packet.metadata)).WholeOnceStarted (earlier ++ [packet.extent]) :=
        RxMessageContext.WholeOnceStarted.congr (hwhole (by rw [hfree]; rfl)) hsame
      have hretired : (s.admittedContext key.lookupKey
          (s.sendContext key packet.metadata)).retired = false :=
        (congrArg ChunkAccount.retired hsame).trans hactive
      rw [hcontext]
      exact (accounted_storeSend hadmitted hretired (exists_start earlier packet _)
        hadmittedWhole).congr rfl

theorem storeReadResponse_rxMessageContexts (s : PdsManager) (key : RxMessageKey)
    (context : RxMessageContext) (tag : SoftUeMetadataTag) (packet : Packet) :
    (s.storeReadResponse key context tag packet).1.rxMessageContexts =
      s.rxMessageContexts.insert key ((s.storeChunkInContext context tag packet).1
        |>.tryRetireCompletedContext key (s.storeChunkInContext context tag packet).2).2 := by
  obtain ⟨memory, memoryWrites, hstore⟩ := storeChunkInContext_eq s context tag packet
  unfold storeReadResponse setContext
  dsimp only
  rw [tryRetireCompletedContext_rxMessageContexts, hstore]

/-- The only context that a fragment of read data changes is the one that it
joins. -/
theorem receiveReadResponse_gathers (key : RxMessageKey) (packet : TaggedPacket)
    {target : ReadResponseTarget}
    (htarget : s.readResponseTargets.lookup key.lookupKey = some target) :
    ∃ context', (s.receiveReadResponse key packet.metadata packet.bytes).1.rxMessageContexts =
      s.rxMessageContexts.insert key context' ∧
      KeepsAccount
        { key := key
          context := (s.activeContext key).getD
            (s.freshReadContext key target packet.metadata.modifiedLength)
          packet := packet
          admitted := (s.readContext key target packet.metadata).isSome } context' := by
  unfold receiveReadResponse readContext activeContext
  rw [htarget]
  dsimp only
  cases hactive : (s.rxMessageContexts.lookup key).filter fun context => !context.retired with
  | some context =>
      obtain ⟨-, hretired⟩ := Option.filter_eq_some_iff.mp hactive
      refine ⟨_, storeReadResponse_rxMessageContexts _ _ _ _ _, ?_⟩
      intro earlier haccounted hwhole
      exact accounted_tryRetireCompletedContext (accounted_storeChunkInContext
        (haccounted.append _) (by simpa using hretired) (exists_start earlier packet _)
        (hwhole rfl))
  | none =>
      have hsame := account_admitReadResponse s
        (s.freshReadContext key target packet.metadata.modifiedLength)
      dsimp only
      split
      · rename_i hadmitted
        refine ⟨_, storeReadResponse_rxMessageContexts _ _ _ _ _, ?_⟩
        intro earlier haccounted hwhole
        have hadmittedWhole := hwhole (by simp)
        exact accounted_tryRetireCompletedContext (accounted_storeChunkInContext
          ((haccounted.append _).congr hsame) (congrArg ChunkAccount.retired hsame)
          (exists_start earlier packet _) (hadmittedWhole.congr hsame))
      · refine ⟨_, setContext_rxMessageContexts
          (retireContextResources_rxMessageContexts _ _) _ _, ?_⟩
        intro earlier haccounted _
        exact accounted_retireContextResources ((haccounted.append _).congr hsame)

/-- Every context has counted what the fragments of its message contain. -/
def ContextsAccounted (s : PdsManager) (fragments : RxMessageKey → List (ℕ × ℕ)) : Prop :=
  ∀ key context, s.rxMessageContexts.lookup key = some context →
    context.Accounted (fragments key)

variable {gathered : RxMessageKey → List (ℕ × ℕ)}

theorem ContextsAccounted.prune (h : s.ContextsAccounted gathered) :
    s.pruneReceiveState.ContextsAccounted gathered :=
  KeyedMap.forall_filterMap
    (P := fun key context => RxMessageContext.Accounted (gathered key) context) h
    fun _ _ _ haccounted hprune => haccounted.prune hprune

theorem ContextsAccounted.setContext (h : s.ContextsAccounted gathered)
    (hcontext : context.Accounted (gathered key)) :
    (s.setContext key context).ContextsAccounted gathered :=
  KeyedMap.forall_insert
    (P := fun key context => RxMessageContext.Accounted (gathered key) context) h hcontext

theorem ContextsAccounted.matchPostedReceive (h : s.ContextsAccounted gathered)
    (lookup : ReceiveLookupKey) (key : RxMessageKey) :
    (matchPostedReceive lookup s key).ContextsAccounted gathered := by
  unfold PdsManager.matchPostedReceive
  cases hlookup : s.rxMessageContexts.lookup key with
  | none => exact h
  | some context =>
      dsimp only
      split
      · have hpromoted : (s.tryPromoteUnexpectedToMatched context).2.Accounted (gathered key) :=
          accounted_tryPromoteUnexpectedToMatched (h key context hlookup)
        refine ContextsAccounted.setContext ?_ (accounted_tryRetireCompletedContext hpromoted)
        intro key' context' hlookup'
        rw [tryRetireCompletedContext_rxMessageContexts,
          tryPromoteUnexpectedToMatched_rxMessageContexts] at hlookup'
        exact h key' context' hlookup'
      · exact h

theorem ContextsAccounted.matchPostedReceives (h : s.ContextsAccounted gathered)
    (lookup : ReceiveLookupKey) (keys : List RxMessageKey) :
    (keys.foldl (PdsManager.matchPostedReceive lookup) s).ContextsAccounted gathered := by
  induction keys generalizing s with
  | nil => exact h
  | cons key keys ih => exact ih (h.matchPostedReceive lookup key)

/-- An action that brings no fragment to a context keeps what is counted. -/
theorem ContextsAccounted.of_no_arrival {a : PdsAction} (h : s.ContextsAccounted gathered)
    (hnone : s.arrival a = none) : (s.pdsStep a).ContextsAccounted gathered := by
  cases a with
  | sendPacket pdcId packet =>
      simp only [arrival, ite_eq_left_iff, reduceCtorEq, imp_false, not_not] at hnone
      obtain ⟨tombstone, hremembered⟩ := Option.isSome_iff_exists.mp hnone
      rw [pdsStep, handleIncomingSendPacket, receiveSend, hremembered]
      exact h.prune
  | readResponsePacket pdcId packet =>
      have htarget := Option.map_eq_none_iff.mp hnone
      rw [pdsStep, handleIncomingReadResponsePacket, receiveReadResponse, htarget]
      exact h.prune
  | postReceive lookup baseAddr length =>
      have hposted : { s.pruneReceiveState with
          postedReceives := s.pruneReceiveState.postedReceives.insert lookup
            { baseAddr := baseAddr, length := length } }.ContextsAccounted gathered := h.prune
      exact hposted.matchPostedReceives lookup _
  | registerReadTarget | prune => exact h.prune
  | unregisterReadTarget | configure | advanceClock => exact h

/-- An action that brings a fragment to a context changes that context only. -/
theorem pdsStep_gathers {a : PdsAction} {arrival : FragmentArrival}
    (h : s.arrival a = some arrival) :
    ∃ context', (s.pdsStep a).rxMessageContexts =
      s.pruneReceiveState.rxMessageContexts.insert arrival.key context' ∧
        KeepsAccount arrival context' := by
  cases a with
  | sendPacket pdcId packet =>
      simp only [PdsManager.arrival, Option.ite_none_left_eq_some, Bool.not_eq_true,
        Option.isSome_eq_false_iff, Option.isNone_iff_eq_none, Option.some.injEq] at h
      obtain ⟨hnew, rfl⟩ := h
      exact receiveSend_gathers _ packet hnew
  | readResponsePacket pdcId packet =>
      obtain ⟨target, htarget, rfl⟩ := Option.map_eq_some_iff.mp h
      exact receiveReadResponse_gathers _ packet htarget
  | postReceive | registerReadTarget | unregisterReadTarget | prune | configure
  | advanceClock => cases h

end PdsManager

namespace GatheringManager

variable {g g' : GatheringManager} {a : PdsAction}

/-- The context that a fragment joins has counted what the earlier fragments
contain. -/
theorem accounted_joined (h : g.manager.ContextsAccounted g.fragments) (key : RxMessageKey)
    {fresh : RxMessageContext} (hfresh : fresh.Accounted []) :
    ((g.manager.pruneReceiveState.activeContext key).getD fresh).Accounted (g.earlier key) := by
  unfold earlier
  cases hactive : g.manager.pruneReceiveState.activeContext key with
  | none => exact hfresh
  | some context => exact h.prune key context (Option.filter_eq_some_iff.mp hactive).1

theorem accounted_arrival (h : g.manager.ContextsAccounted g.fragments)
    {arrival : FragmentArrival}
    (harrival : g.manager.arrival a = some arrival) :
    arrival.context.Accounted (g.earlier arrival.key) := by
  cases a with
  | sendPacket pdcId packet =>
      simp only [PdsManager.arrival, Option.ite_none_left_eq_some, Option.some.injEq] at harrival
      obtain ⟨-, rfl⟩ := harrival
      exact accounted_joined h _ (PdsManager.accounted_freshContext _)
  | readResponsePacket pdcId packet =>
      obtain ⟨target, -, rfl⟩ := Option.map_eq_some_iff.mp harrival
      exact accounted_joined h _ (PdsManager.accounted_freshReadContext target _)
  | postReceive | registerReadTarget | unregisterReadTarget | prune | configure
  | advanceClock => cases harrival

/-- A step whose fragments contain what they start keeps what is counted. -/
theorem contextsAccounted_step (h : g.manager.ContextsAccounted g.fragments)
    (hwhole : g.WholeOnceStarted a) (hstep : g.gatheringStep a = some g') :
    g'.manager.ContextsAccounted g'.fragments := by
  simp only [gatheringStep, Option.ite_none_right_eq_some, Option.some.injEq] at hstep
  obtain ⟨-, rfl⟩ := hstep
  unfold afterAction fragmentsAfter
  dsimp only
  cases harrival : g.manager.arrival a with
  | none => exact h.of_no_arrival harrival
  | some arrival =>
      obtain ⟨context', hcontexts, hgathers⟩ := PdsManager.pdsStep_gathers harrival
      have hjoined := accounted_arrival h harrival
      intro key context hlookup
      rw [hcontexts] at hlookup
      dsimp only
      by_cases hkey : key = arrival.key
      · subst hkey
        rw [AList.lookup_insert, Option.some.injEq] at hlookup
        subst hlookup
        rw [Function.update_self]
        exact hgathers _ hjoined (hwhole arrival harrival)
      · rw [AList.lookup_insert_ne hkey] at hlookup
        rw [Function.update_of_ne hkey]
        exact h.prune key context hlookup

/-- A receive context is complete with all bytes of its message, in every run in
which the fragments of a message, once they start in every chunk, contain all of it. -/
theorem completionsCovered_of_wholeOnceStarted
    (hreach : gatheringSystem.ReachableBy WholeOnceStarted g) : g.CompletionsCovered := by
  have haccounted : g.manager.ContextsAccounted g.fragments := by
    apply hreach.invariant (P := fun g => g.manager.ContextsAccounted g.fragments)
    · intro g hidle key context hlookup
      rw [hidle.rxMessageContexts] at hlookup
      cases hlookup
    · intro g a g' h hwhole hstep
      exact contextsAccounted_step h hwhole hstep
  intro key context hlookup
  exact (haccounted key context hlookup).complete

/-- A message of ten bytes at a receive side whose chunks are of four bytes: its first
fragment has three bytes only, and the others overlap. -/
def unevenFragments : List PdsAction :=
  [.postReceive (PdsManager.sampleLookup 3) 4096 10,
    .sendPacket 1 (PdsManager.sampleFragment 3 10 0 [1, 2, 3]),
    .sendPacket 1 (PdsManager.sampleFragment 3 10 8 [9, 10]),
    .sendPacket 1 (PdsManager.sampleFragment 3 10 2 [3, 4, 5]),
    .sendPacket 1 (PdsManager.sampleFragment 3 10 4 [5, 6, 7, 8, 9])]

/-- The chunk of the first fragment is marked before its last byte arrives; when the other
chunks are, the message is completed with all its bytes. -/
theorem completionsCovered_unevenFragments :
    ∃ g : GatheringManager,
      gatheringSystem.runActions { manager := { payloadMtu := 4 } } unevenFragments = some g ∧
        (g.manager.rxMessageContexts.lookup ⟨.send, 7, 3, 1, 1⟩).any (·.completed) = true ∧
        g.CompletionsCovered := by
  have hstart : gatheringSystem.ReachableBy WholeOnceStarted { manager := { payloadMtu := 4 } } :=
    .init (PdsManager.idle_of_payloadMtu 4 : PdsManager.Idle { payloadMtu := 4 })
  have hguarded : gatheringSystem.GuardedRun WholeOnceStarted { manager := { payloadMtu := 4 } }
      unevenFragments := by
    decide +kernel
  have hend : (gatheringSystem.runActions { manager := { payloadMtu := 4 } } unevenFragments).any
      (fun g => (g.manager.rxMessageContexts.lookup ⟨.send, 7, 3, 1, 1⟩).any (·.completed)) =
        true := by
    decide +kernel
  obtain ⟨g, hrun, hcompleted⟩ := (Option.any_eq_true ..).mp hend
  exact ⟨g, hrun, hcompleted,
    completionsCovered_of_wholeOnceStarted (hstart.of_guardedRun hguarded hrun)⟩

/-- Two bytes of a message of four complete it at a receive side whose chunks are of
four bytes: the other two bytes have not arrived. -/
theorem complete_with_two_of_four_bytes :
    ∃ g : GatheringManager, gatheringSystem.Reachable g ∧ ¬ g.CompletionsCovered := by
  let post : PdsAction := .postReceive (PdsManager.sampleLookup 3) 4096 4
  let half : PdsAction := .sendPacket 1 (PdsManager.sampleFragment 3 4 0 [1, 2])
  let start : GatheringManager := { manager := { payloadMtu := 4 } }
  have hstart : gatheringSystem.Reachable start :=
    .init (PdsManager.idle_of_payloadMtu 4 : PdsManager.Idle { payloadMtu := 4 })
  have hposted : gatheringSystem.Reachable (start.afterAction post) :=
    .step post hstart trivial rfl
  refine ⟨(start.afterAction post).afterAction half, .step half hposted trivial rfl, ?_⟩
  intro hcovered
  have hcomplete : (((start.afterAction post).afterAction half).manager.rxMessageContexts.lookup
      ⟨.send, 7, 3, 1, 1⟩).any (fun context => context.completed && context.totalLength = 4) =
        true := by decide
  obtain ⟨context, hlookup, hcontext⟩ := (Option.any_eq_true ..).mp hcomplete
  rw [Bool.and_eq_true, decide_eq_true_eq] at hcontext
  have hmissing : ¬ Covered (((start.afterAction post).afterAction half).fragments
      ⟨.send, 7, 3, 1, 1⟩) 2 := by decide
  apply hmissing
  exact hcovered _ context hlookup (.inr hcontext.1) 2 (by rw [hcontext.2]; decide)

end GatheringManager
end UeSim
