import UeSim.Pds.Steps

/-!
# Read data in one packet

A receive side that expects the data of a READ, and what it does with a packet
that carries all of it: the data is copied to the target, unless the number of
expected chunks has wrapped to zero.
-/

namespace UeSim

/-- The pool can take in the data of one more READ. -/
structure RudReceiveResourcePool.HasReadRoom (pool : RudReceiveResourcePool) : Prop where
  readTrack : pool.readTracksInUse < pool.maxReadTracks
  arrivalBlock : pool.arrivalBlocksInUse < pool.maxArrivalBlocks

theorem RudReceiveResourcePool.HasReadRoom.foldl_release {pool : RudReceiveResourcePool}
    (h : pool.HasReadRoom) (entries : List (Sigma fun _ : RxMessageKey => RxMessageContext)) :
    (entries.foldl (fun pool e => pool.releaseContext e.2) pool).HasReadRoom := by
  induction entries generalizing pool with
  | nil => exact h
  | cons e entries ih =>
      refine ih ⟨?_, ?_⟩
      · exact (Nat.sub_le _ _).trans_lt h.readTrack
      · exact (Nat.sub_le _ _).trans_lt h.arrivalBlock

namespace PdsManager

/-- Nothing of the data of a READ has arrived, and there are resources for it. -/
structure ReadyForRead (s : PdsManager) (lookup : ReceiveLookupKey) : Prop where
  idle : ∀ key context, s.rxMessageContexts.lookup key = some context →
    key.lookupKey ≠ lookup ∧ context.key.lookupKey ≠ lookup
  room : s.receivePool.HasReadRoom

/-- The data of a READ is expected: its target is registered, too. -/
structure ExpectsRead (s : PdsManager) (lookup : ReceiveLookupKey)
    (target : ReadResponseTarget) : Prop extends ReadyForRead s lookup where
  target : s.readResponseTargets.lookup lookup = some target

variable {s : PdsManager} {lookup : ReceiveLookupKey} {target : ReadResponseTarget}

theorem lookup_foldl_erase {targets : KeyedMap ReceiveLookupKey ReadResponseTarget}
    {entries : List (Sigma fun _ : RxMessageKey => RxMessageContext)}
    (h : ∀ e ∈ entries, e.2.key.lookupKey ≠ lookup) :
    (entries.foldl (fun targets e => targets.erase e.2.key.lookupKey) targets).lookup lookup =
      targets.lookup lookup := by
  induction entries generalizing targets with
  | nil => rfl
  | cons e entries ih =>
      rw [List.foldl_cons, ih fun e' he' => h e' (List.mem_cons_of_mem e he')]
      exact AList.lookup_erase_ne (h e List.mem_cons_self).symm

theorem ReadyForRead.prune (h : s.ReadyForRead lookup) :
    s.pruneReceiveState.ReadyForRead lookup := by
  constructor
  · intro key context hcontext
    unfold pruneReceiveState at hcontext
    dsimp only at hcontext
    rw [KeyedMap.lookup_filterMap, Option.bind_eq_some_iff] at hcontext
    obtain ⟨old, hold, hpruned⟩ := hcontext
    rw [(prune_keeps hpruned).1]
    exact h.idle key old hold
  · exact h.room.foldl_release _

/-- Pruning takes nothing away from a READ whose data has not arrived. -/
theorem ExpectsRead.prune (h : s.ExpectsRead lookup target) :
    s.pruneReceiveState.ExpectsRead lookup target := by
  refine ⟨h.toReadyForRead.prune, (lookup_foldl_erase fun e he => ?_).trans h.target⟩
  have hentry : e ∈ s.rxMessageContexts.entries :=
    (List.mem_filter.mp (List.mem_filter.mp he).1).1
  exact (h.idle e.1 e.2 (AList.mem_lookup_iff.mpr hentry)).2

/-- Registering the target of a READ makes its data expected. -/
theorem ReadyForRead.register (h : s.ReadyForRead lookup) (baseAddr length : ℕ) :
    (s.registerReadResponseTarget lookup baseAddr length).ExpectsRead lookup
      ⟨baseAddr, length⟩ :=
  ⟨⟨h.prune.idle, h.prune.room⟩, AList.lookup_insert _⟩

/-- Storing the only chunk of the data of a READ. -/
theorem memory_storeReadResponse (s : PdsManager) (key : RxMessageKey)
    {context : RxMessageContext} {tag : SoftUeMetadataTag} {packet : Packet}
    (haddr : context.targetBaseAddr ≠ 0) (hrange : context.targetBaseAddr < 2 ^ 64)
    (hlength : context.targetLength ≠ 0)
    (hwhole : packet.length = context.targetLength) (hoffset : tag.fragmentOffset = 0) :
    (s.storeReadResponse key context tag packet).1.memory =
      if context.chunkArrived = [] then s.memory
      else Reassembly.copyToMemory s.memory context.targetBaseAddr packet := by
  have hstored : (s.storeReadResponse key context tag packet).1.memory =
      (s.storeChunkInContext context tag packet).1.memory := by
    unfold storeReadResponse
    generalize s.storeChunkInContext context tag packet = stored
    change (stored.1.tryRetireCompletedContext key stored.2).1.memory = _
    unfold tryRetireCompletedContext completeSend retireContextResources
    split
    · cases stored.2.mode with
      | directExpected | readResponse => dsimp only; split <;> rfl
      | unexpectedBuffered => rfl
      | unexpectedMatched =>
          dsimp only
          split
          · split <;> rfl
          · rfl
    · rfl
  have hindex : context.chunkIndex tag = 0 := by
    rw [RxMessageContext.chunkIndex, hoffset, Nat.zero_div]
  rw [hstored]
  unfold storeChunkInContext
  rw [hindex]
  cases harrived : context.chunkArrived with
  | nil => rfl
  | cons bit bits =>
      have hpacket : packet ≠ [] := by
        intro hnil
        rw [hnil, List.length_nil] at hwhole
        exact hlength hwhole.symm
      have hfit : ¬ (context.targetBaseAddr = 0 ∨ context.targetLength ≤ 0) := by omega
      have hcopy : (s.copyPacketBytesToTarget packet context.targetBaseAddr 0
          context.targetLength).memory =
            Reassembly.copyToMemory s.memory context.targetBaseAddr packet := by
        unfold copyPacketBytesToTarget writeMemory
        rw [if_neg hfit, Nat.add_zero, toU64_of_lt hrange, Nat.sub_zero, ← hwhole,
          List.take_length, if_neg hpacket]
      dsimp only [List.getElem?_cons_zero]
      rw [if_pos ⟨haddr, hlength⟩, hoffset, hcopy, if_neg (by simp)]

/-- The memory after a packet with all data of a READ. -/
theorem memory_handleIncomingReadResponsePacket {pdcId : ℕ} {packet : TaggedPacket}
    (h : s.ExpectsRead
      (rxMessageKey .read packet.header packet.metadata pdcId).lookupKey target)
    (haddr : target.baseAddr ≠ 0) (hrange : target.baseAddr < 2 ^ 64)
    (hlength : target.length ≠ 0) (hwhole : packet.bytes.length = target.length)
    (hoffset : packet.metadata.fragmentOffset = 0) :
    (s.handleIncomingReadResponsePacket pdcId packet).1.memory =
      if s.computeExpectedChunks packet.metadata.modifiedLength = 0 then s.memory
      else Reassembly.copyToMemory s.memory target.baseAddr packet.bytes := by
  have hpruned := h.prune
  have hmemory : s.pruneReceiveState.memory = s.memory := rfl
  have hchunks : s.pruneReceiveState.computeExpectedChunks packet.metadata.modifiedLength =
      s.computeExpectedChunks packet.metadata.modifiedLength := rfl
  unfold handleIncomingReadResponsePacket
  rw [← hmemory, ← hchunks]
  generalize s.pruneReceiveState = t at hpruned ⊢
  generalize rxMessageKey .read packet.header packet.metadata pdcId = key at hpruned ⊢
  have hidle : t.rxMessageContexts.lookup key = none := by
    cases hcontext : t.rxMessageContexts.lookup key with
    | none => rfl
    | some context => exact absurd rfl (hpruned.idle key context hcontext).1
  have htrack := Nat.not_le.mpr hpruned.room.readTrack
  have hblock := Nat.not_le.mpr hpruned.room.arrivalBlock
  unfold receiveReadResponse
  simp only [hpruned.target, hidle, Option.filter_none, admitReadResponse, htrack, if_false,
    RudReceiveResourcePool.reserveArrivalBlock, RudReceiveResourcePool.lacksArrivalBlock,
    hblock, freshReadContext, freshContext, decide_false, Bool.false_eq_true, if_true]
  rw [memory_storeReadResponse _ _ haddr hrange hlength hwhole hoffset]
  simp only [List.replicate_eq_nil_iff]

end PdsManager
end UeSim
