import UeSim.Pds.Steps

/-!
# Gathering the chunks of a message

A sender cuts the payload of a SEND at multiples of the payload size of a
packet, and a receive context gathers the chunks.  It keeps account of the
chunks that have arrived, and it has their bytes in the buffer of an unexpected
message or in the target of a posted receive.
-/

namespace UeSim

open Reassembly

/-- A packet that carries chunk `k` of a payload, cut at multiples of `mtu`. -/
structure IsChunk (payload : Packet) (mtu k : ℕ) (tag : SoftUeMetadataTag)
    (packet : Packet) : Prop where
  requestLength : tag.requestLength = payload.length
  fragmentOffset : tag.fragmentOffset = k * mtu
  bytes : packet = slice payload (k * mtu) mtu

namespace RxMessageContext

variable {context : RxMessageContext} {payload packet : Packet} {mtu k : ℕ} {A A' : ℕ → Prop}
  {tag : SoftUeMetadataTag}

/-! ## The account of the chunks -/

/-- The context has recorded the chunks `A` of the payload, and no others. -/
structure Records (context : RxMessageContext) (payload : Packet) (mtu : ℕ)
    (A : ℕ → Prop) : Prop where
  totalLength : context.totalLength = payload.length
  payloadPerPacket : context.payloadPerPacket = mtu
  length : context.chunkArrived.length = context.expectedChunks
  arrived : ∀ j, j < context.expectedChunks → (context.chunkArrived[j]? = some true ↔ A j)
  chunksDone : context.chunksDone = context.chunkArrived.count true
  bufferedComplete : context.bufferedComplete = true ↔
    0 < context.expectedChunks ∧ ∀ j, j < context.expectedChunks → A j

/-- The record of a context depends on the chunks that it can have only. -/
theorem Records.congr (h : context.Records payload mtu A)
    (hA : ∀ j, j < context.expectedChunks → (A j ↔ A' j)) :
    context.Records payload mtu A' := by
  refine ⟨h.totalLength, h.payloadPerPacket, h.length, ?_, h.chunksDone, ?_⟩
  · intro j hj
    rw [h.arrived j hj]
    exact hA j hj
  · rw [h.bufferedComplete]
    refine and_congr_right fun _ => forall₂_congr ?_
    intro j hj
    exact hA j hj

theorem chunkIndex_of_isChunk (hchunk : IsChunk payload mtu k tag packet) (hmtu : 0 < mtu)
    (hsize : context.payloadPerPacket = mtu) : context.chunkIndex tag = k := by
  have hmax : max 1 mtu = mtu := Nat.max_eq_right hmtu
  rw [chunkIndex, hsize, hmax, hchunk.fragmentOffset, Nat.mul_div_cancel _ hmtu]

/-- The slot of a chunk, if the context expects it. -/
theorem Records.slot (h : context.Records payload mtu A) (hk : k < context.expectedChunks) :
    ∃ arrived, context.chunkArrived[k]? = some arrived :=
  ⟨_, List.getElem?_eq_getElem (h.length ▸ hk)⟩

/-- A stored chunk is recorded. -/
theorem Records.chunkStored (h : context.Records payload mtu A) (hmtu : 0 < mtu)
    (hchunk : IsChunk payload mtu k tag packet) (nowMs : ℕ) {arrived : Bool}
    (hslot : context.chunkArrived[k]? = some arrived) :
    (PdsManager.chunkStored context nowMs tag packet arrived).Records payload mtu
      fun j => A j ∨ j = k := by
  have hindex : context.chunkIndex tag = k :=
    chunkIndex_of_isChunk hchunk hmtu h.payloadPerPacket
  obtain ⟨hk, harrived⟩ := List.getElem?_eq_some_iff.mp hslot
  have hrecorded : ∀ j, j < context.expectedChunks →
      ((context.chunkArrived.set k true)[j]? = some true ↔ A j ∨ j = k) := by
    intro j hj
    by_cases hjk : k = j
    · subst hjk
      simp [List.getElem?_set_self hk]
    · rw [List.getElem?_set_ne hjk, h.arrived j hj]
      exact (or_iff_left fun heq => hjk heq.symm).symm
  have hlength : (context.chunkArrived.set k true).length = context.expectedChunks := by
    rw [List.length_set, h.length]
  have hdone : context.chunksDone + (if arrived then 0 else 1) =
      (context.chunkArrived.set k true).count true := by
    rw [count_set_true hk, h.chunksDone, harrived]
  refine ⟨h.totalLength, h.payloadPerPacket, ?_, ?_, ?_, ?_⟩
  · simpa only [PdsManager.chunkStored, hindex] using hlength
  · simpa only [PdsManager.chunkStored, hindex] using hrecorded
  · simpa only [PdsManager.chunkStored, hindex] using hdone
  · have hall : context.expectedChunks ≤ context.chunksDone + (if arrived then 0 else 1) ↔
        ∀ j, j < context.expectedChunks → A j ∨ j = k := by
      rw [hdone, ← hlength, length_le_count_iff, hlength]
      exact forall₂_congr hrecorded
    have hpos : 0 < context.expectedChunks := h.length ▸ Nat.lt_of_le_of_lt (Nat.zero_le k) hk
    simp only [PdsManager.chunkStored, decide_eq_true_eq]
    rw [hall]
    exact (and_iff_right hpos).symm

/-! ## The bytes in the buffer -/

/-- The buffer of the context holds the bytes of the chunks `A`. -/
def Buffers (context : RxMessageContext) (payload : Packet) (mtu : ℕ) (A : ℕ → Prop) : Prop :=
  BufferHolds context.payloadBuffer payload fun i => A (i / mtu)

theorem Buffers.chunkStored (h : context.Buffers payload mtu A) (hmtu : 0 < mtu)
    (hchunk : IsChunk payload mtu k tag packet)
    (htotal : context.totalLength = payload.length) (nowMs : ℕ) (arrived : Bool) :
    (PdsManager.chunkStored context nowMs tag packet arrived).Buffers payload mtu
      fun j => A j ∨ j = k := by
  have hpad : context.payloadBuffer ++
      List.replicate (context.totalLength - context.payloadBuffer.length) 0 =
        context.payloadBuffer := by
    rw [htotal, h.length, Nat.sub_self, List.replicate_zero, List.append_nil]
  unfold Buffers PdsManager.chunkStored
  dsimp only
  rw [hpad, hchunk.fragmentOffset, hchunk.bytes]
  refine BufferHolds.copy_slice h (k * mtu) mtu ?_
  intro i hi
  exact hi.imp id (mem_chunk_iff hmtu).mp

end RxMessageContext

namespace PdsManager

variable {s : PdsManager} {context : RxMessageContext} {payload packet : Packet}
  {mtu k base length : ℕ} {A : ℕ → Prop} {tag : SoftUeMetadataTag}

/-! ## The bytes in the target -/

/-- The memory has the bytes of the chunks `A`, up to the end of the target. -/
def Fills (s : PdsManager) (base length : ℕ) (payload : Packet) (mtu : ℕ)
    (A : ℕ → Prop) : Prop :=
  MemoryHolds s.memory base payload fun i => A (i / mtu) ∧ i < length

theorem memory_writeMemory (s : PdsManager) (addr : ℕ) (bytes : List UInt8) :
    (s.writeMemory addr bytes).memory = copyToMemory s.memory addr bytes := by
  unfold writeMemory
  split
  · rename_i hnil
    funext a
    simp [hnil, copyToMemory]
  · rfl

/-- A copy of a chunk to its place in the target makes its bytes right and
keeps the others; `Q` may ask for what the copy reaches. -/
theorem memoryHolds_copyPacketBytesToTarget {P Q : ℕ → Prop} {maxLength : ℕ}
    (h : MemoryHolds s.memory base payload P) (hbase : base ≠ 0)
    (hrange : base + maxLength ≤ 2 ^ 64)
    (hQ : ∀ i, Q i → P i ∨ (k * mtu ≤ i ∧ i < k * mtu + mtu) ∧ i < maxLength) :
    MemoryHolds (s.copyPacketBytesToTarget (slice payload (k * mtu) mtu) base (k * mtu)
      maxLength).memory base payload Q := by
  unfold copyPacketBytesToTarget
  split
  · refine h.mono fun i hi => (hQ i hi).resolve_right ?_
    omega
  · have haddr : toU64 (base + k * mtu) = base + k * mtu := toU64_of_lt (by omega)
    have hslice : (slice payload (k * mtu) mtu).take (maxLength - k * mtu) =
        slice payload (k * mtu) (min (maxLength - k * mtu) mtu) := by
      rw [slice, slice, List.take_take]
    rw [memory_writeMemory, haddr, hslice]
    refine h.copy_slice _ _ fun i hi => (hQ i hi).imp id ?_
    omega

/-- An address range that can be the target of a posted receive. -/
structure IsTarget (base length : ℕ) : Prop where
  nonzero : base ≠ 0
  inMemory : base < 2 ^ 64
  fits : base + length ≤ 2 ^ 64

/-- The target of a context, which has the bytes of the chunks `A`. -/
structure AimedAt (s : PdsManager) (context : RxMessageContext) (base length : ℕ)
    (payload : Packet) (mtu : ℕ) (A : ℕ → Prop) : Prop where
  mode : context.mode = .directExpected ∨
    context.mode = .unexpectedMatched ∧ context.matchedToRecv = true
  targetBaseAddr : context.targetBaseAddr = base
  targetLength : context.targetLength = length
  fills : s.Fills base length payload mtu A

/-! ## Storing a chunk -/

/-- The slot of a chunk decides what a context becomes. -/
theorem storeChunkInContext_of_slot (hmtu : 0 < mtu)
    (hsize : context.payloadPerPacket = mtu) (hchunk : IsChunk payload mtu k tag packet)
    {arrived : Bool} (hslot : context.chunkArrived[k]? = some arrived) :
    (s.storeChunkInContext context tag packet).2 =
      chunkStored context s.nowMs tag packet arrived := by
  unfold storeChunkInContext
  rw [RxMessageContext.chunkIndex_of_isChunk hchunk hmtu hsize, hslot]

/-- A message without a target only changes its context. -/
theorem storeSend_unmatched {key : RxMessageKey} (hmode : context.mode = .unexpectedBuffered)
    (htarget : context.targetBaseAddr = 0)
    (hposted : s.postedReceive context.key.lookupKey = none) :
    s.storeSend key context tag packet = (s, (s.storeChunkInContext context tag packet).2) := by
  have hsame : (s.storeChunkInContext context tag packet).1 = s := by
    unfold storeChunkInContext
    cases context.chunkArrived[context.chunkIndex tag]? with
    | none => rfl
    | some arrived => simp [htarget]
  have hkey : (s.storeChunkInContext context tag packet).2.key = context.key := by
    unfold storeChunkInContext
    cases context.chunkArrived[context.chunkIndex tag]? <;> rfl
  have hbuffered : (s.storeChunkInContext context tag packet).2.mode = .unexpectedBuffered :=
    (storeChunkInContext_mode s context tag packet).1.trans hmode
  have hpromote : s.tryPromoteUnexpectedToMatched (s.storeChunkInContext context tag packet).2 =
      (s, (s.storeChunkInContext context tag packet).2) := by
    rw [tryPromoteUnexpectedToMatched, if_pos hbuffered, hkey, hposted]
  unfold storeSend
  rw [if_neg (by rw [hmode]; simp)]
  dsimp only
  rw [hsame, hpromote]
  unfold tryRetireCompletedContext
  rw [hbuffered]
  exact ite_self _

/-- A chunk of a message with a target is copied to its place there. -/
theorem AimedAt.fills_storeChunkInContext (h : s.AimedAt context base length payload mtu A)
    (htarget : IsTarget base length) (hmtu : 0 < mtu)
    (hsize : context.payloadPerPacket = mtu) (hchunk : IsChunk payload mtu k tag packet)
    {arrived : Bool} (hslot : context.chunkArrived[k]? = some arrived) :
    (s.storeChunkInContext context tag packet).1.Fills base length payload mtu
      fun j => A j ∨ j = k := by
  have hreach : ∀ i, (A (i / mtu) ∨ i / mtu = k) ∧ i < length →
      (A (i / mtu) ∧ i < length) ∨ (k * mtu ≤ i ∧ i < k * mtu + mtu) ∧ i < length := by
    rintro i ⟨hold | hnew, hi⟩
    · exact .inl ⟨hold, hi⟩
    · exact .inr ⟨(mem_chunk_iff hmtu).mp hnew, hi⟩
  unfold storeChunkInContext
  rw [RxMessageContext.chunkIndex_of_isChunk hchunk hmtu hsize, hslot]
  dsimp only
  rw [h.targetBaseAddr, h.targetLength, hchunk.fragmentOffset, hchunk.bytes]
  by_cases hempty : length = 0
  · rw [if_neg (by simp [hempty])]
    intro i b hi
    exact absurd hi.2 (by omega)
  · rw [if_pos ⟨htarget.nonzero, hempty⟩]
    exact memoryHolds_copyPacketBytesToTarget h.fills htarget.nonzero htarget.fits hreach

/-- The first copy of a chunk of a posted receive keeps what the target has. -/
theorem AimedAt.fills_copyPacketBytesToTarget
    (h : s.AimedAt context base length payload mtu A) (htarget : IsTarget base length)
    (hchunk : IsChunk payload mtu k tag packet) :
    (s.copyPacketBytesToTarget packet context.targetBaseAddr tag.fragmentOffset
      (max 1 context.targetLength)).Fills base length payload mtu A := by
  have hinside : base + max 1 length ≤ 2 ^ 64 := by
    have hbase := htarget.inMemory
    have hfits := htarget.fits
    omega
  rw [h.targetBaseAddr, h.targetLength, hchunk.fragmentOffset, hchunk.bytes]
  exact memoryHolds_copyPacketBytesToTarget h.fills htarget.nonzero hinside fun _ => Or.inl

/-- A chunk of a message with a target is stored, and the message is retired
when it is complete. -/
theorem AimedAt.storeSend (h : s.AimedAt context base length payload mtu A)
    (key : RxMessageKey) (htarget : IsTarget base length) (hmtu : 0 < mtu)
    (hsize : context.payloadPerPacket = mtu) (hchunk : IsChunk payload mtu k tag packet)
    {arrived : Bool} (hslot : context.chunkArrived[k]? = some arrived) :
    ∃ memory memoryWrites,
      let stored := { s with memory := memory, memoryWrites := memoryWrites }
      let context' := chunkStored context s.nowMs tag packet arrived
      stored.AimedAt context' base length payload mtu (fun j => A j ∨ j = k) ∧
        s.storeSend key context tag packet = stored.tryRetireCompletedContext key context' := by
  have hmode : context.mode ≠ .unexpectedBuffered := by
    rcases h.mode with hdirect | ⟨hmatched, -⟩
    · rw [hdirect]
      simp
    · rw [hmatched]
      simp
  obtain ⟨direct, hdirect, hfilled, hnow⟩ : ∃ direct : PdsManager,
      (if context.mode = .directExpected then
        s.copyPacketBytesToTarget packet context.targetBaseAddr tag.fragmentOffset
          (max 1 context.targetLength)
      else s) = direct ∧ direct.Fills base length payload mtu A ∧
        ∃ memory memoryWrites, direct =
          { s with memory := memory, memoryWrites := memoryWrites } := by
    refine ⟨_, rfl, ?_, ?_⟩
    · split
      · exact h.fills_copyPacketBytesToTarget htarget hchunk
      · exact h.fills
    · split
      · exact copyPacketBytesToTarget_eq s packet _ _ _
      · exact ⟨s.memory, s.memoryWrites, rfl⟩
  obtain ⟨memory, memoryWrites, rfl⟩ := hnow
  have haimed : AimedAt { s with memory := memory, memoryWrites := memoryWrites } context base
      length payload mtu A := ⟨h.mode, h.targetBaseAddr, h.targetLength, hfilled⟩
  have hfills := haimed.fills_storeChunkInContext htarget hmtu hsize hchunk hslot
  have hcontext := storeChunkInContext_of_slot
    (s := { s with memory := memory, memoryWrites := memoryWrites }) hmtu hsize hchunk hslot
  obtain ⟨memory', memoryWrites', hstored⟩ := storeChunkInContext_eq
    { s with memory := memory, memoryWrites := memoryWrites } context tag packet
  rw [hstored] at hfills
  have hkept : (chunkStored context s.nowMs tag packet arrived).mode ≠ .unexpectedBuffered := hmode
  refine ⟨memory', memoryWrites', ⟨h.mode, h.targetBaseAddr, h.targetLength, hfills⟩, ?_⟩
  unfold PdsManager.storeSend
  rw [hdirect]
  dsimp only
  rw [hstored, hcontext]
  exact congrArg (fun promoted : PdsManager × RxMessageContext =>
    promoted.1.tryRetireCompletedContext key promoted.2)
      (tryPromoteUnexpectedToMatched_of_mode hkept)

/-- The promotion of a buffered message copies what it has to the target. -/
theorem tryPromoteUnexpectedToMatched_of_posted {posted : PostedReceiveBinding}
    (hmode : context.mode = .unexpectedBuffered)
    (hposted : s.postedReceive context.key.lookupKey = some posted)
    (hbuffers : context.Buffers payload mtu A) :
    ∃ memory memoryWrites,
      MemoryHolds memory posted.baseAddr payload (fun i => A (i / mtu) ∧ i < posted.length) ∧
      s.tryPromoteUnexpectedToMatched context =
        ({ s with
            memory := memory
            memoryWrites := memoryWrites
            postedReceives := s.postedReceives.insert context.key.lookupKey
              { posted with consumed := context.bufferedComplete } },
          { context with
            targetBaseAddr := posted.baseAddr
            targetLength := posted.length
            matchedToRecv := true
            mode := .unexpectedMatched }) := by
  obtain ⟨memory, memoryWrites, hwrite⟩ := writeMemory_eq s posted.baseAddr
    (context.payloadBuffer.take posted.length)
  have hmemory : memory =
      copyToMemory s.memory posted.baseAddr (context.payloadBuffer.take posted.length) := by
    rw [← memory_writeMemory, hwrite]
  refine ⟨memory, memoryWrites, ?_, ?_⟩
  · rw [hmemory]
    exact BufferHolds.memoryHolds_take hbuffers s.memory posted.baseAddr posted.length
  · unfold tryPromoteUnexpectedToMatched
    rw [if_pos hmode, hposted]
    dsimp only
    rw [hwrite]

end PdsManager
end UeSim
