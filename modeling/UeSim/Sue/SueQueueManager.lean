import UeSim.Sue.Frames
import UeSim.Support.KeyedMap
import UeSim.Support.WeightedList

/-!
# The queues of the virtual channels

`SueQueueManager` has a drop-tail queue for each virtual channel, bounded in bytes, and a
count of the bytes that are reserved in it.  A reservation is for a packet and the headers
that it will get; the one who made it releases it later with the same amount.
-/

namespace UeSim

/-- What waits in a queue has a size, `GetSize`. -/
class QueueItem (α : Type) where
  getSize : α → ℕ

instance : QueueItem SuePacket where
  getSize := SuePacket.wireSize

export QueueItem (getSize)

/-! ## A queue -/

/-- `DropTailQueue`, with a bound in bytes. -/
structure DropTailQueue (α : Type) where
  maxSize : ℕ
  packets : List α := []

namespace DropTailQueue

variable {α : Type} [QueueItem α]

/-- The bytes in a queue. -/
def bytes (q : DropTailQueue α) : ℕ :=
  WeightedList.weight getSize q.packets

/-- `GetNBytes`, a 32-bit count. -/
def nBytes (q : DropTailQueue α) : ℕ := toU32 q.bytes

/-- Whether `DoEnqueue` takes an item. -/
def accepts (q : DropTailQueue α) (item : α) : Bool :=
  toU32 (q.nBytes + getSize item) ≤ q.maxSize

/-- `Enqueue`, with its result. -/
def enqueue (q : DropTailQueue α) (item : α) : Bool × DropTailQueue α :=
  if q.accepts item then (true, { q with packets := q.packets ++ [item] }) else (false, q)

/-- `Dequeue`, with its result. -/
def dequeue (q : DropTailQueue α) : Option α × DropTailQueue α :=
  (q.packets.head?, { q with packets := q.packets.tail })

end DropTailQueue

/-! ## The queues of a device -/

/-- `SueQueueManager`. -/
structure SueQueueManager (α : Type) where
  initialized : Bool := false
  numVcs : UInt8 := 4
  vcQueueMaxBytes : ℕ := 1048576
  additionalHeaderSize : ℕ := 0
  vcQueues : KeyedMap UInt8 (DropTailQueue α) := ∅
  vcReservedCapacity : KeyedMap UInt8 ℕ := ∅

namespace SueQueueManager

variable {α : Type}

/-- The loop of `Initialize`, for one virtual channel. -/
def openQueue (m : SueQueueManager α) (vcId : UInt8) : SueQueueManager α :=
  { m with
    vcQueues := m.vcQueues.insert vcId { maxSize := m.vcQueueMaxBytes }
    vcReservedCapacity := m.vcReservedCapacity.insert vcId 0 }

/-- `SueQueueManager::Initialize`. -/
def initializeQueues (m : SueQueueManager α) (numVcs : UInt8)
    (vcQueueMaxBytes additionalHeaderSize : ℕ) : SueQueueManager α :=
  if m.initialized then
    m
  else
    (vcIds numVcs).foldl openQueue
      { initialized := true
        numVcs := numVcs
        vcQueueMaxBytes := vcQueueMaxBytes
        additionalHeaderSize := additionalHeaderSize }

/-- The count of a virtual channel in `m_vcReservedCapacity`, 0 if there is none. -/
def reservedCapacity (m : SueQueueManager α) (vcId : UInt8) : ℕ :=
  (m.vcReservedCapacity.lookup vcId).getD 0

/-- The packets in the queue of a virtual channel. -/
def vcPackets (m : SueQueueManager α) (vcId : UInt8) : List α :=
  (m.vcQueues.lookup vcId).elim [] DropTailQueue.packets

/-- Write the count of what is reserved. -/
def setReserved (m : SueQueueManager α) (vcId : UInt8) (reserved : ℕ) : SueQueueManager α :=
  { m with vcReservedCapacity := m.vcReservedCapacity.insert vcId reserved }

/-- Write the packets of a queue. -/
def setPackets (m : SueQueueManager α) (vcId : UInt8) (packets : List α) :
    SueQueueManager α :=
  { m with vcQueues := m.vcQueues.insert vcId ⟨m.vcQueueMaxBytes, packets⟩ }

/-- What a reservation of an amount counts for. -/
def reservationSize (m : SueQueueManager α) (amount : ℕ) : ℕ :=
  toU32 (amount + m.additionalHeaderSize)

/-- `SueQueueManager::ReleaseVcCapacity`: never more is released than is reserved. -/
def releaseVcCapacity (m : SueQueueManager α) (vcId : UInt8) (amount : ℕ) :
    SueQueueManager α :=
  if vcId < m.numVcs then
    { m with
      vcReservedCapacity := KeyedMap.modify m.vcReservedCapacity vcId fun reserved =>
        reserved - m.reservationSize amount }
  else m

/-- `SueQueueManager::DequeueFromVcQueue`. -/
def dequeueFromVcQueue (m : SueQueueManager α) (vcId : UInt8) :
    Option α × SueQueueManager α :=
  ((m.vcPackets vcId).head?,
    { m with vcQueues := KeyedMap.modify m.vcQueues vcId fun q => q.dequeue.2 })

/-- `SueQueueManager::IsVcQueueEmpty`. -/
def isVcQueueEmpty (m : SueQueueManager α) (vcId : UInt8) : Bool :=
  (m.vcPackets vcId).isEmpty

variable [QueueItem α]

/-- `SueQueueManager::GetVcAvailableCapacity`, which is 0 when the 32-bit sum of what is
queued and what is reserved reaches the bound. -/
def getVcAvailableCapacity (m : SueQueueManager α) (vcId : UInt8) : ℕ :=
  if vcId < m.numVcs then
    match m.vcQueues.lookup vcId with
    | none => m.vcQueueMaxBytes
    | some q => m.vcQueueMaxBytes - toU32 (q.nBytes + m.reservedCapacity vcId)
  else 0

/-- Whether `ReserveVcCapacity` finds enough capacity. -/
def grants (m : SueQueueManager α) (vcId : UInt8) (amount : ℕ) : Bool :=
  vcId < m.numVcs && m.reservationSize amount ≤ m.getVcAvailableCapacity vcId

/-- `SueQueueManager::ReserveVcCapacity`, with its result. -/
def reserveVcCapacity (m : SueQueueManager α) (vcId : UInt8) (amount : ℕ) :
    Bool × SueQueueManager α :=
  if m.grants vcId amount then
    (true, m.setReserved vcId (toU32 (m.reservedCapacity vcId + m.reservationSize amount)))
  else
    (false, m)

/-- `SueQueueManager::EnqueueToVcQueue`, with its result. -/
def enqueueToVcQueue (m : SueQueueManager α) (packet : α) (vcId : UInt8) :
    Bool × SueQueueManager α :=
  match m.vcQueues.lookup vcId with
  | none => (false, m)
  | some q => (m.initialized && q.accepts packet,
      if m.initialized then
        { m with vcQueues := m.vcQueues.insert vcId (q.enqueue packet).2 }
      else m)

/-- `SueQueueManager::GetFirstPacketSize`. -/
def getFirstPacketSize (m : SueQueueManager α) (vcId : UInt8) : ℕ :=
  (m.vcPackets vcId).head?.elim 0 getSize

/-! ## What an operation does to a queue -/

variable {m : SueQueueManager α} {vcId vcId' : UInt8} {packet : α}

/-- A virtual channel of an initialised manager has a queue with the bound of the
manager, and a count of what is reserved. -/
structure Open (m : SueQueueManager α) (vcId : UInt8) : Prop where
  initialized : m.initialized = true
  lt_numVcs : vcId < m.numVcs
  queue : m.vcQueues.lookup vcId = some ⟨m.vcQueueMaxBytes, m.vcPackets vcId⟩
  reserved : m.vcReservedCapacity.lookup vcId = some (m.reservedCapacity vcId)

omit [QueueItem α] in
theorem lookup_openQueues (vcs : List UInt8) (m : SueQueueManager α) (vcId : UInt8) :
    (vcs.foldl openQueue m).vcQueues.lookup vcId =
        (if vcId ∈ vcs then some ⟨m.vcQueueMaxBytes, []⟩ else m.vcQueues.lookup vcId) ∧
      (vcs.foldl openQueue m).vcReservedCapacity.lookup vcId =
        (if vcId ∈ vcs then some 0 else m.vcReservedCapacity.lookup vcId) := by
  induction vcs generalizing m with
  | nil => exact ⟨rfl, rfl⟩
  | cons first vcs ih =>
      rw [List.foldl_cons]
      obtain ⟨hqueue, hreserved⟩ := ih (m.openQueue first)
      rw [hqueue, hreserved]
      unfold openQueue
      by_cases hfirst : vcId = first
      · subst hfirst
        simp
      · simp [hfirst]

omit [QueueItem α] in
theorem settings_openQueues (vcs : List UInt8) (m : SueQueueManager α) :
    (vcs.foldl openQueue m).initialized = m.initialized ∧
      (vcs.foldl openQueue m).numVcs = m.numVcs ∧
      (vcs.foldl openQueue m).vcQueueMaxBytes = m.vcQueueMaxBytes ∧
      (vcs.foldl openQueue m).additionalHeaderSize = m.additionalHeaderSize := by
  induction vcs generalizing m with
  | nil => exact ⟨rfl, rfl, rfl, rfl⟩
  | cons first vcs ih => exact ih (m.openQueue first)

omit [QueueItem α] in
theorem settings_initializeQueues (α : Type) [QueueItem α] (numVcs : UInt8)
    (maxBytes headerSize : ℕ) :
    let m := initializeQueues ({} : SueQueueManager α) numVcs maxBytes headerSize
    m.initialized = true ∧ m.numVcs = numVcs ∧ m.vcQueueMaxBytes = maxBytes ∧
      m.additionalHeaderSize = headerSize :=
  settings_openQueues (vcIds numVcs) _

omit [QueueItem α] in
/-- `Initialize` opens every virtual channel, with nothing in it. -/
theorem open_initializeQueues {numVcs : UInt8} {maxBytes headerSize : ℕ}
    (hvc : vcId < numVcs) :
    let m := initializeQueues ({} : SueQueueManager α) numVcs maxBytes headerSize
    m.Open vcId ∧ m.vcPackets vcId = [] ∧ m.reservedCapacity vcId = 0 := by
  intro m
  let fresh : SueQueueManager α :=
    { initialized := true
      numVcs := numVcs
      vcQueueMaxBytes := maxBytes
      additionalHeaderSize := headerSize }
  have hm : m = (vcIds numVcs).foldl openQueue fresh := rfl
  obtain ⟨hinitialized, hnumVcs, hmax, -⟩ := settings_openQueues (vcIds numVcs) fresh
  obtain ⟨hqueue, hreserved⟩ := lookup_openQueues (vcIds numVcs) fresh vcId
  rw [if_pos (mem_vcIds.mpr hvc)] at hqueue hreserved
  have hpackets : m.vcPackets vcId = [] := by
    unfold vcPackets
    rw [hm, hqueue]
    rfl
  have hcount : m.reservedCapacity vcId = 0 := by
    unfold reservedCapacity
    rw [hm, hreserved]
    rfl
  refine ⟨⟨hm ▸ hinitialized, ?_, ?_, ?_⟩, hpackets, hcount⟩
  · rw [hm, hnumVcs]
    exact hvc
  · rw [hpackets, hm, hqueue, hmax]
  · rw [hcount, hm, hreserved]

section Writes

omit [QueueItem α]

theorem reservedCapacity_setReserved (reserved : ℕ) :
    (m.setReserved vcId reserved).reservedCapacity vcId' =
      if vcId' = vcId then reserved else m.reservedCapacity vcId' := by
  unfold reservedCapacity setReserved
  dsimp only
  split_ifs with hvc
  · rw [hvc, AList.lookup_insert]
    rfl
  · rw [AList.lookup_insert_ne hvc]

theorem vcPackets_setPackets (packets : List α) :
    (m.setPackets vcId packets).vcPackets vcId' =
      if vcId' = vcId then packets else m.vcPackets vcId' := by
  unfold vcPackets setPackets
  dsimp only
  split_ifs with hvc
  · rw [hvc, AList.lookup_insert]
    rfl
  · rw [AList.lookup_insert_ne hvc]

theorem Open.setReserved (h : m.Open vcId') (reserved : ℕ) :
    (m.setReserved vcId reserved).Open vcId' := by
  refine ⟨h.initialized, h.lt_numVcs, h.queue, ?_⟩
  rw [reservedCapacity_setReserved]
  unfold SueQueueManager.setReserved
  dsimp only
  split_ifs with hvc
  · rw [hvc, AList.lookup_insert]
  · rw [AList.lookup_insert_ne hvc]
    exact h.reserved

theorem Open.setPackets (h : m.Open vcId') (packets : List α) :
    (m.setPackets vcId packets).Open vcId' := by
  refine ⟨h.initialized, h.lt_numVcs, ?_, h.reserved⟩
  rw [vcPackets_setPackets]
  unfold SueQueueManager.setPackets
  dsimp only
  split_ifs with hvc
  · rw [hvc, AList.lookup_insert]
  · rw [AList.lookup_insert_ne hvc]
    exact h.queue

/-- A release takes the amount of a reservation off the count. -/
theorem Open.releaseVcCapacity (h : m.Open vcId) (amount : ℕ) :
    m.releaseVcCapacity vcId amount =
      m.setReserved vcId (m.reservedCapacity vcId - m.reservationSize amount) := by
  unfold SueQueueManager.releaseVcCapacity SueQueueManager.setReserved
  rw [if_pos h.lt_numVcs, KeyedMap.modify_of_some h.reserved]

/-- The first packet leaves a queue. -/
theorem Open.dequeueFromVcQueue (h : m.Open vcId) :
    m.dequeueFromVcQueue vcId =
      ((m.vcPackets vcId).head?, m.setPackets vcId (m.vcPackets vcId).tail) := by
  unfold SueQueueManager.dequeueFromVcQueue SueQueueManager.setPackets
  rw [KeyedMap.modify_of_some h.queue]
  rfl

theorem Open.dequeue (h : m.Open vcId') (vcId : UInt8) :
    (m.dequeueFromVcQueue vcId).2.Open vcId' ∧
      (m.dequeueFromVcQueue vcId).2.vcPackets vcId' =
        if vcId' = vcId then (m.vcPackets vcId').tail else m.vcPackets vcId' := by
  by_cases hvc : vcId' = vcId
  · subst hvc
    rw [h.dequeueFromVcQueue, if_pos rfl]
    refine ⟨h.setPackets _, ?_⟩
    rw [vcPackets_setPackets, if_pos rfl]
  · have hlookup : (m.dequeueFromVcQueue vcId).2.vcQueues.lookup vcId' =
        m.vcQueues.lookup vcId' := KeyedMap.lookup_modify_ne hvc
    have hpackets : (m.dequeueFromVcQueue vcId).2.vcPackets vcId' = m.vcPackets vcId' := by
      unfold vcPackets
      rw [hlookup]
    rw [if_neg hvc]
    refine ⟨⟨h.initialized, h.lt_numVcs, ?_, h.reserved⟩, hpackets⟩
    rw [hlookup, hpackets]
    exact h.queue

end Writes

/-- Whether the queue of a virtual channel takes a packet. -/
def takes (m : SueQueueManager α) (vcId : UInt8) (packet : α) : Bool :=
  DropTailQueue.accepts ⟨m.vcQueueMaxBytes, m.vcPackets vcId⟩ packet

/-- A packet joins a queue that takes it. -/
theorem Open.enqueueToVcQueue (h : m.Open vcId) (packet : α) :
    m.enqueueToVcQueue packet vcId = (m.takes vcId packet, m.setPackets vcId
      (if m.takes vcId packet then m.vcPackets vcId ++ [packet] else m.vcPackets vcId)) := by
  unfold SueQueueManager.enqueueToVcQueue DropTailQueue.enqueue takes SueQueueManager.setPackets
  rw [h.queue]
  dsimp only
  rw [h.initialized, Bool.true_and, if_pos rfl]
  split_ifs <;> rfl

/-- The capacity that is left in a queue. -/
theorem Open.getVcAvailableCapacity (h : m.Open vcId) :
    m.getVcAvailableCapacity vcId = m.vcQueueMaxBytes -
      toU32 (toU32 (WeightedList.weight getSize (m.vcPackets vcId)) +
        m.reservedCapacity vcId) := by
  unfold SueQueueManager.getVcAvailableCapacity
  rw [if_pos h.lt_numVcs, h.queue]
  rfl

/-! ## Queues that need not be there -/

/-- A packet joins at most one queue, and only one that is there. -/
theorem enqueueToVcQueue_cases (m : SueQueueManager α) (packet : α) (vcId : UInt8) :
    (m.enqueueToVcQueue packet vcId).2 = m ∨
      ∃ q packets, m.vcQueues.lookup vcId = some q ∧ (m.enqueueToVcQueue packet vcId).2 =
        { m with vcQueues := m.vcQueues.insert vcId ⟨q.maxSize, packets⟩ } := by
  unfold enqueueToVcQueue
  cases hqueue : m.vcQueues.lookup vcId with
  | none => exact .inl rfl
  | some q =>
      dsimp only
      split_ifs
      · exact .inr ⟨q, (q.enqueue packet).2.packets, rfl, by
          unfold DropTailQueue.enqueue
          split_ifs <;> rfl⟩
      · exact .inl rfl

omit [QueueItem α] in
theorem vcPackets_dequeueFromVcQueue :
    (m.dequeueFromVcQueue vcId).2.vcPackets vcId' =
      if vcId' = vcId then (m.vcPackets vcId').tail else m.vcPackets vcId' := by
  unfold dequeueFromVcQueue vcPackets
  dsimp only
  split_ifs with hvc
  · subst hvc
    rw [KeyedMap.lookup_modify_self]
    cases m.vcQueues.lookup vcId' <;> rfl
  · rw [KeyedMap.lookup_modify_ne hvc]

/-- The manager has queues for no more than its virtual channels. -/
def QueuesWithin (m : SueQueueManager α) (numVcs : UInt8) : Prop :=
  ∀ vcId q, m.vcQueues.lookup vcId = some q → vcId < numVcs

omit [QueueItem α] in
theorem QueuesWithin.lt_of_mem {numVcs : UInt8} (h : m.QueuesWithin numVcs)
    (hne : m.vcPackets vcId ≠ []) : vcId < numVcs := by
  unfold vcPackets at hne
  cases hqueue : m.vcQueues.lookup vcId with
  | none => exact absurd (by rw [hqueue]; rfl) hne
  | some q => exact h vcId q hqueue

theorem QueuesWithin.enqueue {numVcs : UInt8} (h : m.QueuesWithin numVcs) (packet : α)
    (vcId : UInt8) : (m.enqueueToVcQueue packet vcId).2.QueuesWithin numVcs := by
  rcases enqueueToVcQueue_cases m packet vcId with hsame | ⟨q, packets, hqueue, hjoin⟩
  · rw [hsame]
    exact h
  · intro v q' hv
    rw [hjoin] at hv
    by_cases hvc : v = vcId
    · exact hvc ▸ h vcId q hqueue
    · rw [AList.lookup_insert_ne hvc] at hv
      exact h v q' hv

omit [QueueItem α] in
theorem QueuesWithin.dequeue {numVcs : UInt8} (h : m.QueuesWithin numVcs) (vcId : UInt8) :
    (m.dequeueFromVcQueue vcId).2.QueuesWithin numVcs := by
  intro v q' hv
  unfold dequeueFromVcQueue at hv
  dsimp only at hv
  by_cases hvc : v = vcId
  · subst hvc
    rw [KeyedMap.lookup_modify_self] at hv
    obtain ⟨q, hq, -⟩ := Option.map_eq_some_iff.mp hv
    exact h v q hq
  · rw [KeyedMap.lookup_modify_ne hvc] at hv
    exact h v q' hv

omit [QueueItem α] in
/-- `Initialize` makes queues for the virtual channels, with nothing in them. -/
theorem initializeQueues_within {numVcs : UInt8} (hwithin : m.QueuesWithin numVcs)
    (hempty : ∀ vcId, m.vcPackets vcId = []) (maxBytes headerSize : ℕ) :
    (m.initializeQueues numVcs maxBytes headerSize).QueuesWithin numVcs ∧
      ∀ vcId, (m.initializeQueues numVcs maxBytes headerSize).vcPackets vcId = [] := by
  unfold initializeQueues
  split_ifs
  · exact ⟨hwithin, hempty⟩
  · have hlookup := fun v => (lookup_openQueues (vcIds numVcs)
      ({ initialized := true, numVcs := numVcs, vcQueueMaxBytes := maxBytes,
         additionalHeaderSize := headerSize } : SueQueueManager α) v).1
    refine ⟨fun v q hv => ?_, fun v => ?_⟩
    · rw [hlookup v] at hv
      split_ifs at hv with hmem
      · exact mem_vcIds.mp hmem
      · cases (AList.lookup_empty v).symm.trans hv
    · unfold vcPackets
      rw [hlookup v]
      split_ifs
      · rfl
      · rw [AList.lookup_empty]
        rfl

end SueQueueManager

end UeSim
