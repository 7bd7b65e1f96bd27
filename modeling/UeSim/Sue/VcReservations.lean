import UeSim.Sue.SueQueueManager
import UeSim.Support.Transition

/-!
# Reserved capacity

A client reserves capacity in the queue of a virtual channel for each packet, enqueues
the packet and releases the reservation.  This module keeps the reservations that are
outstanding beside the queue manager, and follows whether the manager's count agrees
with them and whether every packet that is covered finds room.

The count and the sums that `ReserveVcCapacity` compares are 32 bits wide.  As long as
they do not overflow where a reservation is granted, every reservation is honoured.
-/

namespace UeSim

/-- A reservation that has not been released. -/
structure Reservation where
  vcId : UInt8
  amount : ℕ
  /-- Whether the packet that it is for has been enqueued. -/
  used : Bool := false
  deriving DecidableEq, Repr

namespace Reservation

/-- What a reservation is for: the packet and its additional headers. -/
def size (headerSize : ℕ) (r : Reservation) : ℕ := r.amount + headerSize

/-- What a reservation holds in a virtual channel. -/
def held (headerSize : ℕ) (vcId : UInt8) (r : Reservation) : ℕ :=
  if r.vcId = vcId then r.size headerSize else 0

/-- What it holds there for a packet that has not been enqueued. -/
def unused (headerSize : ℕ) (vcId : UInt8) (r : Reservation) : ℕ :=
  if r.used then 0 else r.held headerSize vcId

end Reservation

/-- A queue manager, its outstanding reservations, and the covered packets that it has
dropped. -/
structure ReservedQueues (α : Type) where
  manager : SueQueueManager α
  reservations : List Reservation := []
  dropped : List α := []

/-- The calls of the users of a queue manager. -/
inductive CapacityEvent (α : Type)
  | reserve (vcId : UInt8) (amount : UInt32)
  /-- The release of an outstanding reservation. -/
  | release (i : ℕ)
  /-- A packet is enqueued under a reservation that no packet has used. -/
  | enqueue (i : ℕ) (packet : α)
  | dequeue (vcId : UInt8)

namespace ReservedQueues

variable {α : Type} [QueueItem α] {s t : ReservedQueues α}
variable {vcId vcId' : UInt8} {r : Reservation}

/-- `ReserveVcCapacity`: a reservation that is granted is outstanding. -/
def reserve (s : ReservedQueues α) (vcId : UInt8) (amount : ℕ) : ReservedQueues α :=
  { s with
    manager := (s.manager.reserveVcCapacity vcId amount).2
    reservations :=
      if s.manager.grants vcId amount then s.reservations ++ [⟨vcId, amount, false⟩]
      else s.reservations }

/-- `ReleaseVcCapacity`. -/
def release (s : ReservedQueues α) (i : ℕ) (r : Reservation) : ReservedQueues α :=
  { s with
    manager := s.manager.releaseVcCapacity r.vcId r.amount
    reservations := s.reservations.eraseIdx i }

/-- `EnqueueToVcQueue`, for a packet that a reservation covers. -/
def enqueue (s : ReservedQueues α) (i : ℕ) (r : Reservation) (packet : α) :
    ReservedQueues α where
  manager := (s.manager.enqueueToVcQueue packet r.vcId).2
  reservations := s.reservations.eraseIdx i ++ [{ r with used := true }]
  dropped :=
    if (s.manager.enqueueToVcQueue packet r.vcId).1 then s.dropped else s.dropped ++ [packet]

/-- `DequeueFromVcQueue`. -/
def dequeue (s : ReservedQueues α) (vcId : UInt8) : ReservedQueues α :=
  { s with manager := (s.manager.dequeueFromVcQueue vcId).2 }

/-- The runs of a queue manager from its initialisation. -/
def system (numVcs : UInt8) (vcQueueMaxBytes additionalHeaderSize : UInt32) :
    TransitionSystem (ReservedQueues α) (CapacityEvent α) where
  init s := s = ⟨.initializeQueues {} numVcs vcQueueMaxBytes.toNat additionalHeaderSize.toNat,
    [], []⟩
  step s
    | .reserve vcId amount => some (s.reserve vcId amount.toNat)
    | .release i => s.reservations[i]?.map fun r => s.release i r
    | .enqueue i packet => s.reservations[i]?.bind fun r =>
        if r.used = false ∧ getSize packet ≤ r.size s.manager.additionalHeaderSize then
          some (s.enqueue i r packet)
        else none
    | .dequeue vcId => some (s.dequeue vcId)

/-! ## What should hold -/

/-- The bytes in the queue of a virtual channel. -/
def queuedBytes (s : ReservedQueues α) (vcId : UInt8) : ℕ :=
  WeightedList.weight getSize (s.manager.vcPackets vcId)

/-- The sum over the outstanding reservations of a virtual channel. -/
def reservedBytes (s : ReservedQueues α) (vcId : UInt8) : ℕ :=
  WeightedList.weight (Reservation.held s.manager.additionalHeaderSize vcId) s.reservations

/-- The sum over those that no packet has used. -/
def unusedBytes (s : ReservedQueues α) (vcId : UInt8) : ℕ :=
  WeightedList.weight (Reservation.unused s.manager.additionalHeaderSize vcId) s.reservations

/-- The reservations of all virtual channels are honoured. -/
structure Honoured (s : ReservedQueues α) : Prop where
  counted : ∀ vcId, vcId < s.manager.numVcs →
    s.manager.reservedCapacity vcId = s.reservedBytes vcId
  bounded : ∀ vcId, vcId < s.manager.numVcs →
    s.queuedBytes vcId + s.unusedBytes vcId ≤ s.manager.vcQueueMaxBytes
  nothingDropped : s.dropped = []

/-- The sums that `ReserveVcCapacity` computes for a reservation that it grants do not
overflow. -/
def SumsFit (s : ReservedQueues α) : CapacityEvent α → Prop
  | .reserve vcId amount => s.manager.grants vcId amount.toNat = true →
      amount.toNat + s.manager.additionalHeaderSize < 2 ^ 32 ∧
        s.queuedBytes vcId + s.manager.reservedCapacity vcId < 2 ^ 32
  | _ => True

/-! ## What every call keeps -/

/-- The queues are open, and the counts are 32 bits wide. -/
structure Ready (s : ReservedQueues α) : Prop where
  maxBytes : s.manager.vcQueueMaxBytes < 2 ^ 32
  opened : ∀ vcId, vcId < s.manager.numVcs → s.manager.Open vcId
  count_lt : ∀ vcId, vcId < s.manager.numVcs → s.manager.reservedCapacity vcId < 2 ^ 32
  lt_numVcs : ∀ r ∈ s.reservations, r.vcId < s.manager.numVcs

omit [QueueItem α] in
theorem unusedBytes_le_reservedBytes : s.unusedBytes vcId ≤ s.reservedBytes vcId := by
  refine WeightedList.weight_mono fun r _ => ?_
  unfold Reservation.unused
  split_ifs
  · exact Nat.zero_le _
  · exact le_refl _

/-- A reservation is granted within the bound when the sums fit. -/
theorem fits_of_grants {amount : UInt32} (hready : s.Ready) (hhonoured : s.Honoured)
    (hfit : s.SumsFit (.reserve vcId amount))
    (hgrants : s.manager.grants vcId amount.toNat = true) :
    vcId < s.manager.numVcs ∧
      s.manager.reservationSize amount.toNat =
        amount.toNat + s.manager.additionalHeaderSize ∧
      s.manager.reservedCapacity vcId + s.manager.reservationSize amount.toNat < 2 ^ 32 ∧
      s.queuedBytes vcId + s.unusedBytes vcId + s.manager.reservationSize amount.toNat ≤
        s.manager.vcQueueMaxBytes := by
  obtain ⟨hamount, hsum⟩ := hfit hgrants
  unfold SueQueueManager.grants at hgrants
  rw [Bool.and_eq_true, decide_eq_true_eq, decide_eq_true_eq] at hgrants
  obtain ⟨hvc, hle⟩ := hgrants
  have hqueued : s.queuedBytes vcId < 2 ^ 32 := Nat.lt_of_le_of_lt (Nat.le_add_right _ _) hsum
  rw [(hready.opened vcId hvc).getVcAvailableCapacity] at hle
  have hwhole : toU32 (toU32 (WeightedList.weight getSize (s.manager.vcPackets vcId)) +
      s.manager.reservedCapacity vcId) =
        s.queuedBytes vcId + s.manager.reservedCapacity vcId := by
    unfold queuedBytes at hqueued hsum ⊢
    rw [toU32_of_lt hqueued, toU32_of_lt hsum]
  rw [hwhole] at hle
  have hsize : s.manager.reservationSize amount.toNat =
      amount.toNat + s.manager.additionalHeaderSize := toU32_of_lt hamount
  have hunused : s.unusedBytes vcId ≤ s.manager.reservedCapacity vcId := by
    rw [hhonoured.counted vcId hvc]
    exact unusedBytes_le_reservedBytes
  have hbounded := hhonoured.bounded vcId hvc
  have hmax := hready.maxBytes
  have hcount := hready.count_lt vcId hvc
  refine ⟨hvc, hsize, ?_, ?_⟩ <;> omega

theorem reserve_keeps {amount : UInt32} (hready : s.Ready) (hhonoured : s.Honoured)
    (hfit : s.SumsFit (.reserve vcId amount)) :
    (s.reserve vcId amount.toNat).Ready ∧ (s.reserve vcId amount.toNat).Honoured := by
  by_cases hgrants : s.manager.grants vcId amount.toNat = true
  · obtain ⟨hvc, hsize, hcount, hbounded⟩ := fits_of_grants hready hhonoured hfit hgrants
    have hreserve : s.reserve vcId amount.toNat =
        { s with
          manager := s.manager.setReserved vcId (s.manager.reservedCapacity vcId +
            s.manager.reservationSize amount.toNat)
          reservations := s.reservations ++ [⟨vcId, amount.toNat, false⟩] } := by
      unfold reserve SueQueueManager.reserveVcCapacity
      rw [if_pos hgrants, if_pos hgrants, toU32_of_lt hcount]
    have hreserved : ∀ v, WeightedList.weight
        (Reservation.held s.manager.additionalHeaderSize v)
        (s.reservations ++ [⟨vcId, amount.toNat, false⟩]) =
          s.reservedBytes v + if vcId = v then s.manager.reservationSize amount.toNat else 0 := by
      intro v
      rw [WeightedList.weight_append, WeightedList.weight_singleton, hsize]
      rfl
    have hunused : ∀ v, WeightedList.weight
        (Reservation.unused s.manager.additionalHeaderSize v)
        (s.reservations ++ [⟨vcId, amount.toNat, false⟩]) =
          s.unusedBytes v + if vcId = v then s.manager.reservationSize amount.toNat else 0 := by
      intro v
      rw [WeightedList.weight_append, WeightedList.weight_singleton, hsize]
      rfl
    rw [hreserve]
    refine ⟨⟨hready.maxBytes, fun v hv => (hready.opened v hv).setReserved _, fun v hv => ?_,
      ?_⟩,
      fun v hv => ?_, fun v hv => ?_, hhonoured.nothingDropped⟩
    · rw [SueQueueManager.reservedCapacity_setReserved]
      split_ifs
      · exact hcount
      · exact hready.count_lt v hv
    · intro r hr
      rcases List.mem_append.mp hr with hold | hnew
      · exact hready.lt_numVcs r hold
      · cases List.mem_singleton.mp hnew
        exact hvc
    · rw [SueQueueManager.reservedCapacity_setReserved]
      refine Eq.trans ?_ (hreserved v).symm
      by_cases hv' : v = vcId
      · subst hv'
        rw [if_pos rfl, if_pos rfl, hhonoured.counted v hv]
      · rw [if_neg hv', if_neg (Ne.symm hv'), hhonoured.counted v hv, Nat.add_zero]
    · refine le_of_eq_of_le (congrArg (s.queuedBytes v + ·) (hunused v)) ?_
      by_cases hv' : vcId = v
      · subst hv'
        rw [if_pos rfl, ← Nat.add_assoc]
        exact hbounded
      · rw [if_neg hv', Nat.add_zero]
        exact hhonoured.bounded v hv
  · have hreserve : s.reserve vcId amount.toNat = s := by
      unfold reserve SueQueueManager.reserveVcCapacity
      rw [if_neg hgrants, if_neg hgrants]
    rw [hreserve]
    exact ⟨hready, hhonoured⟩

/-- A reservation that is released takes its size off the count and off the sum. -/
theorem release_keeps {i : ℕ} (hready : s.Ready) (hhonoured : s.Honoured)
    (hr : s.reservations[i]? = some r) : (s.release i r).Ready ∧ (s.release i r).Honoured := by
  have hvc := hready.lt_numVcs r (List.mem_of_getElem? hr)
  have hrelease : s.release i r =
      { s with
        manager := s.manager.setReserved r.vcId (s.manager.reservedCapacity r.vcId -
          s.manager.reservationSize r.amount)
        reservations := s.reservations.eraseIdx i } := by
    unfold release
    rw [(hready.opened r.vcId hvc).releaseVcCapacity]
  have hreserved : ∀ v, s.reservedBytes v = r.held s.manager.additionalHeaderSize v +
      WeightedList.weight (Reservation.held s.manager.additionalHeaderSize v)
        (s.reservations.eraseIdx i) := fun v => WeightedList.weight_eraseIdx hr
  have hunused : ∀ v, s.unusedBytes v = r.unused s.manager.additionalHeaderSize v +
      WeightedList.weight (Reservation.unused s.manager.additionalHeaderSize v)
        (s.reservations.eraseIdx i) := fun v => WeightedList.weight_eraseIdx hr
  rw [hrelease]
  refine ⟨⟨hready.maxBytes, fun v hv => (hready.opened v hv).setReserved _, fun v hv => ?_,
      ?_⟩,
    fun v hv => ?_, fun v hv => ?_, hhonoured.nothingDropped⟩
  · rw [SueQueueManager.reservedCapacity_setReserved]
    split_ifs
    · exact Nat.lt_of_le_of_lt (Nat.sub_le _ _) (hready.count_lt r.vcId hvc)
    · exact hready.count_lt v hv
  · exact fun r' hr' => hready.lt_numVcs r' (List.mem_of_mem_eraseIdx hr')
  · rw [SueQueueManager.reservedCapacity_setReserved]
    have hcounted := (hhonoured.counted v hv).trans (hreserved v)
    unfold Reservation.held at hcounted
    by_cases hv' : v = r.vcId
    · subst hv'
      rw [if_pos rfl] at hcounted ⊢
      have hsize : s.manager.reservationSize r.amount = r.size s.manager.additionalHeaderSize := by
        refine toU32_of_lt ?_
        have hlt := hready.count_lt r.vcId hvc
        unfold Reservation.size at hcounted
        omega
      rw [hsize, hcounted, Nat.add_sub_cancel_left]
      rfl
    · rw [if_neg (Ne.symm hv'), Nat.zero_add] at hcounted
      rw [if_neg hv']
      exact hcounted
  · refine le_trans (Nat.add_le_add_left ?_ _) (hhonoured.bounded v hv)
    rw [hunused v]
    exact Nat.le_add_left _ _

/-- A packet that a reservation covers finds room in its queue. -/
theorem takes_of_covered {i : ℕ} {packet : α} (hready : s.Ready) (hhonoured : s.Honoured)
    (hr : s.reservations[i]? = some r) (hfresh : r.used = false)
    (hcovered : getSize packet ≤ r.size s.manager.additionalHeaderSize) :
    s.manager.takes r.vcId packet = true := by
  have hvc := hready.lt_numVcs r (List.mem_of_getElem? hr)
  have hunused : s.unusedBytes r.vcId = r.unused s.manager.additionalHeaderSize r.vcId + _ :=
    WeightedList.weight_eraseIdx hr
  have hself : r.unused s.manager.additionalHeaderSize r.vcId =
      r.size s.manager.additionalHeaderSize := by
    simp [Reservation.unused, Reservation.held, hfresh]
  have hbounded := hhonoured.bounded r.vcId hvc
  have hmax := hready.maxBytes
  have hsum : s.queuedBytes r.vcId + getSize packet ≤ s.manager.vcQueueMaxBytes := by omega
  have hqueued : s.queuedBytes r.vcId < 2 ^ 32 := by omega
  unfold SueQueueManager.takes DropTailQueue.accepts DropTailQueue.nBytes DropTailQueue.bytes
  unfold queuedBytes at hsum hqueued
  rw [toU32_of_lt hqueued, toU32_of_lt (Nat.lt_of_le_of_lt hsum hmax)]
  exact decide_eq_true hsum

theorem enqueue_keeps {i : ℕ} {packet : α} (hready : s.Ready) (hhonoured : s.Honoured)
    (hr : s.reservations[i]? = some r) (hfresh : r.used = false)
    (hcovered : getSize packet ≤ r.size s.manager.additionalHeaderSize) :
    (s.enqueue i r packet).Ready ∧ (s.enqueue i r packet).Honoured := by
  have hvc := hready.lt_numVcs r (List.mem_of_getElem? hr)
  have htakes := takes_of_covered hready hhonoured hr hfresh hcovered
  have henqueue : s.enqueue i r packet =
      { s with
        manager := s.manager.setPackets r.vcId (s.manager.vcPackets r.vcId ++ [packet])
        reservations := s.reservations.eraseIdx i ++ [{ r with used := true }] } := by
    unfold enqueue
    rw [(hready.opened r.vcId hvc).enqueueToVcQueue, htakes, if_pos rfl, if_pos rfl]
  have hreserved : ∀ v, WeightedList.weight (Reservation.held s.manager.additionalHeaderSize v)
      (s.reservations.eraseIdx i ++ [{ r with used := true }]) = s.reservedBytes v := by
    intro v
    have hold : s.reservedBytes v = r.held s.manager.additionalHeaderSize v + _ :=
      WeightedList.weight_eraseIdx hr
    rw [WeightedList.weight_append, WeightedList.weight_singleton, hold, Nat.add_comm]
    rfl
  have hunused : ∀ v, WeightedList.weight (Reservation.unused s.manager.additionalHeaderSize v)
      (s.reservations.eraseIdx i ++ [{ r with used := true }]) +
        r.held s.manager.additionalHeaderSize v = s.unusedBytes v := by
    intro v
    have hold : s.unusedBytes v = r.unused s.manager.additionalHeaderSize v + _ :=
      WeightedList.weight_eraseIdx hr
    rw [WeightedList.weight_append, WeightedList.weight_singleton, hold]
    simp only [Reservation.unused, hfresh, if_true, Bool.false_eq_true, if_false, Nat.add_zero]
    exact Nat.add_comm _ _
  rw [henqueue]
  refine ⟨⟨hready.maxBytes, fun v hv => (hready.opened v hv).setPackets _, hready.count_lt, ?_⟩,
    fun v hv => ?_, fun v hv => ?_, hhonoured.nothingDropped⟩
  · intro r' hr'
    rcases List.mem_append.mp hr' with hold | hnew
    · exact hready.lt_numVcs r' (List.mem_of_mem_eraseIdx hold)
    · cases List.mem_singleton.mp hnew
      exact hvc
  · exact (hhonoured.counted v hv).trans (hreserved v).symm
  · have hbounded := hhonoured.bounded v hv
    rw [← hunused v] at hbounded
    unfold queuedBytes at hbounded
    refine le_trans (Nat.add_le_add_right (?_ : WeightedList.weight getSize
      ((s.manager.setPackets r.vcId (s.manager.vcPackets r.vcId ++ [packet])).vcPackets v) ≤
        WeightedList.weight getSize (s.manager.vcPackets v) +
          r.held s.manager.additionalHeaderSize v) _) ?_
    · rw [SueQueueManager.vcPackets_setPackets]
      split_ifs with hv'
      · subst hv'
        rw [WeightedList.weight_append, WeightedList.weight_singleton]
        unfold Reservation.held
        rw [if_pos rfl]
        exact Nat.add_le_add_left hcovered _
      · exact Nat.le_add_right _ _
    · rw [Nat.add_assoc, Nat.add_comm (r.held _ v)]
      exact hbounded

theorem dequeue_keeps (hready : s.Ready) (hhonoured : s.Honoured) (vcId : UInt8) :
    (s.dequeue vcId).Ready ∧ (s.dequeue vcId).Honoured := by
  have hopened := fun v hv => (hready.opened v hv).dequeue vcId
  refine ⟨⟨hready.maxBytes, fun v hv => (hopened v hv).1, hready.count_lt, hready.lt_numVcs⟩,
    hhonoured.counted, fun v hv => ?_, hhonoured.nothingDropped⟩
  refine le_trans (Nat.add_le_add_right ?_ _) (hhonoured.bounded v hv)
  unfold queuedBytes dequeue
  rw [(hopened v hv).2]
  split_ifs
  · cases s.manager.vcPackets v with
    | nil => exact le_refl _
    | cons packet packets =>
        rw [List.tail_cons, WeightedList.weight_cons]
        exact Nat.le_add_left _ _
  · exact le_refl _

/-- Every call that the condition allows keeps the reservations honoured. -/
theorem step_keeps {numVcs : UInt8} {maxBytes headerSize : UInt32} {event : CapacityEvent α}
    (hready : s.Ready) (hhonoured : s.Honoured) (hfit : s.SumsFit event)
    (hstep : (system numVcs maxBytes headerSize).step s event = some t) :
    t.Ready ∧ t.Honoured := by
  cases event with
  | reserve vcId amount =>
      cases hstep
      exact reserve_keeps hready hhonoured hfit
  | release i =>
      obtain ⟨r, hr, rfl⟩ := Option.map_eq_some_iff.mp hstep
      exact release_keeps hready hhonoured hr
  | enqueue i packet =>
      obtain ⟨r, hr, henqueue⟩ := Option.bind_eq_some_iff.mp hstep
      split_ifs at henqueue with hcovered
      cases henqueue
      exact enqueue_keeps hready hhonoured hr hcovered.1 hcovered.2
  | dequeue vcId =>
      cases hstep
      exact dequeue_keeps hready hhonoured vcId

theorem init_honoured {numVcs : UInt8} {maxBytes headerSize : UInt32}
    (hinit : (system numVcs maxBytes headerSize).init s) : s.Ready ∧ s.Honoured := by
  obtain ⟨-, hnumVcs, hmax, -⟩ := SueQueueManager.settings_initializeQueues α numVcs
    maxBytes.toNat headerSize.toNat
  have hopen : ∀ v, v < s.manager.numVcs → s.manager.Open v ∧ s.manager.vcPackets v = [] ∧
      s.manager.reservedCapacity v = 0 := by
    intro v hv
    rw [hinit, hnumVcs] at hv
    rw [hinit]
    exact SueQueueManager.open_initializeQueues hv
  have hnone : s.reservations = [] := by rw [hinit]
  refine ⟨⟨?_, fun v hv => (hopen v hv).1, fun v hv => ?_, ?_⟩, fun v hv => ?_, fun v hv => ?_, ?_⟩
  · rw [hinit]
    exact hmax.trans_lt maxBytes.toNat_lt
  · rw [(hopen v hv).2.2]
    exact Nat.two_pow_pos 32
  · rw [hnone]
    exact fun r hr => absurd hr List.not_mem_nil
  · unfold reservedBytes
    rw [(hopen v hv).2.2, hnone]
    rfl
  · unfold queuedBytes unusedBytes
    rw [(hopen v hv).2.1, hnone]
    exact Nat.zero_le _
  · rw [hinit]

/-- In every run in which the sums fit, the count of a virtual channel is the sum of its
outstanding reservations, what is queued and what is still to come stays within the bound,
and no packet that a reservation covers is dropped. -/
theorem honoured_of_sumsFit {numVcs : UInt8} {maxBytes headerSize : UInt32}
    (hreach : (system numVcs maxBytes headerSize).ReachableBy SumsFit s) : s.Honoured := by
  have hboth : s.Ready ∧ s.Honoured := hreach.invariant (fun _ hinit => init_honoured hinit)
    fun _ _ _ h hfit hstep => step_keeps h.1 h.2 hfit hstep
  exact hboth.2

/-! ## Runs on one virtual channel -/

/-- A data packet whose frame has the given body. -/
def packetOf (bodySize : ℕ) (small : bodySize + ethernetHeaderSize + pppHeaderSize < 2 ^ 32) :
    SuePacket :=
  ⟨{ b5 := 1 }, { b5 := 3 }, 0, bodySize, small⟩

/-- The queue manager of a device with one virtual channel. -/
def oneQueue (maxBytes headerSize : UInt32) : ReservedQueues SuePacket where
  manager := .initializeQueues {} 1 maxBytes.toNat headerSize.toNat

/-- The amount and the headers add up to 0 in 32 bits, and the packet is larger than the
queue. -/
def overflowingAmount : List (CapacityEvent SuePacket) :=
  [.reserve 0 4294967252, .enqueue 0 (packetOf 1000 (by decide))]

/-- The second reservation is granted because what is queued and what is reserved add up
to a small number in 32 bits. -/
def overflowingSum : List (CapacityEvent SuePacket) :=
  [.reserve 0 3000000000, .enqueue 0 (packetOf 2999999984 (by decide)), .reserve 0 2000000000]

/-- Both sums overflow in runs: a packet that is covered is dropped, and the reservations
exceed the queue and the count. -/
theorem not_honoured_of_overflow :
    (∃ t, (system 1 1000 44).runActions (oneQueue 1000 44) overflowingAmount = some t ∧
      t.manager.reservedCapacity 0 = 0 ∧ t.dropped ≠ [] ∧ ¬t.Honoured) ∧
    ∃ t, (system 1 4294967295 0).runActions (oneQueue 4294967295 0) overflowingSum = some t ∧
      ¬t.Honoured := by
  constructor
  · obtain ⟨t, hrun⟩ : ∃ t, (system 1 1000 44).runActions (oneQueue 1000 44)
        overflowingAmount = some t := ⟨_, rfl⟩
    have hdropped : t.dropped ≠ [] := by
      cases hrun
      decide
    have hcount : t.manager.reservedCapacity 0 = 0 := by
      cases hrun
      decide
    exact ⟨t, hrun, hcount, hdropped, fun h => hdropped h.nothingDropped⟩
  · obtain ⟨t, hrun⟩ : ∃ t, (system 1 4294967295 0).runActions (oneQueue 4294967295 0)
        overflowingSum = some t := ⟨_, rfl⟩
    refine ⟨t, hrun, fun h => ?_⟩
    have hbounded := h.bounded 0
    cases hrun
    revert hbounded
    decide

/-- A reservation whose sums fit, the packet that it is for, and its release. -/
def fitting : List (CapacityEvent SuePacket) :=
  [.reserve 0 1016, .enqueue 0 (packetOf 1000 (by decide)), .release 0]

theorem honoured_of_sumsFit_fitting :
    ∃ t, (system 1 2000 44).runActions (oneQueue 2000 44) fitting = some t ∧ t.Honoured := by
  obtain ⟨t, hrun⟩ : ∃ t, (system 1 2000 44).runActions (oneQueue 2000 44) fitting = some t :=
    ⟨_, rfl⟩
  refine ⟨t, hrun, honoured_of_sumsFit (TransitionSystem.ReachableBy.of_guardedRun
    (.init rfl) ?_ hrun)⟩
  refine ⟨fun _ => by decide, fun s hs => ⟨trivial, fun s' hs' => ⟨trivial, fun _ _ => trivial⟩⟩⟩

end ReservedQueues

end UeSim
