import UeSim.Sue.PackingProgress
import UeSim.Sue.SentOnce
import UeSim.Sue.SueQueueManager

/-!
# The packing plan of a round

`ScheduleNextSend` counts how many transactions a device has room for, `SmartPacking` packs
as many by a rule of its own, and the capacity for each of its packets is reserved then.  No
packet has more transactions than a turn of the counting loop, so that there are no more
packets than turns, and the headers fit as well.  `SmartPacking` does not return with 256
packets or more.
-/

namespace UeSim

/-! ## Reserving -/

namespace SueQueueManager

variable {α : Type} [QueueItem α] {m : SueQueueManager α} {vcId : UInt8} {amount : ℕ}

/-- Reserve the capacity for packets one after another, until a reservation fails. -/
def reserveAll (m : SueQueueManager α) (vcId : UInt8) : List ℕ → Option (SueQueueManager α)
  | [] => some m
  | amount :: amounts =>
      if (m.reserveVcCapacity vcId amount).1 then
        (m.reserveVcCapacity vcId amount).2.reserveAll vcId amounts
      else none

/-- A reservation takes its bytes off the capacity, and no more. -/
theorem sub_le_getVcAvailableCapacity (m : SueQueueManager α) (vcId : UInt8) (size : ℕ) :
    m.getVcAvailableCapacity vcId - size ≤
      (m.setReserved vcId (toU32 (m.reservedCapacity vcId + size))).getVcAvailableCapacity
        vcId := by
  have hreserved : (m.setReserved vcId (toU32 (m.reservedCapacity vcId + size))).reservedCapacity
      vcId = toU32 (m.reservedCapacity vcId + size) := by
    rw [reservedCapacity_setReserved, if_pos rfl]
  unfold getVcAvailableCapacity
  rw [hreserved]
  unfold setReserved
  dsimp only
  split_ifs
  · cases m.vcQueues.lookup vcId with
    | none => exact Nat.sub_le _ _
    | some q =>
        dsimp only
        unfold toU32
        omega
  · exact Nat.sub_le _ _

/-- Packets whose sizes and headers together are within the capacity can all be reserved. -/
theorem exists_reserveAll {amounts : List ℕ} (hpos : ∀ amount ∈ amounts, 0 < amount)
    (hfit : (amounts.map (· + m.additionalHeaderSize)).sum ≤ m.getVcAvailableCapacity vcId) :
    ∃ m', m.reserveAll vcId amounts = some m' := by
  induction amounts generalizing m with
  | nil => exact ⟨m, rfl⟩
  | cons amount amounts ih =>
      rw [List.map_cons, List.sum_cons] at hfit
      have hsize : m.reservationSize amount ≤ amount + m.additionalHeaderSize := Nat.mod_le _ _
      have hvc : vcId < m.numVcs := by
        by_contra hnot
        have hnone : m.getVcAvailableCapacity vcId = 0 := if_neg hnot
        have hfirst := hpos amount List.mem_cons_self
        omega
      have hgrants : m.grants vcId amount = true := by
        unfold grants
        rw [decide_eq_true hvc, Bool.true_and]
        exact decide_eq_true (by omega)
      have hreserve : m.reserveVcCapacity vcId amount = (true,
          m.setReserved vcId (toU32 (m.reservedCapacity vcId + m.reservationSize amount))) :=
        if_pos hgrants
      have hleft := m.sub_le_getVcAvailableCapacity vcId (m.reservationSize amount)
      unfold reserveAll
      rw [hreserve, if_pos rfl]
      refine ih (fun amount hamount => hpos amount (List.mem_cons_of_mem _ hamount)) ?_
      refine le_trans ?_ hleft
      have hheader : (m.setReserved vcId (toU32 (m.reservedCapacity vcId +
          m.reservationSize amount))).additionalHeaderSize = m.additionalHeaderSize := rfl
      dsimp only
      rw [hheader]
      omega

end SueQueueManager

/-! ## The channel of a queue -/

namespace SueClient

variable {c c' : SueClient}

/-- Every transaction waits in a queue of its own virtual channel. -/
def Keyed (c : SueClient) : Prop :=
  ∀ key, ∀ t ∈ (c.queueOf key).transactions, t.vc = key.vcId

theorem Keyed.addTransaction (h : c.Keyed) (now : ℕ) (t : Transaction) (destXpuId : UInt32) :
    (c.addTransaction now t destXpuId).Keyed := by
  intro key t' ht'
  rw [queueOf_addTransaction] at ht'
  split_ifs at ht' with hadded
  · rw [QueueState.transactions_push] at ht'
    rcases List.mem_append.mp ht' with hold | hnew
    · exact h key t' hold
    · rw [List.mem_singleton.mp hnew, hadded.1]
      rfl
  · exact h key t' ht'

theorem Keyed.popFront {key : Destination} (h : c.Keyed) (hpop : c.popFront key = some c') :
    c'.Keyed := by
  obtain ⟨now, t, rest, hqueue, rfl⟩ := popFront_eq_some.mp hpop
  intro key' t' ht'
  rw [queueOf_setQueue] at ht'
  split_ifs at ht' with hkey
  · apply h key'
    rw [hkey]
    unfold QueueState.transactions QueueState.pop at ht'
    rw [List.map_tail] at ht'
    exact List.mem_of_mem_tail ht'
  · exact h key' t' ht'

/-- Only what changes queues matters. -/
theorem Keyed.of_queues (h : c.Keyed) (hqueues : c'.destQueues = c.destQueues) : c'.Keyed := by
  intro key t ht
  unfold queueOf at ht
  rw [hqueues] at ht
  exact h key t ht

end SueClient

namespace SendLedger

variable {s s' : SendLedger}

theorem keyed_give (h : s.client.Keyed) (now : ℕ) (t : Transaction) (destXpuId : UInt32) :
    (s.give now t destXpuId).client.Keyed := by
  unfold give
  by_cases hold : t ∈ s.accepted.map Prod.snd
  · rw [if_pos hold]
    exact h
  · rw [if_neg hold]
    exact h.addTransaction now t destXpuId

theorem keyed_giveAll (h : s.client.Keyed) (now : ℕ) (l : List (Transaction × UInt32)) :
    (giveAll now l s).client.Keyed := by
  induction l generalizing s with
  | nil => exact h
  | cons x rest ih => exact ih (keyed_give h now x.1 x.2)

theorem keyed_popTransactionsFromQueue (h : s.client.Keyed) (now : ℕ) (key : Destination)
    (count : ℕ) (arrivals : List (List (Transaction × UInt32))) :
    (popTransactionsFromQueue now key count arrivals s).client.Keyed := by
  induction count generalizing s arrivals with
  | zero => exact h
  | succ count ih =>
      unfold popTransactionsFromQueue
      cases hpop : s.client.popFront key with
      | none => exact h
      | some c => exact ih (keyed_giveAll (h.popFront hpop) now _) arrivals.tail

theorem keyed_step {event : ClientEvent} (h : s.client.Keyed)
    (hstep : system.step s event = some s') : s'.client.Keyed := by
  cases event with
  | addTransaction now t destXpuId =>
      cases hstep
      exact keyed_give h now t destXpuId
  | scheduleNextSend now devices =>
      obtain ⟨c, hround, rfl⟩ := Option.map_eq_some_iff.mp hstep
      rcases SueClient.scheduleNextSend_eq_some hround with rfl | ⟨dest, info, maxPackets, rfl⟩
      · exact h.of_queues rfl
      · exact h.of_queues rfl
  | doSendBurst now i outcome arrivals =>
      obtain ⟨b, hb, rfl⟩ := Option.map_eq_some_iff.mp hstep
      exact keyed_popTransactionsFromQueue
        (s := { s with client := s.client.sendTo now i b outcome })
        (h.of_queues rfl) now b.dest _ arrivals

theorem keyed_of_reachable (hreach : system.Reachable s) : s.client.Keyed := by
  refine hreach.invariant ?_ fun _ _ _ h _ hstep => keyed_step h hstep
  rintro s ⟨-, hqueues, -⟩ key t ht
  unfold SueClient.queueOf at ht
  rw [hqueues, AList.lookup_empty] at ht
  cases ht

end SendLedger

/-! ## What should hold -/

namespace SueClient

/-- The packets of a round, with a limit on the number of their transactions. -/
def planned (c : SueClient) (dest : Destination) (limit : UInt32) :
    Option (List (List Transaction)) :=
  c.smartPacking dest (min limit.toNat (toU32 (c.queueOf dest).queue.length))

/-- `GetSize` of a packet of a batch. -/
def packedSize (batch : List Transaction) : ℕ :=
  toU32 ((batch.map Transaction.payloadSize).sum + SueHeader.serializedSize)

/-- The virtual channel that is read from a packet to a destination. -/
def packedVc (c : SueClient) (dest : Destination) : UInt8 :=
  (SueHeader.deserialize (c.combinedHeader dest).serialize).getVc

/-- The plan of a round for a device with a capacity: the count ends without wrapping, the
packets are made, and the capacity for all of them can be reserved. -/
structure PlanFits {α : Type} [QueueItem α] (c : SueClient) (m : SueQueueManager α)
    (dest : Destination) (capacity : UInt32) : Prop where
  counts : ∃ left, c.packingLoop (2 ^ 32) capacity 0 = some left ∧ PackingRun c capacity 0 left
  reserved : ∃ limit, c.maxPacketsToPack capacity = some limit ∧
    ∃ batches, c.planned dest limit = some batches ∧
      ∃ m', m.reserveAll (c.packedVc dest) (batches.map packedSize) = some m'

/-- More than 255 packets: a queue with more transactions than 255 full packets have, and a
capacity that is more than these take, with room for a transaction in what they leave. -/
def PacksMany (c : SueClient) (length capacity : ℕ) : Prop :=
  c.transactionSize ≤ c.maxBurstSize ∧ 255 * c.perPacket < length ∧ ¬c.UsedUp capacity ∧
    255 * (c.maxBurstSize.toNat + c.headerBytes) < capacity ∧
    ¬c.CountsNothing (capacity - 255 * (c.maxBurstSize.toNat + c.headerBytes))

/-! ## Batches -/

variable {c : SueClient}

theorem sum_payloadSize {size : ℕ} {l : List Transaction}
    (hpayload : ∀ t ∈ l, t.payloadSize = size) :
    (l.map Transaction.payloadSize).sum = l.length * size := by
  rw [List.map_congr_left hpayload, List.map_const', List.sum_replicate_nat]

/-- A packet is over its size when it has more transactions than a full one. -/
theorem maxBurstSize_lt_iff {n : ℕ} (hsize : 0 < c.transactionSize.toNat)
    (hsum : n * c.transactionSize.toNat < 2 ^ 32) :
    c.maxBurstSize < UInt32.ofNat (n * c.transactionSize.toNat) ↔ c.perPacket < n := by
  have hnat : (UInt32.ofNat (n * c.transactionSize.toNat)).toNat =
      n * c.transactionSize.toNat := UInt32.toNat_ofNat_of_lt' hsum
  unfold perPacket
  rw [UInt32.lt_iff_toNat_lt, hnat, Nat.div_lt_iff_lt_mul hsize]

/-- There are as many packets as are needed for full ones, with transactions of the size
that the client expects. -/
theorem length_packBatches_le_iff {l batch : List Transaction} {packets : ℕ}
    (hpayload : ∀ t ∈ l, t.payloadSize = c.transactionSize.toNat)
    (hsize : 0 < c.transactionSize.toNat) (hfull : 0 < c.perPacket)
    (hsum : (batch.length + l.length) * c.transactionSize.toNat < 2 ^ 32)
    (hbatch : batch.length ≤ c.perPacket) :
    (c.packBatches l batch
        (UInt32.ofNat (batch.length * c.transactionSize.toNat))).length ≤ packets ↔
      batch.length + l.length ≤ packets * c.perPacket := by
  induction l generalizing batch packets with
  | nil =>
      unfold packBatches
      split_ifs with hempty
      · rw [hempty]
        exact iff_of_true (Nat.zero_le _) (Nat.zero_le _)
      · have hpos := List.length_pos_iff.mpr hempty
        rw [List.length_singleton, List.length_nil, Nat.add_zero]
        constructor
        · intro hone
          exact hbatch.trans (Nat.le_mul_of_pos_left _ hone)
        · intro hcount
          by_contra hnone
          rw [Nat.lt_one_iff.mp (Nat.not_le.mp hnone), Nat.zero_mul] at hcount
          omega
  | cons t rest ih =>
      have hrest := fun t ht => hpayload t (List.mem_cons_of_mem _ ht)
      have hfirst := hpayload t List.mem_cons_self
      rw [List.length_cons] at hsum ⊢
      have hnext : (batch.length + 1) * c.transactionSize.toNat < 2 ^ 32 := by
        refine (Nat.mul_le_mul_right _ ?_).trans_lt hsum
        omega
      have hadd : UInt32.ofNat (batch.length * c.transactionSize.toNat) + c.transactionSize =
          UInt32.ofNat ((batch.length + 1) * c.transactionSize.toNat) := by
        rw [Nat.succ_mul, UInt32.ofNat_add, UInt32.ofNat_toNat]
      have hover := maxBurstSize_lt_iff hsize hnext
      unfold packBatches
      rw [hfirst, UInt32.ofNat_toNat, hadd]
      split_ifs with hnew
      · -- the batch is full, and the transaction begins another one
        have hmany : c.perPacket < batch.length + 1 := hover.mp hnew.1
        have hone : UInt32.ofNat ([t].length * c.transactionSize.toNat) =
            c.transactionSize := by
          rw [List.length_singleton, Nat.one_mul, UInt32.ofNat_toNat]
        rw [List.length_cons, ← hone]
        cases packets with
        | zero => exact iff_of_false (Nat.not_succ_le_zero _) (by omega)
        | succ packets =>
            have hothers : ([t].length + rest.length) * c.transactionSize.toNat < 2 ^ 32 := by
              refine (Nat.mul_le_mul_right _ ?_).trans_lt hsum
              rw [List.length_singleton]
              omega
            rw [Nat.succ_le_succ_iff, ih hrest hothers hfull, List.length_singleton,
              Nat.succ_mul]
            omega
      · have hlength : (batch ++ [t]).length = batch.length + 1 := by
          rw [List.length_append, List.length_singleton]
        have hlonger : (batch ++ [t]).length ≤ c.perPacket := by
          rw [hlength]
          by_cases hempty : batch = []
          · rw [hempty]
            exact hfull
          · exact Nat.not_lt.mp fun hmore => hnew ⟨hover.mpr hmore, hempty⟩
        have hsame : ((batch ++ [t]).length + rest.length) * c.transactionSize.toNat <
            2 ^ 32 := by
          rw [hlength, Nat.add_assoc, Nat.add_comm 1]
          exact hsum
        rw [← hlength, ih hrest hsame hlonger, hlength]
        omega

/-- The packets of some transactions, from an empty batch. -/
theorem length_packBatches_nil_le_iff (packets : ℕ) {l : List Transaction}
    (hpayload : ∀ t ∈ l, t.payloadSize = c.transactionSize.toNat)
    (hsize : 0 < c.transactionSize.toNat) (hfull : 0 < c.perPacket)
    (hsum : l.length * c.transactionSize.toNat < 2 ^ 32) :
    (c.packBatches l [] 0).length ≤ packets ↔ l.length ≤ packets * c.perPacket := by
  have hempty : UInt32.ofNat (([] : List Transaction).length * c.transactionSize.toNat) = 0 := by
    rw [List.length_nil, Nat.zero_mul]
    rfl
  have hnone : ([] : List Transaction).length + l.length = l.length := Nat.zero_add _
  rw [← hempty, length_packBatches_le_iff hpayload hsize hfull (by rwa [hnone])
    (Nat.zero_le _), hnone]

/-- The sizes of packets, with the headers that a device adds. -/
theorem sum_packedSize_le (c : SueClient) (batches : List (List Transaction)) :
    ((batches.map packedSize).map (· + c.additionalHeaderSize.toNat)).sum ≤
      (batches.flatten.map Transaction.payloadSize).sum + batches.length * c.headerBytes := by
  induction batches with
  | nil => exact Nat.zero_le _
  | cons batch batches ih =>
      have hpacket : packedSize batch ≤
          (batch.map Transaction.payloadSize).sum + SueHeader.serializedSize := Nat.mod_le _ _
      have hheader : c.headerBytes = SueHeader.serializedSize + c.additionalHeaderSize.toNat :=
        rfl
      rw [List.map_cons, List.map_cons, List.sum_cons, List.flatten_cons, List.map_append,
        List.sum_append, List.length_cons, Nat.succ_mul]
      omega

/-- A packet has at least its header when its transactions are small. -/
theorem packedSize_pos {batch : List Transaction}
    (h : (batch.map Transaction.payloadSize).sum + SueHeader.serializedSize < 2 ^ 32) :
    0 < packedSize batch := by
  unfold packedSize
  rw [toU32_of_lt h]
  exact Nat.add_pos_right _ (by decide)

/-- The packets of transactions can be reserved, if as many turns of the loop with their
headers are within the capacity. -/
theorem exists_reserveAll_packBatches {α : Type} [QueueItem α] {m : SueQueueManager α}
    {vcId : UInt8} {l : List Transaction} {turns : ℕ} {capacity : UInt32}
    (hpayload : ∀ t ∈ l, t.payloadSize = c.transactionSize.toNat)
    (hsize : 0 < c.transactionSize.toNat) (hturns : l.length ≤ turns * c.perPacket)
    (hbytes : l.length * c.transactionSize.toNat + turns * c.headerBytes ≤ capacity.toNat)
    (hheader : m.additionalHeaderSize = c.additionalHeaderSize.toNat)
    (hcapacity : m.getVcAvailableCapacity vcId = capacity.toNat) :
    ∃ m', m.reserveAll vcId ((c.packBatches l [] 0).map packedSize) = some m' := by
  have hlt := capacity.toNat_lt
  have hlength : (c.packBatches l [] 0).length ≤ turns := by
    cases l with
    | nil => exact Nat.zero_le _
    | cons t rest =>
        have hfull : 0 < c.perPacket := by
          refine Nat.pos_of_ne_zero fun hnone => ?_
          rw [hnone, Nat.mul_zero] at hturns
          exact absurd hturns (Nat.not_succ_le_zero _)
        refine (length_packBatches_nil_le_iff turns hpayload hsize hfull ?_).mpr hturns
        omega
  have hheaders := Nat.mul_le_mul_right c.headerBytes hlength
  have htotal : ((c.packBatches l [] 0).flatten.map Transaction.payloadSize).sum =
      l.length * c.transactionSize.toNat := by
    rw [flatten_packBatches, List.nil_append]
    exact sum_payloadSize hpayload
  apply SueQueueManager.exists_reserveAll
  · intro amount hamount
    obtain ⟨batch, hbatch, rfl⟩ := List.mem_map.mp hamount
    have hone := Nat.mul_le_mul_right c.headerBytes (List.length_pos_of_mem hbatch)
    have hpart : (batch.map Transaction.payloadSize).sum ≤
        ((c.packBatches l [] 0).flatten.map Transaction.payloadSize).sum :=
      (((List.sublist_flatten_of_mem hbatch).map _).sum_le_sum fun _ _ => Nat.zero_le _)
    have hheader : SueHeader.serializedSize ≤ c.headerBytes := Nat.le_add_right _ _
    refine packedSize_pos ?_
    omega
  · rw [hheader, hcapacity]
    refine (c.sum_packedSize_le _).trans ?_
    omega

/-! ## When the plan fits -/

/-- What a round knows of the number of transactions that it packs at most: there is room for
them with the headers of some packets, and when they fill more than 255 packets. -/
structure Limits (c : SueClient) (capacity limit : UInt32) : Prop where
  counts : ∃ left, c.packingLoop (2 ^ 32) capacity 0 = some left ∧ PackingRun c capacity 0 left
  limit_eq : c.maxPacketsToPack capacity = some limit
  room : ∃ turns, limit.toNat ≤ turns * c.perPacket ∧
    limit.toNat * c.transactionSize.toNat + turns * c.headerBytes ≤ capacity.toNat
  many : 255 * c.perPacket < limit.toNat ↔ c.transactionSize ≤ c.maxBurstSize ∧
    ¬c.UsedUp capacity.toNat ∧
    255 * (c.maxBurstSize.toNat + c.headerBytes) < capacity.toNat ∧
    ¬c.CountsNothing (capacity.toNat - 255 * (c.maxBurstSize.toNat + c.headerBytes))

theorem exists_limits (hsize : 0 < c.transactionSize.toNat) (hsum : c.onePacked < 2 ^ 32)
    (capacity : UInt32) : ∃ limit, c.Limits capacity limit := by
  have hroom : (0 : UInt32).toNat * c.transactionSize.toNat + capacity.toNat < 2 ^ 32 := by
    rw [UInt32.toNat_zero, Nat.zero_mul, Nat.zero_add]
    exact capacity.toNat_lt
  obtain ⟨left, hleft, hrun⟩ := exists_packingRun hsize hsum (2 ^ 32) capacity 0
    capacity.toNat_lt hroom
  obtain ⟨n, turns, hcount, hturns, hbytes⟩ := hrun.count
  rw [UInt32.toNat_zero, Nat.zero_add] at hcount
  have hle : (if left.1 = 0 then 0 else left.2).toNat ≤ n := by
    split_ifs
    · exact Nat.zero_le _
    · exact hcount.le
  have htaken := Nat.mul_le_mul_right c.transactionSize.toNat hle
  refine ⟨if left.1 = 0 then 0 else left.2, ⟨left, hleft, hrun⟩, ?_,
    ⟨turns, hle.trans hturns, by omega⟩, ?_⟩
  · unfold maxPacketsToPack
    rw [hleft]
    rfl
  · by_cases hburst : c.transactionSize.toNat ≤ c.maxBurstSize.toNat
    · have hused := hrun.left_eq_zero_iff hsize hburst
      have hmore := hrun.lt_count_iff hsize hburst 255
      rw [UInt32.toNat_zero, Nat.zero_add] at hmore
      rw [and_iff_right (UInt32.le_iff_toNat_le.mpr hburst), ← hmore, ← hused]
      by_cases hzero : left.1 = 0
      · rw [if_pos hzero, hzero]
        exact iff_of_false (Nat.not_lt_zero _) fun h => h.1 rfl
      · rw [if_neg hzero]
        exact (and_iff_right fun h => hzero (UInt32.toNat_inj.mp h)).symm
    · have hnone : c.perPacket = 0 := Nat.div_eq_of_lt (Nat.not_le.mp hburst)
      rw [hnone, Nat.mul_zero] at hturns
      refine iff_of_false ?_ fun h => hburst (UInt32.le_iff_toNat_le.mp h.1)
      omega

/-- A round whose packets are fewer than 256 can reserve the capacity for them. -/
theorem Limits.planFits_iff {α : Type} [QueueItem α] {m : SueQueueManager α}
    {key : Destination} {capacity limit : UInt32} (h : c.Limits capacity limit)
    (hsize : 0 < c.transactionSize.toNat)
    (hheader : m.additionalHeaderSize = c.additionalHeaderSize.toNat)
    (hcapacity : m.getVcAvailableCapacity key.vcId = capacity.toNat)
    (hpayload : ∀ t ∈ (c.queueOf key).transactions, t.payloadSize = c.transactionSize.toNat)
    (hvc : (c.queueOf key).transactions ≠ [] → c.packedVc key = key.vcId) :
    c.PlanFits m key capacity ↔ (c.packedBatches key
      (min limit.toNat (toU32 (c.queueOf key).queue.length))).length ≤ 255 := by
  obtain ⟨turns, hturns, hbytes⟩ := h.room
  constructor
  · rintro ⟨-, limit', hsome, batches, hplanned, -⟩
    cases h.limit_eq.symm.trans hsome
    obtain ⟨rfl, hfew⟩ := smartPacking_eq_some_iff.mp hplanned
    exact Nat.le_of_lt_succ hfew
  · intro hfew
    refine ⟨h.counts, limit, h.limit_eq, _,
      smartPacking_eq_some_iff.mpr ⟨rfl, Nat.lt_succ_of_le hfew⟩, ?_⟩
    unfold packedBatches
    generalize hl : (c.queueOf key).transactions.take
      (min limit.toNat (toU32 (c.queueOf key).queue.length)) = l
    have hlength : l.length ≤ limit.toNat := by
      rw [← hl, List.length_take]
      exact (min_le_left _ _).trans (min_le_left _ _)
    have hmem : ∀ t ∈ l, t ∈ (c.queueOf key).transactions := by
      intro t ht
      rw [← hl] at ht
      exact List.mem_of_mem_take ht
    cases l with
    | nil => exact ⟨m, rfl⟩
    | cons t rest =>
        rw [hvc (List.ne_nil_of_mem (hmem t List.mem_cons_self))]
        have htaken := Nat.mul_le_mul_right c.transactionSize.toNat hlength
        refine exists_reserveAll_packBatches (fun t ht => hpayload t (hmem t ht)) hsize
          (hlength.trans hturns) ?_ hheader hcapacity
        omega

/-- There are more than 255 packets when both the capacity and the queue have transactions
for them. -/
theorem Limits.length_packedBatches_le_iff {key : Destination} {capacity limit : UInt32}
    (h : c.Limits capacity limit) (hsize : 0 < c.transactionSize.toNat)
    (hpayload : ∀ t ∈ (c.queueOf key).transactions, t.payloadSize = c.transactionSize.toNat) :
    (c.packedBatches key
        (min limit.toNat (toU32 (c.queueOf key).queue.length))).length ≤ 255 ↔
      ¬(255 * c.perPacket < limit.toNat ∧
        255 * c.perPacket < toU32 (c.queueOf key).queue.length) := by
  obtain ⟨turns, hturns, hbytes⟩ := h.room
  unfold packedBatches
  have htotal : (c.queueOf key).transactions.length = (c.queueOf key).queue.length :=
    List.length_map _
  have hmod : toU32 (c.queueOf key).queue.length ≤ (c.queueOf key).queue.length := Nat.mod_le _ _
  generalize hl : (c.queueOf key).transactions.take
    (min limit.toNat (toU32 (c.queueOf key).queue.length)) = l
  have hlength : l.length = min limit.toNat (toU32 (c.queueOf key).queue.length) := by
    rw [← hl, List.length_take, htotal]
    omega
  have hmem : ∀ t ∈ l, t.payloadSize = c.transactionSize.toNat := by
    intro t ht
    rw [← hl] at ht
    exact hpayload t (List.mem_of_mem_take ht)
  by_cases hfull : 0 < c.perPacket
  · have htaken := Nat.mul_le_mul_right c.transactionSize.toNat
      (hlength.le.trans (min_le_left _ _))
    have hlt := capacity.toNat_lt
    rw [length_packBatches_nil_le_iff 255 hmem hsize hfull (by omega), hlength]
    omega
  · have hnone : c.perPacket = 0 := Nat.eq_zero_of_not_pos hfull
    rw [hnone, Nat.mul_zero] at hturns
    have hempty : l = [] := List.length_eq_zero_iff.mp (by omega)
    rw [hempty]
    refine iff_of_true (Nat.zero_le _) ?_
    omega

/-- The plan of a round fits unless it makes more than 255 packets: for transactions of the
size that the client expects, the loop that counts them ends without wrapping, and the
capacity for each packet can be reserved. -/
theorem planFits_iff {α : Type} [QueueItem α] {m : SueQueueManager α} {key : Destination}
    {capacity : UInt32} (hsize : 0 < c.transactionSize.toNat) (hsum : c.onePacked < 2 ^ 32)
    (hheader : m.additionalHeaderSize = c.additionalHeaderSize.toNat)
    (hcapacity : m.getVcAvailableCapacity key.vcId = capacity.toNat)
    (hpayload : ∀ t ∈ (c.queueOf key).transactions, t.payloadSize = c.transactionSize.toNat)
    (hvc : (c.queueOf key).transactions ≠ [] → c.packedVc key = key.vcId) :
    c.PlanFits m key capacity ↔
      ¬c.PacksMany (toU32 (c.queueOf key).queue.length) capacity.toNat := by
  obtain ⟨limit, hlimit⟩ := exists_limits hsize hsum capacity
  rw [hlimit.planFits_iff hsize hheader hcapacity hpayload hvc,
    hlimit.length_packedBatches_le_iff hsize hpayload, hlimit.many]
  unfold PacksMany
  tauto

end SueClient

namespace SendLedger

/-- The packets to a destination with transactions waiting are read to be of its virtual
channel. -/
theorem packedVc_of_mem {s : SendLedger} {key : Destination} {t : Transaction}
    (hkeyed : s.client.Keyed) (ht : t ∈ (s.client.queueOf key).transactions) :
    s.client.packedVc key = key.vcId := by
  have hvc := hkeyed key t ht
  unfold SueClient.packedVc SueClient.combinedHeader
  rw [SueHeader.deserialize_serialize, SueHeader.getVc_onWire, ← hvc]
  exact (SueHeader.getVc_setVc _ _).trans (SueHeader.getVc_and_three _)

/-- In every state of a run the plan of a round fits, exactly if it does not make more than
255 packets. -/
theorem planFits_iff_packsFew {α : Type} [QueueItem α] {m : SueQueueManager α}
    {s : SendLedger} {key : Destination} {capacity : UInt32} (hreach : system.Reachable s)
    (hsize : 1 ≤ s.client.transactionSize.toNat)
    (hone : s.client.transactionSize.toNat + SueHeader.serializedSize +
      s.client.additionalHeaderSize.toNat < 2 ^ 32)
    (hheader : m.additionalHeaderSize = s.client.additionalHeaderSize.toNat)
    (hcapacity : m.getVcAvailableCapacity key.vcId = capacity.toNat)
    (hpayload : ∀ t ∈ (s.client.queueOf key).transactions,
      t.payloadSize = s.client.transactionSize.toNat) :
    s.client.PlanFits m key capacity ↔
      ¬s.client.PacksMany (toU32 (s.client.queueOf key).queue.length) capacity.toNat := by
  have hsum : s.client.onePacked < 2 ^ 32 := (Nat.add_assoc _ _ _).symm.trans_lt hone
  refine SueClient.planFits_iff hsize hsum hheader hcapacity hpayload fun hsome => ?_
  obtain ⟨t, ht⟩ := List.exists_mem_of_ne_nil _ hsome
  exact packedVc_of_mem (keyed_of_reachable hreach) ht

/-- Five transactions for one destination. -/
def fiveTransactions : List ClientEvent :=
  [.addTransaction 1 (payload 0) 1, .addTransaction 2 (payload 1) 1,
    .addTransaction 3 (payload 2) 1, .addTransaction 4 (payload 3) 1,
    .addTransaction 5 (payload 4) 1]

/-- Three packets for a device with room for 1000 bytes, of which each is reserved in turn. -/
theorem planFits_iff_packsFew_fiveTransactions :
    ∃ s, system.runActions paired fiveTransactions = some s ∧
      (s.client.planned ⟨1, 0⟩ 6).map (·.map SueClient.packedSize) = some [264, 264, 136] ∧
      s.client.PlanFits (SueQueueManager.initializeQueues ({} : SueQueueManager SuePacket) 4
        1000 44) ⟨1, 0⟩ 1000 := by
  obtain ⟨s, hrun⟩ : ∃ s, system.runActions paired fiveTransactions = some s := ⟨_, rfl⟩
  have hreach : system.Reachable s :=
    .runActions (.init ⟨rfl, rfl, rfl, rfl⟩) (fun _ _ _ => trivial) hrun
  refine ⟨s, hrun, ?_, ?_⟩
  · cases hrun
    decide
  · cases hrun
    refine (planFits_iff_packsFew hreach (by decide) (by decide) rfl (by decide)
      (by decide)).mpr fun hmany => ?_
    exact absurd hmany.2.1 (by decide)

/-! ## Packets that are not counted -/

/-- A client whose packets carry one transaction of 64 bytes. -/
def single : SendLedger where
  client := { transactionSize := 64, maxBurstSize := 64 }

theorem single_small : 64 + SueHeader.serializedSize < 2 ^ 32 := Nat.le_of_ble_eq_true rfl

/-- A transaction of 64 bytes. -/
def halfPayload (id : ℕ) : Transaction := ⟨id, SueHeader.serialize {}, 64, single_small⟩

/-- Some transactions, from one on. -/
def offers (first count : ℕ) : List ClientEvent :=
  (List.range' first count).map fun id => .addTransaction 1 (halfPayload id) 1

/-- The attributes of the client. -/
structure Single (c : SueClient) : Prop where
  transactionSize : c.transactionSize = 64
  maxBurstSize : c.maxBurstSize = 64
  additionalHeaderSize : c.additionalHeaderSize = 44
  destQueueMaxBytes : c.destQueueMaxBytes = 30720

/-- The client has been given the first transactions. -/
structure Offered (count : ℕ) (s : SendLedger) : Prop where
  attributes : Single s.client
  queue : s.client.queueOf ⟨1, 0⟩ =
    { queue := (List.range count).map fun id => (1, halfPayload id)
      currentBurstSize := count * 72 }
  accepted : s.accepted = (List.range count).map fun id => (⟨1, 0⟩, halfPayload id)

theorem keyOf_halfPayload (id : ℕ) : SueClient.keyOf (halfPayload id) 1 = ⟨1, 0⟩ := by
  have hvc : (halfPayload id).vc = 0 := by
    show (SueHeader.deserialize (SueHeader.serialize {})).getVc = 0
    decide
  unfold SueClient.keyOf
  rw [hvc]

theorem Offered.give {count : ℕ} {s : SendLedger} (h : Offered count s) (hcount : count < 256) :
    Offered (count + 1) (s.give 1 (halfPayload count) 1) := by
  have hkey := keyOf_halfPayload count
  have hsize : (halfPayload count).size = 72 := rfl
  have hnew : halfPayload count ∉ s.accepted.map Prod.snd := by
    rw [h.accepted, List.map_map]
    intro hmem
    obtain ⟨id, hid, hsame⟩ := List.mem_map.mp hmem
    have hlt := List.mem_range.mp hid
    have heq : id = count := congrArg Transaction.id hsame
    omega
  have hsum : toU32 (count * 72 + 72) = count * 72 + 72 := toU32_of_lt (by omega)
  have haccepts : s.client.accepts (halfPayload count) 1 = true := by
    unfold SueClient.accepts SueClient.getDestQueueMaxBytes
    rw [hkey, h.queue, hsize, h.attributes.destQueueMaxBytes]
    dsimp only
    rw [hsum]
    have hmax : (30720 : UInt32).toNat = 30720 := rfl
    exact decide_eq_true (by omega)
  unfold SendLedger.give
  rw [if_neg hnew, if_pos haccepts]
  refine ⟨⟨?_, ?_, ?_, ?_⟩, ?_, ?_⟩
  · exact h.attributes.transactionSize
  · exact h.attributes.maxBurstSize
  · exact h.attributes.additionalHeaderSize
  · exact h.attributes.destQueueMaxBytes
  · dsimp only
    rw [SueClient.queueOf_addTransaction, if_pos ⟨hkey.symm, haccepts⟩, h.queue]
    unfold QueueState.push
    dsimp only
    rw [hsize, hsum, List.range_succ, List.map_append, Nat.succ_mul]
    rfl
  · dsimp only
    rw [h.accepted, hkey, List.range_succ, List.map_append]
    rfl

theorem exists_offered {first count : ℕ} {s : SendLedger} (h : Offered first s)
    (hcount : first + count ≤ 256) :
    ∃ s', system.runActions s (offers first count) = some s' ∧ Offered (first + count) s' := by
  induction count generalizing first s with
  | zero => exact ⟨s, rfl, h⟩
  | succ count ih =>
      obtain ⟨s', hrun, hoffered⟩ := ih (h.give (by omega)) (by omega)
      refine ⟨s', ?_, ?_⟩
      · exact TransitionSystem.runActions_cons_eq_some.mpr ⟨_, rfl, hrun⟩
      · rw [Nat.add_comm count, ← Nat.add_assoc]
        exact hoffered

theorem Single.toNat {c : SueClient} (h : Single c) :
    c.transactionSize.toNat = 64 ∧ c.maxBurstSize.toNat = 64 ∧ c.headerBytes = 52 := by
  unfold SueClient.headerBytes
  rw [h.transactionSize, h.maxBurstSize, h.additionalHeaderSize]
  exact ⟨rfl, rfl, rfl⟩

/-- A client of one transaction in a packet uses up whole packets. -/
theorem Single.dvd_of_usedUp {c : SueClient} {capacity : ℕ} (h : Single c)
    (hused : c.UsedUp capacity) : 116 ∣ capacity := by
  obtain ⟨hsize, hburst, hheader⟩ := h.toNat
  induction hused with
  | none => exact dvd_zero _
  | full _ _ ih => omega
  | last _ _ _ hmore hfits _ => omega

theorem Single.packsMany {c : SueClient} (h : Single c) : c.PacksMany 256 30000 := by
  obtain ⟨hsize, hburst, hheader⟩ := h.toNat
  have hone : c.perPacket = 1 := by
    unfold SueClient.perPacket
    rw [hsize, hburst]
  refine ⟨UInt32.le_iff_toNat_le.mpr (by omega), by omega, fun hused => ?_, by omega, ?_⟩
  · have hdvd := h.dvd_of_usedUp hused
    omega
  · rw [hburst, hheader]
    intro hnothing
    generalize hrest : 30000 - 255 * (64 + 52) = rest at hnothing
    cases hnothing with
    | done hend =>
        unfold SueClient.onePacked at hend
        omega
    | last _ _ _ hfits => omega

/-- With 256 transactions of 64 bytes and room for 30000 bytes, `SmartPacking` makes 256
packets and does not return. -/
theorem not_planFits_offers :
    ∃ s, system.Reachable s ∧ system.runActions single (offers 0 256) = some s ∧
      (∀ t ∈ (s.client.queueOf ⟨1, 0⟩).transactions,
        t.payloadSize = s.client.transactionSize.toNat) ∧
      ∃ m : SueQueueManager SuePacket, m.additionalHeaderSize =
          s.client.additionalHeaderSize.toNat ∧
        m.getVcAvailableCapacity 0 = (30000 : UInt32).toNat ∧
        ¬s.client.PlanFits m ⟨1, 0⟩ 30000 := by
  have hstart : Offered 0 single := ⟨⟨rfl, rfl, rfl, rfl⟩, rfl, rfl⟩
  obtain ⟨s, hrun, hoffered⟩ := exists_offered hstart (show 0 + 256 ≤ 256 from le_refl _)
  have hreach : system.Reachable s :=
    .runActions (.init ⟨rfl, rfl, rfl, rfl⟩) (fun _ _ _ => trivial) hrun
  obtain ⟨hsize, -, hheader⟩ := hoffered.attributes.toNat
  have hpayload : ∀ t ∈ (s.client.queueOf ⟨1, 0⟩).transactions,
      t.payloadSize = s.client.transactionSize.toNat := by
    rw [hoffered.queue, hsize]
    intro t ht
    obtain ⟨e, he, rfl⟩ := List.mem_map.mp ht
    obtain ⟨id, -, rfl⟩ := List.mem_map.mp he
    rfl
  have hadditional : (SueQueueManager.initializeQueues ({} : SueQueueManager SuePacket) 4 30000
      44).additionalHeaderSize = s.client.additionalHeaderSize.toNat := by
    rw [hoffered.attributes.additionalHeaderSize]
    rfl
  refine ⟨s, hreach, hrun, hpayload, _, hadditional, by decide, fun hfits => ?_⟩
  have hsum : s.client.onePacked < 2 ^ 32 := by
    unfold SueClient.onePacked
    omega
  refine (SueClient.planFits_iff (by omega) hsum hadditional (by decide) hpayload ?_).mp hfits ?_
  · intro hsome
    obtain ⟨t, ht⟩ := List.exists_mem_of_ne_nil _ hsome
    exact packedVc_of_mem (keyed_of_reachable hreach) ht
  · have hlength : toU32 (s.client.queueOf ⟨1, 0⟩).queue.length = 256 := by
      rw [hoffered.queue, List.length_map, List.length_range]
      rfl
    rw [hlength]
    exact hoffered.attributes.packsMany

end SendLedger

end UeSim
