import UeSim.Sue.SueClient

/-!
# The send scheduler of a client

A round of `ScheduleNextSend` takes the queue whose first transaction has waited longest and
the device with the most room for its virtual channel, packs transactions of the queue
without taking them out, and schedules a `DoSendBurst` for each packet.  Transactions leave
the queue when a packet has been sent, as many as `AnalyzeTransactionCount` estimates from
the size of the packet.

What `GetDeviceCapacities` returns is an input of a round.  A round is one in which the
capacity for each packet can be reserved: another one ends the program.  A round of more
packets than the 8-bit index of the statistics counts does not return.
-/

namespace UeSim

/-- `DeviceCapacityInfo` of a device that is there, and whether there is a socket for it. -/
structure DeviceCapacityInfo where
  deviceIndex : ℕ
  vcCapacities : List UInt32
  hasSocket : Bool
  deriving DecidableEq, Repr

/-- What the socket does with the packet of a `DoSendBurst`: `ValidateSocketState` fails,
`SendTo` fails, or it takes the packet. -/
inductive SendOutcome
  | invalidSocket
  | failed
  | taken
  deriving DecidableEq, Repr

/-- The device that a round takes, with its capacity: the first one with the most. -/
def selectDevice (devices : List DeviceCapacityInfo) (vcId : UInt8) :
    UInt32 × Option DeviceCapacityInfo :=
  devices.foldl
    (fun best info =>
      match info.vcCapacities[vcId.toNat]? with
      | none => best
      | some capacity => if capacity > best.1 then (capacity, some info) else best)
    (0, none)

namespace Burst

/-- `GetSize` of the payload of a packet. -/
def payloadSize (b : Burst) : UInt32 :=
  UInt32.ofNat (b.transactions.map Transaction.payloadSize).sum

/-- Whether a `DoSendBurst` sends its packet. -/
def isSent (b : Burst) (outcome : SendOutcome) : Bool :=
  outcome = .taken ∧ b.dest.destXpuId ≠ 0xFFFFFFFF

end Burst

namespace SueClient

/-! ## What a round takes -/

/-- The destinations that have a queue, in the order of the map. -/
def destinations (c : SueClient) : List Destination :=
  c.destQueues.keys.insertionSort Destination.le

/-- How long the first transaction of a queue has waited. -/
def waitTime (c : SueClient) (now : ℕ) (key : Destination) : ℕ :=
  match (c.queueOf key).queue with
  | [] => 0
  | (enqueueTime, _) :: _ => now - enqueueTime

/-- The queue that a round takes: the first one whose head has waited longest. -/
def selectQueue (c : SueClient) (now : ℕ) : Option Destination :=
  (c.destinations.foldl
    (fun best key =>
      if c.waitTime now key > best.1 then (c.waitTime now key, some key) else best)
    (0, none)).2

/-- The loop that counts how many transactions there is room for, with the capacity that it
leaves.  There is no result if it divides by zero, or if it has come back to a capacity, and
does not end, with the fuel for all 32-bit numbers used up. -/
def packingLoop (c : SueClient) : ℕ → UInt32 → UInt32 → Option (UInt32 × UInt32)
  | 0, _, _ => none
  | fuel + 1, capacity, maxPacketsToPack =>
      let headers := UInt32.ofNat SueHeader.serializedSize + c.additionalHeaderSize
      if capacity > c.transactionSize + headers then
        let available := capacity - headers
        if c.transactionSize = 0 then none
        else if available > c.maxBurstSize then
          c.packingLoop fuel (capacity - (c.maxBurstSize + headers))
            (maxPacketsToPack + c.maxBurstSize / c.transactionSize)
        else
          let numTemp := (available / c.transactionSize).toUInt8.toUInt32
          c.packingLoop fuel (capacity - (numTemp * c.transactionSize + headers))
            (maxPacketsToPack + numTemp)
      else some (capacity, maxPacketsToPack)

/-- The number of transactions for which a device with a capacity has room, which is none if
nothing of the capacity is left. -/
def maxPacketsToPack (c : SueClient) (capacity : UInt32) : Option UInt32 :=
  (c.packingLoop (2 ^ 32) capacity 0).map fun left => if left.1 = 0 then 0 else left.2

/-! ## Packing -/

/-- The loop of `SmartPacking`, with the transactions of the current batch and its size. -/
def packBatches (c : SueClient) :
    List Transaction → List Transaction → UInt32 → List (List Transaction)
  | [], batch, _ => if batch = [] then [] else [batch]
  | t :: rest, batch, size =>
      if size + c.transactionSize > c.maxBurstSize ∧ batch ≠ [] then
        batch :: c.packBatches rest [t] (UInt32.ofNat t.payloadSize)
      else c.packBatches rest (batch ++ [t]) (size + UInt32.ofNat t.payloadSize)

/-- The transactions of the packets that `SmartPacking` makes. -/
def packedBatches (c : SueClient) (dest : Destination) (maxPackets : ℕ) :
    List (List Transaction) :=
  c.packBatches ((c.queueOf dest).transactions.take maxPackets) [] 0

/-- The loop of `SmartPacking` over the packets for the statistics, from an index of 8 bits.
There is no result if the index has come back to one that it had before. -/
def packNumLoop (packets : ℕ) : ℕ → UInt8 → Option Unit
  | 0, _ => none
  | fuel + 1, i => if i.toNat < packets then packNumLoop packets fuel (i + 1) else some ()

/-- `SmartPacking`, if it returns, with the transactions of its packets. -/
def smartPacking (c : SueClient) (dest : Destination) (maxPackets : ℕ) :
    Option (List (List Transaction)) :=
  (packNumLoop (c.packedBatches dest maxPackets).length (2 ^ 8) 0).map fun _ =>
    c.packedBatches dest maxPackets

/-- The header that `CreateCombinedPacket` adds. -/
def combinedHeader (c : SueClient) (dest : Destination) : SueHeader :=
  (((({} : SueHeader).setPsn c.psn).setXpuId dest.destXpuId.toUInt16).setVc dest.vcId).setOp 0

/-- The packet of a batch, with the `DoSendBurst` that is scheduled for it. -/
def packetOf (c : SueClient) (now : ℕ) (dest : Destination) (device : ℕ)
    (batch : List Transaction × ℕ) : Burst where
  header := (c.combinedHeader dest).serialize
  transactions := batch.1
  dest := dest
  device := device
  sendTime := now + c.packingDelayPerPacket * (batch.2 + 1)

/-- Schedule the packets of a round. -/
def launch (c : SueClient) (now : ℕ) (dest : Destination) (info : DeviceCapacityInfo)
    (batches : List (List Transaction)) : SueClient :=
  { c with
    bursts :=
      if info.hasSocket then
        c.bursts ++ batches.zipIdx.map (c.packetOf now dest info.deviceIndex)
      else c.bursts }

/-! ## Rounds -/

/-- The next round is scheduled, unless logging is disabled. -/
def reschedule (c : SueClient) (now : ℕ) : SueClient :=
  { c with
    schedulerEvent := if c.loggingEnabled then some (now + c.schedulingInterval) else none }

/-- `ScheduleNextSend` after it has scheduled the next round, if it returns. -/
def sendRound (c : SueClient) (now : ℕ) (devices : List DeviceCapacityInfo) : Option SueClient :=
  match c.selectQueue now with
  | none => some c
  | some dest =>
      match selectDevice devices dest.vcId with
      | (_, none) => some c
      | (capacity, some info) =>
          (c.maxPacketsToPack capacity).bind fun limit =>
            (c.smartPacking dest (min limit.toNat (toU32 (c.queueOf dest).queue.length))).map
              (c.launch now dest info)

/-- `ScheduleNextSend`, if it returns. -/
def scheduleNextSend (c : SueClient) (now : ℕ) (devices : List DeviceCapacityInfo) :
    Option SueClient :=
  (c.reschedule now).sendRound now devices

/-- `StopApplication`. -/
def stopApplication (c : SueClient) : SueClient := { c with schedulerEvent := none }

/-- `SetLoggingEnabled`, which is what `CancelAllLogEvents` does to a client. -/
def setLoggingEnabled (c : SueClient) (enabled : Bool) : SueClient :=
  { c with loggingEnabled := enabled }

/-! ## Sending -/

/-- `AnalyzeTransactionCount`. -/
def analyzeTransactionCount (c : SueClient) (b : Burst) : ℕ :=
  if b.payloadSize = 0 then 1
  else max 1 ((b.payloadSize + c.transactionSize - 1) / c.transactionSize).toNat

/-- `DoSendBurst` of the `i`-th scheduled packet, up to the call of
`PopTransactionsFromQueue`. -/
def sendTo (c : SueClient) (now i : ℕ) (b : Burst) (outcome : SendOutcome) : SueClient :=
  { c with
    bursts := c.bursts.eraseIdx i
    psn := if b.isSent outcome then c.psn + 1 else c.psn
    sent := if b.isSent outcome then c.sent ++ [⟨b, now⟩] else c.sent }

/-- How many transactions a `DoSendBurst` takes out of the queue at most. -/
def popCount (c : SueClient) (b : Burst) (outcome : SendOutcome) : ℕ :=
  if b.isSent outcome then c.analyzeTransactionCount b else 0

variable {c c' : SueClient} {now : ℕ} {devices : List DeviceCapacityInfo} {b : Burst}
variable {outcome : SendOutcome}

/-! ## What rounds and packets are -/

/-- The statistics of fewer than 256 packets end, and no others. -/
theorem packNumLoop_isSome_iff (packets : ℕ) {fuel : ℕ} {i : UInt8}
    (hfuel : i.toNat + fuel = 2 ^ 8) :
    (packNumLoop packets fuel i).isSome = true ↔ packets < 2 ^ 8 ∨ packets ≤ i.toNat := by
  have hlt := i.toNat_lt
  induction fuel generalizing i with
  | zero => omega
  | succ fuel ih =>
      unfold packNumLoop
      by_cases hmore : i.toNat < packets
      · rw [if_pos hmore]
        by_cases hlast : i.toNat + 1 = 2 ^ 8
        · obtain rfl : fuel = 0 := by omega
          unfold packNumLoop
          refine iff_of_false Bool.false_ne_true ?_
          omega
        · have hnext : (i + 1).toNat = i.toNat + 1 := by
            rw [UInt8.toNat_add]
            exact Nat.mod_eq_of_lt (lt_of_le_of_ne hlt hlast)
          have hrest : (packNumLoop packets fuel (i + 1)).isSome = true ↔
              packets < 2 ^ 8 ∨ packets ≤ (i + 1).toNat :=
            ih (by omega) (i + 1).toNat_lt
          rw [hrest, hnext]
          omega
      · rw [if_neg hmore]
        exact iff_of_true rfl (.inr (Nat.not_lt.mp hmore))

/-- `SmartPacking` returns its packets exactly when there are fewer than 256. -/
theorem smartPacking_eq_some_iff {dest : Destination} {maxPackets : ℕ}
    {batches : List (List Transaction)} :
    c.smartPacking dest maxPackets = some batches ↔
      batches = c.packedBatches dest maxPackets ∧ batches.length < 2 ^ 8 := by
  have hloop := packNumLoop_isSome_iff (c.packedBatches dest maxPackets).length
    (show (0 : UInt8).toNat + 2 ^ 8 = 2 ^ 8 from rfl)
  have hzero : (0 : UInt8).toNat = 0 := rfl
  unfold smartPacking
  rw [Option.map_eq_some_iff]
  constructor
  · rintro ⟨u, hsome, rfl⟩
    refine ⟨rfl, ?_⟩
    rw [hsome] at hloop
    have hsmall := hloop.mp rfl
    omega
  · rintro ⟨rfl, hlength⟩
    obtain ⟨u, hsome⟩ := Option.isSome_iff_exists.mp (hloop.mpr (.inl hlength))
    exact ⟨u, hsome, rfl⟩

/-- A round schedules the next one, and packets of some batches of a queue. -/
theorem scheduleNextSend_eq_some (h : c.scheduleNextSend now devices = some c') :
    c' = c.reschedule now ∨ ∃ dest info maxPackets,
      c' = (c.reschedule now).launch now dest info
        ((c.reschedule now).packedBatches dest maxPackets) := by
  unfold scheduleNextSend sendRound at h
  split at h
  · exact .inl (Option.some.inj h).symm
  · rename_i dest _
    split at h
    · exact .inl (Option.some.inj h).symm
    · obtain ⟨limit, -, hpacked⟩ := Option.bind_eq_some_iff.mp h
      obtain ⟨batches, hbatches, rfl⟩ := Option.map_eq_some_iff.mp hpacked
      obtain ⟨rfl, -⟩ := smartPacking_eq_some_iff.mp hbatches
      exact .inr ⟨dest, _, _, rfl⟩

/-- The batches together are the transactions that were to be packed. -/
theorem flatten_packBatches (c : SueClient) (l batch : List Transaction) (size : UInt32) :
    (c.packBatches l batch size).flatten = batch ++ l := by
  induction l generalizing batch size with
  | nil =>
      unfold packBatches
      split_ifs with hbatch
      · rw [hbatch]
        rfl
      · simp
  | cons t rest ih =>
      unfold packBatches
      split_ifs
      · rw [List.flatten_cons, ih]
        rfl
      · rw [ih, List.append_assoc]
        rfl

/-- No batch is empty. -/
theorem ne_nil_of_mem_packBatches {l batch batch' : List Transaction} {size : UInt32}
    (h : batch' ∈ c.packBatches l batch size) : batch' ≠ [] := by
  induction l generalizing batch size with
  | nil =>
      unfold packBatches at h
      split_ifs at h with hbatch
      · cases h
      · rw [List.mem_singleton.mp h]
        exact hbatch
  | cons t rest ih =>
      unfold packBatches at h
      split_ifs at h with hfull
      · rcases List.mem_cons.mp h with rfl | h
        · exact hfull.2
        · exact ih h
      · exact ih h

/-- A batch of a round is a part of the queue. -/
theorem infix_of_mem_packedBatches {dest : Destination} {maxPackets : ℕ}
    {batch : List Transaction} (h : batch ∈ c.packedBatches dest maxPackets) :
    batch <:+: (c.queueOf dest).transactions := by
  have hflat : batch <:+: (c.packedBatches dest maxPackets).flatten := by
    obtain ⟨before, after, hsplit⟩ := List.append_of_mem h
    refine ⟨before.flatten, after.flatten, ?_⟩
    rw [hsplit, List.flatten_append, List.flatten_cons, List.append_assoc]
  unfold packedBatches at hflat
  rw [flatten_packBatches, List.nil_append] at hflat
  exact hflat.trans (List.take_prefix _ _).isInfix

end SueClient

end UeSim
