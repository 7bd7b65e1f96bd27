import UeSim.Sue.PackingLoop
import Mathlib.Data.List.MinMax

/-!
# Rounds that schedule nothing

A round of `ScheduleNextSend` takes the queue that has waited longest and the device with the
most capacity for it, and schedules nothing if the counting loop counts no transaction, or if
it leaves nothing of the capacity.  These are the capacities that are sums of packets as the
loop takes them off: a packet that just fits in is one of them.  A round of 256 packets or
more never comes to schedule them.
-/

namespace UeSim

/-! ## The first maximum of a list -/

section FirstMaximum

variable {α β : Type*} [LT β] [DecidableLT β]

/-- A loop that keeps what is more than the best so far finds the first maximum of a list, if
it is more than what the loop starts with. -/
theorem foldl_eq_argmax (f : α → β) (toNat : β → ℕ) (hlt : ∀ a b, a < b ↔ toNat a < toNat b)
    {start : β} (hstart : toNat start = 0) (l : List α) :
    l.foldl (fun best x => if f x > best.1 then (f x, some x) else best) (start, none) =
      ((l.argmax fun x => toNat (f x)).filter fun x => 0 < toNat (f x)).elim (start, none)
        fun x => (f x, some x) := by
  induction l using List.reverseRecOn with
  | nil => rfl
  | append_singleton l x ih =>
      rw [List.foldl_append, List.foldl_cons, List.foldl_nil, ih, List.argmax_concat]
      cases l.argmax fun x => toNat (f x) with
      | none =>
          by_cases hpos : 0 < toNat (f x)
          · simp [Option.filter, hlt, hstart, hpos]
          · simp [Option.filter, hlt, hstart, hpos]
      | some m =>
          by_cases hm : 0 < toNat (f m)
          · by_cases hmore : toNat (f m) < toNat (f x)
            · simp [Option.filter, hlt, hm, hmore, hm.trans hmore]
            · simp [Option.filter, hlt, hm, hmore]
          · by_cases hpos : 0 < toNat (f x)
            · have hmore : toNat (f m) < toNat (f x) := (Nat.not_lt.mp hm).trans_lt hpos
              simp [Option.filter, hlt, hstart, hm, hpos, hmore]
            · have hmore : ¬toNat (f m) < toNat (f x) := fun h =>
                hpos ((Nat.zero_le _).trans_lt h)
              simp [Option.filter, hlt, hstart, hm, hpos, hmore]

end FirstMaximum

/-- The capacity of a device for a virtual channel. -/
def DeviceCapacityInfo.capacityFor (info : DeviceCapacityInfo) (vcId : UInt8) : UInt32 :=
  info.vcCapacities[vcId.toNat]?.getD 0

/-- The device that a round takes is the first one with the most capacity. -/
theorem selectDevice_eq (devices : List DeviceCapacityInfo) (vcId : UInt8) :
    selectDevice devices vcId =
      ((devices.argmax fun info => (info.capacityFor vcId).toNat).filter fun info =>
        0 < (info.capacityFor vcId).toNat).elim (0, none)
          fun info => (info.capacityFor vcId, some info) := by
  refine Eq.trans ?_ (foldl_eq_argmax (fun info => info.capacityFor vcId) UInt32.toNat
    (fun _ _ => UInt32.lt_iff_toNat_lt) UInt32.toNat_zero devices)
  unfold selectDevice
  congr 1
  funext best info
  unfold DeviceCapacityInfo.capacityFor
  cases info.vcCapacities[vcId.toNat]? with
  | none => exact (if_neg (UInt32.not_lt.mpr (UInt32.zero_le))).symm
  | some capacity => rfl

namespace SueClient

variable {c c' : SueClient} {now : ℕ} {devices : List DeviceCapacityInfo}

/-- The queue that a round takes is the first one whose head has waited longest. -/
theorem selectQueue_eq (c : SueClient) (now : ℕ) :
    c.selectQueue now =
      (c.destinations.argmax (c.waitTime now)).filter fun key => 0 < c.waitTime now key := by
  unfold selectQueue
  rw [foldl_eq_argmax (c.waitTime now) id (fun _ _ => Iff.rfl) rfl]
  dsimp only [id]
  cases (c.destinations.argmax (c.waitTime now)).filter fun key => 0 < c.waitTime now key <;> rfl

/-! ## What should hold -/

/-- A queue has a transaction that has waited, and a device has room for one packed
transaction of it. -/
def Servable (c : SueClient) (now : ℕ) (devices : List DeviceCapacityInfo) : Prop :=
  c.transactionSize ≤ c.maxBurstSize ∧ ∃ key, 0 < c.waitTime now key ∧
    ∃ info ∈ devices, c.onePacked ≤ (info.capacityFor key.vcId).toNat

/-- A round schedules at least one packet. -/
def Progresses (c : SueClient) (now : ℕ) (devices : List DeviceCapacityInfo) : Prop :=
  ∃ c', c.scheduleNextSend now devices = some c' ∧ c.bursts.length < c'.bursts.length

/-! ## When nothing is scheduled -/

/-- The capacities that the loop uses up: sums of full packets and, once there is no more than
one of them left, of packets with as many transactions as are counted. -/
inductive UsedUp (c : SueClient) : ℕ → Prop
  | none : UsedUp c 0
  | full {capacity : ℕ} (hrest : UsedUp c capacity) (hpos : 0 < capacity) :
      UsedUp c (capacity + (c.maxBurstSize.toNat + c.headerBytes))
  | last {capacity n : ℕ} (hrest : UsedUp c capacity) (hn : n < 256)
      (hmultiple : 256 ∣ capacity / c.transactionSize.toNat)
      (hmore : c.transactionSize.toNat < capacity + n * c.transactionSize.toNat)
      (hfits : capacity + n * c.transactionSize.toNat ≤ c.maxBurstSize.toNat) :
      UsedUp c (capacity + (n * c.transactionSize.toNat + c.headerBytes))

/-- The capacities in which the loop counts no transaction: one packed transaction or less,
with headers as long as a multiple of 256 transactions is counted as none. -/
inductive CountsNothing (c : SueClient) : ℕ → Prop
  | done {capacity : ℕ} (hend : capacity ≤ c.onePacked) : CountsNothing c capacity
  | last {capacity : ℕ} (hrest : CountsNothing c capacity)
      (hmultiple : 256 ∣ capacity / c.transactionSize.toNat)
      (hmore : c.transactionSize.toNat < capacity)
      (hfits : capacity ≤ c.maxBurstSize.toNat) : CountsNothing c (capacity + c.headerBytes)

/-- The transactions at the head of a queue for which a device has room make fewer than 256
packets. -/
def PacksFew (c : SueClient) (key : Destination) (capacity : UInt32) : Prop :=
  ∀ left, c.PackingRun capacity 0 left →
    (c.packedBatches key
      (min left.2.toNat (toU32 (c.queueOf key).queue.length))).length < 2 ^ 8

/-- The first queue that has waited longest, and the first device with the most capacity for
it, are such that something is scheduled. -/
def SchedulesSome (c : SueClient) (now : ℕ) (devices : List DeviceCapacityInfo) : Prop :=
  c.transactionSize ≠ 0 ∧ ∃ key ∈ c.destinations.argmax (c.waitTime now),
    toU32 (c.queueOf key).queue.length ≠ 0 ∧
    ∃ info ∈ devices.argmax fun info => (info.capacityFor key.vcId).toNat,
      info.hasSocket = true ∧ ¬c.UsedUp (info.capacityFor key.vcId).toNat ∧
        ¬c.CountsNothing (info.capacityFor key.vcId).toNat ∧
        c.PacksFew key (info.capacityFor key.vcId)

/-! ## What a run of the loop leaves -/

section Runs

variable {capacity maxPacketsToPack : UInt32} {left : UInt32 × UInt32} {C available : ℕ}

theorem usedUp_iff_of_le (hburst : c.transactionSize.toNat ≤ c.maxBurstSize.toNat)
    (hend : C ≤ c.onePacked) : c.UsedUp C ↔ C = 0 := by
  unfold onePacked at hend
  constructor
  · intro hused
    cases hused with
    | none => rfl
    | full hrest hpos => omega
    | last hrest hn hmultiple hmore hfits => omega
  · rintro rfl
    exact .none

theorem usedUp_full_iff (hpos : 0 < C) :
    c.UsedUp (C + (c.maxBurstSize.toNat + c.headerBytes)) ↔ c.UsedUp C := by
  refine ⟨fun hused => ?_, fun hused => .full hused hpos⟩
  have hheader := c.headerBytes_pos
  generalize hwhole : C + (c.maxBurstSize.toNat + c.headerBytes) = whole at hused
  cases hused with
  | none => omega
  | full hrest _ =>
      obtain rfl := Nat.add_right_cancel hwhole
      exact hrest
  | last hrest hn hmultiple hmore hfits => omega

/-- What is counted is the number of transactions of a last packet. -/
theorem counted_add_mul {n : ℕ} (hsize : 0 < c.transactionSize.toNat) (hn : n < 256)
    (hmultiple : 256 ∣ C / c.transactionSize.toNat) :
    c.counted (C + n * c.transactionSize.toNat) = n := by
  unfold counted
  rw [Nat.add_mul_div_right _ _ hsize, Nat.add_mod, Nat.mod_eq_zero_of_dvd hmultiple,
    Nat.zero_add, Nat.mod_mod, Nat.mod_eq_of_lt hn]

/-- What is left after a last packet is a multiple of what is counted as none. -/
theorem dvd_of_counted (hsize : 0 < c.transactionSize.toNat)
    (hsum : C + c.counted available * c.transactionSize.toNat = available) :
    256 ∣ C / c.transactionSize.toNat := by
  have hdiv : available / c.transactionSize.toNat =
      C / c.transactionSize.toNat + c.counted available := by
    rw [← Nat.add_mul_div_right _ _ hsize, hsum]
  unfold counted at hdiv
  omega

theorem usedUp_last_iff (hsize : 0 < c.transactionSize.toNat)
    (hmore : c.transactionSize.toNat < available) (hfits : available ≤ c.maxBurstSize.toNat)
    (hsum : C + c.counted available * c.transactionSize.toNat = available) :
    c.UsedUp (available + c.headerBytes) ↔ c.UsedUp C := by
  constructor
  · intro hused
    generalize hwhole : available + c.headerBytes = whole at hused
    cases hused with
    | none => omega
    | full hrest hpos => omega
    | @last C' n hrest hn hmultiple _ _ =>
        obtain rfl : available = C' + n * c.transactionSize.toNat := by omega
        rw [counted_add_mul hsize hn hmultiple] at hsum
        obtain rfl := Nat.add_right_cancel hsum
        exact hrest
  · intro hused
    have hlast := UsedUp.last (n := c.counted available) hused (Nat.mod_lt _ (by decide))
      (dvd_of_counted hsize hsum) (hmore.trans_eq hsum.symm) (hsum.trans_le hfits)
    rw [← Nat.add_assoc, hsum] at hlast
    exact hlast

/-- A run leaves nothing if it uses up the capacity. -/
theorem PackingRun.left_eq_zero_iff (h : PackingRun c capacity maxPacketsToPack left)
    (hsize : 0 < c.transactionSize.toNat)
    (hburst : c.transactionSize.toNat ≤ c.maxBurstSize.toNat) :
    left.1.toNat = 0 ↔ c.UsedUp capacity.toNat := by
  induction h with
  | done hsum hend => exact (usedUp_iff_of_le hburst hend).symm
  | full hmore hfull hcapacity hcount _ ih =>
      rw [ih, ← hcapacity]
      exact (usedUp_full_iff (by omega)).symm
  | last hmore havailable hfits hcapacity hcount _ ih =>
      unfold onePacked at hmore
      rw [ih, ← havailable]
      exact (usedUp_last_iff hsize (by omega) hfits (by omega)).symm

/-- A full packet has transactions that are counted. -/
theorem not_countsNothing_of_full (hburst : c.transactionSize.toNat ≤ c.maxBurstSize.toNat)
    (hfull : c.maxBurstSize.toNat + c.headerBytes < C) : ¬c.CountsNothing C := by
  intro hnothing
  cases hnothing with
  | done hend =>
      unfold onePacked at hend
      omega
  | last hrest hmultiple hmore hfits => omega

theorem countsNothing_last_iff (hmore : c.transactionSize.toNat < available)
    (hfits : available ≤ c.maxBurstSize.toNat) :
    c.CountsNothing (available + c.headerBytes) ↔
      c.counted available = 0 ∧ c.CountsNothing available := by
  constructor
  · intro hnothing
    generalize hwhole : available + c.headerBytes = whole at hnothing
    cases hnothing with
    | done hend =>
        unfold onePacked at hend
        omega
    | last hrest hmultiple _ _ =>
        obtain rfl := Nat.add_right_cancel hwhole
        exact ⟨Nat.mod_eq_zero_of_dvd hmultiple, hrest⟩
  · rintro ⟨hnone, hnothing⟩
    exact .last hnothing (Nat.dvd_of_mod_eq_zero hnone) hmore hfits

/-- A run counts nothing more if nothing is counted in the capacity. -/
theorem PackingRun.count_eq_iff (h : PackingRun c capacity maxPacketsToPack left)
    (hsize : 0 < c.transactionSize.toNat)
    (hburst : c.transactionSize.toNat ≤ c.maxBurstSize.toNat) :
    left.2.toNat = maxPacketsToPack.toNat ↔ c.CountsNothing capacity.toNat := by
  induction h with
  | done hsum hend => exact iff_of_true rfl (.done hend)
  | full hmore hfull hcapacity hcount hrest ih =>
      have hpacket : 0 < c.perPacket := Nat.div_pos hburst hsize
      obtain ⟨n, turns, hleft, -⟩ := hrest.count
      exact iff_of_false (by omega) (not_countsNothing_of_full hburst hfull)
  | @last _ capacity' _ _ available _ hmore havailable hfits hcapacity hcount hrest ih =>
      unfold onePacked at hmore
      rw [← havailable, countsNothing_last_iff (by omega) hfits]
      by_cases hnone : c.counted available = 0
      · rw [hnone, Nat.add_zero] at hcount
        rw [hnone, Nat.zero_mul, Nat.zero_add, ← havailable] at hcapacity
        rw [← hcount, ih, Nat.add_right_cancel hcapacity]
        exact (and_iff_right hnone).symm
      · obtain ⟨n, turns, hleft, -⟩ := hrest.count
        exact iff_of_false (by omega) fun h => hnone h.1

/-- A run counts more than some full packets have, if there is more capacity than they take
and something is counted in what they leave. -/
theorem PackingRun.lt_count_iff (h : PackingRun c capacity maxPacketsToPack left)
    (hsize : 0 < c.transactionSize.toNat)
    (hburst : c.transactionSize.toNat ≤ c.maxBurstSize.toNat) (packets : ℕ) :
    maxPacketsToPack.toNat + packets * c.perPacket < left.2.toNat ↔
      packets * (c.maxBurstSize.toNat + c.headerBytes) < capacity.toNat ∧
        ¬c.CountsNothing (capacity.toNat - packets * (c.maxBurstSize.toNat + c.headerBytes)) := by
  induction packets generalizing capacity maxPacketsToPack with
  | zero =>
      have hnothing := h.count_eq_iff hsize hburst
      obtain ⟨n, turns, hleft, -⟩ := h.count
      rw [Nat.zero_mul, Nat.zero_mul, Nat.add_zero, Nat.sub_zero, ← hnothing]
      constructor
      · intro hmore
        refine ⟨Nat.pos_of_ne_zero fun hzero => ?_, by omega⟩
        have hnone := hnothing.mpr (.done (hzero ▸ Nat.zero_le _))
        omega
      · rintro ⟨-, hne⟩
        omega
  | succ packets ih =>
      have hwhole : c.maxBurstSize.toNat + c.headerBytes ≤
          (packets + 1) * (c.maxBurstSize.toNat + c.headerBytes) :=
        Nat.le_mul_of_pos_left _ (Nat.succ_pos _)
      have hfit : c.perPacket ≤ (packets + 1) * c.perPacket :=
        Nat.le_mul_of_pos_left _ (Nat.succ_pos _)
      cases h with
      | done hsum hend =>
          unfold onePacked at hend
          dsimp only
          exact iff_of_false (by omega) fun hmore => by omega
      | @full _ capacity' _ _ _ hmore hfull hcapacity hcount hrest =>
          have hrun := ih hrest
          have hsub : capacity.toNat - (packets + 1) * (c.maxBurstSize.toNat + c.headerBytes) =
              capacity'.toNat - packets * (c.maxBurstSize.toNat + c.headerBytes) := by
            rw [← hcapacity, Nat.succ_mul]
            exact Nat.add_sub_add_right _ _ _
          rw [hsub, Nat.succ_mul, Nat.succ_mul, ← hcapacity, Nat.add_lt_add_iff_right, ← hrun,
            hcount]
          omega
      | @last _ capacity' _ _ available _ hmore havailable hfits hcapacity hcount hrest =>
          obtain ⟨n, turns, hleft, -, hbytes⟩ := hrest.count
          have htaken : (c.counted available + n) * c.transactionSize.toNat ≤
              c.maxBurstSize.toNat := by
            rw [Nat.add_mul]
            omega
          have hmost : c.counted available + n ≤ c.perPacket :=
            (Nat.le_div_iff_mul_le hsize).mpr htaken
          exact iff_of_false (by omega) fun hmore => by omega

end Runs

/-! ## What a round schedules -/

/-- Some packet is made if some transaction is packed. -/
theorem packedBatches_ne_nil_iff {dest : Destination} {maxPackets : ℕ} :
    c.packedBatches dest maxPackets ≠ [] ↔
      maxPackets ≠ 0 ∧ (c.queueOf dest).queue.length ≠ 0 := by
  have hflat : (c.packedBatches dest maxPackets).flatten =
      (c.queueOf dest).transactions.take maxPackets := c.flatten_packBatches _ [] 0
  have hlength : (c.queueOf dest).transactions.length = (c.queueOf dest).queue.length :=
    List.length_map _
  constructor
  · intro hsome
    obtain ⟨batch, hbatch⟩ := List.exists_mem_of_ne_nil _ hsome
    obtain ⟨t, ht⟩ := List.exists_mem_of_ne_nil _ (ne_nil_of_mem_packBatches hbatch)
    have htaken : t ∈ (c.queueOf dest).transactions.take maxPackets := by
      rw [← hflat]
      exact List.mem_flatten.mpr ⟨batch, hbatch, ht⟩
    have hpos := List.length_pos_of_mem htaken
    rw [List.length_take, hlength] at hpos
    omega
  · rintro ⟨hmax, hqueue⟩ hnone
    rw [hnone, List.flatten_nil] at hflat
    have hzero := congrArg List.length hflat.symm
    rw [List.length_take, hlength, List.length_nil] at hzero
    omega

/-- The capacity is counted with settings that a round does not change. -/
theorem maxPacketsToPack_reschedule (c : SueClient) (now : ℕ) (capacity : UInt32) :
    (c.reschedule now).maxPacketsToPack capacity = c.maxPacketsToPack capacity := by
  have hloop : ∀ fuel capacity count, (c.reschedule now).packingLoop fuel capacity count =
      c.packingLoop fuel capacity count := by
    intro fuel
    induction fuel with
    | zero => exact fun _ _ => rfl
    | succ fuel ih =>
        intro capacity count
        unfold packingLoop
        simp only [ih]
        rfl
  unfold maxPacketsToPack
  rw [hloop]

/-- Packing does not depend on the next round either. -/
theorem packedBatches_reschedule (c : SueClient) (now : ℕ) (dest : Destination)
    (maxPackets : ℕ) :
    (c.reschedule now).packedBatches dest maxPackets = c.packedBatches dest maxPackets := by
  have hloop : ∀ l batch size, (c.reschedule now).packBatches l batch size =
      c.packBatches l batch size := by
    intro l
    induction l with
    | nil => exact fun _ _ => rfl
    | cons t rest ih =>
        intro batch size
        unfold packBatches
        simp only [ih]
        rfl
  exact hloop _ _ _

/-- A round that takes a queue and a device. -/
theorem progresses_iff_of_selected {dest : Destination} {capacity : UInt32}
    {info : DeviceCapacityInfo} (hqueue : c.selectQueue now = some dest)
    (hdevice : selectDevice devices dest.vcId = (capacity, some info)) :
    c.Progresses now devices ↔ ∃ limit, c.maxPacketsToPack capacity = some limit ∧
      limit.toNat ≠ 0 ∧ toU32 (c.queueOf dest).queue.length ≠ 0 ∧ info.hasSocket = true ∧
      (c.packedBatches dest
        (min limit.toNat (toU32 (c.queueOf dest).queue.length))).length < 2 ^ 8 := by
  have hround : c.scheduleNextSend now devices = (c.maxPacketsToPack capacity).bind fun limit =>
      ((c.reschedule now).smartPacking dest
        (min limit.toNat (toU32 (c.queueOf dest).queue.length))).map
          ((c.reschedule now).launch now dest info) := by
    have hsame : (c.reschedule now).selectQueue now = some dest := hqueue
    unfold scheduleNextSend sendRound
    rw [hsame]
    dsimp only
    rw [hdevice]
    dsimp only
    rw [maxPacketsToPack_reschedule]
    rfl
  have hlaunched : ∀ batches, c.bursts.length <
      ((c.reschedule now).launch now dest info batches).bursts.length ↔
      batches ≠ [] ∧ info.hasSocket = true := by
    intro batches
    unfold launch
    dsimp only
    by_cases hsocket : info.hasSocket = true
    · rw [if_pos hsocket, List.length_append, List.length_map, List.length_zipIdx,
        and_iff_left hsocket, ← List.length_pos_iff]
      have hbursts : (c.reschedule now).bursts.length = c.bursts.length := rfl
      omega
    · rw [if_neg hsocket]
      exact iff_of_false (lt_irrefl _) fun h => hsocket h.2
  unfold Progresses
  rw [hround]
  constructor
  · rintro ⟨c', hc', hmore⟩
    obtain ⟨limit, hlimit, hpacked⟩ := Option.bind_eq_some_iff.mp hc'
    obtain ⟨batches, hbatches, rfl⟩ := Option.map_eq_some_iff.mp hpacked
    obtain ⟨rfl, hfew⟩ := smartPacking_eq_some_iff.mp hbatches
    obtain ⟨hsome, hsocket⟩ := (hlaunched _).mp hmore
    obtain ⟨hmax, -⟩ := packedBatches_ne_nil_iff.mp hsome
    rw [packedBatches_reschedule] at hfew
    exact ⟨limit, hlimit, by omega, by omega, hsocket, hfew⟩
  · rintro ⟨limit, hlimit, hpos, hlength, hsocket, hfew⟩
    rw [← packedBatches_reschedule c now] at hfew
    refine ⟨_, Option.bind_eq_some_iff.mpr ⟨limit, hlimit, Option.map_eq_some_iff.mpr
      ⟨_, smartPacking_eq_some_iff.mpr ⟨rfl, hfew⟩, rfl⟩⟩, (hlaunched _).mpr ⟨?_, hsocket⟩⟩
    apply packedBatches_ne_nil_iff.mpr
    have hle : toU32 (c.queueOf dest).queue.length ≤
        ((c.reschedule now).queueOf dest).queue.length := Nat.mod_le _ _
    omega

/-- Without a size of transactions, a loop that ends has counted nothing. -/
theorem packingLoop_zero {fuel : ℕ} {capacity maxPacketsToPack : UInt32}
    {left : UInt32 × UInt32} (hzero : c.transactionSize = 0)
    (hleft : c.packingLoop fuel capacity maxPacketsToPack = some left) :
    left.2 = maxPacketsToPack := by
  cases fuel with
  | zero => cases hleft
  | succ fuel =>
      unfold packingLoop at hleft
      dsimp only at hleft
      rw [if_pos hzero] at hleft
      split_ifs at hleft
      cases hleft
      rfl

/-- The limit on the transactions of a round is what is counted, unless the loop uses the
capacity up. -/
theorem exists_maxPacketsToPack (hburst : c.transactionSize.toNat ≤ c.maxBurstSize.toNat)
    (hsum : c.onePacked < 2 ^ 32) (hsize : c.transactionSize ≠ 0) (capacity : UInt32) :
    ∃ left, c.PackingRun capacity 0 left ∧
      c.maxPacketsToPack capacity = some (if left.1 = 0 then 0 else left.2) ∧
      (left.1 = 0 ↔ c.UsedUp capacity.toNat) ∧
      (left.2.toNat = 0 ↔ c.CountsNothing capacity.toNat) := by
  have hpos : 0 < c.transactionSize.toNat :=
    Nat.pos_of_ne_zero fun h => hsize (UInt32.toNat_inj.mp h)
  have hroom : (0 : UInt32).toNat * c.transactionSize.toNat + capacity.toNat < 2 ^ 32 := by
    rw [UInt32.toNat_zero, Nat.zero_mul, Nat.zero_add]
    exact capacity.toNat_lt
  obtain ⟨left, hleft, hrun⟩ := exists_packingRun hpos hsum (2 ^ 32) capacity 0
    capacity.toNat_lt hroom
  refine ⟨left, hrun, ?_, ?_, ?_⟩
  · unfold maxPacketsToPack
    rw [hleft]
    rfl
  · rw [← hrun.left_eq_zero_iff hpos hburst]
    exact UInt32.toNat_inj.symm
  · have hnothing := hrun.count_eq_iff hpos hburst
    rwa [UInt32.toNat_zero] at hnothing

/-- A round packs some transactions, in fewer than 256 packets, unless the loop uses the
capacity up, counts nothing in it, or counts too much. -/
theorem exists_limit_iff (key : Destination)
    (hburst : c.transactionSize.toNat ≤ c.maxBurstSize.toNat) (hsum : c.onePacked < 2 ^ 32)
    (capacity : UInt32) :
    (∃ limit, c.maxPacketsToPack capacity = some limit ∧ limit.toNat ≠ 0 ∧
        (c.packedBatches key
          (min limit.toNat (toU32 (c.queueOf key).queue.length))).length < 2 ^ 8) ↔
      c.transactionSize ≠ 0 ∧ ¬c.UsedUp capacity.toNat ∧ ¬c.CountsNothing capacity.toNat ∧
        c.PacksFew key capacity := by
  by_cases hzero : c.transactionSize = 0
  · refine iff_of_false ?_ fun h => h.1 hzero
    rintro ⟨limit, hlimit, hpos, -⟩
    obtain ⟨left, hleft, rfl⟩ := Option.map_eq_some_iff.mp hlimit
    rw [packingLoop_zero hzero hleft, ite_self] at hpos
    exact hpos rfl
  · obtain ⟨left, hrun, hlimit, hempty, hnothing⟩ :=
      exists_maxPacketsToPack hburst hsum hzero capacity
    rw [hlimit, and_iff_right hzero, ← hempty, ← hnothing]
    constructor
    · rintro ⟨limit, hsome, hpos, hfew⟩
      cases hsome
      split_ifs at hpos hfew with hused
      · exact absurd rfl hpos
      · refine ⟨hused, hpos, fun left' hrun' => ?_⟩
        rw [← hrun.unique hrun']
        exact hfew
    · rintro ⟨hused, hpos, hfew⟩
      refine ⟨_, rfl, ?_⟩
      rw [if_neg hused]
      exact ⟨hpos, hfew left hrun⟩

/-- A round that finds no device for its queue. -/
theorem not_progresses_of_noDevice {dest : Destination} {capacity : UInt32}
    (hqueue : c.selectQueue now = some dest)
    (hdevice : selectDevice devices dest.vcId = (capacity, none)) :
    ¬c.Progresses now devices := by
  rintro ⟨c', hc', hmore⟩
  have hsame : (c.reschedule now).selectQueue now = some dest := hqueue
  unfold scheduleNextSend sendRound at hc'
  rw [hsame] at hc'
  dsimp only at hc'
  rw [hdevice] at hc'
  cases hc'
  exact lt_irrefl _ hmore

/-- A queue with a transaction that has waited is one of the queues of the client. -/
theorem mem_destinations {key : Destination} (h : 0 < c.waitTime now key) :
    key ∈ c.destinations := by
  unfold destinations
  rw [List.mem_insertionSort, ← AList.mem_keys]
  by_contra hnone
  unfold waitTime queueOf at h
  rw [AList.lookup_eq_none.mpr hnone] at h
  exact absurd h (lt_irrefl 0)

/-- A round in which a queue can be served schedules a packet exactly if it does so with the
queue that has waited longest and the device with the most capacity for it. -/
theorem progresses_iff_schedulesSome (hservable : c.Servable now devices) :
    c.Progresses now devices ↔ c.SchedulesSome now devices := by
  obtain ⟨hburst, key, hwait, info, hinfo, hroom⟩ := hservable
  have hsum : c.onePacked < 2 ^ 32 := hroom.trans_lt (UInt32.toNat_lt _)
  cases hdest : c.destinations.argmax (c.waitTime now) with
  | none =>
      rw [List.argmax_eq_none] at hdest
      exact absurd (mem_destinations hwait) (hdest ▸ List.not_mem_nil)
  | some dest =>
      cases hbest : devices.argmax fun info => (info.capacityFor dest.vcId).toNat with
      | none =>
          rw [List.argmax_eq_none] at hbest
          exact absurd hinfo (hbest ▸ List.not_mem_nil)
      | some best =>
          have hlongest := List.le_of_mem_argmax (mem_destinations hwait) hdest
          have hqueue : c.selectQueue now = some dest := by
            rw [selectQueue_eq, hdest]
            exact if_pos (decide_eq_true (hwait.trans_le hlongest))
          have hdevice := selectDevice_eq devices dest.vcId
          rw [hbest] at hdevice
          have hschedules : c.SchedulesSome now devices ↔ c.transactionSize ≠ 0 ∧
              toU32 (c.queueOf dest).queue.length ≠ 0 ∧ best.hasSocket = true ∧
              ¬c.UsedUp (best.capacityFor dest.vcId).toNat ∧
              ¬c.CountsNothing (best.capacityFor dest.vcId).toNat ∧
              c.PacksFew dest (best.capacityFor dest.vcId) := by
            unfold SchedulesSome
            simp only [hdest, Option.mem_def, Option.some.injEq, exists_eq_left', hbest]
          rw [hschedules]
          by_cases hpos : 0 < (best.capacityFor dest.vcId).toNat
          · have hfound : selectDevice devices dest.vcId =
                (best.capacityFor dest.vcId, some best) := by
              rw [hdevice, Option.filter_some, if_pos (decide_eq_true hpos)]
              rfl
            have hlimit := exists_limit_iff dest (UInt32.le_iff_toNat_le.mp hburst) hsum
              (best.capacityFor dest.vcId)
            rw [progresses_iff_of_selected hqueue hfound]
            constructor
            · rintro ⟨limit, hsome, hmax, hlength, hsocket, hpackets⟩
              obtain ⟨hsize, hused, hnothing, hfew⟩ := hlimit.mp ⟨limit, hsome, hmax, hpackets⟩
              exact ⟨hsize, hlength, hsocket, hused, hnothing, hfew⟩
            · rintro ⟨hsize, hlength, hsocket, hused, hnothing, hfew⟩
              obtain ⟨limit, hsome, hmax, hpackets⟩ := hlimit.mpr ⟨hsize, hused, hnothing, hfew⟩
              exact ⟨limit, hsome, hmax, hlength, hsocket, hpackets⟩
          · have hnone : selectDevice devices dest.vcId = (0, none) := by
              rw [hdevice, Option.filter_some, if_neg fun h => hpos (of_decide_eq_true h)]
              rfl
            refine iff_of_false (not_progresses_of_noDevice hqueue hnone) fun h => ?_
            rw [Nat.eq_zero_of_not_pos hpos] at h
            exact h.2.2.2.1 .none

/-! ## Capacities that stall -/

/-- A client with one transaction that has come at time 1. -/
def waiting (transactionSize maxBurstSize additionalHeaderSize : UInt32) : SueClient :=
  SueClient.addTransaction
    { transactionSize := transactionSize
      maxBurstSize := maxBurstSize
      additionalHeaderSize := additionalHeaderSize }
    1 ⟨0, SueHeader.serialize {}, 128, Nat.le_of_ble_eq_true rfl⟩ 1

/-- A device with a capacity for the first virtual channel. -/
def roomFor (capacity : UInt32) : List DeviceCapacityInfo := [⟨0, [capacity], true⟩]

/-- Nothing is scheduled with room for exactly one packed transaction, with room for exactly
two, and where 256 transactions are counted as none. -/
theorem not_progresses_exactly :
    ((waiting 128 2048 44).Servable 10 (roomFor 180) ∧
      ¬(waiting 128 2048 44).Progresses 10 (roomFor 180)) ∧
    ((waiting 128 2048 44).Servable 10 (roomFor 308) ∧
      ¬(waiting 128 2048 44).Progresses 10 (roomFor 308)) ∧
    (waiting 1 256 300).Servable 10 (roomFor 564) ∧
      ¬(waiting 1 256 300).Progresses 10 (roomFor 564) := by
  refine ⟨⟨⟨by decide, ⟨1, 0⟩, by decide, _, List.mem_singleton_self _, by decide⟩, ?_⟩,
    ⟨⟨by decide, ⟨1, 0⟩, by decide, _, List.mem_singleton_self _, by decide⟩, ?_⟩,
    ⟨by decide, ⟨1, 0⟩, by decide, _, List.mem_singleton_self _, by decide⟩, ?_⟩
  · rintro ⟨c', hround, hmore⟩
    cases hround
    exact absurd hmore (by decide)
  · rintro ⟨c', hround, hmore⟩
    cases hround
    exact absurd hmore (by decide)
  · rintro ⟨c', hround, hmore⟩
    cases hround
    exact absurd hmore (by decide)

/-- With one byte more than one packed transaction, it is scheduled. -/
theorem progresses_iff_schedulesSome_byteMore :
    (waiting 128 2048 44).Progresses 10 (roomFor 181) ∧
      (waiting 128 2048 44).SchedulesSome 10 (roomFor 181) := by
  have hservable : (waiting 128 2048 44).Servable 10 (roomFor 181) :=
    ⟨by decide, ⟨1, 0⟩, by decide, _, List.mem_singleton_self _, by decide⟩
  have hprogresses : (waiting 128 2048 44).Progresses 10 (roomFor 181) :=
    ⟨_, rfl, by decide⟩
  exact ⟨hprogresses, (progresses_iff_schedulesSome hservable).mp hprogresses⟩

end SueClient

end UeSim
