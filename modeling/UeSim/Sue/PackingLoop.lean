import UeSim.Sue.SendScheduler

/-!
# The loop that counts transactions

`ScheduleNextSend` counts how many transactions the capacity of a device has room for: it
takes packets off the capacity, full ones as long as more than a full one is left, and then
what is left, of which it counts transactions in 8 bits.

A run of the loop is described here in the arithmetic of the integers, and the loop in 32-bit
arithmetic is shown to be such a run.
-/

namespace UeSim

namespace SueClient

/-- The bytes of the headers of a packet. -/
def headerBytes (c : SueClient) : ℕ := SueHeader.serializedSize + c.additionalHeaderSize.toNat

/-- A packet with one transaction. -/
def onePacked (c : SueClient) : ℕ := c.transactionSize.toNat + c.headerBytes

/-- How many transactions a full packet has. -/
def perPacket (c : SueClient) : ℕ := c.maxBurstSize.toNat / c.transactionSize.toNat

/-- The transactions that are counted in what is left, with a count of 8 bits. -/
def counted (c : SueClient) (available : ℕ) : ℕ := available / c.transactionSize.toNat % 256

/-- A run of the loop from a capacity and a count to those that it ends with, in which no sum,
product or difference wraps. -/
inductive PackingRun (c : SueClient) : UInt32 → UInt32 → UInt32 × UInt32 → Prop
  | done {capacity maxPacketsToPack : UInt32} (hsum : c.onePacked < 2 ^ 32)
      (hend : capacity.toNat ≤ c.onePacked) :
      PackingRun c capacity maxPacketsToPack (capacity, maxPacketsToPack)
  | full {capacity capacity' maxPacketsToPack maxPacketsToPack' : UInt32}
      {left : UInt32 × UInt32} (hmore : c.onePacked < capacity.toNat)
      (hfull : c.maxBurstSize.toNat + c.headerBytes < capacity.toNat)
      (hcapacity : capacity'.toNat + (c.maxBurstSize.toNat + c.headerBytes) = capacity.toNat)
      (hcount : maxPacketsToPack'.toNat = maxPacketsToPack.toNat + c.perPacket)
      (hrest : PackingRun c capacity' maxPacketsToPack' left) :
      PackingRun c capacity maxPacketsToPack left
  | last {capacity capacity' maxPacketsToPack maxPacketsToPack' : UInt32} {available : ℕ}
      {left : UInt32 × UInt32} (hmore : c.onePacked < capacity.toNat)
      (havailable : available + c.headerBytes = capacity.toNat)
      (hfits : available ≤ c.maxBurstSize.toNat)
      (hcapacity : capacity'.toNat +
        (c.counted available * c.transactionSize.toNat + c.headerBytes) = capacity.toNat)
      (hcount : maxPacketsToPack'.toNat = maxPacketsToPack.toNat + c.counted available)
      (hrest : PackingRun c capacity' maxPacketsToPack' left) :
      PackingRun c capacity maxPacketsToPack left

variable {c : SueClient} {capacity maxPacketsToPack : UInt32} {left : UInt32 × UInt32}

theorem headerBytes_pos (c : SueClient) : 0 < c.headerBytes :=
  Nat.add_pos_left (by decide) _

theorem counted_mul_le (c : SueClient) (available : ℕ) :
    c.counted available * c.transactionSize.toNat ≤ available :=
  (Nat.mul_le_mul_right _ (Nat.mod_le _ 256)).trans (Nat.div_mul_le_self _ _)

/-- What is counted in a capacity that holds no more than a full packet is at most what a full
packet has. -/
theorem counted_le_perPacket {available : ℕ} (hfits : available ≤ c.maxBurstSize.toNat) :
    c.counted available ≤ c.perPacket :=
  (Nat.mod_le _ 256).trans (Nat.div_le_div_right hfits)

/-! ## The loop in 32 bits -/

/-- The headers in 32 bits. -/
theorem toNat_headers (hsum : c.onePacked < 2 ^ 32) :
    (UInt32.ofNat SueHeader.serializedSize + c.additionalHeaderSize).toNat = c.headerBytes := by
  have hsmall : c.headerBytes < 2 ^ 32 := (Nat.le_add_left _ _).trans_lt hsum
  rw [UInt32.toNat_add]
  exact Nat.mod_eq_of_lt hsmall

theorem toNat_onePacked (hsum : c.onePacked < 2 ^ 32) :
    (c.transactionSize + (UInt32.ofNat SueHeader.serializedSize +
      c.additionalHeaderSize)).toNat = c.onePacked := by
  rw [UInt32.toNat_add, toNat_headers hsum]
  exact Nat.mod_eq_of_lt hsum

/-- A sum in 32 bits that is below a 32-bit number. -/
theorem toNat_add_of_lt {a b d : UInt32} (h : a.toNat + b.toNat < d.toNat) :
    (a + b).toNat = a.toNat + b.toNat := by
  rw [UInt32.toNat_add]
  exact Nat.mod_eq_of_lt (h.trans d.toNat_lt)

theorem toNat_sub_add {a b : UInt32} (h : b.toNat ≤ a.toNat) :
    (a - b).toNat + b.toNat = a.toNat := by
  rw [UInt32.toNat_sub_of_le _ _ (UInt32.le_iff_toNat_le.mpr h)]
  exact Nat.sub_add_cancel h

/-- The count in 8 bits. -/
theorem toNat_numTemp (available : UInt32) :
    ((available / c.transactionSize).toUInt8.toUInt32).toNat = c.counted available.toNat := by
  rw [UInt8.toNat_toUInt32, UInt32.toNat_toUInt8, UInt32.toNat_div]
  rfl

/-- What a full packet leaves of the capacity. -/
theorem toNat_capacity_full {capacity : UInt32} (hsum : c.onePacked < 2 ^ 32)
    (hpacket : c.maxBurstSize.toNat + c.headerBytes < capacity.toNat) :
    (capacity - (c.maxBurstSize + (UInt32.ofNat SueHeader.serializedSize +
        c.additionalHeaderSize))).toNat + (c.maxBurstSize.toNat + c.headerBytes) =
      capacity.toNat := by
  have hheaders := toNat_headers hsum
  have htaken : (c.maxBurstSize + (UInt32.ofNat SueHeader.serializedSize +
      c.additionalHeaderSize)).toNat = c.maxBurstSize.toNat + c.headerBytes := by
    rw [← hheaders] at hpacket ⊢
    exact toNat_add_of_lt hpacket
  have hcapacity := toNat_sub_add (htaken.trans_lt hpacket).le
  rwa [htaken] at hcapacity

/-- What the last packet leaves of the capacity. -/
theorem toNat_capacity_last {capacity available : UInt32} (hsum : c.onePacked < 2 ^ 32)
    (havailable : available.toNat + c.headerBytes = capacity.toNat) :
    (capacity - (((available / c.transactionSize).toUInt8.toUInt32) * c.transactionSize +
        (UInt32.ofNat SueHeader.serializedSize + c.additionalHeaderSize))).toNat +
          (c.counted available.toNat * c.transactionSize.toNat + c.headerBytes) =
      capacity.toNat := by
  have hfits := c.counted_mul_le available.toNat
  have hproduct : (((available / c.transactionSize).toUInt8.toUInt32) *
      c.transactionSize).toNat = c.counted available.toNat * c.transactionSize.toNat := by
    rw [UInt32.toNat_mul, toNat_numTemp]
    exact Nat.mod_eq_of_lt (hfits.trans_lt available.toNat_lt)
  have htaken : (((available / c.transactionSize).toUInt8.toUInt32) *
      c.transactionSize + (UInt32.ofNat SueHeader.serializedSize +
        c.additionalHeaderSize)).toNat =
      c.counted available.toNat * c.transactionSize.toNat + c.headerBytes := by
    rw [UInt32.toNat_add, hproduct, toNat_headers hsum]
    have hlt := capacity.toNat_lt
    exact Nat.mod_eq_of_lt (by omega)
  have hcapacity := toNat_sub_add (a := capacity) (htaken.le.trans (by omega))
  rwa [htaken] at hcapacity

/-- A turn of the loop leaves room for the count: what it counts, it has taken off the
capacity. -/
theorem room_after_turn {count count' capacity capacity' : UInt32} {n : ℕ}
    (hsize : 0 < c.transactionSize.toNat)
    (hroom : count.toNat * c.transactionSize.toNat + capacity.toNat < 2 ^ 32)
    (hcapacity : capacity'.toNat + n * c.transactionSize.toNat ≤ capacity.toNat)
    (hcount : count'.toNat = (count.toNat + n) % 2 ^ 32) :
    count'.toNat = count.toNat + n ∧
      count'.toNat * c.transactionSize.toNat + capacity'.toNat < 2 ^ 32 := by
  have hbound : (count.toNat + n) * c.transactionSize.toNat + capacity'.toNat < 2 ^ 32 := by
    rw [Nat.add_mul]
    omega
  have hle : count.toNat + n ≤ (count.toNat + n) * c.transactionSize.toNat :=
    Nat.le_mul_of_pos_right _ hsize
  have hsame : count'.toNat = count.toNat + n := by
    rw [hcount]
    exact Nat.mod_eq_of_lt (by omega)
  rw [hsame]
  exact ⟨rfl, hbound⟩

/-- The loop ends, and is a run in which nothing wraps, when the count and the capacity
together leave room for it. -/
theorem exists_packingRun (hsize : 0 < c.transactionSize.toNat) (hsum : c.onePacked < 2 ^ 32)
    (fuel : ℕ) (capacity maxPacketsToPack : UInt32) (hfuel : capacity.toNat < fuel)
    (hroom : maxPacketsToPack.toNat * c.transactionSize.toNat + capacity.toNat < 2 ^ 32) :
    ∃ left, c.packingLoop fuel capacity maxPacketsToPack = some left ∧
      PackingRun c capacity maxPacketsToPack left := by
  have hpositive : c.transactionSize ≠ 0 := by
    intro hzero
    rw [hzero] at hsize
    exact absurd hsize (by decide)
  induction fuel generalizing capacity maxPacketsToPack with
  | zero => exact absurd hfuel (Nat.not_lt_zero _)
  | succ fuel ih =>
      have hheaders := toNat_headers hsum
      have hpos := c.headerBytes_pos
      unfold packingLoop
      dsimp only
      by_cases hmore : c.onePacked < capacity.toNat
      · have hle : c.headerBytes ≤ capacity.toNat := (Nat.le_add_left _ _).trans hmore.le
        have havailable := toNat_sub_add (hheaders.le.trans hle)
        rw [hheaders] at havailable
        rw [if_pos (UInt32.lt_iff_toNat_lt.mpr ((toNat_onePacked hsum).trans_lt hmore)),
          if_neg hpositive]
        by_cases hfull : c.maxBurstSize.toNat < (capacity -
            (UInt32.ofNat SueHeader.serializedSize + c.additionalHeaderSize)).toNat
        · rw [if_pos (UInt32.lt_iff_toNat_lt.mpr hfull)]
          have hpacket : c.maxBurstSize.toNat + c.headerBytes < capacity.toNat := by omega
          have hcapacity := toNat_capacity_full hsum hpacket
          have hfits : c.perPacket * c.transactionSize.toNat ≤ c.maxBurstSize.toNat :=
            Nat.div_mul_le_self _ _
          have hcount : (maxPacketsToPack + c.maxBurstSize / c.transactionSize).toNat =
              (maxPacketsToPack.toNat + c.perPacket) % 2 ^ 32 := by
            rw [UInt32.toNat_add, UInt32.toNat_div]
            rfl
          have hstep : (capacity - (c.maxBurstSize + (UInt32.ofNat SueHeader.serializedSize +
              c.additionalHeaderSize))).toNat + c.perPacket * c.transactionSize.toNat ≤
              capacity.toNat := by omega
          obtain ⟨hsame, hroom'⟩ := room_after_turn hsize hroom hstep hcount
          obtain ⟨left, hleft, hrun⟩ := ih _ _ (by omega) hroom'
          exact ⟨left, hleft, .full hmore hpacket hcapacity hsame hrun⟩
        · rw [if_neg fun h => hfull (UInt32.lt_iff_toNat_lt.mp h)]
          generalize havailable' : capacity - (UInt32.ofNat SueHeader.serializedSize +
            c.additionalHeaderSize) = available at havailable hfull ⊢
          have hcapacity := toNat_capacity_last hsum havailable
          have hcount : (maxPacketsToPack +
              ((available / c.transactionSize).toUInt8.toUInt32)).toNat =
              (maxPacketsToPack.toNat + c.counted available.toNat) % 2 ^ 32 := by
            rw [UInt32.toNat_add, toNat_numTemp]
          have hstep : (capacity - (((available / c.transactionSize).toUInt8.toUInt32) *
              c.transactionSize + (UInt32.ofNat SueHeader.serializedSize +
                c.additionalHeaderSize))).toNat +
              c.counted available.toNat * c.transactionSize.toNat ≤ capacity.toNat := by omega
          obtain ⟨hsame, hroom'⟩ := room_after_turn hsize hroom hstep hcount
          obtain ⟨left, hleft, hrun⟩ := ih _ _ (by omega) hroom'
          exact ⟨left, hleft, .last hmore havailable (Nat.not_lt.mp hfull) hcapacity hsame hrun⟩
      · rw [if_neg fun h => hmore ((toNat_onePacked hsum).symm.trans_lt
          (UInt32.lt_iff_toNat_lt.mp h))]
        exact ⟨_, rfl, .done hsum (Nat.not_lt.mp hmore)⟩

/-- A run is determined by where it starts. -/
theorem PackingRun.unique {left' : UInt32 × UInt32}
    (h : PackingRun c capacity maxPacketsToPack left)
    (h' : PackingRun c capacity maxPacketsToPack left') : left = left' := by
  induction h with
  | done hsum hend =>
      cases h' with
      | done => rfl
      | full hmore => omega
      | last hmore => omega
  | full hmore hfull hcapacity hcount _ ih =>
      cases h' with
      | done _ hend => omega
      | full _ _ hcapacity' hcount' hrest' =>
          obtain rfl := UInt32.toNat_inj.mp (Nat.add_right_cancel (hcapacity'.trans hcapacity.symm))
          obtain rfl := UInt32.toNat_inj.mp (hcount'.trans hcount.symm)
          exact ih hrest'
      | last _ havailable hfits => omega
  | last hmore havailable hfits hcapacity hcount _ ih =>
      cases h' with
      | done _ hend => omega
      | full _ hfull => omega
      | last _ havailable' _ hcapacity' hcount' hrest' =>
          obtain rfl := Nat.add_right_cancel (havailable'.trans havailable.symm)
          obtain rfl := UInt32.toNat_inj.mp (Nat.add_right_cancel (hcapacity'.trans hcapacity.symm))
          obtain rfl := UInt32.toNat_inj.mp (hcount'.trans hcount.symm)
          exact ih hrest'

/-- What a run counts: the transactions, with the headers of as many packets as it has turns,
and what is left, are within the capacity, and no turn counts more than a full packet has. -/
theorem PackingRun.count (h : PackingRun c capacity maxPacketsToPack left) :
    ∃ n turns, left.2.toNat = maxPacketsToPack.toNat + n ∧ n ≤ turns * c.perPacket ∧
      n * c.transactionSize.toNat + turns * c.headerBytes + left.1.toNat ≤ capacity.toNat := by
  induction h with
  | done hsum hend =>
      refine ⟨0, 0, rfl, Nat.zero_le _, ?_⟩
      rw [Nat.zero_mul, Nat.zero_mul]
      exact (Nat.zero_add _).le
  | full hmore hfull hcapacity hcount _ ih =>
      obtain ⟨n, turns, hleft, hturns, hbytes⟩ := ih
      refine ⟨c.perPacket + n, turns + 1, by omega, ?_, ?_⟩
      · rw [Nat.succ_mul]
        omega
      · have hfits : c.perPacket * c.transactionSize.toNat ≤ c.maxBurstSize.toNat :=
          Nat.div_mul_le_self _ _
        rw [Nat.add_mul, Nat.succ_mul]
        omega
  | @last _ _ _ _ available _ hmore havailable hfits hcapacity hcount _ ih =>
      obtain ⟨n, turns, hleft, hturns, hbytes⟩ := ih
      refine ⟨c.counted available + n, turns + 1, by omega, ?_, ?_⟩
      · have hle := counted_le_perPacket hfits
        rw [Nat.succ_mul]
        omega
      · rw [Nat.add_mul, Nat.succ_mul]
        omega

end SueClient

end UeSim
