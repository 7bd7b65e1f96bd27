import UeSim.NetDevice.Inbound

/-!
# Remote access to registered memory

A WRITE and a READ are tested against a registered region before they touch
memory.  The two ends that the test compares are added in `uint64_t`.  A request
whose end wraps around compares below the end of the region, and the bytes that
it touches lie above it.
-/

namespace UeSim

/-- The addresses from `addr` on. -/
structure MemoryRange where
  addr : ℕ
  length : ℕ
  deriving DecidableEq, Repr

/-- The end of a range, as an integer. -/
def MemoryRange.limit (range : MemoryRange) : ℕ := range.addr + range.length

/-- The end of a region, as an integer. -/
def SimulatedMemoryRegion.limit (region : SimulatedMemoryRegion) : ℕ :=
  region.startAddr + region.length

/-- Every address of the range belongs to the region. -/
def MemoryRange.Inside (range : MemoryRange) (region : SimulatedMemoryRegion) : Prop :=
  ∀ a, range.addr ≤ a → a < range.limit → region.startAddr ≤ a ∧ a < region.limit

theorem MemoryRange.inside_of_length_eq_zero {range : MemoryRange}
    (h : range.length = 0) (region : SimulatedMemoryRegion) : range.Inside region := by
  intro a hlow hhigh
  rw [limit, h] at hhigh
  omega

/-- For a range that passes the test in `uint64_t`, belonging to the region is a
matter of the wraps. -/
theorem MemoryRange.inside_iff_of_bounds {range : MemoryRange} {region : SimulatedMemoryRegion}
    (haddr : range.addr < 2 ^ 64) (hlength : range.length < 2 ^ 64)
    (hregion : region.limit < 2 * 2 ^ 64) (hlow : region.startAddr ≤ range.addr)
    (hhigh : toU64 range.limit ≤ toU64 region.limit) (hnonempty : range.length ≠ 0) :
    range.Inside region ↔ range.limit < 2 ^ 64 ∨ 2 ^ 64 ≤ region.limit := by
  unfold toU64 at hhigh
  constructor
  · intro h
    have hlast := (h (range.limit - 1) (by unfold limit; omega) (by unfold limit; omega)).2
    unfold limit at *
    omega
  · intro h a ha halimit
    refine ⟨hlow.trans ha, ?_⟩
    unfold limit at *
    omega

namespace SesManager

/-- The range that an accepted WRITE or READ touches: the null address is never
written. -/
def touchedRange (packet : TaggedPacket) : MemoryRange :=
  match packet.metadata.operationType with
  | .write =>
      ⟨writeTargetAddr packet.metadata,
        if writeTargetAddr packet.metadata = 0 then 0 else packet.bytes.length⟩
  | _ => ⟨packet.metadata.remoteAddress, packet.metadata.requestLength⟩

/-- `SesManager::ValidateRmaRequest`, as the handlers of WRITEs and READs call
it. -/
def validateRma (s : SesManager) (packet : TaggedPacket) : Except ValidationFailure Unit :=
  let isWrite := decide (packet.metadata.operationType = .write)
  s.validateRmaRequest packet.header packet.metadata isWrite
    (if isWrite then packet.bytes.length else 0)

/-- The fields of a request and of a region are within their types. -/
structure RmaWidths (packet : TaggedPacket) (region : SimulatedMemoryRegion) : Prop where
  startAddr : region.startAddr < 2 ^ 64
  regionLength : region.length < 2 ^ 32
  remoteAddress : packet.metadata.remoteAddress < 2 ^ 64
  requestLength : packet.metadata.requestLength < 2 ^ 32
  size : packet.bytes.length < 2 ^ 32

variable {s : SesManager} {packet : TaggedPacket} {region : SimulatedMemoryRegion}

/-- What the test of an accepted request compared. -/
theorem bounds_of_accepted {header : SoftUeHeaderTag} {tag : SoftUeMetadataTag}
    {writeRequest : Bool} {actualLength : ℕ}
    (hregion : s.memoryRegions.lookup tag.remoteKey = some region)
    (haccepted : s.validateRmaRequest header tag writeRequest actualLength = .ok ()) :
    region.startAddr ≤ (if writeRequest then writeTargetAddr tag else tag.remoteAddress) ∧
      toU64 ((if writeRequest then writeTargetAddr tag else tag.remoteAddress) +
        (if writeRequest then max 1 actualLength else tag.requestLength)) ≤
        toU64 region.limit := by
  by_contra hout
  rw [SimulatedMemoryRegion.limit, not_and_or, not_le, not_le] at hout
  unfold validateRmaRequest at haccepted
  split at haccepted
  · cases haccepted
  · simp only [hregion] at haccepted
    rw [if_pos hout] at haccepted
    split_ifs at haccepted

/-- An accepted WRITE or READ touches only its region exactly when its end does
not wrap around, or the end of the region does too, or nothing is touched. -/
theorem touchedInside_iff {s : SesManager} {packet : TaggedPacket}
    {region : SimulatedMemoryRegion} (hwidths : RmaWidths packet region)
    (hoperation : packet.metadata.operationType = .write ∨
      packet.metadata.operationType = .read)
    (hregion : s.memoryRegions.lookup packet.metadata.remoteKey = some region)
    (haccepted : s.validateRma packet = .ok ()) :
    (touchedRange packet).Inside region ↔
      (touchedRange packet).length = 0 ∨ (touchedRange packet).limit < 2 ^ 64 ∨
        2 ^ 64 ≤ region.limit := by
  obtain ⟨hstart, hlength, hremote, hrequest, hsize⟩ := hwidths
  have hbounds := bounds_of_accepted hregion haccepted
  have hlimit : region.limit < 2 * 2 ^ 64 := by
    unfold SimulatedMemoryRegion.limit
    omega
  by_cases hempty : (touchedRange packet).length = 0
  · exact iff_of_true (MemoryRange.inside_of_length_eq_zero hempty region) (.inl hempty)
  · rw [or_iff_right hempty]
    rcases hoperation with hwrite | hread
    · simp only [touchedRange, hwrite, decide_true, if_true] at hbounds hempty ⊢
      have hnull : writeTargetAddr packet.metadata ≠ 0 := fun h => hempty (if_pos h)
      simp only [if_neg hnull] at hempty ⊢
      rw [Nat.max_eq_right (Nat.one_le_iff_ne_zero.mpr hempty)] at hbounds
      exact MemoryRange.inside_iff_of_bounds (Nat.mod_lt _ (Nat.two_pow_pos 64))
        (hsize.trans (by omega)) hlimit hbounds.1 hbounds.2 hempty
    · simp only [touchedRange, hread] at hbounds hempty ⊢
      exact MemoryRange.inside_iff_of_bounds hremote (hrequest.trans (by omega)) hlimit
        hbounds.1 hbounds.2 hempty

/-- A responder with one region of 256 bytes at address 4096. -/
def regionAt4096 : SesManager where
  memoryRegions := AList.insert 5 ⟨4096, 256, true, true⟩ ∅

/-- A READ of endpoint 1 for job 7. -/
def sampleRead (remoteAddress requestLength : ℕ) : TaggedPacket where
  header := { sourceEndpoint := 1, destinationEndpoint := 2, jobId := 7 }
  metadata :=
    { operationType := .read
      messageId := 1
      requestLength := requestLength
      remoteAddress := remoteAddress
      remoteKey := 5 }
  bytes := [0]

theorem touchedInside_iff_sample :
    (touchedRange (sampleRead 4100 16)).Inside ⟨4096, 256, true, true⟩ ↔
      (touchedRange (sampleRead 4100 16)).length = 0 ∨
        (touchedRange (sampleRead 4100 16)).limit < 2 ^ 64 ∨
          2 ^ 64 ≤ SimulatedMemoryRegion.limit ⟨4096, 256, true, true⟩ :=
  touchedInside_iff (s := regionAt4096)
    ⟨by decide, by decide, by decide, by decide, by decide⟩ (.inr rfl) rfl rfl

/-- A READ whose end wraps around is accepted for a region far below. -/
theorem wrapped_read_accepted :
    regionAt4096.validateRma (sampleRead (2 ^ 64 - 16) 32) = .ok () ∧
      ¬ (touchedRange (sampleRead (2 ^ 64 - 16) 32)).Inside ⟨4096, 256, true, true⟩ := by
  refine ⟨rfl, fun h => ?_⟩
  have hlimit := (h (2 ^ 64 - 16) (by decide) (by decide)).2
  exact absurd hlimit (by decide)

end SesManager

/-! ## The handlers -/

namespace SoftUeNetDevice

open SesManager

variable {d : SoftUeNetDevice} {packet : TaggedPacket}

/-- A WRITE that is copied changes memory only in the range that it touches. -/
theorem memory_copyWrite_of_outside (hwrite : packet.metadata.operationType = .write)
    (peerFep : ℕ) (budget : SemanticBudgetState) {a : ℕ}
    (ha : a < (touchedRange packet).addr ∨ (touchedRange packet).limit ≤ a) :
    (d.copyWrite peerFep packet budget).ses.memory a = d.ses.memory a := by
  simp only [touchedRange, hwrite, MemoryRange.limit] at ha
  change (SesManager.writePacketBytesToAddress _ _ _).memory a = _
  unfold writePacketBytesToAddress
  by_cases hnull : writeTargetAddr packet.metadata = 0
  · rw [if_pos hnull]
  · rw [if_neg hnull]
    rw [if_neg hnull] at ha
    exact Reassembly.copyToMemory_of_outside ha

/-- A READ that is answered with data answers with the range that it touches. -/
theorem handleIncomingReadRequest_eq (env : Environment)
    (hread : packet.metadata.operationType = .read)
    (haccepted : d.ses.validateRma packet = .ok ()) {budget : SemanticBudgetState}
    (hbudget : d.readResponderBudget.tryReserve packet.metadata.requestLength = some budget) :
    d.handleIncomingReadRequest env packet =
      ({ d with readResponderBudget := budget }.sendSemanticResponseForRequest env
        packet.header.destinationEndpoint ⟨packetKey packet, .responseWithData, .ok⟩
        packet.metadata.requestLength
        (Reassembly.readMemory d.ses.memory (touchedRange packet).addr
          (touchedRange packet).length)
        (some packet.metadata.requestLength), true) := by
  simp only [validateRma, hread, reduceCtorEq, decide_false, if_false] at haccepted
  simp only [touchedRange, hread]
  unfold handleIncomingReadRequest
  simp only [haccepted, hbudget]

end SoftUeNetDevice
end UeSim
