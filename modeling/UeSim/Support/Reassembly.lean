import Mathlib.Data.List.Basic
import Mathlib.Order.Nat

/-!
# Cutting a list into chunks and putting it together again

A payload is cut at multiples of a chunk size.  The chunks are copied, in any
order and any number of times, to a memory or into a buffer of the length of
the payload.  Copying a slice of the payload to its own place keeps every
position that is already right and makes the positions of the slice right, so
that the payload is there when all chunks have been copied.
-/

namespace Reassembly

variable {α : Type*}

/-! ## Copying -/

/-- Copy a list to consecutive addresses. -/
def copyToMemory (memory : ℕ → α) (addr : ℕ) (bytes : List α) : ℕ → α :=
  fun a => if addr ≤ a then (bytes[a - addr]?).getD (memory a) else memory a

/-- Copy a list into a buffer, up to the end of the buffer. -/
def copyToBuffer (buffer : List α) (offset : ℕ) (bytes : List α) : List α :=
  buffer.mapIdx fun i b => if offset ≤ i then (bytes[i - offset]?).getD b else b

/-- Read a number of consecutive addresses. -/
def readMemory (memory : ℕ → α) (addr length : ℕ) : List α :=
  (List.range length).map fun i => memory (addr + i)

/-- The slice of a payload that starts at an offset. -/
def slice (payload : List α) (offset length : ℕ) : List α := (payload.drop offset).take length

/-- The memory holds the positions `P` of the payload, which starts at `base`. -/
def MemoryHolds (memory : ℕ → α) (base : ℕ) (payload : List α) (P : ℕ → Prop) : Prop :=
  ∀ i b, P i → payload[i]? = some b → memory (base + i) = b

/-- The buffer has the length of the payload and holds its positions `P`. -/
structure BufferHolds (buffer payload : List α) (P : ℕ → Prop) : Prop where
  length : buffer.length = payload.length
  getElem : ∀ i b, P i → payload[i]? = some b → buffer[i]? = some b

variable {memory : ℕ → α} {buffer payload : List α} {base offset length : ℕ} {P Q : ℕ → Prop}

theorem copyToMemory_of_getElem {addr i : ℕ} {bytes : List α} {b : α}
    (hb : bytes[i]? = some b) : copyToMemory memory addr bytes (addr + i) = b := by
  simp [copyToMemory, hb]

theorem copyToMemory_of_outside {addr a : ℕ} {bytes : List α}
    (h : a < addr ∨ addr + bytes.length ≤ a) : copyToMemory memory addr bytes a = memory a := by
  unfold copyToMemory
  split_ifs with hlow
  · rw [List.getElem?_eq_none (by omega), Option.getD_none]
  · rfl

theorem length_readMemory (memory : ℕ → α) (addr n : ℕ) :
    (readMemory memory addr n).length = n := by
  simp [readMemory]

/-- What was copied is read back. -/
theorem readMemory_copyToMemory (memory : ℕ → α) (addr : ℕ) (bytes : List α) :
    readMemory (copyToMemory memory addr bytes) addr bytes.length = bytes := by
  refine List.ext_getElem (length_readMemory _ _ _) fun i _ hi => ?_
  simp only [readMemory, List.getElem_map, List.getElem_range]
  exact copyToMemory_of_getElem (List.getElem?_eq_getElem hi)

theorem length_copyToBuffer (buffer : List α) (offset : ℕ) (bytes : List α) :
    (copyToBuffer buffer offset bytes).length = buffer.length :=
  List.length_mapIdx

theorem getElem_slice {i : ℕ} (hlow : offset ≤ i) (hhigh : i < offset + length) :
    (slice payload offset length)[i - offset]? = payload[i]? := by
  rw [slice, List.getElem?_take, if_pos (by omega), List.getElem?_drop]
  congr 1
  omega

theorem getElem_slice_eq_none {i : ℕ} (hlow : offset ≤ i) (hhigh : offset + length ≤ i) :
    (slice payload offset length)[i - offset]? = none := by
  rw [slice, List.getElem?_take, if_neg (by omega)]

/-- A slice of a payload that is copied to its place makes its positions right
and keeps the others. -/
theorem MemoryHolds.copy_slice (h : MemoryHolds memory base payload P) (offset length : ℕ)
    (hQ : ∀ i, Q i → P i ∨ offset ≤ i ∧ i < offset + length) :
    MemoryHolds (copyToMemory memory (base + offset) (slice payload offset length)) base
      payload Q := by
  intro i b hi hb
  have hold : P i → memory (base + i) = b := fun hP => h i b hP hb
  unfold copyToMemory
  by_cases hlow : offset ≤ i
  · rw [if_pos (by omega), Nat.add_sub_add_left]
    by_cases hhigh : i < offset + length
    · simp [getElem_slice hlow hhigh, hb]
    · rw [getElem_slice_eq_none hlow (by omega), Option.getD_none]
      exact hold ((hQ i hi).resolve_right fun hmem => hhigh hmem.2)
  · rw [if_neg (by omega)]
    exact hold ((hQ i hi).resolve_right fun hmem => hlow hmem.1)

theorem BufferHolds.copy_slice (h : BufferHolds buffer payload P) (offset length : ℕ)
    (hQ : ∀ i, Q i → P i ∨ offset ≤ i ∧ i < offset + length) :
    BufferHolds (copyToBuffer buffer offset (slice payload offset length)) payload Q := by
  refine ⟨(length_copyToBuffer _ _ _).trans h.length, fun i b hi hb => ?_⟩
  have hlt : i < buffer.length := by
    rw [h.length]
    exact (List.getElem?_eq_some_iff.mp hb).1
  have hold : P i → buffer[i] = b := fun hP =>
    (List.getElem?_eq_some_iff.mp (h.getElem i b hP hb)).2
  unfold copyToBuffer
  rw [List.getElem?_mapIdx, List.getElem?_eq_getElem hlt, Option.map_some, Option.some.injEq]
  by_cases hlow : offset ≤ i
  · rw [if_pos hlow]
    by_cases hhigh : i < offset + length
    · simp [getElem_slice hlow hhigh, hb]
    · rw [getElem_slice_eq_none hlow (by omega), Option.getD_none]
      exact hold ((hQ i hi).resolve_right fun hmem => hhigh hmem.2)
  · rw [if_neg hlow]
    exact hold ((hQ i hi).resolve_right fun hmem => hlow hmem.1)

theorem MemoryHolds.mono (h : MemoryHolds memory base payload P) (hQ : ∀ i, Q i → P i) :
    MemoryHolds memory base payload Q :=
  fun i b hi hb => h i b (hQ i hi) hb

/-- A buffer that holds every position is the payload. -/
theorem BufferHolds.eq (h : BufferHolds buffer payload P)
    (hall : ∀ i, i < payload.length → P i) : buffer = payload := by
  refine List.ext_getElem? fun i => ?_
  by_cases hi : i < payload.length
  · rw [List.getElem?_eq_getElem hi]
    exact h.getElem i _ (hall i hi) (List.getElem?_eq_getElem hi)
  · have hlength := h.length
    rw [List.getElem?_eq_none (by omega), List.getElem?_eq_none (by omega)]

/-- Copying the front of a buffer to memory makes the positions right that are
right in the buffer. -/
theorem BufferHolds.memoryHolds_take (h : BufferHolds buffer payload P) (memory : ℕ → α)
    (base length : ℕ) :
    MemoryHolds (copyToMemory memory base (buffer.take length)) base payload
      fun i => P i ∧ i < length := by
  intro i b hi hb
  refine copyToMemory_of_getElem ?_
  rw [List.getElem?_take, if_pos hi.2]
  exact h.getElem i b hi.1 hb

/-- What is read back from a memory that holds the front of the payload. -/
theorem MemoryHolds.readMemory_eq (h : MemoryHolds memory base payload P) (length : ℕ)
    (hP : ∀ i, i < length → i < payload.length → P i) :
    readMemory memory base (min length payload.length) = payload.take length := by
  refine List.ext_getElem ?_ fun i hi _ => ?_
  · rw [length_readMemory, List.length_take]
  · rw [length_readMemory] at hi
    have hpayload : i < payload.length := Nat.lt_of_lt_of_le hi (Nat.min_le_right _ _)
    have hlength : i < length := Nat.lt_of_lt_of_le hi (Nat.min_le_left _ _)
    simp only [readMemory, List.getElem_map, List.getElem_range, List.getElem_take]
    exact h i _ (hP i hlength hpayload) (List.getElem?_eq_getElem hpayload)

/-! ## Chunks -/

/-- The number of chunks of a payload; a payload without bytes is one chunk. -/
def chunkCount (n size : ℕ) : ℕ := if n = 0 then 1 else (n + size - 1) / size

theorem chunkCount_pos {n size : ℕ} (hsize : 0 < size) : 0 < chunkCount n size := by
  unfold chunkCount
  split
  · exact Nat.one_pos
  · exact Nat.div_pos (by omega) hsize

/-- A payload of one chunk is not longer than the chunk size. -/
theorem le_of_chunkCount_eq_one {n size : ℕ} (hsize : 0 < size) (h : chunkCount n size = 1) :
    n ≤ size := by
  unfold chunkCount at h
  split_ifs at h with hzero
  · omega
  · have hlt : n + size - 1 < (1 + 1) * size := by
      rw [← Nat.div_lt_iff_lt_mul hsize, h]
      exact Nat.lt_succ_self 1
    omega

/-- Every position of a payload lies in one of its chunks. -/
theorem div_lt_chunkCount {i n size : ℕ} (hsize : 0 < size) (hi : i < n) :
    i / size < chunkCount n size := by
  unfold chunkCount
  rw [if_neg (by omega), Nat.div_lt_iff_lt_mul hsize]
  have hround : n + size - 1 < ((n + size - 1) / size + 1) * size :=
    Nat.lt_mul_of_div_lt (Nat.lt_succ_self _) hsize
  rw [Nat.add_mul, Nat.one_mul] at hround
  omega

/-- The chunks of a payload start before its end. -/
theorem mul_lt_of_lt_chunkCount {k n size : ℕ} (hsize : 0 < size)
    (hk : k < chunkCount n size) (hn : 0 < n) : k * size < n := by
  unfold chunkCount at hk
  rw [if_neg (by omega), Nat.lt_iff_add_one_le, Nat.le_div_iff_mul_le hsize, Nat.add_mul,
    Nat.one_mul] at hk
  omega

/-- The positions of a chunk. -/
theorem mem_chunk_iff {i k size : ℕ} (hsize : 0 < size) :
    i / size = k ↔ k * size ≤ i ∧ i < k * size + size := by
  rw [Nat.div_eq_iff hsize]
  constructor <;> rintro ⟨h, h'⟩ <;> exact ⟨by omega, by omega⟩

/-! ## Bitmaps -/

/-- Setting a bit that was not set raises the number of set bits. -/
theorem count_set_true {bits : List Bool} {k : ℕ} (hk : k < bits.length) :
    (bits.set k true).count true = bits.count true + if bits[k] then 0 else 1 := by
  rw [List.count_set hk]
  cases hbit : bits[k] with
  | false => simp
  | true =>
      have hpos : 0 < bits.count true :=
        List.count_pos_iff.mpr (hbit ▸ List.getElem_mem hk)
      simp
      omega

/-- All bits are set exactly when as many are set as there are. -/
theorem length_le_count_iff {bits : List Bool} :
    bits.length ≤ bits.count true ↔ ∀ k, k < bits.length → bits[k]? = some true := by
  have hle : bits.count true ≤ bits.length := List.count_le_length
  constructor
  · intro h k hk
    have hall := List.count_eq_length.mp (Nat.le_antisymm hle h)
    rw [List.getElem?_eq_getElem hk, ← hall _ (List.getElem_mem hk)]
  · intro h
    refine (List.count_eq_length.mpr fun bit hbit => ?_).ge
    obtain ⟨k, hk, rfl⟩ := List.mem_iff_getElem.mp hbit
    rw [← Option.some.injEq, ← List.getElem?_eq_getElem hk, h k hk]

end Reassembly
