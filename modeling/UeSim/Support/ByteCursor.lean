import UeSim.Support.NetworkOrder

/-!
# Cursors over bytes

A cursor stands in a block of memory, with the bytes that it has passed on one side and those
ahead of it on the other.  Writing overwrites the byte ahead, reading returns it, and both fail
at the end of the block.  Numbers are written least significant byte first.

A writer and a reader that agree on a value and on a number of bytes can be put in sequence
with others, so that the codec of a record follows from the codecs of its fields.
-/

/-- A position in a block of memory. -/
structure ByteCursor where
  passed : List UInt8
  ahead : List UInt8
  deriving DecidableEq, Repr

/-- A computation that moves a cursor, and fails at the end of the memory. -/
abbrev ByteStream (α : Type) := StateT ByteCursor Option α

namespace ByteStream

/-! ## Bytes and numbers -/

/-- Overwrite the next byte. -/
def writeU8 (v : UInt8) : ByteStream Unit := fun cursor =>
  match cursor.ahead with
  | [] => none
  | _ :: rest => some ((), ⟨cursor.passed ++ [v], rest⟩)

/-- Return the next byte. -/
def readU8 : ByteStream UInt8 := fun cursor =>
  match cursor.ahead with
  | [] => none
  | v :: rest => some (v, ⟨cursor.passed ++ [v], rest⟩)

/-- Write the two bytes of a number. -/
def writeU16 (data : UInt16) : ByteStream Unit := do
  writeU8 data.toUInt8
  writeU8 (data >>> 8).toUInt8

/-- Write the four bytes of a number. -/
def writeU32 (data : UInt32) : ByteStream Unit := do
  writeU8 data.toUInt8
  writeU8 (data >>> 8).toUInt8
  writeU8 (data >>> 16).toUInt8
  writeU8 (data >>> 24).toUInt8

/-- Write the eight bytes of a number. -/
def writeU64 (data : UInt64) : ByteStream Unit := do
  writeU8 data.toUInt8
  writeU8 (data >>> 8).toUInt8
  writeU8 (data >>> 16).toUInt8
  writeU8 (data >>> 24).toUInt8
  writeU8 (data >>> 32).toUInt8
  writeU8 (data >>> 40).toUInt8
  writeU8 (data >>> 48).toUInt8
  writeU8 (data >>> 56).toUInt8

/-- Read the two bytes of a number. -/
def readU16 : ByteStream UInt16 := do
  let byte0 ← readU8
  let byte1 ← readU8
  return byte1.toUInt16 <<< 8 ||| byte0.toUInt16

/-- Read the four bytes of a number. -/
def readU32 : ByteStream UInt32 := do
  let byte0 ← readU8
  let byte1 ← readU8
  let byte2 ← readU8
  let byte3 ← readU8
  return ((byte3.toUInt32 <<< 8 ||| byte2.toUInt32) <<< 8 ||| byte1.toUInt32) <<< 8 |||
    byte0.toUInt32

/-- Read the eight bytes of a number. -/
def readU64 : ByteStream UInt64 := do
  let byte0 ← readU8
  let byte1 ← readU8
  let byte2 ← readU8
  let byte3 ← readU8
  let byte4 ← readU8
  let byte5 ← readU8
  let byte6 ← readU8
  let byte7 ← readU8
  let high := ((byte7.toUInt64 <<< 8 ||| byte6.toUInt64) <<< 8 ||| byte5.toUInt64) <<< 8 |||
    byte4.toUInt64
  return (((high <<< 8 ||| byte3.toUInt64) <<< 8 ||| byte2.toUInt64) <<< 8 |||
    byte1.toUInt64) <<< 8 ||| byte0.toUInt64

/-! ## Codecs -/

variable {α β : Type} {w w' : ByteStream Unit} {r : ByteStream α} {f : α → ByteStream β}
variable {a : α} {b : β} {n m : ℕ}

/-- The writer overwrites the bytes ahead with some bytes, in any memory with room for them. -/
def Writes (w : ByteStream Unit) (bytes : List UInt8) : Prop :=
  ∀ passed room ahead, room.length = bytes.length →
    w ⟨passed, room ++ ahead⟩ = some ((), ⟨passed ++ bytes, ahead⟩)

/-- The reader passes the bytes and returns the value, wherever they are. -/
def Reads (r : ByteStream α) (bytes : List UInt8) (a : α) : Prop :=
  ∀ passed ahead, r ⟨passed, bytes ++ ahead⟩ = some (a, ⟨passed ++ bytes, ahead⟩)

/-- The writer writes, and the reader reads back as the value, exactly `n` bytes. -/
def Codes (w : ByteStream Unit) (r : ByteStream α) (a : α) (n : ℕ) : Prop :=
  ∃ bytes : List UInt8, bytes.length = n ∧ Writes w bytes ∧ Reads r bytes a

theorem bind_apply (r : ByteStream α) (f : α → ByteStream β) (cursor : ByteCursor) :
    (r >>= f) cursor = (r cursor).bind fun result => f result.1 result.2 := rfl

theorem Writes.bind {bytes bytes' : List UInt8} (h : Writes w bytes) (h' : Writes w' bytes') :
    Writes (w >>= fun _ => w') (bytes ++ bytes') := by
  intro passed room ahead hroom
  rw [List.length_append] at hroom
  obtain ⟨front, back, rfl, hfront⟩ : ∃ front back, room = front ++ back ∧
      front.length = bytes.length :=
    ⟨room.take bytes.length, room.drop bytes.length, (List.take_append_drop _ _).symm,
      List.length_take_of_le (by omega)⟩
  have hback : back.length = bytes'.length := by
    rw [List.length_append] at hroom
    omega
  rw [bind_apply, List.append_assoc, h passed front (back ++ ahead) hfront, Option.bind_some,
    h' (passed ++ bytes) back ahead hback, List.append_assoc]

theorem Reads.bind {bytes bytes' : List UInt8} (h : Reads r bytes a) (h' : Reads (f a) bytes' b) :
    Reads (r >>= f) (bytes ++ bytes') b := by
  intro passed ahead
  rw [bind_apply, List.append_assoc, h passed (bytes' ++ ahead), Option.bind_some,
    h' (passed ++ bytes) ahead, List.append_assoc]

theorem Reads.map {bytes : List UInt8} (h : Reads r bytes a) {g : α → β} (hg : g a = b) :
    Reads (r >>= fun a => pure (g a)) bytes b := by
  intro passed ahead
  rw [bind_apply, h passed ahead, Option.bind_some, hg]
  rfl

/-- Two codecs in sequence. -/
theorem Codes.bind (h : Codes w r a n) (h' : Codes w' (f a) b m) :
    Codes (w >>= fun _ => w') (r >>= f) b (n + m) := by
  obtain ⟨bytes, hlength, hwrites, hreads⟩ := h
  obtain ⟨bytes', hlength', hwrites', hreads'⟩ := h'
  exact ⟨bytes ++ bytes', by rw [List.length_append, hlength, hlength'],
    hwrites.bind hwrites', hreads.bind hreads'⟩

/-- The last field of a record, with the record that is made of all fields. -/
theorem Codes.last (h : Codes w r a n) {g : α → β} (hg : g a = b) :
    Codes w (r >>= fun a => pure (g a)) b n := by
  obtain ⟨bytes, hlength, hwrites, hreads⟩ := h
  exact ⟨bytes, hlength, hwrites, hreads.map hg⟩

/-! ## The codecs of numbers -/

theorem codes_u8 (v : UInt8) : Codes (writeU8 v) readU8 v 1 := by
  refine ⟨[v], rfl, ?_, fun passed ahead => rfl⟩
  intro passed room ahead hroom
  obtain ⟨old, rfl⟩ := List.length_eq_one_iff.mp hroom
  rfl

theorem codes_u16 (data : UInt16) : Codes (writeU16 data) readU16 data 2 := by
  change Codes (writeU16 data) readU16 data (1 + 1)
  unfold writeU16 readU16
  apply (codes_u8 _).bind
  apply (codes_u8 _).last
  refine NetworkOrder.eq_of_bits16 fun i hi => ?_
  interval_cases i <;> simp [-UInt16.toUInt16_toUInt8]

theorem codes_u32 (data : UInt32) : Codes (writeU32 data) readU32 data 4 := by
  change Codes (writeU32 data) readU32 data (1 + (1 + (1 + 1)))
  unfold writeU32 readU32
  apply (codes_u8 _).bind
  apply (codes_u8 _).bind
  apply (codes_u8 _).bind
  apply (codes_u8 _).last
  refine NetworkOrder.eq_of_bits32 fun i hi => ?_
  interval_cases i <;> simp [-UInt32.toUInt32_toUInt8]

theorem eq_of_bits64 {a b : UInt64}
    (h : ∀ i < 64, a.toBitVec.getLsbD i = b.toBitVec.getLsbD i) : a = b :=
  UInt64.toBitVec_inj.mp (BitVec.eq_of_getLsbD_eq h)

/-- A byte of a number goes below the bytes above it. -/
theorem join64 (x k k' : UInt64) (hk : k.toNat + 8 = k'.toNat) (hk' : k'.toNat < 64) :
    (x >>> k') <<< 8 ||| (x >>> k).toUInt8.toUInt64 = x >>> k := by
  refine eq_of_bits64 fun i hi => ?_
  have hmod : k.toNat % 64 = k.toNat := Nat.mod_eq_of_lt (by omega)
  have hmod' : k'.toNat % 64 = k'.toNat := Nat.mod_eq_of_lt hk'
  by_cases h8 : i < 8
  · simp [h8, hi, -UInt64.toUInt64_toUInt8]
  · have hshift : k'.toNat + (i - 8) = k.toNat + i := by omega
    simp [h8, hi, hmod, hmod', hshift, -UInt64.toUInt64_toUInt8]

theorem codes_u64 (data : UInt64) : Codes (writeU64 data) readU64 data 8 := by
  change Codes (writeU64 data) readU64 data (1 + (1 + (1 + (1 + (1 + (1 + (1 + 1)))))))
  unfold writeU64 readU64
  apply (codes_u8 _).bind
  apply (codes_u8 _).bind
  apply (codes_u8 _).bind
  apply (codes_u8 _).bind
  apply (codes_u8 _).bind
  apply (codes_u8 _).bind
  apply (codes_u8 _).bind
  apply (codes_u8 _).last
  have htop : (data >>> 56).toUInt8.toUInt64 = data >>> 56 := by
    have hzero : data >>> 56 >>> 8 = 0 := by
      simp [← UInt64.toBitVec_inj, BitVec.ushiftRight_eq_zero]
    have hjoin := join64 (data >>> 56) 0 8 rfl (by decide)
    simpa only [hzero, UInt64.zero_shiftLeft, UInt64.zero_or, UInt64.shiftRight_zero] using hjoin
  have hlow : data.toUInt8 = (data >>> 0).toUInt8 := by rw [UInt64.shiftRight_zero]
  rw [htop, join64 data 48 56 rfl (by decide), join64 data 40 48 rfl (by decide),
    join64 data 32 40 rfl (by decide), join64 data 24 32 rfl (by decide),
    join64 data 16 24 rfl (by decide), join64 data 8 16 rfl (by decide), hlow,
    join64 data 0 8 rfl (by decide), UInt64.shiftRight_zero]

end ByteStream
