import Mathlib.Data.List.Basic
import Mathlib.Tactic.IntervalCases

/-!
# Numbers in network order

The bytes of 16- and 32-bit numbers as they go on the wire, most significant first, and the
numbers that a receiver puts together from them.
-/

namespace NetworkOrder

/-- The bytes of a 16-bit number. -/
def bytes16 (n : UInt16) : List UInt8 := [(n >>> 8).toUInt8, n.toUInt8]

/-- The 16-bit number of two bytes. -/
def word16 (hi lo : UInt8) : UInt16 := (hi.toUInt16 <<< 8) ||| lo.toUInt16

/-- The bytes of a 32-bit number. -/
def bytes32 (n : UInt32) : List UInt8 :=
  [(n >>> 24).toUInt8, (n >>> 16).toUInt8, (n >>> 8).toUInt8, n.toUInt8]

/-- The 32-bit number of four bytes. -/
def word32 (b0 b1 b2 b3 : UInt8) : UInt32 :=
  (b0.toUInt32 <<< 24) ||| (b1.toUInt32 <<< 16) ||| (b2.toUInt32 <<< 8) ||| b3.toUInt32

/-! ## Equality by bits -/

theorem eq_of_bits8 {a b : UInt8}
    (h : ∀ i < 8, a.toBitVec.getLsbD i = b.toBitVec.getLsbD i) : a = b :=
  UInt8.toBitVec_inj.mp (BitVec.eq_of_getLsbD_eq h)

theorem eq_of_bits16 {a b : UInt16}
    (h : ∀ i < 16, a.toBitVec.getLsbD i = b.toBitVec.getLsbD i) : a = b :=
  UInt16.toBitVec_inj.mp (BitVec.eq_of_getLsbD_eq h)

theorem eq_of_bits32 {a b : UInt32}
    (h : ∀ i < 32, a.toBitVec.getLsbD i = b.toBitVec.getLsbD i) : a = b :=
  UInt32.toBitVec_inj.mp (BitVec.eq_of_getLsbD_eq h)

/-! ## Round trips -/

theorem word16_bytes16 (n : UInt16) : word16 (n >>> 8).toUInt8 n.toUInt8 = n := by
  unfold word16
  refine eq_of_bits16 fun i hi => ?_
  interval_cases i <;> simp [-UInt16.toUInt16_toUInt8]

theorem bytes16_word16 (hi lo : UInt8) : bytes16 (word16 hi lo) = [hi, lo] := by
  have hhi : (word16 hi lo >>> 8).toUInt8 = hi := by
    unfold word16
    refine eq_of_bits8 fun i hi => ?_
    interval_cases i <;> simp
  have hlo : (word16 hi lo).toUInt8 = lo := by
    unfold word16
    refine eq_of_bits8 fun i hi => ?_
    interval_cases i <;> simp
  unfold bytes16
  rw [hhi, hlo]

theorem word32_bytes32 (n : UInt32) :
    word32 (n >>> 24).toUInt8 (n >>> 16).toUInt8 (n >>> 8).toUInt8 n.toUInt8 = n := by
  unfold word32
  refine eq_of_bits32 fun i hi => ?_
  interval_cases i <;> simp [-UInt32.toUInt32_toUInt8]

end NetworkOrder
