import UeSim.Common.Types
import UeSim.Support.NetworkOrder

/-!
# The reliability header of a transaction

`SueHeader` packs the virtual channel of a transaction into the two upper bits of a 16-bit
field, and only two bits of it go on the wire.  The number of a virtual channel is a byte
elsewhere.
-/

namespace UeSim

open NetworkOrder

/-- `SueHeader`, with the members of the class. -/
@[ext] structure SueHeader where
  psn : UInt16 := 0
  xpuid : UInt16 := 0
  opVerRsv : UInt8 := 0
  rpsn : UInt16 := 0
  vcPart : UInt16 := 0
  deriving DecidableEq, Repr

namespace SueHeader

/-- `SetPsn`. -/
def setPsn (h : SueHeader) (psn : UInt16) : SueHeader := { h with psn := psn }

/-- `SetRpsn`. -/
def setRpsn (h : SueHeader) (rpsn : UInt16) : SueHeader := { h with rpsn := rpsn }

/-- `SetXpuId`, which keeps ten bits. -/
def setXpuId (h : SueHeader) (xpuid : UInt16) : SueHeader :=
  { h with xpuid := xpuid &&& (0x03FF : UInt16) }

/-- `SetVc`, which keeps two bits. -/
def setVc (h : SueHeader) (vc : UInt8) : SueHeader :=
  { h with
    vcPart := (h.vcPart &&& (0x3FFF : UInt16)) ||| ((vc &&& (0x03 : UInt8)).toUInt16 <<< 14) }

/-- `GetVc`. -/
def getVc (h : SueHeader) : UInt8 := ((h.vcPart >>> 14) &&& 0x03).toUInt8

/-- `SetOp`, which keeps two bits. -/
def setOp (h : SueHeader) (op : UInt8) : SueHeader :=
  { h with opVerRsv := (h.opVerRsv &&& (0x3F : UInt8)) ||| ((op &&& (0x03 : UInt8)) <<< 6) }

/-- `GetOp`. -/
def getOp (h : SueHeader) : UInt8 := (h.opVerRsv >>> 6) &&& 0x03

/-- `GetSerializedSize`. -/
def serializedSize : ℕ := 8

/-- The two words that `Serialize` writes. -/
structure Words where
  first : UInt32
  second : UInt32
  deriving DecidableEq, Repr

/-- `Serialize`. -/
def serialize (h : SueHeader) : Words where
  first := ((h.getOp &&& 0x03).toUInt32 <<< 30) ||| ((h.xpuid &&& 0x03FF).toUInt32 <<< 16) |||
    (h.psn &&& 0xFFFF).toUInt32
  second := ((h.getVc &&& 0x03).toUInt32 <<< 30) ||| (h.rpsn &&& 0xFFFF).toUInt32

/-- `Deserialize`, into a new header. -/
def deserialize (w : Words) : SueHeader :=
  ((((({} : SueHeader).setOp ((w.first >>> 30) &&& 0x03).toUInt8).setXpuId
    ((w.first >>> 16) &&& 0x03FF).toUInt16).setPsn (w.first &&& 0xFFFF).toUInt16).setVc
      ((w.second >>> 30) &&& 0x03).toUInt8).setRpsn (w.second &&& 0xFFFF).toUInt16

/-! ## What a header keeps -/

/-- A header keeps the two lower bits of a virtual channel. -/
theorem getVc_setVc (h : SueHeader) (vc : UInt8) : (h.setVc vc).getVc = vc &&& 0x03 := by
  unfold setVc getVc
  refine eq_of_bits8 fun i hi => ?_
  interval_cases i <;> simp

/-- What is read of a header is two bits. -/
theorem getVc_and_three (h : SueHeader) : h.getVc &&& 0x03 = h.getVc := by
  unfold getVc
  refine eq_of_bits8 fun i hi => ?_
  interval_cases i <;> simp

/-- A byte below 4 is its two lower bits. -/
theorem and_three_of_lt {vc : UInt8} (h : vc < 4) : vc &&& 0x03 = vc := by
  apply UInt8.toNat_inj.mp
  rw [UInt8.toNat_and]
  exact (Nat.and_two_pow_sub_one_eq_mod vc.toNat 2).trans
    (Nat.mod_eq_of_lt (UInt8.lt_iff_toNat_lt.mp h))

/-- The part of a header that goes on the wire. -/
def onWire (h : SueHeader) : SueHeader where
  psn := h.psn
  xpuid := h.xpuid &&& 0x03FF
  opVerRsv := h.opVerRsv &&& 0xC0
  rpsn := h.rpsn
  vcPart := h.vcPart &&& 0xC000

/-- The operation and the destination that the upper half of the first word carries. -/
theorem serialize_first (h : SueHeader) :
    ((h.serialize.first >>> 30) &&& 0x03).toUInt8 = h.getOp &&& 0x03 ∧
      ((h.serialize.first >>> 16) &&& 0x03FF).toUInt16 = h.xpuid &&& 0x03FF := by
  unfold serialize
  constructor
  · refine eq_of_bits8 fun i hi => ?_
    interval_cases i <;> simp
  · refine eq_of_bits16 fun i hi => ?_
    interval_cases i <;> simp

/-- The virtual channel that the upper half of the second word carries. -/
theorem serialize_second (h : SueHeader) :
    ((h.serialize.second >>> 30) &&& 0x03).toUInt8 = h.getVc &&& 0x03 := by
  unfold serialize
  refine eq_of_bits8 fun i hi => ?_
  interval_cases i <;> simp

/-- The sequence numbers that the lower halves of the words carry. -/
theorem serialize_lower (h : SueHeader) :
    (h.serialize.first &&& 0xFFFF).toUInt16 = h.psn ∧
      (h.serialize.second &&& 0xFFFF).toUInt16 = h.rpsn := by
  unfold serialize
  constructor
  · refine eq_of_bits16 fun i hi => ?_
    interval_cases i <;> simp
  · refine eq_of_bits16 fun i hi => ?_
    interval_cases i <;> simp

/-- What `Deserialize` makes of a serialised header. -/
theorem deserialize_serialize (h : SueHeader) : deserialize h.serialize = h.onWire := by
  unfold deserialize
  rw [h.serialize_first.1, h.serialize_first.2, h.serialize_second, h.serialize_lower.1,
    h.serialize_lower.2]
  apply SueHeader.ext
  · rfl
  · refine eq_of_bits16 fun i hi => ?_
    interval_cases i <;> simp [setRpsn, setVc, setPsn, setXpuId, setOp, onWire]
  · refine eq_of_bits8 fun i hi => ?_
    interval_cases i <;> simp [setRpsn, setVc, setPsn, setXpuId, setOp, getOp, onWire]
  · rfl
  · refine eq_of_bits16 fun i hi => ?_
    interval_cases i <;> simp [setRpsn, setVc, setPsn, setXpuId, setOp, getVc, onWire,
      -UInt16.toUInt16_toUInt8]

/-- The virtual channel of a header survives the wire. -/
theorem getVc_onWire (h : SueHeader) : h.onWire.getVc = h.getVc := by
  unfold onWire getVc
  refine eq_of_bits8 fun i hi => ?_
  interval_cases i <;> simp

end SueHeader

end UeSim
