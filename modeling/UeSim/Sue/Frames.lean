import UeSim.Common.Types

/-!
# Frames of the scale-up link

The addresses, packets and headers that the devices of a scale-up link exchange.
A data packet is known by its addresses, its virtual channel and the size of what
its Ethernet header carries; the bytes inside decide nothing here.
-/

namespace UeSim

/-- `Mac48Address`, byte by byte. -/
structure Mac48Address where
  b0 : UInt8 := 0
  b1 : UInt8 := 0
  b2 : UInt8 := 0
  b3 : UInt8 := 0
  b4 : UInt8 := 0
  b5 : UInt8 := 0
  deriving DecidableEq, Repr

/-- `IsSwitchDevice`: the addresses of switch ports end in an even byte. -/
def Mac48Address.isSwitchDevice (mac : Mac48Address) : Bool :=
  mac.b5 % 2 = 0

/-- The virtual channels of a device, in the order of the loops over them. -/
def vcIds (numVcs : UInt8) : List UInt8 :=
  (List.range numVcs.toNat).map UInt8.ofNat

theorem mem_vcIds {numVcs vcId : UInt8} : vcId ∈ vcIds numVcs ↔ vcId < numVcs := by
  unfold vcIds
  rw [List.mem_map, UInt8.lt_iff_toNat_lt]
  constructor
  · rintro ⟨i, hi, rfl⟩
    have hle : (UInt8.ofNat i).toNat ≤ i := by
      rw [UInt8.toNat_ofNat']
      exact Nat.mod_le _ _
    have hlt := List.mem_range.mp hi
    omega
  · exact fun hvc => ⟨vcId.toNat, List.mem_range.mpr hvc, UInt8.ofNat_toNat⟩

theorem length_vcIds (numVcs : UInt8) : (vcIds numVcs).length = numVcs.toNat := by
  unfold vcIds
  rw [List.length_map, List.length_range]

/-- The size of a serialised `EthernetHeader`. -/
def ethernetHeaderSize : ℕ := 14

/-- The size of a serialised `SuePppHeader`. -/
def pppHeaderSize : ℕ := 2

/-- A data packet behind its Ethernet header.  Its size on the wire fits into 32 bits. -/
structure SuePacket where
  source : Mac48Address
  destination : Mac48Address
  vcId : UInt8
  /-- The size of what the Ethernet header carries. -/
  bodySize : ℕ
  small : bodySize + ethernetHeaderSize + pppHeaderSize < 2 ^ 32
  deriving DecidableEq, Repr

namespace SuePacket

/-- The size of a packet with its Ethernet header. -/
def size (packet : SuePacket) : ℕ := packet.bodySize + ethernetHeaderSize

/-- The size of a packet with its Ethernet and PPP headers, in the queues of the
virtual channels and on the wire. -/
def wireSize (packet : SuePacket) : ℕ := packet.size + pppHeaderSize

/-- A packet with its source address replaced. -/
def withSource (packet : SuePacket) (source : Mac48Address) : SuePacket :=
  { packet with source := source }

theorem size_le_wireSize (packet : SuePacket) : packet.size ≤ packet.wireSize :=
  Nat.le_add_right _ _

theorem bodySize_le_wireSize (packet : SuePacket) : packet.bodySize ≤ packet.wireSize :=
  (Nat.le_add_right _ ethernetHeaderSize).trans (Nat.le_add_right _ pppHeaderSize)

end SuePacket

/-! ## Credit updates -/

/-- `SueCbfcHeader`, whose two fields are bytes. -/
structure SueCbfcHeader where
  vcId : UInt8 := 0
  credits : UInt8 := 0
  deriving DecidableEq, Repr

namespace SueCbfcHeader

/-- `SueCbfcHeader::SetCredits`: the argument is converted to a byte. -/
def setCredits (header : SueCbfcHeader) (credits : ℕ) : SueCbfcHeader :=
  { header with credits := UInt8.ofNat credits }

/-- `SueCbfcHeader::GetCredits`, read as a 32-bit number. -/
def getCredits (header : SueCbfcHeader) : ℕ := header.credits.toNat

/-- `SueCbfcHeader::Serialize`. -/
def serialize (header : SueCbfcHeader) : List UInt8 := [header.vcId, header.credits]

/-- `SueCbfcHeader::Deserialize`, when the buffer holds the two bytes. -/
def deserialize : List UInt8 → Option SueCbfcHeader
  | vcId :: credits :: _ => some ⟨vcId, credits⟩
  | _ => none

@[simp] theorem deserialize_serialize (header : SueCbfcHeader) :
    deserialize header.serialize = some header := rfl

@[simp] theorem vcId_setCredits (header : SueCbfcHeader) (credits : ℕ) :
    (header.setCredits credits).vcId = header.vcId := rfl

/-- The header keeps the credits modulo 256. -/
theorem getCredits_setCredits (header : SueCbfcHeader) (credits : ℕ) :
    (header.setCredits credits).getCredits = credits % 256 := by
  simp [setCredits, getCredits]

end SueCbfcHeader

/-- A credit update: the addresses of its Ethernet header and its serialised credit
header. -/
structure CreditFrame where
  source : Mac48Address
  destination : Mac48Address
  header : List UInt8
  deriving DecidableEq, Repr

namespace CreditFrame

/-- The virtual channel that a receiver reads from a credit update. -/
def vcId (frame : CreditFrame) : Option UInt8 :=
  (SueCbfcHeader.deserialize frame.header).map SueCbfcHeader.vcId

/-- The credits that a receiver reads from a credit update. -/
def credits (frame : CreditFrame) : ℕ :=
  (SueCbfcHeader.deserialize frame.header).elim 0 SueCbfcHeader.getCredits

end CreditFrame

end UeSim
