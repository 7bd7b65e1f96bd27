import UeSim.Sue.FrameBytes
import UeSim.Sue.LlrDuplex

/-!
# The source addresses of frames

Devices read the source address of a frame when they receive it, to find the lanes of its
sender, and switch ports replace it when they transmit the frame.  Both go through
`ExtractSourceMac`, which takes off a PPP header and an Ethernet header, and puts them on
again, whatever the packet begins with.
-/

namespace UeSim

open NetworkOrder

/-! ## What is received -/

/-- A device with retransmission, and the devices of its node. -/
structure LlrPort where
  localMac : Mac48Address
  peerMac : Mac48Address
  devices : List Mac48Address
  numVcs : UInt8

namespace LlrPort

/-- The lanes that its manager makes as a switch port. -/
def lanes (d : LlrPort) : List (Mac48Address × UInt8) :=
  LlrSwitchPortManager.portLanes d.numVcs d.localMac d.peerMac d.devices

end LlrPort

/-- The way by which a data packet comes to a device: over the link, with a PPP header, or
from a port of the same node. -/
inductive DataEntry
  | receive
  | enqueueToVcQueue (ppp : Bool)
  deriving DecidableEq, Repr

/-- A data packet that comes to a device. -/
structure DataArrival where
  entry : DataEntry
  destination : Mac48Address
  source : Mac48Address
  contents : DataContents

namespace DataArrival

/-- The frame of a data packet. -/
def frame (a : DataArrival) : SueFrame where
  destination := a.destination
  source := a.source
  kind := .data (match a.entry with | .receive => true | .enqueueToVcQueue ppp => ppp) a.contents

/-- The packet from which the source address is read: `Receive` has taken off the PPP header
of a data packet before. -/
def readFrom (a : DataArrival) (vcId : UInt8) : Option (List UInt8) :=
  match a.entry with
  | .receive => (removePpp (a.frame.bytes vcId)).map Prod.snd
  | .enqueueToVcQueue _ => some (a.frame.bytes vcId)

/-- Whether the packet comes to `LlrReceivePacket`.  `EnqueueToVcQueue` gives it to the
manager when it recognises a PPP header, and not that of a control frame. -/
def entersLlr (a : DataArrival) (vcId : UInt8) : Bool :=
  match a.entry with
  | .receive => true
  | .enqueueToVcQueue _ => (removePpp (a.frame.bytes vcId)).any fun ppp =>
      ppp.1 ∈ knownPppProtocols ∧
        ppp.1 ≠ SuePacketUtils.etherToPpp SuePacketUtils.ackRev ∧
        ppp.1 ≠ SuePacketUtils.etherToPpp SuePacketUtils.nackRev

/-- The address that is passed to `LlrReceivePacket`, with the packet that the extraction
leaves. -/
def passed (a : DataArrival) (vcId : UInt8) : Option (Mac48Address × List UInt8) :=
  (a.readFrom vcId).bind fun bytes => SuePacketUtils.extractSourceMac bytes false {}

/-- What should hold of a packet that comes to `LlrReceivePacket`: the address is the source
of its Ethernet header, its bytes are unchanged, and no access of the manager of a switch
port is out of range. -/
def KeyedBySender (d : LlrPort) (a : DataArrival) : Prop :=
  ∀ vcId, a.entersLlr vcId = true →
    ∃ bytes, a.readFrom vcId = some bytes ∧ a.passed vcId = some (a.source, bytes) ∧
      (d.localMac.isSwitchDevice = true →
        ∀ m : LlrSwitchPortManager (List UInt8), (LlrManager.traffic d.lanes).Reachable m →
          m.numVcs = d.numVcs → ∀ vcId seq, LlrSwitchPortManager.accepts
            (m.initializeLlr d.localMac d.peerMac d.devices) vcId seq a.source ≠ none)

/-- The only address that is its own reading without a PPP header. -/
def selfShifted : Mac48Address := ⟨0x08, 0x00, 0x08, 0x00, 0x08, 0x00⟩

/-- A device has lanes for an address, where it needs them. -/
def Knows (d : LlrPort) (mac : Mac48Address) : Prop :=
  d.localMac.isSwitchDevice = true → d.numVcs ≠ 0 →
    mac ∈ LlrSwitchPortManager.knownMacs d.localMac d.peerMac d.devices

/-- When the sender's lanes are found: over the link, only for one source address; from a
port of the node, for a packet with a PPP header; and for one without it, if none is
recognised, or for that source address. -/
def FindsSender (d : LlrPort) (a : DataArrival) : Prop :=
  match a.entry with
  | .receive => a.source = selfShifted ∧ Knows d a.source
  | .enqueueToVcQueue true => Knows d a.source
  | .enqueueToVcQueue false =>
      word16 a.destination.b0 a.destination.b1 ∈ [0x0021, 0x0057, 0x00FB] →
        a.source = selfShifted ∧ Knows d a.source

end DataArrival

/-! ## The extraction -/

theorem eq_of_removePpp {bytes rest : List UInt8} {protocol : UInt16}
    (h : removePpp bytes = some (protocol, rest)) : bytes = bytes16 protocol ++ rest := by
  unfold removePpp at h
  split at h
  · cases h
    rw [bytes16_word16]
    rfl
  · cases h

theorem eq_of_removeEthernet {bytes rest : List UInt8} {fields : EthernetFields}
    (h : removeEthernet bytes = some (fields, rest)) : bytes = fields.serialize ++ rest := by
  unfold removeEthernet at h
  split at h
  · cases h
    unfold EthernetFields.serialize
    rw [bytes16_word16]
    rfl
  · cases h

namespace SuePacketUtils

/-- Without a new source address the extraction leaves the packet as it is. -/
theorem eq_of_extractSourceMac {bytes left : List UInt8} {mac newSourceMac : Mac48Address}
    (h : extractSourceMac bytes false newSourceMac = some (mac, left)) : left = bytes := by
  obtain ⟨⟨protocol, rest⟩, hppp, h⟩ := Option.bind_eq_some_iff.mp h
  obtain ⟨⟨fields, body⟩, hethernet, h⟩ := Option.map_eq_some_iff.mp h
  cases h
  have hrest : rest = fields.serialize ++ body := eq_of_removeEthernet hethernet
  rw [eq_of_removePpp hppp, hrest]
  rfl

/-- The source address behind a PPP header. -/
theorem extractSourceMac_ppp (protocol : UInt16) (h : EthernetFields) (rest : List UInt8)
    (modifyHeader : Bool) (newSourceMac : Mac48Address) :
    extractSourceMac (pppBytes protocol ++ (h.serialize ++ rest)) modifyHeader newSourceMac =
      some (h.source, pppBytes protocol ++
        ((if modifyHeader then h.setSource newSourceMac else h).serialize ++ rest)) := by
  unfold extractSourceMac
  rw [removePpp_pppBytes, Option.bind_some, removeEthernet_serialize]
  rfl

/-- Without a PPP header, the address is read two bytes off. -/
theorem extractSourceMac_bare (f : SueFrame) (contents : DataContents) (vcId : UInt8) :
    extractSourceMac (f.ethernet.serialize ++ contents.bytes vcId) false {} =
      some (f.source.shifted, f.ethernet.serialize ++ contents.bytes vcId) := by
  obtain ⟨second, rest, hrest⟩ : ∃ second rest, contents.bytes vcId = 0x45 :: second :: rest := by
    unfold DataContents.bytes
    cases hipv4 : contents.ipv4 with
    | nil =>
        have hlength := contents.length_ipv4
        rw [hipv4] at hlength
        cases hlength
    | cons second ipv4 => exact ⟨second, _, rfl⟩
  obtain ⟨left, hleft⟩ : ∃ left, extractSourceMac (f.ethernet.serialize ++ contents.bytes vcId)
      false {} = some (f.source.shifted, left) := by
    rw [hrest, SueFrame.serialize_ethernet]
    exact ⟨_, rfl⟩
  rw [hleft, eq_of_extractSourceMac hleft]

end SuePacketUtils

/-! ## Lanes that are found -/

theorem LlrSwitchPortManager.mem_portLanes {numVcs vcId : UInt8}
    {localMac peerMac mac : Mac48Address} {devices : List Mac48Address} :
    (mac, vcId) ∈ portLanes numVcs localMac peerMac devices ↔
      mac ∈ knownMacs localMac peerMac devices ∧ vcId < numVcs := by
  unfold portLanes
  rw [List.mem_flatMap]
  constructor
  · rintro ⟨mac', hmac, hkey⟩
    obtain ⟨vcId', hvc, heq⟩ := List.mem_map.mp hkey
    cases heq
    exact ⟨hmac, mem_vcIds.mp hvc⟩
  · rintro ⟨hmac, hvc⟩
    exact ⟨mac, hmac, List.mem_map.mpr ⟨vcId, mem_vcIds.mpr hvc, rfl⟩⟩

namespace DataArrival

open LlrSwitchPortManager

variable {d : LlrPort} {mac : Mac48Address}

/-- No access is out of range exactly when the device has lanes for the address. -/
theorem accepts_iff_knows (d : LlrPort) (mac : Mac48Address) :
    (d.localMac.isSwitchDevice = true →
        ∀ m : LlrSwitchPortManager (List UInt8), (LlrManager.traffic d.lanes).Reachable m →
          m.numVcs = d.numVcs → ∀ vcId seq, accepts
            (m.initializeLlr d.localMac d.peerMac d.devices) vcId seq mac ≠ none) ↔
      Knows d mac := by
  refine imp_congr_right fun _ => ?_
  constructor
  · intro haccepts hvcs
    by_contra hmac
    have hpos : 0 < d.numVcs := UInt8.pos_iff_ne_zero.mpr hvcs
    have hon : ¬(!({ numVcs := d.numVcs } : LlrSwitchPortManager (List UInt8)).llrEnabled) =
        true := Bool.false_ne_true
    refine haccepts { numVcs := d.numVcs } (.init rfl) rfl 0 0 ?_
    unfold accepts initializeLlr
    rw [LlrManager.llrEnabled_openLanes, LlrManager.numVcs_openLanes,
      LlrManager.lookup_openLanes, if_neg hon, if_neg (UInt8.not_le.mpr hpos), if_neg]
    · rfl
    · exact fun hkey => hmac (mem_portLanes.mp hkey).1
  · intro hknows m _ hnumVcs vcId seq
    unfold accepts initializeLlr
    rw [LlrManager.llrEnabled_openLanes, LlrManager.numVcs_openLanes,
      LlrManager.lookup_openLanes]
    split_ifs with henabled hvc hkey
    · intro h
      cases h
    · intro h
      cases h
    · intro h
      cases h
    · refine absurd (mem_portLanes.mpr ⟨hknows ?_, UInt8.not_le.mp hvc⟩) hkey
      rintro hzero
      rw [hnumVcs, hzero] at hvc
      exact hvc (UInt8.zero_le)

theorem shifted_eq_iff : mac.shifted = mac ↔ mac = selfShifted := by
  constructor
  · intro h
    obtain ⟨b0, b1, b2, b3, b4, b5⟩ := mac
    simp only [Mac48Address.shifted, Mac48Address.mk.injEq] at h
    obtain ⟨rfl, rfl, rfl, rfl, rfl, rfl⟩ := h
    rfl
  · rintro rfl
    rfl

/-- A packet whose address is read behind a PPP header, or behind none. -/
theorem keyedBySender_of_passed {a : DataArrival} (hentry : ∀ vcId, a.entersLlr vcId = true)
    (hread : ∀ vcId, ∃ bytes, a.readFrom vcId = some bytes ∧ a.passed vcId = some (mac, bytes)) :
    KeyedBySender d a ↔ mac = a.source ∧ Knows d a.source := by
  rw [← accepts_iff_knows]
  constructor
  · intro hkeyed
    obtain ⟨bytes, hbytes, hpassed, haccepts⟩ := hkeyed 0 (hentry 0)
    obtain ⟨bytes', hbytes', hpassed'⟩ := hread 0
    cases hpassed.symm.trans hpassed'
    exact ⟨rfl, haccepts⟩
  · rintro ⟨rfl, haccepts⟩ vcId _
    obtain ⟨bytes, hbytes, hpassed⟩ := hread vcId
    exact ⟨bytes, hbytes, hpassed, haccepts⟩

theorem kind_frame {a : DataArrival} {ppp : Bool}
    (hppp : (match a.entry with | .receive => true | .enqueueToVcQueue ppp => ppp) = ppp) :
    a.frame.kind = .data ppp a.contents := by
  unfold frame
  rw [hppp]

/-- What is passed to the manager from a packet that has its Ethernet header in front. -/
theorem passed_of_readFrom {a : DataArrival} {vcId : UInt8}
    (hread : a.readFrom vcId = some (a.frame.ethernet.serialize ++ a.contents.bytes vcId)) :
    ∃ bytes, a.readFrom vcId = some bytes ∧ a.passed vcId = some (a.source.shifted, bytes) := by
  refine ⟨_, hread, ?_⟩
  unfold passed
  rw [hread, Option.bind_some]
  exact SuePacketUtils.extractSourceMac_bare a.frame a.contents vcId

/-- `Receive` takes off the PPP header. -/
theorem readFrom_receive {a : DataArrival} (hentry : a.entry = .receive) (vcId : UInt8) :
    a.readFrom vcId = some (a.frame.ethernet.serialize ++ a.contents.bytes vcId) := by
  have hkind : a.frame.kind = .data true a.contents := kind_frame (by rw [hentry])
  unfold readFrom
  rw [hentry]
  dsimp only
  rw [SueFrame.bytes_ppp hkind, removePpp_pppBytes, Option.map_some]

/-- What `Receive` passes to the manager. -/
theorem passed_receive {a : DataArrival} (hentry : a.entry = .receive) (vcId : UInt8) :
    ∃ bytes, a.readFrom vcId = some bytes ∧ a.passed vcId = some (a.source.shifted, bytes) :=
  passed_of_readFrom (readFrom_receive hentry vcId)

/-- What `EnqueueToVcQueue` passes to the manager, for a packet with a PPP header. -/
theorem passed_enqueue_ppp {a : DataArrival} (hentry : a.entry = .enqueueToVcQueue true)
    (vcId : UInt8) :
    ∃ bytes, a.readFrom vcId = some bytes ∧ a.passed vcId = some (a.source, bytes) := by
  have hkind : a.frame.kind = .data true a.contents := kind_frame (by rw [hentry])
  have hread : a.readFrom vcId = some (pppBytes 0x0800 ++
      (a.frame.ethernet.serialize ++ a.contents.bytes vcId)) := by
    rw [← SueFrame.bytes_ppp hkind]
    unfold readFrom
    rw [hentry]
  refine ⟨_, hread, ?_⟩
  unfold passed
  rw [hread, Option.bind_some]
  exact SuePacketUtils.extractSourceMac_ppp 0x0800 a.frame.ethernet _ false {}

/-- What `EnqueueToVcQueue` passes to the manager, for a packet without a PPP header in
which it recognises one. -/
theorem passed_enqueue_bare {a : DataArrival} (hentry : a.entry = .enqueueToVcQueue false)
    (vcId : UInt8) :
    ∃ bytes, a.readFrom vcId = some bytes ∧ a.passed vcId = some (a.source.shifted, bytes) := by
  have hkind : a.frame.kind = .data false a.contents := kind_frame (by rw [hentry])
  refine passed_of_readFrom ?_
  rw [← SueFrame.bytes_bare hkind]
  unfold readFrom
  rw [hentry]

/-- The known protocols but for those of control frames of retransmission. -/
theorem dataProtocol_iff (protocol : UInt16) :
    (protocol ∈ knownPppProtocols ∧
        protocol ≠ SuePacketUtils.etherToPpp SuePacketUtils.ackRev ∧
        protocol ≠ SuePacketUtils.etherToPpp SuePacketUtils.nackRev) ↔
      protocol ∈ ([0x0021, 0x0057, 0x00FB] : List UInt16) := by
  have hknown : knownPppProtocols = [0x0021, 0x0057, 0x00FB, 0x1111, 0x2222] := by decide
  have hack : SuePacketUtils.etherToPpp SuePacketUtils.ackRev = 0x1111 := by decide
  have hnack : SuePacketUtils.etherToPpp SuePacketUtils.nackRev = 0x2222 := by decide
  rw [hknown, hack, hnack]
  simp only [List.mem_cons, List.not_mem_nil, or_false]
  constructor
  · rintro ⟨rfl | rfl | rfl | rfl | rfl, hack', hnack'⟩
    · exact .inl rfl
    · exact .inr (.inl rfl)
    · exact .inr (.inr rfl)
    · exact absurd rfl hack'
    · exact absurd rfl hnack'
  · rintro (rfl | rfl | rfl)
    · decide
    · decide
    · decide

/-- The lanes of a data packet are those of its sender exactly when the device finds
them. -/
theorem keyedBySender_iff_findsSender (d : LlrPort) (a : DataArrival) :
    KeyedBySender d a ↔ FindsSender d a := by
  unfold FindsSender
  cases hentry : a.entry with
  | receive =>
      have henters : ∀ vcId, a.entersLlr vcId = true := by
        intro vcId
        unfold entersLlr
        rw [hentry]
      rw [keyedBySender_of_passed henters (passed_receive hentry), shifted_eq_iff]
  | enqueueToVcQueue ppp =>
      have hbytes : ∀ vcId, a.entersLlr vcId = (removePpp (a.frame.bytes vcId)).any fun ppp =>
          ppp.1 ∈ knownPppProtocols ∧
            ppp.1 ≠ SuePacketUtils.etherToPpp SuePacketUtils.ackRev ∧
            ppp.1 ≠ SuePacketUtils.etherToPpp SuePacketUtils.nackRev := by
        intro vcId
        unfold entersLlr
        rw [hentry]
      cases ppp with
      | true =>
          have henters : ∀ vcId, a.entersLlr vcId = true := by
            intro vcId
            have hkind : a.frame.kind = .data true a.contents := kind_frame (by rw [hentry])
            rw [hbytes, SueFrame.bytes_ppp hkind, removePpp_pppBytes]
            rfl
          rw [keyedBySender_of_passed henters (passed_enqueue_ppp hentry)]
          exact and_iff_right rfl
      | false =>
          have hkind : a.frame.kind = .data false a.contents := kind_frame (by rw [hentry])
          have hword : ∀ vcId, a.entersLlr vcId = true ↔
              word16 a.destination.b0 a.destination.b1 ∈ [0x0021, 0x0057, 0x00FB] := by
            intro vcId
            rw [hbytes, SueFrame.bytes_bare hkind, SueFrame.removePpp_bare, Option.any_some,
              decide_eq_true_iff]
            exact dataProtocol_iff _
          by_cases henters : word16 a.destination.b0 a.destination.b1 ∈ [0x0021, 0x0057, 0x00FB]
          · rw [keyedBySender_of_passed (fun vcId => (hword vcId).mpr henters)
              (passed_enqueue_bare hentry), shifted_eq_iff]
            exact ⟨fun h _ => h, fun h => h henters⟩
          · refine iff_of_true (fun vcId h => ?_) fun h => absurd h henters
            exact absurd ((hword vcId).mp h) henters

/-- A port of a switch whose peer is a network card. -/
def firstPort : LlrPort where
  localMac := { b5 := 2 }
  peerMac := { b5 := 1 }
  devices := [{ b5 := 2 }, { b5 := 4 }]
  numVcs := 4

/-- A transaction of that card. -/
def fromCard : DataArrival where
  entry := .receive
  destination := { b5 := 3 }
  source := { b5 := 1 }
  contents := SueFrame.transaction

/-- The address that the port reads from the card's first packet is not that of the card,
and it has no lane for it. -/
theorem not_keyedBySender_fromCard :
    (fromCard.passed 0).map Prod.fst = some { b3 := 1, b4 := 8 } ∧
      accepts (initializeLlr ({ numVcs := 4 } : LlrSwitchPortManager (List UInt8))
        firstPort.localMac firstPort.peerMac firstPort.devices) 0 0 { b3 := 1, b4 := 8 } = none ∧
      ¬KeyedBySender firstPort fromCard := by
  have hread : (fromCard.passed 0).map Prod.fst = some { b3 := 1, b4 := 8 } := by decide
  refine ⟨hread, by decide, fun hkeyed => ?_⟩
  obtain ⟨bytes, -, hpassed, -⟩ := hkeyed 0 rfl
  have hsource : fromCard.source = { b3 := 1, b4 := 8 } := by
    rw [hpassed] at hread
    exact Option.some.inj hread
  exact absurd hsource (by decide)

end DataArrival

end UeSim
