import UeSim.Sue.CbfcManager
import UeSim.Sue.FrameBytes
import UeSim.Support.Transition
import UeSim.Support.WeightedList

/-!
# A network of links under credit-based flow control

Network cards and switch ports are known by their addresses.  A packet crosses a link
into a processing queue; a switch port forwards it inside the switch to the queue of
another port, which sends it on.  Every crossing takes credits of the device that
sends, and the device that receives returns them once the packet has left its buffer.
For which virtual channel it does so it reads from the bytes of the packet, with a PPP
header in front of them or without.

Which of the pending events comes next is left open.  A packet carries a record of the
credits that were last taken for it, which no function reads.
-/

namespace UeSim

/-! ## Packets and their bytes -/

/-- A data packet behind its Ethernet header, with what that header carries.  The virtual
channel in its reliability header has two bits, and its size on the wire fits into 32. -/
structure FramedPacket where
  source : Mac48Address
  destination : Mac48Address
  vcId : UInt8
  contents : DataContents
  vcId_lt : vcId < 4
  small : (contents.bytes vcId).length + ethernetHeaderSize + pppHeaderSize < 2 ^ 32

namespace FramedPacket

/-- The size of what the Ethernet header carries. -/
def bodySize (packet : FramedPacket) : ℕ := (packet.contents.bytes packet.vcId).length

/-- The size of a packet with its Ethernet header. -/
def size (packet : FramedPacket) : ℕ := packet.bodySize + ethernetHeaderSize

/-- The size of a packet with its Ethernet and PPP headers, in the queues of the
virtual channels and on the wire. -/
def wireSize (packet : FramedPacket) : ℕ := packet.size + pppHeaderSize

/-- A packet with its source address replaced. -/
def withSource (packet : FramedPacket) (source : Mac48Address) : FramedPacket :=
  { packet with source := source }

/-- The bytes of a packet, with a PPP header or without. -/
def bytes (packet : FramedPacket) (ppp : Bool) : List UInt8 :=
  SueFrame.bytes ⟨packet.destination, packet.source, .data ppp packet.contents⟩ packet.vcId

/-- The virtual channel that a device reads from a packet without its PPP header, before the
packet enters a queue and after it has arrived. -/
def bareVcId (packet : FramedPacket) : UInt8 :=
  (SuePacketUtils.extractVcIdFromPacket (packet.bytes false)).getD 0

/-- The virtual channel that a device reads from a packet with its PPP header, when it starts
to transmit it. -/
def wireVcId (packet : FramedPacket) : UInt8 :=
  (SuePacketUtils.extractVcIdFromPacket (packet.bytes true)).getD 0

variable (packet : FramedPacket)

theorem size_le_wireSize : packet.size ≤ packet.wireSize :=
  Nat.le_add_right _ _

theorem bodySize_le_wireSize : packet.bodySize ≤ packet.wireSize :=
  (Nat.le_add_right _ ethernetHeaderSize).trans (Nat.le_add_right _ pppHeaderSize)

/-- Behind a PPP header the virtual channel is read right. -/
theorem wireVcId_eq : packet.wireVcId = packet.vcId := by
  have htold : SueFrame.ToldApart
      ⟨packet.destination, packet.source, .data true packet.contents⟩ :=
    SueFrame.toldApart_ppp rfl
  unfold wireVcId bytes
  rw [htold.vcId packet.vcId (decide_eq_true packet.vcId_lt)]
  rfl

/-- So it is in a packet for an address that begins with two zero bytes. -/
theorem bareVcId_of_zero (h0 : packet.destination.b0 = 0) (h1 : packet.destination.b1 = 0) :
    packet.bareVcId = packet.vcId := by
  have htold : SueFrame.ToldApart
      ⟨packet.destination, packet.source, .data false packet.contents⟩ :=
    (SueFrame.toldApart_bare rfl).mpr ⟨h0, h1⟩
  unfold bareVcId bytes
  rw [htold.vcId packet.vcId (decide_eq_true packet.vcId_lt)]
  rfl

/-- The source address has no part in what is read. -/
theorem bareVcId_withSource (source : Mac48Address) :
    (packet.withSource source).bareVcId = packet.bareVcId := by
  unfold bareVcId
  congr 1
  exact SuePacketUtils.extractVcIdFromPacket_source packet.destination source packet.source
    packet.contents packet.vcId

end FramedPacket

/-! ## Devices -/

/-- What is fixed about a network: the attributes of its devices, the device at the
other end of each link, the devices of the node of each device, and the forwarding
table of each port, with devices for its port numbers. -/
structure SueTopology where
  attributes : CbfcManager.Config
  vcQueueMaxBytes : ℕ
  processingQueueMaxBytes : ℕ
  llrEnabled : Bool := false
  remote : Mac48Address → Mac48Address
  ports : Mac48Address → List Mac48Address
  forwardingTable : Mac48Address → Mac48Address → Option Mac48Address
  /-- A link has two ends. -/
  remote_remote : ∀ mac, remote (remote mac) = mac
  /-- A link leads to another node. -/
  remote_notMem : ∀ mac, remote mac ∉ ports mac
  /-- The ports of a switch have addresses of switch ports, each its own, and they agree
  on who they are. -/
  ports_switch : ∀ mac mac', mac.isSwitchDevice = true → mac' ∈ ports mac →
    mac'.isSwitchDevice = true ∧ ports mac' = ports mac
  ports_self : ∀ mac, mac ∈ ports mac
  ports_nodup : ∀ mac, (ports mac).Nodup
  /-- A forwarding table leads to ports of the same switch. -/
  forwardingTable_mem : ∀ mac destination egress,
    forwardingTable mac destination = some egress → egress ∈ ports mac

/-- The credits of a packet of the given size. -/
def SueTopology.credits (t : SueTopology) (size : ℕ) : ℕ :=
  t.attributes.settings.calculateCreditsForPacket size

/-- Credits that `sender` has spent at `receiver` for a packet of some size: those by which
its transmit credits have gone down. -/
structure Charge where
  sender : Mac48Address
  receiver : Mac48Address
  vcId : UInt8
  size : ℕ
  credits : ℕ

/-- A data packet at a device or on its way to it, with its last charge. -/
structure LocatedPacket where
  device : Mac48Address
  packet : FramedPacket
  charge : Option Charge := none

/-- A pending `ForwardingComplete`, with the charges for reaching `ingress` and for
going on to `egress`. -/
structure Forwarding where
  ingress : Mac48Address
  egress : Mac48Address
  packet : FramedPacket
  /-- The virtual channel that was read when the packet arrived. -/
  vcId : UInt8
  /-- The source address of the packet before it was replaced. -/
  source : Mac48Address
  inbound : Option Charge
  internal : Option Charge

/-- A return of credits that is pending: `device` calls `HandleCreditReturn` and
`CreditReturn` for `target`.  The packet is the data packet it is for, with its charge. -/
structure CreditEvent where
  device : Mac48Address
  target : Mac48Address
  vcId : UInt8
  size : ℕ
  packet : Option FramedPacket := none
  charge : Option Charge := none

/-- A return of credits that has happened, with the number by which the credits that `device`
owes to `target` have gone up. -/
structure CreditEntry extends CreditEvent where
  added : ℕ

/-- The managers of the devices, and the packets, events and credit updates of a
network.  `charged` holds the charges that have been made, `ledger` the credit returns that
have happened, and `dropped` the data packets that a full buffer beyond the first network card
has dropped. -/
structure SueNetwork where
  managers : Mac48Address → CbfcManager
  queued : List LocatedPacket := []
  wire : List LocatedPacket := []
  processing : List LocatedPacket := []
  forwarding : List Forwarding := []
  events : List CreditEvent := []
  updates : List CreditFrame := []
  charged : List Charge := []
  ledger : List CreditEntry := []
  dropped : List LocatedPacket := []

namespace SueNetwork

variable {t : SueTopology} {s s' : SueNetwork}

/-! ## Buffers -/

/-- Whether a packet waits in the queue of a virtual channel of a device. -/
def inVcQueue (device : Mac48Address) (vcId : UInt8) (x : LocatedPacket) : Bool :=
  x.device = device && x.packet.bareVcId = vcId

/-- The bytes in the queue of a virtual channel. -/
def vcQueueBytes (s : SueNetwork) (device : Mac48Address) (vcId : UInt8) : ℕ :=
  WeightedList.weight (fun x => x.packet.wireSize) (s.queued.filter (inVcQueue device vcId))

/-- `m_currentProcessingQueueBytes`, before the reduction to its width. -/
def processingQueueBytes (s : SueNetwork) (device : Mac48Address) : ℕ :=
  WeightedList.weight (fun x => x.packet.size)
    (s.processing.filter fun x => x.device = device)

/-- Whether `SueQueueManager::EnqueueToVcQueue` takes a packet: the virtual channel has
a queue, and the queue has room. -/
def vcQueueTakes (t : SueTopology) (s : SueNetwork) (x : LocatedPacket) : Bool :=
  x.packet.bareVcId < t.attributes.numVcs &&
    toU32 (s.vcQueueBytes x.device x.packet.bareVcId + x.packet.wireSize) ≤ t.vcQueueMaxBytes

/-- `EnqueueToVcQueue` of a device for a packet in which no PPP header is recognised; its
callers do not look at the result.  What a network card refuses of its own packets is not
recorded. -/
def enqueueToVcQueue (t : SueTopology) (s : SueNetwork) (x : LocatedPacket) : SueNetwork :=
  { s with
    queued := if s.vcQueueTakes t x then s.queued ++ [x] else s.queued
    dropped :=
      if !s.vcQueueTakes t x && x.device.isSwitchDevice then s.dropped ++ [x]
      else s.dropped }

/-- The end of `Receive` for a data packet: the processing queue takes it or drops it. -/
def enqueueToProcessingQueue (t : SueTopology) (s : SueNetwork) (x : LocatedPacket) :
    SueNetwork :=
  if toU32 (s.processingQueueBytes x.device + x.packet.size) ≤ t.processingQueueMaxBytes then
    { s with processing := s.processing ++ [x] }
  else
    { s with dropped := s.dropped ++ [x] }

/-! ## Credits -/

/-- Whether the credits of a device allow a packet on, when they are looked at. -/
def allows (m : CbfcManager) (mac : Mac48Address) (vcId : UInt8) (packetSize : ℕ) : Bool :=
  !m.enableLinkCBFC || m.hasEnoughCredits mac vcId packetSize

/-- The manager after the credits of a packet are taken. -/
def spend (m : CbfcManager) (mac : Mac48Address) (vcId : UInt8) (packetSize : ℕ) :
    CbfcManager :=
  if m.enableLinkCBFC then m.consumeDynamicCredits mac vcId packetSize else m

/-- The number by which the transmit credits of a pair go down when a manager spends them. -/
def spent (m : CbfcManager) (mac : Mac48Address) (vcId : UInt8) (packetSize : ℕ) : ℕ :=
  m.getTxCredits mac vcId - (spend m mac vcId packetSize).getTxCredits mac vcId

/-- The entry of a credit return: what the manager owes is read before and after
`HandleCreditReturn`, as the difference of two 32-bit numbers. -/
def entryOf (m : CbfcManager) (event : CreditEvent) : CreditEntry where
  toCreditEvent := event
  added := subU32
    ((m.handleCreditReturn event.target event.vcId event.size).getCreditsToReturn event.target
      event.vcId)
    (m.getCreditsToReturn event.target event.vcId)

/-- A credit return happens. -/
def settle (s : SueNetwork) (event : CreditEvent) : SueNetwork :=
  let handled := (s.managers event.device).handleCreditReturn event.target event.vcId event.size
  { s with
    managers := Function.update s.managers event.device
      (handled.creditReturn event.device event.target event.vcId).1
    updates := s.updates ++ (handled.creditReturn event.device event.target event.vcId).2
    ledger := s.ledger ++ [entryOf (s.managers event.device) event] }

/-! ## The devices -/

/-- The credit return that `TransmitStart` of a switch port schedules for a packet. -/
def transmitEvents (device : Mac48Address) (x : LocatedPacket) : List CreditEvent :=
  if device.isSwitchDevice then
    [{ device := device, target := x.packet.source, vcId := x.packet.wireVcId,
       size := x.packet.wireSize, packet := some x.packet, charge := x.charge }]
  else
    []

/-- The charge of a packet that a device transmits: for the virtual channel in whose queue it
was. -/
def linkCharge (t : SueTopology) (s : SueNetwork) (device : Mac48Address) (x : LocatedPacket) :
    Charge where
  sender := device
  receiver := t.remote device
  vcId := x.packet.bareVcId
  size := x.packet.wireSize
  credits := spent (s.managers device) (t.remote device) x.packet.bareVcId x.packet.wireSize

/-- The packet that a device puts on the wire: a switch port writes its own address. -/
def transmitted (t : SueTopology) (s : SueNetwork) (device : Mac48Address) (x : LocatedPacket) :
    LocatedPacket where
  device := t.remote device
  packet := if device.isSwitchDevice then x.packet.withSource device else x.packet
  charge := some (s.linkCharge t device x)

/-- `TryTransmit` and `TransmitStart`, for the first packet of a queue. -/
def transmit (t : SueTopology) (s : SueNetwork) (device : Mac48Address) (x : LocatedPacket) :
    SueNetwork :=
  { s with
    managers := Function.update s.managers device
      (spend (s.managers device) (t.remote device) x.packet.bareVcId x.packet.wireSize)
    queued := s.queued.eraseP (inVcQueue device x.packet.bareVcId)
    wire := s.wire ++ [s.transmitted t device x]
    charged := s.charged ++ [s.linkCharge t device x]
    events := s.events ++ transmitEvents device x }

/-- A device takes the first packet out of its processing queue. -/
def popProcessing (s : SueNetwork) (device : Mac48Address) : SueNetwork :=
  { s with processing := s.processing.eraseP fun x => x.device = device }

/-- The charge of a packet that goes on to another port of the switch. -/
def portCharge (s : SueNetwork) (egress : Mac48Address) (x : LocatedPacket) : Charge where
  sender := x.device
  receiver := egress
  vcId := x.packet.bareVcId
  size := x.packet.size
  credits := spent (s.managers x.device) egress x.packet.bareVcId x.packet.size

/-- The packet inside a switch that `ProcessSwitchForwarding` makes of a packet. -/
def forwardingOf (s : SueNetwork) (egress : Mac48Address) (x : LocatedPacket) : Forwarding where
  ingress := x.device
  egress := egress
  packet := x.packet.withSource x.device
  vcId := x.packet.bareVcId
  source := x.packet.source
  inbound := x.charge
  internal := some (s.portCharge egress x)

/-- The branch of `ProcessSwitchForwarding` that goes on to another port. -/
def startForwarding (s : SueNetwork) (egress : Mac48Address) (x : LocatedPacket) :
    SueNetwork :=
  { s.popProcessing x.device with
    managers := Function.update s.managers x.device
      (spend (s.managers x.device) egress x.packet.bareVcId x.packet.size)
    charged := s.charged ++ [s.portCharge egress x]
    forwarding := s.forwarding ++ [s.forwardingOf egress x] }

/-- `ProcessSwitchForwarding`, when it succeeds: a port that is its own egress sends
the packet, without credits. -/
def processSwitchForwarding (t : SueTopology) (s : SueNetwork) (x : LocatedPacket) :
    Option SueNetwork :=
  if s.forwarding.any fun f => f.ingress = x.device then
    none
  else
    match t.forwardingTable x.device x.packet.destination with
    | none => none
    | some egress =>
        if egress = x.device then
          some ((s.popProcessing x.device).enqueueToVcQueue t x)
        else if allows (s.managers x.device) egress x.packet.bareVcId x.packet.size then
          some (s.startForwarding egress x)
        else
          none

/-- The credit return of a network card for a packet that it hands up. -/
def consumedEvent (x : LocatedPacket) : CreditEvent where
  device := x.device
  target := x.packet.source
  vcId := x.packet.bareVcId
  size := x.packet.bodySize
  packet := some x.packet
  charge := x.charge

/-- `ProcessingReceivedPacket`, when the packet leaves the processing queue. -/
def processingReceivedPacket (t : SueTopology) (s : SueNetwork) (x : LocatedPacket) :
    Option SueNetwork :=
  if x.device.isSwitchDevice then
    s.processSwitchForwarding t x
  else
    some ((s.popProcessing x.device).settle (consumedEvent x))

/-- The credit return that `ForwardingComplete` schedules. -/
def forwardedEvent (f : Forwarding) : CreditEvent where
  device := f.ingress
  target := f.source
  vcId := f.vcId
  size := f.packet.size
  packet := some f.packet
  charge := f.inbound

/-- The packet that `ForwardingComplete` hands to the egress port. -/
def forwardedPacket (f : Forwarding) : LocatedPacket where
  device := f.egress
  packet := f.packet
  charge := f.internal

/-- `ForwardingComplete`. -/
def forwardingComplete (t : SueTopology) (s : SueNetwork) (f : Forwarding) (i : ℕ) :
    SueNetwork :=
  { s.enqueueToVcQueue t (forwardedPacket f) with
    forwarding := s.forwarding.eraseIdx i
    events := s.events ++
      if (s.managers f.ingress).enableLinkCBFC then [forwardedEvent f] else [] }

/-- Whether `FindDeviceAndSend` of a device finds an address. -/
def reaches (t : SueTopology) (device mac : Mac48Address) : Bool :=
  mac = t.remote device || mac ∈ t.ports device

/-- A credit update leaves its way, and its destination receives it. -/
def receiveUpdate (t : SueTopology) (s : SueNetwork) (frame : CreditFrame) (i : ℕ) :
    SueNetwork :=
  { s with
    managers :=
      if reaches t frame.source frame.destination then
        Function.update s.managers frame.destination
          ((s.managers frame.destination).receiveCreditUpdate frame)
      else s.managers
    updates := s.updates.eraseIdx i }

/-! ## Runs -/

/-- What can happen in a network.  A network card that is given a packet reads its virtual
channel before there is a PPP header: a read past the end of the packet stops the program, and
a packet in which a PPP header is recognised has no tag yet, and is not queued.  `control` is
an acknowledgment or negative acknowledgment of a switch port, from which `TransmitStart`
reads an address and a virtual channel that it does not carry. -/
inductive Action
  | submit (device : Mac48Address) (packet : FramedPacket)
  | transmit (device : Mac48Address) (vcId : UInt8)
  | receive (i : ℕ)
  | process (device : Mac48Address)
  | forwardingComplete (i : ℕ)
  | creditEvent (i : ℕ)
  | creditArrives (i : ℕ)
  | control (device target : Mac48Address) (vcId : UInt8)

/-- The size of an acknowledgment frame. -/
def controlSize : ℕ := 18

/-- The network after all devices are initialised. -/
def fresh (t : SueTopology) : SueNetwork where
  managers := fun mac => .initializeCbfc t.attributes (t.remote mac) mac (t.ports mac)

/-- The runs of a network. -/
def networkSystem (t : SueTopology) : TransitionSystem SueNetwork Action where
  init s := s = fresh t
  step s
    | .submit device packet =>
        if !device.isSwitchDevice && packet.source = device &&
            (SuePacketUtils.extractVcIdFromPacket (packet.bytes false)).isSome then
          some (if hasValidPppHeader (packet.bytes false) then s
            else s.enqueueToVcQueue t { device := device, packet := packet })
        else none
    | .transmit device vcId =>
        match s.queued.find? (inVcQueue device vcId) with
        | none => none
        | some x =>
            if allows (s.managers device) (t.remote device) vcId x.packet.wireSize then
              some (s.transmit t device x)
            else none
    | .receive i => s.wire[i]?.map fun x =>
        { s with wire := s.wire.eraseIdx i }.enqueueToProcessingQueue t x
    | .process device =>
        match s.processing.find? fun x => x.device = device with
        | none => none
        | some x => s.processingReceivedPacket t x
    | .forwardingComplete i => s.forwarding[i]?.map fun f => s.forwardingComplete t f i
    | .creditEvent i => s.events[i]?.map fun event =>
        { s with events := s.events.eraseIdx i }.settle event
    | .creditArrives i => s.updates[i]?.map fun frame => s.receiveUpdate t frame i
    | .control device target vcId =>
        if t.llrEnabled && device.isSwitchDevice then
          some { s with
            events := s.events ++
              [{ device := device, target := target, vcId := vcId, size := controlSize }] }
        else none

/-- What an action does in the network. -/
inductive StepCase (t : SueTopology) (s : SueNetwork) : Action → SueNetwork → Prop
  | refuse (device : Mac48Address) (packet : FramedPacket) :
      StepCase t s (.submit device packet) s
  | submit (device : Mac48Address) (packet : FramedPacket)
      (hcard : device.isSwitchDevice = false) (hsource : packet.source = device) :
      StepCase t s (.submit device packet)
        (s.enqueueToVcQueue t { device := device, packet := packet })
  | transmit (device : Mac48Address) (x : LocatedPacket)
      (hfirst : s.queued.find? (inVcQueue device x.packet.bareVcId) = some x)
      (hdevice : x.device = device)
      (hallows : allows (s.managers device) (t.remote device) x.packet.bareVcId
        x.packet.wireSize = true) :
      StepCase t s (.transmit device x.packet.bareVcId) (s.transmit t device x)
  | receive (i : ℕ) (x : LocatedPacket) (hwire : s.wire[i]? = some x) :
      StepCase t s (.receive i)
        ({ s with wire := s.wire.eraseIdx i }.enqueueToProcessingQueue t x)
  | ownEgress (x : LocatedPacket)
      (hfirst : s.processing.find? (fun y => y.device = x.device) = some x)
      (hport : x.device.isSwitchDevice = true)
      (htable : t.forwardingTable x.device x.packet.destination = some x.device) :
      StepCase t s (.process x.device) ((s.popProcessing x.device).enqueueToVcQueue t x)
  | forward (egress : Mac48Address) (x : LocatedPacket)
      (hfirst : s.processing.find? (fun y => y.device = x.device) = some x)
      (hport : x.device.isSwitchDevice = true)
      (htable : t.forwardingTable x.device x.packet.destination = some egress)
      (hother : egress ≠ x.device)
      (hallows : allows (s.managers x.device) egress x.packet.bareVcId x.packet.size = true) :
      StepCase t s (.process x.device) (s.startForwarding egress x)
  | consume (x : LocatedPacket)
      (hfirst : s.processing.find? (fun y => y.device = x.device) = some x)
      (hcard : x.device.isSwitchDevice = false) :
      StepCase t s (.process x.device) ((s.popProcessing x.device).settle (consumedEvent x))
  | forwardingComplete (i : ℕ) (f : Forwarding) (hpending : s.forwarding[i]? = some f) :
      StepCase t s (.forwardingComplete i) (s.forwardingComplete t f i)
  | creditEvent (i : ℕ) (event : CreditEvent) (hevent : s.events[i]? = some event) :
      StepCase t s (.creditEvent i) ({ s with events := s.events.eraseIdx i }.settle event)
  | creditArrives (i : ℕ) (frame : CreditFrame) (hframe : s.updates[i]? = some frame) :
      StepCase t s (.creditArrives i) (s.receiveUpdate t frame i)
  | control (device target : Mac48Address) (vcId : UInt8) (hllr : t.llrEnabled = true)
      (hport : device.isSwitchDevice = true) :
      StepCase t s (.control device target vcId) { s with
        events := s.events ++
          [{ device := device, target := target, vcId := vcId, size := controlSize }] }

theorem processing_cases {x : LocatedPacket}
    (hfirst : s.processing.find? (fun y => y.device = x.device) = some x)
    (hstep : s.processingReceivedPacket t x = some s') : StepCase t s (.process x.device) s' := by
  unfold processingReceivedPacket at hstep
  split_ifs at hstep with hport
  · unfold processSwitchForwarding at hstep
    split_ifs at hstep with hbusy
    cases htable : t.forwardingTable x.device x.packet.destination with
    | none =>
        rw [htable] at hstep
        cases hstep
    | some egress =>
        rw [htable] at hstep
        dsimp only at hstep
        split_ifs at hstep with hown hallows
        · cases hstep
          exact .ownEgress x hfirst hport (hown ▸ htable)
        · cases hstep
          exact .forward egress x hfirst hport htable hown hallows
  · cases hstep
    exact .consume x hfirst (Bool.eq_false_iff.mpr hport)

theorem step_cases {action : Action} (hstep : (networkSystem t).step s action = some s') :
    StepCase t s action s' := by
  cases action with
  | submit device packet =>
      unfold networkSystem at hstep
      dsimp only at hstep
      split_ifs at hstep with hsubmit hppp
      · cases hstep
        exact .refuse device packet
      · cases hstep
        simp only [Bool.and_eq_true, Bool.not_eq_true', decide_eq_true_eq] at hsubmit
        exact .submit device packet hsubmit.1.1 hsubmit.1.2
  | transmit device vcId =>
      unfold networkSystem at hstep
      dsimp only at hstep
      cases hfirst : s.queued.find? (inVcQueue device vcId) with
      | none =>
          rw [hfirst] at hstep
          cases hstep
      | some x =>
          rw [hfirst] at hstep
          dsimp only at hstep
          split_ifs at hstep with hallows
          cases hstep
          have hplace := List.find?_some hfirst
          simp only [inVcQueue, Bool.and_eq_true, decide_eq_true_eq] at hplace
          obtain ⟨hdevice, rfl⟩ := hplace
          exact .transmit device x hfirst hdevice hallows
  | receive i =>
      obtain ⟨x, hwire, rfl⟩ := Option.map_eq_some_iff.mp hstep
      exact .receive i x hwire
  | process device =>
      unfold networkSystem at hstep
      dsimp only at hstep
      cases hfirst : s.processing.find? fun x => x.device = device with
      | none =>
          rw [hfirst] at hstep
          cases hstep
      | some x =>
          rw [hfirst] at hstep
          have hdevice : x.device = device := by
            simpa using List.find?_some hfirst
          subst hdevice
          exact processing_cases hfirst hstep
  | forwardingComplete i =>
      obtain ⟨f, hpending, rfl⟩ := Option.map_eq_some_iff.mp hstep
      exact .forwardingComplete i f hpending
  | creditEvent i =>
      obtain ⟨event, hevent, rfl⟩ := Option.map_eq_some_iff.mp hstep
      exact .creditEvent i event hevent
  | creditArrives i =>
      obtain ⟨frame, hframe, rfl⟩ := Option.map_eq_some_iff.mp hstep
      exact .creditArrives i frame hframe
  | control device target vcId =>
      unfold networkSystem at hstep
      dsimp only at hstep
      split_ifs at hstep with hcontrol
      cases hstep
      rw [Bool.and_eq_true] at hcontrol
      exact .control device target vcId hcontrol.1 hcontrol.2

/-! ## What holds of everything in a network -/

/-- Properties of the packets in the queues of the virtual channels, of the packets
that have been transmitted, of the packets inside a switch, of the credit returns that are
pending, and of those that have happened. -/
structure Everywhere (Q W : LocatedPacket → Prop) (F : Forwarding → Prop)
    (E : CreditEvent → Prop) (L : CreditEntry → Prop) (s : SueNetwork) : Prop where
  queued : ∀ x ∈ s.queued, Q x
  wire : ∀ x ∈ s.wire, W x
  processing : ∀ x ∈ s.processing, W x
  forwarding : ∀ f ∈ s.forwarding, F f
  events : ∀ e ∈ s.events, E e
  ledger : ∀ e ∈ s.ledger, L e

/-- The properties pass from one place to the next under an action. -/
structure Passes (t : SueTopology) (Q W : LocatedPacket → Prop) (F : Forwarding → Prop)
    (E : CreditEvent → Prop) (L : CreditEntry → Prop) (s : SueNetwork) (action : Action) :
    Prop where
  submit : ∀ device packet, action = .submit device packet →
    device.isSwitchDevice = false → packet.source = device →
    packet.bareVcId < t.attributes.numVcs → Q { device := device, packet := packet }
  transmit : ∀ x, allows (s.managers x.device) (t.remote x.device) x.packet.bareVcId
      x.packet.wireSize = true → Q x →
    W (s.transmitted t x.device x) ∧ ∀ e ∈ transmitEvents x.device x, E e
  ownEgress : ∀ x, action = .process x.device →
    s.processing.find? (fun y => y.device = x.device) = some x →
    x.device.isSwitchDevice = true →
    t.forwardingTable x.device x.packet.destination = some x.device → W x → Q x
  forward : ∀ egress x, x.device.isSwitchDevice = true →
    t.forwardingTable x.device x.packet.destination = some egress → egress ≠ x.device →
    allows (s.managers x.device) egress x.packet.bareVcId x.packet.size = true →
    W x → F (s.forwardingOf egress x)
  consume : ∀ x, x.device.isSwitchDevice = false → W x → E (consumedEvent x)
  complete : ∀ f, F f → Q (forwardedPacket f) ∧ E (forwardedEvent f)
  control : ∀ device target vcId, action = .control device target vcId →
    E { device := device, target := target, vcId := vcId, size := controlSize }
  settle : ∀ e, E e → L (entryOf (s.managers e.device) e)

variable {Q W : LocatedPacket → Prop} {F : Forwarding → Prop} {E : CreditEvent → Prop}
variable {L : CreditEntry → Prop} {action : Action}

theorem everywhere_fresh : Everywhere Q W F E L (fresh t) := by
  constructor <;> exact fun _ h => absurd h List.not_mem_nil

theorem Everywhere.enqueue (h : Everywhere Q W F E L s) {x : LocatedPacket}
    (hx : x.packet.bareVcId < t.attributes.numVcs → Q x) :
    Everywhere Q W F E L (s.enqueueToVcQueue t x) := by
  refine ⟨?_, h.wire, h.processing, h.forwarding, h.events, h.ledger⟩
  intro y hy
  unfold enqueueToVcQueue at hy
  dsimp only at hy
  split_ifs at hy with htakes
  · rcases List.mem_append.mp hy with hold | hnew
    · exact h.queued y hold
    · rw [List.mem_singleton.mp hnew]
      unfold vcQueueTakes at htakes
      rw [Bool.and_eq_true, decide_eq_true_eq] at htakes
      exact hx htakes.1
  · exact h.queued y hy

theorem Everywhere.settle (h : Everywhere Q W F E L s) {event : CreditEvent}
    (hentry : L (entryOf (s.managers event.device) event)) :
    Everywhere Q W F E L (s.settle event) := by
  refine ⟨h.queued, h.wire, h.processing, h.forwarding, h.events, ?_⟩
  intro e he
  rcases List.mem_append.mp he with hold | hnew
  · exact h.ledger e hold
  · rw [List.mem_singleton.mp hnew]
    exact hentry

theorem Everywhere.popProcessing (h : Everywhere Q W F E L s) (device : Mac48Address) :
    Everywhere Q W F E L (s.popProcessing device) :=
  ⟨h.queued, h.wire, fun x hx => h.processing x (List.mem_of_mem_eraseP hx), h.forwarding,
    h.events, h.ledger⟩

/-- The step rule: properties that pass from place to place hold everywhere. -/
theorem Everywhere.step (h : Everywhere Q W F E L s) (hpasses : Passes t Q W F E L s action)
    (hstep : (networkSystem t).step s action = some s') : Everywhere Q W F E L s' := by
  cases step_cases hstep with
  | refuse device packet => exact h
  | submit device packet hcard hsource =>
      exact h.enqueue fun hvc => hpasses.submit device packet rfl hcard hsource hvc
  | transmit device x hfirst hdevice hallows =>
      subst hdevice
      obtain ⟨hwire, hevents⟩ :=
        hpasses.transmit x hallows (h.queued x (List.mem_of_find?_eq_some hfirst))
      refine ⟨fun y hy => h.queued y (List.mem_of_mem_eraseP hy), ?_, h.processing,
        h.forwarding, ?_, h.ledger⟩
      · intro y hy
        rcases List.mem_append.mp hy with hold | hnew
        · exact h.wire y hold
        · rw [List.mem_singleton.mp hnew]
          exact hwire
      · intro e he
        rcases List.mem_append.mp he with hold | hnew
        · exact h.events e hold
        · exact hevents e hnew
  | receive i x hwire =>
      unfold enqueueToProcessingQueue
      have hleft : ∀ y ∈ s.wire.eraseIdx i, W y :=
        fun y hy => h.wire y (List.mem_of_mem_eraseIdx hy)
      split_ifs
      · refine ⟨h.queued, hleft, ?_, h.forwarding, h.events, h.ledger⟩
        intro y hy
        rcases List.mem_append.mp hy with hold | hnew
        · exact h.processing y hold
        · rw [List.mem_singleton.mp hnew]
          exact h.wire x (List.mem_of_getElem? hwire)
      · exact ⟨h.queued, hleft, h.processing, h.forwarding, h.events, h.ledger⟩
  | ownEgress x hfirst hport htable =>
      refine (h.popProcessing x.device).enqueue fun _ => ?_
      exact hpasses.ownEgress x rfl hfirst hport htable
        (h.processing x (List.mem_of_find?_eq_some hfirst))
  | forward egress x hfirst hport htable hother hallows =>
      have hnew := hpasses.forward egress x hport htable hother hallows
        (h.processing x (List.mem_of_find?_eq_some hfirst))
      refine ⟨h.queued, h.wire, fun y hy => h.processing y (List.mem_of_mem_eraseP hy), ?_,
        h.events, h.ledger⟩
      intro f hf
      rcases List.mem_append.mp hf with hold | hlast
      · exact h.forwarding f hold
      · rw [List.mem_singleton.mp hlast]
        exact hnew
  | consume x hfirst hcard =>
      exact (h.popProcessing x.device).settle (hpasses.settle _ (hpasses.consume x hcard
        (h.processing x (List.mem_of_find?_eq_some hfirst))))
  | forwardingComplete i f hpending =>
      obtain ⟨hpacket, hevent⟩ :=
        hpasses.complete f (h.forwarding f (List.mem_of_getElem? hpending))
      have henqueued := h.enqueue (t := t) fun _ => hpacket
      refine ⟨henqueued.queued, henqueued.wire, henqueued.processing,
        fun g hg => h.forwarding g (List.mem_of_mem_eraseIdx hg), ?_, henqueued.ledger⟩
      intro e he
      rcases List.mem_append.mp he with hold | hnew
      · exact h.events e hold
      · split_ifs at hnew
        · rw [List.mem_singleton.mp hnew]
          exact hevent
        · cases hnew
  | creditEvent i event hevent =>
      have hleft : Everywhere Q W F E L { s with events := s.events.eraseIdx i } :=
        ⟨h.queued, h.wire, h.processing, h.forwarding,
          fun e he => h.events e (List.mem_of_mem_eraseIdx he), h.ledger⟩
      exact hleft.settle (hpasses.settle _ (h.events event (List.mem_of_getElem? hevent)))
  | creditArrives i frame hframe =>
      exact ⟨h.queued, h.wire, h.processing, h.forwarding, h.events, h.ledger⟩
  | control device target vcId hllr hport =>
      refine ⟨h.queued, h.wire, h.processing, h.forwarding, ?_, h.ledger⟩
      intro e he
      rcases List.mem_append.mp he with hold | hnew
      · exact h.events e hold
      · rw [List.mem_singleton.mp hnew]
        exact hpasses.control device target vcId rfl

/-! ## Settings -/

/-- Every manager has the attributes of the network. -/
def Configured (t : SueTopology) (s : SueNetwork) : Prop :=
  ∀ mac, (s.managers mac).toCbfcSettings = t.attributes.settings

theorem configured_fresh : (fresh t).Configured t :=
  fun _ => CbfcManager.settings_initializeCbfc _ _ _ _

theorem configured_step (hconfigured : s.Configured t)
    (hstep : (networkSystem t).step s action = some s') : s'.Configured t := by
  have hupdate (u : SueNetwork) (device : Mac48Address) (m : CbfcManager)
      (hmanagers : u.managers = Function.update s.managers device m)
      (hm : m.toCbfcSettings = (s.managers device).toCbfcSettings) : u.Configured t := by
    intro mac
    rw [hmanagers]
    by_cases hdevice : mac = device
    · rw [hdevice, Function.update_self, hm]
      exact hconfigured device
    · rw [Function.update_of_ne hdevice]
      exact hconfigured mac
  have hspend (m : CbfcManager) (mac : Mac48Address) (vc : UInt8) (size : ℕ) :
      (spend m mac vc size).toCbfcSettings = m.toCbfcSettings := by
    unfold spend
    split_ifs
    · exact CbfcManager.settings_consumeDynamicCredits size
    · rfl
  have hsettle (m : CbfcManager) (device target : Mac48Address) (vc : UInt8) (size : ℕ) :
      ((m.handleCreditReturn target vc size).creditReturn device target vc).1.toCbfcSettings =
        m.toCbfcSettings :=
    CbfcManager.settings_creditReturn.trans (CbfcManager.settings_handleCreditReturn size)
  cases step_cases hstep with
  | refuse device packet => exact hconfigured
  | submit device packet hcard hsource => exact hconfigured
  | transmit device x hfirst hdevice hallows => exact hupdate _ device _ rfl (hspend _ _ _ _)
  | receive i x hwire =>
      unfold enqueueToProcessingQueue
      split_ifs <;> exact hconfigured
  | ownEgress x hfirst hport htable => exact hconfigured
  | forward egress x hfirst hport htable hother hallows =>
      exact hupdate _ x.device _ rfl (hspend _ _ _ _)
  | consume x hfirst hcard => exact hupdate _ x.device _ rfl (hsettle _ _ _ _ _)
  | forwardingComplete i f hpending => exact hconfigured
  | creditEvent i event hevent => exact hupdate _ event.device _ rfl (hsettle _ _ _ _ _)
  | creditArrives i frame hframe =>
      by_cases hreaches : reaches t frame.source frame.destination = true
      · refine hupdate _ frame.destination _ (if_pos hreaches) ?_
        exact CbfcManager.settings_receiveCreditUpdate frame
      · have hsame : (s.receiveUpdate t frame i).managers = s.managers := if_neg hreaches
        intro mac
        rw [hsame]
        exact hconfigured mac
  | control device target vcId hllr hport => exact hconfigured

end SueNetwork

/-! ## A switch between two network cards -/

/-- The other end of a link in networks whose links differ in the last bit. -/
def otherEnd (mac : Mac48Address) : Mac48Address :=
  { mac with b5 := mac.b5 ^^^ 1 }

theorem otherEnd_otherEnd (mac : Mac48Address) : otherEnd (otherEnd mac) = mac := by
  unfold otherEnd
  dsimp only
  rw [UInt8.xor_assoc, UInt8.xor_self, UInt8.xor_zero]

theorem otherEnd_ne (mac : Mac48Address) : otherEnd mac ≠ mac := by
  intro h
  have hlast : mac.b5 ^^^ 1 = mac.b5 := congrArg Mac48Address.b5 h
  have hone : mac.b5 ^^^ (mac.b5 ^^^ 1) = 1 := by
    rw [← UInt8.xor_assoc, UInt8.xor_self, UInt8.zero_xor]
  rw [hlast, UInt8.xor_self] at hone
  cases hone

/-- The ports of the switch. -/
def twoPorts : List Mac48Address := [{ b5 := 0 }, { b5 := 2 }]

/-- The forwarding table of the switch: a network card is reached through its port. -/
def twoPortsTable (mac destination : Mac48Address) : Option Mac48Address :=
  if mac ∈ twoPorts then twoPorts.find? fun port => otherEnd port = destination else none

/-- A switch with two ports and a network card at each. -/
def twoCards (attributes : CbfcManager.Config) (vcQueueMaxBytes processingQueueMaxBytes : ℕ) :
    SueTopology where
  attributes := attributes
  vcQueueMaxBytes := vcQueueMaxBytes
  processingQueueMaxBytes := processingQueueMaxBytes
  remote := otherEnd
  ports mac := if mac ∈ twoPorts then twoPorts else [mac]
  forwardingTable := twoPortsTable
  remote_remote := otherEnd_otherEnd
  remote_notMem := by
    intro mac
    split_ifs with hmem
    · intro hremote
      rcases List.mem_cons.mp hmem with rfl | hmem
      · revert hremote
        decide
      · rw [List.mem_singleton.mp hmem] at hremote
        revert hremote
        decide
    · rw [List.mem_singleton]
      exact otherEnd_ne mac
  ports_switch := by
    intro mac mac' hswitch hmem
    split_ifs at hmem with hport
    · have hmem' : mac' ∈ twoPorts := hmem
      rw [if_pos hmem', if_pos hport]
      refine ⟨?_, rfl⟩
      rcases List.mem_cons.mp hmem with rfl | hmem
      · rfl
      · rw [List.mem_singleton.mp hmem]
        rfl
    · rw [List.mem_singleton.mp hmem, if_neg hport]
      exact ⟨hswitch, rfl⟩
  ports_self := by
    intro mac
    split_ifs with hport
    · exact hport
    · exact List.mem_singleton_self mac
  ports_nodup := by
    intro mac
    split_ifs
    · decide
    · exact List.nodup_singleton mac
  forwardingTable_mem := by
    intro mac destination egress htable
    unfold twoPortsTable at htable
    split_ifs at htable with hport
    rw [if_pos hport]
    exact List.mem_of_find?_eq_some htable

end UeSim
