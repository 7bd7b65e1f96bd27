import UeSim.Common.Types
import UeSim.Support.KeyedMap

/-!
# The reliable packet delivery context

A `Tpdc` numbers the packets of its upper layer, keeps them until they are
acknowledged and sends them again after a timeout or a gap NACK.  On its other
side it tracks which sequence numbers have arrived and acknowledges them.

Simulated time appears only through the events that are pending: a timeout of a
buffered packet, and the next acknowledgment.  The estimate of the round-trip
time, the statistics and the diagnostics of read responses decide nothing here
and are left out.
-/

namespace UeSim

/-! ## Packets and messages -/

/-- The packet of an upper layer, with the tag that tells read responses from
other packets. -/
structure TpdcPacket where
  bytes : Packet
  metadata : Option SoftUeMetadataTag := none
  deriving DecidableEq, Repr

/-- `Tpdc::IsReadResponsePacket`. -/
def TpdcPacket.isReadResponse (packet : TpdcPacket) : Bool :=
  packet.metadata.elim false fun tag =>
    tag.operationType = .read && tag.responseOpCode = .responseWithData

/-- `BufferedPacket`. -/
structure BufferedPacket where
  packet : TpdcPacket
  som : Bool := false
  eom : Bool := false
  sequenceNumber : ℕ := 0
  retransmissionCount : ℕ := 0
  acknowledged : Bool := false
  /-- Whether the retransmission timeout of the packet is pending. -/
  timeoutPending : Bool := false
  deriving DecidableEq, Repr

/-- A buffered packet that is about to be sent again. -/
def BufferedPacket.counted (buffered : BufferedPacket) : BufferedPacket :=
  { buffered with retransmissionCount := buffered.retransmissionCount + 1 }

/-- `SoftUeTpdcControlTag`, with its flags spelled out. -/
structure SoftUeTpdcControlTag where
  ackFlag : Bool := false
  sackFlag : Bool := false
  gapNackFlag : Bool := false
  cumulativeAck : ℕ := 0
  selectiveAck : ℕ := 0
  gapNack : ℕ := 0
  deriving DecidableEq, Repr

/-- A packet on the wire: the sequence number of its header and the packet of the
upper layer, or a control tag. -/
inductive TpdcMessage
  | data (sequenceNumber : ℕ) (packet : TpdcPacket)
  | control (tag : SoftUeTpdcControlTag)
  deriving DecidableEq, Repr

/-- The size of a packet on the wire: a control packet has no payload, and a
`PDSHeader` takes seven bytes. -/
def TpdcMessage.size : TpdcMessage → ℕ
  | .data _ packet => packet.bytes.length + 7
  | .control _ => 7

/-- `Acknowledgment`, with the fields that the sender reads. -/
structure Acknowledgment where
  ackSequence : ℕ
  nackList : List ℕ := []
  deriving DecidableEq, Repr

/-- What `SoftUeNetDevice::TransmitToChannel` answers during one event: it can
refuse any packet. -/
structure LowerLayer where
  transmitsData : BufferedPacket → Bool
  transmitsControl : Bool

/-- A lower layer that takes everything. -/
def LowerLayer.willing : LowerLayer := ⟨fun _ => true, true⟩

/-- A lower layer that refuses everything. -/
def LowerLayer.refusing : LowerLayer := ⟨fun _ => false, false⟩

/-! ## The context -/

/-- `TpdcConfig`, with the fields that the modelled code reads. -/
structure TpdcConfig where
  maxPacketSize : ℕ := 1500
  maxSendBufferSize : ℕ := 2048
  maxReceiveBufferSize : ℕ := 2048
  sendWindowSize : ℕ := 128
  receiveWindowSize : ℕ := 128
  maxRetransmissions : ℕ := 5
  readResponseAggressiveDrain : Bool := false
  readResponseQueuePriority : Bool := false
  deriving DecidableEq, Repr

/-- `Tpdc`.  The packets in the receive buffer are never read, so that only their
sequence numbers are kept. -/
structure Tpdc where
  config : TpdcConfig := {}
  active : Bool := true
  nextSendSequence : ℕ := 1
  nextReceiveSequence : ℕ := 1
  sendWindowBase : ℕ := 1
  receiveWindowBase : ℕ := 1
  highestObservedSequence : ℕ := 0
  sendBuffer : KeyedMap ℕ BufferedPacket := ∅
  receiveBuffer : List ℕ := []
  sendQueue : List BufferedPacket := []
  /-- Whether the event of the next acknowledgment is pending. -/
  ackPending : Bool := false
  /-- The packets handed to the channel, oldest first. -/
  transmitted : List TpdcMessage := []
  /-- The packets that left the send buffer as acknowledged, oldest first. -/
  acknowledged : List (Sigma fun _ : ℕ => BufferedPacket) := []
  /-- The sequence numbers whose first transmission was refused, oldest first. -/
  refused : List ℕ := []
  /-- The sequence numbers that were accepted, oldest first. -/
  accepted : List ℕ := []
  /-- The control tags handed to the channel, each with what was accepted by then. -/
  reports : List (SoftUeTpdcControlTag × List ℕ) := []

namespace Tpdc

/-! ## Validation and windows -/

/-- `Tpdc::ValidatePacket`, after `PdcBase::ValidatePacket`. -/
def validatePacket (s : Tpdc) (size : ℕ) : Bool :=
  (size ≠ 0 && size ≤ s.config.maxPacketSize) && size ≤ s.config.maxPacketSize + 64

/-- `Tpdc::IsInSendWindow`.  The end of the window is computed in `uint32_t`. -/
def isInSendWindow (s : Tpdc) (sequence : ℕ) : Bool :=
  s.sendWindowBase ≤ sequence && sequence < toU32 (s.sendWindowBase + s.config.sendWindowSize)

/-- `Tpdc::IsInReceiveWindow`. -/
def isInReceiveWindow (s : Tpdc) (sequence : ℕ) : Bool :=
  s.receiveWindowBase ≤ sequence &&
    sequence < toU32 (s.receiveWindowBase + s.config.receiveWindowSize)

/-! ## Sending -/

/-- `Tpdc::TransmitPacket`. -/
def transmitPacket (s : Tpdc) (lower : LowerLayer) (buffered : BufferedPacket) : Tpdc × Bool :=
  ({ s with
      transmitted := if lower.transmitsData buffered then
          s.transmitted ++ [.data buffered.sequenceNumber buffered.packet]
        else s.transmitted },
    lower.transmitsData buffered)

/-- `Tpdc::ArmTimeout`. -/
def armTimeout (s : Tpdc) (sequenceNumber : ℕ) : Tpdc :=
  { s with
    sendBuffer := KeyedMap.modify s.sendBuffer sequenceNumber
      fun buffered => { buffered with timeoutPending := true } }

/-- A packet with the next sequence number. -/
def numbered (s : Tpdc) (buffered : BufferedPacket) : BufferedPacket :=
  { buffered with sequenceNumber := s.nextSendSequence }

/-- `Tpdc::GenerateSequenceNumber`, and the packet in the send buffer. -/
def bufferNumbered (s : Tpdc) (buffered : BufferedPacket) : Tpdc :=
  { s with
    nextSendSequence := toU32 (s.nextSendSequence + 1)
    sendBuffer := s.sendBuffer.insert s.nextSendSequence (s.numbered buffered) }

/-- The context without a packet whose first transmission was refused. -/
def unbuffer (s : Tpdc) (sequenceNumber : ℕ) : Tpdc :=
  { s with
    sendBuffer := s.sendBuffer.erase sequenceNumber
    refused := s.refused ++ [sequenceNumber] }

/-- The numbering, buffering and first transmission of a packet, which
`BufferPacketForSending` and `ProcessSendQueue` share: a packet that the lower
layer refuses is taken out of the send buffer again. -/
def sendBuffered (lower : LowerLayer) (s : Tpdc) (buffered : BufferedPacket) : Tpdc × Bool :=
  let sent := (s.bufferNumbered buffered).transmitPacket lower (s.numbered buffered)
  if sent.2 then (sent.1.armTimeout s.nextSendSequence, true)
  else (sent.1.unbuffer s.nextSendSequence, false)

/-- The packet as it joins the send queue. -/
def enqueue (s : Tpdc) (buffered : BufferedPacket) : Tpdc :=
  { s with
    sendQueue :=
      if buffered.packet.isReadResponse && s.config.readResponseQueuePriority then
        buffered :: s.sendQueue
      else s.sendQueue ++ [buffered] }

/-- `Tpdc::BufferPacketForSending`. -/
def bufferPacketForSending (lower : LowerLayer) (s : Tpdc) (packet : TpdcPacket)
    (som eom : Bool) : Tpdc × Bool :=
  let buffered : BufferedPacket := { packet := packet, som := som, eom := eom }
  if s.config.maxSendBufferSize ≤ s.sendBuffer.entries.length then (s, false)
  else if !s.isInSendWindow s.nextSendSequence then (s.enqueue buffered, true)
  else s.sendBuffered lower buffered

/-- `Tpdc::SendPacket`; there is no packet when the caller passes a null pointer. -/
def sendPacket (lower : LowerLayer) (s : Tpdc) (packet : Option TpdcPacket) (som eom : Bool) :
    Tpdc × Bool :=
  match packet with
  | none => (s, false)
  | some packet =>
      if !s.active then (s, false)
      else if !s.validatePacket packet.bytes.length then (s, false)
      else s.bufferPacketForSending lower packet som eom

/-- The position of the packet that `ProcessSendQueue` takes next. -/
def selectedIndex (s : Tpdc) : ℕ :=
  if s.config.readResponseAggressiveDrain then
    (s.sendQueue.findIdx? fun buffered => buffered.packet.isReadResponse).getD 0
  else 0

/-- At most `fuel` iterations of the loop of `Tpdc::ProcessSendQueue`. -/
def drainSendQueue (lower : LowerLayer) : ℕ → Tpdc → Tpdc
  | 0, s => s
  | fuel + 1, s =>
      if !s.isInSendWindow s.nextSendSequence then s
      else
        match s.sendQueue[s.selectedIndex]? with
        | none => s
        | some buffered =>
            let result := { s with sendQueue := s.sendQueue.eraseIdx s.selectedIndex
              }.sendBuffered lower buffered
            if result.2 then drainSendQueue lower fuel result.1 else result.1

/-- `Tpdc::ProcessSendQueue`: every iteration takes a packet out of the queue. -/
def processSendQueue (lower : LowerLayer) (s : Tpdc) : Tpdc :=
  drainSendQueue lower s.sendQueue.length s

/-- The context with a packet of its send buffer replaced. -/
def rebuffer (s : Tpdc) (sequenceNumber : ℕ) (buffered : BufferedPacket) : Tpdc :=
  { s with sendBuffer := s.sendBuffer.insert sequenceNumber buffered }

/-- `Tpdc::RetransmitPacket`. -/
def retransmitPacket (lower : LowerLayer) (s : Tpdc) (sequenceNumber : ℕ) : Tpdc :=
  match s.sendBuffer.lookup sequenceNumber with
  | none => s
  | some buffered =>
      if buffered.acknowledged then s
      else if s.config.maxRetransmissions ≤ buffered.retransmissionCount then s
      else
        let sent := (s.rebuffer sequenceNumber buffered.counted).transmitPacket lower
          buffered.counted
        if sent.2 then sent.1.armTimeout sequenceNumber else sent.1

/-- `Tpdc::ForceRetransmission`. -/
def forceRetransmission (lower : LowerLayer) (s : Tpdc) : Tpdc :=
  s.sendBuffer.keys.foldl (retransmitPacket lower) s

/-! ## Acknowledgments -/

/-- Mark the buffered packets of some sequence numbers as acknowledged. -/
def markAcknowledged (s : Tpdc) (marks : ℕ → Bool) : Tpdc :=
  { s with
    sendBuffer := KeyedMap.filterMap
      (fun seq buffered =>
        some { buffered with acknowledged := buffered.acknowledged || marks seq })
      s.sendBuffer }

/-- `Tpdc::CleanupAcknowledgedPackets`. -/
def cleanupAcknowledgedPackets (s : Tpdc) : Tpdc :=
  { s with
    sendBuffer := KeyedMap.filterMap
      (fun _ buffered => if buffered.acknowledged then none else some buffered) s.sendBuffer
    acknowledged := s.acknowledged ++ s.sendBuffer.entries.filter fun e => e.2.acknowledged }

/-- The part of `Tpdc::ProcessReceivedAcknowledgment` before the loop over the
gap NACKs: the packets below the new base of the window are acknowledged. -/
def advanceSendWindow (s : Tpdc) (ack : Acknowledgment) : Tpdc :=
  let newBase := max s.sendWindowBase (toU32 (ack.ackSequence + 1))
  { s.markAcknowledged fun seq => s.sendWindowBase ≤ seq && seq < newBase with
    sendWindowBase := newBase }

/-- Whether an acknowledgment is for packets that were not acknowledged before. -/
def acknowledgesMore (s : Tpdc) (ack : Acknowledgment) : Bool :=
  s.sendBuffer.entries.any fun e =>
    s.sendWindowBase ≤ e.1 && e.1 < max s.sendWindowBase (toU32 (ack.ackSequence + 1)) &&
      !e.2.acknowledged

/-- `Tpdc::ProcessReceivedAcknowledgment`. -/
def processReceivedAcknowledgment (lower : LowerLayer) (s : Tpdc) (ack : Acknowledgment) :
    Tpdc × Bool :=
  if toU32 (ack.ackSequence + 1) < s.sendWindowBase then (s, false)
  else
    (((ack.nackList.foldl (retransmitPacket lower) (s.advanceSendWindow ack))
        |>.cleanupAcknowledgedPackets).processSendQueue lower,
      s.acknowledgesMore ack || !ack.nackList.isEmpty)

/-- `Tpdc::SendControlPacket`. -/
def sendControlPacket (lower : LowerLayer) (s : Tpdc) (tag : SoftUeTpdcControlTag) : Tpdc :=
  { s with
    transmitted := if lower.transmitsControl then s.transmitted ++ [.control tag]
      else s.transmitted
    reports := if lower.transmitsControl then s.reports ++ [(tag, s.accepted)]
      else s.reports }

/-- `Tpdc::SendAcknowledgment`. -/
def sendAcknowledgment (lower : LowerLayer) (s : Tpdc) (ack : Acknowledgment) : Tpdc :=
  s.sendControlPacket lower
    { ackFlag := true
      sackFlag := !s.receiveBuffer.isEmpty
      gapNackFlag := !ack.nackList.isEmpty
      cumulativeAck := ack.ackSequence
      selectiveAck := s.receiveBuffer.min?.getD 0
      gapNack := ack.nackList.head?.getD 0 }

/-- Whether a packet is missing in front of one that has arrived. -/
def hasGap (s : Tpdc) : Bool :=
  s.nextReceiveSequence ≤ s.highestObservedSequence && !s.receiveBuffer.isEmpty

/-- `Tpdc::CreateAcknowledgment`. -/
def createAcknowledgment (s : Tpdc) : Acknowledgment where
  ackSequence := if 0 < s.nextReceiveSequence then s.nextReceiveSequence - 1 else 0
  nackList := if s.hasGap then [s.nextReceiveSequence] else []

/-- `Tpdc::SendPendingAcknowledgments`. -/
def sendPendingAcknowledgments (lower : LowerLayer) (s : Tpdc) : Tpdc :=
  s.sendAcknowledgment lower s.createAcknowledgment

/-- `Tpdc::ScheduleAcknowledgment`: the next acknowledgment is pending either
way, at once or after the interval. -/
def scheduleAcknowledgment (s : Tpdc) : Tpdc := { s with ackPending := true }

/-! ## Receiving -/

/-- At most `fuel` iterations of the loop of `Tpdc::BufferPacketForReceiving` that
takes the packets that are next out of the receive buffer. -/
def drainReceiveBuffer : ℕ → List ℕ → ℕ → List ℕ × ℕ
  | 0, buffer, next => (buffer, next)
  | fuel + 1, buffer, next =>
      if next ∈ buffer then
        drainReceiveBuffer fuel (buffer.filter (· ≠ next)) (toU32 (next + 1))
      else (buffer, next)

/-- The packet that is next is accepted, and those that follow it in the receive
buffer. -/
def acceptNext (s : Tpdc) : Tpdc :=
  let drained := drainReceiveBuffer s.receiveBuffer.length s.receiveBuffer
    (toU32 (s.nextReceiveSequence + 1))
  { s with
    receiveBuffer := drained.1
    nextReceiveSequence := drained.2
    receiveWindowBase := drained.2
    accepted := s.accepted ++ [s.nextReceiveSequence] }

/-- A packet that is not next is accepted, unless it is in the receive buffer
already. -/
def acceptAhead (s : Tpdc) (seq : ℕ) : Tpdc :=
  if seq ∈ s.receiveBuffer then s
  else
    { s with
      receiveBuffer := s.receiveBuffer ++ [seq]
      accepted := s.accepted ++ [seq] }

/-- A packet with the sequence number was seen. -/
def observe (s : Tpdc) (seq : ℕ) : Tpdc :=
  { s with highestObservedSequence := max s.highestObservedSequence seq }

/-- `Tpdc::BufferPacketForReceiving`. -/
def bufferPacketForReceiving (s : Tpdc) (seq : ℕ) : Tpdc × Bool :=
  if seq < s.nextReceiveSequence then (s.scheduleAcknowledgment, true)
  else if !s.isInReceiveWindow seq then (s, false)
  else if seq = s.nextReceiveSequence then
    ((s.observe seq).acceptNext.scheduleAcknowledgment, true)
  else if s.config.maxReceiveBufferSize ≤ s.receiveBuffer.length then (s.observe seq, false)
  else (((s.observe seq).acceptAhead seq).scheduleAcknowledgment, true)

/-- The acknowledgment that `HandleReceivedPacket` reads off a control tag. -/
def acknowledgmentOf (tag : SoftUeTpdcControlTag) : Acknowledgment where
  ackSequence := tag.cumulativeAck
  nackList := if tag.gapNackFlag && tag.gapNack ≠ 0 then [tag.gapNack] else []

/-- The selective acknowledgment of a control tag. -/
def handleSelectiveAck (lower : LowerLayer) (s : Tpdc) (selectiveAck : ℕ) : Tpdc :=
  (s.markAcknowledged fun seq => seq = selectiveAck).cleanupAcknowledgedPackets.processSendQueue
    lower

/-- The part of `Tpdc::HandleReceivedPacket` for a control packet. -/
def handleControlTag (lower : LowerLayer) (s : Tpdc) (tag : SoftUeTpdcControlTag) :
    Tpdc × Bool :=
  let processed := s.processReceivedAcknowledgment lower (acknowledgmentOf tag)
  if tag.sackFlag && tag.selectiveAck ≠ 0 then
    (processed.1.handleSelectiveAck lower tag.selectiveAck,
      processed.2 || (processed.1.sendBuffer.lookup tag.selectiveAck).isSome)
  else processed

/-- `Tpdc::HandleReceivedPacket`. -/
def handleReceivedPacket (lower : LowerLayer) (s : Tpdc) (message : TpdcMessage) :
    Tpdc × Bool :=
  if !s.active || !s.validatePacket message.size then (s, false)
  else
    match message with
    | .control tag => s.handleControlTag lower tag
    | .data seq _ => s.bufferPacketForReceiving seq

/-! ## Events -/

/-- The context when the retransmission timeout of a packet has just fired: the
event is no longer pending. -/
def timeoutFired (s : Tpdc) (sequenceNumber : ℕ) : Tpdc :=
  { s with
    sendBuffer := KeyedMap.modify s.sendBuffer sequenceNumber
      fun buffered => { buffered with timeoutPending := false } }

/-- `Tpdc::HandleRtoTimeout`, as the simulator runs it. -/
def handleRtoTimeout (lower : LowerLayer) (s : Tpdc) (sequenceNumber : ℕ) : Tpdc :=
  (s.timeoutFired sequenceNumber).retransmitPacket lower sequenceNumber

/-- Whether the retransmission timeout of a packet is pending. -/
def timeoutPendingFor (s : Tpdc) (sequenceNumber : ℕ) : Bool :=
  (s.sendBuffer.lookup sequenceNumber).elim false (·.timeoutPending)

end Tpdc
end UeSim
