import UeSim.Common.PacketTags
import UeSim.Support.Transition

/-!
# The unreliable packet delivery context

An `Ipdc` sends a packet at once, or not at all.  What it receives waits in a queue of its own;
packets that are too old are dropped when that queue is cleaned up.  The periodic processing that
it inherits works on the two queues of `PdcBase`: `ProcessSendQueue` and `ProcessReceiveQueue` are
private there and not virtual, so that the functions of `Ipdc` with these names are never called.

Rates, latencies, the times of the entries and the trace of the queue sizes decide nothing here
and are left out.  The lists at the end of the state are histories, which no function reads.
-/

namespace UeSim

/-! ## Configuration and statistics -/

/-- `PdcConfig`, with the fields that the modelled code reads. -/
structure PdcBaseConfig where
  pdcId : UInt16 := 0
  localFep : ℕ := 0
  remoteFep : ℕ := 0
  /-- Whether the type of the context is `TPDC`. -/
  reliable : Bool := false
  maxPacketSize : ℕ := 1500
  sequenceNumber : UInt32 := 1
  deriving DecidableEq, Repr

/-- `IpdcConfig`.  Times are in nanoseconds. -/
structure IpdcConfig extends PdcBaseConfig where
  maxReceiveQueueSize : ℕ := 1024
  sendWindow : ℕ := 64
  receiveWindow : ℕ := 64
  enableFlowControl : Bool := true
  packetLifetime : ℤ := 10000000000
  deriving DecidableEq, Repr

/-- `PdsErrorCode`. -/
inductive PdsErrorCode
  | success
  | invalidPdc
  | pdcFull
  | invalidPacket
  | resourceExhausted
  | protocolError
  | internalError
  deriving DecidableEq, Repr

/-- `PdcBase::GetErrorTypeString`. -/
def PdsErrorCode.typeString : PdsErrorCode → String
  | .success => "SUCCESS"
  | .invalidPdc => "INVALID_PDC"
  | .pdcFull => "BUFFER_OVERFLOW"
  | .invalidPacket => "VALIDATION_ERROR"
  | .resourceExhausted => "RESOURCE_EXHAUSTED"
  | .protocolError => "PROTOCOL_ERROR"
  | .internalError => "UNKNOWN_ERROR"

/-- `PdcStatistics`. -/
structure PdcStatistics where
  packetsSent : ℕ := 0
  packetsReceived : ℕ := 0
  bytesTransmitted : ℕ := 0
  bytesReceived : ℕ := 0
  errors : ℕ := 0
  validationErrors : ℕ := 0
  protocolErrors : ℕ := 0
  bufferErrors : ℕ := 0
  networkErrors : ℕ := 0
  packetsDropped : ℕ := 0
  lastErrorDetails : String := ""
  deriving DecidableEq, Repr

/-- The statistics of `PdcBase::HandleError`. -/
def PdcStatistics.noteError (st : PdcStatistics) (error : PdsErrorCode) (details : String) :
    PdcStatistics :=
  let st := { st with errors := st.errors + 1, lastErrorDetails := details }
  match error with
  | .invalidPacket => { st with validationErrors := st.validationErrors + 1 }
  | .protocolError => { st with protocolErrors := st.protocolErrors + 1 }
  | .pdcFull =>
      { st with bufferErrors := st.bufferErrors + 1, packetsDropped := st.packetsDropped + 1 }
  | _ => { st with networkErrors := st.networkErrors + 1 }

/-- `PdcBase::UpdateStatistics`. -/
def PdcStatistics.update (st : PdcStatistics) (isSend : Bool) (packet : Packet) : PdcStatistics :=
  if isSend then
    { st with
      packetsSent := st.packetsSent + 1
      bytesTransmitted := st.bytesTransmitted + packet.length }
  else
    { st with
      packetsReceived := st.packetsReceived + 1
      bytesReceived := st.bytesReceived + packet.length }

/-- `IpdcStatistics`, with the fields that the context counts. -/
structure IpdcStatistics where
  packetsDropped : ℕ := 0
  packetsExpired : ℕ := 0
  flowControlEvents : ℕ := 0
  errors : ℕ := 0
  deriving DecidableEq, Repr

/-! ## The context -/

/-- `QueuedPacket`. -/
structure QueuedPacket where
  packet : Packet
  som : Bool
  eom : Bool
  timestamp : ℕ
  sequenceNumber : UInt32
  deriving DecidableEq, Repr

/-- A packet as it is handed to the channel. -/
structure WirePacket where
  header : PDSHeader
  packet : Packet
  localFep : ℕ
  remoteFep : ℕ
  deriving DecidableEq, Repr

/-- `Ipdc`, with the simulated time and the times of the pending events. -/
structure Ipdc where
  config : PdcBaseConfig := {}
  ipdcConfig : IpdcConfig := {}
  active : Bool := false
  statistics : PdcStatistics := {}
  ipdcStatistics : IpdcStatistics := {}
  /-- `PdcBase::m_sendQueue`. -/
  baseSendQueue : List Packet := []
  /-- `PdcBase::m_receiveQueue`. -/
  baseReceiveQueue : List Packet := []
  sendQueue : List QueuedPacket := []
  receiveQueue : List QueuedPacket := []
  nextSequenceNumber : UInt32 := 1
  sendCredits : ℕ := 64
  receiveCredits : ℕ := 64
  flowControlActive : Bool := false
  processInterval : ℕ := 1000000
  queueCleanupInterval : ℕ := 100000000
  now : ℕ := 0
  /-- The time of the pending `DoPeriodicProcessing`. -/
  processDue : Option ℕ := none
  /-- The time of the pending `CleanupExpiredPackets`. -/
  cleanupDue : Option ℕ := none
  /-- What `TransmitToChannel` took. -/
  transmitted : List WirePacket := []
  /-- The packets that entered the receive queue, oldest first. -/
  accepted : List QueuedPacket := []
  /-- The packets that made room for a newer one. -/
  overflowed : List QueuedPacket := []
  /-- The packets of the receive queue that were too old. -/
  expired : List QueuedPacket := []
  /-- The packets that `ClearReceiveQueue` threw away. -/
  cleared : List QueuedPacket := []
  /-- What was reported as received. -/
  packetRxTrace : List (Packet × UInt16) := []
  /-- What was reported as dropped. -/
  dropTrace : List (Packet × String) := []
  /-- What was reported as an error. -/
  errorTrace : List (UInt16 × String) := []

namespace Ipdc

/-! ### Errors and checks -/

/-- `Ipdc::HandleError`, with `PdcBase::HandleError`. -/
def handleError (s : Ipdc) (error : PdsErrorCode) (details : String) : Ipdc :=
  { s with
    ipdcStatistics := { s.ipdcStatistics with errors := s.ipdcStatistics.errors + 1 }
    statistics := s.statistics.noteError error details
    errorTrace := s.errorTrace ++ [(s.config.pdcId, error.typeString ++ ": " ++ details)] }

/-- `Ipdc::ValidatePacket`, after `PdcBase::ValidatePacket`. -/
def validatePacket (s : Ipdc) (packet : Packet) : Bool :=
  !(packet.length = 0 || s.config.maxPacketSize < packet.length) &&
    !(s.ipdcConfig.maxPacketSize < packet.length)

/-- `Ipdc::CheckFlowControl`. -/
def checkFlowControl (s : Ipdc) : Bool :=
  !s.ipdcConfig.enableFlowControl || (!s.flowControlActive && 0 < s.sendCredits)

/-! ### Sending -/

/-- `PdcBase::CreatePdsHeader`. -/
def createPdsHeader (s : Ipdc) (som eom : Bool) : PDSHeader where
  pdcId := s.config.pdcId
  sequenceNum := s.config.sequenceNumber
  som := som
  eom := eom
  reliable := s.config.reliable

/-- `Ipdc::TransmitPacket`, with what the device answers; a context without a device answers
`false`. -/
def transmitPacket (s : Ipdc) (lower : QueuedPacket → Bool) (qp : QueuedPacket) : Ipdc × Bool :=
  if lower qp then
    ({ s with
      transmitted := s.transmitted ++
        [⟨s.createPdsHeader qp.som qp.eom, qp.packet, s.config.localFep,
          s.ipdcConfig.remoteFep⟩] }, true)
  else (s, false)

/-- The packet with the next number, and the context after `GenerateSequenceNumber`. -/
def queued (s : Ipdc) (packet : Packet) (som eom : Bool) : QueuedPacket × Ipdc :=
  (⟨packet, som, eom, s.now, s.nextSequenceNumber⟩,
    { s with nextSequenceNumber := s.nextSequenceNumber + 1 })

/-- Count a packet that was sent. -/
def noteSent (s : Ipdc) (packet : Packet) : Ipdc :=
  { s with statistics := s.statistics.update true packet }

/-- The last part of `SendPacket`: number the packet and transmit it. -/
def sendNow (s : Ipdc) (lower : QueuedPacket → Bool) (packet : Packet) (som eom : Bool) :
    Ipdc × Bool :=
  match (s.queued packet som eom).2.transmitPacket lower (s.queued packet som eom).1 with
  | (s, true) => (s.noteSent packet, true)
  | (s, false) => (s, false)

/-- `Ipdc::SendPacket`. -/
def sendPacket (s : Ipdc) (lower : QueuedPacket → Bool) (packet : Option Packet)
    (som eom : Bool) : Ipdc × Bool :=
  match packet with
  | none => (s.handleError .invalidPacket "Null packet or inactive IPDC", false)
  | some packet =>
      if !s.active then (s.handleError .invalidPacket "Null packet or inactive IPDC", false)
      else if !s.validatePacket packet then
        (s.handleError .invalidPacket "Packet validation failed", false)
      else if !s.checkFlowControl then
        ({ s with
          ipdcStatistics :=
            { s.ipdcStatistics with flowControlEvents := s.ipdcStatistics.flowControlEvents + 1 }
          dropTrace := s.dropTrace ++ [(packet, "Flow control active")] }, false)
      else s.sendNow lower packet som eom

/-- `Ipdc::SendPacketDirect`. -/
def sendPacketDirect (s : Ipdc) (lower : QueuedPacket → Bool) (packet : Option Packet)
    (som eom : Bool) : Ipdc × Bool :=
  match packet with
  | none => (s, false)
  | some packet => if !s.active then (s, false) else s.sendNow lower packet som eom

/-- `Ipdc::HandlePacketDelivery`. -/
def handlePacketDelivery (s : Ipdc) (packet : Packet) (success : Bool) : Ipdc :=
  if success then s.noteSent packet
  else
    let counted : IpdcStatistics :=
      { s.ipdcStatistics with packetsDropped := s.ipdcStatistics.packetsDropped + 1 }
    { s with ipdcStatistics := counted }.handleError .protocolError "Packet delivery failed"

/-! ### Receiving -/

/-- `Ipdc::EnqueuePacket` on the receive queue. -/
def enqueuePacket (s : Ipdc) (packet : Packet) (som eom : Bool) : Ipdc × Bool :=
  let counted : IpdcStatistics :=
    { s.ipdcStatistics with packetsDropped := s.ipdcStatistics.packetsDropped + 1 }
  let push (s : Ipdc) : Ipdc :=
    { (s.queued packet som eom).2 with
      receiveQueue := s.receiveQueue ++ [(s.queued packet som eom).1]
      accepted := s.accepted ++ [(s.queued packet som eom).1] }
  if s.ipdcConfig.maxReceiveQueueSize ≤ s.receiveQueue.length then
    if s.ipdcConfig.enableFlowControl then
      (push { s with
        receiveQueue := s.receiveQueue.tail
        overflowed := s.overflowed ++ s.receiveQueue.take 1
        ipdcStatistics := counted
        dropTrace := s.dropTrace ++ [(packet, "Queue overflow - dropped oldest")] }, true)
    else
      ({ s with
        ipdcStatistics := counted
        dropTrace := s.dropTrace ++ [(packet, "Queue overflow - packet rejected")] }, false)
  else (push s, true)

/-- The destination that `PdcBase::ParsePdsHeader` gives: it takes it from the configuration. -/
def parsedDestFep (s : Ipdc) : ℕ := s.config.localFep

/-- `PdcBase::ValidateAndRecordReceivedPacket`: the context after it if it fails. -/
def validateReceivedPacket (s : Ipdc) (packet : Packet) : Option Ipdc :=
  if !s.active then some (s.handleError .invalidPacket "Null packet or inactive PDC")
  else if !s.validatePacket packet then
    some (s.handleError .invalidPacket "Packet validation failed")
  else if s.parsedDestFep ≠ s.config.localFep then
    some (s.handleError .protocolError "Packet destination mismatch")
  else none

/-- `Ipdc::HandleReceivedPacket`. -/
def handleReceivedPacket (s : Ipdc) (packet : Option Packet) : Ipdc × Bool :=
  match packet with
  | none => (s.handleError .invalidPacket "Null packet or inactive IPDC", false)
  | some packet =>
      if !s.active then (s.handleError .invalidPacket "Null packet or inactive IPDC", false)
      else
        match s.validateReceivedPacket packet with
        | some failed => (failed, false)
        | none =>
            if !s.validatePacket packet then
              (s.handleError .invalidPacket "IPDC packet validation failed", false)
            else if s.ipdcConfig.maxReceiveQueueSize = 0 then (s, false)
            else s.enqueuePacket packet false false

/-! ### Periodic processing -/

/-- `PdcBase::ProcessSendQueue`, which discards what is in the queue. -/
def processSendQueue (s : Ipdc) : Ipdc := { s with baseSendQueue := [] }

/-- One turn of the loop of `PdcBase::ProcessReceiveQueue`. -/
def processReceived (s : Ipdc) (packet : Packet) : Ipdc :=
  { s with
    statistics := s.statistics.update false packet
    packetRxTrace := s.packetRxTrace ++ [(packet, s.config.pdcId)] }

/-- `PdcBase::ProcessReceiveQueue`. -/
def processReceiveQueue (s : Ipdc) : Ipdc :=
  s.baseReceiveQueue.foldl processReceived { s with baseReceiveQueue := [] }

/-- `PdcBase::ScheduleProcessing`. -/
def scheduleProcessing (s : Ipdc) : Ipdc :=
  if s.processDue.isNone then { s with processDue := some (s.now + s.processInterval) } else s

/-- `PdcBase::DoPeriodicProcessing`, when its event has just fired. -/
def doPeriodicProcessing (s : Ipdc) : Ipdc :=
  if !s.active then s
  else s.processSendQueue.processReceiveQueue.scheduleProcessing

/-- Whether a packet in a queue is not too old. -/
def stillValid (s : Ipdc) (qp : QueuedPacket) : Bool :=
  (s.now : ℤ) - qp.timestamp < s.ipdcConfig.packetLifetime

/-- The packets of a queue that are too old. -/
def tooOld (s : Ipdc) (queue : List QueuedPacket) : List QueuedPacket :=
  queue.filter fun qp => !s.stillValid qp

/-- `Ipdc::CleanupExpiredPackets`. -/
def cleanupExpiredPackets (s : Ipdc) : Ipdc :=
  { s with
    sendQueue := s.sendQueue.filter s.stillValid
    receiveQueue := s.receiveQueue.filter s.stillValid
    expired := s.expired ++ s.tooOld s.receiveQueue
    ipdcStatistics :=
      { s.ipdcStatistics with
        packetsExpired := s.ipdcStatistics.packetsExpired +
          (s.tooOld s.sendQueue ++ s.tooOld s.receiveQueue).length }
    dropTrace := s.dropTrace ++
      (s.tooOld s.sendQueue ++ s.tooOld s.receiveQueue).map
        fun qp => (qp.packet, "Packet expired") }

/-- `Ipdc::ScheduleQueueCleanup`. -/
def scheduleQueueCleanup (s : Ipdc) : Ipdc :=
  if s.cleanupDue.isNone then { s with cleanupDue := some (s.now + s.queueCleanupInterval) } else s

/-! ### Configuration -/

/-- `Ipdc::Initialize`, after `PdcBase::Initialize`. -/
def initializeIpdc (s : Ipdc) (config : IpdcConfig) : Ipdc × Bool :=
  let s := { s with config := config.toPdcBaseConfig, statistics := {}, active := false }
  if config.localFep = 0 ∨ config.remoteFep = 0 then (s, false)
  else
    ({ s.scheduleProcessing with
      ipdcConfig := config
      sendCredits := config.sendWindow
      receiveCredits := config.receiveWindow
      flowControlActive := false }.scheduleQueueCleanup, true)

/-- `PdcBase::Activate`. -/
def activate (s : Ipdc) : Ipdc := if !s.active then { s with active := true } else s

/-- `PdcBase::Deactivate`. -/
def deactivate (s : Ipdc) : Ipdc :=
  if s.active then { s with active := false, processDue := none } else s

/-- `PdcBase::UpdateConfiguration`. -/
def updateConfiguration (s : Ipdc) (config : PdcBaseConfig) : Ipdc × Bool :=
  if config.pdcId ≠ s.config.pdcId ∨ config.reliable ≠ s.config.reliable then (s, false)
  else ({ s with config := config }, true)

/-- `Ipdc::UpdateIpdcConfiguration`. -/
def updateIpdcConfiguration (s : Ipdc) (config : IpdcConfig) : Ipdc × Bool :=
  if config.pdcId ≠ s.ipdcConfig.pdcId then (s, false)
  else
    ({ s with
      ipdcConfig := config
      sendCredits := min s.sendCredits config.sendWindow
      receiveCredits := min s.receiveCredits config.receiveWindow }, true)

/-- `Ipdc::SetFlowControlEnabled`. -/
def setFlowControlEnabled (s : Ipdc) (enabled : Bool) : Ipdc :=
  { s with ipdcConfig := { s.ipdcConfig with enableFlowControl := enabled } }

/-- `Ipdc::SetPacketLifetime`. -/
def setPacketLifetime (s : Ipdc) (lifetime : ℤ) : Ipdc :=
  { s with ipdcConfig := { s.ipdcConfig with packetLifetime := lifetime } }

/-- `Ipdc::ClearSendQueue`, with the number of packets. -/
def clearSendQueue (s : Ipdc) : Ipdc × ℕ := ({ s with sendQueue := [] }, s.sendQueue.length)

/-- `Ipdc::ClearReceiveQueue`, with the number of packets. -/
def clearReceiveQueue (s : Ipdc) : Ipdc × ℕ :=
  ({ s with receiveQueue := [], cleared := s.cleared ++ s.receiveQueue }, s.receiveQueue.length)

end Ipdc

end UeSim
