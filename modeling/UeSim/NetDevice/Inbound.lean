import UeSim.NetDevice.PendingResponses
import UeSim.Ses.Frames

/-!
# Inbound packets

How a `SoftUeNetDevice` takes in a packet: the packet delivery sublayer strips
its header, the semantic sublayer handles the request or the response, and a
packet that the semantic sublayer does not claim is delivered to the
application.  The second component of a result is the boolean of the source.
-/

namespace UeSim

/-- A packet as `PdsManager::ProcessReceivedPacket` gets it.  A tag that is
missing is absent; `pdcAvailable` says whether a delivery context for the packet
exists or could be created. -/
structure InboundPacket where
  pdcId : ℕ
  header : Option SoftUeHeaderTag
  metadata : Option SoftUeMetadataTag
  tpdcControl : Bool := false
  pdcAvailable : Bool := true
  auxTimestampNs : ℕ := 0
  /-- The bytes with the header of the packet delivery sublayer. -/
  bytes : Packet
  deriving DecidableEq, Repr

namespace InboundPacket

/-- The size of a `PDSHeader`. -/
def pdsHeaderSize : ℕ := 7

/-- The bytes without the header of the packet delivery sublayer. -/
def payload (packet : InboundPacket) : Packet := packet.bytes.drop pdsHeaderSize

/-- `SesManager::TryGetPacketTags`. -/
def tagged (packet : InboundPacket) : Option TaggedPacket :=
  packet.header.bind fun header => packet.metadata.map fun metadata =>
    { header := header, metadata := metadata, bytes := packet.payload }

/-- Whether the packet is passed on as a response. -/
def isResponse (packet : InboundPacket) : Bool :=
  packet.metadata.elim false (·.isResponse)

/-- Whether the packet belongs to its delivery context alone. -/
def isControl (packet : InboundPacket) : Bool := packet.tpdcControl && packet.pdcAvailable

end InboundPacket

namespace SoftUeNetDevice

/-! ## The packet delivery sublayer -/

/-- The packet delivery sublayer over the memory of the process. -/
def pdsView (d : SoftUeNetDevice) : PdsManager := { d.pds with memory := d.ses.memory }

/-- The device after a call into the packet delivery sublayer. -/
def setPds (d : SoftUeNetDevice) (pds : PdsManager) : SoftUeNetDevice :=
  { d with pds := pds, ses := { d.ses with memory := pds.memory } }

/-! ## Requests -/

/-- `SesManager::HandleIncomingSendRequest`. -/
def handleIncomingSendRequest (env : Environment) (d : SoftUeNetDevice) (pdcId : ℕ)
    (packet : TaggedPacket) : SoftUeNetDevice × Bool :=
  let received := d.pdsView.handleIncomingSendPacket pdcId packet
  let d := d.setPds received.1
  let result := received.2
  if !result.handled || !result.responseReady then (d, result.handled)
  else
    (d.sendSemanticResponseForRequest env d.ses.localFep
      ⟨SesManager.packetKey packet, result.responseOpCode, result.returnCode⟩
      result.modifiedLength [0] none, true)

/-- The copy of an admitted WRITE to its target: the budget is held only while
the bytes are copied, and the peer is notified when it is given back. -/
def copyWrite (d : SoftUeNetDevice) (peerFep : ℕ) (packet : TaggedPacket)
    (budget : SemanticBudgetState) : SoftUeNetDevice :=
  { d with
    ses := ({ d.ses with writeBudget := budget }.writePacketBytesToAddress packet.bytes
      (SesManager.writeTargetAddr packet.metadata)).releaseWriteBudget peerFep
        packet.bytes.length
    }.schedulePendingResponseDrain peerFep

/-- `SesManager::HandleIncomingWriteRequest`. -/
def handleIncomingWriteRequest (env : Environment) (d : SoftUeNetDevice)
    (packet : TaggedPacket) : SoftUeNetDevice × Bool :=
  let key := SesManager.packetKey packet
  let size := packet.bytes.length
  match d.ses.validateRmaRequest packet.header packet.metadata true size with
  | .error failure => (d.sendNack env d.ses.localFep key failure.returnCode, false)
  | .ok () =>
      match d.ses.writeBudget.tryReserve size with
      | none => (d.sendNack env d.ses.localFep key .resourceExhaust, false)
      | some budget =>
          ((d.copyWrite key.peerFep packet budget).sendSemanticResponseForRequest env
            d.ses.localFep ⟨key, .defaultResponse, .ok⟩ size [0] none, true)

/-- `SesManager::HandleIncomingReadRequest`. -/
def handleIncomingReadRequest (env : Environment) (d : SoftUeNetDevice)
    (packet : TaggedPacket) : SoftUeNetDevice × Bool :=
  let key := SesManager.packetKey packet
  let localFep := packet.header.destinationEndpoint
  match d.ses.validateRmaRequest packet.header packet.metadata false 0 with
  | .error failure => (d.sendNack env localFep key failure.returnCode, false)
  | .ok () =>
      let readAddr := packet.metadata.remoteAddress
      let readLen := packet.metadata.requestLength
      let payload := Reassembly.readMemory d.ses.memory readAddr readLen
      match d.readResponderBudget.tryReserve readLen with
      | none => (d.sendNack env localFep key .resourceExhaust, false)
      | some budget =>
          ({ d with readResponderBudget := budget }.sendSemanticResponseForRequest env localFep
            ⟨key, .responseWithData, .ok⟩ readLen payload (some readLen), true)

/-- `SesManager::HandleIncomingRequest`. -/
def handleIncomingRequest (env : Environment) (d : SoftUeNetDevice) (pdcId : ℕ)
    (packet : TaggedPacket) : SoftUeNetDevice × Bool :=
  let key := SesManager.packetKey packet
  let localFep := packet.header.destinationEndpoint
  match d.ses.validateInboundHeader packet.header with
  | .error failure => (d.sendNack env localFep key failure.returnCode, false)
  | .ok () =>
      match packet.metadata.operationType with
      | .send => d.handleIncomingSendRequest env pdcId packet
      | .write => d.handleIncomingWriteRequest env packet
      | .read => d.handleIncomingReadRequest env packet
      | .deferrable => (d.sendNack env localFep key .invalidOp, false)

/-- `SoftUeNetDevice::DeliverReceivedPacket`. -/
def deliverReceivedPacket (d : SoftUeNetDevice) (packet : Packet) : SoftUeNetDevice :=
  { d with delivered := d.delivered ++ [packet] }

/-- The device after the semantic sublayer counted an error. -/
def errorCounted (d : SoftUeNetDevice) : SoftUeNetDevice := { d with ses := d.ses.errorCounted }

/-- `SesManager::ValidatePdcSesRequest`. -/
def validatePdcSesRequest (d : SoftUeNetDevice) (packet : InboundPacket) : Bool :=
  packet.pdcId ≠ 65535 && packet.payload.length ≤ d.ses.getPayloadMtu

/-- `SesManager::ProcessReceiveRequest`. -/
def processReceiveRequest (env : Environment) (d : SoftUeNetDevice) (packet : InboundPacket) :
    SoftUeNetDevice × Bool :=
  if !d.validatePdcSesRequest packet then (d.errorCounted, false)
  else if !d.rudSemanticModeEnabled then (d.deliverReceivedPacket packet.payload, true)
  else
    match packet.tagged with
    | none => (d.errorCounted, false)
    | some tagged => d.handleIncomingRequest env packet.pdcId tagged

/-! ## Responses -/

/-- Whether `ProcessReceiveResponse` passes the packet on as read data: the
request is live and the response is a success with data. -/
def carriesReadData (d : SoftUeNetDevice) (packet : TaggedPacket) : Bool :=
  (d.ses.requestStates.lookup (SesManager.packetKey packet)).elim false fun state =>
    !state.terminalized && packet.metadata.returnCode = .ok &&
      packet.metadata.responseOpCode = .responseWithData

/-- Whether a request holds a share of a dispatch budget. -/
def holdsBudget (s : SesManager) (key : RequestKey) : Bool :=
  (s.requestStates.lookup key).elim false fun state =>
    state.sendAdmissionReserved || state.writeBudgetReserved

/-- Whether a request holds a read-response target. -/
def holdsReadTarget (s : SesManager) (key : RequestKey) : Bool :=
  (s.requestStates.lookup key).elim false fun state =>
    state.metadata.opType = .read && state.readResponseTargetRegistered

/-- The device after the semantic sublayer handled a response to `key`.  A
request that gave its budget back notified the peer, and a request that was
closed with its read target registered unregistered it. -/
def setSes (d : SoftUeNetDevice) (key : RequestKey) (ses : SesManager) : SoftUeNetDevice :=
  { d with
    ses := ses
    pds := if holdsReadTarget d.ses key && !holdsReadTarget ses key then
        d.pds.unregisterReadResponseTarget ⟨key.jobId, key.msgId, key.peerFep⟩
      else d.pds
    pendingResponseQueues := if holdsBudget d.ses key && !holdsBudget ses key then
        d.pendingResponseQueues.wake key.peerFep
      else d.pendingResponseQueues }

/-- `SesManager::ProcessReceiveResponse`, which has no use for a packet without
its semantic tags. -/
def processReceiveResponse (d : SoftUeNetDevice) (packet : InboundPacket) :
    SoftUeNetDevice × Bool :=
  match packet.tagged with
  | none => ({ d with ses := d.ses.processReceiveResponse { packet := none } }, false)
  | some tagged =>
      let received := if d.carriesReadData tagged then
          d.pdsView.handleIncomingReadResponsePacket packet.pdcId tagged
        else (d.pdsView, {})
      let d := d.setPds received.1
      (d.setSes (SesManager.packetKey tagged)
        (d.ses.processReceiveResponse
          { packet := some tagged
            auxTimestampNs := packet.auxTimestampNs
            rxResult := received.2 }), true)

/-! ## Packets -/

/-- `PdsManager::ProcessReceivedPacket`.  The delivery contexts, which keep
state of their own, do not deliver packets themselves; what the semantic
sublayer declines is delivered to the application. -/
def processReceivedPacket (env : Environment) (d : SoftUeNetDevice) (packet : InboundPacket) :
    SoftUeNetDevice :=
  if packet.bytes.length < InboundPacket.pdsHeaderSize then d
  else if packet.isControl then d
  else
    let processed := if packet.isResponse then d.processReceiveResponse packet
      else d.processReceiveRequest env packet
    if processed.2 then processed.1 else processed.1.deliverReceivedPacket packet.payload

/-! ## Which packets are answered -/

/-- The request that `ProcessReceivedPacket` passes on to
`HandleIncomingRequest`. -/
def admittedRequest (d : SoftUeNetDevice) (packet : InboundPacket) : Option TaggedPacket :=
  if InboundPacket.pdsHeaderSize ≤ packet.bytes.length ∧ packet.isControl = false ∧
      packet.isResponse = false ∧ d.validatePdcSesRequest packet = true ∧
      d.rudSemanticModeEnabled = true then packet.tagged
  else none

variable {d : SoftUeNetDevice} {packet : InboundPacket} {tagged : TaggedPacket}

/-- An admitted request is handled, and delivered when the handler declines
it. -/
theorem processReceivedPacket_of_admitted (env : Environment)
    (h : d.admittedRequest packet = some tagged) :
    d.processReceivedPacket env packet =
      if (d.handleIncomingRequest env packet.pdcId tagged).2 then
        (d.handleIncomingRequest env packet.pdcId tagged).1
      else
        (d.handleIncomingRequest env packet.pdcId tagged).1.deliverReceivedPacket
          packet.payload := by
  unfold admittedRequest at h
  split_ifs at h with hadmitted
  obtain ⟨hsize, hcontrol, hresponse, hvalid, hmode⟩ := hadmitted
  simp [processReceivedPacket, processReceiveRequest, not_lt.mpr hsize, hcontrol, hresponse,
    hvalid, hmode, h]

/-- Two states between which no response was asked for or dispatched. -/
structure Unanswered (d d' : SoftUeNetDevice) : Prop where
  answers : d'.answers = d.answers
  pendingResponses : d'.pendingResponses = d.pendingResponses
  readResponderBudget : d'.readResponderBudget = d.readResponderBudget
  requests : ∀ peerFep,
    d'.pendingResponseQueues.requests peerFep = d.pendingResponseQueues.requests peerFep
  payloadMtu : d'.ses.getPayloadMtu = d.ses.getPayloadMtu
  dispatched : d.ses.dispatched <+: d'.ses.dispatched

theorem unanswered_processReceiveResponse (d : SoftUeNetDevice) (packet : InboundPacket) :
    Unanswered d (d.processReceiveResponse packet).1 := by
  unfold processReceiveResponse
  cases packet.tagged with
  | none =>
      have heff := SesManager.processReceiveResponse_effects d.ses { packet := none }
      exact ⟨rfl, rfl, rfl, fun _ => rfl, heff.getPayloadMtu, heff.dispatched_prefix⟩
  | some tagged =>
      dsimp only
      generalize (if d.carriesReadData tagged then _ else _ : PdsManager × PdcRxSemanticResult) =
        received
      have heff := SesManager.processReceiveResponse_effects (d.setPds received.1).ses
        { packet := some tagged
          auxTimestampNs := packet.auxTimestampNs
          rxResult := received.2 }
      refine ⟨rfl, rfl, rfl, fun peerFep => ?_, heff.getPayloadMtu, heff.dispatched_prefix⟩
      unfold setSes
      dsimp only
      split
      · exact BlockedPeerQueues.requests_wake _ _ _
      · rfl

/-- A packet that is not an admitted request is not answered. -/
theorem unanswered_of_not_admitted (env : Environment) (h : d.admittedRequest packet = none) :
    Unanswered d (d.processReceivedPacket env packet) := by
  have hrefl : Unanswered d d :=
    ⟨rfl, rfl, rfl, fun _ => rfl, rfl, List.prefix_rfl⟩
  have hdeliver : ∀ {d' : SoftUeNetDevice}, Unanswered d d' →
      Unanswered d (d'.deliverReceivedPacket packet.payload) := fun h =>
    ⟨h.answers, h.pendingResponses, h.readResponderBudget, h.requests, h.payloadMtu,
      h.dispatched⟩
  unfold processReceivedPacket
  split
  · exact hrefl
  · rename_i hsize
    split
    · exact hrefl
    · rename_i hcontrol
      have hprocessed : Unanswered d (if packet.isResponse then d.processReceiveResponse packet
          else d.processReceiveRequest env packet).1 := by
        split
        · exact unanswered_processReceiveResponse d packet
        · rename_i hresponse
          unfold processReceiveRequest
          split
          · exact ⟨rfl, rfl, rfl, fun _ => rfl, rfl, List.prefix_rfl⟩
          · rename_i hvalid
            split
            · exact hdeliver hrefl
            · rename_i hmode
              rw [Bool.not_eq_true, Bool.not_eq_false'] at hvalid hmode
              have htagged : packet.tagged = none := by
                simpa [admittedRequest, not_lt.mp hsize, hcontrol, hresponse, hvalid, hmode]
                  using h
              rw [htagged]
              exact ⟨rfl, rfl, rfl, fun _ => rfl, rfl, List.prefix_rfl⟩
      dsimp only
      generalize (if packet.isResponse then _ else _ : SoftUeNetDevice × Bool) = processed
        at hprocessed ⊢
      split
      · exact hprocessed
      · exact hdeliver hprocessed

end SoftUeNetDevice
end UeSim
