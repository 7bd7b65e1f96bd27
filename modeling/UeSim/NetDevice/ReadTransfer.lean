import UeSim.NetDevice.System
import UeSim.NetDevice.MemoryAccess
import UeSim.Pds.ReadReception
import UeSim.Ses.RetryCounting

/-!
# One READ over a loss-free network

The requester dispatches a READ once, the responder answers the packets of the
request as they arrive, and the requester takes in the packets of the answers.
The data of the READ should travel once and arrive where it was asked for.

The fragment loop emits as many packets for a READ as for a SEND of the same
length.  Every one of them carries the whole request, and the responder answers
every one with all of the data.
-/

namespace UeSim

/-- The arrival of a packet, some time after the one before, on a delivery
context. -/
structure Arrival where
  delayNs : ℕ := 0
  pdcId : ℕ
  packet : TaggedPacket

/-- The packet with the header of the packet delivery sublayer. -/
def Arrival.onWire (a : Arrival) : InboundPacket where
  pdcId := a.pdcId
  header := some a.packet.header
  metadata := some a.packet.metadata
  bytes := List.replicate InboundPacket.pdsHeaderSize 0 ++ a.packet.bytes

/-- A loss-free network: every packet that was sent arrives once, in any order
and on any valid delivery contexts. -/
structure Delivers (sent : List TaggedPacket) (arrivals : List Arrival) : Prop where
  perm : (arrivals.map (·.packet)).Perm sent
  pdcId : ∀ a ∈ arrivals, a.pdcId ≠ 65535

namespace SoftUeNetDevice

open SesManager

/-- `SesManager::DispatchRequestPackets` for a READ, on the device of the
requester: a READ whose response target was not registered before registers
it. -/
def dispatchReadRequest (env : Environment) (d : SoftUeNetDevice) (key : RequestKey) :
    SoftUeNetDevice × Bool :=
  let dispatched := d.ses.dispatchRequestPackets env key
  ({ d with
      ses := dispatched.1
      pds :=
        match d.ses.requestStates.lookup key with
        | none => d.pds
        | some state =>
            if !holdsReadTarget d.ses key && holdsReadTarget dispatched.1 key then
              d.pds.registerReadResponseTarget ⟨key.jobId, key.msgId, key.peerFep⟩
                state.metadata.startAddr state.metadata.payloadBytes
            else d.pds },
    dispatched.2)

/-- The packets that a device handed down between two states. -/
def emitted (d d' : SoftUeNetDevice) : List TaggedPacket :=
  d'.ses.dispatched.drop d.ses.dispatched.length

/-- The device after an arrival. -/
def arrive (env : Environment) (d : SoftUeNetDevice) (a : Arrival) : SoftUeNetDevice :=
  (d.advanceClock a.delayNs).processReceivedPacket env a.onWire

/-- The device after some arrivals. -/
def arriveAll (env : Environment) (d : SoftUeNetDevice) (arrivals : List Arrival) :
    SoftUeNetDevice :=
  arrivals.foldl (arrive env) d

end SoftUeNetDevice

/-! ## The exchange -/

open SesManager SoftUeNetDevice

/-- A requester with a READ of some length that is ready to be dispatched, and a
responder that will accept it.  Both use the same payload MTU. -/
structure ReadExchange (length payloadMtu : ℕ) where
  requester : SoftUeNetDevice
  responder : SoftUeNetDevice
  key : RequestKey
  record : RequestLifecycleState
  /-- The request is live, filed under its own key, and not in a queue. -/
  live : Live requester.ses key record
  keyed : requestKey record.metadata = key
  jobId : key.jobId < 2 ^ 32
  unlinked : record.blockedQueueLinked = false
  /-- It is a READ of the given length, as `ProcessSendRequest` leaves it. -/
  isRead : record.metadata.opType = .read
  payloadLength : record.metadata.payloadLength = length
  packetLength : record.packet.length ≤ length
  packetCount : record.totalPacketCount = record.metadata.calculatePacketCount payloadMtu
  unregistered : record.readResponseTargetRegistered = false
  /-- The data has a place to go, and the requester has room for it. -/
  startAddr : record.metadata.startAddr ≠ 0 ∧ record.metadata.startAddr < 2 ^ 64
  idle : ∀ rxKey context, requester.pds.rxMessageContexts.lookup rxKey = some context →
    rxKey.lookupKey ≠ ⟨key.jobId, key.msgId, key.peerFep⟩ ∧
      context.key.lookupKey ≠ ⟨key.jobId, key.msgId, key.peerFep⟩
  room : requester.pds.receivePool.HasReadRoom
  requesterMtu : requester.ses.getPayloadMtu = payloadMtu
  requesterPdsMtu : requester.pds.computePayloadPerPacket = payloadMtu
  /-- The responder accepts the request. -/
  mode : responder.rudSemanticModeEnabled = true
  header : responder.ses.validateInboundHeader (requestTags record.metadata 0).1 = .ok ()
  access : responder.ses.validateRmaRequest (requestTags record.metadata 0).1
    (requestTags record.metadata 0).2 false 0 = .ok ()
  budget : responder.readResponderBudget.admits record.metadata.payloadBytes = true
  undisturbed : responder.failNextResponseDispatches = 0
  responderMtu : responder.ses.getPayloadMtu = payloadMtu

namespace ReadExchange

variable {length payloadMtu : ℕ}

/-- The requester after the dispatch. -/
def dispatched (x : ReadExchange length payloadMtu) : SoftUeNetDevice :=
  (x.requester.dispatchReadRequest reliable x.key).1

/-- The packets of the request. -/
def requests (x : ReadExchange length payloadMtu) : List TaggedPacket :=
  x.requester.emitted x.dispatched

/-- The responder after the packets of the request arrived. -/
def answered (x : ReadExchange length payloadMtu) (arrivals : List Arrival) :
    SoftUeNetDevice :=
  x.responder.arriveAll reliable arrivals

/-- The packets of the responses. -/
def responses (x : ReadExchange length payloadMtu) (arrivals : List Arrival) :
    List TaggedPacket :=
  x.responder.emitted (x.answered arrivals)

/-- The requester after the packets of the responses arrived. -/
def completed (x : ReadExchange length payloadMtu) (arrivals : List Arrival) :
    SoftUeNetDevice :=
  x.dispatched.arriveAll reliable arrivals

/-- Whether a packet carries byte `i` of the data for the request. -/
def carries (key : RequestKey) (i : ℕ) (packet : TaggedPacket) : Bool :=
  packet.metadata.isResponse && packet.metadata.responseOpCode = .responseWithData &&
    packetKey packet = key && packet.metadata.fragmentOffset ≤ i &&
    i < packet.metadata.fragmentOffset + packet.bytes.length

/-- The data travels once and arrives. -/
structure MovesOnce (x : ReadExchange length payloadMtu) (requested answered : List Arrival) :
    Prop where
  once : ∀ i < length, (x.responses requested).countP (carries x.key i) = 1
  arrives : Reassembly.readMemory (x.completed answered).ses.memory
      x.record.metadata.startAddr length =
    Reassembly.readMemory x.responder.ses.memory x.record.metadata.immData length

end ReadExchange

/-- Every READ of the length moves its data once, whatever the order of the
arrivals. -/
def ReadsMoveOnce (length payloadMtu : ℕ) : Prop :=
  ∀ x : ReadExchange length payloadMtu, ∀ requested, Delivers x.requests requested →
    ∀ answered, Delivers (x.responses requested) answered → x.MovesOnce requested answered

/-! ## Packets on the wire -/

namespace Arrival

variable (a : Arrival)

theorem payload_onWire : a.onWire.payload = a.packet.bytes :=
  List.drop_left' (List.length_replicate)

theorem tagged_onWire : a.onWire.tagged = some a.packet := by
  simp only [InboundPacket.tagged, payload_onWire]
  rfl

theorem size_onWire : ¬ a.onWire.bytes.length < InboundPacket.pdsHeaderSize := by
  simp [onWire]

end Arrival

namespace SesManager

theorem acceptedFragments_reliable (calls : ℕ) (fragments : List TaggedPacket) :
    acceptedFragments reliable calls fragments = (fragments, true) := by
  induction fragments generalizing calls with
  | nil => rfl
  | cons fragment rest ih =>
      have haccepts : reliable.dispatchPacket calls = true := rfl
      rw [acceptedFragments, if_pos haccepts, ih (calls + 1)]

/-- What the dispatch of a request over a loss-free network does. -/
structure Dispatched (key : RequestKey) (r : RequestLifecycleState) (s s' : SesManager) :
    Prop where
  dispatched : s'.dispatched = s.dispatched ++ requestFragments r.metadata r.packet
    s.getPayloadMtu (max 1 r.totalPacketCount)
  memory : s'.memory = s.memory
  registered : ∃ r', Live s' key r' ∧ r'.metadata = r.metadata ∧
    (r.metadata.opType = .read → r'.readResponseTargetRegistered = true)

variable {s : SesManager} {key : RequestKey} {r : RequestLifecycleState}

theorem dispatchFragments_reliable (hlive : Live s key r) :
    Dispatched key r s
      (dispatchFragments reliable (s.modifyRequest key granted) key r).1 := by
  have hgranted : Live (s.modifyRequest key granted) key (granted r) := (hlive.modify rfl).2
  unfold dispatchFragments
  dsimp only
  generalize hresult : dispatchSemanticPackets reliable (s.modifyRequest key granted)
    (requestFragments r.metadata r.packet (s.modifyRequest key granted).getPayloadMtu
      (max 1 r.totalPacketCount)) = result
  have haccepted : result.2 = true := by
    rw [← hresult, dispatchSemanticPackets, acceptedFragments_reliable]
  have hdispatched : result.1.dispatched = s.dispatched ++ requestFragments r.metadata r.packet
      s.getPayloadMtu (max 1 r.totalPacketCount) := by
    rw [← hresult, dispatchSemanticPackets, acceptedFragments_reliable]
    rfl
  have hmemory : result.1.memory = s.memory := by
    rw [← hresult]
    rfl
  have hlive' : Live result.1 key (granted r) := by
    rw [← hresult]
    exact ⟨hgranted.lookup, hgranted.live⟩
  rw [if_pos haccepted]
  refine ⟨hdispatched, hmemory, _, (hlive'.modify (f := result.1.attemptStarted) rfl).2, rfl, ?_⟩
  intro hread
  simp [SesManager.attemptStarted, armResponseTimeout, granted, hread]

/-- A READ needs no budget, so it is dispatched at once. -/
theorem dispatchRequestPackets_read (hlive : Live s key r) (hread : r.metadata.opType = .read)
    (hunlinked : r.blockedQueueLinked = false) :
    Dispatched key r s (s.dispatchRequestPackets reliable key).1 := by
  have hgrant : s.tryReserveDispatchBudget key r = some s := by
    simp [tryReserveDispatchBudget, hread]
  unfold dispatchRequestPackets
  simp only [hlive.lookup, hlive.live, hunlinked, Bool.false_and, Bool.false_eq_true, if_false,
    hgrant]
  exact dispatchFragments_reliable hlive

end SesManager

namespace SoftUeNetDevice

variable {d : SoftUeNetDevice} {packet : TaggedPacket}

/-- The device answers the READ of a packet with data. -/
structure AnswersRead (packet : TaggedPacket) (d : SoftUeNetDevice) : Prop where
  mode : d.rudSemanticModeEnabled = true
  header : d.ses.validateInboundHeader packet.header = .ok ()
  access : d.ses.validateRmaRequest packet.header packet.metadata false 0 = .ok ()
  budget : d.readResponderBudget.admits packet.metadata.requestLength = true
  undisturbed : d.failNextResponseDispatches = 0
  size : packet.bytes.length ≤ d.ses.getPayloadMtu

/-- The response with the data of a READ. -/
def readResponse (payloadMtu : ℕ) (memory : ℕ → UInt8) (packet : TaggedPacket) :
    PendingResponseState :=
  pendingResponse payloadMtu packet.header.destinationEndpoint
    ⟨packetKey packet, .responseWithData, .ok⟩ packet.metadata.requestLength
    (Reassembly.readMemory memory packet.metadata.remoteAddress packet.metadata.requestLength)
    (some packet.metadata.requestLength)

/-- The packets that answer a READ. -/
def readAnswers (payloadMtu : ℕ) (memory : ℕ → UInt8) (packet : TaggedPacket) :
    List TaggedPacket :=
  responseFragments (readResponse payloadMtu memory packet) payloadMtu

/-- `d'` is `d` after a READ was answered. -/
structure ReadAnswered (answers : List TaggedPacket) (d d' : SoftUeNetDevice) : Prop where
  dispatched : d'.ses.dispatched = d.ses.dispatched ++ answers
  memory : d'.ses.memory = d.ses.memory
  payloadMtu : d'.ses.getPayloadMtu = d.ses.getPayloadMtu

/-- A response that is handed down at once and holds a share of the budget gives
it back. -/
theorem sendPendingResponse_settled (key : RequestKey) (state : PendingResponseState)
    (hundisturbed : d.failNextResponseDispatches = 0)
    (hreserved : state.readResponderBudgetReserved = true) :
    ∃ calls queues pending responseQueues,
      d.sendPendingResponse reliable key state =
        { d with
          ses := { d.ses with
            dispatchCalls := calls
            dispatched := d.ses.dispatched ++ responseFragments state d.ses.getPayloadMtu
            blockedPeerQueues := queues }
          pendingResponses := pending
          pendingResponseQueues := responseQueues
          readResponderBudget :=
            d.readResponderBudget.release state.readResponderBudgetBytes } := by
  unfold sendPendingResponse tryDispatchPendingResponse
  simp only [hundisturbed, lt_irrefl, if_false, acceptedFragments_reliable, if_true]
  unfold removePendingResponse
  simp only [AList.lookup_insert, releasePendingResponseBudget, dispatchedWhole, hreserved,
    if_true]
  exact ⟨_, _, _, _, rfl⟩

/-- The device when the data of a READ is reserved and the answer is asked for. -/
def readReserved (d : SoftUeNetDevice) (packet : TaggedPacket) : SoftUeNetDevice :=
  { d with
    readResponderBudget := d.readResponderBudget.reserve packet.metadata.requestLength
    answers := d.answers ++ [⟨packetKey packet, .responseWithData, .ok⟩] }

theorem handleIncomingReadRequest_of_answersRead (h : AnswersRead packet d) :
    d.handleIncomingReadRequest reliable packet =
      ((d.readReserved packet).sendPendingResponse reliable (packetKey packet)
        (readResponse d.ses.getPayloadMtu d.ses.memory packet), true) := by
  have hbudget := (SemanticBudgetState.tryReserve_eq_some
    (b := d.readResponderBudget) (n := packet.metadata.requestLength)).mpr ⟨h.budget, rfl⟩
  unfold handleIncomingReadRequest
  simp only [h.access, hbudget]
  rfl

/-- Answering a READ leaves the device able to answer it again. -/
theorem handleIncomingReadRequest_answers (h : AnswersRead packet d) :
    ReadAnswered (readAnswers d.ses.getPayloadMtu d.ses.memory packet) d
        (d.handleIncomingReadRequest reliable packet).1 ∧
      AnswersRead packet (d.handleIncomingReadRequest reliable packet).1 ∧
      (d.handleIncomingReadRequest reliable packet).2 = true := by
  obtain ⟨calls, queues, pending, responseQueues, hsent⟩ := sendPendingResponse_settled
    (d := d.readReserved packet) (packetKey packet)
    (readResponse d.ses.getPayloadMtu d.ses.memory packet) h.undisturbed rfl
  have hbudget : ((d.readResponderBudget.reserve packet.metadata.requestLength).release
      packet.metadata.requestLength).admits packet.metadata.requestLength = true := by
    rw [SemanticBudgetState.release_reserve]
    exact h.budget
  rw [handleIncomingReadRequest_of_answersRead h, hsent]
  exact ⟨⟨rfl, rfl, rfl⟩, ⟨h.mode, h.header, h.access, hbudget, h.undisturbed, h.size⟩, rfl⟩

/-- A packet of the request that arrives is answered. -/
theorem arrive_answersRead {a : Arrival} (h : AnswersRead a.packet d)
    (hread : a.packet.metadata.operationType = .read)
    (hrequest : a.packet.metadata.isResponse = false) (hpdc : a.pdcId ≠ 65535) :
    ReadAnswered (readAnswers d.ses.getPayloadMtu d.ses.memory a.packet) d
        (d.arrive reliable a) ∧ AnswersRead a.packet (d.arrive reliable a) := by
  have hlater : AnswersRead a.packet (d.advanceClock a.delayNs) :=
    ⟨h.mode, h.header, h.access, h.budget, h.undisturbed, h.size⟩
  have hadmitted : (d.advanceClock a.delayNs).admittedRequest a.onWire = some a.packet := by
    have hvalid : (d.advanceClock a.delayNs).validatePdcSesRequest a.onWire = true := by
      have hcontext : a.onWire.pdcId ≠ 65535 := hpdc
      simp [validatePdcSesRequest, hcontext, a.payload_onWire, hlater.size]
    have hresponse : a.onWire.isResponse = false := hrequest
    unfold admittedRequest
    rw [if_pos ⟨not_lt.mp a.size_onWire, rfl, hresponse, hvalid, hlater.mode⟩, a.tagged_onWire]
  have hhandled : (d.advanceClock a.delayNs).handleIncomingRequest reliable a.onWire.pdcId
      a.packet = (d.advanceClock a.delayNs).handleIncomingReadRequest reliable a.packet := by
    unfold handleIncomingRequest
    simp only [hlater.header, hread]
  obtain ⟨hanswered, hagain, hclaimed⟩ := handleIncomingReadRequest_answers hlater
  unfold arrive
  rw [processReceivedPacket_of_admitted reliable hadmitted, hhandled, if_pos hclaimed]
  exact ⟨⟨hanswered.dispatched, hanswered.memory, hanswered.payloadMtu⟩, hagain⟩

/-- A packet of the same request at another offset. -/
def atOffset (packet : TaggedPacket) (offset : ℕ) : TaggedPacket :=
  { packet with metadata := { packet.metadata with fragmentOffset := offset } }

theorem AnswersRead.atOffset (h : AnswersRead packet d) (offset : ℕ) :
    AnswersRead (atOffset packet offset) d := by
  refine ⟨h.mode, h.header, ?_, h.budget, h.undisturbed, h.size⟩
  have haccess := h.access
  unfold validateRmaRequest at haccess ⊢
  exact haccess

/-- Every packet of the request is answered with all of the data. -/
theorem arriveAll_answersRead (h : AnswersRead packet d)
    (hread : packet.metadata.operationType = .read)
    (hrequest : packet.metadata.isResponse = false) {arrivals : List Arrival}
    (hpdc : ∀ a ∈ arrivals, a.pdcId ≠ 65535)
    (hpackets : ∀ a ∈ arrivals, ∃ offset, a.packet = atOffset packet offset) :
    ReadAnswered (List.replicate arrivals.length
      (readAnswers d.ses.getPayloadMtu d.ses.memory packet)).flatten d
        (d.arriveAll reliable arrivals) := by
  induction arrivals generalizing d with
  | nil => exact ⟨(List.append_nil _).symm, rfl, rfl⟩
  | cons a arrivals ih =>
      obtain ⟨offset, hpacket⟩ := hpackets a List.mem_cons_self
      have hfirst : AnswersRead a.packet d := hpacket ▸ h.atOffset offset
      obtain ⟨hanswered, hagain⟩ := arrive_answersRead hfirst (by rw [hpacket]; exact hread)
        (by rw [hpacket]; exact hrequest) (hpdc a List.mem_cons_self)
      have hsame : readAnswers d.ses.getPayloadMtu d.ses.memory a.packet =
          readAnswers d.ses.getPayloadMtu d.ses.memory packet := by
        rw [hpacket]
        rfl
      rw [hpacket] at hagain
      have hrest := ih (hagain.atOffset packet.metadata.fragmentOffset)
        (fun b hb => hpdc b (List.mem_cons_of_mem a hb))
        (fun b hb => hpackets b (List.mem_cons_of_mem a hb))
      refine ⟨?_, hrest.memory.trans hanswered.memory,
        hrest.payloadMtu.trans hanswered.payloadMtu⟩
      have hdispatched := hrest.dispatched
      rw [hanswered.memory, hanswered.payloadMtu, hanswered.dispatched, hsame] at hdispatched
      rw [List.length_cons, List.replicate_succ, List.flatten_cons, ← List.append_assoc]
      exact hdispatched

/-! ## What an answer covers -/

/-- The number of packets of an answer. -/
theorem packetCount_readResponse (payloadMtu : ℕ) (memory : ℕ → UInt8)
    (packet : TaggedPacket) :
    max 1 (readResponse payloadMtu memory packet).packetCount =
      if packet.metadata.requestLength = 0 then 1
      else max 1 (toU32 (packet.metadata.requestLength + payloadMtu - 1) / payloadMtu) := by
  by_cases hempty : packet.metadata.requestLength = 0
  · simp [readResponse, pendingResponse, hempty]
  · simp [readResponse, pendingResponse, hempty]

/-- The rounding term wraps around at most once, and then no chunk is left. -/
theorem chunks_eq_zero_of_wrap {length payloadMtu : ℕ} (hlength : length < 2 ^ 32)
    (hmtu : payloadMtu < 2 ^ 32) (hwrap : 2 ^ 32 ≤ length + payloadMtu - 1) :
    toU32 (length + payloadMtu - 1) / payloadMtu = 0 := by
  unfold toU32
  exact Nat.div_eq_of_lt (by omega)

/-- The request that the answers to a packet are for. -/
def answeredRequest (packet : TaggedPacket) : RequestKey where
  jobId := toU32 packet.header.jobId
  msgId := toU16 (toU16 packet.metadata.messageId)
  peerFep := packet.header.destinationEndpoint

/-- Which bytes a packet of an answer carries. -/
theorem carries_responseFragment (payloadMtu : ℕ) (memory : ℕ → UInt8) (packet : TaggedPacket)
    (k i : ℕ) :
    ReadExchange.carries (answeredRequest packet) i
        (responseFragment (readResponse payloadMtu memory packet) payloadMtu k) =
      (decide (toU32 (k * payloadMtu) ≤ i) && decide (i < toU32 (k * payloadMtu) +
        (responseFragment (readResponse payloadMtu memory packet) payloadMtu k).bytes.length)) := by
  have hkey : packetKey (responseFragment (readResponse payloadMtu memory packet) payloadMtu k) =
      answeredRequest packet := rfl
  have hresponse : (responseFragment (readResponse payloadMtu memory packet) payloadMtu
      k).metadata.isResponse = true := rfl
  have hcode : (responseFragment (readResponse payloadMtu memory packet) payloadMtu
      k).metadata.responseOpCode = .responseWithData := rfl
  have hoffset : (responseFragment (readResponse payloadMtu memory packet) payloadMtu
      k).metadata.fragmentOffset = toU32 (k * payloadMtu) := rfl
  simp [ReadExchange.carries, hkey, hresponse, hcode, hoffset]

/-- A packet of an answer with several packets carries one chunk of the data. -/
theorem length_responseFragment {payloadMtu k : ℕ} {memory : ℕ → UInt8}
    (hrange : packet.metadata.requestLength < 2 ^ 32)
    (hseveral : max 1 (readResponse payloadMtu memory packet).packetCount ≠ 1)
    (hstart : k * payloadMtu < packet.metadata.requestLength) :
    (responseFragment (readResponse payloadMtu memory packet) payloadMtu k).bytes.length =
      min payloadMtu (packet.metadata.requestLength - k * payloadMtu) := by
  have hpayload : (readResponse payloadMtu memory packet).payload.length =
      packet.metadata.requestLength := Reassembly.length_readMemory _ _ _
  have hbytes : (responseFragment (readResponse payloadMtu memory packet) payloadMtu k).bytes =
      (readResponse payloadMtu memory packet).payload.createFragment (toU32 (k * payloadMtu))
        (min payloadMtu
          (subU32 packet.metadata.requestLength (toU32 (k * payloadMtu)))) := by
    refine if_neg ?_
    rintro (hplain | hone)
    · cases hplain
    · exact hseveral hone
  rw [hbytes, toU32_of_lt (hstart.trans hrange), subU32_of_le hrange hstart.le,
    Packet.createFragment, if_pos (by omega), List.length_take, List.length_drop, hpayload]
  omega

/-- An answer carries every byte of the data once. -/
theorem countP_readAnswers {payloadMtu : ℕ} (memory : ℕ → UInt8) (hpos : 0 < payloadMtu)
    (hmtu : payloadMtu < 2 ^ 32) (hrange : packet.metadata.requestLength < 2 ^ 32) (i : ℕ) :
    (readAnswers payloadMtu memory packet).countP
        (ReadExchange.carries (answeredRequest packet) i) =
      if i < packet.metadata.requestLength then 1 else 0 := by
  unfold readAnswers responseFragments
  rw [List.countP_map]
  by_cases hone : max 1 (readResponse payloadMtu memory packet).packetCount = 1
  · have hbytes : (responseFragment (readResponse payloadMtu memory packet) payloadMtu
        0).bytes.length = packet.metadata.requestLength := by
      have hwhole : (responseFragment (readResponse payloadMtu memory packet) payloadMtu 0).bytes =
          (readResponse payloadMtu memory packet).payload := if_pos (.inr hone)
      rw [hwhole]
      exact Reassembly.length_readMemory _ _ _
    rw [hone, List.range_one, List.countP_singleton, Function.comp_apply,
      carries_responseFragment, hbytes]
    simp [toU32]
  · have hcount := packetCount_readResponse payloadMtu memory packet
    generalize hn : max 1 (readResponse payloadMtu memory packet).packetCount = n at hone hcount ⊢
    split_ifs at hcount with hempty
    · exact absurd hcount hone
    -- several packets mean that the rounding term did not wrap around
    have hnowrap : packet.metadata.requestLength + payloadMtu - 1 < 2 ^ 32 := by
      by_contra hwrap
      rw [chunks_eq_zero_of_wrap hrange hmtu (not_lt.mp hwrap)] at hcount
      exact hone hcount
    have hchunks : n = Reassembly.chunkCount packet.metadata.requestLength payloadMtu := by
      rw [toU32_of_lt hnowrap] at hcount
      have hpositive := Reassembly.chunkCount_pos (n := packet.metadata.requestLength) hpos
      rw [Reassembly.chunkCount, if_neg hempty] at hpositive ⊢
      omega
    have hcarries : ∀ k ∈ List.range n, (ReadExchange.carries (answeredRequest packet) i ∘
        responseFragment (readResponse payloadMtu memory packet) payloadMtu) k = true ↔
          decide (i < packet.metadata.requestLength ∧ k = i / payloadMtu) = true := by
      intro k hk
      rw [List.mem_range, hchunks] at hk
      have hstart := Reassembly.mul_lt_of_lt_chunkCount hpos hk (Nat.pos_of_ne_zero hempty)
      have hchunk := Reassembly.mem_chunk_iff (i := i) (k := k) hpos
      rw [Function.comp_apply, carries_responseFragment, toU32_of_lt (hstart.trans hrange),
        length_responseFragment hrange (hn ▸ hone) hstart]
      simp only [Bool.and_eq_true, decide_eq_true_eq]
      omega
    rw [List.countP_congr hcarries]
    split_ifs with hi
    · have hmem : i / payloadMtu ∈ List.range n := by
        rw [List.mem_range, hchunks]
        exact Reassembly.div_lt_chunkCount hpos hi
      have hsame : (List.range n).countP (fun k => decide (i < packet.metadata.requestLength ∧
          k = i / payloadMtu)) = (List.range n).count (i / payloadMtu) :=
        List.countP_congr fun k _ => by simp [hi]
      rw [hsame]
      exact List.count_eq_one_of_mem List.nodup_range hmem
    · exact List.countP_eq_zero.mpr fun k _ => by simp [hi]

end SoftUeNetDevice

end UeSim
