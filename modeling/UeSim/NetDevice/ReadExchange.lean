import UeSim.NetDevice.ReadTransfer
import Mathlib.Algebra.Group.Action.Defs

/-!
# Which READs move their data once

A READ that fits one packet is requested once and answered once, and the data of
the answer is copied to its target.  A longer READ is requested once for every
packet that a SEND of its length would take, and each of these requests is
answered with all of the data.  When the rounding term of the packet count wraps
around, the requester expects no chunk at all and drops the data.
-/

namespace UeSim

open SesManager SoftUeNetDevice

namespace SesManager

/-- A success touches no memory of its own. -/
theorem memory_processReceiveResponse (s : SesManager) {response : PdcSesResponse}
    {packet : TaggedPacket} (hpacket : response.packet = some packet)
    (hok : packet.metadata.returnCode = .ok) :
    (s.processReceiveResponse response).memory = s.memory := by
  have hquiet : s.responseCounted.schedulesRetry packet.metadata = false := by
    simp [schedulesRetry, hok]
  unfold processReceiveResponse receiveResponsePacket
  simp only [hpacket]
  split_ifs
  · cases hlookup : s.responseCounted.requestStates.lookup (packetKey packet) with
    | none => rfl
    | some state =>
        dsimp only
        split_ifs
        · rfl
        · have hkeeps : Keeps (packetKey packet) True s.responseCounted _ :=
            keeps_receiveLiveResponse s.responseCounted _ state response hquiet
          exact hkeeps.memory
  · rfl

end SesManager

namespace SoftUeNetDevice

variable {d : SoftUeNetDevice} {payloadMtu : ℕ} {memory : ℕ → UInt8} {packet : TaggedPacket}

/-! ## One packet of data -/

/-- An answer with one packet carries all of the data. -/
theorem readAnswers_single (hone : max 1 (readResponse payloadMtu memory packet).packetCount = 1) :
    readAnswers payloadMtu memory packet =
        [responseFragment (readResponse payloadMtu memory packet) payloadMtu 0] ∧
      (responseFragment (readResponse payloadMtu memory packet) payloadMtu 0).bytes =
        Reassembly.readMemory memory packet.metadata.remoteAddress
          packet.metadata.requestLength := by
  refine ⟨?_, if_pos (.inr hone)⟩
  rw [readAnswers, responseFragments, hone]
  rfl

/-- Read data for a live request is handed to the packet delivery sublayer. -/
theorem memory_arrive_of_carriesReadData {a : Arrival}
    (hresponse : a.packet.metadata.isResponse = true)
    (hok : a.packet.metadata.returnCode = .ok)
    (hdata : (d.advanceClock a.delayNs).carriesReadData a.packet = true) :
    (d.arrive reliable a).ses.memory =
      ((d.advanceClock a.delayNs).pdsView.handleIncomingReadResponsePacket a.pdcId
        a.packet).1.memory := by
  have hpassed : a.onWire.isResponse = true := hresponse
  have hcontrol : a.onWire.isControl = false := rfl
  unfold arrive processReceivedPacket processReceiveResponse
  rw [if_neg a.size_onWire, hcontrol, a.tagged_onWire]
  simp only [Bool.false_eq_true, if_false, hpassed, if_true, hdata]
  exact memory_processReceiveResponse _ rfl hok

end SoftUeNetDevice

namespace ReadExchange

variable {length payloadMtu : ℕ} (x : ReadExchange length payloadMtu)

/-! ## The request -/

/-- The packet that every packet of the request repeats. -/
def request : TaggedPacket where
  header := (requestTags x.record.metadata 0).1
  metadata := (requestTags x.record.metadata 0).2
  bytes := x.record.packet

/-- The number of packets of the request. -/
def requestCount : ℕ := max 1 (x.record.metadata.calculatePacketCount payloadMtu)

theorem ses_dispatched : Dispatched x.key x.record x.requester.ses x.dispatched.ses :=
  dispatchRequestPackets_read x.live x.isRead x.unlinked

theorem requests_eq :
    x.requests = requestFragments x.record.metadata x.record.packet payloadMtu
      x.requestCount := by
  have hdispatched := x.ses_dispatched.dispatched
  rw [x.requesterMtu, x.packetCount] at hdispatched
  unfold requests emitted requestCount
  rw [hdispatched, List.drop_left]

theorem length_requests : x.requests.length = x.requestCount := by
  rw [x.requests_eq, requestFragments, List.length_map, List.length_range]

/-- The packets of the request differ in their offsets alone. -/
theorem request_of_mem {packet : TaggedPacket} (h : packet ∈ x.requests) :
    ∃ offset, packet = atOffset x.request offset := by
  rw [x.requests_eq] at h
  obtain ⟨i, -, rfl⟩ := List.mem_map.mp h
  refine ⟨toU32 (i * payloadMtu), ?_⟩
  simp [requestFragment, atOffset, request, requestTags, x.isRead]

theorem payloadBytes_eq : x.record.metadata.payloadBytes = toU32 length := by
  rw [ExtendedOperationMetadata.payloadBytes, x.payloadLength]

/-- The responder accepts the packets of the request, if it accepts their
size. -/
theorem answersRead (hsize : x.record.packet.length ≤ payloadMtu) :
    AnswersRead x.request x.responder :=
  ⟨x.mode, x.header, x.access, x.budget, x.undisturbed, x.responderMtu.symm ▸ hsize⟩

/-- The answers are for the request. -/
theorem answeredRequest_eq : answeredRequest x.request = x.key := by
  have hkeyed := x.keyed
  have hjob := x.jobId
  rw [← hkeyed] at hjob ⊢
  have hjobId : toU32 x.record.metadata.jobId = x.record.metadata.jobId := toU32_of_lt hjob
  simp [answeredRequest, request, requestTags, requestKey, hjobId, toU16]

/-! ## The responses -/

variable {requested answers : List Arrival}

/-- Every packet of the request is answered with all of the data. -/
theorem responses_eq (hsize : x.record.packet.length ≤ payloadMtu)
    (hdelivers : Delivers x.requests requested) :
    x.responses requested = (List.replicate x.requestCount
      (readAnswers payloadMtu x.responder.ses.memory x.request)).flatten := by
  have hanswered := (arriveAll_answersRead (x.answersRead hsize) x.isRead rfl hdelivers.pdcId
    fun a ha => x.request_of_mem (hdelivers.perm.subset (List.mem_map_of_mem ha))).dispatched
  have hcount : requested.length = x.requestCount := by
    rw [← x.length_requests, ← hdelivers.perm.length_eq, List.length_map]
  rw [x.responderMtu, hcount] at hanswered
  unfold responses emitted answered
  rw [hanswered, List.drop_left]

/-- A byte of the data is answered as often as the READ is requested. -/
theorem countP_responses (hpos : 0 < payloadMtu) (hmtu : payloadMtu < 2 ^ 32)
    (hsize : x.record.packet.length ≤ payloadMtu)
    (hdelivers : Delivers x.requests requested) (i : ℕ) :
    (x.responses requested).countP (carries x.key i) =
      x.requestCount * if i < toU32 length then 1 else 0 := by
  have hlength : x.request.metadata.requestLength = toU32 length := x.payloadBytes_eq
  have hanswer : (readAnswers payloadMtu x.responder.ses.memory x.request).countP
      (carries (answeredRequest x.request) i) =
        if i < x.request.metadata.requestLength then 1 else 0 :=
    countP_readAnswers _ hpos hmtu (hlength ▸ toU32_lt length) i
  rw [x.answeredRequest_eq, hlength] at hanswer
  rw [x.responses_eq hsize hdelivers, List.countP_flatten, List.map_replicate,
    List.sum_replicate, hanswer, smul_eq_mul]

/-! ## The data -/

/-- The key under which the receive side expects the data. -/
def lookupKey : ReceiveLookupKey := ⟨x.key.jobId, x.key.msgId, x.key.peerFep⟩

/-- The dispatch registers the target of the READ. -/
theorem pds_dispatched : x.dispatched.pds = x.requester.pds.registerReadResponseTarget
    x.lookupKey x.record.metadata.startAddr x.record.metadata.payloadBytes := by
  obtain ⟨r', hlive, hmeta, hregistered⟩ := x.ses_dispatched.registered
  have hbefore : holdsReadTarget x.requester.ses x.key = false := by
    simp [holdsReadTarget, x.live.lookup, x.unregistered]
  have hafter : holdsReadTarget (x.requester.ses.dispatchRequestPackets reliable x.key).1 x.key =
      true := by
    change holdsReadTarget x.dispatched.ses x.key = true
    simp [holdsReadTarget, hlive.lookup, hmeta, x.isRead, hregistered]
  unfold dispatched dispatchReadRequest
  simp [x.live.lookup, hbefore, hafter, lookupKey]

theorem expectsRead : x.dispatched.pds.ExpectsRead x.lookupKey
    ⟨x.record.metadata.startAddr, x.record.metadata.payloadBytes⟩ := by
  rw [x.pds_dispatched]
  exact (PdsManager.ReadyForRead.mk x.idle x.room).register _ _

/-- The packet that answers a READ of one packet. -/
def answer : TaggedPacket :=
  responseFragment (readResponse payloadMtu x.responder.ses.memory x.request) payloadMtu 0

theorem packetKey_answer : packetKey x.answer = x.key := x.answeredRequest_eq

theorem requestCount_of_single (hlength : 0 < length) (hrange : length < 2 ^ 32)
    (hsingle : toU32 (length + payloadMtu - 1) / payloadMtu ≤ 1) : x.requestCount = 1 := by
  unfold requestCount ExtendedOperationMetadata.calculatePacketCount
  rw [x.payloadBytes_eq, toU32_of_lt hrange, if_neg hlength.ne']
  split_ifs <;> omega

/-- A READ of one packet is answered with one packet. -/
theorem responses_of_single (hlength : 0 < length) (hrange : length < 2 ^ 32)
    (hsingle : toU32 (length + payloadMtu - 1) / payloadMtu ≤ 1)
    (hsize : x.record.packet.length ≤ payloadMtu) (hdelivers : Delivers x.requests requested) :
    x.responses requested = [x.answer] ∧
      x.answer.bytes =
        Reassembly.readMemory x.responder.ses.memory x.record.metadata.immData length := by
  have hbytes : x.record.metadata.payloadBytes = length := by
    rw [x.payloadBytes_eq, toU32_of_lt hrange]
  have hone : max 1 (readResponse payloadMtu x.responder.ses.memory x.request).packetCount =
      1 := by
    have hrequested : x.request.metadata.requestLength = length := hbytes
    rw [packetCount_readResponse, hrequested, if_neg hlength.ne']
    omega
  obtain ⟨hanswers, hcarried⟩ := readAnswers_single hone
  constructor
  · rw [x.responses_eq hsize hdelivers, x.requestCount_of_single hlength hrange hsingle, hanswers]
    rfl
  · have haddr : x.request.metadata.remoteAddress = x.record.metadata.immData := by
      simp [request, requestTags, x.isRead]
    have hrequested : x.request.metadata.requestLength = length := hbytes
    rw [haddr, hrequested] at hcarried
    exact hcarried

/-- A READ of one packet: the requester copies the data of the answer, unless the
number of chunks that it expects is zero. -/
theorem memory_completed (hlength : 0 < length) (hrange : length < 2 ^ 32)
    (hsingle : toU32 (length + payloadMtu - 1) / payloadMtu ≤ 1)
    (hsize : x.record.packet.length ≤ payloadMtu)
    (hdelivers : Delivers x.requests requested)
    (hanswers : Delivers (x.responses requested) answers) :
    (x.completed answers).ses.memory =
      if toU32 (length + payloadMtu - 1) / payloadMtu = 0 then x.requester.ses.memory
      else Reassembly.copyToMemory x.requester.ses.memory x.record.metadata.startAddr
        (Reassembly.readMemory x.responder.ses.memory x.record.metadata.immData length) := by
  have hbytes : x.record.metadata.payloadBytes = length := by
    rw [x.payloadBytes_eq, toU32_of_lt hrange]
  obtain ⟨hresponses, hcarried⟩ := x.responses_of_single hlength hrange hsingle hsize hdelivers
  have harrivals := hanswers.perm
  rw [hresponses, List.perm_singleton] at harrivals
  obtain ⟨a, rfl, hpacket⟩ := List.map_eq_singleton_iff.mp harrivals
  obtain ⟨r', hlive, -, -⟩ := x.ses_dispatched.registered
  have hdata : (x.dispatched.advanceClock a.delayNs).carriesReadData a.packet = true := by
    have hlookup : (x.dispatched.advanceClock a.delayNs).ses.requestStates.lookup
        (packetKey a.packet) = some r' := by
      rw [hpacket, x.packetKey_answer]
      exact hlive.lookup
    unfold carriesReadData
    rw [hlookup, hpacket]
    simp [hlive.live, answer, responseFragment, responseTags, readResponse, pendingResponse]
  have hexpects : (x.dispatched.advanceClock a.delayNs).pdsView.ExpectsRead
      (rxMessageKey .read a.packet.header a.packet.metadata a.pdcId).lookupKey
      ⟨x.record.metadata.startAddr, x.record.metadata.payloadBytes⟩ := by
    have hkey : (rxMessageKey .read a.packet.header a.packet.metadata a.pdcId).lookupKey =
        x.lookupKey := by
      rw [hpacket, lookupKey, ← x.packetKey_answer]
      rfl
    rw [hkey]
    exact ⟨⟨x.expectsRead.idle, x.expectsRead.room⟩, x.expectsRead.target⟩
  have hwhole : a.packet.bytes.length = x.record.metadata.payloadBytes := by
    rw [hpacket, hcarried, Reassembly.length_readMemory, hbytes]
  have hchunks : (x.dispatched.advanceClock a.delayNs).pdsView.computeExpectedChunks
      a.packet.metadata.modifiedLength = toU32 (length + payloadMtu - 1) / payloadMtu := by
    have hmtu : (x.dispatched.advanceClock a.delayNs).pdsView.computePayloadPerPacket =
        payloadMtu := by
      change x.dispatched.pds.computePayloadPerPacket = payloadMtu
      rw [x.pds_dispatched]
      exact x.requesterPdsMtu
    have hmodified : a.packet.metadata.modifiedLength = length := by
      rw [hpacket]
      exact hbytes
    rw [PdsManager.computeExpectedChunks, hmtu, hmodified, if_neg hlength.ne']
  have hoffset : a.packet.metadata.fragmentOffset = 0 := by
    rw [hpacket]
    simp [answer, responseFragment, responseTags, requestTags, toU32]
  have hmemory : (x.dispatched.advanceClock a.delayNs).pdsView.memory = x.requester.ses.memory :=
    x.ses_dispatched.memory
  change (x.dispatched.arrive reliable a).ses.memory = _
  rw [memory_arrive_of_carriesReadData (by rw [hpacket]; rfl) (by rw [hpacket]; rfl) hdata,
    PdsManager.memory_handleIncomingReadResponsePacket hexpects x.startAddr.1 x.startAddr.2
      (hbytes.trans_ne hlength.ne') hwhole hoffset,
    hchunks, hmemory, hpacket, hcarried]

/-! ## A family of exchanges -/

/-- A READ of endpoint 1 for job 7, from address 0 of endpoint 2 to address 1. -/
def sampleReadRecord (length payloadMtu : ℕ) : RequestLifecycleState :=
  let metadata : ExtendedOperationMetadata :=
    { opType := .read
      rkey := 5
      startAddr := 1
      payloadLength := length
      immData := 0
      jobId := 7
      messagesId := 1
      sourceNodeId := 1
      sourceEndpointId := 1
      destNodeId := 2
      destEndpointId := 1 }
  { metadata := metadata
    packet := [0]
    totalPacketCount := metadata.calculatePacketCount payloadMtu }

/-- A requester with that READ. -/
def sampleRequester (length payloadMtu : ℕ) : SoftUeNetDevice where
  ses :=
    { payloadMtu := payloadMtu
      requestStates := AList.insert ⟨7, 1, 2⟩ (sampleReadRecord length payloadMtu) ∅ }
  pds := { payloadMtu := payloadMtu }

/-- A responder whose memory holds ones, with a region of the requested length. -/
def sampleReadResponder (length payloadMtu : ℕ) : SoftUeNetDevice where
  ses :=
    { payloadMtu := payloadMtu
      memoryRegions := AList.insert 5 ⟨0, toU32 length, true, true⟩ ∅
      memory := fun _ => 1 }

/-- The exchange of the two. -/
def sampleExchange {length payloadMtu : ℕ} (hlength : 0 < length) (hmtu : 0 < payloadMtu) :
    ReadExchange length payloadMtu where
  requester := sampleRequester length payloadMtu
  responder := sampleReadResponder length payloadMtu
  key := ⟨7, 1, 2⟩
  record := sampleReadRecord length payloadMtu
  live := ⟨AList.lookup_insert _, rfl⟩
  keyed := rfl
  jobId := by decide
  unlinked := rfl
  isRead := rfl
  payloadLength := rfl
  packetLength := hlength
  packetCount := rfl
  unregistered := rfl
  startAddr := ⟨Nat.one_ne_zero, Nat.one_lt_two_pow (by decide)⟩
  idle := fun _ _ h => by cases h
  room := ⟨Nat.zero_lt_succ _, Nat.zero_lt_succ _⟩
  requesterMtu := if_pos hmtu
  requesterPdsMtu := if_pos hmtu
  mode := rfl
  header := rfl
  access := by
    have hregion : (sampleReadResponder length payloadMtu).ses.memoryRegions.lookup 5 =
        some ⟨0, toU32 length, true, true⟩ := AList.lookup_insert _
    have hallowed : (sampleReadResponder length payloadMtu).ses.allowAllJobs = true := rfl
    simp [validateRmaRequest, validateInboundHeader, requestTags, hregion, hallowed,
      sampleReadRecord, ExtendedOperationMetadata.payloadBytes]
  budget := rfl
  undisturbed := rfl
  responderMtu := if_pos hmtu

end ReadExchange

/-- Packets that arrive in the order in which they were sent. -/
def inOrder (sent : List TaggedPacket) : List Arrival :=
  sent.map fun packet => { pdcId := 1, packet := packet }

theorem delivers_inOrder (sent : List TaggedPacket) : Delivers sent (inOrder sent) := by
  constructor
  · rw [inOrder, List.map_map]
    exact .of_eq (List.map_id _)
  · intro a ha
    obtain ⟨packet, -, rfl⟩ := List.mem_map.mp ha
    exact Nat.ne_of_beq_eq_false rfl

/-! ## The READs that move their data once -/

open ReadExchange

variable {length payloadMtu : ℕ}

/-- A READ of one packet moves its data once. -/
theorem readsMoveOnce_of_single (hlength : 0 < length) (hmtu : 0 < payloadMtu)
    (hfits : length ≤ payloadMtu) (hround : length + payloadMtu - 1 < 2 ^ 32) :
    ReadsMoveOnce length payloadMtu := by
  intro x requested hdelivers answers hanswers
  have hrange : length < 2 ^ 32 := by omega
  have hsize : x.record.packet.length ≤ payloadMtu := x.packetLength.trans hfits
  have hone : toU32 (length + payloadMtu - 1) / payloadMtu = 1 := by
    rw [toU32_of_lt hround]
    exact Nat.div_eq_of_lt_le (by omega) (by omega)
  constructor
  · intro i hi
    rw [x.countP_responses hmtu (by omega) hsize hdelivers,
      x.requestCount_of_single hlength hrange hone.le, toU32_of_lt hrange, if_pos hi]
  · rw [x.memory_completed hlength hrange hone.le hsize hdelivers hanswers, if_neg (by omega)]
    have hread := Reassembly.readMemory_copyToMemory x.requester.ses.memory
      x.record.metadata.startAddr
      (Reassembly.readMemory x.responder.ses.memory x.record.metadata.immData length)
    rwa [Reassembly.length_readMemory] at hread

/-- The exchange of the samples fails when the READ takes more than one packet or
a rounding term wraps around. -/
theorem single_of_readsMoveOnce (hlength : 0 < length) (hmtu : 0 < payloadMtu)
    (hmtuRange : payloadMtu < 2 ^ 32) (h : ReadsMoveOnce length payloadMtu) :
    length ≤ payloadMtu ∧ length + payloadMtu - 1 < 2 ^ 32 := by
  let x := sampleExchange hlength hmtu
  have hmoves := h x _ (delivers_inOrder _) _ (delivers_inOrder _)
  have hsize : x.record.packet.length ≤ payloadMtu := hmtu
  have hcount : ∀ i < length, (x.requestCount * if i < toU32 length then 1 else 0) = 1 := by
    intro i hi
    rw [← x.countP_responses hmtu hmtuRange hsize (delivers_inOrder _)]
    exact hmoves.once i hi
  -- the byte after the last one of the wrapped length is not answered
  have hrange : length < 2 ^ 32 := by
    by_contra hlong
    have hmissing := hcount (toU32 length) ((toU32_lt length).trans_le (not_lt.mp hlong))
    simp at hmissing
  have hone : x.requestCount = 1 := Nat.eq_one_of_mul_eq_one_right (hcount 0 hlength)
  have hsingle : toU32 (length + payloadMtu - 1) / payloadMtu ≤ 1 := by
    unfold requestCount ExtendedOperationMetadata.calculatePacketCount at hone
    rw [x.payloadBytes_eq, toU32_of_lt hrange, if_neg hlength.ne', if_neg hmtu.ne'] at hone
    omega
  have hround : length + payloadMtu - 1 < 2 ^ 32 := by
    by_contra hwrap
    have harrives := hmoves.arrives
    rw [x.memory_completed hlength hrange hsingle hsize (delivers_inOrder _)
      (delivers_inOrder _),
      if_pos (chunks_eq_zero_of_wrap hrange hmtuRange (not_lt.mp hwrap))] at harrives
    have hfirst := congrArg (fun bytes => bytes[0]?) harrives
    simp only [Reassembly.readMemory, List.getElem?_map, List.getElem?_range hlength,
      Option.map_some, Option.some.injEq, Nat.add_zero] at hfirst
    have hbyte : (0 : UInt8) = 1 := hfirst
    exact absurd hbyte (by decide)
  refine ⟨?_, hround⟩
  rw [toU32_of_lt hround] at hsingle
  by_contra hlonger
  have htwo : 2 ≤ (length + payloadMtu - 1) / payloadMtu :=
    (Nat.le_div_iff_mul_le hmtu).mpr (by omega)
  omega

/-- A READ moves its data once exactly when it fits one packet and the rounding
term of the packet count does not wrap around. -/
theorem readsMoveOnce_iff (hlength : 0 < length) (hmtu : 0 < payloadMtu)
    (hmtuRange : payloadMtu < 2 ^ 32) :
    ReadsMoveOnce length payloadMtu ↔
      length ≤ payloadMtu ∧ length + payloadMtu - 1 < 2 ^ 32 := by
  constructor
  · intro h
    exact single_of_readsMoveOnce hlength hmtu hmtuRange h
  · rintro ⟨hfits, hround⟩
    exact readsMoveOnce_of_single hlength hmtu hfits hround

theorem readsMoveOnce_iff_sample :
    ReadsMoveOnce 4 1024 ↔ 4 ≤ 1024 ∧ 4 + 1024 - 1 < 2 ^ 32 :=
  readsMoveOnce_iff (by decide) (by decide) (by decide)

/-- A READ of two bytes in packets of one byte. -/
def twoByteExchange : ReadExchange 2 1 :=
  sampleExchange (Nat.zero_lt_succ 1) Nat.one_pos

/-- It is requested twice, and each of its bytes is answered twice. -/
theorem twoByteExchange_answered_twice :
    (twoByteExchange.responses (inOrder twoByteExchange.requests)).countP
        (carries twoByteExchange.key 0) = 2 ∧ ¬ ReadsMoveOnce 2 1 := by
  have htwice : (twoByteExchange.responses (inOrder twoByteExchange.requests)).countP
      (carries twoByteExchange.key 0) = 2 := by
    decide
  refine ⟨htwice, fun h => ?_⟩
  have hmoves := h twoByteExchange _ (delivers_inOrder _) _ (delivers_inOrder _)
  exact absurd (htwice.symm.trans (hmoves.once 0 (by decide))) (by decide)

end UeSim
