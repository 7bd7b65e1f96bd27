import UeSim.Pds.MessageStages
import UeSim.Ses.SendReception

/-!
# A SEND cut into fragments and put together again

A requester cuts the payload of a SEND into fragments.  The fragments arrive at
an idle receiver in any order, each of them any number of times or never, and a
receive is posted before, between or after them, or not at all.

The receiver is complete with the message exactly when all fragments have
arrived, and it has the payload then, as long as the number of fragments does
not wrap and all fragments arrive on one delivery context.
-/

namespace UeSim

open Reassembly SesManager

/-! ## The message and its receiver -/

/-- A SEND whose recorded length is the size of its packet, the payload size of
a packet at both ends, and the delivery context on which each fragment arrives. -/
structure SendMessage where
  metadata : ExtendedOperationMetadata
  packet : Packet
  mtu : ℕ
  pdcOf : ℕ → ℕ
  isSend : metadata.opType = .send
  recorded : metadata.payloadLength = packet.length
  inWidth : packet.length < 2 ^ 32
  mtu_pos : 0 < mtu
  mtu_lt : mtu < 2 ^ 32

namespace SendMessage

/-- The fragments that `DispatchRequestPackets` emits. -/
def fragments (message : SendMessage) : List TaggedPacket :=
  { metadata := message.metadata
    packet := message.packet
    payloadPerPacket := message.mtu : SendAttempt }.fragments

/-- The key of the receive context of the message on a delivery context. -/
def key (message : SendMessage) (pdcId : ℕ) : RxMessageKey :=
  rxMessageKey .send (requestTags message.metadata 0).1 (requestTags message.metadata 0).2 pdcId

end SendMessage

/-- A receiver, with the fragments that have arrived and the receive that was
posted. -/
structure SendTrip where
  pds : PdsManager
  arrived : List ℕ := []
  target : Option PostedReceiveBinding := none

/-- What can happen to a SEND on its way. -/
inductive TripAction
  /-- A fragment arrives. -/
  | arrive (i : ℕ)
  /-- The application posts a receive. -/
  | post (baseAddr length : ℕ)
  /-- Simulated time passes. -/
  | advance (deltaNs : ℕ)

/-- An idle receiver with the MTU of the sender and with resources for the
message. -/
structure Receptive (message : SendMessage) (s : PdsManager) : Prop where
  idle : s.Idle
  payloadMtu : s.payloadMtu = message.mtu
  arrivalBlock : s.receivePool.lacksArrivalBlock = false
  buffer : s.receivePool.lacksUnexpectedResources message.packet.length = false

namespace SendTrip

/-- One action of the trip.  One receive is posted, with a range of memory as its
target, and no receive context is idle until it expires. -/
def tripStep (message : SendMessage) (x : SendTrip) : TripAction → Option SendTrip
  | .arrive i => message.fragments[i]?.map fun fragment =>
      { x with
        pds := x.pds.pdsStep (.sendPacket (message.pdcOf i) fragment)
        arrived := i :: x.arrived }
  | .post baseAddr length =>
      if x.target = none ∧ baseAddr ≠ 0 ∧ baseAddr < 2 ^ 64 ∧ baseAddr + length ≤ 2 ^ 64 then
        some { x with
          pds := x.pds.pdsStep (.postReceive (message.key 0).lookupKey baseAddr length)
          target := some { baseAddr := baseAddr, length := length } }
      else none
  | .advance deltaNs =>
      if (x.pds.pdsStep (.advanceClock deltaNs)).NothingExpires then
        some { x with pds := x.pds.pdsStep (.advanceClock deltaNs) }
      else none

/-- The transition system of one SEND to the receiver `s`. -/
def tripSystem (message : SendMessage) (s : PdsManager) :
    TransitionSystem SendTrip TripAction where
  init x := x = { pds := s }
  step := tripStep message

variable {message : SendMessage} {s : PdsManager} {x x' : SendTrip}

/-! ## The property -/

/-- A receive context has all chunks of the message. -/
def Complete (message : SendMessage) (x : SendTrip) : Prop :=
  ∃ pdcId context, x.pds.rxMessageContexts.lookup (message.key pdcId) = some context ∧
    context.bufferedComplete = true

/-- The payload is in the target, as far as it fits, or in the buffer of an
unexpected message. -/
def Delivered (message : SendMessage) (x : SendTrip) : Prop :=
  match x.target with
  | some posted =>
      readMemory x.pds.memory posted.baseAddr (min posted.length message.packet.length) =
        message.packet.take posted.length
  | none =>
      ∃ pdcId context, x.pds.rxMessageContexts.lookup (message.key pdcId) = some context ∧
        context.mode = .unexpectedBuffered ∧ context.payloadBuffer = message.packet

/-- The message is complete exactly when each fragment has arrived at least
once, and its payload is delivered then. -/
structure RoundTrip (message : SendMessage) (x : SendTrip) : Prop where
  complete : Complete message x ↔ ∀ i, i < message.fragments.length → i ∈ x.arrived
  delivered : Complete message x → Delivered message x

end SendTrip

/-! ## The fragments of a message -/

namespace SendMessage

variable {message : SendMessage} {i : ℕ}

/-- The number of chunks is computed without a wrap. -/
def Fits (message : SendMessage) : Prop :=
  message.packet.length + message.mtu - 1 < 2 ^ 32

/-- The number of chunks that a receiver expects; the rounding term can wrap. -/
def expected (message : SendMessage) : ℕ :=
  if message.packet.length = 0 then 1
  else toU32 (message.packet.length + message.mtu - 1) / message.mtu

theorem payloadBytes_eq (message : SendMessage) :
    message.metadata.payloadBytes = message.packet.length := by
  rw [ExtendedOperationMetadata.payloadBytes, message.recorded, toU32_of_lt message.inWidth]

theorem calculatePacketCount_eq (message : SendMessage) :
    message.metadata.calculatePacketCount message.mtu = message.expected := by
  have hpos := message.mtu_pos
  unfold ExtendedOperationMetadata.calculatePacketCount expected
  rw [message.payloadBytes_eq]
  by_cases hempty : message.packet.length = 0
  · rw [if_pos hempty, if_pos hempty]
  · rw [if_neg hempty, if_neg hempty, if_neg (by omega)]

theorem length_fragments (message : SendMessage) :
    message.fragments.length = max 1 message.expected := by
  unfold fragments SendAttempt.fragments requestFragments
  rw [List.length_map, List.length_range, message.calculatePacketCount_eq]

/-- Where the sum wraps, the receiver expects no chunk. -/
theorem expected_eq_zero_iff (message : SendMessage) :
    message.expected = 0 ↔ ¬message.Fits := by
  have hpos := message.mtu_pos
  have hmtu := message.mtu_lt
  have hlength := message.inWidth
  unfold expected Fits
  by_cases hempty : message.packet.length = 0
  · rw [if_pos hempty]
    omega
  · rw [if_neg hempty, Nat.div_eq_zero_iff]
    unfold toU32
    omega

theorem Fits.expected_eq (hfits : message.Fits) :
    message.expected = chunkCount message.packet.length message.mtu := by
  unfold expected chunkCount
  rw [toU32_of_lt hfits]

theorem Fits.length_fragments (hfits : message.Fits) :
    message.fragments.length = chunkCount message.packet.length message.mtu := by
  have hpos : 0 < chunkCount message.packet.length message.mtu := chunkCount_pos message.mtu_pos
  rw [message.length_fragments, hfits.expected_eq]
  exact Nat.max_eq_right hpos

/-- A fragment of the message. -/
theorem getElem_fragments {fragment : TaggedPacket} (h : message.fragments[i]? = some fragment) :
    i < message.fragments.length ∧
      fragment = requestFragment message.metadata message.packet message.mtu
        message.fragments.length i := by
  have hi : i < message.fragments.length := (List.getElem?_eq_some_iff.mp h).1
  refine ⟨hi, ?_⟩
  have hcount := message.length_fragments
  rw [← message.calculatePacketCount_eq] at hcount
  rw [hcount] at hi ⊢
  unfold fragments SendAttempt.fragments requestFragments at h
  rw [List.getElem?_map, List.getElem?_range hi, Option.map_some, Option.some.injEq] at h
  exact h.symm

/-- All fragments on one delivery context belong to one receive context. -/
theorem key_fragment {fragment : TaggedPacket} (h : message.fragments[i]? = some fragment)
    (pdcId : ℕ) :
    rxMessageKey .send fragment.header fragment.metadata pdcId = message.key pdcId :=
  SendAttempt.key_fragment h pdcId

theorem requestLength_fragment {fragment : TaggedPacket}
    (h : message.fragments[i]? = some fragment) :
    fragment.metadata.requestLength = message.packet.length :=
  (SendAttempt.requestLength_fragment h).trans message.payloadBytes_eq

/-- Fragment `i` carries chunk `i`. -/
theorem Fits.isChunk (hfits : message.Fits) {fragment : TaggedPacket}
    (h : message.fragments[i]? = some fragment) :
    IsChunk message.packet message.mtu i fragment.metadata fragment.bytes := by
  obtain ⟨hi, hfragment⟩ := getElem_fragments h
  have hlength := message.inWidth
  rw [hfits.length_fragments] at hi hfragment
  have hinside : i * message.mtu ≤ message.packet.length := by
    by_cases hempty : message.packet.length = 0
    · have hfirst : i = 0 := by
        rw [hempty, chunkCount, if_pos rfl] at hi
        omega
      rw [hfirst, Nat.zero_mul]
      exact Nat.zero_le _
    · exact (mul_lt_of_lt_chunkCount message.mtu_pos hi (Nat.pos_of_ne_zero hempty)).le
  have hoffset : toU32 (i * message.mtu) = i * message.mtu := toU32_of_lt (by omega)
  have hrest : subU32 message.packet.length (i * message.mtu) =
      message.packet.length - i * message.mtu := subU32_of_le hlength hinside
  have hsend : message.metadata.opType ≠ .read := by
    rw [message.isSend]
    simp
  refine ⟨?_, ?_, ?_⟩
  · rw [hfragment]
    exact message.payloadBytes_eq
  · rw [hfragment]
    exact hoffset
  · rw [hfragment]
    unfold requestFragment
    dsimp only
    rw [hoffset, message.payloadBytes_eq, hrest]
    by_cases hone : chunkCount message.packet.length message.mtu = 1
    · have hfirst : i = 0 := by omega
      have hshort := le_of_chunkCount_eq_one message.mtu_pos hone
      rw [if_pos (.inl hone), hfirst, Nat.zero_mul, slice, List.drop_zero,
        List.take_of_length_le hshort]
    · rw [if_neg (by simp [hone, hsend]), Packet.createFragment, if_pos (by omega), slice,
        ← List.length_drop, List.take_eq_take_iff, List.length_drop]
      omega

/-- The message as its receive context sees it. -/
def Fits.incoming (hfits : message.Fits) : IncomingMessage where
  key := message.key (message.pdcOf 0)
  payload := message.packet
  mtu := message.mtu
  isSend := rfl
  mtu_pos := message.mtu_pos
  fits := hfits

end SendMessage

/-! ## Fragments on one delivery context -/

namespace SendTrip

open PdsManager

variable {message : SendMessage} {s : PdsManager} {x x' : SendTrip}

/-- How far the trip is, as a stage of the message at its receiver. -/
def InStage (hfits : message.Fits) (x : SendTrip) : Prop :=
  Stage hfits.incoming x.target (fun j => j ∈ x.arrived) x.pds

theorem Receptive.inStage (hfits : message.Fits) (h : Receptive message s) :
    InStage hfits { pds := s } := by
  have hunremembered : s.completedSend (message.key (message.pdcOf 0)) = none := by
    rw [completedSend, h.idle.completedSendTombstones, h.idle.completedSendLookupTombstones]
    rfl
  have hposted : s.postedReceives.lookup (message.key (message.pdcOf 0)).lookupKey = none := by
    rw [h.idle.postedReceives]
    rfl
  exact .awaits ⟨⟨h.payloadMtu, hunremembered, fun _ hnone => by cases hnone⟩, hposted,
    h.idle.rxMessageContexts, h.arrivalBlock, h.buffer, fun _ => List.not_mem_nil⟩

/-- Every action keeps the trip within the stages of the message. -/
theorem InStage.step {hfits : message.Fits} {a : TripAction}
    (hpdc : ∀ i, i < message.fragments.length → message.pdcOf i = message.pdcOf 0)
    (h : InStage hfits x) (hstep : tripStep message x a = some x') : InStage hfits x' := by
  cases a with
  | arrive i =>
      obtain ⟨fragment, hfragment, rfl⟩ := Option.map_eq_some_iff.mp hstep
      obtain ⟨hi, -⟩ := SendMessage.getElem_fragments hfragment
      have hkey : rxMessageKey .send fragment.header fragment.metadata (message.pdcOf i) =
          hfits.incoming.key := by
        rw [SendMessage.key_fragment hfragment, hpdc i hi]
        rfl
      have hcount : i < hfits.incoming.count := hi.trans_eq hfits.length_fragments
      have harrived : (fun j => j ∈ i :: x.arrived) = fun j => j ∈ x.arrived ∨ j = i := by
        funext j
        rw [List.mem_cons, or_comm]
      unfold InStage
      dsimp only
      rw [harrived]
      exact h.handleIncomingSendPacket hkey (hfits.isChunk hfragment) hcount
  | post baseAddr length =>
      have hstep : (if x.target = none ∧ baseAddr ≠ 0 ∧ baseAddr < 2 ^ 64 ∧
          baseAddr + length ≤ 2 ^ 64 then _ else none) = some x' := hstep
      split_ifs at hstep with hpost
      obtain ⟨htarget, hnonzero, hmemory, hinside⟩ := hpost
      cases hstep
      have hstage : Stage hfits.incoming none (fun j => j ∈ x.arrived) x.pds := htarget ▸ h
      exact hstage.registerPostedReceive ⟨hnonzero, hmemory, hinside⟩
  | advance deltaNs =>
      have hstep : (if (x.pds.pdsStep (.advanceClock deltaNs)).NothingExpires then _ else none) =
          some x' := hstep
      split_ifs at hstep with hexpires
      cases hstep
      exact Stage.advanceClock h hexpires

/-- In every stage the message makes its round trip. -/
theorem InStage.roundTrip {hfits : message.Fits} (h : InStage hfits x) : RoundTrip message x := by
  have hpos : 0 < hfits.incoming.count := chunkCount_pos message.mtu_pos
  have hlength : message.fragments.length = hfits.incoming.count := hfits.length_fragments
  have hposition (i : ℕ) (hi : i < message.packet.length) :
      i / message.mtu < hfits.incoming.count := div_lt_chunkCount message.mtu_pos hi
  have hsingle {context : RxMessageContext}
      (hmap : x.pds.rxMessageContexts = AList.singleton hfits.incoming.key context) :
      Complete message x ↔ context.bufferedComplete = true := by
    constructor
    · rintro ⟨pdcId, context', hlookup, hcomplete⟩
      rw [hmap] at hlookup
      cases List.mem_singleton.mp (AList.mem_lookup_iff.mp hlookup)
      exact hcomplete
    · intro hcomplete
      refine ⟨message.pdcOf 0, context, ?_, hcomplete⟩
      rw [hmap, ← AList.insert_empty]
      exact AList.lookup_insert _
  cases h with
  | awaits h =>
      have hnone : ¬Complete message x := by
        rintro ⟨pdcId, context, hlookup, -⟩
        rw [h.rxMessageContexts] at hlookup
        cases hlookup
      refine ⟨iff_of_false hnone fun hall => ?_, fun hcomplete => absurd hcomplete hnone⟩
      exact h.nothing 0 (hall 0 (hlength ▸ hpos))
  | gathers context h =>
      have hall : context.bufferedComplete = true ↔
          ∀ i, i < message.fragments.length → i ∈ x.arrived := by
        rw [h.records.bufferedComplete, h.expectedChunks, hlength]
        exact and_iff_right hpos
      refine ⟨(hsingle h.rxMessageContexts).trans hall, fun hcomplete => ?_⟩
      have hdone := (hsingle h.rxMessageContexts).mp hcomplete
      have hnone := h.awaited.resolve_right (by simp [hdone])
      have hplaces := h.places
      rw [hnone] at hplaces
      obtain ⟨hmode, -, hbuffers⟩ := hplaces
      unfold Delivered
      rw [hnone]
      refine ⟨message.pdcOf 0, context, ?_, hmode, ?_⟩
      · rw [h.rxMessageContexts, ← AList.insert_empty]
        exact AList.lookup_insert _
      · exact BufferHolds.eq hbuffers fun i hi =>
          hall.mp hdone _ (hlength ▸ hposition i hi)
  | finished context h =>
      have hcomplete := (hsingle h.rxMessageContexts).mpr h.bufferedComplete
      refine ⟨iff_of_true hcomplete fun i hi => h.complete i (hlength ▸ hi), fun _ => ?_⟩
      obtain ⟨posted, htarget, hfills⟩ := h.filled
      unfold Delivered
      rw [htarget]
      exact hfills.readMemory_eq posted.length fun i hi hi' =>
        ⟨h.complete _ (hposition i hi'), hi⟩

/-! ## Fragments on several delivery contexts -/

/-- A context of the message on one delivery context, for which no receive is
posted, has recorded fragments of that delivery context only. -/
structure Buffered (message : SendMessage) (pdcId : ℕ) (context : RxMessageContext) : Prop where
  keyed : context.key = message.key pdcId
  mode : context.mode = .unexpectedBuffered
  noTarget : context.targetBaseAddr = 0
  accepted : context.semanticAccepted = true
  expectedChunks : context.expectedChunks = message.expected
  records : ∃ A : ℕ → Prop, context.Records message.packet message.mtu A ∧
    ∀ j, A j → message.pdcOf j = pdcId

/-- A context that is complete has all fragments on its delivery context. -/
structure Alone (message : SendMessage) (pdcId : ℕ) (context : RxMessageContext) : Prop where
  complete : context.bufferedComplete = true →
    0 < message.expected ∧ ∀ j, j < message.expected → message.pdcOf j = pdcId
  active : context.retired = false → Buffered message pdcId context

/-- A receiver with no posted receive and no memory of completed messages. -/
structure Unposted (message : SendMessage) (s : PdsManager) : Prop where
  payloadMtu : s.payloadMtu = message.mtu
  completedSendTombstones : s.completedSendTombstones = ∅
  completedSendLookupTombstones : s.completedSendLookupTombstones = ∅
  postedReceives : s.postedReceives = ∅
  contexts : ∀ pdcId context, s.rxMessageContexts.lookup (message.key pdcId) = some context →
    Alone message pdcId context

theorem Buffered.alone {pdcId : ℕ} {context : RxMessageContext}
    (h : Buffered message pdcId context) : Alone message pdcId context := by
  refine ⟨fun hcomplete => ?_, fun _ => h⟩
  obtain ⟨A, hrecords, hA⟩ := h.records
  obtain ⟨hpos, hall⟩ := hrecords.bufferedComplete.mp hcomplete
  rw [h.expectedChunks] at hpos hall
  exact ⟨hpos, fun j hj => hA j (hall j hj)⟩

theorem Buffered.answered {pdcId : ℕ} {context : RxMessageContext}
    (h : Buffered message pdcId context) (sent : Bool) :
    Buffered message pdcId { context with responseSent := sent } := by
  obtain ⟨A, hrecords, hA⟩ := h.records
  exact ⟨h.keyed, h.mode, h.noTarget, h.accepted, h.expectedChunks, A,
    ⟨hrecords.totalLength, hrecords.payloadPerPacket, hrecords.length, hrecords.arrived,
      hrecords.chunksDone, hrecords.bufferedComplete⟩, hA⟩

/-- A fragment is recorded on its own delivery context. -/
theorem Buffered.store {i : ℕ} {context : RxMessageContext} {fragment : TaggedPacket}
    (h : Buffered message (message.pdcOf i) context)
    (hfragment : message.fragments[i]? = some fragment) (s : PdsManager) :
    Buffered message (message.pdcOf i)
      (s.storeChunkInContext context fragment.metadata fragment.bytes).2 := by
  obtain ⟨A, hrecords, hA⟩ := h.records
  cases hslot : context.chunkArrived[context.chunkIndex fragment.metadata]? with
  | none =>
      have hsame : (s.storeChunkInContext context fragment.metadata fragment.bytes).2 =
          context := by
        unfold storeChunkInContext
        rw [hslot]
      rw [hsame]
      exact h
  | some arrived =>
      have hexpected : message.expected ≠ 0 := by
        intro hzero
        have hlt := (List.getElem?_eq_some_iff.mp hslot).1
        rw [hrecords.length, h.expectedChunks, hzero] at hlt
        exact absurd hlt (Nat.not_lt_zero _)
      have hfits : message.Fits :=
        not_not.mp fun hnot => hexpected (message.expected_eq_zero_iff.mpr hnot)
      have hchunk := hfits.isChunk hfragment
      have hindex : context.chunkIndex fragment.metadata = i :=
        RxMessageContext.chunkIndex_of_isChunk hchunk message.mtu_pos hrecords.payloadPerPacket
      rw [hindex] at hslot
      rw [storeChunkInContext_of_slot message.mtu_pos hrecords.payloadPerPacket hchunk hslot]
      refine ⟨h.keyed, h.mode, h.noTarget, h.accepted, h.expectedChunks, _,
        hrecords.chunkStored message.mtu_pos hchunk s.nowMs hslot, ?_⟩
      rintro j (hold | rfl)
      · exact hA j hold
      · rfl

/-- A context that opens for a fragment is buffered. -/
theorem buffered_acceptUnexpected (hmtu : s.payloadMtu = message.mtu) (pdcId : ℕ) :
    Buffered message pdcId
      { s.freshContext (message.key pdcId) message.packet.length with
        arrivalReserved := true
        unexpectedReserved := true }.acceptUnexpected := by
  have hrecords := records_freshContext s (message.key pdcId) message.packet hmtu message.mtu_pos
  have hcapacity : s.computePayloadPerPacket = message.mtu := hrecords.payloadPerPacket
  have hexpected : s.computeExpectedChunks message.packet.length = message.expected := by
    rw [computeExpectedChunks, hcapacity]
    rfl
  exact ⟨rfl, rfl, rfl, rfl, hexpected, fun _ => False,
    ⟨rfl, hrecords.payloadPerPacket, hrecords.length, hrecords.arrived, hrecords.chunksDone,
      hrecords.bufferedComplete⟩, fun _ => False.elim⟩

theorem bufferedComplete_of_admitUnexpected_error {pool : RudReceiveResourcePool}
    {context : RxMessageContext} {refusal : SendRefusal}
    (h : admitUnexpected pool context = .error refusal) :
    refusal.context.bufferedComplete = context.bufferedComplete := by
  unfold admitUnexpected at h
  split at h
  · cases h
    rfl
  · rename_i pool' context' hblock
    obtain ⟨-, hcontext⟩ := RudReceiveResourcePool.reserveArrivalBlock_eq_some hblock
    split at h
    · cases h
      rw [hcontext]
    · cases h

theorem Alone.prune {nowMs ttl pdcId : ℕ} {context context' : RxMessageContext}
    (h : Alone message pdcId context) (hprune : context.prune nowMs ttl = some context') :
    Alone message pdcId context' := by
  unfold RxMessageContext.prune at hprune
  dsimp only at hprune
  split_ifs at hprune
  · cases hprune
    exact ⟨h.complete, fun hactive => by cases hactive⟩
  · cases hprune
    exact h

theorem Unposted.prune (h : Unposted message s) : Unposted message s.pruneReceiveState := by
  refine ⟨h.payloadMtu, ?_, ?_, ?_, ?_⟩
  · unfold pruneReceiveState
    dsimp only
    rw [h.completedSendTombstones]
    rfl
  · unfold pruneReceiveState
    dsimp only
    rw [h.completedSendLookupTombstones]
    rfl
  · unfold pruneReceiveState
    dsimp only
    rw [h.postedReceives]
    rfl
  · intro pdcId context hlookup
    unfold pruneReceiveState at hlookup
    dsimp only at hlookup
    rw [KeyedMap.lookup_filterMap] at hlookup
    obtain ⟨old, hold, hprune⟩ := Option.bind_eq_some_iff.mp hlookup
    exact (h.contexts pdcId old hold).prune hprune

/-- A context is written back. -/
theorem Unposted.setContext {pdcId : ℕ} {context : RxMessageContext} (h : Unposted message s)
    (hcontext : Alone message pdcId context) :
    Unposted message (s.setContext (message.key pdcId) context) := by
  refine ⟨h.payloadMtu, h.completedSendTombstones, h.completedSendLookupTombstones,
    h.postedReceives, fun pdcId' context' hlookup => ?_⟩
  unfold PdsManager.setContext at hlookup
  by_cases hsame : message.key pdcId' = message.key pdcId
  · have hpdc : pdcId' = pdcId := congrArg RxMessageKey.pdcId hsame
    subst hpdc
    cases (AList.lookup_insert _).symm.trans hlookup
    exact hcontext
  · exact h.contexts pdcId' context' ((AList.lookup_insert_ne hsame).symm.trans hlookup)

/-- An admitted fragment is stored in its context. -/
theorem Unposted.store {i : ℕ} {context : RxMessageContext} {fragment : TaggedPacket}
    (h : Unposted message s) (hbuffered : Buffered message (message.pdcOf i) context)
    (hfragment : message.fragments[i]? = some fragment) (sent : Bool) :
    Unposted message
      ((s.storeSend (message.key (message.pdcOf i)) context fragment.metadata
        fragment.bytes).1.setContext (message.key (message.pdcOf i))
        { (s.storeSend (message.key (message.pdcOf i)) context fragment.metadata
            fragment.bytes).2 with responseSent := sent }) := by
  have hposted : s.postedReceive context.key.lookupKey = none := by
    rw [postedReceive, h.postedReceives]
    rfl
  rw [storeSend_unmatched hbuffered.mode hbuffered.noTarget hposted]
  exact h.setContext ((hbuffered.store hfragment s).answered sent).alone

/-- A fragment arrives on its delivery context. -/
theorem Unposted.receiveSend {i : ℕ} {fragment : TaggedPacket} (h : Unposted message s)
    (hfragment : message.fragments[i]? = some fragment) :
    Unposted message (s.receiveSend (message.key (message.pdcOf i)) fragment.metadata
      fragment.bytes).1 := by
  have hunremembered : s.completedSend (message.key (message.pdcOf i)) = none := by
    rw [completedSend, h.completedSendTombstones, h.completedSendLookupTombstones]
    rfl
  have hposted : s.postedReceive (message.key (message.pdcOf i)).lookupKey = none := by
    rw [postedReceive, h.postedReceives]
    rfl
  have hpool (pool : RudReceiveResourcePool) : Unposted message { s with receivePool := pool } :=
    ⟨h.payloadMtu, h.completedSendTombstones, h.completedSendLookupTombstones, h.postedReceives,
      h.contexts⟩
  unfold PdsManager.receiveSend sendContext
  rw [hunremembered, SendMessage.requestLength_fragment hfragment]
  dsimp only
  cases hactive : (s.rxMessageContexts.lookup (message.key (message.pdcOf i))).filter
      fun context => !context.retired with
  | some context =>
      obtain ⟨hlookup, hopen⟩ := Option.filter_eq_some_iff.mp hactive
      have hbuffered := (h.contexts _ context hlookup).active (by simpa using hopen)
      rw [Option.getD_some, admitSend_of_accepted hposted hbuffered.accepted]
      exact (hpool s.receivePool).store hbuffered hfragment _
  | none =>
      rw [Option.getD_none]
      cases hadmission : s.admitSend (message.key (message.pdcOf i)).lookupKey
          (s.freshContext (message.key (message.pdcOf i)) message.packet.length) with
      | ok admission =>
          obtain ⟨-, -, hcontext⟩ := admitSend_ok hadmission
          have hbuffered : Buffered message (message.pdcOf i) admission.context := by
            rw [hcontext, admittedContext, hposted]
            exact buffered_acceptUnexpected h.payloadMtu _
          exact (hpool admission.pool).store hbuffered hfragment _
      | error refusal =>
          have herror : admitUnexpected s.receivePool
              (s.freshContext (message.key (message.pdcOf i)) message.packet.length) =
              .error refusal := by
            rw [admitSend, hposted] at hadmission
            exact hadmission
          have hincomplete : refusal.context.bufferedComplete = false :=
            bufferedComplete_of_admitUnexpected_error herror
          dsimp only
          unfold retireContextResources
          split_ifs with hretired
          · exact (hpool refusal.pool).setContext
              ⟨fun hcomplete => absurd hcomplete (by simp [hincomplete]),
                fun hopen => by cases hretired.symm.trans hopen⟩
          · exact (hpool _).setContext
              ⟨fun hcomplete => absurd hcomplete (by simp [hincomplete, RxMessageContext.retire]),
                fun hopen => by cases hopen⟩

/-- Fragments can arrive one after the other, up to any number, while no receive
is posted. -/
theorem exists_arrivals (hready : Receptive message s) {n : ℕ}
    (hn : n ≤ message.fragments.length) :
    ∃ x, (tripSystem message s).Reachable x ∧ Unposted message x.pds ∧
      ∀ i, i < n → i ∈ x.arrived := by
  induction n with
  | zero =>
      refine ⟨{ pds := s }, .init rfl, ⟨hready.payloadMtu, hready.idle.completedSendTombstones,
        hready.idle.completedSendLookupTombstones, hready.idle.postedReceives, ?_⟩, ?_⟩
      · intro pdcId context hlookup
        rw [hready.idle.rxMessageContexts] at hlookup
        cases hlookup
      · intro i hi
        exact absurd hi (Nat.not_lt_zero i)
  | succ n ih =>
      obtain ⟨x, hreach, hunposted, harrived⟩ := ih (Nat.le_of_succ_le hn)
      have hfragment := List.getElem?_eq_getElem hn
      have hstep : (tripSystem message s).step x (.arrive n) = some _ :=
        congrArg (Option.map _) hfragment
      refine ⟨_, .step (.arrive n) hreach trivial hstep, ?_, ?_⟩
      · have hreceived := hunposted.prune.receiveSend hfragment
        rw [← SendMessage.key_fragment hfragment] at hreceived
        exact hreceived
      · intro i hi
        rcases Nat.lt_succ_iff_lt_or_eq.mp hi with hbefore | rfl
        · exact List.mem_cons_of_mem n (harrived i hbefore)
        · exact List.mem_cons_self

/-! ## The round trip -/

/-- A SEND makes its round trip in every run exactly when its number of chunks
does not wrap and all of its fragments arrive on one delivery context. -/
theorem roundTrip_iff (message : SendMessage) {s : PdsManager} (hready : Receptive message s) :
    (∀ x, (tripSystem message s).Reachable x → RoundTrip message x) ↔
      message.packet.length + message.mtu - 1 < 2 ^ 32 ∧
        ∀ i, i < message.fragments.length → message.pdcOf i = message.pdcOf 0 := by
  constructor
  · intro hall
    obtain ⟨x, hreach, hunposted, harrived⟩ := exists_arrivals hready le_rfl
    obtain ⟨pdcId, context, hlookup, hcomplete⟩ := (hall x hreach).complete.mpr harrived
    obtain ⟨hpos, halone⟩ := (hunposted.contexts pdcId context hlookup).complete hcomplete
    have hfits : message.Fits :=
      not_not.mp fun hnot => hpos.ne' (message.expected_eq_zero_iff.mpr hnot)
    refine ⟨hfits, fun i hi => ?_⟩
    rw [hfits.length_fragments, ← hfits.expected_eq] at hi
    rw [halone i hi, halone 0 hpos]
  · rintro ⟨hfits, hpdc⟩ x hreach
    have hstage : InStage hfits x := by
      refine hreach.invariant ?_ ?_
      · rintro _ rfl
        exact Receptive.inStage hfits hready
      · intro x a x' h _ hstep
        exact h.step hpdc hstep
    exact hstage.roundTrip

/-- A SEND of three bytes in fragments of at most two. -/
def sampleMessage : SendMessage where
  metadata := { sampleSend 2 1 with payloadLength := 3 }
  packet := [1, 2, 3]
  mtu := 2
  pdcOf := fun _ => 1
  isSend := rfl
  recorded := rfl
  inWidth := by decide
  mtu_pos := by decide
  mtu_lt := by decide

theorem receptive_sampleMessage : Receptive sampleMessage { payloadMtu := 2 } :=
  ⟨idle_of_payloadMtu 2, rfl, rfl, rfl⟩

/-- The theorem at work: the last fragment first, a receive in between that is
too short for the payload. -/
theorem roundTrip_sampleMessage :
    ∃ x, (tripSystem sampleMessage { payloadMtu := 2 }).runActions { pds := { payloadMtu := 2 } }
      [.arrive 1, .post 100 2, .advance 1000, .arrive 0, .arrive 1] = some x ∧
        RoundTrip sampleMessage x := by
  obtain ⟨x, hrun⟩ : ∃ x, (tripSystem sampleMessage { payloadMtu := 2 }).runActions
      { pds := { payloadMtu := 2 } }
      [.arrive 1, .post 100 2, .advance 1000, .arrive 0, .arrive 1] = some x := ⟨_, rfl⟩
  have hreach : (tripSystem sampleMessage { payloadMtu := 2 }).Reachable x :=
    TransitionSystem.ReachableBy.runActions (.init rfl) (fun _ _ _ => trivial) hrun
  have hall := (roundTrip_iff sampleMessage receptive_sampleMessage).mpr
    ⟨by decide, fun _ _ => rfl⟩
  exact ⟨x, hrun, hall x hreach⟩

/-- A SEND of two bytes, where the largest MTU makes the number of chunks wrap. -/
def wrappedMessage : SendMessage where
  metadata := { sampleSend 2 1 with payloadLength := 2 }
  packet := [1, 2]
  mtu := 2 ^ 32 - 1
  pdcOf := fun _ => 1
  isSend := rfl
  recorded := rfl
  inWidth := by decide
  mtu_pos := by decide
  mtu_lt := by decide

/-- A SEND of two bytes, whose fragments have a delivery context each. -/
def scatteredMessage : SendMessage where
  metadata := { sampleSend 2 1 with deliveryMode := 2, payloadLength := 2 }
  packet := [1, 2]
  mtu := 1
  pdcOf := fun i => i + 1
  isSend := rfl
  recorded := rfl
  inWidth := by decide
  mtu_pos := by decide
  mtu_lt := by decide

theorem not_roundTrip (harrived : ∀ i, i < message.fragments.length → i ∈ x.arrived)
    (hincomplete : ∀ e ∈ x.pds.rxMessageContexts.entries, e.2.bufferedComplete = false) :
    ¬RoundTrip message x := by
  intro h
  obtain ⟨pdcId, context, hlookup, hcomplete⟩ := h.complete.mpr harrived
  have hfalse := hincomplete _ (AList.mem_lookup_iff.mp hlookup)
  cases hcomplete.symm.trans hfalse

/-- All fragments arrive, and no receive context is complete: not with a number
of chunks that wraps, and not with fragments on two delivery contexts. -/
theorem roundTrip_fails :
    (Receptive wrappedMessage { payloadMtu := 2 ^ 32 - 1 } ∧
      ∃ x, (tripSystem wrappedMessage { payloadMtu := 2 ^ 32 - 1 }).Reachable x ∧
        ¬RoundTrip wrappedMessage x) ∧
    (Receptive scatteredMessage { payloadMtu := 1 } ∧
      ∃ x, (tripSystem scatteredMessage { payloadMtu := 1 }).Reachable x ∧
        ¬RoundTrip scatteredMessage x) := by
  refine ⟨⟨⟨idle_of_payloadMtu _, rfl, rfl, rfl⟩, ?_⟩, ⟨idle_of_payloadMtu _, rfl, rfl, rfl⟩, ?_⟩
  · obtain ⟨x, hrun⟩ : ∃ x, (tripSystem wrappedMessage { payloadMtu := 2 ^ 32 - 1 }).runActions
        { pds := { payloadMtu := 2 ^ 32 - 1 } } [.arrive 0] = some x := ⟨_, rfl⟩
    refine ⟨x, TransitionSystem.ReachableBy.runActions (.init rfl) (fun _ _ _ => trivial) hrun, ?_⟩
    cases hrun
    exact not_roundTrip (by decide) (by decide)
  · obtain ⟨x, hrun⟩ : ∃ x, (tripSystem scatteredMessage { payloadMtu := 1 }).runActions
        { pds := { payloadMtu := 1 } } [.arrive 0, .arrive 1] = some x := ⟨_, rfl⟩
    refine ⟨x, TransitionSystem.ReachableBy.runActions (.init rfl) (fun _ _ _ => trivial) hrun, ?_⟩
    cases hrun
    exact not_roundTrip (by decide) (by decide)

end SendTrip
end UeSim
