import UeSim.Pds.Gathering

/-!
# A message from its first fragment to its last

The receive side of one SEND whose fragments arrive on one delivery context.
The message is awaited until its first fragment arrives, then it gathers its
chunks, and it is finished as soon as all chunks have arrived and a receive is
posted for it.
-/

namespace UeSim

open Reassembly

/-- A SEND as a receiver sees it: the key of its context, its payload, and the
size at which the payload is cut.  The number of chunks does not wrap. -/
structure IncomingMessage where
  key : RxMessageKey
  payload : Packet
  mtu : ℕ
  isSend : key.opcode = .send
  mtu_pos : 0 < mtu
  fits : payload.length + mtu - 1 < 2 ^ 32

/-- The number of chunks of a message. -/
def IncomingMessage.count (m : IncomingMessage) : ℕ := chunkCount m.payload.length m.mtu

namespace PdsManager

variable {m : IncomingMessage} {target : Option PostedReceiveBinding} {A A' : ℕ → Prop}
  {s : PdsManager} {context : RxMessageContext} {posted : PostedReceiveBinding} {k : ℕ}
  {tag : SoftUeMetadataTag} {packet : Packet}

/-! ## The stages -/

/-- The receiver cuts payloads as the sender does, the message is not remembered
as completed, and its target is a range of memory. -/
structure Expects (m : IncomingMessage) (target : Option PostedReceiveBinding)
    (s : PdsManager) : Prop where
  payloadMtu : s.payloadMtu = m.mtu
  unremembered : s.completedSend m.key = none
  isTarget : ∀ posted, target = some posted →
    IsTarget posted.baseAddr posted.length ∧ posted.consumed = false

/-- Nothing of the message has arrived, and there are resources for it. -/
structure Awaits (m : IncomingMessage) (target : Option PostedReceiveBinding) (A : ℕ → Prop)
    (s : PdsManager) : Prop extends Expects m target s where
  posted : s.postedReceives.lookup m.key.lookupKey = target
  rxMessageContexts : s.rxMessageContexts = ∅
  arrivalBlock : s.receivePool.lacksArrivalBlock = false
  buffer : s.receivePool.lacksUnexpectedResources m.payload.length = false
  nothing : ∀ j, ¬A j

/-- Where a context has the bytes of the chunks `A`: in its buffer, or in the
target. -/
def Places (m : IncomingMessage) (A : ℕ → Prop) (s : PdsManager) (context : RxMessageContext) :
    Option PostedReceiveBinding → Prop
  | none => context.mode = .unexpectedBuffered ∧ context.targetBaseAddr = 0 ∧
      context.Buffers m.payload m.mtu A
  | some posted => s.AimedAt context posted.baseAddr posted.length m.payload m.mtu A

/-- The context of the message has gathered the chunks `A`. -/
structure Holding (m : IncomingMessage) (target : Option PostedReceiveBinding) (A : ℕ → Prop)
    (s : PdsManager) (context : RxMessageContext) : Prop extends Expects m target s where
  posted : target = none ∨ context.bufferedComplete = false →
    s.postedReceives.lookup m.key.lookupKey = target
  keyed : context.key = m.key
  active : context.retired = false
  accepted : context.semanticAccepted = true
  expectedChunks : context.expectedChunks = m.count
  recent : s.nowMs - context.lastActivityMs < s.receiveTtl
  records : context.Records m.payload m.mtu A
  places : Places m A s context target

/-- The message has a context, and it is not finished. -/
structure Gathers (m : IncomingMessage) (target : Option PostedReceiveBinding) (A : ℕ → Prop)
    (s : PdsManager) (context : RxMessageContext) : Prop
    extends Holding m target A s context where
  rxMessageContexts : s.rxMessageContexts = AList.singleton m.key context
  awaited : target = none ∨ context.bufferedComplete = false

/-- All chunks have arrived, and their bytes are in the target. -/
structure Finished (m : IncomingMessage) (target : Option PostedReceiveBinding) (A : ℕ → Prop)
    (s : PdsManager) (context : RxMessageContext) : Prop where
  rxMessageContexts : s.rxMessageContexts = AList.singleton m.key context
  retired : context.retired = true
  bufferedComplete : context.bufferedComplete = true
  remembered : ∃ tombstone, s.completedSendTombstones.lookup m.key = some tombstone ∧
    tombstone.completedAtMs = context.lastActivityMs
  retiredAtMs : context.retiredAtMs = context.lastActivityMs
  recent : s.nowMs - context.lastActivityMs < s.receiveTtl
  complete : ∀ j, j < m.count → A j
  filled : ∃ posted, target = some posted ∧
    s.Fills posted.baseAddr posted.length m.payload m.mtu A

/-- How far the message is. -/
inductive Stage (m : IncomingMessage) (target : Option PostedReceiveBinding) (A : ℕ → Prop)
    (s : PdsManager) : Prop
  | awaits (h : Awaits m target A s)
  | gathers (context : RxMessageContext) (h : Gathers m target A s context)
  | finished (context : RxMessageContext) (h : Finished m target A s context)

/-! ## Completion -/

/-- A context that is not retired is retired when its SEND is complete. -/
theorem completeSend_of_active (s : PdsManager) (key : RxMessageKey)
    (hactive : context.retired = false) :
    s.completeSend key context =
      ({ s with
          receivePool := s.receivePool.releaseContext { context with completed := true }
          postedReceives := KeyedMap.modify s.postedReceives context.key.lookupKey
            fun posted => { posted with consumed := true }
          completedSendTombstones := s.completedSendTombstones.insert key
            { modifiedLength := context.totalLength, completedAtMs := s.nowMs }
          completedSendLookupTombstones :=
            s.completedSendLookupTombstones.insert context.key.lookupKey
              { modifiedLength := context.totalLength, completedAtMs := s.nowMs } },
        { context with completed := true }.retire s.nowMs) := by
  have hretire : s.retireContextResources { context with completed := true } =
      ({ s with receivePool := s.receivePool.releaseContext { context with completed := true } },
        { context with completed := true }.retire s.nowMs) :=
    if_neg (by simp [hactive])
  unfold completeSend
  rw [hretire]

/-- A complete message with a target is retired. -/
theorem AimedAt.tryRetireCompletedContext {base length mtu : ℕ} {payload : Packet}
    (h : s.AimedAt context base length payload mtu A) (key : RxMessageKey)
    (hcomplete : context.bufferedComplete = true) :
    s.tryRetireCompletedContext key context = s.completeSend key context := by
  unfold PdsManager.tryRetireCompletedContext
  rw [if_pos hcomplete]
  rcases h.mode with hdirect | ⟨hmatched, hrecv⟩
  · rw [hdirect]
  · rw [hmatched]
    exact if_pos hrecv

/-- A context that is written back; whether it was answered does not matter. -/
theorem Holding.gathers (h : Holding m target A s context)
    (hawaited : target = none ∨ context.bufferedComplete = false)
    (hmap : ∀ c, s.rxMessageContexts.insert m.key c = AList.singleton m.key c) (sent : Bool) :
    Stage m target A (s.setContext m.key { context with responseSent := sent }) := by
  have hrecords : { context with responseSent := sent }.Records m.payload m.mtu A :=
    ⟨h.records.totalLength, h.records.payloadPerPacket, h.records.length, h.records.arrived,
      h.records.chunksDone, h.records.bufferedComplete⟩
  have hplaces : Places m A (s.setContext m.key { context with responseSent := sent })
      { context with responseSent := sent } target := by
    have hold := h.places
    cases target with
    | none => exact hold
    | some posted => exact ⟨hold.mode, hold.targetBaseAddr, hold.targetLength, hold.fills⟩
  exact .gathers { context with responseSent := sent }
    ⟨⟨⟨h.payloadMtu, h.unremembered, h.isTarget⟩, h.posted, h.keyed, h.active, h.accepted,
      h.expectedChunks, h.recent, hrecords, hplaces⟩, hmap _, hawaited⟩

/-- A context with a target is written back: it stays, or it is finished. -/
theorem Holding.settle (h : Holding m (some posted) A s context)
    (hmap : ∀ c, s.rxMessageContexts.insert m.key c = AList.singleton m.key c) (sent : Bool) :
    Stage m (some posted) A
      ((s.tryRetireCompletedContext m.key context).1.setContext m.key
        { (s.tryRetireCompletedContext m.key context).2 with responseSent := sent }) := by
  have haimed : s.AimedAt context posted.baseAddr posted.length m.payload m.mtu A := h.places
  cases hcomplete : context.bufferedComplete with
  | false =>
      have hsame : s.tryRetireCompletedContext m.key context = (s, context) :=
        if_neg (by simp [hcomplete])
      rw [hsame]
      exact h.gathers (.inr hcomplete) hmap sent
  | true =>
      have hall := (h.records.bufferedComplete.mp hcomplete).2
      rw [h.expectedChunks] at hall
      rw [haimed.tryRetireCompletedContext m.key hcomplete,
        completeSend_of_active s m.key h.active]
      have hpos : 0 < s.receiveTtl := Nat.lt_of_lt_of_le (by decide) (Nat.le_max_left 500 _)
      refine .finished _ ⟨hmap _, rfl, hcomplete, ⟨_, AList.lookup_insert _, rfl⟩, rfl, ?_, hall,
        posted, rfl, haimed.fills⟩
      exact (Nat.sub_self s.nowMs).trans_lt hpos

/-! ## Storing a fragment -/

/-- A fragment that is admitted is stored. -/
theorem Holding.store (h : Holding m target A s context)
    (hawaited : target = none ∨ context.bufferedComplete = false)
    (hmap : ∀ c, s.rxMessageContexts.insert m.key c = AList.singleton m.key c)
    (hchunk : IsChunk m.payload m.mtu k tag packet) (hk : k < m.count) (sent : Bool) :
    Stage m target (fun j => A j ∨ j = k)
      ((s.storeSend m.key context tag packet).1.setContext m.key
        { (s.storeSend m.key context tag packet).2 with responseSent := sent }) := by
  have hmtu := m.mtu_pos
  have hsize := h.records.payloadPerPacket
  obtain ⟨arrived, hslot⟩ := h.records.slot (h.expectedChunks.symm ▸ hk)
  have hrecords := h.records.chunkStored hmtu hchunk s.nowMs hslot
  have hnow : s.nowMs - (chunkStored context s.nowMs tag packet arrived).lastActivityMs <
      s.receiveTtl :=
    (Nat.sub_self s.nowMs).trans_lt (Nat.lt_of_lt_of_le (by decide) (Nat.le_max_left 500 _))
  cases target with
  | none =>
      obtain ⟨hmode, htarget, hbuffers⟩ := h.places
      have hposted : s.postedReceive context.key.lookupKey = none := by
        rw [h.keyed, postedReceive, h.posted (.inl rfl)]
        rfl
      rw [storeSend_unmatched hmode htarget hposted,
        storeChunkInContext_of_slot hmtu hsize hchunk hslot]
      have hplaces : Places m (fun j => A j ∨ j = k) s
          (chunkStored context s.nowMs tag packet arrived) none :=
        ⟨hmode, htarget,
          hbuffers.chunkStored hmtu hchunk h.records.totalLength s.nowMs arrived⟩
      have hstored : Holding m none (fun j => A j ∨ j = k) s
          (chunkStored context s.nowMs tag packet arrived) :=
        ⟨⟨h.payloadMtu, h.unremembered, h.isTarget⟩, fun _ => h.posted (.inl rfl), h.keyed,
          h.active, h.accepted, h.expectedChunks, hnow, hrecords, hplaces⟩
      exact hstored.gathers (.inl rfl) hmap sent
  | some posted =>
      have haimed : s.AimedAt context posted.baseAddr posted.length m.payload m.mtu A := h.places
      have hopen := hawaited.resolve_left (by simp)
      obtain ⟨memory, memoryWrites, haimed', hstored⟩ := haimed.storeSend m.key
        (h.isTarget posted rfl).1 hmtu hsize hchunk hslot
      have hstored' : Holding m (some posted) (fun j => A j ∨ j = k)
          { s with memory := memory, memoryWrites := memoryWrites }
          (chunkStored context s.nowMs tag packet arrived) :=
        ⟨⟨h.payloadMtu, h.unremembered, h.isTarget⟩, fun _ => h.posted (.inr hopen), h.keyed,
          h.active, h.accepted, h.expectedChunks, hnow, hrecords, haimed'⟩
      rw [hstored]
      exact hstored'.settle hmap sent

/-! ## Admission of a fragment -/

theorem Expects.expectedChunks (h : Expects m target s) :
    s.computeExpectedChunks m.payload.length = m.count := by
  have hcapacity : s.computePayloadPerPacket = m.mtu := by
    rw [computePayloadPerPacket, h.payloadMtu, if_pos m.mtu_pos]
  unfold computeExpectedChunks IncomingMessage.count chunkCount
  rw [hcapacity, toU32_of_lt m.fits]

/-- A fresh context has recorded nothing. -/
theorem records_freshContext {mtu : ℕ} (s : PdsManager) (key : RxMessageKey) (payload : Packet)
    (hmtu : s.payloadMtu = mtu) (hpos : 0 < mtu) :
    (s.freshContext key payload.length).Records payload mtu fun _ => False := by
  have hcapacity : s.computePayloadPerPacket = mtu := by
    rw [computePayloadPerPacket, hmtu, if_pos hpos]
  refine ⟨rfl, hcapacity, List.length_replicate, ?_, ?_, ?_⟩
  · intro j hj
    simp [freshContext, List.getElem?_replicate]
  · exact (List.count_eq_zero.mpr fun hmem => by simp [freshContext] at hmem).symm
  · constructor
    · intro hcomplete
      cases hcomplete
    · rintro ⟨hexpected, hall⟩
      exact (hall 0 hexpected).elim

theorem postedReceive_of_target (hposted : s.postedReceives.lookup m.key.lookupKey = target)
    (htarget : ∀ posted, target = some posted →
      IsTarget posted.baseAddr posted.length ∧ posted.consumed = false) :
    s.postedReceive m.key.lookupKey = target := by
  rw [postedReceive, hposted]
  cases target with
  | none => rfl
  | some posted =>
      have hnonzero := (htarget posted rfl).1.nonzero
      simp [Option.filter_some, hnonzero]

/-- The first fragment of a message is admitted. -/
theorem Awaits.admit (h : Awaits m target A s)
    (hrequest : tag.requestLength = m.payload.length) :
    ∃ admission, s.admitSend m.key.lookupKey (s.sendContext m.key tag) = .ok admission ∧
      Holding m target A { s with receivePool := admission.pool } admission.context ∧
      admission.context.bufferedComplete = false := by
  have hposted : s.postedReceive m.key.lookupKey = target :=
    postedReceive_of_target h.posted h.isTarget
  have hfresh : s.sendContext m.key tag = s.freshContext m.key m.payload.length := by
    rw [sendContext, h.rxMessageContexts, AList.lookup_empty, hrequest]
    rfl
  have hrecords : (s.freshContext m.key m.payload.length).Records m.payload m.mtu A :=
    (records_freshContext s m.key m.payload h.payloadMtu m.mtu_pos).congr fun j _ =>
      iff_of_false id (h.nothing j)
  have hrecent : s.nowMs - s.nowMs < s.receiveTtl :=
    (Nat.sub_self s.nowMs).trans_lt (Nat.lt_of_lt_of_le (by decide) (Nat.le_max_left 500 _))
  rw [hfresh]
  cases hadmission : s.admitSend m.key.lookupKey (s.freshContext m.key m.payload.length) with
  | error refusal =>
      have hlacks := (admitSend_error hadmission).1
      have hblock := h.arrivalBlock
      have hbuffer := h.buffer
      simp [lacksResources, hposted, freshContext, hblock, hbuffer] at hlacks
  | ok admission =>
      obtain ⟨-, -, hcontext⟩ := admitSend_ok hadmission
      refine ⟨admission, rfl, ?_, ?_⟩
      · rw [hcontext]
        cases target with
        | none =>
            have hunsettled : s.admittedContext m.key.lookupKey
                (s.freshContext m.key m.payload.length) =
                { s.freshContext m.key m.payload.length with
                  arrivalReserved := true
                  unexpectedReserved := true }.acceptUnexpected := by
              rw [admittedContext, hposted]
              rfl
            have hbuffers : BufferHolds (List.replicate m.payload.length 0) m.payload
                fun i => A (i / m.mtu) :=
              ⟨List.length_replicate, fun i _ hi => (h.nothing _ hi).elim⟩
            rw [hunsettled]
            exact ⟨⟨h.payloadMtu, h.unremembered, h.isTarget⟩, fun _ => h.posted, rfl, rfl, rfl,
              h.expectedChunks, hrecent, ⟨rfl, hrecords.payloadPerPacket, hrecords.length,
                hrecords.arrived, hrecords.chunksDone, hrecords.bufferedComplete⟩,
              rfl, rfl, hbuffers⟩
        | some posted =>
            have htargeted : s.admittedContext m.key.lookupKey
                (s.freshContext m.key m.payload.length) =
                { s.freshContext m.key m.payload.length with
                  arrivalReserved := true
                  targetBaseAddr := posted.baseAddr
                  targetLength := posted.length }.acceptExpected := by
              rw [admittedContext, hposted]
              rfl
            rw [htargeted]
            exact ⟨⟨h.payloadMtu, h.unremembered, h.isTarget⟩, fun _ => h.posted, rfl, rfl, rfl,
              h.expectedChunks, hrecent, ⟨rfl, hrecords.payloadPerPacket, hrecords.length,
                hrecords.arrived, hrecords.chunksDone, hrecords.bufferedComplete⟩,
              .inl rfl, rfl, rfl, fun i _ hi => (h.nothing _ hi.1).elim⟩
      · rw [hcontext]
        unfold admittedContext
        cases target with
        | none =>
            rw [hposted]
            rfl
        | some posted =>
            rw [hposted]
            rfl

/-- A fragment of a buffered message is admitted while no receive is posted. -/
theorem admitSend_of_accepted {lookup : ReceiveLookupKey} (hposted : s.postedReceive lookup = none)
    (haccepted : context.semanticAccepted = true) :
    s.admitSend lookup context = .ok ⟨s.receivePool, context, false⟩ := by
  have hsettled : context.unsettled = false := by
    simp [RxMessageContext.unsettled, haccepted]
  unfold admitSend
  rw [hposted]
  exact if_neg (by simp [hsettled])

/-- A later fragment of a message joins its context. -/
theorem Gathers.admit (h : Gathers m target A s context) (tag : SoftUeMetadataTag) :
    s.sendContext m.key tag = context ∧
      s.admitSend m.key.lookupKey context = .ok ⟨s.receivePool, context, false⟩ := by
  have hposted : s.postedReceive m.key.lookupKey = target :=
    postedReceive_of_target (h.posted h.awaited) h.isTarget
  constructor
  · have hlookup : s.rxMessageContexts.lookup m.key = some context := by
      rw [h.rxMessageContexts, ← AList.insert_empty, AList.lookup_insert]
    rw [sendContext, hlookup, Option.filter_some, h.active]
    rfl
  · have hplaces := h.places
    cases target with
    | none => exact admitSend_of_accepted hposted h.accepted
    | some posted =>
        unfold admitSend
        rw [hposted]
        have hnonzero := (h.isTarget posted rfl).1.nonzero
        have htarget : context.lacksTarget = false := by
          simp [RxMessageContext.lacksTarget, hplaces.targetBaseAddr, hnonzero]
        have hsame : context.acceptExpected = context := if_pos h.accepted
        dsimp only [admitExpected]
        rw [htarget, hsame]
        rfl

/-- The arrival of a chunk, after the receive state was pruned. -/
theorem Stage.receiveSend (h : Stage m target A s)
    (hchunk : IsChunk m.payload m.mtu k tag packet) (hk : k < m.count) :
    Stage m target (fun j => A j ∨ j = k) (s.receiveSend m.key tag packet).1 := by
  cases h with
  | awaits h =>
      obtain ⟨admission, hadmission, hholds, hopen⟩ := h.admit hchunk.requestLength
      have hmap (c : RxMessageContext) : s.rxMessageContexts.insert m.key c =
          AList.singleton m.key c := by
        rw [h.rxMessageContexts, AList.insert_empty]
      unfold PdsManager.receiveSend
      rw [h.unremembered]
      dsimp only
      rw [hadmission]
      exact hholds.store (.inr hopen) hmap hchunk hk _
  | gathers context h =>
      obtain ⟨hcontext, hadmission⟩ := h.admit tag
      have hmap (c : RxMessageContext) : s.rxMessageContexts.insert m.key c =
          AList.singleton m.key c := by
        rw [h.rxMessageContexts, AList.insert_singleton_eq]
      unfold PdsManager.receiveSend
      rw [h.unremembered]
      dsimp only
      rw [hcontext, hadmission]
      exact h.toHolding.store h.awaited hmap hchunk hk _
  | finished context h =>
      obtain ⟨tombstone, hlookup, htime⟩ := h.remembered
      have hremembered : s.completedSend m.key = some tombstone := by
        rw [completedSend, hlookup, Option.some_or]
      obtain ⟨posted, htarget, hfilled⟩ := h.filled
      have hwider : s.Fills posted.baseAddr posted.length m.payload m.mtu
          fun j => A j ∨ j = k := by
        intro i b hi hb
        have hlt : i < m.payload.length := (List.getElem?_eq_some_iff.mp hb).1
        exact hfilled i b ⟨h.complete _ (div_lt_chunkCount m.mtu_pos hlt), hi.2⟩ hb
      unfold PdsManager.receiveSend
      rw [hremembered]
      exact .finished context ⟨h.rxMessageContexts, h.retired, h.bufferedComplete,
        h.remembered, h.retiredAtMs, h.recent, fun j hj => .inl (h.complete j hj), posted,
        htarget, hwider⟩

/-! ## Pruning and time -/

/-- A context that was touched lately is not pruned. -/
theorem prune_of_recent {nowMs ttl : ℕ} (hrecent : nowMs - context.lastActivityMs < ttl)
    (hretired : context.retired = true → context.retiredAtMs = context.lastActivityMs) :
    context.prune nowMs ttl = some context := by
  have hfresh : context.isStale nowMs ttl = false := by
    simp [RxMessageContext.isStale, hrecent]
  have hkept : (context.retired && decide (ttl ≤ nowMs - context.retiredAtMs)) = false := by
    cases hdone : context.retired with
    | false => rfl
    | true => simp [hretired hdone, hrecent]
  unfold RxMessageContext.prune
  simp only [hfresh, hkept, Bool.false_eq_true, if_false]

theorem Expects.prune (h : Expects m target s) : Expects m target s.pruneReceiveState := by
  refine ⟨h.payloadMtu, ?_, h.isTarget⟩
  have hnone := Option.or_eq_none_iff.mp h.unremembered
  unfold completedSend pruneReceiveState
  dsimp only
  rw [KeyedMap.lookup_filterMap, KeyedMap.lookup_filterMap, hnone.1, hnone.2]
  rfl

theorem Expects.prune_posted (h : Expects m target s)
    (hposted : s.postedReceives.lookup m.key.lookupKey = target) :
    s.pruneReceiveState.postedReceives.lookup m.key.lookupKey = target := by
  unfold pruneReceiveState
  dsimp only
  rw [KeyedMap.lookup_filterMap, hposted]
  cases target with
  | none => rfl
  | some posted =>
      have hopen := (h.isTarget posted rfl).2
      simp [hopen]

/-- Pruning takes nothing away from a message that was touched lately. -/
theorem Stage.prune (h : Stage m target A s) : Stage m target A s.pruneReceiveState := by
  cases h with
  | awaits h =>
      have hpool : s.pruneReceiveState.receivePool = s.receivePool := by
        unfold pruneReceiveState
        rw [h.rxMessageContexts]
        rfl
      have hcontexts : s.pruneReceiveState.rxMessageContexts = ∅ := by
        unfold pruneReceiveState
        rw [h.rxMessageContexts]
        rfl
      exact .awaits ⟨h.toExpects.prune, h.prune_posted h.posted, hcontexts,
        hpool ▸ h.arrivalBlock, hpool ▸ h.buffer, h.nothing⟩
  | gathers context h =>
      have hkept : context.prune s.nowMs s.receiveTtl = some context :=
        prune_of_recent h.recent fun hretired => absurd h.active (by simp [hretired])
      have hcontexts : s.pruneReceiveState.rxMessageContexts = AList.singleton m.key context := by
        unfold pruneReceiveState
        dsimp only
        rw [h.rxMessageContexts]
        exact KeyedMap.filterMap_singleton hkept
      have hplaces : Places m A s.pruneReceiveState context target := by
        have hold := h.places
        cases target with
        | none => exact hold
        | some posted => exact ⟨hold.mode, hold.targetBaseAddr, hold.targetLength, hold.fills⟩
      exact .gathers context ⟨⟨h.toExpects.prune, fun hopen => h.prune_posted (h.posted hopen),
        h.keyed, h.active, h.accepted, h.expectedChunks, h.recent, h.records, hplaces⟩,
        hcontexts, h.awaited⟩
  | finished context h =>
      have hkept : context.prune s.nowMs s.receiveTtl = some context :=
        prune_of_recent h.recent fun _ => h.retiredAtMs
      have hcontexts : s.pruneReceiveState.rxMessageContexts = AList.singleton m.key context := by
        unfold pruneReceiveState
        dsimp only
        rw [h.rxMessageContexts]
        exact KeyedMap.filterMap_singleton hkept
      obtain ⟨tombstone, hlookup, htime⟩ := h.remembered
      have hremembered : s.pruneReceiveState.completedSendTombstones.lookup m.key =
          some tombstone := by
        have hrecent := h.recent
        rw [← htime] at hrecent
        unfold pruneReceiveState
        dsimp only
        rw [KeyedMap.lookup_filterMap, hlookup, Option.bind_some]
        exact if_neg hrecent.le.not_gt
      exact .finished context ⟨hcontexts, h.retired, h.bufferedComplete,
        ⟨tombstone, hremembered, htime⟩, h.retiredAtMs, h.recent, h.complete, h.filled⟩

/-- A fragment of the message arrives. -/
theorem Stage.handleIncomingSendPacket {pdcId : ℕ} {fragment : TaggedPacket}
    (h : Stage m target A s)
    (hkey : rxMessageKey .send fragment.header fragment.metadata pdcId = m.key)
    (hchunk : IsChunk m.payload m.mtu k fragment.metadata fragment.bytes) (hk : k < m.count) :
    Stage m target (fun j => A j ∨ j = k) (s.handleIncomingSendPacket pdcId fragment).1 := by
  unfold PdsManager.handleIncomingSendPacket
  rw [hkey]
  exact h.prune.receiveSend hchunk hk

/-- No receive context has been idle for as long as it is kept. -/
def NothingExpires (s : PdsManager) : Prop :=
  ∀ e ∈ s.rxMessageContexts.entries, s.nowMs - e.2.lastActivityMs < s.receiveTtl

instance (s : PdsManager) : Decidable s.NothingExpires := List.decidableBAll _ _

/-- Time passes without an expiry. -/
theorem Stage.advanceClock {deltaNs : ℕ} (h : Stage m target A s)
    (hexpires : NothingExpires { s with nowNs := s.nowNs + deltaNs }) :
    Stage m target A { s with nowNs := s.nowNs + deltaNs } := by
  cases h with
  | awaits h =>
      exact .awaits ⟨⟨h.payloadMtu, h.unremembered, h.isTarget⟩, h.posted, h.rxMessageContexts,
        h.arrivalBlock, h.buffer, h.nothing⟩
  | gathers context h =>
      have hentry : (⟨m.key, context⟩ : Sigma fun _ : RxMessageKey => RxMessageContext) ∈
          s.rxMessageContexts.entries := by
        rw [h.rxMessageContexts]
        exact List.mem_singleton_self _
      have hplaces : Places m A { s with nowNs := s.nowNs + deltaNs } context target := by
        have hold := h.places
        cases target with
        | none => exact hold
        | some posted => exact ⟨hold.mode, hold.targetBaseAddr, hold.targetLength, hold.fills⟩
      exact .gathers context ⟨⟨⟨h.payloadMtu, h.unremembered, h.isTarget⟩, h.posted, h.keyed,
        h.active, h.accepted, h.expectedChunks, hexpires _ hentry, h.records, hplaces⟩,
        h.rxMessageContexts, h.awaited⟩
  | finished context h =>
      have hentry : (⟨m.key, context⟩ : Sigma fun _ : RxMessageKey => RxMessageContext) ∈
          s.rxMessageContexts.entries := by
        rw [h.rxMessageContexts]
        exact List.mem_singleton_self _
      exact .finished context ⟨h.rxMessageContexts, h.retired, h.bufferedComplete, h.remembered,
        h.retiredAtMs, hexpires _ hentry, h.complete, h.filled⟩

/-! ## A receive is posted -/

/-- A buffered message takes the target of a receive that is posted for it. -/
theorem Holding.promote (h : Holding m none A s context) (posted : PostedReceiveBinding)
    (htarget : IsTarget posted.baseAddr posted.length) (hopen : posted.consumed = false) :
    let registered := { s with
      postedReceives := s.postedReceives.insert m.key.lookupKey posted }
    let promoted := registered.tryPromoteUnexpectedToMatched context
    Holding m (some posted) A promoted.1 promoted.2 ∧
      promoted.1.rxMessageContexts = s.rxMessageContexts := by
  intro registered promoted
  obtain ⟨hmode, -, hbuffers⟩ := h.places
  have hposted : registered.postedReceive context.key.lookupKey = some posted := by
    rw [h.keyed, postedReceive, AList.lookup_insert]
    simp [Option.filter_some, htarget.nonzero]
  obtain ⟨memory, memoryWrites, hfills, hpromoted⟩ :=
    tryPromoteUnexpectedToMatched_of_posted hmode hposted hbuffers
  have hpromoted : promoted = _ := hpromoted
  rw [hpromoted, h.keyed]
  refine ⟨⟨⟨h.payloadMtu, h.unremembered, ?_⟩, ?_, rfl, h.active, h.accepted,
    h.expectedChunks, h.recent, ⟨h.records.totalLength, h.records.payloadPerPacket,
      h.records.length, h.records.arrived, h.records.chunksDone, h.records.bufferedComplete⟩,
    .inr ⟨rfl, rfl⟩, rfl, rfl, hfills⟩, rfl⟩
  · rintro _ ⟨⟩
    exact ⟨htarget, hopen⟩
  · intro hincomplete
    have hfalse : context.bufferedComplete = false := hincomplete.resolve_left (by simp)
    rw [AList.lookup_insert, hfalse, ← hopen]

/-- A receive is posted for a message that has none. -/
theorem Stage.registerPostedReceive {baseAddr length : ℕ} (h : Stage m none A s)
    (htarget : IsTarget baseAddr length) :
    Stage m (some { baseAddr := baseAddr, length := length }) A
      (s.registerPostedReceive m.key.lookupKey baseAddr length) := by
  unfold PdsManager.registerPostedReceive
  have hpruned := h.prune
  generalize s.pruneReceiveState = t at hpruned ⊢
  dsimp only
  cases hpruned with
  | awaits h =>
      have hkeys : t.rxMessageContexts.keys = [] := by rw [h.rxMessageContexts]; rfl
      rw [hkeys]
      refine .awaits ⟨⟨h.payloadMtu, h.unremembered, ?_⟩, AList.lookup_insert _,
        h.rxMessageContexts, h.arrivalBlock, h.buffer, h.nothing⟩
      rintro _ ⟨⟩
      exact ⟨htarget, rfl⟩
  | gathers context h =>
      have hkeys : t.rxMessageContexts.keys = [m.key] := by
        rw [h.rxMessageContexts, AList.keys_singleton]
      have hlookup : t.rxMessageContexts.lookup m.key = some context := by
        rw [h.rxMessageContexts, ← AList.insert_empty, AList.lookup_insert]
      have hmatches : !context.retired ∧ context.key.opcode = .send ∧
          context.key.lookupKey = m.key.lookupKey := by
        rw [h.active, h.keyed]
        exact ⟨rfl, m.isSend, rfl⟩
      obtain ⟨hholds, hcontexts⟩ := h.toHolding.promote
        { baseAddr := baseAddr, length := length } htarget rfl
      rw [hkeys, List.foldl_cons, List.foldl_nil]
      unfold matchPostedReceive
      dsimp only
      rw [hlookup]
      dsimp only
      rw [if_pos hmatches]
      refine hholds.settle (fun c => ?_) _
      rw [hcontexts, h.rxMessageContexts, AList.insert_singleton_eq]
  | finished context h =>
      obtain ⟨posted, hnone, -⟩ := h.filled
      cases hnone

end PdsManager
end UeSim
