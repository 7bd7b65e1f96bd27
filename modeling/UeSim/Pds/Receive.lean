import UeSim.Pds.ReceiveState
import UeSim.Support.Reassembly

/-!
# The receive side of the packet delivery sublayer

How a `PdsManager` takes in the fragments of SENDs and of read responses: the
reservation of receive resources, the storing of a fragment, the promotion of
an unexpected message to a posted receive, and the retirement of contexts.
-/

namespace UeSim

/-! ## Receive resources -/

namespace RudReceiveResourcePool

/-- `PdsManager::ReserveArrivalBlock` for a context that holds none. -/
def lacksArrivalBlock (pool : RudReceiveResourcePool) : Bool :=
  pool.maxArrivalBlocks ≤ pool.arrivalBlocksInUse

/-- The test of `PdsManager::ReserveUnexpectedResources`; the byte count is
added in `uint32_t`. -/
def lacksUnexpectedResources (pool : RudReceiveResourcePool) (totalLength : ℕ) : Bool :=
  pool.maxUnexpectedMessages ≤ pool.unexpectedMessagesInUse ||
    pool.maxUnexpectedBytes < toU32 (pool.unexpectedBytesInUse + totalLength)

/-- `PdsManager::ReserveArrivalBlock`. -/
def reserveArrivalBlock (pool : RudReceiveResourcePool) (context : RxMessageContext) :
    Option (RudReceiveResourcePool × RxMessageContext) :=
  if context.arrivalReserved then some (pool, context)
  else if pool.lacksArrivalBlock then none
  else some ({ pool with arrivalBlocksInUse := pool.arrivalBlocksInUse + 1 },
    { context with arrivalReserved := true })

/-- `PdsManager::ReserveUnexpectedResources`. -/
def reserveUnexpectedResources (pool : RudReceiveResourcePool) (context : RxMessageContext) :
    Option (RudReceiveResourcePool × RxMessageContext) :=
  if context.unexpectedReserved then some (pool, context)
  else if pool.lacksUnexpectedResources context.totalLength then none
  else some ({ pool with
      unexpectedMessagesInUse := pool.unexpectedMessagesInUse + 1
      unexpectedBytesInUse := toU32 (pool.unexpectedBytesInUse + context.totalLength) },
    { context with unexpectedReserved := true })

/-- What `RetireContextResources` gives back for a context; no counter goes
below zero. -/
def releaseContext (pool : RudReceiveResourcePool) (context : RxMessageContext) :
    RudReceiveResourcePool :=
  { pool with
    unexpectedMessagesInUse :=
      pool.unexpectedMessagesInUse - if context.unexpectedReserved then 1 else 0
    unexpectedBytesInUse :=
      pool.unexpectedBytesInUse - if context.unexpectedReserved then context.totalLength else 0
    arrivalBlocksInUse := pool.arrivalBlocksInUse - if context.arrivalReserved then 1 else 0
    readTracksInUse := pool.readTracksInUse -
      if context.mode = .readResponse && context.readTrackReserved then 1 else 0 }

end RudReceiveResourcePool

/-! ## Contexts -/

namespace RxMessageContext

/-- The context after `RetireContextResources`. -/
def retire (context : RxMessageContext) (nowMs : ℕ) : RxMessageContext :=
  { context with
    unexpectedReserved := false
    arrivalReserved := false
    readTrackReserved := context.readTrackReserved && context.mode ≠ .readResponse
    payloadBuffer := []
    chunkArrived := []
    retired := true
    retiredAtMs := nowMs
    lastActivityMs := nowMs }

/-- Whether `PruneReceiveState` retires the context. -/
def isStale (context : RxMessageContext) (nowMs ttl : ℕ) : Bool :=
  !context.retired && ttl ≤ nowMs - context.lastActivityMs

/-- The context after `PruneReceiveState`, unless it is erased. -/
def prune (nowMs ttl : ℕ) (context : RxMessageContext) : Option RxMessageContext :=
  let context :=
    if context.isStale nowMs ttl then
      { context with failed := !context.completed }.retire nowMs
    else context
  if context.retired && ttl ≤ nowMs - context.retiredAtMs then none else some context

/-- A context of a posted receive that has no target yet. -/
def lacksTarget (context : RxMessageContext) : Bool :=
  context.mode = .directExpected && context.targetBaseAddr = 0

/-- A context of a message that neither was accepted nor has a target. -/
def unsettled (context : RxMessageContext) : Bool :=
  context.lacksTarget && !context.semanticAccepted

/-- A context of a message whose receive is posted. -/
def acceptExpected (context : RxMessageContext) : RxMessageContext :=
  if context.semanticAccepted then context
  else { context with mode := .directExpected, semanticAccepted := true }

/-- A context of a message that is accepted as unexpected. -/
def acceptUnexpected (context : RxMessageContext) : RxMessageContext :=
  { context with
    mode := .unexpectedBuffered
    semanticAccepted := true
    payloadBuffer := List.replicate context.totalLength 0
    responseSent := true }

/-- `PdsManager::ComputeChunkIndex` for a context. -/
def chunkIndex (context : RxMessageContext) (tag : SoftUeMetadataTag) : ℕ :=
  tag.fragmentOffset / max 1 context.payloadPerPacket

end RxMessageContext

namespace PdsManager

/-- `PdsManager::RetireContextResources`. -/
def retireContextResources (s : PdsManager) (context : RxMessageContext) :
    PdsManager × RxMessageContext :=
  if context.retired then (s, context)
  else ({ s with receivePool := s.receivePool.releaseContext context },
    context.retire s.nowMs)

/-- Write a context back to the map. -/
def setContext (s : PdsManager) (key : RxMessageKey) (context : RxMessageContext) :
    PdsManager :=
  { s with rxMessageContexts := s.rxMessageContexts.insert key context }

/-- `PdsManager::PruneReceiveState`: stale contexts are retired, old retired
contexts and tombstones are erased, and so are consumed posted receives. -/
def pruneReceiveState (s : PdsManager) : PdsManager :=
  let stale := s.rxMessageContexts.entries.filter fun e => e.2.isStale s.nowMs s.receiveTtl
  let fresh := fun tombstone : CompletedSendTombstone =>
    if s.receiveTtl < s.nowMs - tombstone.completedAtMs then none else some tombstone
  { s with
    completedSendTombstones := KeyedMap.filterMap (fun _ => fresh) s.completedSendTombstones
    completedSendLookupTombstones :=
      KeyedMap.filterMap (fun _ => fresh) s.completedSendLookupTombstones
    receivePool := stale.foldl (fun pool e => pool.releaseContext e.2) s.receivePool
    readResponseTargets :=
      (stale.filter fun e => e.2.mode = .readResponse).foldl
        (fun targets e => targets.erase e.2.key.lookupKey) s.readResponseTargets
    rxMessageContexts :=
      KeyedMap.filterMap (fun _ => RxMessageContext.prune s.nowMs s.receiveTtl)
        s.rxMessageContexts
    postedReceives :=
      KeyedMap.filterMap (fun _ posted => if posted.consumed then none else some posted)
        s.postedReceives }

/-! ## Storing a fragment -/

/-- A `memcpy` of some bytes to an address; nothing is written when there are
none. -/
def writeMemory (s : PdsManager) (addr : ℕ) (bytes : List UInt8) : PdsManager :=
  if bytes = [] then s
  else
    { s with
      memory := Reassembly.copyToMemory s.memory addr bytes
      memoryWrites := s.memoryWrites ++ [{ addr := addr, size := bytes.length }] }

/-- `PdsManager::CopyPacketBytesToTarget`. -/
def copyPacketBytesToTarget (s : PdsManager) (packet : Packet)
    (baseAddr offset maxLength : ℕ) : PdsManager :=
  if baseAddr = 0 ∨ maxLength ≤ offset then s
  else s.writeMemory (toU64 (baseAddr + offset)) (packet.take (maxLength - offset))

/-- The context after `StoreChunkInContext` for a chunk of the message;
`arrived` says whether the chunk arrived before. -/
def chunkStored (context : RxMessageContext) (nowMs : ℕ) (tag : SoftUeMetadataTag)
    (packet : Packet) (arrived : Bool) : RxMessageContext :=
  let buffer := context.payloadBuffer ++
    List.replicate (context.totalLength - context.payloadBuffer.length) 0
  let chunksDone := context.chunksDone + if arrived then 0 else 1
  { context with
    payloadBuffer := Reassembly.copyToBuffer buffer tag.fragmentOffset packet
    chunkArrived := context.chunkArrived.set (context.chunkIndex tag) true
    chunksDone := chunksDone
    bufferedComplete := context.expectedChunks ≤ chunksDone
    lastActivityMs := nowMs }

/-- `PdsManager::StoreChunkInContext`. -/
def storeChunkInContext (s : PdsManager) (context : RxMessageContext)
    (tag : SoftUeMetadataTag) (packet : Packet) : PdsManager × RxMessageContext :=
  match context.chunkArrived[context.chunkIndex tag]? with
  | none => (s, context)
  | some arrived =>
      (if context.targetBaseAddr ≠ 0 ∧ context.targetLength ≠ 0 then
          s.copyPacketBytesToTarget packet context.targetBaseAddr tag.fragmentOffset
            context.targetLength
        else s,
        chunkStored context s.nowMs tag packet arrived)

/-- `PdsManager::TryPromoteUnexpectedToMatched`. -/
def tryPromoteUnexpectedToMatched (s : PdsManager) (context : RxMessageContext) :
    PdsManager × RxMessageContext :=
  if context.mode = .unexpectedBuffered then
    match s.postedReceive context.key.lookupKey with
    | none => (s, context)
    | some posted =>
        ({ s.writeMemory posted.baseAddr (context.payloadBuffer.take posted.length) with
            postedReceives := s.postedReceives.insert context.key.lookupKey
              { posted with consumed := context.bufferedComplete } },
          { context with
            targetBaseAddr := posted.baseAddr
            targetLength := posted.length
            matchedToRecv := true
            mode := .unexpectedMatched })
  else (s, context)

/-- What `tryPromoteUnexpectedToMatched` can come to: nothing, or a context that a posted
receive has matched. -/
theorem tryPromoteUnexpectedToMatched_rule {P : PdsManager × RxMessageContext → Prop}
    {s : PdsManager} {context : RxMessageContext} (hsame : P (s, context))
    (hmatched : ∀ posted, context.mode = .unexpectedBuffered →
      s.postedReceive context.key.lookupKey = some posted →
      P ({ s.writeMemory posted.baseAddr (context.payloadBuffer.take posted.length) with
            postedReceives := s.postedReceives.insert context.key.lookupKey
              { posted with consumed := context.bufferedComplete } },
          { context with
            targetBaseAddr := posted.baseAddr
            targetLength := posted.length
            matchedToRecv := true
            mode := .unexpectedMatched })) :
    P (s.tryPromoteUnexpectedToMatched context) := by
  unfold tryPromoteUnexpectedToMatched
  by_cases hmode : context.mode = .unexpectedBuffered
  · rw [if_pos hmode]
    cases hposted : s.postedReceive context.key.lookupKey with
    | none => exact hsame
    | some posted => exact hmatched posted hmode hposted
  · rw [if_neg hmode]
    exact hsame

/-- The end of a SEND in `TryRetireCompletedContext`: the context is retired,
its posted receive is consumed and its completion is remembered. -/
def completeSend (s : PdsManager) (key : RxMessageKey) (context : RxMessageContext) :
    PdsManager × RxMessageContext :=
  let lookup := context.key.lookupKey
  let tombstone := { modifiedLength := context.totalLength, completedAtMs := s.nowMs }
  let retired := s.retireContextResources { context with completed := true }
  ({ retired.1 with
      postedReceives := KeyedMap.modify retired.1.postedReceives lookup
        fun posted => { posted with consumed := true }
      completedSendTombstones := retired.1.completedSendTombstones.insert key tombstone
      completedSendLookupTombstones :=
        retired.1.completedSendLookupTombstones.insert lookup tombstone },
    retired.2)

/-- `PdsManager::TryRetireCompletedContext`. -/
def tryRetireCompletedContext (s : PdsManager) (key : RxMessageKey)
    (context : RxMessageContext) : PdsManager × RxMessageContext :=
  if context.bufferedComplete then
    match context.mode with
    | .directExpected => s.completeSend key context
    | .unexpectedBuffered => (s, context)
    | .unexpectedMatched =>
        if context.matchedToRecv then s.completeSend key context else (s, context)
    | .readResponse =>
        { s with readResponseTargets := s.readResponseTargets.erase context.key.lookupKey
          }.retireContextResources { context with completed := true }
  else (s, context)

/-- What `tryRetireCompletedContext` can come to: nothing, the completion of a SEND, or that
of a READ response. -/
theorem tryRetireCompletedContext_rule {P : PdsManager × RxMessageContext → Prop}
    {s : PdsManager} {key : RxMessageKey} {context : RxMessageContext} (hsame : P (s, context))
    (hsend : context.mode ≠ .readResponse → P (s.completeSend key context))
    (hread : context.mode = .readResponse →
      P ({ s with
        readResponseTargets := s.readResponseTargets.erase context.key.lookupKey
          }.retireContextResources { context with completed := true })) :
    P (s.tryRetireCompletedContext key context) := by
  unfold tryRetireCompletedContext
  by_cases hcomplete : context.bufferedComplete = true
  · rw [if_pos hcomplete]
    split
    · rename_i hmode
      exact hsend (by simp [hmode])
    · exact hsame
    · rename_i hmode
      split_ifs
      · exact hsend (by simp [hmode])
      · exact hsame
    · rename_i hmode
      exact hread hmode
  · rw [if_neg hcomplete]
    exact hsame

/-! ## Incoming SENDs -/

/-- A fresh context for the message of a fragment. -/
def freshContext (s : PdsManager) (key : RxMessageKey) (totalLength : ℕ) :
    RxMessageContext where
  key := key
  totalLength := totalLength
  payloadPerPacket := s.computePayloadPerPacket
  expectedChunks := s.computeExpectedChunks totalLength
  chunkArrived := List.replicate (s.computeExpectedChunks totalLength) false
  lastActivityMs := s.nowMs

/-- The context that a fragment of a SEND joins: the active one, or a fresh
one. -/
def sendContext (s : PdsManager) (key : RxMessageKey) (tag : SoftUeMetadataTag) :
    RxMessageContext :=
  ((s.rxMessageContexts.lookup key).filter fun context => !context.retired).getD
    (s.freshContext key tag.requestLength)

/-- A fragment that is refused: the resources as they are then, and the code of
the negative response. -/
structure SendRefusal where
  pool : RudReceiveResourcePool
  context : RxMessageContext
  returnCode : ResponseReturnCode

/-- A fragment that is taken in; `accepted` says whether the message is
accepted as unexpected with it. -/
structure SendAdmission where
  pool : RudReceiveResourcePool
  context : RxMessageContext
  accepted : Bool

/-- Admission when a receive is posted: a context without a target reserves an
arrival block and takes the posted buffer as its target. -/
def admitExpected (pool : RudReceiveResourcePool) (context : RxMessageContext)
    (posted : PostedReceiveBinding) : Except SendRefusal SendAdmission :=
  if context.lacksTarget then
    match pool.reserveArrivalBlock context with
    | none => .error ⟨pool, context, .resourceExhaust⟩
    | some (pool, context) =>
        .ok ⟨pool, { context with
          targetBaseAddr := posted.baseAddr
          targetLength := posted.length }.acceptExpected, false⟩
  else .ok ⟨pool, context.acceptExpected, false⟩

/-- Admission of an unexpected message: it reserves an arrival block and buffer
space. -/
def admitUnexpected (pool : RudReceiveResourcePool) (context : RxMessageContext) :
    Except SendRefusal SendAdmission :=
  match pool.reserveArrivalBlock context with
  | none =>
      .error ⟨pool, context,
        if pool.maxUnexpectedMessages = 0 ∨ pool.maxUnexpectedBytes = 0 then .noMatch
        else .resourceExhaust⟩
  | some (pool, context) =>
      match pool.reserveUnexpectedResources context with
      | none => .error ⟨pool, context, .noMatch⟩
      | some (pool, context) => .ok ⟨pool, context.acceptUnexpected, true⟩

/-- The part of `HandleIncomingSendPacket` before the fragment is stored. -/
def admitSend (s : PdsManager) (lookup : ReceiveLookupKey) (context : RxMessageContext) :
    Except SendRefusal SendAdmission :=
  match s.postedReceive lookup with
  | some posted => admitExpected s.receivePool context posted
  | none =>
      if context.unsettled then admitUnexpected s.receivePool context
      else .ok ⟨s.receivePool, context, false⟩

/-- The part of `HandleIncomingSendPacket` that stores an admitted fragment. -/
def storeSend (s : PdsManager) (key : RxMessageKey) (context : RxMessageContext)
    (tag : SoftUeMetadataTag) (packet : Packet) : PdsManager × RxMessageContext :=
  let direct :=
    if context.mode = .directExpected then
      s.copyPacketBytesToTarget packet context.targetBaseAddr tag.fragmentOffset
        (max 1 context.targetLength)
    else s
  let stored := direct.storeChunkInContext context tag packet
  let promoted := stored.1.tryPromoteUnexpectedToMatched stored.2
  promoted.1.tryRetireCompletedContext key promoted.2

/-- Whether the completion of a posted receive is still to be answered. -/
def completionUnanswered (context : RxMessageContext) : Bool :=
  context.mode = .directExpected && context.completed && !context.responseSent

/-- The answer of a completed SEND to a late fragment. -/
def tombstoneResult (tombstone : CompletedSendTombstone) : PdcRxSemanticResult where
  handled := true
  responseReady := true
  responseOpCode := .defaultResponse
  modifiedLength := tombstone.modifiedLength
  deliveryComplete := true
  semanticAccepted := true

/-- The answer to an admitted fragment, from the context after it is stored. -/
def storedResult (s : PdsManager) (accepted : Bool) (context : RxMessageContext) :
    PdcRxSemanticResult :=
  let answered := accepted || completionUnanswered context
  { handled := true
    responseReady := answered
    responseOpCode := if answered then .defaultResponse else .response
    modifiedLength := if answered then context.totalLength else 0
    semanticAccepted := context.semanticAccepted
    matchedToRecv := context.matchedToRecv
    deliveryComplete := context.completed
    failed := context.failed
    receiveConsumeCompleteNs := if context.completed then s.nowNs else 0 }

/-- `PdsManager::HandleIncomingSendPacket` after `PruneReceiveState`. -/
def receiveSend (s : PdsManager) (key : RxMessageKey) (tag : SoftUeMetadataTag)
    (packet : Packet) : PdsManager × PdcRxSemanticResult :=
  match s.completedSend key with
  | some tombstone => (s, tombstoneResult tombstone)
  | none =>
      match s.admitSend key.lookupKey (s.sendContext key tag) with
      | .error refusal =>
          let retired := { s with receivePool := refusal.pool }.retireContextResources
            { refusal.context with failed := true }
          (retired.1.setContext key retired.2,
            { handled := true
              responseReady := true
              responseOpCode := .nack
              returnCode := refusal.returnCode })
      | .ok admission =>
          let stored := { s with receivePool := admission.pool }.storeSend key
            admission.context tag packet
          (stored.1.setContext key
            { stored.2 with
              responseSent := stored.2.responseSent || completionUnanswered stored.2 },
            s.storedResult admission.accepted stored.2)

/-- `PdsManager::HandleIncomingSendPacket`. -/
def handleIncomingSendPacket (s : PdsManager) (pdcId : ℕ) (packet : TaggedPacket) :
    PdsManager × PdcRxSemanticResult :=
  s.pruneReceiveState.receiveSend (rxMessageKey .send packet.header packet.metadata pdcId)
    packet.metadata packet.bytes

/-! ## Posted receives -/

/-- The step of the loop of `RegisterPostedReceive` for one context. -/
def matchPostedReceive (lookup : ReceiveLookupKey) (s : PdsManager) (key : RxMessageKey) :
    PdsManager :=
  match s.rxMessageContexts.lookup key with
  | none => s
  | some context =>
      if !context.retired ∧ context.key.opcode = .send ∧ context.key.lookupKey = lookup then
        let promoted := s.tryPromoteUnexpectedToMatched context
        let retired := promoted.1.tryRetireCompletedContext key promoted.2
        retired.1.setContext key retired.2
      else s

/-- `PdsManager::RegisterPostedReceive`. -/
def registerPostedReceive (s : PdsManager) (lookup : ReceiveLookupKey)
    (baseAddr length : ℕ) : PdsManager :=
  let s := s.pruneReceiveState
  let posted := { s with
    postedReceives := s.postedReceives.insert lookup { baseAddr := baseAddr, length := length } }
  posted.rxMessageContexts.keys.foldl (matchPostedReceive lookup) posted

/-! ## Read responses -/

/-- `PdsManager::RegisterReadResponseTarget`. -/
def registerReadResponseTarget (s : PdsManager) (lookup : ReceiveLookupKey)
    (baseAddr length : ℕ) : PdsManager :=
  let s := s.pruneReceiveState
  { s with
    readResponseTargets := s.readResponseTargets.insert lookup
      { baseAddr := baseAddr, length := length } }

/-- `PdsManager::UnregisterReadResponseTarget`. -/
def unregisterReadResponseTarget (s : PdsManager) (lookup : ReceiveLookupKey) : PdsManager :=
  { s with readResponseTargets := s.readResponseTargets.erase lookup }

/-- A fresh context for the read data of a request. -/
def freshReadContext (s : PdsManager) (key : RxMessageKey) (target : ReadResponseTarget)
    (totalLength : ℕ) : RxMessageContext :=
  { s.freshContext key totalLength with
    mode := .readResponse
    semanticAccepted := true
    targetBaseAddr := target.baseAddr
    targetLength := target.length }

/-- The reservations for fresh read data: a read track, then an arrival block.
What was reserved is part of the result also on failure. -/
def admitReadResponse (s : PdsManager) (context : RxMessageContext) :
    Bool × RudReceiveResourcePool × RxMessageContext :=
  let pool := s.receivePool
  if pool.maxReadTracks ≤ pool.readTracksInUse then (false, pool, context)
  else
    let pool := { pool with readTracksInUse := pool.readTracksInUse + 1 }
    let context := { context with readTrackReserved := true }
    match pool.reserveArrivalBlock context with
    | none => (false, pool, context)
    | some (pool, context) => (true, pool, context)

/-- The read data of a fragment is stored, and complete read data is retired. -/
def storeReadResponse (s : PdsManager) (key : RxMessageKey) (context : RxMessageContext)
    (tag : SoftUeMetadataTag) (packet : Packet) : PdsManager × PdcRxSemanticResult :=
  let stored := s.storeChunkInContext context tag packet
  let retired := stored.1.tryRetireCompletedContext key stored.2
  (retired.1.setContext key retired.2,
    { handled := true
      responseOpCode := .responseWithData
      modifiedLength := retired.2.totalLength
      deliveryComplete := retired.2.completed })

/-- `PdsManager::HandleIncomingReadResponsePacket` after `PruneReceiveState`. -/
def receiveReadResponse (s : PdsManager) (key : RxMessageKey) (tag : SoftUeMetadataTag)
    (packet : Packet) : PdsManager × PdcRxSemanticResult :=
  match s.readResponseTargets.lookup key.lookupKey with
  | none => (s, {})
  | some target =>
      match (s.rxMessageContexts.lookup key).filter fun context => !context.retired with
      | some context => s.storeReadResponse key context tag packet
      | none =>
          let admission := s.admitReadResponse
            (s.freshReadContext key target tag.modifiedLength)
          let s := { s with receivePool := admission.2.1 }
          if admission.1 then s.storeReadResponse key admission.2.2 tag packet
          else
            let retired := s.retireContextResources { admission.2.2 with failed := true }
            (retired.1.setContext key retired.2,
              { handled := true
                responseReady := true
                responseOpCode := .nack
                returnCode := .resourceExhaust })

/-- `PdsManager::HandleIncomingReadResponsePacket`. -/
def handleIncomingReadResponsePacket (s : PdsManager) (pdcId : ℕ) (packet : TaggedPacket) :
    PdsManager × PdcRxSemanticResult :=
  s.pruneReceiveState.receiveReadResponse
    (rxMessageKey .read packet.header packet.metadata pdcId) packet.metadata packet.bytes

/-! ## Configuration -/

/-- `PdsManager::ConfigureReceiveSemantics`. -/
def configureReceiveSemantics (s : PdsManager) (maxUnexpectedMessages maxUnexpectedBytes
    arrivalTrackingCapacity retryTimeoutMs : ℕ) : PdsManager :=
  { s with
    receiveStateTimeoutMs := retryTimeoutMs
    receivePool := { s.receivePool with
      maxUnexpectedMessages := maxUnexpectedMessages
      maxUnexpectedBytes := maxUnexpectedBytes
      maxArrivalBlocks := arrivalTrackingCapacity } }

end PdsManager
end UeSim
