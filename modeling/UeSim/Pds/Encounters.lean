import UeSim.Pds.Receive

/-!
# What a fragment of a SEND meets at the receiver

The answer of `HandleIncomingSendPacket` to a fragment is decided by the state
before the call: by the tombstones, the posted receives, the pool of receive
resources and the chunks that have arrived.  An encounter names what the
fragment finds there, and the main theorem reads the answer off the encounter.
-/

namespace UeSim

/-- What a fragment of a SEND finds at the receiver. -/
inductive SendEncounter
  /-- The message is remembered as completed. -/
  | remembered
  /-- The fragment opens a context that cannot get its resources. -/
  | shortage
  /-- The fragment opens a context for an unexpected message, and the resources
  for it are there. -/
  | room
  /-- The fragment is all that a posted receive still waits for. -/
  | lastChunk
  /-- Anything else: the fragment is stored without an answer. -/
  | underway
  deriving DecidableEq, Repr

namespace RudReceiveResourcePool

variable {pool : RudReceiveResourcePool} {context : RxMessageContext}

theorem reserveArrivalBlock_eq_none :
    pool.reserveArrivalBlock context = none ↔
      (!context.arrivalReserved && pool.lacksArrivalBlock) = true := by
  unfold reserveArrivalBlock
  cases context.arrivalReserved <;> cases hlacks : pool.lacksArrivalBlock <;> simp

theorem not_lacks_of_reserveArrivalBlock {reserved : RudReceiveResourcePool × RxMessageContext}
    (h : pool.reserveArrivalBlock context = some reserved) :
    (!context.arrivalReserved && pool.lacksArrivalBlock) = false := by
  rw [Bool.eq_false_iff]
  intro hlacks
  cases h.symm.trans (reserveArrivalBlock_eq_none.mpr hlacks)

/-- An arrival block is taken from the pool only by a context that holds none. -/
theorem reserveArrivalBlock_eq_some {pool' : RudReceiveResourcePool}
    {context' : RxMessageContext}
    (h : pool.reserveArrivalBlock context = some (pool', context')) :
    pool' = { pool with
      arrivalBlocksInUse :=
        pool.arrivalBlocksInUse + if context.arrivalReserved then 0 else 1 } ∧
      context' = { context with arrivalReserved := true } := by
  unfold reserveArrivalBlock at h
  split_ifs at h with hheld hlacks
  · cases h
    exact ⟨by simp [hheld], by rw [← hheld]⟩
  · cases h
    exact ⟨by simp [hheld], rfl⟩

theorem reserveUnexpectedResources_eq_none :
    pool.reserveUnexpectedResources context = none ↔
      (!context.unexpectedReserved &&
        pool.lacksUnexpectedResources context.totalLength) = true := by
  unfold reserveUnexpectedResources
  cases context.unexpectedReserved <;>
    cases hlacks : pool.lacksUnexpectedResources context.totalLength <;> simp

theorem reserveUnexpectedResources_eq_some {pool' : RudReceiveResourcePool}
    {context' : RxMessageContext}
    (h : pool.reserveUnexpectedResources context = some (pool', context')) :
    context' = { context with unexpectedReserved := true } := by
  unfold reserveUnexpectedResources at h
  split_ifs at h with hheld hlacks
  · cases h
    rw [← hheld]
  · cases h
    rfl

end RudReceiveResourcePool

namespace RxMessageContext

/-- Whether the chunks of the context are complete once the fragment is
stored. -/
def completeWith (context : RxMessageContext) (tag : SoftUeMetadataTag) : Bool :=
  match context.chunkArrived[context.chunkIndex tag]? with
  | none => context.bufferedComplete
  | some arrived => context.expectedChunks ≤ context.chunksDone + if arrived then 0 else 1

end RxMessageContext

namespace PdsManager

/-! ## Admission -/

/-- A context that needs a target or a buffer, and whose resources are not
there. -/
def lacksResources (s : PdsManager) (lookup : ReceiveLookupKey)
    (context : RxMessageContext) : Bool :=
  let lacksBlock := !context.arrivalReserved && s.receivePool.lacksArrivalBlock
  if (s.postedReceive lookup).isSome then context.lacksTarget && lacksBlock
  else
    context.unsettled && (lacksBlock || (!context.unexpectedReserved &&
      s.receivePool.lacksUnexpectedResources context.totalLength))

/-- A context that is opened for an unexpected message. -/
def opensUnexpected (s : PdsManager) (lookup : ReceiveLookupKey)
    (context : RxMessageContext) : Bool :=
  (s.postedReceive lookup).isNone && context.unsettled

/-- The context with which a fragment is taken in. -/
def admittedContext (s : PdsManager) (lookup : ReceiveLookupKey)
    (context : RxMessageContext) : RxMessageContext :=
  match s.postedReceive lookup with
  | some posted =>
      if context.lacksTarget then
        { context with
          arrivalReserved := true
          targetBaseAddr := posted.baseAddr
          targetLength := posted.length }.acceptExpected
      else context.acceptExpected
  | none =>
      if context.unsettled then
        { context with
          arrivalReserved := true
          unexpectedReserved := true }.acceptUnexpected
      else context

variable {s : PdsManager} {lookup : ReceiveLookupKey} {key : RxMessageKey}
  {pool : RudReceiveResourcePool} {context : RxMessageContext}

theorem admitUnexpected_error {refusal : SendRefusal}
    (h : admitUnexpected pool context = .error refusal) :
    ((!context.arrivalReserved && pool.lacksArrivalBlock) ||
      (!context.unexpectedReserved && pool.lacksUnexpectedResources context.totalLength)) = true ∧
      refusal.returnCode ≠ .ok := by
  unfold admitUnexpected at h
  cases hblock : pool.reserveArrivalBlock context with
  | none =>
      simp only [hblock, Except.error.injEq] at h
      rw [RudReceiveResourcePool.reserveArrivalBlock_eq_none] at hblock
      rw [hblock, ← h]
      refine ⟨rfl, ?_⟩
      dsimp only
      split_ifs <;> simp
  | some reserved =>
      obtain ⟨pool', context'⟩ := reserved
      obtain ⟨rfl, rfl⟩ := RudReceiveResourcePool.reserveArrivalBlock_eq_some hblock
      simp only [hblock] at h
      split at h
      · rename_i hbuffer
        rw [RudReceiveResourcePool.reserveUnexpectedResources_eq_none] at hbuffer
        cases h
        exact ⟨Bool.or_eq_true_iff.mpr (.inr hbuffer), by simp⟩
      · cases h

theorem admitUnexpected_ok {admission : SendAdmission}
    (h : admitUnexpected pool context = .ok admission) :
    ((!context.arrivalReserved && pool.lacksArrivalBlock) ||
      (!context.unexpectedReserved && pool.lacksUnexpectedResources context.totalLength)) = false ∧
      admission.accepted = true ∧
      admission.context =
        { context with arrivalReserved := true, unexpectedReserved := true }.acceptUnexpected := by
  unfold admitUnexpected at h
  cases hblock : pool.reserveArrivalBlock context with
  | none => simp [hblock] at h
  | some reserved =>
      obtain ⟨pool', context'⟩ := reserved
      obtain ⟨rfl, rfl⟩ := RudReceiveResourcePool.reserveArrivalBlock_eq_some hblock
      have hfree := RudReceiveResourcePool.not_lacks_of_reserveArrivalBlock hblock
      simp only [hblock] at h
      split at h
      · cases h
      · rename_i pool' context' hbuffer
        have hcontext := RudReceiveResourcePool.reserveUnexpectedResources_eq_some hbuffer
        cases h
        refine ⟨?_, rfl, by rw [hcontext]⟩
        rw [hfree, Bool.false_or, Bool.eq_false_iff]
        intro hlacks
        cases hbuffer.symm.trans
          (RudReceiveResourcePool.reserveUnexpectedResources_eq_none.mpr hlacks)

/-- A fragment is refused only when its context lacks resources. -/
theorem admitSend_error {refusal : SendRefusal}
    (h : s.admitSend lookup context = .error refusal) :
    s.lacksResources lookup context = true ∧ refusal.returnCode ≠ .ok := by
  unfold admitSend at h
  unfold lacksResources
  cases hposted : s.postedReceive lookup with
  | some posted =>
      simp only [hposted, admitExpected] at h
      split_ifs at h with hneeds
      cases hblock : s.receivePool.reserveArrivalBlock context with
      | some reserved => simp [hblock] at h
      | none =>
          simp only [hblock, Except.error.injEq] at h
          rw [RudReceiveResourcePool.reserveArrivalBlock_eq_none] at hblock
          subst h
          simp [hneeds, hblock]
  | none =>
      simp only [hposted] at h
      split_ifs at h with hneeds
      obtain ⟨hlacks, hcode⟩ := admitUnexpected_error h
      exact ⟨by simpa [hneeds] using hlacks, hcode⟩

/-- A fragment is taken in only when its context has what it needs. -/
theorem admitSend_ok {admission : SendAdmission}
    (h : s.admitSend lookup context = .ok admission) :
    s.lacksResources lookup context = false ∧
      admission.accepted = s.opensUnexpected lookup context ∧
      admission.context = s.admittedContext lookup context := by
  unfold admitSend at h
  unfold lacksResources opensUnexpected admittedContext
  cases hposted : s.postedReceive lookup with
  | some posted =>
      simp only [hposted, admitExpected] at h
      split_ifs at h with hneeds
      · cases hblock : s.receivePool.reserveArrivalBlock context with
        | none => simp [hblock] at h
        | some reserved =>
            obtain ⟨pool', context'⟩ := reserved
            obtain ⟨rfl, rfl⟩ := RudReceiveResourcePool.reserveArrivalBlock_eq_some hblock
            simp only [hblock, Except.ok.injEq] at h
            subst h
            have hfree := RudReceiveResourcePool.not_lacks_of_reserveArrivalBlock hblock
            exact ⟨by simp [hfree], by simp, by simp [hneeds]⟩
      · cases h
        exact ⟨by simp [hneeds], by simp, by simp [hneeds]⟩
  | none =>
      simp only [hposted] at h
      split_ifs at h with hneeds
      · obtain ⟨hlacks, haccepted, hcontext⟩ := admitUnexpected_ok h
        exact ⟨by simpa using fun _ => hlacks, by simp [haccepted, hneeds],
          by simp [hcontext, hneeds]⟩
      · cases h
        exact ⟨by simp [hneeds], by simp [hneeds], by simp [hneeds]⟩

/-! ## Storing -/

theorem storeChunkInContext_mode (s : PdsManager) (context : RxMessageContext)
    (tag : SoftUeMetadataTag) (packet : Packet) :
    (s.storeChunkInContext context tag packet).2.mode = context.mode ∧
      (s.storeChunkInContext context tag packet).2.completed = context.completed ∧
      (s.storeChunkInContext context tag packet).2.responseSent = context.responseSent ∧
      (s.storeChunkInContext context tag packet).2.bufferedComplete = context.completeWith tag := by
  unfold storeChunkInContext RxMessageContext.completeWith
  cases context.chunkArrived[context.chunkIndex tag]? with
  | none => exact ⟨rfl, rfl, rfl, rfl⟩
  | some arrived => exact ⟨rfl, rfl, rfl, rfl⟩

theorem storeChunkInContext_target (s : PdsManager) (context : RxMessageContext)
    (tag : SoftUeMetadataTag) (packet : Packet) :
    (s.storeChunkInContext context tag packet).2.targetBaseAddr = context.targetBaseAddr ∧
      (s.storeChunkInContext context tag packet).2.targetLength = context.targetLength := by
  unfold storeChunkInContext
  cases context.chunkArrived[context.chunkIndex tag]? with
  | none => exact ⟨rfl, rfl⟩
  | some arrived => exact ⟨rfl, rfl⟩

theorem tryPromoteUnexpectedToMatched_of_mode (hmode : context.mode ≠ .unexpectedBuffered) :
    s.tryPromoteUnexpectedToMatched context = (s, context) := by
  simp [tryPromoteUnexpectedToMatched, hmode]

/-- An unexpected context is not direct after a try to promote it. -/
theorem tryPromoteUnexpectedToMatched_mode (hmode : context.mode ≠ .directExpected) :
    (s.tryPromoteUnexpectedToMatched context).2.mode ≠ .directExpected := by
  apply tryPromoteUnexpectedToMatched_rule (P := fun w => w.2.mode ≠ .directExpected) hmode
  intro posted _ _
  simp

theorem retireContextResources_keeps (s : PdsManager) (context : RxMessageContext) :
    (s.retireContextResources context).2.mode = context.mode ∧
      (s.retireContextResources context).2.completed = context.completed ∧
      (s.retireContextResources context).2.responseSent = context.responseSent := by
  unfold retireContextResources
  split_ifs <;> exact ⟨rfl, rfl, rfl⟩

theorem completeSend_keeps (s : PdsManager) (key : RxMessageKey) (context : RxMessageContext) :
    (s.completeSend key context).2.mode = context.mode ∧
      (s.completeSend key context).2.completed = true ∧
      (s.completeSend key context).2.responseSent = context.responseSent :=
  retireContextResources_keeps s { context with completed := true }

theorem tryRetireCompletedContext_keeps (s : PdsManager) (key : RxMessageKey)
    (context : RxMessageContext) :
    (s.tryRetireCompletedContext key context).2.mode = context.mode ∧
      (s.tryRetireCompletedContext key context).2.responseSent = context.responseSent := by
  have hsend := completeSend_keeps s key context
  refine tryRetireCompletedContext_rule (P := fun w => w.2.mode = context.mode ∧
    w.2.responseSent = context.responseSent) ⟨rfl, rfl⟩ ?_ ?_
  · intro _
    exact ⟨hsend.1, hsend.2.2⟩
  · intro _
    obtain ⟨hmode, -, hsent⟩ :=
      retireContextResources_keeps
        { s with readResponseTargets := s.readResponseTargets.erase context.key.lookupKey }
        { context with completed := true }
    exact ⟨hmode, hsent⟩

/-- A direct context is completed as soon as its chunks are complete. -/
theorem tryRetireCompletedContext_direct (hmode : context.mode = .directExpected) :
    (s.tryRetireCompletedContext key context).2.completed =
      (context.completed || context.bufferedComplete) := by
  unfold tryRetireCompletedContext
  cases hcomplete : context.bufferedComplete with
  | false => simp
  | true =>
      rw [if_pos rfl, Bool.or_true, hmode]
      exact (completeSend_keeps s key context).2.1

theorem completionUnanswered_retired (s : PdsManager) (key : RxMessageKey)
    (context : RxMessageContext) :
    completionUnanswered ((s.tryPromoteUnexpectedToMatched context).1.tryRetireCompletedContext
      key (s.tryPromoteUnexpectedToMatched context).2).2 =
      (context.mode = .directExpected && (context.completed || context.bufferedComplete) &&
        !context.responseSent) := by
  unfold completionUnanswered
  rw [(tryRetireCompletedContext_keeps _ key _).1]
  by_cases hdirect : context.mode = .directExpected
  · rw [tryPromoteUnexpectedToMatched_of_mode (by rw [hdirect]; simp),
      (tryRetireCompletedContext_keeps s key context).2,
      tryRetireCompletedContext_direct hdirect]
  · simp [hdirect, tryPromoteUnexpectedToMatched_mode (s := s) hdirect]

/-- Whether an admitted fragment is all that a posted receive still waits for. -/
def completesReceive (context : RxMessageContext) (tag : SoftUeMetadataTag) : Bool :=
  context.mode = .directExpected && (context.completed || context.completeWith tag) &&
    !context.responseSent

/-- The completion that is still to be answered after a fragment is stored. -/
theorem completionUnanswered_storeSend (s : PdsManager) (key : RxMessageKey)
    (context : RxMessageContext) (tag : SoftUeMetadataTag) (packet : Packet) :
    completionUnanswered (s.storeSend key context tag packet).2 =
      completesReceive context tag := by
  unfold storeSend completesReceive
  dsimp only
  obtain ⟨hmode, hcompleted, hsent, hcomplete⟩ := storeChunkInContext_mode
    (if context.mode = .directExpected then
      s.copyPacketBytesToTarget packet context.targetBaseAddr tag.fragmentOffset
        (max 1 context.targetLength)
    else s) context tag packet
  rw [completionUnanswered_retired, hmode, hcompleted, hsent, hcomplete]

/-! ## Encounters -/

/-- What a fragment of a SEND meets at the receiver. -/
def sendEncounter (s : PdsManager) (pdcId : ℕ) (packet : TaggedPacket) : SendEncounter :=
  let s := s.pruneReceiveState
  let key := rxMessageKey .send packet.header packet.metadata pdcId
  let context := s.sendContext key packet.metadata
  if (s.completedSend key).isSome then .remembered
  else if s.lacksResources key.lookupKey context then .shortage
  else if s.opensUnexpected key.lookupKey context then .room
  else if completesReceive (s.admittedContext key.lookupKey context) packet.metadata then
    .lastChunk
  else .underway

/-- An answer says no more and no less than what the fragment met. -/
structure AnswersEncounter (encounter : SendEncounter) (result : PdcRxSemanticResult) :
    Prop where
  handled : result.handled = true
  ready : result.responseReady = true ↔ encounter ≠ .underway
  nack : encounter = .shortage → result.responseOpCode = .nack ∧ result.returnCode ≠ .ok
  ok : encounter ≠ .shortage → result.responseOpCode ≠ .nack ∧ result.returnCode = .ok

theorem storedResult_opcode {accepted : Bool} :
    (s.storedResult accepted context).responseOpCode ≠ .nack := by
  unfold storedResult
  dsimp only
  split_ifs <;> simp

/-- `HandleIncomingSendPacket` answers a fragment by what it meets: with a
negative response on a shortage, with a success when the message is remembered,
has room or is completed, and not at all otherwise. -/
theorem handleIncomingSendPacket_answers (s : PdsManager) (pdcId : ℕ) (packet : TaggedPacket) :
    AnswersEncounter (s.sendEncounter pdcId packet)
      (s.handleIncomingSendPacket pdcId packet).2 := by
  unfold sendEncounter handleIncomingSendPacket receiveSend
  dsimp only
  generalize s.pruneReceiveState = s
  generalize rxMessageKey .send packet.header packet.metadata pdcId = key
  cases hremembered : s.completedSend key with
  | some tombstone => exact ⟨rfl, by simp [tombstoneResult], by simp, by simp [tombstoneResult]⟩
  | none =>
      generalize s.sendContext key packet.metadata = context
      cases hadmission : s.admitSend key.lookupKey context with
      | error refusal =>
          obtain ⟨hlacks, hcode⟩ := admitSend_error hadmission
          rw [if_neg (by simp), if_pos hlacks]
          exact ⟨rfl, by simp, fun _ => ⟨rfl, hcode⟩, by simp⟩
      | ok admission =>
          obtain ⟨hfree, haccepted, hcontext⟩ := admitSend_ok hadmission
          rw [if_neg (by simp), if_neg (by simp [hfree])]
          have hanswered := completionUnanswered_storeSend
            { s with receivePool := admission.pool } key admission.context packet.metadata
            packet.bytes
          have hresult : (storedResult s admission.accepted
              ({ s with receivePool := admission.pool }.storeSend key admission.context
                packet.metadata packet.bytes).2).responseReady =
              (s.opensUnexpected key.lookupKey context ||
                completesReceive (s.admittedContext key.lookupKey context) packet.metadata) := by
            rw [← haccepted, ← hcontext, ← hanswered]
            rfl
          split_ifs with hroom hlast
          · exact ⟨rfl, by simp [hresult, hroom], by simp, fun _ => ⟨storedResult_opcode, rfl⟩⟩
          · exact ⟨rfl, by simp [hresult, hlast], by simp, fun _ => ⟨storedResult_opcode, rfl⟩⟩
          · exact ⟨rfl, by simp [hresult, hroom, hlast], by simp,
              fun _ => ⟨storedResult_opcode, rfl⟩⟩

/-- A fragment that is refused is not stored. -/
theorem memory_of_refused (s : PdsManager) (pdcId : ℕ) (packet : TaggedPacket)
    (hrefused : (s.handleIncomingSendPacket pdcId packet).2.returnCode ≠ .ok) :
    (s.handleIncomingSendPacket pdcId packet).1.memory = s.memory := by
  unfold handleIncomingSendPacket receiveSend at hrefused ⊢
  have hprune : s.pruneReceiveState.memory = s.memory := rfl
  generalize s.pruneReceiveState = t at hrefused hprune ⊢
  generalize rxMessageKey .send packet.header packet.metadata pdcId = key at hrefused ⊢
  cases hremembered : t.completedSend key with
  | some tombstone => exact hprune
  | none =>
      rw [hremembered] at hrefused
      dsimp only at hrefused ⊢
      cases hadmission : t.admitSend key.lookupKey (t.sendContext key packet.metadata) with
      | error refusal =>
          rw [← hprune]
          unfold retireContextResources
          dsimp only
          split <;> rfl
      | ok admission =>
          rw [hadmission] at hrefused
          exact absurd rfl hrefused

end PdsManager
end UeSim
