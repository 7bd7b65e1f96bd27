import UeSim.Pds.Encounters
import UeSim.Pds.System
import Mathlib.Logic.Relation

/-!
# What the receive side can do in one step

Every call takes one receive context out of the map, works on it together with
the rest of the manager, and writes it back.  The work on a context is a chain
of elementary steps, and an action is a chain of such pieces of work, of a prune
and of changes to the registrations.  Invariants are proved for the elementary
steps only.

All pieces are relative to the state `s₀` in which the action `a` begins, so
that a piece can say what follows for it from a condition on `s₀` and `a`.
-/

namespace UeSim

/-! ## What an action is about -/

/-- The operation and the message that an action concerns. -/
def PdsAction.message : PdsAction → Option (OpType × ReceiveLookupKey)
  | .sendPacket pdcId packet =>
      some (.send, (rxMessageKey .send packet.header packet.metadata pdcId).lookupKey)
  | .readResponsePacket pdcId packet =>
      some (.read, (rxMessageKey .read packet.header packet.metadata pdcId).lookupKey)
  | .postReceive lookup _ _ => some (.send, lookup)
  | .registerReadTarget lookup _ _ => some (.read, lookup)
  | .unregisterReadTarget _ | .prune | .configure .. | .advanceClock _ => none

/-- The operation and the message of a receive context. -/
def RxMessageKey.message (key : RxMessageKey) : OpType × ReceiveLookupKey :=
  (key.opcode, key.lookupKey)

namespace RxMessageContext

/-- How far the stores of a fragment may reach behind the base of the target. -/
def reach (context : RxMessageContext) : ℕ :=
  if context.mode = .directExpected then max 1 context.targetLength else context.targetLength

theorem targetLength_le_reach (context : RxMessageContext) :
    context.targetLength ≤ context.reach := by
  unfold reach
  split
  · exact Nat.le_max_right _ _
  · exact le_rfl

/-- A fragment that is stored for the context meets a byte of the target, and
its address does not wrap around. -/
def KeepsInside (context : RxMessageContext) (tag : SoftUeMetadataTag) (packet : Packet) :
    Prop :=
  context.targetBaseAddr ≠ 0 → packet ≠ [] → tag.fragmentOffset < context.reach →
    tag.fragmentOffset < context.targetLength ∧
      context.targetBaseAddr + tag.fragmentOffset < 2 ^ 64

end RxMessageContext

namespace PdsManager

/-- The reservation of buffer space for the fragment does not wrap around. -/
def BytesFit (s : PdsManager) (lookup : ReceiveLookupKey) (context : RxMessageContext) : Prop :=
  s.opensUnexpected lookup context = true → s.lacksResources lookup context = false →
    s.receivePool.unexpectedBytesInUse + context.totalLength < 2 ^ 32

/-- The action stays within the pools. -/
def ActionFits (s : PdsManager) : PdsAction → Prop
  | .sendPacket pdcId packet =>
      let key := rxMessageKey .send packet.header packet.metadata pdcId
      s.pruneReceiveState.BytesFit key.lookupKey
        (s.pruneReceiveState.sendContext key packet.metadata)
  | .configure maxUnexpectedMessages maxUnexpectedBytes arrivalTrackingCapacity _ =>
      s.receivePool.unexpectedMessagesInUse ≤ maxUnexpectedMessages ∧
        s.receivePool.unexpectedBytesInUse ≤ maxUnexpectedBytes ∧
        s.receivePool.arrivalBlocksInUse ≤ arrivalTrackingCapacity
  | _ => True

/-- A context for which a fragment of a SEND is stored stays inside its
target. -/
def SendInside (s : PdsManager) (key : RxMessageKey) (tag : SoftUeMetadataTag)
    (packet : Packet) : Prop :=
  s.completedSend key = none → s.lacksResources key.lookupKey (s.sendContext key tag) = false →
    (s.admittedContext key.lookupKey (s.sendContext key tag)).KeepsInside tag packet

/-- The context for which a fragment of read data is stored, if it is. -/
def readContext (s : PdsManager) (key : RxMessageKey) (target : ReadResponseTarget)
    (tag : SoftUeMetadataTag) : Option RxMessageContext :=
  match (s.rxMessageContexts.lookup key).filter fun context => !context.retired with
  | some context => some context
  | none =>
      let admission := s.admitReadResponse (s.freshReadContext key target tag.modifiedLength)
      if admission.1 then some admission.2.2 else none

/-- A context for which a fragment of read data is stored stays inside its
target. -/
def ReadInside (s : PdsManager) (key : RxMessageKey) (tag : SoftUeMetadataTag)
    (packet : Packet) : Prop :=
  ∀ target, s.readResponseTargets.lookup key.lookupKey = some target →
    ∀ context, s.readContext key target tag = some context → context.KeepsInside tag packet

/-- The fragment that arrives is stored inside its target, if it is stored. -/
def ActionInside (s : PdsManager) : PdsAction → Prop
  | .sendPacket pdcId packet =>
      s.pruneReceiveState.SendInside (rxMessageKey .send packet.header packet.metadata pdcId)
        packet.metadata packet.bytes
  | .readResponsePacket pdcId packet =>
      s.pruneReceiveState.ReadInside (rxMessageKey .read packet.header packet.metadata pdcId)
        packet.metadata packet.bytes
  | _ => True

/-! ## Elementary steps -/

/-- The manager together with the context that a call works on. -/
abbrev Working := PdsManager × RxMessageContext

/-- One elementary step of the work on the context of `key`. -/
inductive Work (s₀ : PdsManager) (a : PdsAction) (key : RxMessageKey) : Working → Working → Prop
  | arrivalBlock {s : PdsManager} {context : RxMessageContext}
      (hactive : context.retired = false) (hheld : context.arrivalReserved = false)
      (hroom : s.receivePool.lacksArrivalBlock = false) :
      Work s₀ a key (s, context)
        ({ s with receivePool :=
            { s.receivePool with arrivalBlocksInUse := s.receivePool.arrivalBlocksInUse + 1 } },
          { context with arrivalReserved := true })
  | unexpected {s : PdsManager} {context : RxMessageContext}
      (hactive : context.retired = false) (hheld : context.unexpectedReserved = false)
      (hroom : s.receivePool.lacksUnexpectedResources context.totalLength = false)
      (hfits : s₀.ActionFits a →
        s.receivePool.unexpectedBytesInUse + context.totalLength < 2 ^ 32) :
      Work s₀ a key (s, context)
        ({ s with receivePool :=
            { s.receivePool with
              unexpectedMessagesInUse := s.receivePool.unexpectedMessagesInUse + 1
              unexpectedBytesInUse :=
                toU32 (s.receivePool.unexpectedBytesInUse + context.totalLength) } },
          { context with unexpectedReserved := true })
  | readTrack {s : PdsManager} {context : RxMessageContext}
      (hactive : context.retired = false) (hheld : context.readTrackReserved = false)
      (hmode : context.mode = .readResponse)
      (hroom : s.receivePool.readTracksInUse < s.receivePool.maxReadTracks) :
      Work s₀ a key (s, context)
        ({ s with receivePool :=
            { s.receivePool with readTracksInUse := s.receivePool.readTracksInUse + 1 } },
          { context with readTrackReserved := true })
  | target {s : PdsManager} {context : RxMessageContext} {posted : PostedReceiveBinding}
      (hopcode : key.opcode = .send) (hposted : s.postedReceive key.lookupKey = some posted)
      (hlacks : context.lacksTarget = true) :
      Work s₀ a key (s, context)
        (s, { context with
          targetBaseAddr := posted.baseAddr
          targetLength := posted.length })
  | expect {s : PdsManager} {context : RxMessageContext} {posted : PostedReceiveBinding}
      (hopcode : key.opcode = .send) (hposted : s.postedReceive key.lookupKey = some posted)
      (htarget : context.lacksTarget = false) :
      Work s₀ a key (s, context) (s, context.acceptExpected)
  | buffer {s : PdsManager} {context : RxMessageContext}
      (hunsettled : context.unsettled = true)
      (harrival : context.arrivalReserved = true)
      (hunexpected : context.unexpectedReserved = true) :
      Work s₀ a key (s, context) (s, context.acceptUnexpected)
  | direct {s : PdsManager} {context : RxMessageContext} (tag : SoftUeMetadataTag)
      (packet : Packet) (hmode : context.mode = .directExpected)
      (hinside : s₀.ActionInside a → context.KeepsInside tag packet) :
      Work s₀ a key (s, context)
        (s.copyPacketBytesToTarget packet context.targetBaseAddr tag.fragmentOffset
          (max 1 context.targetLength), context)
  | store {s : PdsManager} {context : RxMessageContext} (tag : SoftUeMetadataTag)
      (packet : Packet) (hinside : s₀.ActionInside a → context.KeepsInside tag packet) :
      Work s₀ a key (s, context) (s.storeChunkInContext context tag packet)
  | promote {s : PdsManager} {context : RxMessageContext} :
      Work s₀ a key (s, context) (s.tryPromoteUnexpectedToMatched context)
  | finish {s : PdsManager} {context : RxMessageContext} :
      Work s₀ a key (s, context) (s.tryRetireCompletedContext key context)
  | answer {s : PdsManager} {context : RxMessageContext}
      (hunanswered : completionUnanswered context = true) :
      Work s₀ a key (s, context) (s, { context with responseSent := true })
  | refuse {s : PdsManager} {context : RxMessageContext} :
      Work s₀ a key (s, context) (s.retireContextResources { context with failed := true })

/-- A chain of elementary steps. -/
abbrev Works (s₀ : PdsManager) (a : PdsAction) (key : RxMessageKey) : Working → Working → Prop :=
  Relation.ReflTransGen (Work s₀ a key)

/-- A context that a call may work on: the active one, or a fresh one when no
context of the key is active. -/
inductive Opened (s₀ : PdsManager) (a : PdsAction) (s : PdsManager) (key : RxMessageKey) :
    RxMessageContext → Prop
  | active {context : RxMessageContext} (hlookup : s.rxMessageContexts.lookup key = some context)
      (hactive : context.retired = false)
      (hmessage : a.message = some key.message ∨ a.message = some context.key.message) :
      Opened s₀ a s key context
  | send {pdcId : ℕ} {packet : TaggedPacket} (ha : a = .sendPacket pdcId packet)
      (hs : s = s₀.pruneReceiveState)
      (hkey : key = rxMessageKey .send packet.header packet.metadata pdcId)
      (hnone : ∀ context, s.rxMessageContexts.lookup key = some context →
        context.retired = true) (hnew : s.completedSend key = none) :
      Opened s₀ a s key (s.freshContext key packet.metadata.requestLength)
  | read {pdcId : ℕ} {packet : TaggedPacket} {target : ReadResponseTarget}
      (ha : a = .readResponsePacket pdcId packet) (hs : s = s₀.pruneReceiveState)
      (hkey : key = rxMessageKey .read packet.header packet.metadata pdcId)
      (hnone : ∀ context, s.rxMessageContexts.lookup key = some context →
        context.retired = true)
      (htarget : s.readResponseTargets.lookup key.lookupKey = some target) :
      Opened s₀ a s key (s.freshReadContext key target packet.metadata.modifiedLength)

/-- A piece of the action `a`, which begins in `s₀`. -/
inductive Change (s₀ : PdsManager) (a : PdsAction) : PdsManager → PdsManager → Prop
  | prune : Change s₀ a s₀ s₀.pruneReceiveState
  | work {s s' : PdsManager} {key : RxMessageKey} {context context' : RxMessageContext}
      (hopened : Opened s₀ a s key context)
      (hwork : Works s₀ a key (s, context) (s', context')) :
      Change s₀ a s (s'.setContext key context')
  | post (lookup : ReceiveLookupKey) (baseAddr length : ℕ)
      (ha : a = .postReceive lookup baseAddr length) :
      Change s₀ a s₀.pruneReceiveState
        { s₀.pruneReceiveState with
          postedReceives :=
            s₀.pruneReceiveState.postedReceives.insert lookup
              { baseAddr := baseAddr, length := length } }
  | register (lookup : ReceiveLookupKey) (baseAddr length : ℕ)
      (ha : a = .registerReadTarget lookup baseAddr length) :
      Change s₀ a s₀.pruneReceiveState
        { s₀.pruneReceiveState with
          readResponseTargets :=
            s₀.pruneReceiveState.readResponseTargets.insert lookup
              { baseAddr := baseAddr, length := length } }
  | unregister (lookup : ReceiveLookupKey) (ha : a = .unregisterReadTarget lookup) :
      Change s₀ a s₀ (s₀.unregisterReadResponseTarget lookup)
  | configure (maxUnexpectedMessages maxUnexpectedBytes arrivalTrackingCapacity
      retryTimeoutMs : ℕ)
      (ha : a = .configure maxUnexpectedMessages maxUnexpectedBytes arrivalTrackingCapacity
        retryTimeoutMs) :
      Change s₀ a s₀
        (s₀.configureReceiveSemantics maxUnexpectedMessages maxUnexpectedBytes
          arrivalTrackingCapacity retryTimeoutMs)
  | clock (deltaNs : ℕ) (ha : a = .advanceClock deltaNs) :
      Change s₀ a s₀ { s₀ with nowNs := s₀.nowNs + deltaNs }

/-- A chain of pieces. -/
abbrev Changes (s₀ : PdsManager) (a : PdsAction) : PdsManager → PdsManager → Prop :=
  Relation.ReflTransGen (Change s₀ a)

variable {s₀ s s' : PdsManager} {a : PdsAction} {key : RxMessageKey} {context : RxMessageContext}

/-! ## What the parts of a call change -/

theorem mode_of_unsettled (h : context.unsettled = true) : context.mode = .directExpected := by
  simp only [RxMessageContext.unsettled, RxMessageContext.lacksTarget, Bool.and_eq_true,
    decide_eq_true_eq] at h
  exact h.1.1

/-- A write changes the memory and its log only. -/
theorem writeMemory_eq (s : PdsManager) (addr : ℕ) (bytes : List UInt8) :
    ∃ memory memoryWrites, s.writeMemory addr bytes =
      { s with memory := memory, memoryWrites := memoryWrites } := by
  unfold writeMemory
  split
  · exact ⟨s.memory, s.memoryWrites, rfl⟩
  · exact ⟨_, _, rfl⟩

theorem copyPacketBytesToTarget_eq (s : PdsManager) (packet : Packet)
    (baseAddr offset maxLength : ℕ) :
    ∃ memory memoryWrites, s.copyPacketBytesToTarget packet baseAddr offset maxLength =
      { s with memory := memory, memoryWrites := memoryWrites } := by
  unfold copyPacketBytesToTarget
  split
  · exact ⟨s.memory, s.memoryWrites, rfl⟩
  · exact writeMemory_eq _ _ _

theorem storeChunkInContext_eq (s : PdsManager) (context : RxMessageContext)
    (tag : SoftUeMetadataTag) (packet : Packet) :
    ∃ memory memoryWrites, (s.storeChunkInContext context tag packet).1 =
      { s with memory := memory, memoryWrites := memoryWrites } := by
  unfold storeChunkInContext
  split
  · exact ⟨s.memory, s.memoryWrites, rfl⟩
  · dsimp only
    split
    · exact copyPacketBytesToTarget_eq _ _ _ _ _
    · exact ⟨s.memory, s.memoryWrites, rfl⟩

/-- The retirement of a context changes the pool only. -/
theorem retireContextResources_eq (s : PdsManager) (context : RxMessageContext) :
    ∃ pool, (s.retireContextResources context).1 = { s with receivePool := pool } := by
  unfold retireContextResources
  split
  · exact ⟨s.receivePool, rfl⟩
  · exact ⟨_, rfl⟩

theorem tryPromoteUnexpectedToMatched_rxMessageContexts (s : PdsManager)
    (context : RxMessageContext) :
    (s.tryPromoteUnexpectedToMatched context).1.rxMessageContexts = s.rxMessageContexts := by
  refine tryPromoteUnexpectedToMatched_rule (P := fun w => w.1.rxMessageContexts =
    s.rxMessageContexts) rfl ?_
  intro posted _ _
  obtain ⟨memory, memoryWrites, hwrite⟩ := writeMemory_eq s posted.baseAddr
    (context.payloadBuffer.take posted.length)
  dsimp only
  rw [hwrite]

theorem completeSend_rxMessageContexts (s : PdsManager) (key : RxMessageKey)
    (context : RxMessageContext) :
    (s.completeSend key context).1.rxMessageContexts = s.rxMessageContexts := by
  obtain ⟨pool, hretire⟩ := retireContextResources_eq s { context with completed := true }
  rw [completeSend, hretire]

theorem tryRetireCompletedContext_rxMessageContexts (s : PdsManager) (key : RxMessageKey)
    (context : RxMessageContext) :
    (s.tryRetireCompletedContext key context).1.rxMessageContexts = s.rxMessageContexts := by
  refine tryRetireCompletedContext_rule (P := fun w => w.1.rxMessageContexts =
    s.rxMessageContexts) rfl ?_ ?_
  · intro _
    exact completeSend_rxMessageContexts s key context
  · intro _
    obtain ⟨pool, hretire⟩ := retireContextResources_eq
      { s with readResponseTargets := s.readResponseTargets.erase context.key.lookupKey }
      { context with completed := true }
    rw [hretire]

theorem setContext_rxMessageContexts {s' : PdsManager}
    (h : s'.rxMessageContexts = s.rxMessageContexts) (key : RxMessageKey)
    (context : RxMessageContext) :
    (s'.setContext key context).rxMessageContexts = s.rxMessageContexts.insert key context := by
  rw [setContext, h]

theorem retireContextResources_rxMessageContexts (s : PdsManager)
    (context : RxMessageContext) :
    (s.retireContextResources context).1.rxMessageContexts = s.rxMessageContexts := by
  obtain ⟨pool, hretire⟩ := retireContextResources_eq s context
  rw [hretire]

theorem storeSend_rxMessageContexts (s : PdsManager) (key : RxMessageKey)
    (context : RxMessageContext) (tag : SoftUeMetadataTag) (packet : Packet) :
    (s.storeSend key context tag packet).1.rxMessageContexts = s.rxMessageContexts := by
  have hdirect : (if context.mode = .directExpected then
      s.copyPacketBytesToTarget packet context.targetBaseAddr tag.fragmentOffset
        (max 1 context.targetLength) else s).rxMessageContexts = s.rxMessageContexts := by
    obtain ⟨memory, memoryWrites, hcopy⟩ := copyPacketBytesToTarget_eq s packet
      context.targetBaseAddr tag.fragmentOffset (max 1 context.targetLength)
    rw [hcopy]
    split <;> rfl
  unfold storeSend
  dsimp only
  generalize (if context.mode = .directExpected then _ else s) = direct at hdirect ⊢
  obtain ⟨memory, memoryWrites, hstore⟩ := storeChunkInContext_eq direct context tag packet
  rw [tryRetireCompletedContext_rxMessageContexts,
    tryPromoteUnexpectedToMatched_rxMessageContexts, hstore]
  exact hdirect

/-- Work on a context leaves the map of contexts alone. -/
theorem rxMessageContexts_work {w w' : Working} (hwork : Work s₀ a key w w') :
    w'.1.rxMessageContexts = w.1.rxMessageContexts := by
  cases hwork with
  | @direct s context tag packet =>
      obtain ⟨memory, memoryWrites, hcopy⟩ := copyPacketBytesToTarget_eq s packet
        context.targetBaseAddr tag.fragmentOffset (max 1 context.targetLength)
      rw [hcopy]
  | @store s context tag packet =>
      obtain ⟨memory, memoryWrites, hstore⟩ := storeChunkInContext_eq s context tag packet
      rw [hstore]
  | promote => exact tryPromoteUnexpectedToMatched_rxMessageContexts _ _
  | finish => exact tryRetireCompletedContext_rxMessageContexts _ _ _
  | @refuse s context =>
      obtain ⟨pool, hretire⟩ := retireContextResources_eq s { context with failed := true }
      rw [hretire]
  | arrivalBlock | unexpected | readTrack | target | expect | buffer | answer => rfl

theorem rxMessageContexts_works {w w' : Working} (hworks : Works s₀ a key w w') :
    w'.1.rxMessageContexts = w.1.rxMessageContexts := by
  induction hworks with
  | refl => rfl
  | tail _ hwork ih => exact (rxMessageContexts_work hwork).trans ih

/-! ## Contexts and their keys -/

/-- A context records its key, and it is in the mode of read data exactly when
the key is not one of a SEND. -/
structure Belongs (key : RxMessageKey) (context : RxMessageContext) : Prop where
  keyed : context.key = key
  mode : context.mode = .readResponse ↔ key.opcode ≠ .send

theorem Belongs.opcode_eq_send (h : Belongs key context) (hmode : context.mode ≠ .readResponse) :
    key.opcode = .send := by
  by_contra hopcode
  exact hmode (h.mode.mpr hopcode)

theorem Belongs.of_mode {context' : RxMessageContext} (h : Belongs key context)
    (hkey : context'.key = context.key) (hmode : context.mode ≠ .readResponse)
    (hmode' : context'.mode ≠ .readResponse) : Belongs key context' :=
  ⟨hkey.trans h.keyed, by simp [hmode', h.opcode_eq_send hmode]⟩

theorem retireContextResources_key (s : PdsManager) (context : RxMessageContext) :
    (s.retireContextResources context).2.key = context.key ∧
      (s.retireContextResources context).2.mode = context.mode := by
  unfold retireContextResources
  split <;> exact ⟨rfl, rfl⟩

theorem Belongs.retire (h : Belongs key context) :
    Belongs key (s.retireContextResources context).2 := by
  obtain ⟨hkey, hmode⟩ := retireContextResources_key s context
  exact ⟨hkey.trans h.keyed, by rw [hmode]; exact h.mode⟩

theorem Belongs.finish (h : Belongs key context) :
    Belongs key (s.tryRetireCompletedContext key context).2 := by
  have hcompleted : Belongs key { context with completed := true } := ⟨h.keyed, h.mode⟩
  apply tryRetireCompletedContext_rule (P := fun w => Belongs key w.2) h
  · intro _
    exact hcompleted.retire
  · intro _
    exact hcompleted.retire

/-- Work on a context leaves it with its key. -/
theorem Belongs.work {w w' : Working} (h : Belongs key w.2) (hwork : Work s₀ a key w w') :
    Belongs key w'.2 := by
  cases hwork with
  | arrivalBlock | unexpected | readTrack | target | answer => exact ⟨h.keyed, h.mode⟩
  | expect hopcode =>
      unfold RxMessageContext.acceptExpected
      split
      · exact h
      · exact ⟨h.keyed, by simp [hopcode]⟩
  | buffer hunsettled =>
      refine h.of_mode rfl ?_ ?_
      · simp [mode_of_unsettled hunsettled]
      · simp [RxMessageContext.acceptUnexpected]
  | direct => exact h
  | store =>
      unfold storeChunkInContext
      split
      · exact h
      · exact ⟨h.keyed, h.mode⟩
  | promote =>
      apply tryPromoteUnexpectedToMatched_rule (P := fun w => Belongs key w.2) h
      intro posted hmode _
      exact h.of_mode rfl (by simp [hmode]) (by simp)
  | finish => exact h.finish
  | refuse => exact Belongs.retire ⟨h.keyed, h.mode⟩

theorem Belongs.works {w w' : Working} (h : Belongs key w.2) (hworks : Works s₀ a key w w') :
    Belongs key w'.2 := by
  induction hworks with
  | refl => exact h
  | tail _ hwork ih => exact ih.work hwork

theorem Opened.belongs (h : Opened s₀ a s key context)
    (hcontexts : ∀ key context, s.rxMessageContexts.lookup key = some context →
      Belongs key context) : Belongs key context := by
  cases h with
  | active hlookup => exact hcontexts key context hlookup
  | send _ _ hkey => exact ⟨rfl, by rw [hkey]; simp [freshContext, rxMessageKey]⟩
  | read _ _ hkey => exact ⟨rfl, by rw [hkey]; simp [freshReadContext, rxMessageKey]⟩

/-- Pruning keeps the key, the mode and the target of a context. -/
theorem prune_keeps {nowMs ttl : ℕ} {context' : RxMessageContext}
    (h : context.prune nowMs ttl = some context') :
    context'.key = context.key ∧ context'.mode = context.mode ∧
      context'.targetBaseAddr = context.targetBaseAddr ∧
      context'.targetLength = context.targetLength := by
  unfold RxMessageContext.prune at h
  dsimp only at h
  split_ifs at h
  · cases h
    exact ⟨rfl, rfl, rfl, rfl⟩
  · cases h
    exact ⟨rfl, rfl, rfl, rfl⟩

theorem Belongs.prune {nowMs ttl : ℕ} {context' : RxMessageContext} (h : Belongs key context)
    (hprune : context.prune nowMs ttl = some context') : Belongs key context' := by
  obtain ⟨hkey, hmode, -, -⟩ := prune_keeps hprune
  exact ⟨hkey.trans h.keyed, by rw [hmode]; exact h.mode⟩

/-! ## SENDs -/

theorem reserveArrivalBlock_works {pool : RudReceiveResourcePool}
    {context' : RxMessageContext} (hactive : context.retired = false)
    (h : s.receivePool.reserveArrivalBlock context = some (pool, context')) :
    Works s₀ a key (s, context) ({ s with receivePool := pool }, context') := by
  unfold RudReceiveResourcePool.reserveArrivalBlock at h
  split_ifs at h with hheld hlacks
  · cases h
    exact .refl
  · cases h
    exact .single (.arrivalBlock hactive (by simpa using hheld) (by simpa using hlacks))

theorem reserveUnexpectedResources_works {pool : RudReceiveResourcePool}
    {context' : RxMessageContext} (hactive : context.retired = false)
    (hfits : s₀.ActionFits a → context.unexpectedReserved = false →
      s.receivePool.lacksUnexpectedResources context.totalLength = false →
        s.receivePool.unexpectedBytesInUse + context.totalLength < 2 ^ 32)
    (h : s.receivePool.reserveUnexpectedResources context = some (pool, context')) :
    Works s₀ a key (s, context) ({ s with receivePool := pool }, context') := by
  unfold RudReceiveResourcePool.reserveUnexpectedResources at h
  split_ifs at h with hheld hlacks
  · cases h
    exact .refl
  · cases h
    have hheld : context.unexpectedReserved = false := by simpa using hheld
    have hroom : s.receivePool.lacksUnexpectedResources context.totalLength = false := by
      simpa using hlacks
    exact .single (.unexpected hactive hheld hroom fun hf => hfits hf hheld hroom)

/-- The manager and the context as an admission leaves them. -/
def admissionResult (s : PdsManager) : Except SendRefusal SendAdmission → Working
  | .error refusal => ({ s with receivePool := refusal.pool }, refusal.context)
  | .ok admission => ({ s with receivePool := admission.pool }, admission.context)

theorem admitUnexpected_works (hactive : context.retired = false)
    (hunsettled : context.unsettled = true)
    (hfits : s₀.ActionFits a →
      ((!context.arrivalReserved && s.receivePool.lacksArrivalBlock) ||
        (!context.unexpectedReserved &&
          s.receivePool.lacksUnexpectedResources context.totalLength)) = false →
        s.receivePool.unexpectedBytesInUse + context.totalLength < 2 ^ 32) :
    Works s₀ a key (s, context)
      (s.admissionResult (admitUnexpected s.receivePool context)) := by
  unfold admitUnexpected
  cases hblock : s.receivePool.reserveArrivalBlock context with
  | none => exact .refl
  | some reserved =>
      obtain ⟨pool, context'⟩ := reserved
      have hfirst : Works s₀ a key (s, context) ({ s with receivePool := pool }, context') :=
        reserveArrivalBlock_works hactive hblock
      have hfree := RudReceiveResourcePool.not_lacks_of_reserveArrivalBlock hblock
      obtain ⟨hpool, hcontext⟩ := RudReceiveResourcePool.reserveArrivalBlock_eq_some hblock
      dsimp only
      cases hbuffer : pool.reserveUnexpectedResources context' with
      | none => exact hfirst
      | some reserved =>
          obtain ⟨pool', context''⟩ := reserved
          have hheld := RudReceiveResourcePool.reserveUnexpectedResources_eq_some hbuffer
          have hsecond : Works s₀ a key ({ s with receivePool := pool }, context')
              ({ s with receivePool := pool' }, context'') := by
            refine reserveUnexpectedResources_works (s := { s with receivePool := pool })
              (by rw [hcontext]; exact hactive) ?_ hbuffer
            intro hf hnew hroom
            subst hpool hcontext
            refine hfits hf ?_
            rw [hfree, Bool.false_or, Bool.and_eq_false_iff]
            exact .inr hroom
          refine (hfirst.trans hsecond).tail (.buffer ?_ ?_ ?_)
          · rw [hheld, hcontext]
            exact hunsettled
          · rw [hheld, hcontext]
          · rw [hheld]

theorem admitSend_works (hopcode : key.opcode = .send) (hactive : context.retired = false)
    (hfits : s₀.ActionFits a → s.BytesFit key.lookupKey context) :
    Works s₀ a key (s, context) (s.admissionResult (s.admitSend key.lookupKey context)) := by
  unfold admitSend
  cases hposted : s.postedReceive key.lookupKey with
  | some posted =>
      have hnonzero : posted.baseAddr ≠ 0 := by
        simpa using (Option.filter_eq_some_iff.mp hposted).2
      dsimp only [admitExpected]
      by_cases hlacks : context.lacksTarget = true
      · rw [if_pos hlacks]
        cases hblock : s.receivePool.reserveArrivalBlock context with
        | none => exact .refl
        | some reserved =>
            obtain ⟨pool, context'⟩ := reserved
            have hfirst : Works s₀ a key (s, context)
                ({ s with receivePool := pool }, context') :=
              reserveArrivalBlock_works hactive hblock
            obtain ⟨-, hcontext⟩ := RudReceiveResourcePool.reserveArrivalBlock_eq_some hblock
            have htarget : Work s₀ a key ({ s with receivePool := pool }, context')
                ({ s with receivePool := pool },
                  { context' with
                    targetBaseAddr := posted.baseAddr
                    targetLength := posted.length }) :=
              .target hopcode hposted (by rw [hcontext]; exact hlacks)
            have htargeted := hfirst.tail htarget
            exact htargeted.tail (.expect (s := { s with receivePool := pool }) hopcode hposted
              (by simp [RxMessageContext.lacksTarget, hnonzero]))
      · rw [if_neg hlacks]
        exact .single (.expect hopcode hposted (by simpa using hlacks))
  | none =>
      dsimp only
      by_cases hunsettled : context.unsettled = true
      · rw [if_pos hunsettled]
        refine admitUnexpected_works hactive hunsettled fun hf hroom => hfits hf ?_ ?_
        · simp [opensUnexpected, hposted, hunsettled]
        · simpa [lacksResources, hposted, hunsettled] using hroom
      · rw [if_neg hunsettled]
        exact .refl

theorem storeSend_works (tag : SoftUeMetadataTag) (packet : Packet)
    (hinside : s₀.ActionInside a → context.KeepsInside tag packet) :
    Works s₀ a key (s, context) (s.storeSend key context tag packet) := by
  unfold storeSend
  by_cases hmode : context.mode = .directExpected
  · rw [if_pos hmode]
    exact (((Relation.ReflTransGen.single (.direct tag packet hmode hinside)).tail
      (.store tag packet hinside)).tail .promote).tail .finish
  · rw [if_neg hmode]
    exact ((Relation.ReflTransGen.single (.store tag packet hinside)).tail .promote).tail .finish

theorem answered_works (s : PdsManager) (context : RxMessageContext) :
    Works s₀ a key (s, context)
      (s, { context with
        responseSent := context.responseSent || completionUnanswered context }) := by
  cases hunanswered : completionUnanswered context with
  | true =>
      rw [Bool.or_true]
      exact .single (.answer hunanswered)
  | false => rw [Bool.or_false]

theorem opened_sendContext {pdcId : ℕ} {packet : TaggedPacket} (s₀ : PdsManager)
    (hkey : key = rxMessageKey .send packet.header packet.metadata pdcId)
    (hnew : s₀.pruneReceiveState.completedSend key = none) :
    Opened s₀ (.sendPacket pdcId packet) s₀.pruneReceiveState key
      (s₀.pruneReceiveState.sendContext key packet.metadata) := by
  unfold sendContext
  cases hlookup : s₀.pruneReceiveState.rxMessageContexts.lookup key with
  | none => exact .send rfl rfl hkey (by simp [hlookup]) hnew
  | some context =>
      cases hretired : context.retired with
      | true =>
          rw [Option.filter_some, if_neg (by simp [hretired])]
          refine .send rfl rfl hkey (fun context' hlookup' => ?_) hnew
          cases hlookup.symm.trans hlookup'
          exact hretired
      | false =>
          rw [Option.filter_some, hretired]
          exact .active hlookup hretired (.inl (by rw [hkey]; rfl))

theorem Opened.retired_eq_false (h : Opened s₀ a s key context) : context.retired = false := by
  cases h with
  | active _ hactive => exact hactive
  | send | read => rfl

theorem retired_sendContext (s : PdsManager) (key : RxMessageKey) (tag : SoftUeMetadataTag) :
    (s.sendContext key tag).retired = false := by
  unfold sendContext
  cases hactive : (s.rxMessageContexts.lookup key).filter fun context => !context.retired with
  | none => rfl
  | some context => simpa using (Option.filter_eq_some_iff.mp hactive).2

/-- A fragment of a SEND either meets a tombstone, or one context is worked on. -/
theorem receiveSend_works (tag : SoftUeMetadataTag) (packet : Packet)
    (hopcode : key.opcode = .send)
    (hfits : s₀.ActionFits a → s.BytesFit key.lookupKey (s.sendContext key tag))
    (hinside : s₀.ActionInside a → s.SendInside key tag packet) :
    (∃ tombstone, s.completedSend key = some tombstone ∧
      s.receiveSend key tag packet = (s, tombstoneResult tombstone)) ∨
    s.completedSend key = none ∧
      ∃ s' context', Works s₀ a key (s, s.sendContext key tag) (s', context') ∧
        (s.receiveSend key tag packet).1 = s'.setContext key context' := by
  unfold receiveSend
  cases hremembered : s.completedSend key with
  | some tombstone => exact .inl ⟨tombstone, rfl, rfl⟩
  | none =>
      refine .inr ⟨rfl, ?_⟩
      have hworks := admitSend_works hopcode (retired_sendContext s key tag) hfits
      cases hadmission : s.admitSend key.lookupKey (s.sendContext key tag) with
      | error refusal =>
          rw [hadmission] at hworks
          exact ⟨_, _, hworks.tail .refuse, rfl⟩
      | ok admission =>
          rw [hadmission] at hworks
          obtain ⟨hfree, -, hcontext⟩ := admitSend_ok hadmission
          have hstored := hworks.trans (storeSend_works tag packet fun ha =>
            hcontext ▸ hinside ha hremembered hfree)
          exact ⟨_, _, hstored.trans (answered_works _ _), rfl⟩

/-! ## Read responses -/

theorem admitReadResponse_works (hactive : context.retired = false)
    (hheld : context.readTrackReserved = false) (hmode : context.mode = .readResponse) :
    Works s₀ a key (s, context)
      ({ s with receivePool := (s.admitReadResponse context).2.1 },
        (s.admitReadResponse context).2.2) := by
  unfold admitReadResponse
  by_cases hfull : s.receivePool.maxReadTracks ≤ s.receivePool.readTracksInUse
  · simp only [if_pos hfull]
    exact .refl
  · simp only [if_neg hfull]
    have htrack : Work s₀ a key (s, context) _ :=
      .readTrack hactive hheld hmode (Nat.lt_of_not_le hfull)
    refine .head htrack ?_
    split
    · exact .refl
    · rename_i hblock
      have hretired : { context with readTrackReserved := true }.retired = false := hactive
      exact reserveArrivalBlock_works
        (s := { s with receivePool :=
          { s.receivePool with readTracksInUse := s.receivePool.readTracksInUse + 1 } })
        hretired hblock

/-- A fragment of read data without a registered target is dropped; otherwise
one context is worked on. -/
theorem receiveReadResponse_works (s₀ : PdsManager) (pdcId : ℕ) (packet : TaggedPacket)
    (ha : a = .readResponsePacket pdcId packet) (hs : s = s₀.pruneReceiveState)
    (hkey : key = rxMessageKey .read packet.header packet.metadata pdcId)
    (hinside : s₀.ActionInside a → s.ReadInside key packet.metadata packet.bytes) :
    (s.readResponseTargets.lookup key.lookupKey = none ∧
      (s.receiveReadResponse key packet.metadata packet.bytes).1 = s) ∨
    ∃ target, s.readResponseTargets.lookup key.lookupKey = some target ∧
      ∃ context s' context', Opened s₀ a s key context ∧
        Works s₀ a key (s, context) (s', context') ∧
        (s.receiveReadResponse key packet.metadata packet.bytes).1 =
          s'.setContext key context' := by
  unfold receiveReadResponse
  cases htarget : s.readResponseTargets.lookup key.lookupKey with
  | none => exact .inl ⟨rfl, rfl⟩
  | some target =>
      refine .inr ⟨target, rfl, ?_⟩
      dsimp only
      cases hactive : (s.rxMessageContexts.lookup key).filter fun context => !context.retired with
      | some context =>
          obtain ⟨hlookup, hretired⟩ := Option.filter_eq_some_iff.mp hactive
          have hopened : Opened s₀ a s key context := .active hlookup (by simpa using hretired)
            (.inl (by rw [ha, hkey]; rfl))
          have hstore : Work s₀ a key (s, context) _ :=
            .store packet.metadata packet.bytes fun hin =>
              hinside hin target htarget context (by simp [readContext, hactive])
          exact ⟨context, _, _, hopened, (Relation.ReflTransGen.single hstore).tail .finish, rfl⟩
      | none =>
          have hnone : ∀ context, s.rxMessageContexts.lookup key = some context →
              context.retired = true := by
            intro context hlookup
            simpa [hlookup] using hactive
          have hadmission : Works s₀ a key
              (s, s.freshReadContext key target packet.metadata.modifiedLength) _ :=
            admitReadResponse_works rfl rfl rfl
          have hopened := Opened.read ha hs hkey hnone htarget
          dsimp only
          split
          · rename_i hadmitted
            have hstore := hadmission.tail (.store packet.metadata packet.bytes fun hin =>
              hinside hin target htarget _ (by simp [readContext, hactive, hadmitted]))
            exact ⟨_, _, _, hopened, hstore.tail .finish, rfl⟩
          · exact ⟨_, _, _, hopened, hadmission.tail .refuse, rfl⟩

/-! ## Posted receives and whole actions -/

theorem matchPostedReceive_changes {lookup : ReceiveLookupKey}
    (ha : a.message = some (.send, lookup)) (s : PdsManager) (key : RxMessageKey) :
    Changes s₀ a s (matchPostedReceive lookup s key) := by
  unfold matchPostedReceive
  cases hlookup : s.rxMessageContexts.lookup key with
  | none => exact .refl
  | some context =>
      dsimp only
      split
      · rename_i hmatch
        obtain ⟨hactive, hopcode, hmessage⟩ := hmatch
        have hopened : Opened s₀ a s key context := .active hlookup (by simpa using hactive)
          (.inr (by rw [ha, RxMessageKey.message, hopcode, hmessage]))
        exact .single (.work hopened ((Relation.ReflTransGen.single .promote).tail .finish))
      · exact .refl

theorem matchPostedReceives_changes {lookup : ReceiveLookupKey}
    (ha : a.message = some (.send, lookup)) (keys : List RxMessageKey) (s : PdsManager) :
    Changes s₀ a s (keys.foldl (matchPostedReceive lookup) s) := by
  induction keys generalizing s with
  | nil => exact .refl
  | cons key keys ih => exact (matchPostedReceive_changes ha s key).trans (ih _)

theorem registerPostedReceive_changes (s : PdsManager) (lookup : ReceiveLookupKey)
    (baseAddr length : ℕ) :
    Changes s (.postReceive lookup baseAddr length) s
      (s.registerPostedReceive lookup baseAddr length) := by
  unfold registerPostedReceive
  exact .head .prune (.head (.post lookup baseAddr length rfl)
    (matchPostedReceives_changes rfl _ _))

/-- Every action is a chain of changes. -/
theorem pdsStep_changes (s : PdsManager) (a : PdsAction) : Changes s a s (s.pdsStep a) := by
  cases a with
  | sendPacket pdcId packet =>
      refine .head .prune ?_
      have hopcode : (rxMessageKey .send packet.header packet.metadata pdcId).opcode = .send := rfl
      rcases receiveSend_works (a := .sendPacket pdcId packet) (s := s.pruneReceiveState)
          packet.metadata packet.bytes hopcode (fun h : s.ActionFits _ => h) id with
        ⟨_, -, hsame⟩ | ⟨hnew, s', context', hwork, hset⟩
      · rw [pdsStep, handleIncomingSendPacket, hsame]
      · rw [pdsStep, handleIncomingSendPacket, hset]
        exact .single (.work (opened_sendContext s rfl hnew) hwork)
  | readResponsePacket pdcId packet =>
      refine .head .prune ?_
      rcases receiveReadResponse_works s pdcId packet rfl rfl rfl id with
        ⟨-, hsame⟩ | ⟨-, -, context, s', context', hopened, hwork, hset⟩
      · rw [pdsStep, handleIncomingReadResponsePacket, hsame]
      · rw [pdsStep, handleIncomingReadResponsePacket, hset]
        exact .single (.work hopened hwork)
  | postReceive lookup baseAddr length =>
      exact registerPostedReceive_changes s lookup baseAddr length
  | registerReadTarget lookup baseAddr length =>
      exact .head .prune (.single (.register lookup baseAddr length rfl))
  | unregisterReadTarget lookup => exact .single (.unregister lookup rfl)
  | prune => exact .single .prune
  | configure => exact .single (.configure _ _ _ _ rfl)
  | advanceClock deltaNs => exact .single (.clock deltaNs rfl)

end PdsManager
end UeSim
