import UeSim.Pds.SendReplays

/-!
# Contexts that are settled, and fragments that find a place

An active context has been admitted: it has the target or the buffer that it needs.  So a
fragment of a SEND is refused only when it opens a context, and it is accepted as
unexpected only then.
-/

namespace UeSim

/-! ## Settled contexts -/

namespace RxMessageContext

/-- A context whose message is accepted, and that has the target that it needs. -/
def Settled (context : RxMessageContext) : Prop :=
  context.semanticAccepted = true ∧ context.lacksTarget = false

variable {context : RxMessageContext}

theorem Settled.acceptExpected (h : context.Settled) : context.acceptExpected = context :=
  if_pos h.1

theorem Settled.not_unsettled (h : context.Settled) : context.unsettled = false := by
  unfold unsettled
  rw [h.2]
  rfl

end RxMessageContext

namespace PdsManager

variable {s : PdsManager} {context : RxMessageContext} {key : RxMessageKey}

theorem settled_storeChunkInContext (h : context.Settled) (tag : SoftUeMetadataTag)
    (packet : Packet) : (s.storeChunkInContext context tag packet).2.Settled := by
  unfold storeChunkInContext
  split <;> exact h

theorem settled_tryPromoteUnexpectedToMatched (h : context.Settled) :
    (s.tryPromoteUnexpectedToMatched context).2.Settled := by
  refine tryPromoteUnexpectedToMatched_rule (P := fun w => w.2.Settled) h ?_
  intro posted _ _
  exact ⟨h.1, rfl⟩

theorem settled_retireContextResources (h : context.Settled) :
    (s.retireContextResources context).2.Settled := by
  unfold retireContextResources
  split <;> exact h

theorem settled_tryRetireCompletedContext (h : context.Settled) :
    (s.tryRetireCompletedContext key context).2.Settled := by
  have hcompleted : { context with completed := true }.Settled := h
  refine tryRetireCompletedContext_rule (P := fun w => w.2.Settled) h ?_ ?_
  · exact fun _ => settled_retireContextResources hcompleted
  · exact fun _ => settled_retireContextResources hcompleted

/-- A context that a fragment joins or opens is settled once the fragment is admitted. -/
theorem settled_admittedContext {lookup : ReceiveLookupKey}
    (h : context.Settled ∨ context.unsettled = true) :
    (s.admittedContext lookup context).Settled := by
  unfold admittedContext
  cases hposted : s.postedReceive lookup with
  | some posted =>
      have hnonzero : posted.baseAddr ≠ 0 := by
        simpa using (Option.filter_eq_some_iff.mp hposted).2
      dsimp only
      rcases h with hsettled | hunsettled
      · rw [if_neg (by simp [hsettled.2]), hsettled.acceptExpected]
        exact hsettled
      · simp only [RxMessageContext.unsettled, Bool.and_eq_true, Bool.not_eq_true'] at hunsettled
        rw [if_pos hunsettled.1]
        unfold RxMessageContext.acceptExpected
        rw [if_neg (by simp [hunsettled.2])]
        exact ⟨rfl, by simp [RxMessageContext.lacksTarget, hnonzero]⟩
  | none =>
      dsimp only
      rcases h with hsettled | hunsettled
      · rw [if_neg (by simp [hsettled.not_unsettled])]
        exact hsettled
      · rw [if_pos hunsettled]
        exact ⟨rfl, rfl⟩

/-- All active contexts are settled. -/
def ContextsSettled (s : PdsManager) : Prop :=
  ∀ key context, s.rxMessageContexts.lookup key = some context → context.retired = false →
    context.Settled

/-- The context that a fragment joins is settled, and one that it opens is unsettled. -/
theorem ContextsSettled.sendContext (h : s.ContextsSettled) (key : RxMessageKey)
    (tag : SoftUeMetadataTag) :
    s.Holds key ∧ (s.sendContext key tag).Settled ∧
        s.rxMessageContexts.lookup key = some (s.sendContext key tag) ∨
      ¬s.Holds key ∧ s.sendContext key tag = s.freshContext key tag.requestLength := by
  unfold PdsManager.sendContext
  cases hactive : (s.rxMessageContexts.lookup key).filter fun context => !context.retired with
  | some context =>
      obtain ⟨hlookup, hretired⟩ := Option.filter_eq_some_iff.mp hactive
      rw [Bool.not_eq_true'] at hretired
      exact .inl ⟨⟨context, hlookup, hretired⟩, h key context hlookup hretired, hlookup⟩
  | none =>
      refine .inr ⟨?_, rfl⟩
      rintro ⟨context, hlookup, hretired⟩
      rw [hlookup, Option.filter_some, hretired] at hactive
      cases hactive

theorem ContextsSettled.prune (h : s.ContextsSettled) : s.pruneReceiveState.ContextsSettled := by
  refine KeyedMap.forall_filterMap
    (P := fun _ (context : RxMessageContext) => context.retired = false → context.Settled)
    h ?_
  intro _ context context' hsettled hprune hactive
  unfold RxMessageContext.prune at hprune
  dsimp only at hprune
  split_ifs at hprune
  · cases hprune
    cases hactive
  · cases hprune
    exact hsettled hactive

theorem ContextsSettled.setContext (h : s.ContextsSettled)
    (hcontext : context.retired = false → context.Settled) :
    (s.setContext key context).ContextsSettled :=
  KeyedMap.forall_insert
    (P := fun _ (context : RxMessageContext) => context.retired = false → context.Settled)
    h hcontext

theorem ContextsSettled.congr {s' : PdsManager} (h : s.ContextsSettled)
    (hcontexts : s'.rxMessageContexts = s.rxMessageContexts) : s'.ContextsSettled := by
  unfold ContextsSettled
  rw [hcontexts]
  exact h

theorem settled_storeSend (h : context.Settled) (tag : SoftUeMetadataTag) (packet : Packet) :
    (s.storeSend key context tag packet).2.Settled :=
  settled_tryRetireCompletedContext
    (settled_tryPromoteUnexpectedToMatched (settled_storeChunkInContext h tag packet))

theorem ContextsSettled.receiveSend (h : s.ContextsSettled) (tag : SoftUeMetadataTag)
    (packet : Packet) : (s.receiveSend key tag packet).1.ContextsSettled := by
  unfold PdsManager.receiveSend
  cases hremembered : s.completedSend key with
  | some tombstone => exact h
  | none =>
      dsimp only
      cases hadmission : s.admitSend key.lookupKey (s.sendContext key tag) with
      | error refusal =>
          refine ContextsSettled.setContext (h.congr ?_) ?_
          · exact retireContextResources_rxMessageContexts _ _
          · intro hactive
            have hretired := (retireContextResources_retired
              { s with receivePool := refusal.pool } { refusal.context with failed := true }).1
            exact absurd (hactive.symm.trans hretired) Bool.false_ne_true
      | ok admission =>
          obtain ⟨-, -, hcontext⟩ := admitSend_ok hadmission
          have hsettled : admission.context.Settled := by
            rw [hcontext]
            refine settled_admittedContext ?_
            rcases h.sendContext key tag with ⟨-, hjoined, -⟩ | ⟨-, hfresh⟩
            · exact .inl hjoined
            · rw [hfresh]
              exact .inr rfl
          refine ContextsSettled.setContext (h.congr ?_) fun _ => ?_
          · exact storeSend_rxMessageContexts _ _ _ _ _
          · exact settled_storeSend hsettled tag packet

theorem ContextsSettled.storeReadResponse (h : s.ContextsSettled) (hcontext : context.Settled)
    (tag : SoftUeMetadataTag) (packet : Packet) :
    (s.storeReadResponse key context tag packet).1.ContextsSettled := by
  unfold PdsManager.storeReadResponse
  refine ContextsSettled.setContext (h.congr ?_) fun _ => ?_
  · obtain ⟨memory, memoryWrites, hstore⟩ := storeChunkInContext_eq s context tag packet
    rw [tryRetireCompletedContext_rxMessageContexts, hstore]
  · exact settled_tryRetireCompletedContext (settled_storeChunkInContext hcontext tag packet)

/-- A context for read data is settled from the beginning. -/
theorem settled_admitReadResponse (target : ReadResponseTarget) (totalLength : ℕ) :
    (s.admitReadResponse (s.freshReadContext key target totalLength)).2.2.Settled := by
  unfold admitReadResponse
  dsimp only
  split
  · exact ⟨rfl, rfl⟩
  · split
    · exact ⟨rfl, rfl⟩
    · rename_i hblock
      rw [(RudReceiveResourcePool.reserveArrivalBlock_eq_some hblock).2]
      exact ⟨rfl, rfl⟩

theorem ContextsSettled.receiveReadResponse (h : s.ContextsSettled) (tag : SoftUeMetadataTag)
    (packet : Packet) : (s.receiveReadResponse key tag packet).1.ContextsSettled := by
  unfold PdsManager.receiveReadResponse
  cases htarget : s.readResponseTargets.lookup key.lookupKey with
  | none => exact h
  | some target =>
      dsimp only
      cases hactive : (s.rxMessageContexts.lookup key).filter fun context => !context.retired with
      | some context =>
          obtain ⟨hlookup, hretired⟩ := Option.filter_eq_some_iff.mp hactive
          rw [Bool.not_eq_true'] at hretired
          exact h.storeReadResponse (h key context hlookup hretired) tag packet
      | none =>
          have hfresh : (s.admitReadResponse
              (s.freshReadContext key target tag.modifiedLength)).2.2.Settled :=
            settled_admitReadResponse target tag.modifiedLength
          have hpool : { s with receivePool := (s.admitReadResponse
              (s.freshReadContext key target tag.modifiedLength)).2.1 }.ContextsSettled := h
          dsimp only
          split
          · exact hpool.storeReadResponse hfresh tag packet
          · refine ContextsSettled.setContext (hpool.congr ?_) fun _ => ?_
            · exact retireContextResources_rxMessageContexts _ _
            · exact settled_retireContextResources hfresh

theorem ContextsSettled.matchPostedReceive (h : s.ContextsSettled) (lookup : ReceiveLookupKey)
    (key : RxMessageKey) : (matchPostedReceive lookup s key).ContextsSettled := by
  unfold PdsManager.matchPostedReceive
  cases hlookup : s.rxMessageContexts.lookup key with
  | none => exact h
  | some context =>
      dsimp only
      split
      · rename_i hmatch
        have hactive : context.retired = false := by simpa using hmatch.1
        refine ContextsSettled.setContext (h.congr ?_) fun _ => ?_
        · rw [tryRetireCompletedContext_rxMessageContexts,
            tryPromoteUnexpectedToMatched_rxMessageContexts]
        · exact settled_tryRetireCompletedContext
            (settled_tryPromoteUnexpectedToMatched (h key context hlookup hactive))
      · exact h

theorem ContextsSettled.matchPostedReceives (h : s.ContextsSettled) (lookup : ReceiveLookupKey)
    (keys : List RxMessageKey) :
    (keys.foldl (PdsManager.matchPostedReceive lookup) s).ContextsSettled := by
  induction keys generalizing s with
  | nil => exact h
  | cons key keys ih => exact ih (h.matchPostedReceive lookup key)

theorem ContextsSettled.pdsStep (h : s.ContextsSettled) (a : PdsAction) :
    (s.pdsStep a).ContextsSettled := by
  cases a with
  | sendPacket pdcId packet => exact h.prune.receiveSend packet.metadata packet.bytes
  | readResponsePacket pdcId packet =>
      exact h.prune.receiveReadResponse packet.metadata packet.bytes
  | postReceive lookup baseAddr length =>
      have hposted : { s.pruneReceiveState with
          postedReceives := s.pruneReceiveState.postedReceives.insert lookup
            { baseAddr := baseAddr, length := length } }.ContextsSettled := h.prune
      exact hposted.matchPostedReceives lookup _
  | registerReadTarget | prune => exact h.prune
  | unregisterReadTarget | configure | advanceClock => exact h

theorem contextsSettled_of_reachable (hreach : pdsSystem.Reachable s) : s.ContextsSettled := by
  refine hreach.invariant (P := ContextsSettled) ?_ ?_
  · intro s hidle key context hlookup
    rw [hidle.rxMessageContexts] at hlookup
    cases hlookup
  · intro s a s' h _ hstep
    cases hstep
    exact h.pdsStep a

/-! ## The place of a fragment -/

/-- A fragment of the key has its place: the message is remembered, or a context is active. -/
def Placed (s : PdsManager) (key : RxMessageKey) : Prop :=
  (s.completedSend key).isSome = true ∨ s.Holds key

instance (s : PdsManager) (key : RxMessageKey) : Decidable (s.Placed key) :=
  inferInstanceAs (Decidable (_ ∨ _))

/-- A fragment of the key has no place, and there are no resources to give it one. -/
def TurnsAway (s : PdsManager) (key : RxMessageKey) (requestLength : ℕ) : Prop :=
  ¬s.Placed key ∧ s.lacksResources key.lookupKey (s.freshContext key requestLength) = true

instance (s : PdsManager) (key : RxMessageKey) (requestLength : ℕ) :
    Decidable (s.TurnsAway key requestLength) :=
  inferInstanceAs (Decidable (_ ∧ _))

variable {pdcId : ℕ} {packet : TaggedPacket}

/-- A settled context needs no resources. -/
theorem lacksResources_of_settled (h : context.Settled) (lookup : ReceiveLookupKey) :
    s.lacksResources lookup context = false := by
  unfold lacksResources
  rw [h.2, h.not_unsettled]
  simp

/-- A fragment meets a shortage exactly when it is turned away. -/
theorem sendEncounter_eq_shortage_iff (h : s.ContextsSettled) :
    s.sendEncounter pdcId packet = .shortage ↔
      s.pruneReceiveState.TurnsAway (rxMessageKey .send packet.header packet.metadata pdcId)
        packet.metadata.requestLength := by
  have hsettled := h.prune
  unfold sendEncounter TurnsAway Placed
  dsimp only
  generalize s.pruneReceiveState = u at hsettled
  generalize rxMessageKey .send packet.header packet.metadata pdcId = key
  by_cases hremembered : (u.completedSend key).isSome = true
  · rw [if_pos hremembered]
    exact iff_of_false nofun fun haway => haway.1 (.inl hremembered)
  · rw [if_neg hremembered]
    rcases hsettled.sendContext key packet.metadata with
      ⟨hholds, hjoined, -⟩ | ⟨hnone, hfresh⟩
    · rw [lacksResources_of_settled hjoined]
      refine iff_of_false ?_ fun haway => haway.1 (.inr hholds)
      rw [if_neg Bool.false_ne_true]
      split_ifs <;> nofun
    · rw [hfresh]
      have hplace : ¬((u.completedSend key).isSome = true ∨ u.Holds key) :=
        not_or.mpr ⟨hremembered, hnone⟩
      by_cases hlacks : u.lacksResources key.lookupKey
          (u.freshContext key packet.metadata.requestLength) = true
      · rw [if_pos hlacks]
        exact iff_of_true rfl ⟨hplace, hlacks⟩
      · rw [if_neg hlacks]
        refine iff_of_false ?_ fun haway => hlacks haway.2
        split_ifs <;> nofun

/-- A fragment that is accepted as unexpected opens a context. -/
theorem opens_of_room (h : s.ContextsSettled) (hroom : s.sendEncounter pdcId packet = .room) :
    let key := rxMessageKey .send packet.header packet.metadata pdcId
    let fresh := s.pruneReceiveState.freshContext key packet.metadata.requestLength
    ¬s.pruneReceiveState.Placed key ∧
      s.pruneReceiveState.sendContext key packet.metadata = fresh ∧
      s.pruneReceiveState.lacksResources key.lookupKey fresh = false ∧
      s.pruneReceiveState.postedReceive key.lookupKey = none := by
  have hsettled := h.prune
  unfold sendEncounter at hroom
  unfold Placed
  dsimp only at hroom ⊢
  generalize s.pruneReceiveState = u at hsettled hroom
  generalize rxMessageKey .send packet.header packet.metadata pdcId = key at hroom
  split_ifs at hroom with hremembered hlacks hopens
  rw [opensUnexpected, Bool.and_eq_true, Option.isNone_iff_eq_none] at hopens
  rcases hsettled.sendContext key packet.metadata with
    ⟨-, hjoined, -⟩ | ⟨hnone, hfresh⟩
  · rw [hjoined.not_unsettled] at hopens
    cases hopens.2
  · rw [hfresh] at hlacks
    exact ⟨not_or.mpr ⟨hremembered, hnone⟩, hfresh, Bool.eq_false_iff.mpr hlacks, hopens.1⟩

end PdsManager
end UeSim
