import UeSim.Pds.CompletedSends

/-!
# Duplicates of an accepted SEND

A SEND that is accepted as unexpected is answered once, when its first fragment
is taken in.  As long as its context is held, a duplicate that arrives on the
same delivery context is stored without an answer; only the tombstone of the
completed message answers again.  On another delivery context a duplicate opens
a context of its own, for which there may be no resources.
-/

namespace UeSim

/-- The encounters that are answered with a success. -/
def SendEncounter.Favourable (encounter : SendEncounter) : Prop :=
  encounter = .remembered ∨ encounter = .room ∨ encounter = .lastChunk

theorem SendEncounter.Favourable.ne_shortage {encounter : SendEncounter}
    (h : encounter.Favourable) : encounter ≠ .shortage := by
  rcases h with rfl | rfl | rfl <;> decide

/-- A result that asks for the answer RC_OK. -/
structure PdcRxSemanticResult.AnsweredOk (result : PdcRxSemanticResult) : Prop where
  ready : result.responseReady = true
  opcode : result.responseOpCode ≠ .nack
  returnCode : result.returnCode = .ok

namespace PdsManager

/-! ## Held contexts -/

/-- A context of the key is active. -/
def Holds (s : PdsManager) (key : RxMessageKey) : Prop :=
  ∃ context, s.rxMessageContexts.lookup key = some context ∧ context.retired = false

instance (s : PdsManager) (key : RxMessageKey) : Decidable (s.Holds key) :=
  decidable_of_iff ((s.rxMessageContexts.lookup key).any (!·.retired) = true) <| by
    simp [Holds, Option.any_eq_true]

/-- The state after the prune with which most calls begin. -/
def begun (s : PdsManager) : PdsAction → PdsManager
  | .unregisterReadTarget _ | .configure .. | .advanceClock _ => s
  | _ => s.pruneReceiveState

/-- A fragment of a SEND was answered with RC_OK in `s`, and since then its
delivery context has held a context of the message until a packet arrives in
`t`. -/
structure HeldSinceAnswer (s : PdsManager) (pdcId : ℕ) (packet : TaggedPacket)
    (t : PdsManager) : Prop where
  reachable : pdsSystem.Reachable s
  answered : (s.handleIncomingSendPacket pdcId packet).2.AnsweredOk
  later : (laterSystem (s.pdsStep (.sendPacket pdcId packet))).ReachableBy
    (fun u a => (u.begun a).Holds (rxMessageKey .send packet.header packet.metadata pdcId)) t
  held : t.pruneReceiveState.Holds (rxMessageKey .send packet.header packet.metadata pdcId)

variable {s₀ s s' t : PdsManager} {a : PdsAction} {key : RxMessageKey}
  {context context' : RxMessageContext} {pdcId pdcId' : ℕ} {packet packet' : TaggedPacket}

/-- A fragment is answered with RC_OK exactly when its encounter is favourable. -/
theorem answeredOk_iff (s : PdsManager) (pdcId : ℕ) (packet : TaggedPacket) :
    (s.handleIncomingSendPacket pdcId packet).2.AnsweredOk ↔
      (s.sendEncounter pdcId packet).Favourable := by
  have hanswers := handleIncomingSendPacket_answers s pdcId packet
  constructor
  · intro h
    have hready := hanswers.ready.mp h.ready
    have hnack : s.sendEncounter pdcId packet ≠ .shortage := fun hshort =>
      h.opcode (hanswers.nack hshort).1
    unfold SendEncounter.Favourable
    cases hmet : s.sendEncounter pdcId packet <;> simp_all
  · intro h
    have hmet : s.sendEncounter pdcId packet ≠ .underway ∧
        s.sendEncounter pdcId packet ≠ .shortage := by
      rcases h with h | h | h <;> simp [h]
    exact ⟨hanswers.ready.mpr hmet.1, (hanswers.ok hmet.2).1, (hanswers.ok hmet.2).2⟩

/-! ## Accepted contexts -/

/-- A context that is answered and not waiting for a posted receive. -/
structure Accepted (context : RxMessageContext) : Prop where
  responseSent : context.responseSent = true
  semanticAccepted : context.semanticAccepted = true
  mode : context.mode ≠ .directExpected

theorem Accepted.retire (h : Accepted context) :
    Accepted (s.retireContextResources context).2 := by
  unfold retireContextResources
  split
  · exact h
  · exact ⟨h.responseSent, h.semanticAccepted, h.mode⟩

theorem Accepted.finish (h : Accepted context) :
    Accepted (s.tryRetireCompletedContext key context).2 := by
  have hcompleted : Accepted { context with completed := true } :=
    ⟨h.responseSent, h.semanticAccepted, h.mode⟩
  apply tryRetireCompletedContext_rule (P := fun w => Accepted w.2) h
  · intro _
    exact hcompleted.retire
  · intro _
    exact hcompleted.retire

theorem Accepted.store (h : Accepted context) (tag : SoftUeMetadataTag) (bytes : Packet) :
    Accepted (s.storeChunkInContext context tag bytes).2 := by
  unfold storeChunkInContext
  split
  · exact h
  · exact ⟨h.responseSent, h.semanticAccepted, h.mode⟩

theorem Accepted.promote (h : Accepted context) :
    Accepted (s.tryPromoteUnexpectedToMatched context).2 := by
  apply tryPromoteUnexpectedToMatched_rule (P := fun w => Accepted w.2) h
  intro posted _ _
  exact ⟨h.responseSent, h.semanticAccepted, by simp⟩

theorem Accepted.storeSend (h : Accepted context) (tag : SoftUeMetadataTag) (bytes : Packet) :
    Accepted (s.storeSend key context tag bytes).2 :=
  (h.store tag bytes).promote.finish

/-- Work leaves an accepted context accepted. -/
theorem Accepted.work {w w' : Working} (h : Accepted w.2) (hwork : Work s₀ a key w w') :
    Accepted w'.2 := by
  cases hwork with
  | arrivalBlock | unexpected | readTrack => exact ⟨h.responseSent, h.semanticAccepted, h.mode⟩
  | target _ _ hlacks =>
      simp only [RxMessageContext.lacksTarget, Bool.and_eq_true, decide_eq_true_eq] at hlacks
      exact absurd hlacks.1 h.mode
  | @expect s context =>
      have haccepted : context.semanticAccepted = true := h.semanticAccepted
      rw [RxMessageContext.acceptExpected, if_pos haccepted]
      exact h
  | buffer hunsettled => exact absurd (mode_of_unsettled hunsettled) h.mode
  | direct => exact h
  | store tag bytes => exact h.store tag bytes
  | promote => exact h.promote
  | finish => exact h.finish
  | answer => exact ⟨rfl, h.semanticAccepted, h.mode⟩
  | refuse => exact Accepted.retire ⟨h.responseSent, h.semanticAccepted, h.mode⟩

theorem Accepted.works {w w' : Working} (h : Accepted w.2) (hworks : Works s₀ a key w w') :
    Accepted w'.2 := by
  induction hworks with
  | refl => exact h
  | tail _ hwork ih => exact ih.work hwork

/-- The active context of a key, if there is one, is accepted. -/
def AcceptedAt (key : RxMessageKey) (s : PdsManager) : Prop :=
  ∀ context, s.rxMessageContexts.lookup key = some context → context.retired = false →
    Accepted context

theorem AcceptedAt.prune (h : AcceptedAt key s) : AcceptedAt key s.pruneReceiveState := by
  intro context hlookup hactive
  rw [pruneReceiveState, KeyedMap.lookup_filterMap] at hlookup
  obtain ⟨context₀, hlookup₀, hprune⟩ := Option.bind_eq_some_iff.mp hlookup
  unfold RxMessageContext.prune at hprune
  dsimp only at hprune
  split_ifs at hprune
  · cases hprune
    cases hactive
  · cases hprune
    exact h context hlookup₀ hactive

/-- A piece of an action that finds a context of the key leaves it accepted. -/
theorem AcceptedAt.change (h : AcceptedAt key s) (hstart : AcceptedAt key s₀)
    (hheld : (s₀.begun a).Holds key) (hchange : Change s₀ a s s') : AcceptedAt key s' := by
  cases hchange with
  | prune => exact hstart.prune
  | @work s s' key' context context' hopened hwork =>
      have hmap : s'.rxMessageContexts = s.rxMessageContexts := rxMessageContexts_works hwork
      intro context₀ hlookup hactive
      rw [setContext, hmap] at hlookup
      by_cases hkey : key = key'
      · subst hkey
        rw [AList.lookup_insert, Option.some.injEq] at hlookup
        subst hlookup
        cases hopened with
        | active hlookup hopen => exact Accepted.works (h _ hlookup hopen) hwork
        | send ha hs _ hnone | read ha hs _ hnone =>
            subst ha hs
            obtain ⟨held, hheld, hretired⟩ := hheld
            exact absurd (hretired.symm.trans (hnone held hheld)) Bool.false_ne_true
      · rw [AList.lookup_insert_ne hkey] at hlookup
        exact h context₀ hlookup hactive
  | post | register | unregister | configure | clock => exact h

theorem AcceptedAt.pdsStep (h : AcceptedAt key s) (hheld : (s.begun a).Holds key) :
    AcceptedAt key (s.pdsStep a) := by
  have hchanges := pdsStep_changes s a
  generalize s.pdsStep a = s' at hchanges
  induction hchanges with
  | refl => exact h
  | tail _ hchange ih => exact ih.change h hheld hchange

/-- A fragment that is answered with RC_OK, and not from a tombstone, leaves no
active context of its key that is not accepted. -/
theorem acceptedAt_of_answered (hreach : pdsSystem.Reachable s)
    (hanswered : (s.handleIncomingSendPacket pdcId packet).2.AnsweredOk)
    (hnew : s.pruneReceiveState.completedSend
      (rxMessageKey .send packet.header packet.metadata pdcId) = none) :
    AcceptedAt (rxMessageKey .send packet.header packet.metadata pdcId)
      (s.pdsStep (.sendPacket pdcId packet)) := by
  intro context hlookup hactive
  have hretired := (contextTracked_of_reachable
    (.step (.sendPacket pdcId packet) hreach trivial rfl) _ context hlookup).2
  rw [pdsStep] at hlookup
  unfold handleIncomingSendPacket receiveSend at hlookup hanswered
  generalize s.pruneReceiveState = u at hnew hlookup hanswered
  generalize rxMessageKey .send packet.header packet.metadata pdcId = key at hnew hlookup hanswered
  rw [hnew] at hlookup hanswered
  dsimp only at hlookup hanswered
  cases hadmission : u.admitSend key.lookupKey (u.sendContext key packet.metadata) with
  | error refusal =>
      simp only [hadmission] at hanswered
      exact absurd rfl hanswered.opcode
  | ok admission =>
      obtain ⟨-, haccepted, hcontext⟩ := admitSend_ok hadmission
      simp only [hadmission, setContext, AList.lookup_insert,
        Option.some.injEq] at hlookup hanswered
      have hready : (admission.accepted || completionUnanswered
          (storeSend { u with receivePool := admission.pool } key admission.context
            packet.metadata packet.bytes).2) = true := hanswered.ready
      rcases Bool.or_eq_true_iff.mp hready with hroom | hlast
      · rw [haccepted, opensUnexpected, Bool.and_eq_true, Option.isNone_iff_eq_none] at hroom
        have hopen : Accepted admission.context := by
          rw [hcontext, admittedContext, hroom.1]
          simp only [if_pos hroom.2]
          exact ⟨rfl, rfl, by simp [RxMessageContext.acceptUnexpected]⟩
        have hstored : Accepted (storeSend { u with receivePool := admission.pool } key
            admission.context packet.metadata packet.bytes).2 := hopen.storeSend _ _
        subst hlookup
        exact ⟨by simp [hstored.responseSent], hstored.semanticAccepted, hstored.mode⟩
      · have hcompleted : context.completed = true := by
          simp only [completionUnanswered, Bool.and_eq_true] at hlast
          rw [← hlookup]
          exact hlast.1.2
        exact absurd (hactive.symm.trans (hretired hcompleted)) Bool.false_ne_true

/-! ## Duplicates -/

/-- A fragment that finds an accepted context of its key is stored without an
answer, unless the message is remembered. -/
theorem sendEncounter_of_accepted
    (haccepted : AcceptedAt (rxMessageKey .send packet.header packet.metadata pdcId) t)
    (hheld : t.pruneReceiveState.Holds (rxMessageKey .send packet.header packet.metadata pdcId)) :
    t.sendEncounter pdcId packet =
      if (t.pruneReceiveState.completedSend
        (rxMessageKey .send packet.header packet.metadata pdcId)).isSome then .remembered
      else .underway := by
  obtain ⟨context, hlookup, hactive⟩ := hheld
  have hcontext : Accepted context := haccepted.prune context hlookup hactive
  unfold sendEncounter
  dsimp only
  generalize t.pruneReceiveState = u at hlookup
  generalize rxMessageKey .send packet.header packet.metadata pdcId = key at hlookup
  have hjoined : u.sendContext key packet.metadata = context := by
    rw [sendContext, hlookup, Option.filter_some, hactive]
    rfl
  have hlacks : context.lacksTarget = false := by
    simp [RxMessageContext.lacksTarget, hcontext.mode]
  have hsettled : context.unsettled = false := by simp [RxMessageContext.unsettled, hlacks]
  have hadmissionted : (u.admittedContext key.lookupKey context).mode ≠ .directExpected := by
    unfold admittedContext
    split
    · rw [if_neg (by simp [hlacks]), RxMessageContext.acceptExpected,
        if_pos hcontext.semanticAccepted]
      exact hcontext.mode
    · rw [if_neg (by simp [hsettled])]
      exact hcontext.mode
  rw [hjoined]
  split
  · rfl
  · simp [lacksResources, opensUnexpected, completesReceive, hlacks, hsettled, hadmissionted]

/-- A duplicate of an answered SEND whose context is held is answered with RC_OK
exactly when its encounter is favourable.  On the delivery context that holds
the answered context this means a tombstone of the message, and the duplicate
is never refused there. -/
theorem replayAnswered_iff {s t : PdsManager} {pdcId pdcId' : ℕ} {packet packet' : TaggedPacket}
    (hheld : s.HeldSinceAnswer pdcId packet t)
    (hmessage : (rxMessageKey .send packet'.header packet'.metadata pdcId).lookupKey =
      (rxMessageKey .send packet.header packet.metadata pdcId).lookupKey) :
    ((t.handleIncomingSendPacket pdcId' packet').2.AnsweredOk ↔
      (t.sendEncounter pdcId' packet').Favourable) ∧
    (pdcId' = pdcId →
      s.pruneReceiveState.completedSend
        (rxMessageKey .send packet.header packet.metadata pdcId) = none →
      ((t.sendEncounter pdcId' packet').Favourable ↔
        (t.pruneReceiveState.completedSend
          (rxMessageKey .send packet.header packet.metadata pdcId)).isSome = true) ∧
      (t.handleIncomingSendPacket pdcId' packet').2.responseOpCode ≠ .nack) := by
  refine ⟨answeredOk_iff t pdcId' packet', fun hsame hnew => ?_⟩
  subst hsame
  have hkey : rxMessageKey .send packet'.header packet'.metadata pdcId' =
      rxMessageKey .send packet.header packet.metadata pdcId' := by
    simp only [RxMessageKey.lookupKey, ReceiveLookupKey.mk.injEq] at hmessage
    simpa [rxMessageKey, and_assoc] using hmessage
  have haccepted : AcceptedAt (rxMessageKey .send packet'.header packet'.metadata pdcId') t := by
    rw [hkey]
    refine hheld.later.invariant (P := AcceptedAt _) (fun u hstart => ?_)
      fun u a u' h hguard hstep => ?_
    · cases hstart
      exact acceptedAt_of_answered hheld.reachable hheld.answered hnew
    · cases hstep
      exact h.pdsStep hguard
  have hmet := sendEncounter_of_accepted haccepted (hkey ▸ hheld.held)
  rw [hkey] at hmet
  have hanswers := handleIncomingSendPacket_answers t pdcId' packet'
  have hfree : t.sendEncounter pdcId' packet' ≠ .shortage := by
    rw [hmet]
    split <;> simp
  refine ⟨?_, (hanswers.ok hfree).1⟩
  rw [hmet]
  cases (t.pruneReceiveState.completedSend
    (rxMessageKey .send packet.header packet.metadata pdcId')).isSome <;>
    simp [SendEncounter.Favourable]

/-- A receiver with one arrival block, which an unexpected message of one byte
has taken. -/
private theorem heldSinceAnswer_sample :
    HeldSinceAnswer { receivePool := { maxArrivalBlocks := 1 } } 1 (sampleFragment 1 1 0 [7])
      (({ receivePool := { maxArrivalBlocks := 1 } } : PdsManager).pdsStep
        (.sendPacket 1 (sampleFragment 1 1 0 [7]))) where
  reachable := .init ⟨rfl, rfl, rfl, rfl, rfl, rfl, rfl, rfl, rfl⟩
  answered := ⟨by decide, by decide, by decide⟩
  later := .init rfl
  held := by
    obtain ⟨context, hcontext⟩ := Option.isSome_iff_exists.mp
      (show ((({ receivePool := { maxArrivalBlocks := 1 } } : PdsManager).pdsStep
        (.sendPacket 1 (sampleFragment 1 1 0 [7]))).pruneReceiveState.rxMessageContexts.lookup
          ⟨.send, 7, 1, 1, 1⟩).isSome = true by decide)
    have hactive : ((({ receivePool := { maxArrivalBlocks := 1 } } : PdsManager).pdsStep
        (.sendPacket 1 (sampleFragment 1 1 0 [7]))).pruneReceiveState.rxMessageContexts.lookup
          ⟨.send, 7, 1, 1, 1⟩).map (·.retired) = some false := by decide
    rw [hcontext, Option.map_some, Option.some.injEq] at hactive
    exact ⟨context, hcontext, hactive⟩

/-- A receiver whose chunks are of four bytes, for a SEND of six. -/
def sixBytes : PdsManager := { payloadMtu := 4 }

/-- The whole SEND arrives on another delivery context, and a receive for it is posted. -/
def servedElsewhere : List PdsAction :=
  [.sendPacket 2 (sampleFragment 1 6 0 [1, 2, 3, 4]), .sendPacket 2 (sampleFragment 1 6 4 [5, 6]),
    .postReceive (sampleLookup 1) 4096 6]

/-- The first fragment of the SEND was answered on the first delivery context, which still holds
its own context of the message: a duplicate meets the tombstone and is answered again. -/
theorem replayAnswered_iff_servedElsewhere :
    ∃ t, (laterSystem (sixBytes.pdsStep
          (.sendPacket 1 (sampleFragment 1 6 0 [1, 2, 3, 4])))).runActions
        (sixBytes.pdsStep (.sendPacket 1 (sampleFragment 1 6 0 [1, 2, 3, 4])))
        servedElsewhere = some t ∧
      sixBytes.HeldSinceAnswer 1 (sampleFragment 1 6 0 [1, 2, 3, 4]) t ∧
      (t.handleIncomingSendPacket 1 (sampleFragment 1 6 0 [1, 2, 3, 4])).2.AnsweredOk ∧
      (t.sendEncounter 1 (sampleFragment 1 6 0 [1, 2, 3, 4])).Favourable := by
  let packet := sampleFragment 1 6 0 [1, 2, 3, 4]
  let key := rxMessageKey .send packet.header packet.metadata 1
  let s := sixBytes.pdsStep (.sendPacket 1 packet)
  obtain ⟨t, hrun⟩ : ∃ t, (laterSystem s).runActions s servedElsewhere = some t := ⟨_, rfl⟩
  have hguarded : (laterSystem s).GuardedRun (fun u a => (u.begun a).Holds key) s
      servedElsewhere := by
    decide +kernel
  have hend : ((laterSystem s).runActions s servedElsewhere).map (fun t =>
      (decide (t.pruneReceiveState.Holds key),
        (t.pruneReceiveState.completedSend key).isSome)) = some (true, true) := by
    decide +kernel
  rw [hrun, Option.map_some, Option.some.injEq, Prod.mk.injEq] at hend
  have hheld : sixBytes.HeldSinceAnswer 1 packet t :=
    { reachable := .init ⟨rfl, rfl, rfl, rfl, rfl, rfl, rfl, rfl, rfl⟩
      answered := ⟨by decide, by decide, by decide⟩
      later := .of_guardedRun (.init rfl) hguarded hrun
      held := of_decide_eq_true hend.1 }
  obtain ⟨hanswered, hsame⟩ := @replayAnswered_iff _ _ _ 1 _ packet hheld rfl
  have hfavourable := (hsame rfl (by decide)).1.mpr hend.2
  exact ⟨t, hrun, hheld, hanswered.mpr hfavourable, hfavourable⟩

/-- The whole message is buffered as unexpected and answered.  A duplicate of its
fragment is not answered on the same delivery context, and refused on another
one. -/
theorem duplicate_not_answered :
    ∃ (s t : PdsManager) (pdcId : ℕ) (packet : TaggedPacket),
      s.HeldSinceAnswer pdcId packet t ∧
      ¬ (t.handleIncomingSendPacket pdcId packet).2.AnsweredOk ∧
      (t.handleIncomingSendPacket 2 packet).2.responseOpCode = .nack := by
  refine ⟨_, _, 1, _, heldSinceAnswer_sample, fun h => ?_, by decide⟩
  exact absurd h.ready (by decide)

end PdsManager
end UeSim
