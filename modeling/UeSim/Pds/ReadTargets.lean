import UeSim.Pds.TargetWrites

/-!
# Targets of read data

A context of read data takes its target from the registration when it is
opened, and keeps it.  As long as no registration gives an open message another
target, the two agree: every active context aims at the target that is
registered for its message, and read data is written nowhere else.
-/

namespace UeSim
namespace PdsManager

/-! ## Consistency -/

/-- Every active context of read data has the target that is registered for its
message. -/
def ReadTargetsConsistent (s : PdsManager) : Prop :=
  ∀ key context, s.rxMessageContexts.lookup key = some context → context.retired = false →
    context.mode = .readResponse →
      ∀ target, s.readResponseTargets.lookup key.lookupKey = some target →
        context.targetBaseAddr = target.baseAddr ∧ context.targetLength = target.length

/-- A write into a target, at the address as the code adds it up. -/
def Into (baseAddr length : ℕ) (w : MemoryWrite) : Prop :=
  ∃ offset, w.addr = toU64 (baseAddr + offset) ∧ offset + w.size ≤ length

/-- The read data that arrives next is written only into the target that is
registered for its message. -/
def ReadWritesRegistered (s : PdsManager) : Prop :=
  ∀ pdcId packet, ∀ w ∈ s.newWrites (.readResponsePacket pdcId packet),
    ∃ target, s.readResponseTargets.lookup
        (rxMessageKey .read packet.header packet.metadata pdcId).lookupKey = some target ∧
      Into target.baseAddr target.length w

/-- A registration gives no active context of its message another target. -/
def RegistrationAgrees (s : PdsManager) : PdsAction → Prop
  | .registerReadTarget lookup baseAddr length =>
      ∀ key context, s.pruneReceiveState.rxMessageContexts.lookup key = some context →
        context.retired = false → context.mode = .readResponse → key.lookupKey = lookup →
          context.targetBaseAddr = baseAddr ∧ context.targetLength = length
  | _ => True

/-! ## The work on one context -/

/-- A context agrees with the registered targets. -/
structure ReadContextAgrees (targets : KeyedMap ReceiveLookupKey ReadResponseTarget)
    (key : RxMessageKey) (context : RxMessageContext) : Prop extends Belongs key context where
  target : context.retired = false → context.mode = .readResponse →
    ∀ target, targets.lookup key.lookupKey = some target →
      context.targetBaseAddr = target.baseAddr ∧ context.targetLength = target.length

variable {s₀ s s' : PdsManager} {a : PdsAction} {key : RxMessageKey}
  {context context' : RxMessageContext}
  {targets targets' : KeyedMap ReceiveLookupKey ReadResponseTarget}

/-- Fewer registrations are easier to agree with. -/
theorem ReadContextAgrees.shrink (h : ReadContextAgrees targets key context)
    (hfewer : ∀ lookup target, targets'.lookup lookup = some target →
      targets.lookup lookup = some target) : ReadContextAgrees targets' key context :=
  ⟨h.toBelongs, fun hactive hmode target hlookup =>
    h.target hactive hmode target (hfewer _ _ hlookup)⟩

theorem ReadContextAgrees.retire (h : ReadContextAgrees targets key context) :
    ReadContextAgrees targets key (s.retireContextResources context).2 := by
  refine ⟨h.toBelongs.retire, ?_⟩
  unfold retireContextResources
  split
  · exact h.target
  · exact nofun

/-- The registered targets after the end of a context, and the context. -/
theorem ReadContextAgrees.finish (h : ReadContextAgrees s.readResponseTargets key context) :
    (∀ lookup target,
      (s.tryRetireCompletedContext key context).1.readResponseTargets.lookup lookup =
        some target → s.readResponseTargets.lookup lookup = some target) ∧
      ReadContextAgrees s.readResponseTargets key
        (s.tryRetireCompletedContext key context).2 := by
  have hcompleted :
      ReadContextAgrees s.readResponseTargets key { context with completed := true } :=
    ⟨⟨h.keyed, h.mode⟩, h.target⟩
  obtain ⟨pool, hretire⟩ := retireContextResources_eq s { context with completed := true }
  have hsend : (∀ lookup target,
      (s.completeSend key context).1.readResponseTargets.lookup lookup = some target →
        s.readResponseTargets.lookup lookup = some target) ∧
      ReadContextAgrees s.readResponseTargets key (s.completeSend key context).2 := by
    refine ⟨fun lookup target hlookup => ?_, hcompleted.retire⟩
    rw [completeSend, hretire] at hlookup
    exact hlookup
  refine tryRetireCompletedContext_rule (P := fun w => (∀ lookup target,
      w.1.readResponseTargets.lookup lookup = some target →
        s.readResponseTargets.lookup lookup = some target) ∧
      ReadContextAgrees s.readResponseTargets key w.2) ⟨fun _ _ => id, h⟩ (fun _ => hsend) ?_
  intro _
  refine ⟨fun lookup target hlookup => ?_, hcompleted.retire⟩
  obtain ⟨pool, hretire⟩ := retireContextResources_eq
    { s with readResponseTargets := s.readResponseTargets.erase context.key.lookupKey }
    { context with completed := true }
  rw [hretire] at hlookup
  exact KeyedMap.lookup_of_lookup_erase hlookup

/-- Every elementary step only takes registrations away, and keeps a context
that agrees. -/
theorem ReadContextAgrees.work {w w' : Working}
    (h : ReadContextAgrees w.1.readResponseTargets key w.2) (hwork : Work s₀ a key w w') :
    (∀ lookup target, w'.1.readResponseTargets.lookup lookup = some target →
      w.1.readResponseTargets.lookup lookup = some target) ∧
      ReadContextAgrees w'.1.readResponseTargets key w'.2 := by
  have hbelongs := h.toBelongs.work hwork
  cases hwork with
  | arrivalBlock | unexpected | readTrack | answer =>
      exact ⟨fun _ _ => id, hbelongs, h.target⟩
  | target hopcode | expect hopcode =>
      refine ⟨fun _ _ => id, hbelongs, fun _ hmode => ?_⟩
      exact absurd hopcode (hbelongs.mode.mp hmode)
  | buffer =>
      exact ⟨fun _ _ => id, hbelongs,
        fun _ hmode => absurd hmode (by simp [RxMessageContext.acceptUnexpected])⟩
  | @direct s context tag packet =>
      obtain ⟨memory, memoryWrites, hcopy⟩ := copyPacketBytesToTarget_eq s packet
        context.targetBaseAddr tag.fragmentOffset (max 1 context.targetLength)
      rw [hcopy]
      exact ⟨fun _ _ => id, h⟩
  | @store s context tag packet =>
      obtain ⟨memory, memoryWrites, hstore⟩ := storeChunkInContext_eq s context tag packet
      rw [hstore]
      refine ⟨fun _ _ => id, hbelongs, ?_⟩
      unfold storeChunkInContext
      split <;> exact h.target
  | @promote s context =>
      unfold tryPromoteUnexpectedToMatched at hbelongs ⊢
      split
      · split
        · exact ⟨fun _ _ => id, h⟩
        · rename_i hmode _ posted hposted
          obtain ⟨memory, memoryWrites, hwrite⟩ := writeMemory_eq s posted.baseAddr
            (context.payloadBuffer.take posted.length)
          rw [hwrite]
          refine ⟨fun _ _ => id, ?_, fun _ hread => absurd hread (by simp)⟩
          exact h.toBelongs.of_mode rfl (by simp [hmode]) (by simp)
      · exact ⟨fun _ _ => id, h⟩
  | finish =>
      obtain ⟨hfewer, hagrees⟩ := h.finish
      exact ⟨hfewer, hagrees.shrink hfewer⟩
  | @refuse s context =>
      obtain ⟨pool, hretire⟩ := retireContextResources_eq s { context with failed := true }
      rw [hretire]
      exact ⟨fun _ _ => id, ReadContextAgrees.retire ⟨⟨h.keyed, h.mode⟩, h.target⟩⟩

theorem ReadContextAgrees.works {w w' : Working}
    (h : ReadContextAgrees w.1.readResponseTargets key w.2) (hworks : Works s₀ a key w w') :
    (∀ lookup target, w'.1.readResponseTargets.lookup lookup = some target →
      w.1.readResponseTargets.lookup lookup = some target) ∧
      ReadContextAgrees w'.1.readResponseTargets key w'.2 := by
  induction hworks with
  | refl => exact ⟨fun _ _ => id, h⟩
  | tail _ hwork ih =>
      obtain ⟨hfewer, hagrees⟩ := ih.2.work hwork
      exact ⟨fun lookup target hlookup => ih.1 _ _ (hfewer _ _ hlookup), hagrees⟩

/-- A context of read data keeps its target, and is written nowhere else. -/
structure ReadAimed (baseAddr length : ℕ) (s₁ : PdsManager) (w : Working) : Prop where
  mode : w.2.mode = .readResponse
  base : w.2.targetBaseAddr = baseAddr
  size : w.2.targetLength = length
  writes : WritesSince (Into baseAddr length) s₁ w.1

theorem ReadAimed.retire {baseAddr length : ℕ} {s₁ : PdsManager}
    (h : ReadAimed baseAddr length s₁ (s, context)) :
    ReadAimed baseAddr length s₁ (s.retireContextResources context) := by
  obtain ⟨pool, hretire⟩ := retireContextResources_eq s context
  have hwrites : WritesSince (Into baseAddr length) s₁ (s.retireContextResources context).1 := by
    rw [hretire]
    exact h.writes.of_eq rfl
  refine ⟨?_, ?_, ?_, hwrites⟩ <;> unfold retireContextResources <;> split
  exacts [h.mode, h.mode, h.base, h.base, h.size, h.size]

theorem ReadAimed.work {baseAddr length : ℕ} {s₁ : PdsManager} {w w' : Working}
    (h : ReadAimed baseAddr length s₁ w) (hread : key.opcode = .read)
    (hwork : Work s₀ a key w w') : ReadAimed baseAddr length s₁ w' := by
  cases hwork with
  | arrivalBlock | unexpected | readTrack | answer =>
      exact ⟨h.mode, h.base, h.size, h.writes.of_eq rfl⟩
  | target hopcode | expect hopcode =>
      exact absurd (hopcode.symm.trans hread) (by simp)
  | buffer hunsettled =>
      exact absurd ((mode_of_unsettled hunsettled).symm.trans h.mode) (by simp)
  | direct _ _ hmode => exact absurd (hmode.symm.trans h.mode) (by simp)
  | @store s context tag packet =>
      refine ⟨?_, ?_, ?_, h.writes.storeChunkInContext fun _ hoffset _ => ?_⟩
      · exact (storeChunkInContext_mode s context tag packet).1.trans h.mode
      · exact (storeChunkInContext_target s context tag packet).1.trans h.base
      · exact (storeChunkInContext_target s context tag packet).2.trans h.size
      · refine ⟨tag.fragmentOffset, by rw [← h.base], ?_⟩
        rw [← h.size, List.length_take]
        dsimp only at hoffset ⊢
        omega
  | @promote s context =>
      have hmode : context.mode = .readResponse := h.mode
      rw [tryPromoteUnexpectedToMatched_of_mode (by simp [hmode])]
      exact h
  | @finish s context =>
      have hmode : context.mode = .readResponse := h.mode
      apply tryRetireCompletedContext_rule h
      · exact fun hsend => absurd hmode hsend
      · intro _
        exact ReadAimed.retire ⟨h.mode, h.base, h.size, h.writes.of_eq rfl⟩
  | refuse => exact ReadAimed.retire ⟨h.mode, h.base, h.size, h.writes⟩

theorem ReadAimed.works {baseAddr length : ℕ} {s₁ : PdsManager} {w w' : Working}
    (h : ReadAimed baseAddr length s₁ w) (hread : key.opcode = .read)
    (hworks : Works s₀ a key w w') : ReadAimed baseAddr length s₁ w' := by
  induction hworks with
  | refl => exact h
  | tail _ hwork ih => exact ih.work hread hwork

/-! ## Whole actions -/

/-- All contexts agree with the registered targets. -/
def ContextsAgree (s : PdsManager) : Prop :=
  ∀ key context, s.rxMessageContexts.lookup key = some context →
    ReadContextAgrees s.readResponseTargets key context

theorem ContextsAgree.shrink (h : ContextsAgree s)
    (hmap : s'.rxMessageContexts = s.rxMessageContexts)
    (hfewer : ∀ lookup target, s'.readResponseTargets.lookup lookup = some target →
      s.readResponseTargets.lookup lookup = some target) : ContextsAgree s' := by
  intro key context hlookup
  rw [hmap] at hlookup
  exact (h key context hlookup).shrink hfewer

theorem ContextsAgree.prune (h : ContextsAgree s) : ContextsAgree s.pruneReceiveState := by
  have hcontexts : ∀ key context, s.pruneReceiveState.rxMessageContexts.lookup key =
      some context → ReadContextAgrees s.readResponseTargets key context := by
    refine KeyedMap.forall_filterMap h fun key context context' hagrees hprune => ?_
    refine ⟨hagrees.toBelongs.prune hprune, ?_⟩
    unfold RxMessageContext.prune at hprune
    dsimp only at hprune
    split_ifs at hprune
    · cases hprune
      exact nofun
    · cases hprune
      exact hagrees.target
  intro key context hlookup
  exact (hcontexts key context hlookup).shrink fun _ _ => lookup_of_lookup_foldl_erase _ _

theorem ContextsAgree.opened (h : ContextsAgree s) (hopened : Opened s₀ a s key context) :
    ReadContextAgrees s.readResponseTargets key context := by
  have hbelongs := hopened.belongs fun key context hlookup => (h key context hlookup).toBelongs
  cases hopened with
  | active hlookup => exact h key context hlookup
  | send => exact ⟨hbelongs, fun _ hmode => nomatch hmode⟩
  | read _ _ _ _ htarget =>
      refine ⟨hbelongs, fun _ _ target hlookup => ?_⟩
      cases htarget.symm.trans hlookup
      exact ⟨rfl, rfl⟩

/-- Every piece of an action whose registration agrees keeps the agreement. -/
theorem ContextsAgree.change (h : ContextsAgree s) (haction : s₀.RegistrationAgrees a)
    (hchange : Change s₀ a s s') : ContextsAgree s' := by
  cases hchange with
  | prune => exact h.prune
  | @work s s' key context context' hopened hwork =>
      obtain ⟨hfewer, hagrees⟩ := (h.opened hopened).works hwork
      have hmap : s'.rxMessageContexts = s.rxMessageContexts := rxMessageContexts_works hwork
      exact KeyedMap.forall_insert (h.shrink hmap hfewer) hagrees
  | post | configure | clock => exact h
  | unregister => exact h.shrink rfl fun _ _ => KeyedMap.lookup_of_lookup_erase
  | register lookup baseAddr length ha =>
      subst ha
      intro key context hlookup
      have hagrees := h key context hlookup
      refine ⟨hagrees.toBelongs, fun hactive hmode target htarget => ?_⟩
      by_cases hsame : key.lookupKey = lookup
      · rw [hsame, AList.lookup_insert, Option.some.injEq] at htarget
        subst htarget
        exact haction key context hlookup hactive hmode hsame
      · rw [AList.lookup_insert_ne hsame] at htarget
        exact hagrees.target hactive hmode target htarget

theorem ContextsAgree.pdsStep (h : ContextsAgree s) (haction : s.RegistrationAgrees a) :
    ContextsAgree (s.pdsStep a) := by
  have hchanges := pdsStep_changes s a
  generalize s.pdsStep a = s' at hchanges
  induction hchanges with
  | refl => exact h
  | tail _ hchange ih => exact ih.change haction hchange

/-- Read data is written only into the target that is registered for it. -/
theorem ContextsAgree.readWritesRegistered (h : ContextsAgree s) : ReadWritesRegistered s := by
  intro pdcId packet w hw
  rcases receiveReadResponse_works s pdcId packet rfl rfl rfl id
    with ⟨-, hsame⟩ | ⟨target, htarget, context, s', context', hopened, hwork, hset⟩
  · have hlog : (s.pdsStep (.readResponsePacket pdcId packet)).memoryWrites = s.memoryWrites := by
      rw [PdsManager.pdsStep, handleIncomingReadResponsePacket, hsame]
      rfl
    rw [newWrites, hlog, List.drop_length] at hw
    exact absurd hw List.not_mem_nil
  · have hagrees := h.prune.opened hopened
    have hmode : context.mode = .readResponse := hagrees.mode.mpr (by simp [rxMessageKey])
    obtain ⟨hbase, hlength⟩ := hagrees.target hopened.retired_eq_false hmode target htarget
    have haimed : ReadAimed target.baseAddr target.length s (s', context') :=
      ReadAimed.works ⟨hmode, hbase, hlength, WritesSince.refl.of_eq rfl⟩ rfl hwork
    have hlog : (s.pdsStep (.readResponsePacket pdcId packet)).memoryWrites =
        s'.memoryWrites := by
      rw [PdsManager.pdsStep, handleIncomingReadResponsePacket, hset]
      rfl
    exact ⟨target, lookup_of_lookup_foldl_erase _ _ htarget,
      mem_newWrites (haimed.writes.of_eq hlog) hw⟩

/-! ## Whole runs -/

/-- In a run in which no registration gives an active context another target,
all active contexts of read data aim at the registered targets, and read data is
written nowhere else. -/
theorem readTargetsConsistent_of_registrationAgrees {s : PdsManager}
    (hreach : pdsSystem.ReachableBy RegistrationAgrees s) :
    ReadTargetsConsistent s ∧ ReadWritesRegistered s := by
  have hagree : ContextsAgree s := by
    refine hreach.invariant (P := ContextsAgree) (fun s hidle key context hlookup => ?_)
      fun s a s' h haction hstep => ?_
    · simp [hidle.rxMessageContexts] at hlookup
    · cases hstep
      exact h.pdsStep haction
  exact ⟨fun key context hlookup => (hagree key context hlookup).target,
    hagree.readWritesRegistered⟩

/-- The guard and the theorem at work: a target is registered and read data
arrives. -/
theorem readTargetsConsistent_after_read_data :
    let s := (({ payloadMtu := 1 } : PdsManager).pdsStep
      (.registerReadTarget (sampleLookup 1) 100 2)).pdsStep
        (.readResponsePacket 1 (sampleFragment 1 2 0 [7]))
    ReadTargetsConsistent s ∧ ReadWritesRegistered s :=
  readTargetsConsistent_of_registrationAgrees
    (.step (.readResponsePacket 1 (sampleFragment 1 2 0 [7]))
      (.step (.registerReadTarget (sampleLookup 1) 100 2)
        (.init (idle_of_payloadMtu _))
        (by intro _ _ hlookup; cases hlookup) rfl)
      trivial rfl)

/-- The target of a message is registered again, at another address, between two
fragments of its read data: the second fragment is written to the old target. -/
theorem old_target_written :
    ∃ s : PdsManager, pdsSystem.Reachable s ∧ ¬ ReadTargetsConsistent s ∧
      ¬ ReadWritesRegistered s := by
  obtain ⟨s, hrun⟩ : ∃ s, pdsSystem.runActions { payloadMtu := 1 }
      [.registerReadTarget (sampleLookup 1) 100 2,
        .readResponsePacket 1 (sampleFragment 1 2 0 [7]),
        .registerReadTarget (sampleLookup 1) 200 2] = some s := ⟨_, rfl⟩
  have hend : (pdsSystem.runActions { payloadMtu := 1 }
      [.registerReadTarget (sampleLookup 1) 100 2,
        .readResponsePacket 1 (sampleFragment 1 2 0 [7]),
        .registerReadTarget (sampleLookup 1) 200 2]).map
      (fun s => ((s.readResponseTargets.lookup (sampleLookup 1)).map
          (fun target => (target.baseAddr, target.length)),
        (s.rxMessageContexts.lookup ⟨.read, 7, 1, 1, 1⟩).map
          (fun context => (context.retired, context.mode, context.targetBaseAddr)),
        s.newWrites (.readResponsePacket 1 (sampleFragment 1 2 1 [8])))) =
      some (some (200, 2), some (false, .readResponse, 100), [⟨101, 1⟩]) := by decide
  rw [hrun, Option.map_some, Option.some.injEq, Prod.mk.injEq, Prod.mk.injEq] at hend
  obtain ⟨htarget, hcontext, hwrites⟩ := hend
  obtain ⟨⟨base, size⟩, hlookup, htarget⟩ := Option.map_eq_some_iff.mp htarget
  cases htarget
  refine ⟨s, TransitionSystem.ReachableBy.runActions
    (.init (idle_of_payloadMtu _)) (fun _ _ _ => trivial) hrun, ?_, ?_⟩
  · intro h
    obtain ⟨context, hheld, hfields⟩ := Option.map_eq_some_iff.mp hcontext
    simp only [Prod.mk.injEq] at hfields
    have hsame := (h _ context hheld hfields.1 hfields.2.1 _ hlookup).1
    rw [hfields.2.2] at hsame
    exact absurd hsame (by decide)
  · intro h
    obtain ⟨target', hlookup', offset, haddr, hsize⟩ :=
      h 1 (sampleFragment 1 2 1 [8]) ⟨101, 1⟩ (by rw [hwrites]; exact List.mem_cons_self)
    cases hlookup.symm.trans hlookup'
    dsimp only at haddr hsize
    rw [toU64_of_lt (by omega)] at haddr
    omega

end PdsManager
end UeSim
