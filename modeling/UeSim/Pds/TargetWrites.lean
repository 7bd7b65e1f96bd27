import UeSim.Pds.Steps

/-!
# Writes into targets

The application hands memory to the receive side when it posts a receive or
when a READ registers its target.  The history of a run keeps what was handed
over and, for every write, the message that it was for.  A write for a message
should lie inside memory that was handed over for it.

A fragment of a SEND that a posted receive takes directly is copied with the
bound `max 1 length`, so that one byte is written for a posted length of zero.
-/

namespace UeSim

/-! ## Histories -/

/-- Memory handed over for an operation and a message. -/
structure TargetGrant where
  message : OpType × ReceiveLookupKey
  baseAddr : ℕ
  length : ℕ
  deriving DecidableEq

/-- The memory that an action hands over. -/
def PdsAction.grants : PdsAction → List TargetGrant
  | .postReceive lookup baseAddr length => [⟨(.send, lookup), baseAddr, length⟩]
  | .registerReadTarget lookup baseAddr length => [⟨(.read, lookup), baseAddr, length⟩]
  | _ => []

/-- A run of the receive side: the manager, the memory handed over so far, and
the writes so far with the message that each was for. -/
structure TargetHistory where
  manager : PdsManager
  granted : List TargetGrant := []
  written : List (Option (OpType × ReceiveLookupKey) × MemoryWrite) := []

namespace PdsManager

/-- The writes of an action. -/
def newWrites (s : PdsManager) (a : PdsAction) : List MemoryWrite :=
  (s.pdsStep a).memoryWrites.drop s.memoryWrites.length

end PdsManager

namespace TargetHistory

open PdsManager

/-- One action of the receive side. -/
def step (h : TargetHistory) (a : PdsAction) : TargetHistory where
  manager := h.manager.pdsStep a
  granted := h.granted ++ a.grants
  written := h.written ++ (h.manager.newWrites a).map fun w => (a.message, w)

/-- The runs of a receive side. -/
def system : TransitionSystem TargetHistory PdsAction where
  init h := Idle h.manager ∧ h.granted = [] ∧ h.written = []
  step h a := some (h.step a)

/-- Every write lies inside memory that was handed over for its message. -/
def WrittenInside (h : TargetHistory) : Prop :=
  ∀ e ∈ h.written, ∃ g ∈ h.granted, e.1 = some g.message ∧
    g.baseAddr ≤ e.2.addr ∧ e.2.addr + e.2.size ≤ g.baseAddr + g.length

end TargetHistory

namespace PdsManager

/-! ## The log of writes -/

/-- All writes since `s₀` satisfy a predicate. -/
def WritesSince (P : MemoryWrite → Prop) (s₀ s : PdsManager) : Prop :=
  ∃ writes, s.memoryWrites = s₀.memoryWrites ++ writes ∧ ∀ w ∈ writes, P w

variable {P : MemoryWrite → Prop} {s₀ s s' : PdsManager} {a : PdsAction} {key : RxMessageKey}
  {context context' : RxMessageContext}

theorem WritesSince.refl : WritesSince P s s := ⟨[], by simp, by simp⟩

theorem WritesSince.of_eq (h : WritesSince P s₀ s) (heq : s'.memoryWrites = s.memoryWrites) :
    WritesSince P s₀ s' := by
  obtain ⟨writes, hwrites, hall⟩ := h
  exact ⟨writes, heq.trans hwrites, hall⟩

theorem WritesSince.writeMemory (h : WritesSince P s₀ s) (addr : ℕ) (bytes : List UInt8)
    (hnew : bytes ≠ [] → P { addr := addr, size := bytes.length }) :
    WritesSince P s₀ (s.writeMemory addr bytes) := by
  unfold PdsManager.writeMemory
  by_cases hempty : bytes = []
  · rw [if_pos hempty]
    exact h
  · rw [if_neg hempty]
    obtain ⟨writes, hwrites, hall⟩ := h
    refine ⟨writes ++ [{ addr := addr, size := bytes.length }], ?_, ?_⟩
    · rw [hwrites, List.append_assoc]
    · intro w hw
      rcases List.mem_append.mp hw with hw | hw
      · exact hall w hw
      · rw [List.mem_singleton.mp hw]
        exact hnew hempty

theorem WritesSince.copyPacketBytesToTarget (h : WritesSince P s₀ s) {packet : Packet}
    {baseAddr offset maxLength : ℕ}
    (hnew : baseAddr ≠ 0 → offset < maxLength → packet ≠ [] →
      P { addr := toU64 (baseAddr + offset)
          size := (packet.take (maxLength - offset)).length }) :
    WritesSince P s₀ (s.copyPacketBytesToTarget packet baseAddr offset maxLength) := by
  unfold PdsManager.copyPacketBytesToTarget
  split_ifs with hskip
  · exact h
  · obtain ⟨hbase, hoffset⟩ := not_or.mp hskip
    refine h.writeMemory _ _ fun hbytes => hnew hbase (Nat.lt_of_not_le hoffset) ?_
    intro hpacket
    rw [hpacket] at hbytes
    exact hbytes List.take_nil

theorem WritesSince.storeChunkInContext (h : WritesSince P s₀ s) {tag : SoftUeMetadataTag}
    {packet : Packet}
    (hnew : context.targetBaseAddr ≠ 0 → tag.fragmentOffset < context.targetLength →
      packet ≠ [] →
        P { addr := toU64 (context.targetBaseAddr + tag.fragmentOffset)
            size := (packet.take (context.targetLength - tag.fragmentOffset)).length }) :
    WritesSince P s₀ (s.storeChunkInContext context tag packet).1 := by
  unfold PdsManager.storeChunkInContext
  split
  · exact h
  · dsimp only
    split
    · exact h.copyPacketBytesToTarget hnew
    · exact h

theorem mem_newWrites (h : WritesSince P s (s.pdsStep a)) {w : MemoryWrite}
    (hw : w ∈ s.newWrites a) : P w := by
  obtain ⟨writes, hwrites, hall⟩ := h
  rw [newWrites, hwrites, List.drop_left] at hw
  exact hall w hw

/-! ## The log and the memory -/

/-- The memory has changed since `s₀` only where the log says so. -/
def Logged (s₀ s : PdsManager) : Prop :=
  ∃ writes, s.memoryWrites = s₀.memoryWrites ++ writes ∧
    ∀ addr, (∀ w ∈ writes, addr < w.addr ∨ w.addr + w.size ≤ addr) →
      s.memory addr = s₀.memory addr

theorem Logged.refl : Logged s s := ⟨[], by simp, fun _ _ => rfl⟩

theorem Logged.of_eq (h : Logged s₀ s) (hmemory : s'.memory = s.memory)
    (hwrites : s'.memoryWrites = s.memoryWrites) : Logged s₀ s' := by
  obtain ⟨writes, hlog, hsame⟩ := h
  exact ⟨writes, hwrites.trans hlog, fun addr hout => hmemory ▸ hsame addr hout⟩

theorem Logged.writeMemory (h : Logged s₀ s) (addr : ℕ) (bytes : List UInt8) :
    Logged s₀ (s.writeMemory addr bytes) := by
  unfold PdsManager.writeMemory
  split_ifs
  · exact h
  · obtain ⟨writes, hlog, hsame⟩ := h
    refine ⟨writes ++ [{ addr := addr, size := bytes.length }], ?_, fun a hout => ?_⟩
    · rw [hlog, List.append_assoc]
    · have hlast := hout _ (List.mem_append_right _ List.mem_cons_self)
      refine (Reassembly.copyToMemory_of_outside hlast).trans (hsame a fun w hw => ?_)
      exact hout w (List.mem_append_left _ hw)

theorem Logged.copyPacketBytesToTarget (h : Logged s₀ s) (packet : Packet)
    (baseAddr offset maxLength : ℕ) :
    Logged s₀ (s.copyPacketBytesToTarget packet baseAddr offset maxLength) := by
  unfold PdsManager.copyPacketBytesToTarget
  split_ifs
  · exact h
  · exact h.writeMemory _ _

theorem Logged.retire (h : Logged s₀ s) (context : RxMessageContext) :
    Logged s₀ (s.retireContextResources context).1 := by
  obtain ⟨pool, hretire⟩ := retireContextResources_eq s context
  rw [hretire]
  exact h.of_eq rfl rfl

theorem Logged.finish (h : Logged s₀ s) :
    Logged s₀ (s.tryRetireCompletedContext key context).1 := by
  have hsend : Logged s₀ (s.completeSend key context).1 :=
    (h.retire { context with completed := true }).of_eq rfl rfl
  apply tryRetireCompletedContext_rule (P := fun w => Logged s₀ w.1) h
  · intro _
    exact hsend
  · intro _
    refine Logged.retire (h.of_eq ?_ ?_) _ <;> rfl

theorem Logged.work {s₁ : PdsManager} {w w' : Working} (h : Logged s₁ w.1)
    (hwork : Work s₀ a key w w') : Logged s₁ w'.1 := by
  cases hwork with
  | arrivalBlock | unexpected | readTrack | target | expect | buffer | answer =>
      exact h.of_eq rfl rfl
  | direct => exact h.copyPacketBytesToTarget _ _ _ _
  | store =>
      unfold PdsManager.storeChunkInContext
      split
      · exact h
      · dsimp only
        split
        · exact h.copyPacketBytesToTarget _ _ _ _
        · exact h
  | promote =>
      apply tryPromoteUnexpectedToMatched_rule (P := fun w => Logged s₁ w.1) h
      intro posted _ _
      exact (h.writeMemory _ _).of_eq rfl rfl
  | finish => exact h.finish
  | refuse => exact h.retire _

theorem Logged.works {s₁ : PdsManager} {w w' : Working} (h : Logged s₁ w.1)
    (hworks : Works s₀ a key w w') : Logged s₁ w'.1 := by
  induction hworks with
  | refl => exact h
  | tail _ hwork ih => exact ih.work hwork

theorem Logged.change {s₁ : PdsManager} (h : Logged s₁ s) (hchange : Change s₀ a s s') :
    Logged s₁ s' := by
  cases hchange with
  | work _ hwork => exact (h.works hwork).of_eq rfl rfl
  | prune | post | register | unregister | configure | clock =>
      exact h.of_eq rfl rfl

/-- An action changes the memory only where its writes say so. -/
theorem memory_eq_of_outside (s : PdsManager) (a : PdsAction) (addr : ℕ)
    (hout : ∀ w ∈ s.newWrites a, addr < w.addr ∨ w.addr + w.size ≤ addr) :
    (s.pdsStep a).memory addr = s.memory addr := by
  have hlogged : Logged s (s.pdsStep a) := by
    have hchanges := pdsStep_changes s a
    generalize s.pdsStep a = s' at hchanges
    induction hchanges with
    | refl => exact .refl
    | tail _ hchange ih => exact ih.change hchange
  obtain ⟨writes, hlog, hsame⟩ := hlogged
  refine hsame addr fun w hw => hout w ?_
  rw [newWrites, hlog, List.drop_left]
  exact hw

/-! ## Targets that were handed over -/

variable {G : OpType × ReceiveLookupKey → ℕ → ℕ → Prop}

/-- The target of a context was handed over for its message. -/
structure ContextGranted (G : OpType × ReceiveLookupKey → ℕ → ℕ → Prop) (key : RxMessageKey)
    (context : RxMessageContext) : Prop extends Belongs key context where
  target : context.targetBaseAddr ≠ 0 →
    G key.message context.targetBaseAddr context.targetLength

/-- All registrations were handed over for their messages. -/
structure RegistrationsGranted (G : OpType × ReceiveLookupKey → ℕ → ℕ → Prop)
    (s : PdsManager) : Prop where
  posted : ∀ lookup posted, s.postedReceives.lookup lookup = some posted →
    G (.send, lookup) posted.baseAddr posted.length
  registered : ∀ lookup target, s.readResponseTargets.lookup lookup = some target →
    G (.read, lookup) target.baseAddr target.length

/-- A write inside memory that was handed over for a message. -/
def InsideGrant (G : OpType × ReceiveLookupKey → ℕ → ℕ → Prop)
    (message : OpType × ReceiveLookupKey) (w : MemoryWrite) : Prop :=
  ∃ baseAddr length, G message baseAddr length ∧ baseAddr ≤ w.addr ∧
    w.addr + w.size ≤ baseAddr + length

/-- What work on the context of `key` keeps. -/
structure Aimed (G : OpType × ReceiveLookupKey → ℕ → ℕ → Prop) (s₀ : PdsManager)
    (key : RxMessageKey) (w : Working) : Prop where
  registrations : RegistrationsGranted G w.1
  context : ContextGranted G key w.2
  writes : WritesSince (InsideGrant G key.message) s₀ w.1

theorem RegistrationsGranted.postedReceive (h : RegistrationsGranted G s)
    {lookup : ReceiveLookupKey} {posted : PostedReceiveBinding}
    (hposted : s.postedReceive lookup = some posted) :
    G (.send, lookup) posted.baseAddr posted.length :=
  h.posted lookup posted (Option.filter_eq_some_iff.mp hposted).1

theorem RegistrationsGranted.congr (h : RegistrationsGranted G s)
    (hposted : s'.postedReceives = s.postedReceives)
    (htargets : s'.readResponseTargets = s.readResponseTargets) :
    RegistrationsGranted G s' :=
  ⟨hposted ▸ h.posted, htargets ▸ h.registered⟩

theorem RegistrationsGranted.erase_target (h : RegistrationsGranted G s)
    (lookup : ReceiveLookupKey) :
    RegistrationsGranted G { s with readResponseTargets := s.readResponseTargets.erase lookup }
      where
  posted := h.posted
  registered lookup' target hlookup :=
    h.registered lookup' target (KeyedMap.lookup_of_lookup_erase hlookup)

/-- A fragment that is copied inside the target of a context is copied inside
memory that was handed over. -/
theorem ContextGranted.inside (h : ContextGranted G key context) {tag : SoftUeMetadataTag}
    {packet : Packet} {maxLength : ℕ} (hinside : context.KeepsInside tag packet)
    (hlow : context.targetLength ≤ maxLength) (hhigh : maxLength ≤ context.reach)
    (hbase : context.targetBaseAddr ≠ 0) (hoffset : tag.fragmentOffset < maxLength)
    (hpacket : packet ≠ []) :
    InsideGrant G key.message
      { addr := toU64 (context.targetBaseAddr + tag.fragmentOffset)
        size := (packet.take (maxLength - tag.fragmentOffset)).length } := by
  obtain ⟨hlength, haddr⟩ := hinside hbase hpacket (hoffset.trans_le hhigh)
  have hreach : context.reach ≤ context.targetLength := by
    unfold RxMessageContext.reach
    split <;> omega
  refine ⟨_, _, h.target hbase, ?_, ?_⟩ <;> dsimp only <;> rw [toU64_of_lt haddr]
  · exact Nat.le_add_right _ _
  · rw [List.length_take]
    omega

theorem ContextGranted.retireContextResources (h : ContextGranted G key context) :
    ContextGranted G key (s.retireContextResources context).2 := by
  refine ⟨h.toBelongs.retire, ?_⟩
  unfold PdsManager.retireContextResources
  split <;> exact h.target

theorem Aimed.retire (h : Aimed G s₀ key (s, context)) :
    Aimed G s₀ key (s.retireContextResources context) := by
  obtain ⟨pool, hretire⟩ := retireContextResources_eq s context
  refine ⟨?_, h.context.retireContextResources, ?_⟩
  · rw [hretire]
    exact h.registrations.congr rfl rfl
  · rw [hretire]
    exact h.writes.of_eq rfl

theorem Aimed.completeSend (h : Aimed G s₀ key (s, context)) :
    Aimed G s₀ key (s.completeSend key context) := by
  have hretired : Aimed G s₀ key (s.retireContextResources { context with completed := true }) :=
    Aimed.retire ⟨h.registrations, ⟨⟨h.context.keyed, h.context.mode⟩, h.context.target⟩, h.writes⟩
  refine ⟨⟨?_, hretired.registrations.registered⟩, hretired.context, hretired.writes⟩
  exact KeyedMap.forall_modify hretired.registrations.posted fun _ hposted => hposted

theorem Aimed.finish (h : Aimed G s₀ key (s, context)) :
    Aimed G s₀ key (s.tryRetireCompletedContext key context) := by
  apply tryRetireCompletedContext_rule h
  · intro _
    exact h.completeSend
  · intro _
    exact Aimed.retire ⟨h.registrations.erase_target _,
      ⟨⟨h.context.keyed, h.context.mode⟩, h.context.target⟩, h.writes⟩

theorem Aimed.promote (h : Aimed G s₀ key (s, context)) :
    Aimed G s₀ key (s.tryPromoteUnexpectedToMatched context) := by
  unfold tryPromoteUnexpectedToMatched
  split
  · rename_i hmode
    split
    · exact h
    · rename_i posted hposted
      have hdirect : context.mode ≠ .readResponse := by simp [hmode]
      have hsend : key.opcode = .send := h.context.opcode_eq_send hdirect
      have hposted' : G (.send, context.key.lookupKey) posted.baseAddr posted.length :=
        h.registrations.postedReceive hposted
      have hgrant : G key.message posted.baseAddr posted.length := by
        rw [RxMessageKey.message, hsend, ← h.context.keyed]
        exact hposted'
      obtain ⟨memory, memoryWrites, hwrite⟩ := writeMemory_eq s posted.baseAddr
        (context.payloadBuffer.take posted.length)
      refine ⟨⟨?_, ?_⟩,
        ⟨h.context.toBelongs.of_mode rfl hdirect (by simp), fun _ => hgrant⟩, ?_⟩
      · rw [hwrite]
        exact KeyedMap.forall_insert h.registrations.posted hposted'
      · rw [hwrite]
        exact h.registrations.registered
      · refine WritesSince.of_eq (h.writes.writeMemory posted.baseAddr
          (context.payloadBuffer.take posted.length) fun _ => ⟨_, _, hgrant, le_rfl, ?_⟩) rfl
        rw [List.length_take]
        exact Nat.add_le_add_left (Nat.min_le_left _ _) _
  · exact h

/-- Every elementary step of an action that stays inside its target keeps to
memory that was handed over. -/
theorem Aimed.work {s₁ : PdsManager} {w w' : Working} (h : Aimed G s₁ key w)
    (haction : s₀.ActionInside a) (hwork : Work s₀ a key w w') : Aimed G s₁ key w' := by
  have hbelongs := h.context.toBelongs.work hwork
  cases hwork with
  | arrivalBlock | unexpected | readTrack | answer =>
      exact ⟨h.registrations.congr rfl rfl, ⟨hbelongs, h.context.target⟩, h.writes.of_eq rfl⟩
  | target hopcode hposted =>
      refine ⟨h.registrations, ⟨hbelongs, fun _ => ?_⟩, h.writes⟩
      rw [RxMessageKey.message, hopcode]
      exact h.registrations.postedReceive hposted
  | expect =>
      refine ⟨h.registrations, ⟨hbelongs, ?_⟩, h.writes⟩
      unfold RxMessageContext.acceptExpected
      split <;> exact h.context.target
  | buffer => exact ⟨h.registrations, ⟨hbelongs, h.context.target⟩, h.writes⟩
  | @direct s context tag packet hmode hinside =>
      obtain ⟨memory, memoryWrites, hcopy⟩ := copyPacketBytesToTarget_eq s packet
        context.targetBaseAddr tag.fragmentOffset (max 1 context.targetLength)
      refine ⟨?_, h.context, h.writes.copyPacketBytesToTarget ?_⟩
      · rw [hcopy]
        exact h.registrations.congr rfl rfl
      · exact h.context.inside (hinside haction) (Nat.le_max_right _ _)
          (by simp [RxMessageContext.reach, hmode])
  | @store s context tag packet hinside =>
      obtain ⟨memory, memoryWrites, hstore⟩ := storeChunkInContext_eq s context tag packet
      obtain ⟨hbase, hlength⟩ := storeChunkInContext_target s context tag packet
      refine ⟨?_, ⟨hbelongs, ?_⟩, h.writes.storeChunkInContext ?_⟩
      · rw [hstore]
        exact h.registrations.congr rfl rfl
      · rw [hbase, hlength]
        exact h.context.target
      · exact h.context.inside (hinside haction) le_rfl context.targetLength_le_reach
  | promote => exact h.promote
  | finish => exact h.finish
  | refuse =>
      exact Aimed.retire ⟨h.registrations, ⟨⟨h.context.keyed, h.context.mode⟩, h.context.target⟩,
        h.writes⟩

/-! ## Whole actions -/

/-- All targets of the receive side were handed over for their messages. -/
structure TargetsGranted (G : OpType × ReceiveLookupKey → ℕ → ℕ → Prop) (s : PdsManager) :
    Prop where
  registrations : RegistrationsGranted G s
  contexts : ∀ key context, s.rxMessageContexts.lookup key = some context →
    ContextGranted G key context

/-- What the pieces of the action `a` keep. -/
structure AimedBy (G : OpType × ReceiveLookupKey → ℕ → ℕ → Prop) (s₀ : PdsManager)
    (a : PdsAction) (s : PdsManager) : Prop where
  targets : TargetsGranted G s
  writes : WritesSince (fun w => ∃ message, a.message = some message ∧ InsideGrant G message w)
    s₀ s

theorem WritesSince.mono {Q : MemoryWrite → Prop} (h : WritesSince P s₀ s)
    (himp : ∀ w, P w → Q w) : WritesSince Q s₀ s := by
  obtain ⟨writes, hwrites, hall⟩ := h
  exact ⟨writes, hwrites, fun w hw => himp w (hall w hw)⟩

theorem TargetsGranted.mono {G' : OpType × ReceiveLookupKey → ℕ → ℕ → Prop}
    (h : TargetsGranted G s) (himp : ∀ message baseAddr length, G message baseAddr length →
      G' message baseAddr length) : TargetsGranted G' s where
  registrations :=
    { posted := fun lookup posted hlookup =>
        himp _ _ _ (h.registrations.posted lookup posted hlookup)
      registered := fun lookup target hlookup =>
        himp _ _ _ (h.registrations.registered lookup target hlookup) }
  contexts key context hlookup :=
    have hcontext := h.contexts key context hlookup
    ⟨hcontext.toBelongs, fun hbase => himp _ _ _ (hcontext.target hbase)⟩

/-- The context of a piece of work, and the message that it is for. -/
theorem AimedBy.opened (h : AimedBy G s₀ a s) (hopened : Opened s₀ a s key context) :
    a.message = some key.message ∧ ContextGranted G key context := by
  have hbelongs := hopened.belongs fun key context hlookup =>
    (h.targets.contexts key context hlookup).toBelongs
  cases hopened with
  | active hlookup _ hmessage =>
      rw [hbelongs.keyed, or_self] at hmessage
      exact ⟨hmessage, h.targets.contexts key context hlookup⟩
  | send ha _ hkey =>
      exact ⟨by rw [ha, hkey]; rfl, hbelongs, fun hbase => absurd rfl hbase⟩
  | read ha _ hkey _ htarget =>
      have hread : key.message = (.read, key.lookupKey) := by rw [hkey]; rfl
      refine ⟨by rw [ha, hkey]; rfl, hbelongs, fun _ => ?_⟩
      rw [hread]
      exact h.targets.registrations.registered _ _ htarget

theorem Aimed.works {s₁ : PdsManager} {w w' : Working} (h : Aimed G s₁ key w)
    (haction : s₀.ActionInside a) (hworks : Works s₀ a key w w') : Aimed G s₁ key w' := by
  induction hworks with
  | refl => exact h
  | tail _ hwork ih => exact ih.work haction hwork

theorem lookup_of_lookup_foldl_erase
    (l : List (Sigma fun _ : RxMessageKey => RxMessageContext))
    (targets : KeyedMap ReceiveLookupKey ReadResponseTarget) {lookup : ReceiveLookupKey}
    {target : ReadResponseTarget}
    (h : (l.foldl (fun targets e => targets.erase e.2.key.lookupKey) targets).lookup lookup =
      some target) : targets.lookup lookup = some target := by
  induction l generalizing targets with
  | nil => exact h
  | cons e l ih => exact KeyedMap.lookup_of_lookup_erase (ih _ h)

theorem TargetsGranted.prune (h : TargetsGranted G s) : TargetsGranted G s.pruneReceiveState where
  registrations :=
    { posted := by
        refine KeyedMap.forall_filterMap h.registrations.posted fun _ _ _ hposted hkept => ?_
        split_ifs at hkept
        cases hkept
        exact hposted
      registered := fun lookup target hlookup =>
        h.registrations.registered lookup target (lookup_of_lookup_foldl_erase _ _ hlookup) }
  contexts := by
    refine KeyedMap.forall_filterMap h.contexts fun key context context' hcontext hprune => ?_
    obtain ⟨-, -, hbase, hlength⟩ := prune_keeps hprune
    refine ⟨hcontext.toBelongs.prune hprune, ?_⟩
    rw [hbase, hlength]
    exact hcontext.target

/-- Every piece of an action that stays inside its target keeps to memory that
was handed over. -/
theorem AimedBy.change (h : AimedBy G s₀ a s) (haction : s₀.ActionInside a)
    (hgrants : ∀ g ∈ a.grants, G g.message g.baseAddr g.length)
    (hchange : Change s₀ a s s') : AimedBy G s₀ a s' := by
  cases hchange with
  | prune => exact ⟨h.targets.prune, h.writes.of_eq rfl⟩
  | @work s s' key context context' hopened hwork =>
      obtain ⟨hmessage, hcontext⟩ := h.opened hopened
      have haimed : Aimed G s₀ key (s, context) := by
        refine ⟨h.targets.registrations, hcontext, h.writes.mono fun w hw => ?_⟩
        obtain ⟨message, heq, hinside⟩ := hw
        cases hmessage.symm.trans heq
        exact hinside
      have hdone := haimed.works haction hwork
      refine ⟨⟨hdone.registrations.congr rfl rfl, ?_⟩,
        (hdone.writes.mono fun w hw => ⟨_, hmessage, hw⟩).of_eq rfl⟩
      rw [setContext, rxMessageContexts_works hwork]
      exact KeyedMap.forall_insert h.targets.contexts hdone.context
  | post lookup baseAddr length ha =>
      subst ha
      refine ⟨⟨⟨?_, h.targets.registrations.registered⟩, h.targets.contexts⟩, h.writes.of_eq rfl⟩
      exact KeyedMap.forall_insert h.targets.registrations.posted
        (hgrants _ List.mem_cons_self)
  | register lookup baseAddr length ha =>
      subst ha
      refine ⟨⟨⟨h.targets.registrations.posted, ?_⟩, h.targets.contexts⟩, h.writes.of_eq rfl⟩
      exact KeyedMap.forall_insert h.targets.registrations.registered
        (hgrants _ List.mem_cons_self)
  | unregister lookup =>
      exact ⟨⟨h.targets.registrations.erase_target lookup, h.targets.contexts⟩,
        h.writes.of_eq rfl⟩
  | configure | clock =>
      exact ⟨⟨h.targets.registrations.congr rfl rfl, h.targets.contexts⟩, h.writes.of_eq rfl⟩

theorem AimedBy.pdsStep (h : TargetsGranted G s) (haction : s.ActionInside a)
    (hgrants : ∀ g ∈ a.grants, G g.message g.baseAddr g.length) :
    AimedBy G s a (s.pdsStep a) := by
  have hstart : AimedBy G s a s := ⟨h, .refl⟩
  have hchanges := pdsStep_changes s a
  generalize s.pdsStep a = s' at hchanges
  induction hchanges with
  | refl => exact hstart
  | tail _ hchange ih => exact ih.change haction hgrants hchange

theorem Idle.targetsGranted (h : Idle s) : TargetsGranted G s where
  registrations :=
    { posted := fun lookup posted hlookup => by simp [h.postedReceives] at hlookup
      registered := fun lookup target hlookup => by simp [h.readResponseTargets] at hlookup }
  contexts key context hlookup := by simp [h.rxMessageContexts] at hlookup

end PdsManager

/-! ## Whole runs -/

namespace TargetHistory

open PdsManager

/-- What every run keeps whose fragments are stored inside their targets. -/
structure Kept (h : TargetHistory) : Prop where
  targets : TargetsGranted (fun message baseAddr length =>
    ⟨message, baseAddr, length⟩ ∈ h.granted) h.manager
  written : h.WrittenInside

theorem Kept.step {h : TargetHistory} {a : PdsAction} (hkept : Kept h)
    (hinside : h.manager.ActionInside a) : Kept (h.step a) := by
  have haimed : AimedBy (fun message baseAddr length =>
      ⟨message, baseAddr, length⟩ ∈ (h.step a).granted) h.manager a (h.step a).manager := by
    refine AimedBy.pdsStep (hkept.targets.mono fun _ _ _ hg => ?_) hinside fun g hg => ?_
    · exact List.mem_append_left _ hg
    · exact List.mem_append_right _ hg
  refine ⟨haimed.targets, fun e he => ?_⟩
  rcases List.mem_append.mp he with he | he
  · obtain ⟨g, hg, hwithin⟩ := hkept.written e he
    exact ⟨g, List.mem_append_left _ hg, hwithin⟩
  · obtain ⟨w, hw, rfl⟩ := List.mem_map.mp he
    obtain ⟨message, hmessage, baseAddr, length, hg, hlow, hhigh⟩ :=
      mem_newWrites haimed.writes hw
    exact ⟨_, hg, hmessage, hlow, hhigh⟩

/-- In a run whose stored fragments stay inside their targets, every write lies
inside memory that was handed over for its message. -/
theorem writtenInside_of_inside {h : TargetHistory}
    (hreach : system.ReachableBy (fun h a => h.manager.ActionInside a) h) : h.WrittenInside :=
  (hreach.invariant (P := Kept)
    (fun h hinit => ⟨hinit.1.targetsGranted, fun e he => by simp [hinit.2.2] at he⟩)
    fun h a h' hkept hinside hstep => by
      cases hstep
      exact hkept.step hinside).written

/-- The guard and the theorem at work: a posted receive takes a fragment. -/
theorem writtenInside_after_posted_receive :
    WrittenInside ((({ manager := {} } : TargetHistory).step
      (.postReceive (sampleLookup 1) 100 2)).step (.sendPacket 1 (sampleFragment 1 1 0 [7]))) :=
  writtenInside_of_inside
    (.step (.sendPacket 1 (sampleFragment 1 1 0 [7]))
      (.step (.postReceive (sampleLookup 1) 100 2) (.init ⟨idle_default, rfl, rfl⟩) trivial rfl)
      (fun _ _ _ _ _ => by decide) rfl)

/-- A receive of length zero is posted at address 100 and takes a fragment of
one byte: the byte is written to address 100. -/
theorem empty_target_written :
    ∃ h : TargetHistory, system.Reachable h ∧ ¬ h.WrittenInside := by
  obtain ⟨h, hrun⟩ : ∃ h, system.runActions { manager := {} }
      [.postReceive (sampleLookup 1) 100 0,
        .sendPacket 1 (sampleFragment 1 1 0 [7])] = some h := ⟨_, rfl⟩
  refine ⟨h, TransitionSystem.ReachableBy.runActions (.init ⟨idle_default, rfl, rfl⟩)
    (fun _ _ _ => trivial) hrun, fun hinside => ?_⟩
  have hend : (system.runActions { manager := {} }
      [.postReceive (sampleLookup 1) 100 0,
        .sendPacket 1 (sampleFragment 1 1 0 [7])]).map (fun h => (h.granted, h.written)) =
      some ([⟨(.send, sampleLookup 1), 100, 0⟩],
        [(some (.send, sampleLookup 1), ⟨100, 1⟩)]) := by decide
  rw [hrun, Option.map_some, Option.some.injEq, Prod.mk.injEq] at hend
  rw [WrittenInside, hend.1, hend.2] at hinside
  simp at hinside

end TargetHistory
end UeSim
