import UeSim.Pds.Steps

/-!
# Accounting of the receive resources

Four pools back the receive contexts: arrival blocks, unexpected messages,
unexpected bytes and read tracks.  What is in use of a pool is the sum of what
the active contexts hold of it, and never more than its limit.

The byte count of an unexpected message is added in `uint32_t`.  When the sum
wraps around, the admission test passes on the wrapped value and the pool
forgets bytes that a context still holds.
-/

namespace UeSim

/-- The resources of the receive pool. -/
inductive ReceiveResource
  | arrivalBlock
  | unexpectedMessage
  | unexpectedByte
  | readTrack
  deriving DecidableEq, Repr

namespace RudReceiveResourcePool

/-- How much of a resource is in use. -/
def inUse (pool : RudReceiveResourcePool) : ReceiveResource → ℕ
  | .arrivalBlock => pool.arrivalBlocksInUse
  | .unexpectedMessage => pool.unexpectedMessagesInUse
  | .unexpectedByte => pool.unexpectedBytesInUse
  | .readTrack => pool.readTracksInUse

/-- The configured maximum of a resource. -/
def limit (pool : RudReceiveResourcePool) : ReceiveResource → ℕ
  | .arrivalBlock => pool.maxArrivalBlocks
  | .unexpectedMessage => pool.maxUnexpectedMessages
  | .unexpectedByte => pool.maxUnexpectedBytes
  | .readTrack => pool.maxReadTracks

end RudReceiveResourcePool

namespace RxMessageContext

/-- How much of a resource a context holds. -/
def held (context : RxMessageContext) : ReceiveResource → ℕ
  | .arrivalBlock => if context.arrivalReserved then 1 else 0
  | .unexpectedMessage => if context.unexpectedReserved then 1 else 0
  | .unexpectedByte => if context.unexpectedReserved then context.totalLength else 0
  | .readTrack => if context.readTrackReserved then 1 else 0

/-- How much of a resource a context holds while it is active. -/
def activeHeld (r : ReceiveResource) (context : RxMessageContext) : ℕ :=
  if context.retired then 0 else context.held r

end RxMessageContext

namespace PdsManager

/-- What is in use of each resource is what the active contexts hold of it, and
at most the limit. -/
structure ResourcesAccounted (s : PdsManager) : Prop where
  sums : ∀ r, s.receivePool.inUse r =
    KeyedMap.total (fun _ context => context.activeHeld r) s.rxMessageContexts
  bounds : ∀ r, s.receivePool.inUse r ≤ s.receivePool.limit r

/-! ## Contexts -/

/-- A context gives back all that it holds when it is retired. -/
structure Solvent (context : RxMessageContext) : Prop where
  readTrack : context.readTrackReserved = true → context.mode = .readResponse
  accepted : context.mode = .readResponse → context.semanticAccepted = true
  retired : context.retired = true → ∀ r, context.held r = 0

variable {s₀ s s' : PdsManager} {a : PdsAction} {key : RxMessageKey}
  {context context' : RxMessageContext}

theorem inUse_releaseContext (pool : RudReceiveResourcePool) (h : Solvent context)
    (r : ReceiveResource) :
    (pool.releaseContext context).inUse r = pool.inUse r - context.held r := by
  cases r with
  | arrivalBlock | unexpectedMessage | unexpectedByte => rfl
  | readTrack =>
      cases htrack : context.readTrackReserved with
      | false => simp [RudReceiveResourcePool.releaseContext, RudReceiveResourcePool.inUse,
          RxMessageContext.held, htrack]
      | true => simp [RudReceiveResourcePool.releaseContext, RudReceiveResourcePool.inUse,
          RxMessageContext.held, htrack, h.readTrack htrack]

theorem limit_releaseContext (pool : RudReceiveResourcePool) (r : ReceiveResource) :
    (pool.releaseContext context).limit r = pool.limit r := by
  cases r <;> rfl

theorem held_retire (h : Solvent context) (nowMs : ℕ) (r : ReceiveResource) :
    (context.retire nowMs).held r = 0 := by
  cases r with
  | arrivalBlock | unexpectedMessage | unexpectedByte => rfl
  | readTrack =>
      cases htrack : context.readTrackReserved with
      | false => simp [RxMessageContext.retire, RxMessageContext.held, htrack]
      | true => simp [RxMessageContext.retire, RxMessageContext.held, htrack, h.readTrack htrack]

theorem Solvent.retire (h : Solvent context) (nowMs : ℕ) : Solvent (context.retire nowMs) where
  readTrack htrack := by
    have : context.readTrackReserved = true ∧ context.mode ≠ .readResponse := by
      simpa [RxMessageContext.retire] using htrack
    exact absurd (h.readTrack this.1) this.2
  accepted := h.accepted
  retired _ r := held_retire h nowMs r

/-! ## The work on one context -/

/-- The pool is balanced when the other contexts hold `rest`. -/
structure Balanced (rest : ReceiveResource → ℕ) (w : Working) : Prop where
  sums : ∀ r, w.1.receivePool.inUse r = rest r + w.2.held r
  bounds : ∀ r, w.1.receivePool.inUse r ≤ w.1.receivePool.limit r
  solvent : Solvent w.2

/-- A step that touches neither the pool nor what the context holds. -/
theorem Balanced.keep {rest : ReceiveResource → ℕ} (h : Balanced rest (s, context))
    (hpool : s'.receivePool = s.receivePool) (hheld : context'.held = context.held)
    (hsolvent : Solvent context') : Balanced rest (s', context') where
  sums r := by
    rw [hpool, hheld]
    exact h.sums r
  bounds r := by
    rw [hpool]
    exact h.bounds r
  solvent := hsolvent

theorem Balanced.retire {rest : ReceiveResource → ℕ} (h : Balanced rest (s, context)) :
    Balanced rest (s.retireContextResources context) := by
  unfold retireContextResources
  by_cases hretired : context.retired = true
  · rw [if_pos hretired]
    exact h
  · rw [if_neg hretired]
    constructor
    · intro r
      rw [inUse_releaseContext _ h.solvent, held_retire h.solvent, h.sums r]
      exact Nat.add_sub_cancel ..
    · intro r
      rw [inUse_releaseContext _ h.solvent, limit_releaseContext]
      exact (Nat.sub_le _ _).trans (h.bounds r)
    · exact h.solvent.retire _

theorem Balanced.store {rest : ReceiveResource → ℕ} (h : Balanced rest (s, context))
    (tag : SoftUeMetadataTag) (packet : Packet) :
    Balanced rest (s.storeChunkInContext context tag packet) := by
  unfold storeChunkInContext
  cases context.chunkArrived[context.chunkIndex tag]? with
  | none => exact h
  | some arrived =>
      refine h.keep ?_ rfl ⟨h.solvent.readTrack, h.solvent.accepted, h.solvent.retired⟩
      split
      · obtain ⟨memory, memoryWrites, hcopy⟩ := copyPacketBytesToTarget_eq s packet
          context.targetBaseAddr tag.fragmentOffset context.targetLength
        rw [hcopy]
      · rfl

theorem Balanced.promote {rest : ReceiveResource → ℕ} (h : Balanced rest (s, context)) :
    Balanced rest (s.tryPromoteUnexpectedToMatched context) := by
  apply tryPromoteUnexpectedToMatched_rule h
  intro posted hmode _
  obtain ⟨memory, memoryWrites, hwrite⟩ := writeMemory_eq s posted.baseAddr
    (context.payloadBuffer.take posted.length)
  refine h.keep (by rw [hwrite]) rfl ⟨fun htrack => ?_, ?_, h.solvent.retired⟩
  · exact absurd (hmode.symm.trans (h.solvent.readTrack htrack)) (by simp)
  · simp

theorem Balanced.finish {rest : ReceiveResource → ℕ} (h : Balanced rest (s, context)) :
    Balanced rest (s.tryRetireCompletedContext key context) := by
  have hmarked : Balanced rest (s, { context with completed := true }) :=
    h.keep rfl rfl ⟨h.solvent.readTrack, h.solvent.accepted, h.solvent.retired⟩
  have hsend : Balanced rest (s.completeSend key context) :=
    hmarked.retire.keep rfl rfl hmarked.retire.solvent
  apply tryRetireCompletedContext_rule h
  · intro _
    exact hsend
  · intro _
    exact Balanced.retire (hmarked.keep rfl rfl hmarked.solvent)

/-- A reservation is added to the pool and to what the context holds. -/
theorem Balanced.reserve {rest : ReceiveResource → ℕ} {pool : RudReceiveResourcePool}
    (h : Balanced rest (s, context)) (amount : ReceiveResource → ℕ)
    (hpool : ∀ r, pool.inUse r = s.receivePool.inUse r + amount r)
    (hheld : ∀ r, context'.held r = context.held r + amount r)
    (hbounds : ∀ r, pool.inUse r ≤ pool.limit r) (hsolvent : Solvent context') :
    Balanced rest ({ s with receivePool := pool }, context') where
  sums r := by
    have hsum : s.receivePool.inUse r = rest r + context.held r := h.sums r
    dsimp only
    rw [hpool r, hheld r, hsum, Nat.add_assoc]
  bounds := hbounds
  solvent := hsolvent

theorem Balanced.arrivalBlock {rest : ReceiveResource → ℕ} (h : Balanced rest (s, context))
    (hactive : context.retired = false) (hheld : context.arrivalReserved = false)
    (hroom : s.receivePool.lacksArrivalBlock = false) :
    Balanced rest
      ({ s with receivePool :=
          { s.receivePool with arrivalBlocksInUse := s.receivePool.arrivalBlocksInUse + 1 } },
        { context with arrivalReserved := true }) := by
  refine h.reserve (fun r => if r = .arrivalBlock then 1 else 0) ?_ ?_ ?_
    ⟨h.solvent.readTrack, h.solvent.accepted, fun hretired => ?_⟩
  · rintro (_ | _ | _ | _) <;> rfl
  · rintro (_ | _ | _ | _) <;> simp [RxMessageContext.held, hheld]
  · have hfree : s.receivePool.arrivalBlocksInUse < s.receivePool.maxArrivalBlocks := by
      simpa [RudReceiveResourcePool.lacksArrivalBlock] using hroom
    rintro (_ | _ | _ | _)
    · exact hfree
    · exact h.bounds .unexpectedMessage
    · exact h.bounds .unexpectedByte
    · exact h.bounds .readTrack
  · exact absurd (hactive.symm.trans hretired) Bool.false_ne_true

theorem Balanced.unexpected {rest : ReceiveResource → ℕ} (h : Balanced rest (s, context))
    (hactive : context.retired = false) (hheld : context.unexpectedReserved = false)
    (hroom : s.receivePool.lacksUnexpectedResources context.totalLength = false)
    (hfits : s.receivePool.unexpectedBytesInUse + context.totalLength < 2 ^ 32) :
    Balanced rest
      ({ s with receivePool :=
          { s.receivePool with
            unexpectedMessagesInUse := s.receivePool.unexpectedMessagesInUse + 1
            unexpectedBytesInUse :=
              toU32 (s.receivePool.unexpectedBytesInUse + context.totalLength) } },
        { context with unexpectedReserved := true }) := by
  simp only [RudReceiveResourcePool.lacksUnexpectedResources, Bool.or_eq_false_iff,
    decide_eq_false_iff_not, toU32_of_lt hfits] at hroom
  rw [toU32_of_lt hfits]
  refine h.reserve (fun r => if r = .unexpectedMessage then 1
    else if r = .unexpectedByte then context.totalLength else 0) ?_ ?_ ?_
    ⟨h.solvent.readTrack, h.solvent.accepted, fun hretired => ?_⟩
  · rintro (_ | _ | _ | _) <;> rfl
  · rintro (_ | _ | _ | _) <;> simp [RxMessageContext.held, hheld]
  · rintro (_ | _ | _ | _)
    · exact h.bounds .arrivalBlock
    · exact Nat.lt_of_not_le hroom.1
    · exact Nat.le_of_not_lt hroom.2
    · exact h.bounds .readTrack
  · exact absurd (hactive.symm.trans hretired) Bool.false_ne_true

theorem Balanced.readTrack {rest : ReceiveResource → ℕ} (h : Balanced rest (s, context))
    (hactive : context.retired = false) (hheld : context.readTrackReserved = false)
    (hmode : context.mode = .readResponse)
    (hroom : s.receivePool.readTracksInUse < s.receivePool.maxReadTracks) :
    Balanced rest
      ({ s with receivePool :=
          { s.receivePool with readTracksInUse := s.receivePool.readTracksInUse + 1 } },
        { context with readTrackReserved := true }) := by
  refine h.reserve (fun r => if r = .readTrack then 1 else 0) ?_ ?_ ?_
    ⟨fun _ => hmode, h.solvent.accepted, fun hretired => ?_⟩
  · rintro (_ | _ | _ | _) <;> rfl
  · rintro (_ | _ | _ | _) <;> simp [RxMessageContext.held, hheld]
  · rintro (_ | _ | _ | _)
    · exact h.bounds .arrivalBlock
    · exact h.bounds .unexpectedMessage
    · exact h.bounds .unexpectedByte
    · exact hroom
  · exact absurd (hactive.symm.trans hretired) Bool.false_ne_true

theorem Solvent.acceptExpected (h : Solvent context) : Solvent context.acceptExpected := by
  unfold RxMessageContext.acceptExpected
  cases haccepted : context.semanticAccepted with
  | true => exact h
  | false =>
      refine ⟨fun htrack => ?_, fun _ => rfl, h.retired⟩
      have := h.accepted (h.readTrack htrack)
      exact absurd (haccepted.symm.trans this) Bool.false_ne_true

theorem Solvent.acceptUnexpected (h : Solvent context) (hunsettled : context.unsettled = true) :
    Solvent context.acceptUnexpected := by
  refine ⟨fun htrack => ?_, fun _ => rfl, h.retired⟩
  exact absurd ((mode_of_unsettled hunsettled).symm.trans (h.readTrack htrack)) (by simp)

theorem held_acceptExpected (context : RxMessageContext) :
    context.acceptExpected.held = context.held := by
  unfold RxMessageContext.acceptExpected
  split
  · rfl
  · funext r
    cases r <;> rfl

theorem held_congr (harrival : context'.arrivalReserved = context.arrivalReserved)
    (hunexpected : context'.unexpectedReserved = context.unexpectedReserved)
    (hlength : context'.totalLength = context.totalLength)
    (htrack : context'.readTrackReserved = context.readTrackReserved) :
    context'.held = context.held := by
  funext r
  cases r <;> simp [RxMessageContext.held, harrival, hunexpected, hlength, htrack]

/-- Every elementary step of an action that stays within the pools keeps the
balance. -/
theorem Balanced.work {rest : ReceiveResource → ℕ} {w w' : Working}
    (h : Balanced rest w) (haction : s₀.ActionFits a) (hwork : Work s₀ a key w w') :
    Balanced rest w' := by
  cases hwork with
  | arrivalBlock hactive hheld hroom => exact h.arrivalBlock hactive hheld hroom
  | unexpected hactive hheld hroom hfits =>
      exact h.unexpected hactive hheld hroom (hfits haction)
  | readTrack hactive hheld hmode hroom => exact h.readTrack hactive hheld hmode hroom
  | target =>
      refine h.keep rfl (held_congr rfl rfl rfl rfl) ?_
      exact ⟨h.solvent.readTrack, h.solvent.accepted, h.solvent.retired⟩
  | expect => exact h.keep rfl (held_acceptExpected _) h.solvent.acceptExpected
  | buffer hunsettled =>
      exact h.keep rfl (held_congr rfl rfl rfl rfl) (h.solvent.acceptUnexpected hunsettled)
  | @direct s context tag packet =>
      obtain ⟨memory, memoryWrites, hcopy⟩ := copyPacketBytesToTarget_eq s packet
        context.targetBaseAddr tag.fragmentOffset (max 1 context.targetLength)
      exact h.keep (by rw [hcopy]) rfl h.solvent
  | store tag packet => exact h.store tag packet
  | promote => exact h.promote
  | finish => exact h.finish
  | answer =>
      refine h.keep rfl (held_congr rfl rfl rfl rfl) ?_
      exact ⟨h.solvent.readTrack, h.solvent.accepted, h.solvent.retired⟩
  | refuse =>
      refine Balanced.retire (h.keep rfl (held_congr rfl rfl rfl rfl) ?_)
      exact ⟨h.solvent.readTrack, h.solvent.accepted, h.solvent.retired⟩

theorem Balanced.works {rest : ReceiveResource → ℕ} {w w' : Working}
    (h : Balanced rest w) (haction : s₀.ActionFits a) (hworks : Works s₀ a key w w') :
    Balanced rest w' := by
  induction hworks with
  | refl => exact h
  | tail _ hwork ih => exact ih.work haction hwork

/-! ## The whole manager -/

/-- The pool is balanced, and every context is solvent. -/
structure Accounted (s : PdsManager) : Prop where
  sums : ∀ r, s.receivePool.inUse r =
    KeyedMap.total (fun _ context => context.held r) s.rxMessageContexts
  bounds : ∀ r, s.receivePool.inUse r ≤ s.receivePool.limit r
  solvent : ∀ key context, s.rxMessageContexts.lookup key = some context → Solvent context

theorem Accounted.resourcesAccounted (h : Accounted s) : ResourcesAccounted s where
  sums r := by
    rw [h.sums r]
    refine KeyedMap.total_congr fun key context hlookup => ?_
    unfold RxMessageContext.activeHeld
    cases hretired : context.retired with
    | true => exact (h.solvent key context hlookup).retired hretired r
    | false => rfl
  bounds := h.bounds

/-- What the contexts of the other keys hold. -/
def restHeld (s : PdsManager) (key : RxMessageKey) (r : ReceiveResource) : ℕ :=
  KeyedMap.total (fun _ context => context.held r) (s.rxMessageContexts.erase key)

theorem solvent_freshContext (totalLength : ℕ) : Solvent (s.freshContext key totalLength) :=
  ⟨nofun, nofun, nofun⟩

/-- A context that is taken out of the map leaves the pool balanced. -/
theorem Accounted.opened (h : Accounted s) (hopened : Opened s₀ a s key context) :
    Balanced (s.restHeld key) (s, context) := by
  have hsum (r : ReceiveResource) : s.receivePool.inUse r =
      KeyedMap.weightAt (fun _ context => context.held r) s.rxMessageContexts key +
        s.restHeld key r := by
    rw [h.sums r]
    exact KeyedMap.total_eq_weightAt_add_erase _ _ _
  have hfresh (hnone : ∀ c, s.rxMessageContexts.lookup key = some c → c.retired = true)
      (r : ReceiveResource) : s.receivePool.inUse r = s.restHeld key r := by
    rw [hsum r]
    cases hlookup : s.rxMessageContexts.lookup key with
    | none => rw [KeyedMap.weightAt_of_none hlookup, Nat.zero_add]
    | some c =>
        rw [KeyedMap.weightAt_of_some hlookup,
          (h.solvent key c hlookup).retired (hnone c hlookup), Nat.zero_add]
  cases hopened with
  | active hlookup hactive =>
      refine ⟨fun r => ?_, h.bounds, h.solvent key context hlookup⟩
      rw [hsum r, KeyedMap.weightAt_of_some hlookup, Nat.add_comm]
  | send _ _ _ hnone =>
      refine ⟨fun r => ?_, h.bounds, solvent_freshContext _⟩
      rw [hfresh hnone r]
      cases r <;> rfl
  | read _ _ _ hnone =>
      refine ⟨fun r => ?_, h.bounds, ⟨nofun, fun _ => rfl, nofun⟩⟩
      rw [hfresh hnone r]
      cases r <;> rfl

/-- The context goes back into the map, and the whole pool is balanced. -/
theorem Balanced.setContext (h : Balanced (s.restHeld key) (s', context'))
    (hmap : s'.rxMessageContexts = s.rxMessageContexts)
    (hsolvent : ∀ key context, s.rxMessageContexts.lookup key = some context →
      Solvent context) : Accounted (s'.setContext key context') where
  sums r := by
    have htotal : KeyedMap.total (fun _ context => context.held r)
        (s'.setContext key context').rxMessageContexts =
          context'.held r + s.restHeld key r := by
      rw [PdsManager.setContext, hmap]
      exact KeyedMap.total_insert _ _ _ _
    rw [htotal, Nat.add_comm]
    exact h.sums r
  bounds := h.bounds
  solvent := by
    rw [PdsManager.setContext, hmap]
    exact KeyedMap.forall_insert hsolvent h.solvent

/-! ## Pruning -/

theorem inUse_foldl_releaseContext (r : ReceiveResource)
    (l : List (Sigma fun _ : RxMessageKey => RxMessageContext))
    (hsolvent : ∀ e ∈ l, Solvent e.2) (pool : RudReceiveResourcePool) :
    (l.foldl (fun pool e => pool.releaseContext e.2) pool).inUse r =
      pool.inUse r - (l.map fun e => e.2.held r).sum := by
  induction l generalizing pool with
  | nil => rfl
  | cons e l ih =>
      rw [List.foldl_cons, ih (fun e' he' => hsolvent e' (List.mem_cons_of_mem _ he')),
        inUse_releaseContext _ (hsolvent e List.mem_cons_self), List.map_cons, List.sum_cons,
        Nat.sub_sub]

theorem limit_foldl_releaseContext (r : ReceiveResource)
    (l : List (Sigma fun _ : RxMessageKey => RxMessageContext))
    (pool : RudReceiveResourcePool) :
    (l.foldl (fun pool e => pool.releaseContext e.2) pool).limit r = pool.limit r := by
  induction l generalizing pool with
  | nil => rfl
  | cons e l ih => rw [List.foldl_cons, ih, limit_releaseContext]

theorem Solvent.prune (h : Solvent context) {nowMs ttl : ℕ}
    (hprune : context.prune nowMs ttl = some context') : Solvent context' := by
  have hfailed : Solvent { context with failed := !context.completed } :=
    ⟨h.readTrack, h.accepted, h.retired⟩
  unfold RxMessageContext.prune at hprune
  dsimp only at hprune
  split_ifs at hprune
  · cases hprune
    exact hfailed.retire nowMs
  · cases hprune
    exact h

/-- A stale context gives back all that it holds; any other one keeps it. -/
theorem held_prune (h : Solvent context) (r : ReceiveResource) (nowMs ttl : ℕ) :
    (context.prune nowMs ttl).elim 0 (fun context' => context'.held r) =
      if context.isStale nowMs ttl then 0 else context.held r := by
  have hfailed : Solvent { context with failed := !context.completed } :=
    ⟨h.readTrack, h.accepted, h.retired⟩
  have hretired := held_retire hfailed nowMs r
  unfold RxMessageContext.prune
  dsimp only
  by_cases hstale : context.isStale nowMs ttl = true
  · simp only [if_pos hstale]
    split
    · rfl
    · exact hretired
  · simp only [if_neg hstale]
    split
    · rename_i hold
      rw [Bool.and_eq_true] at hold
      exact (h.retired hold.1 r).symm
    · rfl

theorem Accounted.prune (h : Accounted s) : Accounted s.pruneReceiveState := by
  have hstale : ∀ e ∈ s.rxMessageContexts.entries.filter
      (fun e => e.2.isStale s.nowMs s.receiveTtl), Solvent e.2 := fun e he =>
    h.solvent e.1 e.2 (AList.mem_lookup_iff.mpr (List.mem_of_mem_filter he))
  constructor
  · intro r
    have hpruned : KeyedMap.total (fun _ context => context.held r)
        s.pruneReceiveState.rxMessageContexts =
          KeyedMap.total (fun _ context =>
            if context.isStale s.nowMs s.receiveTtl then 0 else context.held r)
              s.rxMessageContexts := by
      rw [pruneReceiveState, KeyedMap.total_filterMap]
      exact KeyedMap.total_congr fun key context hlookup =>
        held_prune (h.solvent key context hlookup) r _ _
    have hsplit := KeyedMap.total_eq_sum_filter_add (fun _ context => context.held r)
      (fun e => e.2.isStale s.nowMs s.receiveTtl) s.rxMessageContexts
    rw [hpruned]
    refine (inUse_foldl_releaseContext r _ hstale _).trans ?_
    rw [h.sums r, hsplit]
    exact Nat.add_sub_cancel_left ..
  · intro r
    refine (inUse_foldl_releaseContext r _ hstale _).trans_le ?_
    rw [pruneReceiveState, limit_foldl_releaseContext]
    exact (Nat.sub_le _ _).trans (h.bounds r)
  · exact KeyedMap.forall_filterMap h.solvent fun _ _ _ hsolvent hprune =>
      hsolvent.prune hprune

/-! ## Whole runs -/

theorem Accounted.configure (h : Accounted s)
    {maxUnexpectedMessages maxUnexpectedBytes arrivalTrackingCapacity retryTimeoutMs : ℕ}
    (hmessages : s.receivePool.unexpectedMessagesInUse ≤ maxUnexpectedMessages)
    (hbytes : s.receivePool.unexpectedBytesInUse ≤ maxUnexpectedBytes)
    (hblocks : s.receivePool.arrivalBlocksInUse ≤ arrivalTrackingCapacity) :
    Accounted (s.configureReceiveSemantics maxUnexpectedMessages maxUnexpectedBytes
      arrivalTrackingCapacity retryTimeoutMs) where
  sums r := by
    rw [configureReceiveSemantics, ← h.sums r]
    cases r <;> rfl
  bounds
    | .arrivalBlock => hblocks
    | .unexpectedMessage => hmessages
    | .unexpectedByte => hbytes
    | .readTrack => h.bounds .readTrack
  solvent := h.solvent

/-- Every piece of an action that stays within the pools keeps the accounts. -/
theorem Accounted.change (h : Accounted s) (haction : s₀.ActionFits a)
    (hchange : Change s₀ a s s') : Accounted s' := by
  cases hchange with
  | prune => exact h.prune
  | work hopened hwork =>
      exact ((h.opened hopened).works haction hwork).setContext (rxMessageContexts_works hwork)
        h.solvent
  | configure _ _ _ _ ha =>
      subst ha
      exact h.configure haction.1 haction.2.1 haction.2.2
  | post | register | unregister | clock => exact ⟨h.sums, h.bounds, h.solvent⟩

theorem Accounted.changes (h : Accounted s) (haction : s₀.ActionFits a)
    (hchanges : Changes s₀ a s s') : Accounted s' := by
  induction hchanges with
  | refl => exact h
  | tail _ hchange ih => exact ih.change haction hchange

theorem Idle.inUse_eq_zero (h : Idle s) (r : ReceiveResource) :
    s.receivePool.inUse r = 0 := by
  cases r with
  | arrivalBlock => exact h.arrivalBlocks
  | unexpectedMessage => exact h.unexpectedMessages
  | unexpectedByte => exact h.unexpectedBytes
  | readTrack => exact h.readTracks

theorem Idle.accounted (h : Idle s) : Accounted s where
  sums r := by
    rw [h.inUse_eq_zero, h.rxMessageContexts, KeyedMap.total_empty]
  bounds r := by
    rw [h.inUse_eq_zero]
    exact Nat.zero_le _
  solvent key context hlookup := by simp [h.rxMessageContexts] at hlookup

/-- In a run that stays within the pools, every resource in use is held by an
active context, and none exceeds its limit. -/
theorem resourcesAccounted_of_fits {s : PdsManager}
    (hreach : pdsSystem.ReachableBy ActionFits s) : ResourcesAccounted s :=
  (hreach.invariant (P := Accounted) (fun _ => Idle.accounted)
    fun s a s' h hfits hstep => by
      cases hstep
      exact h.changes hfits (pdsStep_changes s a)).resourcesAccounted

/-- The guard and the theorem at work: one fragment of an unexpected message. -/
theorem resourcesAccounted_after_unexpected_message :
    ResourcesAccounted (({} : PdsManager).pdsStep (.sendPacket 1 (sampleFragment 1 1 0 [7]))) :=
  resourcesAccounted_of_fits
    (.step (.sendPacket 1 (sampleFragment 1 1 0 [7])) (.init idle_default) (fun _ _ => by decide)
      rfl)

/-- An unexpected message of one byte arrives, then one that announces
`2 ^ 32 - 1` bytes: their sum wraps to 0, the second one is accepted, and no
byte counts as in use. -/
theorem unexpected_bytes_wrap :
    ∃ s : PdsManager, pdsSystem.Reachable s ∧ ¬ ResourcesAccounted s := by
  obtain ⟨s, hs⟩ : ∃ s, pdsSystem.runActions { payloadMtu := 1024 }
      [.sendPacket 1 (sampleFragment 1 1 0 [7]),
        .sendPacket 1 (sampleFragment 2 (2 ^ 32 - 1) 0 [7])] = some s := ⟨_, rfl⟩
  refine ⟨s, TransitionSystem.ReachableBy.runActions (.init (idle_of_payloadMtu _))
    (fun _ _ _ => trivial) hs, fun h => ?_⟩
  have hend : (pdsSystem.runActions { payloadMtu := 1024 }
      [.sendPacket 1 (sampleFragment 1 1 0 [7]),
        .sendPacket 1 (sampleFragment 2 (2 ^ 32 - 1) 0 [7])]).map
      (fun s => (s.receivePool.unexpectedBytesInUse,
        KeyedMap.weightAt (fun _ context => context.activeHeld .unexpectedByte)
          s.rxMessageContexts ⟨.send, 7, 1, 1, 1⟩)) = some (0, 1) := by decide
  rw [hs, Option.map_some, Option.some.injEq, Prod.mk.injEq] at hend
  have hle := KeyedMap.weightAt_le_total
    (fun _ context => context.activeHeld .unexpectedByte) s.rxMessageContexts
    (⟨.send, 7, 1, 1, 1⟩ : RxMessageKey)
  rw [hend.2, ← h.sums .unexpectedByte] at hle
  exact absurd (hle.trans_eq hend.1) (by decide)

end PdsManager
end UeSim
