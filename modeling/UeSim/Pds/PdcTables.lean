import UeSim.Common.Types
import UeSim.Support.KeyedMap
import UeSim.Support.Transition
import Mathlib.Logic.Function.Basic
import Mathlib.Data.List.Perm.Subperm
import Mathlib.Data.List.Range

/-!
# The tables of delivery contexts

A `PdsManager` keeps the contexts it has allocated under their identifiers, a
bitmap and a queue from which identifiers are taken, and the sessions that share
a reliable context.  Contexts of the receiving side are kept apart, under the
identifier that the peer chose.

The four tables agree along every run.  A call of `AllocatePdc` can still go
wrong in two ways: an allocation that fails to initialise its context does not
put the identifier back into the queue, and the search for an identifier does
not stop in front of the one that stands for a failure.
-/

namespace UeSim

/-! ## Contexts and their tables -/

/-- `DeliveryMode::RUD` and `DeliveryMode::ROD`, the modes with a shared session. -/
def reliableMode (dm : ℕ) : Bool := dm = 0 || dm = 1

/-- `PdsManager::SessionKey`. -/
structure SessionKey where
  destFep : ℕ
  tc : ℕ
  deliveryMode : ℕ
  deriving DecidableEq, Repr

/-- `PdsManager::ReceivePdcKey`. -/
structure ReceivePdcKey where
  sourceFep : ℕ
  pdcId : ℕ
  deriving DecidableEq, Repr

/-- `PdcConfig`, with the fields that the manager sets, and whether the context is
a `Tpdc` or an `Ipdc`. -/
structure PdcConfig where
  reliable : Bool
  pdcId : ℕ
  localFep : ℕ
  remoteFep : ℕ
  tc : ℕ := 0
  deliveryMode : ℕ := 0
  maxPacketSize : ℕ
  deriving DecidableEq, Repr

/-- `PdcBase::Initialize`, which decides for `Tpdc` and `Ipdc` as well. -/
def PdcConfig.initializePdc (config : PdcConfig) : Bool :=
  config.localFep ≠ 0 && config.remoteFep ≠ 0

/-- The tables of a `PdsManager`. -/
structure PdcTables where
  localFep : ℕ := 1
  mtu : ℕ := 1500
  pdcs : KeyedMap ℕ PdcConfig := ∅
  receivePdcs : KeyedMap ReceivePdcKey PdcConfig := ∅
  outgoingSessions : KeyedMap SessionKey ℕ := ∅
  pdcIdBitmap : ℕ → Bool := fun _ => false
  freePdcIds : List ℕ := []
  nextPdcId : ℕ := 0

/-- How a call of `AllocatePdc` ends. -/
inductive Allocation
  | reused (pdcId : ℕ)
  | created (pdcId : ℕ)
  | failed
  deriving DecidableEq, Repr

/-- `UINT16_MAX`, which stands for a failed allocation. -/
def invalidPdcId : ℕ := 65535

/-- What `AllocatePdc` returns. -/
def Allocation.pdcId : Allocation → ℕ
  | .reused pdcId => pdcId
  | .created pdcId => pdcId
  | .failed => invalidPdcId

/-- `m_maxPdcCount`. -/
def maxPdcCount : ℕ := 1024

/-- `MAX_PDC_ID`, the largest `uint16_t`. -/
def maxPdcId : ℕ := 65535

namespace PdcTables

/-! ## Allocation -/

/-- At most `fuel` iterations of the loop that looks for an unused identifier.  The
comparison with `MAX_PDC_ID` is always true, so that the loop goes on from 0. -/
def findFreeId (bitmap : ℕ → Bool) : ℕ → ℕ → Option ℕ
  | 0, _ => none
  | fuel + 1, next =>
      if bitmap next then findFreeId bitmap fuel (toU16 (next + 1)) else some next

/-- The session of a reliable request, if its context is active. -/
def activeSession (s : PdcTables) (key : SessionKey) : Option ℕ :=
  if reliableMode key.deliveryMode then
    (s.outgoingSessions.lookup key).filter fun pdcId => (s.pdcs.lookup pdcId).isSome
  else none

/-- The tables without a session whose context is gone. -/
def dropSession (s : PdcTables) (key : SessionKey) : PdcTables :=
  { s with
    outgoingSessions :=
      if reliableMode key.deliveryMode then s.outgoingSessions.erase key
      else s.outgoingSessions }

/-- The identifier for a new context: the one that was freed first, or else the next
one that the bitmap shows as unused. -/
def takeId (s : PdcTables) : Option (ℕ × PdcTables) :=
  match s.freePdcIds with
  | pdcId :: rest => some (pdcId, { s with freePdcIds := rest })
  | [] =>
      (findFreeId s.pdcIdBitmap (maxPdcId + 1) s.nextPdcId).map fun pdcId =>
        (pdcId, { s with nextPdcId := toU16 (pdcId + 1) })

/-- The tables with the mark of an identifier set or cleared. -/
def mark (s : PdcTables) (pdcId : ℕ) (used : Bool) : PdcTables :=
  { s with pdcIdBitmap := Function.update s.pdcIdBitmap pdcId used }

/-- The context of a new session. -/
def newPdc (s : PdcTables) (key : SessionKey) (pdcId : ℕ) : PdcConfig where
  reliable := reliableMode key.deliveryMode
  pdcId := pdcId
  localFep := s.localFep
  remoteFep := key.destFep
  tc := key.tc
  deliveryMode := key.deliveryMode
  maxPacketSize := s.mtu

/-- A context joins the tables. -/
def install (s : PdcTables) (key : SessionKey) (pdcId : ℕ) (pdc : PdcConfig) : PdcTables :=
  { s with
    pdcs := s.pdcs.insert pdcId pdc
    nextPdcId := toU16 (pdcId + 1)
    outgoingSessions :=
      if reliableMode key.deliveryMode then s.outgoingSessions.insert key pdcId
      else s.outgoingSessions }

/-- The part of `AllocatePdc` after the search for a session.  The loop ends only
with an identifier, so that the source's second search is never reached. -/
def allocateNew (s : PdcTables) (key : SessionKey) : PdcTables × Allocation :=
  if maxPdcCount ≤ s.pdcs.entries.length then (s, .failed)
  else
    match s.takeId with
    | none => (s, .failed)
    | some (pdcId, taken) =>
        if (s.newPdc key pdcId).initializePdc then
          ((taken.mark pdcId true).install key pdcId (s.newPdc key pdcId), .created pdcId)
        else ((taken.mark pdcId true).mark pdcId false, .failed)

/-- `PdsManager::AllocatePdc`. -/
def allocatePdc (s : PdcTables) (key : SessionKey) : PdcTables × Allocation :=
  match s.activeSession key with
  | some pdcId => (s, .reused pdcId)
  | none => (s.dropSession key).allocateNew key

/-! ## Release, reception and dispatch -/

/-- `PdsManager::ReleasePdc`. -/
def releasePdc (s : PdcTables) (pdcId : ℕ) : PdcTables × Bool :=
  if (s.pdcs.lookup pdcId).isSome then
    ({ s with
        pdcs := s.pdcs.erase pdcId
        outgoingSessions := KeyedMap.filterMap
          (fun _ session => if session = pdcId then none else some session) s.outgoingSessions
        pdcIdBitmap := Function.update s.pdcIdBitmap pdcId false
        freePdcIds := s.freePdcIds ++ [pdcId] }, true)
  else (s, false)

/-- The context of the receiving side. -/
def newReceivePdc (s : PdcTables) (pdcId sourceFep : ℕ) (reliable : Bool) : PdcConfig where
  reliable := reliable
  pdcId := pdcId
  localFep := s.localFep
  remoteFep := sourceFep
  maxPacketSize := s.mtu

/-- `PdsManager::EnsureReceivePdc`. -/
def ensureReceivePdc (s : PdcTables) (pdcId sourceFep : ℕ) (reliable : Bool) :
    PdcTables × Bool :=
  if (s.receivePdcs.lookup ⟨sourceFep, pdcId⟩).isSome then (s, true)
  else if maxPdcCount ≤ s.pdcs.entries.length + s.receivePdcs.entries.length then (s, false)
  else if maxPdcId < pdcId then (s, false)
  else if !(s.newReceivePdc pdcId sourceFep reliable).initializePdc then (s, false)
  else
    ({ s with
        receivePdcs := s.receivePdcs.insert ⟨sourceFep, pdcId⟩
          (s.newReceivePdc pdcId sourceFep reliable) }, true)

/-- `PdsManager::DispatchPacket`; `sends` is what the context answers when it is
asked to send the packet. -/
def dispatchPacket (s : PdcTables) (key : SessionKey) (sends : PdcConfig → Bool) :
    PdcTables × Bool :=
  let allocated := s.allocatePdc key
  if allocated.2.pdcId = invalidPdcId then (allocated.1, false)
  else (allocated.1, (allocated.1.pdcs.lookup allocated.2.pdcId).elim false sends)

/-! ## The transition system -/

/-- The calls that change the tables. -/
inductive PdcCall
  | allocatePdc (key : SessionKey)
  | ensureReceivePdc (pdcId sourceFep : ℕ) (reliable : Bool)
  | releasePdc (pdcId : ℕ)

/-- The tables after a call. -/
def tablesStep (s : PdcTables) : PdcCall → PdcTables
  | .allocatePdc key => (s.allocatePdc key).1
  | .ensureReceivePdc pdcId sourceFep reliable => (s.ensureReceivePdc pdcId sourceFep reliable).1
  | .releasePdc pdcId => (s.releasePdc pdcId).1

/-- The tables of a manager after its construction. -/
def Empty (s : PdcTables) : Prop := s = { localFep := s.localFep, mtu := s.mtu }

/-- The transition system of the tables. -/
def tablesSystem : TransitionSystem PdcTables PdcCall where
  init := Empty
  step s call := some (s.tablesStep call)

/-! ## Agreement -/

/-- The tables agree: the marks are those of the live contexts, the queue of freed
identifiers has no duplicates and none that are live, and distinct sessions have
distinct live contexts. -/
structure Agree (s : PdcTables) : Prop where
  marked : ∀ pdcId, s.pdcIdBitmap pdcId = true ↔ (s.pdcs.lookup pdcId).isSome = true
  freeOnce : s.freePdcIds.Nodup
  freeUnused : ∀ pdcId ∈ s.freePdcIds, s.pdcs.lookup pdcId = none
  sessionLive : ∀ key pdcId, s.outgoingSessions.lookup key = some pdcId →
    (s.pdcs.lookup pdcId).isSome = true
  sessionsDistinct : ∀ key key' pdcId, s.outgoingSessions.lookup key = some pdcId →
    s.outgoingSessions.lookup key' = some pdcId → key = key'
  nextInRange : s.nextPdcId ≤ maxPdcId

variable {s s' : PdcTables} {key : SessionKey} {pdcId : ℕ}

/-! ## Taking an identifier -/

/-- The identifier that the loop finds is unused. -/
theorem findFreeId_unused {bitmap : ℕ → Bool} {fuel next : ℕ}
    (h : findFreeId bitmap fuel next = some pdcId) : bitmap pdcId = false := by
  induction fuel generalizing next with
  | zero => cases h
  | succ fuel ih =>
      unfold findFreeId at h
      split_ifs at h with hused
      · exact ih h
      · cases h
        exact Bool.eq_false_of_not_eq_true hused

/-- A loop that finds nothing has seen only used identifiers. -/
theorem findFreeId_none {bitmap : ℕ → Bool} {fuel next : ℕ} (hnext : next ≤ maxPdcId)
    (h : findFreeId bitmap fuel next = none) {i : ℕ} (hi : i < fuel) :
    bitmap (toU16 (next + i)) = true := by
  induction fuel generalizing next i with
  | zero => exact absurd hi (Nat.not_lt_zero i)
  | succ fuel ih =>
      unfold findFreeId at h
      split_ifs at h with hused
      cases i with
      | zero =>
          have hsame : toU16 next = next := Nat.mod_eq_of_lt (by unfold maxPdcId at hnext; omega)
          rwa [Nat.add_zero, hsame]
      | succ i =>
          have hsucc : toU16 (next + 1) ≤ maxPdcId := by
            unfold toU16 maxPdcId
            omega
          have hfound := ih hsucc h (Nat.lt_of_succ_lt_succ hi)
          have hshift : toU16 (toU16 (next + 1) + i) = toU16 (next + (i + 1)) := by
            unfold toU16
            omega
          rwa [hshift] at hfound

/-- As long as there are fewer contexts than identifiers, the loop ends. -/
theorem Agree.findFreeId_isSome (h : s.Agree) (hroom : s.pdcs.entries.length < maxPdcCount) :
    (findFreeId s.pdcIdBitmap (maxPdcId + 1) s.nextPdcId).isSome = true := by
  rw [Option.isSome_iff_ne_none]
  intro hnone
  have hsubset : List.range (maxPdcId + 1) ⊆ s.pdcs.keys := by
    intro pdcId hmem
    rw [List.mem_range] at hmem
    have hnext := h.nextInRange
    have hused := findFreeId_none hnext hnone
      (i := (pdcId + (maxPdcId + 1) - s.nextPdcId) % (maxPdcId + 1)) (Nat.mod_lt _ (by simp))
    have hreach : toU16 (s.nextPdcId +
        (pdcId + (maxPdcId + 1) - s.nextPdcId) % (maxPdcId + 1)) = pdcId := by
      unfold toU16 maxPdcId at *
      omega
    rw [hreach, h.marked, AList.lookup_isSome] at hused
    exact hused
  have hlength := (List.subperm_of_subset List.nodup_range hsubset).length_le
  have hkeys : s.pdcs.keys.length = s.pdcs.entries.length := List.length_map _
  rw [List.length_range, hkeys] at hlength
  unfold maxPdcId at hlength
  unfold maxPdcCount at hroom
  omega

/-- What taking an identifier does: it is unused, and only the queue and the place
of the search change. -/
theorem Agree.takeId (h : s.Agree) {taken : PdcTables} (htaken : s.takeId = some (pdcId, taken)) :
    s.pdcs.lookup pdcId = none ∧ pdcId ∉ s.freePdcIds.tail ∧
      ∃ next, next ≤ maxPdcId ∧
        taken = { s with freePdcIds := s.freePdcIds.tail, nextPdcId := next } := by
  unfold PdcTables.takeId at htaken
  cases hfree : s.freePdcIds with
  | nil =>
      rw [hfree] at htaken
      obtain ⟨found, hfound, hpair⟩ := Option.map_eq_some_iff.mp htaken
      cases hpair
      refine ⟨?_, List.not_mem_nil, toU16 (pdcId + 1), ?_, ?_⟩
      · have hunused := findFreeId_unused hfound
        rw [← Option.not_isSome_iff_eq_none, ← h.marked, hunused]
        exact Bool.false_ne_true
      · exact Nat.le_of_lt_succ (Nat.mod_lt _ (Nat.two_pow_pos 16))
      · rw [List.tail_nil, ← hfree]
  | cons first rest =>
      rw [hfree] at htaken
      cases htaken
      have honce : (pdcId :: rest).Nodup := hfree ▸ h.freeOnce
      exact ⟨h.freeUnused pdcId (hfree ▸ List.mem_cons_self), (List.nodup_cons.mp honce).1,
        s.nextPdcId, h.nextInRange, rfl⟩

/-! ## The cases of an allocation -/

/-- A session that is not active is not there. -/
theorem Agree.lookup_session (h : s.Agree) (hnone : s.activeSession key = none)
    (hreliable : reliableMode key.deliveryMode = true) : s.outgoingSessions.lookup key = none := by
  cases hlookup : s.outgoingSessions.lookup key with
  | none => rfl
  | some pdcId =>
      unfold activeSession at hnone
      rw [if_pos hreliable, hlookup, Option.filter_some, h.sessionLive key pdcId hlookup,
        if_pos rfl] at hnone
      cases hnone

theorem Agree.dropSession (h : s.Agree) (hnone : s.activeSession key = none) :
    s.dropSession key = s := by
  unfold PdcTables.dropSession
  split_ifs with hreliable
  · have habsent : key ∉ s.outgoingSessions := AList.lookup_eq_none.mp
      (h.lookup_session hnone hreliable)
    have herased : s.outgoingSessions.erase key = s.outgoingSessions :=
      AList.ext (List.kerase_of_notMem_keys habsent)
    rw [herased]
  · rfl

/-- The ways in which an allocation can end. -/
inductive AllocationCase (s : PdcTables) (key : SessionKey) : PdcTables × Allocation → Prop
  | reused {pdcId : ℕ} (hsession : s.activeSession key = some pdcId) :
      AllocationCase s key (s, .reused pdcId)
  | full (hnone : s.activeSession key = none) (hfull : maxPdcCount ≤ s.pdcs.entries.length) :
      AllocationCase s key (s, .failed)
  | created {pdcId : ℕ} {taken : PdcTables} (hnone : s.activeSession key = none)
      (hroom : s.pdcs.entries.length < maxPdcCount) (htaken : s.takeId = some (pdcId, taken))
      (hinit : s.localFep ≠ 0 ∧ key.destFep ≠ 0) :
      AllocationCase s key
        ((taken.mark pdcId true).install key pdcId (s.newPdc key pdcId), .created pdcId)
  | uninitialized {pdcId : ℕ} {taken : PdcTables} (hnone : s.activeSession key = none)
      (hroom : s.pdcs.entries.length < maxPdcCount) (htaken : s.takeId = some (pdcId, taken))
      (hinit : ¬(s.localFep ≠ 0 ∧ key.destFep ≠ 0)) :
      AllocationCase s key ((taken.mark pdcId true).mark pdcId false, .failed)

theorem Agree.takeId_isSome (h : s.Agree) (hroom : s.pdcs.entries.length < maxPdcCount) :
    s.takeId ≠ none := by
  unfold PdcTables.takeId
  cases s.freePdcIds with
  | nil =>
      obtain ⟨found, hfound⟩ := Option.isSome_iff_exists.mp (h.findFreeId_isSome hroom)
      rw [hfound]
      exact Option.some_ne_none _
  | cons first rest => exact Option.some_ne_none _

theorem newPdc_initializePdc_iff :
    (s.newPdc key pdcId).initializePdc = true ↔ s.localFep ≠ 0 ∧ key.destFep ≠ 0 := by
  unfold PdcConfig.initializePdc
  rw [Bool.and_eq_true, decide_eq_true_eq, decide_eq_true_eq]
  rfl

theorem Agree.allocatePdc_cases (h : s.Agree) (key : SessionKey) :
    AllocationCase s key (s.allocatePdc key) := by
  unfold allocatePdc
  cases hsession : s.activeSession key with
  | some pdcId => exact .reused hsession
  | none =>
      dsimp only
      rw [h.dropSession hsession]
      unfold allocateNew
      split_ifs with hfull
      · exact .full hsession hfull
      · have hroom := not_le.mp hfull
        cases htaken : s.takeId with
        | none => exact absurd htaken (h.takeId_isSome hroom)
        | some pair =>
            obtain ⟨pdcId, taken⟩ := pair
            dsimp only
            split_ifs with hinit
            · exact .created hsession hroom htaken (newPdc_initializePdc_iff.mp hinit)
            · exact .uninitialized hsession hroom htaken
                fun hvalid => hinit (newPdc_initializePdc_iff.mpr hvalid)

/-- A request to a peer gets a context as long as there is room for one. -/
theorem Agree.allocatePdc_ne_failed (h : s.Agree)
    (hroom : s.pdcs.entries.length < maxPdcCount) (hlocal : s.localFep ≠ 0)
    (hpeer : key.destFep ≠ 0) : (s.allocatePdc key).2 ≠ .failed := by
  generalize hresult : s.allocatePdc key = result
  have hcase := hresult ▸ h.allocatePdc_cases key
  cases hcase with
  | reused | created => simp
  | full hnone hfull => exact absurd hroom (not_lt.mpr hfull)
  | uninitialized hnone hroom htaken hinit => exact absurd ⟨hlocal, hpeer⟩ hinit

/-! ## Agreement along runs -/

/-- The tables while an identifier is being set up: it was taken and its mark is
set, but there is no context yet. -/
theorem Agree.uninitialized (h : s.Agree) {taken : PdcTables}
    (htaken : s.takeId = some (pdcId, taken)) :
    ((taken.mark pdcId true).mark pdcId false).Agree ∧
      ((taken.mark pdcId true).mark pdcId false).pdcIdBitmap = s.pdcIdBitmap := by
  obtain ⟨hunused, -, next, hnext, rfl⟩ := h.takeId htaken
  have hclear : s.pdcIdBitmap pdcId = false := by
    rw [Bool.eq_false_iff, Ne, h.marked, hunused]
    exact Bool.false_ne_true
  have hbitmap : Function.update (Function.update s.pdcIdBitmap pdcId true) pdcId false =
      s.pdcIdBitmap := by
    rw [Function.update_idem, ← hclear, Function.update_eq_self]
  refine ⟨⟨?_, h.freeOnce.sublist (List.tail_sublist _), ?_, h.sessionLive, h.sessionsDistinct,
    hnext⟩, hbitmap⟩
  · unfold mark
    dsimp only
    rw [hbitmap]
    exact h.marked
  · exact fun id hid => h.freeUnused id (List.mem_of_mem_tail hid)

theorem Agree.created (h : s.Agree) {taken : PdcTables}
    (htaken : s.takeId = some (pdcId, taken)) (pdc : PdcConfig) :
    ((taken.mark pdcId true).install key pdcId pdc).Agree := by
  obtain ⟨hunused, hnew, next, -, rfl⟩ := h.takeId htaken
  have hsession : ∀ key' id, (if reliableMode key.deliveryMode then
      s.outgoingSessions.insert key pdcId else s.outgoingSessions).lookup key' = some id →
      key' = key ∧ id = pdcId ∨ s.outgoingSessions.lookup key' = some id ∧ id ≠ pdcId := by
    intro key' id hlookup
    have hold : s.outgoingSessions.lookup key' = some id →
        s.outgoingSessions.lookup key' = some id ∧ id ≠ pdcId := by
      intro hid
      refine ⟨hid, fun hsame => ?_⟩
      have hlive := h.sessionLive key' id hid
      rw [hsame, hunused] at hlive
      cases hlive
    split_ifs at hlookup
    · by_cases hkey : key' = key
      · rw [hkey, AList.lookup_insert, Option.some.injEq] at hlookup
        exact .inl ⟨hkey, hlookup.symm⟩
      · rw [AList.lookup_insert_ne hkey] at hlookup
        exact .inr (hold hlookup)
    · exact .inr (hold hlookup)
  constructor
  case marked =>
    intro id
    by_cases hid : id = pdcId
    · subst hid
      simp [install, mark]
    · unfold install mark
      dsimp only
      rw [Function.update_of_ne hid, AList.lookup_insert_ne hid]
      exact h.marked id
  case freeOnce => exact h.freeOnce.sublist (List.tail_sublist _)
  case freeUnused =>
    intro id hid
    have hne : id ≠ pdcId := fun hsame => hnew (hsame ▸ hid)
    exact (AList.lookup_insert_ne hne).trans (h.freeUnused id (List.mem_of_mem_tail hid))
  case sessionLive =>
    intro key' id hlookup
    unfold install
    dsimp only
    rcases hsession key' id hlookup with ⟨-, rfl⟩ | ⟨hold, hne⟩
    · rw [AList.lookup_insert]
      rfl
    · rw [AList.lookup_insert_ne hne]
      exact h.sessionLive key' id hold
  case sessionsDistinct =>
    intro key' key'' id hlookup hlookup'
    rcases hsession key' id hlookup with ⟨rfl, rfl⟩ | ⟨hold, hne⟩
    · rcases hsession key'' id hlookup' with ⟨rfl, -⟩ | ⟨-, hne⟩
      · rfl
      · exact absurd rfl hne
    · rcases hsession key'' id hlookup' with ⟨-, heq⟩ | ⟨hold', -⟩
      · exact absurd heq hne
      · exact h.sessionsDistinct key' key'' id hold hold'
  case nextInRange => exact Nat.le_of_lt_succ (Nat.mod_lt _ (Nat.two_pow_pos 16))

theorem Agree.allocatePdc (h : s.Agree) (key : SessionKey) : (s.allocatePdc key).1.Agree := by
  generalize hresult : s.allocatePdc key = result
  have hcase := hresult ▸ h.allocatePdc_cases key
  cases hcase with
  | reused | full => exact h
  | created hnone hroom htaken hinit => exact h.created htaken _
  | uninitialized hnone hroom htaken hinit => exact (h.uninitialized htaken).1

theorem Agree.releasePdc (h : s.Agree) (pdcId : ℕ) : (s.releasePdc pdcId).1.Agree := by
  unfold PdcTables.releasePdc
  split_ifs with hlive
  · have hsession : ∀ key id, (KeyedMap.filterMap
        (fun (_ : SessionKey) session => if session = pdcId then none else some session)
          s.outgoingSessions).lookup key = some id →
        s.outgoingSessions.lookup key = some id ∧ id ≠ pdcId := by
      intro key id hlookup
      rw [KeyedMap.lookup_filterMap] at hlookup
      obtain ⟨session, hsession, hkept⟩ := Option.bind_eq_some_iff.mp hlookup
      split_ifs at hkept with hsame
      cases hkept
      exact ⟨hsession, hsame⟩
    constructor
    case marked =>
      intro id
      by_cases hid : id = pdcId
      · subst hid
        simp
      · dsimp only
        rw [Function.update_of_ne hid, AList.lookup_erase_ne hid]
        exact h.marked id
    case freeOnce =>
      refine List.nodup_append.mpr ⟨h.freeOnce, List.nodup_singleton _, ?_⟩
      intro id hid _ hlast hsame
      rw [List.mem_singleton] at hlast
      subst hlast hsame
      rw [h.freeUnused _ hid] at hlive
      cases hlive
    case freeUnused =>
      intro id hid
      by_cases hsame : id = pdcId
      · rw [hsame]
        exact AList.lookup_erase _ _
      · rcases List.mem_append.mp hid with hold | hlast
        · exact (AList.lookup_erase_ne hsame).trans (h.freeUnused id hold)
        · exact absurd (List.mem_singleton.mp hlast) hsame
    case sessionLive =>
      intro key id hlookup
      obtain ⟨hold, hne⟩ := hsession key id hlookup
      dsimp only
      rw [AList.lookup_erase_ne hne]
      exact h.sessionLive key id hold
    case sessionsDistinct =>
      intro key key' id hlookup hlookup'
      exact h.sessionsDistinct key key' id (hsession key id hlookup).1 (hsession key' id hlookup').1
    case nextInRange => exact h.nextInRange
  · exact h

theorem Agree.ensureReceivePdc (h : s.Agree) (pdcId sourceFep : ℕ) (reliable : Bool) :
    (s.ensureReceivePdc pdcId sourceFep reliable).1.Agree := by
  unfold PdcTables.ensureReceivePdc
  split_ifs
  all_goals exact ⟨h.marked, h.freeOnce, h.freeUnused, h.sessionLive, h.sessionsDistinct,
    h.nextInRange⟩

theorem empty_default : Empty {} := rfl

theorem agree_of_empty (hempty : s.Empty) : s.Agree := by
  rw [hempty]
  constructor
  case marked => simp
  case freeOnce => exact List.nodup_nil
  case freeUnused => simp
  case nextInRange => exact Nat.zero_le _
  case sessionLive =>
    intro _ _ hlookup
    cases hlookup
  case sessionsDistinct =>
    intro _ _ _ hlookup
    cases hlookup

theorem agree_of_reachable (hreach : tablesSystem.Reachable s) : s.Agree := by
  refine hreach.invariant (fun s => agree_of_empty) ?_
  intro s call s' h _ hstep
  cases hstep
  cases call with
  | allocatePdc key => exact h.allocatePdc key
  | ensureReceivePdc pdcId sourceFep reliable => exact h.ensureReceivePdc pdcId sourceFep reliable
  | releasePdc pdcId => exact h.releasePdc pdcId

/-! ## Sound allocations -/

/-- The tables are as before, up to the place where the next search begins. -/
structure SameTables (s s' : PdcTables) : Prop where
  pdcs : s'.pdcs = s.pdcs
  receivePdcs : s'.receivePdcs = s.receivePdcs
  outgoingSessions : s'.outgoingSessions = s.outgoingSessions
  pdcIdBitmap : s'.pdcIdBitmap = s.pdcIdBitmap
  freePdcIds : s'.freePdcIds = s.freePdcIds

/-- What is promised about a call of `AllocatePdc`: the identifier of a new context
is fresh, no identifier is the one that stands for a failure, and a failed call
leaves the tables as they were. -/
def AllocationSound (s : PdcTables) (key : SessionKey) : Prop :=
  match (s.allocatePdc key).2 with
  | .reused pdcId => (s.pdcs.lookup pdcId).isSome = true ∧ pdcId ≠ invalidPdcId
  | .created pdcId => s.pdcs.lookup pdcId = none ∧ pdcId ≠ invalidPdcId
  | .failed => s.SameTables (s.allocatePdc key).1

/-- The identifier that the next new context would get. -/
def nextId (s : PdcTables) : Option ℕ := s.takeId.map Prod.fst

/-- The state in which a call of `AllocatePdc` goes right: a session that is reused
does not carry the identifier of a failure; and where a context is to be created,
the next identifier is not that one, or, if a FEP is missing, no freed identifier
waits. -/
def AllocationReady (s : PdcTables) (key : SessionKey) : Prop :=
  match s.activeSession key with
  | some pdcId => pdcId ≠ invalidPdcId
  | none =>
      maxPdcCount ≤ s.pdcs.entries.length ∨
        if s.localFep ≠ 0 ∧ key.destFep ≠ 0 then s.nextId ≠ some invalidPdcId
        else s.freePdcIds = []

theorem activeSession_live (hsession : s.activeSession key = some pdcId) :
    (s.pdcs.lookup pdcId).isSome = true := by
  unfold activeSession at hsession
  split_ifs at hsession
  exact (Option.filter_eq_some_iff.mp hsession).2

theorem Agree.allocationSound_iff (h : s.Agree) (key : SessionKey) :
    s.AllocationSound key ↔ s.AllocationReady key := by
  unfold AllocationSound AllocationReady
  generalize hresult : s.allocatePdc key = result
  have hcase := hresult ▸ h.allocatePdc_cases key
  cases hcase with
  | reused hsession =>
      rw [hsession]
      exact and_iff_right (activeSession_live hsession)
  | full hnone hfull =>
      rw [hnone]
      exact iff_of_true ⟨rfl, rfl, rfl, rfl, rfl⟩ (.inl hfull)
  | @created pdcId taken hnone hroom htaken hinit =>
      rw [hnone]
      dsimp only
      rw [if_pos hinit, nextId, htaken, or_iff_right (not_le.mpr hroom),
        and_iff_right (h.takeId htaken).1]
      exact not_congr Option.some_inj.symm
  | @uninitialized pdcId taken hnone hroom htaken hinit =>
      rw [hnone]
      dsimp only
      rw [if_neg hinit, or_iff_right (not_le.mpr hroom)]
      have hbitmap := (h.uninitialized htaken).2
      obtain ⟨-, -, next, -, rfl⟩ := h.takeId htaken
      constructor
      · intro hsame
        have htail : s.freePdcIds.tail = s.freePdcIds := hsame.freePdcIds
        cases hfree : s.freePdcIds with
        | nil => rfl
        | cons first rest =>
            rw [hfree] at htail
            exact absurd htail (List.cons_ne_self first rest).symm
      · intro hfree
        refine ⟨rfl, rfl, rfl, hbitmap, ?_⟩
        unfold mark
        rw [hfree]
        rfl

/-- Along every run the tables agree, and an allocation keeps its promises exactly
in the states in which it is ready. -/
theorem agree_and_allocationSound_iff (hreach : tablesSystem.Reachable s) (key : SessionKey) :
    s.Agree ∧ (s.AllocationSound key ↔ s.AllocationReady key) :=
  ⟨agree_of_reachable hreach, (agree_of_reachable hreach).allocationSound_iff key⟩

/-- A reliable session to a peer. -/
def sampleSession : SessionKey := ⟨2, 0, 0⟩

/-- A session to no peer. -/
def missingPeer : SessionKey := ⟨0, 0, 0⟩

/-- A context is allocated and released. -/
def sampleCalls : List PdcCall := [.allocatePdc sampleSession, .releasePdc 0]

theorem agree_and_allocationSound_iff_sample :
    ∃ s, tablesSystem.runActions {} sampleCalls = some s ∧ s.freePdcIds = [0] ∧
      s.Agree ∧ (s.AllocationSound sampleSession ↔ s.AllocationReady sampleSession) := by
  obtain ⟨s, hrun⟩ : ∃ s, tablesSystem.runActions {} sampleCalls = some s := ⟨_, rfl⟩
  have hreach : tablesSystem.Reachable s :=
    TransitionSystem.ReachableBy.runActions (.init empty_default) (fun _ _ _ => trivial) hrun
  refine ⟨s, hrun, ?_, agree_and_allocationSound_iff hreach sampleSession⟩
  cases hrun
  rfl

/-- An allocation to no peer fails and loses the identifier that was freed. -/
theorem freed_id_lost :
    ∃ s, tablesSystem.Reachable s ∧ tablesSystem.runActions {} sampleCalls = some s ∧
      s.freePdcIds = [0] ∧ (s.allocatePdc missingPeer).1.freePdcIds = [] ∧
      ¬ s.AllocationSound missingPeer := by
  obtain ⟨s, hrun⟩ : ∃ s, tablesSystem.runActions {} sampleCalls = some s := ⟨_, rfl⟩
  have hreach : tablesSystem.Reachable s :=
    TransitionSystem.ReachableBy.runActions (.init empty_default) (fun _ _ _ => trivial) hrun
  refine ⟨s, hreach, hrun, ?_⟩
  cases hrun
  refine ⟨rfl, rfl, fun hsound => ?_⟩
  have hfree := SameTables.freePdcIds hsound
  cases hfree

end PdcTables
end UeSim
