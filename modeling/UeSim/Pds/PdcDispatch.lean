import UeSim.Pds.PdcTables
import Mathlib.Data.Finset.Card
import Mathlib.Data.Finset.Dedup
import Mathlib.Data.Finset.Filter

/-!
# Contexts in use

`DispatchPacket` allocates a context for every packet and releases none.  The
packets of a reliable session share its context.  An unreliable packet gets a
context of its own, so that a thousand of them to one peer use the table up.
-/

namespace UeSim

/-- The tables of a manager that dispatches packets, and the sessions of the packets
that got a context, oldest first. -/
structure DispatchHistory where
  tables : PdcTables := {}
  served : List SessionKey := []

namespace DispatchHistory

variable {h h' : DispatchHistory} {key : SessionKey}

/-- A call of `DispatchPacket`, with what the contexts answer when they are asked to
send. -/
structure Dispatch where
  key : SessionKey
  sends : PdcConfig → Bool

/-- The session of a packet, if it got a context. -/
def servedBy (key : SessionKey) : Allocation → List SessionKey
  | .failed => []
  | .reused _ => [key]
  | .created _ => [key]

/-- The history after a call. -/
def dispatchStep (h : DispatchHistory) (d : Dispatch) : DispatchHistory where
  tables := (h.tables.dispatchPacket d.key d.sends).1
  served := h.served ++ servedBy d.key (h.tables.allocatePdc d.key).2

/-- The transition system of a manager that dispatches packets. -/
def dispatchSystem : TransitionSystem DispatchHistory Dispatch where
  init h := h.tables.Empty ∧ h = { tables := h.tables }
  step h d := some (h.dispatchStep d)

/-- The packets of reliable sessions that got a context. -/
def reliableServed (h : DispatchHistory) : List SessionKey :=
  h.served.filter fun key => reliableMode key.deliveryMode

/-- The packets of unreliable sessions that got a context. -/
def unreliableServed (h : DispatchHistory) : List SessionKey :=
  h.served.filter fun key => !reliableMode key.deliveryMode

/-- There are at most as many contexts as sessions, so that a packet fails for lack
of a context only when there are as many sessions as contexts. -/
structure NotExhausted (h : DispatchHistory) : Prop where
  bounded : h.tables.pdcs.entries.length ≤ h.served.toFinset.card
  room : h.served.toFinset.card < maxPdcCount → ∀ key : SessionKey, h.tables.localFep ≠ 0 →
    key.destFep ≠ 0 → (h.tables.allocatePdc key).2 ≠ .failed

/-! ## Counting contexts -/

/-- The invariant of a history: reliable sessions have one context each, and every
unreliable packet has its own. -/
structure Counted (h : DispatchHistory) : Prop where
  agree : h.tables.Agree
  sessions : ∀ key, reliableMode key.deliveryMode = true →
    ((h.tables.outgoingSessions.lookup key).isSome = true ↔ key ∈ h.served)
  count : h.tables.pdcs.entries.length =
    h.reliableServed.toFinset.card + h.unreliableServed.length

theorem dispatchPacket_fst (s : PdcTables) (key : SessionKey) (sends : PdcConfig → Bool) :
    (s.dispatchPacket key sends).1 = (s.allocatePdc key).1 := by
  unfold PdcTables.dispatchPacket
  dsimp only
  split_ifs <;> rfl

/-- Serving a reliable session adds it to the sessions, and serving an unreliable one
adds a packet. -/
theorem reliableServed_append (h : DispatchHistory) (tables : PdcTables)
    (hreliable : reliableMode key.deliveryMode = true) :
    reliableServed ⟨tables, h.served ++ [key]⟩ = h.reliableServed ++ [key] ∧
      unreliableServed ⟨tables, h.served ++ [key]⟩ = h.unreliableServed := by
  simp [reliableServed, unreliableServed, hreliable]

theorem unreliableServed_append (h : DispatchHistory) (tables : PdcTables)
    (hunreliable : reliableMode key.deliveryMode = false) :
    reliableServed ⟨tables, h.served ++ [key]⟩ = h.reliableServed ∧
      unreliableServed ⟨tables, h.served ++ [key]⟩ = h.unreliableServed ++ [key] := by
  simp [reliableServed, unreliableServed, hunreliable]

theorem Counted.reused (hcounted : h.Counted) {pdcId : ℕ}
    (hsession : h.tables.activeSession key = some pdcId) :
    Counted ⟨h.tables, h.served ++ [key]⟩ := by
  unfold PdcTables.activeSession at hsession
  split_ifs at hsession with hreliable
  have hlookup := (Option.filter_eq_some_iff.mp hsession).1
  have hserved : key ∈ h.served :=
    (hcounted.sessions key hreliable).mp (by rw [hlookup]; rfl)
  have hmem : key ∈ h.reliableServed := List.mem_filter.mpr ⟨hserved, hreliable⟩
  obtain ⟨hrel, hunrel⟩ := reliableServed_append h h.tables hreliable
  refine ⟨hcounted.agree, ?_, ?_⟩
  · intro key' hkey'
    rw [hcounted.sessions key' hkey', List.mem_append, List.mem_singleton]
    constructor
    · exact .inl
    · rintro (hold | rfl)
      · exact hold
      · exact hserved
  · have hsame : (h.reliableServed ++ [key]).toFinset = h.reliableServed.toFinset := by
      ext key'
      simp only [List.mem_toFinset, List.mem_append, List.mem_singleton]
      constructor
      · rintro (hold | rfl)
        · exact hold
        · exact hmem
      · exact .inl
    rw [hrel, hunrel, hsame]
    exact hcounted.count

theorem Counted.created (hcounted : h.Counted) (hnone : h.tables.activeSession key = none)
    {pdcId : ℕ} {taken : PdcTables} (htaken : h.tables.takeId = some (pdcId, taken))
    (pdc : PdcConfig) :
    Counted ⟨(taken.mark pdcId true).install key pdcId pdc, h.served ++ [key]⟩ := by
  have hagree : ((taken.mark pdcId true).install key pdcId pdc).Agree :=
    hcounted.agree.created htaken pdc
  obtain ⟨hunused, -, next, -, rfl⟩ := hcounted.agree.takeId htaken
  have hlength : (h.tables.pdcs.insert pdcId pdc).entries.length =
      h.tables.pdcs.entries.length + 1 := by
    rw [AList.entries_insert_of_notMem (AList.lookup_eq_none.mp hunused), List.length_cons]
  refine ⟨hagree, ?_, ?_⟩
  · intro key' hkey'
    unfold PdcTables.install
    dsimp only
    rw [List.mem_append, List.mem_singleton]
    by_cases hsame : key' = key
    · subst hsame
      rw [if_pos hkey', AList.lookup_insert]
      exact iff_of_true rfl (.inr rfl)
    · have hold : key' ∈ h.served ∨ key' = key ↔ key' ∈ h.served := or_iff_left hsame
      rw [hold, ← hcounted.sessions key' hkey']
      split_ifs
      · rw [AList.lookup_insert_ne hsame]
        rfl
      · rfl
  · change (h.tables.pdcs.insert pdcId pdc).entries.length = _
    rw [hlength, hcounted.count]
    cases hreliable : reliableMode key.deliveryMode with
    | true =>
        obtain ⟨hrel, hunrel⟩ := reliableServed_append h _ hreliable
        have hnew : key ∉ h.reliableServed.toFinset := by
          have hlookup := hcounted.agree.lookup_session hnone hreliable
          rw [List.mem_toFinset]
          intro hmem
          have hserved := (hcounted.sessions key hreliable).mpr (List.mem_of_mem_filter hmem)
          rw [hlookup] at hserved
          cases hserved
        have hinsert :
            (h.reliableServed ++ [key]).toFinset = insert key h.reliableServed.toFinset := by
          ext key'
          simp
        rw [hrel, hunrel, hinsert, Finset.card_insert_of_notMem hnew]
        omega
    | false =>
        obtain ⟨hrel, hunrel⟩ := unreliableServed_append h _ hreliable
        rw [hrel, hunrel, List.length_append, List.length_singleton]
        omega

/-- A dispatch whose allocation fails leaves the contexts and the sessions. -/
theorem Counted.of_same (hcounted : h.Counted) {tables : PdcTables} (hagree : tables.Agree)
    (hpdcs : tables.pdcs = h.tables.pdcs)
    (hsessions : tables.outgoingSessions = h.tables.outgoingSessions) :
    Counted ⟨tables, h.served ++ []⟩ := by
  rw [List.append_nil]
  refine ⟨hagree, ?_, ?_⟩
  · rw [hsessions]
    exact hcounted.sessions
  · rw [hpdcs]
    exact hcounted.count

theorem Counted.dispatchStep (hcounted : h.Counted) (d : Dispatch) :
    (h.dispatchStep d).Counted := by
  unfold DispatchHistory.dispatchStep
  rw [dispatchPacket_fst]
  generalize hresult : h.tables.allocatePdc d.key = result
  have hcase := hresult ▸ hcounted.agree.allocatePdc_cases d.key
  cases hcase with
  | reused hsession => exact hcounted.reused hsession
  | full => exact hcounted.of_same hcounted.agree rfl rfl
  | created hnone hroom htaken hinit => exact hcounted.created hnone htaken _
  | uninitialized hnone hroom htaken hinit =>
      have hagree := (hcounted.agree.uninitialized htaken).1
      obtain ⟨-, -, next, -, rfl⟩ := hcounted.agree.takeId htaken
      exact hcounted.of_same hagree rfl rfl

theorem counted_of_reachable (hreach : dispatchSystem.Reachable h) : h.Counted := by
  refine hreach.invariant ?_ ?_
  · rintro h ⟨hempty, hh⟩
    have hagree := PdcTables.agree_of_empty hempty
    rw [hh, hempty] at *
    refine ⟨hagree, fun key _ => ?_, rfl⟩
    simp
  · intro h d h' hcounted _ hstep
    cases hstep
    exact hcounted.dispatchStep d

/-! ## Exhaustion -/

/-- The sessions are the reliable and the unreliable ones. -/
theorem card_served (h : DispatchHistory) :
    h.served.toFinset.card = h.reliableServed.toFinset.card + h.unreliableServed.toFinset.card := by
  unfold reliableServed unreliableServed
  rw [List.toFinset_filter, List.toFinset_filter]
  have hsplit := Finset.card_filter_add_card_filter_not (s := h.served.toFinset)
    (fun key => reliableMode key.deliveryMode = true)
  rw [← hsplit]
  simp

theorem Counted.bounded_iff (hcounted : h.Counted) :
    h.tables.pdcs.entries.length ≤ h.served.toFinset.card ↔ h.unreliableServed.Nodup := by
  rw [hcounted.count, card_served]
  constructor
  · intro hle
    have hcard : (h.unreliableServed : Multiset SessionKey).toFinset.card =
        Multiset.card (h.unreliableServed : Multiset SessionKey) := by
      have hle' := List.toFinset_card_le h.unreliableServed
      change h.unreliableServed.toFinset.card = h.unreliableServed.length
      omega
    exact Multiset.coe_nodup.mp (Multiset.toFinset_card_eq_card_iff_nodup.mp hcard)
  · intro hnodup
    rw [List.toFinset_card_of_nodup hnodup]

/-- Traffic exhausts no contexts exactly as long as no two packets of one unreliable
session got a context. -/
theorem notExhausted_iff (hreach : dispatchSystem.Reachable h) :
    h.NotExhausted ↔ h.unreliableServed.Nodup := by
  have hcounted := counted_of_reachable hreach
  constructor
  · exact fun hbounded => hcounted.bounded_iff.mp hbounded.bounded
  · intro hnodup
    have hbounded := hcounted.bounded_iff.mpr hnodup
    refine ⟨hbounded, fun hfew key hlocal hpeer => ?_⟩
    exact hcounted.agree.allocatePdc_ne_failed (lt_of_le_of_lt hbounded hfew) hlocal hpeer

/-! ## Runs -/

/-- A packet of a session, over contexts that send everything. -/
def sampleDispatch (key : SessionKey) : Dispatch := ⟨key, fun _ => true⟩

/-- An unreliable session to a peer. -/
def unreliableSession : SessionKey := ⟨2, 0, 2⟩

theorem init_default : dispatchSystem.init {} := ⟨rfl, rfl⟩

/-- Two reliable packets and an unreliable one. -/
theorem notExhausted_iff_sample :
    ∃ h, dispatchSystem.runActions {} [sampleDispatch PdcTables.sampleSession,
        sampleDispatch PdcTables.sampleSession, sampleDispatch unreliableSession] = some h ∧
      h.tables.pdcs.entries.length = 2 ∧ (h.NotExhausted ↔ h.unreliableServed.Nodup) := by
  obtain ⟨h, hrun⟩ : ∃ h, dispatchSystem.runActions {} [sampleDispatch PdcTables.sampleSession,
      sampleDispatch PdcTables.sampleSession, sampleDispatch unreliableSession] = some h := ⟨_, rfl⟩
  have hreach : dispatchSystem.Reachable h :=
    TransitionSystem.ReachableBy.runActions (.init init_default) (fun _ _ _ => trivial) hrun
  refine ⟨h, hrun, ?_, notExhausted_iff hreach⟩
  cases hrun
  rfl

/-- Any number of unreliable packets up to the number of contexts can be dispatched
to one peer. -/
theorem exists_served_replicate (n : ℕ) (hn : n ≤ maxPdcCount) :
    ∃ h, dispatchSystem.Reachable h ∧ h.tables.localFep = 1 ∧
      h.served = List.replicate n unreliableSession := by
  induction n with
  | zero => exact ⟨{}, .init init_default, rfl, rfl⟩
  | succ n ih =>
      obtain ⟨h, hreach, hlocal, hserved⟩ := ih (Nat.le_of_succ_le hn)
      have hcounted := counted_of_reachable hreach
      have hcount : h.tables.pdcs.entries.length = n := by
        rw [hcounted.count, reliableServed, unreliableServed, hserved]
        simp [unreliableSession, reliableMode]
      refine ⟨h.dispatchStep (sampleDispatch unreliableSession),
        .step (sampleDispatch unreliableSession) hreach trivial rfl, ?_⟩
      unfold dispatchStep
      rw [dispatchPacket_fst]
      have hcase := hcounted.agree.allocatePdc_cases unreliableSession
      change (h.tables.allocatePdc unreliableSession).1.localFep = 1 ∧
        h.served ++ servedBy unreliableSession (h.tables.allocatePdc unreliableSession).2 = _
      generalize h.tables.allocatePdc unreliableSession = result at hcase
      cases hcase with
      | reused hsession => cases hsession
      | full hnone hfull => exact absurd hfull (by omega)
      | created hnone hroom htaken hinit =>
          obtain ⟨-, -, next, -, rfl⟩ := hcounted.agree.takeId htaken
          refine ⟨hlocal, ?_⟩
          rw [hserved]
          exact List.replicate_succ'.symm
      | uninitialized hnone hroom htaken hinit =>
          exact absurd ⟨by rw [hlocal]; exact one_ne_zero, by decide⟩ hinit

/-- After as many unreliable packets to one peer as there are contexts, the next one
finds none. -/
theorem unreliable_packets_exhaust :
    ∃ h, dispatchSystem.Reachable h ∧ (∀ key ∈ h.served, key = unreliableSession) ∧
      (h.tables.allocatePdc unreliableSession).2 = .failed ∧ ¬ h.NotExhausted := by
  obtain ⟨h, hreach, hlocal, hserved⟩ := exists_served_replicate maxPdcCount le_rfl
  have hcounted := counted_of_reachable hreach
  have hcount : h.tables.pdcs.entries.length = maxPdcCount := by
    rw [hcounted.count, reliableServed, unreliableServed, hserved]
    simp [unreliableSession, reliableMode]
  have hone : h.served.toFinset.card ≤ 1 := by
    rw [hserved, Finset.card_le_one]
    intro key hkey key' hkey'
    rw [List.mem_toFinset] at hkey hkey'
    rw [List.eq_of_mem_replicate hkey, List.eq_of_mem_replicate hkey']
  refine ⟨h, hreach, ?_, ?_, ?_⟩
  · intro key hkey
    rw [hserved] at hkey
    exact List.eq_of_mem_replicate hkey
  · have hcase := hcounted.agree.allocatePdc_cases unreliableSession
    generalize h.tables.allocatePdc unreliableSession = result at hcase
    cases hcase with
    | reused hsession => cases hsession
    | full | uninitialized => rfl
    | created hnone hroom htaken hinit => exact absurd hroom (by omega)
  · intro hbounded
    have hle := hbounded.bounded
    rw [hcount] at hle
    exact absurd (hle.trans hone) (by decide)

end DispatchHistory
end UeSim
