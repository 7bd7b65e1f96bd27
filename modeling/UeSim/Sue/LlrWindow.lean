import UeSim.Sue.LlrDuplex

/-!
# The window of link-level retransmission

A manager counts for each lane the packets that are sent and not acknowledged, and it has
a window, which is meant to bound them.  This module runs a manager with its counts, and
says exactly in which runs each count is the number of packets that the lane keeps, and
within the window.
-/

namespace UeSim

variable {κ α : Type} [DecidableEq κ] [LaneKey κ]

/-- A manager with its window and, for each lane, its count `m_unack`. -/
structure LlrWindow (κ α : Type) [DecidableEq κ] where
  manager : LlrManager κ α
  llrWindowSize : UInt32 := 10
  unack : κ → ℕ := fun _ => 0

/-- The count of a lane after an event: `LlrSendPacket` counts a packet, and nothing counts
down. -/
def LaneEvent.countUnack : LaneEvent α → ℕ → ℕ
  | .send _, unack => toU32 (unack + 1)
  | _, unack => unack

/-- The counts after an event. -/
def LlrManager.countUnack (m : LlrManager κ α) (unack : κ → ℕ) : LlrTrafficEvent κ α → κ → ℕ
  | .initializeLlr => unack
  | .lane key event =>
      if m.serves (LaneKey.vcId key) then
        Function.update unack key (event.countUnack (unack key))
      else unack

namespace LlrWindow

/-- A manager with its counts, after an event. -/
def act (s : LlrWindow κ α) (keys : List κ) (event : LlrTrafficEvent κ α) :
    Option (LlrWindow κ α) :=
  (s.manager.act keys event).map fun m =>
    { s with manager := m, unack := s.manager.countUnack s.unack event }

/-- The runs of a manager with its counts, which has no lanes at first. -/
def system (keys : List κ) : TransitionSystem (LlrWindow κ α) (LlrTrafficEvent κ α) where
  init s := s.manager.lanes = ∅ ∧ ∀ key, s.unack key = 0
  step s event := s.act keys event

/-! ## What should hold -/

/-- Each count is the number of packets that the lane keeps, and within the window. -/
def Bounded (s : LlrWindow κ α) : Prop :=
  ∀ key lane, s.manager.lanes.lookup key = some lane →
    s.unack key = lane.sendList.entries.length ∧ s.unack key ≤ s.llrWindowSize.toNat

end LlrWindow

/-- The condition on an event of a lane: a packet that is sent has a new number and room in
the window, an acknowledgment is not accepted, and a negative one covers no packet. -/
def LlrLane.KeepsCount (lane : LlrLane α) (window : ℕ) : LaneEvent α → Prop
  | .send _ =>
      lane.sendList.lookup lane.sendSeq = none ∧ lane.sendList.entries.length < window
  | .receive _ => True
  | .process (.ack seq) => ¬lane.Accepts seq
  | .process (.nack seq) =>
      lane.Accepts seq → ∀ n < seq, lane.sendList.lookup n = none
  | .resend => True

instance (lane : LlrLane α) (window : ℕ) : ∀ event, Decidable (lane.KeepsCount window event)
  | .send _ =>
      decidable_of_iff ((lane.sendList.lookup lane.sendSeq).isNone = true ∧
        lane.sendList.entries.length < window) <| by
          rw [Option.isNone_iff_eq_none]
          rfl
  | .process (.ack seq) =>
      decidable_of_iff (lane.waitSeq ≤ seq → (lane.sendList.lookup seq).isNone = true) <| by
        simp [LlrLane.KeepsCount, LlrLane.Accepts]
  | .process (.nack seq) =>
      decidable_of_iff (lane.waitSeq ≤ seq → ¬(lane.sendList.lookup seq).isNone = true →
          ∀ n < seq, (lane.sendList.lookup n).isNone = true) <| by
        simp only [Option.isNone_iff_eq_none, LlrLane.KeepsCount, LlrLane.Accepts, and_imp,
          ne_eq]
  | .receive _ | .resend => .isTrue trivial

namespace LlrWindow

/-- The condition on an event of a manager: `Initialize` clears no packets, and an event of a
lane keeps its count. -/
def KeepsCounts (keys : List κ) (s : LlrWindow κ α) : LlrTrafficEvent κ α → Prop
  | .initializeLlr => ∀ key ∈ keys, ∀ lane, s.manager.lanes.lookup key = some lane →
      lane.sendList.entries = []
  | .lane key event => ∀ lane, s.manager.serves (LaneKey.vcId key) = true →
      s.manager.lanes.lookup key = some lane →
      lane.KeepsCount s.llrWindowSize.toNat event

instance (keys : List κ) (s : LlrWindow κ α) : ∀ event, Decidable (KeepsCounts keys s event)
  | .initializeLlr =>
      decidable_of_iff (∀ key ∈ keys, ∀ lane ∈ s.manager.lanes.lookup key,
          lane.sendList.entries.isEmpty = true) <| by
        simp only [List.isEmpty_iff, Option.mem_def]
        rfl
  | .lane key event =>
      decidable_of_iff (s.manager.serves (LaneKey.vcId key) = true →
          ∀ lane ∈ s.manager.lanes.lookup key, lane.KeepsCount s.llrWindowSize.toNat event)
        ⟨fun h lane hserves => h hserves lane, fun h hserves lane => h lane hserves⟩

end LlrWindow

/-! ## One lane -/

namespace LlrLane

variable {lane : LlrLane α} {window : ℕ}

/-- Sending a packet. -/
theorem count_sendPacket (hwindow : window < 2 ^ 32)
    (hle : lane.sendList.entries.length ≤ window) (packet : α) :
    (toU32 (lane.sendList.entries.length + 1) =
          (lane.sendPacket packet).sendList.entries.length ∧
        toU32 (lane.sendList.entries.length + 1) ≤ window) ↔
      lane.KeepsCount window (.send packet) := by
  unfold sendPacket KeepsCount
  dsimp only
  cases hfresh : lane.sendList.lookup lane.sendSeq with
  | none =>
      rw [KeyedMap.length_insert_of_none hfresh]
      unfold toU32
      constructor
      · rintro ⟨hsame, hbound⟩
        refine ⟨rfl, ?_⟩
        omega
      · rintro ⟨-, hroom⟩
        omega
  | some old =>
      rw [KeyedMap.length_insert_of_some hfresh]
      refine iff_of_false ?_ ?_
      · rintro ⟨hsame, -⟩
        have hpos : lane.sendList.entries ≠ [] :=
          KeyedMap.entries_ne_nil_iff.mpr ⟨_, _, hfresh⟩
        have hlength := List.length_pos_of_ne_nil hpos
        unfold toU32 at hsame
        omega
      · rintro ⟨hnone, -⟩
        cases hnone

/-- Processing an acknowledgment. -/
theorem length_processAck (seq : ℕ) :
    lane.sendList.entries.length = (lane.processAck seq).sendList.entries.length ↔
      ¬lane.Accepts seq := by
  by_cases haccepts : lane.Accepts seq
  · refine iff_of_false (fun hsame => ?_) fun hnot => hnot haccepts
    unfold processAck at hsame
    rw [if_neg fun hold => not_accepts_iff.mpr hold haccepts] at hsame
    obtain ⟨packet, hpacket⟩ := Option.ne_none_iff_exists'.mp haccepts.2
    have hkept := (KeyedMap.length_filterMap_eq_iff _ _).mp hsame.symm seq packet hpacket
    rw [if_neg (Nat.lt_irrefl seq)] at hkept
    cases hkept
  · unfold processAck
    rw [if_pos (not_accepts_iff.mp haccepts)]
    exact iff_of_true rfl haccepts

/-- Processing a negative acknowledgment. -/
theorem length_processNack (seq : ℕ) :
    lane.sendList.entries.length = (lane.processNack seq).sendList.entries.length ↔
      (lane.Accepts seq → ∀ n < seq, lane.sendList.lookup n = none) := by
  by_cases haccepts : lane.Accepts seq
  · unfold processNack
    rw [if_neg fun hold => not_accepts_iff.mpr hold haccepts, imp_iff_right haccepts]
    dsimp only
    rw [eq_comm, KeyedMap.length_filterMap_eq_iff]
    constructor
    · intro hkept n hlt
      cases hlookup : lane.sendList.lookup n with
      | none => rfl
      | some packet =>
          have hsome := hkept n packet hlookup
          rw [if_neg (Nat.not_le.mpr hlt)] at hsome
          cases hsome
    · intro hnone n packet hlookup
      rw [if_pos]
      · rfl
      · by_contra hlt
        cases (hnone n (Nat.not_le.mp hlt)).symm.trans hlookup
  · unfold processNack
    rw [if_pos (not_accepts_iff.mp haccepts)]
    exact iff_of_true rfl fun h => absurd h haccepts

/-- An event keeps the count of a lane exactly under the condition. -/
theorem keepsCount_iff (hwindow : window < 2 ^ 32)
    (hle : lane.sendList.entries.length ≤ window) (event : LaneEvent α) :
    (event.countUnack lane.sendList.entries.length = (event.act lane).sendList.entries.length ∧
        event.countUnack lane.sendList.entries.length ≤ window) ↔
      lane.KeepsCount window event := by
  cases event with
  | send packet => exact count_sendPacket hwindow hle packet
  | receive seq => exact iff_of_true ⟨rfl, hle⟩ trivial
  | process reply =>
      cases reply with
      | ack seq => exact (and_iff_left hle).trans (length_processAck seq)
      | nack seq => exact (and_iff_left hle).trans (length_processNack seq)
  | resend =>
      refine iff_of_true ⟨?_, hle⟩ trivial
      unfold LaneEvent.countUnack LaneEvent.act
      dsimp only
      split_ifs <;> rfl

end LlrLane

/-! ## Runs -/

namespace LlrWindow

variable {keys : List κ} {s t : LlrWindow κ α}

/-- Nothing is counted for a lane that does not exist. -/
def CountsLanes (s : LlrWindow κ α) : Prop :=
  ∀ key, s.manager.lanes.lookup key = none → s.unack key = 0

/-- What a step is made of. -/
theorem step_eq_some {event : LlrTrafficEvent κ α} :
    (system keys).step s event = some t ↔
      ∃ m, s.manager.act keys event = some m ∧
        t = { s with manager := m, unack := s.manager.countUnack s.unack event } := by
  refine Option.map_eq_some_iff.trans (exists_congr fun m => and_congr_right fun _ => ?_)
  exact eq_comm

/-- An event of a lane counts for that lane only, where its virtual channel is served. -/
theorem countUnack_lane (m : LlrManager κ α) (unack : κ → ℕ) (key key' : κ)
    (event : LaneEvent α) :
    m.countUnack unack (.lane key event) key' =
      if key' = key ∧ m.serves (LaneKey.vcId key) = true then event.countUnack (unack key')
      else unack key' := by
  unfold LlrManager.countUnack
  dsimp only
  by_cases hserves : m.serves (LaneKey.vcId key) = true
  · rw [if_pos hserves, Function.update_apply]
    by_cases hkey : key' = key
    · subst hkey
      rw [if_pos rfl, if_pos ⟨rfl, hserves⟩]
    · rw [if_neg hkey, if_neg fun hboth => hkey hboth.1]
  · rw [if_neg hserves, if_neg fun hboth => hserves hboth.2]

theorem countsLanes_step {event : LlrTrafficEvent κ α} (h : s.CountsLanes)
    (hstep : (system keys).step s event = some t) : t.CountsLanes := by
  obtain ⟨m, hm, rfl⟩ := step_eq_some.mp hstep
  cases event with
  | initializeLlr =>
      cases hm
      intro key hnone
      dsimp only at hnone
      rw [LlrManager.lookup_openLanes] at hnone
      split_ifs at hnone
      exact h key hnone
  | lane key event =>
      have hlookup := LlrManager.lookup_onLane (f := event.act) hm
      intro key' hnone
      dsimp only at hnone ⊢
      rw [hlookup] at hnone
      rw [countUnack_lane]
      by_cases hon : key' = key ∧ s.manager.serves (LaneKey.vcId key) = true
      · obtain ⟨lane, hlane, -⟩ := (LlrManager.onLane_eq_some hon.2).mp hm
        rw [if_pos hon, hon.1, hlane] at hnone
        cases hnone
      · rw [if_neg hon] at hnone ⊢
        exact h key' hnone

/-- `Initialize` keeps the counts exactly when it clears no packets. -/
theorem bounded_initialize (h : s.CountsLanes) (hbounded : s.Bounded) :
    Bounded { s with manager := s.manager.openLanes keys } ↔
      s.KeepsCounts keys .initializeLlr := by
  constructor
  · intro hafter key hkey lane hlane
    have hopen : (s.manager.openLanes keys).lanes.lookup key = some lane.clear := by
      rw [LlrManager.lookup_openLanes, if_pos hkey, hlane]
      rfl
    have hzero : s.unack key = 0 := (hafter key lane.clear hopen).1
    rw [(hbounded key lane hlane).1] at hzero
    exact List.eq_nil_of_length_eq_zero hzero
  · intro hempty key lane hlane
    dsimp only at hlane ⊢
    rw [LlrManager.lookup_openLanes] at hlane
    by_cases hkey : key ∈ keys
    · rw [if_pos hkey] at hlane
      cases hlane
      have hzero : s.unack key = 0 := by
        cases hbefore : s.manager.lanes.lookup key with
        | none => exact h key hbefore
        | some lane =>
            rw [(hbounded key lane hbefore).1, hempty key hkey lane hbefore]
            rfl
      rw [hzero]
      exact ⟨rfl, Nat.zero_le _⟩
    · rw [if_neg hkey] at hlane
      exact hbounded key lane hlane

/-- A step keeps the counts bounded exactly under the condition. -/
theorem bounded_step_iff {event : LlrTrafficEvent κ α} (h : s.CountsLanes)
    (hbounded : s.Bounded) (hstep : (system keys).step s event = some t) :
    t.Bounded ↔ s.KeepsCounts keys event := by
  obtain ⟨m, hm, rfl⟩ := step_eq_some.mp hstep
  cases event with
  | initializeLlr =>
      cases hm
      exact bounded_initialize h hbounded
  | lane key event =>
      have hlookup := LlrManager.lookup_onLane (f := event.act) hm
      have hwindow : s.llrWindowSize.toNat < 2 ^ 32 := s.llrWindowSize.toNat_lt
      constructor
      · intro hafter lane hserves hlane
        obtain ⟨hcount, hle⟩ := hbounded key lane hlane
        have hself : m.lanes.lookup key = some (event.act lane) := by
          rw [hlookup, if_pos ⟨rfl, hserves⟩, hlane]
          rfl
        have hboth := hafter key (event.act lane) hself
        dsimp only at hboth
        rw [countUnack_lane, if_pos ⟨rfl, hserves⟩, hcount] at hboth
        rw [hcount] at hle
        exact (LlrLane.keepsCount_iff hwindow hle event).mp hboth
      · intro hkeeps key' lane' hlane'
        dsimp only at hlane' ⊢
        rw [hlookup] at hlane'
        rw [countUnack_lane]
        by_cases hon : key' = key ∧ s.manager.serves (LaneKey.vcId key) = true
        · obtain ⟨rfl, hserves⟩ := hon
          rw [if_pos ⟨rfl, hserves⟩] at hlane' ⊢
          obtain ⟨lane, hlane, rfl⟩ := Option.map_eq_some_iff.mp hlane'
          obtain ⟨hcount, hle⟩ := hbounded key' lane hlane
          rw [hcount] at hle ⊢
          exact (LlrLane.keepsCount_iff hwindow hle event).mpr (hkeeps lane hserves hlane)
        · rw [if_neg hon] at hlane' ⊢
          exact hbounded key' lane' hlane'

/-- The counts are bounded throughout a run exactly when every event of it keeps them. -/
theorem bounded_iff_keepsCounts {events : List (LlrTrafficEvent κ α)} {s s' : LlrWindow κ α}
    (hinit : (system keys).init s) (hrun : (system keys).runActions s events = some s') :
    (system keys).Throughout Bounded s events ↔
      (system keys).GuardedRun (KeepsCounts keys) s events := by
  have hbounded : s.Bounded := by
    intro key lane hlane
    rw [hinit.1] at hlane
    cases (AList.lookup_empty key).symm.trans hlane
  have hcounts : s.CountsLanes := fun key _ => hinit.2 key
  refine TransitionSystem.throughout_iff_guardedRun ?_ ?_ hcounts hbounded hrun
  · intro s event t h hbounded hkeeps hstep
    exact ⟨countsLanes_step h hstep, (bounded_step_iff h hbounded hstep).mpr hkeeps⟩
  · intro s event t h hbounded hbreaks hstep hafter
    exact hbreaks ((bounded_step_iff h hbounded hstep).mp hafter)

/-! ## Runs of a card and of a port -/

/-- A packet is sent and acknowledged. -/
def acknowledged : List (LaneEvent ℕ) := [.send 7, .process (.ack 0)]

/-- Eleven packets are sent, and nothing is heard of them. -/
def overfull : List (LaneEvent ℕ) := List.replicate 11 (.send 7)

/-- A run after which the counts are not bounded. -/
def EndsUnbounded (keys : List κ) (m : LlrManager κ ℕ)
    (events : List (LlrTrafficEvent κ ℕ)) : Prop :=
  ∃ t, (system keys).runActions { manager := m } events = some t ∧ ¬t.Bounded

open LlrDuplex in
/-- Neither a card nor a switch port counts an acknowledgment, or refuses a packet that is
out of the window. -/
theorem not_bounded_card_port :
    (EndsUnbounded (vcIds 1) card (onOne 0 acknowledged) ∧
      EndsUnbounded (vcIds 1) card (onOne 0 overfull)) ∧
    EndsUnbounded [(peer, 0)] port (onOne (peer, 0) acknowledged) ∧
      EndsUnbounded [(peer, 0)] port (onOne (peer, 0) overfull) := by
  refine ⟨⟨⟨_, rfl, fun h => ?_⟩, ⟨_, rfl, fun h => ?_⟩⟩,
    ⟨_, rfl, fun h => ?_⟩, ⟨_, rfl, fun h => ?_⟩⟩
  · exact absurd (h 0 _ rfl).1 (by decide)
  · exact absurd (h 0 _ rfl).2 (by decide)
  · exact absurd (h (peer, 0) _ rfl).1 (by decide)
  · exact absurd (h (peer, 0) _ rfl).2 (by decide)

/-- On a card with two virtual channels, three packets are sent, one arrives, the first of the
others is asked for again, and a timer expires. -/
def unacknowledged : List (LlrTrafficEvent UInt8 ℕ) :=
  [.initializeLlr, .lane 0 (.send 7), .lane 0 (.send 8), .lane 1 (.send 9), .lane 1 (.receive 0),
    .lane 0 (.process (.nack 0)), .lane 0 .resend]

/-- The counts of the channels are two and one at the end, and were bounded throughout. -/
theorem bounded_iff_keepsCounts_unacknowledged :
    ∃ s, (system (vcIds 2)).runActions { manager := { numVcs := 2 } } unacknowledged = some s ∧
      s.unack 0 = 2 ∧ s.unack 1 = 1 ∧
      (system (vcIds 2)).Throughout Bounded { manager := { numVcs := 2 } } unacknowledged := by
  obtain ⟨s, hrun⟩ : ∃ s, (system (vcIds 2)).runActions { manager := { numVcs := 2 } }
      unacknowledged = some s := ⟨_, rfl⟩
  have hcounts : s.unack 0 = 2 ∧ s.unack 1 = 1 := by
    cases hrun
    decide
  have hguarded : (system (vcIds 2)).GuardedRun (KeepsCounts (vcIds 2))
      { manager := { numVcs := 2 } } unacknowledged := by
    decide
  exact ⟨s, hrun, hcounts.1, hcounts.2,
    (bounded_iff_keepsCounts ⟨rfl, fun _ => rfl⟩ hrun).mpr hguarded⟩

end LlrWindow

end UeSim
