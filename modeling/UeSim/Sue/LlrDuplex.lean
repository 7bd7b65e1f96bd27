import UeSim.Sue.LlrManager
import UeSim.Support.Transition

/-!
# Link-level retransmission in both directions

A lane counts the packets that it receives and the packets that are acknowledged with one
number, `waitSeq`.  So a packet that arrives moves the bound below which an acknowledgment
is a duplicate, and an acknowledgment moves the number of the packet that is expected.

This module runs a manager beside two others: one that is given only what arrives from the
peer as data, and one that is given only what concerns its own packets.  It says exactly in
which runs the manager behaves as the first in one direction and as the second in the other:
those in which no control frame is accepted that moves what is expected, and no packet that
arrives crosses a number that is still to be acknowledged.
-/

namespace UeSim

variable {κ α : Type} [DecidableEq κ] [LaneKey κ]

/-! ## Traffic of a lane -/

/-- The events of a lane. -/
inductive LaneEvent (α : Type)
  /-- `LlrSendPacket`. -/
  | send (packet : α)
  /-- `LlrReceivePacket`. -/
  | receive (seq : ℕ)
  /-- `ProcessLlrAck` or `ProcessLlrNack`. -/
  | process (reply : LlrReply)
  /-- The retransmission timer expires, if it is pending. -/
  | resend
  deriving DecidableEq

namespace LaneEvent

/-- A lane after an event. -/
def act : LaneEvent α → LlrLane α → LlrLane α
  | .send packet, lane => lane.sendPacket packet
  | .receive seq, lane => lane.receivePacket seq
  | .process (.ack seq), lane => lane.processAck seq
  | .process (.nack seq), lane => lane.processNack seq
  | .resend, lane => if lane.resendPkt then lane.resend else lane

/-- Whether an event belongs to the direction in which data packets arrive. -/
def incoming : LaneEvent α → Bool
  | .receive _ => true
  | _ => false

/-- A lane after an event that concerns it only if the condition holds. -/
def actIf (concerned : Bool) (event : LaneEvent α) (lane : LlrLane α) : LlrLane α :=
  if concerned then event.act lane else lane

end LaneEvent

/-- The events of a manager. -/
inductive LlrTrafficEvent (κ α : Type)
  /-- `Initialize`. -/
  | initializeLlr
  | lane (key : κ) (event : LaneEvent α)

namespace LlrTrafficEvent

/-- Whether a manager that only receives data packets takes part in an event. -/
def receives : LlrTrafficEvent κ α → Bool
  | .initializeLlr => true
  | .lane _ event => event.incoming

/-- Whether a manager that only sends data packets takes part in an event. -/
def sends : LlrTrafficEvent κ α → Bool
  | .initializeLlr => true
  | .lane _ event => !event.incoming

end LlrTrafficEvent

namespace LlrManager

/-- A manager after an event.  `keys` are the lanes that `Initialize` makes. -/
def act (m : LlrManager κ α) (keys : List κ) : LlrTrafficEvent κ α → Option (LlrManager κ α)
  | .initializeLlr => some (m.openLanes keys)
  | .lane key event => m.onLane key event.act

/-- A manager after an event in which it may not take part. -/
def actIf (m : LlrManager κ α) (concerned : Bool) (keys : List κ)
    (event : LlrTrafficEvent κ α) : Option (LlrManager κ α) :=
  if concerned then m.act keys event else some m

/-- The runs of a manager, which has no lanes at first. -/
def traffic (keys : List κ) : TransitionSystem (LlrManager κ α) (LlrTrafficEvent κ α) where
  init m := m.lanes = ∅
  step m event := m.act keys event

end LlrManager

/-- A manager, one beside it that only receives data packets, and one that only sends
them. -/
structure LlrDuplex (κ α : Type) [DecidableEq κ] where
  full : LlrManager κ α
  receiving : LlrManager κ α
  sending : LlrManager κ α

namespace LlrDuplex

variable {keys : List κ} {s t : LlrDuplex κ α}

/-- The three managers, before anything has happened. -/
def split (m : LlrManager κ α) : LlrDuplex κ α := ⟨m, m, m⟩

/-- The runs of a manager beside the two others. -/
def system (keys : List κ) : TransitionSystem (LlrDuplex κ α) (LlrTrafficEvent κ α) where
  init s := ∃ m : LlrManager κ α, m.lanes = ∅ ∧ s = split m
  step s event :=
    (s.full.act keys event).bind fun full =>
      (s.receiving.actIf event.receives keys event).bind fun receiving =>
        (s.sending.actIf event.sends keys event).map fun sending =>
          ⟨full, receiving, sending⟩

end LlrDuplex

/-! ## What should hold -/

namespace LlrLane

/-- A lane takes a control frame with this number for a new one. -/
def Accepts (lane : LlrLane α) (seq : ℕ) : Prop :=
  lane.waitSeq ≤ seq ∧ lane.sendList.lookup seq ≠ none

/-- A lane expects what `rx` expects, and in the other direction it is as `tx`: it keeps the
same packets and numbers, its timer is in the same state, and it accepts the same control
frames. -/
structure Apart (lane rx tx : LlrLane α) : Prop where
  waitSeq : lane.waitSeq = rx.waitSeq
  sendList : lane.sendList = tx.sendList
  sendSeq : lane.sendSeq = tx.sendSeq
  llrResending : lane.llrResending = tx.llrResending
  resendPkt : lane.resendPkt = tx.resendPkt
  accepts : ∀ seq, lane.Accepts seq ↔ tx.Accepts seq

end LlrLane

namespace LlrDuplex

/-- Each direction is as if the other were silent, on every lane. -/
def Independent (s : LlrDuplex κ α) : Prop :=
  ∀ key lane rx tx, s.full.lanes.lookup key = some lane →
    s.receiving.lanes.lookup key = some rx → s.sending.lanes.lookup key = some tx →
    lane.Apart rx tx

end LlrDuplex

/-! ## When it holds -/

instance (lane : LlrLane α) (seq : ℕ) : Decidable (lane.Accepts seq) :=
  decidable_of_iff (lane.waitSeq ≤ seq ∧ (lane.sendList.lookup seq).isSome = true) <| by
    rw [Option.isSome_iff_ne_none]
    rfl

/-- The number that is to be acknowledged next after an event: the one that the last control
frame left that was accepted. -/
def LaneEvent.acknowledge : LaneEvent α → LlrLane α → ℕ → ℕ
  | .process (.ack seq), lane, acknowledged =>
      if lane.Accepts seq then toU32 (seq + 1) else acknowledged
  | .process (.nack seq), lane, acknowledged => if lane.Accepts seq then seq else acknowledged
  | _, _, acknowledged => acknowledged

/-- A manager with, for each lane, the number that is to be acknowledged next. -/
structure LlrHistory (κ α : Type) [DecidableEq κ] where
  manager : LlrManager κ α
  acknowledged : κ → ℕ := fun _ => 0

namespace LlrHistory

/-- The numbers that are to be acknowledged after an event. -/
def acknowledge (s : LlrHistory κ α) : LlrTrafficEvent κ α → κ → ℕ
  | .initializeLlr => s.acknowledged
  | .lane key event =>
      if s.manager.serves (LaneKey.vcId key) then
        Function.update s.acknowledged key
          ((s.manager.lanes.lookup key).elim (s.acknowledged key) fun lane =>
            event.acknowledge lane (s.acknowledged key))
      else s.acknowledged

/-- The runs of a manager with its history. -/
def system (keys : List κ) : TransitionSystem (LlrHistory κ α) (LlrTrafficEvent κ α) where
  init s := s.manager.lanes = ∅ ∧ ∀ key, s.acknowledged key = 0
  step s event := (s.manager.act keys event).map fun m =>
    { manager := m, acknowledged := s.acknowledge event }

end LlrHistory

/-- A number is crossed on the way from one number to another, or back. -/
def Crossed (first last n : ℕ) : Prop :=
  first ≤ n ∧ n < last ∨ last ≤ n ∧ n < first

instance (first last n : ℕ) : Decidable (Crossed first last n) :=
  inferInstanceAs (Decidable (first ≤ n ∧ n < last ∨ last ≤ n ∧ n < first))

/-- The condition on an event of a lane.  Packets have not crossed, since the last control
frame that was accepted, the number that a packet gets; a packet that is expected crosses no
number of the send list: its own, and all those before it when it is the last number; no
acknowledgment is accepted, but that of the last number when 0 is expected; and no negative one
is accepted that is beyond the packet that is expected. -/
def LlrLane.Harmless (lane : LlrLane α) (acknowledged : ℕ) : LaneEvent α → Prop
  | .send _ => ¬Crossed acknowledged lane.waitSeq lane.sendSeq
  | .receive seq => seq = lane.waitSeq →
      if seq + 1 < 2 ^ 32 then lane.sendList.lookup seq = none
      else ∀ n < seq, lane.sendList.lookup n = none
  | .process (.ack seq) => lane.Accepts seq → lane.waitSeq = 0 ∧ seq + 1 = 2 ^ 32
  | .process (.nack seq) => lane.Accepts seq → seq ≤ lane.waitSeq
  | .resend => True

/-- The condition on an event of a manager, which concerns one of its lanes. -/
def LlrHistory.Harmless (s : LlrHistory κ α) : LlrTrafficEvent κ α → Prop
  | .initializeLlr => True
  | .lane key event => ∀ lane, s.manager.serves (LaneKey.vcId key) = true →
      s.manager.lanes.lookup key = some lane → lane.Harmless (s.acknowledged key) event

instance (lane : LlrLane α) (acknowledged : ℕ) :
    ∀ event, Decidable (lane.Harmless acknowledged event)
  | .send _ => inferInstanceAs (Decidable (¬Crossed acknowledged lane.waitSeq lane.sendSeq))
  | .receive seq =>
      decidable_of_iff (seq = lane.waitSeq →
          if seq + 1 < 2 ^ 32 then (lane.sendList.lookup seq).isNone = true
          else ∀ n < seq, (lane.sendList.lookup n).isNone = true) <| by
        simp only [Option.isNone_iff_eq_none, LlrLane.Harmless]
  | .process (.ack seq) =>
      inferInstanceAs (Decidable (lane.Accepts seq → lane.waitSeq = 0 ∧ seq + 1 = 2 ^ 32))
  | .process (.nack seq) => inferInstanceAs (Decidable (lane.Accepts seq → seq ≤ lane.waitSeq))
  | .resend => .isTrue trivial

instance (s : LlrHistory κ α) : ∀ event, Decidable (s.Harmless event)
  | .initializeLlr => .isTrue trivial
  | .lane key event =>
      decidable_of_iff (s.manager.serves (LaneKey.vcId key) = true →
          ∀ lane ∈ s.manager.lanes.lookup key, lane.Harmless (s.acknowledged key) event)
        ⟨fun h lane hserves => h hserves lane, fun h hserves lane => h lane hserves⟩

/-! ## One lane -/

namespace LlrLane

variable {lane rx tx : LlrLane α} {acknowledged seq : ℕ}

/-- The numbers of a lane are numbers of 32 bits. -/
structure InRange (lane : LlrLane α) : Prop where
  waitSeq : lane.waitSeq < 2 ^ 32
  sendSeq : lane.sendSeq < 2 ^ 32
  sendList : ∀ n, lane.sendList.lookup n ≠ none → n < 2 ^ 32

/-- What is to be shown of the numbers that are accepted, when the send lists agree. -/
theorem accepts_congr (hlist : lane.sendList = tx.sendList) :
    (∀ seq, lane.Accepts seq ↔ tx.Accepts seq) ↔
      ∀ n, lane.sendList.lookup n ≠ none → (lane.waitSeq ≤ n ↔ tx.waitSeq ≤ n) := by
  unfold Accepts
  rw [hlist]
  exact forall_congr' fun n => and_congr_left_iff

theorem not_crossed_iff {first last n : ℕ} : ¬Crossed first last n ↔ (last ≤ n ↔ first ≤ n) := by
  unfold Crossed
  omega

/-- Sending a packet. -/
theorem apart_sendPacket (h : lane.Apart rx tx) (packet : α) :
    (lane.sendPacket packet).Apart rx (tx.sendPacket packet) ↔
      lane.Harmless tx.waitSeq (.send packet) := by
  have hlist : (lane.sendPacket packet).sendList = (tx.sendPacket packet).sendList := by
    unfold sendPacket
    rw [h.sendList, h.sendSeq]
  have hseq : (lane.sendPacket packet).sendSeq = (tx.sendPacket packet).sendSeq :=
    congrArg (fun seq => toU32 (seq + 1)) h.sendSeq
  have hbefore := (accepts_congr h.sendList).mp h.accepts
  constructor
  · intro happart
    refine not_crossed_iff.mpr ((accepts_congr hlist).mp happart.accepts lane.sendSeq ?_)
    intro hnone
    cases hnone.symm.trans (AList.lookup_insert lane.sendList)
  · intro hharmless
    refine ⟨h.waitSeq, hlist, hseq, h.llrResending, rfl, (accepts_congr hlist).mpr ?_⟩
    intro n hn
    by_cases hnew : n = lane.sendSeq
    · subst hnew
      exact not_crossed_iff.mp hharmless
    · refine hbefore n fun hnone => hn ?_
      exact (AList.lookup_insert_ne hnew).trans hnone

/-- The packet that is expected crosses no number of the send list. -/
theorem receive_crosses_iff (hrange : lane.waitSeq < 2 ^ 32) :
    (∀ n, lane.sendList.lookup n ≠ none → (toU32 (lane.waitSeq + 1) ≤ n ↔ lane.waitSeq ≤ n)) ↔
      if lane.waitSeq + 1 < 2 ^ 32 then lane.sendList.lookup lane.waitSeq = none
      else ∀ n < lane.waitSeq, lane.sendList.lookup n = none := by
  split_ifs with hlast
  · rw [toU32_of_lt hlast]
    constructor
    · intro hsame
      by_contra hkept
      have hself := (hsame _ hkept).mpr (Nat.le_refl _)
      omega
    · intro hnone n hn
      have hne : n ≠ lane.waitSeq := fun hsame => hn (hsame ▸ hnone)
      omega
  · have hzero : toU32 (lane.waitSeq + 1) = 0 := by
      unfold toU32
      omega
    rw [hzero]
    constructor
    · intro hsame n hlt
      by_contra hkept
      exact absurd ((hsame n hkept).mp (Nat.zero_le n)) (Nat.not_le.mpr hlt)
    · intro hnone n hn
      refine iff_of_true (Nat.zero_le n) ?_
      by_contra hlt
      exact hn (hnone n (Nat.not_le.mp hlt))

/-- Receiving a packet. -/
theorem apart_receivePacket (h : lane.Apart rx tx) (hrange : lane.InRange) (seq : ℕ) :
    (lane.receivePacket seq).Apart (rx.receivePacket seq) tx ↔
      lane.Harmless acknowledged (.receive seq) := by
  have hwait : (lane.receivePacket seq).waitSeq = (rx.receivePacket seq).waitSeq := by
    unfold receivePacket
    rw [h.waitSeq]
  have hbefore := (accepts_congr h.sendList).mp h.accepts
  have haccepts : (∀ n, (lane.receivePacket seq).Accepts n ↔ tx.Accepts n) ↔
      lane.Harmless acknowledged (.receive seq) := by
    have hlist : (lane.receivePacket seq).sendList = tx.sendList := h.sendList
    rw [accepts_congr hlist]
    unfold Harmless receivePacket
    dsimp only
    by_cases hexpected : seq = lane.waitSeq
    · subst hexpected
      rw [if_pos rfl, imp_iff_right rfl, ← receive_crosses_iff hrange.waitSeq]
      exact ⟨fun hafter n hn => (hafter n hn).trans (hbefore n hn).symm,
        fun hharmless n hn => (hharmless n hn).trans (hbefore n hn)⟩
    · rw [if_neg hexpected]
      exact iff_of_true hbefore fun hseq => absurd hseq hexpected
  exact ⟨fun happart => haccepts.mp happart.accepts, fun hharmless =>
    ⟨hwait, h.sendList, h.sendSeq, h.llrResending, h.resendPkt, haccepts.mpr hharmless⟩⟩

/-- A lane takes a control frame for an old one exactly when it does not accept it. -/
theorem not_accepts_iff :
    ¬lane.Accepts seq ↔ seq < lane.waitSeq ∨ lane.sendList.lookup seq = none := by
  unfold Accepts
  rw [not_and_or, Nat.not_le, not_not]

/-- A lane that a control frame moves to a number. -/
theorem apart_restart (h : lane.Apart rx tx) (f : ℕ → α → Option α) (seq : ℕ)
    (resending : Bool) :
    LlrLane.Apart
        { lane with
          sendList := KeyedMap.filterMap f lane.sendList
          waitSeq := seq
          llrResending := resending
          resendPkt := resending } rx
        { tx with
          sendList := KeyedMap.filterMap f tx.sendList
          waitSeq := seq
          llrResending := resending
          resendPkt := resending } ↔
      seq = lane.waitSeq := by
  have hlist := congrArg (KeyedMap.filterMap f) h.sendList
  constructor
  · exact fun happart => happart.waitSeq.trans h.waitSeq.symm
  · intro hseq
    refine ⟨hseq.trans h.waitSeq, hlist, h.sendSeq, rfl, rfl, ?_⟩
    exact (accepts_congr hlist).mpr fun _ _ => Iff.rfl

/-- A lane that a control frame moves to a number, if it accepts the frame. -/
theorem apart_answer (h : lane.Apart rx tx) (f : ℕ → α → Option α) (seq next : ℕ)
    (resending : Bool) :
    LlrLane.Apart
        (if seq < lane.waitSeq ∨ lane.sendList.lookup seq = none then lane
          else
            { lane with
              sendList := KeyedMap.filterMap f lane.sendList
              waitSeq := next
              llrResending := resending
              resendPkt := resending }) rx
        (if seq < tx.waitSeq ∨ tx.sendList.lookup seq = none then tx
          else
            { tx with
              sendList := KeyedMap.filterMap f tx.sendList
              waitSeq := next
              llrResending := resending
              resendPkt := resending }) ↔
      (lane.Accepts seq → next = lane.waitSeq) := by
  by_cases haccepts : lane.Accepts seq
  · have haccepts' : tx.Accepts seq := (h.accepts seq).mp haccepts
    rw [if_neg fun hold => not_accepts_iff.mpr hold haccepts,
      if_neg fun hold => not_accepts_iff.mpr hold haccepts', apart_restart h]
    exact ⟨fun hseq _ => hseq, fun hharmless => hharmless haccepts⟩
  · have haccepts' : ¬tx.Accepts seq := fun htx => haccepts ((h.accepts seq).mpr htx)
    rw [if_pos (not_accepts_iff.mp haccepts), if_pos (not_accepts_iff.mp haccepts')]
    exact iff_of_true h fun hlane => absurd hlane haccepts

/-- Processing an acknowledgment. -/
theorem apart_processAck (h : lane.Apart rx tx) (hrange : lane.InRange) (seq : ℕ) :
    (lane.processAck seq).Apart rx (tx.processAck seq) ↔
      lane.Harmless acknowledged (.process (.ack seq)) := by
  refine (apart_answer h (fun n packet => if seq < n then some packet else none) seq
    (toU32 (seq + 1)) false).trans ?_
  refine imp_congr_right fun haccepts => ?_
  have hseq : seq < 2 ^ 32 := hrange.sendList seq haccepts.2
  have hle : lane.waitSeq ≤ seq := haccepts.1
  unfold toU32
  omega

/-- Processing a negative acknowledgment. -/
theorem apart_processNack (h : lane.Apart rx tx) (seq : ℕ) :
    (lane.processNack seq).Apart rx (tx.processNack seq) ↔
      lane.Harmless acknowledged (.process (.nack seq)) := by
  refine (apart_answer h (fun n packet => if seq ≤ n then some packet else none) seq seq
    true).trans ?_
  refine imp_congr_right fun haccepts => ?_
  exact ⟨Nat.le_of_eq, fun hle => Nat.le_antisymm hle haccepts.1⟩

/-- The expiry of the timer. -/
theorem Apart.resend (h : lane.Apart rx tx) :
    (LaneEvent.resend.act lane).Apart rx (LaneEvent.resend.act tx) := by
  unfold LaneEvent.act
  dsimp only
  rw [← h.resendPkt]
  split_ifs
  · refine ⟨h.waitSeq, h.sendList, h.sendSeq, ?_, rfl, h.accepts⟩
    exact congrArg (fun list => !list.entries.isEmpty) h.sendList
  · exact h

theorem Apart.clear (h : lane.Apart rx tx) : lane.clear.Apart rx.clear tx.clear := by
  refine ⟨h.waitSeq, rfl, h.sendSeq, h.llrResending, h.resendPkt, ?_⟩
  have hlist : lane.clear.sendList = tx.clear.sendList := rfl
  exact (accepts_congr hlist).mpr fun n hn => absurd (AList.lookup_empty n) hn

theorem apart_refl (lane : LlrLane α) : lane.Apart lane lane :=
  ⟨rfl, rfl, rfl, rfl, rfl, fun _ => Iff.rfl⟩

/-- An event leaves the directions of a lane apart exactly when it is harmless. -/
theorem apart_act (h : lane.Apart rx tx) (hrange : lane.InRange) (event : LaneEvent α) :
    (event.act lane).Apart (event.actIf event.incoming rx) (event.actIf (!event.incoming) tx) ↔
      lane.Harmless tx.waitSeq event := by
  cases event with
  | send packet => exact apart_sendPacket h packet
  | receive seq => exact apart_receivePacket h hrange seq
  | process reply =>
      cases reply with
      | ack seq => exact apart_processAck h hrange seq
      | nack seq => exact apart_processNack h seq
  | resend => exact iff_of_true h.resend trivial

/-- What a lane waits for after an acknowledgment. -/
theorem waitSeq_processAck :
    (lane.processAck seq).waitSeq =
      if lane.Accepts seq then toU32 (seq + 1) else lane.waitSeq := by
  unfold processAck
  by_cases haccepts : lane.Accepts seq
  · rw [if_neg fun hold => not_accepts_iff.mpr hold haccepts, if_pos haccepts]
  · rw [if_pos (not_accepts_iff.mp haccepts), if_neg haccepts]

/-- What a lane waits for after a negative acknowledgment. -/
theorem waitSeq_processNack :
    (lane.processNack seq).waitSeq = if lane.Accepts seq then seq else lane.waitSeq := by
  unfold processNack
  by_cases haccepts : lane.Accepts seq
  · rw [if_neg fun hold => not_accepts_iff.mpr hold haccepts, if_pos haccepts]
  · rw [if_pos (not_accepts_iff.mp haccepts), if_neg haccepts]

/-- Without data packets a lane waits for what is to be acknowledged next beside them. -/
theorem waitSeq_actIf (h : lane.Apart rx tx) (event : LaneEvent α) :
    (event.actIf (!event.incoming) tx).waitSeq = event.acknowledge lane tx.waitSeq := by
  cases event with
  | send packet => rfl
  | receive seq => rfl
  | process reply =>
      cases reply with
      | ack seq => exact waitSeq_processAck.trans (if_congr (h.accepts seq).symm rfl rfl)
      | nack seq => exact waitSeq_processNack.trans (if_congr (h.accepts seq).symm rfl rfl)
  | resend =>
      show (LaneEvent.resend.act tx).waitSeq = tx.waitSeq
      unfold LaneEvent.act
      dsimp only
      split_ifs <;> rfl

theorem InRange.of_sendList {lane' : LlrLane α} (h : lane.InRange)
    (hwait : lane'.waitSeq < 2 ^ 32) (hseq : lane'.sendSeq = lane.sendSeq)
    (hlist : ∀ n, lane'.sendList.lookup n ≠ none → lane.sendList.lookup n ≠ none) :
    lane'.InRange :=
  ⟨hwait, hseq ▸ h.sendSeq, fun n hn => h.sendList n (hlist n hn)⟩

/-- What is left of a list is in the list. -/
theorem lookup_ne_none_of_filterMap {f : ℕ → α → Option α} {list : KeyedMap ℕ α} {n : ℕ}
    (h : (KeyedMap.filterMap f list).lookup n ≠ none) : list.lookup n ≠ none := by
  intro hnone
  rw [KeyedMap.lookup_filterMap, hnone] at h
  exact h rfl

/-- An event keeps the numbers of a lane in range. -/
theorem InRange.act (h : lane.InRange) (event : LaneEvent α) : (event.act lane).InRange := by
  cases event with
  | send packet =>
      refine ⟨h.waitSeq, toU32_lt _, fun n hn => ?_⟩
      by_cases hnew : n = lane.sendSeq
      · rw [hnew]
        exact h.sendSeq
      · refine h.sendList n fun hnone => hn ?_
        exact (AList.lookup_insert_ne hnew).trans hnone
  | receive seq =>
      refine h.of_sendList ?_ rfl fun _ hn => hn
      unfold LaneEvent.act receivePacket
      dsimp only
      split_ifs
      · exact toU32_lt _
      · exact h.waitSeq
  | process reply =>
      cases reply with
      | ack seq =>
          unfold LaneEvent.act processAck
          dsimp only
          split_ifs
          · exact h
          · exact h.of_sendList (toU32_lt _) rfl fun _ hn => lookup_ne_none_of_filterMap hn
      | nack seq =>
          unfold LaneEvent.act processNack
          dsimp only
          split_ifs with hold
          · exact h
          · have hseq : seq < 2 ^ 32 := h.sendList seq fun hnone => hold (.inr hnone)
            exact h.of_sendList hseq rfl fun _ hn => lookup_ne_none_of_filterMap hn
  | resend =>
      unfold LaneEvent.act
      dsimp only
      split_ifs
      · exact h.of_sendList h.waitSeq rfl fun _ hn => hn
      · exact h

theorem InRange.clear (h : lane.InRange) : lane.clear.InRange :=
  h.of_sendList h.waitSeq rfl fun n hn => absurd (AList.lookup_empty n) hn

theorem inRange_default : InRange ({} : LlrLane α) :=
  ⟨Nat.two_pow_pos 32, Nat.two_pow_pos 32, fun n hn => absurd (AList.lookup_empty n) hn⟩

end LlrLane

/-! ## The three managers -/

namespace LlrManager

variable {m m' : LlrManager κ α} {key key' : κ} {keys : List κ}

/-- The lanes after an operation on one of them. -/
theorem lookup_onLane {f : LlrLane α → LlrLane α} (h : m.onLane key f = some m') (key' : κ) :
    m'.lanes.lookup key' =
      if key' = key ∧ m.serves (LaneKey.vcId key) = true then (m.lanes.lookup key').map f
      else m.lanes.lookup key' := by
  by_cases hserves : m.serves (LaneKey.vcId key) = true
  · obtain ⟨lane, hlane, rfl⟩ := (onLane_eq_some hserves).mp h
    rw [lookup_setLane]
    by_cases hkey : key' = key
    · rw [if_pos hkey, if_pos ⟨hkey, hserves⟩, hkey, hlane]
      rfl
    · rw [if_neg hkey, if_neg fun hboth => hkey hboth.1]
  · cases (onLane_of_not_serves hserves).symm.trans h
    rw [if_neg fun hboth => hserves hboth.2]

/-- An operation on a lane is in range when the lane exists or is not looked at. -/
theorem exists_onLane_iff {f : LlrLane α → LlrLane α} :
    (∃ m', m.onLane key f = some m') ↔
      (m.serves (LaneKey.vcId key) = true → ∃ lane, m.lanes.lookup key = some lane) := by
  by_cases hserves : m.serves (LaneKey.vcId key) = true
  · constructor
    · rintro ⟨m', h⟩ -
      obtain ⟨lane, hlane, -⟩ := (onLane_eq_some hserves).mp h
      exact ⟨lane, hlane⟩
    · intro h
      obtain ⟨lane, hlane⟩ := h hserves
      exact ⟨_, (onLane_eq_some hserves).mpr ⟨lane, hlane, rfl⟩⟩
  · exact iff_of_true ⟨m, onLane_of_not_serves hserves⟩ fun h => absurd h hserves

/-- The lanes after an event in which the manager may not take part. -/
theorem lookup_actIf {concerned : Bool} {event : LaneEvent α}
    (h : m.actIf concerned keys (.lane key event) = some m') (key' : κ) :
    m'.lanes.lookup key' =
      if key' = key ∧ m.serves (LaneKey.vcId key) = true then
        (m.lanes.lookup key').map (event.actIf concerned)
      else m.lanes.lookup key' := by
  cases concerned with
  | true => exact lookup_onLane (f := event.act) h key'
  | false =>
      cases h
      split_ifs
      · exact Option.map_id'.symm
      · rfl

/-- Two managers have the same settings and the same lanes, whatever these hold. -/
structure Alike (m m' : LlrManager κ α) : Prop where
  llrEnabled : m.llrEnabled = m'.llrEnabled
  numVcs : m.numVcs = m'.numVcs
  lanes : ∀ key, (∃ lane, m.lanes.lookup key = some lane) ↔
    ∃ lane, m'.lanes.lookup key = some lane

omit [LaneKey κ] in
theorem Alike.serves (h : m.Alike m') (vcId : UInt8) : m.serves vcId = m'.serves vcId := by
  unfold LlrManager.serves
  rw [h.llrEnabled, h.numVcs]

/-- An operation on a lane leaves the settings and the lanes that there are alone. -/
theorem alike_of_onLane {f : LlrLane α → LlrLane α} (h : m.onLane key f = some m') :
    m'.Alike m := by
  obtain ⟨henabled, hnumVcs⟩ := settings_of_onLane h
  refine ⟨henabled, hnumVcs, fun key' => ?_⟩
  rw [lookup_onLane h]
  split_ifs
  · cases m.lanes.lookup key' with
    | none =>
        refine iff_of_false ?_ ?_ <;> rintro ⟨lane, hlane⟩ <;> cases hlane
    | some lane => exact iff_of_true ⟨_, rfl⟩ ⟨lane, rfl⟩
  · rfl

/-- So does an event of a lane. -/
theorem alike_of_actIf {concerned : Bool} {event : LaneEvent α}
    (h : m.actIf concerned keys (.lane key event) = some m') : m'.Alike m := by
  cases concerned with
  | true => exact alike_of_onLane (f := event.act) h
  | false =>
      cases h
      exact ⟨rfl, rfl, fun _ => Iff.rfl⟩

omit [LaneKey κ] in
/-- `Initialize` of managers that are alike. -/
theorem Alike.openLanes (h : m.Alike m') (keys : List κ) :
    (m.openLanes keys).Alike (m'.openLanes keys) := by
  refine ⟨?_, ?_, fun key => ?_⟩
  · rw [llrEnabled_openLanes, llrEnabled_openLanes, h.llrEnabled]
  · rw [numVcs_openLanes, numVcs_openLanes, h.numVcs]
  · rw [lookup_openLanes, lookup_openLanes]
    split_ifs
    · exact iff_of_true ⟨_, rfl⟩ ⟨_, rfl⟩
    · exact h.lanes key

omit [LaneKey κ] in
theorem Alike.trans {m'' : LlrManager κ α} (h : m.Alike m') (h' : m'.Alike m'') :
    m.Alike m'' :=
  ⟨h.llrEnabled.trans h'.llrEnabled, h.numVcs.trans h'.numVcs,
    fun key => (h.lanes key).trans (h'.lanes key)⟩

omit [LaneKey κ] in
theorem Alike.symm (h : m.Alike m') : m'.Alike m :=
  ⟨h.llrEnabled.symm, h.numVcs.symm, fun key => (h.lanes key).symm⟩

/-- A manager that is like another one takes part in an event when that one can. -/
theorem Alike.exists_actIf {m₁ m₁' m₂ : LlrManager κ α} (h : m₁.Alike m₂)
    {event : LlrTrafficEvent κ α} (hact : m₁.act keys event = some m₁') (concerned : Bool) :
    ∃ m₂', m₂.actIf concerned keys event = some m₂' := by
  cases concerned with
  | false => exact ⟨m₂, rfl⟩
  | true =>
      cases event with
      | initializeLlr => exact ⟨_, rfl⟩
      | lane key event =>
          refine exists_onLane_iff.mpr fun hserves => (h.lanes key).mp ?_
          exact exists_onLane_iff.mp ⟨m₁', hact⟩ ((h.serves _).trans hserves)

/-- An event keeps managers alike. -/
theorem Alike.actIf {m₁ m₁' m₂ m₂' : LlrManager κ α} (h : m₁.Alike m₂)
    {event : LlrTrafficEvent κ α} {concerned : Bool} (hact : m₁.act keys event = some m₁')
    (hact' : m₂.actIf concerned keys event = some m₂')
    (hinit : event = .initializeLlr → concerned = true) : m₁'.Alike m₂' := by
  cases event with
  | initializeLlr =>
      cases hinit rfl
      cases hact
      cases hact'
      exact h.openLanes keys
  | lane key event =>
      have hfull : m₁.actIf true keys (.lane key event) = some m₁' := hact
      exact ((alike_of_actIf hfull).trans h).trans (alike_of_actIf hact').symm

end LlrManager

namespace LlrDuplex

variable {keys : List κ} {s t : LlrDuplex κ α}

/-- The three managers have the same settings and the same lanes. -/
def Alike (s : LlrDuplex κ α) : Prop :=
  s.full.Alike s.receiving ∧ s.full.Alike s.sending

omit [LaneKey κ] in
theorem alike_split (m : LlrManager κ α) : (split m).Alike :=
  ⟨⟨rfl, rfl, fun _ => Iff.rfl⟩, ⟨rfl, rfl, fun _ => Iff.rfl⟩⟩

/-- What a step is made of. -/
theorem step_eq_some {event : LlrTrafficEvent κ α} :
    (system keys).step s event = some t ↔
      s.full.act keys event = some t.full ∧
        s.receiving.actIf event.receives keys event = some t.receiving ∧
        s.sending.actIf event.sends keys event = some t.sending := by
  constructor
  · intro h
    obtain ⟨full, hfull, h⟩ := Option.bind_eq_some_iff.mp h
    obtain ⟨receiving, hreceiving, h⟩ := Option.bind_eq_some_iff.mp h
    obtain ⟨sending, hsending, rfl⟩ := Option.map_eq_some_iff.mp h
    exact ⟨hfull, hreceiving, hsending⟩
  · rintro ⟨hfull, hreceiving, hsending⟩
    refine Option.bind_eq_some_iff.mpr ⟨_, hfull, ?_⟩
    refine Option.bind_eq_some_iff.mpr ⟨_, hreceiving, ?_⟩
    exact Option.map_eq_some_iff.mpr ⟨_, hsending, rfl⟩

theorem Alike.step {event : LlrTrafficEvent κ α} (h : s.Alike)
    (hstep : (system keys).step s event = some t) : t.Alike := by
  obtain ⟨hfull, hreceiving, hsending⟩ := step_eq_some.mp hstep
  constructor
  · refine h.1.actIf hfull hreceiving ?_
    rintro rfl
    rfl
  · refine h.2.actIf hfull hsending ?_
    rintro rfl
    rfl

/-- A step of a manager that may not take part in it, before the rest of its events. -/
theorem runActions_filter {concerned : LlrTrafficEvent κ α → Bool}
    {event : LlrTrafficEvent κ α} {events : List (LlrTrafficEvent κ α)} {m m' m'' : LlrManager κ α}
    (hact : m.actIf (concerned event) keys event = some m')
    (hrun : (LlrManager.traffic keys).runActions m' (events.filter concerned) = some m'') :
    (LlrManager.traffic keys).runActions m ((event :: events).filter concerned) =
      some m'' := by
  cases hconcerned : concerned event with
  | true =>
      rw [hconcerned] at hact
      rw [List.filter_cons_of_pos hconcerned]
      exact TransitionSystem.runActions_cons_eq_some.mpr ⟨m', hact, hrun⟩
  | false =>
      rw [hconcerned] at hact
      cases hact
      rw [List.filter_cons_of_neg (Bool.eq_false_iff.mp hconcerned)]
      exact hrun

/-- The two others follow a manager wherever it goes, and each is where the events in which
it takes part lead it. -/
theorem exists_run {events : List (LlrTrafficEvent κ α)} {m : LlrManager κ α} (h : s.Alike)
    (hrun : (LlrManager.traffic keys).runActions s.full events = some m) :
    ∃ t, (system keys).runActions s events = some t ∧ t.full = m ∧
      (LlrManager.traffic keys).runActions s.receiving (events.filter LlrTrafficEvent.receives) =
        some t.receiving ∧
      (LlrManager.traffic keys).runActions s.sending (events.filter LlrTrafficEvent.sends) =
        some t.sending := by
  induction events generalizing s with
  | nil =>
      cases hrun
      exact ⟨s, rfl, rfl, rfl, rfl⟩
  | cons event events ih =>
      obtain ⟨full, hfull, hrest⟩ := TransitionSystem.runActions_cons_eq_some.mp hrun
      obtain ⟨receiving, hreceiving⟩ := h.1.exists_actIf hfull event.receives
      obtain ⟨sending, hsending⟩ := h.2.exists_actIf hfull event.sends
      have hstep : (system keys).step s event = some ⟨full, receiving, sending⟩ :=
        step_eq_some.mpr ⟨hfull, hreceiving, hsending⟩
      obtain ⟨t, ht, hm, hrx, htx⟩ := ih (h.step hstep) hrest
      refine ⟨t, TransitionSystem.runActions_cons_eq_some.mpr ⟨_, hstep, ht⟩, hm, ?_, ?_⟩
      · exact runActions_filter hreceiving hrx
      · exact runActions_filter hsending htx

/-! ## Runs -/

omit [LaneKey κ] in
/-- `Initialize` keeps the directions independent. -/
theorem Independent.openLanes (h : s.Alike) (hind : s.Independent) (keys : List κ) :
    Independent ⟨s.full.openLanes keys, s.receiving.openLanes keys,
      s.sending.openLanes keys⟩ := by
  intro key lane rx tx hlane hrx htx
  dsimp only at hlane hrx htx
  rw [LlrManager.lookup_openLanes] at hlane hrx htx
  by_cases hkey : key ∈ keys
  · rw [if_pos hkey] at hlane hrx htx
    cases hlane
    cases hrx
    cases htx
    refine LlrLane.Apart.clear ?_
    have hrx := h.1.lanes key
    have htx := h.2.lanes key
    cases hfull : s.full.lanes.lookup key with
    | some lane =>
        obtain ⟨rx, hreceiving⟩ := hrx.mp ⟨lane, hfull⟩
        obtain ⟨tx, hsending⟩ := htx.mp ⟨lane, hfull⟩
        rw [hreceiving, hsending]
        exact hind key lane rx tx hfull hreceiving hsending
    | none =>
        rw [hfull] at hrx htx
        have hreceiving : s.receiving.lanes.lookup key = none :=
          Option.eq_none_iff_forall_not_mem.mpr fun lane hlane => by
            obtain ⟨lane', hlane'⟩ := hrx.mpr ⟨lane, hlane⟩
            cases hlane'
        have hsending : s.sending.lanes.lookup key = none :=
          Option.eq_none_iff_forall_not_mem.mpr fun lane hlane => by
            obtain ⟨lane', hlane'⟩ := htx.mpr ⟨lane, hlane⟩
            cases hlane'
        rw [hreceiving, hsending]
        exact LlrLane.apart_refl {}
  · rw [if_neg hkey] at hlane hrx htx
    exact hind key lane rx tx hlane hrx htx

/-- A manager with its history is where the first of three managers is, and what is to be
acknowledged next is what the last one waits for. -/
structure Follows (s : LlrDuplex κ α) (history : LlrHistory κ α) : Prop where
  alike : s.Alike
  manager : history.manager = s.full
  inRange : ∀ key lane, s.full.lanes.lookup key = some lane → lane.InRange
  acknowledged : ∀ key, s.sending.waitSeq key = history.acknowledged key

variable {history history' : LlrHistory κ α} {event : LlrTrafficEvent κ α}

/-- What a step with its history is made of. -/
theorem history_step (h : s.Follows history)
    (hstep : (LlrHistory.system keys).step history event = some history') :
    s.full.act keys event = some history'.manager ∧
      history'.acknowledged = history.acknowledge event := by
  obtain ⟨m, hm, rfl⟩ := Option.map_eq_some_iff.mp hstep
  rw [h.manager] at hm
  exact ⟨hm, rfl⟩

/-- The numbers of the lanes stay in range. -/
theorem Follows.inRange_step (h : s.Follows history)
    (hfull : s.full.act keys event = some t.full) :
    ∀ key lane, t.full.lanes.lookup key = some lane → lane.InRange := by
  intro key lane hlane
  cases event with
  | initializeLlr =>
      rw [← Option.some.inj hfull, LlrManager.lookup_openLanes] at hlane
      split_ifs at hlane
      · cases hlane
        cases hbefore : s.full.lanes.lookup key with
        | none => exact LlrLane.inRange_default.clear
        | some lane => exact (h.inRange key lane hbefore).clear
      · exact h.inRange key lane hlane
  | lane key' event =>
      obtain ⟨before, hbefore, rfl | rfl⟩ :=
        LlrManager.exists_lookup_of_onLane (f := event.act) hfull hlane
      · exact h.inRange key _ hbefore
      · exact (h.inRange key before hbefore).act event

/-- So does what is to be acknowledged next. -/
theorem Follows.acknowledged_step (h : s.Follows history) (hind : s.Independent)
    (hsending : s.sending.actIf event.sends keys event = some t.sending) (key : κ) :
    t.sending.waitSeq key = history.acknowledge event key := by
  cases event with
  | initializeLlr =>
      rw [← Option.some.inj hsending, (LlrManager.numbers_openLanes keys key).2]
      exact h.acknowledged key
  | lane key' event =>
      have hlookup := LlrManager.lookup_actIf hsending key
      rw [← h.alike.2.serves] at hlookup
      have hbefore := h.acknowledged key
      unfold LlrHistory.acknowledge
      dsimp only
      rw [h.manager]
      by_cases hserves : s.full.serves (LaneKey.vcId key') = true
      · rw [if_pos hserves, Function.update_apply]
        by_cases hkey : key = key'
        · subst hkey
          rw [if_pos ⟨rfl, hserves⟩] at hlookup
          rw [if_pos rfl]
          cases hlane : s.full.lanes.lookup key with
          | none =>
              cases htx : s.sending.lanes.lookup key with
              | some tx =>
                  obtain ⟨lane, hlane'⟩ := (h.alike.2.lanes key).mpr ⟨tx, htx⟩
                  cases hlane.symm.trans hlane'
              | none =>
                  rw [htx] at hlookup
                  rw [Option.elim_none, ← hbefore]
                  unfold LlrManager.waitSeq
                  rw [hlookup, htx]
                  rfl
          | some lane =>
              obtain ⟨tx, htx⟩ := (h.alike.2.lanes key).mp ⟨lane, hlane⟩
              obtain ⟨rx, hrx⟩ := (h.alike.1.lanes key).mp ⟨lane, hlane⟩
              rw [htx] at hlookup
              rw [LlrManager.waitSeq_of_lookup htx] at hbefore
              rw [Option.elim_some, LlrManager.waitSeq_of_lookup hlookup, ← hbefore]
              exact LlrLane.waitSeq_actIf (hind key lane rx tx hlane hrx htx) event
        · rw [if_neg fun hboth => hkey hboth.1] at hlookup
          rw [if_neg hkey, ← hbefore]
          unfold LlrManager.waitSeq
          rw [hlookup]
      · rw [if_neg fun hboth => hserves hboth.2] at hlookup
        rw [if_neg hserves, ← hbefore]
        unfold LlrManager.waitSeq
        rw [hlookup]

/-- A manager with its history follows the three managers. -/
theorem Follows.step (h : s.Follows history) (hind : s.Independent)
    (hstep : (system keys).step s event = some t)
    (hhistory : (LlrHistory.system keys).step history event = some history') :
    t.Follows history' := by
  obtain ⟨hfull, -, hsending⟩ := step_eq_some.mp hstep
  obtain ⟨hmanager, hacknowledged⟩ := history_step h hhistory
  refine ⟨h.alike.step hstep, ?_, h.inRange_step hfull, fun key => ?_⟩
  · exact Option.some.inj (hmanager.symm.trans hfull)
  · rw [hacknowledged]
    exact h.acknowledged_step hind hsending key

/-- An event keeps the directions independent exactly when it is harmless. -/
theorem independent_step_iff (h : s.Follows history) (hind : s.Independent)
    (hstep : (system keys).step s event = some t) :
    t.Independent ↔ history.Harmless event := by
  obtain ⟨hfull, hreceiving, hsending⟩ := step_eq_some.mp hstep
  cases event with
  | initializeLlr =>
      cases hstep
      exact iff_of_true (hind.openLanes h.alike keys) trivial
  | lane key event =>
      have hlane := LlrManager.lookup_onLane (f := event.act) hfull
      have hrx := LlrManager.lookup_actIf hreceiving
      have htx := LlrManager.lookup_actIf hsending
      rw [← h.alike.1.serves] at hrx
      rw [← h.alike.2.serves] at htx
      unfold LlrHistory.Harmless
      dsimp only
      rw [h.manager, ← h.acknowledged key]
      constructor
      · intro hind' lane hserves hfull
        obtain ⟨rx, hreceiving⟩ := (h.alike.1.lanes key).mp ⟨lane, hfull⟩
        obtain ⟨tx, hsending⟩ := (h.alike.2.lanes key).mp ⟨lane, hfull⟩
        have hself : key = key ∧ s.full.serves (LaneKey.vcId key) = true := ⟨rfl, hserves⟩
        rw [LlrManager.waitSeq_of_lookup hsending]
        refine (LlrLane.apart_act (hind key lane rx tx hfull hreceiving hsending)
          (h.inRange key lane hfull) event).mp ?_
        refine hind' key _ _ _ ?_ ?_ ?_
        · rw [hlane, if_pos hself, hfull]
          rfl
        · rw [hrx, if_pos hself, hreceiving]
          rfl
        · rw [htx, if_pos hself, hsending]
          rfl
      · intro hharmless key' lane' rx' tx' hlane' hrx' htx'
        rw [hlane] at hlane'
        rw [hrx] at hrx'
        rw [htx] at htx'
        by_cases hself : key' = key ∧ s.full.serves (LaneKey.vcId key) = true
        · rw [if_pos hself] at hlane' hrx' htx'
          obtain ⟨rfl, hserves⟩ := hself
          obtain ⟨lane, hfull, rfl⟩ := Option.map_eq_some_iff.mp hlane'
          obtain ⟨rx, hreceiving, rfl⟩ := Option.map_eq_some_iff.mp hrx'
          obtain ⟨tx, hsending, rfl⟩ := Option.map_eq_some_iff.mp htx'
          have hlaneHarmless := hharmless lane hserves hfull
          rw [LlrManager.waitSeq_of_lookup hsending] at hlaneHarmless
          exact (LlrLane.apart_act (hind key' lane rx tx hfull hreceiving hsending)
            (h.inRange key' lane hfull) event).mpr hlaneHarmless
        · rw [if_neg hself] at hlane' hrx' htx'
          exact hind key' lane' rx' tx' hlane' hrx' htx'

/-- A run of a manager is one with its history. -/
theorem exists_history {events : List (LlrTrafficEvent κ α)} {m : LlrManager κ α}
    (hrun : (LlrManager.traffic keys).runActions history.manager events = some m) :
    ∃ history', (LlrHistory.system keys).runActions history events = some history' := by
  induction events generalizing history with
  | nil => exact ⟨history, rfl⟩
  | cons event events ih =>
      obtain ⟨full, hfull, hrest⟩ := TransitionSystem.runActions_cons_eq_some.mp hrun
      obtain ⟨history', hhistory⟩ :=
        @ih { manager := full, acknowledged := history.acknowledge event } hrest
      refine ⟨history', TransitionSystem.runActions_cons_eq_some.mpr ⟨_, ?_, hhistory⟩⟩
      exact Option.map_eq_some_iff.mpr ⟨full, hfull, rfl⟩

/-- A packet is sent and acknowledged, and another one is expected in place of the first
of the peer. -/
def sentFirst : List (LaneEvent ℕ) := [.send 7, .process (.ack 0)]

/-- A packet arrives, and the acknowledgment of the first packet that is sent is taken for a
duplicate. -/
def receivedFirst : List (LaneEvent ℕ) := [.receive 0, .send 7, .process (.ack 0)]

/-- `Initialize`, and events of one lane. -/
def onOne (key : κ) (events : List (LaneEvent ℕ)) : List (LlrTrafficEvent κ ℕ) :=
  .initializeLlr :: events.map (LlrTrafficEvent.lane key)

/-- A network card with one virtual channel. -/
def card : LlrNodeManager ℕ := { numVcs := 1 }

/-- A switch port with one virtual channel. -/
def port : LlrSwitchPortManager ℕ := { numVcs := 1 }

/-- The address of the peer of the port. -/
def peer : Mac48Address := { b5 := 1 }

/-- A run after which the directions are not independent. -/
def EndsDependent (keys : List κ) (m : LlrManager κ ℕ)
    (events : List (LlrTrafficEvent κ ℕ)) : Prop :=
  ∃ t, (system keys).runActions (split m) events = some t ∧ ¬t.Independent

/-- On a card with two virtual channels, two packets are sent on the first one, the first of
them is asked for again, and the timer expires; and two packets arrive on the second one. -/
def bothWays : List (LlrTrafficEvent UInt8 ℕ) :=
  [.initializeLlr, .lane 0 (.send 7), .lane 1 (.receive 0), .lane 0 (.send 8),
    .lane 0 (.process (.nack 0)), .lane 1 (.receive 1), .lane 0 .resend, .lane 0 (.receive 3)]

end LlrDuplex

end UeSim
