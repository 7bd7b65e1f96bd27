import UeSim.Pdc.Reception
import Mathlib.Data.List.Range

/-!
# Delivery to the upper layer

The delivery sublayer shows every data packet to its context, drops what the
context answers, and hands the packet on.  The packets reach the upper layer
once each and in the order of their sequence numbers exactly when the channel
happens to bring them that way.
-/

namespace UeSim

/-- A receiving context, and what reached the upper layer. -/
structure TpdcSession where
  tpdc : Tpdc := {}
  /-- The sequence numbers of the packets that were handed on, oldest first. -/
  delivered : List ℕ := []
  /-- The sequence numbers of the packets that arrived out of turn. -/
  outOfTurn : List ℕ := []

namespace TpdcSession

variable {s s' : TpdcSession} {a : TpdcAction}

/-- `PdsManager::ProcessReceivedPacket`: a control packet is for the context only,
and a data packet goes up whatever the context says about it. -/
def processReceivedPacket (lower : LowerLayer) (s : TpdcSession) (message : TpdcMessage) :
    TpdcSession :=
  match message with
  | .control tag => { s with tpdc := (s.tpdc.handleReceivedPacket lower (.control tag)).1 }
  | .data seq packet =>
      { tpdc := (s.tpdc.handleReceivedPacket lower (.data seq packet)).1
        delivered := s.delivered ++ [seq]
        outOfTurn := if s.tpdc.takesInTurn seq packet then s.outOfTurn
          else s.outOfTurn ++ [seq] }

/-- One action of a session. -/
def sessionStep (s : TpdcSession) : TpdcAction → Option TpdcSession
  | .receivePacket lower message => some (s.processReceivedPacket lower message)
  | a => (s.tpdc.tpdcStep a).map fun tpdc => { s with tpdc := tpdc }

/-- The transition system of one session. -/
def sessionSystem : TransitionSystem TpdcSession TpdcAction where
  init s := s.tpdc.Fresh ∧ s = { tpdc := s.tpdc }
  step := sessionStep

/-! ## Order of delivery -/

/-- The upper layer got every packet up to the next expected one, once each and in
the order of the sequence numbers. -/
def DeliversInOrder (s : TpdcSession) : Prop :=
  s.delivered = List.range' 1 (s.tpdc.nextReceiveSequence - 1)

/-! ## Steps -/

/-- An action is a step of the context; a data packet also goes up. -/
theorem sessionStep_cases (hstep : s.sessionStep a = some s') :
    s.tpdc.tpdcStep a = some s'.tpdc ∧
      ((s'.delivered = s.delivered ∧ s'.outOfTurn = s.outOfTurn ∧
          ∀ lower seq packet, a ≠ .receivePacket lower (.data seq packet)) ∨
        ∃ lower seq packet, a = .receivePacket lower (.data seq packet) ∧
          s'.delivered = s.delivered ++ [seq] ∧
          s'.outOfTurn = if s.tpdc.takesInTurn seq packet then s.outOfTurn
            else s.outOfTurn ++ [seq]) := by
  cases a with
  | receivePacket lower message =>
      cases hstep
      cases message with
      | control tag =>
          refine ⟨rfl, .inl ⟨rfl, rfl, ?_⟩⟩
          intro _ _ _ h
          cases h
      | data seq packet => exact ⟨rfl, .inr ⟨lower, seq, packet, rfl, rfl, rfl⟩⟩
  | sendPacket | rtoTimeout | ackEvent | forceRetransmission | setActive =>
      unfold sessionStep at hstep
      dsimp only at hstep
      obtain ⟨tpdc, htpdc, rfl⟩ := Option.map_eq_some_iff.mp hstep
      refine ⟨htpdc, .inl ⟨rfl, rfl, ?_⟩⟩
      intro _ _ _ h
      cases h

/-- Only a packet that is taken in turn moves the next expected number. -/
theorem next_of_not_turn {t t' : Tpdc} {lower : LowerLayer} {seq : ℕ} {packet : TpdcPacket}
    (hturn : t.takesInTurn seq packet = false)
    (hstep : t.tpdcStep (.receivePacket lower (.data seq packet)) = some t') :
    t'.nextReceiveSequence = t.nextReceiveSequence := by
  cases Tpdc.tpdcStep_receiveCase hstep with
  | idle hsame => exact hsame.nextReceiveSequence
  | next htaken haccepted => exact absurd htaken (by simp [hturn])
  | ahead hlater hwindow hnew haccepted =>
      rw [haccepted.nextReceiveSequence, Tpdc.acceptAhead, if_neg hnew]

/-- A packet that is accepted has just arrived. -/
theorem accepted_step {t t' : Tpdc} {a : TpdcAction} (hstep : t.tpdcStep a = some t')
    {seq : ℕ} (hseq : seq ∈ t'.accepted) :
    seq ∈ t.accepted ∨ ∃ lower packet, a = .receivePacket lower (.data seq packet) := by
  cases Tpdc.tpdcStep_receiveCase hstep with
  | idle hsame => exact .inl (hsame.accepted ▸ hseq)
  | @next lower packet _ hturn haccepted =>
      rw [haccepted.accepted] at hseq
      rcases List.mem_append.mp hseq with hold | hnew
      · exact .inl hold
      · rw [List.mem_singleton.mp hnew]
        exact .inr ⟨lower, packet, rfl⟩
  | @ahead lower seq' packet _ hlater hwindow hnew haccepted =>
      rw [haccepted.accepted, Tpdc.acceptAhead, if_neg hnew] at hseq
      rcases List.mem_append.mp hseq with hold | hnew
      · exact .inl hold
      · rw [List.mem_singleton.mp hnew]
        exact .inr ⟨lower, packet, rfl⟩
  | reported => exact .inl hseq

/-! ## The invariant -/

/-- The invariant of a session: the receiver is sound, what was accepted was handed
on, and the order was kept as long as no packet arrived out of turn. -/
structure Delivers (s : TpdcSession) : Prop where
  received : s.tpdc.Received
  truthful : s.tpdc.TruthfulReports
  arrived : ∀ seq ∈ s.tpdc.accepted, seq ∈ s.delivered
  ordered : s.DeliversInOrder ↔ s.outOfTurn = []

/-- A list that ends with a number is an initial run exactly when the number is its
length and the rest is the run before it. -/
theorem append_eq_range'_iff {l : List ℕ} {seq n : ℕ} :
    l ++ [seq] = List.range' 1 n ↔ 0 < n ∧ seq = n ∧ l = List.range' 1 (n - 1) := by
  cases n with
  | zero => simp
  | succ n =>
      rw [List.range'_1_concat]
      constructor
      · intro h
        obtain ⟨hrest, hlast⟩ := List.append_inj' h rfl
        rw [List.cons.injEq] at hlast
        exact ⟨n.succ_pos, by omega, hrest⟩
      · rintro ⟨-, rfl, rfl⟩
        rw [Nat.add_sub_cancel, Nat.add_comm]

/-- Without packets out of turn the receive buffer is empty, and a packet in turn
moves the next expected number by one. -/
theorem Delivers.acceptNext (h : s.Delivers) (hordered : s.DeliversInOrder)
    (hwindow : s.tpdc.isInReceiveWindow s.tpdc.nextReceiveSequence = true) :
    s.tpdc.acceptNext.nextReceiveSequence = s.tpdc.nextReceiveSequence + 1 := by
  obtain ⟨last, heq, hlt, -, -, hrun⟩ := h.received.acceptNext_eq hwindow
  rw [heq]
  by_contra hmore
  have hbuffered := hrun (s.tpdc.nextReceiveSequence + 1) (Nat.lt_succ_self _)
    (by dsimp only at hmore; omega)
  have hdelivered := h.arrived _ ((h.received.mem_accepted _).mpr (.inr hbuffered))
  rw [hordered, List.mem_range'_1] at hdelivered
  omega

theorem Delivers.of_data (h : s.Delivers) {lower : LowerLayer} {seq : ℕ} {packet : TpdcPacket}
    (hstep : s.tpdc.tpdcStep (.receivePacket lower (.data seq packet)) = some s'.tpdc)
    (hdelivered : s'.delivered = s.delivered ++ [seq])
    (hturn : s'.outOfTurn = if s.tpdc.takesInTurn seq packet then s.outOfTurn
      else s.outOfTurn ++ [seq]) : s'.DeliversInOrder ↔ s'.outOfTurn = [] := by
  have hpositive := h.received.positive
  unfold DeliversInOrder
  rw [hdelivered, append_eq_range'_iff, hturn]
  split_ifs with htaken
  · have hwindow := Tpdc.isInReceiveWindow_of_takesInTurn htaken
    have hsame : s.tpdc.acceptNext.SameReceiver s'.tpdc := by
      rw [← Option.some.inj hstep]
      exact Tpdc.handleReceivedPacket_of_takesInTurn lower htaken
    obtain rfl : seq = s.tpdc.nextReceiveSequence := by
      simp [Tpdc.takesInTurn] at htaken
      exact htaken.1.2
    obtain ⟨last, heq, hlt, -⟩ := h.received.acceptNext_eq hwindow
    have hnext : s'.tpdc.nextReceiveSequence = last := by
      rw [hsame.nextReceiveSequence, heq]
    rw [← h.ordered, hnext]
    constructor
    · rintro ⟨-, hseq, hrest⟩
      rw [DeliversInOrder, hrest]
      congr 1
      omega
    · intro hordered
      have hsucc := h.acceptNext hordered hwindow
      rw [heq] at hsucc
      dsimp only at hsucc
      rw [hordered, hsucc]
      refine ⟨by omega, by omega, ?_⟩
      congr 1
  · rw [next_of_not_turn (by simpa using htaken) hstep]
    refine iff_of_false ?_ (by simp)
    rintro ⟨hpos, hseq, hrest⟩
    have hdelivered' :=
      h.arrived seq ((h.received.mem_accepted seq).mpr (.inl ⟨by omega, by omega⟩))
    rw [hrest, List.mem_range'_1] at hdelivered'
    omega

theorem delivers_step (h : s.Delivers) (hstep : s.sessionStep a = some s') : s'.Delivers := by
  obtain ⟨htpdc, hcase⟩ := sessionStep_cases hstep
  refine ⟨Tpdc.received_step h.received htpdc,
    Tpdc.truthfulReports_step h.received h.truthful htpdc, ?_, ?_⟩
  · intro seq hseq
    rcases accepted_step htpdc hseq with hold | ⟨lower, packet, rfl⟩
    · have harrived := h.arrived seq hold
      rcases hcase with ⟨hdelivered, -⟩ | ⟨_, _, _, -, hdelivered, -⟩
      · exact hdelivered ▸ harrived
      · rw [hdelivered]
        exact List.mem_append_left _ harrived
    · rcases hcase with ⟨-, -, hnone⟩ | ⟨_, _, _, hdata, hdelivered, -⟩
      · exact absurd rfl (hnone lower seq packet)
      · cases hdata
        rw [hdelivered]
        exact List.mem_append_right _ (List.mem_singleton_self _)
  · rcases hcase with ⟨hdelivered, hturn, hnone⟩ | ⟨lower, seq, packet, rfl, hdelivered, hturn⟩
    · have hnext : s'.tpdc.nextReceiveSequence = s.tpdc.nextReceiveSequence := by
        generalize s'.tpdc = t' at htpdc
        cases Tpdc.tpdcStep_receiveCase htpdc with
        | idle hsame => exact hsame.nextReceiveSequence
        | next | ahead => exact absurd rfl (hnone _ _ _)
        | reported => rfl
      unfold DeliversInOrder
      rw [hdelivered, hturn, hnext]
      exact h.ordered
    · exact h.of_data htpdc hdelivered hturn

/-- Along every run the receiver keeps its windows and its buffer consistent and
reports only what is true, and the upper layer gets every packet once and in order
exactly when no packet arrived out of turn. -/
theorem receiverSafe_and_deliversInOrder_iff {s : TpdcSession}
    (hreach : sessionSystem.Reachable s) :
    s.tpdc.ReceiverSafe ∧ (s.DeliversInOrder ↔ s.outOfTurn = []) := by
  have hdelivers : s.Delivers := by
    refine hreach.invariant ?_ fun s a s' h _ hstep => delivers_step h hstep
    rintro s ⟨hfresh, hs⟩
    rw [hs, hfresh]
    refine ⟨.of_fresh rfl, ?_, ?_, iff_of_true rfl rfl⟩
    · intro report hreport
      cases hreport
    · intro seq hseq
      cases hseq
  exact ⟨hdelivers.received.receiverSafe hdelivers.truthful, hdelivers.ordered⟩

/-! ## Runs -/

/-- A data packet of one byte. -/
def samplePacket (seq : ℕ) : TpdcMessage := .data seq { bytes := [0] }

/-- Two packets that arrive in turn, and an acknowledgment. -/
theorem receiverSafe_and_deliversInOrder_iff_sample :
    ∃ s, sessionSystem.runActions {} [.receivePacket .willing (samplePacket 1),
        .receivePacket .willing (samplePacket 2), .ackEvent .willing] = some s ∧
      s.tpdc.ReceiverSafe ∧ (s.DeliversInOrder ↔ s.outOfTurn = []) := by
  obtain ⟨s, hrun⟩ : ∃ s, sessionSystem.runActions {}
      [.receivePacket .willing (samplePacket 1), .receivePacket .willing (samplePacket 2),
        .ackEvent .willing] = some s := ⟨_, rfl⟩
  refine ⟨s, hrun, receiverSafe_and_deliversInOrder_iff ?_⟩
  exact TransitionSystem.ReachableBy.runActions (.init ⟨Tpdc.fresh_default, rfl⟩)
    (fun _ _ _ => trivial) hrun

/-- A packet that arrives twice is handed on twice. -/
theorem duplicate_delivered_twice :
    ∃ s, sessionSystem.Reachable s ∧
      sessionSystem.runActions {} [.receivePacket .willing (samplePacket 1),
        .receivePacket .willing (samplePacket 1)] = some s ∧
      s.delivered = [1, 1] ∧ ¬ s.DeliversInOrder := by
  obtain ⟨s, hrun⟩ : ∃ s, sessionSystem.runActions {}
      [.receivePacket .willing (samplePacket 1), .receivePacket .willing (samplePacket 1)] =
        some s := ⟨_, rfl⟩
  have hreach : sessionSystem.Reachable s :=
    TransitionSystem.ReachableBy.runActions (.init ⟨Tpdc.fresh_default, rfl⟩)
      (fun _ _ _ => trivial) hrun
  refine ⟨s, hreach, hrun, ?_⟩
  cases hrun
  refine ⟨rfl, fun hordered => ?_⟩
  cases hordered

end TpdcSession
end UeSim
