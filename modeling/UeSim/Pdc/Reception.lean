import UeSim.Pdc.TpdcSystem
import Mathlib.Data.List.Nodup

/-!
# Reception by a delivery context

The receive buffer holds what arrived ahead of the next expected packet, and the
packets accepted so far are those below that packet and those in the buffer.  So
whatever an acknowledgment says is true of the moment it is sent.

The packets themselves go up whatever the context says about them: the delivery
sublayer hands every data packet on after it has shown it to the context.
-/

namespace UeSim
namespace Tpdc

variable {lower : LowerLayer} {s s' : Tpdc} {a : TpdcAction}

/-! ## What an action does to the receiving half -/

/-- Whether a data packet is the next one and the context takes it. -/
def takesInTurn (s : Tpdc) (seq : ℕ) (packet : TpdcPacket) : Bool :=
  s.active && s.validatePacket (TpdcMessage.data seq packet).size &&
    seq = s.nextReceiveSequence && s.isInReceiveWindow seq

/-- The action leaves the receiving half alone, or a packet is accepted, or an
acknowledgment is sent. -/
inductive ReceiveCase (s : Tpdc) : TpdcAction → Tpdc → Prop
  | idle {a : TpdcAction} {s' : Tpdc} (hsame : SameReceiver s s') : ReceiveCase s a s'
  | next {lower : LowerLayer} {packet : TpdcPacket} {s' : Tpdc}
      (hturn : s.takesInTurn s.nextReceiveSequence packet = true)
      (haccepted : SameReceiver s.acceptNext s') :
      ReceiveCase s (.receivePacket lower (.data s.nextReceiveSequence packet)) s'
  | ahead {lower : LowerLayer} {seq : ℕ} {packet : TpdcPacket} {s' : Tpdc}
      (hlater : s.nextReceiveSequence < seq) (hwindow : s.isInReceiveWindow seq = true)
      (hnew : seq ∉ s.receiveBuffer) (haccepted : SameReceiver (s.acceptAhead seq) s') :
      ReceiveCase s (.receivePacket lower (.data seq packet)) s'
  | reported {lower : LowerLayer} :
      ReceiveCase s (.ackEvent lower) (s.ackFired.sendPendingAcknowledgments lower)

theorem sameReceiver_acceptNext (s : Tpdc) (seq : ℕ) :
    SameReceiver s.acceptNext (s.observe seq).acceptNext.scheduleAcknowledgment :=
  ⟨rfl, rfl, rfl, rfl, rfl, rfl, fun _ h => h⟩

theorem sameReceiver_acceptAhead {seq : ℕ} (hnew : seq ∉ s.receiveBuffer) :
    SameReceiver (s.acceptAhead seq) ((s.observe seq).acceptAhead seq).scheduleAcknowledgment := by
  have hnew' : seq ∉ (s.observe seq).receiveBuffer := hnew
  unfold acceptAhead
  rw [if_neg hnew, if_neg hnew']
  exact ⟨rfl, rfl, rfl, rfl, rfl, rfl, fun _ h => h⟩

/-- A packet that is taken in turn is in the window. -/
theorem isInReceiveWindow_of_takesInTurn {seq : ℕ} {packet : TpdcPacket}
    (hturn : s.takesInTurn seq packet = true) : s.isInReceiveWindow seq = true :=
  (Bool.and_eq_true_iff.mp hturn).2

theorem handleData_receiveCase (lower : LowerLayer) (s : Tpdc) (seq : ℕ) (packet : TpdcPacket)
    (hvalid : (!s.active || !s.validatePacket (TpdcMessage.data seq packet).size) = false) :
    ReceiveCase s (.receivePacket lower (.data seq packet)) (s.bufferPacketForReceiving seq).1 := by
  unfold bufferPacketForReceiving
  split_ifs with hold hclosed hnext hfull
  · exact .idle ⟨rfl, rfl, rfl, rfl, rfl, rfl, fun _ h => h⟩
  · exact .idle (.refl s)
  · subst hnext
    rw [Bool.not_eq_true, Bool.not_eq_false'] at hclosed
    refine .next ?_ (sameReceiver_acceptNext s _)
    rw [Bool.or_eq_false_iff, Bool.not_eq_false', Bool.not_eq_false'] at hvalid
    simp [takesInTurn, hvalid.1, hvalid.2, hclosed]
  · exact .idle ⟨rfl, rfl, rfl, rfl, rfl, rfl, fun _ h => h⟩
  · rw [Bool.not_eq_true, Bool.not_eq_false'] at hclosed
    by_cases hbuffered : seq ∈ s.receiveBuffer
    · have hbuffered' : seq ∈ (s.observe seq).receiveBuffer := hbuffered
      rw [acceptAhead, if_pos hbuffered']
      exact .idle ⟨rfl, rfl, rfl, rfl, rfl, rfl, fun _ h => h⟩
    · exact .ahead (by omega) hclosed hbuffered (sameReceiver_acceptAhead hbuffered)

/-- What happens to a packet that is taken in turn. -/
theorem handleReceivedPacket_of_takesInTurn (lower : LowerLayer) {packet : TpdcPacket}
    {seq : ℕ} (hturn : s.takesInTurn seq packet = true) :
    SameReceiver s.acceptNext (s.handleReceivedPacket lower (.data seq packet)).1 := by
  have hwindow := isInReceiveWindow_of_takesInTurn hturn
  unfold takesInTurn at hturn
  rw [Bool.and_eq_true, Bool.and_eq_true, Bool.and_eq_true, decide_eq_true_eq] at hturn
  obtain ⟨⟨⟨hactive, hvalid⟩, rfl⟩, -⟩ := hturn
  unfold handleReceivedPacket bufferPacketForReceiving
  dsimp only
  rw [hactive, hvalid, if_neg (by simp), if_neg (lt_irrefl _), hwindow, if_neg (by simp),
    if_pos rfl]
  exact sameReceiver_acceptNext s _

theorem sameReceiver_sendPacket (lower : LowerLayer) (s : Tpdc) (packet : Option TpdcPacket)
    (som eom : Bool) : SameReceiver s (s.sendPacket lower packet som eom).1 := by
  rcases sendPacket_cases lower s packet som eom with hnone | ⟨p, -, ⟨-, hqueued⟩ | ⟨-, hsent⟩⟩
  · rw [hnone]
    exact .refl s
  · rw [hqueued]
    exact ⟨rfl, rfl, rfl, rfl, rfl, rfl, fun _ h => h⟩
  · rw [hsent]
    exact sameReceiver_sendBuffered lower s _

theorem sameReceiver_handleRtoTimeout (lower : LowerLayer) (s : Tpdc) (seq : ℕ) :
    SameReceiver s (s.handleRtoTimeout lower seq) := by
  have hfired : SameReceiver s (s.timeoutFired seq) :=
    ⟨rfl, rfl, rfl, rfl, rfl, rfl, fun _ h => h⟩
  exact hfired.trans (sameReceiver_retransmitPacket lower _ seq)

theorem tpdcStep_receiveCase (hstep : s.tpdcStep a = some s') : ReceiveCase s a s' := by
  cases a with
  | sendPacket lower packet som eom =>
      cases hstep
      exact .idle (sameReceiver_sendPacket lower s packet som eom)
  | receivePacket lower message =>
      cases hstep
      unfold handleReceivedPacket
      split_ifs with hinvalid
      · exact .idle (.refl s)
      · rw [Bool.not_eq_true] at hinvalid
        cases message with
        | control tag => exact .idle (handleControlTag_effects s tag).sameReceiver
        | data seq packet => exact handleData_receiveCase lower s seq packet hinvalid
  | rtoTimeout lower seq =>
      unfold tpdcStep at hstep
      dsimp only at hstep
      split_ifs at hstep
      cases hstep
      exact .idle (sameReceiver_handleRtoTimeout lower s seq)
  | ackEvent lower =>
      unfold tpdcStep at hstep
      dsimp only at hstep
      split_ifs at hstep
      cases hstep
      exact .reported
  | forceRetransmission lower =>
      cases hstep
      have heffects : SendEffects lower 0 (fun _ => False) s (s.forceRetransmission lower) :=
        forceRetransmission_effects s
      exact .idle heffects.sameReceiver
  | setActive active =>
      cases hstep
      exact .idle ⟨rfl, rfl, rfl, rfl, rfl, rfl, fun _ h => h⟩

/-- No action changes the configuration. -/
theorem config_step (hstep : s.tpdcStep a = some s') : s'.config = s.config := by
  cases tpdcStep_receiveCase hstep with
  | idle hsame => exact hsame.config
  | next hturn haccepted => exact haccepted.config
  | ahead hlater hwindow hnew haccepted =>
      rw [haccepted.config, acceptAhead, if_neg hnew]
  | reported => rfl

/-! ## The receive buffer -/

/-- The loop that takes the packets that are next out of the receive buffer stops
at the first sequence number that is not there. -/
theorem drainReceiveBuffer_spec {fuel : ℕ} {buffer : List ℕ} {next : ℕ}
    (hfuel : buffer.length ≤ fuel) (hbuffer : ∀ seq ∈ buffer, seq + 1 < 2 ^ 32)
    (hnext : next < 2 ^ 32) :
    ∃ last, drainReceiveBuffer fuel buffer next =
        (buffer.filter fun seq => seq < next ∨ last ≤ seq, last) ∧
      next ≤ last ∧ last < 2 ^ 32 ∧ last ∉ buffer ∧
      ∀ seq, next ≤ seq → seq < last → seq ∈ buffer := by
  induction fuel generalizing buffer next with
  | zero =>
      rw [Nat.le_zero, List.length_eq_zero_iff] at hfuel
      subst hfuel
      exact ⟨next, rfl, le_rfl, hnext, List.not_mem_nil, fun seq h h' => by omega⟩
  | succ fuel ih =>
      unfold drainReceiveBuffer
      split_ifs with hmem
      · have hsucc : toU32 (next + 1) = next + 1 := toU32_of_lt (hbuffer next hmem)
        have hshorter : (buffer.filter (· ≠ next)).length < buffer.length :=
          List.length_filter_lt_length_iff_exists.mpr ⟨next, hmem, by simp⟩
        rw [hsucc]
        obtain ⟨last, hdrained, hle, hlt, hstop, hrun⟩ :=
          @ih (buffer.filter (· ≠ next)) (next + 1) (by omega)
            (fun seq hseq => hbuffer seq (List.mem_of_mem_filter hseq)) (hbuffer next hmem)
        refine ⟨last, ?_, by omega, hlt, ?_, ?_⟩
        · rw [hdrained, List.filter_filter]
          congr 1
          refine List.filter_congr fun seq _ => ?_
          rw [← Bool.decide_and, decide_eq_decide]
          omega
        · intro hlast
          exact hstop (List.mem_filter.mpr ⟨hlast, by simp; omega⟩)
        · intro seq hseq hseqlt
          by_cases heq : seq = next
          · rw [heq]
            exact hmem
          · exact List.mem_of_mem_filter (hrun seq (by omega) hseqlt)
      · refine ⟨next, ?_, le_rfl, hnext, hmem, fun seq h h' => by omega⟩
        congr 1
        refine (List.filter_eq_self.mpr fun seq _ => ?_).symm
        rw [decide_eq_true_eq]
        omega

/-! ## The invariant -/

/-- The receive window ends below the wrap of the sequence numbers. -/
theorem lt_of_isInReceiveWindow {seq : ℕ} (h : s.isInReceiveWindow seq = true) :
    s.receiveWindowBase ≤ seq ∧ seq < s.receiveWindowBase + s.config.receiveWindowSize ∧
      seq + 1 < 2 ^ 32 := by
  unfold isInReceiveWindow toU32 at h
  rw [Bool.and_eq_true, decide_eq_true_eq, decide_eq_true_eq] at h
  omega

/-- What the receiving half keeps: the buffered packets are ahead of the next one,
and the accepted packets are those below it and those that are buffered. -/
structure Received (s : Tpdc) : Prop where
  base : s.receiveWindowBase = s.nextReceiveSequence
  positive : 0 < s.nextReceiveSequence
  below : s.nextReceiveSequence < 2 ^ 32
  ahead : ∀ seq ∈ s.receiveBuffer, s.nextReceiveSequence < seq ∧
    seq < s.receiveWindowBase + s.config.receiveWindowSize ∧ seq + 1 < 2 ^ 32
  once : s.accepted.Nodup
  mem_accepted : ∀ seq, seq ∈ s.accepted ↔
    0 < seq ∧ seq < s.nextReceiveSequence ∨ seq ∈ s.receiveBuffer

theorem Received.of_same (h : s.Received) (hsame : SameReceiver s s') : s'.Received := by
  constructor
  · rw [hsame.receiveWindowBase, hsame.nextReceiveSequence, h.base]
  · rw [hsame.nextReceiveSequence]
    exact h.positive
  · rw [hsame.nextReceiveSequence]
    exact h.below
  · rw [hsame.receiveBuffer, hsame.nextReceiveSequence, hsame.receiveWindowBase, hsame.config]
    exact h.ahead
  · rw [hsame.accepted]
    exact h.once
  · rw [hsame.accepted, hsame.nextReceiveSequence, hsame.receiveBuffer]
    exact h.mem_accepted

theorem Received.of_fresh (h : s.Fresh) : s.Received := by
  rw [h]
  constructor
  case mem_accepted =>
    intro seq
    simp
    omega
  all_goals simp

/-- The next packet was not accepted before. -/
theorem Received.next_not_accepted (h : s.Received) : s.nextReceiveSequence ∉ s.accepted := by
  rw [h.mem_accepted]
  rintro (⟨-, hlt⟩ | hmem)
  · exact lt_irrefl _ hlt
  · exact lt_irrefl _ (h.ahead _ hmem).1

/-- What `acceptNext` does: it moves past the packets that follow in the buffer. -/
theorem Received.acceptNext_eq (h : s.Received)
    (hwindow : s.isInReceiveWindow s.nextReceiveSequence = true) :
    ∃ last, s.acceptNext =
        { s with
          receiveBuffer := s.receiveBuffer.filter fun seq => last ≤ seq
          nextReceiveSequence := last
          receiveWindowBase := last
          accepted := s.accepted ++ [s.nextReceiveSequence] } ∧
      s.nextReceiveSequence < last ∧ last < 2 ^ 32 ∧ last ∉ s.receiveBuffer ∧
      ∀ seq, s.nextReceiveSequence < seq → seq < last → seq ∈ s.receiveBuffer := by
  obtain ⟨-, -, hroom⟩ := lt_of_isInReceiveWindow hwindow
  obtain ⟨last, hdrained, hle, hlt, hstop, hrun⟩ :=
    @drainReceiveBuffer_spec _ _ (s.nextReceiveSequence + 1) le_rfl
      (fun seq hseq => (h.ahead seq hseq).2.2) hroom
  refine ⟨last, ?_, hle, hlt, hstop, hrun⟩
  have hfilter : (s.receiveBuffer.filter fun seq => seq < s.nextReceiveSequence + 1 ∨ last ≤ seq) =
      s.receiveBuffer.filter fun seq => last ≤ seq := by
    refine List.filter_congr fun seq hseq => ?_
    have hahead := (h.ahead seq hseq).1
    rw [decide_eq_decide]
    omega
  unfold acceptNext
  rw [toU32_of_lt hroom, hdrained, hfilter]

theorem Received.acceptNext (h : s.Received)
    (hwindow : s.isInReceiveWindow s.nextReceiveSequence = true) : s.acceptNext.Received := by
  obtain ⟨last, heq, hlt, hbelow, hstop, hrun⟩ := h.acceptNext_eq hwindow
  have hpositive := h.positive
  have hbase := h.base
  rw [heq]
  constructor
  case base => rfl
  case positive => exact h.positive.trans hlt
  case below => exact hbelow
  case ahead =>
    intro seq hseq
    obtain ⟨hmem, hle⟩ := List.mem_filter.mp hseq
    have hahead := h.ahead seq hmem
    have hne : seq ≠ last := fun hseqlast => hstop (hseqlast ▸ hmem)
    rw [decide_eq_true_eq] at hle
    dsimp only
    omega
  case once =>
    refine List.nodup_append.mpr ⟨h.once, List.nodup_singleton _, ?_⟩
    intro seq hseq _ hnext hsame
    rw [List.mem_singleton] at hnext
    exact h.next_not_accepted (hnext ▸ hsame ▸ hseq)
  case mem_accepted =>
    intro seq
    rw [List.mem_append, h.mem_accepted, List.mem_singleton, List.mem_filter, decide_eq_true_eq]
    dsimp only
    constructor
    · rintro ((⟨hpos, hseq⟩ | hmem) | rfl)
      · exact .inl ⟨hpos, hseq.trans hlt⟩
      · have hahead := h.ahead seq hmem
        by_cases hle : last ≤ seq
        · exact .inr ⟨hmem, hle⟩
        · exact .inl ⟨by omega, by omega⟩
      · exact .inl ⟨hpositive, hlt⟩
    · rintro (⟨hpos, hseq⟩ | ⟨hmem, -⟩)
      · by_cases hold : seq < s.nextReceiveSequence
        · exact .inl (.inl ⟨hpos, hold⟩)
        · by_cases hsame : seq = s.nextReceiveSequence
          · exact .inr hsame
          · exact .inl (.inr (hrun seq (by omega) hseq))
      · exact .inl (.inr hmem)

theorem Received.acceptAhead (h : s.Received) {seq : ℕ} (hlater : s.nextReceiveSequence < seq)
    (hwindow : s.isInReceiveWindow seq = true) (hnew : seq ∉ s.receiveBuffer) :
    (s.acceptAhead seq).Received := by
  obtain ⟨-, hroom⟩ := lt_of_isInReceiveWindow hwindow
  unfold Tpdc.acceptAhead
  rw [if_neg hnew]
  constructor
  case base => exact h.base
  case positive => exact h.positive
  case below => exact h.below
  case ahead =>
    intro seq' hseq'
    rcases List.mem_append.mp hseq' with hmem | hmem
    · exact h.ahead seq' hmem
    · rw [List.mem_singleton.mp hmem]
      exact ⟨hlater, hroom⟩
  case once =>
    refine List.nodup_append.mpr ⟨h.once, List.nodup_singleton _, ?_⟩
    intro seq' hseq' _ hnext hsame
    rw [List.mem_singleton] at hnext
    subst hnext hsame
    rcases (h.mem_accepted _).mp hseq' with ⟨-, hlt⟩ | hmem
    · exact absurd hlt (not_lt.mpr hlater.le)
    · exact hnew hmem
  case mem_accepted =>
    intro seq'
    rw [List.mem_append, List.mem_append, h.mem_accepted, or_assoc]

theorem received_step (h : s.Received) (hstep : s.tpdcStep a = some s') : s'.Received := by
  cases tpdcStep_receiveCase hstep with
  | idle hsame => exact h.of_same hsame
  | next hturn haccepted =>
      exact (h.acceptNext (isInReceiveWindow_of_takesInTurn hturn)).of_same haccepted
  | ahead hlater hwindow hnew haccepted =>
      exact (h.acceptAhead hlater hwindow hnew).of_same haccepted
  | reported => exact ⟨h.base, h.positive, h.below, h.ahead, h.once, h.mem_accepted⟩

/-- Exactly the numbers below the next one form a contiguous run of accepted
packets. -/
theorem Received.contiguous (h : s.Received) (n : ℕ) :
    (∀ seq, 0 < seq → seq ≤ n → seq ∈ s.accepted) ↔ n < s.nextReceiveSequence := by
  constructor
  · intro hall
    by_contra hle
    exact h.next_not_accepted (hall _ h.positive (not_lt.mp hle))
  · intro hlt seq hpos hle
    exact (h.mem_accepted seq).mpr (.inl ⟨hpos, lt_of_le_of_lt hle hlt⟩)

/-! ## Truthful acknowledgments -/

/-- What a control tag says to have arrived had been accepted when it was sent, and
what it says is missing had not. -/
structure Truthful (tag : SoftUeTpdcControlTag) (accepted : List ℕ) : Prop where
  cumulative : ∀ seq, 0 < seq → seq ≤ tag.cumulativeAck → seq ∈ accepted
  selective : tag.sackFlag = true → tag.selectiveAck ∈ accepted
  missing : tag.gapNackFlag = true → tag.gapNack ∉ accepted

/-- The tag that `SendPendingAcknowledgments` puts on its packet. -/
def pendingTag (s : Tpdc) : SoftUeTpdcControlTag where
  ackFlag := true
  sackFlag := !s.receiveBuffer.isEmpty
  gapNackFlag := !s.createAcknowledgment.nackList.isEmpty
  cumulativeAck := s.createAcknowledgment.ackSequence
  selectiveAck := s.receiveBuffer.min?.getD 0
  gapNack := s.createAcknowledgment.nackList.head?.getD 0

theorem sendPendingAcknowledgments_eq (lower : LowerLayer) (s : Tpdc) :
    s.sendPendingAcknowledgments lower = s.sendControlPacket lower s.pendingTag := rfl

/-- The selective acknowledgment names a packet of the receive buffer. -/
theorem selectiveAck_mem (hsack : s.pendingTag.sackFlag = true) :
    s.pendingTag.selectiveAck ∈ s.receiveBuffer := by
  have hne : s.receiveBuffer ≠ [] := by
    rintro hnil
    simp [pendingTag, hnil] at hsack
  obtain ⟨seq, hseq⟩ := Option.isSome_iff_exists.mp (List.isSome_min?_of_ne_nil hne)
  have hmem : seq ∈ s.receiveBuffer := List.min?_mem hseq
  rw [pendingTag, hseq]
  exact hmem

theorem Received.cumulativeAck_lt (h : s.Received) :
    s.pendingTag.cumulativeAck < s.nextReceiveSequence := by
  have hpositive := h.positive
  unfold pendingTag createAcknowledgment
  dsimp only
  rw [if_pos hpositive]
  omega

theorem Received.truthful_pendingTag (h : s.Received) : Truthful s.pendingTag s.accepted := by
  constructor
  · intro seq hpos hle
    exact (h.mem_accepted seq).mpr (.inl ⟨hpos, lt_of_le_of_lt hle h.cumulativeAck_lt⟩)
  · intro hsack
    exact (h.mem_accepted _).mpr (.inr (selectiveAck_mem hsack))
  · intro hgap
    have hnack : s.pendingTag.gapNack = s.nextReceiveSequence := by
      unfold pendingTag createAcknowledgment at hgap ⊢
      dsimp only at hgap ⊢
      split_ifs at hgap ⊢ with hmissing
      · rfl
      · cases hgap
    rw [hnack]
    exact h.next_not_accepted

theorem acceptAhead_reports (s : Tpdc) (seq : ℕ) : (s.acceptAhead seq).reports = s.reports := by
  unfold acceptAhead
  split_ifs <;> rfl

/-- Everything a context has reported was true when it was sent. -/
def TruthfulReports (s : Tpdc) : Prop :=
  ∀ report ∈ s.reports, Truthful report.1 report.2

theorem truthfulReports_step (hreceived : s.Received) (h : s.TruthfulReports)
    (hstep : s.tpdcStep a = some s') : s'.TruthfulReports := by
  unfold TruthfulReports
  cases tpdcStep_receiveCase hstep with
  | idle hsame =>
      rw [hsame.reports]
      exact h
  | next hturn haccepted =>
      rw [haccepted.reports]
      exact h
  | ahead hlater hwindow hnew haccepted =>
      rw [haccepted.reports, acceptAhead_reports]
      exact h
  | @reported lower =>
      rw [sendPendingAcknowledgments_eq]
      unfold sendControlPacket
      dsimp only
      split_ifs
      · intro report hreport
        rcases List.mem_append.mp hreport with hold | hnew
        · exact h report hold
        · rw [List.mem_singleton.mp hnew]
          exact hreceived.truthful_pendingTag
      · exact h

/-! ## A safe receiver -/

/-- What holds of the windows, the buffer and the acknowledgments of a receiver. -/
structure ReceiverSafe (s : Tpdc) : Prop where
  ahead : ∀ seq ∈ s.receiveBuffer, s.nextReceiveSequence < seq ∧
    seq < s.receiveWindowBase + s.config.receiveWindowSize
  base : s.receiveWindowBase = s.nextReceiveSequence
  contiguous : ∀ n, (∀ seq, 0 < seq → seq ≤ n → seq ∈ s.accepted) ↔ n < s.nextReceiveSequence
  truthful : s.TruthfulReports

theorem Received.receiverSafe (h : s.Received) (htruthful : s.TruthfulReports) :
    s.ReceiverSafe where
  ahead seq hseq := ⟨(h.ahead seq hseq).1, (h.ahead seq hseq).2.1⟩
  base := h.base
  contiguous := h.contiguous
  truthful := htruthful

end Tpdc
end UeSim
