import UeSim.Pdc.Reception

/-!
# Two contexts and the network between them

Each of two contexts may do anything at any time, and may receive again and in
any order whatever its peer has ever handed to the channel.  What a sender takes
for acknowledged has been accepted by its peer, and the next expected number of
the peer stays between the base of the window and the next number of the sender.

The invariant says how a sender and a receiver are related, and holds in both
directions.  Sequence numbers do not wrap: both windows close before `2 ^ 32`.
-/

namespace UeSim
namespace Tpdc

variable {lower : LowerLayer} {limit : ℕ} {sacked : ℕ → Prop} {s s' r r' : Tpdc} {a : TpdcAction}

/-! ## What a sender knows of its receiver -/

/-- What is promised about a sender and its receiver: packets leave the send
buffer as acknowledged only after they were accepted, and the next expected
number lies between the base of the window and the next number to send. -/
structure SafeTowards (s r : Tpdc) : Prop where
  acknowledged : ∀ e ∈ s.acknowledged, e.1 ∈ r.accepted
  base_le : s.sendWindowBase ≤ r.nextReceiveSequence
  next_le : r.nextReceiveSequence ≤ s.nextSendSequence

/-- A packet of the send buffer lies under its own number, which has been used; if
it is acknowledged, then the receiver has accepted it. -/
def BufferedFor (s r : Tpdc) (seq : ℕ) (buffered : BufferedPacket) : Prop :=
  buffered.sequenceNumber = seq ∧ seq < s.nextSendSequence ∧
    (buffered.acknowledged = true → seq ∈ r.accepted)

/-- A control tag in flight is about packets that the receiver has accepted. -/
def AcceptedBy (r : Tpdc) (tag : SoftUeTpdcControlTag) : Prop :=
  tag.cumulativeAck < r.nextReceiveSequence ∧ (tag.sackFlag = true → tag.selectiveAck ∈ r.accepted)

/-- The relation between a sender and its receiver, with all that is in flight. -/
structure Follows (s r : Tpdc) : Prop extends SafeTowards s r where
  positive : 0 < s.sendWindowBase
  below : s.nextSendSequence < 2 ^ 32
  buffered : ∀ seq b, s.sendBuffer.lookup seq = some b → s.BufferedFor r seq b
  queued : ∀ b ∈ s.sendQueue, b.acknowledged = false
  data : ∀ seq packet, .data seq packet ∈ s.transmitted → seq < s.nextSendSequence
  control : ∀ tag, .control tag ∈ r.transmitted → r.AcceptedBy tag
  arrived : ∀ seq ∈ r.receiveBuffer, seq < s.nextSendSequence

/-! ## The sender moves -/

theorem Follows.of_sameSender (h : Follows s r) (hsame : SameSender s s') : Follows s' r := by
  constructor
  case toSafeTowards =>
    refine ⟨?_, ?_, ?_⟩
    · rw [hsame.acknowledged]
      exact h.acknowledged
    · rw [hsame.sendWindowBase]
      exact h.base_le
    · rw [hsame.nextSendSequence]
      exact h.next_le
  case positive =>
    rw [hsame.sendWindowBase]
    exact h.positive
  case below =>
    rw [hsame.nextSendSequence]
    exact h.below
  case buffered =>
    unfold BufferedFor
    rw [hsame.sendBuffer, hsame.nextSendSequence]
    exact h.buffered
  case queued =>
    rw [hsame.sendQueue]
    exact h.queued
  case data =>
    intro seq packet hsent
    rw [hsame.nextSendSequence]
    exact h.data seq packet (hsame.data seq packet hsent)
  case control => exact h.control
  case arrived =>
    rw [hsame.nextSendSequence]
    exact h.arrived

/-- The relation does not depend on the order of the send queue. -/
theorem Follows.of_queue (h : Follows s r) {queue : List BufferedPacket}
    (hqueue : ∀ b ∈ queue, b.acknowledged = false) : Follows { s with sendQueue := queue } r where
  acknowledged := h.acknowledged
  base_le := h.base_le
  next_le := h.next_le
  positive := h.positive
  below := h.below
  buffered := h.buffered
  queued := hqueue
  data := h.data
  control := h.control
  arrived := h.arrived

theorem mem_sendQueue_enqueue {buffered b : BufferedPacket}
    (hb : b ∈ (s.enqueue buffered).sendQueue) : b = buffered ∨ b ∈ s.sendQueue := by
  unfold enqueue at hb
  dsimp only at hb
  split_ifs at hb <;> simpa [or_comm] using hb

theorem Follows.enqueue (h : Follows s r) {buffered : BufferedPacket}
    (hfresh : buffered.acknowledged = false) : Follows (s.enqueue buffered) r := by
  refine h.of_queue fun b hb => ?_
  rcases mem_sendQueue_enqueue hb with rfl | hold
  · exact hfresh
  · exact h.queued b hold

/-- A used number stays used when the next packet is numbered. -/
theorem BufferedFor.succ {seq : ℕ} {b : BufferedPacket} (h : s.BufferedFor r seq b) {t : Tpdc}
    (hnext : t.nextSendSequence = s.nextSendSequence + 1) : t.BufferedFor r seq b :=
  ⟨h.1, hnext ▸ Nat.lt_succ_of_lt h.2.1, h.2.2⟩

/-- A first transmission takes the next number, whether or not the lower layer
takes the packet. -/
theorem Follows.sendBuffered (h : Follows s r)
    (hwindow : s.isInSendWindow s.nextSendSequence = true) {buffered : BufferedPacket}
    (hfresh : buffered.acknowledged = false) : Follows (s.sendBuffered lower buffered).1 r := by
  have hroom := (lt_of_isInSendWindow hwindow).2
  have hnext : toU32 (s.nextSendSequence + 1) = s.nextSendSequence + 1 := toU32_of_lt hroom
  have hdata : ∀ seq packet, .data seq packet ∈ s.transmitted → seq < s.nextSendSequence + 1 :=
    fun seq packet hsent => Nat.lt_succ_of_lt (h.data seq packet hsent)
  have harrived : ∀ seq ∈ r.receiveBuffer, seq < s.nextSendSequence + 1 :=
    fun seq hseq => Nat.lt_succ_of_lt (h.arrived seq hseq)
  rw [sendBuffered_eq]
  unfold sentFirst refusedFirst
  rw [hnext]
  split_ifs
  · refine ⟨⟨h.acknowledged, h.base_le, Nat.le_succ_of_le h.next_le⟩, h.positive, hroom, ?_,
      h.queued, ?_, h.control, harrived⟩
    · refine KeyedMap.forall_insert (fun seq b hb => (h.buffered seq b hb).succ rfl) ?_
      refine ⟨rfl, Nat.lt_succ_self _, fun hacked => ?_⟩
      exact absurd (hfresh.symm.trans hacked) Bool.false_ne_true
    · intro seq packet hsent
      rcases List.mem_append.mp hsent with hold | hnew
      · exact hdata seq packet hold
      · rw [List.mem_singleton] at hnew
        cases hnew
        exact Nat.lt_succ_self _
  · refine ⟨⟨h.acknowledged, h.base_le, Nat.le_succ_of_le h.next_le⟩, h.positive, hroom, ?_,
      h.queued, hdata, h.control, harrived⟩
    intro seq b hb
    exact (h.buffered seq b (KeyedMap.lookup_of_lookup_erase hb)).succ rfl

theorem Follows.retransmitPacket (h : Follows s r) (seq : ℕ) :
    Follows (s.retransmitPacket lower seq) r := by
  rcases retransmitPacket_cases lower s seq with ⟨hsame, -⟩ | ⟨b, hb, -, hsent⟩
  · rw [hsame]
    exact h
  · rw [hsent]
    obtain ⟨hnumber, hlt, hacked⟩ := h.buffered seq b hb
    refine ⟨⟨h.acknowledged, h.base_le, h.next_le⟩, h.positive, h.below,
      KeyedMap.forall_insert h.buffered ⟨hnumber, hlt, hacked⟩, h.queued, ?_, h.control, h.arrived⟩
    intro seq' packet hmem
    unfold sentAgain at hmem
    dsimp only at hmem
    split_ifs at hmem
    · rcases List.mem_append.mp hmem with hold | hnew
      · exact h.data seq' packet hold
      · rw [List.mem_singleton] at hnew
        cases hnew
        exact hnumber ▸ hlt
    · exact h.data seq' packet hmem

/-- What a control packet does to the sender, when it is about packets that the
receiver has accepted. -/
theorem Follows.effect (h : Follows s r) (hreceived : r.Received)
    (hlimit : limit ≤ r.nextReceiveSequence) (hsacked : ∀ seq, sacked seq → seq ∈ r.accepted)
    (heff : SendEffect lower limit sacked s s') : Follows s' r := by
  cases heff with
  | marked marks hmarks =>
      refine ⟨⟨h.acknowledged, h.base_le, h.next_le⟩, h.positive, h.below, ?_, h.queued, h.data,
        h.control, h.arrived⟩
      refine KeyedMap.forall_filterMap h.buffered ?_
      rintro seq b _ ⟨hnumber, hlt, hacked⟩ ⟨⟩
      refine ⟨hnumber, hlt, fun hmarked => ?_⟩
      rcases (Bool.or_eq_true _ _).mp hmarked with hold | hnew
      · exact hacked hold
      · rcases hmarks seq hnew with ⟨hbase, hbelow⟩ | hsack
        · exact (hreceived.mem_accepted seq).mpr
            (.inl ⟨lt_of_lt_of_le h.positive hbase, lt_of_lt_of_le hbelow hlimit⟩)
        · exact hsacked seq hsack
  | advanced =>
      exact ⟨⟨h.acknowledged, max_le h.base_le hlimit, h.next_le⟩,
        lt_of_lt_of_le h.positive (le_max_left _ _), h.below, h.buffered, h.queued, h.data,
        h.control, h.arrived⟩
  | retransmitted seq => exact h.retransmitPacket seq
  | cleaned =>
      refine ⟨⟨?_, h.base_le, h.next_le⟩, h.positive, h.below, ?_, h.queued, h.data, h.control,
        h.arrived⟩
      · intro e he
        rcases List.mem_append.mp he with hold | hnew
        · exact h.acknowledged e hold
        · obtain ⟨hmem, hacked⟩ := List.mem_filter.mp hnew
          exact (h.buffered e.1 e.2 (AList.mem_lookup_iff.mpr hmem)).2.2 hacked
      · refine KeyedMap.forall_filterMap h.buffered ?_
        intro seq b b' hb hb'
        split_ifs at hb'
        cases hb'
        exact hb
  | @sent buffered queue hwindow hqueue =>
      have hdequeued : Follows { s with sendQueue := queue } r :=
        h.of_queue fun b hb => h.queued b (hqueue.mem_iff.mp (List.mem_cons_of_mem _ hb))
      exact hdequeued.sendBuffered hwindow
        (h.queued buffered (hqueue.mem_iff.mp List.mem_cons_self))

theorem Follows.effects (h : Follows s r) (hreceived : r.Received)
    (hlimit : limit ≤ r.nextReceiveSequence) (hsacked : ∀ seq, sacked seq → seq ∈ r.accepted)
    (heffects : SendEffects lower limit sacked s s') : Follows s' r :=
  heffects.invariant (P := fun t => Follows t r) h fun _ _ hfollows heff =>
    hfollows.effect hreceived hlimit hsacked heff

theorem Follows.timeoutFired (h : Follows s r) (seq : ℕ) : Follows (s.timeoutFired seq) r :=
  ⟨⟨h.acknowledged, h.base_le, h.next_le⟩, h.positive, h.below,
    KeyedMap.forall_modify h.buffered fun _ hb => hb, h.queued, h.data, h.control, h.arrived⟩

/-! ## The network -/

/-- A context receives only what its peer has handed to the channel.  The channel
may lose, duplicate, delay and reorder: nothing says when a packet arrives, or how
often. -/
def arrives (peer : Tpdc) : TpdcAction → Bool
  | .receivePacket _ message => message ∈ peer.transmitted
  | _ => true

theorem Follows.sender_step (h : Follows s r) (hreceived : r.Received)
    (harrives : r.arrives a = true)
    (hstep : s.tpdcStep a = some s') : Follows s' r := by
  cases tpdcStep_sendCase hstep with
  | idle hsame => exact h.of_sameSender hsame
  | @handled lower tag =>
      obtain ⟨hcumulative, hselective⟩ := h.control tag (of_decide_eq_true harrives)
      have hlimit : toU32 (tag.cumulativeAck + 1) ≤ r.nextReceiveSequence :=
        (Nat.mod_le _ _).trans hcumulative
      refine h.effects hreceived hlimit ?_ (handleControlTag_effects s tag)
      rintro seq ⟨hsack, -, rfl⟩
      exact hselective hsack
  | @forced lower =>
      have heffects : SendEffects lower 0 (fun _ => False) s (s.forceRetransmission lower) :=
        forceRetransmission_effects s
      exact h.effects hreceived (Nat.zero_le _) (fun _ => False.elim) heffects
  | queued hclosed => exact h.enqueue rfl
  | sent hwindow => exact h.sendBuffered hwindow rfl
  | @timeout lower seq hpending => exact (h.timeoutFired seq).retransmitPacket seq

/-! ## The receiver moves -/

theorem AcceptedBy.mono {tag : SoftUeTpdcControlTag} (h : r.AcceptedBy tag)
    (hnext : r.nextReceiveSequence ≤ r'.nextReceiveSequence)
    (haccepted : ∀ seq ∈ r.accepted, seq ∈ r'.accepted) : r'.AcceptedBy tag :=
  ⟨lt_of_lt_of_le h.1 hnext, fun hsack => haccepted _ (h.2 hsack)⟩

/-- A receiver that has accepted more, within what was sent, is still related to
its sender. -/
theorem Follows.of_receiver (h : Follows s r)
    (hle : r.nextReceiveSequence ≤ r'.nextReceiveSequence)
    (hsent : r'.nextReceiveSequence ≤ s.nextSendSequence)
    (haccepted : ∀ seq ∈ r.accepted, seq ∈ r'.accepted)
    (hcontrol : ∀ tag, .control tag ∈ r'.transmitted → r'.AcceptedBy tag)
    (harrived : ∀ seq ∈ r'.receiveBuffer, seq < s.nextSendSequence) : Follows s r' where
  acknowledged e he := haccepted _ (h.acknowledged e he)
  base_le := h.base_le.trans hle
  next_le := hsent
  positive := h.positive
  below := h.below
  buffered seq b hb :=
    ⟨(h.buffered seq b hb).1, (h.buffered seq b hb).2.1,
      fun hacked => haccepted seq ((h.buffered seq b hb).2.2 hacked)⟩
  queued := h.queued
  data := h.data
  control := hcontrol
  arrived := harrived

theorem Follows.of_sameReceiver (h : Follows s r) (hsame : SameReceiver r r') : Follows s r' := by
  refine h.of_receiver hsame.nextReceiveSequence.ge ?_ ?_ ?_ ?_
  · rw [hsame.nextReceiveSequence]
    exact h.next_le
  · rw [hsame.accepted]
    exact fun _ hseq => hseq
  · intro tag htag
    exact (h.control tag (hsame.control tag htag)).mono hsame.nextReceiveSequence.ge
      fun _ hseq => hsame.accepted ▸ hseq
  · rw [hsame.receiveBuffer]
    exact h.arrived

/-- The next packet and those that follow it in the buffer were all sent. -/
theorem Follows.acceptNext (h : Follows s r) (hreceived : r.Received)
    (hwindow : r.isInReceiveWindow r.nextReceiveSequence = true)
    (hsent : r.nextReceiveSequence < s.nextSendSequence) : Follows s r.acceptNext := by
  obtain ⟨last, heq, hlt, -, -, hrun⟩ := hreceived.acceptNext_eq hwindow
  rw [heq]
  refine h.of_receiver hlt.le ?_ (fun _ hseq => List.mem_append_left _ hseq) ?_ ?_
  · by_contra hbeyond
    exact lt_irrefl _ (h.arrived _ (hrun _ hsent (not_le.mp hbeyond)))
  · intro tag htag
    exact (h.control tag htag).mono hlt.le fun _ hseq => List.mem_append_left _ hseq
  · intro seq hseq
    exact h.arrived seq (List.mem_of_mem_filter hseq)

theorem Follows.acceptAhead (h : Follows s r) {seq : ℕ} (hnew : seq ∉ r.receiveBuffer)
    (hsent : seq < s.nextSendSequence) : Follows s (r.acceptAhead seq) := by
  unfold Tpdc.acceptAhead
  rw [if_neg hnew]
  refine h.of_receiver le_rfl h.next_le (fun _ hseq => List.mem_append_left _ hseq) ?_ ?_
  · intro tag htag
    exact (h.control tag htag).mono le_rfl fun _ hseq => List.mem_append_left _ hseq
  · intro seq' hseq'
    rcases List.mem_append.mp hseq' with hold | hlast
    · exact h.arrived seq' hold
    · rw [List.mem_singleton.mp hlast]
      exact hsent

/-- An acknowledgment that is sent is about packets that were accepted. -/
theorem Follows.report (h : Follows s r) (hreceived : r.Received) :
    Follows s (r.ackFired.sendPendingAcknowledgments lower) := by
  refine h.of_receiver le_rfl h.next_le (fun _ hseq => hseq) ?_ h.arrived
  intro tag htag
  rw [sendPendingAcknowledgments_eq] at htag
  unfold sendControlPacket at htag
  dsimp only at htag
  split_ifs at htag
  · rcases List.mem_append.mp htag with hold | hnew
    · exact h.control tag hold
    · rw [List.mem_singleton] at hnew
      cases hnew
      exact ⟨hreceived.cumulativeAck_lt,
        fun hsack => (hreceived.mem_accepted _).mpr (.inr (selectiveAck_mem hsack))⟩
  · exact h.control tag htag

theorem Follows.receiver_step (h : Follows s r) (hreceived : r.Received)
    (harrives : s.arrives a = true) (hstep : r.tpdcStep a = some r') : Follows s r' := by
  cases tpdcStep_receiveCase hstep with
  | idle hsame => exact h.of_sameReceiver hsame
  | @next lower packet _ hturn haccepted =>
      have hsent := h.data _ packet (of_decide_eq_true harrives)
      exact (h.acceptNext hreceived (isInReceiveWindow_of_takesInTurn hturn) hsent).of_sameReceiver
        haccepted
  | @ahead lower seq packet _ hlater hwindow hnew haccepted =>
      have hsent := h.data _ packet (of_decide_eq_true harrives)
      exact (h.acceptAhead hnew hsent).of_sameReceiver haccepted
  | reported => exact h.report hreceived

end Tpdc

/-! ## The pair -/

/-- Two contexts that are connected by a network. -/
structure TpdcPair where
  left : Tpdc := {}
  right : Tpdc := {}

/-- An action of one of the two. -/
inductive PairAction
  | onLeft (a : TpdcAction)
  | onRight (a : TpdcAction)

namespace TpdcPair

/-- One action of a pair. -/
def pairStep (p : TpdcPair) : PairAction → Option TpdcPair
  | .onLeft a =>
      if p.right.arrives a then (p.left.tpdcStep a).map fun left => { p with left := left }
      else none
  | .onRight a =>
      if p.left.arrives a then (p.right.tpdcStep a).map fun right => { p with right := right }
      else none

/-- The transition system of a pair; the two may be configured differently. -/
def pairSystem : TransitionSystem TpdcPair PairAction where
  init p := p.left.Fresh ∧ p.right.Fresh
  step := pairStep

/-- The invariant of a pair, which is the same in both directions. -/
structure Connected (p : TpdcPair) : Prop where
  leftReceived : p.left.Received
  rightReceived : p.right.Received
  leftToRight : p.left.Follows p.right
  rightToLeft : p.right.Follows p.left

theorem follows_of_fresh {s r : Tpdc} (hs : s.Fresh) (hr : r.Fresh) : s.Follows r := by
  rw [hs, hr]
  constructor
  case toSafeTowards =>
    refine ⟨fun e he => ?_, le_rfl, le_rfl⟩
    cases he
  case buffered =>
    intro seq b hb
    cases hb
  all_goals simp

theorem connected_step {p p' : TpdcPair} {a : PairAction} (h : p.Connected)
    (hstep : p.pairStep a = some p') : p'.Connected := by
  unfold pairStep at hstep
  cases a with
  | onLeft a =>
      dsimp only at hstep
      split_ifs at hstep with harrives
      obtain ⟨left, hleft, rfl⟩ := Option.map_eq_some_iff.mp hstep
      exact ⟨Tpdc.received_step h.leftReceived hleft, h.rightReceived,
        h.leftToRight.sender_step h.rightReceived harrives hleft,
        h.rightToLeft.receiver_step h.leftReceived harrives hleft⟩
  | onRight a =>
      dsimp only at hstep
      split_ifs at hstep with harrives
      obtain ⟨right, hright, rfl⟩ := Option.map_eq_some_iff.mp hstep
      exact ⟨h.leftReceived, Tpdc.received_step h.rightReceived hright,
        h.leftToRight.receiver_step h.rightReceived harrives hright,
        h.rightToLeft.sender_step h.leftReceived harrives hright⟩

/-- Over any network, a packet leaves a send buffer as acknowledged only after the
peer has accepted it, and the next expected number of the peer lies between the
base of the send window and the next number to send. -/
theorem safeTowards_of_reachable {p : TpdcPair} (hreach : pairSystem.Reachable p) :
    p.left.SafeTowards p.right ∧ p.right.SafeTowards p.left := by
  have hconnected : p.Connected := by
    refine hreach.invariant ?_ fun p a p' h _ hstep => connected_step h hstep
    rintro p ⟨hleft, hright⟩
    exact ⟨.of_fresh hleft, .of_fresh hright, follows_of_fresh hleft hright,
      follows_of_fresh hright hleft⟩
  exact ⟨hconnected.leftToRight.toSafeTowards, hconnected.rightToLeft.toSafeTowards⟩

/-- The left context sends a packet, which arrives twice, and the acknowledgment
arrives as well. -/
def sampleExchange : List PairAction :=
  [.onLeft Tpdc.sampleSubmission,
    .onRight (.receivePacket .willing (.data 1 { bytes := [0] })),
    .onRight (.receivePacket .willing (.data 1 { bytes := [0] })),
    .onRight (.ackEvent .willing),
    .onLeft (.receivePacket .willing (.control { ackFlag := true, cumulativeAck := 1 }))]

theorem safeTowards_of_reachable_sample :
    ∃ p, pairSystem.runActions {} sampleExchange = some p ∧
      p.left.sendWindowBase = 2 ∧
      p.left.SafeTowards p.right ∧ p.right.SafeTowards p.left := by
  obtain ⟨p, hrun⟩ : ∃ p, pairSystem.runActions {} sampleExchange = some p := ⟨_, rfl⟩
  have hreach : pairSystem.Reachable p :=
    TransitionSystem.ReachableBy.runActions (.init ⟨Tpdc.fresh_default, Tpdc.fresh_default⟩)
      (fun _ _ _ => trivial) hrun
  refine ⟨p, hrun, ?_, safeTowards_of_reachable hreach⟩
  cases hrun
  rfl

end TpdcPair
end UeSim
