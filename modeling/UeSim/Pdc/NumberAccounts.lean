import UeSim.Pdc.Conservation
import UeSim.Pdc.Delivery
import UeSim.Pdc.Pair

/-!
# What becomes of a sequence number

Every number that a sender has used belongs to a packet in its send buffer, to one
that was acknowledged, or to a first transmission that was refused.  What was
acknowledged lies below the base of the send window, or a control packet of the
receiver has acknowledged it selectively.

A selective acknowledgment names a packet that arrived ahead of the next expected
one.  So a cumulative acknowledgment never ends just before it, and the base of the
window is never a number that was acknowledged selectively.
-/

namespace UeSim
namespace Tpdc

variable {lower : LowerLayer} {limit : ℕ} {sacked : ℕ → Prop} {s s' r r' : Tpdc} {a : TpdcAction}

/-! ## What a channel was given -/

/-- Nothing is taken back from the channel. -/
theorem SendEffect.transmitted_subset (heff : SendEffect lower limit sacked s s') :
    s.transmitted ⊆ s'.transmitted := by
  cases heff with
  | marked | advanced | cleaned => exact List.Subset.refl _
  | retransmitted seq =>
      rcases retransmitPacket_cases lower s seq with ⟨hsame, -⟩ | ⟨buffered, -, -, hagain⟩
      · rw [hsame]
        exact List.Subset.refl _
      · rw [hagain]
        unfold sentAgain
        dsimp only
        split_ifs
        · exact List.subset_append_left _ _
        · exact List.Subset.refl _
  | @sent buffered queue hwindow hqueue =>
      rw [sendBuffered_eq]
      split_ifs
      · exact List.subset_append_left _ _
      · exact List.Subset.refl _

theorem SendEffects.transmitted_subset (heffects : SendEffects lower limit sacked s s') :
    s.transmitted ⊆ s'.transmitted := by
  induction heffects with
  | refl => exact List.Subset.refl _
  | tail _ heff ih => exact List.Subset.trans ih heff.transmitted_subset

theorem transmitted_subset_step (hstep : s.tpdcStep a = some s') :
    s.transmitted ⊆ s'.transmitted := by
  have hretry : ∀ (t : Tpdc) lower seq,
      t.transmitted ⊆ (t.retransmitPacket lower seq).transmitted := by
    intro t lower seq
    have heff : SendEffect lower 0 (fun _ => False) t (t.retransmitPacket lower seq) :=
      .retransmitted t seq
    exact heff.transmitted_subset
  cases a with
  | sendPacket lower packet som eom =>
      cases hstep
      rcases sendPacket_cases lower s packet som eom with
        hnone | ⟨p, -, ⟨-, hqueued⟩ | ⟨-, hsent⟩⟩
      · rw [hnone]
        exact List.Subset.refl _
      · rw [hqueued]
        exact List.Subset.refl _
      · rw [hsent, sendBuffered_eq]
        split_ifs
        · exact List.subset_append_left _ _
        · exact List.Subset.refl _
  | receivePacket lower message =>
      cases hstep
      unfold handleReceivedPacket
      split_ifs
      · exact List.Subset.refl _
      · cases message with
        | control tag => exact (handleControlTag_effects s tag).transmitted_subset
        | data seq packet =>
            dsimp only
            unfold bufferPacketForReceiving acceptAhead
            split_ifs <;> exact List.Subset.refl _
  | rtoTimeout lower seq =>
      simp only [tpdcStep, Option.ite_none_right_eq_some, Option.some.injEq] at hstep
      obtain ⟨-, rfl⟩ := hstep
      exact hretry (s.timeoutFired seq) lower seq
  | ackEvent lower =>
      simp only [tpdcStep, Option.ite_none_right_eq_some, Option.some.injEq] at hstep
      obtain ⟨-, rfl⟩ := hstep
      unfold sendPendingAcknowledgments sendAcknowledgment sendControlPacket
      dsimp only
      split_ifs
      · exact List.subset_append_left _ _
      · exact List.Subset.refl _
  | forceRetransmission lower =>
      cases hstep
      have heffects : SendEffects lower 0 (fun _ => False) s (s.forceRetransmission lower) :=
        forceRetransmission_effects s
      exact heffects.transmitted_subset
  | setActive active =>
      cases hstep
      exact List.Subset.refl _

/-! ## What becomes of a number -/

/-- Every number in use belongs to a packet that is buffered or was acknowledged, or
to a first transmission that was refused; a buffered packet was handed to the
channel, and a refused one was not. -/
structure Numbered (s : Tpdc) : Prop where
  used : ∀ seq, 0 < seq → seq < s.nextSendSequence → s.Accounted seq ∨ seq ∈ s.refused
  buffered : ∀ seq b, s.sendBuffer.lookup seq = some b →
    b.sequenceNumber = seq ∧ ∃ packet, .data seq packet ∈ s.transmitted
  data : ∀ seq packet, .data seq packet ∈ s.transmitted →
    seq < s.nextSendSequence ∧ seq ∉ s.refused
  refused : ∀ seq ∈ s.refused, seq < s.nextSendSequence

theorem Numbered.of_fresh (h : s.Fresh) : s.Numbered := by
  rw [h]
  constructor
  case used =>
    intro seq hpos hlt
    dsimp only at hlt
    omega
  case buffered =>
    intro seq b hb
    cases hb
  all_goals simp

/-- A first transmission uses up the next number. -/
theorem Numbered.sendBuffered (h : s.Numbered)
    (hwindow : s.isInSendWindow s.nextSendSequence = true) (buffered : BufferedPacket) :
    (s.sendBuffered lower buffered).1.Numbered := by
  have hnext : toU32 (s.nextSendSequence + 1) = s.nextSendSequence + 1 :=
    toU32_of_lt (lt_of_isInSendWindow hwindow).2
  have hunused : s.nextSendSequence ∉ s.refused := fun hmem => lt_irrefl _ (h.refused _ hmem)
  have hsent : SendEffect lower 0 (fun _ => False)
      { s with sendQueue := buffered :: s.sendQueue } (s.sendBuffered lower buffered).1 :=
    .sent hwindow (.refl _)
  have hused : ∀ seq, 0 < seq → seq < s.nextSendSequence →
      (s.sendBuffered lower buffered).1.Accounted seq ∨ seq ∈ s.refused := by
    intro seq hpos hlt
    refine (h.used seq hpos hlt).imp_left fun haccounted => ?_
    have hqueued : { s with sendQueue := buffered :: s.sendQueue }.Accounted seq := haccounted
    exact hqueued.effect hlt hsent
  rw [sendBuffered_eq] at hused ⊢
  split_ifs at hused ⊢
  · unfold sentFirst at hused ⊢
    rw [hnext] at hused ⊢
    refine ⟨?_, ?_, ?_, fun seq hseq => Nat.lt_succ_of_lt (h.refused seq hseq)⟩
    · intro seq hpos hlt
      rcases Nat.lt_succ_iff_lt_or_eq.mp hlt with hold | rfl
      · exact hused seq hpos hold
      · exact .inl (.inl ⟨_, AList.lookup_insert _⟩)
    · refine KeyedMap.forall_insert ?_ ⟨rfl, buffered.packet, ?_⟩
      · intro seq b hb
        obtain ⟨hnumber, packet, hdata⟩ := h.buffered seq b hb
        exact ⟨hnumber, packet, List.mem_append_left _ hdata⟩
      · exact List.mem_append_right _ (List.mem_singleton_self _)
    · intro seq packet hdata
      rcases List.mem_append.mp hdata with hold | hnew
      · exact (h.data seq packet hold).imp_left Nat.lt_succ_of_lt
      · rw [List.mem_singleton] at hnew
        cases hnew
        exact ⟨Nat.lt_succ_self _, hunused⟩
  · unfold refusedFirst at hused ⊢
    rw [hnext] at hused ⊢
    refine ⟨?_, ?_, ?_, ?_⟩
    · intro seq hpos hlt
      rcases Nat.lt_succ_iff_lt_or_eq.mp hlt with hold | rfl
      · exact (hused seq hpos hold).imp_right (List.mem_append_left _)
      · exact .inr (List.mem_append_right _ (List.mem_singleton_self _))
    · intro seq b hb
      exact h.buffered seq b (KeyedMap.lookup_of_lookup_erase hb)
    · intro seq packet hdata
      obtain ⟨hlt, hnot⟩ := h.data seq packet hdata
      refine ⟨Nat.lt_succ_of_lt hlt, fun hmem => ?_⟩
      rcases List.mem_append.mp hmem with hold | hnew
      · exact hnot hold
      · exact hlt.ne (List.mem_singleton.mp hnew)
    · intro seq hmem
      rcases List.mem_append.mp hmem with hold | hnew
      · exact Nat.lt_succ_of_lt (h.refused seq hold)
      · rw [List.mem_singleton.mp hnew]
        exact Nat.lt_succ_self _

theorem Numbered.retransmitPacket (h : s.Numbered) (seq : ℕ) :
    (s.retransmitPacket lower seq).Numbered := by
  have heff : SendEffect lower 0 (fun _ => False) s (s.retransmitPacket lower seq) :=
    .retransmitted s seq
  have hkept := heff.transmitted_subset
  have hused := fun seq hpos hlt => (h.used seq hpos hlt).imp_left
    fun haccounted => haccounted.effect hlt heff
  rcases retransmitPacket_cases lower s seq with ⟨hsame, -⟩ | ⟨b, hb, -, hagain⟩
  · rwa [hsame]
  · rw [hagain] at hkept hused ⊢
    obtain ⟨hnumber, packet, hdata⟩ := h.buffered seq b hb
    refine ⟨hused, ?_, ?_, h.refused⟩
    · refine KeyedMap.forall_insert ?_ ⟨hnumber, packet, hkept hdata⟩
      intro seq' b' hb'
      obtain ⟨hnumber', packet', hdata'⟩ := h.buffered seq' b' hb'
      exact ⟨hnumber', packet', hkept hdata'⟩
    · intro seq' packet' hmem
      unfold sentAgain at hmem
      dsimp only at hmem
      split_ifs at hmem
      · rcases List.mem_append.mp hmem with hold | hnew
        · exact h.data seq' packet' hold
        · rw [List.mem_singleton] at hnew
          cases hnew
          exact hnumber ▸ h.data seq packet hdata
      · exact h.data seq' packet' hmem

theorem Numbered.effect (h : s.Numbered) (heff : SendEffect lower limit sacked s s') :
    s'.Numbered := by
  have hused := fun seq hpos hlt => (h.used seq hpos hlt).imp_left
    fun haccounted => haccounted.effect hlt heff
  cases heff with
  | marked marks hmarks =>
      refine ⟨hused, KeyedMap.forall_filterMap h.buffered ?_, h.data, h.refused⟩
      rintro seq b _ hb ⟨⟩
      exact hb
  | advanced => exact ⟨h.used, h.buffered, h.data, h.refused⟩
  | retransmitted seq => exact h.retransmitPacket seq
  | cleaned =>
      refine ⟨hused, KeyedMap.forall_filterMap h.buffered ?_, h.data, h.refused⟩
      intro seq b b' hb hkept
      split_ifs at hkept
      cases hkept
      exact hb
  | @sent buffered queue hwindow hqueue =>
      have hdequeued : { s with sendQueue := queue }.Numbered :=
        ⟨h.used, h.buffered, h.data, h.refused⟩
      exact hdequeued.sendBuffered hwindow buffered

theorem Numbered.of_same (h : s.Numbered) (hsame : SameSender s s')
    (hkept : s.transmitted ⊆ s'.transmitted) : s'.Numbered := by
  constructor
  case used =>
    unfold Accounted
    rw [hsame.nextSendSequence, hsame.sendBuffer, hsame.acknowledged, hsame.refused]
    exact h.used
  case buffered =>
    rw [hsame.sendBuffer]
    intro seq b hb
    obtain ⟨hnumber, packet, hdata⟩ := h.buffered seq b hb
    exact ⟨hnumber, packet, hkept hdata⟩
  case data =>
    intro seq packet hdata
    rw [hsame.nextSendSequence, hsame.refused]
    exact h.data seq packet (hsame.data seq packet hdata)
  case refused =>
    rw [hsame.nextSendSequence, hsame.refused]
    exact h.refused

theorem numbered_step (h : s.Numbered) (hstep : s.tpdcStep a = some s') : s'.Numbered := by
  have hkept := transmitted_subset_step hstep
  cases tpdcStep_sendCase hstep with
  | idle hsame => exact h.of_same hsame hkept
  | @handled lower tag =>
      exact (handleControlTag_effects s tag).invariant h fun _ _ hnumbered heff =>
        hnumbered.effect heff
  | @forced lower =>
      have heffects : SendEffects lower 0 (fun _ => False) s (s.forceRetransmission lower) :=
        forceRetransmission_effects s
      exact heffects.invariant h fun _ _ hnumbered heff => hnumbered.effect heff
  | queued hclosed => exact ⟨h.used, h.buffered, h.data, h.refused⟩
  | sent hwindow => exact h.sendBuffered hwindow _
  | @timeout lower seq hpending =>
      have hfired : (s.timeoutFired seq).Numbered := by
        refine ⟨?_, KeyedMap.forall_modify h.buffered fun _ hb => hb, h.data, h.refused⟩
        intro seq' hpos hlt
        refine (h.used seq' hpos hlt).imp_left fun haccounted =>
          haccounted.of_subset (fun b hb => ?_) fun _ he => he
        unfold timeoutFired Accounted
        dsimp only
        by_cases hseq : seq' = seq
        · subst hseq
          rw [KeyedMap.lookup_modify_self, hb]
          exact .inl ⟨_, rfl⟩
        · rw [KeyedMap.lookup_modify_ne hseq]
          exact .inl ⟨b, hb⟩
      exact hfired.retransmitPacket seq

/-! ## What was acknowledged -/

/-- A control tag of the receiver has acknowledged the number selectively. -/
def Sacks (r : Tpdc) (seq : ℕ) : Prop :=
  ∃ tag, .control tag ∈ r.transmitted ∧ tag.sackFlag = true ∧ tag.selectiveAck = seq

/-- What is acknowledged lies below a bound, or was acknowledged selectively. -/
structure Explained (s : Tpdc) (below : ℕ) (selected : ℕ → Prop) : Prop where
  buffered : ∀ seq b, s.sendBuffer.lookup seq = some b → b.acknowledged = true →
    seq < below ∨ selected seq
  queued : ∀ b ∈ s.sendQueue, b.acknowledged = false
  acknowledged : ∀ e ∈ s.acknowledged, e.1 < below ∨ selected e.1

variable {below below' : ℕ} {selected selected' : ℕ → Prop}

theorem Explained.mono (h : s.Explained below selected) (hbelow : below ≤ below')
    (hselected : ∀ seq, selected seq → selected' seq) : s.Explained below' selected' where
  buffered seq b hb hacked :=
    (h.buffered seq b hb hacked).imp (fun hlt => hlt.trans_le hbelow) (hselected seq)
  queued := h.queued
  acknowledged e he :=
    (h.acknowledged e he).imp (fun hlt => hlt.trans_le hbelow) (hselected e.1)

theorem Explained.of_fresh (h : s.Fresh) : s.Explained below selected := by
  rw [h]
  refine ⟨?_, ?_, ?_⟩
  · intro seq b hb
    cases hb
  · intro b hb
    cases hb
  · intro e he
    cases he

theorem Explained.of_same (h : s.Explained below selected) (hsame : SameSender s s') :
    s'.Explained below selected := by
  constructor
  · rw [hsame.sendBuffer]
    exact h.buffered
  · rw [hsame.sendQueue]
    exact h.queued
  · rw [hsame.acknowledged]
    exact h.acknowledged

theorem Explained.sendBuffered (h : s.Explained below selected) {buffered : BufferedPacket}
    (hfresh : buffered.acknowledged = false) :
    (s.sendBuffered lower buffered).1.Explained below selected := by
  rw [sendBuffered_eq]
  split_ifs
  · refine ⟨KeyedMap.forall_insert h.buffered fun hacked => ?_, h.queued, h.acknowledged⟩
    exact absurd (hfresh.symm.trans hacked) Bool.false_ne_true
  · refine ⟨fun seq b hb => ?_, h.queued, h.acknowledged⟩
    exact h.buffered seq b (KeyedMap.lookup_of_lookup_erase hb)

theorem Explained.retransmitPacket (h : s.Explained below selected) (seq : ℕ) :
    (s.retransmitPacket lower seq).Explained below selected := by
  rcases retransmitPacket_cases lower s seq with ⟨hsame, -⟩ | ⟨b, hb, -, hagain⟩
  · rwa [hsame]
  · rw [hagain]
    exact ⟨KeyedMap.forall_insert h.buffered (h.buffered seq b hb), h.queued, h.acknowledged⟩

/-- The effects of a packet mark what it acknowledges only. -/
theorem Explained.effect (h : s.Explained below selected) (hlimit : limit ≤ below)
    (hsacked : ∀ seq, sacked seq → selected seq)
    (heff : SendEffect lower limit sacked s s') : s'.Explained below selected := by
  cases heff with
  | marked marks hmarks =>
      refine ⟨KeyedMap.forall_filterMap h.buffered ?_, h.queued, h.acknowledged⟩
      rintro seq b _ hb ⟨⟩ hmarked
      rcases (Bool.or_eq_true _ _).mp hmarked with hold | hnew
      · exact hb hold
      · exact (hmarks seq hnew).imp (fun hlt => hlt.2.trans_le hlimit) (hsacked seq)
  | advanced => exact ⟨h.buffered, h.queued, h.acknowledged⟩
  | retransmitted seq => exact h.retransmitPacket seq
  | cleaned =>
      refine ⟨KeyedMap.forall_filterMap h.buffered ?_, h.queued, ?_⟩
      · intro seq b b' hb hkept
        split_ifs at hkept
        cases hkept
        exact hb
      · intro e he
        rcases List.mem_append.mp he with hold | hnew
        · exact h.acknowledged e hold
        · obtain ⟨hmem, hacked⟩ := List.mem_filter.mp hnew
          exact h.buffered e.1 e.2 (AList.mem_lookup_iff.mpr hmem) hacked
  | @sent buffered queue hwindow hqueue =>
      have hdequeued : { s with sendQueue := queue }.Explained below selected :=
        ⟨h.buffered, fun b hb => h.queued b (hqueue.mem_iff.mp (List.mem_cons_of_mem _ hb)),
          h.acknowledged⟩
      exact hdequeued.sendBuffered (h.queued buffered (hqueue.mem_iff.mp List.mem_cons_self))

/-! ## The base of the send window -/

theorem SendEffect.sendWindowBase_eq (heff : SendEffect lower 0 sacked s s') :
    s'.sendWindowBase = s.sendWindowBase := by
  cases heff with
  | marked | cleaned => rfl
  | advanced => exact Nat.max_eq_left (Nat.zero_le _)
  | retransmitted seq =>
      rcases retransmitPacket_cases lower s seq with ⟨hsame, -⟩ | ⟨b, -, -, hagain⟩
      · rw [hsame]
      · rw [hagain]
        rfl
  | sent =>
      rw [sendBuffered_eq]
      split_ifs <;> rfl

/-- Only a cumulative acknowledgment moves the base. -/
theorem SendEffects.sendWindowBase_eq (heffects : SendEffects lower 0 sacked s s') :
    s'.sendWindowBase = s.sendWindowBase :=
  heffects.invariant (P := fun t => t.sendWindowBase = s.sendWindowBase) rfl
    fun _ _ hbase heff => heff.sendWindowBase_eq.trans hbase

theorem processSendQueue_sendWindowBase (s : Tpdc) :
    (s.processSendQueue lower).sendWindowBase = s.sendWindowBase := by
  have heffects : SendEffects lower 0 (fun _ => False) s (s.processSendQueue lower) :=
    processSendQueue_effects s
  exact heffects.sendWindowBase_eq

theorem processReceivedAcknowledgment_sendWindowBase (s : Tpdc) (ack : Acknowledgment) :
    (s.processReceivedAcknowledgment lower ack).1.sendWindowBase =
      max s.sendWindowBase (toU32 (ack.ackSequence + 1)) := by
  unfold processReceivedAcknowledgment
  split_ifs with hold
  · exact (Nat.max_eq_left hold.le).symm
  · have hagain : SendEffects lower 0 (fun _ => False) (s.advanceSendWindow ack)
        (ack.nackList.foldl (Tpdc.retransmitPacket lower) (s.advanceSendWindow ack)) :=
      foldl_retransmitPacket_effects _ _
    rw [processSendQueue_sendWindowBase]
    exact hagain.sendWindowBase_eq

theorem handleControlTag_sendWindowBase (s : Tpdc) (tag : SoftUeTpdcControlTag) :
    (s.handleControlTag lower tag).1.sendWindowBase =
      max s.sendWindowBase (toU32 (tag.cumulativeAck + 1)) := by
  unfold handleControlTag
  dsimp only
  split_ifs
  · unfold handleSelectiveAck
    rw [processSendQueue_sendWindowBase]
    exact processReceivedAcknowledgment_sendWindowBase s (acknowledgmentOf tag)
  · exact processReceivedAcknowledgment_sendWindowBase s (acknowledgmentOf tag)

/-! ## What the receiver reports -/

/-- A number that was acknowledged selectively had arrived ahead of the next
expected one, so that no cumulative acknowledgment ever ends just before it. -/
structure ReportsApart (r : Tpdc) : Prop where
  selective : ∀ tag, .control tag ∈ r.transmitted → tag.sackFlag = true →
    1 < tag.selectiveAck ∧
      (tag.selectiveAck ∈ r.receiveBuffer ∨ tag.selectiveAck < r.nextReceiveSequence)
  cumulative : ∀ tag, .control tag ∈ r.transmitted → tag.cumulativeAck < r.nextReceiveSequence
  apart : ∀ tag tag', .control tag ∈ r.transmitted → .control tag' ∈ r.transmitted →
    tag.sackFlag = true → tag.selectiveAck ≠ tag'.cumulativeAck + 1

theorem ReportsApart.of_fresh (h : r.Fresh) : r.ReportsApart := by
  rw [h]
  constructor <;> simp

theorem ReportsApart.of_same (h : r.ReportsApart) (hsame : SameReceiver r r') :
    r'.ReportsApart := by
  constructor
  · intro tag htag hsack
    rw [hsame.receiveBuffer, hsame.nextReceiveSequence]
    exact h.selective tag (hsame.control tag htag) hsack
  · intro tag htag
    rw [hsame.nextReceiveSequence]
    exact h.cumulative tag (hsame.control tag htag)
  · intro tag tag' htag htag'
    exact h.apart tag tag' (hsame.control tag htag) (hsame.control tag' htag')

theorem ReportsApart.acceptNext (h : r.ReportsApart) (hreceived : r.Received)
    (hwindow : r.isInReceiveWindow r.nextReceiveSequence = true) :
    r.acceptNext.ReportsApart := by
  obtain ⟨last, heq, hlt, -, -, -⟩ := hreceived.acceptNext_eq hwindow
  rw [heq]
  refine ⟨?_, fun tag htag => (h.cumulative tag htag).trans hlt, h.apart⟩
  intro tag htag hsack
  obtain ⟨hone, hmem | hold⟩ := h.selective tag htag hsack
  · refine ⟨hone, ?_⟩
    by_cases hlast : last ≤ tag.selectiveAck
    · exact .inl (List.mem_filter.mpr ⟨hmem, decide_eq_true hlast⟩)
    · exact .inr (not_le.mp hlast)
  · exact ⟨hone, .inr (hold.trans hlt)⟩

theorem ReportsApart.acceptAhead (h : r.ReportsApart) {seq : ℕ} (hnew : seq ∉ r.receiveBuffer) :
    (r.acceptAhead seq).ReportsApart := by
  unfold Tpdc.acceptAhead
  rw [if_neg hnew]
  refine ⟨?_, h.cumulative, h.apart⟩
  intro tag htag hsack
  obtain ⟨hone, harrived⟩ := h.selective tag htag hsack
  exact ⟨hone, harrived.imp_left (List.mem_append_left _)⟩

theorem pendingTag_cumulativeAck (hreceived : r.Received) :
    r.pendingTag.cumulativeAck + 1 = r.nextReceiveSequence := by
  have hpositive := hreceived.positive
  unfold pendingTag createAcknowledgment
  dsimp only
  rw [if_pos hpositive]
  omega

/-- The acknowledgment that is sent next is apart from those before it. -/
theorem ReportsApart.report (h : r.ReportsApart) (hreceived : r.Received) :
    (r.ackFired.sendPendingAcknowledgments lower).ReportsApart := by
  have hcumulative := pendingTag_cumulativeAck hreceived
  have hpositive := hreceived.positive
  have hahead : r.pendingTag.sackFlag = true →
      r.pendingTag.selectiveAck ∈ r.receiveBuffer ∧
        r.nextReceiveSequence < r.pendingTag.selectiveAck := fun hsack =>
    ⟨selectiveAck_mem hsack, (hreceived.ahead _ (selectiveAck_mem hsack)).1⟩
  have hold : ∀ tag, .control tag ∈ r.transmitted → tag.sackFlag = true →
      tag.selectiveAck ≠ r.nextReceiveSequence := by
    intro tag htag hsack
    rcases (h.selective tag htag hsack).2 with hmem | hlt
    · exact (hreceived.ahead _ hmem).1.ne'
    · exact hlt.ne
  have hsplit : ∀ tag, .control tag ∈ (r.ackFired.sendPendingAcknowledgments lower).transmitted →
      .control tag ∈ r.transmitted ∨ tag = r.pendingTag := by
    intro tag htag
    rw [sendPendingAcknowledgments_eq] at htag
    unfold sendControlPacket at htag
    dsimp only at htag
    split_ifs at htag
    · rcases List.mem_append.mp htag with hold | hnew
      · exact .inl hold
      · rw [List.mem_singleton, TpdcMessage.control.injEq] at hnew
        exact .inr hnew
    · exact .inl htag
  refine ⟨?_, ?_, ?_⟩
  · intro tag htag hsack
    rcases hsplit tag htag with hmem | rfl
    · exact h.selective tag hmem hsack
    · obtain ⟨hmem, hlt⟩ := hahead hsack
      exact ⟨by omega, .inl hmem⟩
  · intro tag htag
    rcases hsplit tag htag with hmem | rfl
    · exact h.cumulative tag hmem
    · exact Nat.lt_of_succ_le hcumulative.le
  · intro tag tag' htag htag' hsack
    rcases hsplit tag htag with hmem | rfl
    · rcases hsplit tag' htag' with hmem' | rfl
      · exact h.apart tag tag' hmem hmem' hsack
      · rw [hcumulative]
        exact hold tag hmem hsack
    · have hlt := (hahead hsack).2
      rcases hsplit tag' htag' with hmem' | rfl
      · have hbelow := h.cumulative tag' hmem'
        omega
      · omega

theorem reportsApart_step (h : r.ReportsApart) (hreceived : r.Received)
    (hstep : r.tpdcStep a = some r') : r'.ReportsApart := by
  cases tpdcStep_receiveCase hstep with
  | idle hsame => exact h.of_same hsame
  | next hturn haccepted =>
      exact (h.acceptNext hreceived (isInReceiveWindow_of_takesInTurn hturn)).of_same haccepted
  | ahead hlater hwindow hnew haccepted => exact (h.acceptAhead hnew).of_same haccepted
  | reported => exact h.report hreceived

/-! ## A sender and its receiver -/

/-- What a sender and its receiver know of the numbers in use: those that were
acknowledged lie below the base of the window or were acknowledged selectively, the
base is where a cumulative acknowledgment ended, and what was accepted was sent. -/
structure Settles (s r : Tpdc) : Prop where
  numbered : s.Numbered
  explained : s.Explained s.sendWindowBase r.Sacks
  base : s.sendWindowBase = 1 ∨
    ∃ tag, .control tag ∈ r.transmitted ∧ s.sendWindowBase = tag.cumulativeAck + 1
  accepted : ∀ seq ∈ r.accepted, ∃ packet, .data seq packet ∈ s.transmitted
  reports : r.ReportsApart

theorem settles_of_fresh (hs : s.Fresh) (hr : r.Fresh) : s.Settles r := by
  refine ⟨.of_fresh hs, .of_fresh hs, .inl ?_, ?_, .of_fresh hr⟩
  · rw [hs]
  · intro seq hseq
    rw [hr] at hseq
    cases hseq

theorem Settles.sender_step (h : s.Settles r) (hfollows : s.Follows r)
    (harrives : r.arrives a = true) (hstep : s.tpdcStep a = some s') : s'.Settles r := by
  have hkept := transmitted_subset_step hstep
  have haccepted : ∀ seq ∈ r.accepted, ∃ packet, .data seq packet ∈ s'.transmitted := by
    intro seq hseq
    obtain ⟨packet, hdata⟩ := h.accepted seq hseq
    exact ⟨packet, hkept hdata⟩
  have hsame : s'.sendWindowBase = s.sendWindowBase → s'.Explained s.sendWindowBase r.Sacks →
      s'.Settles r := by
    intro hbase hexplained
    refine ⟨numbered_step h.numbered hstep, hbase ▸ hexplained, ?_, haccepted, h.reports⟩
    rw [hbase]
    exact h.base
  cases tpdcStep_sendCase hstep with
  | idle hidle => exact hsame hidle.sendWindowBase (h.explained.of_same hidle)
  | @handled lower tag =>
      have htag : .control tag ∈ r.transmitted := of_decide_eq_true harrives
      have hbelow := (hfollows.control tag htag).1
      have hnext := hfollows.next_le
      have hwrap := hfollows.below
      have hlimit : toU32 (tag.cumulativeAck + 1) = tag.cumulativeAck + 1 :=
        toU32_of_lt (by omega)
      have hbase : (s.handleControlTag lower tag).1.sendWindowBase =
          max s.sendWindowBase (tag.cumulativeAck + 1) := by
        rw [handleControlTag_sendWindowBase, hlimit]
      have heffects : SendEffects lower (toU32 (tag.cumulativeAck + 1)) (sackedBy tag) s
          (s.handleControlTag lower tag).1 := handleControlTag_effects s tag
      rw [hlimit] at heffects
      refine ⟨numbered_step h.numbered hstep, ?_, ?_, haccepted, h.reports⟩
      · rw [hbase]
        refine heffects.invariant
          (P := fun t => t.Explained (max s.sendWindowBase (tag.cumulativeAck + 1)) r.Sacks)
          (h.explained.mono (le_max_left _ _) fun _ hsack => hsack) ?_
        intro t t' hexplained heff
        refine hexplained.effect (le_max_right _ _) ?_ heff
        rintro seq ⟨hsack, -, hselective⟩
        exact ⟨tag, htag, hsack, hselective⟩
      · rw [hbase]
        rcases max_choice s.sendWindowBase (tag.cumulativeAck + 1) with hmax | hmax
        · rw [hmax]
          exact h.base
        · rw [hmax]
          exact .inr ⟨tag, htag, rfl⟩
  | @forced lower =>
      have heffects : SendEffects lower 0 (fun _ => False) s (s.forceRetransmission lower) :=
        forceRetransmission_effects s
      refine hsame heffects.sendWindowBase_eq (heffects.invariant
        (P := fun t => t.Explained s.sendWindowBase r.Sacks) h.explained ?_)
      intro t t' hexplained heff
      exact hexplained.effect (Nat.zero_le _) (fun _ => False.elim) heff
  | queued hclosed =>
      refine hsame rfl ⟨h.explained.buffered, fun b hb => ?_, h.explained.acknowledged⟩
      rcases mem_sendQueue_enqueue hb with rfl | hold
      · rfl
      · exact h.explained.queued b hold
  | @sent lower packet som eom hwindow =>
      refine hsame ?_ (h.explained.sendBuffered rfl)
      rw [sendBuffered_eq]
      split_ifs <;> rfl
  | @timeout lower seq hpending =>
      have hfired : (s.timeoutFired seq).Explained s.sendWindowBase r.Sacks :=
        ⟨KeyedMap.forall_modify h.explained.buffered fun _ hb => hb, h.explained.queued,
          h.explained.acknowledged⟩
      have hretry : SendEffect lower 0 (fun _ => False) (s.timeoutFired seq)
          (s.handleRtoTimeout lower seq) := .retransmitted _ seq
      exact hsame hretry.sendWindowBase_eq (hfired.retransmitPacket seq)

theorem Settles.receiver_step (h : s.Settles r) (hreceived : r.Received)
    (harrives : s.arrives a = true) (hstep : r.tpdcStep a = some r') : s.Settles r' := by
  have hkept := transmitted_subset_step hstep
  refine ⟨h.numbered, ?_, ?_, ?_, reportsApart_step h.reports hreceived hstep⟩
  · refine h.explained.mono le_rfl ?_
    rintro seq ⟨tag, htag, hsack⟩
    exact ⟨tag, hkept htag, hsack⟩
  · rcases h.base with hone | ⟨tag, htag, hbase⟩
    · exact .inl hone
    · exact .inr ⟨tag, hkept htag, hbase⟩
  · intro seq hseq
    rcases TpdcSession.accepted_step hstep hseq with hold | ⟨lower, packet, rfl⟩
    · exact h.accepted seq hold
    · exact ⟨packet, of_decide_eq_true harrives⟩

end Tpdc
end UeSim
