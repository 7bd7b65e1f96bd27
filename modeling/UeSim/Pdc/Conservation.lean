import UeSim.Pdc.TpdcSystem

/-!
# Conservation of packets

Every packet that a context has taken is in its send queue, in its send buffer
or was acknowledged, as long as the lower layer takes every packet that is
handed to it for the first time.

A refusal has two ends.  `SendPacket` reports it to its caller, but the sequence
number is used up, and the receiver waits for it forever.  `ProcessSendQueue`
has taken the packet out of the queue before, so that a packet for which
`SendPacket` had reported success is gone, and it leaves the rest of the queue
behind an open window.
-/

namespace UeSim

/-- A context with what it has taken from its upper layer, and the control tags
that arrived. -/
structure TpdcHistory where
  tpdc : Tpdc := {}
  /-- The packets for which `SendPacket` returned success, oldest first. -/
  submitted : List TpdcPacket := []
  /-- The control tags that arrived, oldest first. -/
  arrived : List SoftUeTpdcControlTag := []

namespace Tpdc

variable {lower : LowerLayer} {limit : ℕ} {sacked : ℕ → Prop} {s s' : Tpdc} {a : TpdcAction}
variable {submitted : List TpdcPacket} {arrived : List SoftUeTpdcControlTag}

/-! ## The packets of a context -/

/-- The packets in the send queue, in the send buffer, and those that left it as
acknowledged. -/
def packets (s : Tpdc) : List TpdcPacket :=
  s.sendQueue.map (·.packet) ++
    ((KeyedMap.values s.sendBuffer).map (·.packet) ++ s.acknowledged.map (·.2.packet))

/-- A control tag that acknowledges a sequence number, cumulatively or selectively. -/
def Covers (tag : SoftUeTpdcControlTag) (seq : ℕ) : Prop :=
  seq ≤ tag.cumulativeAck ∨ tag.sackFlag = true ∧ tag.selectiveAck = seq

/-- A sequence number that was acknowledged by a packet that arrived. -/
def Acknowledged (arrived : List SoftUeTpdcControlTag) (seq : ℕ) : Prop :=
  ∃ tag ∈ arrived, Covers tag seq

/-- A packet of the send buffer lies under its own number, which has been used; if
it is acknowledged, then a packet that arrived says so. -/
def Buffered (s : Tpdc) (arrived : List SoftUeTpdcControlTag) (seq : ℕ) (b : BufferedPacket) :
    Prop :=
  b.sequenceNumber = seq ∧ seq < s.nextSendSequence ∧
    (b.acknowledged = true → Acknowledged arrived seq)

/-- A sequence number whose packet is in the send buffer or has left it as
acknowledged. -/
def Accounted (s : Tpdc) (seq : ℕ) : Prop :=
  (∃ b, s.sendBuffer.lookup seq = some b) ∨ ∃ e ∈ s.acknowledged, e.1 = seq

/-- The packets that were submitted are all kept or acknowledged, and so are the
packets of all sequence numbers in use. -/
structure Keeps (submitted : List TpdcPacket) (arrived : List SoftUeTpdcControlTag) (s : Tpdc) :
    Prop where
  kept : submitted.Perm s.packets
  buffered : ∀ seq b, s.sendBuffer.lookup seq = some b → s.Buffered arrived seq b
  queued : ∀ b ∈ s.sendQueue, b.acknowledged = false
  acknowledged : ∀ e ∈ s.acknowledged, Acknowledged arrived e.1
  contiguous : ∀ seq, s.sendWindowBase ≤ seq → seq < s.nextSendSequence → s.Accounted seq

/-- Whether packets wait although the window is open. -/
def QueueClosed (s : Tpdc) : Prop :=
  s.sendQueue ≠ [] → s.isInSendWindow s.nextSendSequence = false

/-! ## Effects -/

theorem Keeps.of_same (h : Keeps submitted arrived s) (hsame : SameSender s s') :
    Keeps submitted arrived s' := by
  constructor
  · unfold packets
    rw [hsame.sendQueue, hsame.sendBuffer, hsame.acknowledged]
    exact h.kept
  · unfold Buffered
    rw [hsame.sendBuffer, hsame.nextSendSequence]
    exact h.buffered
  · rw [hsame.sendQueue]
    exact h.queued
  · rw [hsame.acknowledged]
    exact h.acknowledged
  · unfold Accounted
    rw [hsame.sendWindowBase, hsame.nextSendSequence, hsame.sendBuffer, hsame.acknowledged]
    exact h.contiguous

/-- A number that is next has no packet yet. -/
theorem Keeps.lookup_next (h : Keeps submitted arrived s) :
    s.sendBuffer.lookup s.nextSendSequence = none := by
  cases hlookup : s.sendBuffer.lookup s.nextSendSequence with
  | none => rfl
  | some b => exact absurd (h.buffered _ b hlookup).2.1 (lt_irrefl _)

/-- The packets of a context whose queue gave one up for its first transmission. -/
theorem packets_sentFirst {buffered : BufferedPacket}
    (hnew : s.sendBuffer.lookup s.nextSendSequence = none) :
    (s.sentFirst buffered).packets.Perm (buffered.packet :: s.packets) := by
  unfold packets sentFirst
  dsimp only
  rw [KeyedMap.values_insert_of_none hnew]
  exact List.perm_middle

theorem packets_rebuffer {seq : ℕ} {b b' : BufferedPacket} (hb : s.sendBuffer.lookup seq = some b)
    (hpacket : b'.packet = b.packet) : (s.rebuffer seq b').packets.Perm s.packets := by
  unfold packets rebuffer
  dsimp only
  rw [KeyedMap.values_insert, List.map_cons, hpacket]
  exact (((KeyedMap.values_perm_of_some hb).map (·.packet)).symm.append_right _).append_left _

theorem packets_cleanupAcknowledgedPackets (s : Tpdc) :
    s.cleanupAcknowledgedPackets.packets.Perm s.packets := by
  have hacked : (s.sendBuffer.entries.filter fun e => e.2.acknowledged).map (·.2.packet) =
      ((KeyedMap.values s.sendBuffer).filter (·.acknowledged)).map (·.packet) := by
    rw [KeyedMap.values, List.filter_map, List.map_map]
    rfl
  have hkept : KeyedMap.values s.cleanupAcknowledgedPackets.sendBuffer =
      (KeyedMap.values s.sendBuffer).filter fun b => !b.acknowledged :=
    KeyedMap.values_filterMap_drop _ _
  have hsplit : ((KeyedMap.values s.sendBuffer).filter (·.acknowledged) ++
      (KeyedMap.values s.sendBuffer).filter fun b => !b.acknowledged).Perm
        (KeyedMap.values s.sendBuffer) := by
    simpa using List.filter_append_perm (·.acknowledged) (KeyedMap.values s.sendBuffer)
  unfold packets
  rw [hkept]
  unfold cleanupAcknowledgedPackets
  dsimp only
  rw [List.map_append, hacked]
  refine List.Perm.append_left _ ?_
  rw [← List.append_assoc]
  refine List.perm_append_comm.trans ?_
  rw [← List.append_assoc, ← List.map_append]
  exact (hsplit.map _).append_right _

/-- A number that was accounted for still is, when its packet has only changed or
has left the buffer as acknowledged. -/
theorem Accounted.of_subset {seq : ℕ} (h : s.Accounted seq)
    (hbuffer : ∀ b, s.sendBuffer.lookup seq = some b →
      s'.Accounted seq)
    (hacknowledged : ∀ e ∈ s.acknowledged, e ∈ s'.acknowledged) : s'.Accounted seq := by
  rcases h with ⟨b, hb⟩ | ⟨e, he, hseq⟩
  · exact hbuffer b hb
  · exact .inr ⟨e, hacknowledged e he, hseq⟩

/-- A number in use stays accounted for under every effect of a handler. -/
theorem Accounted.effect {seq : ℕ} (h : s.Accounted seq) (hused : seq < s.nextSendSequence)
    (heff : SendEffect lower limit sacked s s') : s'.Accounted seq := by
  cases heff with
  | marked marks hmarks =>
      refine h.of_subset (fun b hb => .inl
        ⟨{ b with acknowledged := b.acknowledged || marks seq }, ?_⟩) fun _ he => he
      unfold markAcknowledged
      rw [KeyedMap.lookup_filterMap, hb]
      rfl
  | advanced => exact h
  | retransmitted seq' =>
      rcases retransmitPacket_cases lower s seq' with ⟨hsame, -⟩ | ⟨buffered, -, -, hagain⟩
      · rwa [hsame]
      · rw [hagain]
        refine h.of_subset (fun b hb => .inl ?_) fun _ he => he
        by_cases hseq : seq = seq'
        · subst hseq
          exact ⟨_, AList.lookup_insert _⟩
        · exact ⟨b, (AList.lookup_insert_ne hseq).trans hb⟩
  | cleaned =>
      refine h.of_subset (fun b hb => ?_) fun _ he => List.mem_append_left _ he
      cases hacked : b.acknowledged with
      | true =>
          refine .inr ⟨⟨seq, b⟩, List.mem_append_right _ (List.mem_filter.mpr ⟨?_, hacked⟩), rfl⟩
          exact AList.mem_lookup_iff.mp hb
      | false =>
          refine .inl ⟨b, ?_⟩
          unfold cleanupAcknowledgedPackets
          rw [KeyedMap.lookup_filterMap, hb]
          simp [hacked]
  | @sent buffered queue hwindow hqueue =>
      have hne : seq ≠ s.nextSendSequence := hused.ne
      rw [sendBuffered_eq]
      split_ifs
      · refine h.of_subset (fun b hb => .inl ⟨b, ?_⟩) fun _ he => he
        exact (AList.lookup_insert_ne hne).trans hb
      · refine h.of_subset (fun b hb => .inl ⟨b, ?_⟩) fun _ he => he
        exact (AList.lookup_erase_ne hne).trans hb

/-- A first transmission that is taken gives the packet the next number. -/
theorem Keeps.sentFirst (h : Keeps submitted arrived s)
    (hwindow : s.isInSendWindow s.nextSendSequence = true) (buffered : BufferedPacket)
    (hfresh : buffered.acknowledged = false) :
    Keeps (submitted ++ [buffered.packet]) arrived (s.sentFirst buffered) := by
  have hnext : toU32 (s.nextSendSequence + 1) = s.nextSendSequence + 1 :=
    toU32_of_lt (lt_of_isInSendWindow hwindow).2
  constructor
  case kept =>
    refine List.perm_append_singleton _ _ |>.trans ?_
    exact (h.kept.cons _).trans (packets_sentFirst h.lookup_next).symm
  case buffered =>
    unfold Buffered Tpdc.sentFirst
    rw [hnext]
    refine KeyedMap.forall_insert ?_ ⟨rfl, Nat.lt_succ_self _, ?_⟩
    · intro seq b hb
      obtain ⟨hnumber, hlt, hacked⟩ := h.buffered seq b hb
      exact ⟨hnumber, Nat.lt_succ_of_lt hlt, hacked⟩
    · intro hacked
      exact absurd (hfresh.symm.trans hacked) Bool.false_ne_true
  case queued => exact h.queued
  case acknowledged => exact h.acknowledged
  case contiguous =>
    unfold Tpdc.sentFirst
    rw [hnext]
    intro seq hbase hlt
    by_cases hseq : seq = s.nextSendSequence
    · subst hseq
      exact .inl ⟨_, AList.lookup_insert _⟩
    · have hold : s.Accounted seq :=
        h.contiguous seq hbase (by dsimp only at hlt; omega)
      refine hold.of_subset (fun b hb => .inl ⟨b, ?_⟩) fun _ he => he
      exact (AList.lookup_insert_ne hseq).trans hb

theorem Keeps.of_perm (h : Keeps submitted arrived s) {submitted' : List TpdcPacket}
    (hperm : submitted'.Perm submitted) : Keeps submitted' arrived s :=
  ⟨hperm.trans h.kept, h.buffered, h.queued, h.acknowledged, h.contiguous⟩

/-- The context under another send queue keeps what it then holds. -/
theorem Keeps.of_queue (h : Keeps submitted arrived s) {queue : List BufferedPacket}
    (hqueue : ∀ b ∈ queue, b.acknowledged = false) :
    Keeps (packets { s with sendQueue := queue }) arrived { s with sendQueue := queue } :=
  ⟨.refl _, h.buffered, hqueue, h.acknowledged, h.contiguous⟩

/-- A packet that is taken out of the queue and then taken by the lower layer. -/
theorem Keeps.dequeued (h : Keeps submitted arrived s)
    (hwindow : s.isInSendWindow s.nextSendSequence = true) {buffered : BufferedPacket}
    {queue : List BufferedPacket} (hqueue : (buffered :: queue).Perm s.sendQueue) :
    Keeps submitted arrived ({ s with sendQueue := queue }.sentFirst buffered) := by
  have hrest : ∀ b ∈ queue, b.acknowledged = false :=
    fun b hb => h.queued b (hqueue.mem_iff.mp (List.mem_cons_of_mem _ hb))
  have hsent := (h.of_queue hrest).sentFirst hwindow buffered
    (h.queued buffered (hqueue.mem_iff.mp List.mem_cons_self))
  refine hsent.of_perm (h.kept.trans (List.Perm.trans ?_ (List.perm_append_singleton _ _).symm))
  exact ((hqueue.map (·.packet)).symm.append_right _)

/-- The packet of a number is replaced by itself under other marks. -/
theorem Keeps.rebuffer (h : Keeps submitted arrived s) {seq : ℕ} {b b' : BufferedPacket}
    (hb : s.sendBuffer.lookup seq = some b) (hpacket : b'.packet = b.packet)
    (hb' : s.Buffered arrived seq b') : Keeps submitted arrived (s.rebuffer seq b') := by
  refine ⟨h.kept.trans (packets_rebuffer hb hpacket).symm,
    KeyedMap.forall_insert h.buffered hb', h.queued, h.acknowledged, ?_⟩
  intro seq' hbase hlt
  refine (h.contiguous seq' hbase hlt).of_subset (fun b₀ hb₀ => .inl ?_) fun _ he => he
  by_cases hseq : seq' = seq
  · subst hseq
    exact ⟨_, AList.lookup_insert _⟩
  · exact ⟨b₀, (AList.lookup_insert_ne hseq).trans hb₀⟩

theorem Keeps.retransmitPacket (h : Keeps submitted arrived s) (seq : ℕ) :
    Keeps submitted arrived (s.retransmitPacket lower seq) := by
  rcases retransmitPacket_cases lower s seq with ⟨hsame, -⟩ | ⟨b, hb, -, hsent⟩
  · rw [hsame]
    exact h
  · have hretried : Keeps submitted arrived (s.rebuffer seq (retried lower b)) :=
      h.rebuffer hb rfl (h.buffered seq b hb)
    rw [hsent]
    exact ⟨hretried.kept, hretried.buffered, hretried.queued, hretried.acknowledged,
      hretried.contiguous⟩

theorem Keeps.timeoutFired (h : Keeps submitted arrived s) {seq : ℕ}
    (hpending : s.timeoutPendingFor seq = true) : Keeps submitted arrived (s.timeoutFired seq) := by
  unfold timeoutPendingFor at hpending
  cases hb : s.sendBuffer.lookup seq with
  | none =>
      rw [hb] at hpending
      cases hpending
  | some b =>
      have hfired : s.timeoutFired seq = s.rebuffer seq { b with timeoutPending := false } := by
        rw [Tpdc.timeoutFired, KeyedMap.modify_of_some hb]
        rfl
      rw [hfired]
      exact h.rebuffer hb rfl (h.buffered seq b hb)

theorem Keeps.enqueue (h : Keeps submitted arrived s) (buffered : BufferedPacket)
    (hfresh : buffered.acknowledged = false) :
    Keeps (submitted ++ [buffered.packet]) arrived (s.enqueue buffered) := by
  have hqueue : (s.enqueue buffered).sendQueue.Perm (buffered :: s.sendQueue) := by
    unfold Tpdc.enqueue
    dsimp only
    split_ifs
    · exact .refl _
    · exact List.perm_append_singleton _ _
  refine ⟨?_, h.buffered, ?_, h.acknowledged, h.contiguous⟩
  · refine (List.perm_append_singleton _ _).trans ((h.kept.cons _).trans ?_)
    exact ((hqueue.map (·.packet)).append_right _).symm
  · intro b hb
    rcases List.mem_cons.mp (hqueue.mem_iff.mp hb) with rfl | hold
    · exact hfresh
    · exact h.queued b hold

/-- The effects of a handler keep every packet, unless a first transmission is
refused. -/
theorem Keeps.effect (h : Keeps submitted arrived s)
    (hcovers : ∀ seq, seq < limit ∨ sacked seq → Acknowledged arrived seq)
    (heff : SendEffect lower limit sacked s s') (hrefused : s'.refused = []) :
    Keeps submitted arrived s' := by
  cases heff with
  | marked marks hmarks =>
      constructor
      case kept =>
        have hvalues : (KeyedMap.values (s.markAcknowledged marks).sendBuffer).map (·.packet) =
            (KeyedMap.values s.sendBuffer).map (·.packet) :=
          KeyedMap.map_values_filterMap (by intro _ _; rfl) _
        unfold packets
        rw [hvalues]
        exact h.kept
      case buffered =>
        refine KeyedMap.forall_filterMap h.buffered ?_
        rintro seq b _ ⟨hnumber, hlt, hacked⟩ ⟨⟩
        refine ⟨hnumber, hlt, fun hmarked => ?_⟩
        rcases (Bool.or_eq_true _ _).mp hmarked with hold | hnew
        · exact hacked hold
        · exact hcovers seq ((hmarks seq hnew).imp_left And.right)
      case queued => exact h.queued
      case acknowledged => exact h.acknowledged
      case contiguous =>
        intro seq hbase hlt
        have heff : SendEffect lower limit sacked s (s.markAcknowledged marks) :=
          .marked s marks hmarks
        exact (h.contiguous seq hbase hlt).effect hlt heff
  | advanced =>
      refine ⟨h.kept, h.buffered, h.queued, h.acknowledged, ?_⟩
      intro seq hbase hlt
      exact h.contiguous seq ((le_max_left _ _).trans hbase) hlt
  | retransmitted seq => exact h.retransmitPacket seq
  | cleaned =>
      constructor
      case kept => exact h.kept.trans (packets_cleanupAcknowledgedPackets s).symm
      case buffered =>
        refine KeyedMap.forall_filterMap h.buffered ?_
        intro seq b b' hb hb'
        split_ifs at hb'
        cases hb'
        exact hb
      case queued => exact h.queued
      case acknowledged =>
        intro e he
        rcases List.mem_append.mp he with hold | hnew
        · exact h.acknowledged e hold
        · obtain ⟨hmem, hacked⟩ := List.mem_filter.mp hnew
          exact (h.buffered e.1 e.2 (AList.mem_lookup_iff.mpr hmem)).2.2 hacked
      case contiguous =>
        intro seq hbase hlt
        have heff : SendEffect lower limit sacked s s.cleanupAcknowledgedPackets := .cleaned s
        exact (h.contiguous seq hbase hlt).effect hlt heff
  | @sent buffered queue hwindow hqueue =>
      rw [sendBuffered_eq] at hrefused ⊢
      split_ifs at hrefused ⊢
      · exact h.dequeued hwindow hqueue
      · exact absurd hrefused (List.append_ne_nil_of_right_ne_nil _ (List.cons_ne_nil _ _))

/-- No effect takes a refusal back. -/
theorem SendEffect.refused_nil (heff : SendEffect lower limit sacked s s')
    (hrefused : s'.refused = []) : s.refused = [] := by
  cases heff with
  | marked | advanced | cleaned => exact hrefused
  | retransmitted seq =>
      rcases retransmitPacket_cases lower s seq with ⟨hsame, -⟩ | ⟨b, -, -, hsent⟩
      · rwa [hsame] at hrefused
      · rwa [hsent] at hrefused
  | @sent buffered queue hwindow hqueue =>
      rw [sendBuffered_eq] at hrefused
      split_ifs at hrefused
      · exact hrefused
      · exact (List.append_eq_nil_iff.mp hrefused).1

theorem SendEffects.refused_nil (heffects : SendEffects lower limit sacked s s')
    (hrefused : s'.refused = []) : s.refused = [] := by
  induction heffects with
  | refl => exact hrefused
  | tail _ heff ih => exact ih (heff.refused_nil hrefused)

theorem Keeps.effects (h : Keeps submitted arrived s)
    (hcovers : ∀ seq, seq < limit ∨ sacked seq → Acknowledged arrived seq)
    (heffects : SendEffects lower limit sacked s s') (hrefused : s'.refused = []) :
    Keeps submitted arrived s' := by
  induction heffects with
  | refl => exact h
  | tail _ heff ih => exact (ih (heff.refused_nil hrefused)).effect hcovers heff hrefused

/-- What a control tag acknowledges is acknowledged once it has arrived. -/
theorem acknowledged_of_tag {tag : SoftUeTpdcControlTag} (htag : tag ∈ arrived) {seq : ℕ}
    (h : seq < toU32 (tag.cumulativeAck + 1) ∨ sackedBy tag seq) : Acknowledged arrived seq := by
  rcases h with hlt | ⟨hsack, -, hseq⟩
  · exact ⟨tag, htag, .inl (Nat.le_of_lt_succ (lt_of_lt_of_le hlt (Nat.mod_le _ _)))⟩
  · exact ⟨tag, htag, .inr ⟨hsack, hseq⟩⟩

theorem Keeps.mono_arrived (h : Keeps submitted arrived s) (more : List SoftUeTpdcControlTag) :
    Keeps submitted (arrived ++ more) s := by
  have hmono : ∀ seq, Acknowledged arrived seq → Acknowledged (arrived ++ more) seq := by
    rintro seq ⟨tag, htag, hcovers⟩
    exact ⟨tag, List.mem_append_left _ htag, hcovers⟩
  refine ⟨h.kept, ?_, h.queued, fun e he => hmono _ (h.acknowledged e he), h.contiguous⟩
  intro seq b hb
  obtain ⟨hnumber, hlt, hacked⟩ := h.buffered seq b hb
  exact ⟨hnumber, hlt, fun hmarked => hmono seq (hacked hmarked)⟩

/-! ## The queue -/

/-- There is a packet to take next as long as the queue is not empty. -/
theorem selectedIndex_lt (hne : s.sendQueue ≠ []) : s.selectedIndex < s.sendQueue.length := by
  have hpos : 0 < s.sendQueue.length := List.length_pos_iff.mpr hne
  unfold selectedIndex
  split_ifs
  · cases hfound : s.sendQueue.findIdx? fun buffered => buffered.packet.isReadResponse with
    | none => exact hpos
    | some index => exact (List.findIdx?_eq_some_iff_findIdx_eq.mp hfound).1
  · exact hpos

/-- The queue of a context whose window closes after it was drained. -/
theorem queueClosed_drainSendQueue {fuel : ℕ} {s : Tpdc} (hfuel : s.sendQueue.length ≤ fuel)
    (hrefused : (drainSendQueue lower fuel s).refused = []) :
    (drainSendQueue lower fuel s).QueueClosed := by
  induction fuel generalizing s with
  | zero =>
      intro hne
      exact absurd (List.length_eq_zero_iff.mp (Nat.le_zero.mp hfuel)) hne
  | succ fuel ih =>
      unfold drainSendQueue at hrefused ⊢
      split_ifs at hrefused ⊢ with hclosed
      · rw [Bool.not_eq_true'] at hclosed
        exact fun _ => hclosed
      · cases hselected : s.sendQueue[s.selectedIndex]? with
        | none =>
            intro hne
            rw [List.getElem?_eq_getElem (selectedIndex_lt hne)] at hselected
            cases hselected
        | some buffered =>
            have hlt := (List.getElem?_eq_some_iff.mp hselected).1
            rw [hselected] at hrefused
            dsimp only at hrefused ⊢
            rw [sendBuffered_eq] at hrefused ⊢
            cases htransmits : lower.transmitsData (numbered
                { s with sendQueue := s.sendQueue.eraseIdx s.selectedIndex } buffered) with
            | true =>
                rw [htransmits] at hrefused
                rw [if_pos rfl] at hrefused ⊢
                refine ih ?_ hrefused
                change (s.sendQueue.eraseIdx s.selectedIndex).length ≤ fuel
                rw [List.length_eraseIdx_of_lt hlt]
                omega
            | false =>
                rw [htransmits] at hrefused
                exact absurd hrefused
                  (List.append_ne_nil_of_right_ne_nil _ (List.cons_ne_nil _ _))

theorem queueClosed_processSendQueue (hrefused : (s.processSendQueue lower).refused = []) :
    (s.processSendQueue lower).QueueClosed :=
  queueClosed_drainSendQueue le_rfl hrefused

theorem QueueClosed.of_same (h : s.QueueClosed) (hsame : SameSender s s') : s'.QueueClosed := by
  unfold QueueClosed isInSendWindow
  rw [hsame.sendQueue, hsame.sendWindowBase, hsame.nextSendSequence, hsame.config]
  exact h

theorem QueueClosed.retransmitPacket (h : s.QueueClosed) (seq : ℕ) :
    (s.retransmitPacket lower seq).QueueClosed := by
  rcases retransmitPacket_cases lower s seq with ⟨hsame, -⟩ | ⟨b, -, -, hsent⟩
  · rwa [hsame]
  · rw [hsent]
    exact h

theorem QueueClosed.forceRetransmission (h : s.QueueClosed) :
    (s.forceRetransmission lower).QueueClosed := by
  unfold Tpdc.forceRetransmission
  induction s.sendBuffer.keys generalizing s with
  | nil => exact h
  | cons seq seqs ih => exact ih (h.retransmitPacket seq)

theorem QueueClosed.processReceivedAcknowledgment (h : s.QueueClosed) (ack : Acknowledgment)
    (hrefused : (s.processReceivedAcknowledgment lower ack).1.refused = []) :
    (s.processReceivedAcknowledgment lower ack).1.QueueClosed := by
  unfold Tpdc.processReceivedAcknowledgment at hrefused ⊢
  split_ifs at hrefused ⊢
  · exact h
  · exact queueClosed_processSendQueue hrefused

theorem QueueClosed.handleControlTag (h : s.QueueClosed) (tag : SoftUeTpdcControlTag)
    (hrefused : (s.handleControlTag lower tag).1.refused = []) :
    (s.handleControlTag lower tag).1.QueueClosed := by
  unfold Tpdc.handleControlTag at hrefused ⊢
  dsimp only at hrefused ⊢
  split_ifs at hrefused ⊢
  · exact queueClosed_processSendQueue hrefused
  · exact h.processReceivedAcknowledgment _ hrefused

end Tpdc

/-! ## Runs -/

namespace TpdcHistory

/-- The packet that an action submits, if `SendPacket` returns success. -/
def submissionOf (s : Tpdc) : TpdcAction → List TpdcPacket
  | .sendPacket lower (some packet) som eom =>
      if (s.sendPacket lower (some packet) som eom).2 then [packet] else []
  | _ => []

/-- The control tag that an action brings. -/
def tagOf : TpdcAction → List SoftUeTpdcControlTag
  | .receivePacket _ (.control tag) => [tag]
  | _ => []

/-- One action of a context, with its history. -/
def historyStep (h : TpdcHistory) (a : TpdcAction) : Option TpdcHistory :=
  (h.tpdc.tpdcStep a).map fun tpdc =>
    { tpdc := tpdc
      submitted := h.submitted ++ submissionOf h.tpdc a
      arrived := h.arrived ++ tagOf a }

/-- The transition system of a context with its history. -/
def historySystem : TransitionSystem TpdcHistory TpdcAction where
  init h := h.tpdc.Fresh ∧ h = { tpdc := h.tpdc }
  step := historyStep

/-- No packet is lost: every packet for which `SendPacket` returned success is in
the send queue, in the send buffer under its own number, or was acknowledged; so is
the packet of every number from the base of the window on; and packets wait only
behind a closed window. -/
structure Conserves (h : TpdcHistory) : Prop where
  kept : h.submitted.Perm h.tpdc.packets
  numbered : ∀ seq b, h.tpdc.sendBuffer.lookup seq = some b → b.sequenceNumber = seq
  acknowledged : ∀ e ∈ h.tpdc.acknowledged, Tpdc.Acknowledged h.arrived e.1
  contiguous : ∀ seq, h.tpdc.sendWindowBase ≤ seq → seq < h.tpdc.nextSendSequence →
    h.tpdc.Accounted seq
  closed : h.tpdc.QueueClosed

variable {h h' : TpdcHistory} {a : TpdcAction}

/-- The invariant of a history: nothing is lost until a first transmission is
refused. -/
def Intact (h : TpdcHistory) : Prop :=
  h.tpdc.refused = [] → Tpdc.Keeps h.submitted h.arrived h.tpdc ∧ h.tpdc.QueueClosed

theorem Intact.conserves (hintact : h.Intact) (hrefused : h.tpdc.refused = []) : h.Conserves := by
  obtain ⟨hkeeps, hclosed⟩ := hintact hrefused
  exact ⟨hkeeps.kept, fun seq b hb => (hkeeps.buffered seq b hb).1, hkeeps.acknowledged,
    hkeeps.contiguous, hclosed⟩

theorem intact_of_fresh {s : Tpdc} (hfresh : s.Fresh) : Intact { tpdc := s } := by
  rw [hfresh]
  refine fun _ => ⟨⟨.refl _, ?_, ?_, ?_, ?_⟩, fun hne => absurd rfl hne⟩
  · intro seq b hb
    cases hb
  · intro b hb
    cases hb
  · intro e he
    cases he
  · intro seq hbase hlt
    exact absurd hbase (not_le.mpr hlt)

/-- A submission. -/
theorem Intact.sendPacket (hintact : h.Intact) (lower : LowerLayer) (packet : Option TpdcPacket)
    (som eom : Bool) :
    Intact
      { tpdc := (h.tpdc.sendPacket lower packet som eom).1
        submitted := h.submitted ++ submissionOf h.tpdc (.sendPacket lower packet som eom)
        arrived := h.arrived } := by
  rcases Tpdc.sendPacket_cases lower h.tpdc packet som eom with
    hnone | ⟨p, rfl, ⟨hclosed, hqueued⟩ | ⟨hopen, hsent⟩⟩
  · have hsubmission : submissionOf h.tpdc (.sendPacket lower packet som eom) = [] := by
      cases packet with
      | none => rfl
      | some p =>
          rw [submissionOf, hnone]
          rfl
    rw [hsubmission, hnone, List.append_nil]
    exact hintact
  · rw [submissionOf, hqueued]
    intro hrefused
    have hkeeps := (hintact hrefused).1.enqueue { packet := p, som := som, eom := eom } rfl
    exact ⟨hkeeps, fun _ => hclosed⟩
  · rw [submissionOf, hsent, Tpdc.sendBuffered_eq]
    cases lower.transmitsData (h.tpdc.numbered { packet := p, som := som, eom := eom }) with
    | true =>
        intro hrefused
        obtain ⟨hkeeps, hqueue⟩ := hintact hrefused
        have hkept := hkeeps.sentFirst hopen { packet := p, som := som, eom := eom } rfl
        refine ⟨hkept, fun hne => ?_⟩
        exact absurd (hqueue hne) (by simp [hopen])
    | false =>
        intro hrefused
        exact absurd hrefused (List.append_ne_nil_of_right_ne_nil _ (List.cons_ne_nil _ _))

theorem submissionOf_eq_nil (s : Tpdc)
    (hnone : ∀ lower packet som eom, a ≠ .sendPacket lower packet som eom) :
    submissionOf s a = [] := by
  cases a with
  | sendPacket => exact absurd rfl (hnone _ _ _ _)
  | receivePacket | rtoTimeout | ackEvent | forceRetransmission | setActive => rfl

/-- An action that submits nothing. -/
theorem intact_tpdcStep {s s' : Tpdc} {submitted : List TpdcPacket}
    {arrived : List SoftUeTpdcControlTag} (hintact : Intact ⟨s, submitted, arrived⟩)
    (hstep : s.tpdcStep a = some s')
    (hnone : ∀ lower packet som eom, a ≠ .sendPacket lower packet som eom) :
    Intact ⟨s', submitted ++ submissionOf s a, arrived ++ tagOf a⟩ := by
  rw [submissionOf_eq_nil s hnone, List.append_nil]
  intro hrefused
  cases Tpdc.tpdcStep_sendCase hstep with
  | idle hsame =>
      obtain ⟨hkeeps, hqueue⟩ := hintact (hsame.refused ▸ hrefused)
      exact ⟨(hkeeps.of_same hsame).mono_arrived _, hqueue.of_same hsame⟩
  | @handled lower tag =>
      have heffects : Tpdc.SendEffects lower _ _ s (s.handleControlTag lower tag).1 :=
        Tpdc.handleControlTag_effects s tag
      obtain ⟨hkeeps, hqueue⟩ := hintact (Tpdc.SendEffects.refused_nil heffects hrefused)
      have hcovers : ∀ seq, seq < toU32 (tag.cumulativeAck + 1) ∨ Tpdc.sackedBy tag seq →
          Tpdc.Acknowledged (arrived ++ [tag]) seq :=
        fun seq => Tpdc.acknowledged_of_tag (List.mem_append_right _ (List.mem_singleton_self _))
      exact ⟨(hkeeps.mono_arrived [tag]).effects hcovers heffects hrefused,
        hqueue.handleControlTag tag hrefused⟩
  | @forced lower =>
      have heffects : Tpdc.SendEffects lower 0 (fun _ => False) s (s.forceRetransmission lower) :=
        Tpdc.forceRetransmission_effects s
      obtain ⟨hkeeps, hqueue⟩ := hintact (Tpdc.SendEffects.refused_nil heffects hrefused)
      have hkept := hkeeps.effects (by simp) heffects hrefused
      exact ⟨hkept.mono_arrived _, hqueue.forceRetransmission⟩
  | queued | sent => exact absurd rfl (hnone _ _ _ _)
  | @timeout lower seq hpending =>
      have hretry : Tpdc.SendEffect lower 0 (fun _ => False) (s.timeoutFired seq)
          (s.handleRtoTimeout lower seq) := .retransmitted _ seq
      obtain ⟨hkeeps, hqueue⟩ := hintact (hretry.refused_nil hrefused)
      have hfired : (s.timeoutFired seq).QueueClosed := hqueue
      exact ⟨((hkeeps.timeoutFired hpending).retransmitPacket seq).mono_arrived _,
        hfired.retransmitPacket seq⟩

theorem intact_step (hintact : h.Intact) (hstep : h.historyStep a = some h') : h'.Intact := by
  obtain ⟨s', htpdc, rfl⟩ := Option.map_eq_some_iff.mp hstep
  cases a with
  | sendPacket lower packet som eom =>
      cases htpdc
      have hnone : tagOf (.sendPacket lower packet som eom) = [] := rfl
      rw [hnone, List.append_nil]
      exact hintact.sendPacket lower packet som eom
  | receivePacket | rtoTimeout | ackEvent | forceRetransmission | setActive =>
      refine intact_tpdcStep hintact htpdc ?_
      intro _ _ _ _ h
      cases h

/-- A run in which the lower layer refuses no first transmission loses nothing. -/
theorem conserves_of_refused_nil {h : TpdcHistory} (hreach : historySystem.Reachable h)
    (hrefused : h.tpdc.refused = []) : h.Conserves := by
  have hintact : h.Intact := by
    refine hreach.invariant ?_ fun h a h' hintact _ hstep => intact_step hintact hstep
    rintro h ⟨hfresh, hh⟩
    rw [hh]
    exact intact_of_fresh hfresh
  exact hintact.conserves hrefused

/-- A packet is submitted over a window of one packet. -/
def submissionBehind (byte : UInt8) : TpdcAction :=
  .sendPacket .willing (some { bytes := [byte] }) true true

/-- A packet is sent, a second one waits for it, and the acknowledgment of the first
arrives while the lower layer answers as given. -/
def sampleDrain (lower : LowerLayer) : List TpdcAction :=
  [submissionBehind 0, submissionBehind 1,
    .receivePacket lower (.control { ackFlag := true, cumulativeAck := 1 })]

/-- A context with a send window of one packet. -/
def narrowHistory : TpdcHistory := { tpdc := { config := { sendWindowSize := 1 } } }

theorem narrowHistory_init : historySystem.init narrowHistory := ⟨rfl, rfl⟩

theorem conserves_of_refused_nil_sample :
    ∃ h, historySystem.runActions narrowHistory (sampleDrain .willing) = some h ∧
      h.tpdc.acknowledged.length = 1 ∧ h.Conserves := by
  obtain ⟨h, hrun⟩ : ∃ h, historySystem.runActions narrowHistory (sampleDrain .willing) =
      some h := ⟨_, rfl⟩
  have hreach : historySystem.Reachable h :=
    TransitionSystem.ReachableBy.runActions (.init narrowHistory_init) (fun _ _ _ => trivial) hrun
  have hrefused : h.tpdc.refused = [] := by
    cases hrun
    rfl
  refine ⟨h, hrun, ?_, conserves_of_refused_nil hreach hrefused⟩
  cases hrun
  rfl

/-- A packet that waits in the queue is lost when the lower layer refuses it. -/
theorem queued_packet_lost :
    ∃ h, historySystem.Reachable h ∧
      historySystem.runActions narrowHistory (sampleDrain .refusing) = some h ∧
      h.submitted.length = 2 ∧ h.tpdc.packets.length = 1 ∧ ¬ h.Conserves := by
  obtain ⟨h, hrun⟩ : ∃ h, historySystem.runActions narrowHistory (sampleDrain .refusing) =
      some h := ⟨_, rfl⟩
  have hreach : historySystem.Reachable h :=
    TransitionSystem.ReachableBy.runActions (.init narrowHistory_init) (fun _ _ _ => trivial) hrun
  have hsubmitted : h.submitted.length = 2 := by
    cases hrun
    rfl
  have hpackets : h.tpdc.packets.length = 1 := by
    cases hrun
    rfl
  refine ⟨h, hreach, hrun, hsubmitted, hpackets, fun hconserves => ?_⟩
  have hlength := hconserves.kept.length_eq
  omega

end TpdcHistory
end UeSim
