import UeSim.Pdc.NumberAccounts

/-!
# The end of the sequence numbers

A window is a range of numbers from its base to its base plus its size, and the
end is computed in `uint32_t`.  Where the sum wraps around, the range is empty: a
sender whose packets have all been acknowledged then has a closed window, and a
receiver refuses the packet that it waits for.

On an idle connection the base of the send window, the next number of the sender
and the next expected number of the receiver are the same, unless a number was
used up by a first transmission that was refused.
-/

namespace UeSim

/-- The window sizes are `uint16_t` fields. -/
structure TpdcConfig.WindowsFit (config : TpdcConfig) : Prop where
  send : config.sendWindowSize < 2 ^ 16
  receive : config.receiveWindowSize < 2 ^ 16

namespace Tpdc

variable {s r : Tpdc}

/-! ## Idle connections -/

/-- Every packet that was handed to the channel has been acknowledged. -/
def AllAcknowledged (s : Tpdc) : Prop :=
  ∀ seq packet, .data seq packet ∈ s.transmitted → ∃ e ∈ s.acknowledged, e.1 = seq

/-- A first transmission hands a packet with the number to the channel; there is
none unless the next number is in the send window. -/
def TransmitsFresh (s : Tpdc) (seq : ℕ) : Prop :=
  s.isInSendWindow s.nextSendSequence = true ∧
    ∃ lower buffered packet,
      (s.sendBuffered lower buffered).1.transmitted = s.transmitted ++ [.data seq packet]

/-- The receiver accepts a packet with the number as the next one in order. -/
def AcceptsNext (r : Tpdc) (seq : ℕ) : Prop :=
  seq = r.nextReceiveSequence ∧
    (r.bufferPacketForReceiving seq).1.accepted = r.accepted ++ [seq]

/-- On an idle connection the next number is in the send window, and the receiver
accepts a fresh packet as the next one in order. -/
structure SurvivesWrap (s r : Tpdc) : Prop where
  window : s.AllAcknowledged → s.isInSendWindow s.nextSendSequence = true
  fresh : s.AllAcknowledged → ∀ seq, s.TransmitsFresh seq → r.AcceptsNext seq

/-- There is room for both windows below the wrap of the sequence numbers, and no
refused transmission has used up a number from the base of the send window on. -/
structure RoomBeforeWrap (s r : Tpdc) : Prop where
  refused : ∀ seq ∈ s.refused, seq < s.sendWindowBase
  sendSize : 0 < s.config.sendWindowSize
  send : s.nextSendSequence + s.config.sendWindowSize < 2 ^ 32
  receiveSize : 0 < r.config.receiveWindowSize
  receive : s.nextSendSequence + r.config.receiveWindowSize < 2 ^ 32

/-! ## The idle connection -/

/-- Without a refused number in the window, all packets of an idle connection are
below the base, which is also what the receiver expects next. -/
theorem Settles.idle_eq (h : s.Settles r) (hfollows : s.Follows r) (hidle : s.AllAcknowledged)
    (hrefused : ∀ seq ∈ s.refused, seq < s.sendWindowBase) :
    s.sendWindowBase = s.nextSendSequence ∧ r.nextReceiveSequence = s.nextSendSequence := by
  have hbase := hfollows.base_le
  have hnext := hfollows.next_le
  have hle : s.nextSendSequence ≤ s.sendWindowBase := by
    by_contra hlt
    have hacked : ∃ e ∈ s.acknowledged, e.1 = s.sendWindowBase := by
      rcases h.numbered.used s.sendWindowBase hfollows.positive (not_le.mp hlt) with
        (⟨b, hb⟩ | hacked) | hmem
      · obtain ⟨-, packet, hdata⟩ := h.numbered.buffered _ b hb
        exact hidle _ packet hdata
      · exact hacked
      · exact absurd (hrefused _ hmem) (lt_irrefl _)
    obtain ⟨e, he, hseq⟩ := hacked
    rcases h.explained.acknowledged e he with hbelow | ⟨tag, htag, hsack, hselective⟩
    · exact hbelow.ne hseq
    · rw [hseq] at hselective
      rcases h.base with hone | ⟨tag', htag', hcumulative⟩
      · have hmore := (h.reports.selective tag htag hsack).1
        omega
      · exact h.reports.apart tag tag' htag htag' hsack (hselective.trans hcumulative)
  omega

/-- The end of a window does not wrap around exactly when the window is open. -/
theorem lt_toU32_add_iff {base size : ℕ} (hbase : base < 2 ^ 32) (hsize : size < 2 ^ 16) :
    base < toU32 (base + size) ↔ 0 < size ∧ base + size < 2 ^ 32 := by
  unfold toU32
  omega

/-- A first transmission carries the next number. -/
theorem transmitsFresh_iff {seq : ℕ} : s.TransmitsFresh seq ↔
    s.isInSendWindow s.nextSendSequence = true ∧ seq = s.nextSendSequence := by
  unfold TransmitsFresh
  refine and_congr_right fun _ => ?_
  constructor
  · rintro ⟨lower, buffered, packet, hdata⟩
    rw [sendBuffered_eq] at hdata
    split_ifs at hdata
    · have hlast := List.append_cancel_left hdata
      rw [List.cons.injEq, TpdcMessage.data.injEq] at hlast
      exact hlast.1.1.symm
    · exact absurd hdata.symm (by simp [refusedFirst])
  · rintro rfl
    refine ⟨.willing, { packet := { bytes := [] } }, { bytes := [] }, ?_⟩
    rw [sendBuffered_eq]
    rfl

/-- The next packet is accepted exactly when the receive window is open. -/
theorem acceptsNext_iff {seq : ℕ} (hreceived : r.Received) : r.AcceptsNext seq ↔
    seq = r.nextReceiveSequence ∧
      r.nextReceiveSequence < toU32 (r.nextReceiveSequence + r.config.receiveWindowSize) := by
  unfold AcceptsNext
  refine and_congr_right ?_
  rintro rfl
  have hwindow : r.isInReceiveWindow r.nextReceiveSequence = true ↔
      r.nextReceiveSequence < toU32 (r.nextReceiveSequence + r.config.receiveWindowSize) := by
    simp [isInReceiveWindow, hreceived.base]
  rw [← hwindow]
  unfold bufferPacketForReceiving
  rw [if_neg (lt_irrefl _)]
  cases hopen : r.isInReceiveWindow r.nextReceiveSequence with
  | true =>
      refine iff_of_true ?_ rfl
      rw [if_neg (by simp), if_pos rfl]
      rfl
  | false => exact iff_of_false (by simp) Bool.false_ne_true

/-- An idle connection goes on exactly when there is room for its windows below the
wrap of the sequence numbers. -/
theorem Settles.survivesWrap_iff (h : s.Settles r) (hfollows : s.Follows r)
    (hreceived : r.Received) (hs : s.config.WindowsFit) (hr : r.config.WindowsFit) :
    s.SurvivesWrap r ↔ (s.AllAcknowledged → s.RoomBeforeWrap r) := by
  have hsend : s.sendWindowBase = s.nextSendSequence →
      (s.isInSendWindow s.nextSendSequence = true ↔
        0 < s.config.sendWindowSize ∧
          s.nextSendSequence + s.config.sendWindowSize < 2 ^ 32) := by
    intro hbase
    rw [← lt_toU32_add_iff hfollows.below hs.send]
    simp [isInSendWindow, hbase]
  have hreceive := lt_toU32_add_iff hreceived.below hr.receive
  constructor
  · intro hsurvives hidle
    have hwindow := hsurvives.window hidle
    obtain ⟨hnext, hopen⟩ := (acceptsNext_iff hreceived).mp
      (hsurvives.fresh hidle _ (transmitsFresh_iff.mpr ⟨hwindow, rfl⟩))
    have hrefused : ∀ seq ∈ s.refused, seq < s.sendWindowBase := by
      intro seq hmem
      by_contra hinside
      have hpositive := hfollows.positive
      have hused := h.numbered.refused seq hmem
      have haccepted : seq ∈ r.accepted :=
        (hreceived.mem_accepted seq).mpr (.inl ⟨by omega, by omega⟩)
      obtain ⟨packet, hdata⟩ := h.accepted seq haccepted
      exact (h.numbered.data seq packet hdata).2 hmem
    obtain ⟨hbase, -⟩ := h.idle_eq hfollows hidle hrefused
    obtain ⟨hsendSize, hsendRoom⟩ := (hsend hbase).mp hwindow
    obtain ⟨hreceiveSize, hreceiveRoom⟩ := hreceive.mp hopen
    exact ⟨hrefused, hsendSize, hsendRoom, hreceiveSize, hnext ▸ hreceiveRoom⟩
  · intro hroom
    refine ⟨fun hidle => ?_, fun hidle seq hfresh => ?_⟩
    · obtain ⟨hbase, -⟩ := h.idle_eq hfollows hidle (hroom hidle).refused
      exact (hsend hbase).mpr ⟨(hroom hidle).sendSize, (hroom hidle).send⟩
    · obtain ⟨-, hnext⟩ := h.idle_eq hfollows hidle (hroom hidle).refused
      obtain ⟨-, rfl⟩ := transmitsFresh_iff.mp hfresh
      refine (acceptsNext_iff hreceived).mpr ⟨hnext.symm, hreceive.mpr ?_⟩
      exact ⟨(hroom hidle).receiveSize, hnext ▸ (hroom hidle).receive⟩

end Tpdc

/-! ## Runs -/

namespace TpdcPair

variable {p p' : TpdcPair}

/-- The transition system of a pair, with window sizes of 16 bits. -/
def sizedSystem : TransitionSystem TpdcPair PairAction where
  init p := pairSystem.init p ∧ p.left.config.WindowsFit ∧ p.right.config.WindowsFit
  step := pairStep

/-- The invariant of a pair whose connection may become idle. -/
structure Settled (p : TpdcPair) : Prop where
  connected : p.Connected
  leftToRight : p.left.Settles p.right
  rightToLeft : p.right.Settles p.left
  leftFits : p.left.config.WindowsFit
  rightFits : p.right.config.WindowsFit

theorem settled_step {a : PairAction} (h : p.Settled) (hstep : p.pairStep a = some p') :
    p'.Settled := by
  have hconnected := connected_step h.connected hstep
  unfold pairStep at hstep
  cases a with
  | onLeft a =>
      dsimp only at hstep
      split_ifs at hstep with harrives
      obtain ⟨left, hleft, rfl⟩ := Option.map_eq_some_iff.mp hstep
      refine ⟨hconnected, h.leftToRight.sender_step h.connected.leftToRight harrives hleft,
        h.rightToLeft.receiver_step h.connected.leftReceived harrives hleft, ?_, h.rightFits⟩
      rw [Tpdc.config_step hleft]
      exact h.leftFits
  | onRight a =>
      dsimp only at hstep
      split_ifs at hstep with harrives
      obtain ⟨right, hright, rfl⟩ := Option.map_eq_some_iff.mp hstep
      refine ⟨hconnected, h.leftToRight.receiver_step h.connected.rightReceived harrives hright,
        h.rightToLeft.sender_step h.connected.rightToLeft harrives hright, h.leftFits, ?_⟩
      rw [Tpdc.config_step hright]
      exact h.rightFits

/-- In every state of every run, over any network, an idle connection goes on exactly
when there is room for its windows below the wrap of the sequence numbers and no
refused transmission has left a number open. -/
theorem survivesWrap_iff_of_reachable (hreach : sizedSystem.Reachable p) :
    (p.left.SurvivesWrap p.right ↔
      (p.left.AllAcknowledged → p.left.RoomBeforeWrap p.right)) ∧
    (p.right.SurvivesWrap p.left ↔
      (p.right.AllAcknowledged → p.right.RoomBeforeWrap p.left)) := by
  have hsettled : p.Settled := by
    refine hreach.invariant ?_ fun p a p' h _ hstep => settled_step h hstep
    rintro p ⟨⟨hleft, hright⟩, hleftFits, hrightFits⟩
    have hconnected : p.Connected := ⟨.of_fresh hleft, .of_fresh hright,
      follows_of_fresh hleft hright, follows_of_fresh hright hleft⟩
    exact ⟨hconnected, Tpdc.settles_of_fresh hleft hright, Tpdc.settles_of_fresh hright hleft,
      hleftFits, hrightFits⟩
  obtain ⟨⟨hleft, hright, hfollows, hfollows'⟩, hsettles, hsettles', hfits, hfits'⟩ := hsettled
  exact ⟨hsettles.survivesWrap_iff hfollows hright hfits hfits',
    hsettles'.survivesWrap_iff hfollows' hleft hfits' hfits⟩

theorem sizedSystem_init : sizedSystem.init {} :=
  ⟨⟨Tpdc.fresh_default, Tpdc.fresh_default⟩, ⟨by decide, by decide⟩, ⟨by decide, by decide⟩⟩

/-- After one packet and its acknowledgment the connection is idle, far from the
wrap. -/
theorem survivesWrap_iff_of_reachable_sample :
    ∃ p, sizedSystem.runActions {} sampleExchange = some p ∧
      p.left.nextSendSequence = 2 ∧
      (p.left.SurvivesWrap p.right ↔
        (p.left.AllAcknowledged → p.left.RoomBeforeWrap p.right)) := by
  obtain ⟨p, hrun⟩ : ∃ p, sizedSystem.runActions {} sampleExchange = some p := ⟨_, rfl⟩
  have hreach : sizedSystem.Reachable p :=
    TransitionSystem.ReachableBy.runActions (.init sizedSystem_init) (fun _ _ _ => trivial) hrun
  refine ⟨p, hrun, ?_, (survivesWrap_iff_of_reachable hreach).1⟩
  cases hrun
  rfl

end TpdcPair

/-! ## A long run -/

namespace Tpdc

variable {lower : LowerLayer} {s r : Tpdc} {k : ℕ}

theorem processSendQueue_of_nil (hqueue : s.sendQueue = []) : s.processSendQueue lower = s := by
  unfold processSendQueue
  rw [hqueue]
  rfl

/-- The acknowledgment of the only packet that a sender waits for. -/
theorem handleControlTag_singleton {b : BufferedPacket}
    (hbuffer : s.sendBuffer = AList.singleton k b) (hbase : s.sendWindowBase = k)
    (hqueue : s.sendQueue = []) (hroom : k + 1 < 2 ^ 32) :
    (s.handleControlTag lower { ackFlag := true, cumulativeAck := k }).1 =
      { s with
        sendWindowBase := k + 1
        sendBuffer := ∅
        acknowledged := s.acknowledged ++ [⟨k, { b with acknowledged := true }⟩] } := by
  have hlimit : toU32 (k + 1) = k + 1 := toU32_of_lt hroom
  have hmarked : s.advanceSendWindow ⟨k, []⟩ =
      { s with
        sendWindowBase := k + 1
        sendBuffer := AList.singleton k { b with acknowledged := true } } := by
    have hbuffered : (s.advanceSendWindow ⟨k, []⟩).sendBuffer =
        AList.singleton k { b with acknowledged := true } := by
      apply AList.ext
      simp [advanceSendWindow, markAcknowledged, hbuffer, hbase, hlimit, KeyedMap.filterMap,
        KeyedMap.filterMapEntry]
    rw [← hbuffered]
    simp [advanceSendWindow, markAcknowledged, hbase, hlimit]
  have hprocessed : s.handleControlTag lower { ackFlag := true, cumulativeAck := k } =
      s.processReceivedAcknowledgment lower ⟨k, []⟩ := rfl
  have hcleaned : (s.advanceSendWindow ⟨k, []⟩).cleanupAcknowledgedPackets =
      { s with
        sendWindowBase := k + 1
        sendBuffer := ∅
        acknowledged := s.acknowledged ++ [⟨k, { b with acknowledged := true }⟩] } := by
    rw [hmarked]
    rfl
  rw [hprocessed]
  unfold processReceivedAcknowledgment
  rw [if_neg (by rw [hlimit, hbase]; omega), List.foldl_nil, hcleaned]
  exact processSendQueue_of_nil hqueue

/-- The first transmission of an idle sender whose window is open. -/
theorem sendPacket_of_idle (hactive : s.active = true) (hconfig : s.config = {})
    (hbuffer : s.sendBuffer = ∅) (hwindow : s.isInSendWindow s.nextSendSequence = true) :
    s.tpdcStep sampleSubmission =
      some (s.sentFirst { packet := { bytes := [0] }, som := true, eom := true }) := by
  have hvalid : s.validatePacket [(0 : UInt8)].length = true := by
    unfold validatePacket
    rw [hconfig]
    rfl
  have hroom : ¬ s.config.maxSendBufferSize ≤ s.sendBuffer.entries.length := by
    rw [hconfig, hbuffer]
    decide
  unfold tpdcStep sampleSubmission sendPacket bufferPacketForSending
  dsimp only
  rw [hactive, hvalid, hwindow, if_neg hroom, sendBuffered_eq]
  rfl

theorem receive_of_idle (hactive : r.active = true) (hconfig : r.config = {})
    (hbuffer : r.receiveBuffer = []) (hbase : r.receiveWindowBase = r.nextReceiveSequence)
    (hroom : r.nextReceiveSequence + 128 < 2 ^ 32) :
    r.tpdcStep (.receivePacket .willing (.data r.nextReceiveSequence { bytes := [0] })) =
      some { r with
        highestObservedSequence := max r.highestObservedSequence r.nextReceiveSequence
        nextReceiveSequence := r.nextReceiveSequence + 1
        receiveWindowBase := r.nextReceiveSequence + 1
        accepted := r.accepted ++ [r.nextReceiveSequence]
        ackPending := true } := by
  have hvalid : r.validatePacket (TpdcMessage.data r.nextReceiveSequence { bytes := [0] }).size =
      true := by
    unfold validatePacket
    rw [hconfig]
    rfl
  have hsucc : toU32 (r.nextReceiveSequence + 1) = r.nextReceiveSequence + 1 :=
    toU32_of_lt (by omega)
  have hopen : r.isInReceiveWindow r.nextReceiveSequence = true := by
    unfold isInReceiveWindow
    rw [hbase, hconfig, toU32_of_lt hroom]
    simp
  unfold tpdcStep handleReceivedPacket bufferPacketForReceiving
  dsimp only
  rw [hactive, hvalid, hopen, if_neg (by simp), if_neg (lt_irrefl _), if_neg (by simp),
    if_pos rfl]
  unfold acceptNext
  simp [observe, scheduleAcknowledgment, hactive, hbuffer, hsucc, drainReceiveBuffer]

theorem report_of_idle (hpending : r.ackPending = true) (hbuffer : r.receiveBuffer = [])
    (hnext : r.nextReceiveSequence = k + 1) :
    r.tpdcStep (.ackEvent .willing) =
      some { r with
        ackPending := false
        transmitted := r.transmitted ++ [.control { ackFlag := true, cumulativeAck := k }]
        reports := r.reports ++ [({ ackFlag := true, cumulativeAck := k }, r.accepted)] } := by
  have htag : r.ackFired.pendingTag = { ackFlag := true, cumulativeAck := k } := by
    simp [pendingTag, createAcknowledgment, hasGap, ackFired, hbuffer, hnext]
  unfold tpdcStep
  dsimp only
  rw [if_pos hpending, sendPendingAcknowledgments_eq, htag]
  rfl
/-- The only packet that a sender waits for is acknowledged. -/
theorem acknowledge_of_idle {b : BufferedPacket} (hactive : s.active = true)
    (hconfig : s.config = {}) (hbuffer : s.sendBuffer = AList.singleton k b)
    (hbase : s.sendWindowBase = k) (hqueue : s.sendQueue = []) (hroom : k + 1 < 2 ^ 32) :
    s.tpdcStep (.receivePacket .willing (.control { ackFlag := true, cumulativeAck := k })) =
      some { s with
        sendWindowBase := k + 1
        sendBuffer := ∅
        acknowledged := s.acknowledged ++ [⟨k, { b with acknowledged := true }⟩] } := by
  have hvalid : s.validatePacket
      (TpdcMessage.control { ackFlag := true, cumulativeAck := k }).size = true := by
    unfold validatePacket
    rw [hconfig]
    rfl
  unfold tpdcStep handleReceivedPacket
  dsimp only
  rw [hactive, hvalid, if_neg (by simp),
    handleControlTag_singleton hbuffer hbase hqueue hroom, hactive]

end Tpdc

namespace TpdcPair

/-- A pair under the default configuration whose left sender is idle and about to use
a number. -/
structure IdleAt (k : ℕ) (p : TpdcPair) : Prop where
  reach : sizedSystem.Reachable p
  leftConfig : p.left.config = {}
  leftActive : p.left.active = true
  next : p.left.nextSendSequence = k
  base : p.left.sendWindowBase = k
  sendBuffer : p.left.sendBuffer = ∅
  sendQueue : p.left.sendQueue = []
  idle : p.left.AllAcknowledged
  rightConfig : p.right.config = {}
  rightActive : p.right.active = true
  expected : p.right.nextReceiveSequence = k
  receiveBase : p.right.receiveWindowBase = k
  receiveBuffer : p.right.receiveBuffer = []

theorem idleAt_one : IdleAt 1 {} := by
  refine ⟨.init sizedSystem_init, rfl, rfl, rfl, rfl, rfl, rfl, ?_, rfl, rfl, rfl, rfl, rfl⟩
  intro seq packet hdata
  cases hdata

theorem reachable_onLeft {p : TpdcPair} {left : Tpdc} {a : TpdcAction}
    (hreach : sizedSystem.Reachable p) (hstep : p.left.tpdcStep a = some left)
    (harrives : p.right.arrives a = true) : sizedSystem.Reachable { p with left := left } := by
  refine .step (.onLeft a) hreach trivial ?_
  change p.pairStep (.onLeft a) = _
  unfold pairStep
  dsimp only
  rw [if_pos harrives, hstep]
  rfl

theorem reachable_onRight {p : TpdcPair} {right : Tpdc} {a : TpdcAction}
    (hreach : sizedSystem.Reachable p) (hstep : p.right.tpdcStep a = some right)
    (harrives : p.left.arrives a = true) : sizedSystem.Reachable { p with right := right } := by
  refine .step (.onRight a) hreach trivial ?_
  change p.pairStep (.onRight a) = _
  unfold pairStep
  dsimp only
  rw [if_pos harrives, hstep]
  rfl

/-- One packet goes over and its acknowledgment comes back. -/
theorem IdleAt.succ {k : ℕ} {p : TpdcPair} (h : IdleAt k p) (hroom : k + 128 < 2 ^ 32) :
    ∃ p', IdleAt (k + 1) p' := by
  obtain ⟨left, right⟩ := p
  obtain ⟨hreach, hlconfig, hlactive, hnext, hbase, hsendBuffer, hqueue, hidle, hrconfig, hractive,
    hexpected, hrbase, hrbuffer⟩ := h
  dsimp only at *
  have hwindow : left.isInSendWindow left.nextSendSequence = true := by
    unfold Tpdc.isInSendWindow
    rw [hbase, hnext, hlconfig, toU32_of_lt hroom]
    simp
  have hsucc : toU32 (k + 1) = k + 1 := toU32_of_lt (by omega)
  subst hexpected
  have hsent := Tpdc.sendPacket_of_idle hlactive hlconfig hsendBuffer hwindow
  generalize hsample : ({ packet := { bytes := [0] }, som := true, eom := true } : BufferedPacket) =
    sample at hsent
  have hdata : .data right.nextReceiveSequence { bytes := [0] } ∈
      (left.sentFirst sample).transmitted := by
    refine List.mem_append_right _ (List.mem_singleton.mpr ?_)
    rw [hnext, ← hsample]
  have hbuffered : (left.sentFirst sample).sendBuffer = AList.singleton right.nextReceiveSequence
      { left.numbered sample with timeoutPending := true } := by
    unfold Tpdc.sentFirst
    rw [hsendBuffer, hnext]
    rfl
  have hreach₁ := reachable_onLeft hreach hsent rfl
  have hreach₂ := reachable_onRight hreach₁
    (Tpdc.receive_of_idle hractive hrconfig hrbuffer hrbase hroom) (decide_eq_true hdata)
  have hreach₃ := reachable_onRight hreach₂
    (Tpdc.report_of_idle (k := right.nextReceiveSequence) rfl hrbuffer rfl) rfl
  have hreach₄ := reachable_onLeft hreach₃
    (Tpdc.acknowledge_of_idle hlactive hlconfig hbuffered hbase hqueue (by omega))
    (decide_eq_true (List.mem_append_right _ (List.mem_singleton_self _)))
  refine ⟨_, hreach₄, hlconfig, hlactive, ?_, rfl, rfl, hqueue, ?_, hrconfig, hractive, rfl, rfl,
    hrbuffer⟩
  · change toU32 (left.nextSendSequence + 1) = right.nextReceiveSequence + 1
    rw [hnext, hsucc]
  · intro seq packet hmem
    rcases List.mem_append.mp hmem with hold | hnew
    · obtain ⟨e, he, hseq⟩ := hidle seq packet hold
      exact ⟨e, List.mem_append_left _ he, hseq⟩
    · rw [List.mem_singleton, TpdcMessage.data.injEq, hnext] at hnew
      exact ⟨_, List.mem_append_right _ (List.mem_singleton_self _), hnew.1.symm⟩

/-- The connection gets idle at every number up to the last one before the wrap. -/
theorem exists_idleAt {k : ℕ} (hone : 1 ≤ k) (hlast : k + 128 ≤ 2 ^ 32) : ∃ p, IdleAt k p := by
  induction k, hone using Nat.le_induction with
  | base => exact ⟨{}, idleAt_one⟩
  | succ k hone ih =>
      obtain ⟨p, hp⟩ := ih (by omega)
      exact hp.succ (by omega)

/-- After `2 ^ 32 - 129` packets, each of them acknowledged, the next number is not in
the send window of the default configuration any more. -/
theorem send_window_closed_for_good :
    ∃ p, sizedSystem.Reachable p ∧ p.left.AllAcknowledged ∧
      p.left.nextSendSequence = 2 ^ 32 - 128 ∧
      p.left.isInSendWindow p.left.nextSendSequence = false ∧ ¬ p.left.SurvivesWrap p.right := by
  obtain ⟨p, hp⟩ := exists_idleAt (k := 2 ^ 32 - 128) (by decide) (by decide)
  have hclosed : p.left.isInSendWindow p.left.nextSendSequence = false := by
    unfold Tpdc.isInSendWindow
    rw [hp.base, hp.next, hp.leftConfig]
    decide
  refine ⟨p, hp.reach, hp.idle, hp.next, hclosed, fun hsurvives => ?_⟩
  have hopen := hsurvives.window hp.idle
  rw [hclosed] at hopen
  cases hopen

end TpdcPair
end UeSim
