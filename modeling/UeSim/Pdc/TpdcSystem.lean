import UeSim.Pdc.Tpdc
import UeSim.Support.Transition
import Mathlib.Logic.Relation

/-!
# The transition system of a reliable delivery context

An action is a call of the upper layer, the arrival of a packet, or an event
that fires.  With every action comes what the lower layer answers during it, so
that any pattern of transmit failures is a run.

What the handlers do to the sending half of the context is a sequence of a few
effects, and each handler is decomposed here once.
-/

namespace UeSim

/-- What can happen to a context. -/
inductive TpdcAction
  /-- The upper layer submits a packet. -/
  | sendPacket (lower : LowerLayer) (packet : Option TpdcPacket) (som eom : Bool)
  /-- A packet arrives. -/
  | receivePacket (lower : LowerLayer) (message : TpdcMessage)
  /-- A pending retransmission timeout fires. -/
  | rtoTimeout (lower : LowerLayer) (sequenceNumber : ℕ)
  /-- The pending acknowledgment is sent. -/
  | ackEvent (lower : LowerLayer)
  /-- All packets that are not acknowledged are sent again. -/
  | forceRetransmission (lower : LowerLayer)
  /-- `Activate` or `Deactivate`. -/
  | setActive (active : Bool)

namespace Tpdc

/-- The context when the event of the next acknowledgment has just fired. -/
def ackFired (s : Tpdc) : Tpdc := { s with ackPending := false }

/-- One action of a context.  An event fires only while it is pending. -/
def tpdcStep (s : Tpdc) : TpdcAction → Option Tpdc
  | .sendPacket lower packet som eom => some (s.sendPacket lower packet som eom).1
  | .receivePacket lower message => some (s.handleReceivedPacket lower message).1
  | .rtoTimeout lower sequenceNumber =>
      if s.timeoutPendingFor sequenceNumber then
        some (s.handleRtoTimeout lower sequenceNumber)
      else none
  | .ackEvent lower =>
      if s.ackPending then some (s.ackFired.sendPendingAcknowledgments lower) else none
  | .forceRetransmission lower => some (s.forceRetransmission lower)
  | .setActive active => some { s with active := active }

/-- A context after `Initialize`, under any configuration. -/
def Fresh (s : Tpdc) : Prop := s = { config := s.config, active := s.active }

/-- The transition system of one context. -/
def tpdcSystem : TransitionSystem Tpdc TpdcAction where
  init := Fresh
  step := tpdcStep

theorem fresh_default : Fresh {} := rfl

/-- A packet of one byte that is submitted over a willing lower layer. -/
def sampleSubmission : TpdcAction :=
  .sendPacket .willing (some { bytes := [0] }) true true

/-! ## Effects on the sending half -/

/-- The effects of a handler on the sending half of a context.  Sequence numbers
below `limit` and those in `sacked` are acknowledged by the packet that is being
handled. -/
inductive SendEffect (lower : LowerLayer) (limit : ℕ) (sacked : ℕ → Prop) : Tpdc → Tpdc → Prop
  | marked (s : Tpdc) (marks : ℕ → Bool)
      (hmarks : ∀ seq, marks seq = true → s.sendWindowBase ≤ seq ∧ seq < limit ∨ sacked seq) :
      SendEffect lower limit sacked s (s.markAcknowledged marks)
  | advanced (s : Tpdc) :
      SendEffect lower limit sacked s { s with sendWindowBase := max s.sendWindowBase limit }
  | retransmitted (s : Tpdc) (seq : ℕ) :
      SendEffect lower limit sacked s (s.retransmitPacket lower seq)
  | cleaned (s : Tpdc) : SendEffect lower limit sacked s s.cleanupAcknowledgedPackets
  | sent {s : Tpdc} {buffered : BufferedPacket} {queue : List BufferedPacket}
      (hwindow : s.isInSendWindow s.nextSendSequence = true)
      (hqueue : (buffered :: queue).Perm s.sendQueue) :
      SendEffect lower limit sacked s
        ({ s with sendQueue := queue }.sendBuffered lower buffered).1

/-- A sequence of effects. -/
abbrev SendEffects (lower : LowerLayer) (limit : ℕ) (sacked : ℕ → Prop) : Tpdc → Tpdc → Prop :=
  Relation.ReflTransGen (SendEffect lower limit sacked)

variable {lower : LowerLayer} {limit : ℕ} {sacked : ℕ → Prop} {s s' : Tpdc}

theorem SendEffect.effects (h : SendEffect lower limit sacked s s') :
    SendEffects lower limit sacked s s' :=
  Relation.ReflTransGen.single h

/-- An invariant of the single effects is an invariant of their sequences. -/
theorem SendEffects.invariant {P : Tpdc → Prop} (h : SendEffects lower limit sacked s s')
    (hinv : P s) (hstep : ∀ t t', P t → SendEffect lower limit sacked t t' → P t') : P s' := by
  induction h with
  | refl => exact hinv
  | tail _ heff ih => exact hstep _ _ ih heff

theorem drainSendQueue_effects (fuel : ℕ) (s : Tpdc) :
    SendEffects lower limit sacked s (drainSendQueue lower fuel s) := by
  induction fuel generalizing s with
  | zero => exact .refl
  | succ fuel ih =>
      unfold drainSendQueue
      split_ifs with hclosed
      · exact .refl
      · rw [Bool.not_eq_true, Bool.not_eq_false'] at hclosed
        cases hselected : s.sendQueue[s.selectedIndex]? with
        | none => exact .refl
        | some buffered =>
            obtain ⟨hlt, hget⟩ := List.getElem?_eq_some_iff.mp hselected
            have hqueue : (buffered :: s.sendQueue.eraseIdx s.selectedIndex).Perm s.sendQueue := by
              rw [← hget]
              exact List.getElem_cons_eraseIdx_perm hlt
            have hsent : SendEffect lower limit sacked s
                ({ s with sendQueue := s.sendQueue.eraseIdx s.selectedIndex }.sendBuffered lower
                  buffered).1 :=
              .sent hclosed hqueue
            dsimp only
            split_ifs
            · exact hsent.effects.trans (ih _)
            · exact hsent.effects

theorem processSendQueue_effects (s : Tpdc) :
    SendEffects lower limit sacked s (s.processSendQueue lower) :=
  drainSendQueue_effects _ s

theorem foldl_retransmitPacket_effects (seqs : List ℕ) (s : Tpdc) :
    SendEffects lower limit sacked s (seqs.foldl (retransmitPacket lower) s) := by
  induction seqs generalizing s with
  | nil => exact .refl
  | cons seq seqs ih => exact .head (.retransmitted s seq) (ih _)

theorem forceRetransmission_effects (s : Tpdc) :
    SendEffects lower limit sacked s (s.forceRetransmission lower) :=
  foldl_retransmitPacket_effects _ s

theorem processReceivedAcknowledgment_effects (s : Tpdc) (ack : Acknowledgment) :
    SendEffects lower (toU32 (ack.ackSequence + 1)) sacked s
      (s.processReceivedAcknowledgment lower ack).1 := by
  unfold processReceivedAcknowledgment
  split_ifs
  · exact .refl
  · have hmarked : SendEffects lower (toU32 (ack.ackSequence + 1)) sacked s
        (s.advanceSendWindow ack) := by
      refine .head (.marked s (fun seq => s.sendWindowBase ≤ seq &&
        seq < max s.sendWindowBase (toU32 (ack.ackSequence + 1))) ?_)
        (SendEffect.advanced _).effects
      intro seq hseq
      rw [Bool.and_eq_true, decide_eq_true_eq, decide_eq_true_eq] at hseq
      exact .inl ⟨hseq.1, by omega⟩
    exact ((hmarked.trans (foldl_retransmitPacket_effects _ _)).tail (.cleaned _)).trans
      (processSendQueue_effects _)

/-- The sequence number that a control tag acknowledges selectively. -/
def sackedBy (tag : SoftUeTpdcControlTag) (seq : ℕ) : Prop :=
  tag.sackFlag = true ∧ tag.selectiveAck ≠ 0 ∧ tag.selectiveAck = seq

theorem handleControlTag_effects (s : Tpdc) (tag : SoftUeTpdcControlTag) :
    SendEffects lower (toU32 (tag.cumulativeAck + 1)) (sackedBy tag) s
      (s.handleControlTag lower tag).1 := by
  have hprocessed : SendEffects lower (toU32 (tag.cumulativeAck + 1)) (sackedBy tag) s
      (s.processReceivedAcknowledgment lower (acknowledgmentOf tag)).1 :=
    processReceivedAcknowledgment_effects s (acknowledgmentOf tag)
  unfold handleControlTag
  dsimp only
  split_ifs with hsack
  · rw [Bool.and_eq_true, decide_eq_true_eq] at hsack
    refine ((hprocessed.tail (.marked _ _ ?_)).tail (.cleaned _)).trans
      (processSendQueue_effects _)
    intro seq hseq
    exact .inr ⟨hsack.1, hsack.2, (of_decide_eq_true hseq).symm⟩
  · exact hprocessed

/-! ## What a transmission does -/

/-- The send window ends below the wrap of the sequence numbers. -/
theorem lt_of_isInSendWindow {seq : ℕ} (h : s.isInSendWindow seq = true) :
    s.sendWindowBase ≤ seq ∧ seq + 1 < 2 ^ 32 := by
  unfold isInSendWindow toU32 at h
  rw [Bool.and_eq_true, decide_eq_true_eq, decide_eq_true_eq] at h
  omega

/-- The context after a first transmission that the lower layer takes. -/
def sentFirst (s : Tpdc) (buffered : BufferedPacket) : Tpdc :=
  { s with
    nextSendSequence := toU32 (s.nextSendSequence + 1)
    sendBuffer := s.sendBuffer.insert s.nextSendSequence
      { s.numbered buffered with timeoutPending := true }
    transmitted := s.transmitted ++ [.data s.nextSendSequence buffered.packet] }

/-- The context after a first transmission that the lower layer refuses. -/
def refusedFirst (s : Tpdc) : Tpdc :=
  { s with
    nextSendSequence := toU32 (s.nextSendSequence + 1)
    sendBuffer := s.sendBuffer.erase s.nextSendSequence
    refused := s.refused ++ [s.nextSendSequence] }

/-- A first transmission is taken, or the packet is gone. -/
theorem sendBuffered_eq (lower : LowerLayer) (s : Tpdc) (buffered : BufferedPacket) :
    s.sendBuffered lower buffered =
      if lower.transmitsData (s.numbered buffered) then (s.sentFirst buffered, true)
      else (s.refusedFirst, false) := by
  unfold sendBuffered transmitPacket
  dsimp only
  split_ifs with htransmits
  · have harmed : KeyedMap.modify (s.bufferNumbered buffered).sendBuffer s.nextSendSequence
        (fun b => { b with timeoutPending := true }) =
          s.sendBuffer.insert s.nextSendSequence
            { s.numbered buffered with timeoutPending := true } := by
      rw [bufferNumbered, KeyedMap.modify_of_some (AList.lookup_insert _), AList.insert_insert]
    rw [armTimeout, harmed]
    rfl
  · have herased : (s.bufferNumbered buffered).sendBuffer.erase s.nextSendSequence =
        s.sendBuffer.erase s.nextSendSequence :=
      AList.ext (List.kerase_cons_eq rfl)
    rw [unbuffer, herased]
    rfl

/-- A buffered packet that is sent again: its timeout is armed if the lower layer
takes it. -/
def retried (lower : LowerLayer) (buffered : BufferedPacket) : BufferedPacket :=
  { buffered.counted with
    timeoutPending := buffered.timeoutPending || lower.transmitsData buffered.counted }

/-- Whether `RetransmitPacket` sends a packet again. -/
def Retransmittable (s : Tpdc) (buffered : BufferedPacket) : Prop :=
  buffered.acknowledged = false ∧ buffered.retransmissionCount < s.config.maxRetransmissions

/-- The context after a packet was sent again. -/
def sentAgain (lower : LowerLayer) (s : Tpdc) (seq : ℕ) (buffered : BufferedPacket) : Tpdc :=
  { s with
    sendBuffer := s.sendBuffer.insert seq (retried lower buffered)
    transmitted :=
      if lower.transmitsData buffered.counted then
        s.transmitted ++ [.data buffered.sequenceNumber buffered.packet]
      else s.transmitted }

/-- `RetransmitPacket` does nothing, or a packet is sent again. -/
theorem retransmitPacket_cases (lower : LowerLayer) (s : Tpdc) (seq : ℕ) :
    (s.retransmitPacket lower seq = s ∧
      ∀ buffered, s.sendBuffer.lookup seq = some buffered → ¬ s.Retransmittable buffered) ∨
    ∃ buffered, s.sendBuffer.lookup seq = some buffered ∧ s.Retransmittable buffered ∧
      s.retransmitPacket lower seq = s.sentAgain lower seq buffered := by
  unfold retransmitPacket
  cases hlookup : s.sendBuffer.lookup seq with
  | none =>
      refine .inl ⟨rfl, ?_⟩
      intro _ h
      cases h
  | some buffered =>
      dsimp only
      by_cases hagain : s.Retransmittable buffered
      · refine .inr ⟨buffered, rfl, hagain, ?_⟩
        rw [if_neg (by simp [hagain.1]), if_neg (not_le.mpr hagain.2), transmitPacket]
        dsimp only
        cases htransmits : lower.transmitsData buffered.counted with
        | true =>
            have harmed : KeyedMap.modify (s.rebuffer seq buffered.counted).sendBuffer seq
                (fun b => { b with timeoutPending := true }) =
                  s.sendBuffer.insert seq { buffered.counted with timeoutPending := true } := by
              rw [rebuffer, KeyedMap.modify_of_some (AList.lookup_insert _), AList.insert_insert]
            rw [if_pos rfl, armTimeout, sentAgain, retried, htransmits, harmed, Bool.or_true]
            rfl
        | false =>
            rw [if_neg (by simp), sentAgain, retried, htransmits, Bool.or_false]
            rfl
      · refine .inl ⟨?_, ?_⟩
        · by_cases hacked : buffered.acknowledged = true
          · rw [if_pos hacked]
          · rw [if_neg hacked, if_pos]
            by_contra hmax
            exact hagain ⟨Bool.eq_false_of_not_eq_true hacked, not_le.mp hmax⟩
        · rintro _ ⟨⟩
          exact hagain

/-! ## The two halves -/

/-- The sending half is as before, and no data was handed to the channel. -/
structure SameSender (s s' : Tpdc) : Prop where
  config : s'.config = s.config
  nextSendSequence : s'.nextSendSequence = s.nextSendSequence
  sendWindowBase : s'.sendWindowBase = s.sendWindowBase
  sendBuffer : s'.sendBuffer = s.sendBuffer
  sendQueue : s'.sendQueue = s.sendQueue
  acknowledged : s'.acknowledged = s.acknowledged
  refused : s'.refused = s.refused
  data : ∀ seq packet, .data seq packet ∈ s'.transmitted → .data seq packet ∈ s.transmitted

/-- The receiving half is as before, and no acknowledgment was handed to the
channel. -/
structure SameReceiver (s s' : Tpdc) : Prop where
  config : s'.config = s.config
  nextReceiveSequence : s'.nextReceiveSequence = s.nextReceiveSequence
  receiveWindowBase : s'.receiveWindowBase = s.receiveWindowBase
  receiveBuffer : s'.receiveBuffer = s.receiveBuffer
  accepted : s'.accepted = s.accepted
  reports : s'.reports = s.reports
  control : ∀ tag, .control tag ∈ s'.transmitted → .control tag ∈ s.transmitted

theorem SameSender.refl (s : Tpdc) : SameSender s s :=
  ⟨rfl, rfl, rfl, rfl, rfl, rfl, rfl, fun _ _ h => h⟩

theorem SameReceiver.refl (s : Tpdc) : SameReceiver s s :=
  ⟨rfl, rfl, rfl, rfl, rfl, rfl, fun _ h => h⟩

theorem SameReceiver.trans {s'' : Tpdc} (h : SameReceiver s s') (h' : SameReceiver s' s'') :
    SameReceiver s s'' where
  config := h'.config.trans h.config
  nextReceiveSequence := h'.nextReceiveSequence.trans h.nextReceiveSequence
  receiveWindowBase := h'.receiveWindowBase.trans h.receiveWindowBase
  receiveBuffer := h'.receiveBuffer.trans h.receiveBuffer
  accepted := h'.accepted.trans h.accepted
  reports := h'.reports.trans h.reports
  control tag htag := h.control tag (h'.control tag htag)

theorem sameSender_bufferPacketForReceiving (s : Tpdc) (seq : ℕ) :
    SameSender s (s.bufferPacketForReceiving seq).1 := by
  unfold bufferPacketForReceiving acceptAhead
  split_ifs <;> exact ⟨rfl, rfl, rfl, rfl, rfl, rfl, rfl, fun _ _ h => h⟩

theorem sameSender_sendPendingAcknowledgments (lower : LowerLayer) (s : Tpdc) :
    SameSender s (s.ackFired.sendPendingAcknowledgments lower) := by
  refine ⟨rfl, rfl, rfl, rfl, rfl, rfl, rfl, fun seq packet hsent => ?_⟩
  unfold sendPendingAcknowledgments sendAcknowledgment sendControlPacket at hsent
  dsimp only at hsent
  split_ifs at hsent
  · simpa [ackFired] using hsent
  · exact hsent

/-- Handing data to the channel sends no acknowledgment. -/
theorem control_of_append_data {log : List TpdcMessage} {seq : ℕ} {packet : TpdcPacket}
    {tag : SoftUeTpdcControlTag} (h : .control tag ∈ log ++ [.data seq packet]) :
    .control tag ∈ log := by
  simpa using h

theorem sameReceiver_sendBuffered (lower : LowerLayer) (s : Tpdc) (buffered : BufferedPacket) :
    SameReceiver s (s.sendBuffered lower buffered).1 := by
  rw [sendBuffered_eq]
  split_ifs
  · exact ⟨rfl, rfl, rfl, rfl, rfl, rfl, fun _ h => control_of_append_data h⟩
  · exact ⟨rfl, rfl, rfl, rfl, rfl, rfl, fun _ h => h⟩

theorem sameReceiver_retransmitPacket (lower : LowerLayer) (s : Tpdc) (seq : ℕ) :
    SameReceiver s (s.retransmitPacket lower seq) := by
  rcases retransmitPacket_cases lower s seq with ⟨hsame, -⟩ | ⟨buffered, -, -, hagain⟩
  · rw [hsame]
    exact .refl s
  · rw [hagain]
    refine ⟨rfl, rfl, rfl, rfl, rfl, rfl, fun tag htag => ?_⟩
    unfold sentAgain at htag
    dsimp only at htag
    split_ifs at htag
    · exact control_of_append_data htag
    · exact htag

theorem SendEffect.sameReceiver (h : SendEffect lower limit sacked s s') :
    SameReceiver s s' := by
  cases h with
  | marked | advanced | cleaned => exact ⟨rfl, rfl, rfl, rfl, rfl, rfl, fun _ h => h⟩
  | retransmitted seq => exact sameReceiver_retransmitPacket lower s seq
  | @sent buffered queue hwindow hqueue =>
      have hdequeued : SameReceiver s { s with sendQueue := queue } :=
        ⟨rfl, rfl, rfl, rfl, rfl, rfl, fun _ h => h⟩
      exact hdequeued.trans (sameReceiver_sendBuffered lower _ _)

theorem SendEffects.sameReceiver (h : SendEffects lower limit sacked s s') :
    SameReceiver s s' :=
  h.invariant (.refl s) fun _ _ hsame heff => hsame.trans heff.sameReceiver

/-! ## What an action does to the sending half -/

/-- The action leaves the sending half alone, or it is one of a few. -/
inductive SendCase (s : Tpdc) : TpdcAction → Tpdc → Prop
  | idle {a : TpdcAction} {s' : Tpdc} (hsame : SameSender s s') : SendCase s a s'
  | handled {lower : LowerLayer} {tag : SoftUeTpdcControlTag} :
      SendCase s (.receivePacket lower (.control tag)) (s.handleControlTag lower tag).1
  | forced {lower : LowerLayer} :
      SendCase s (.forceRetransmission lower) (s.forceRetransmission lower)
  | queued {lower : LowerLayer} {packet : TpdcPacket} {som eom : Bool}
      (hclosed : s.isInSendWindow s.nextSendSequence = false) :
      SendCase s (.sendPacket lower (some packet) som eom)
        (s.enqueue { packet := packet, som := som, eom := eom })
  | sent {lower : LowerLayer} {packet : TpdcPacket} {som eom : Bool}
      (hwindow : s.isInSendWindow s.nextSendSequence = true) :
      SendCase s (.sendPacket lower (some packet) som eom)
        (s.sendBuffered lower { packet := packet, som := som, eom := eom }).1
  | timeout {lower : LowerLayer} {seq : ℕ} (hpending : s.timeoutPendingFor seq = true) :
      SendCase s (.rtoTimeout lower seq) (s.handleRtoTimeout lower seq)

/-- A call of `SendPacket` does nothing, or the packet is queued or sent. -/
theorem sendPacket_cases (lower : LowerLayer) (s : Tpdc) (packet : Option TpdcPacket)
    (som eom : Bool) :
    s.sendPacket lower packet som eom = (s, false) ∨
      ∃ p, packet = some p ∧
        ((s.isInSendWindow s.nextSendSequence = false ∧
            s.sendPacket lower packet som eom =
              (s.enqueue { packet := p, som := som, eom := eom }, true)) ∨
          (s.isInSendWindow s.nextSendSequence = true ∧
            s.sendPacket lower packet som eom =
              s.sendBuffered lower { packet := p, som := som, eom := eom })) := by
  unfold sendPacket
  cases packet with
  | none => exact .inl rfl
  | some p =>
      dsimp only
      unfold bufferPacketForSending
      dsimp only
      split_ifs with hactive hvalid hfull hclosed
      · exact .inl rfl
      · exact .inl rfl
      · exact .inl rfl
      · rw [Bool.not_eq_true'] at hclosed
        exact .inr ⟨p, rfl, .inl ⟨hclosed, rfl⟩⟩
      · rw [Bool.not_eq_true, Bool.not_eq_false'] at hclosed
        exact .inr ⟨p, rfl, .inr ⟨hclosed, rfl⟩⟩

theorem tpdcStep_sendCase {a : TpdcAction} (hstep : s.tpdcStep a = some s') :
    SendCase s a s' := by
  cases a with
  | sendPacket lower packet som eom =>
      cases hstep
      rcases sendPacket_cases lower s packet som eom with hnone | ⟨p, rfl, hcase⟩
      · rw [hnone]
        exact .idle (.refl s)
      · rcases hcase with ⟨hclosed, hqueued⟩ | ⟨hopen, hsent⟩
        · rw [hqueued]
          exact .queued hclosed
        · rw [hsent]
          exact .sent hopen
  | receivePacket lower message =>
      cases hstep
      unfold handleReceivedPacket
      split_ifs
      · exact .idle (.refl s)
      · cases message with
        | control tag => exact .handled
        | data seq packet => exact .idle (sameSender_bufferPacketForReceiving s seq)
  | rtoTimeout lower seq =>
      unfold tpdcStep at hstep
      dsimp only at hstep
      split_ifs at hstep with hpending
      cases hstep
      exact .timeout hpending
  | ackEvent lower =>
      unfold tpdcStep at hstep
      dsimp only at hstep
      split_ifs at hstep
      cases hstep
      exact .idle (sameSender_sendPendingAcknowledgments lower s)
  | forceRetransmission lower =>
      cases hstep
      exact .forced
  | setActive active =>
      cases hstep
      exact .idle ⟨rfl, rfl, rfl, rfl, rfl, rfl, rfl, fun _ _ h => h⟩

end Tpdc
end UeSim
