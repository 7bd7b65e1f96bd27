import UeSim.Pdc.Reception

/-!
# Packet sizes on the two sides of a connection

A sender checks the size of a packet before the seven bytes of the `PDSHeader` are added, and
a receiver checks it with the header still on.  The two checks have the same bound: the 64
bytes of slack of `Tpdc` come after the check of `PdcBase`, which has none.
-/

namespace UeSim

namespace TpdcConfig

variable {c : TpdcConfig} {size : ℕ}

/-- A sender under the configuration can put packets on the wire: its send buffer has room and
the first sequence number is in its send window. -/
def Transmits (c : TpdcConfig) : Prop :=
  0 < c.maxSendBufferSize ∧ 1 < toU32 (1 + c.sendWindowSize)

/-- Whatever a sender does, a packet of the size passes the size validation of a receiver with
the same configuration each time that it is on the wire. -/
def WireAccepted (c : TpdcConfig) (size : ℕ) : Prop :=
  ∀ s r : Tpdc, s.config = c → r.config = c → Tpdc.tpdcSystem.Reachable s →
    ∀ seq packet, .data seq packet ∈ s.transmitted → packet.bytes.length = size →
      r.validatePacket (TpdcMessage.data seq packet).size = true

end TpdcConfig

namespace Tpdc

variable {lower : LowerLayer} {limit : ℕ} {sacked : ℕ → Prop} {s s' r : Tpdc} {a : TpdcAction}

/-! ## The two checks -/

theorem validatePacket_iff {size : ℕ} :
    s.validatePacket size = true ↔ size ≠ 0 ∧ size ≤ s.config.maxPacketSize := by
  unfold validatePacket
  rw [Bool.and_eq_true, Bool.and_eq_true, decide_eq_true_eq, decide_eq_true_eq,
    decide_eq_true_eq]
  omega

/-- The header counts for the receiver. -/
theorem validatePacket_size_iff {seq : ℕ} {packet : TpdcPacket} :
    r.validatePacket (TpdcMessage.data seq packet).size = true ↔
      packet.bytes.length + 7 ≤ r.config.maxPacketSize := by
  rw [validatePacket_iff, TpdcMessage.size]
  omega

/-- A packet that is too large with its header is refused whenever it arrives, and changes
nothing. -/
theorem handleReceivedPacket_of_oversized {seq : ℕ} {packet : TpdcPacket}
    (hsize : r.config.maxPacketSize < packet.bytes.length + 7) :
    r.handleReceivedPacket lower (.data seq packet) = (r, false) := by
  have hinvalid : r.validatePacket (TpdcMessage.data seq packet).size = false := by
    rw [← Bool.not_eq_true, validatePacket_size_iff]
    omega
  rw [handleReceivedPacket, hinvalid, if_pos (by simp)]

/-! ## Senders that never transmit -/

/-- A sender that has numbered no packet. -/
structure Silent (s : Tpdc) : Prop where
  base_pos : 1 ≤ s.sendWindowBase
  next : s.nextSendSequence = 1
  buffer : s.sendBuffer = ∅
  queue : s.config.maxSendBufferSize = 0 → s.sendQueue = []
  data : ∀ seq packet, .data seq packet ∉ s.transmitted

theorem Silent.of_same (h : Silent s) (hsame : SameSender s s') : Silent s' where
  base_pos := hsame.sendWindowBase ▸ h.base_pos
  next := hsame.nextSendSequence ▸ h.next
  buffer := hsame.sendBuffer ▸ h.buffer
  queue := by
    rw [hsame.config, hsame.sendQueue]
    exact h.queue
  data seq packet hsent := h.data seq packet (hsame.data seq packet hsent)

/-- The window of a silent sender is open only as long as nothing has moved its base. -/
theorem Silent.sends_of_open (h : Silent s)
    (hopen : s.isInSendWindow s.nextSendSequence = true) :
    1 < toU32 (1 + s.config.sendWindowSize) := by
  unfold isInSendWindow at hopen
  rw [h.next, Bool.and_eq_true, decide_eq_true_eq, decide_eq_true_eq] at hopen
  have hbase : s.sendWindowBase = 1 := le_antisymm hopen.1 h.base_pos
  rw [hbase] at hopen
  exact hopen.2

theorem Silent.effect (h : Silent s) (hnever : ¬ s.config.Transmits)
    (heff : SendEffect lower limit sacked s s') : Silent s' := by
  cases heff with
  | marked marks hmarks =>
      refine ⟨h.base_pos, h.next, ?_, h.queue, h.data⟩
      rw [markAcknowledged, h.buffer]
      rfl
  | advanced => exact ⟨h.base_pos.trans (le_max_left _ _), h.next, h.buffer, h.queue, h.data⟩
  | retransmitted seq =>
      rcases retransmitPacket_cases lower s seq with ⟨hsame, -⟩ | ⟨b, hb, -⟩
      · rw [hsame]
        exact h
      · rw [h.buffer] at hb
        cases hb
  | cleaned =>
      refine ⟨h.base_pos, h.next, ?_, h.queue, h.data⟩
      rw [cleanupAcknowledgedPackets, h.buffer]
      rfl
  | @sent buffered queue hwindow hqueue =>
      have hfull : s.config.maxSendBufferSize = 0 := by
        by_contra hroom
        exact hnever ⟨Nat.pos_of_ne_zero hroom, h.sends_of_open hwindow⟩
      rw [h.queue hfull] at hqueue
      exact absurd hqueue.eq_nil (List.cons_ne_nil _ _)

theorem Silent.effects (h : Silent s) (hnever : ¬ s.config.Transmits)
    (heffects : SendEffects lower limit sacked s s') : Silent s' := by
  have hinvariant : Silent s' ∧ ¬ s'.config.Transmits := by
    refine heffects.invariant (P := fun t => Silent t ∧ ¬ t.config.Transmits) ⟨h, hnever⟩ ?_
    rintro t t' ⟨hsilent, hnever⟩ heff
    exact ⟨hsilent.effect hnever heff, by rwa [heff.sameReceiver.config]⟩
  exact hinvariant.1

/-- Without room in the send buffer a submission fails. -/
theorem sendPacket_of_noRoom (hfull : s.config.maxSendBufferSize = 0)
    (packet : Option TpdcPacket) (som eom : Bool) :
    s.sendPacket lower packet som eom = (s, false) := by
  unfold sendPacket bufferPacketForSending
  cases packet with
  | none => rfl
  | some packet =>
      dsimp only
      rw [hfull, if_pos (Nat.zero_le _)]
      split_ifs <;> rfl

theorem Silent.step (h : Silent s) (hnever : ¬ s.config.Transmits)
    (hstep : s.tpdcStep a = some s') : Silent s' := by
  cases tpdcStep_sendCase hstep with
  | idle hsame => exact h.of_same hsame
  | handled => exact h.effects hnever (handleControlTag_effects s _)
  | @forced lower =>
      have heffects : SendEffects lower 0 (fun _ => False) s (s.forceRetransmission lower) :=
        forceRetransmission_effects s
      exact h.effects hnever heffects
  | @queued lower packet som eom hclosed =>
      by_cases hfull : s.config.maxSendBufferSize = 0
      · rw [tpdcStep, sendPacket_of_noRoom hfull, Option.some.injEq] at hstep
        exact hstep ▸ h
      · exact ⟨h.base_pos, h.next, h.buffer, fun hzero => absurd hzero hfull, h.data⟩
  | @sent lower packet som eom hwindow =>
      have hfull : s.config.maxSendBufferSize = 0 := by
        by_contra hroom
        exact hnever ⟨Nat.pos_of_ne_zero hroom, h.sends_of_open hwindow⟩
      rw [tpdcStep, sendPacket_of_noRoom hfull, Option.some.injEq] at hstep
      exact hstep ▸ h
  | @timeout lower seq hpending =>
      unfold timeoutPendingFor at hpending
      rw [h.buffer] at hpending
      cases hpending

/-- A sender that can never transmit never does. -/
theorem silent_of_reachable (hreach : tpdcSystem.Reachable s) (hnever : ¬ s.config.Transmits) :
    Silent s := by
  have hinvariant : ¬ s.config.Transmits → Silent s := by
    refine hreach.invariant (P := fun t => ¬ t.config.Transmits → Silent t) ?_ ?_
    · intro s hfresh _
      rw [hfresh]
      exact ⟨le_rfl, rfl, rfl, fun _ => rfl, fun _ _ => List.not_mem_nil⟩
    · intro s a s' h _ hstep hnever
      rw [config_step hstep] at hnever
      exact (h hnever).step hnever hstep
  exact hinvariant hnever

/-! ## Senders that transmit -/

/-- The packet that a fresh context is asked to send. -/
def zeros (size : ℕ) : TpdcPacket := { bytes := List.replicate size 0 }

/-- The first packet of a context that can transmit goes on the wire as it is. -/
theorem transmitted_zeros {c : TpdcConfig} (hsends : c.Transmits) {size : ℕ}
    (hvalid : ({ config := c } : Tpdc).validatePacket size = true) :
    ∃ s, tpdcSystem.Reachable s ∧ s.config = c ∧
      s.transmitted = [.data 1 (zeros size)] := by
  have hroom : ¬ c.maxSendBufferSize ≤ 0 := not_le.mpr hsends.1
  have hopen : ({ config := c } : Tpdc).isInSendWindow 1 = true := by
    rw [isInSendWindow, Bool.and_eq_true]
    exact ⟨rfl, decide_eq_true hsends.2⟩
  have hlength : (zeros size).bytes.length = size := List.length_replicate
  have hsent : ({ config := c } : Tpdc).sendPacket .willing (some (zeros size)) true true =
      ({ config := c } : Tpdc).sendBuffered .willing
        { packet := zeros size, som := true, eom := true } := by
    rw [sendPacket, hlength, hvalid, bufferPacketForSending, hopen]
    exact if_neg hroom
  have hfresh : tpdcSystem.init ({ config := c } : Tpdc) := rfl
  refine ⟨_, .step (.sendPacket .willing (some (zeros size)) true true) (.init hfresh) trivial
    rfl, ?_, ?_⟩
  · rw [hsent, sendBuffered_eq]
    rfl
  · rw [hsent, sendBuffered_eq]
    rfl

/-! ## The gap between the checks -/

/-- A packet of a size that a sender accepts passes the validation of a receiver on every
transmission if and only if it is within the bound with its header, or no packet is ever
transmitted. -/
theorem wireAccepted_iff (c : TpdcConfig) (size : ℕ)
    (hvalid : ({ config := c } : Tpdc).validatePacket size = true) :
    c.WireAccepted size ↔ size + 7 ≤ c.maxPacketSize ∨ ¬ c.Transmits := by
  constructor
  · intro haccepted
    by_cases hsends : c.Transmits
    · obtain ⟨s, hreach, hconfig, htransmitted⟩ := transmitted_zeros hsends hvalid
      have hpasses := haccepted s { config := c } hconfig rfl hreach 1 (zeros size)
        (by simp [htransmitted]) List.length_replicate
      rw [validatePacket_size_iff, zeros, List.length_replicate] at hpasses
      exact .inl hpasses
    · exact .inr hsends
  · rintro hcondition s r hs hr hreach seq packet hsent hsize
    rcases hcondition with hfits | hnever
    · rw [validatePacket_size_iff, hsize, hr]
      exact hfits
    · rw [← hs] at hnever
      exact absurd hsent ((silent_of_reachable hreach hnever).data seq packet)

/-- A packet of 1400 bytes under the default configuration. -/
theorem wireAccepted_iff_sample : ({} : TpdcConfig).WireAccepted 1400 :=
  (wireAccepted_iff {} 1400 (by decide)).mpr (.inl (by decide))

/-- A packet of 1500 bytes is within the bound of its sender, and its receiver under the
default configuration refuses it. -/
theorem full_packet_refused :
    ({} : Tpdc).validatePacket 1500 = true ∧ ¬ ({} : TpdcConfig).WireAccepted 1500 := by
  have hvalid : ({} : Tpdc).validatePacket 1500 = true := by decide
  refine ⟨hvalid, fun haccepted => ?_⟩
  obtain ⟨s, hreach, hconfig, htransmitted⟩ :=
    transmitted_zeros (c := {}) ⟨by decide, by decide⟩ hvalid
  have hpasses := haccepted s {} hconfig rfl hreach 1 (zeros 1500) (by simp [htransmitted])
    List.length_replicate
  rw [validatePacket_size_iff, zeros, List.length_replicate] at hpasses
  exact absurd hpasses (by decide)

end Tpdc
end UeSim
