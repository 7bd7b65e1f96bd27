import UeSim.Pdc.TpdcSystem

/-!
# Retransmission timeouts

A packet that can still be sent again should have a pending timeout.  A timeout
that fires is no longer pending, and only a retransmission that the lower layer
takes arms it again.  A retransmission that is refused after a gap NACK does no
harm, because the old timeout is still pending.
-/

namespace UeSim
namespace Tpdc

variable {lower : LowerLayer} {limit : ℕ} {sacked : ℕ → Prop} {s s' : Tpdc} {a : TpdcAction}

/-! ## The invariant -/

/-- Every packet in the send buffer that can be sent again has a pending
timeout. -/
def RetransmissionArmed (s : Tpdc) : Prop :=
  ∀ seq buffered, s.sendBuffer.lookup seq = some buffered → s.Retransmittable buffered →
    buffered.timeoutPending = true

/-- The packet whose timeout has fired, as it is handed down again. -/
def handedDown (buffered : BufferedPacket) : BufferedPacket :=
  { buffered with timeoutPending := false }.counted

/-- A timeout is followed by a retransmission that the lower layer takes, unless
it is the last one for its packet. -/
def TimeoutTaken (s : Tpdc) : TpdcAction → Prop
  | .rtoTimeout lower seq =>
      ∀ buffered, s.sendBuffer.lookup seq = some buffered → buffered.acknowledged = false →
        buffered.retransmissionCount + 1 < s.config.maxRetransmissions →
          lower.transmitsData (handedDown buffered) = true
  | _ => True

theorem RetransmissionArmed.of_same (h : s.RetransmissionArmed) (hsame : SameSender s s') :
    s'.RetransmissionArmed := by
  unfold RetransmissionArmed Retransmittable
  rw [hsame.sendBuffer, hsame.config]
  exact h

/-- A first transmission arms the timeout of its packet. -/
theorem RetransmissionArmed.sendBuffered (h : s.RetransmissionArmed)
    (buffered : BufferedPacket) : (s.sendBuffered lower buffered).1.RetransmissionArmed := by
  rw [sendBuffered_eq]
  split_ifs
  · exact KeyedMap.forall_insert h fun _ => rfl
  · intro seq b hb
    exact h seq b (KeyedMap.lookup_of_lookup_erase hb)

/-- A retransmission leaves the timeout of its packet pending, whether or not the
lower layer takes it. -/
theorem RetransmissionArmed.retransmitPacket (h : s.RetransmissionArmed) (seq : ℕ) :
    (s.retransmitPacket lower seq).RetransmissionArmed := by
  rcases retransmitPacket_cases lower s seq with ⟨hsame, -⟩ | ⟨b, hb, hagain, hsent⟩
  · rw [hsame]
    exact h
  · rw [hsent]
    refine KeyedMap.forall_insert h fun _ => ?_
    rw [retried, h seq b hb hagain, Bool.true_or]

theorem RetransmissionArmed.effect (h : s.RetransmissionArmed)
    (heff : SendEffect lower limit sacked s s') : s'.RetransmissionArmed := by
  cases heff with
  | marked marks hmarks =>
      refine KeyedMap.forall_filterMap h ?_
      rintro seq b b' harmed ⟨⟩ ⟨hacked, hcount⟩
      exact harmed ⟨(Bool.or_eq_false_iff.mp hacked).1, hcount⟩
  | advanced => exact h
  | retransmitted seq => exact h.retransmitPacket seq
  | cleaned =>
      refine KeyedMap.forall_filterMap h ?_
      intro seq b b' harmed hb'
      split_ifs at hb'
      cases hb'
      exact harmed
  | @sent buffered queue hwindow hqueue =>
      have hdequeued : RetransmissionArmed { s with sendQueue := queue } := h
      exact hdequeued.sendBuffered buffered

theorem RetransmissionArmed.effects (h : s.RetransmissionArmed)
    (heffects : SendEffects lower limit sacked s s') : s'.RetransmissionArmed :=
  heffects.invariant h fun _ _ harmed heff => harmed.effect heff

theorem RetransmissionArmed.forceRetransmission (h : s.RetransmissionArmed) :
    (s.forceRetransmission lower).RetransmissionArmed := by
  have heffects : SendEffects lower 0 (fun _ => False) s (s.forceRetransmission lower) :=
    forceRetransmission_effects s
  exact h.effects heffects

/-! ## A timeout -/

/-- The packets other than the one whose timeout fires are armed. -/
theorem lookup_timeoutFired (s : Tpdc) (seq : ℕ) {buffered : BufferedPacket}
    (hb : s.sendBuffer.lookup seq = some buffered) :
    (s.timeoutFired seq).sendBuffer =
      s.sendBuffer.insert seq { buffered with timeoutPending := false } :=
  KeyedMap.modify_of_some hb

/-- After a timeout everything is armed exactly when the lower layer took the
retransmission, or when it was the last one. -/
theorem retransmissionArmed_handleRtoTimeout_iff (h : s.RetransmissionArmed) {seq : ℕ} :
    (s.handleRtoTimeout lower seq).RetransmissionArmed ↔
      s.TimeoutTaken (.rtoTimeout lower seq) := by
  unfold handleRtoTimeout
  cases hb : s.sendBuffer.lookup seq with
  | none =>
      have hfired : s.timeoutFired seq = s := by
        simp [timeoutFired, KeyedMap.modify, hb]
      rw [hfired]
      refine iff_of_true (h.retransmitPacket seq) ?_
      intro buffered hlookup
      cases hb.symm.trans hlookup
  | some buffered =>
      have hbuffer := lookup_timeoutFired s seq hb
      rcases retransmitPacket_cases lower (s.timeoutFired seq) seq with
        ⟨hsame, hspent⟩ | ⟨b, hlookup, hagain, hsent⟩
      · rw [hsame]
        have hnot : ¬ s.Retransmittable buffered := by
          refine hspent { buffered with timeoutPending := false } ?_
          rw [hbuffer, AList.lookup_insert]
        refine iff_of_true ?_ ?_
        · unfold RetransmissionArmed
          rw [hbuffer]
          exact KeyedMap.forall_insert h fun hretry => absurd hretry hnot
        · intro b' hb' hacked hmore
          cases hb.symm.trans hb'
          exact absurd ⟨hacked, (Nat.lt_succ_self _).trans hmore⟩ hnot
      · rw [hbuffer, AList.lookup_insert, Option.some.injEq] at hlookup
        subst hlookup
        rw [hsent]
        constructor
        · intro harmed b' hb' hacked hmore
          cases hb.symm.trans hb'
          have hpending := harmed seq _ (AList.lookup_insert _) ⟨hacked, hmore⟩
          rwa [retried, Bool.false_or] at hpending
        · intro htaken
          unfold RetransmissionArmed sentAgain
          dsimp only
          rw [hbuffer, AList.insert_insert]
          refine KeyedMap.forall_insert h fun hretry => ?_
          exact htaken buffered hb hagain.1 hretry.2

/-! ## Runs -/

/-- In a run whose timeouts are followed by retransmissions that the lower layer
takes, everything is armed. -/
theorem retransmissionArmed_of_timeoutsTaken {s : Tpdc}
    (hreach : tpdcSystem.ReachableBy TimeoutTaken s) : s.RetransmissionArmed := by
  refine hreach.invariant ?_ ?_
  · intro s hfresh seq buffered hb
    rw [hfresh] at hb
    cases hb
  · intro s a s' h hguard hstep
    cases tpdcStep_sendCase hstep with
    | idle hsame => exact h.of_same hsame
    | @handled lower tag => exact h.effects (handleControlTag_effects s tag)
    | @forced lower => exact h.forceRetransmission
    | queued hclosed => exact h
    | sent hwindow => exact h.sendBuffered _
    | timeout hpending => exact (retransmissionArmed_handleRtoTimeout_iff h).mpr hguard

/-- A timeout after which the lower layer takes the packet again. -/
theorem retransmissionArmed_of_timeoutsTaken_sample :
    ∃ s, tpdcSystem.runActions {} [sampleSubmission, .rtoTimeout .willing 1] = some s ∧
      s.RetransmissionArmed := by
  obtain ⟨s, hrun⟩ : ∃ s, tpdcSystem.runActions {} [sampleSubmission, .rtoTimeout .willing 1] =
      some s := ⟨_, rfl⟩
  refine ⟨s, hrun, retransmissionArmed_of_timeoutsTaken ?_⟩
  refine TransitionSystem.ReachableBy.runActions (.init fresh_default) ?_ hrun
  intro t b hb
  rw [List.mem_cons, List.mem_singleton] at hb
  rcases hb with rfl | rfl
  · trivial
  · intro _ _ _ _
    rfl

/-- After a timeout whose retransmission is refused, a packet that was sent again
once has no pending timeout. -/
theorem timeout_lost_after_refusal :
    ∃ s, tpdcSystem.Reachable s ∧
      tpdcSystem.runActions {} [sampleSubmission, .rtoTimeout .refusing 1] = some s ∧
      ¬ s.RetransmissionArmed := by
  obtain ⟨s, hrun⟩ : ∃ s, tpdcSystem.runActions {} [sampleSubmission, .rtoTimeout .refusing 1] =
      some s := ⟨_, rfl⟩
  have hreach : tpdcSystem.Reachable s :=
    TransitionSystem.ReachableBy.runActions (.init fresh_default) (fun _ _ _ => trivial) hrun
  refine ⟨s, hreach, hrun, fun harmed => ?_⟩
  cases hrun
  have hpending := harmed 1 _ (AList.lookup_insert _) ⟨rfl, by decide⟩
  cases hpending

end Tpdc
end UeSim
