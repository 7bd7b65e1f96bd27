import UeSim.Ses.Frames

/-!
# What requests carry

The metadata, the packet and the packet count of a request are fixed by the
submission that installs its record.  A property of them that every submission
establishes holds of every record, and the byte limits of the budgets and the
payload MTU never change in a step.
-/

namespace UeSim
namespace SesManager

variable {s s' : SesManager} {key : RequestKey}
variable {P : ExtendedOperationMetadata → Packet → ℕ → Prop}

/-! ## Records -/

/-- Every record carries metadata, a packet and a packet count with the property. -/
def RecordsCarry (P : ExtendedOperationMetadata → Packet → ℕ → Prop) (s : SesManager) : Prop :=
  ∀ key r, s.requestStates.lookup key = some r → P r.metadata r.packet r.totalPacketCount

theorem RecordsCarry.of_same (h : RecordsCarry P s)
    (hstates : s'.requestStates = s.requestStates) : RecordsCarry P s' := by
  unfold RecordsCarry
  rw [hstates]
  exact h

/-- A write to one record that keeps what it carries. -/
theorem RecordsCarry.replace {r r' : RequestLifecycleState} (h : RecordsCarry P s)
    (hr : s.requestStates.lookup key = some r)
    (hstates : s'.requestStates = s.requestStates.insert key r') (hcargo : SameCargo r r') :
    RecordsCarry P s' := by
  unfold RecordsCarry
  rw [hstates]
  refine KeyedMap.forall_insert h ?_
  rw [hcargo.metadata, hcargo.packet, hcargo.totalPacketCount]
  exact h key r hr

theorem RecordsCarry.effect (h : RecordsCarry P s) (heff : Effect key s s') :
    RecordsCarry P s' := by
  cases heff with
  | other hsame _ => exact h.of_same hsame.requestStates
  | progress hr _ hkeep =>
      refine h.replace hr rfl ⟨?_, ?_, ?_⟩
      · exact congrArg Standing.metadata hkeep
      · exact congrArg Standing.packet hkeep
      · exact congrArg Standing.totalPacketCount hkeep
  | retryErase | retrySet _ _ _ _ | retryUpdate _ _ _ => exact h.of_same rfl
  | grantSend hr _ _ _ _ _ | grantWrite hr _ _ _ _ _ | grantFree hr _ _ | releaseSend hr _ _
  | releaseWrite hr _ _ | link hr _ _ _ => exact h.replace hr rfl ⟨rfl, rfl, rfl⟩
  | unlink =>
      cases hr : s.requestStates.lookup key with
      | none =>
          refine h.of_same ?_
          simp [removeBlockedRequest, KeyedMap.modify, hr]
      | some r => exact h.replace hr (KeyedMap.modify_of_some hr) ⟨rfl, rfl, rfl⟩
  | close reason hr _ _ _ _ _ =>
      exact h.replace hr (closeRequest_frame s key reason _).1 ⟨rfl, rfl, rfl⟩

theorem RecordsCarry.updates (h : RecordsCarry P s) (hupd : Updates s s') :
    RecordsCarry P s' := by
  refine hupd.invariant (P := RecordsCarry P) h fun t t' h hstep => ?_
  cases hstep with
  | effect heff => exact h.effect heff
  | redispatch hlive => exact h.replace hlive.lookup rfl ⟨rfl, rfl, rfl⟩
  | wake | fire | advance => exact h.of_same rfl

/-- A step keeps what the records carry, if its submission establishes it. -/
theorem recordsCarry_step {env : Environment} {a : SesAction} (h : RecordsCarry P s)
    (hnew : ∀ m packet, s.rebuildOf a = some (m, packet) →
      P m packet (m.calculatePacketCount s.getPayloadMtu))
    (hstep : sesStep env s a = some s') : RecordsCarry P s' := by
  cases hrebuild : s.rebuildOf a with
  | none => exact h.updates (sesStep_updates hstep hrebuild)
  | some accepted =>
      obtain ⟨m, packet⟩ := accepted
      obtain ⟨s₁, hbefore, -, hafter⟩ := (sesStep_rebuild hstep hrebuild).split
      refine RecordsCarry.updates ?_ hafter
      unfold RecordsCarry
      rw [(rebuildRequest_frame s₁ (requestKey m) m packet).1]
      refine KeyedMap.forall_insert (h.updates hbefore) ?_
      have hcount : (s₁.rebuiltRequest m packet
          (s₁.requestStates.lookup (requestKey m))).totalPacketCount =
            m.calculatePacketCount s.getPayloadMtu := by
        rw [← hbefore.getPayloadMtu]
        rfl
      rw [hcount]
      exact hnew m packet hrebuild

theorem recordsCarry_initial (h : Initial s) : RecordsCarry P s := by
  intro key r hr
  simp [h.requestStates] at hr

/-! ## Limits -/

/-- Two states with the same byte limits. -/
structure SameLimits (s s' : SesManager) : Prop where
  send : s'.sendAdmissionBudget.byteLimit = s.sendAdmissionBudget.byteLimit
  write : s'.writeBudget.byteLimit = s.writeBudget.byteLimit

theorem SameLimits.of_same (hsb : s'.sendAdmissionBudget = s.sendAdmissionBudget)
    (hwb : s'.writeBudget = s.writeBudget) : SameLimits s s' :=
  ⟨by rw [hsb], by rw [hwb]⟩

theorem SameLimits.trans {s'' : SesManager} (h : SameLimits s s') (h' : SameLimits s' s'') :
    SameLimits s s'' :=
  ⟨h'.send.trans h.send, h'.write.trans h.write⟩

/-- Reservations and releases keep the limits. -/
theorem Effect.sameLimits (heff : Effect key s s') : SameLimits s s' := by
  cases heff with
  | other hsame _ => exact .of_same hsame.sendAdmissionBudget hsame.writeBudget
  | close reason _ _ _ _ _ _ =>
      obtain ⟨-, -, -, hsb, hwb⟩ := closeRequest_frame s key reason _
      exact .of_same hsb hwb
  | _ => exact ⟨rfl, rfl⟩

theorem Updates.sameLimits (hupd : Updates s s') : SameLimits s s' := by
  refine hupd.invariant (P := SameLimits s) ⟨rfl, rfl⟩ fun t t' h hstep => h.trans ?_
  cases hstep with
  | effect heff => exact heff.sameLimits
  | redispatch | wake | fire | advance => exact ⟨rfl, rfl⟩

theorem sameLimits_step {env : Environment} {a : SesAction}
    (hstep : sesStep env s a = some s') : SameLimits s s' := by
  cases hrebuild : s.rebuildOf a with
  | none => exact (sesStep_updates hstep hrebuild).sameLimits
  | some accepted =>
      obtain ⟨m, packet⟩ := accepted
      obtain ⟨s₁, hbefore, -, hafter⟩ := (sesStep_rebuild hstep hrebuild).split
      obtain ⟨-, -, -, hsb, hwb⟩ := rebuildRequest_frame s₁ (requestKey m) m packet
      exact (hbefore.sameLimits.trans (.of_same hsb hwb)).trans hafter.sameLimits

/-- The payload MTU is the same after a step. -/
theorem getPayloadMtu_step {env : Environment} {a : SesAction}
    (hstep : sesStep env s a = some s') : s'.getPayloadMtu = s.getPayloadMtu := by
  cases hrebuild : s.rebuildOf a with
  | none => exact (sesStep_updates hstep hrebuild).getPayloadMtu
  | some accepted =>
      obtain ⟨m, packet⟩ := accepted
      obtain ⟨s₁, hbefore, -, hafter⟩ := (sesStep_rebuild hstep hrebuild).split
      have hrebuilt : (s₁.rebuildRequest (requestKey m) m packet).getPayloadMtu =
          s₁.getPayloadMtu := by
        simp only [rebuildRequest, recordSemanticStart]
        split_ifs <;> rfl
      rw [hafter.getPayloadMtu, hrebuilt, hbefore.getPayloadMtu]

end SesManager
end UeSim
