import UeSim.NetDevice.MemoryAccess
import UeSim.Pds.Encounters

/-!
# Refused requests

A request that the semantic sublayer refuses is answered with an error.  A
refused SEND is claimed by its handler all the same.  Every other refusal is
reported with the boolean that also says that the semantic sublayer has no use
for the packet, and the packet delivery sublayer then delivers the packet to the
application.
-/

namespace UeSim
namespace SoftUeNetDevice

open SesManager

variable {d d' : SoftUeNetDevice} {packet : InboundPacket} {tagged : TaggedPacket}

/-- A request was answered with an error between two states. -/
def Refuses (d d' : SoftUeNetDevice) : Prop :=
  ∃ answer, d'.answers = d.answers ++ [answer] ∧ answer.returnCode ≠ .ok

/-- The application and the memory see nothing of a refused request. -/
def KeepsOut (d d' : SoftUeNetDevice) : Prop :=
  Refuses d d' → d'.delivered = d.delivered ∧ d'.ses.memory = d.ses.memory

/-- Nothing but the receive resources of a SEND can refuse the request. -/
def Passes (d : SoftUeNetDevice) (packet : TaggedPacket) : Prop :=
  d.ses.validateInboundHeader packet.header = .ok () ∧
    match packet.metadata.operationType with
    | .send => True
    | .write => d.ses.validateRma packet = .ok () ∧
        d.ses.writeBudget.admits packet.bytes.length = true
    | .read => d.ses.validateRma packet = .ok () ∧
        d.readResponderBudget.admits packet.metadata.requestLength = true
    | .deferrable => False

/-! ## What a handler does -/

/-- A request that was answered with an error and declined. -/
structure Declined (d : SoftUeNetDevice) (result : SoftUeNetDevice × Bool) : Prop where
  refuses : Refuses d result.1
  delivered : result.1.delivered = d.delivered
  declined : result.2 = false

/-- A request that was claimed: if it was answered with an error, memory is as
before. -/
structure Claimed (d : SoftUeNetDevice) (result : SoftUeNetDevice × Bool) : Prop where
  memory : Refuses d result.1 → result.1.ses.memory = d.ses.memory
  delivered : result.1.delivered = d.delivered
  claimed : result.2 = true

theorem declined_sendNack (env : Environment) (d : SoftUeNetDevice) (localFep : ℕ)
    (key : RequestKey) {returnCode : ResponseReturnCode} (h : returnCode ≠ .ok) :
    Declined d (d.sendNack env localFep key returnCode, false) := by
  have hsent := undisturbed_sendSemanticResponseForRequest env d localFep
    ⟨key, .nack, returnCode⟩ 0 [0] none
  exact ⟨⟨_, hsent.answers, h⟩, hsent.delivered, rfl⟩

/-- Whatever is answered with RC_OK is no refusal. -/
theorem claimed_of_ok (env : Environment) {localFep : ℕ} {answer : SemanticAnswer}
    {modifiedLength : ℕ} {payload : Packet} {reservedBytes : Option ℕ}
    (hok : answer.returnCode = .ok) (hanswers : d'.answers = d.answers)
    (hdelivered : d'.delivered = d.delivered) :
    Claimed d (d'.sendSemanticResponseForRequest env localFep answer modifiedLength payload
      reservedBytes, true) := by
  have hsent := undisturbed_sendSemanticResponseForRequest env d' localFep answer
    modifiedLength payload reservedBytes
  refine ⟨?_, hsent.delivered.trans hdelivered, rfl⟩
  rintro ⟨refusal, hrefusal, hcode⟩
  have hsame := hsent.answers.symm.trans hrefusal
  rw [hanswers, List.append_cancel_left_eq, List.cons.injEq] at hsame
  exact absurd (hsame.1 ▸ hok) hcode

theorem not_refuses_of_answers (h : d'.answers = d.answers) : ¬ Refuses d d' := by
  rintro ⟨answer, hanswer, -⟩
  rw [h] at hanswer
  simp at hanswer

/-- A refused SEND is claimed. -/
theorem claimed_handleIncomingSendRequest (env : Environment) (d : SoftUeNetDevice)
    (pdcId : ℕ) (packet : TaggedPacket) :
    Claimed d (d.handleIncomingSendRequest env pdcId packet) := by
  have hanswers := PdsManager.handleIncomingSendPacket_answers d.pdsView pdcId packet
  have hmemory := PdsManager.memory_of_refused d.pdsView pdcId packet
  unfold handleIncomingSendRequest
  generalize d.pdsView.handleIncomingSendPacket pdcId packet = received at hanswers hmemory
  dsimp only
  rw [hanswers.handled, Bool.not_true, Bool.false_or]
  split
  · exact ⟨fun h => absurd h (not_refuses_of_answers rfl), rfl, rfl⟩
  · by_cases hok : received.2.returnCode = .ok
    · exact claimed_of_ok env hok rfl rfl
    · have hsent := undisturbed_sendSemanticResponseForRequest env (d.setPds received.1)
        (d.setPds received.1).ses.localFep
        ⟨packetKey packet, received.2.responseOpCode, received.2.returnCode⟩
        received.2.modifiedLength [0] none
      exact ⟨fun _ => hsent.memory.trans (hmemory hok), hsent.delivered, rfl⟩

theorem handleIncomingWriteRequest_spec (env : Environment) (d : SoftUeNetDevice)
    {packet : TaggedPacket} (hwrite : packet.metadata.operationType = .write) :
    (d.ses.validateRma packet = .ok () ∧ d.ses.writeBudget.admits packet.bytes.length = true →
        Claimed d (d.handleIncomingWriteRequest env packet)) ∧
      (¬ (d.ses.validateRma packet = .ok () ∧
          d.ses.writeBudget.admits packet.bytes.length = true) →
        Declined d (d.handleIncomingWriteRequest env packet)) := by
  simp only [validateRma, hwrite, decide_true, if_true]
  unfold handleIncomingWriteRequest
  dsimp only
  cases hvalid : d.ses.validateRmaRequest packet.header packet.metadata true
      packet.bytes.length with
  | error failure =>
      exact ⟨fun h => absurd h.1 (by simp),
        fun _ => declined_sendNack env d _ _ (validateRmaRequest_error hvalid)⟩
  | ok _ =>
      cases hbudget : d.ses.writeBudget.tryReserve packet.bytes.length with
      | none =>
          have hfull := SemanticBudgetState.tryReserve_eq_none.mp hbudget
          exact ⟨fun h => absurd h.2 (by simp [hfull]),
            fun _ => declined_sendNack env d _ _ (by simp)⟩
      | some budget =>
          have hadmits := (SemanticBudgetState.tryReserve_eq_some.mp hbudget).1
          exact ⟨fun _ => claimed_of_ok env rfl rfl rfl, fun h => absurd ⟨rfl, hadmits⟩ h⟩

theorem handleIncomingReadRequest_spec (env : Environment) (d : SoftUeNetDevice)
    {packet : TaggedPacket} (hread : packet.metadata.operationType = .read) :
    (d.ses.validateRma packet = .ok () ∧
        d.readResponderBudget.admits packet.metadata.requestLength = true →
        Claimed d (d.handleIncomingReadRequest env packet)) ∧
      (¬ (d.ses.validateRma packet = .ok () ∧
          d.readResponderBudget.admits packet.metadata.requestLength = true) →
        Declined d (d.handleIncomingReadRequest env packet)) := by
  simp only [validateRma, hread, reduceCtorEq, decide_false, if_false]
  unfold handleIncomingReadRequest
  dsimp only
  cases hvalid : d.ses.validateRmaRequest packet.header packet.metadata false 0 with
  | error failure =>
      exact ⟨fun h => absurd h.1 (by simp),
        fun _ => declined_sendNack env d _ _ (validateRmaRequest_error hvalid)⟩
  | ok _ =>
      cases hbudget : d.readResponderBudget.tryReserve packet.metadata.requestLength with
      | none =>
          have hfull := SemanticBudgetState.tryReserve_eq_none.mp hbudget
          exact ⟨fun h => absurd h.2 (by simp [hfull]),
            fun _ => declined_sendNack env d _ _ (by simp)⟩
      | some budget =>
          have hadmits := (SemanticBudgetState.tryReserve_eq_some.mp hbudget).1
          exact ⟨fun _ => claimed_of_ok env rfl rfl rfl, fun h => absurd ⟨rfl, hadmits⟩ h⟩

/-- A request is claimed when it passes, and declined otherwise. -/
theorem handleIncomingRequest_spec (env : Environment) (d : SoftUeNetDevice) (pdcId : ℕ)
    (packet : TaggedPacket) :
    (d.Passes packet → Claimed d (d.handleIncomingRequest env pdcId packet)) ∧
      (¬ d.Passes packet → Declined d (d.handleIncomingRequest env pdcId packet)) := by
  unfold Passes handleIncomingRequest
  cases hheader : d.ses.validateInboundHeader packet.header with
  | error failure =>
      have hcode : failure.returnCode ≠ .ok := by
        rw [validateInboundHeader_error hheader]
        simp
      exact ⟨fun h => absurd h.1 (by simp), fun _ => declined_sendNack env d _ _ hcode⟩
  | ok _ =>
      simp only [true_and]
      cases hoperation : packet.metadata.operationType with
      | send =>
          exact ⟨fun _ => claimed_handleIncomingSendRequest env d pdcId packet,
            fun h => absurd trivial h⟩
      | write => exact handleIncomingWriteRequest_spec env d hoperation
      | read => exact handleIncomingReadRequest_spec env d hoperation
      | deferrable =>
          exact ⟨fun h => h.elim, fun _ => declined_sendNack env d _ _ (by simp)⟩

/-! ## The application -/

/-- A refused request stays away from the application and from memory exactly
when it was admitted and nothing but the receive resources of a SEND refused
it. -/
theorem keepsOut_iff (env : Environment) (d : SoftUeNetDevice) (packet : InboundPacket) :
    KeepsOut d (d.processReceivedPacket env packet) ↔
      ∀ tagged, d.admittedRequest packet = some tagged → d.Passes tagged := by
  cases hadmitted : d.admittedRequest packet with
  | none =>
      have hquiet := (unanswered_of_not_admitted env hadmitted).answers
      refine iff_of_true (fun h => absurd h (not_refuses_of_answers hquiet)) ?_
      intro tagged hnone
      cases hnone
  | some tagged =>
      have hspec := handleIncomingRequest_spec env d packet.pdcId tagged
      rw [processReceivedPacket_of_admitted env hadmitted]
      simp only [Option.some.injEq, forall_eq']
      by_cases hpasses : d.Passes tagged
      · have hclaimed := hspec.1 hpasses
        rw [if_pos hclaimed.claimed]
        exact iff_of_true (fun h => ⟨hclaimed.delivered, hclaimed.memory h⟩) hpasses
      · have hdeclined := hspec.2 hpasses
        rw [hdeclined.declined, if_neg Bool.false_ne_true]
        refine iff_of_false (fun h => ?_) hpasses
        have hdelivered := (h hdeclined.refuses).1
        simp [deliverReceivedPacket, hdeclined.delivered] at hdelivered

/-- A WRITE of one byte that names no registered region. -/
def unregisteredWrite : InboundPacket where
  pdcId := 1
  header := some { sourceEndpoint := 1, destinationEndpoint := 2, jobId := 7 }
  metadata := some { operationType := .write, messageId := 1, requestLength := 1 }
  bytes := [0, 0, 0, 0, 0, 0, 0, 9]

/-- The refused WRITE is handed to the application. -/
theorem refused_write_delivered :
    ¬ KeepsOut {} (processReceivedPacket reliable {} unregisteredWrite) := by
  intro h
  have hrefused : Refuses {} (processReceivedPacket reliable {} unregisteredWrite) :=
    ⟨⟨⟨7, 1, 1⟩, .nack, .invalidKey⟩, by decide, by decide⟩
  exact absurd (h hrefused).1 (by decide)

end SoftUeNetDevice
end UeSim
