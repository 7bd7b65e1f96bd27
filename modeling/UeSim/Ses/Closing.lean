import UeSim.Ses.Effects
import UeSim.Ses.Responder

/-!
# Responses that close a request as a success

A requester closes a live request as a success on a response without an error
code, and on no other: whatever else the response says, its return code is the
one of a success.
-/

namespace UeSim
namespace SesManager

/-- The response closes its live request as a success. -/
def ClosesAsSuccess (s : SesManager) (response : PdcSesResponse) : Prop :=
  ∃ r r', Live s (responseKey response) r ∧
    (s.processReceiveResponse response).requestStates.lookup (responseKey response) = some r' ∧
    r'.terminalized = true ∧ completionSuccess r' = true

theorem terminalizeRequest_reason {s : SesManager} {key : RequestKey}
    {reason : RequestTerminalReason} {r' : RequestLifecycleState}
    (hr' : (s.terminalizeRequest key reason).requestStates.lookup key = some r') :
    r'.terminalReason = reason := by
  unfold terminalizeRequest at hr'
  cases hr : s.requestStates.lookup key with
  | none =>
      simp only [hr] at hr'
      cases hr'
  | some r =>
      simp only [hr] at hr'
      generalize ({ s with retryStates := s.retryStates.erase key } : SesManager) = s₁ at hr'
      generalize (s₁.removeBlockedRequest key).releaseDispatchBudget key = s₂ at hr'
      cases hr₂ : s₂.requestStates.lookup key with
      | none =>
          simp only [hr₂] at hr'
          cases hr'
      | some r₂ =>
          simp only [hr₂] at hr'
          rw [(closeRequest_frame s₂ key reason r₂).1, AList.lookup_insert] at hr'
          cases hr'
          rfl

/-- Only a response without an error code closes a request as a success. -/
theorem receiveLiveResponse_success {s : SesManager} {key : RequestKey}
    {r r' : RequestLifecycleState} {response : PdcSesResponse} {tag : SoftUeMetadataTag}
    (h : Live s key r)
    (hr' : (s.receiveLiveResponse key r response tag).requestStates.lookup key = some r')
    (hterm : r'.terminalized = true) (hsuccess : completionSuccess r' = true) :
    tag.returnCode = .ok := by
  have hreason : r'.terminalReason = .rcOkResponse := by
    simp only [completionSuccess, Bool.and_eq_true, decide_eq_true_eq] at hsuccess
    exact hsuccess.1
  by_contra hok
  simp only [receiveLiveResponse, if_neg hok] at hr'
  split_ifs at hr' with hmatch hdisabled
  · exact absurd (hreason.symm.trans (terminalizeRequest_reason hr')) (by decide)
  · simp only [scheduleRetry, h.lookup] at hr'
    obtain ⟨-, hlive⟩ := h.modify
      (f := retryMarked .rcNoMatch (toU16 (r.lastRetryCount + 1))) rfl
    by_cases hspent : maxRtoRetxCnt < toU16 (r.lastRetryCount + 1)
    · rw [if_pos hspent] at hr'
      exact absurd (hreason.symm.trans (terminalizeRequest_reason hr')) (by decide)
    · rw [if_neg hspent] at hr'
      cases hlive.lookup.symm.trans hr'
      exact absurd (hlive.live.symm.trans hterm) Bool.false_ne_true
  · exact absurd (hreason.symm.trans (terminalizeRequest_reason hr')) (by decide)

theorem returnCode_of_closesAsSuccess {s : SesManager} {response : PdcSesResponse}
    {packet : TaggedPacket} (hpacket : response.packet = some packet)
    (h : ClosesAsSuccess s response) : packet.metadata.returnCode = .ok := by
  obtain ⟨r, r', hlive, hr', hterm, hsuccess⟩ := h
  have hkey : responseKey response = packetKey packet := by rw [responseKey, hpacket]; rfl
  rw [hkey] at hlive hr'
  have hlive' : Live s.responseCounted (packetKey packet) r := ⟨hlive.lookup, hlive.live⟩
  simp only [processReceiveResponse, hpacket, receiveResponsePacket] at hr'
  generalize s.responseCounted = s₁ at hlive' hr'
  split_ifs at hr' with htag
  · simp only [hlive'.lookup, hlive'.live, Bool.false_eq_true, if_false] at hr'
    exact receiveLiveResponse_success hlive' hr' hterm hsuccess
  · have hsame : s₁.requestStates.lookup (packetKey packet) = some r' := hr'
    cases hlive'.lookup.symm.trans hsame
    exact absurd (hlive'.live.symm.trans hterm) Bool.false_ne_true

/-- Closing as a success, read off the records before and after. -/
theorem ClosesAsSuccess.of_records {s : SesManager} {response : PdcSesResponse}
    (hbefore : (s.requestStates.lookup (responseKey response)).map (·.terminalized) =
      some false)
    (hafter : ((s.processReceiveResponse response).requestStates.lookup
      (responseKey response)).map (fun r => r.terminalized && completionSuccess r) =
        some true) : ClosesAsSuccess s response := by
  obtain ⟨r, hr, hlive⟩ := Option.map_eq_some_iff.mp hbefore
  obtain ⟨r', hr', hclosed⟩ := Option.map_eq_some_iff.mp hafter
  rw [Bool.and_eq_true] at hclosed
  exact ⟨r, r', ⟨hr, hlive⟩, hr', hclosed.1, hclosed.2⟩

end SesManager
end UeSim
