import UeSim.Ses.Requests
import UeSim.Support.Reassembly

/-!
# The responder side of a WRITE

Each fragment of a WRITE is validated against the registered memory regions,
charged to the write budget, copied to memory and answered on its own.
-/

namespace UeSim

/-- A failed `SesManager::ValidationResult`. -/
structure ValidationFailure where
  returnCode : ResponseReturnCode
  reasonText : String
  deriving DecidableEq, Repr

namespace SesManager

/-! ## Validation -/

/-- `SesManager::ValidateInboundHeader`; every value of `OpType` is a valid
operation. -/
def validateInboundHeader (s : SesManager) (header : SoftUeHeaderTag) :
    Except ValidationFailure Unit :=
  if !header.isRudReq then .error ⟨.protocolError, "invalid_pds_type"⟩
  else if header.pdcId = 65535 ∨ 2 ^ 31 ≤ header.psn then
    .error ⟨.protocolError, "invalid_pdc_or_psn"⟩
  else if s.strictValidation ∧
      (header.jobId = 0 ∨ header.sourceEndpoint = 0 ∨ header.destinationEndpoint = 0) then
    .error ⟨.protocolError, "strict_header_validation_failed"⟩
  else .ok ()

/-- The first address that a fragment of a WRITE addresses. -/
def writeTargetAddr (tag : SoftUeMetadataTag) : ℕ :=
  toU64 (tag.remoteAddress + tag.fragmentOffset)

/-- `SesManager::ValidateRmaRequest`. -/
def validateRmaRequest (s : SesManager) (header : SoftUeHeaderTag) (tag : SoftUeMetadataTag)
    (writeRequest : Bool) (actualLength : ℕ) : Except ValidationFailure Unit :=
  match s.validateInboundHeader header with
  | .error failure => .error failure
  | .ok () =>
      if !s.allowAllJobs ∧ header.jobId ∉ s.authorizedJobs then
        .error ⟨.accessDenied, "job_not_authorized"⟩
      else
        match s.memoryRegions.lookup tag.remoteKey with
        | none => .error ⟨.invalidKey, "rkey_not_found"⟩
        | some region =>
            if (if writeRequest then !region.writable else !region.readable) then
              .error ⟨.accessDenied, "permission_denied"⟩
            else
              let remoteAddr := if writeRequest then writeTargetAddr tag else tag.remoteAddress
              let requestedLength := if writeRequest then max 1 actualLength
                else tag.requestLength
              let regionEnd := toU64 (region.startAddr + region.length)
              if remoteAddr < region.startAddr ∨
                  regionEnd < toU64 (remoteAddr + requestedLength) then
                .error ⟨.addrUnreachable, "address_out_of_range"⟩
              else .ok ()

theorem validateInboundHeader_error {s : SesManager} {header : SoftUeHeaderTag}
    {failure : ValidationFailure} (h : s.validateInboundHeader header = .error failure) :
    failure.returnCode = .protocolError := by
  unfold validateInboundHeader at h
  split_ifs at h <;> cases h <;> rfl

/-- Every refusal names an error. -/
theorem validateRmaRequest_error {s : SesManager} {header : SoftUeHeaderTag}
    {tag : SoftUeMetadataTag} {writeRequest : Bool} {actualLength : ℕ}
    {failure : ValidationFailure}
    (h : s.validateRmaRequest header tag writeRequest actualLength = .error failure) :
    failure.returnCode ≠ .ok := by
  unfold validateRmaRequest at h
  cases hheader : s.validateInboundHeader header with
  | error e =>
      simp only [hheader, Except.error.injEq] at h
      rw [← h, validateInboundHeader_error hheader]
      decide
  | ok _ =>
      simp only [hheader] at h
      by_cases hjob : (!s.allowAllJobs) = true ∧ header.jobId ∉ s.authorizedJobs
      · rw [if_pos hjob] at h
        cases h
        decide
      · rw [if_neg hjob] at h
        cases hregion : s.memoryRegions.lookup tag.remoteKey with
        | none =>
            simp only [hregion] at h
            cases h
            decide
        | some region =>
            simp only [hregion] at h
            split_ifs at h <;> cases h <;> decide

/-! ## Memory -/

/-- `SesManager::WritePacketBytesToAddress` for a whole packet: the null
address is never written. -/
def writePacketBytesToAddress (s : SesManager) (bytes : Packet) (baseAddr : ℕ) : SesManager :=
  if baseAddr = 0 then s
  else
    { s with memory := Reassembly.copyToMemory s.memory baseAddr bytes }

/-! ## Responses -/

/-- The response of `SesManager::SendSemanticResponseForRequest` without read
data: it travels as a SEND of one byte, under the length that it reports. -/
def semanticResponse (localFep : ℕ) (key : RequestKey) (opcode : ResponseOpCode)
    (returnCode : ResponseReturnCode) (modifiedLength : ℕ) : TaggedPacket where
  header :=
    { isRudReq := false
      sourceEndpoint := localFep
      destinationEndpoint := key.peerFep
      jobId := toU32 key.jobId }
  metadata :=
    { operationType := .send
      messageId := key.msgId
      requestLength := modifiedLength
      isResponse := true
      responseOpCode := opcode
      returnCode := returnCode
      modifiedLength := modifiedLength }
  bytes := [0]

/-- `SesManager::SendSemanticResponseForRequest` without read data. -/
def sendSemanticResponse (s : SesManager) (localFep : ℕ) (key : RequestKey)
    (opcode : ResponseOpCode) (returnCode : ResponseReturnCode) (modifiedLength : ℕ) :
    SesManager :=
  { s with
    responses := s.responses ++
      [semanticResponse localFep key opcode returnCode modifiedLength] }

/-- `SesManager::HandleIncomingWriteRequest`.  The budget is held only while
the bytes are copied, and giving it back wakes the peer's blocked requests. -/
def handleIncomingWriteRequest (s : SesManager) (packet : TaggedPacket) : SesManager :=
  let key := packetKey packet
  let size := packet.bytes.length
  match s.validateRmaRequest packet.header packet.metadata true size with
  | .error failure => s.sendSemanticResponse s.localFep key .nack failure.returnCode 0
  | .ok () =>
      match s.writeBudget.tryReserve size with
      | none => s.sendSemanticResponse s.localFep key .nack .resourceExhaust 0
      | some budget =>
          let s := { s with writeBudget := budget }
          let s := s.writePacketBytesToAddress packet.bytes (writeTargetAddr packet.metadata)
          let s := s.releaseWriteBudget key.peerFep size
          s.sendSemanticResponse s.localFep key .defaultResponse .ok size

/-- `SesManager::ProcessReceiveRequest` for a WRITE: a packet larger than the
payload MTU, or with the invalid context id, is dropped. -/
def receiveWriteRequest (s : SesManager) (packet : TaggedPacket) : SesManager :=
  if packet.bytes.length ≤ s.getPayloadMtu then
    match s.validateInboundHeader packet.header with
    | .error failure =>
        s.sendSemanticResponse packet.header.destinationEndpoint (packetKey packet) .nack
          failure.returnCode 0
    | .ok () => s.handleIncomingWriteRequest packet
  else { s with totalErrors := s.totalErrors + 1 }

end SesManager
end UeSim
