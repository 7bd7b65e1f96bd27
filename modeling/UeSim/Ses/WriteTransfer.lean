import UeSim.Ses.Closing
import UeSim.Ses.Retries

/-!
# A WRITE between two managers

A requester submits a WRITE, a responder writes its fragments and answers each
of them on its own.  The network keeps every fragment and every response ever
sent, and may deliver any of them at any time, any number of times or never.

The requester closes the request on the first successful response.  When the
WRITE goes out as a single fragment to an address other than zero, the payload
is in the memory of the responder by then.  With two fragments one response is
enough, and the other fragment may never arrive.
-/

namespace UeSim

open SesManager

/-! ## The two parties -/

/-- A requester and a responder.  The messages in flight are the fragments that
the requester has handed down and the responses that the responder has sent. -/
structure WriteTransfer where
  requester : SesManager
  responder : SesManager

/-- What can happen next. -/
inductive TransferAction
  /-- The application submits the WRITE, once more. -/
  | submit
  /-- A timer or a change of configuration at the requester. -/
  | requester (a : SesAction)
  /-- The clock or a change of configuration at the responder. -/
  | responder (a : SesAction)
  /-- Other traffic of the responder changes its write budget. -/
  | otherTraffic (writeBudget : SemanticBudgetState)
  /-- A fragment arrives at the responder. -/
  | deliverFragment (i : ℕ)
  /-- A response arrives at the requester; `response` is what travels with it. -/
  | deliverResponse (i : ℕ) (response : PdcSesResponse)

/-- The actions of a manager that neither submit nor receive anything. -/
def SesAction.isLocal : SesAction → Bool
  | .sendRequest _ _ | .receiveResponse _ | .receiveWrite _ => false
  | _ => true

/-- The clock and the changes of configuration. -/
def SesAction.isConfiguration : SesAction → Bool
  | .advanceClock _ | .setAuthorizeAllJobs _ | .revokeJobAuthorization _
  | .setPermissionChecker _ => true
  | _ => false

namespace WriteTransfer

/-- One action of the transfer of the WRITE `m` with the payload `packet`. -/
def transferStep (env : Environment) (m : ExtendedOperationMetadata) (packet : Packet)
    (x : WriteTransfer) : TransferAction → Option WriteTransfer
  | .submit => (sesStep env x.requester (.sendRequest m (some packet))).map fun s =>
      { x with requester := s }
  | .requester a =>
      if a.isLocal then (sesStep env x.requester a).map fun s => { x with requester := s }
      else none
  | .responder a =>
      if a.isConfiguration then
        (sesStep env x.responder a).map fun s => { x with responder := s }
      else none
  | .otherTraffic writeBudget =>
      some { x with responder := { x.responder with writeBudget := writeBudget } }
  | .deliverFragment i => x.requester.dispatched[i]?.map fun fragment =>
      { x with responder := x.responder.receiveWriteRequest fragment }
  | .deliverResponse i response => x.responder.responses[i]?.map fun packet =>
      { x with
        requester := x.requester.processReceiveResponse { response with packet := some packet } }

/-- Two managers before the WRITE: no message is in flight. -/
structure Ready (x : WriteTransfer) : Prop where
  requester : Initial x.requester
  dispatched : x.requester.dispatched = []
  responses : x.responder.responses = []

/-- The transition system of the transfer of one WRITE. -/
def transferSystem (env : Environment) (m : ExtendedOperationMetadata) (packet : Packet) :
    TransitionSystem WriteTransfer TransferAction where
  init := Ready
  step := transferStep env m packet

/-- The bytes are in memory, from the address `addr` on. -/
def Written (memory : ℕ → UInt8) (addr : ℕ) (bytes : Packet) : Prop :=
  ∀ i b, bytes[i]? = some b → memory (addr + i) = b

/-! ## The responder -/

/-- What a fragment does to the responder: nothing, or a refusal, or the bytes
are copied and the fragment is answered. -/
theorem receiveWriteRequest_cases (s : SesManager) (fragment : TaggedPacket) :
    ((s.receiveWriteRequest fragment).responses = s.responses ∧
      (s.receiveWriteRequest fragment).memory = s.memory) ∨
    (∃ response, (s.receiveWriteRequest fragment).responses = s.responses ++ [response] ∧
      response.metadata.returnCode ≠ .ok ∧
      (s.receiveWriteRequest fragment).memory = s.memory) ∨
    (∃ response, (s.receiveWriteRequest fragment).responses = s.responses ++ [response] ∧
      (s.receiveWriteRequest fragment).memory =
        (s.writePacketBytesToAddress fragment.bytes
          (writeTargetAddr fragment.metadata)).memory) := by
  unfold receiveWriteRequest
  split_ifs with hsize
  swap
  · exact .inl ⟨rfl, rfl⟩
  cases hheader : s.validateInboundHeader fragment.header with
  | error failure =>
      refine .inr (.inl ⟨_, rfl, ?_, rfl⟩)
      simp [semanticResponse, validateInboundHeader_error hheader]
  | ok _ =>
      simp only [handleIncomingWriteRequest]
      cases hvalid : s.validateRmaRequest fragment.header fragment.metadata true
          fragment.bytes.length with
      | error failure => exact .inr (.inl ⟨_, rfl, validateRmaRequest_error hvalid, rfl⟩)
      | ok _ =>
          cases s.writeBudget.tryReserve fragment.bytes.length with
          | none => exact .inr (.inl ⟨_, rfl, by simp [semanticResponse], rfl⟩)
          | some budget =>
              refine .inr (.inr ?_)
              unfold writePacketBytesToAddress
              split_ifs <;> exact ⟨_, rfl, rfl⟩

theorem written_copyToMemory (memory : ℕ → UInt8) (addr : ℕ) (bytes : Packet) :
    Written (Reassembly.copyToMemory memory addr bytes) addr bytes :=
  fun _ _ => Reassembly.copyToMemory_of_getElem

/-! ## The requester -/

/-- The metadata and the packet of a submission belong to the WRITE of `packet`
to the address `addr`. -/
structure CarriesWrite (addr : ℕ) (packet : Packet) (m : ExtendedOperationMetadata)
    (p : Packet) : Prop where
  opType : m.opType = .write
  target : toU64 m.startAddr = addr
  nonzero : addr ≠ 0
  packet : p = packet

/-- The fragment writes the whole of `packet` to the address `addr`. -/
structure WholeWrite (addr : ℕ) (packet : Packet) (fragment : TaggedPacket) : Prop where
  target : writeTargetAddr fragment.metadata = addr
  nonzero : addr ≠ 0
  bytes : fragment.bytes = packet

/-- All that the requester has submitted and handed down is the WRITE of
`packet` to the address `addr`, in a single fragment. -/
structure OnlyWrite (addr : ℕ) (packet : Packet) (s : SesManager) : Prop where
  request : ∀ key r, s.requestStates.lookup key = some r →
    CarriesWrite addr packet r.metadata r.packet ∧ r.totalPacketCount ≤ 1
  retry : ∀ key retry, s.retryStates.lookup key = some retry →
    CarriesWrite addr packet retry.metadata retry.packet
  dispatched : ∀ fragment ∈ s.dispatched, WholeWrite addr packet fragment

variable {s s' : SesManager} {key : RequestKey} {addr : ℕ} {packet : Packet}

/-- A request of at most one packet goes out as a whole. -/
theorem CarriesWrite.wholeWrite {m : ExtendedOperationMetadata} {p : Packet}
    (h : CarriesWrite addr packet m p) {payloadPerPacket count : ℕ} (hcount : count ≤ 1)
    {fragment : TaggedPacket}
    (hmem : fragment ∈ requestFragments m p payloadPerPacket (max 1 count)) :
    WholeWrite addr packet fragment := by
  have hone : max 1 count = 1 := by omega
  simp only [requestFragments, hone, List.range_one, List.map_cons, List.map_nil,
    List.mem_singleton] at hmem
  subst hmem
  constructor
  · rw [← h.target]
    simp [requestFragment, requestTags, writeTargetAddr, h.opType, toU32]
  · exact h.nonzero
  · simp [requestFragment, h.packet]

/-- A write to one record that keeps what it sends. -/
theorem OnlyWrite.keep {r r' : RequestLifecycleState} (h : OnlyWrite addr packet s)
    (hr : s.requestStates.lookup key = some r)
    (hstates : s'.requestStates = s.requestStates.insert key r') (hcargo : SameCargo r r')
    (hretries : s'.retryStates = s.retryStates) (hdispatched : s'.dispatched = s.dispatched) :
    OnlyWrite addr packet s' := by
  refine ⟨?_, hretries ▸ h.retry, hdispatched ▸ h.dispatched⟩
  rw [hstates]
  refine KeyedMap.forall_insert h.request ?_
  rw [hcargo.metadata, hcargo.packet, hcargo.totalPacketCount]
  exact h.request key r hr

theorem OnlyWrite.effect (h : OnlyWrite addr packet s) (heff : Effect key s s') :
    OnlyWrite addr packet s' := by
  cases heff with
  | other hsame hemits =>
      refine ⟨hsame.requestStates ▸ h.request, hsame.retryStates ▸ h.retry, ?_⟩
      obtain ⟨fragments, hdispatched, hsent⟩ := hemits
      rw [hdispatched]
      intro fragment hmem
      rcases List.mem_append.mp hmem with hold | hnew
      · exact h.dispatched fragment hold
      · obtain ⟨r, hlive, hfragment⟩ := hsent fragment hnew
        obtain ⟨hcarries, hcount⟩ := h.request key r hlive.lookup
        exact hcarries.wholeWrite hcount hfragment
  | progress hr _ hkeep =>
      exact h.keep hr rfl ⟨congrArg Standing.metadata hkeep, congrArg Standing.packet hkeep,
        congrArg Standing.totalPacketCount hkeep⟩ rfl rfl
  | retryErase =>
      refine ⟨h.request, fun k retry hretry => ?_, h.dispatched⟩
      by_cases hk : k = key
      · subst hk
        simp at hretry
      · exact h.retry k retry ((AList.lookup_erase_ne hk).symm.trans hretry)
  | retrySet hr _ hmeta hpacket =>
      refine ⟨h.request, KeyedMap.forall_insert h.retry ?_, h.dispatched⟩
      obtain ⟨⟨hop, htarget, hnonzero, hsame⟩, -⟩ := h.request key _ hr
      exact ⟨by rw [hmeta, hop], by rw [hmeta, htarget], hnonzero, hpacket.trans hsame⟩
  | retryUpdate hretry hmeta hpacket =>
      refine ⟨h.request, KeyedMap.forall_insert h.retry ?_, h.dispatched⟩
      rw [hmeta, hpacket]
      exact h.retry key _ hretry
  | grantSend hr _ _ _ _ _ | grantWrite hr _ _ _ _ _ | grantFree hr _ _
  | releaseSend hr _ _ | releaseWrite hr _ _ | link hr _ _ _ =>
      exact h.keep hr rfl ⟨rfl, rfl, rfl⟩ rfl rfl
  | unlink =>
      exact ⟨KeyedMap.forall_modify h.request fun r hr => hr, h.retry, h.dispatched⟩
  | close reason hr _ _ _ _ _ =>
      obtain ⟨hstates, hretries, -⟩ := closeRequest_frame s key reason _
      exact h.keep hr hstates ⟨rfl, rfl, rfl⟩ hretries (closeRequest_dispatched s key reason _)

theorem OnlyWrite.updates (h : OnlyWrite addr packet s) (hupd : Updates s s') :
    OnlyWrite addr packet s' := by
  refine hupd.invariant (P := OnlyWrite addr packet) h fun t t' h hupd => ?_
  cases hupd with
  | effect heff => exact h.effect heff
  | redispatch hlive => exact h.keep hlive.lookup rfl ⟨rfl, rfl, rfl⟩ rfl rfl
  | wake | fire | advance => exact ⟨h.request, h.retry, h.dispatched⟩

theorem OnlyWrite.rebuild {m : ExtendedOperationMetadata} {p : Packet}
    (h : OnlyWrite addr packet s) (hcarries : CarriesWrite addr packet m p)
    (hcount : m.calculatePacketCount s.getPayloadMtu ≤ 1) :
    OnlyWrite addr packet (s.rebuildRequest key m p) := by
  obtain ⟨hstates, hretries, -⟩ := rebuildRequest_frame s key m p
  refine ⟨?_, hretries ▸ h.retry, rebuildRequest_dispatched s key m p ▸ h.dispatched⟩
  rw [hstates]
  exact KeyedMap.forall_insert h.request ⟨hcarries, hcount⟩

/-- The defaults of a submission touch neither the operation nor its target. -/
theorem fillMetadata_keeps (current : ℕ) (m : ExtendedOperationMetadata) :
    (fillMetadata current m).2.opType = m.opType ∧
      (fillMetadata current m).2.startAddr = m.startAddr := by
  simp only [fillMetadata]
  split_ifs <;> exact ⟨rfl, rfl⟩

theorem acceptedRequest_keeps {m m' : ExtendedOperationMetadata} {p p' : Packet}
    (h : s.acceptedRequest m (some p) = some (m', p')) :
    m'.opType = m.opType ∧ m'.startAddr = m.startAddr ∧ p' = p := by
  have hprepared := (Option.filter_eq_some_iff.mp h).1
  obtain ⟨hop, haddr⟩ := fillMetadata_keeps s.currentMessageId m
  obtain ⟨hm, hp⟩ := Prod.mk.injEq _ _ _ _ ▸ Option.some.inj hprepared
  subst hm
  exact ⟨hop, haddr, hp.symm⟩

/-- A retry re-submits the WRITE that it belongs to. -/
theorem OnlyWrite.rebuildOf_retryEvent (h : OnlyWrite addr packet s)
    {m' : ExtendedOperationMetadata} {p' : Packet}
    (hrebuild : s.rebuildOf (.retryEvent key) = some (m', p')) :
    CarriesWrite addr packet m' p' := by
  obtain ⟨retry, hdue, haccepted⟩ := Option.bind_eq_some_iff.mp hrebuild
  obtain ⟨hop, htarget, hnonzero, hpacket⟩ := h.retry key retry (dueRetry_lookup hdue)
  obtain ⟨hop', haddr', hp'⟩ := acceptedRequest_keeps haccepted
  exact ⟨hop'.trans hop, haddr' ▸ htarget, hnonzero, hp'.trans hpacket⟩

/-- A step of the requester that submits the WRITE in a single fragment, if it
submits anything. -/
theorem OnlyWrite.step (h : OnlyWrite addr packet s) {env : Environment} {a : SesAction}
    (hstep : sesStep env s a = some s')
    (hrebuild : ∀ m' p', s.rebuildOf a = some (m', p') →
      CarriesWrite addr packet m' p' ∧ m'.calculatePacketCount s.getPayloadMtu ≤ 1) :
    OnlyWrite addr packet s' := by
  cases hnew : s.rebuildOf a with
  | none => exact h.updates (sesStep_updates hstep hnew)
  | some submitted =>
      obtain ⟨m', p'⟩ := submitted
      obtain ⟨hcarries, hcount⟩ := hrebuild m' p' hnew
      obtain ⟨s₁, hbefore, -, hafter⟩ := (sesStep_rebuild hstep hnew).split
      rw [← hbefore.getPayloadMtu] at hcount
      exact ((h.updates hbefore).rebuild hcarries hcount).updates hafter

/-! ## Runs -/

/-- The request that an action makes the requester submit, or submit again. -/
def submissionOf (m : ExtendedOperationMetadata) (packet : Packet) (x : WriteTransfer) :
    TransferAction → Option (ExtendedOperationMetadata × Packet)
  | .submit => x.requester.rebuildOf (.sendRequest m (some packet))
  | .requester a => x.requester.rebuildOf a
  | _ => none

/-- What the action makes the requester submit goes out in one fragment, to an
address other than zero. -/
def SingleFragment (m : ExtendedOperationMetadata) (packet : Packet) (x : WriteTransfer)
    (a : TransferAction) : Prop :=
  ∀ m' p', submissionOf m packet x a = some (m', p') →
    m'.calculatePacketCount x.requester.getPayloadMtu ≤ 1 ∧ toU64 m'.startAddr ≠ 0

/-- The invariant of the transfer: a successful response was sent after the
payload was written. -/
structure Faithful (addr : ℕ) (packet : Packet) (x : WriteTransfer) : Prop where
  requester : OnlyWrite addr packet x.requester
  answered : ∀ response ∈ x.responder.responses, response.metadata.returnCode = .ok →
    Written x.responder.memory addr packet

/-- A fragment that arrives keeps what is written and answers for it. -/
theorem Faithful.deliverFragment {x : WriteTransfer} (h : Faithful addr packet x)
    {fragment : TaggedPacket} (hwhole : WholeWrite addr packet fragment) :
    Faithful addr packet
      { x with responder := x.responder.receiveWriteRequest fragment } := by
  refine ⟨h.requester, fun response hmem hok => ?_⟩
  dsimp only at hmem ⊢
  rcases receiveWriteRequest_cases x.responder fragment with
    ⟨hsent, hmemory⟩ | ⟨refusal, hsent, hcode, hmemory⟩ | ⟨answer, hsent, hmemory⟩
  · rw [hmemory]
    exact h.answered response (hsent ▸ hmem) hok
  · rw [hsent, List.mem_append, List.mem_singleton] at hmem
    rw [hmemory]
    rcases hmem with hold | rfl
    · exact h.answered response hold hok
    · exact absurd hok hcode
  · rw [hmemory, hwhole.target, hwhole.bytes, writePacketBytesToAddress, if_neg hwhole.nonzero]
    exact written_copyToMemory _ _ _

theorem faithful_step {env : Environment} {m : ExtendedOperationMetadata}
    {x x' : WriteTransfer} {a : TransferAction} (hwrite : m.opType = .write)
    (h : Faithful (toU64 m.startAddr) packet x) (hguard : SingleFragment m packet x a)
    (hstep : transferStep env m packet x a = some x') :
    Faithful (toU64 m.startAddr) packet x' := by
  cases a with
  | submit =>
      simp only [transferStep, Option.map_eq_some_iff] at hstep
      obtain ⟨s, hs, rfl⟩ := hstep
      refine ⟨h.requester.step hs fun m' p' hsubmitted => ?_, h.answered⟩
      obtain ⟨hcount, hnonzero⟩ := hguard m' p' hsubmitted
      obtain ⟨hop, haddr, hp⟩ := acceptedRequest_keeps hsubmitted
      exact ⟨⟨hop.trans hwrite, by rw [haddr], haddr ▸ hnonzero, hp⟩, hcount⟩
  | requester a =>
      obtain ⟨hlocal, hstep⟩ := Option.ite_none_right_eq_some.mp hstep
      obtain ⟨s, hs, rfl⟩ := Option.map_eq_some_iff.mp hstep
      refine ⟨h.requester.step hs fun m' p' hsubmitted => ?_, h.answered⟩
      have hcount := (hguard m' p' hsubmitted).1
      cases a with
      | sendRequest _ _ => cases hlocal
      | retryEvent key => exact ⟨h.requester.rebuildOf_retryEvent hsubmitted, hcount⟩
      | _ => cases hsubmitted
  | responder a =>
      obtain ⟨hconfiguration, hstep⟩ := Option.ite_none_right_eq_some.mp hstep
      obtain ⟨s, hs, rfl⟩ := Option.map_eq_some_iff.mp hstep
      cases a with
      | advanceClock _ | setAuthorizeAllJobs _ | revokeJobAuthorization _
      | setPermissionChecker _ =>
          cases hs
          exact ⟨h.requester, h.answered⟩
      | _ => cases hconfiguration
  | otherTraffic writeBudget =>
      cases hstep
      exact ⟨h.requester, h.answered⟩
  | deliverFragment i =>
      obtain ⟨fragment, hfragment, rfl⟩ := Option.map_eq_some_iff.mp hstep
      exact h.deliverFragment
        (h.requester.dispatched fragment (List.mem_of_getElem? hfragment))
  | deliverResponse i response =>
      obtain ⟨answer, hanswer, rfl⟩ := Option.map_eq_some_iff.mp hstep
      have heff := processReceiveResponse_effects x.requester
        { response with packet := some answer }
      exact ⟨h.requester.updates heff.updates, h.answered⟩

theorem faithful_ready {x : WriteTransfer} (h : Ready x) : Faithful addr packet x := by
  refine ⟨⟨?_, ?_, ?_⟩, ?_⟩
  · simp [h.requester.requestStates]
  · simp [h.requester.retryStates]
  · simp [h.dispatched]
  · simp [h.responses]

/-- Along every run in which the WRITE goes out in one fragment to an address
other than zero, a response that closes it as a success finds the payload in the
memory of the responder. -/
theorem written_of_singleFragment (env : Environment) (m : ExtendedOperationMetadata)
    (packet : Packet) (hwrite : m.opType = .write) (x : WriteTransfer)
    (hreach : (transferSystem env m packet).ReachableBy (SingleFragment m packet) x)
    (i : ℕ) (answer : TaggedPacket) (response : PdcSesResponse)
    (hanswer : x.responder.responses[i]? = some answer)
    (hcloses : ClosesAsSuccess x.requester { response with packet := some answer }) :
    Written x.responder.memory (toU64 m.startAddr) packet := by
  have hfaithful : Faithful (toU64 m.startAddr) packet x := hreach.invariant
    (P := Faithful (toU64 m.startAddr) packet) (fun _ => faithful_ready)
    (fun _ _ _ => faithful_step hwrite)
  exact hfaithful.answered answer (List.mem_of_getElem? hanswer)
    (returnCode_of_closesAsSuccess rfl hcloses)

/-! ## A sample transfer -/

/-- A responder that lets addresses 100 to 109 be written. -/
def sampleResponder : SesManager where
  localFep := 2
  memoryRegions := (∅ : KeyedMap ℕ SimulatedMemoryRegion).insert 5
    { startAddr := 100, length := 10 }

/-- Two managers that send one byte in a fragment. -/
def sampleParties : WriteTransfer where
  requester := { payloadMtu := 1 }
  responder := sampleResponder

/-- A WRITE to address 100 of endpoint 2. -/
def sampleWrite : ExtendedOperationMetadata :=
  { sampleSend 2 1 with opType := .write, rkey := 5, startAddr := 100 }

theorem ready_sampleParties : Ready sampleParties :=
  ⟨⟨rfl, rfl, rfl, rfl, rfl, rfl, rfl, rfl, rfl, rfl⟩, rfl, rfl⟩

/-- The answer to a fragment of one byte. -/
def sampleAnswer : TaggedPacket :=
  SesManager.semanticResponse sampleResponder.localFep ⟨7, 1, 1⟩ .defaultResponse .ok 1

/-- The WRITE is submitted and its first fragment arrives. -/
def firstFragment : List TransferAction := [.submit, .deliverFragment 0]

/-- The transfer of one byte meets the condition. -/
theorem written_after_single_fragment :
    ∃ x, (transferSystem reliable sampleWrite [7]).runActions sampleParties firstFragment =
        some x ∧
      ClosesAsSuccess x.requester { packet := some sampleAnswer } ∧
      Written x.responder.memory (toU64 100) [7] := by
  obtain ⟨x, hx⟩ : ∃ x, (transferSystem reliable sampleWrite [7]).runActions sampleParties
      firstFragment = some x := Option.isSome_iff_exists.mp (by decide)
  have hend : ((transferSystem reliable sampleWrite [7]).runActions sampleParties
      firstFragment).map (fun x => (x.responder.responses[0]?,
        (x.requester.requestStates.lookup ⟨7, 1, 2⟩).map (·.terminalized),
        ((x.requester.processReceiveResponse { packet := some sampleAnswer }).requestStates.lookup
          ⟨7, 1, 2⟩).map fun r => r.terminalized && completionSuccess r)) =
      some (some sampleAnswer, some false, some true) := by decide
  rw [hx, Option.map_some, Option.some.injEq, Prod.mk.injEq, Prod.mk.injEq] at hend
  obtain ⟨hanswer, hbefore, hafter⟩ := hend
  have hcloses : ClosesAsSuccess x.requester { packet := some sampleAnswer } :=
    .of_records hbefore hafter
  refine ⟨x, hx, hcloses, ?_⟩
  obtain ⟨x₁, hsubmit, hrest⟩ := TransitionSystem.runActions_cons_eq_some.mp hx
  obtain ⟨x₂, hdeliver, hdone⟩ := TransitionSystem.runActions_cons_eq_some.mp hrest
  cases hdone
  exact written_of_singleFragment reliable sampleWrite [7] rfl x
    (.step (.deliverFragment 0)
      (.step .submit (.init ready_sampleParties)
        (by rintro m' p' hsubmitted; cases hsubmitted; decide) hsubmit)
      (fun _ _ hsubmitted => nomatch hsubmitted) hdeliver)
    0 sampleAnswer { packet := none } hanswer hcloses

/-- With two fragments the first response closes the WRITE as a success, while
its second byte has not been written. -/
theorem second_fragment_not_written :
    ∃ x, (transferSystem reliable sampleWrite [7, 9]).Reachable x ∧
      (transferSystem reliable sampleWrite [7, 9]).runActions sampleParties firstFragment =
        some x ∧
      ¬ ∀ (i : ℕ) (answer : TaggedPacket) (response : PdcSesResponse),
        x.responder.responses[i]? = some answer →
        ClosesAsSuccess x.requester { response with packet := some answer } →
          Written x.responder.memory (toU64 sampleWrite.startAddr) [7, 9] := by
  obtain ⟨x, hx⟩ : ∃ x, (transferSystem reliable sampleWrite [7, 9]).runActions sampleParties
      firstFragment = some x := Option.isSome_iff_exists.mp (by decide)
  have hend : ((transferSystem reliable sampleWrite [7, 9]).runActions sampleParties
      firstFragment).map (fun x => (x.responder.responses[0]?,
        (x.requester.requestStates.lookup ⟨7, 1, 2⟩).map (·.terminalized),
        ((x.requester.processReceiveResponse { packet := some sampleAnswer }).requestStates.lookup
          ⟨7, 1, 2⟩).map (fun r => r.terminalized && completionSuccess r),
        x.responder.memory 101)) =
      some (some sampleAnswer, some false, some true, 0) := by decide
  rw [hx, Option.map_some, Option.some.injEq, Prod.mk.injEq, Prod.mk.injEq, Prod.mk.injEq] at hend
  obtain ⟨hanswer, hbefore, hafter, hmemory⟩ := hend
  refine ⟨x, ?_, hx, fun hwritten => ?_⟩
  · exact TransitionSystem.ReachableBy.runActions (.init ready_sampleParties)
      (fun _ _ _ => trivial) hx
  · have hsecond := hwritten 0 sampleAnswer { packet := none } hanswer
      (.of_records hbefore hafter) 1 9 rfl
    exact absurd (hmemory.symm.trans hsecond) (by decide)

end WriteTransfer
end UeSim
