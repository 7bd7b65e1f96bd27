import UeSim.Pds.UnexpectedSends
import UeSim.Ses.Closing

/-!
# SENDs that arrive in fragments

A receiver takes in the fragments of any number of SEND attempts, in any order,
each of them any number of times or never, while receives are posted, read data
arrives, and receive resources are taken and given back.

Each fragment that opens a context is admitted or refused on its own, and a
refused fragment is discarded.  So one fragment of an attempt can be answered as a
success although another one was refused, or is kept in another context, or was
pruned, and the requester then closes the SEND as a success.
-/

namespace UeSim

open SesManager

/-! ## The receiver -/

/-- One attempt of a SEND, as `DispatchRequestPackets` hands it down. -/
structure SendAttempt where
  metadata : ExtendedOperationMetadata
  packet : Packet
  payloadPerPacket : ℕ

namespace SendAttempt

/-- The fragments of an attempt. -/
def fragments (attempt : SendAttempt) : List TaggedPacket :=
  requestFragments attempt.metadata attempt.packet attempt.payloadPerPacket
    (max 1 (attempt.metadata.calculatePacketCount attempt.payloadPerPacket))

/-- The key of the receive context of an attempt on a delivery context. -/
def key (attempt : SendAttempt) (pdcId : ℕ) : RxMessageKey :=
  rxMessageKey .send (requestTags attempt.metadata 0).1 (requestTags attempt.metadata 0).2 pdcId

/-- The key of the message of an attempt. -/
def lookupKey (attempt : SendAttempt) : ReceiveLookupKey := (attempt.key 0).lookupKey

/-- The receiver cuts the message of the attempt into the chunks that are its fragments. -/
structure CutAlike (attempt : SendAttempt) (s : PdsManager) : Prop where
  expectedChunks :
    s.computeExpectedChunks attempt.metadata.payloadBytes = attempt.fragments.length
  chunkIndex : ∀ i < attempt.fragments.length,
    toU32 (i * attempt.payloadPerPacket) / max 1 s.computePayloadPerPacket = i

variable {attempt : SendAttempt} {packet : TaggedPacket} {i : ℕ}

/-- The header and the metadata of a fragment. -/
theorem tags_fragment (h : attempt.fragments[i]? = some packet) :
    packet.header = (requestTags attempt.metadata (toU32 (i * attempt.payloadPerPacket))).1 ∧
      packet.metadata =
        (requestTags attempt.metadata (toU32 (i * attempt.payloadPerPacket))).2 := by
  unfold fragments requestFragments at h
  rw [List.getElem?_map] at h
  obtain ⟨j, hj, rfl⟩ := Option.map_eq_some_iff.mp h
  obtain ⟨-, rfl⟩ := List.getElem?_eq_some_iff.mp hj
  rw [List.getElem_range]
  exact ⟨rfl, rfl⟩

/-- All fragments on one delivery context belong to one receive context. -/
theorem key_fragment (h : attempt.fragments[i]? = some packet) (pdcId : ℕ) :
    rxMessageKey .send packet.header packet.metadata pdcId = attempt.key pdcId := by
  obtain ⟨hheader, hmetadata⟩ := tags_fragment h
  rw [hheader, hmetadata]
  rfl

theorem requestLength_fragment (h : attempt.fragments[i]? = some packet) :
    packet.metadata.requestLength = attempt.metadata.payloadBytes := by
  rw [(tags_fragment h).2]
  rfl

/-- Where the receiver cuts alike, a fragment is stored in its own chunk. -/
theorem CutAlike.chunkIndex_fragment {s : PdsManager} (hcut : attempt.CutAlike s)
    (h : attempt.fragments[i]? = some packet) :
    packet.metadata.fragmentOffset / max 1 s.computePayloadPerPacket = i := by
  rw [(tags_fragment h).2]
  exact hcut.chunkIndex i (List.getElem?_eq_some_iff.mp h).1

theorem CutAlike.pdsStep {s : PdsManager} (hcut : attempt.CutAlike s) (a : PdsAction) :
    attempt.CutAlike (s.pdsStep a) := by
  have hsize := PdsManager.cutsLike_pdsStep s a
  refine ⟨(hsize.computeExpectedChunks _).trans hcut.expectedChunks, ?_⟩
  rw [hsize.computePayloadPerPacket]
  exact hcut.chunkIndex

end SendAttempt

/-- A response to a fragment of an attempt. -/
structure SendAnswer where
  attempt : ℕ
  fragment : ℕ
  response : TaggedPacket
  deriving DecidableEq, Repr

/-- A fragment of an attempt that has arrived; `turnedAway` says whether it found no
place, and no resources for one. -/
structure ArrivedFragment where
  attempt : ℕ
  fragment : ℕ
  pdcId : ℕ
  turnedAway : Bool
  deriving DecidableEq, Repr

/-- The two managers of a receiver, the answers that it has sent, a record of the
fragments that have arrived, and the messages that have left a tombstone. -/
structure SendReception where
  ses : SesManager := {}
  pds : PdsManager := {}
  answers : List SendAnswer := []
  arrivals : List ArrivedFragment := []
  completed : List ReceiveLookupKey := []

/-- What can happen at the receiver. -/
inductive ReceptionAction
  /-- A fragment of an attempt arrives on a delivery context. -/
  | fragment (attempt index pdcId : ℕ)
  /-- Anything else happens to the receive side: posts, other packets, pruning,
  new limits, or the passing of time. -/
  | receiver (a : PdsAction)

namespace SesManager

/-- `SesManager::HandleIncomingSendRequest`: a fragment is answered when the
packet delivery sublayer asks for it. -/
def handleIncomingSendRequest (s : SesManager) (pds : PdsManager) (pdcId : ℕ)
    (packet : TaggedPacket) : SesManager × PdsManager :=
  let received := pds.handleIncomingSendPacket pdcId packet
  let result := received.2
  (if result.handled && result.responseReady then
      s.sendSemanticResponse s.localFep (packetKey packet) result.responseOpCode result.returnCode
        result.modifiedLength
    else s,
    received.1)

end SesManager

namespace SendReception

variable {attempts : ℕ → SendAttempt} {A : ℕ} {x x' : SendReception}

/-- The arrival of a fragment of an attempt. -/
def receiveFragment (x : SendReception) (attempt index pdcId : ℕ) (packet : TaggedPacket) :
    SendReception :=
  let received := x.ses.handleIncomingSendRequest x.pds pdcId packet
  { ses := received.1
    pds := received.2
    answers := x.answers ++ (received.1.responses.drop x.ses.responses.length).map
      fun response => { attempt := attempt, fragment := index, response := response }
    arrivals := x.arrivals ++
      [{ attempt := attempt
         fragment := index
         pdcId := pdcId
         turnedAway := decide (x.pds.pruneReceiveState.TurnsAway
          (rxMessageKey .send packet.header packet.metadata pdcId)
          packet.metadata.requestLength) }]
    completed := x.completed ++ received.2.rememberedSends }

/-- One action at the receiver of the given attempts. -/
def receptionStep (attempts : ℕ → SendAttempt) (x : SendReception) :
    ReceptionAction → Option SendReception
  | .fragment attempt index pdcId =>
      (attempts attempt).fragments[index]?.map (x.receiveFragment attempt index pdcId)
  | .receiver a =>
      some { x with
        pds := x.pds.pdsStep a
        completed := x.completed ++ (x.pds.pdsStep a).rememberedSends }

/-- A receiver that has run before, with nothing left of an earlier message under the key
of the attempt, before the first fragment of the attempts. -/
structure Ready (attempt : SendAttempt) (x : SendReception) : Prop where
  answers : x.answers = []
  arrivals : x.arrivals = []
  completed : x.completed = []
  reachable : PdsManager.pdsSystem.Reachable x.pds
  forgotten : PdsManager.Forgotten attempt.lookupKey x.pds
  cutAlike : attempt.CutAlike x.pds

/-- The transition system of the receiver of the given attempts, of which attempt `A` is
watched. -/
def receptionSystem (attempts : ℕ → SendAttempt) (A : ℕ) :
    TransitionSystem SendReception ReceptionAction where
  init := Ready (attempts A)
  step := receptionStep attempts

/-! ## The property -/

/-- Another fragment of the same attempt. -/
def Sibling (answer other : SendAnswer) : Prop :=
  other.attempt = answer.attempt ∧ other.fragment ≠ answer.fragment

/-- An answer that refuses its fragment. -/
def Refuses (answer : SendAnswer) : Prop := answer.response.metadata.responseOpCode = .nack

/-- The fragment of an attempt has arrived. -/
def Arrived (x : SendReception) (attempt fragment : ℕ) : Prop :=
  ∃ arrival ∈ x.arrivals, arrival.attempt = attempt ∧ arrival.fragment = fragment

/-- The receiver has a context with a place for every fragment of the attempt, which has
kept all those that have arrived. -/
def Gathers (attempts : ℕ → SendAttempt) (A : ℕ) (x : SendReception) (pdcId : ℕ) : Prop :=
  x.pds.HasChunks ((attempts A).key pdcId) (attempts A).fragments.length
    x.pds.computePayloadPerPacket (x.Arrived A)

/-- The attempt is not both answered as a success and refused or lost in part. -/
structure AdmittedWhole (attempts : ℕ → SendAttempt) (A : ℕ) (x : SendReception) : Prop where
  /-- When a fragment is answered as a success, none of its siblings was
  refused. -/
  receiver : ∀ accepted ∈ x.answers, accepted.attempt = A →
    accepted.response.metadata.returnCode = .ok →
      ∀ other ∈ x.answers, Sibling accepted other → ¬ Refuses other
  /-- When an answer closes the SEND at its requester as a success, the message has been
  completed, or its context can still get all of its chunks. -/
  requester : ∀ (requester : SesManager) (response : PdcSesResponse),
    ∀ accepted ∈ x.answers, accepted.attempt = A →
      ClosesAsSuccess requester { response with packet := some accepted.response } →
        (attempts A).lookupKey ∈ x.completed ∨ ∃ pdcId, Gathers attempts A x pdcId

/-- When all fragments of an attempt have arrived, the context that gathers them is
complete. -/
theorem Gathers.complete {pdcId : ℕ} (h : Gathers attempts A x pdcId)
    (hall : ∀ j < (attempts A).fragments.length, x.Arrived A j) :
    ∃ context, x.pds.rxMessageContexts.lookup ((attempts A).key pdcId) = some context ∧
      context.bufferedComplete = true := by
  obtain ⟨context, hcontext, hkeeps⟩ := h
  exact ⟨context, hcontext, hkeeps.bufferedComplete hall⟩

/-! ## The condition -/

/-- No context that a fragment of the attempt has found has gone stale. -/
def StaysFresh (attempts : ℕ → SendAttempt) (A : ℕ) (x : SendReception) : Prop :=
  ∀ arrival ∈ x.arrivals, arrival.attempt = A →
    x.pds.KeepsFresh ((attempts A).key arrival.pdcId)

/-- A further fragment of the attempt comes on the delivery context of the earlier ones.
Where these found a context or a tombstone, there is one; where they found neither, and no
resources, there are still none. -/
def JoinsEarlier (attempts : ℕ → SendAttempt) (A : ℕ) (x : SendReception) (pdcId : ℕ) : Prop :=
  ∀ arrival ∈ x.arrivals, arrival.attempt = A →
    arrival.pdcId = pdcId ∧
      if arrival.turnedAway then
        x.pds.pruneReceiveState.TurnsAway ((attempts A).key pdcId)
          (attempts A).metadata.payloadBytes
      else x.pds.pruneReceiveState.Placed ((attempts A).key pdcId)

/-- What keeps an attempt together at the receiver: its fragments join each other, its
context does not go stale before a call that prunes, and under the key of its message
there is nothing but the same fragments again. -/
def KeepsTogether (attempts : ℕ → SendAttempt) (A : ℕ) (x : SendReception) :
    ReceptionAction → Prop
  | .fragment attempt _ pdcId =>
      x.StaysFresh attempts A ∧
        ((attempts attempt).lookupKey = (attempts A).lookupKey →
          (attempts attempt).fragments = (attempts A).fragments) ∧
        (attempt = A → x.JoinsEarlier attempts A pdcId)
  | .receiver (.sendPacket pdcId packet) =>
      x.StaysFresh attempts A ∧
        (rxMessageKey .send packet.header packet.metadata pdcId).lookupKey ≠
          (attempts A).lookupKey
  | .receiver (.unregisterReadTarget _) | .receiver (.configure ..)
  | .receiver (.advanceClock _) => True
  | .receiver _ => x.StaysFresh attempts A

instance (attempts : ℕ → SendAttempt) (A : ℕ) (x : SendReception) :
    Decidable (x.StaysFresh attempts A) :=
  inferInstanceAs (Decidable (∀ arrival ∈ x.arrivals, _))

instance (attempts : ℕ → SendAttempt) (A : ℕ) (x : SendReception) (pdcId : ℕ) :
    Decidable (x.JoinsEarlier attempts A pdcId) :=
  inferInstanceAs (Decidable (∀ arrival ∈ x.arrivals, _))

instance (attempts : ℕ → SendAttempt) (A : ℕ) (x : SendReception) :
    ∀ a, Decidable (KeepsTogether attempts A x a)
  | .fragment .. => inferInstanceAs (Decidable (_ ∧ _))
  | .receiver (.sendPacket ..) => inferInstanceAs (Decidable (_ ∧ _))
  | .receiver (.unregisterReadTarget _) | .receiver (.configure ..)
  | .receiver (.advanceClock _) => inferInstanceAs (Decidable True)
  | .receiver (.readResponsePacket ..) | .receiver (.postReceive ..)
  | .receiver (.registerReadTarget ..) | .receiver .prune =>
      inferInstanceAs (Decidable (x.StaysFresh attempts A))

/-! ## The invariant -/

/-- The record explains an answer: a fragment that was turned away is not answered as a
success, and no other one is refused. -/
structure Explains (record : ArrivedFragment) (answer : SendAnswer) : Prop where
  success : answer.response.metadata.returnCode = .ok → record.turnedAway = false
  refusal : Refuses answer → record.turnedAway = true

/-- The message of the attempt has been completed, or it is gathered where the fragment
has arrived. -/
def Secured (attempts : ℕ → SendAttempt) (A : ℕ) (x : SendReception) (pdcId : ℕ) : Prop :=
  (attempts A).lookupKey ∈ x.completed ∨ Gathers attempts A x pdcId

/-- What the steps of a run keep in which the attempt is kept together. -/
structure Kept (attempts : ℕ → SendAttempt) (A : ℕ) (x : SendReception) : Prop where
  reachable : PdsManager.pdsSystem.Reachable x.pds
  cutAlike : (attempts A).CutAlike x.pds
  tombstones : (attempts A).lookupKey ∈ x.pds.rememberedSends →
    (attempts A).lookupKey ∈ x.completed
  alike : ∀ record ∈ x.arrivals, ∀ record' ∈ x.arrivals, record.attempt = A →
    record'.attempt = A → record.turnedAway = record'.turnedAway
  answered : ∀ answer ∈ x.answers, answer.attempt = A →
    ∃ record ∈ x.arrivals, record.attempt = A ∧ Explains record answer ∧
      (answer.response.metadata.returnCode = .ok → Secured attempts A x record.pdcId)

/-- The answer to a fragment is explained by what the fragment meets. -/
theorem handleIncomingSendRequest_answer {ses : SesManager} {pds : PdsManager} {pdcId : ℕ}
    {packet response : TaggedPacket}
    (h : response ∈
      (ses.handleIncomingSendRequest pds pdcId packet).1.responses.drop ses.responses.length) :
    (response.metadata.returnCode = .ok → (pds.sendEncounter pdcId packet).Favourable) ∧
    (response.metadata.responseOpCode = .nack →
      pds.sendEncounter pdcId packet = .shortage) := by
  obtain ⟨hhandled, hready, hnack, hok⟩ := pds.handleIncomingSendPacket_answers pdcId packet
  unfold handleIncomingSendRequest at h
  generalize pds.sendEncounter pdcId packet = encounter at hready hnack hok ⊢
  generalize pds.handleIncomingSendPacket pdcId packet = received at *
  dsimp only at h
  split_ifs at h with hanswered
  · have hmet : encounter ≠ .underway := hready.mp (by simpa [hhandled] using hanswered)
    simp only [sendSemanticResponse, List.drop_left', List.mem_singleton] at h
    subst h
    cases encounter with
    | shortage => exact ⟨fun hcode => absurd hcode (hnack rfl).2, fun _ => rfl⟩
    | underway => exact absurd rfl hmet
    | remembered => exact ⟨fun _ => .inl rfl, fun hcode => absurd hcode (hok nofun).1⟩
    | room => exact ⟨fun _ => .inr (.inl rfl), fun hcode => absurd hcode (hok nofun).1⟩
    | lastChunk => exact ⟨fun _ => .inr (.inr rfl), fun hcode => absurd hcode (hok nofun).1⟩
  · simp at h

theorem Kept.ready (h : Ready (attempts A) x) : Kept attempts A x where
  reachable := h.reachable
  cutAlike := h.cutAlike
  tombstones hmem := absurd hmem h.forgotten.not_mem_rememberedSends
  alike record hrecord := by
    rw [h.arrivals] at hrecord
    cases hrecord
  answered answer hanswer := by
    rw [h.answers] at hanswer
    cases hanswer

/-- What the receiver has after a step secures the attempt. -/
theorem secured_of_step {pdcId : ℕ}
    (hcompleted : x'.completed = x.completed ++ x'.pds.rememberedSends)
    (h : (attempts A).lookupKey ∈ x.completed ∨ x'.pds.Recalls (attempts A).lookupKey ∨
      Gathers attempts A x' pdcId) : Secured attempts A x' pdcId := by
  unfold Secured
  rw [hcompleted]
  rcases h with hold | hrecalls | hgathers
  · exact .inl (List.mem_append_left _ hold)
  · exact .inl (List.mem_append_right _ hrecalls.mem_rememberedSends)
  · exact .inr hgathers

/-! ## Any other call -/

/-- A call that is no fragment of the message leaves the attempt gathered, or completes its
message. -/
theorem Gathers.pdsStep {a : PdsAction} {record : ArrivedFragment}
    (h : Gathers attempts A x record.pdcId) (hguard : KeepsTogether attempts A x (.receiver a))
    (hmem : record ∈ x.arrivals) (hattempt : record.attempt = A) :
    (x.pds.pdsStep a).Recalls (attempts A).lookupKey ∨
      (x.pds.pdsStep a).HasChunks ((attempts A).key record.pdcId) (attempts A).fragments.length
        (x.pds.pdsStep a).computePayloadPerPacket (x.Arrived A) := by
  rw [(PdsManager.cutsLike_pdsStep x.pds a).computePayloadPerPacket]
  have hpruning (hfresh : x.StaysFresh attempts A)
      (hother : ¬PdsManager.TakesIn a ((attempts A).key record.pdcId)) :
      (x.pds.pdsStep a).Recalls (attempts A).lookupKey ∨
        (x.pds.pdsStep a).HasChunks ((attempts A).key record.pdcId)
          (attempts A).fragments.length x.pds.computePayloadPerPacket (x.Arrived A) :=
    PdsManager.HasChunks.pdsStep_of_other h rfl (hfresh record hmem hattempt) a hother
  cases a with
  | sendPacket pdcId packet =>
      refine hpruning hguard.1 ?_
      rintro ⟨pdcId', packet', ha, hkey⟩
      cases ha
      exact hguard.2 (congrArg RxMessageKey.lookupKey hkey).symm
  | readResponsePacket | postReceive | registerReadTarget | prune =>
      refine hpruning hguard ?_
      rintro ⟨pdcId', packet', ha, -⟩
      cases ha
  | unregisterReadTarget | configure | advanceClock => exact .inr h

theorem Kept.receiver (h : Kept attempts A x) {a : PdsAction}
    (hguard : KeepsTogether attempts A x (.receiver a)) :
    Kept attempts A { x with
      pds := x.pds.pdsStep a
      completed := x.completed ++ (x.pds.pdsStep a).rememberedSends } where
  reachable := .step a h.reachable trivial rfl
  cutAlike := h.cutAlike.pdsStep a
  tombstones hmem := List.mem_append_right _ hmem
  alike := h.alike
  answered answer hanswer hattempt := by
    obtain ⟨record, hmem, hrecord, hexplains, hsecured⟩ := h.answered answer hanswer hattempt
    refine ⟨record, hmem, hrecord, hexplains, fun hok => secured_of_step (x := x) rfl ?_⟩
    refine (hsecured hok).imp_right fun hgathers => ?_
    exact hgathers.pdsStep hguard hmem hrecord

/-! ## A fragment -/

variable {B i pdcId : ℕ} {packet : TaggedPacket}

theorem arrived_receiveFragment {j : ℕ}
    (h : (x.receiveFragment B i pdcId packet).Arrived A j) :
    x.Arrived A j ∨ B = A ∧ j = i := by
  obtain ⟨record, hmem, hattempt, rfl⟩ := h
  rcases List.mem_append.mp hmem with hold | hnew
  · exact .inl ⟨record, hold, hattempt, rfl⟩
  · obtain rfl := List.mem_singleton.mp hnew
    exact .inr ⟨hattempt, rfl⟩

/-- A fragment of any attempt leaves the attempt gathered, or its message is completed. -/
theorem Kept.gathers_receiveFragment (h : Kept attempts A x) {record : ArrivedFragment}
    (hpacket : (attempts B).fragments[i]? = some packet)
    (hguard : KeepsTogether attempts A x (.fragment B i pdcId)) (hmem : record ∈ x.arrivals)
    (hattempt : record.attempt = A) (hgathers : Gathers attempts A x record.pdcId) :
    (attempts A).lookupKey ∈ x.completed ∨
      (x.receiveFragment B i pdcId packet).pds.Recalls (attempts A).lookupKey ∨
        Gathers attempts A (x.receiveFragment B i pdcId packet) record.pdcId := by
  obtain ⟨hfresh, hsame, hjoins⟩ := hguard
  have hpds : (x.receiveFragment B i pdcId packet).pds =
      x.pds.pdsStep (.sendPacket pdcId packet) := rfl
  have hkey := SendAttempt.key_fragment hpacket pdcId
  unfold Gathers at hgathers ⊢
  rw [hpds, (PdsManager.cutsLike_pdsStep x.pds _).computePayloadPerPacket]
  have hkeepsFresh := hfresh record hmem hattempt
  by_cases hown : (attempts A).key record.pdcId = (attempts B).key pdcId
  · -- The fragment is one of the message, on the delivery context of the attempt.
    have hfragments := hsame (congrArg RxMessageKey.lookupKey hown).symm
    rw [hfragments] at hpacket
    rw [hown, ← hkey] at hgathers hkeepsFresh ⊢
    have hlookup : (attempts A).lookupKey =
        (rxMessageKey .send packet.header packet.metadata pdcId).lookupKey := by
      rw [hkey, ← hown]
      rfl
    rw [hlookup]
    cases hremembered : x.pds.pruneReceiveState.completedSend
        (rxMessageKey .send packet.header packet.metadata pdcId) with
    | some tombstone =>
        refine .inl (hlookup ▸ h.tombstones (hlookup ▸ PdsManager.mem_rememberedSends ?_))
        exact PdsManager.completedSend_prune (by rw [hremembered]; rfl)
    | none =>
        refine .inr ((hgathers.pdsStep_sendPacket hkeepsFresh hremembered
          (List.getElem?_eq_some_iff.mp hpacket).1
          (h.cutAlike.chunkIndex_fragment hpacket)).imp_right fun hchunks => ?_)
        exact hchunks.mono fun j hj => (arrived_receiveFragment hj).imp_right And.right
  · have hother : ¬PdsManager.TakesIn (.sendPacket pdcId packet)
        ((attempts A).key record.pdcId) := by
      rintro ⟨pdcId', packet', ha, hkey'⟩
      cases ha
      exact hown (hkey'.trans hkey)
    refine .inr ((PdsManager.HasChunks.pdsStep_of_other hgathers rfl hkeepsFresh
      (.sendPacket pdcId packet) hother).imp_right fun hchunks => ?_)
    refine hchunks.mono fun j hj => (arrived_receiveFragment hj).resolve_right ?_
    rintro ⟨rfl, -⟩
    exact hown (by rw [(hjoins rfl record hmem hattempt).1])

/-- A fragment that is accepted as unexpected is the first of its attempt. -/
theorem Kept.not_arrived_of_room (h : Kept attempts A x)
    (hpacket : (attempts A).fragments[i]? = some packet)
    (hjoins : x.JoinsEarlier attempts A pdcId)
    (hroom : x.pds.sendEncounter pdcId packet = .room) :
    ∀ record ∈ x.arrivals, record.attempt ≠ A := by
  intro record hmem hattempt
  have hsettled := PdsManager.contextsSettled_of_reachable h.reachable
  have hplace := (PdsManager.opens_of_room hsettled hroom).1
  have haway : _ → x.pds.sendEncounter pdcId packet = .shortage :=
    (PdsManager.sendEncounter_eq_shortage_iff hsettled).mpr
  rw [SendAttempt.key_fragment hpacket] at hplace haway
  rw [SendAttempt.requestLength_fragment hpacket, hroom] at haway
  have hjoin := (hjoins record hmem hattempt).2
  split_ifs at hjoin with hturned
  · cases haway hjoin
  · exact hplace hjoin

/-- A fragment that is answered as a success secures its attempt. -/
theorem Kept.secured_receiveFragment (h : Kept attempts A x)
    (hpacket : (attempts A).fragments[i]? = some packet)
    (hjoins : x.JoinsEarlier attempts A pdcId)
    (hmet : (x.pds.sendEncounter pdcId packet).Favourable) :
    Secured attempts A (x.receiveFragment A i pdcId packet) pdcId := by
  have hkey := SendAttempt.key_fragment hpacket pdcId
  have hlookup : (rxMessageKey .send packet.header packet.metadata pdcId).lookupKey =
      (attempts A).lookupKey := by
    rw [hkey]
    rfl
  have hpds : (x.receiveFragment A i pdcId packet).pds =
      x.pds.pdsStep (.sendPacket pdcId packet) := rfl
  refine secured_of_step (x := x) rfl ?_
  rcases hmet with hmet | hmet | hmet
  · refine .inl (h.tombstones ?_)
    rw [← hlookup]
    exact PdsManager.mem_rememberedSends_of_encounter hmet
  · right
    have hopened := PdsManager.hasChunks_of_room
      (PdsManager.contextsSettled_of_reachable h.reachable) hmet
      (List.getElem?_eq_some_iff.mp hpacket).1
      (by rw [SendAttempt.requestLength_fragment hpacket]; exact h.cutAlike.expectedChunks)
      (h.cutAlike.chunkIndex_fragment hpacket)
    dsimp only at hopened
    rw [hlookup, hkey] at hopened
    unfold Gathers
    rw [hpds, (PdsManager.cutsLike_pdsStep x.pds _).computePayloadPerPacket]
    refine hopened.imp_right fun hchunks => hchunks.mono fun j hj => ?_
    -- No other fragment of the attempt has arrived yet.
    rcases arrived_receiveFragment hj with ⟨record, hmem, hattempt, -⟩ | ⟨-, hindex⟩
    · exact absurd hattempt (h.not_arrived_of_room hpacket hjoins hmet record hmem)
    · exact hindex
  · refine .inr (.inl ?_)
    rw [hpds, ← hlookup]
    exact PdsManager.recalls_of_lastChunk h.reachable hmet

theorem Kept.receiveFragment (h : Kept attempts A x)
    (hpacket : (attempts B).fragments[i]? = some packet)
    (hguard : KeepsTogether attempts A x (.fragment B i pdcId)) :
    Kept attempts A (x.receiveFragment B i pdcId packet) where
  reachable := .step (.sendPacket pdcId packet) h.reachable trivial rfl
  cutAlike := h.cutAlike.pdsStep (.sendPacket pdcId packet)
  tombstones hmem := List.mem_append_right _ hmem
  alike := by
    -- The fragment is turned away exactly when the earlier ones of its attempt were.
    have hnew : ∀ record ∈ x.arrivals, record.attempt = A → B = A →
        record.turnedAway = decide (x.pds.pruneReceiveState.TurnsAway
          (rxMessageKey .send packet.header packet.metadata pdcId)
          packet.metadata.requestLength) := by
      rintro record hmem hattempt rfl
      rw [SendAttempt.key_fragment hpacket, SendAttempt.requestLength_fragment hpacket]
      have hjoin := (hguard.2.2 rfl record hmem hattempt).2
      split_ifs at hjoin with hturned
      · rw [hturned, decide_eq_true hjoin]
      · rw [Bool.eq_false_iff.mpr hturned, decide_eq_false fun haway => haway.1 hjoin]
    intro record hrecord record' hrecord' hattempt hattempt'
    rcases List.mem_append.mp hrecord with hold | hlast <;>
      rcases List.mem_append.mp hrecord' with hold' | hlast'
    · exact h.alike record hold record' hold' hattempt hattempt'
    · obtain rfl := List.mem_singleton.mp hlast'
      exact hnew record hold hattempt hattempt'
    · obtain rfl := List.mem_singleton.mp hlast
      exact (hnew record' hold' hattempt' hattempt).symm
    · rw [List.mem_singleton.mp hlast, List.mem_singleton.mp hlast']
  answered answer hanswer hattempt := by
    rcases List.mem_append.mp hanswer with hold | hnew
    · obtain ⟨record, hmem, hrecord, hexplains, hsecured⟩ := h.answered answer hold hattempt
      refine ⟨record, List.mem_append_left _ hmem, hrecord, hexplains, fun hok =>
        secured_of_step (x := x) rfl ?_⟩
      rcases hsecured hok with hcompleted | hgathers
      · exact .inl hcompleted
      · exact h.gathers_receiveFragment hpacket hguard hmem hrecord hgathers
    · obtain ⟨response, hresponse, rfl⟩ := List.mem_map.mp hnew
      obtain rfl : B = A := hattempt
      obtain ⟨hsuccess, hrefusal⟩ := handleIncomingSendRequest_answer hresponse
      have hshortage : x.pds.sendEncounter pdcId packet = .shortage ↔ _ :=
        PdsManager.sendEncounter_eq_shortage_iff
          (PdsManager.contextsSettled_of_reachable h.reachable)
      refine ⟨_, List.mem_append_right _ (List.mem_singleton_self _), rfl, ⟨?_, ?_⟩, ?_⟩
      · intro hok
        exact decide_eq_false fun haway => (hsuccess hok).ne_shortage (hshortage.mpr haway)
      · intro hrefused
        exact decide_eq_true (hshortage.mp (hrefusal hrefused))
      · intro hok
        exact h.secured_receiveFragment hpacket (hguard.2.2 rfl) (hsuccess hok)

/-! ## Whole runs -/

theorem kept_step {a : ReceptionAction} (h : Kept attempts A x)
    (hguard : KeepsTogether attempts A x a) (hstep : receptionStep attempts x a = some x') :
    Kept attempts A x' := by
  cases a with
  | fragment attempt index pdcId =>
      obtain ⟨packet, hpacket, rfl⟩ := Option.map_eq_some_iff.mp hstep
      exact h.receiveFragment hpacket hguard
  | receiver a =>
      cases hstep
      exact h.receiver hguard

theorem Kept.admittedWhole (h : Kept attempts A x) : AdmittedWhole attempts A x where
  receiver accepted haccepted hattempt hok other hother hsibling hrefuses := by
    obtain ⟨record, hmem, hrecord, hexplains, -⟩ := h.answered accepted haccepted hattempt
    obtain ⟨record', hmem', hrecord', hexplains', -⟩ :=
      h.answered other hother (hsibling.1.trans hattempt)
    have halike := h.alike record hmem record' hmem' hrecord hrecord'
    rw [hexplains.success hok, hexplains'.refusal hrefuses] at halike
    cases halike
  requester _ _ accepted haccepted hattempt hcloses := by
    obtain ⟨record, -, -, -, hsecured⟩ := h.answered accepted haccepted hattempt
    exact (hsecured (returnCode_of_closesAsSuccess rfl hcloses)).imp_right fun hgathers =>
      ⟨record.pdcId, hgathers⟩

/-- Along every run in which an attempt is kept together at the receiver, one that is
answered or closed as a success was refused in no part, and it is completed or can still
get all of its chunks. -/
theorem admittedWhole_of_keepsTogether (attempts : ℕ → SendAttempt) (A : ℕ) (x : SendReception)
    (hreach : (receptionSystem attempts A).ReachableBy (KeepsTogether attempts A) x) :
    AdmittedWhole attempts A x :=
  Kept.admittedWhole (hreach.invariant (P := Kept attempts A) (fun _ => Kept.ready)
    fun _ _ _ => kept_step)

/-! ## Sample receptions -/

/-- A SEND of endpoint 1 to endpoint 2, in fragments of one byte. -/
def sampleAttempt (messagesId : ℕ) (bytes : Packet) : SendAttempt where
  metadata := { sampleSend 2 messagesId with payloadLength := bytes.length }
  packet := bytes
  payloadPerPacket := 1

/-- Two attempts of message 1, which has three bytes, and any number of message 2, which has
two. -/
def sampleAttempts : ℕ → SendAttempt
  | 0 | 1 => sampleAttempt 1 [7, 9, 8]
  | _ => sampleAttempt 2 [5, 6]

/-- A receiver with some arrival blocks. -/
def sampleReceiver (maxArrivalBlocks : ℕ) : SendReception where
  ses := { localFep := 2 }
  pds := { payloadMtu := 1, receivePool := { maxArrivalBlocks := maxArrivalBlocks } }

theorem ready_sampleReceiver (maxArrivalBlocks : ℕ) :
    Ready (sampleAttempts 0) (sampleReceiver maxArrivalBlocks) := by
  have hidle : (sampleReceiver maxArrivalBlocks).pds.Idle :=
    ⟨rfl, rfl, rfl, rfl, rfl, rfl, rfl, rfl, rfl⟩
  have hcuts : (sampleReceiver maxArrivalBlocks).pds.CutsLike (sampleReceiver 0).pds := ⟨rfl, rfl⟩
  refine ⟨rfl, rfl, rfl, .init hidle, hidle.forgotten _,
    (hcuts.computeExpectedChunks _).trans (by decide), fun i hi => ?_⟩
  change i < 3 at hi
  change toU32 (i * 1) / max 1 1 = i
  rw [toU32_of_lt (by omega), Nat.mul_one, max_self, Nat.div_one]

/-- Message 2 has a posted receive and comes between the fragments of message 1, which is
unexpected; its first fragment comes again in another attempt, and later on another delivery
context. -/
def interleaved : List ReceptionAction :=
  [.receiver (.postReceive ⟨7, 2, 1⟩ 100 2), .fragment 2 0 3, .fragment 0 0 3,
    .receiver (.advanceClock 100000000), .fragment 1 0 3, .fragment 2 1 3, .fragment 0 2 3,
    .receiver (.configure 1 3 1 80), .fragment 1 1 4, .fragment 0 1 3]

/-- The success of an unexpected message that meets the condition. -/
theorem admittedWhole_interleaved :
    ∃ x, (receptionSystem sampleAttempts 0).runActions (sampleReceiver 2) interleaved = some x ∧
      x.answers.map (fun answer => (answer.attempt, answer.fragment,
        answer.response.metadata.returnCode)) =
        [(0, 0, .ok), (2, 1, .ok), (1, 1, .resourceExhaust)] ∧
      (sampleAttempts 0).lookupKey ∉ x.completed ∧ AdmittedWhole sampleAttempts 0 x := by
  have hguarded : (receptionSystem sampleAttempts 0).GuardedRun
      (KeepsTogether sampleAttempts 0) (sampleReceiver 2) interleaved := by decide +kernel
  have hend : ((receptionSystem sampleAttempts 0).runActions (sampleReceiver 2)
      interleaved).map (fun x => (x.answers.map fun answer => (answer.attempt,
        answer.fragment, answer.response.metadata.returnCode),
        decide ((sampleAttempts 0).lookupKey ∈ x.completed))) =
      some ([(0, 0, .ok), (2, 1, .ok), (1, 1, .resourceExhaust)], false) := by decide +kernel
  obtain ⟨x, hrun, hx⟩ := Option.map_eq_some_iff.mp hend
  rw [Prod.mk.injEq] at hx
  exact ⟨x, hrun, hx.1, of_decide_eq_false hx.2, admittedWhole_of_keepsTogether sampleAttempts 0 x
    (.of_guardedRun (.init (ready_sampleReceiver 2)) hguarded hrun)⟩

/-- Message 2 has a posted receive, and takes the arrival block until its last
fragment has arrived.  Meanwhile the first fragment of message 1 arrives, and
another one after that. -/
def blockTaken : List ReceptionAction :=
  [.receiver (.postReceive ⟨7, 2, 1⟩ 100 2), .fragment 2 0 3, .fragment 0 0 3, .fragment 2 1 3,
    .fragment 0 1 3]

/-- The first fragment of message 1 is refused for want of an arrival block, and
another fragment is answered as a success. -/
theorem fragment_accepted_after_refusal :
    ∃ x, (receptionSystem sampleAttempts 0).Reachable x ∧
      (receptionSystem sampleAttempts 0).runActions (sampleReceiver 1) blockTaken = some x ∧
      ¬ AdmittedWhole sampleAttempts 0 x := by
  have hend : ((receptionSystem sampleAttempts 0).runActions (sampleReceiver 1)
      blockTaken).map (fun x => x.answers.map fun answer =>
        (answer.attempt, answer.fragment, answer.response.metadata.responseOpCode,
          answer.response.metadata.returnCode)) =
      some [(0, 0, .nack, .resourceExhaust), (2, 1, .defaultResponse, .ok),
        (0, 1, .defaultResponse, .ok)] := by decide +kernel
  obtain ⟨x, hx, hanswers⟩ := Option.map_eq_some_iff.mp hend
  refine ⟨x, ?_, hx, fun hwhole => ?_⟩
  · exact TransitionSystem.ReachableBy.runActions (.init (ready_sampleReceiver 1))
      (fun _ _ _ => trivial) hx
  · obtain ⟨refused, completed, accepted, hlist⟩ :=
      List.length_eq_three.mp (by simpa using congrArg List.length hanswers)
    simp only [hlist, List.map_cons, List.map_nil, List.cons.injEq, Prod.mk.injEq,
      and_true] at hanswers
    obtain ⟨⟨hattempt, hfragment, hrefused, -⟩, -, hattempt', hfragment', -, hok⟩ := hanswers
    refine hwhole.receiver accepted (by simp [hlist]) hattempt' hok refused (by simp [hlist])
      ⟨hattempt.trans hattempt'.symm, ?_⟩ hrefused
    rw [hfragment, hfragment']
    decide

end SendReception
end UeSim
