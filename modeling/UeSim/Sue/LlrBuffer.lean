import UeSim.Sue.LlrManager
import UeSim.Support.Transition

/-!
# The send lists of link-level retransmission

A device passes its manager the packets that it sends, and the frames that it receives.
Before each of them it initialises the manager again, and that clears the send lists.
This module follows the numbers that were handed out and that no control frame has
covered.  Each of them stays in its send list with its packet exactly as long as the
device handles nothing while one of them is outstanding.
-/

namespace UeSim

/-- A number that `LlrSendPacket` handed out, with its packet. -/
structure SentPacket (κ α : Type) where
  key : κ
  seq : ℕ
  packet : α

/-- What a device tells its manager: the number of its virtual channels, and the lanes
that `InitializeLlr` makes. -/
structure LlrDevice (κ : Type) where
  numVcs : UInt8
  keys : List κ

namespace LlrDevice

/-- A network card. -/
def card (numVcs : UInt8) : LlrDevice UInt8 := ⟨numVcs, vcIds numVcs⟩

/-- A switch port. -/
def switchPort (numVcs : UInt8) (localMac peerMac : Mac48Address)
    (devices : List Mac48Address) : LlrDevice (Mac48Address × UInt8) :=
  ⟨numVcs, LlrSwitchPortManager.portLanes numVcs localMac peerMac devices⟩

end LlrDevice

/-- A manager, the control frames that are scheduled for it, and the numbers that are
outstanding. -/
structure LlrBuffer (κ α : Type) [DecidableEq κ] where
  manager : LlrManager κ α := {}
  scheduled : List (κ × LlrReply) := []
  outstanding : List (SentPacket κ α) := []

/-- The events of a device that concern its manager. -/
inductive LlrEvent (κ α : Type)
  /-- `Send` or `EnqueueToVcQueue`, for a packet without a PPP header. -/
  | send (key : κ) (packet : α)
  /-- `EnqueueToVcQueue`, for a packet that another port of the switch has numbered. -/
  | forward (source : κ) (seq : ℕ) (key : κ) (packet : α)
  /-- `Receive`, for a data packet. -/
  | receiveData (source : κ) (seq : ℕ)
  /-- `Receive` or `EnqueueToVcQueue`, for a control frame: it is processed later. -/
  | receiveControl (key : κ) (reply : LlrReply)
  /-- `Receive`, for a credit update or a corrupt frame, and `Send`, for a credit update
  or a control frame. -/
  | handleCredits
  /-- The manager processes a control frame. -/
  | processControl (i : ℕ)
  /-- The retransmission timer of a lane expires. -/
  | resend (key : κ)

/-- The numbers that a control frame covers: those up to an acknowledged one, and those
before a missing one. -/
def LlrReply.covers {κ α : Type} [DecidableEq κ] (key : κ) :
    LlrReply → SentPacket κ α → Bool
  | .ack seq, sent => sent.key = key ∧ sent.seq ≤ seq
  | .nack seq, sent => sent.key = key ∧ sent.seq < seq

/-- The number that `LlrSendPacket` hands out. -/
def LlrManager.handedOut {κ α : Type} [DecidableEq κ] [LaneKey κ] (m : LlrManager κ α)
    (key : κ) (packet : α) : List (SentPacket κ α) :=
  if m.serves (LaneKey.vcId key) then
    ((m.lanes.lookup key).map fun lane => ⟨key, lane.sendSeq, packet⟩).toList
  else []

namespace LlrBuffer

variable {κ α : Type} [DecidableEq κ] [LaneKey κ]

/-- `InitializeLlr`. -/
def initializeLlr (s : LlrBuffer κ α) (keys : List κ) : LlrBuffer κ α :=
  { s with manager := s.manager.openLanes keys }

/-- `LlrSendPacket`. -/
def send (s : LlrBuffer κ α) (key : κ) (packet : α) : Option (LlrBuffer κ α) :=
  (s.manager.sendPacket key packet).map fun m =>
    { s with
      manager := m
      outstanding := s.outstanding ++ s.manager.handedOut key packet }

/-- `LlrReceivePacket`. -/
def receive (s : LlrBuffer κ α) (key : κ) (seq : ℕ) : Option (LlrBuffer κ α) :=
  (s.manager.receivePacket key seq).map fun m => { s with manager := m }

/-- `ProcessLlrAck` or `ProcessLlrNack`, for a control frame that was scheduled. -/
def processControl (s : LlrBuffer κ α) (i : ℕ) : Option (LlrBuffer κ α) :=
  (s.scheduled[i]?).bind fun control =>
    (s.manager.process control.1 control.2).map fun m =>
      { manager := m
        scheduled := s.scheduled.eraseIdx i
        outstanding := s.outstanding.filter fun sent => !control.2.covers control.1 sent }

/-- `Resend`, when the timer is pending. -/
def resend (s : LlrBuffer κ α) (key : κ) : Option (LlrBuffer κ α) :=
  if s.manager.timerPending key then
    (s.manager.resend key).map fun m => { s with manager := m }
  else none

/-- What an event does. -/
def step (device : LlrDevice κ) (s : LlrBuffer κ α) : LlrEvent κ α → Option (LlrBuffer κ α)
  | .send key packet => (s.initializeLlr device.keys).send key packet
  | .forward source seq key packet =>
      ((s.initializeLlr device.keys).receive source seq).bind fun t => t.send key packet
  | .receiveData source seq => (s.initializeLlr device.keys).receive source seq
  | .receiveControl key reply =>
      some { s.initializeLlr device.keys with scheduled := s.scheduled ++ [(key, reply)] }
  | .handleCredits => some (s.initializeLlr device.keys)
  | .processControl i => s.processControl i
  | .resend key => s.resend key

/-- The runs of a manager from the time when retransmission is enabled. -/
def system (device : LlrDevice κ) : TransitionSystem (LlrBuffer κ α) (LlrEvent κ α) where
  init s := s = { manager := { numVcs := device.numVcs } }
  step := step device

/-- Every number that is outstanding is in its send list, with its packet. -/
def KeepsUnacked (s : LlrBuffer κ α) : Prop :=
  ∀ sent ∈ s.outstanding, ∃ lane, s.manager.lanes.lookup sent.key = some lane ∧
    lane.sendList.lookup sent.seq = some sent.packet

/-- The device handles nothing while a number is outstanding. -/
def NothingOutstanding (s : LlrBuffer κ α) : LlrEvent κ α → Prop
  | .processControl _ | .resend _ => True
  | _ => s.outstanding = []

instance (s : LlrBuffer κ α) : ∀ a, Decidable (NothingOutstanding s a)
  | .processControl _ | .resend _ => .isTrue trivial
  | .send _ _ | .forward _ _ _ _ | .receiveData _ _ | .receiveControl _ _ | .handleCredits =>
      decidable_of_iff (s.outstanding.isEmpty = true) List.isEmpty_iff

end LlrBuffer

/-! ## What an operation of the manager keeps -/

namespace LlrManager

variable {κ α : Type} [DecidableEq κ] {m m' : LlrManager κ α} {keys : List κ}
variable {key : κ} {sent : SentPacket κ α} {packet : α}

/-- The lanes of a manager are those that are initialised, and their numbers fit into
32 bits. -/
def LanesAmong (keys : List κ) (m : LlrManager κ α) : Prop :=
  ∀ key lane, m.lanes.lookup key = some lane → key ∈ keys ∧ lane.sendSeq < 2 ^ 32

/-- A number is the latest one of its lane. -/
def IsLatest (sent : SentPacket κ α) (m : LlrManager κ α) : Prop :=
  sent.seq < 2 ^ 32 ∧ ∃ lane, m.lanes.lookup sent.key = some lane ∧
    lane.sendSeq = toU32 (sent.seq + 1)

/-- A number is in its send list, with its packet. -/
def Keeps (sent : SentPacket κ α) (m : LlrManager κ α) : Prop :=
  ∃ lane, m.lanes.lookup sent.key = some lane ∧ lane.sendList.lookup sent.seq = some sent.packet

/-- A number is not in its send list. -/
def Lacks (sent : SentPacket κ α) (m : LlrManager κ α) : Prop :=
  ∃ lane, m.lanes.lookup sent.key = some lane ∧ lane.sendList.lookup sent.seq = none

theorem Lacks.not_keeps (hlacks : Lacks sent m) : ¬Keeps sent m := by
  rintro ⟨lane, hlane, hkept⟩
  obtain ⟨lane', hlane', hnone⟩ := hlacks
  cases hlane.symm.trans hlane'
  cases hkept.symm.trans hnone

theorem LanesAmong.openLanes (hamong : LanesAmong keys m) :
    LanesAmong keys (m.openLanes keys) := by
  intro key lane hlane
  rw [lookup_openLanes] at hlane
  split_ifs at hlane with hmem
  · refine ⟨hmem, ?_⟩
    cases hlane
    cases hold : m.lanes.lookup key with
    | none => exact Nat.two_pow_pos 32
    | some old => exact (hamong key old hold).2
  · exact hamong key lane hlane

/-- `Initialize` clears the list of every lane that there is. -/
theorem IsLatest.openLanes (hamong : LanesAmong keys m) (hlatest : IsLatest sent m) :
    IsLatest sent (m.openLanes keys) ∧ Lacks sent (m.openLanes keys) := by
  obtain ⟨hlt, lane, hlane, hseq⟩ := hlatest
  have hopened : (m.openLanes keys).lanes.lookup sent.key = some lane.clear := by
    rw [lookup_openLanes, if_pos (hamong _ _ hlane).1, hlane, Option.getD_some]
  exact ⟨⟨hlt, lane.clear, hopened, hseq⟩, lane.clear, hopened, AList.lookup_empty _⟩

variable [LaneKey κ]

theorem LanesAmong.onLane {f : LlrLane α → LlrLane α} (hamong : LanesAmong keys m)
    (h : m.onLane key f = some m')
    (hf : ∀ lane, lane.sendSeq < 2 ^ 32 → (f lane).sendSeq < 2 ^ 32) :
    LanesAmong keys m' := by
  intro key' lane hlane
  obtain ⟨lane', hlane', rfl | rfl⟩ := exists_lookup_of_onLane h hlane
  · exact hamong key' _ hlane'
  · obtain ⟨hmem, hlt⟩ := hamong key' _ hlane'
    exact ⟨hmem, hf _ hlt⟩

theorem IsLatest.onLane {f : LlrLane α → LlrLane α} (hlatest : IsLatest sent m)
    (h : m.onLane key f = some m') (hf : ∀ lane, (f lane).sendSeq = lane.sendSeq) :
    IsLatest sent m' := by
  obtain ⟨hlt, lane, hlane, hseq⟩ := hlatest
  refine ⟨hlt, ?_⟩
  rcases lookup_of_onLane h hlane with hlane' | ⟨-, hlane'⟩
  · exact ⟨lane, hlane', hseq⟩
  · exact ⟨f lane, hlane', (hf lane).trans hseq⟩

theorem Keeps.onLane {f : LlrLane α → LlrLane α} (hkeeps : Keeps sent m)
    (h : m.onLane key f = some m')
    (hf : ∀ lane, sent.key = key → lane.sendList.lookup sent.seq = some sent.packet →
      (f lane).sendList.lookup sent.seq = some sent.packet) : Keeps sent m' := by
  obtain ⟨lane, hlane, hkept⟩ := hkeeps
  rcases lookup_of_onLane h hlane with hlane' | ⟨hkey, hlane'⟩
  · exact ⟨lane, hlane', hkept⟩
  · exact ⟨f lane, hlane', hf lane hkey hkept⟩

theorem Lacks.onLane {f : LlrLane α → LlrLane α} (hlacks : Lacks sent m)
    (h : m.onLane key f = some m')
    (hf : ∀ lane, m.lanes.lookup sent.key = some lane →
      lane.sendList.lookup sent.seq = none → (f lane).sendList.lookup sent.seq = none) :
    Lacks sent m' := by
  obtain ⟨lane, hlane, hnone⟩ := hlacks
  rcases lookup_of_onLane h hlane with hlane' | ⟨-, hlane'⟩
  · exact ⟨lane, hlane', hnone⟩
  · exact ⟨f lane, hlane', hf lane hlane hnone⟩

/-- A control frame leaves the numbers that it does not cover in their lists. -/
theorem Keeps.process {reply : LlrReply} (hkeeps : Keeps sent m)
    (hopen : reply.covers key sent = false) (h : m.process key reply = some m') :
    Keeps sent m' := by
  cases reply with
  | ack seq =>
      refine hkeeps.onLane h fun lane hkey hkept => ?_
      have hlt : seq < sent.seq := by simpa [LlrReply.covers, hkey] using hopen
      unfold LlrLane.processAck
      split_ifs
      · exact hkept
      · rw [KeyedMap.lookup_filterMap, hkept]
        exact if_pos hlt
  | nack seq =>
      refine hkeeps.onLane h fun lane hkey hkept => ?_
      have hle : seq ≤ sent.seq := by simpa [LlrReply.covers, hkey] using hopen
      unfold LlrLane.processNack
      split_ifs
      · exact hkept
      · rw [KeyedMap.lookup_filterMap, hkept]
        exact if_pos hle

/-- What `LlrSendPacket` hands out is the latest number of its lane, and it is kept. -/
theorem sendPacket_handedOut (hamong : LanesAmong keys m)
    (h : m.sendPacket key packet = some m') (hsent : sent ∈ m.handedOut key packet) :
    IsLatest sent m' ∧ Keeps sent m' := by
  unfold handedOut at hsent
  split_ifs at hsent with hserves
  · obtain ⟨lane, hlane, rfl⟩ := (onLane_eq_some hserves).mp h
    rw [hlane, Option.map_some, Option.toList_some, List.mem_singleton] at hsent
    subst hsent
    have hself : (m.setLane key (lane.sendPacket packet)).lanes.lookup key =
        some (lane.sendPacket packet) := by
      rw [lookup_setLane, if_pos rfl]
    refine ⟨⟨(hamong key lane hlane).2, _, hself, rfl⟩, _, hself, ?_⟩
    exact AList.lookup_insert _
  · exact absurd hsent List.not_mem_nil

/-- A number that is the latest one, and that is not in its list, does not come back. -/
theorem Lacks.sendPacket (hlacks : Lacks sent m) (hlatest : IsLatest sent m)
    (h : m.sendPacket key packet = some m') : Lacks sent m' := by
  refine hlacks.onLane h fun lane hlane hnone => ?_
  obtain ⟨hlt, lane', hlane', hseq⟩ := hlatest
  cases hlane.symm.trans hlane'
  have hne : sent.seq ≠ lane.sendSeq := by
    rw [hseq]
    unfold toU32
    omega
  exact (AList.lookup_insert_ne hne).trans hnone

/-- What `LlrSendPacket` hands out, and how the numbers of the lanes change. -/
theorem sendPacket_cases (h : m.sendPacket key packet = some m') :
    (m' = m ∧ m.handedOut key packet = []) ∨
      (m.handedOut key packet = [⟨key, m.sendSeq key, packet⟩] ∧
        m'.sendSeq key = toU32 (m.sendSeq key + 1) ∧
          ∀ key', key' ≠ key → m'.sendSeq key' = m.sendSeq key') := by
  unfold handedOut
  by_cases hserves : m.serves (LaneKey.vcId key) = true
  · obtain ⟨lane, hlane, rfl⟩ := (onLane_eq_some hserves).mp h
    refine .inr ⟨?_, ?_, fun key' hne => ?_⟩
    · rw [if_pos hserves, sendSeq_of_lookup hlane, hlane]
      rfl
    · have hself : (m.setLane key (lane.sendPacket packet)).lanes.lookup key =
          some (lane.sendPacket packet) := by
        rw [lookup_setLane, if_pos rfl]
      rw [sendSeq_of_lookup hlane, sendSeq_of_lookup hself]
      rfl
    · unfold LlrManager.sendSeq
      rw [lookup_setLane, if_neg hne]
  · have hsame : m.sendPacket key packet = some m := onLane_of_not_serves hserves
    exact .inl ⟨Option.some.inj (h.symm.trans hsame), if_neg hserves⟩

end LlrManager

/-! ## Runs of a device -/

namespace LlrBuffer

open LlrManager

variable {κ α : Type} [DecidableEq κ] {device : LlrDevice κ}
variable {s t : LlrBuffer κ α} {event : LlrEvent κ α}

/-- What holds as long as no number has been lost: each number that is outstanding is
the latest one of its lane. -/
structure Numbered (device : LlrDevice κ) (s : LlrBuffer κ α) : Prop where
  among : LanesAmong device.keys s.manager
  latest : ∀ sent ∈ s.outstanding, IsLatest sent s.manager

/-- A number that is outstanding, but not in its send list. -/
structure IsLost (sent : SentPacket κ α) (s : LlrBuffer κ α) : Prop where
  outstanding : sent ∈ s.outstanding
  latest : IsLatest sent s.manager
  lacks : Lacks sent s.manager

theorem IsLost.not_keepsUnacked {sent : SentPacket κ α} (hlost : IsLost sent s) :
    ¬KeepsUnacked s :=
  fun hkeeps => hlost.lacks.not_keeps (hkeeps sent hlost.outstanding)

/-- Whatever is outstanding when the device handles an event is lost. -/
theorem Numbered.isLost_initializeLlr (hnumbered : Numbered device s)
    {sent : SentPacket κ α} (hsent : sent ∈ s.outstanding) :
    IsLost sent (s.initializeLlr device.keys) := by
  obtain ⟨hlatest, hlacks⟩ := (hnumbered.latest sent hsent).openLanes hnumbered.among
  exact ⟨hsent, hlatest, hlacks⟩

variable [LaneKey κ]

/-- With nothing outstanding, a packet that is numbered is the only one to be kept. -/
theorem send_keeps {key : κ} {packet : α} (hamong : LanesAmong device.keys s.manager)
    (hnone : s.outstanding = []) (h : s.send key packet = some t) :
    Numbered device t ∧ KeepsUnacked t := by
  obtain ⟨m, hm, rfl⟩ := Option.map_eq_some_iff.mp h
  have hsent : ∀ sent ∈ s.outstanding ++ s.manager.handedOut key packet,
      IsLatest sent m ∧ Keeps sent m := by
    intro sent hsent
    rw [hnone, List.nil_append] at hsent
    exact sendPacket_handedOut hamong hm hsent
  have hamong' : LanesAmong device.keys m :=
    hamong.onLane hm fun lane _ => toU32_lt (lane.sendSeq + 1)
  exact ⟨⟨hamong', fun sent h => (hsent sent h).1⟩, fun sent h => (hsent sent h).2⟩

/-- Taking note of a number that arrives changes no send list. -/
theorem receive_frame (keys : List κ) {key : κ} {seq : ℕ}
    (h : s.receive key seq = some t) :
    t.outstanding = s.outstanding ∧
      (LanesAmong keys s.manager → LanesAmong keys t.manager) ∧
      ∀ sent, IsLost sent s → IsLost sent t := by
  obtain ⟨m, hm, rfl⟩ := Option.map_eq_some_iff.mp h
  refine ⟨rfl, fun hamong => hamong.onLane hm fun _ hlt => hlt, fun sent hlost => ?_⟩
  refine ⟨hlost.outstanding, hlost.latest.onLane hm fun _ => rfl, ?_⟩
  exact hlost.lacks.onLane hm fun _ _ hnone => hnone

/-- A number that is lost stays lost when another one is handed out. -/
theorem IsLost.send {sent : SentPacket κ α} {key : κ} {packet : α} (hlost : IsLost sent s)
    (h : s.send key packet = some t) : ¬KeepsUnacked t := by
  obtain ⟨m, hm, rfl⟩ := Option.map_eq_some_iff.mp h
  intro hkeeps
  have hlacks : Lacks sent m := hlost.lacks.sendPacket hlost.latest hm
  exact hlacks.not_keeps (hkeeps sent (List.mem_append_left _ hlost.outstanding))

/-- A control frame that is processed keeps what it does not cover. -/
theorem processControl_keeps {i : ℕ} (hnumbered : Numbered device s) (hkeeps : KeepsUnacked s)
    (h : s.processControl i = some t) : Numbered device t ∧ KeepsUnacked t := by
  obtain ⟨⟨key, reply⟩, -, h⟩ := Option.bind_eq_some_iff.mp h
  obtain ⟨m, hm, rfl⟩ := Option.map_eq_some_iff.mp h
  have hlanes : LanesAmong device.keys m ∧
      ∀ sent, IsLatest sent s.manager → IsLatest sent m := by
    cases reply with
    | ack seq =>
        refine ⟨hnumbered.among.onLane hm fun lane hlt => ?_, fun sent hlatest => ?_⟩
        · rw [LlrLane.sendSeq_processAck]
          exact hlt
        · exact hlatest.onLane hm (LlrLane.sendSeq_processAck seq)
    | nack seq =>
        refine ⟨hnumbered.among.onLane hm fun lane hlt => ?_, fun sent hlatest => ?_⟩
        · rw [LlrLane.sendSeq_processNack]
          exact hlt
        · exact hlatest.onLane hm (LlrLane.sendSeq_processNack seq)
  refine ⟨⟨hlanes.1, fun sent hsent => ?_⟩, fun sent hsent => ?_⟩
  · exact hlanes.2 sent (hnumbered.latest sent (List.mem_of_mem_filter hsent))
  · obtain ⟨hmem, hopen⟩ := List.mem_filter.mp hsent
    exact Keeps.process (hkeeps sent hmem) (by simpa using hopen) hm

/-- A timer that expires changes no send list. -/
theorem resend_keeps {key : κ} (hnumbered : Numbered device s) (hkeeps : KeepsUnacked s)
    (h : s.resend key = some t) : Numbered device t ∧ KeepsUnacked t := by
  unfold LlrBuffer.resend at h
  split_ifs at h
  obtain ⟨m, hm, rfl⟩ := Option.map_eq_some_iff.mp h
  refine ⟨⟨hnumbered.among.onLane hm fun _ hlt => hlt, fun sent hsent => ?_⟩, ?_⟩
  · exact (hnumbered.latest sent hsent).onLane hm fun _ => rfl
  · intro sent hsent
    exact Keeps.onLane (hkeeps sent hsent) hm fun _ _ hkept => hkept

/-- A step with nothing outstanding, or of the manager alone, keeps every number. -/
theorem step_keeps (hnumbered : Numbered device s) (hkeeps : KeepsUnacked s)
    (hguard : NothingOutstanding s event) (hstep : step device s event = some t) :
    Numbered device t ∧ KeepsUnacked t := by
  have hopened : LanesAmong device.keys (s.initializeLlr device.keys).manager :=
    hnumbered.among.openLanes
  have hnone : ∀ u : LlrBuffer κ α, u.outstanding = [] → LanesAmong device.keys u.manager →
      Numbered device u ∧ KeepsUnacked u := by
    intro u hu hamong
    refine ⟨⟨hamong, fun sent hsent => ?_⟩, fun sent hsent => ?_⟩
    all_goals exact absurd (hu ▸ hsent) List.not_mem_nil
  cases event with
  | send key packet => exact send_keeps hopened hguard hstep
  | forward source seq key packet =>
      obtain ⟨u, hu, hsend⟩ := Option.bind_eq_some_iff.mp hstep
      obtain ⟨hsame, hamong, -⟩ := receive_frame device.keys hu
      exact send_keeps (hamong hopened) (hsame.trans hguard) hsend
  | receiveData source seq =>
      obtain ⟨hsame, hamong, -⟩ := receive_frame device.keys hstep
      exact hnone t (hsame.trans hguard) (hamong hopened)
  | receiveControl key reply =>
      cases hstep
      exact hnone _ hguard hopened
  | handleCredits =>
      cases hstep
      exact hnone _ hguard hopened
  | processControl i => exact processControl_keeps hnumbered hkeeps hstep
  | resend key => exact resend_keeps hnumbered hkeeps hstep

/-- A device that handles an event while a number is outstanding loses it. -/
theorem step_loses (hnumbered : Numbered device s) (hguard : ¬NothingOutstanding s event)
    (hstep : step device s event = some t) : ¬KeepsUnacked t := by
  have hlost : s.outstanding ≠ [] →
      ∃ sent, IsLost sent (s.initializeLlr device.keys) := by
    intro hne
    obtain ⟨sent, hsent⟩ := List.exists_mem_of_ne_nil _ hne
    exact ⟨sent, hnumbered.isLost_initializeLlr hsent⟩
  cases event with
  | send key packet =>
      obtain ⟨sent, hsent⟩ := hlost hguard
      exact hsent.send hstep
  | forward source seq key packet =>
      obtain ⟨sent, hsent⟩ := hlost hguard
      obtain ⟨u, hu, hsend⟩ := Option.bind_eq_some_iff.mp hstep
      obtain ⟨-, -, hstays⟩ := receive_frame device.keys hu
      exact (hstays sent hsent).send hsend
  | receiveData source seq =>
      obtain ⟨sent, hsent⟩ := hlost hguard
      obtain ⟨-, -, hstays⟩ := receive_frame device.keys hstep
      exact (hstays sent hsent).not_keepsUnacked
  | receiveControl key reply =>
      obtain ⟨sent, hsent⟩ := hlost hguard
      cases hstep
      have hlost' : IsLost sent _ := ⟨hsent.1, hsent.2, hsent.3⟩
      exact hlost'.not_keepsUnacked
  | handleCredits =>
      obtain ⟨sent, hsent⟩ := hlost hguard
      cases hstep
      exact hsent.not_keepsUnacked
  | processControl i => exact absurd trivial hguard
  | resend key => exact absurd trivial hguard

/-- Every number that no control frame has covered stays in its send list, throughout a
run, exactly when the device handles nothing while a number is outstanding. -/
theorem keepsUnacked_iff_nothingOutstanding {events : List (LlrEvent κ α)}
    (hinit : (system device).init s) (hrun : (system device).runActions s events = some t) :
    (system device).Throughout KeepsUnacked s events ↔
      (system device).GuardedRun NothingOutstanding s events := by
  have hnumbered : Numbered device s := by
    rw [hinit]
    refine ⟨fun key lane hlane => ?_, fun sent hsent => ?_⟩
    · cases (AList.lookup_empty key).symm.trans hlane
    · exact absurd hsent List.not_mem_nil
  have hkeeps : KeepsUnacked s := by
    rw [hinit]
    exact fun sent hsent => absurd hsent List.not_mem_nil
  exact TransitionSystem.throughout_iff_guardedRun
    (fun _ _ _ hnumbered hkeeps => step_keeps hnumbered hkeeps)
    (fun _ _ _ hnumbered _ => step_loses hnumbered) hnumbered hkeeps hrun

/-- A network card with one virtual channel. -/
def oneChannel : LlrDevice UInt8 := LlrDevice.card 1

/-- The card sends a packet, and a credit update arrives. -/
def creditUpdate : List (LlrEvent UInt8 ℕ) := [.send 0 7, .handleCredits]

/-- The packet has not been acknowledged, and its copy is gone. -/
theorem not_keepsUnacked_creditUpdate :
    ∃ t, (system oneChannel).runActions { manager := { numVcs := 1 } } creditUpdate = some t ∧
      t.outstanding = [⟨0, 0, 7⟩] ∧ ¬KeepsUnacked t := by
  obtain ⟨t, hrun⟩ :
      ∃ t, (system oneChannel).runActions { manager := { numVcs := 1 } } creditUpdate = some t :=
    ⟨_, rfl⟩
  have hsent : t.outstanding = [⟨0, 0, 7⟩] := by
    cases hrun
    rfl
  have hcleared : (t.manager.lanes.lookup 0).map LlrLane.sendList = some ∅ := by
    cases hrun
    rfl
  refine ⟨t, hrun, hsent, fun hkeeps => ?_⟩
  obtain ⟨lane, hlane, hkept⟩ := hkeeps ⟨0, 0, 7⟩ (hsent ▸ List.mem_cons_self ..)
  rw [hlane, Option.map_some, Option.some_inj] at hcleared
  rw [hcleared, AList.lookup_empty] at hkept
  cases hkept

/-- On a card with two virtual channels an ACK comes early; a packet is sent and resent before
the ACK is processed, then one is sent on the other channel and resent. -/
def earlyAck : List (LlrEvent UInt8 ℕ) :=
  [.receiveControl 0 (.ack 0), .handleCredits, .send 0 7, .resend 0, .processControl 0,
    .send 1 8, .resend 1]

/-- The packet of the other channel is outstanding at the end, and it was kept throughout. -/
theorem keepsUnacked_iff_nothingOutstanding_earlyAck :
    ∃ t, (system (LlrDevice.card 2)).runActions { manager := { numVcs := 2 } } earlyAck = some t ∧
      t.outstanding = [⟨1, 0, 8⟩] ∧
      (system (LlrDevice.card 2)).Throughout KeepsUnacked { manager := { numVcs := 2 } }
        earlyAck := by
  obtain ⟨t, hrun⟩ : ∃ t, (system (LlrDevice.card 2)).runActions { manager := { numVcs := 2 } }
      earlyAck = some t := ⟨_, rfl⟩
  have hsent : t.outstanding = [⟨1, 0, 8⟩] := by
    cases hrun
    rfl
  have hguarded : (system (LlrDevice.card 2)).GuardedRun NothingOutstanding
      { manager := { numVcs := 2 } } earlyAck := by
    decide
  exact ⟨t, hrun, hsent, (keepsUnacked_iff_nothingOutstanding rfl hrun).mpr hguarded⟩

end LlrBuffer

end UeSim
