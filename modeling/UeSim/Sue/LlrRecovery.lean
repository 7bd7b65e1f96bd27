import UeSim.Sue.Transmitter

/-!
# Recovery of link-level retransmission

When the retransmission timer of a lane expires, `Resend` marks the lane and calls the
device back, which is to transmit.  The callback transmits the current packet of the
device if the transmitter is ready.  But a device has a current packet only while it is
busy, so that nothing is sent.  And an acknowledgment that leaves packets unacknowledged
cancels the timer of its lane for all of them.

This module puts a manager beside the transmitter of its device and says exactly in which
runs every lane stays armed and every resend is effective.
-/

namespace UeSim

/-- The packet of a lane with the smallest number, with its number. -/
def LlrLane.oldest {α : Type} (lane : LlrLane α) : Option (ℕ × α) :=
  lane.sendList.keys.min?.bind fun seq =>
    (lane.sendList.lookup seq).map fun packet => (seq, packet)

/-- A call of `Resend` that found packets in its lane: the oldest of them, and the frames
that the device started to transmit. -/
structure ResendRecord (κ : Type) where
  key : κ
  oldest : Option (ℕ × SuePacket)
  frames : List TxFrame

/-- A manager with the transmitter of its device, and a record of the resends. -/
structure LlrRecovery (κ : Type) [DecidableEq κ] where
  manager : LlrManager κ SuePacket := {}
  transmitter : Transmitter := {}
  resends : List (ResendRecord κ) := []

/-- The events of a device and of its manager. -/
inductive LlrRecoveryEvent (κ : Type)
  /-- `InitializeLlr`. -/
  | initializeLlr
  /-- `EnqueueToVcQueue`, with `LlrSendPacket`. -/
  | send (key : κ) (packet : SuePacket)
  /-- `LlrReceivePacket`. -/
  | receive (key : κ) (seq : ℕ)
  /-- `ProcessLlrAck` or `ProcessLlrNack`. -/
  | process (key : κ) (reply : LlrReply)
  /-- The retransmission timer of a lane expires. -/
  | resend (key : κ)
  /-- Another event of the transmitter. -/
  | transmitter (event : TransmitterEvent)

namespace LlrRecovery

variable {κ : Type} [DecidableEq κ] [LaneKey κ]
variable {config : TransmitterConfig} {keys : List κ} {s t : LlrRecovery κ}

/-- `EnqueueToVcQueue`, with the number that `LlrSendPacket` gives the packet. -/
def send (config : TransmitterConfig) (s : LlrRecovery κ) (key : κ) (packet : SuePacket) :
    Option (LlrRecovery κ) :=
  (s.manager.sendPacket key packet).map fun manager =>
    { s with
      manager := manager
      transmitter := (s.transmitter.initializeCbfc config).enqueueToVcQueue
        ⟨packet, s.manager.sendSeq key⟩ }

/-- The frames that the callback of the device starts to transmit. -/
def callbackFrames (s : Transmitter) : List TxFrame :=
  (s.tryTransmitCallback.transmissions.drop s.transmissions.length).map TransmitRecord.frame

/-- The packets of a lane that a resend is about. -/
def unacknowledged (s : LlrRecovery κ) (key : κ) : Option (LlrLane SuePacket) :=
  if s.manager.serves (LaneKey.vcId key) then
    (s.manager.lanes.lookup key).filter fun lane => !lane.sendList.entries.isEmpty
  else none

/-- `Resend`, with the callback when the lane has packets. -/
def resend (s : LlrRecovery κ) (key : κ) : Option (LlrRecovery κ) :=
  (s.manager.resend key).map fun manager =>
    match s.unacknowledged key with
    | none => { s with manager := manager }
    | some lane =>
        { manager := manager
          transmitter := s.transmitter.tryTransmitCallback
          resends := s.resends ++ [⟨key, lane.oldest, callbackFrames s.transmitter⟩] }

/-- The runs of a manager beside the transmitter of its device.  `keys` are the lanes that
`InitializeLlr` makes. -/
def system (config : TransmitterConfig) (numVcs : UInt8) (keys : List κ) :
    TransitionSystem (LlrRecovery κ) (LlrRecoveryEvent κ) where
  init s := s = { manager := { numVcs := numVcs } }
  step s
    | .initializeLlr => some { s with manager := s.manager.openLanes keys }
    | .send key packet => s.send config key packet
    | .receive key seq => (s.manager.receivePacket key seq).map fun manager =>
        { s with manager := manager }
    | .process key reply => (s.manager.process key reply).map fun manager =>
        { s with manager := manager }
    | .resend key => if s.manager.timerPending key then s.resend key else none
    | .transmitter event => ((Transmitter.system config).step s.transmitter event).map
        fun transmitter => { s with transmitter := transmitter }

/-! ## What should hold -/

/-- A lane with packets that are not acknowledged waits for its timer or resends. -/
def LaneArmed (lane : LlrLane SuePacket) : Prop :=
  lane.sendList.entries ≠ [] → lane.resendPkt = true ∨ lane.llrResending = true

/-- All lanes of a manager are armed. -/
def Armed (manager : LlrManager κ SuePacket) : Prop :=
  ∀ key lane, manager.lanes.lookup key = some lane → LaneArmed lane

/-- A resend puts the oldest packet on the wire, with its number. -/
def Effective (r : ResendRecord κ) : Prop :=
  ∃ seq packet, r.oldest = some (seq, packet) ∧ r.frames = [.data ⟨packet, seq⟩]

/-- Recovery is armed, and every resend has been effective. -/
def Recovers (s : LlrRecovery κ) : Prop :=
  Armed s.manager ∧ ∀ r ∈ s.resends, Effective r

/-- An acknowledgment covers all packets of its lane or is ignored, and a timer expires
only in a lane without packets. -/
def NothingToRecover (s : LlrRecovery κ) : LlrRecoveryEvent κ → Prop
  | .process key (.ack seq) => ∀ lane, s.manager.serves (LaneKey.vcId key) = true →
      s.manager.lanes.lookup key = some lane → lane.waitSeq ≤ seq →
      lane.sendList.lookup seq ≠ none →
      ∀ n packet, lane.sendList.lookup n = some packet → n ≤ seq
  | .resend key => s.unacknowledged key = none
  | _ => True

/-- The packets of a lane that an acknowledgment has to cover are those under its keys. -/
theorem forall_lookup_iff {lane : LlrLane SuePacket} {seq : ℕ} :
    (∀ n packet, lane.sendList.lookup n = some packet → n ≤ seq) ↔
      ∀ n ∈ lane.sendList.keys, n ≤ seq := by
  constructor
  · intro h n hn
    obtain ⟨packet, hpacket⟩ := Option.isSome_iff_exists.mp (AList.lookup_isSome.mpr hn)
    exact h n packet hpacket
  · intro h n packet hpacket
    exact h n (AList.lookup_isSome.mp (by rw [hpacket]; rfl))

instance (s : LlrRecovery κ) : ∀ a, Decidable (NothingToRecover s a)
  | .process key (.ack seq) =>
      decidable_of_iff (s.manager.serves (LaneKey.vcId key) = true →
          ∀ lane ∈ s.manager.lanes.lookup key, lane.waitSeq ≤ seq →
            lane.sendList.lookup seq ≠ none → ∀ n ∈ lane.sendList.keys, n ≤ seq) <| by
        simp only [NothingToRecover, forall_lookup_iff, Option.mem_def]
        exact ⟨fun h lane hserves => h hserves lane, fun h hserves lane => h lane hserves⟩
  | .resend key => decidable_of_iff ((s.unacknowledged key).isNone = true) Option.isNone_iff_eq_none
  | .process _ (.nack _) | .initializeLlr | .send _ _ | .receive _ _ | .transmitter _ =>
      .isTrue trivial

/-! ## Lanes -/

omit [LaneKey κ] in
theorem Armed.openLanes {manager : LlrManager κ SuePacket} (h : Armed manager) (keys : List κ) :
    Armed (manager.openLanes keys) := by
  intro key lane hlane
  rw [LlrManager.lookup_openLanes] at hlane
  split_ifs at hlane
  · cases hlane
    exact fun hne => absurd rfl hne
  · exact h key lane hlane

/-- An operation that leaves its lane armed leaves all lanes armed. -/
theorem Armed.onLane {manager manager' : LlrManager κ SuePacket} {key : κ}
    {f : LlrLane SuePacket → LlrLane SuePacket} (h : Armed manager)
    (hop : manager.onLane key f = some manager')
    (hf : ∀ lane, manager.serves (LaneKey.vcId key) = true →
      manager.lanes.lookup key = some lane → LaneArmed lane → LaneArmed (f lane)) :
    Armed manager' := by
  by_cases hserves : manager.serves (LaneKey.vcId key) = true
  · obtain ⟨lane, hlane, rfl⟩ := (LlrManager.onLane_eq_some hserves).mp hop
    intro key' lane' hlane'
    rw [LlrManager.lookup_setLane] at hlane'
    split_ifs at hlane' with hkey
    · cases hlane'
      exact hf lane hserves hlane (h key lane hlane)
    · exact h key' lane' hlane'
  · cases (LlrManager.onLane_of_not_serves hserves).symm.trans hop
    exact h

/-- An acknowledgment that covers all packets of its lane, or is ignored, leaves it armed. -/
theorem laneArmed_processAck {lane : LlrLane SuePacket} {seq : ℕ} (h : LaneArmed lane)
    (hcovers : lane.waitSeq ≤ seq → lane.sendList.lookup seq ≠ none →
      ∀ n packet, lane.sendList.lookup n = some packet → n ≤ seq) :
    LaneArmed (lane.processAck seq) := by
  unfold LlrLane.processAck
  split_ifs with hignored
  · exact h
  · push Not at hignored
    intro hne
    obtain ⟨n, packet, hn⟩ := KeyedMap.entries_ne_nil_iff.mp hne
    rw [KeyedMap.lookup_filterMap] at hn
    obtain ⟨packet', hold, hkept⟩ := Option.bind_eq_some_iff.mp hn
    split_ifs at hkept with hlater
    exact absurd (hcovers hignored.1 hignored.2 n packet' hold) (Nat.not_le.mpr hlater)

/-- Another acknowledgment leaves packets without a timer. -/
theorem not_laneArmed_processAck {lane : LlrLane SuePacket} {seq n : ℕ} {packet : SuePacket}
    (hwait : lane.waitSeq ≤ seq) (hlisted : lane.sendList.lookup seq ≠ none)
    (hn : lane.sendList.lookup n = some packet) (hlater : seq < n) :
    ¬LaneArmed (lane.processAck seq) := by
  intro harmed
  unfold LlrLane.processAck at harmed
  rw [if_neg (not_or.mpr ⟨Nat.not_lt.mpr hwait, hlisted⟩)] at harmed
  have hleft : ∃ k v, (KeyedMap.filterMap (fun n packet => if seq < n then some packet else none)
      lane.sendList).lookup k = some v := by
    refine ⟨n, packet, ?_⟩
    rw [KeyedMap.lookup_filterMap, hn]
    exact if_pos hlater
  rcases harmed (KeyedMap.entries_ne_nil_iff.mpr hleft) with htimer | hresending
  · cases htimer
  · cases hresending

theorem laneArmed_processNack {lane : LlrLane SuePacket} {seq : ℕ} (h : LaneArmed lane) :
    LaneArmed (lane.processNack seq) := by
  unfold LlrLane.processNack
  split_ifs
  · exact h
  · exact fun _ => .inl rfl

theorem laneArmed_resend (lane : LlrLane SuePacket) : LaneArmed lane.resend := by
  intro hne
  have hne' : lane.sendList.entries ≠ [] := hne
  refine .inr ?_
  unfold LlrLane.resend
  cases hentries : lane.sendList.entries with
  | nil => exact absurd hentries hne'
  | cons e es => rfl

/-! ## The callback -/

/-- A device that is ready has no current packet, so that the callback does nothing. -/
theorem tryTransmitCallback_eq {transmitter : Transmitter}
    (h : Transmitter.Connected config transmitter) :
    transmitter.tryTransmitCallback = transmitter := by
  unfold Transmitter.tryTransmitCallback
  cases hcurrent : transmitter.currentPkt with
  | none => rfl
  | some frame =>
      refine if_neg fun hready => ?_
      cases hcurrent.symm.trans (h.current.mpr hready)

theorem callbackFrames_eq {transmitter : Transmitter}
    (h : Transmitter.Connected config transmitter) : callbackFrames transmitter = [] := by
  unfold callbackFrames
  rw [tryTransmitCallback_eq h, List.drop_length]
  rfl

/-! ## Runs -/

/-- The transmitter of the device is in a state that it can reach. -/
def Transmits (config : TransmitterConfig) (s : LlrRecovery κ) : Prop :=
  Transmitter.Connected config s.transmitter ∧ Transmitter.Live config s.transmitter

/-- Processing a control frame, under the condition. -/
theorem process_keeps {key : κ} {reply : LlrReply} {manager : LlrManager κ SuePacket}
    (h : Armed s.manager) (hguard : NothingToRecover s (.process key reply))
    (hop : s.manager.process key reply = some manager) : Armed manager := by
  cases reply with
  | ack seq =>
      exact h.onLane hop fun lane hserves hlane harmed =>
        laneArmed_processAck harmed (hguard lane hserves hlane)
  | nack seq => exact h.onLane hop fun lane _ _ harmed => laneArmed_processNack harmed

/-- An event that the condition allows keeps recovery armed and effective. -/
theorem step_keeps {numVcs : UInt8} {event : LlrRecoveryEvent κ} (hdevice : Transmits config s)
    (h : s.Recovers) (hguard : s.NothingToRecover event)
    (hstep : (system config numVcs keys).step s event = some t) :
    Transmits config t ∧ t.Recovers := by
  cases event with
  | initializeLlr =>
      cases hstep
      exact ⟨hdevice, h.1.openLanes keys, h.2⟩
  | send key packet =>
      obtain ⟨manager, hop, rfl⟩ := Option.map_eq_some_iff.mp hstep
      refine ⟨?_, h.1.onLane hop fun lane _ _ _ _ => .inl rfl, h.2⟩
      exact Transmitter.enqueueToVcQueue_keeps hdevice.1.initializeCbfc
        (hdevice.2.initializeCbfc hdevice.1) (Transmitter.initialized_initializeCbfc ..) _
  | receive key seq =>
      obtain ⟨manager, hop, rfl⟩ := Option.map_eq_some_iff.mp hstep
      exact ⟨hdevice, h.1.onLane hop fun lane _ _ harmed => harmed, h.2⟩
  | process key reply =>
      obtain ⟨manager, hop, rfl⟩ := Option.map_eq_some_iff.mp hstep
      exact ⟨hdevice, process_keeps h.1 hguard hop, h.2⟩
  | resend key =>
      have hresend : (if s.manager.timerPending key then s.resend key else none) = some t := hstep
      split_ifs at hresend
      obtain ⟨manager, hop, ht⟩ := Option.map_eq_some_iff.mp hresend
      have hnone : s.unacknowledged key = none := hguard
      rw [hnone] at ht
      cases ht
      exact ⟨hdevice, h.1.onLane hop fun lane _ _ _ => laneArmed_resend lane, h.2⟩
  | transmitter event =>
      obtain ⟨transmitter, hevent, rfl⟩ := Option.map_eq_some_iff.mp hstep
      exact ⟨Transmitter.step_keeps hdevice.1 hdevice.2 hevent, h⟩

/-- Another acknowledgment leaves a lane unarmed, and another resend sends nothing. -/
theorem step_breaks {numVcs : UInt8} {event : LlrRecoveryEvent κ} (hdevice : Transmits config s)
    (hguard : ¬s.NothingToRecover event)
    (hstep : (system config numVcs keys).step s event = some t) : ¬t.Recovers := by
  cases event with
  | process key reply =>
      cases reply with
      | ack seq =>
          obtain ⟨manager, hop, rfl⟩ := Option.map_eq_some_iff.mp hstep
          unfold NothingToRecover at hguard
          push Not at hguard
          obtain ⟨lane, hserves, hlane, hwait, hlisted, n, packet, hn, hlater⟩ := hguard
          obtain ⟨lane', hlane', rfl⟩ := (LlrManager.onLane_eq_some hserves).mp hop
          cases hlane.symm.trans hlane'
          intro h
          refine not_laneArmed_processAck hwait hlisted hn hlater (h.1 key _ ?_)
          rw [LlrManager.lookup_setLane, if_pos rfl]
      | nack seq => exact absurd trivial hguard
  | resend key =>
      have hresend : (if s.manager.timerPending key then s.resend key else none) = some t := hstep
      split_ifs at hresend
      obtain ⟨manager, hop, ht⟩ := Option.map_eq_some_iff.mp hresend
      cases hlane : s.unacknowledged key with
      | none => exact absurd hlane hguard
      | some lane =>
          rw [hlane] at ht
          cases ht
          intro h
          obtain ⟨seq, packet, -, hframes⟩ :=
            h.2 _ (List.mem_append_right s.resends (List.mem_singleton_self _))
          cases (callbackFrames_eq hdevice.1).symm.trans hframes
  | initializeLlr => exact absurd trivial hguard
  | send key packet => exact absurd trivial hguard
  | receive key seq => exact absurd trivial hguard
  | transmitter event => exact absurd trivial hguard

/-- Recovery is armed and effective throughout a run exactly when no acknowledgment leaves
packets in its lane and no timer expires in a lane with packets. -/
theorem recovers_iff_nothingToRecover {numVcs : UInt8} {events : List (LlrRecoveryEvent κ)}
    (hinit : (system config numVcs keys).init s)
    (hrun : (system config numVcs keys).runActions s events = some t) :
    (system config numVcs keys).Throughout Recovers s events ↔
      (system config numVcs keys).GuardedRun NothingToRecover s events := by
  have hdevice : Transmits config s := by
    rw [hinit]
    exact Transmitter.connected_and_live (.init rfl)
  have hrecovers : s.Recovers := by
    rw [hinit]
    refine ⟨fun key lane hlane => ?_, fun r hr => absurd hr List.not_mem_nil⟩
    cases (AList.lookup_empty key).symm.trans hlane
  exact TransitionSystem.throughout_iff_guardedRun
    (fun _ _ _ hdevice h hguard hstep => step_keeps hdevice h hguard hstep)
    (fun _ _ _ hdevice _ hguard hstep => step_breaks hdevice hguard hstep) hdevice hrecovers hrun

/-! ## Runs of a network card -/

theorem dataPacket_small : 256 + ethernetHeaderSize + pppHeaderSize < 2 ^ 32 := by decide

/-- A packet of the card. -/
def dataPacket : SuePacket := ⟨{ b5 := 1 }, { b5 := 3 }, 0, 256, dataPacket_small⟩

/-- A packet is sent, and its timer expires. -/
def expiry : List (LlrRecoveryEvent UInt8) :=
  [.initializeLlr, .send 0 dataPacket, .transmitter (.tryTransmit 0),
    .transmitter .transmitComplete, .resend 0]

/-- Two packets are sent, and the first is acknowledged. -/
def partialAck : List (LlrRecoveryEvent UInt8) :=
  [.initializeLlr, .send 0 dataPacket, .send 0 dataPacket, .process 0 (.ack 0)]

/-- The card starts with one virtual channel. -/
def start : LlrRecovery UInt8 := { manager := { numVcs := 1 } }

/-- The resend puts nothing on the wire, and the acknowledgment leaves a packet without a
timer. -/
theorem not_recovers_card :
    (∃ t, (system Transmitter.card 1 (vcIds 1)).runActions start expiry = some t ∧
      ¬t.Recovers) ∧
    ∃ t, (system Transmitter.card 1 (vcIds 1)).runActions start partialAck = some t ∧
      ¬t.Recovers := by
  constructor
  · obtain ⟨t, hrun⟩ : ∃ t, (system Transmitter.card 1 (vcIds 1)).runActions start
        expiry = some t := ⟨_, rfl⟩
    refine ⟨t, hrun, fun h => ?_⟩
    have hresends : t.resends = [⟨0, some (0, dataPacket), []⟩] := by
      cases hrun
      rfl
    obtain ⟨seq, packet, -, hframes⟩ := h.2 _ (hresends ▸ List.mem_singleton_self _)
    cases hframes
  · obtain ⟨t, hrun⟩ : ∃ t, (system Transmitter.card 1 (vcIds 1)).runActions start
        partialAck = some t := ⟨_, rfl⟩
    refine ⟨t, hrun, fun h => ?_⟩
    cases hrun
    rcases h.1 0 _ rfl (List.cons_ne_nil _ _) with htimer | hresending
    · cases htimer
    · cases hresending

/-- Two packets are sent, the second is asked for again, and both are acknowledged before the
timer expires.  The timer of a third expires when the lane has been emptied; then a fourth is
sent. -/
def fullAck : List (LlrRecoveryEvent UInt8) :=
  [.initializeLlr, .send 0 dataPacket, .send 0 dataPacket, .process 0 (.nack 1),
    .transmitter (.tryTransmit 0), .transmitter .transmitComplete, .process 0 (.ack 1),
    .send 0 dataPacket, .initializeLlr, .resend 0, .send 0 dataPacket]

/-- The fourth packet is not acknowledged at the end, its timer is pending, and recovery was
armed and effective throughout. -/
theorem recovers_iff_nothingToRecover_fullAck :
    ∃ t, (system Transmitter.card 1 (vcIds 1)).runActions start fullAck = some t ∧
      (t.manager.lanes.lookup 0).map (fun lane => (lane.sendList.keys, lane.resendPkt)) =
        some ([3], true) ∧
      (system Transmitter.card 1 (vcIds 1)).Throughout Recovers start fullAck := by
  obtain ⟨t, hrun⟩ : ∃ t, (system Transmitter.card 1 (vcIds 1)).runActions start
      fullAck = some t := ⟨_, rfl⟩
  have hguarded :
      (system Transmitter.card 1 (vcIds 1)).GuardedRun NothingToRecover start fullAck := by
    decide
  refine ⟨t, hrun, ?_, (recovers_iff_nothingToRecover rfl hrun).mpr hguarded⟩
  cases hrun
  rfl

end LlrRecovery

end UeSim
