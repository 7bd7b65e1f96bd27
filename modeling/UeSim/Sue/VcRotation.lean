import UeSim.Sue.Transmitter
import UeSim.Support.RoundRobin

/-!
# The rotation over virtual channels

`TryTransmit` starts to look for a packet behind the virtual channel that was served last.
It keeps that position in a static variable, so that it is the last one of any device.

This module runs all devices of a simulation with the one position, and beside it, for each
device, the position that it would have left itself, and how often each of its virtual
channels has been passed over while it could have been served.
-/

namespace UeSim

namespace Transmitter

variable {config : TransmitterConfig} {s : Transmitter} {vcId : UInt8}

/-- Whether `TryTransmit` comes to the loop over the virtual channels. -/
def reachesVcs (s : Transmitter) : Bool :=
  s.txMachineState = .ready && s.mainQueue.isEmpty

/-- The virtual channel that `TryTransmit` serves. -/
def served (config : TransmitterConfig) (s : Transmitter) (lastVC : UInt8) : Option UInt8 :=
  if s.reachesVcs then (vcOrder config.attributes.numVcs lastVC).find? (s.canServe config)
  else none

end Transmitter

/-! ## All devices -/

/-- The devices of a simulation, and the position that they share.  For each device `own` is
the position that its last data packet left, and `passed` counts for each virtual channel
the data packets of the others since it can be served. -/
structure Rotation (ι : Type) where
  transmitter : ι → Transmitter := fun _ => {}
  /-- `static uint8_t lastVC` of `TryTransmit`. -/
  lastVC : UInt8 := 0
  own : ι → UInt8 := fun _ => 0
  passed : ι → UInt8 → ℕ := fun _ _ => 0

namespace TransmitterEvent

/-- An event of a device, when `TryTransmit` starts at a position. -/
def startingAt (lastVC : UInt8) : TransmitterEvent → TransmitterEvent
  | .tryTransmit _ => .tryTransmit lastVC
  | event => event

/-- The virtual channel that is served in an event. -/
def served (config : TransmitterConfig) (s : Transmitter) :
    TransmitterEvent → Option UInt8
  | .tryTransmit lastVC => s.served config lastVC
  | _ => none

end TransmitterEvent

namespace Rotation

variable {ι : Type} [DecidableEq ι]

/-- The position behind a virtual channel. -/
def behind (config : TransmitterConfig) (vcId : UInt8) : UInt8 :=
  UInt8.ofNat ((vcId.toNat + 1) % config.attributes.numVcs.toNat)

/-- How often a virtual channel has been passed over, after an event of its device that
serves another one or none. -/
def passedAfter (config : TransmitterConfig) (s t : Transmitter) (served : Option UInt8)
    (passed : UInt8 → ℕ) (vcId : UInt8) : ℕ :=
  if served = some vcId ∨ s.canServe config vcId = false ∨ t.canServe config vcId = false then 0
  else if served = none then passed vcId
  else passed vcId + 1

/-- The runs of all devices. -/
def system (config : ι → TransmitterConfig) :
    TransitionSystem (Rotation ι) (ι × TransmitterEvent) where
  init s := s = {}
  step s event :=
    let device := event.1
    let before := s.transmitter device
    let served := (event.2.startingAt s.lastVC).served (config device) before
    let next := served.map (behind (config device))
    ((Transmitter.system (config device)).step before (event.2.startingAt s.lastVC)).map
      fun after =>
        { transmitter := Function.update s.transmitter device after
          lastVC := next.getD s.lastVC
          own := Function.update s.own device (next.getD (s.own device))
          passed := Function.update s.passed device
            (passedAfter (config device) before after served (s.passed device)) }

/-- While a virtual channel of a device can be served, fewer data packets of the others are
sent than the device has virtual channels. -/
def Fair (config : ι → TransmitterConfig) (s : Rotation ι) : Prop :=
  ∀ device vcId, s.passed device vcId ≤ (config device).attributes.numVcs.toNat - 1

/-- The condition on an event: when `TryTransmit` comes to the loop over the virtual channels,
it starts where the device itself has left it, or at most one of them can be served. -/
def OwnTurn (config : ι → TransmitterConfig) (s : Rotation ι) (event : ι × TransmitterEvent) :
    Prop :=
  match event.2 with
  | .tryTransmit _ => (s.transmitter event.1).reachesVcs = true →
      s.lastVC.toNat % (config event.1).attributes.numVcs.toNat =
          (s.own event.1).toNat % (config event.1).attributes.numVcs.toNat ∨
        ∀ vcId vcId', (s.transmitter event.1).canServe (config event.1) vcId = true →
          (s.transmitter event.1).canServe (config event.1) vcId' = true → vcId = vcId'
  | _ => True

end Rotation

/-! ## What is served -/

namespace Transmitter

variable {config : TransmitterConfig} {s : Transmitter} {lastVC vcId first : UInt8}

/-- The records of packets out of the queues of virtual channels. -/
def dataRecords (s : Transmitter) : List TransmitRecord :=
  s.transmissions.filter TransmitRecord.fromVcQueue

theorem dataRecords_transmitStart_frame (frame : TxFrame) :
    (s.transmitStart frame false).dataRecords = s.dataRecords := by
  unfold dataRecords transmitStart
  dsimp only
  rw [List.filter_append]
  exact List.append_nil _

theorem dataRecords_transmitStart_data (frame : TxFrame) :
    (s.transmitStart frame true).dataRecords =
      s.dataRecords ++ [⟨frame, s.txMachineState, true, s.mainQueue.isEmpty⟩] := by
  unfold dataRecords transmitStart
  dsimp only
  rw [List.filter_append]
  rfl

/-- The loop over the virtual channels is reached by a device that is ready and has no frame
in its main queue. -/
theorem reachesVcs_iff : s.reachesVcs = true ↔ s.txMachineState = .ready ∧ s.mainQueue = [] := by
  unfold reachesVcs
  rw [Bool.and_eq_true, decide_eq_true_iff, List.isEmpty_iff]

/-- The data packets that `TryTransmit` sends are those of the virtual channel that it
serves. -/
theorem dataRecords_tryTransmit (config : TransmitterConfig) (s : Transmitter)
    (lastVC : UInt8) :
    (s.tryTransmit config lastVC).dataRecords = s.dataRecords ++
      (((s.served config lastVC).bind fun vcId =>
        (s.queueManager.vcPackets vcId).head?).map fun packet =>
          TransmitRecord.mk (.data packet) .ready true true).toList := by
  unfold tryTransmit served
  dsimp only
  by_cases hready : s.txMachineState = .ready
  · rw [hready, if_neg nofun]
    cases hmain : s.mainQueue with
    | cons frame rest =>
        rw [if_neg]
        · exact (dataRecords_transmitStart_frame frame).trans (List.append_nil _).symm
        · intro hreaches
          cases hmain.symm.trans (reachesVcs_iff.mp hreaches).2
    | nil =>
        rw [if_pos (reachesVcs_iff.mpr ⟨hready, hmain⟩)]
        dsimp only
        rcases serveVcs_eq config (vcOrder config.attributes.numVcs lastVC)
          { s with mainQueue := [], txMachineState := .ready, tryTransmits := s.tryTransmits - 1 }
          with ⟨hnone, hsame⟩ | ⟨vcId, packet, hfind, hfirst, hserved⟩
        · have hnone' : (vcOrder config.attributes.numVcs lastVC).find? (s.canServe config) =
              none := hnone
          rw [hsame, hnone']
          exact (List.append_nil _).symm
        · have hfind' : (vcOrder config.attributes.numVcs lastVC).find? (s.canServe config) =
              some vcId := hfind
          have hfirst' : (s.queueManager.vcPackets vcId).head? = some packet := hfirst
          obtain ⟨manager, -, htaken⟩ := taken_eq config
            { s with mainQueue := [], txMachineState := .ready, tryTransmits := s.tryTransmits - 1 }
            vcId packet
          rw [hserved, dataRecords_transmitStart_data, htaken, hfind', Option.bind_some, hfirst']
          rfl
  · have hbusy : s.txMachineState = .busy := by
      cases hstate : s.txMachineState with
      | ready => exact absurd hstate hready
      | busy => rfl
    rw [if_pos hbusy, if_neg]
    · exact (List.append_nil _).symm
    · intro hreaches
      exact hready (reachesVcs_iff.mp hreaches).1

/-- What is served can be served, and nothing that can comes before it. -/
theorem ahead_le_of_served (hserved : s.served config lastVC = some first) :
    s.reachesVcs = true ∧ first < config.attributes.numVcs ∧
      s.canServe config first = true ∧
      ∀ vcId < config.attributes.numVcs, s.canServe config vcId = true →
        RoundRobin.ahead config.attributes.numVcs.toNat lastVC.toNat first.toNat ≤
          RoundRobin.ahead config.attributes.numVcs.toNat lastVC.toNat vcId.toNat := by
  unfold served at hserved
  split_ifs at hserved with hreaches
  rw [vcOrder_eq, List.find?_map] at hserved
  obtain ⟨place, hplace, rfl⟩ := Option.map_eq_some_iff.mp hserved
  obtain ⟨hlt, hready, hfirst⟩ := RoundRobin.find?_order hplace
  have hsize : config.attributes.numVcs.toNat < 256 := config.attributes.numVcs.toNat_lt
  have hnat : (UInt8.ofNat place).toNat = place := UInt8.toNat_ofNat_of_lt' (hlt.trans hsize)
  refine ⟨hreaches, ?_, hready, fun vcId hvc hcan => ?_⟩
  · rw [UInt8.lt_iff_toNat_lt, hnat]
    exact hlt
  · rw [hnat]
    apply hfirst vcId.toNat (UInt8.lt_iff_toNat_lt.mp hvc)
    rw [Function.comp_apply, UInt8.ofNat_toNat]
    exact hcan

/-- A virtual channel that can be served is one of the device. -/
theorem lt_of_canServe (hreach : (system config).Reachable s)
    (hcan : s.canServe config vcId = true) : vcId < config.attributes.numVcs := by
  obtain ⟨packet, hfirst, -⟩ := canServe_iff_sendable.mp hcan
  refine (connected_and_live hreach).1.within.lt_of_mem fun hnil => ?_
  rw [hnil] at hfirst
  cases hfirst

end Transmitter

/-! ## Runs -/

namespace Rotation

open Transmitter RoundRobin

variable {ι : Type} [DecidableEq ι] {config : ι → TransmitterConfig} {s t : Rotation ι}

/-- What holds in a run in which every device has its own turn: the more often a virtual
channel has been passed over, the closer it is to the position of its device. -/
structure Turning (config : ι → TransmitterConfig) (s : Rotation ι) : Prop where
  reachable : ∀ device, (Transmitter.system (config device)).Reachable (s.transmitter device)
  closer : ∀ device vcId, s.passed device vcId = 0 ∨
    vcId < (config device).attributes.numVcs ∧
      s.passed device vcId + ahead (config device).attributes.numVcs.toNat
        (s.own device).toNat vcId.toNat < (config device).attributes.numVcs.toNat

theorem passedAfter_none (config : TransmitterConfig) (before after : Transmitter)
    (passed : UInt8 → ℕ) (vcId : UInt8) :
    passedAfter config before after none passed vcId = 0 ∨
      passedAfter config before after none passed vcId = passed vcId := by
  unfold passedAfter
  rw [if_pos (rfl : (none : Option UInt8) = none)]
  exact ite_eq_or_eq _ _ _

theorem passedAfter_some (config : TransmitterConfig) (before after : Transmitter)
    (passed : UInt8 → ℕ) (first vcId : UInt8) :
    passedAfter config before after (some first) passed vcId = 0 ∨
      (first ≠ vcId ∧ before.canServe config vcId = true) ∧
        passedAfter config before after (some first) passed vcId = passed vcId + 1 := by
  unfold passedAfter
  rw [if_neg (Option.some_ne_none first)]
  split_ifs with hreset
  · exact .inl rfl
  · rw [not_or, not_or] at hreset
    refine .inr ⟨⟨?_, eq_true_of_ne_false hreset.2.1⟩, rfl⟩
    exact fun hsame => hreset.1 (congrArg some hsame)

theorem toNat_behind (config : TransmitterConfig) (vcId : UInt8)
    (hpos : 0 < config.attributes.numVcs.toNat) :
    (behind config vcId).toNat = (vcId.toNat + 1) % config.attributes.numVcs.toNat := by
  have hsize : config.attributes.numVcs.toNat < 256 := config.attributes.numVcs.toNat_lt
  exact UInt8.toNat_ofNat_of_lt' ((Nat.mod_lt _ hpos).trans hsize)

/-- Only `TryTransmit` serves a virtual channel. -/
theorem exists_of_served {config : TransmitterConfig} {before : Transmitter}
    {event : TransmitterEvent} {lastVC first : UInt8}
    (hserved : (event.startingAt lastVC).served config before = some first) :
    ∃ lastVC', event = .tryTransmit lastVC' ∧ before.served config lastVC = some first := by
  cases event with
  | tryTransmit lastVC' => exact ⟨lastVC', rfl, hserved⟩
  | _ => cases hserved

/-- A virtual channel that is passed over in the turn of its device comes closer. -/
theorem closer_of_served {config : TransmitterConfig} {before : Transmitter}
    {lastVC own first vcId : UInt8} {passed : ℕ}
    (hreach : (Transmitter.system config).Reachable before)
    (hserved : before.served config lastVC = some first)
    (hturn : lastVC.toNat % config.attributes.numVcs.toNat =
        own.toNat % config.attributes.numVcs.toNat ∨
      ∀ vcId vcId', before.canServe config vcId = true →
        before.canServe config vcId' = true → vcId = vcId')
    (hcan : before.canServe config vcId = true) (hne : first ≠ vcId)
    (hcloser : passed = 0 ∨ vcId < config.attributes.numVcs ∧
      passed + ahead config.attributes.numVcs.toNat own.toNat vcId.toNat <
        config.attributes.numVcs.toNat) :
    vcId < config.attributes.numVcs ∧
      passed + 1 + ahead config.attributes.numVcs.toNat (behind config first).toNat
        vcId.toNat < config.attributes.numVcs.toNat := by
  obtain ⟨-, hfirst, hcanFirst, hle⟩ := ahead_le_of_served hserved
  have hvc : vcId < config.attributes.numVcs := lt_of_canServe hreach hcan
  have hvcNat := UInt8.lt_iff_toNat_lt.mp hvc
  have hpos : 0 < config.attributes.numVcs.toNat := Nat.zero_lt_of_lt hvcNat
  have hsame : lastVC.toNat % config.attributes.numVcs.toNat =
      own.toNat % config.attributes.numVcs.toNat :=
    hturn.resolve_right fun hone => hne (hone first vcId hcanFirst hcan)
  have hbound : passed + ahead config.attributes.numVcs.toNat own.toNat vcId.toNat <
      config.attributes.numVcs.toNat := by
    rcases hcloser with rfl | ⟨-, hbound⟩
    · rw [Nat.zero_add]
      exact ahead_lt hpos
    · exact hbound
  refine ⟨hvc, ?_⟩
  rw [toNat_behind config first hpos]
  apply passed_succ (UInt8.lt_iff_toNat_lt.mp hfirst) hvcNat
  · exact fun hnat => hne (UInt8.toNat_inj.mp hnat)
  · have hahead := hle vcId hvc hcan
    rw [← ahead_mod _ lastVC.toNat, ← ahead_mod _ lastVC.toNat, hsame, ahead_mod,
      ahead_mod] at hahead
    exact hahead
  · exact hbound

/-- A step in the turn of its device keeps all devices turning. -/
theorem Turning.step {event : ι × TransmitterEvent} (h : Turning config s)
    (hturn : OwnTurn config s event) (hstep : (system config).step s event = some t) :
    Turning config t := by
  obtain ⟨device, event⟩ := event
  obtain ⟨after, hafter, rfl⟩ := Option.map_eq_some_iff.mp hstep
  dsimp only at hafter
  refine ⟨fun device' => ?_, fun device' vcId => ?_⟩
  · dsimp only
    by_cases hdevice : device' = device
    · subst hdevice
      rw [Function.update_self]
      exact .step _ (h.reachable device') trivial hafter
    · rw [Function.update_of_ne hdevice]
      exact h.reachable device'
  · dsimp only
    by_cases hdevice : device' = device
    · subst hdevice
      rw [Function.update_self, Function.update_self]
      cases hserved : (event.startingAt s.lastVC).served (config device')
          (s.transmitter device') with
      | none =>
          rcases passedAfter_none (config device') (s.transmitter device') after
            (s.passed device') vcId with hzero | hsame
          · exact .inl hzero
          · rw [hsame]
            exact h.closer device' vcId
      | some first =>
          obtain ⟨lastVC', rfl, hserved'⟩ := exists_of_served hserved
          have hreaches := (ahead_le_of_served hserved').1
          rcases passedAfter_some (config device') (s.transmitter device') after
            (s.passed device') first vcId with hzero | ⟨⟨hne, hcan⟩, hsucc⟩
          · exact .inl hzero
          · rw [hsucc]
            exact .inr (closer_of_served (h.reachable device') hserved' (hturn hreaches) hcan hne
              (h.closer device' vcId))
    · rw [Function.update_of_ne hdevice, Function.update_of_ne hdevice]
      exact h.closer device' vcId

/-- In a run in which every device has its own turn, the virtual channels of each are served
fairly. -/
theorem fair_of_ownTurn (hreach : (system config).ReachableBy (OwnTurn config) s) :
    Fair config s := by
  have hturning : Turning config s := by
    refine hreach.invariant ?_ fun _ _ _ h hturn hstep => h.step hturn hstep
    rintro s rfl
    exact ⟨fun _ => .init rfl, fun _ _ => .inl rfl⟩
  intro device vcId
  rcases hturning.closer device vcId with hzero | ⟨-, hcloser⟩
  · rw [hzero]
    exact Nat.zero_le _
  · omega

/-! ## Two devices -/

/-- Two cards with two virtual channels. -/
def twoCards (first : Bool) : TransmitterConfig :=
  { Transmitter.card with
    attributes := { numVcs := 2, enableLinkCBFC := true }
    localMac := { b5 := if first then 1 else 3 }
    remoteMac := { b5 := if first then 2 else 4 }
    devices := [{ b5 := if first then 1 else 3 }] }

theorem packetOn_small : 256 + ethernetHeaderSize + pppHeaderSize < 2 ^ 32 :=
  Nat.le_of_ble_eq_true rfl

/-- A packet of a virtual channel. -/
def packetOn (vcId : UInt8) : TransmitterEvent :=
  .enqueueToVcQueue ⟨⟨{ b5 := 1 }, { b5 := 3 }, vcId, 256, packetOn_small⟩, 0⟩

/-- The first card has two packets on its first virtual channel and one on its second; between
its turns the other card sends a packet of its second virtual channel. -/
def alternating : List (Bool × TransmitterEvent) :=
  [(true, packetOn 0), (true, packetOn 0), (true, packetOn 1), (false, packetOn 1),
    (true, .tryTransmit 0), (false, .tryTransmit 0), (true, .transmitComplete),
    (true, .tryTransmit 0)]

/-- The second virtual channel of the first card is passed over twice. -/
theorem not_fair_alternating :
    ∃ s, (system twoCards).runActions {} alternating = some s ∧ s.passed true 1 = 2 ∧
      ¬Fair twoCards s := by
  obtain ⟨s, hrun⟩ : ∃ s, (system twoCards).runActions {} alternating = some s := ⟨_, rfl⟩
  have htwice : s.passed true 1 = 2 := by
    cases hrun
    rfl
  refine ⟨s, hrun, htwice, fun hfair => ?_⟩
  have hle := hfair true 1
  rw [htwice] at hle
  exact absurd hle (by decide)

/-- The first card alone is always in its own turn. -/
theorem ownTurn_alone :
    (system twoCards).GuardedRun (OwnTurn twoCards) {} (alternating.filter Prod.fst) := by
  refine ⟨trivial, fun t ht => ?_⟩
  cases ht
  refine ⟨trivial, fun t ht => ?_⟩
  cases ht
  refine ⟨trivial, fun t ht => ?_⟩
  cases ht
  refine ⟨fun _ => .inl rfl, fun t ht => ?_⟩
  cases ht
  refine ⟨trivial, fun t ht => ?_⟩
  cases ht
  exact ⟨fun _ => .inl rfl, fun t ht => trivial⟩

/-- A run of the first card alone, in which its virtual channels are served in turn. -/
theorem fair_of_ownTurn_alone :
    ∃ s, (system twoCards).runActions {} (alternating.filter Prod.fst) = some s ∧
      Fair twoCards s := by
  obtain ⟨s, hrun⟩ : ∃ s, (system twoCards).runActions {} (alternating.filter Prod.fst) =
    some s := ⟨_, rfl⟩
  exact ⟨s, hrun, fair_of_ownTurn (.of_guardedRun (.init rfl) ownTurn_alone hrun)⟩

end Rotation

end UeSim
