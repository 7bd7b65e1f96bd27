import UeSim.Sue.LlrManager
import UeSim.Sue.Network

/-!
# Forwarding inside a switch

A port of a switch hands the first packet of its processing queue to `SueSwitch`.  The
switch looks up the egress port, numbers the packet when it has a manager for
retransmission, checks the credits and starts the forwarding.  When it returns false,
the port calls it again later with the same packet.
-/

namespace UeSim

/-! ## The source function -/

/-- The addresses of an `EthernetHeader`. -/
structure EthernetHeader where
  source : Mac48Address
  destination : Mac48Address
  deriving DecidableEq, Repr

/-- The interface number and the address of a device of the node. -/
structure SwitchPort where
  ifIndex : ℕ
  address : Mac48Address
  deriving DecidableEq, Repr

/-- What the arguments of `ProcessSwitchForwarding` give it, but for the packet and the
credits: `devices` are the devices of the node, and `llrEnabled` is the flag of
`currentDevice`. -/
structure ForwardingCall where
  ethHeader : EthernetHeader
  currentDevice : SwitchPort
  llrEnabled : Bool := false
  devices : List SwitchPort
  protocol : ℕ := 0x0800
  vcId : UInt8

/-- The arguments of a scheduled `ForwardingComplete`. -/
structure ScheduledForwarding where
  originalDevice : SwitchPort
  targetDevice : SwitchPort
  packet : SuePacket
  ethHeader : EthernetHeader
  vcId : UInt8
  sourceMac : Mac48Address
  deriving DecidableEq, Repr

/-- The arguments of a call of `Send`. -/
structure SentFrame where
  packet : SuePacket
  destination : Mac48Address
  protocol : ℕ
  deriving DecidableEq, Repr

/-- The members of a `SueSwitch`, with what `ProcessSwitchForwarding` changes besides:
the credits of the device that calls it, the packet, and what it schedules and sends. -/
structure SueSwitch where
  forwardingTable : KeyedMap Mac48Address ℕ := ∅
  forwardingBusy : Bool := false
  llrSwitchPortManager : Option (LlrSwitchPortManager SuePacket) := none
  cbfcManager : Option CbfcManager := none
  packet : SuePacket
  scheduled : List ScheduledForwarding := []
  sent : List SentFrame := []

namespace SueSwitch

variable {call : ForwardingCall} {s t : SueSwitch} {port : SwitchPort}

/-- The device with the port number that the table names. -/
def egress (s : SueSwitch) (call : ForwardingCall) : Option SwitchPort :=
  (s.forwardingTable.lookup call.ethHeader.destination).bind fun outPortIndex =>
    call.devices.find? fun port => port.ifIndex = outPortIndex

/-- The manager for retransmission changes. -/
def withLlr (s : SueSwitch) (manager : LlrSwitchPortManager SuePacket) : SueSwitch :=
  { s with llrSwitchPortManager := some manager }

/-- The manager for retransmission numbers a copy of the packet. -/
def applyLlr (s : SueSwitch) (call : ForwardingCall) (mac : Mac48Address) : Option SueSwitch :=
  if call.llrEnabled then
    match s.llrSwitchPortManager with
    | none => some s
    | some manager => (manager.llrSendPacket s.packet call.vcId mac).map s.withLlr
  else some s

/-- Whether the credits of the calling device allow the packet on. -/
def canForward (s : SueSwitch) (mac : Mac48Address) (vcId : UInt8) : Bool :=
  s.cbfcManager.elim true fun manager => SueNetwork.allows manager mac vcId s.packet.size

/-- The forwarding that is scheduled for a packet. -/
def scheduledFor (s : SueSwitch) (call : ForwardingCall) (port : SwitchPort) :
    ScheduledForwarding where
  originalDevice := call.currentDevice
  targetDevice := port
  packet := s.packet.withSource call.currentDevice.address
  ethHeader := call.ethHeader
  vcId := call.vcId
  sourceMac := call.ethHeader.source

/-- The forwarding to another port starts: the credits are taken, and the source address
of the packet is replaced. -/
def startForwarding (s : SueSwitch) (call : ForwardingCall) (port : SwitchPort) : SueSwitch :=
  { s with
    cbfcManager := s.cbfcManager.map fun manager =>
      SueNetwork.spend manager port.address call.vcId s.packet.size
    packet := s.packet.withSource call.currentDevice.address
    scheduled := s.scheduled ++ [s.scheduledFor call port]
    forwardingBusy := true }

/-- The branch for another port, behind the numbering. -/
def forward (s : SueSwitch) (call : ForwardingCall) (port : SwitchPort) : Bool × SueSwitch :=
  if s.canForward port.address call.vcId then
    (true, s.startForwarding call port)
  else
    (false, s)

/-- The port is its own egress, and sends the packet. -/
def sendOn (s : SueSwitch) (call : ForwardingCall) : SueSwitch :=
  { s with sent := s.sent ++ [⟨s.packet, call.ethHeader.destination, call.protocol⟩] }

/-- `ProcessSwitchForwarding`: its result and the state behind it.  There is none when
the manager for retransmission has no entry for the egress port.  A destination that is
not in the table fails an assertion, where assertions are compiled in. -/
def processSwitchForwarding (call : ForwardingCall) (s : SueSwitch) :
    Option (Bool × SueSwitch) :=
  if s.forwardingBusy then
    some (false, s)
  else
    match s.egress call with
    | none => some (false, s)
    | some port =>
        if call.currentDevice.ifIndex = port.ifIndex then
          some (true, s.sendOn call)
        else
          (s.applyLlr call port.address).map fun t => t.forward call port

/-- A port calls until the result is true.  `events` are what happens between its
calls. -/
def retryForwarding (call : ForwardingCall) :
    List (SueSwitch → SueSwitch) → SueSwitch → Option (Bool × SueSwitch)
  | [], s => processSwitchForwarding call s
  | event :: events, s => (processSwitchForwarding call s).bind fun result =>
      if result.1 then some result else retryForwarding call events (event result.2)

/-! ## What a call should do -/

/-- The credits of the calling device. -/
def txCredits (s : SueSwitch) (mac : Mac48Address) (vcId : UInt8) : ℕ :=
  s.cbfcManager.elim 0 fun manager => manager.getTxCredits mac vcId

/-- The credits that the packet costs on its way to a port. -/
def creditCost (s : SueSwitch) : ℕ :=
  s.cbfcManager.elim 0 fun manager =>
    if manager.enableLinkCBFC then manager.calculateCreditsForPacket s.packet.size else 0

/-- The number that the next packet of a lane gets. -/
def llrSendSeq (s : SueSwitch) (key : Mac48Address × UInt8) : ℕ :=
  s.llrSwitchPortManager.elim 0 fun manager => manager.sendSeq key

/-- Whether the manager for retransmission numbers the packet. -/
def numbers (s : SueSwitch) (call : ForwardingCall) (mac : Mac48Address) : Bool :=
  call.llrEnabled && s.llrSwitchPortManager.any fun manager =>
    manager.serves call.vcId && (manager.lanes.lookup (mac, call.vcId)).isSome

/-- A call that returns false changes nothing. -/
def FailsCleanly (call : ForwardingCall) (s : SueSwitch) : Prop :=
  ∀ t, processSwitchForwarding call s = some (false, t) → t = s

/-- What an internal forwarding does: it is scheduled, to the port that the table names,
and takes its credits and its number. -/
structure ForwardedOnce (call : ForwardingCall) (port : SwitchPort) (s t : SueSwitch) :
    Prop where
  scheduled : t.scheduled = s.scheduled ++ [s.scheduledFor call port]
  sent : t.sent = s.sent
  busy : t.forwardingBusy = true
  credits : ∀ mac vcId, t.txCredits mac vcId +
    (if (mac, vcId) = (port.address, call.vcId) then s.creditCost else 0) = s.txCredits mac vcId
  sendSeq : ∀ key, t.llrSendSeq key =
    if s.numbers call port.address = true ∧ key = (port.address, call.vcId) then
      toU32 (s.llrSendSeq key + 1)
    else s.llrSendSeq key

/-- A call that returns true forwards the packet once, unless the port is its own
egress. -/
def ForwardsOnce (call : ForwardingCall) (s : SueSwitch) : Prop :=
  ∀ t port, processSwitchForwarding call s = some (true, t) → s.egress call = some port →
    call.currentDevice.ifIndex ≠ port.ifIndex → ForwardedOnce call port s t

/-- No call numbers the packet without the credits to send it on. -/
def NotNumberedInVain (call : ForwardingCall) (s : SueSwitch) : Prop :=
  ∀ port, s.forwardingBusy = false → s.egress call = some port →
    call.currentDevice.ifIndex ≠ port.ifIndex → s.numbers call port.address = true →
    s.canForward port.address call.vcId = true

/-- The calls of a port that retries all meet the condition. -/
def RetriesNotInVain (call : ForwardingCall) :
    List (SueSwitch → SueSwitch) → SueSwitch → Prop
  | [], s => NotNumberedInVain call s
  | event :: events, s => NotNumberedInVain call s ∧
      ∀ t, processSwitchForwarding call s = some (false, t) →
        RetriesNotInVain call events (event t)

/-! ## Numbering -/

/-- What the manager for retransmission does with the packet. -/
theorem applyLlr_cases {u : SueSwitch} {mac : Mac48Address}
    (h : s.applyLlr call mac = some u) :
    (s.numbers call mac = false ∧ u = s) ∨
      (s.numbers call mac = true ∧ ∃ manager lane,
        s.llrSwitchPortManager = some manager ∧
        manager.lanes.lookup (mac, call.vcId) = some lane ∧
        u = s.withLlr (manager.setLane (mac, call.vcId) (lane.sendPacket s.packet))) := by
  unfold applyLlr at h
  split_ifs at h with henabled
  · cases hmanager : s.llrSwitchPortManager with
    | none =>
        rw [hmanager] at h
        cases h
        exact .inl ⟨by simp [numbers, hmanager], rfl⟩
    | some manager =>
        rw [hmanager] at h
        obtain ⟨manager', hsend, rfl⟩ := Option.map_eq_some_iff.mp h
        by_cases hserves : manager.serves call.vcId = true
        · obtain ⟨lane, hlane, rfl⟩ := (LlrManager.onLane_eq_some hserves).mp hsend
          refine .inr ⟨?_, manager, lane, rfl, hlane, rfl⟩
          simp [numbers, henabled, hmanager, hserves, hlane]
        · have hsame : manager = manager' :=
            Option.some.inj ((LlrManager.onLane_of_not_serves hserves).symm.trans hsend)
          refine .inl ⟨by simp [numbers, hmanager, hserves], ?_⟩
          unfold withLlr
          rw [← hsame, ← hmanager]
  · cases h
    exact .inl ⟨by simp [numbers, henabled], rfl⟩

/-- A packet that is to be numbered is. -/
theorem exists_applyLlr {mac : Mac48Address} (hnumbers : s.numbers call mac = true) :
    ∃ u, s.applyLlr call mac = some u := by
  obtain ⟨henabled, hany⟩ := Bool.and_eq_true_iff.mp hnumbers
  cases hmanager : s.llrSwitchPortManager with
  | none => simp [hmanager] at hany
  | some manager =>
      rw [hmanager, Option.any_some, Bool.and_eq_true] at hany
      obtain ⟨lane, hlane⟩ := Option.isSome_iff_exists.mp hany.2
      have hsend : manager.llrSendPacket s.packet call.vcId mac =
          some (manager.setLane (mac, call.vcId) (lane.sendPacket s.packet)) :=
        (LlrManager.onLane_eq_some hany.1).mpr ⟨lane, hlane, rfl⟩
      unfold applyLlr
      rw [if_pos henabled, hmanager]
      dsimp only
      rw [hsend]
      exact ⟨_, rfl⟩

/-- Numbering a packet moves the number of its lane only. -/
theorem llrSendSeq_applyLlr {u : SueSwitch} {mac : Mac48Address}
    (h : s.applyLlr call mac = some u) (key : Mac48Address × UInt8) :
    u.llrSendSeq key =
      if s.numbers call mac = true ∧ key = (mac, call.vcId) then toU32 (s.llrSendSeq key + 1)
      else s.llrSendSeq key := by
  rcases applyLlr_cases h with ⟨hnumbers, rfl⟩ | ⟨hnumbers, manager, lane, hmanager, hlane, rfl⟩
  · rw [if_neg]
    rw [hnumbers]
    exact fun hboth => Bool.false_ne_true hboth.1
  · have hbefore : s.llrSendSeq key = manager.sendSeq key := by
      unfold llrSendSeq
      rw [hmanager]
      rfl
    have hafter : (s.withLlr (manager.setLane (mac, call.vcId)
        (lane.sendPacket s.packet))).llrSendSeq key =
        (manager.setLane (mac, call.vcId) (lane.sendPacket s.packet)).sendSeq key := rfl
    rw [hbefore, hafter]
    unfold LlrManager.sendSeq
    rw [LlrManager.lookup_setLane]
    by_cases hkey : key = (mac, call.vcId)
    · rw [if_pos hkey, if_pos ⟨hnumbers, hkey⟩, hkey, hlane]
      rfl
    · rw [if_neg hkey, if_neg fun hboth => hkey hboth.2]

/-- A packet that is numbered leaves another state. -/
theorem applyLlr_ne {u : SueSwitch} {mac : Mac48Address} (h : s.applyLlr call mac = some u)
    (hnumbers : s.numbers call mac = true) : u ≠ s := by
  intro hsame
  have hnext := llrSendSeq_applyLlr h (mac, call.vcId)
  rw [if_pos ⟨hnumbers, rfl⟩, hsame] at hnext
  unfold toU32 at hnext
  omega

/-- Numbering a packet leaves the rest of the state alone. -/
theorem applyLlr_frame {u : SueSwitch} {mac : Mac48Address} (h : s.applyLlr call mac = some u) :
    ∃ manager, u = { s with llrSwitchPortManager := manager } := by
  rcases applyLlr_cases h with ⟨-, rfl⟩ | ⟨-, manager, lane, -, -, rfl⟩
  · exact ⟨u.llrSwitchPortManager, rfl⟩
  · exact ⟨_, rfl⟩

theorem canForward_applyLlr {u : SueSwitch} {mac : Mac48Address}
    (h : s.applyLlr call mac = some u) : u.canForward = s.canForward := by
  obtain ⟨manager, rfl⟩ := applyLlr_frame h
  rfl

/-! ## Starting a forwarding -/

/-- A forwarding takes the credits that its packet costs from those of its port. -/
theorem txCredits_startForwarding (hallow : s.canForward port.address call.vcId = true)
    (mac : Mac48Address) (vcId : UInt8) :
    (s.startForwarding call port).txCredits mac vcId +
      (if (mac, vcId) = (port.address, call.vcId) then s.creditCost else 0) =
        s.txCredits mac vcId := by
  unfold canForward at hallow
  unfold startForwarding txCredits creditCost
  cases hmanager : s.cbfcManager with
  | none => simp
  | some manager =>
      rw [hmanager] at hallow
      simp only [Option.elim_some, Option.map_some] at hallow ⊢
      by_cases henabled : manager.enableLinkCBFC = true
      · have henough : manager.hasEnoughCredits port.address call.vcId s.packet.size = true := by
          simpa [SueNetwork.allows, henabled] using hallow
        have hle := (CbfcManager.hasEnoughCredits_iff.mp henough).2
        unfold SueNetwork.spend
        rw [if_pos henabled, if_pos henabled,
          CbfcManager.getTxCredits_consumeDynamicCredits henough]
        by_cases hkey : (mac, vcId) = (port.address, call.vcId)
        · rw [if_pos hkey, if_pos hkey]
          obtain ⟨rfl, rfl⟩ := Prod.ext_iff.mp hkey
          exact Nat.sub_add_cancel hle
        · rw [if_neg hkey, if_neg hkey, Nat.add_zero]
      · unfold SueNetwork.spend
        rw [if_neg henabled, if_neg henabled]
        split_ifs <;> rfl

/-! ## What a call does -/

/-- The ways of a call, with its result and the state behind it. -/
inductive CallCase (call : ForwardingCall) (s : SueSwitch) : Bool → SueSwitch → Prop
  | unable : CallCase call s false s
  | ownEgress (port : SwitchPort) (hegress : s.egress call = some port)
      (hown : call.currentDevice.ifIndex = port.ifIndex) : CallCase call s true (s.sendOn call)
  | refused (port : SwitchPort) (u : SueSwitch) (hegress : s.egress call = some port)
      (hidle : s.forwardingBusy = false)
      (hother : call.currentDevice.ifIndex ≠ port.ifIndex)
      (hllr : s.applyLlr call port.address = some u)
      (hallow : u.canForward port.address call.vcId = false) : CallCase call s false u
  | forwarded (port : SwitchPort) (u : SueSwitch) (hegress : s.egress call = some port)
      (hllr : s.applyLlr call port.address = some u)
      (hallow : u.canForward port.address call.vcId = true) :
      CallCase call s true (u.startForwarding call port)

theorem call_cases {result : Bool}
    (h : processSwitchForwarding call s = some (result, t)) : CallCase call s result t := by
  unfold processSwitchForwarding at h
  split_ifs at h with hbusy
  · cases h
    exact .unable
  · cases hegress : s.egress call with
    | none =>
        rw [hegress] at h
        cases h
        exact .unable
    | some port =>
        rw [hegress] at h
        dsimp only at h
        split_ifs at h with hown
        · cases h
          exact .ownEgress port hegress hown
        · obtain ⟨u, hllr, hforward⟩ := Option.map_eq_some_iff.mp h
          unfold forward at hforward
          split_ifs at hforward with hallow
          · cases hforward
            exact .forwarded port u hegress hllr hallow
          · cases hforward
            exact .refused port t hegress (Bool.eq_false_iff.mpr hbusy) hown hllr
              (Bool.eq_false_iff.mpr hallow)

/-- A call replaces no more of the packet than its source address, and that only when it
returns true. -/
theorem packet_of_call {result : Bool}
    (h : processSwitchForwarding call s = some (result, t)) :
    t.packet.size = s.packet.size ∧ (result = false → t.packet = s.packet) := by
  cases call_cases h with
  | unable => exact ⟨rfl, fun _ => rfl⟩
  | ownEgress => exact ⟨rfl, fun _ => rfl⟩
  | refused port u hegress hidle hother hllr hallow =>
      obtain ⟨manager, rfl⟩ := applyLlr_frame hllr
      exact ⟨rfl, fun _ => rfl⟩
  | forwarded port u hegress hllr hallow =>
      obtain ⟨manager, rfl⟩ := applyLlr_frame hllr
      exact ⟨rfl, fun hfalse => Bool.noConfusion hfalse⟩

/-- A call that numbers its packet and has no credits for it returns false. -/
theorem process_of_refused {u : SueSwitch} (hidle : s.forwardingBusy = false)
    (hegress : s.egress call = some port)
    (hother : call.currentDevice.ifIndex ≠ port.ifIndex)
    (hllr : s.applyLlr call port.address = some u)
    (hallow : ¬u.canForward port.address call.vcId = true) :
    processSwitchForwarding call s = some (false, u) := by
  unfold processSwitchForwarding
  rw [if_neg (by simp [hidle]), hegress]
  dsimp only
  rw [if_neg hother, hllr, Option.map_some]
  unfold forward
  rw [if_neg hallow]

/-- A call that returns true forwards the packet once. -/
theorem forwardsOnce (call : ForwardingCall) (s : SueSwitch) : ForwardsOnce call s := by
  intro t port hcall hegress hother
  generalize htrue : true = result at hcall
  cases call_cases hcall with
  | unable => cases htrue
  | refused => cases htrue
  | ownEgress port' hegress' hown =>
      cases hegress.symm.trans hegress'
      exact absurd hown hother
  | forwarded port' u hegress' hllr hallow =>
      cases hegress.symm.trans hegress'
      have hsendSeq := llrSendSeq_applyLlr hllr
      have hcredits := txCredits_startForwarding hallow
      obtain ⟨manager, rfl⟩ := applyLlr_frame hllr
      exact ⟨rfl, rfl, rfl, hcredits, hsendSeq⟩

/-- A failed call leaves everything alone exactly when it does not number the packet
without the credits to send it on. -/
theorem failsCleanly_iff : FailsCleanly call s ↔ NotNumberedInVain call s := by
  constructor
  · intro hclean port hidle hegress hother hnumbers
    by_contra hallow
    obtain ⟨u, hllr⟩ := exists_applyLlr hnumbers
    rw [← canForward_applyLlr hllr] at hallow
    exact applyLlr_ne hllr hnumbers
      (hclean u (process_of_refused hidle hegress hother hllr hallow))
  · intro hvain t hcall
    generalize hfalse : false = result at hcall
    cases call_cases hcall with
    | unable => rfl
    | ownEgress => cases hfalse
    | forwarded => cases hfalse
    | refused port u hegress hidle hother hllr hallow =>
        rcases applyLlr_cases hllr with ⟨-, rfl⟩ | ⟨hnumbers, -⟩
        · rfl
        · rw [canForward_applyLlr hllr, hvain port hidle hegress hother hnumbers] at hallow
          cases hallow

/-- Calls that all meet the condition amount to the last of them, in the state to which
the events before it lead. -/
theorem retryForwarding_eq {events : List (SueSwitch → SueSwitch)}
    (hvain : RetriesNotInVain call events s) :
    ∃ k ≤ events.length, retryForwarding call events s =
      processSwitchForwarding call ((events.take k).foldl (fun s event => event s) s) := by
  induction events generalizing s with
  | nil => exact ⟨0, le_refl _, rfl⟩
  | cons event events ih =>
      unfold retryForwarding
      cases hcall : processSwitchForwarding call s with
      | none => exact ⟨0, Nat.zero_le _, hcall.symm⟩
      | some r =>
          obtain ⟨result, t⟩ := r
          cases result with
          | true => exact ⟨0, Nat.zero_le _, hcall.symm⟩
          | false =>
              have hsame : t = s := failsCleanly_iff.mpr hvain.1 t hcall
              obtain ⟨k, hk, hrest⟩ := ih (hvain.2 t hcall)
              refine ⟨k + 1, Nat.succ_le_succ hk, ?_⟩
              rw [hsame] at hrest ⊢
              exact hrest

/-- A call that fails changes nothing and a call that succeeds forwards once exactly when
the call does not number a packet that it has no credits for.  Calls that are repeated
under this condition until one succeeds amount to that one. -/
theorem forwardsOnce_iff_notNumberedInVain (call : ForwardingCall) (s : SueSwitch) :
    (FailsCleanly call s ∧ ForwardsOnce call s ↔ NotNumberedInVain call s) ∧
      ∀ events, RetriesNotInVain call events s → ∃ k ≤ events.length,
        retryForwarding call events s =
          processSwitchForwarding call ((events.take k).foldl (fun s event => event s) s) := by
  refine ⟨⟨fun h => failsCleanly_iff.mp h.1, fun hvain => ?_⟩, fun _ => retryForwarding_eq⟩
  exact ⟨failsCleanly_iff.mpr hvain, forwardsOnce call s⟩

/-! ## A packet that is numbered in vain -/

/-- The address of the port with the given number. -/
def portAddress (ifIndex : UInt8) : Mac48Address := { b5 := 2 * ifIndex }

/-- A packet for the card behind the second port arrives at the first. -/
def arrival : ForwardingCall where
  ethHeader := ⟨{ b5 := 1 }, { b5 := 3 }⟩
  currentDevice := ⟨1, portAddress 1⟩
  llrEnabled := true
  devices := [⟨1, portAddress 1⟩, ⟨2, portAddress 2⟩]
  vcId := 0

/-- The first port has no credits for the second, and retransmission is on. -/
def withoutCredits : SueSwitch where
  forwardingTable := (∅ : KeyedMap Mac48Address ℕ).insert { b5 := 3 } 2
  llrSwitchPortManager := some
    (LlrSwitchPortManager.initializeLlr { numVcs := 1 } (portAddress 1) { b5 := 1 }
      [portAddress 1, portAddress 2])
  cbfcManager := some { enableLinkCBFC := true }
  packet := ⟨{ b5 := 1 }, { b5 := 3 }, 0, 256, by decide⟩

/-- Credits for one packet arrive. -/
def grantCredits (s : SueSwitch) : SueSwitch :=
  { s with cbfcManager := s.cbfcManager.map fun manager =>
      manager.addTxCredits (portAddress 2) 0 2 }

/-- A call that fails takes a number: the packet that goes on after two failures has taken
three, and one that goes on at the first call has taken one. -/
theorem not_failsCleanly_withoutCredits :
    ¬FailsCleanly arrival withoutCredits ∧
      (retryForwarding arrival [id, grantCredits] withoutCredits).map (fun r =>
        (r.1, r.2.llrSendSeq (portAddress 2, 0))) = some (true, 3) ∧
      (processSwitchForwarding arrival (grantCredits withoutCredits)).map (fun r =>
        (r.1, r.2.llrSendSeq (portAddress 2, 0))) = some (true, 1) := by
  refine ⟨fun hclean => ?_, rfl, rfl⟩
  have hallow := failsCleanly_iff.mp hclean ⟨2, portAddress 2⟩ rfl rfl (by decide) rfl
  cases hallow

end SueSwitch

end UeSim
