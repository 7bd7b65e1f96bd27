import UeSim.Sue.CbfcManager
import UeSim.Sue.LlrManager
import UeSim.Sue.SueQueueManager
import UeSim.Support.RoundRobin
import UeSim.Support.Transition

/-!
# The transmitter of a device

A device sends the frames of its main queue first, and then the packets of its virtual
channels, for which it takes credits when flow control is on.  `TryTransmit` looks for the
next frame, and is scheduled whenever there may be one: when a frame or credits arrive,
and when the frame that is being sent is complete.

The order of the pending events is left open, and so is the virtual channel at which
`TryTransmit` starts to look: the source keeps it in a static variable that all devices
share.
-/

namespace UeSim

/-- `TxMachineState`. -/
inductive TxMachineState
  | ready
  | busy
  deriving DecidableEq, Repr

/-- A data packet with the sequence number of its tag, which is 0 without
retransmission. -/
structure SueTaggedPacket where
  packet : SuePacket
  seq : ℕ := 0
  deriving DecidableEq, Repr

instance : QueueItem SueTaggedPacket where
  getSize tagged := tagged.packet.wireSize

/-- The frames that a device sends. -/
inductive TxFrame
  | data (packet : SueTaggedPacket)
  | creditUpdate (frame : CreditFrame)
  | control (reply : LlrReply)
  deriving DecidableEq, Repr

/-- What is fixed about a device.  The main queue is given to it from outside, and decides
what it takes. -/
structure TransmitterConfig where
  attributes : CbfcManager.Config
  vcQueueMaxBytes : ℕ
  additionalHeaderSize : ℕ
  localMac : Mac48Address
  remoteMac : Mac48Address
  /-- The addresses of the devices of the node. -/
  devices : List Mac48Address
  mainQueueTakes : List TxFrame → TxFrame → Bool

/-- A call of `TransmitStart`: its frame, the state of the machine that it found, whether
the frame came out of the queue of a virtual channel, and whether the main queue was
empty. -/
structure TransmitRecord where
  frame : TxFrame
  found : TxMachineState
  fromVcQueue : Bool
  mainQueueEmpty : Bool
  deriving DecidableEq, Repr

/-- The members of a device around its transmitter, and the numbers of pending
`TryTransmit` and `TransmitComplete` events.  `transmissions` records the calls of
`TransmitStart`, and `discarded` the packets that were dequeued and not sent. -/
structure Transmitter where
  txMachineState : TxMachineState := .ready
  currentPkt : Option TxFrame := none
  mainQueue : List TxFrame := []
  queueManager : SueQueueManager SueTaggedPacket := {}
  cbfcManager : CbfcManager := {}
  tryTransmits : ℕ := 0
  transmitCompletes : ℕ := 0
  transmissions : List TransmitRecord := []
  discarded : List SueTaggedPacket := []

/-- The events of a device that concern its transmitter. -/
inductive TransmitterEvent
  /-- `Send`, for a credit update. -/
  | sendCredits (frame : CreditFrame)
  /-- `Send`, for an acknowledgment or negative acknowledgment. -/
  | sendControl (reply : LlrReply)
  /-- `EnqueueToVcQueue`, by itself or at the end of `Send`. -/
  | enqueueToVcQueue (packet : SueTaggedPacket)
  /-- `Receive`, for a credit update. -/
  | receiveCredits (frame : CreditFrame)
  /-- `Receive`, `Send` or `EnqueueToVcQueue`, where they take in nothing to transmit. -/
  | other
  | tryTransmit (lastVC : UInt8)
  | transmitComplete
  /-- The switch takes credits of the device for a packet to another port. -/
  | forward (mac : Mac48Address) (vcId : UInt8) (packetSize : ℕ)
  /-- `HandleCreditReturn` and `CreditReturn`. -/
  | returnCredits (mac : Mac48Address) (vcId : UInt8) (packetSize : ℕ)

namespace Transmitter

variable {config : TransmitterConfig} {s t : Transmitter} {vcId : UInt8}

/-- `PointToPointSueNetDevice::InitializeCbfc`. -/
def initializeCbfc (config : TransmitterConfig) (s : Transmitter) : Transmitter :=
  if s.cbfcManager.initialized then
    s
  else
    { s with
      cbfcManager := .initializeCbfc config.attributes config.remoteMac config.localMac
        config.devices
      queueManager := s.queueManager.initializeQueues config.attributes.numVcs
        config.vcQueueMaxBytes config.additionalHeaderSize }

/-- Schedule `TryTransmit`, when the machine is ready. -/
def scheduleTryTransmit (s : Transmitter) : Transmitter :=
  { s with
    tryTransmits := if s.txMachineState = .ready then s.tryTransmits + 1 else s.tryTransmits }

/-- `TransmitStart`. -/
def transmitStart (s : Transmitter) (frame : TxFrame) (fromVcQueue : Bool) : Transmitter :=
  { s with
    txMachineState := .busy
    currentPkt := some frame
    transmitCompletes := s.transmitCompletes + 1
    transmissions := s.transmissions ++
      [⟨frame, s.txMachineState, fromVcQueue, s.mainQueue.isEmpty⟩] }

/-- The virtual channels in the order in which `TryTransmit` looks at them. -/
def vcOrder (numVcs lastVC : UInt8) : List UInt8 :=
  (List.range numVcs.toNat).map fun i => UInt8.ofNat ((lastVC.toNat + i) % numVcs.toNat)

/-- Whether the credits for the first packet of a queue suffice. -/
def firstHasCredits (config : TransmitterConfig) (s : Transmitter) (vcId : UInt8) : Bool :=
  0 < s.queueManager.getFirstPacketSize vcId &&
    s.cbfcManager.hasEnoughCredits config.remoteMac vcId
      (s.queueManager.getFirstPacketSize vcId)

/-- The first packet of a queue is dequeued. -/
def dequeue (s : Transmitter) (vcId : UInt8) : Transmitter :=
  { s with queueManager := (s.queueManager.dequeueFromVcQueue vcId).2 }

/-- Credits are taken for a packet. -/
def consume (config : TransmitterConfig) (s : Transmitter) (vcId : UInt8)
    (packet : SueTaggedPacket) : Transmitter :=
  { s with
    cbfcManager := s.cbfcManager.consumeDynamicCredits config.remoteMac vcId (getSize packet) }

/-- The loop of `TryTransmit` over the virtual channels.  A packet for which
`ConsumeDynamicCredits` fails after it has been dequeued is lost. -/
def serveVcs (config : TransmitterConfig) : List UInt8 → Transmitter → Transmitter
  | [], s => s
  | vcId :: vcs, s =>
      match s.queueManager.vcPackets vcId with
      | [] => serveVcs config vcs s
      | packet :: _ =>
          if config.attributes.enableLinkCBFC then
            if s.firstHasCredits config vcId then
              if s.cbfcManager.hasEnoughCredits config.remoteMac vcId (getSize packet) then
                ((s.dequeue vcId).consume config vcId packet).transmitStart (.data packet) true
              else
                serveVcs config vcs
                  { s.dequeue vcId with discarded := s.discarded ++ [packet] }
            else
              serveVcs config vcs s
          else
            (s.dequeue vcId).transmitStart (.data packet) true

/-- `TryTransmit`, one of the pending ones. -/
def tryTransmit (config : TransmitterConfig) (s : Transmitter) (lastVC : UInt8) : Transmitter :=
  let s := { s with tryTransmits := s.tryTransmits - 1 }
  if s.txMachineState = .busy then
    s
  else
    match s.mainQueue with
    | frame :: rest => { s with mainQueue := rest }.transmitStart frame false
    | [] => serveVcs config (vcOrder config.attributes.numVcs lastVC) s

/-- Whether a frame waits in some queue. -/
def hasPacketsToProcess (config : TransmitterConfig) (s : Transmitter) : Bool :=
  !s.mainQueue.isEmpty ||
    (vcIds config.attributes.numVcs).any fun vcId => !s.queueManager.isVcQueueEmpty vcId

/-- `TransmitComplete`. -/
def transmitComplete (config : TransmitterConfig) (s : Transmitter) : Transmitter :=
  { s with
    transmitCompletes := s.transmitCompletes - 1
    txMachineState := .ready
    currentPkt := none
    tryTransmits :=
      if s.hasPacketsToProcess config then s.tryTransmits + 1 else s.tryTransmits }

/-- The main queue takes a frame, or drops it. -/
def enqueueMain (config : TransmitterConfig) (s : Transmitter) (frame : TxFrame) :
    Transmitter :=
  { s with
    mainQueue :=
      if config.mainQueueTakes s.mainQueue frame then s.mainQueue ++ [frame] else s.mainQueue }

/-- The branch of `Send` for a credit update: when the main queue is full, it returns
early. -/
def sendCredits (config : TransmitterConfig) (s : Transmitter) (frame : CreditFrame) :
    Transmitter :=
  if config.mainQueueTakes s.mainQueue (.creditUpdate frame) then
    (s.enqueueMain config (.creditUpdate frame)).scheduleTryTransmit
  else s

/-- The branch of `Send` for an acknowledgment or negative acknowledgment. -/
def sendControl (config : TransmitterConfig) (s : Transmitter) (reply : LlrReply) :
    Transmitter :=
  (s.enqueueMain config (.control reply)).scheduleTryTransmit

/-- The end of `EnqueueToVcQueue`, which does not look whether the queue took the
packet. -/
def enqueueToVcQueue (s : Transmitter) (packet : SueTaggedPacket) : Transmitter :=
  { s with
    queueManager :=
      (s.queueManager.enqueueToVcQueue packet packet.packet.vcId).2 }.scheduleTryTransmit

/-- The branch of `Receive` for a credit update. -/
def receiveCredits (s : Transmitter) (frame : CreditFrame) : Transmitter :=
  let received := { s with cbfcManager := s.cbfcManager.receiveCreditUpdate frame }
  if 0 < frame.credits then received.scheduleTryTransmit else received

/-- What the managers of a device do for others than its transmitter. -/
def withCbfc (s : Transmitter) (manager : CbfcManager) : Transmitter :=
  { s with cbfcManager := manager }

/-- The runs of the transmitter of a device. -/
def system (config : TransmitterConfig) : TransitionSystem Transmitter TransmitterEvent where
  init s := s = {}
  step s
    | .sendCredits frame => some ((s.initializeCbfc config).sendCredits config frame)
    | .sendControl reply => some ((s.initializeCbfc config).sendControl config reply)
    | .enqueueToVcQueue packet => some ((s.initializeCbfc config).enqueueToVcQueue packet)
    | .receiveCredits frame => some ((s.initializeCbfc config).receiveCredits frame)
    | .other => some (s.initializeCbfc config)
    | .tryTransmit lastVC =>
        if 0 < s.tryTransmits then some (s.tryTransmit config lastVC) else none
    | .transmitComplete =>
        if 0 < s.transmitCompletes then some (s.transmitComplete config) else none
    | .forward mac vcId packetSize =>
        some (s.withCbfc (s.cbfcManager.consumeDynamicCredits mac vcId packetSize))
    | .returnCredits mac vcId packetSize =>
        some (s.withCbfc ((s.cbfcManager.handleCreditReturn mac vcId packetSize).creditReturn
          config.localMac mac vcId).1)

/-- The callback that the managers of retransmission call in place of `TryTransmit`. -/
def tryTransmitCallback (s : Transmitter) : Transmitter :=
  match s.currentPkt with
  | none => s
  | some frame => if s.txMachineState = .ready then s.transmitStart frame false else s

/-! ## What should hold -/

/-- Whether the first packet of a virtual channel could be sent. -/
def Sendable (config : TransmitterConfig) (s : Transmitter) (vcId : UInt8) : Prop :=
  ∃ packet, (s.queueManager.vcPackets vcId).head? = some packet ∧
    (config.attributes.enableLinkCBFC = true →
      s.cbfcManager.hasEnoughCredits config.remoteMac vcId (getSize packet) = true)

/-- Whether the loop of `TryTransmit` serves a virtual channel when it comes to it. -/
def canServe (config : TransmitterConfig) (s : Transmitter) (vcId : UInt8) : Bool :=
  !s.queueManager.isVcQueueEmpty vcId &&
    (!config.attributes.enableLinkCBFC || s.firstHasCredits config vcId)

/-- The transmitter neither stalls nor overlaps. -/
structure Live (config : TransmitterConfig) (s : Transmitter) : Prop where
  notStalled : s.txMachineState = .ready →
    (s.mainQueue ≠ [] ∨ ∃ vcId, Sendable config s vcId) → 0 < s.tryTransmits
  startedReady : ∀ r ∈ s.transmissions, r.found = .ready
  oneComplete : s.transmitCompletes = if s.txMachineState = .busy then 1 else 0
  nothingDiscarded : s.discarded = []
  mainQueueFirst : ∀ r ∈ s.transmissions, r.fromVcQueue = true → r.mainQueueEmpty = true

/-! ## The loop over the virtual channels -/

/-- The loop goes round the virtual channels. -/
theorem vcOrder_eq (numVcs lastVC : UInt8) :
    vcOrder numVcs lastVC =
      (RoundRobin.order numVcs.toNat lastVC.toNat).map UInt8.ofNat := by
  unfold vcOrder RoundRobin.order
  rw [List.map_map]
  rfl

/-- The loop comes to every virtual channel. -/
theorem mem_vcOrder {numVcs : UInt8} (lastVC : UInt8) (hvc : vcId < numVcs) :
    vcId ∈ vcOrder numVcs lastVC := by
  rw [vcOrder_eq]
  have hmem := RoundRobin.mem_order lastVC.toNat (UInt8.lt_iff_toNat_lt.mp hvc)
  exact List.mem_map.mpr ⟨vcId.toNat, hmem, UInt8.ofNat_toNat⟩

/-- The device after the first packet of a queue has been dequeued and paid for. -/
def taken (config : TransmitterConfig) (s : Transmitter) (vcId : UInt8)
    (packet : SueTaggedPacket) : Transmitter :=
  if config.attributes.enableLinkCBFC then (s.dequeue vcId).consume config vcId packet
  else s.dequeue vcId

/-- The credits that the loop looks at are those for the packet that it dequeues. -/
theorem firstHasCredits_of_cons {packet : SueTaggedPacket} {rest : List SueTaggedPacket}
    (hqueue : s.queueManager.vcPackets vcId = packet :: rest) :
    s.firstHasCredits config vcId =
      s.cbfcManager.hasEnoughCredits config.remoteMac vcId (getSize packet) := by
  have hsize : s.queueManager.getFirstPacketSize vcId = getSize packet := by
    unfold SueQueueManager.getFirstPacketSize
    rw [hqueue]
    rfl
  have hpos : 0 < getSize packet := Nat.succ_pos _
  unfold firstHasCredits
  rw [hsize, decide_eq_true hpos, Bool.true_and]

/-- A virtual channel can be served exactly when its first packet could be sent. -/
theorem canServe_iff_sendable : s.canServe config vcId = true ↔ Sendable config s vcId := by
  unfold canServe Sendable SueQueueManager.isVcQueueEmpty
  cases hqueue : s.queueManager.vcPackets vcId with
  | nil =>
      refine iff_of_false ?_ ?_
      · intro h
        cases h
      · rintro ⟨packet, hfirst, -⟩
        cases hfirst
  | cons packet rest =>
      rw [firstHasCredits_of_cons hqueue]
      cases config.attributes.enableLinkCBFC with
      | false =>
          refine iff_of_true rfl ⟨packet, rfl, fun h => absurd h Bool.false_ne_true⟩
      | true =>
          constructor
          · intro h
            exact ⟨packet, rfl, fun _ => h⟩
          · rintro ⟨first, hfirst, henough⟩
            cases hfirst
            exact henough rfl

/-- The loop serves the first virtual channel that can be served. -/
theorem serveVcs_eq (config : TransmitterConfig) (vcs : List UInt8) (s : Transmitter) :
    (vcs.find? (s.canServe config) = none ∧ serveVcs config vcs s = s) ∨
      ∃ vcId packet, vcs.find? (s.canServe config) = some vcId ∧
        (s.queueManager.vcPackets vcId).head? = some packet ∧
        serveVcs config vcs s =
          (s.taken config vcId packet).transmitStart (.data packet) true := by
  induction vcs with
  | nil => exact .inl ⟨rfl, rfl⟩
  | cons vcId vcs ih =>
      by_cases hcan : s.canServe config vcId = true
      · obtain ⟨packet, hfirst, henough⟩ := canServe_iff_sendable.mp hcan
        obtain ⟨rest, hqueue⟩ := List.head?_eq_some_iff.mp hfirst
        refine .inr ⟨vcId, packet, List.find?_cons_of_pos hcan, hfirst, ?_⟩
        unfold serveVcs taken
        rw [hqueue]
        dsimp only
        by_cases hcbfc : config.attributes.enableLinkCBFC = true
        · rw [if_pos hcbfc, firstHasCredits_of_cons hqueue, if_pos (henough hcbfc),
            if_pos (henough hcbfc), if_pos hcbfc]
        · rw [if_neg hcbfc, if_neg hcbfc]
      · have hskip : serveVcs config (vcId :: vcs) s = serveVcs config vcs s := by
          rw [serveVcs.eq_def]
          dsimp only
          cases hqueue : s.queueManager.vcPackets vcId with
          | nil => rfl
          | cons packet rest =>
              dsimp only
              rw [canServe_iff_sendable] at hcan
              have hcbfc : config.attributes.enableLinkCBFC = true := by
                by_contra hoff
                exact hcan ⟨packet, by rw [hqueue]; rfl, fun hon => absurd hon hoff⟩
              rw [if_pos hcbfc, firstHasCredits_of_cons hqueue, if_neg]
              intro henough
              exact hcan ⟨packet, by rw [hqueue]; rfl, fun _ => henough⟩
        rw [hskip, List.find?_cons_of_neg hcan]
        exact ih

/-! ## What an event keeps -/

/-- What the members of a device have to do with each other. -/
structure Connected (config : TransmitterConfig) (s : Transmitter) : Prop where
  within : s.queueManager.QueuesWithin config.attributes.numVcs
  fresh : s.cbfcManager.initialized = false → ∀ vcId, s.queueManager.vcPackets vcId = []
  current : s.currentPkt = none ↔ s.txMachineState = .ready

theorem Connected.initializeCbfc (h : Connected config s) :
    Connected config (s.initializeCbfc config) := by
  unfold Transmitter.initializeCbfc
  split_ifs with hinitialized
  · exact h
  · have hempty := h.fresh (Bool.eq_false_iff.mpr hinitialized)
    obtain ⟨hwithin, hpackets⟩ := SueQueueManager.initializeQueues_within h.within hempty
      config.vcQueueMaxBytes config.additionalHeaderSize
    exact ⟨hwithin, fun _ => hpackets, h.current⟩

theorem initialized_initializeCbfc (config : TransmitterConfig) (s : Transmitter) :
    (s.initializeCbfc config).cbfcManager.initialized = true := by
  unfold initializeCbfc
  split_ifs with hinitialized
  · exact hinitialized
  · exact congrArg CbfcSettings.initialized (CbfcManager.settings_initializeCbfc
      config.attributes config.remoteMac config.localMac config.devices)

/-- The first initialisation finds empty queues and leaves empty queues. -/
theorem Live.initializeCbfc (hconnected : Connected config s) (h : Live config s) :
    Live config (s.initializeCbfc config) := by
  unfold Transmitter.initializeCbfc
  split_ifs with hinitialized
  · exact h
  · have hempty := hconnected.fresh (Bool.eq_false_iff.mpr hinitialized)
    obtain ⟨-, hpackets⟩ := SueQueueManager.initializeQueues_within hconnected.within hempty
      config.vcQueueMaxBytes config.additionalHeaderSize
    refine ⟨fun hready hwork => h.notStalled hready (.inl ?_), h.startedReady, h.oneComplete,
      h.nothingDiscarded, h.mainQueueFirst⟩
    refine hwork.resolve_right ?_
    rintro ⟨vcId, packet, hfirst, -⟩
    rw [hpackets vcId] at hfirst
    cases hfirst

/-- A `TryTransmit` that is scheduled makes up for what has become possible to send. -/
theorem live_scheduleTryTransmit (hstarted : ∀ r ∈ s.transmissions, r.found = .ready)
    (hone : s.transmitCompletes = if s.txMachineState = .busy then 1 else 0)
    (hnothing : s.discarded = [])
    (hmain : ∀ r ∈ s.transmissions, r.fromVcQueue = true → r.mainQueueEmpty = true) :
    Live config s.scheduleTryTransmit := by
  refine ⟨fun hready _ => ?_, hstarted, hone, hnothing, hmain⟩
  have hready' : s.txMachineState = .ready := hready
  unfold scheduleTryTransmit
  rw [if_pos hready']
  exact Nat.succ_pos _

/-- Credits that become fewer make nothing possible to send. -/
theorem Live.withCbfc {manager : CbfcManager} (h : Live config s)
    (hfewer : ∀ vcId packetSize, manager.hasEnoughCredits config.remoteMac vcId packetSize = true →
      s.cbfcManager.hasEnoughCredits config.remoteMac vcId packetSize = true) :
    Live config (s.withCbfc manager) := by
  refine ⟨fun hready hwork => h.notStalled hready (hwork.imp_right ?_), h.startedReady,
    h.oneComplete, h.nothingDiscarded, h.mainQueueFirst⟩
  rintro ⟨vcId, packet, hfirst, henough⟩
  exact ⟨vcId, packet, hfirst, fun hcbfc => hfewer vcId _ (henough hcbfc)⟩

/-- A call of `TransmitStart` in a device that is ready. -/
theorem live_transmitStart {frame : TxFrame} {fromVcQueue : Bool} (h : Live config s)
    (hready : t.txMachineState = .ready) (hcompletes : t.transmitCompletes = s.transmitCompletes)
    (hstate : s.txMachineState = .ready) (htransmissions : t.transmissions = s.transmissions)
    (hdiscarded : t.discarded = s.discarded)
    (hempty : fromVcQueue = true → t.mainQueue = []) :
    Live config (t.transmitStart frame fromVcQueue) := by
  have hnew : ∀ r ∈ (t.transmitStart frame fromVcQueue).transmissions, r ∈ s.transmissions ∨
      r = ⟨frame, .ready, fromVcQueue, t.mainQueue.isEmpty⟩ := by
    intro r hr
    unfold transmitStart at hr
    dsimp only at hr
    rw [htransmissions, hready] at hr
    exact (List.mem_append.mp hr).imp_right List.mem_singleton.mp
  refine ⟨fun hbusy => ?_, fun r hr => ?_, ?_, hdiscarded.trans h.nothingDiscarded,
    fun r hr hvc => ?_⟩
  · cases hbusy
  · rcases hnew r hr with hold | rfl
    · exact h.startedReady r hold
    · rfl
  · have hone := h.oneComplete
    rw [hstate] at hone
    have hcount : (t.transmitStart frame fromVcQueue).transmitCompletes =
        s.transmitCompletes + 1 := congrArg (· + 1) hcompletes
    rw [hcount, hone]
    rfl
  · rcases hnew r hr with hold | rfl
    · exact h.mainQueueFirst r hold hvc
    · exact List.isEmpty_iff.mpr (hempty hvc)

theorem initialized_consumeDynamicCredits (m : CbfcManager) (mac : Mac48Address) (vcId : UInt8)
    (packetSize : ℕ) :
    (m.consumeDynamicCredits mac vcId packetSize).initialized = m.initialized :=
  congrArg CbfcSettings.initialized (CbfcManager.settings_consumeDynamicCredits packetSize)

theorem taken_eq (config : TransmitterConfig) (s : Transmitter) (vcId : UInt8)
    (packet : SueTaggedPacket) :
    ∃ manager, manager.initialized = s.cbfcManager.initialized ∧
      s.taken config vcId packet =
        { s with
          queueManager := (s.queueManager.dequeueFromVcQueue vcId).2
          cbfcManager := manager } := by
  unfold taken
  split_ifs
  · exact ⟨_, initialized_consumeDynamicCredits .., rfl⟩
  · exact ⟨s.cbfcManager, rfl, rfl⟩

/-- `TryTransmit` starts the next frame, or leaves nothing that could be sent. -/
theorem tryTransmit_keeps (hconnected : Connected config s) (h : Live config s)
    (lastVC : UInt8) :
    Connected config (s.tryTransmit config lastVC) ∧ Live config (s.tryTransmit config lastVC) := by
  unfold tryTransmit
  dsimp only
  split_ifs with hbusy
  · refine ⟨⟨hconnected.within, hconnected.fresh, hconnected.current⟩, fun hready => ?_,
      h.startedReady, h.oneComplete, h.nothingDiscarded, h.mainQueueFirst⟩
    cases hbusy.symm.trans hready
  · have hready : s.txMachineState = .ready := by
      cases hstate : s.txMachineState with
      | ready => rfl
      | busy => exact absurd hstate hbusy
    have hstarted : ∀ frame, (some frame : Option TxFrame) = none ↔
        TxMachineState.busy = TxMachineState.ready := fun frame => ⟨nofun, nofun⟩
    cases hmain : s.mainQueue with
    | cons frame rest =>
        refine ⟨⟨hconnected.within, hconnected.fresh, hstarted frame⟩, ?_⟩
        exact live_transmitStart h hready rfl hready rfl rfl nofun
    | nil =>
        dsimp only
        rcases serveVcs_eq config (vcOrder config.attributes.numVcs lastVC)
          { s with mainQueue := [], tryTransmits := s.tryTransmits - 1 } with
          ⟨hnone, hsame⟩ | ⟨vcId, packet, -, -, hserved⟩
        · rw [hsame]
          refine ⟨⟨hconnected.within, hconnected.fresh, hconnected.current⟩, fun _ hwork => ?_,
            h.startedReady, h.oneComplete, h.nothingDiscarded, h.mainQueueFirst⟩
          obtain ⟨vcId, hsendable⟩ := hwork.resolve_left fun hne => hne rfl
          have hsome := hsendable
          obtain ⟨packet, hfirst, -⟩ := hsome
          refine absurd (canServe_iff_sendable.mpr hsendable)
            (List.find?_eq_none.mp hnone vcId (mem_vcOrder lastVC ?_))
          refine hconnected.within.lt_of_mem fun hnil => ?_
          have hhead : (s.queueManager.vcPackets vcId).head? = some packet := hfirst
          rw [hnil] at hhead
          cases hhead
        · rw [hserved]
          obtain ⟨manager, hinitialized, htaken⟩ := taken_eq config
            { s with mainQueue := [], tryTransmits := s.tryTransmits - 1 } vcId packet
          rw [htaken]
          refine ⟨⟨hconnected.within.dequeue vcId, fun hfresh v => ?_, hstarted (.data packet)⟩, ?_⟩
          · have hempty := hconnected.fresh (hinitialized.symm.trans hfresh) v
            have hafter : (s.queueManager.dequeueFromVcQueue vcId).2.vcPackets v = [] := by
              rw [SueQueueManager.vcPackets_dequeueFromVcQueue, hempty]
              split_ifs <;> rfl
            exact hafter
          · exact live_transmitStart h hready rfl hready rfl rfl fun _ => rfl

/-- `TransmitComplete` looks again when anything waits. -/
theorem transmitComplete_keeps (hconnected : Connected config s) (h : Live config s) :
    Connected config (s.transmitComplete config) ∧ Live config (s.transmitComplete config) := by
  have hone := h.oneComplete
  refine ⟨⟨hconnected.within, hconnected.fresh, ⟨fun _ => rfl, fun _ => rfl⟩⟩, ?_⟩
  refine ⟨fun _ hwork => ?_, h.startedReady, ?_, h.nothingDiscarded, h.mainQueueFirst⟩
  · have hprocess : s.hasPacketsToProcess config = true := by
      unfold hasPacketsToProcess
      rw [Bool.or_eq_true, List.any_eq_true]
      rcases hwork with hmain | ⟨vcId, packet, hfirst, -⟩
      · have hne : s.mainQueue ≠ [] := hmain
        refine .inl ?_
        cases hqueue : s.mainQueue with
        | nil => exact absurd hqueue hne
        | cons frame rest => rfl
      · have hhead : (s.queueManager.vcPackets vcId).head? = some packet := hfirst
        obtain ⟨rest, hqueue⟩ := List.head?_eq_some_iff.mp hhead
        refine .inr ⟨vcId, mem_vcIds.mpr (hconnected.within.lt_of_mem ?_), ?_⟩
        · rw [hqueue]
          exact List.cons_ne_nil _ _
        · unfold SueQueueManager.isVcQueueEmpty
          rw [hqueue]
          rfl
    unfold transmitComplete
    dsimp only
    rw [if_pos hprocess]
    exact Nat.succ_pos _
  · have hcount : (s.transmitComplete config).transmitCompletes = s.transmitCompletes - 1 := rfl
    have hle : s.transmitCompletes ≤ 1 := by
      rw [hone]
      split_ifs
      · exact le_refl 1
      · exact Nat.zero_le 1
    rw [hcount]
    exact Nat.sub_eq_zero_of_le hle

theorem Connected.scheduleTryTransmit (h : Connected config s) :
    Connected config s.scheduleTryTransmit :=
  ⟨h.within, h.fresh, h.current⟩

theorem sendCredits_keeps (hconnected : Connected config s) (h : Live config s)
    (frame : CreditFrame) :
    Connected config (s.sendCredits config frame) ∧ Live config (s.sendCredits config frame) := by
  unfold sendCredits
  split_ifs
  · refine ⟨Connected.scheduleTryTransmit ⟨hconnected.within, hconnected.fresh,
      hconnected.current⟩, ?_⟩
    exact live_scheduleTryTransmit h.startedReady h.oneComplete h.nothingDiscarded
      h.mainQueueFirst
  · exact ⟨hconnected, h⟩

theorem sendControl_keeps (hconnected : Connected config s) (h : Live config s)
    (reply : LlrReply) :
    Connected config (s.sendControl config reply) ∧ Live config (s.sendControl config reply) :=
  ⟨Connected.scheduleTryTransmit ⟨hconnected.within, hconnected.fresh, hconnected.current⟩,
    live_scheduleTryTransmit h.startedReady h.oneComplete h.nothingDiscarded h.mainQueueFirst⟩

theorem enqueueToVcQueue_keeps (hconnected : Connected config s) (h : Live config s)
    (hinitialized : s.cbfcManager.initialized = true) (packet : SueTaggedPacket) :
    Connected config (s.enqueueToVcQueue packet) ∧ Live config (s.enqueueToVcQueue packet) := by
  refine ⟨Connected.scheduleTryTransmit ⟨hconnected.within.enqueue packet packet.packet.vcId,
    fun hfresh => ?_, hconnected.current⟩, ?_⟩
  · cases hinitialized.symm.trans hfresh
  · exact live_scheduleTryTransmit h.startedReady h.oneComplete h.nothingDiscarded
      h.mainQueueFirst

theorem Connected.withCbfc {manager : CbfcManager} (h : Connected config s)
    (hinitialized : manager.initialized = s.cbfcManager.initialized) :
    Connected config (s.withCbfc manager) :=
  ⟨h.within, fun hfresh => h.fresh (hinitialized.symm.trans hfresh), h.current⟩

theorem receiveCredits_keeps (hconnected : Connected config s) (h : Live config s)
    (frame : CreditFrame) :
    Connected config (s.receiveCredits frame) ∧ Live config (s.receiveCredits frame) := by
  have hinitialized : (s.cbfcManager.receiveCreditUpdate frame).initialized =
      s.cbfcManager.initialized :=
    congrArg CbfcSettings.initialized (CbfcManager.settings_receiveCreditUpdate frame)
  unfold receiveCredits
  dsimp only
  split_ifs with hcredits
  · refine ⟨Connected.scheduleTryTransmit (hconnected.withCbfc hinitialized), ?_⟩
    exact live_scheduleTryTransmit h.startedReady h.oneComplete h.nothingDiscarded
      h.mainQueueFirst
  · refine ⟨hconnected.withCbfc hinitialized, h.withCbfc fun vcId packetSize henough => ?_⟩
    rw [CbfcManager.receiveCreditUpdate_of_zero (Nat.eq_zero_of_not_pos hcredits)] at henough
    exact henough

theorem forward_keeps (hconnected : Connected config s) (h : Live config s)
    (mac : Mac48Address) (vcId : UInt8) (packetSize : ℕ) :
    Connected config (s.withCbfc (s.cbfcManager.consumeDynamicCredits mac vcId packetSize)) ∧
      Live config (s.withCbfc (s.cbfcManager.consumeDynamicCredits mac vcId packetSize)) := by
  refine ⟨hconnected.withCbfc (initialized_consumeDynamicCredits ..), ?_⟩
  exact h.withCbfc fun _ _ henough => CbfcManager.hasEnoughCredits_of_consume henough

theorem returnCredits_keeps (hconnected : Connected config s) (h : Live config s)
    (mac : Mac48Address) (vcId : UInt8) (packetSize : ℕ) :
    Connected config (s.withCbfc ((s.cbfcManager.handleCreditReturn mac vcId
        packetSize).creditReturn config.localMac mac vcId).1) ∧
      Live config (s.withCbfc ((s.cbfcManager.handleCreditReturn mac vcId
        packetSize).creditReturn config.localMac mac vcId).1) := by
  have hsettings : ((s.cbfcManager.handleCreditReturn mac vcId packetSize).creditReturn
      config.localMac mac vcId).1.toCbfcSettings = s.cbfcManager.toCbfcSettings := by
    rw [CbfcManager.settings_creditReturn, CbfcManager.settings_handleCreditReturn]
  have hmap : ((s.cbfcManager.handleCreditReturn mac vcId packetSize).creditReturn
      config.localMac mac vcId).1.txCreditsMap = s.cbfcManager.txCreditsMap := by
    unfold CbfcManager.creditReturn CbfcManager.handleCreditReturn
    split_ifs <;> rfl
  refine ⟨hconnected.withCbfc (congrArg CbfcSettings.initialized hsettings), ?_⟩
  refine h.withCbfc fun vcId packetSize henough => ?_
  rw [CbfcManager.hasEnoughCredits_congr hmap hsettings] at henough
  exact henough

/-- Every event keeps the transmitter live. -/
theorem step_keeps {event : TransmitterEvent} (hconnected : Connected config s)
    (h : Live config s) (hstep : (system config).step s event = some t) :
    Connected config t ∧ Live config t := by
  have hconnected' := hconnected.initializeCbfc
  have h' := h.initializeCbfc hconnected
  cases event with
  | sendCredits frame =>
      cases hstep
      exact sendCredits_keeps hconnected' h' frame
  | sendControl reply =>
      cases hstep
      exact sendControl_keeps hconnected' h' reply
  | enqueueToVcQueue packet =>
      cases hstep
      exact enqueueToVcQueue_keeps hconnected' h' (initialized_initializeCbfc config s) packet
  | receiveCredits frame =>
      cases hstep
      exact receiveCredits_keeps hconnected' h' frame
  | other =>
      cases hstep
      exact ⟨hconnected', h'⟩
  | tryTransmit lastVC =>
      have htry : (if 0 < s.tryTransmits then some (s.tryTransmit config lastVC) else none) =
        some t := hstep
      split_ifs at htry
      cases htry
      exact tryTransmit_keeps hconnected h lastVC
  | transmitComplete =>
      have hcomplete : (if 0 < s.transmitCompletes then some (s.transmitComplete config)
        else none) = some t := hstep
      split_ifs at hcomplete
      cases hcomplete
      exact transmitComplete_keeps hconnected h
  | forward mac vcId packetSize =>
      cases hstep
      exact forward_keeps hconnected h mac vcId packetSize
  | returnCredits mac vcId packetSize =>
      cases hstep
      exact returnCredits_keeps hconnected h mac vcId packetSize

theorem connected_and_live (hreach : (system config).Reachable s) :
    Connected config s ∧ Live config s := by
  refine hreach.invariant ?_ fun _ _ _ h _ hstep => step_keeps h.1 h.2 hstep
  rintro s rfl
  refine ⟨⟨fun vcId q hq => ?_, fun _ _ => rfl, ⟨fun _ => rfl, fun _ => rfl⟩⟩,
    ⟨fun _ hwork => ?_, ?_, rfl, rfl, ?_⟩⟩
  · cases (AList.lookup_empty vcId).symm.trans hq
  · rcases hwork with hmain | ⟨vcId, packet, hfirst, -⟩
    · exact absurd rfl hmain
    · cases hfirst
  · exact fun r hr => absurd hr List.not_mem_nil
  · exact fun r hr => absurd hr List.not_mem_nil

/-- The transmitter neither stalls nor overlaps, in any reachable state. -/
theorem live_of_reachable (hreach : (system config).Reachable s) : Live config s :=
  (connected_and_live hreach).2

/-- A card with one virtual channel and flow control, whose main queue has two places. -/
def card : TransmitterConfig where
  attributes := { numVcs := 1, enableLinkCBFC := true }
  vcQueueMaxBytes := 4096
  additionalHeaderSize := 46
  localMac := { b5 := 1 }
  remoteMac := { b5 := 2 }
  devices := [{ b5 := 1 }]
  mainQueueTakes := fun queue _ => queue.length < 2

/-- A packet and a credit update are sent, the credit update first. -/
def twoFrames : List TransmitterEvent :=
  [.enqueueToVcQueue ⟨⟨{ b5 := 1 }, { b5 := 3 }, 0, 256, Nat.le_of_ble_eq_true rfl⟩, 0⟩,
    .sendCredits ⟨{ b5 := 1 }, { b5 := 2 }, [0, 1]⟩, .tryTransmit 0, .tryTransmit 0,
    .transmitComplete, .tryTransmit 0]

theorem live_of_reachable_twoFrames :
    ∃ t, (system card).runActions {} twoFrames = some t ∧ t.transmissions.length = 2 ∧
      Live card t := by
  obtain ⟨t, hrun⟩ : ∃ t, (system card).runActions {} twoFrames = some t := ⟨_, rfl⟩
  have htwo : t.transmissions.length = 2 := by
    cases hrun
    rfl
  exact ⟨t, hrun, htwo, live_of_reachable (TransitionSystem.ReachableBy.runActions (.init rfl)
    (fun _ _ _ => trivial) hrun)⟩

end Transmitter

end UeSim
