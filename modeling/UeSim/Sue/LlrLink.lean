import UeSim.Sue.LlrBuffer

/-!
# A link under link-level retransmission

A network card and a switch port exchange data packets and control frames over a link
that loses frames, delivers them more than once, and delivers them out of turn.  Each
device records the packets that it was given for the link, and those that it passed on
to its processing queue.

The two devices decide differently whether to pass a packet on.  The card passes on
every packet that arrives.  The port asks its manager, for a source address that it
reads from a frame without its PPP header, as if the header were there.
-/

namespace UeSim

/-! ## The source of a frame -/

/-- The bytes of an address. -/
def Mac48Address.bytes (mac : Mac48Address) : List UInt8 :=
  [mac.b0, mac.b1, mac.b2, mac.b3, mac.b4, mac.b5]

/-- The bytes of the Ethernet header of a data packet. -/
def ethernetBytes (destination source : Mac48Address) : List UInt8 :=
  destination.bytes ++ source.bytes ++ [0x08, 0x00]

/-- `SuePacketUtils::ExtractSourceMac`: behind a PPP header of two bytes and a
destination comes the source. -/
def extractSourceMac (bytes : List UInt8) : Mac48Address :=
  match bytes.drop 8 with
  | b0 :: b1 :: b2 :: b3 :: b4 :: b5 :: _ => ⟨b0, b1, b2, b3, b4, b5⟩
  | _ => {}

/-- The address that is read for the source of a frame without a PPP header. -/
def Mac48Address.shifted (mac : Mac48Address) : Mac48Address :=
  ⟨mac.b2, mac.b3, mac.b4, mac.b5, 0x08, 0x00⟩

theorem extractSourceMac_ethernetBytes (destination source : Mac48Address) :
    extractSourceMac (ethernetBytes destination source) = source.shifted := rfl

/-- The address that is read is that of a switch port. -/
theorem isSwitchDevice_shifted (mac : Mac48Address) : mac.shifted.isSwitchDevice = true := rfl

/-! ## The devices at the ends of a link -/

/-- A data packet on a link. -/
structure LlrFrame (α : Type) where
  header : List UInt8
  vcId : UInt8
  seq : ℕ
  packet : α

/-- An ACK or a NACK on a link. -/
structure LlrControl where
  source : Mac48Address
  vcId : UInt8
  reply : LlrReply

/-- A device: its manager, the frames it has put on the link, the control frames it is
going to process, and its processing queue.  `submitted` and `passedOn` record, for each
virtual channel, the packets that it was given for the link and that it passed on. -/
structure LlrEnd (κ α : Type) [DecidableEq κ] where
  manager : LlrManager κ α := {}
  frames : List (LlrFrame α) := []
  controls : List LlrControl := []
  scheduled : List LlrControl := []
  processing : List α := []
  submitted : UInt8 → List α := fun _ => []
  passedOn : UInt8 → List α := fun _ => []

namespace LlrEnd

variable {κ α : Type} [DecidableEq κ]

/-- The manager changes. -/
def withManager (e : LlrEnd κ α) (m : LlrManager κ α) : LlrEnd κ α :=
  { e with manager := m }

/-- A packet goes on the link with the number that it was given, if any. -/
def transmit (e : LlrEnd κ α) (header : List UInt8) (vcId : UInt8)
    (sent : List (SentPacket κ α)) : LlrEnd κ α :=
  { e with
    frames := e.frames ++ sent.map fun x => ⟨header, vcId, x.seq, x.packet⟩
    submitted := Function.update e.submitted vcId
      (e.submitted vcId ++ sent.map SentPacket.packet) }

/-- A control frame goes on the link, if there is one. -/
def answer (e : LlrEnd κ α) (source : Mac48Address) (vcId : UInt8)
    (reply : Option LlrReply) : LlrEnd κ α :=
  { e with controls := e.controls ++ (reply.map fun r => ⟨source, vcId, r⟩).toList }

/-- A control frame arrives. -/
def schedule (e : LlrEnd κ α) (control : LlrControl) : LlrEnd κ α :=
  { e with scheduled := e.scheduled ++ [control] }

/-- Whether the processing queue has room for a packet. -/
def hasRoom (size : α → ℕ) (capacity : ℕ) (e : LlrEnd κ α) (packet : α) : Bool :=
  toU32 ((e.processing.map size).sum + size packet) ≤ capacity

/-- The end of `Receive`: the processing queue takes the packet or drops it. -/
def passOn (size : α → ℕ) (capacity : ℕ) (e : LlrEnd κ α) (vcId : UInt8) (packet : α) :
    LlrEnd κ α :=
  { e with
    processing := if e.hasRoom size capacity packet then e.processing ++ [packet]
      else e.processing
    passedOn := if e.hasRoom size capacity packet then
        Function.update e.passedOn vcId (e.passedOn vcId ++ [packet])
      else e.passedOn }

/-- The device has processed a packet. -/
def popProcessing (e : LlrEnd κ α) : LlrEnd κ α :=
  { e with processing := e.processing.drop 1 }

end LlrEnd

/-- What is fixed about a link: the addresses of the card and of the port, those of the
devices of the switch, the virtual channels, the sizes of packets, and the capacities of
the processing queues. -/
structure LlrLinkConfig (α : Type) where
  nicMac : Mac48Address
  portMac : Mac48Address
  devices : List Mac48Address
  numVcs : UInt8
  size : α → ℕ
  nicCapacity : ℕ
  portCapacity : ℕ
  /-- The addresses of switch ports are not those of network cards. -/
  nicMac_card : nicMac.isSwitchDevice = false

/-- A link with the devices at its ends. -/
structure LlrLink (α : Type) where
  nic : LlrEnd UInt8 α := {}
  port : LlrEnd (Mac48Address × UInt8) α := {}

namespace LlrLink

variable {α : Type}

/-- What can happen on a link.  A frame that was transmitted may arrive at any time, any
number of times, or never. -/
inductive Event (α : Type)
  /-- The card is given a packet. -/
  | nicSubmits (destination : Mac48Address) (vcId : UInt8) (packet : α)
  /-- The port is given a packet without a PPP header. -/
  | portSubmits (destination : Mac48Address) (vcId : UInt8) (packet : α)
  /-- The port is given a packet that another port has numbered. -/
  | portForwards (source : Mac48Address) (seq : ℕ) (destination : Mac48Address) (vcId : UInt8)
      (packet : α)
  /-- A data packet arrives at the card. -/
  | nicReceives (i : ℕ)
  /-- A data packet arrives at the port.  Where the manager has no lane, its answer is
  read from outside its vectors: it is `stray`. -/
  | portReceives (i : ℕ) (stray : Bool)
  /-- A control frame arrives. -/
  | nicReceivesControl (i : ℕ)
  | portReceivesControl (i : ℕ)
  /-- A control frame is processed. -/
  | nicProcessesControl (i : ℕ)
  | portProcessesControl (i : ℕ)
  /-- A retransmission timer expires. -/
  | nicResends (vcId : UInt8)
  | portResends (mac : Mac48Address) (vcId : UInt8)
  /-- A device handles another frame. -/
  | nicHandles
  | portHandles
  /-- A device has processed a packet. -/
  | nicProcesses
  | portProcesses

section Devices

variable (c : LlrLinkConfig α) (s : LlrLink α)

/-- The card, once it has initialised its manager. -/
def openNic : LlrEnd UInt8 α :=
  s.nic.withManager (LlrNodeManager.initializeLlr s.nic.manager)

/-- The port, once it has initialised its manager. -/
def openPort : LlrEnd (Mac48Address × UInt8) α :=
  s.port.withManager
    (LlrSwitchPortManager.initializeLlr s.port.manager c.portMac c.nicMac c.devices)

/-- `Send` and `EnqueueToVcQueue` of the card. -/
def nicSubmits (destination : Mac48Address) (vcId : UInt8) (packet : α) :
    Option (LlrLink α) :=
  let e := s.openNic
  (LlrNodeManager.llrSendPacket e.manager packet vcId).map fun m =>
    { s with
      nic := (e.withManager m).transmit (ethernetBytes destination c.nicMac) vcId
        (e.manager.handedOut vcId packet) }

/-- `EnqueueToVcQueue` of the port, from where the packet is numbered for the card. -/
def portSends (e : LlrEnd (Mac48Address × UInt8) α) (destination : Mac48Address)
    (vcId : UInt8) (packet : α) : Option (LlrLink α) :=
  (LlrSwitchPortManager.llrSendPacket e.manager packet vcId c.nicMac).map fun m =>
    { s with
      port := (e.withManager m).transmit (ethernetBytes destination c.portMac) vcId
        (e.manager.handedOut (c.nicMac, vcId) packet) }

/-- `EnqueueToVcQueue` of the port, for a packet with a PPP header: what its manager
makes of the number is not asked for. -/
def portForwards (source : Mac48Address) (seq : ℕ) (destination : Mac48Address)
    (vcId : UInt8) (packet : α) : Option (LlrLink α) :=
  let e := s.openPort c
  s.portSends c (e.withManager (LlrSwitchPortManager.noted e.manager vcId seq source))
    destination vcId packet

/-- `Receive` of the card, for a data packet: `LlrReceivePacket` has no result, and the
packet is passed on. -/
def nicReceives (frame : LlrFrame α) : Option (LlrLink α) :=
  let e := s.openNic
  (LlrNodeManager.llrReceivePacket e.manager frame.vcId frame.seq).map fun m =>
    { s with
      nic := ((e.withManager m).answer c.nicMac frame.vcId
        (e.manager.answer frame.vcId frame.seq)).passOn c.size c.nicCapacity frame.vcId
          frame.packet }

/-- The port after `LlrReceivePacket`.  Whatever address was read, `SendControlPacket` sends
the answer over the link. -/
def portNotes (source : Mac48Address) (frame : LlrFrame α) :
    LlrEnd (Mac48Address × UInt8) α :=
  let e := s.openPort c
  (e.withManager (LlrSwitchPortManager.noted e.manager frame.vcId frame.seq source)).answer
    c.portMac frame.vcId (e.manager.answer (source, frame.vcId) frame.seq)

/-- `Receive` of the port, for a data packet. -/
def portReceives (frame : LlrFrame α) (stray : Bool) : LlrLink α :=
  let source := extractSourceMac frame.header
  let accepted :=
    LlrSwitchPortManager.accepts (s.openPort c).manager frame.vcId frame.seq source
  { s with
    port := if accepted.getD stray then
        (s.portNotes c source frame).passOn c.size c.portCapacity frame.vcId frame.packet
      else s.portNotes c source frame }

/-- The card processes a control frame. -/
def nicProcessesControl (i : ℕ) : Option (LlrLink α) :=
  (s.nic.scheduled[i]?).bind fun control =>
    (LlrNodeManager.processLlr s.nic.manager control.vcId control.reply).map fun m =>
      { s with nic := { s.nic.withManager m with scheduled := s.nic.scheduled.eraseIdx i } }

/-- The port processes a control frame, for the source of its Ethernet header. -/
def portProcessesControl (i : ℕ) : Option (LlrLink α) :=
  (s.port.scheduled[i]?).bind fun control =>
    (LlrSwitchPortManager.processLlr s.port.manager control.vcId control.source
        control.reply).map fun m =>
      { s with
        port := { s.port.withManager m with scheduled := s.port.scheduled.eraseIdx i } }

/-- `Resend` of a device, when the timer is pending. -/
def resend {κ : Type} [DecidableEq κ] [LaneKey κ] (m : LlrManager κ α) (key : κ) :
    Option (LlrManager κ α) :=
  if m.timerPending key then m.resend key else none

end Devices

/-- What an event does. -/
def step (c : LlrLinkConfig α) (s : LlrLink α) : Event α → Option (LlrLink α)
  | .nicSubmits destination vcId packet => s.nicSubmits c destination vcId packet
  | .portSubmits destination vcId packet =>
      s.portSends c (s.openPort c) destination vcId packet
  | .portForwards source seq destination vcId packet =>
      s.portForwards c source seq destination vcId packet
  | .nicReceives i => (s.port.frames[i]?).bind fun frame => s.nicReceives c frame
  | .portReceives i stray => (s.nic.frames[i]?).map fun frame => s.portReceives c frame stray
  | .nicReceivesControl i => (s.port.controls[i]?).map fun control =>
      { s with nic := s.openNic.schedule control }
  | .portReceivesControl i => (s.nic.controls[i]?).map fun control =>
      { s with port := (s.openPort c).schedule control }
  | .nicProcessesControl i => s.nicProcessesControl i
  | .portProcessesControl i => s.portProcessesControl i
  | .nicResends vcId => (resend s.nic.manager vcId).map fun m =>
      { s with nic := s.nic.withManager m }
  | .portResends mac vcId => (resend s.port.manager (mac, vcId)).map fun m =>
      { s with port := s.port.withManager m }
  | .nicHandles => some { s with nic := s.openNic }
  | .portHandles => some { s with port := s.openPort c }
  | .nicProcesses => some { s with nic := s.nic.popProcessing }
  | .portProcesses => some { s with port := s.port.popProcessing }

/-- The runs of a link from the time when retransmission is enabled. -/
def system (c : LlrLinkConfig α) : TransitionSystem (LlrLink α) (Event α) where
  init s := s = { nic := { manager := { numVcs := c.numVcs } }
                  port := { manager := { numVcs := c.numVcs } } }
  step := step c

/-- What each device has passed on is a prefix of what the other was given. -/
def DeliversInOrder (s : LlrLink α) : Prop :=
  ∀ vcId, s.nic.passedOn vcId <+: s.port.submitted vcId ∧
    s.port.passedOn vcId <+: s.nic.submitted vcId

/-- The events after which packets are still passed on in order: numbers do not run out;
a packet that the card has room for arrives in turn; the port knows the address that it
reads, no port of that address sends it packets, and it has room for the packet that is
in turn. -/
def InTurn (c : LlrLinkConfig α) (s : LlrLink α) : Event α → Prop
  | .nicSubmits _ vcId _ => (s.nic.submitted vcId).length + 1 < 2 ^ 32
  | .portSubmits _ vcId _ => (s.port.submitted vcId).length + 1 < 2 ^ 32
  | .portForwards source _ _ vcId _ =>
      (s.port.submitted vcId).length + 1 < 2 ^ 32 ∧ source ≠ c.nicMac.shifted
  | .nicReceives i => ∀ frame, s.port.frames[i]? = some frame →
      s.nic.hasRoom c.size c.nicCapacity frame.packet →
        frame.seq = (s.nic.passedOn frame.vcId).length
  | .portReceives i _ => ∀ frame, s.nic.frames[i]? = some frame →
      c.nicMac.shifted ∈ LlrSwitchPortManager.knownMacs c.portMac c.nicMac c.devices ∧
        (frame.seq = (s.port.passedOn frame.vcId).length →
          s.port.hasRoom c.size c.portCapacity frame.packet)
  | _ => True

instance (c : LlrLinkConfig α) (s : LlrLink α) : ∀ a, Decidable (InTurn c s a)
  | .nicSubmits _ _ _ | .portSubmits _ _ _ => inferInstanceAs (Decidable (_ < _))
  | .portForwards source _ _ vcId _ =>
      inferInstanceAs (Decidable
        ((s.port.submitted vcId).length + 1 < 2 ^ 32 ∧ source ≠ c.nicMac.shifted))
  | .nicReceives i => inferInstanceAs (Decidable (∀ frame ∈ s.port.frames[i]?, _ → _))
  | .portReceives i _ => inferInstanceAs (Decidable (∀ frame ∈ s.nic.frames[i]?, _ ∧ (_ → _)))
  | .nicReceivesControl _ | .portReceivesControl _ | .nicProcessesControl _
  | .portProcessesControl _ | .nicResends _ | .portResends _ _ | .nicHandles | .portHandles
  | .nicProcesses | .portProcesses => .isTrue trivial

end LlrLink

/-! ## Numbers on the way -/

namespace LlrEnd

open LlrManager

variable {κ α : Type} [DecidableEq κ] {e e' : LlrEnd κ α} {keyOf : UInt8 → κ}
variable {vcId : UInt8} {packet : α} {size : α → ℕ} {capacity : ℕ}

/-- A device numbers the packets of a virtual channel in the order in which it is given
them. -/
structure Sends (keyOf : UInt8 → κ) (e : LlrEnd κ α) : Prop where
  next : ∀ vcId, e.manager.sendSeq (keyOf vcId) = (e.submitted vcId).length
  small : ∀ vcId, (e.submitted vcId).length < 2 ^ 32
  listed : ∀ frame ∈ e.frames, (e.submitted frame.vcId)[frame.seq]? = some frame.packet

theorem Sends.of_same (hsends : Sends keyOf e)
    (hnext : ∀ key, e'.manager.sendSeq key = e.manager.sendSeq key)
    (hframes : e'.frames = e.frames) (hsubmitted : e'.submitted = e.submitted) :
    Sends keyOf e' := by
  refine ⟨fun vcId => ?_, fun vcId => ?_, ?_⟩
  · rw [hnext, hsubmitted]
    exact hsends.next vcId
  · rw [hsubmitted]
    exact hsends.small vcId
  · rw [hframes, hsubmitted]
    exact hsends.listed

/-- What a device is given is kept in order. -/
theorem submitted_prefix_transmit (header : List UInt8) (sent : List (SentPacket κ α))
    (vcId' : UInt8) : e.submitted vcId' <+: (e.transmit header vcId sent).submitted vcId' := by
  unfold transmit
  dsimp only
  by_cases hvc : vcId' = vcId
  · rw [hvc, Function.update_self]
    exact List.prefix_append _ _
  · have hsame : Function.update e.submitted vcId
        (e.submitted vcId ++ sent.map SentPacket.packet) vcId' = e.submitted vcId' :=
      Function.update_of_ne hvc _ _
    exact hsame ▸ List.prefix_rfl

/-- The next number goes to the packet that was given last. -/
theorem Sends.transmit [LaneKey κ] {m : LlrManager κ α} (hsends : Sends keyOf e)
    (hkeys : Function.Injective keyOf) (header : List UInt8)
    (hroom : (e.submitted vcId).length + 1 < 2 ^ 32)
    (h : e.manager.sendPacket (keyOf vcId) packet = some m) :
    Sends keyOf ((e.withManager m).transmit header vcId
      (e.manager.handedOut (keyOf vcId) packet)) := by
  rcases sendPacket_cases h with ⟨rfl, hnone⟩ | ⟨hsent, hself, hother⟩
  · rw [hnone]
    refine hsends.of_same (fun _ => rfl) (List.append_nil _) ?_
    unfold LlrEnd.transmit
    dsimp only [withManager]
    rw [List.map_nil, List.append_nil, Function.update_eq_self]
  · rw [hsent]
    have hlength : ∀ vcId', vcId' ≠ vcId → Function.update e.submitted vcId
        (e.submitted vcId ++ [packet]) vcId' = e.submitted vcId' :=
      fun vcId' hne => Function.update_of_ne hne _ _
    refine ⟨fun vcId' => ?_, fun vcId' => ?_, fun frame hframe => ?_⟩
    · show m.sendSeq (keyOf vcId') = (Function.update e.submitted vcId
        (e.submitted vcId ++ [packet]) vcId').length
      by_cases hvc : vcId' = vcId
      · subst hvc
        rw [hself, hsends.next, Function.update_self, List.length_append,
          toU32_of_lt hroom]
        rfl
      · rw [hlength vcId' hvc, hother _ (fun hkey => hvc (hkeys hkey))]
        exact hsends.next vcId'
    · show (Function.update e.submitted vcId (e.submitted vcId ++ [packet]) vcId').length < 2 ^ 32
      by_cases hvc : vcId' = vcId
      · subst hvc
        rw [Function.update_self, List.length_append]
        exact hroom
      · rw [hlength vcId' hvc]
        exact hsends.small vcId'
    · show (Function.update e.submitted vcId
        (e.submitted vcId ++ [packet]) frame.vcId)[frame.seq]? = some frame.packet
      rcases List.mem_append.mp hframe with hold | hnew
      · have hlisted := hsends.listed frame hold
        by_cases hvc : frame.vcId = vcId
        · rw [hvc, Function.update_self]
          rw [hvc] at hlisted
          exact List.getElem?_append_left (List.getElem?_eq_some_iff.mp hlisted).1 ▸ hlisted
        · rw [hlength _ hvc]
          exact hlisted
      · obtain rfl := List.mem_singleton.mp hnew
        show (Function.update e.submitted vcId
          (e.submitted vcId ++ [packet]) vcId)[e.manager.sendSeq (keyOf vcId)]? = some packet
        rw [Function.update_self, hsends.next]
        exact List.getElem?_concat_length ..

/-- A packet that is passed on in turn keeps the packets in order. -/
theorem passOn_prefix {given : UInt8 → List α} (hinitial : ∀ vcId, e.passedOn vcId <+: given vcId)
    (hturn : e.hasRoom size capacity packet →
      (given vcId)[(e.passedOn vcId).length]? = some packet) (vcId' : UInt8) :
    (e.passOn size capacity vcId packet).passedOn vcId' <+: given vcId' := by
  unfold passOn
  dsimp only
  split_ifs with hroom
  · by_cases hvc : vcId' = vcId
    · subst hvc
      rw [Function.update_self]
      obtain ⟨rest, hrest⟩ := hinitial vcId'
      have hnext := hturn hroom
      rw [← hrest, List.getElem?_append_right le_rfl, Nat.sub_self] at hnext
      cases rest with
      | nil => cases hnext
      | cons first rest =>
          cases hnext
          refine ⟨rest, ?_⟩
          rw [← hrest, List.append_assoc]
          rfl
    · rw [Function.update_of_ne hvc]
      exact hinitial vcId'
  · exact hinitial vcId'

end LlrEnd

/-! ## Runs of a link -/

namespace LlrLink

open LlrManager LlrEnd

variable {α : Type} {c : LlrLinkConfig α} {s s' : LlrLink α}

/-- The lane that the port uses for what it sends to the card. -/
def laneOfNic (c : LlrLinkConfig α) (vcId : UInt8) : Mac48Address × UInt8 := (c.nicMac, vcId)

theorem laneOfNic_injective : Function.Injective (laneOfNic c) := by
  intro vcId vcId' h
  exact congrArg Prod.snd h

/-- The address that the port reads is not that of the card. -/
theorem shifted_ne_nicMac : c.nicMac.shifted ≠ c.nicMac := by
  intro h
  have hcard := c.nicMac_card
  rw [← h, isSwitchDevice_shifted] at hcard
  cases hcard

/-- What holds of the card. -/
structure NicSound (c : LlrLinkConfig α) (e : LlrEnd UInt8 α) : Prop where
  sends : Sends id e
  headers : ∀ frame ∈ e.frames, extractSourceMac frame.header = c.nicMac.shifted
  sources : ∀ control ∈ e.controls, control.source = c.nicMac

/-- What holds of the port: the lane for the address that it reads waits for the packet
that is to be passed on next. -/
structure PortSound (c : LlrLinkConfig α) (e : LlrEnd (Mac48Address × UInt8) α) : Prop where
  sends : Sends (laneOfNic c) e
  enabled : e.manager.llrEnabled = true
  numVcs : e.manager.numVcs = c.numVcs
  expects : ∀ vcId, e.manager.waitSeq (c.nicMac.shifted, vcId) = (e.passedOn vcId).length
  sources : ∀ control ∈ e.scheduled, control.source = c.nicMac

/-- What holds of a link. -/
structure Sound (c : LlrLinkConfig α) (s : LlrLink α) : Prop where
  nic : NicSound c s.nic
  port : PortSound c s.port
  inOrder : DeliversInOrder s

/-- A control frame that is processed changes no number that is given. -/
theorem sendSeq_process {κ : Type} [DecidableEq κ] [LaneKey κ] {m m' : LlrManager κ α}
    {key key' : κ} {reply : LlrReply} (h : m.process key reply = some m') :
    m'.sendSeq key' = m.sendSeq key' := by
  cases reply with
  | ack seq => exact sendSeq_of_onLane h (LlrLane.sendSeq_processAck seq)
  | nack seq => exact sendSeq_of_onLane h (LlrLane.sendSeq_processNack seq)

theorem resend_eq_some {κ : Type} [DecidableEq κ] [LaneKey κ] {m m' : LlrManager κ α} {key : κ}
    (h : resend m key = some m') : m.onLane key LlrLane.resend = some m' := by
  unfold LlrLink.resend at h
  split_ifs at h
  exact h

/-! ### The card -/

theorem NicSound.withManager {e : LlrEnd UInt8 α} (hnic : NicSound c e)
    {m : LlrManager UInt8 α} (hm : ∀ key, m.sendSeq key = e.manager.sendSeq key) :
    NicSound c (e.withManager m) :=
  ⟨hnic.sends.of_same hm rfl rfl, hnic.headers, hnic.sources⟩

theorem NicSound.openNic (hnic : NicSound c s.nic) : NicSound c s.openNic :=
  hnic.withManager fun key => (numbers_openLanes _ key).1

/-- The card is given a packet. -/
theorem NicSound.nicSubmits (hnic : NicSound c s.nic) {destination : Mac48Address}
    {vcId : UInt8} {packet : α} (hroom : (s.nic.submitted vcId).length + 1 < 2 ^ 32)
    (h : s.nicSubmits c destination vcId packet = some s') :
    NicSound c s'.nic ∧ s'.port = s.port ∧ s'.nic.passedOn = s.nic.passedOn ∧
      ∀ vcId', s.nic.submitted vcId' <+: s'.nic.submitted vcId' := by
  obtain ⟨m, hm, rfl⟩ := Option.map_eq_some_iff.mp h
  have hopen := hnic.openNic
  refine ⟨⟨?_, fun frame hframe => ?_, hopen.sources⟩, rfl, rfl, fun vcId' => ?_⟩
  · exact hopen.sends.transmit Function.injective_id _ hroom hm
  · rcases List.mem_append.mp hframe with hold | hnew
    · exact hopen.headers frame hold
    · obtain ⟨sent, -, rfl⟩ := List.mem_map.mp hnew
      exact extractSourceMac_ethernetBytes destination c.nicMac
  · exact submitted_prefix_transmit (ethernetBytes destination c.nicMac)
      (s.openNic.manager.handedOut vcId packet) vcId'

/-- A packet arrives at the card. -/
theorem NicSound.nicReceives (hnic : NicSound c s.nic) {frame : LlrFrame α}
    {given : UInt8 → List α} (hinitial : ∀ vcId, s.nic.passedOn vcId <+: given vcId)
    (hturn : s.nic.hasRoom c.size c.nicCapacity frame.packet →
      (given frame.vcId)[(s.nic.passedOn frame.vcId).length]? = some frame.packet)
    (h : s.nicReceives c frame = some s') :
    NicSound c s'.nic ∧ s'.port = s.port ∧ s'.nic.submitted = s.nic.submitted ∧
      ∀ vcId, s'.nic.passedOn vcId <+: given vcId := by
  obtain ⟨m, hm, rfl⟩ := Option.map_eq_some_iff.mp h
  have hnoted : NicSound c (s.openNic.withManager m) :=
    hnic.openNic.withManager fun key => sendSeq_of_onLane hm fun _ => rfl
  refine ⟨⟨?_, hnoted.headers, fun control hcontrol => ?_⟩, rfl, rfl, fun vcId => ?_⟩
  · exact hnoted.sends.of_same (fun _ => rfl) rfl rfl
  · rcases List.mem_append.mp hcontrol with hold | hnew
    · exact hnoted.sources control hold
    · obtain ⟨reply, -, rfl⟩ := Option.map_eq_some_iff.mp (Option.mem_toList.mp hnew)
      rfl
  · exact passOn_prefix hinitial hturn vcId

/-! ### The port -/

/-- A manager that gives the numbers of another one, and waits for the same packets of
the card. -/
structure Agrees (c : LlrLinkConfig α) (m m' : LlrManager (Mac48Address × UInt8) α) :
    Prop where
  enabled : m'.llrEnabled = m.llrEnabled
  numVcs : m'.numVcs = m.numVcs
  sendSeq : ∀ key, m'.sendSeq key = m.sendSeq key
  waitSeq : ∀ vcId, m'.waitSeq (c.nicMac.shifted, vcId) = m.waitSeq (c.nicMac.shifted, vcId)

theorem Agrees.openLanes (m : LlrManager (Mac48Address × UInt8) α)
    (keys : List (Mac48Address × UInt8)) : Agrees c m (m.openLanes keys) :=
  ⟨llrEnabled_openLanes keys, numVcs_openLanes keys, fun key => (numbers_openLanes keys key).1,
    fun _ => (numbers_openLanes keys _).2⟩

theorem Agrees.onLane {m m' : LlrManager (Mac48Address × UInt8) α}
    {key : Mac48Address × UInt8} {f : LlrLane α → LlrLane α} (h : m.onLane key f = some m')
    (hsend : ∀ lane, (f lane).sendSeq = lane.sendSeq)
    (hwait : key.1 = c.nicMac.shifted → ∀ lane, (f lane).waitSeq = lane.waitSeq) :
    Agrees c m m' := by
  obtain ⟨henabled, hnumVcs⟩ := settings_of_onLane h
  refine ⟨henabled, hnumVcs, fun key' => sendSeq_of_onLane h hsend, fun vcId => ?_⟩
  exact waitSeq_of_onLane h fun hkey => hwait (congrArg Prod.fst hkey).symm

/-- A control frame that is processed changes what its own lane waits for. -/
theorem agrees_process {m m' : LlrManager (Mac48Address × UInt8) α}
    {key : Mac48Address × UInt8} {reply : LlrReply} (hsource : key.1 ≠ c.nicMac.shifted)
    (h : m.process key reply = some m') : Agrees c m m' := by
  cases reply with
  | ack seq =>
      exact Agrees.onLane h (LlrLane.sendSeq_processAck seq) fun hkey => absurd hkey hsource
  | nack seq =>
      exact Agrees.onLane h (LlrLane.sendSeq_processNack seq) fun hkey => absurd hkey hsource

theorem PortSound.withManager {e : LlrEnd (Mac48Address × UInt8) α} (hport : PortSound c e)
    {m : LlrManager (Mac48Address × UInt8) α} (hm : Agrees c e.manager m) :
    PortSound c (e.withManager m) := by
  refine ⟨hport.sends.of_same hm.sendSeq rfl rfl, hm.enabled.trans hport.enabled,
    hm.numVcs.trans hport.numVcs, fun vcId => ?_, hport.sources⟩
  exact (hm.waitSeq vcId).trans (hport.expects vcId)

theorem PortSound.openPort (hport : PortSound c s.port) : PortSound c (s.openPort c) :=
  hport.withManager (Agrees.openLanes _ _)

/-- The port is given a packet for the card. -/
theorem PortSound.portSends {e : LlrEnd (Mac48Address × UInt8) α} (hport : PortSound c e)
    {destination : Mac48Address} {vcId : UInt8} {packet : α}
    (hroom : (e.submitted vcId).length + 1 < 2 ^ 32)
    (h : s.portSends c e destination vcId packet = some s') :
    PortSound c s'.port ∧ s'.nic = s.nic ∧ s'.port.passedOn = e.passedOn ∧
      ∀ vcId', e.submitted vcId' <+: s'.port.submitted vcId' := by
  obtain ⟨m, hm, rfl⟩ := Option.map_eq_some_iff.mp h
  obtain ⟨henabled, hnumVcs⟩ := settings_of_onLane hm
  refine ⟨⟨?_, henabled.trans hport.enabled, hnumVcs.trans hport.numVcs, fun vcId' => ?_,
    hport.sources⟩, rfl, rfl, fun vcId' => ?_⟩
  · exact hport.sends.transmit laneOfNic_injective _ hroom hm
  · refine Eq.trans ?_ (hport.expects vcId')
    exact waitSeq_of_onLane hm fun _ _ => rfl
  · exact submitted_prefix_transmit (ethernetBytes destination c.portMac)
      (e.manager.handedOut (c.nicMac, vcId) packet) vcId'

/-- The address that the port reads is one for which it has lanes. -/
theorem exists_lane_openPort (hport : PortSound c s.port)
    (hknown : c.nicMac.shifted ∈
      LlrSwitchPortManager.knownMacs c.portMac c.nicMac c.devices) {vcId : UInt8}
    (hvc : vcId < c.numVcs) :
    ∃ lane, (s.openPort c).manager.lanes.lookup (c.nicMac.shifted, vcId) = some lane := by
  have hmem : (c.nicMac.shifted, vcId) ∈
      LlrSwitchPortManager.portLanes s.port.manager.numVcs c.portMac c.nicMac c.devices := by
    refine List.mem_flatMap.mpr ⟨_, hknown, List.mem_map.mpr ⟨vcId, ?_, rfl⟩⟩
    rw [hport.numVcs]
    exact mem_vcIds.mpr hvc
  have hlookup := lookup_openLanes (m := s.port.manager)
    (LlrSwitchPortManager.portLanes s.port.manager.numVcs c.portMac c.nicMac c.devices)
    (c.nicMac.shifted, vcId)
  rw [if_pos hmem] at hlookup
  exact ⟨_, hlookup⟩

/-- The manager of the port takes the packet that its lane waits for, and no other. -/
theorem accepts_openPort (hport : PortSound c s.port)
    (hknown : c.nicMac.shifted ∈
      LlrSwitchPortManager.knownMacs c.portMac c.nicMac c.devices) (vcId : UInt8) (seq : ℕ) :
    LlrSwitchPortManager.accepts (s.openPort c).manager vcId seq c.nicMac.shifted =
      some (decide (vcId < c.numVcs ∧ seq = (s.port.passedOn vcId).length)) := by
  have hopen : PortSound c (s.openPort c) := hport.openPort
  unfold LlrSwitchPortManager.accepts
  rw [hopen.enabled, hopen.numVcs]
  by_cases hvc : vcId < c.numVcs
  · obtain ⟨lane, hlane⟩ := exists_lane_openPort hport hknown hvc
    have hwait : lane.waitSeq = (s.port.passedOn vcId).length :=
      (waitSeq_of_lookup hlane).symm.trans (hopen.expects vcId)
    rw [if_neg (by decide), if_neg (UInt8.not_le.mpr hvc), hlane, Option.map_some, hwait]
    simp only [hvc, true_and]
  · rw [if_neg (by decide), if_pos (UInt8.not_lt.mp hvc)]
    simp only [hvc, false_and, decide_false]

/-- What the port waits for after a packet arrives: it moves on when the packet is the one
that is to be passed on next. -/
theorem portNotes_waitSeq (hport : PortSound c s.port)
    (hknown : c.nicMac.shifted ∈
      LlrSwitchPortManager.knownMacs c.portMac c.nicMac c.devices) (frame : LlrFrame α)
    (vcId : UInt8) :
    (s.portNotes c c.nicMac.shifted frame).manager.waitSeq (c.nicMac.shifted, vcId) =
      if vcId = frame.vcId ∧ vcId < c.numVcs ∧
          frame.seq = (s.port.passedOn vcId).length then
        toU32 ((s.port.passedOn vcId).length + 1)
      else (s.port.passedOn vcId).length := by
  have hopen : PortSound c (s.openPort c) := hport.openPort
  have hexpects : (s.openPort c).manager.waitSeq (c.nicMac.shifted, vcId) =
      (s.port.passedOn vcId).length := hopen.expects vcId
  have hserves : (s.openPort c).manager.serves frame.vcId = decide (frame.vcId < c.numVcs) := by
    unfold serves
    rw [hopen.enabled, hopen.numVcs]
    rfl
  show (LlrSwitchPortManager.noted (s.openPort c).manager frame.vcId frame.seq
    c.nicMac.shifted).waitSeq (c.nicMac.shifted, vcId) = _
  by_cases hvc : vcId = frame.vcId
  · subst hvc
    by_cases hlt : frame.vcId < c.numVcs
    · obtain ⟨lane, hlane⟩ := exists_lane_openPort hport hknown hlt
      rw [decide_eq_true hlt] at hserves
      rw [LlrSwitchPortManager.waitSeq_noted hserves hlane, hexpects]
      simp only [hlt, true_and]
    · rw [decide_eq_false hlt] at hserves
      rw [LlrSwitchPortManager.noted_of_not_serves (by rw [hserves]; decide), hexpects,
        if_neg fun h => hlt h.2.1]
  · have hne : (c.nicMac.shifted, vcId) ≠ (c.nicMac.shifted, frame.vcId) :=
      fun h => hvc (congrArg Prod.snd h)
    rw [LlrSwitchPortManager.waitSeq_noted_of_ne hne, hexpects, if_neg fun h => hvc h.1]

/-- A packet arrives at the port. -/
theorem PortSound.portReceives (hport : PortSound c s.port)
    (hknown : c.nicMac.shifted ∈
      LlrSwitchPortManager.knownMacs c.portMac c.nicMac c.devices) {frame : LlrFrame α}
    (hheader : extractSourceMac frame.header = c.nicMac.shifted)
    {given : UInt8 → List α} (hinitial : ∀ vcId, s.port.passedOn vcId <+: given vcId)
    (hlisted : (given frame.vcId)[frame.seq]? = some frame.packet)
    (hsmall : (given frame.vcId).length < 2 ^ 32)
    (hroom : frame.seq = (s.port.passedOn frame.vcId).length →
      s.port.hasRoom c.size c.portCapacity frame.packet) (stray : Bool) :
    PortSound c (s.portReceives c frame stray).port ∧
      (s.portReceives c frame stray).port.submitted = s.port.submitted ∧
      ∀ vcId, (s.portReceives c frame stray).port.passedOn vcId <+: given vcId := by
  have hopen : PortSound c (s.openPort c) := hport.openPort
  have hwait := portNotes_waitSeq hport hknown frame
  obtain ⟨henabled, hnumVcs⟩ := LlrSwitchPortManager.settings_noted (s.openPort c).manager
    frame.vcId frame.seq c.nicMac.shifted
  have hsends : Sends (laneOfNic c) (s.portNotes c c.nicMac.shifted frame) :=
    hopen.sends.of_same (LlrSwitchPortManager.sendSeq_noted _ _ _ _) rfl rfl
  unfold LlrLink.portReceives
  dsimp only
  rw [hheader, accepts_openPort hport hknown, Option.getD_some]
  split_ifs with haccepted
  · obtain ⟨hlt, hseq⟩ := of_decide_eq_true haccepted
    have hpassed : ((s.portNotes c c.nicMac.shifted frame).passOn c.size c.portCapacity
        frame.vcId frame.packet).passedOn = Function.update s.port.passedOn frame.vcId
          (s.port.passedOn frame.vcId ++ [frame.packet]) := if_pos (hroom hseq)
    refine ⟨⟨hsends.of_same (fun _ => rfl) rfl rfl, henabled.trans hopen.enabled,
      hnumVcs.trans hopen.numVcs, fun vcId => ?_, hopen.sources⟩, rfl, fun vcId => ?_⟩
    · refine (hwait vcId).trans ?_
      rw [hpassed]
      by_cases hvc : vcId = frame.vcId
      · subst hvc
        have hindex := (List.getElem?_eq_some_iff.mp hlisted).1
        rw [if_pos ⟨rfl, hlt, hseq⟩, Function.update_self, List.length_append,
          toU32_of_lt (by omega)]
        rfl
      · rw [if_neg fun h => hvc h.1, Function.update_of_ne hvc]
    · refine passOn_prefix hinitial (fun _ => ?_) vcId
      rw [← hseq]
      exact hlisted
  · refine ⟨⟨hsends, henabled.trans hopen.enabled, hnumVcs.trans hopen.numVcs,
      fun vcId => ?_, hopen.sources⟩, rfl, hinitial⟩
    refine (hwait vcId).trans ?_
    rw [if_neg]
    · rfl
    · rintro ⟨rfl, hlt, hseq⟩
      exact haccepted (decide_eq_true ⟨hlt, hseq⟩)

/-- The port sends on a packet that another port has numbered. -/
theorem PortSound.portForwards (hport : PortSound c s.port) {source : Mac48Address} {seq : ℕ}
    {destination : Mac48Address} {vcId : UInt8} {packet : α}
    (hroom : (s.port.submitted vcId).length + 1 < 2 ^ 32)
    (hsource : source ≠ c.nicMac.shifted)
    (h : s.portForwards c source seq destination vcId packet = some s') :
    PortSound c s'.port ∧ s'.nic = s.nic ∧ s'.port.passedOn = s.port.passedOn ∧
      ∀ vcId', s.port.submitted vcId' <+: s'.port.submitted vcId' := by
  obtain ⟨henabled, hnumVcs⟩ :=
    LlrSwitchPortManager.settings_noted (s.openPort c).manager vcId seq source
  have hagrees : Agrees c (s.openPort c).manager
      (LlrSwitchPortManager.noted (s.openPort c).manager vcId seq source) := by
    refine ⟨henabled, hnumVcs, LlrSwitchPortManager.sendSeq_noted _ _ _ _, fun vcId' => ?_⟩
    exact LlrSwitchPortManager.waitSeq_noted_of_ne fun h => hsource (congrArg Prod.fst h).symm
  exact (hport.openPort.withManager hagrees).portSends hroom h

/-- The port processes a control frame of the card. -/
theorem PortSound.portProcessesControl (hport : PortSound c s.port) {i : ℕ}
    (h : s.portProcessesControl i = some s') :
    PortSound c s'.port ∧ s'.nic = s.nic ∧ s'.port.passedOn = s.port.passedOn ∧
      s'.port.submitted = s.port.submitted := by
  obtain ⟨control, hcontrol, h⟩ := Option.bind_eq_some_iff.mp h
  obtain ⟨m, hm, rfl⟩ := Option.map_eq_some_iff.mp h
  have hsource : control.source ≠ c.nicMac.shifted := by
    rw [hport.sources control (List.mem_of_getElem? hcontrol)]
    exact shifted_ne_nicMac.symm
  have hagrees : Agrees c s.port.manager m := agrees_process hsource hm
  have hsound := hport.withManager hagrees
  refine ⟨⟨hsound.sends.of_same (fun _ => rfl) rfl rfl, hsound.enabled, hsound.numVcs,
    hsound.expects, fun x hx => ?_⟩, rfl, rfl, rfl⟩
  exact hport.sources x (List.mem_of_mem_eraseIdx hx)

/-! ### The link -/

/-- Every event that is in turn keeps what holds of a link. -/
theorem Sound.step {event : Event α} (hsound : Sound c s) (hturn : InTurn c s event)
    (hstep : step c s event = some s') : Sound c s' := by
  obtain ⟨hnic, hport, hinOrder⟩ := hsound
  cases event with
  | nicSubmits destination vcId packet =>
      obtain ⟨hnic', hsame, hpassed, hgrows⟩ := hnic.nicSubmits hturn hstep
      refine ⟨hnic', hsame ▸ hport, fun vcId' => ?_⟩
      rw [hsame, hpassed]
      exact ⟨(hinOrder vcId').1, (hinOrder vcId').2.trans (hgrows vcId')⟩
  | portSubmits destination vcId packet =>
      obtain ⟨hport', hsame, hpassed, hgrows⟩ := hport.openPort.portSends hturn hstep
      refine ⟨hsame ▸ hnic, hport', fun vcId' => ?_⟩
      rw [hsame, hpassed]
      exact ⟨(hinOrder vcId').1.trans (hgrows vcId'), (hinOrder vcId').2⟩
  | portForwards source seq destination vcId packet =>
      obtain ⟨hport', hsame, hpassed, hgrows⟩ := hport.portForwards hturn.1 hturn.2 hstep
      refine ⟨hsame ▸ hnic, hport', fun vcId' => ?_⟩
      rw [hsame, hpassed]
      exact ⟨(hinOrder vcId').1.trans (hgrows vcId'), (hinOrder vcId').2⟩
  | nicReceives i =>
      obtain ⟨frame, hframe, hstep⟩ := Option.bind_eq_some_iff.mp hstep
      have hlisted := hport.sends.listed frame (List.mem_of_getElem? hframe)
      obtain ⟨hnic', hsame, hgiven, hpassed⟩ := hnic.nicReceives (fun vcId => (hinOrder vcId).1)
        (fun hroom => hturn frame hframe hroom ▸ hlisted) hstep
      refine ⟨hnic', hsame ▸ hport, fun vcId => ?_⟩
      rw [hsame, hgiven]
      exact ⟨hpassed vcId, (hinOrder vcId).2⟩
  | portReceives i stray =>
      obtain ⟨frame, hframe, rfl⟩ := Option.map_eq_some_iff.mp hstep
      obtain ⟨hknown, hroom⟩ := hturn frame hframe
      have hmem := List.mem_of_getElem? hframe
      obtain ⟨hport', hgiven, hpassed⟩ := hport.portReceives hknown (hnic.headers frame hmem)
        (fun vcId => (hinOrder vcId).2) (hnic.sends.listed frame hmem)
        (hnic.sends.small frame.vcId) hroom stray
      refine ⟨hnic, hport', fun vcId => ⟨?_, hpassed vcId⟩⟩
      rw [hgiven]
      exact (hinOrder vcId).1
  | nicReceivesControl i =>
      obtain ⟨control, -, rfl⟩ := Option.map_eq_some_iff.mp hstep
      have hopen := hnic.openNic
      exact ⟨⟨hopen.sends.of_same (fun _ => rfl) rfl rfl, hopen.headers, hopen.sources⟩, hport,
        hinOrder⟩
  | portReceivesControl i =>
      obtain ⟨control, hcontrol, rfl⟩ := Option.map_eq_some_iff.mp hstep
      have hopen := hport.openPort
      refine ⟨hnic, ⟨hopen.sends.of_same (fun _ => rfl) rfl rfl, hopen.enabled, hopen.numVcs,
        hopen.expects, fun x hx => ?_⟩, hinOrder⟩
      rcases List.mem_append.mp hx with hold | hnew
      · exact hport.sources x hold
      · obtain rfl := List.mem_singleton.mp hnew
        exact hnic.sources x (List.mem_of_getElem? hcontrol)
  | nicProcessesControl i =>
      obtain ⟨control, -, hstep⟩ := Option.bind_eq_some_iff.mp hstep
      obtain ⟨m, hm, rfl⟩ := Option.map_eq_some_iff.mp hstep
      have hsound := hnic.withManager fun key => sendSeq_process hm
      exact ⟨⟨hsound.sends.of_same (fun _ => rfl) rfl rfl, hsound.headers, hsound.sources⟩,
        hport, hinOrder⟩
  | portProcessesControl i =>
      obtain ⟨hport', hsame, hpassed, hgiven⟩ := hport.portProcessesControl hstep
      refine ⟨hsame ▸ hnic, hport', fun vcId => ?_⟩
      rw [hsame, hpassed, hgiven]
      exact hinOrder vcId
  | nicResends vcId =>
      obtain ⟨m, hm, rfl⟩ := Option.map_eq_some_iff.mp hstep
      exact ⟨hnic.withManager fun key => sendSeq_of_onLane (resend_eq_some hm) fun _ => rfl,
        hport, hinOrder⟩
  | portResends mac vcId =>
      obtain ⟨m, hm, rfl⟩ := Option.map_eq_some_iff.mp hstep
      refine ⟨hnic, hport.withManager ?_, hinOrder⟩
      exact Agrees.onLane (resend_eq_some hm) (fun _ => rfl) fun _ _ => rfl
  | nicHandles =>
      cases hstep
      exact ⟨hnic.openNic, hport, hinOrder⟩
  | portHandles =>
      cases hstep
      exact ⟨hnic, hport.openPort, hinOrder⟩
  | nicProcesses =>
      cases hstep
      exact ⟨⟨hnic.sends.of_same (fun _ => rfl) rfl rfl, hnic.headers, hnic.sources⟩, hport,
        hinOrder⟩
  | portProcesses =>
      cases hstep
      exact ⟨hnic, ⟨hport.sends.of_same (fun _ => rfl) rfl rfl, hport.enabled, hport.numVcs,
        hport.expects, hport.sources⟩, hinOrder⟩

theorem sound_init (hinit : (system c).init s) : Sound c s := by
  rw [hinit]
  refine ⟨⟨⟨fun _ => rfl, fun _ => Nat.two_pow_pos 32, ?_⟩, ?_, ?_⟩, ?_, fun vcId => ?_⟩
  · exact fun frame hframe => absurd hframe List.not_mem_nil
  · exact fun frame hframe => absurd hframe List.not_mem_nil
  · exact fun control hcontrol => absurd hcontrol List.not_mem_nil
  · refine ⟨⟨fun _ => rfl, fun _ => Nat.two_pow_pos 32, ?_⟩, rfl, rfl, fun _ => rfl, ?_⟩
    · exact fun frame hframe => absurd hframe List.not_mem_nil
    · exact fun control hcontrol => absurd hcontrol List.not_mem_nil
  · exact ⟨List.nil_prefix, List.nil_prefix⟩

/-- In every run whose events are in turn, the card and the port pass on the packets that
the other device was given for the link, in order and each once. -/
theorem deliversInOrder_of_inTurn (hreach : (system c).ReachableBy (InTurn c) s) :
    DeliversInOrder s := by
  have hsound : Sound c s :=
    hreach.invariant (fun _ => sound_init) fun _ _ _ hsound hturn => hsound.step hturn
  exact hsound.inOrder

/-- A link of the first network card, to a switch that has a port of the address that is
read for the card. -/
def firstLink : LlrLinkConfig ℕ where
  nicMac := { b5 := 1 }
  portMac := { b5 := 2 }
  devices := [{ b5 := 2 }, { b3 := 1, b4 := 8 }]
  numVcs := 1
  size := fun _ => 100
  nicCapacity := 1000
  portCapacity := 1000
  nicMac_card := by decide

/-- The devices of the link before they are given a packet. -/
def idleLink : LlrLink ℕ where
  nic := { manager := { numVcs := 1 } }
  port := { manager := { numVcs := 1 } }

/-- The first of two packets is lost. -/
def lostPacket : List (Event ℕ) :=
  [.portSubmits { b5 := 1 } 0 10, .portSubmits { b5 := 1 } 0 11, .nicReceives 1]

/-- The card passes on the second packet without the first. -/
theorem not_deliversInOrder_lostPacket :
    ∃ s, (system firstLink).Reachable s ∧ s.port.submitted 0 = [10, 11] ∧
      s.nic.passedOn 0 = [11] ∧ ¬DeliversInOrder s := by
  obtain ⟨s, hrun⟩ : ∃ s, (system firstLink).runActions idleLink lostPacket = some s := ⟨_, rfl⟩
  have hgiven : s.port.submitted 0 = [10, 11] := by
    cases hrun
    rfl
  have hpassed : s.nic.passedOn 0 = [11] := by
    cases hrun
    rfl
  refine ⟨s, ?_, hgiven, hpassed, fun horder => ?_⟩
  · exact TransitionSystem.ReachableBy.runActions (.init rfl) (fun _ _ _ => trivial) hrun
  · have hinitial := (horder 0).1
    rw [hgiven, hpassed] at hinitial
    revert hinitial
    decide

/-- The card sends three packets, of which the second arrives before the first, the first
arrives twice, and the second arrives once more; then the port sends two. -/
def packetsEachWay : List (Event ℕ) :=
  [.nicSubmits { b5 := 3 } 0 10, .nicSubmits { b5 := 3 } 0 12, .nicSubmits { b5 := 3 } 0 14,
    .portReceives 1 false, .portReceives 0 false, .portReceives 0 false, .portReceives 1 false,
    .portReceives 2 false, .portSubmits { b5 := 1 } 0 11, .portSubmits { b5 := 1 } 0 13,
    .nicReceives 0, .nicReceives 1]

/-- The port passes on each of the three packets once and in order, and the card the two. -/
theorem deliversInOrder_packetsEachWay :
    ∃ s, (system firstLink).runActions idleLink packetsEachWay = some s ∧
      s.port.passedOn 0 = [10, 12, 14] ∧ s.nic.passedOn 0 = [11, 13] ∧ DeliversInOrder s := by
  obtain ⟨s, hrun⟩ : ∃ s, (system firstLink).runActions idleLink packetsEachWay = some s :=
    ⟨_, rfl⟩
  have hpassed : s.port.passedOn 0 = [10, 12, 14] ∧ s.nic.passedOn 0 = [11, 13] := by
    cases hrun
    exact ⟨rfl, rfl⟩
  have hguarded : (system firstLink).GuardedRun (InTurn firstLink) idleLink packetsEachWay := by
    decide +kernel
  have hreach : (system firstLink).ReachableBy (InTurn firstLink) s :=
    .of_guardedRun (.init rfl) hguarded hrun
  exact ⟨s, hrun, hpassed.1, hpassed.2, deliversInOrder_of_inTurn hreach⟩

end LlrLink

end UeSim
