import UeSim.Sue.SueSwitch
import UeSim.Support.Transition

/-!
# The processing queue of a device

A device puts the data packets that arrive into a queue.  One event looks at the front of
the queue and schedules another, which hands the packet on: a network card to the node, a
switch port to `SueSwitch`, which may refuse it.  The packet stays at the front until it
is handed on.

The queue is bounded in bytes by a 32-bit sum.  As long as that sum does not overflow
where a packet is accepted, the counters agree with the queue and the packets leave in
the order of their arrival.
-/

namespace UeSim

/-- What a device keeps of a packet that has arrived, but for the copy that traces read. -/
structure ProcessItem where
  packet : SuePacket
  vcId : UInt8
  protocol : ℕ := 0x0800
  deriving DecidableEq, Repr

/-- The members of a device around its processing queue, and the events that are pending:
the number of `StartProcessing`, and `ProcessingReceivedPacket` with their items.
`accepted` and `handedOn` record the items that have entered the queue and left it. -/
structure ProcessingQueue where
  processingQueue : List ProcessItem := []
  currentSize : ℕ := 0
  currentBytes : ℕ := 0
  processingScheduled : Bool := false
  starts : ℕ := 0
  processing : List ProcessItem := []
  accepted : List ProcessItem := []
  handedOn : List ProcessItem := []

/-- What a device has for its processing queue: `ProcessingQueueMaxBytes`, and whether the
device is a switch port. -/
structure ProcessingConfig where
  processingQueueMaxBytes : UInt32
  isSwitchDevice : Bool

/-- The events of a device that concern its processing queue. -/
inductive ProcessingEvent
  /-- `Receive`, for a data packet that retransmission does not hold back. -/
  | receive (item : ProcessItem)
  | startProcessing
  /-- `ProcessingReceivedPacket`.  A switch port calls its switch, which is in some
  state. -/
  | processingReceivedPacket (i : ℕ) (device : ForwardingCall) (sueSwitch : SueSwitch)

namespace ProcessingQueue

variable {config : ProcessingConfig} {s t : ProcessingQueue} {item : ProcessItem}

/-- `EnqueueToProcessingQueue`. -/
def enqueueToProcessingQueue (s : ProcessingQueue) (item : ProcessItem) : ProcessingQueue :=
  { s with
    processingQueue := s.processingQueue ++ [item]
    currentSize := toU32 (s.currentSize + 1)
    currentBytes := toU32 (s.currentBytes + item.packet.size)
    starts := if s.processingScheduled then s.starts else s.starts + 1
    accepted := s.accepted ++ [item] }

/-- Whether `Receive` finds room for a packet. -/
def hasRoom (config : ProcessingConfig) (s : ProcessingQueue) (item : ProcessItem) : Bool :=
  toU32 (s.currentBytes + item.packet.size) ≤ config.processingQueueMaxBytes.toNat

/-- The end of `Receive` for a data packet. -/
def receive (config : ProcessingConfig) (s : ProcessingQueue) (item : ProcessItem) :
    ProcessingQueue :=
  if s.hasRoom config item then s.enqueueToProcessingQueue item else s

/-- `StartProcessing`, one of the pending ones. -/
def startProcessing (s : ProcessingQueue) : ProcessingQueue :=
  { s with
    starts := s.starts - 1
    processing :=
      if s.processingScheduled then s.processing
      else s.processing ++ s.processingQueue.head?.toList
    processingScheduled := s.processingScheduled || !s.processingQueue.isEmpty }

/-- The packet object at the front of the queue is rewritten. -/
def rewriteFront (s : ProcessingQueue) (packet : SuePacket) : ProcessingQueue :=
  { s with
    processingQueue := s.processingQueue.head?.toList.map (fun item =>
      { item with packet := packet }) ++ s.processingQueue.tail }

/-- The item at the front leaves the queue. -/
def popFront (s : ProcessingQueue) (item : ProcessItem) (packetSize : ℕ) : ProcessingQueue :=
  { s with
    processingQueue := s.processingQueue.tail
    currentSize := subU32 s.currentSize 1
    currentBytes := subU32 s.currentBytes packetSize
    handedOn := s.handedOn ++ [item] }

/-- The end of `ProcessingReceivedPacket`: it goes on with what is left. -/
def goOn (s : ProcessingQueue) : ProcessingQueue :=
  { s with starts := if s.processingQueue.isEmpty then s.starts else s.starts + 1 }

/-- A pending `ProcessingReceivedPacket` happens, and the flag is reset. -/
def takeItem (s : ProcessingQueue) (i : ℕ) : ProcessingQueue :=
  { s with processing := s.processing.eraseIdx i, processingScheduled := false }

/-- The call of `ProcessSwitchForwarding` for an item, with what it reads of the device. -/
def forwardingCall (device : ForwardingCall) (item : ProcessItem) : ForwardingCall :=
  { device with
    ethHeader := ⟨item.packet.source, item.packet.destination⟩
    protocol := item.protocol
    vcId := item.vcId }

/-- `ProcessingReceivedPacket`, behind the reset of the flag. -/
def processingReceivedPacket (config : ProcessingConfig) (device : ForwardingCall)
    (sueSwitch : SueSwitch) (s : ProcessingQueue) (item : ProcessItem) :
    Option ProcessingQueue :=
  if config.isSwitchDevice then
    (SueSwitch.processSwitchForwarding (forwardingCall device item)
      { sueSwitch with packet := item.packet }).map fun result =>
        goOn (if result.1 then s.popFront item result.2.packet.size
          else s.rewriteFront result.2.packet)
  else
    some (s.popFront item item.packet.size).goOn

/-- The runs of the processing queue of a device. -/
def system (config : ProcessingConfig) : TransitionSystem ProcessingQueue ProcessingEvent where
  init s := s = {}
  step s
    | .receive item => some (s.receive config item)
    | .startProcessing => if 0 < s.starts then some s.startProcessing else none
    | .processingReceivedPacket i device sueSwitch => s.processing[i]?.bind fun item =>
        processingReceivedPacket config device sueSwitch (s.takeItem i) item

/-- The bytes of the packets in the queue. -/
def queuedBytes (s : ProcessingQueue) : ℕ :=
  WeightedList.weight (fun item => item.packet.size) s.processingQueue

/-- What should hold of a processing queue at any time. -/
structure Consistent (config : ProcessingConfig) (s : ProcessingQueue) : Prop where
  /-- At most one item is being processed, and it is the front of the queue. -/
  front : s.processing = [] ∨ ∃ item, s.processing = [item] ∧ s.processingQueue.head? = some item
  size : s.currentSize = s.processingQueue.length
  bytes : s.currentBytes = s.queuedBytes
  bounded : s.currentBytes ≤ config.processingQueueMaxBytes.toNat
  /-- A queue that is not empty is looked at again. -/
  pending : s.processingQueue ≠ [] → 0 < s.starts ∨ s.processing ≠ []
  /-- Each packet is handed on once, in the order of arrival. -/
  inOrder : s.accepted = s.handedOn ++ s.processingQueue

/-- The sum of the bytes does not overflow where a packet is accepted. -/
def BytesFit (config : ProcessingConfig) (s : ProcessingQueue) : ProcessingEvent → Prop
  | .receive item => s.hasRoom config item = true →
      s.currentBytes + item.packet.size < 2 ^ 32
  | _ => True

instance (config : ProcessingConfig) (s : ProcessingQueue) : ∀ a, Decidable (BytesFit config s a)
  | .receive _ => inferInstanceAs (Decidable (_ → _ < _))
  | .startProcessing | .processingReceivedPacket _ _ _ => .isTrue trivial

/-! ## What an event keeps -/

/-- The flag says whether an item is being processed. -/
def FlagAgrees (s : ProcessingQueue) : Prop :=
  s.processingScheduled = !s.processing.isEmpty

theorem packet_size_pos (item : ProcessItem) : 0 < item.packet.size :=
  Nat.lt_of_lt_of_le (by decide) (Nat.le_add_left 14 _)

/-- A packet has bytes, so that there are no more packets than bytes. -/
theorem length_le_queuedBytes : s.processingQueue.length ≤ s.queuedBytes := by
  unfold queuedBytes
  induction s.processingQueue with
  | nil => exact le_refl 0
  | cons item items ih =>
      rw [List.length_cons, WeightedList.weight_cons]
      have hpos := packet_size_pos item
      omega

theorem queuedBytes_enqueue (item : ProcessItem) :
    (s.enqueueToProcessingQueue item).queuedBytes = s.queuedBytes + item.packet.size := by
  unfold queuedBytes enqueueToProcessingQueue
  rw [WeightedList.weight_append, WeightedList.weight_singleton]

theorem receive_of_room (hroom : s.hasRoom config item = true) :
    s.receive config item = s.enqueueToProcessingQueue item :=
  if_pos hroom

theorem receive_keeps (hflag : s.FlagAgrees) (h : s.Consistent config)
    (hfit : BytesFit config s (.receive item)) :
    (s.receive config item).FlagAgrees ∧ (s.receive config item).Consistent config := by
  by_cases hroom : s.hasRoom config item = true
  · rw [receive_of_room hroom]
    have hsum := hfit hroom
    have hlength : s.processingQueue.length + 1 < 2 ^ 32 := by
      have hle := length_le_queuedBytes (s := s)
      have hpos := packet_size_pos item
      rw [h.bytes] at hsum
      omega
    refine ⟨hflag, ⟨?_, ?_, ?_, ?_, fun _ => ?_, ?_⟩⟩
    · rcases h.front with hnone | ⟨first, hone, hfirst⟩
      · exact .inl hnone
      · refine .inr ⟨first, hone, ?_⟩
        unfold enqueueToProcessingQueue
        rw [List.head?_append, hfirst]
        rfl
    · unfold enqueueToProcessingQueue
      dsimp only
      rw [h.size, toU32_of_lt hlength, List.length_append, List.length_singleton]
    · rw [queuedBytes_enqueue, ← h.bytes]
      exact toU32_of_lt hsum
    · exact of_decide_eq_true hroom
    · unfold enqueueToProcessingQueue
      dsimp only
      unfold FlagAgrees at hflag
      cases hscheduled : s.processingScheduled with
      | true =>
          rw [hscheduled] at hflag
          refine .inr fun hnone => ?_
          rw [hnone] at hflag
          cases hflag
      | false => exact .inl (Nat.succ_pos _)
    · unfold enqueueToProcessingQueue
      rw [h.inOrder, List.append_assoc]
  · have hsame : s.receive config item = s := if_neg hroom
    rw [hsame]
    exact ⟨hflag, h⟩

/-- `StartProcessing` takes the front of the queue, unless an item is being processed. -/
theorem processing_startProcessing (hflag : s.FlagAgrees) :
    s.startProcessing.processing =
      if s.processing = [] then s.processingQueue.head?.toList else s.processing := by
  unfold FlagAgrees at hflag
  unfold startProcessing
  dsimp only
  cases hprocessing : s.processing with
  | nil =>
      rw [hprocessing] at hflag
      rw [hflag, if_neg (by decide), if_pos rfl, List.nil_append]
  | cons item items =>
      rw [hprocessing] at hflag
      have hbusy : (!(item :: items).isEmpty) = true := rfl
      rw [hflag, if_pos hbusy, if_neg (List.cons_ne_nil _ _)]

theorem startProcessing_keeps (hflag : s.FlagAgrees) (h : s.Consistent config) :
    s.startProcessing.FlagAgrees ∧ s.startProcessing.Consistent config := by
  have hprocessing := processing_startProcessing hflag
  have hscheduled : s.startProcessing.processingScheduled =
      (!s.processing.isEmpty || !s.processingQueue.isEmpty) := by
    rw [← hflag]
    rfl
  rcases h.front with hnone | ⟨first, hone, hfirst⟩
  · rw [if_pos hnone] at hprocessing
    rw [hnone] at hscheduled
    cases hqueue : s.processingQueue with
    | nil =>
        rw [hqueue] at hprocessing hscheduled
        refine ⟨?_, ⟨.inl hprocessing, h.size, h.bytes, h.bounded, ?_, h.inOrder⟩⟩
        · unfold FlagAgrees
          rw [hscheduled, hprocessing]
          rfl
        · exact fun hne => absurd hqueue hne
    | cons item rest =>
        rw [hqueue] at hprocessing hscheduled
        have hitem : s.startProcessing.processing = [item] := hprocessing
        refine ⟨?_, ⟨.inr ⟨item, hitem, ?_⟩, h.size, h.bytes, h.bounded, ?_, h.inOrder⟩⟩
        · unfold FlagAgrees
          rw [hscheduled, hitem]
          rfl
        · exact congrArg List.head? hqueue
        · exact fun _ => .inr (hitem ▸ List.cons_ne_nil _ _)
  · have hne : s.processing ≠ [] := hone ▸ List.cons_ne_nil _ _
    rw [if_neg hne] at hprocessing
    refine ⟨?_, ⟨.inr ⟨first, hprocessing.trans hone, hfirst⟩, h.size, h.bytes, h.bounded, ?_,
      h.inOrder⟩⟩
    · unfold FlagAgrees
      rw [hscheduled, hprocessing, hone]
      rfl
    · exact fun _ => .inr (hprocessing ▸ hne)

/-- The item that is being processed is the only one, and it is the front of the queue. -/
theorem eq_of_processing {i : ℕ} (h : s.Consistent config) (hitem : s.processing[i]? = some item) :
    (s.takeItem i).processing = [] ∧ ∃ rest, s.processingQueue = item :: rest := by
  rcases h.front with hnone | ⟨first, hone, hfirst⟩
  · rw [hnone] at hitem
    cases hitem
  · rw [hone] at hitem
    cases i with
    | zero =>
        cases hitem
        refine ⟨?_, ?_⟩
        · unfold takeItem
          rw [hone]
          rfl
        · exact List.head?_eq_some_iff.mp hfirst
    | succ i => cases hitem

/-- What is left goes on behind an item that has been processed. -/
theorem goOn_pending (hne : s.processingQueue ≠ []) : 0 < s.goOn.starts := by
  unfold goOn
  dsimp only
  rw [if_neg fun hempty => hne (List.isEmpty_iff.mp hempty)]
  exact Nat.succ_pos _

theorem flagAgrees_of_idle (hscheduled : s.processingScheduled = false)
    (hidle : s.processing = []) : s.FlagAgrees := by
  unfold FlagAgrees
  rw [hscheduled, hidle]
  rfl

/-- The front of the queue leaves when it is handed on. -/
theorem popFront_keeps {i packetSize : ℕ} {rest : List ProcessItem} (h : s.Consistent config)
    (hidle : (s.takeItem i).processing = []) (hqueue : s.processingQueue = item :: rest)
    (hsize : packetSize = item.packet.size) :
    ((s.takeItem i).popFront item packetSize).goOn.FlagAgrees ∧
      ((s.takeItem i).popFront item packetSize).goOn.Consistent config := by
  subst hsize
  have hbytes : s.currentBytes = item.packet.size +
      WeightedList.weight (fun item => item.packet.size) rest := by
    rw [h.bytes]
    unfold queuedBytes
    rw [hqueue, WeightedList.weight_cons]
  have hlength : s.currentSize = rest.length + 1 := by
    rw [h.size, hqueue, List.length_cons]
  have hmax := config.processingQueueMaxBytes.toNat_lt
  have hbounded := h.bounded
  have hcount := length_le_queuedBytes (s := s)
  rw [← h.bytes, ← h.size] at hcount
  have hafter : ((s.takeItem i).popFront item item.packet.size).goOn.currentBytes =
      WeightedList.weight (fun item => item.packet.size) rest := by
    have hsub : subU32 s.currentBytes item.packet.size = s.currentBytes - item.packet.size :=
      subU32_of_le (by omega) (by omega)
    exact hsub.trans (by omega)
  have hrest : ((s.takeItem i).popFront item item.packet.size).goOn.processingQueue = rest :=
    congrArg List.tail hqueue
  refine ⟨flagAgrees_of_idle rfl hidle, ⟨.inl hidle, ?_, ?_, ?_, fun hne => ?_, ?_⟩⟩
  · have hsub : subU32 s.currentSize 1 = s.currentSize - 1 :=
      subU32_of_le (by omega) (by omega)
    refine hsub.trans ?_
    rw [hrest, hlength, Nat.add_sub_cancel]
  · unfold queuedBytes
    rw [hafter, hrest]
  · rw [hafter]
    omega
  · exact .inl (goOn_pending hne)
  · rw [hrest]
    refine h.inOrder.trans ?_
    rw [hqueue]
    exact (List.append_assoc _ [item] rest).symm

/-- A packet that is refused stays at the front. -/
theorem refused_keeps {i : ℕ} {rest : List ProcessItem} {packet : SuePacket}
    (h : s.Consistent config)
    (hidle : (s.takeItem i).processing = []) (hqueue : s.processingQueue = item :: rest)
    (hpacket : packet = item.packet) :
    ((s.takeItem i).rewriteFront packet).goOn.FlagAgrees ∧
      ((s.takeItem i).rewriteFront packet).goOn.Consistent config := by
  have hsame : ((s.takeItem i).rewriteFront packet).goOn.processingQueue =
      s.processingQueue := by
    have hfront : ((s.takeItem i).rewriteFront packet).goOn.processingQueue =
        s.processingQueue.head?.toList.map (fun item => { item with packet := packet }) ++
          s.processingQueue.tail := rfl
    rw [hfront, hqueue, hpacket]
    rfl
  refine ⟨flagAgrees_of_idle rfl hidle, ⟨.inl hidle, ?_, ?_, h.bounded, fun hne => ?_, ?_⟩⟩
  · rw [hsame]
    exact h.size
  · unfold queuedBytes
    rw [hsame]
    exact h.bytes
  · exact .inl (goOn_pending hne)
  · rw [hsame]
    exact h.inOrder

theorem processingReceivedPacket_keeps {i : ℕ} {device : ForwardingCall}
    {sueSwitch : SueSwitch} (h : s.Consistent config) (hitem : s.processing[i]? = some item)
    (hstep : processingReceivedPacket config device sueSwitch (s.takeItem i) item = some t) :
    t.FlagAgrees ∧ t.Consistent config := by
  obtain ⟨hidle, rest, hqueue⟩ := eq_of_processing h hitem
  unfold processingReceivedPacket at hstep
  split_ifs at hstep with hswitch
  · obtain ⟨⟨forwarded, after⟩, hcall, rfl⟩ := Option.map_eq_some_iff.mp hstep
    obtain ⟨hsize, hfailed⟩ := SueSwitch.packet_of_call hcall
    cases forwarded with
    | true => exact popFront_keeps h hidle hqueue hsize
    | false => exact refused_keeps h hidle hqueue (hfailed rfl)
  · cases hstep
    exact popFront_keeps h hidle hqueue rfl

/-- An event that the condition allows keeps the queue consistent. -/
theorem step_keeps {event : ProcessingEvent} (hflag : s.FlagAgrees) (h : s.Consistent config)
    (hfit : BytesFit config s event) (hstep : (system config).step s event = some t) :
    t.FlagAgrees ∧ t.Consistent config := by
  cases event with
  | receive item =>
      cases hstep
      exact receive_keeps hflag h hfit
  | startProcessing =>
      have hstart : (if 0 < s.starts then some s.startProcessing else none) = some t := hstep
      split_ifs at hstart
      cases hstart
      exact startProcessing_keeps hflag h
  | processingReceivedPacket i device sueSwitch =>
      obtain ⟨item, hitem, hprocess⟩ := Option.bind_eq_some_iff.mp hstep
      exact processingReceivedPacket_keeps h hitem hprocess

/-- A packet whose size overflows the sum leaves a count that is too small. -/
theorem step_breaks {event : ProcessingEvent} (h : s.Consistent config)
    (hfit : ¬BytesFit config s event) (hstep : (system config).step s event = some t) :
    ¬t.Consistent config := by
  cases event with
  | receive item =>
      cases hstep
      intro hafter
      unfold BytesFit at hfit
      push Not at hfit
      obtain ⟨hroom, hlarge⟩ := hfit
      have hbytes := hafter.bytes
      rw [receive_of_room hroom] at hbytes
      have hcount : (s.enqueueToProcessingQueue item).currentBytes < 2 ^ 32 := toU32_lt _
      rw [queuedBytes_enqueue, ← h.bytes] at hbytes
      omega
  | startProcessing => exact absurd trivial hfit
  | processingReceivedPacket i device sueSwitch => exact absurd trivial hfit

/-- The processing queue of a device is consistent throughout a run exactly when the sum
of the bytes does not overflow where a packet is accepted. -/
theorem consistent_iff_bytesFit {events : List ProcessingEvent}
    (hinit : (system config).init s) (hrun : (system config).runActions s events = some t) :
    (system config).Throughout (Consistent config) s events ↔
      (system config).GuardedRun (BytesFit config) s events := by
  have hflag : s.FlagAgrees := by
    rw [hinit]
    rfl
  have hconsistent : s.Consistent config := by
    rw [hinit]
    exact ⟨.inl rfl, rfl, rfl, Nat.zero_le _, fun hne => absurd rfl hne, rfl⟩
  exact TransitionSystem.throughout_iff_guardedRun
    (fun _ _ _ hflag h hfit hstep => step_keeps hflag h hfit hstep)
    (fun _ _ _ _ h hfit hstep => step_breaks h hfit hstep) hflag hconsistent hrun

/-! ## A queue without a smaller bound -/

/-- A bound that no 32-bit sum exceeds. -/
def unbounded : ProcessingConfig where
  processingQueueMaxBytes := 4294967295
  isSwitchDevice := false

/-- A packet with the largest IP packet in it. -/
def jumbo : ProcessItem where
  packet := ⟨{ b5 := 1 }, { b5 := 3 }, 0, 65535, by decide⟩
  vcId := 0

/-- A queue with this bound accepts packets without end. -/
theorem runActions_jumbo (n : ℕ) (s : ProcessingQueue) :
    ∃ t, (system unbounded).runActions s (List.replicate n (.receive jumbo)) = some t ∧
      t.queuedBytes = s.queuedBytes + n * jumbo.packet.size := by
  induction n generalizing s with
  | zero => exact ⟨s, rfl, by rw [Nat.zero_mul, Nat.add_zero]⟩
  | succ n ih =>
      have hroom : s.hasRoom unbounded jumbo = true :=
        decide_eq_true (Nat.le_of_lt_succ (toU32_lt _))
      obtain ⟨t, hrun, hbytes⟩ := ih (s.enqueueToProcessingQueue jumbo)
      refine ⟨t, ?_, ?_⟩
      · rw [List.replicate_succ, TransitionSystem.runActions_cons_eq_some]
        exact ⟨_, congrArg some (receive_of_room hroom), hrun⟩
      · rw [hbytes, queuedBytes_enqueue, Nat.succ_mul]
        omega

/-- After 65536 packets there are more bytes in the queue than the counter can tell. -/
theorem not_consistent_jumbo :
    ∃ t, (system unbounded).runActions {} (List.replicate 65536 (.receive jumbo)) = some t ∧
      ¬t.Consistent unbounded := by
  obtain ⟨t, hrun, hbytes⟩ := runActions_jumbo 65536 {}
  refine ⟨t, hrun, fun h => ?_⟩
  have hbounded := h.bounded
  have hmax := unbounded.processingQueueMaxBytes.toNat_lt
  have hsize : jumbo.packet.size = 65549 := rfl
  rw [h.bytes, hbytes, hsize] at hbounded
  omega

/-- A packet of 100 bytes on a virtual channel. -/
def smallItem (vcId : UInt8) : ProcessItem where
  packet := ⟨{ b5 := 1 }, { b5 := 3 }, vcId, 86, by decide⟩
  vcId := vcId

/-- A network card hands on the front of its queue. -/
def handsOn (item : ProcessItem) : List ProcessingEvent :=
  [.startProcessing, .processingReceivedPacket 0
    { ethHeader := ⟨{}, {}⟩, currentDevice := ⟨0, {}⟩, devices := [], vcId := 0 }
    { packet := item.packet }]

/-- A card with room for 250 bytes: of three packets it drops the third; it hands on the first,
takes a fourth, and hands on the second. -/
def fourArrivals : List ProcessingEvent :=
  [.receive (smallItem 0), .receive (smallItem 1), .receive (smallItem 2)] ++
    handsOn (smallItem 0) ++ [.receive (smallItem 3)] ++ handsOn (smallItem 1)

/-- The queue of that card is consistent throughout, and the fourth packet waits in it. -/
theorem consistent_iff_bytesFit_fourArrivals :
    ∃ t, (system ⟨250, false⟩).runActions {} fourArrivals = some t ∧
      t.handedOn = [smallItem 0, smallItem 1] ∧ t.processingQueue = [smallItem 3] ∧
      (system ⟨250, false⟩).Throughout (Consistent ⟨250, false⟩) {} fourArrivals := by
  obtain ⟨t, hrun⟩ : ∃ t, (system ⟨250, false⟩).runActions {} fourArrivals = some t := ⟨_, rfl⟩
  have hend : t.handedOn = [smallItem 0, smallItem 1] ∧ t.processingQueue = [smallItem 3] := by
    cases hrun
    exact ⟨rfl, rfl⟩
  have hfits : (system ⟨250, false⟩).GuardedRun (BytesFit ⟨250, false⟩) {} fourArrivals := by
    decide
  exact ⟨t, hrun, hend.1, hend.2, (consistent_iff_bytesFit rfl hrun).mpr hfits⟩

end ProcessingQueue

end UeSim
