import Mathlib.Data.List.Perm.Basic
import Mathlib.Data.List.Basic
import UeSim.Pdc.Ipdc

/-!
# The transition system of an unreliable delivery context

A run starts with `Initialize` on a new context, which both callers do once.  An event fires at its
time, and the time does not pass the time of a pending event.

A received packet enters the queue of the context, which the periodic processing never looks at:
it leaves the queue only when it makes room for a newer packet, when it is too old at the one
cleanup, or when the queue is cleared.  The processing goes on by itself only as long as each event
finds the context active: `Activate` does not start it again.
-/

namespace UeSim

/-- What can happen to a context. -/
inductive IpdcAction
  | activate
  | deactivate
  | updateConfiguration (config : PdcBaseConfig)
  | updateIpdcConfiguration (config : IpdcConfig)
  | setFlowControlEnabled (enabled : Bool)
  | setPacketLifetime (lifetime : ℤ)
  | sendPacket (lower : QueuedPacket → Bool) (packet : Option Packet) (som eom : Bool)
  | sendPacketDirect (lower : QueuedPacket → Bool) (packet : Option Packet) (som eom : Bool)
  | handlePacketDelivery (packet : Packet) (success : Bool)
  | handleReceivedPacket (packet : Option Packet)
  | clearSendQueue
  | clearReceiveQueue
  | resetStatistics
  | resetIpdcStatistics
  /-- The event of the periodic processing fires. -/
  | processEvent
  /-- The event of the cleanup fires. -/
  | cleanupEvent
  /-- Time passes. -/
  | advance (elapsed : ℕ)

namespace Ipdc

/-- The context when the event of the periodic processing has just fired. -/
def processFired (s : Ipdc) : Ipdc := { s with processDue := none }

/-- The context when the event of the cleanup has just fired. -/
def cleanupFired (s : Ipdc) : Ipdc := { s with cleanupDue := none }

/-- One action of a context. -/
def ipdcStep (s : Ipdc) : IpdcAction → Option Ipdc
  | .activate => some s.activate
  | .deactivate => some s.deactivate
  | .updateConfiguration config => some (s.updateConfiguration config).1
  | .updateIpdcConfiguration config => some (s.updateIpdcConfiguration config).1
  | .setFlowControlEnabled enabled => some (s.setFlowControlEnabled enabled)
  | .setPacketLifetime lifetime => some (s.setPacketLifetime lifetime)
  | .sendPacket lower packet som eom => some (s.sendPacket lower packet som eom).1
  | .sendPacketDirect lower packet som eom => some (s.sendPacketDirect lower packet som eom).1
  | .handlePacketDelivery packet success => some (s.handlePacketDelivery packet success)
  | .handleReceivedPacket packet => some (s.handleReceivedPacket packet).1
  | .clearSendQueue => some s.clearSendQueue.1
  | .clearReceiveQueue => some s.clearReceiveQueue.1
  | .resetStatistics => some { s with statistics := {} }
  | .resetIpdcStatistics => some { s with ipdcStatistics := {} }
  | .processEvent =>
      if s.processDue = some s.now then some s.processFired.doPeriodicProcessing else none
  | .cleanupEvent =>
      if s.cleanupDue = some s.now then some s.cleanupFired.cleanupExpiredPackets else none
  | .advance elapsed =>
      if (∀ due ∈ s.processDue, s.now + elapsed ≤ due) ∧
          (∀ due ∈ s.cleanupDue, s.now + elapsed ≤ due) then
        some { s with now := s.now + elapsed }
      else none

/-- A new context after `Initialize`, at any time and under any configuration. -/
def Fresh (s : Ipdc) : Prop :=
  ∃ processInterval queueCleanupInterval now config,
    initializeIpdc { processInterval := processInterval,
                     queueCleanupInterval := queueCleanupInterval, now := now } config = (s, true)

/-- The transition system of one context. -/
def ipdcSystem : TransitionSystem Ipdc IpdcAction where
  init := Fresh
  step := ipdcStep

/-! ## What an action does -/

/-- The queue of received packets and its histories. -/
structure ReceiveSide where
  queue : List QueuedPacket
  accepted : List QueuedPacket
  overflowed : List QueuedPacket
  expired : List QueuedPacket
  cleared : List QueuedPacket

/-- The receive side of a context. -/
def receiveSide (s : Ipdc) : ReceiveSide :=
  ⟨s.receiveQueue, s.accepted, s.overflowed, s.expired, s.cleared⟩

/-- What decides when a context processes and when it cleans up. -/
structure Clock where
  now : ℕ
  processInterval : ℕ
  processDue : Option ℕ
  cleanupDue : Option ℕ

/-- The clock of a context. -/
def clock (s : Ipdc) : Clock := ⟨s.now, s.processInterval, s.processDue, s.cleanupDue⟩

/-- What decides whether flow control lets a packet pass, how many packets are queued, and which
configurations may replace that of the context. -/
structure FlowSide where
  sendCredits : ℕ
  flowControlActive : Bool
  pdcId : UInt16
  maxReceiveQueueSize : ℕ

/-- The flow control of a context. -/
def flowSide (s : Ipdc) : FlowSide :=
  ⟨s.sendCredits, s.flowControlActive, s.ipdcConfig.pdcId, s.ipdcConfig.maxReceiveQueueSize⟩

/-- Nothing waits to be sent, nothing waits in the queues that are processed, and no packet was
ever counted or reported as received. -/
structure Idle (s : Ipdc) : Prop where
  sendQueue : s.sendQueue = []
  baseSendQueue : s.baseSendQueue = []
  baseReceiveQueue : s.baseReceiveQueue = []
  packetsReceived : s.statistics.packetsReceived = 0
  bytesReceived : s.statistics.bytesReceived = 0
  packetRxTrace : s.packetRxTrace = []

/-- Two contexts differ in nothing that the receive side, the clock and the flow control show, and
the later one is idle if the earlier one is. -/
structure Alike (s s' : Ipdc) : Prop where
  receiveSide : s'.receiveSide = s.receiveSide
  clock : s'.clock = s.clock
  flowSide : s'.flowSide = s.flowSide
  idle : s.Idle → s'.Idle

variable {s s' t : Ipdc} {lower : QueuedPacket → Bool} {a : IpdcAction}

theorem Alike.refl (s : Ipdc) : Alike s s := ⟨rfl, rfl, rfl, id⟩

theorem Alike.trans (h : Alike s t) (h' : Alike t s') : Alike s s' :=
  ⟨h'.receiveSide.trans h.receiveSide, h'.clock.trans h.clock, h'.flowSide.trans h.flowSide,
    h'.idle ∘ h.idle⟩

/-- The errors are counted apart from what was received. -/
theorem noteError_received (st : PdcStatistics) (error : PdsErrorCode) (details : String) :
    (st.noteError error details).packetsReceived = st.packetsReceived ∧
      (st.noteError error details).bytesReceived = st.bytesReceived := by
  cases error <;> exact ⟨rfl, rfl⟩

theorem Idle.handleError (h : s.Idle) (error : PdsErrorCode) (details : String) :
    (s.handleError error details).Idle := by
  obtain ⟨hpackets, hbytes⟩ := noteError_received s.statistics error details
  exact ⟨h.sendQueue, h.baseSendQueue, h.baseReceiveQueue, hpackets.trans h.packetsReceived,
    hbytes.trans h.bytesReceived, h.packetRxTrace⟩

theorem alike_handleError (s : Ipdc) (error : PdsErrorCode) (details : String) :
    Alike s (s.handleError error details) :=
  ⟨rfl, rfl, rfl, fun h => h.handleError error details⟩

theorem alike_noteSent (s : Ipdc) (packet : Packet) : Alike s (s.noteSent packet) :=
  ⟨rfl, rfl, rfl, fun h => { h with }⟩

theorem alike_transmitPacket (s : Ipdc) (lower : QueuedPacket → Bool) (qp : QueuedPacket) :
    Alike s (s.transmitPacket lower qp).1 := by
  unfold transmitPacket
  split_ifs
  · exact ⟨rfl, rfl, rfl, fun h => { h with }⟩
  · exact .refl s

theorem alike_sendNow (s : Ipdc) (packet : Packet) (som eom : Bool) :
    Alike s (s.sendNow lower packet som eom).1 := by
  have hqueued : Alike s (s.queued packet som eom).2 := ⟨rfl, rfl, rfl, fun h => { h with }⟩
  have hsent := hqueued.trans
    (alike_transmitPacket (s.queued packet som eom).2 lower (s.queued packet som eom).1)
  unfold sendNow
  split
  · rename_i t heq
    rw [heq] at hsent
    exact hsent.trans (alike_noteSent t packet)
  · rename_i t heq
    rw [heq] at hsent
    exact hsent

theorem alike_sendPacket (s : Ipdc) (packet : Option Packet) (som eom : Bool) :
    Alike s (s.sendPacket lower packet som eom).1 := by
  unfold sendPacket
  cases packet with
  | none => exact alike_handleError _ _ _
  | some packet =>
      dsimp only
      split_ifs
      · exact alike_handleError _ _ _
      · exact alike_handleError _ _ _
      · exact ⟨rfl, rfl, rfl, fun h => { h with }⟩
      · exact alike_sendNow s packet som eom

theorem alike_sendPacketDirect (s : Ipdc) (packet : Option Packet) (som eom : Bool) :
    Alike s (s.sendPacketDirect lower packet som eom).1 := by
  unfold sendPacketDirect
  cases packet with
  | none => exact .refl s
  | some packet =>
      dsimp only
      split_ifs
      · exact .refl s
      · exact alike_sendNow s packet som eom

theorem alike_handlePacketDelivery (s : Ipdc) (packet : Packet) (success : Bool) :
    Alike s (s.handlePacketDelivery packet success) := by
  unfold handlePacketDelivery
  split_ifs
  · exact alike_noteSent s packet
  · refine Alike.trans (t := { s with
      ipdcStatistics :=
        { s.ipdcStatistics with packetsDropped := s.ipdcStatistics.packetsDropped + 1 } }) ?_
      (alike_handleError _ _ _)
    exact ⟨rfl, rfl, rfl, fun h => { h with }⟩

theorem alike_of_validateReceivedPacket {packet : Packet}
    (h : s.validateReceivedPacket packet = some t) : Alike s t := by
  unfold validateReceivedPacket at h
  split_ifs at h <;> cases h <;> exact alike_handleError _ _ _

/-- A received packet joins the queue, makes room for itself first if the queue is full, or changes
nothing on the receive side. -/
theorem handleReceivedPacket_cases (s : Ipdc) (packet : Option Packet) :
    Alike s (s.handleReceivedPacket packet).1 ∨
      ∃ qp : QueuedPacket, qp.timestamp = s.now ∧
        (s.handleReceivedPacket packet).1.clock = s.clock ∧
        (s.handleReceivedPacket packet).1.flowSide = s.flowSide ∧
        (s.Idle → (s.handleReceivedPacket packet).1.Idle) ∧
        (s.receiveQueue.length < s.ipdcConfig.maxReceiveQueueSize ∧
          (s.handleReceivedPacket packet).1.receiveSide =
            { s.receiveSide with
              queue := s.receiveQueue ++ [qp]
              accepted := s.accepted ++ [qp] } ∨
          ∃ old rest, s.receiveQueue = old :: rest ∧
            (s.handleReceivedPacket packet).1.receiveSide =
              { s.receiveSide with
                queue := rest ++ [qp]
                accepted := s.accepted ++ [qp]
                overflowed := s.overflowed ++ [old] }) := by
  unfold handleReceivedPacket
  cases packet with
  | none => exact .inl (alike_handleError _ _ _)
  | some packet =>
      dsimp only
      cases hfailed : s.validateReceivedPacket packet with
      | some failed =>
          refine .inl ?_
          dsimp only
          split_ifs
          · exact alike_handleError _ _ _
          · exact alike_of_validateReceivedPacket hfailed
      | none =>
          dsimp only
          split_ifs with hactive hvalid hzero
          · exact .inl (alike_handleError _ _ _)
          · exact .inl (alike_handleError _ _ _)
          · exact .inl (.refl s)
          · unfold enqueuePacket
            dsimp only
            split_ifs with hfull hflow
            · refine .inr ⟨(s.queued packet false false).1, rfl, rfl, rfl, fun h => { h with },
                .inr ?_⟩
              cases hqueue : s.receiveQueue with
              | nil =>
                  rw [hqueue] at hfull
                  exact absurd (Nat.le_zero.mp hfull) hzero
              | cons old rest =>
                  refine ⟨old, rest, rfl, ?_⟩
                  simp [receiveSide, queued]
            · exact .inl ⟨rfl, rfl, rfl, fun h => { h with }⟩
            · exact .inr ⟨(s.queued packet false false).1, rfl, rfl, rfl, fun h => { h with },
                .inl ⟨Nat.lt_of_not_le hfull, rfl⟩⟩

/-- The event of the periodic processing finds both of its queues empty: it only schedules itself
again. -/
theorem Idle.doPeriodicProcessing (h : s.Idle) (hactive : s.active = true) :
    s.doPeriodicProcessing = s.scheduleProcessing := by
  have hsend : s.processSendQueue = s := by
    unfold processSendQueue
    rw [← h.baseSendQueue]
  have hreceive : s.processReceiveQueue = s := by
    unfold processReceiveQueue
    rw [h.baseReceiveQueue, List.foldl_nil, ← h.baseReceiveQueue]
  unfold Ipdc.doPeriodicProcessing
  rw [if_neg (by simp [hactive]), hsend, hreceive]

end Ipdc

end UeSim
