import UeSim.NetDevice.Inbound
import UeSim.Pds.Encounters
import UeSim.Pds.System
import UeSim.Support.Transition

/-!
# The transition system of a responder

An action is the arrival of a packet, an event or a periodic call that drains
the responses pending for a peer, or a call that configures the device or its
receive side.
-/

namespace UeSim

/-- What can happen at a responder. -/
inductive DeviceAction
  /-- A packet arrives. -/
  | receivePacket (packet : InboundPacket)
  /-- A pending drain event of a response queue fires. -/
  | responseDrainEvent (peerFep : ℕ)
  /-- The periodic processing drains the response queue of a peer. -/
  | periodicDrain (peerFep : ℕ)
  /-- The packet delivery sublayer signals that a peer may send again. -/
  | creditsAvailable (peerFep : ℕ)
  /-- Another call into the receive side: posts, pruning, or new limits. -/
  | receiver (a : PdsAction)
  /-- `ConfigureResponseDispatchFailuresForTesting`. -/
  | failNextResponseDispatches (count : ℕ)
  /-- The limits of the read-responder budget are set. -/
  | configureReadResponder (messageLimit byteLimit : ℕ)
  /-- `SetRudSemanticMode`. -/
  | setRudSemanticMode (enabled : Bool)
  /-- Simulated time passes. -/
  | advanceClock (deltaNs : ℕ)

namespace SoftUeNetDevice

/-- The device when the drain event of a response queue has just fired: the
event is no longer pending. -/
def drainFired (d : SoftUeNetDevice) (peerFep : ℕ) : SoftUeNetDevice :=
  { d with pendingResponseQueues := d.pendingResponseQueues.fire peerFep }

/-- The device under new limits of the read-responder budget. -/
def configureReadResponder (d : SoftUeNetDevice) (messageLimit byteLimit : ℕ) :
    SoftUeNetDevice :=
  { d with
    readResponderBudget := { d.readResponderBudget with
      messageLimit := messageLimit
      byteLimit := byteLimit } }

/-- The device after some time. -/
def advanceClock (d : SoftUeNetDevice) (deltaNs : ℕ) : SoftUeNetDevice :=
  { d with
    ses := { d.ses with nowNs := d.ses.nowNs + deltaNs }
    pds := { d.pds with nowNs := d.pds.nowNs + deltaNs } }

/-- One action of a responder.  An event fires only while it is pending. -/
def deviceStep (env : Environment) (d : SoftUeNetDevice) :
    DeviceAction → Option SoftUeNetDevice
  | .receivePacket packet => some (d.processReceivedPacket env packet)
  | .responseDrainEvent peerFep =>
      if d.pendingResponseQueues.wakeupPending peerFep then
        some ((d.drainFired peerFep).drainPendingResponseQueue env peerFep)
      else none
  | .periodicDrain peerFep =>
      if d.rudSemanticModeEnabled then some (d.drainPendingResponseQueue env peerFep)
      else some d
  | .creditsAvailable peerFep => some (d.notifyPeerCreditsAvailable peerFep)
  | .receiver a => some (d.setPds (d.pdsView.pdsStep a))
  | .failNextResponseDispatches count => some { d with failNextResponseDispatches := count }
  | .configureReadResponder messageLimit byteLimit =>
      some (d.configureReadResponder messageLimit byteLimit)
  | .setRudSemanticMode enabled => some { d with rudSemanticModeEnabled := enabled }
  | .advanceClock deltaNs => some (d.advanceClock deltaNs)

/-- A responder before its first request: any configuration, any time, any
memory. -/
structure Unasked (d : SoftUeNetDevice) : Prop where
  pendingResponses : d.pendingResponses = ∅
  pendingResponseQueues : d.pendingResponseQueues = ∅
  readMessages : d.readResponderBudget.messagesInUse = 0
  readBytes : d.readResponderBudget.bytesInUse = 0

/-- The transition system of a responder over given lower layers. -/
def deviceSystem (env : Environment) : TransitionSystem SoftUeNetDevice DeviceAction where
  init := Unasked
  step := deviceStep env

/-! ## Which requests are answered -/

/-- Whether `HandleIncomingRequest` answers a request: it does, unless the
request is a fragment of a SEND that is taken in without an answer. -/
def answersRequest (d : SoftUeNetDevice) (pdcId : ℕ) (packet : TaggedPacket) : Bool :=
  match d.ses.validateInboundHeader packet.header with
  | .error _ => true
  | .ok () =>
      packet.metadata.operationType ≠ .send ||
        d.pdsView.sendEncounter pdcId packet ≠ .underway

/-- The key under which an arriving packet will be answered. -/
def answeredKey (d : SoftUeNetDevice) (packet : InboundPacket) : Option RequestKey :=
  ((d.admittedRequest packet).filter (d.answersRequest packet.pdcId)).map SesManager.packetKey

end SoftUeNetDevice
end UeSim
