import UeSim.Pds.Receive
import UeSim.Support.Transition

/-!
# The transition system of the receive side

An action is a call into a `PdsManager` that reads or changes its receive
state, or the passing of time.
-/

namespace UeSim

/-- The calls into the receive side of a manager. -/
inductive PdsAction
  /-- A fragment of a SEND arrives on a delivery context. -/
  | sendPacket (pdcId : ℕ) (packet : TaggedPacket)
  /-- A fragment of read data arrives on a delivery context. -/
  | readResponsePacket (pdcId : ℕ) (packet : TaggedPacket)
  /-- The application posts a receive. -/
  | postReceive (lookup : ReceiveLookupKey) (baseAddr length : ℕ)
  /-- A READ of the endpoint registers its target. -/
  | registerReadTarget (lookup : ReceiveLookupKey) (baseAddr length : ℕ)
  /-- A READ of the endpoint gives its target up. -/
  | unregisterReadTarget (lookup : ReceiveLookupKey)
  /-- Stale receive state is pruned. -/
  | prune
  /-- The limits of the receive resources are set. -/
  | configure (maxUnexpectedMessages maxUnexpectedBytes arrivalTrackingCapacity
      retryTimeoutMs : ℕ)
  /-- Simulated time passes. -/
  | advanceClock (deltaNs : ℕ)

namespace PdsManager

/-- One action of the receive side. -/
def pdsStep (s : PdsManager) : PdsAction → PdsManager
  | .sendPacket pdcId packet => (s.handleIncomingSendPacket pdcId packet).1
  | .readResponsePacket pdcId packet => (s.handleIncomingReadResponsePacket pdcId packet).1
  | .postReceive lookup baseAddr length => s.registerPostedReceive lookup baseAddr length
  | .registerReadTarget lookup baseAddr length =>
      s.registerReadResponseTarget lookup baseAddr length
  | .unregisterReadTarget lookup => s.unregisterReadResponseTarget lookup
  | .prune => s.pruneReceiveState
  | .configure maxUnexpectedMessages maxUnexpectedBytes arrivalTrackingCapacity
      retryTimeoutMs =>
      s.configureReceiveSemantics maxUnexpectedMessages maxUnexpectedBytes
        arrivalTrackingCapacity retryTimeoutMs
  | .advanceClock deltaNs => { s with nowNs := s.nowNs + deltaNs }

/-- A receive side before its first packet: any configuration, any time, any
memory. -/
structure Idle (s : PdsManager) : Prop where
  rxMessageContexts : s.rxMessageContexts = ∅
  postedReceives : s.postedReceives = ∅
  readResponseTargets : s.readResponseTargets = ∅
  completedSendTombstones : s.completedSendTombstones = ∅
  completedSendLookupTombstones : s.completedSendLookupTombstones = ∅
  arrivalBlocks : s.receivePool.arrivalBlocksInUse = 0
  unexpectedMessages : s.receivePool.unexpectedMessagesInUse = 0
  unexpectedBytes : s.receivePool.unexpectedBytesInUse = 0
  readTracks : s.receivePool.readTracksInUse = 0

/-- The transition system of the receive side of one manager. -/
def pdsSystem : TransitionSystem PdsManager PdsAction where
  init := Idle
  step s a := some (s.pdsStep a)

theorem idle_of_payloadMtu (payloadMtu : ℕ) : Idle { payloadMtu := payloadMtu } :=
  ⟨rfl, rfl, rfl, rfl, rfl, rfl, rfl, rfl, rfl⟩

theorem idle_default : Idle {} := idle_of_payloadMtu 0

/-! ## Sample packets -/

/-- A fragment of a SEND of endpoint 1 to endpoint 2 for job 7. -/
def sampleFragment (messageId requestLength fragmentOffset : ℕ) (bytes : Packet) :
    TaggedPacket where
  header := { sourceEndpoint := 1, destinationEndpoint := 2, jobId := 7 }
  metadata :=
    { messageId := messageId
      requestLength := requestLength
      fragmentOffset := fragmentOffset
      modifiedLength := requestLength }
  bytes := bytes

/-- The message of a sample fragment. -/
def sampleLookup (messageId : ℕ) : ReceiveLookupKey := ⟨7, messageId, 1⟩

end PdsManager
end UeSim
