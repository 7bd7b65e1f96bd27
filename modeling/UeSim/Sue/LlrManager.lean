import UeSim.Sue.Frames
import UeSim.Support.KeyedMap

/-!
# The managers of link-level retransmission

The manager of a network card has a lane for each virtual channel, and the manager of
a switch port one for each address and virtual channel.  A lane numbers the packets
that it sends and keeps a copy of each, and it has one number, `waitSeq`, for two
purposes: the next packet that it expects, and the next one that is to be acknowledged.

Nothing calls `LlrResendPacket`, so that a lane never sends a copy again.  The number of
the next retransmission and the count of unacknowledged packets, which only it and reports
read, are kept beside the manager, in `LlrChannels` and in `LlrWindow`.
-/

namespace UeSim

/-- The entries of the vectors of a manager for one virtual channel. -/
structure LlrLane (α : Type) where
  sendList : KeyedMap ℕ α := ∅
  waitSeq : ℕ := 0
  sendSeq : ℕ := 0
  llrResending : Bool := false
  /-- Whether the retransmission timer is pending. -/
  resendPkt : Bool := false

/-- The control frame that answers a packet. -/
inductive LlrReply
  | ack (seq : ℕ)
  | nack (seq : ℕ)
  deriving DecidableEq, Repr

namespace LlrLane

variable {α : Type}

/-- `LlrSendPacket`, once the virtual channel is known to be valid: the packet gets the
next number. -/
def sendPacket (lane : LlrLane α) (packet : α) : LlrLane α :=
  { lane with
    sendList := lane.sendList.insert lane.sendSeq packet
    sendSeq := toU32 (lane.sendSeq + 1)
    resendPkt := true }

/-- The lane after `LlrReceivePacket`. -/
def receivePacket (lane : LlrLane α) (seq : ℕ) : LlrLane α :=
  { lane with waitSeq := if seq = lane.waitSeq then toU32 (lane.waitSeq + 1) else lane.waitSeq }

/-- The answer of `LlrReceivePacket`. -/
def reply (lane : LlrLane α) (seq : ℕ) : LlrReply :=
  if lane.waitSeq < seq then .nack lane.waitSeq else .ack seq

/-- `ProcessLlrAck`: an old number and a number that is not in the send list change
nothing, another one covers the packets up to it. -/
def processAck (lane : LlrLane α) (seq : ℕ) : LlrLane α :=
  if seq < lane.waitSeq ∨ lane.sendList.lookup seq = none then
    lane
  else
    { lane with
      sendList := KeyedMap.filterMap (fun n packet => if seq < n then some packet else none)
        lane.sendList
      waitSeq := toU32 (seq + 1)
      llrResending := false
      resendPkt := false }

/-- `ProcessLlrNack`: the packets before the number are covered. -/
def processNack (lane : LlrLane α) (seq : ℕ) : LlrLane α :=
  if seq < lane.waitSeq ∨ lane.sendList.lookup seq = none then
    lane
  else
    { lane with
      sendList := KeyedMap.filterMap (fun n packet => if seq ≤ n then some packet else none)
        lane.sendList
      waitSeq := seq
      llrResending := true
      resendPkt := true }

/-- `Resend`, when the timer has expired: the attempt to transmit that it triggers finds
no packet of the device to transmit. -/
def resend (lane : LlrLane α) : LlrLane α :=
  { lane with resendPkt := false, llrResending := !lane.sendList.entries.isEmpty }

/-- What `Initialize` leaves of a lane: its numbers stay, and its send list is cleared. -/
def clear (lane : LlrLane α) : LlrLane α :=
  { lane with sendList := ∅ }

end LlrLane

/-- The keys of the lanes of a manager, each for one virtual channel. -/
class LaneKey (κ : Type) where
  vcId : κ → UInt8

/-- A manager, whose lanes exist once `Initialize` has made them. -/
structure LlrManager (κ α : Type) [DecidableEq κ] where
  llrEnabled : Bool := true
  numVcs : UInt8 := 4
  lanes : KeyedMap κ (LlrLane α) := ∅

namespace LlrManager

variable {κ α : Type} [DecidableEq κ]

/-- Replace a lane. -/
def setLane (m : LlrManager κ α) (key : κ) (lane : LlrLane α) : LlrManager κ α :=
  { m with lanes := m.lanes.insert key lane }

/-- Make a lane, if it is not there, and clear its send list. -/
def openLane (m : LlrManager κ α) (key : κ) : LlrManager κ α :=
  m.setLane key ((m.lanes.lookup key).getD {}).clear

/-- `Initialize`, for the lanes of the manager. -/
def openLanes (m : LlrManager κ α) (keys : List κ) : LlrManager κ α :=
  keys.foldl openLane m

/-- Whether the manager is on and has the virtual channel. -/
def serves (m : LlrManager κ α) (vcId : UInt8) : Bool :=
  m.llrEnabled && vcId < m.numVcs

variable [LaneKey κ]

/-- An operation on a lane.  The source reads the lane from its vectors without looking
at their size: where there is no lane, the access is out of range. -/
def onLane (m : LlrManager κ α) (key : κ) (f : LlrLane α → LlrLane α) :
    Option (LlrManager κ α) :=
  if m.serves (LaneKey.vcId key) then
    (m.lanes.lookup key).map fun lane => m.setLane key (f lane)
  else some m

/-- Number a packet on a lane, and keep it. -/
def sendPacket (m : LlrManager κ α) (key : κ) (packet : α) : Option (LlrManager κ α) :=
  m.onLane key fun lane => lane.sendPacket packet

/-- Take note of the number of a packet that arrives on a lane. -/
def receivePacket (m : LlrManager κ α) (key : κ) (seq : ℕ) : Option (LlrManager κ α) :=
  m.onLane key fun lane => lane.receivePacket seq

/-- The control frame that answers a packet. -/
def answer (m : LlrManager κ α) (key : κ) (seq : ℕ) : Option LlrReply :=
  if m.serves (LaneKey.vcId key) then
    (m.lanes.lookup key).map fun lane => lane.reply seq
  else none

/-- Process a control frame that concerns a lane. -/
def process (m : LlrManager κ α) (key : κ) : LlrReply → Option (LlrManager κ α)
  | .ack seq => m.onLane key fun lane => lane.processAck seq
  | .nack seq => m.onLane key fun lane => lane.processNack seq

/-- Whether the retransmission timer of a lane is pending. -/
def timerPending (m : LlrManager κ α) (key : κ) : Bool :=
  (m.lanes.lookup key).any LlrLane.resendPkt

/-- `Resend`: the retransmission timer of a lane expires. -/
def resend (m : LlrManager κ α) (key : κ) : Option (LlrManager κ α) :=
  m.onLane key LlrLane.resend

end LlrManager

/-! ## The manager of a network card -/

instance : LaneKey UInt8 where
  vcId := id

/-- `LlrNodeManager`, with a lane for each virtual channel. -/
abbrev LlrNodeManager (α : Type) := LlrManager UInt8 α

namespace LlrNodeManager

variable {α : Type}

/-- `LlrNodeManager::Initialize`. -/
def initializeLlr (m : LlrNodeManager α) : LlrNodeManager α :=
  m.openLanes (vcIds m.numVcs)

/-- `LlrNodeManager::LlrSendPacket`. -/
def llrSendPacket (m : LlrNodeManager α) (packet : α) (vcId : UInt8) :
    Option (LlrNodeManager α) :=
  m.sendPacket vcId packet

/-- `LlrNodeManager::LlrReceivePacket`, which has no result. -/
def llrReceivePacket (m : LlrNodeManager α) (vcId : UInt8) (seq : ℕ) :
    Option (LlrNodeManager α) :=
  m.receivePacket vcId seq

/-- `LlrNodeManager::ProcessLlrAck` and `ProcessLlrNack`. -/
def processLlr (m : LlrNodeManager α) (vcId : UInt8) (reply : LlrReply) :
    Option (LlrNodeManager α) :=
  m.process vcId reply

end LlrNodeManager

/-! ## The manager of a switch port -/

instance : LaneKey (Mac48Address × UInt8) where
  vcId := Prod.snd

/-- `LlrSwitchPortManager`, with a lane for each address and virtual channel. -/
abbrev LlrSwitchPortManager (α : Type) := LlrManager (Mac48Address × UInt8) α

namespace LlrSwitchPortManager

variable {α : Type}

/-- The addresses for which `LlrSwitchPortManager::Initialize` makes lanes: the peer, and
the other devices of the node. -/
def knownMacs (localMac peerMac : Mac48Address) (devices : List Mac48Address) :
    List Mac48Address :=
  peerMac :: devices.filter fun mac => mac ≠ localMac ∧ mac ≠ peerMac

/-- The lanes that `LlrSwitchPortManager::Initialize` makes. -/
def portLanes (numVcs : UInt8) (localMac peerMac : Mac48Address)
    (devices : List Mac48Address) : List (Mac48Address × UInt8) :=
  (knownMacs localMac peerMac devices).flatMap fun mac =>
    (vcIds numVcs).map fun vcId => (mac, vcId)

/-- `LlrSwitchPortManager::Initialize`. -/
def initializeLlr (m : LlrSwitchPortManager α) (localMac peerMac : Mac48Address)
    (devices : List Mac48Address) : LlrSwitchPortManager α :=
  m.openLanes (portLanes m.numVcs localMac peerMac devices)

/-- `LlrSwitchPortManager::LlrSendPacket`. -/
def llrSendPacket (m : LlrSwitchPortManager α) (packet : α) (vcId : UInt8)
    (mac : Mac48Address) : Option (LlrSwitchPortManager α) :=
  m.sendPacket (mac, vcId) packet

/-- `LlrSwitchPortManager::LlrReceivePacket`, but for its result. -/
def llrReceivePacket (m : LlrSwitchPortManager α) (vcId : UInt8) (seq : ℕ)
    (source : Mac48Address) : Option (LlrSwitchPortManager α) :=
  m.receivePacket (source, vcId) seq

/-- The manager after `LlrSwitchPortManager::LlrReceivePacket`.  What an access that is
out of range does to it is left out. -/
def noted (m : LlrSwitchPortManager α) (vcId : UInt8) (seq : ℕ) (source : Mac48Address) :
    LlrSwitchPortManager α :=
  (m.llrReceivePacket vcId seq source).getD m

/-- The result of `LlrSwitchPortManager::LlrReceivePacket`: whether the packet is the
one that is expected. -/
def accepts (m : LlrSwitchPortManager α) (vcId : UInt8) (seq : ℕ) (source : Mac48Address) :
    Option Bool :=
  if !m.llrEnabled then
    some true
  else if m.numVcs ≤ vcId then
    some false
  else
    (m.lanes.lookup (source, vcId)).map fun lane => seq = lane.waitSeq

/-- `LlrSwitchPortManager::ProcessLlrAck` and `ProcessLlrNack`. -/
def processLlr (m : LlrSwitchPortManager α) (vcId : UInt8) (mac : Mac48Address)
    (reply : LlrReply) : Option (LlrSwitchPortManager α) :=
  m.process (mac, vcId) reply

end LlrSwitchPortManager

/-! ## Lanes after an operation -/

namespace LlrLane

variable {α : Type}

theorem sendSeq_processAck (seq : ℕ) (lane : LlrLane α) :
    (lane.processAck seq).sendSeq = lane.sendSeq := by
  unfold processAck
  split_ifs <;> rfl

theorem sendSeq_processNack (seq : ℕ) (lane : LlrLane α) :
    (lane.processNack seq).sendSeq = lane.sendSeq := by
  unfold processNack
  split_ifs <;> rfl

end LlrLane

namespace LlrManager

variable {κ α : Type} [DecidableEq κ] {m m' : LlrManager κ α} {key key' : κ}
variable {lane : LlrLane α}

theorem lookup_setLane (key key' : κ) (lane : LlrLane α) :
    (m.setLane key lane).lanes.lookup key' =
      if key' = key then some lane else m.lanes.lookup key' := by
  unfold setLane
  dsimp only
  split_ifs with hkey
  · rw [hkey, AList.lookup_insert]
  · rw [AList.lookup_insert_ne hkey]

@[simp] theorem llrEnabled_openLanes (keys : List κ) :
    (m.openLanes keys).llrEnabled = m.llrEnabled := by
  induction keys generalizing m with
  | nil => rfl
  | cons key keys ih => exact ih

@[simp] theorem numVcs_openLanes (keys : List κ) : (m.openLanes keys).numVcs = m.numVcs := by
  induction keys generalizing m with
  | nil => rfl
  | cons key keys ih => exact ih

/-- `Initialize` makes its lanes or clears them, and leaves the others alone. -/
theorem lookup_openLanes (keys : List κ) (key : κ) :
    (m.openLanes keys).lanes.lookup key =
      if key ∈ keys then some ((m.lanes.lookup key).getD {}).clear else m.lanes.lookup key := by
  induction keys generalizing m with
  | nil => rfl
  | cons first keys ih =>
      have hfold : m.openLanes (first :: keys) = (m.openLane first).openLanes keys := rfl
      rw [hfold, ih]
      unfold openLane
      rw [lookup_setLane]
      by_cases hfirst : key = first
      · subst hfirst
        rw [if_pos rfl, if_pos (List.mem_cons_self ..)]
        split_ifs <;> rfl
      · rw [if_neg hfirst]
        refine if_congr ?_ rfl rfl
        exact ⟨List.mem_cons_of_mem first, fun h => (List.mem_cons.mp h).resolve_left hfirst⟩

/-- The number that a lane gives the next packet, 0 if there is no lane yet. -/
def sendSeq (m : LlrManager κ α) (key : κ) : ℕ :=
  ((m.lanes.lookup key).map LlrLane.sendSeq).getD 0

/-- The number that a lane waits for, 0 if there is no lane yet. -/
def waitSeq (m : LlrManager κ α) (key : κ) : ℕ :=
  ((m.lanes.lookup key).map LlrLane.waitSeq).getD 0

theorem sendSeq_of_lookup (hlane : m.lanes.lookup key = some lane) :
    m.sendSeq key = lane.sendSeq := by
  unfold sendSeq
  rw [hlane]
  rfl

theorem waitSeq_of_lookup (hlane : m.lanes.lookup key = some lane) :
    m.waitSeq key = lane.waitSeq := by
  unfold waitSeq
  rw [hlane]
  rfl

/-- `Initialize` leaves the numbers alone. -/
theorem numbers_openLanes (keys : List κ) (key : κ) :
    (m.openLanes keys).sendSeq key = m.sendSeq key ∧
      (m.openLanes keys).waitSeq key = m.waitSeq key := by
  unfold sendSeq waitSeq
  rw [lookup_openLanes]
  split_ifs
  · cases m.lanes.lookup key <;> exact ⟨rfl, rfl⟩
  · exact ⟨rfl, rfl⟩

variable [LaneKey κ]

/-- An operation on a lane, when the manager serves the virtual channel. -/
theorem onLane_eq_some {f : LlrLane α → LlrLane α} 
    (hserves : m.serves (LaneKey.vcId key) = true) :
    m.onLane key f = some m' ↔
      ∃ lane, m.lanes.lookup key = some lane ∧ m' = m.setLane key (f lane) := by
  unfold onLane
  rw [if_pos hserves, Option.map_eq_some_iff]
  exact exists_congr fun lane => and_congr_right fun _ => eq_comm

theorem onLane_of_not_serves {f : LlrLane α → LlrLane α}
    (hserves : ¬m.serves (LaneKey.vcId key) = true) : m.onLane key f = some m := by
  unfold onLane
  rw [if_neg hserves]

/-- What an operation on a lane leaves alone. -/
theorem onLane_cases {f : LlrLane α → LlrLane α} (h : m.onLane key f = some m') :
    m' = m ∨ ∃ lane, m.lanes.lookup key = some lane ∧ m' = m.setLane key (f lane) := by
  by_cases hserves : m.serves (LaneKey.vcId key) = true
  · exact .inr ((onLane_eq_some hserves).mp h)
  · exact .inl (Option.some.inj ((onLane_of_not_serves hserves).symm.trans h)).symm

/-- Where a lane is after an operation. -/
theorem lookup_of_onLane {f : LlrLane α → LlrLane α} (h : m.onLane key f = some m')
    (hlane : m.lanes.lookup key' = some lane) :
    m'.lanes.lookup key' = some lane ∨ (key' = key ∧ m'.lanes.lookup key' = some (f lane)) := by
  rcases onLane_cases h with rfl | ⟨lane', hlane', rfl⟩
  · exact .inl hlane
  · rw [lookup_setLane]
    by_cases hkey : key' = key
    · subst hkey
      cases hlane.symm.trans hlane'
      exact .inr ⟨rfl, if_pos rfl⟩
    · rw [if_neg hkey]
      exact .inl hlane

/-- Where a lane after an operation comes from. -/
theorem exists_lookup_of_onLane {f : LlrLane α → LlrLane α} (h : m.onLane key f = some m')
    (hlane : m'.lanes.lookup key' = some lane) :
    ∃ lane', m.lanes.lookup key' = some lane' ∧ (lane = lane' ∨ lane = f lane') := by
  rcases onLane_cases h with rfl | ⟨lane', hlane', rfl⟩
  · exact ⟨lane, hlane, .inl rfl⟩
  · rw [lookup_setLane] at hlane
    by_cases hkey : key' = key
    · subst hkey
      rw [if_pos rfl] at hlane
      exact ⟨lane', hlane', .inr (Option.some.inj hlane).symm⟩
    · rw [if_neg hkey] at hlane
      exact ⟨lane, hlane, .inl rfl⟩

/-- A number of a lane that an operation leaves alone. -/
theorem number_of_onLane {f : LlrLane α → LlrLane α} (g : LlrLane α → ℕ)
    (h : m.onLane key f = some m') (hg : key' = key → ∀ lane, g (f lane) = g lane) :
    ((m'.lanes.lookup key').map g).getD 0 = ((m.lanes.lookup key').map g).getD 0 := by
  rcases onLane_cases h with rfl | ⟨lane, hlane, rfl⟩
  · rfl
  · rw [lookup_setLane]
    split_ifs with hkey
    · subst hkey
      rw [hlane]
      exact hg rfl lane
    · rfl

theorem sendSeq_of_onLane {f : LlrLane α → LlrLane α} (h : m.onLane key f = some m')
    (hf : ∀ lane, (f lane).sendSeq = lane.sendSeq) : m'.sendSeq key' = m.sendSeq key' :=
  number_of_onLane LlrLane.sendSeq h fun _ => hf

theorem waitSeq_of_onLane {f : LlrLane α → LlrLane α} (h : m.onLane key f = some m')
    (hf : key' = key → ∀ lane, (f lane).waitSeq = lane.waitSeq) :
    m'.waitSeq key' = m.waitSeq key' :=
  number_of_onLane LlrLane.waitSeq h hf

/-- An operation on a lane leaves the settings alone. -/
theorem settings_of_onLane {f : LlrLane α → LlrLane α} (h : m.onLane key f = some m') :
    m'.llrEnabled = m.llrEnabled ∧ m'.numVcs = m.numVcs := by
  rcases onLane_cases h with rfl | ⟨lane, -, rfl⟩
  · exact ⟨rfl, rfl⟩
  · exact ⟨rfl, rfl⟩

end LlrManager

namespace LlrSwitchPortManager

open LlrManager

variable {α : Type} {m : LlrSwitchPortManager α} {vcId vcId' : UInt8} {seq : ℕ}
variable {source source' : Mac48Address}

/-- Either nothing has changed, or one lane. -/
theorem noted_cases (m : LlrSwitchPortManager α) (vcId : UInt8) (seq : ℕ)
    (source : Mac48Address) :
    noted m vcId seq source = m ∨
      m.receivePacket (source, vcId) seq = some (noted m vcId seq source) := by
  unfold noted llrReceivePacket
  cases m.receivePacket (source, vcId) seq with
  | none => exact .inl rfl
  | some m' => exact .inr rfl

theorem settings_noted (m : LlrSwitchPortManager α) (vcId : UInt8) (seq : ℕ)
    (source : Mac48Address) :
    (noted m vcId seq source).llrEnabled = m.llrEnabled ∧
      (noted m vcId seq source).numVcs = m.numVcs := by
  rcases noted_cases m vcId seq source with hsame | hnote
  · rw [hsame]
    exact ⟨rfl, rfl⟩
  · exact settings_of_onLane hnote

theorem sendSeq_noted (m : LlrSwitchPortManager α) (vcId : UInt8) (seq : ℕ)
    (source : Mac48Address) (key : Mac48Address × UInt8) :
    (noted m vcId seq source).sendSeq key = m.sendSeq key := by
  rcases noted_cases m vcId seq source with hsame | hnote
  · rw [hsame]
  · exact sendSeq_of_onLane hnote fun _ => rfl

/-- What arrives on one lane changes what that lane waits for only. -/
theorem waitSeq_noted_of_ne (hne : (source', vcId') ≠ (source, vcId)) :
    (noted m vcId seq source).waitSeq (source', vcId') = m.waitSeq (source', vcId') := by
  rcases noted_cases m vcId seq source with hsame | hnote
  · rw [hsame]
  · exact waitSeq_of_onLane hnote fun hkey => absurd hkey hne

theorem noted_of_not_serves (hserves : ¬m.serves vcId = true) :
    noted m vcId seq source = m := by
  have hsame : m.receivePacket (source, vcId) seq = some m := onLane_of_not_serves hserves
  unfold noted llrReceivePacket
  rw [hsame]
  rfl

/-- What a lane waits for after a packet. -/
theorem waitSeq_noted {lane : LlrLane α} (hserves : m.serves vcId = true)
    (hlane : m.lanes.lookup (source, vcId) = some lane) :
    (noted m vcId seq source).waitSeq (source, vcId) =
      if seq = m.waitSeq (source, vcId) then toU32 (m.waitSeq (source, vcId) + 1)
      else m.waitSeq (source, vcId) := by
  have hnote : m.receivePacket (source, vcId) seq =
      some (m.setLane (source, vcId) (lane.receivePacket seq)) := by
    refine (onLane_eq_some ?_).mpr ⟨lane, hlane, rfl⟩
    exact hserves
  have hself : (m.setLane (source, vcId) (lane.receivePacket seq)).lanes.lookup
      (source, vcId) = some (lane.receivePacket seq) := by
    rw [lookup_setLane, if_pos rfl]
  unfold noted llrReceivePacket
  rw [hnote, Option.getD_some, waitSeq_of_lookup hlane, waitSeq_of_lookup hself]
  rfl

end LlrSwitchPortManager

end UeSim
