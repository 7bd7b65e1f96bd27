import UeSim.Sue.LlrWindow

/-!
# Retransmission on several virtual channels

The manager of a network card keeps everything for each virtual channel but one number: the
position at which it resends packets is one for all of them, where the manager of a switch
port has one for each lane.  And the copy that it resends goes through `Send` of the device,
which initializes the manager again, so that the packets of all channels are forgotten before
`LlrResendPacket` returns.

This module runs a manager beside one for each virtual channel that is given only the
operations on that channel.  No channel sees the others in the runs whose recoveries do not
overlap: the channel that resends is the one that set the position last, and no other channel
keeps a packet while a copy is sent.
-/

namespace UeSim

variable {α : Type}

/-! ## The position at which packets are resent -/

/-- `LlrNodeManager` with what `LlrResendPacket` reads and sends. -/
structure LlrResender (α : Type) where
  manager : LlrNodeManager α
  unack : UInt8 → ℕ := fun _ => 0
  /-- `m_llrResendseq`, one number for all virtual channels. -/
  llrResendseq : ℕ := 0
  /-- Whether `m_sendPacket` is set and the address of the peer is not that of a group. -/
  sends : Bool := true
  /-- Whether the link of the device is up, whose `Send` is then what `m_sendPacket` comes to:
  it calls `InitializeLlr` before it queues the copy. -/
  linkUp : Bool := true
  /-- The copies that are sent on each virtual channel, with their numbers. -/
  resent : UInt8 → List (ℕ × α) := fun _ => []

namespace LlrLane

/-- Whether `LlrResendPacket` looks for a packet of the lane. -/
def resends (lane : LlrLane α) : Bool := lane.llrResending && !lane.sendList.entries.isEmpty

/-- The packet of the lane that is to be resent at a position, with its number. -/
def copyAt (lane : LlrLane α) (position : ℕ) : Option (ℕ × α) :=
  if lane.resends then (lane.sendList.lookup position).map (Prod.mk position) else none

/-- A lane after `LlrResendPacket`: it gives up when the position is not in its send list. -/
def resendPacket (lane : LlrLane α) (position : ℕ) : LlrLane α :=
  if lane.resends ∧ lane.sendList.lookup position = none then
    { lane with llrResending := false }
  else lane

end LlrLane

/-- The position that an event of a lane sets: that of a negative acknowledgment that is
accepted, and the first one of the send list when the timer expires. -/
def LaneEvent.resendseq : LaneEvent α → LlrLane α → Option ℕ
  | .process (.nack seq), lane =>
      if seq < lane.waitSeq ∨ lane.sendList.lookup seq = none then none else some seq
  | .resend, lane => if lane.resendPkt then lane.sendList.keys.min? else none
  | _, _ => none

/-- The events of a manager with retransmission. -/
inductive LlrChannelEvent (α : Type)
  | traffic (event : LlrTrafficEvent UInt8 α)
  /-- `LlrResendPacket`. -/
  | llrResendPacket (vcId : UInt8)

namespace LlrChannelEvent

/-- Whether a manager that is given only the operations on a virtual channel takes part in an
event. -/
def concerns (vcId : UInt8) : LlrChannelEvent α → Bool
  | .traffic .initializeLlr => true
  | .traffic (.lane vcId' _) => vcId' = vcId
  | .llrResendPacket vcId' => vcId' = vcId

end LlrChannelEvent

namespace LlrResender

/-- A lane of the manager that is served. -/
def servedLane (s : LlrResender α) (vcId : UInt8) : Option (LlrLane α) :=
  if s.manager.serves vcId then s.manager.lanes.lookup vcId else none

/-- The position after an event of the manager. -/
def resendseqAfter (s : LlrResender α) : LlrTrafficEvent UInt8 α → ℕ
  | .initializeLlr => s.llrResendseq
  | .lane vcId event => ((s.servedLane vcId).bind event.resendseq).getD s.llrResendseq

/-- The packet that `LlrResendPacket` finds. -/
def copyOf (s : LlrResender α) (vcId : UInt8) : Option (ℕ × α) :=
  (s.servedLane vcId).bind fun lane => lane.copyAt s.llrResendseq

/-- Whether `LlrResendPacket` sends a copy on a link that is up. -/
def reenters (s : LlrResender α) (vcId : UInt8) : Bool :=
  (s.copyOf vcId).isSome && s.sends && s.linkUp

/-- `LlrNodeManager::LlrResendPacket`.  The copy is sent before the position moves on. -/
def llrResendPacket (s : LlrResender α) (vcId : UInt8) : Option (LlrResender α) :=
  (s.manager.onLane vcId fun lane => lane.resendPacket s.llrResendseq).map fun m =>
    { s with
      manager := if s.reenters vcId then m.openLanes (vcIds s.manager.numVcs) else m
      llrResendseq := if (s.copyOf vcId).isSome then toU32 (s.llrResendseq + 1) else s.llrResendseq
      resent :=
        if s.sends then
          Function.update s.resent vcId (s.resent vcId ++ (s.copyOf vcId).toList)
        else s.resent }

/-- A manager after an event. -/
def act (s : LlrResender α) : LlrChannelEvent α → Option (LlrResender α)
  | .traffic event => (s.manager.act (vcIds s.manager.numVcs) event).map fun m =>
      { s with
        manager := m
        unack := s.manager.countUnack s.unack event
        llrResendseq := s.resendseqAfter event }
  | .llrResendPacket vcId => s.llrResendPacket vcId

/-- A manager after an event in which it may not take part. -/
def actIf (s : LlrResender α) (concerned : Bool) (event : LlrChannelEvent α) :
    Option (LlrResender α) :=
  if concerned then s.act event else some s

/-- `Initialize` has made the lanes of all virtual channels, or of none. -/
def Opened (m : LlrNodeManager α) : Prop :=
  ∀ vcId lane, m.lanes.lookup vcId = some lane →
    ∀ other ∈ vcIds m.numVcs, ∃ lane', m.lanes.lookup other = some lane'

/-- The runs of a manager, in any state at first. -/
def system : TransitionSystem (LlrResender α) (LlrChannelEvent α) where
  init s := Opened s.manager
  step s event := s.act event

end LlrResender

/-! ## What should hold -/

namespace LlrResender

/-- Two managers agree on a virtual channel: on its lane, on its count and on the copies that
are sent on it. -/
structure Agree (vcId : UInt8) (s s' : LlrResender α) : Prop where
  lane : s.manager.lanes.lookup vcId = s'.manager.lanes.lookup vcId
  unack : s.unack vcId = s'.unack vcId
  resent : s.resent vcId = s'.resent vcId

/-- Two managers have the same settings and the same lanes, whatever these hold. -/
structure Alike (s s' : LlrResender α) : Prop where
  manager : s.manager.Alike s'.manager
  sends : s.sends = s'.sends
  linkUp : s.linkUp = s'.linkUp

end LlrResender

/-- A manager, and one beside it for each virtual channel. -/
structure LlrChannels (α : Type) where
  full : LlrResender α
  alone : UInt8 → LlrResender α

namespace LlrChannels

/-- All managers, before anything has happened. -/
def split (s : LlrResender α) : LlrChannels α := ⟨s, fun _ => s⟩

/-- The runs of a manager beside the others.  One of these takes part in an event only if it
concerns its virtual channel; it can when the manager can. -/
def system : TransitionSystem (LlrChannels α) (LlrChannelEvent α) where
  init s := ∃ m, s = split m
  step s event := (s.full.act event).map fun full =>
    { full := full
      alone := fun vcId =>
        ((s.alone vcId).actIf (event.concerns vcId) event).getD (s.alone vcId) }

/-- No virtual channel sees the others. -/
def Separate (s : LlrChannels α) : Prop :=
  ∀ vcId, LlrResender.Agree vcId s.full (s.alone vcId)

end LlrChannels

/-! ## When it holds -/

/-- The virtual channels beside one keep no packets. -/
def LlrResender.OthersEmpty (s : LlrResender α) (vcId : UInt8) : Prop :=
  ∀ other ∈ vcIds s.manager.numVcs, other ≠ vcId →
    ∀ lane ∈ s.manager.lanes.lookup other, lane.sendList.entries.isEmpty = true

instance (s : LlrResender α) (vcId : UInt8) : Decidable (s.OthersEmpty vcId) :=
  inferInstanceAs (Decidable (∀ other ∈ vcIds s.manager.numVcs, other ≠ vcId →
    ∀ lane ∈ s.manager.lanes.lookup other, lane.sendList.entries.isEmpty = true))

/-- A manager with the virtual channel whose operation set the position last. -/
structure LlrRecoveries (α : Type) where
  resender : LlrResender α
  setBy : Option UInt8 := none

namespace LlrRecoveries

/-- The virtual channel that set the position last, after an event. -/
def setByAfter (s : LlrRecoveries α) : LlrChannelEvent α → Option UInt8
  | .traffic .initializeLlr => s.setBy
  | .traffic (.lane vcId event) =>
      if ((s.resender.servedLane vcId).bind event.resendseq).isSome then some vcId else s.setBy
  | .llrResendPacket vcId => if (s.resender.copyOf vcId).isSome then some vcId else s.setBy

/-- The runs of a manager with that virtual channel. -/
def system : TransitionSystem (LlrRecoveries α) (LlrChannelEvent α) where
  init s := LlrResender.Opened s.resender.manager ∧ s.setBy = none
  step s event := (s.resender.act event).map fun resender =>
    { resender, setBy := s.setByAfter event }

/-- The condition on an event: when a packet of a virtual channel is looked for, no other one has
set the position since; and when a copy is sent on a link that is up, the other ones keep no
packets. -/
def Undisturbed (s : LlrRecoveries α) : LlrChannelEvent α → Prop
  | .traffic _ => True
  | .llrResendPacket vcId =>
      ((s.resender.servedLane vcId).any LlrLane.resends = true →
        ∀ other ∈ s.setBy, other = vcId) ∧
      (s.resender.reenters vcId = true → s.resender.OthersEmpty vcId)

instance (s : LlrRecoveries α) : ∀ event, Decidable (s.Undisturbed event)
  | .traffic _ => .isTrue trivial
  | .llrResendPacket vcId =>
      inferInstanceAs (Decidable
        (((s.resender.servedLane vcId).any LlrLane.resends = true →
            ∀ other ∈ s.setBy, other = vcId) ∧
          (s.resender.reenters vcId = true → s.resender.OthersEmpty vcId)))

end LlrRecoveries

/-! ## One lane -/

namespace LlrLane

variable {lane : LlrLane α} {position position' : ℕ}

/-- The same happens to a lane, and the same copy of it is sent, at the same position, and at any
when no packet is looked for. -/
theorem resend_congr (h : lane.resends = true → position = position') :
    lane.copyAt position = lane.copyAt position' ∧
      lane.resendPacket position = lane.resendPacket position' := by
  by_cases hresends : lane.resends = true
  · cases h hresends
    exact ⟨rfl, rfl⟩
  · have hnone : ∀ n, lane.copyAt n = none := fun n => if_neg hresends
    have hsame : ∀ n, lane.resendPacket n = lane := fun n => if_neg fun hboth => hresends hboth.1
    rw [hnone, hnone, hsame, hsame]
    exact ⟨rfl, rfl⟩

/-- Nothing is left of an empty list. -/
theorem clear_of_isEmpty (h : lane.sendList.entries.isEmpty = true) : lane.clear = lane := by
  have hempty : lane.sendList = ∅ := AList.ext (List.isEmpty_iff.mp h)
  unfold clear
  rw [← hempty]

end LlrLane

/-! ## One manager -/

namespace LlrResender

variable {s s' t t' : LlrResender α} {vcId vcId' : UInt8} {event : LlrChannelEvent α}

/-- What an event that concerns the lanes is made of. -/
theorem act_traffic {event : LlrTrafficEvent UInt8 α} (h : s.act (.traffic event) = some t) :
    ∃ m, s.manager.act (vcIds s.manager.numVcs) event = some m ∧
      t = { s with
        manager := m
        unack := s.manager.countUnack s.unack event
        llrResendseq := s.resendseqAfter event } := by
  obtain ⟨m, hm, rfl⟩ := Option.map_eq_some_iff.mp h
  exact ⟨m, hm, rfl⟩

/-- What `LlrResendPacket` is made of. -/
theorem act_llrResendPacket (h : s.act (.llrResendPacket vcId) = some t) :
    ∃ m, s.manager.onLane vcId (fun lane => lane.resendPacket s.llrResendseq) = some m ∧
      t = { s with
        manager := if s.reenters vcId then m.openLanes (vcIds s.manager.numVcs) else m
        llrResendseq :=
          if (s.copyOf vcId).isSome then toU32 (s.llrResendseq + 1) else s.llrResendseq
        resent :=
          if s.sends then
            Function.update s.resent vcId (s.resent vcId ++ (s.copyOf vcId).toList)
          else s.resent } := by
  obtain ⟨m, hm, rfl⟩ := Option.map_eq_some_iff.mp h
  exact ⟨m, hm, rfl⟩

/-- A copy that is found is one of a lane of the manager, which resends. -/
theorem exists_lane_of_copyOf (h : (s.copyOf vcId).isSome = true) :
    ∃ lane, s.servedLane vcId = some lane ∧ lane.resends = true ∧
      s.manager.lanes.lookup vcId = some lane := by
  obtain ⟨copy, hcopy⟩ := Option.isSome_iff_exists.mp h
  obtain ⟨lane, hserved, hcopyAt⟩ := Option.bind_eq_some_iff.mp hcopy
  refine ⟨lane, hserved, ?_, ?_⟩
  · unfold LlrLane.copyAt at hcopyAt
    split_ifs at hcopyAt with hresends
    exact hresends
  · unfold servedLane at hserved
    split_ifs at hserved
    exact hserved

theorem resends_of_copyOf (h : (s.copyOf vcId).isSome = true) :
    (s.servedLane vcId).any LlrLane.resends = true := by
  obtain ⟨lane, hserved, hresends, -⟩ := exists_lane_of_copyOf h
  rw [hserved]
  exact hresends

theorem exists_lane_of_reenters (h : s.reenters vcId = true) :
    ∃ lane, s.manager.lanes.lookup vcId = some lane := by
  unfold reenters at h
  rw [Bool.and_eq_true, Bool.and_eq_true] at h
  obtain ⟨lane, -, -, hlane⟩ := exists_lane_of_copyOf h.1.1
  exact ⟨lane, hlane⟩

/-- An event leaves the virtual channels alone that it does not concern, when they keep no
packets while a copy is sent. -/
theorem agree_of_not_concerns (h : s.act event = some t) (hnot : event.concerns vcId = false)
    (hbeside : ∀ vcId', event = .llrResendPacket vcId' → s.reenters vcId' = true →
      s.OthersEmpty vcId')
    (hopened : Opened s.manager) : Agree vcId t s := by
  cases event with
  | traffic event =>
      obtain ⟨m, hm, rfl⟩ := act_traffic h
      cases event with
      | initializeLlr => cases hnot
      | lane vcId' event =>
          have hne : vcId ≠ vcId' := fun hsame => of_decide_eq_false hnot hsame.symm
          have hlookup := LlrManager.lookup_onLane (f := event.act) hm vcId
          rw [if_neg fun hboth => hne hboth.1] at hlookup
          refine ⟨hlookup, ?_, rfl⟩
          dsimp only
          rw [LlrWindow.countUnack_lane, if_neg fun hboth => hne hboth.1]
  | llrResendPacket vcId' =>
      obtain ⟨m, hm, rfl⟩ := act_llrResendPacket h
      have hne : vcId ≠ vcId' := fun hsame => of_decide_eq_false hnot hsame.symm
      have hlookup := LlrManager.lookup_onLane hm vcId
      rw [if_neg fun hboth => hne hboth.1] at hlookup
      refine ⟨?_, rfl, ?_⟩
      · dsimp only
        split_ifs with hreenters
        · rw [LlrManager.lookup_openLanes, hlookup]
          split_ifs with hmem
          · obtain ⟨lane', hlane'⟩ := exists_lane_of_reenters hreenters
            obtain ⟨lane, hlane⟩ := hopened vcId' lane' hlane' vcId hmem
            have hempty := hbeside vcId' rfl hreenters vcId hmem hne lane hlane
            rw [hlane, Option.getD_some, LlrLane.clear_of_isEmpty hempty]
          · rfl
        · exact hlookup
      · dsimp only
        split_ifs
        · exact Function.update_of_ne hne _ _
        · rfl

/-- Managers that agree on a virtual channel agree on it after an event of its lane, and
after `Initialize`. -/
theorem Agree.traffic {event : LlrTrafficEvent UInt8 α} (h : Agree vcId s s')
    (halike : s.Alike s') (hact : s.act (.traffic event) = some t)
    (hact' : s'.act (.traffic event) = some t') : Agree vcId t t' := by
  obtain ⟨m, hm, rfl⟩ := act_traffic hact
  obtain ⟨m', hm', rfl⟩ := act_traffic hact'
  cases event with
  | initializeLlr =>
      cases hm
      cases hm'
      refine ⟨?_, h.unack, h.resent⟩
      dsimp only
      rw [LlrManager.lookup_openLanes, LlrManager.lookup_openLanes, h.lane,
        halike.manager.numVcs]
  | lane vcId' event =>
      have hlookup := LlrManager.lookup_onLane (f := event.act) hm vcId
      have hlookup' := LlrManager.lookup_onLane (f := event.act) hm' vcId
      rw [← halike.manager.serves, ← h.lane] at hlookup'
      refine ⟨hlookup.trans hlookup'.symm, ?_, h.resent⟩
      dsimp only
      rw [LlrWindow.countUnack_lane, LlrWindow.countUnack_lane, ← halike.manager.serves, h.unack]

/-- Managers that agree on a virtual channel have the same lane there, if they serve it. -/
theorem Agree.servedLane (h : Agree vcId s s') (halike : s.Alike s') :
    s'.servedLane vcId = s.servedLane vcId := by
  unfold LlrResender.servedLane
  rw [← halike.manager.serves, h.lane]

/-- Managers that agree on a virtual channel find the same copy when a packet of it is looked
for at the same position. -/
theorem Agree.copyOf (h : Agree vcId s s') (halike : s.Alike s')
    (hplace : (s.servedLane vcId).any LlrLane.resends = true →
      s.llrResendseq = s'.llrResendseq) : s'.copyOf vcId = s.copyOf vcId := by
  unfold LlrResender.copyOf
  rw [h.servedLane halike]
  cases hlane : s.servedLane vcId with
  | none => rfl
  | some lane =>
      rw [hlane] at hplace
      exact (LlrLane.resend_congr hplace).1.symm

/-- Such managers agree on it after `LlrResendPacket`. -/
theorem Agree.llrResendPacket (h : Agree vcId s s') (halike : s.Alike s')
    (hplace : (s.servedLane vcId).any LlrLane.resends = true →
      s.llrResendseq = s'.llrResendseq)
    (hact : s.act (.llrResendPacket vcId) = some t)
    (hact' : s'.act (.llrResendPacket vcId) = some t') : Agree vcId t t' := by
  have hcopy := h.copyOf halike hplace
  have hreenters : s'.reenters vcId = s.reenters vcId := by
    unfold reenters
    rw [hcopy, halike.sends, halike.linkUp]
  obtain ⟨m, hm, rfl⟩ := act_llrResendPacket hact
  obtain ⟨m', hm', rfl⟩ := act_llrResendPacket hact'
  have hsame : m.lanes.lookup vcId = m'.lanes.lookup vcId := by
    have hlookup := LlrManager.lookup_onLane hm vcId
    have hlookup' := LlrManager.lookup_onLane hm' vcId
    rw [← halike.manager.serves, ← h.lane] at hlookup'
    rw [hlookup, hlookup']
    split_ifs with hserves
    · have hserved : s.servedLane vcId = s.manager.lanes.lookup vcId := if_pos hserves.2
      rw [hserved] at hplace
      cases hlane : s.manager.lanes.lookup vcId with
      | none => rfl
      | some lane =>
          rw [hlane] at hplace
          exact congrArg some (LlrLane.resend_congr hplace).2
    · rfl
  refine ⟨?_, h.unack, ?_⟩
  · dsimp only
    rw [hreenters, ← halike.manager.numVcs]
    split_ifs
    · rw [LlrManager.lookup_openLanes, LlrManager.lookup_openLanes, hsame]
    · exact hsame
  · dsimp only
    rw [hcopy, ← halike.sends]
    split_ifs
    · rw [Function.update_self, Function.update_self, h.resent]
    · exact h.resent

theorem alike_refl (s : LlrResender α) : s.Alike s :=
  ⟨⟨rfl, rfl, fun _ => Iff.rfl⟩, rfl, rfl⟩

theorem Alike.trans {s'' : LlrResender α} (h : s.Alike s') (h' : s'.Alike s'') : s.Alike s'' :=
  ⟨h.manager.trans h'.manager, h.sends.trans h'.sends, h.linkUp.trans h'.linkUp⟩

theorem Alike.symm (h : s.Alike s') : s'.Alike s :=
  ⟨h.manager.symm, h.sends.symm, h.linkUp.symm⟩

/-- Managers that have the same lanes have them all, or none, together. -/
theorem opened_of_alike {m m' : LlrNodeManager α} (h : m'.Alike m) (hopened : Opened m) :
    Opened m' := by
  intro vcId lane hlane other hother
  obtain ⟨lane', hlane'⟩ := (h.lanes vcId).mp ⟨lane, hlane⟩
  rw [h.numVcs] at hother
  exact (h.lanes other).mpr (hopened vcId lane' hlane' other hother)

/-- `Initialize` makes all lanes. -/
theorem opened_openLanes (m : LlrNodeManager α) : Opened (m.openLanes (vcIds m.numVcs)) := by
  intro vcId lane hlane other hother
  rw [LlrManager.numVcs_openLanes] at hother
  exact ⟨_, (LlrManager.lookup_openLanes ..).trans (if_pos hother)⟩

/-- `Initialize` makes no lanes where there are some. -/
theorem alike_openLanes {m : LlrNodeManager α} (hopened : Opened m) {lane : LlrLane α}
    (hlane : m.lanes.lookup vcId = some lane) : (m.openLanes (vcIds m.numVcs)).Alike m := by
  refine ⟨LlrManager.llrEnabled_openLanes _, LlrManager.numVcs_openLanes _, fun other => ?_⟩
  rw [LlrManager.lookup_openLanes]
  split_ifs with hother
  · exact iff_of_true ⟨_, rfl⟩ (hopened vcId lane hlane other hother)
  · rfl

/-- An event, but for `Initialize`, makes no lanes. -/
theorem alike_act (h : s.act event = some t) (hopened : Opened s.manager)
    (hevent : event ≠ .traffic .initializeLlr) : t.Alike s := by
  cases event with
  | traffic event =>
      obtain ⟨m, hm, rfl⟩ := act_traffic h
      cases event with
      | initializeLlr => exact absurd rfl hevent
      | lane vcId event => exact ⟨LlrManager.alike_of_onLane (f := event.act) hm, rfl, rfl⟩
  | llrResendPacket vcId =>
      obtain ⟨m, hm, rfl⟩ := act_llrResendPacket h
      have halike := LlrManager.alike_of_onLane hm
      refine ⟨?_, rfl, rfl⟩
      dsimp only
      split_ifs with hreenters
      · obtain ⟨lane, hlane⟩ := exists_lane_of_reenters hreenters
        obtain ⟨lane', hlane'⟩ := (halike.lanes vcId).mpr ⟨lane, hlane⟩
        rw [← halike.numVcs]
        exact (alike_openLanes (opened_of_alike halike hopened) hlane').trans halike
      · exact halike

/-- An event keeps managers alike, also when one of them does not take part in it. -/
theorem Alike.actIf {concerned : Bool} (h : s.Alike s') (hopened : Opened s.manager)
    (hact : s.act event = some t) (hact' : s'.actIf concerned event = some t')
    (hinit : event = .traffic .initializeLlr → concerned = true) : t.Alike t' := by
  by_cases hevent : event = .traffic .initializeLlr
  · cases hinit hevent
    subst hevent
    cases hact
    cases hact'
    refine ⟨?_, h.sends, h.linkUp⟩
    dsimp only
    rw [h.manager.numVcs]
    exact h.manager.openLanes _
  · have hleft := alike_act hact hopened hevent
    have hright : t'.Alike s' := by
      cases concerned with
      | true => exact alike_act hact' (opened_of_alike h.manager.symm hopened) hevent
      | false =>
          cases hact'
          exact alike_refl s'
    exact (hleft.trans h).trans hright.symm

/-- All lanes are there, or none, after an event. -/
theorem opened_act (h : s.act event = some t) (hopened : Opened s.manager) :
    Opened t.manager := by
  by_cases hevent : event = .traffic .initializeLlr
  · subst hevent
    cases h
    exact opened_openLanes s.manager
  · exact opened_of_alike (alike_act h hopened hevent).manager hopened

/-- A manager that is like another one takes part in an event when that one can. -/
theorem Alike.exists_actIf (h : s.Alike s') (hact : s.act event = some t)
    (concerned : Bool) : ∃ t', s'.actIf concerned event = some t' := by
  cases concerned with
  | false => exact ⟨s', rfl⟩
  | true =>
      cases event with
      | traffic event =>
          obtain ⟨m, hm, -⟩ := act_traffic hact
          rw [h.manager.numVcs] at hm
          obtain ⟨m', hm'⟩ := h.manager.exists_actIf hm true
          exact ⟨_, Option.map_eq_some_iff.mpr ⟨m', hm', rfl⟩⟩
      | llrResendPacket vcId =>
          obtain ⟨m, hm, -⟩ := act_llrResendPacket hact
          obtain ⟨m', hm'⟩ := LlrManager.exists_onLane_iff.mpr fun hserves =>
            (h.manager.lanes vcId).mp
              (LlrManager.exists_onLane_iff.mp ⟨_, hm⟩ ((h.manager.serves _).trans hserves))
          exact ⟨_, Option.map_eq_some_iff.mpr ⟨m', hm', rfl⟩⟩

end LlrResender

/-! ## Runs -/

namespace LlrChannels

open LlrResender

variable {s t : LlrChannels α} {event : LlrChannelEvent α} {history history' : LlrRecoveries α}

/-- All managers have the same settings and the same lanes: those of all virtual channels, or
none. -/
structure Alike (s : LlrChannels α) : Prop where
  alone : ∀ vcId, s.full.Alike (s.alone vcId)
  opened : Opened s.full.manager

/-- What a step is made of: every manager that takes part in the event can. -/
theorem step_of_alike (h : s.Alike) (hstep : system.step s event = some t) :
    s.full.act event = some t.full ∧
      ∀ vcId, (s.alone vcId).actIf (event.concerns vcId) event = some (t.alone vcId) := by
  obtain ⟨full, hfull, rfl⟩ := Option.map_eq_some_iff.mp hstep
  refine ⟨hfull, fun vcId => ?_⟩
  obtain ⟨t', ht'⟩ := (h.alone vcId).exists_actIf hfull (event.concerns vcId)
  dsimp only
  rw [ht', Option.getD_some]

theorem Alike.step (h : s.Alike) (hstep : system.step s event = some t) : t.Alike := by
  obtain ⟨hfull, halone⟩ := step_of_alike h hstep
  refine ⟨fun vcId => ?_, opened_act hfull h.opened⟩
  refine (h.alone vcId).actIf h.opened hfull (halone vcId) ?_
  rintro rfl
  rfl

/-- The others follow a manager wherever it goes, and each is where the operations on its
virtual channel lead it. -/
theorem exists_run {events : List (LlrChannelEvent α)} {m : LlrResender α} (h : s.Alike)
    (hrun : LlrResender.system.runActions s.full events = some m) :
    ∃ t, system.runActions s events = some t ∧ t.full = m ∧
      ∀ vcId, LlrResender.system.runActions (s.alone vcId)
        (events.filter (LlrChannelEvent.concerns vcId)) = some (t.alone vcId) := by
  induction events generalizing s with
  | nil =>
      cases hrun
      exact ⟨s, rfl, rfl, fun _ => rfl⟩
  | cons event events ih =>
      obtain ⟨full, hfull, hrest⟩ := TransitionSystem.runActions_cons_eq_some.mp hrun
      obtain ⟨u, hstep, hu⟩ : ∃ u, system.step s event = some u ∧ u.full = full :=
        ⟨_, Option.map_eq_some_iff.mpr ⟨full, hfull, rfl⟩, rfl⟩
      subst hu
      obtain ⟨t, ht, hm, halone⟩ := ih (h.step hstep) hrest
      refine ⟨t, TransitionSystem.runActions_cons_eq_some.mpr ⟨u, hstep, ht⟩, hm, ?_⟩
      intro vcId
      have hact := (step_of_alike h hstep).2 vcId
      cases hconcerns : event.concerns vcId with
      | true =>
          rw [hconcerns] at hact
          rw [List.filter_cons_of_pos hconcerns]
          exact TransitionSystem.runActions_cons_eq_some.mpr ⟨_, hact, halone vcId⟩
      | false =>
          rw [hconcerns] at hact
          rw [List.filter_cons_of_neg (Bool.eq_false_iff.mp hconcerns), Option.some.inj hact]
          exact halone vcId

/-- A manager beside the others, and its position: it is where the virtual channel that set it
last would have it alone, and anywhere before one has set it. -/
structure Follows (s : LlrChannels α) (history : LlrRecoveries α) : Prop where
  alike : s.Alike
  resender : history.resender = s.full
  place : ∀ vcId, (∀ other ∈ history.setBy, other = vcId) →
    s.full.llrResendseq = (s.alone vcId).llrResendseq

/-- What a step with the virtual channel that set the position is made of. -/
theorem history_step (h : s.Follows history)
    (hstep : LlrRecoveries.system.step history event = some history') :
    s.full.act event = some history'.resender ∧ history'.setBy = history.setByAfter event := by
  obtain ⟨resender, hresender, rfl⟩ := Option.map_eq_some_iff.mp hstep
  rw [h.resender] at hresender
  exact ⟨hresender, rfl⟩

/-- The position that a virtual channel reads when it looks for a packet is its own. -/
theorem Follows.place_of_undisturbed {vcId : UInt8} (h : s.Follows history)
    (hguard : history.Undisturbed (.llrResendPacket vcId)) :
    (s.full.servedLane vcId).any LlrLane.resends = true →
      s.full.llrResendseq = (s.alone vcId).llrResendseq := by
  intro hresends
  rw [← h.resender] at hresends
  exact h.place vcId (hguard.1 hresends)

/-- An event keeps the virtual channels separate when no recovery is disturbed. -/
theorem Separate.step (hseparate : s.Separate) (h : s.Follows history)
    (hguard : history.Undisturbed event) (hstep : system.step s event = some t) :
    t.Separate := by
  obtain ⟨hfull, halone⟩ := step_of_alike h.alike hstep
  intro vcId
  have hact := halone vcId
  cases hconcerns : event.concerns vcId with
  | false =>
      rw [hconcerns] at hact
      rw [← Option.some.inj hact]
      have hagree : Agree vcId t.full s.full := by
        refine agree_of_not_concerns hfull hconcerns ?_ h.alike.opened
        rintro vcId' rfl hreenters
        rw [← h.resender] at hreenters ⊢
        exact hguard.2 hreenters
      exact ⟨hagree.lane.trans (hseparate vcId).lane, hagree.unack.trans (hseparate vcId).unack,
        hagree.resent.trans (hseparate vcId).resent⟩
  | true =>
      rw [hconcerns] at hact
      cases event with
      | traffic event => exact (hseparate vcId).traffic (h.alike.alone vcId) hfull hact
      | llrResendPacket vcId' =>
          cases of_decide_eq_true hconcerns
          exact (hseparate vcId).llrResendPacket (h.alike.alone vcId)
            (h.place_of_undisturbed hguard) hfull hact

/-- The position after an event is that of the virtual channel that set it last. -/
theorem Follows.place_step (h : s.Follows history) (hseparate : s.Separate)
    (hguard : history.Undisturbed event) (hstep : system.step s event = some t) (vcId : UInt8)
    (hset : ∀ other ∈ history.setByAfter event, other = vcId) :
    t.full.llrResendseq = (t.alone vcId).llrResendseq := by
  obtain ⟨hfull, halone⟩ := step_of_alike h.alike hstep
  have hact := halone vcId
  cases event with
  | traffic event =>
      obtain ⟨m, -, hfull⟩ := act_traffic hfull
      rw [hfull]
      cases event with
      | initializeLlr =>
          have halone : (s.alone vcId).act (.traffic .initializeLlr) = some (t.alone vcId) := hact
          obtain ⟨m', -, hact⟩ := act_traffic halone
          rw [hact]
          exact h.place vcId hset
      | lane vcId' event =>
          have hserved := (hseparate vcId').servedLane (h.alike.alone vcId')
          unfold LlrRecoveries.setByAfter at hset
          dsimp only at hset
          rw [h.resender] at hset
          by_cases hsame : vcId' = vcId
          · subst hsame
            have hconcerns : LlrChannelEvent.concerns vcId'
                (.traffic (.lane vcId' event)) = true := decide_eq_true rfl
            rw [hconcerns] at hact
            obtain ⟨m', -, hact⟩ := act_traffic hact
            rw [hact]
            unfold resendseqAfter
            dsimp only
            rw [hserved]
            cases hmoved : (s.full.servedLane vcId').bind event.resendseq with
            | some position => rfl
            | none =>
                rw [hmoved] at hset
                exact h.place vcId' hset
          · have hconcerns : LlrChannelEvent.concerns vcId
                (.traffic (.lane vcId' event)) = false := decide_eq_false hsame
            rw [hconcerns] at hact
            rw [← Option.some.inj hact]
            unfold resendseqAfter
            dsimp only
            cases hmoved : (s.full.servedLane vcId').bind event.resendseq with
            | some position =>
                rw [hmoved] at hset
                exact absurd (hset vcId' rfl) hsame
            | none =>
                rw [hmoved] at hset
                exact h.place vcId hset
  | llrResendPacket vcId' =>
      obtain ⟨m, -, hfull⟩ := act_llrResendPacket hfull
      rw [hfull]
      have hplace := h.place_of_undisturbed hguard
      have hcopy := (hseparate vcId').copyOf (h.alike.alone vcId') hplace
      unfold LlrRecoveries.setByAfter at hset
      dsimp only at hset ⊢
      rw [h.resender] at hset
      by_cases hsame : vcId' = vcId
      · subst hsame
        have hconcerns : LlrChannelEvent.concerns vcId'
            (.llrResendPacket vcId' : LlrChannelEvent α) = true := decide_eq_true rfl
        rw [hconcerns] at hact
        obtain ⟨m', -, hact⟩ := act_llrResendPacket hact
        rw [hact]
        dsimp only
        rw [hcopy]
        split_ifs with hfound
        · rw [hplace (resends_of_copyOf hfound)]
        · rw [if_neg hfound] at hset
          exact h.place vcId' hset
      · have hconcerns : LlrChannelEvent.concerns vcId
            (.llrResendPacket vcId' : LlrChannelEvent α) = false := decide_eq_false hsame
        rw [hconcerns] at hact
        rw [← Option.some.inj hact]
        split_ifs with hfound
        · rw [if_pos hfound] at hset
          exact absurd (hset vcId' rfl) hsame
        · rw [if_neg hfound] at hset
          exact h.place vcId hset

/-- A manager goes on to be followed as long as no recovery is disturbed. -/
theorem Follows.step (h : s.Follows history) (hseparate : s.Separate)
    (hguard : history.Undisturbed event) (hstep : system.step s event = some t)
    (hhistory : LlrRecoveries.system.step history event = some history') :
    t.Follows history' := by
  obtain ⟨hfull, -⟩ := step_of_alike h.alike hstep
  obtain ⟨hresender, hsetBy⟩ := history_step h hhistory
  refine ⟨h.alike.step hstep, ?_, fun vcId hset => ?_⟩
  · exact Option.some.inj (hresender.symm.trans hfull)
  · rw [hsetBy] at hset
    exact h.place_step hseparate hguard hstep vcId hset

/-- A run of a manager is one with the virtual channel that set the position last. -/
theorem exists_history {events : List (LlrChannelEvent α)} {m : LlrResender α}
    (hrun : LlrResender.system.runActions history.resender events = some m) :
    ∃ history', LlrRecoveries.system.runActions history events = some history' := by
  induction events generalizing history with
  | nil => exact ⟨history, rfl⟩
  | cons event events ih =>
      obtain ⟨resender, hact, hrest⟩ := TransitionSystem.runActions_cons_eq_some.mp hrun
      obtain ⟨history', hhistory⟩ := @ih ⟨resender, history.setByAfter event⟩ hrest
      refine ⟨history', TransitionSystem.runActions_cons_eq_some.mpr ⟨_, ?_, hhistory⟩⟩
      exact Option.map_eq_some_iff.mpr ⟨resender, hact, rfl⟩

/-- The virtual channels are separate throughout a run in which no recovery is disturbed. -/
theorem separate_of_undisturbed {events : List (LlrChannelEvent α)} {m m' : LlrResender α}
    (hinit : LlrResender.system.init m)
    (hrun : LlrResender.system.runActions m events = some m')
    (hguarded : LlrRecoveries.system.GuardedRun LlrRecoveries.Undisturbed { resender := m }
      events) :
    (∃ t, system.runActions (split m) events = some t ∧ t.full = m' ∧
      ∀ vcId, LlrResender.system.runActions m
        (events.filter (LlrChannelEvent.concerns vcId)) = some (t.alone vcId)) ∧
    system.Throughout Separate (split m) events := by
  have halike : (split m).Alike := ⟨fun _ => alike_refl m, hinit⟩
  obtain ⟨history', hhistory⟩ := @exists_history _ { resender := m } _ _ hrun
  have hfollows : (split m).Follows { resender := m } := ⟨halike, rfl, fun _ _ => rfl⟩
  have hseparate : (split m).Separate := fun _ => ⟨rfl, rfl, rfl⟩
  refine ⟨exists_run halike hrun, ?_⟩
  refine .of_guardedRun_beside (R := Follows) ?_ hfollows hseparate hhistory hguarded
  intro s history event t history' hfollows hseparate hguard hstep hhistory
  exact ⟨hfollows.step hseparate hguard hstep hhistory,
    hseparate.step hfollows hguard hstep⟩

/-! ## Two recoveries -/

/-- A card with two virtual channels. -/
def twoChannels : LlrResender ℕ where
  manager := { numVcs := 2 }

/-- An event of a virtual channel. -/
def laneOf (vcId : UInt8) (event : LaneEvent ℕ) : LlrChannelEvent ℕ := .traffic (.lane vcId event)

/-- The timer of the second virtual channel expires, whose first packet has been acknowledged,
and that of the first one before the second one has resent its other packet. -/
def overlapping : List (LlrChannelEvent ℕ) :=
  [.traffic .initializeLlr, laneOf 1 (.send 8), laneOf 1 (.process (.ack 0)), laneOf 1 (.send 9),
    laneOf 0 (.send 7), laneOf 1 .resend, laneOf 0 .resend, .llrResendPacket 1]

/-- The first virtual channel resends its packet while the second one waits for an
acknowledgment. -/
def interrupting : List (LlrChannelEvent ℕ) :=
  [.traffic .initializeLlr, laneOf 0 (.send 7), laneOf 1 (.send 9), laneOf 0 .resend,
    .llrResendPacket 0, laneOf 1 .resend, .llrResendPacket 1]

/-- A run in which the second virtual channel resends packets without the first one, and none
beside it. -/
def ResendsAloneOnly (events : List (LlrChannelEvent ℕ)) (packets : List (ℕ × ℕ)) : Prop :=
  ∃ t, system.runActions (split twoChannels) events = some t ∧
    (t.alone 1).resent 1 = packets ∧ t.full.resent 1 = [] ∧ ¬t.Separate

/-- The position of a recovery that overlaps is lost, and the packets of a channel are forgotten
when another one resends. -/
theorem not_separate_overlapping_interrupting :
    ResendsAloneOnly overlapping [(1, 9)] ∧ ResendsAloneOnly interrupting [(0, 9)] := by
  constructor
  · obtain ⟨t, hrun⟩ : ∃ t, system.runActions (split twoChannels) overlapping = some t :=
      ⟨_, rfl⟩
    have hresent : (t.alone 1).resent 1 = [(1, 9)] ∧ t.full.resent 1 = [] := by
      cases hrun
      decide
    refine ⟨t, hrun, hresent.1, hresent.2, fun hseparate => ?_⟩
    have hsame := (hseparate 1).resent
    rw [hresent.1, hresent.2] at hsame
    cases hsame
  · obtain ⟨t, hrun⟩ : ∃ t, system.runActions (split twoChannels) interrupting = some t :=
      ⟨_, rfl⟩
    have hresent : (t.alone 1).resent 1 = [(0, 9)] ∧ t.full.resent 1 = [] := by
      cases hrun
      decide
    refine ⟨t, hrun, hresent.1, hresent.2, fun hseparate => ?_⟩
    have hsame := (hseparate 1).resent
    rw [hresent.1, hresent.2] at hsame
    cases hsame

/-- The virtual channels recover one after the other. -/
def inTurn : List (LlrChannelEvent ℕ) :=
  [.traffic .initializeLlr, laneOf 0 (.send 7), laneOf 0 .resend, .llrResendPacket 0,
    laneOf 1 (.send 8), laneOf 1 (.send 9), laneOf 1 (.process (.nack 1)), .llrResendPacket 1,
    .llrResendPacket 0]

/-- Each of them has resent its packet in that run, as it would have alone. -/
theorem separate_of_undisturbed_inTurn :
    ∃ m, LlrResender.system.runActions twoChannels inTurn = some m ∧
      m.resent 0 = [(0, 7)] ∧ m.resent 1 = [(1, 9)] ∧
      system.Throughout Separate (split twoChannels) inTurn := by
  obtain ⟨m, hrun⟩ : ∃ m, LlrResender.system.runActions twoChannels inTurn = some m := ⟨_, rfl⟩
  have hresent : m.resent 0 = [(0, 7)] ∧ m.resent 1 = [(1, 9)] := by
    cases hrun
    decide
  have hinit : LlrResender.system.init twoChannels := by
    intro vcId lane hlane
    cases (AList.lookup_empty vcId).symm.trans hlane
  have hguarded : LlrRecoveries.system.GuardedRun LlrRecoveries.Undisturbed
      { resender := twoChannels } inTurn := by
    decide +kernel
  exact ⟨m, hrun, hresent.1, hresent.2, (separate_of_undisturbed hinit hrun hguarded).2⟩

end LlrChannels

end UeSim
