import UeSim.Pdc.IpdcSystem

/-!
# Runs of an unreliable delivery context

What an action does to the receive side, to the clock and to the flow control is stated once.  The
invariants of the queue, the condition under which the periodic processing goes on and the state of
the flow control after any reconfigurations follow from it.
-/

namespace UeSim
namespace Ipdc

variable {s s' t u : Ipdc} {a : IpdcAction}

/-- What an action does to the receive side. -/
inductive ReceiveEffect (s s' : Ipdc) : Prop
  | kept (h : s'.receiveSide = s.receiveSide)
  | joined (qp : QueuedPacket)
      (hroom : s.receiveQueue.length < s.ipdcConfig.maxReceiveQueueSize)
      (h : s'.receiveSide =
        { s.receiveSide with
          queue := s.receiveQueue ++ [qp]
          accepted := s.accepted ++ [qp] })
  | displaced (qp old : QueuedPacket) (rest : List QueuedPacket)
      (hqueue : s.receiveQueue = old :: rest)
      (h : s'.receiveSide =
        { s.receiveSide with
          queue := rest ++ [qp]
          accepted := s.accepted ++ [qp]
          overflowed := s.overflowed ++ [old] })
  | cleared
      (h : s'.receiveSide =
        { s.receiveSide with
          queue := []
          cleared := s.cleared ++ s.receiveQueue })
  | cleaned (keep : QueuedPacket → Bool) (hdue : s.cleanupDue = some s.now)
      (hdone : s'.cleanupDue = none)
      (h : s'.receiveSide =
        { s.receiveSide with
          queue := s.receiveQueue.filter keep
          expired := s.expired ++ s.receiveQueue.filter fun qp => !keep qp })

/-- The clock after an action. -/
def clockAfter (s : Ipdc) : IpdcAction → Clock
  | .deactivate => if s.active then { s.clock with processDue := none } else s.clock
  | .processEvent =>
      { s.clock with processDue := if s.active then some (s.now + s.processInterval) else none }
  | .cleanupEvent => { s.clock with cleanupDue := none }
  | .advance elapsed => { s.clock with now := s.now + elapsed }
  | _ => s.clock

/-- The configuration that an action brings into force in a context with this number. -/
def replaces (pdcId : UInt16) : IpdcAction → Option IpdcConfig
  | .updateIpdcConfiguration config => if config.pdcId = pdcId then some config else none
  | _ => none

/-- The flow control after an action. -/
def flowAfter (s : Ipdc) (a : IpdcAction) : FlowSide :=
  match replaces s.ipdcConfig.pdcId a with
  | some config =>
      { s.flowSide with
        sendCredits := min s.sendCredits config.sendWindow
        maxReceiveQueueSize := config.maxReceiveQueueSize }
  | none => s.flowSide

/-- What an action does. -/
structure Effect (s : Ipdc) (a : IpdcAction) (s' : Ipdc) : Prop where
  receive : ReceiveEffect s s'
  clock : s'.clock = s.clockAfter a
  flow : s'.flowSide = s.flowAfter a
  idle : s'.Idle

theorem Alike.effect (h : Alike s s') (hidle : s.Idle) (hclock : s.clockAfter a = s.clock)
    (hflow : s.flowAfter a = s.flowSide) : Effect s a s' :=
  ⟨.kept h.receiveSide, h.clock.trans hclock.symm, h.flowSide.trans hflow.symm, h.idle hidle⟩

theorem effect_handleReceivedPacket (hidle : s.Idle) (packet : Option Packet) :
    Effect s (.handleReceivedPacket packet) (s.handleReceivedPacket packet).1 := by
  rcases handleReceivedPacket_cases s packet with halike | ⟨qp, -, hclock, hflow, hkept, h⟩
  · exact halike.effect hidle rfl rfl
  · refine ⟨?_, hclock, hflow, hkept hidle⟩
    rcases h with ⟨hroom, h⟩ | ⟨old, rest, hqueue, h⟩
    · exact .joined qp hroom h
    · exact .displaced qp old rest hqueue h

theorem effect_updateIpdcConfiguration (hidle : s.Idle) (config : IpdcConfig) :
    Effect s (.updateIpdcConfiguration config) (s.updateIpdcConfiguration config).1 := by
  unfold updateIpdcConfiguration
  split_ifs with hid
  · refine (Alike.refl s).effect hidle rfl ?_
    simp [flowAfter, replaces, hid]
  · rw [not_ne_iff] at hid
    refine ⟨.kept rfl, rfl, ?_, { hidle with }⟩
    simp [flowAfter, replaces, flowSide, hid]

theorem effect_processEvent (hidle : s.Idle)
    (hstep : s.ipdcStep .processEvent = some s') : Effect s .processEvent s' := by
  simp only [ipdcStep] at hstep
  split_ifs at hstep with hdue
  cases hstep
  have hfired : s.processFired.Idle := { hidle with }
  cases hactive : s.active with
  | false =>
      have hskip : s.processFired.doPeriodicProcessing = s.processFired :=
        if_pos (by simp [processFired, hactive])
      rw [hskip]
      refine ⟨.kept rfl, ?_, rfl, hfired⟩
      rw [clockAfter, if_neg (by simp [hactive])]
      rfl
  | true =>
      have hscheduled : s.processFired.scheduleProcessing =
          { s with processDue := some (s.now + s.processInterval) } := if_pos rfl
      rw [hfired.doPeriodicProcessing hactive, hscheduled]
      refine ⟨.kept rfl, ?_, rfl, { hidle with }⟩
      rw [clockAfter, if_pos hactive]
      rfl

/-- Every action on an idle context does what its effect says, and leaves the context idle. -/
theorem effect_of_step (hidle : s.Idle) (hstep : s.ipdcStep a = some s') : Effect s a s' := by
  cases a with
  | activate =>
      cases hstep
      unfold activate
      split_ifs
      · exact ⟨.kept rfl, rfl, rfl, { hidle with }⟩
      · exact (Alike.refl s).effect hidle rfl rfl
  | deactivate =>
      cases hstep
      unfold deactivate
      split_ifs with hactive
      · exact ⟨.kept rfl, (if_pos hactive).symm, rfl, { hidle with }⟩
      · exact ⟨.kept rfl, (if_neg hactive).symm, rfl, hidle⟩
  | updateConfiguration config =>
      cases hstep
      unfold updateConfiguration
      split_ifs
      · exact (Alike.refl s).effect hidle rfl rfl
      · exact ⟨.kept rfl, rfl, rfl, { hidle with }⟩
  | updateIpdcConfiguration config =>
      cases hstep
      exact effect_updateIpdcConfiguration hidle config
  | setFlowControlEnabled enabled =>
      cases hstep
      exact ⟨.kept rfl, rfl, rfl, { hidle with }⟩
  | setPacketLifetime lifetime =>
      cases hstep
      exact ⟨.kept rfl, rfl, rfl, { hidle with }⟩
  | sendPacket lower packet som eom =>
      cases hstep
      exact (alike_sendPacket s packet som eom).effect hidle rfl rfl
  | sendPacketDirect lower packet som eom =>
      cases hstep
      exact (alike_sendPacketDirect s packet som eom).effect hidle rfl rfl
  | handlePacketDelivery packet success =>
      cases hstep
      exact (alike_handlePacketDelivery s packet success).effect hidle rfl rfl
  | handleReceivedPacket packet =>
      cases hstep
      exact effect_handleReceivedPacket hidle packet
  | clearSendQueue =>
      cases hstep
      exact ⟨.kept rfl, rfl, rfl, { hidle with sendQueue := rfl }⟩
  | clearReceiveQueue =>
      cases hstep
      exact ⟨.cleared rfl, rfl, rfl, { hidle with }⟩
  | resetStatistics =>
      cases hstep
      exact ⟨.kept rfl, rfl, rfl, { hidle with packetsReceived := rfl, bytesReceived := rfl }⟩
  | resetIpdcStatistics =>
      cases hstep
      exact ⟨.kept rfl, rfl, rfl, { hidle with }⟩
  | processEvent => exact effect_processEvent hidle hstep
  | cleanupEvent =>
      simp only [ipdcStep] at hstep
      split_ifs at hstep with hdue
      cases hstep
      refine ⟨.cleaned s.stillValid hdue rfl rfl, rfl, rfl, { hidle with sendQueue := ?_ }⟩
      simp [cleanupExpiredPackets, cleanupFired, hidle.sendQueue]
  | advance elapsed =>
      simp only [ipdcStep] at hstep
      split_ifs at hstep
      cases hstep
      exact ⟨.kept rfl, rfl, rfl, { hidle with }⟩

/-- What `Initialize` makes of a new context. -/
theorem fresh_spec (h : Fresh s) :
    s.receiveSide = ⟨[], [], [], [], []⟩ ∧
      s.processDue = some (s.now + s.processInterval) ∧
      s.flowSide = ⟨s.ipdcConfig.sendWindow, false, s.ipdcConfig.pdcId,
        s.ipdcConfig.maxReceiveQueueSize⟩ ∧
      s.Idle := by
  obtain ⟨processInterval, queueCleanupInterval, now, config, hinit⟩ := h
  unfold initializeIpdc at hinit
  dsimp only at hinit
  split_ifs at hinit with hfeps
  · exact absurd (congrArg Prod.snd hinit) Bool.false_ne_true
  · cases hinit
    exact ⟨rfl, rfl, rfl, ⟨rfl, rfl, rfl, rfl, rfl, rfl⟩⟩

theorem idle_run {as : List IpdcAction} (hidle : s.Idle)
    (hrun : ipdcSystem.runActions s as = some s') : s'.Idle := by
  induction as generalizing s with
  | nil =>
      cases hrun
      exact hidle
  | cons a as ih =>
      obtain ⟨t, hstep, hrest⟩ := TransitionSystem.runActions_cons_eq_some.mp hrun
      exact ih (effect_of_step hidle hstep).idle hrest

/-! ## The configurations -/

/-- The configurations that were in force in a run. -/
def configurations (s : Ipdc) (as : List IpdcAction) : List IpdcConfig :=
  s.ipdcConfig :: as.filterMap (replaces s.ipdcConfig.pdcId)

/-- The send credits are the least window of these configurations, the flow control is not active,
and one of the configurations allows for what is queued. -/
structure Settled (configs : List IpdcConfig) (s : Ipdc) : Prop where
  active : s.flowControlActive = false
  least : ∀ config ∈ configs, s.sendCredits ≤ config.sendWindow
  attained : ∃ config ∈ configs, s.sendCredits = config.sendWindow
  limit : ∃ config ∈ configs, s.ipdcConfig.maxReceiveQueueSize = config.maxReceiveQueueSize
  bounded : ∃ config ∈ configs, s.receiveQueue.length ≤ config.maxReceiveQueueSize

/-- The queue does not grow beyond its limit. -/
theorem ReceiveEffect.length_le (he : ReceiveEffect s s') :
    s'.receiveQueue.length ≤ s.receiveQueue.length ∨
      s'.receiveQueue.length ≤ s.ipdcConfig.maxReceiveQueueSize := by
  cases he with
  | kept h => exact .inl (congrArg (List.length ∘ ReceiveSide.queue) h).le
  | joined qp hroom h =>
      have hqueue : s'.receiveQueue = s.receiveQueue ++ [qp] := congrArg ReceiveSide.queue h
      rw [hqueue, List.length_append]
      exact .inr hroom
  | displaced qp old rest hold h =>
      have hqueue : s'.receiveQueue = rest ++ [qp] := congrArg ReceiveSide.queue h
      rw [hqueue, hold, List.length_append]
      exact .inl le_rfl
  | cleared h =>
      have hqueue : s'.receiveQueue = [] := congrArg ReceiveSide.queue h
      rw [hqueue]
      exact .inl (Nat.zero_le _)
  | cleaned keep hdue hdone h =>
      have hqueue : s'.receiveQueue = s.receiveQueue.filter keep := congrArg ReceiveSide.queue h
      rw [hqueue]
      exact .inl (List.length_filter_le _ _)

/-- A fact about one of the configurations is one about the longer list. -/
theorem exists_mem_append_left {p : IpdcConfig → Prop} {configs later : List IpdcConfig}
    (h : ∃ config ∈ configs, p config) : ∃ config ∈ configs ++ later, p config := by
  obtain ⟨config, hmem, hp⟩ := h
  exact ⟨config, List.mem_append_left later hmem, hp⟩

theorem Settled.step {configs : List IpdcConfig} (h : Settled configs s) (hidle : s.Idle)
    (hstep : s.ipdcStep a = some s') :
    Settled (configs ++ (replaces s.ipdcConfig.pdcId a).toList) s' ∧
      s'.ipdcConfig.pdcId = s.ipdcConfig.pdcId := by
  have he := effect_of_step hidle hstep
  have hqueued : ∃ config ∈ configs, s'.receiveQueue.length ≤ config.maxReceiveQueueSize := by
    rcases he.receive.length_le with hle | hle
    · obtain ⟨config, hmem, hbounded⟩ := h.bounded
      exact ⟨config, hmem, hle.trans hbounded⟩
    · obtain ⟨config, hmem, hlimit⟩ := h.limit
      exact ⟨config, hmem, hle.trans_eq hlimit⟩
  have hflow := he.flow
  unfold flowAfter at hflow
  cases hreplaces : replaces s.ipdcConfig.pdcId a with
  | none =>
      rw [hreplaces] at hflow
      have hcredits : s'.sendCredits = s.sendCredits := congrArg FlowSide.sendCredits hflow
      have hmax : s'.ipdcConfig.maxReceiveQueueSize = s.ipdcConfig.maxReceiveQueueSize :=
        congrArg FlowSide.maxReceiveQueueSize hflow
      rw [Option.toList_none, List.append_nil]
      refine ⟨⟨(congrArg FlowSide.flowControlActive hflow).trans h.active, ?_, ?_, ?_, hqueued⟩,
        congrArg FlowSide.pdcId hflow⟩
      · exact hcredits ▸ h.least
      · exact hcredits ▸ h.attained
      · exact hmax ▸ h.limit
  | some config =>
      rw [hreplaces] at hflow
      have hcredits : s'.sendCredits = min s.sendCredits config.sendWindow :=
        congrArg FlowSide.sendCredits hflow
      rw [Option.toList_some]
      refine ⟨⟨(congrArg FlowSide.flowControlActive hflow).trans h.active, ?_, ?_, ?_,
        exists_mem_append_left hqueued⟩, congrArg FlowSide.pdcId hflow⟩
      · rw [List.forall_mem_append, hcredits]
        refine ⟨fun old hold => (min_le_left _ _).trans (h.least old hold), fun new hnew => ?_⟩
        exact List.mem_singleton.mp hnew ▸ min_le_right _ _
      · rcases min_choice s.sendCredits config.sendWindow with hmin | hmin
        · exact exists_mem_append_left ((hcredits.trans hmin) ▸ h.attained)
        · exact ⟨config, by simp, hcredits.trans hmin⟩
      · exact ⟨config, by simp, congrArg FlowSide.maxReceiveQueueSize hflow⟩

theorem Settled.run {configs : List IpdcConfig} {as : List IpdcAction} (h : Settled configs s)
    (hidle : s.Idle) (hrun : ipdcSystem.runActions s as = some s') :
    Settled (configs ++ as.filterMap (replaces s.ipdcConfig.pdcId)) s' := by
  induction as generalizing s configs with
  | nil =>
      cases hrun
      rwa [List.filterMap_nil, List.append_nil]
  | cons a as ih =>
      obtain ⟨t, hstep, hrest⟩ := TransitionSystem.runActions_cons_eq_some.mp hrun
      obtain ⟨hsettled, hid⟩ := h.step hidle hstep
      have hlater := ih hsettled (effect_of_step hidle hstep).idle hrest
      rw [hid, List.append_assoc] at hlater
      rw [List.filterMap_cons]
      cases hreplaces : replaces s.ipdcConfig.pdcId a <;> rwa [hreplaces] at hlater

theorem settled_of_fresh {as : List IpdcAction} (hfresh : Fresh s)
    (hrun : ipdcSystem.runActions s as = some t) : Settled (s.configurations as) t := by
  obtain ⟨hreceive, -, hflow, hidle⟩ := fresh_spec hfresh
  have hqueue : s.receiveQueue = [] := congrArg ReceiveSide.queue hreceive
  have hcredits : s.sendCredits = s.ipdcConfig.sendWindow := congrArg FlowSide.sendCredits hflow
  have hinit : Settled [s.ipdcConfig] s := by
    refine ⟨congrArg FlowSide.flowControlActive hflow, ?_, ?_, ?_, ?_⟩
    · simp [hcredits]
    · simp [hcredits]
    · simp
    · simp [hqueue]
  exact hinit.run hidle hrun

/-! ## The receive side -/

/-- The packets of the receive side, by where they are. -/
def ReceiveSide.everywhere (r : ReceiveSide) : List QueuedPacket :=
  r.overflowed ++ (r.expired ++ (r.cleared ++ r.queue))

/-- Every packet that was accepted is in one place, and what still waits is in the order of the
arrivals. -/
structure ReceiveSide.Accounted (r : ReceiveSide) : Prop where
  fifo : r.queue.Sublist r.accepted
  complete : r.accepted.Perm r.everywhere

/-- The invariants of the receive side, in a run with these configurations. -/
structure ReceiveInvariant (configs : List IpdcConfig) (s : Ipdc) : Prop where
  idle : s.Idle
  accounted : s.receiveSide.Accounted
  bounded : ∃ config ∈ configs, s.receiveQueue.length ≤ config.maxReceiveQueueSize
  unexpired : s.cleanupDue.isSome → s.expired = []

theorem ReceiveSide.Accounted.effect (h : s.receiveSide.Accounted) (he : ReceiveEffect s s') :
    s'.receiveSide.Accounted := by
  have hcount := fun qp => h.complete.count_eq qp
  simp only [ReceiveSide.everywhere, List.count_append] at hcount
  cases he with
  | kept heq => exact heq ▸ h
  | joined qp hroom heq =>
      rw [heq]
      constructor
      · exact h.fifo.append (List.Sublist.refl _)
      · refine List.perm_iff_count.mpr fun b => ?_
        have := hcount b
        simp only [ReceiveSide.everywhere, List.count_append, receiveSide] at this ⊢
        omega
  | displaced qp old rest hqueue heq =>
      have hqueue' : s.receiveSide.queue = [old] ++ rest := hqueue
      rw [heq]
      constructor
      · refine List.Sublist.append (List.Sublist.trans ?_ h.fifo) (List.Sublist.refl _)
        rw [hqueue']
        exact List.sublist_append_right _ _
      · refine List.perm_iff_count.mpr fun b => ?_
        have := hcount b
        rw [hqueue', List.count_append] at this
        simp only [ReceiveSide.everywhere, List.count_append, receiveSide] at this ⊢
        omega
  | cleared heq =>
      rw [heq]
      constructor
      · exact List.nil_sublist _
      · refine List.perm_iff_count.mpr fun b => ?_
        have := hcount b
        simp only [ReceiveSide.everywhere, List.count_append, List.count_nil, receiveSide] at this ⊢
        omega
  | cleaned keep hdue hdone heq =>
      rw [heq]
      constructor
      · exact List.filter_sublist.trans h.fifo
      · refine List.perm_iff_count.mpr fun b => ?_
        have hsplit := (List.filter_append_perm keep s.receiveQueue).count_eq b
        have := hcount b
        simp only [ReceiveSide.everywhere, List.count_append, receiveSide] at this hsplit ⊢
        omega

theorem accounted_run {as : List IpdcAction} (h : s.receiveSide.Accounted) (hidle : s.Idle)
    (hrun : ipdcSystem.runActions s as = some s') : s'.receiveSide.Accounted := by
  induction as generalizing s with
  | nil =>
      cases hrun
      exact h
  | cons a as ih =>
      obtain ⟨t, hstep, hrest⟩ := TransitionSystem.runActions_cons_eq_some.mp hrun
      have he := effect_of_step hidle hstep
      exact ih (h.effect he.receive) he.idle hrest

/-- Packets expire only at the cleanup, and nothing schedules that again. -/
theorem cleanup_step (hidle : s.Idle) (hstep : s.ipdcStep a = some s') :
    (s'.cleanupDue = s.cleanupDue ∧ s'.expired = s.expired) ∨
      s.cleanupDue.isSome ∧ s'.cleanupDue = none := by
  have he := effect_of_step hidle hstep
  have hclock : s'.cleanupDue = (s.clockAfter a).cleanupDue := congrArg Clock.cleanupDue he.clock
  have hcases : (s.clockAfter a).cleanupDue = s.cleanupDue ∨
      s.cleanupDue.isSome ∧ s'.cleanupDue = none := by
    cases a with
    | deactivate =>
        simp only [clockAfter]
        split_ifs <;> exact .inl rfl
    | cleanupEvent =>
        simp only [ipdcStep] at hstep
        split_ifs at hstep with hdue
        exact .inr ⟨by simp [hdue], hclock⟩
    | _ => exact .inl rfl
  cases he.receive with
  | cleaned keep hdue hdone h => exact .inr ⟨by simp [hdue], hdone⟩
  | kept h =>
      exact hcases.imp (fun hsame => ⟨hclock.trans hsame, congrArg ReceiveSide.expired h⟩) id
  | joined qp hroom h =>
      exact hcases.imp (fun hsame => ⟨hclock.trans hsame, congrArg ReceiveSide.expired h⟩) id
  | displaced qp old rest hqueue h =>
      exact hcases.imp (fun hsame => ⟨hclock.trans hsame, congrArg ReceiveSide.expired h⟩) id
  | cleared h =>
      exact hcases.imp (fun hsame => ⟨hclock.trans hsame, congrArg ReceiveSide.expired h⟩) id

theorem unexpired_run {as : List IpdcAction} (h : s.cleanupDue.isSome → s.expired = [])
    (hidle : s.Idle) (hrun : ipdcSystem.runActions s as = some s') :
    s'.cleanupDue.isSome → s'.expired = [] := by
  induction as generalizing s with
  | nil =>
      cases hrun
      exact h
  | cons a as ih =>
      obtain ⟨t, hstep, hrest⟩ := TransitionSystem.runActions_cons_eq_some.mp hrun
      refine ih ?_ (effect_of_step hidle hstep).idle hrest
      rcases cleanup_step hidle hstep with ⟨hdue, hexpired⟩ | ⟨-, hdone⟩
      · rw [hdue, hexpired]
        exact h
      · simp [hdone]

theorem expired_run {as : List IpdcAction} (hdone : s.cleanupDue = none) (hidle : s.Idle)
    (hrun : ipdcSystem.runActions s as = some s') : s'.expired = s.expired := by
  induction as generalizing s with
  | nil =>
      cases hrun
      rfl
  | cons a as ih =>
      obtain ⟨t, hstep, hrest⟩ := TransitionSystem.runActions_cons_eq_some.mp hrun
      rcases cleanup_step hidle hstep with ⟨hdue, hexpired⟩ | ⟨hpending, -⟩
      · rw [ih (hdue.trans hdone) (effect_of_step hidle hstep).idle hrest, hexpired]
      · simp [hdone] at hpending

/-- In every run, nothing that was received is ever processed: each packet that was accepted waits
in the order of the arrivals, or made room for a newer one, was cleared, or was too old at the one
cleanup, after which no packet expires any more. -/
theorem receiveInvariant_of_run {as bs : List IpdcAction} (hfresh : Fresh s)
    (hrun : ipdcSystem.runActions s as = some t) (hlater : ipdcSystem.runActions t bs = some u) :
    ReceiveInvariant (s.configurations as) t ∧
      (t.cleanupDue = none → u.expired = t.expired) := by
  obtain ⟨hreceive, -, -, hidle⟩ := fresh_spec hfresh
  have haccounted : s.receiveSide.Accounted := by
    rw [hreceive]
    exact ⟨List.Sublist.refl _, List.Perm.refl _⟩
  have hexpired : s.expired = [] := congrArg ReceiveSide.expired hreceive
  have hlast := idle_run hidle hrun
  refine ⟨⟨hlast, accounted_run haccounted hidle hrun, (settled_of_fresh hfresh hrun).bounded,
    unexpired_run (fun _ => hexpired) hidle hrun⟩, fun hdone => ?_⟩
  exact expired_run hdone hlast hlater

/-- A queue of two packets and a lifetime of 50 ms. -/
def sampleConfig : IpdcConfig :=
  { localFep := 1, remoteFep := 2, maxReceiveQueueSize := 2, packetLifetime := 50000000 }

/-- A processing every 60 ms and a cleanup after 100 ms. -/
def sampleIpdc : Ipdc := (initializeIpdc { processInterval := 60000000 } sampleConfig).1

theorem fresh_sampleIpdc : Fresh sampleIpdc := ⟨60000000, 100000000, 0, sampleConfig, rfl⟩

/-- Four packets arrive, the last one after a processing; then the queue is cleaned up. -/
def sampleReception : List IpdcAction :=
  [.activate, .handleReceivedPacket (some [1]), .handleReceivedPacket (some [2]),
    .handleReceivedPacket (some [3]), .advance 60000000, .processEvent,
    .handleReceivedPacket (some [4]), .advance 40000000, .cleanupEvent]

/-- Two processings later, and another arrival between them. -/
def sampleLater : List IpdcAction :=
  [.advance 20000000, .processEvent, .handleReceivedPacket (some [5]), .advance 60000000,
    .processEvent]

theorem receiveInvariant_of_run_sample :
    ∃ t u, ipdcSystem.runActions sampleIpdc sampleReception = some t ∧
      ipdcSystem.runActions t sampleLater = some u ∧
      ReceiveInvariant (sampleIpdc.configurations sampleReception) t ∧
      t.overflowed.map QueuedPacket.packet = [[1], [2]] ∧
      t.expired.map QueuedPacket.packet = [[3]] ∧
      t.receiveQueue.map QueuedPacket.packet = [[4]] ∧ u.expired = t.expired ∧
      u.receiveQueue.map QueuedPacket.packet = [[4], [5]] := by
  obtain ⟨t, hrun⟩ : ∃ t, ipdcSystem.runActions sampleIpdc sampleReception = some t := ⟨_, rfl⟩
  obtain ⟨u, hlater⟩ : ∃ u, ipdcSystem.runActions t sampleLater = some u := by
    cases hrun
    exact ⟨_, rfl⟩
  obtain ⟨hinvariant, hexpired⟩ := receiveInvariant_of_run fresh_sampleIpdc hrun hlater
  have hdone : t.cleanupDue = none := by
    cases hrun
    rfl
  refine ⟨t, u, hrun, hlater, hinvariant, ?_, ?_, ?_, hexpired hdone, ?_⟩
  all_goals
    cases hrun
    first
    | rfl
    | (cases hlater
       rfl)

/-! ## The processing -/

/-- An action that lets the processing go on. -/
def KeepsProcessing (s : Ipdc) : IpdcAction → Prop
  | .deactivate => s.active = false
  | .processEvent => s.active = true
  | _ => True

instance (s : Ipdc) (a : IpdcAction) : Decidable (KeepsProcessing s a) := by
  cases a <;> unfold KeepsProcessing <;> infer_instance

theorem processDue_step (hidle : s.Idle) (hstep : s.ipdcStep a = some s') :
    s'.processDue = (s.clockAfter a).processDue :=
  congrArg Clock.processDue (effect_of_step hidle hstep).clock

/-- The processing is pending after an action if it was before, and the action keeps it. -/
theorem pending_step_iff (hpending : s.processDue.isSome) (hidle : s.Idle)
    (hstep : s.ipdcStep a = some s') : s'.processDue.isSome ↔ KeepsProcessing s a := by
  rw [processDue_step hidle hstep]
  cases a with
  | deactivate =>
      cases hactive : s.active <;> simp [clockAfter, KeepsProcessing, hactive, clock, hpending]
  | processEvent =>
      cases hactive : s.active <;> simp [clockAfter, KeepsProcessing, hactive]
  | _ => exact iff_of_true hpending trivial

/-- Nothing but an event that is pending schedules the processing. -/
theorem stopped_step (hstopped : s.processDue = none) (hidle : s.Idle)
    (hstep : s.ipdcStep a = some s') : s'.processDue = none := by
  rw [processDue_step hidle hstep]
  cases a with
  | deactivate => cases hactive : s.active <;> simp [clockAfter, hactive, clock, hstopped]
  | processEvent => simp [ipdcStep, hstopped] at hstep
  | _ => exact hstopped

theorem stopped_run {as : List IpdcAction} (hstopped : s.processDue = none) (hidle : s.Idle)
    (hrun : ipdcSystem.runActions s as = some s') : s'.processDue = none := by
  induction as generalizing s with
  | nil =>
      cases hrun
      exact hstopped
  | cons a as ih =>
      obtain ⟨t, hstep, hrest⟩ := TransitionSystem.runActions_cons_eq_some.mp hrun
      exact ih (stopped_step hstopped hidle hstep) (effect_of_step hidle hstep).idle hrest

/-- The processing goes on exactly as long as each of its events finds the context active and no
`Deactivate` cancels it.  After that it never starts again, whatever happens. -/
theorem processing_iff {as bs : List IpdcAction} (hfresh : Fresh s)
    (hrun : ipdcSystem.runActions s as = some t) (hlater : ipdcSystem.runActions t bs = some u) :
    (t.processDue.isSome ↔ ipdcSystem.GuardedRun KeepsProcessing s as) ∧
      (¬ipdcSystem.GuardedRun KeepsProcessing s as → u.processDue = none) := by
  obtain ⟨-, hdue, -, hidle⟩ := fresh_spec hfresh
  have hpending : s.processDue.isSome := by rw [hdue]; rfl
  have hiff : t.processDue.isSome ↔ ipdcSystem.GuardedRun KeepsProcessing s as := by
    refine TransitionSystem.iff_guardedRun (P := Idle)
      (Q := fun s => s.processDue.isSome) ?_ ?_ ?_ ?_ hidle hpending hrun
    · exact fun _ _ _ hidle hp hkeeps hstep => (pending_step_iff hp hidle hstep).mpr hkeeps
    · exact fun _ _ _ hidle hp hbreaks hstep => mt (pending_step_iff hp hidle hstep).mp hbreaks
    · intro s a t hidle hstopped hstep
      rw [Bool.not_eq_true, Option.isSome_eq_false_iff, Option.isNone_iff_eq_none] at hstopped
      simp [stopped_step hstopped hidle hstep]
    · exact fun _ _ _ hidle hstep => (effect_of_step hidle hstep).idle
  refine ⟨hiff, fun hbroken => ?_⟩
  have hstopped : t.processDue = none := by
    rw [← hiff, Bool.not_eq_true, Option.isSome_eq_false_iff, Option.isNone_iff_eq_none] at hbroken
    exact hbroken
  exact stopped_run hstopped (idle_run hidle hrun) hlater

theorem processing_iff_sample :
    ∃ t u, ipdcSystem.runActions sampleIpdc sampleReception = some t ∧
      ipdcSystem.runActions t sampleLater = some u ∧
      ipdcSystem.GuardedRun KeepsProcessing sampleIpdc sampleReception ∧
      t.processDue.isSome := by
  obtain ⟨t, hrun⟩ : ∃ t, ipdcSystem.runActions sampleIpdc sampleReception = some t := ⟨_, rfl⟩
  obtain ⟨u, hlater⟩ : ∃ u, ipdcSystem.runActions t sampleLater = some u := by
    cases hrun
    exact ⟨_, rfl⟩
  have hkeeps : ipdcSystem.GuardedRun KeepsProcessing sampleIpdc sampleReception := by
    decide
  exact ⟨t, u, hrun, hlater, hkeeps, (processing_iff fresh_sampleIpdc hrun hlater).1.mpr hkeeps⟩

/-! ## The flow control -/

/-- Packets cost no credits and none come back: in every run the credits are the least window so
far, and flow control refuses a packet exactly if it is switched on and one window so far was
empty. -/
theorem checkFlowControl_iff {as : List IpdcAction} (hfresh : Fresh s)
    (hrun : ipdcSystem.runActions s as = some t) :
    (∀ config ∈ s.configurations as, t.sendCredits ≤ config.sendWindow) ∧
      (∃ config ∈ s.configurations as, t.sendCredits = config.sendWindow) ∧
      (t.checkFlowControl = true ↔
        t.ipdcConfig.enableFlowControl = false ∨
          ∀ config ∈ s.configurations as, 0 < config.sendWindow) := by
  have h := settled_of_fresh hfresh hrun
  refine ⟨h.least, h.attained, ?_⟩
  have hpositive : 0 < t.sendCredits ↔ ∀ config ∈ s.configurations as, 0 < config.sendWindow := by
    constructor
    · exact fun hcredits config hmem => hcredits.trans_le (h.least config hmem)
    · intro hwindows
      obtain ⟨config, hmem, hcredits⟩ := h.attained
      exact hcredits ▸ hwindows config hmem
  rw [← hpositive]
  simp [checkFlowControl, h.active]

/-- Three packets are sent under a window of 2, and the window is replaced twice. -/
def sampleSending : List IpdcAction :=
  [.activate, .updateIpdcConfiguration { sendWindow := 2 },
    .sendPacket (fun _ => true) (some [1]) true false,
    .sendPacket (fun _ => true) (some [2]) false false,
    .updateIpdcConfiguration { sendWindow := 300 },
    .sendPacket (fun _ => true) (some [3]) false true]

theorem checkFlowControl_iff_sample :
    ∃ t, ipdcSystem.runActions sampleIpdc sampleSending = some t ∧
      t.transmitted.map WirePacket.packet = [[1], [2], [3]] ∧ t.sendCredits = 2 ∧
      t.checkFlowControl = true := by
  obtain ⟨t, hrun⟩ : ∃ t, ipdcSystem.runActions sampleIpdc sampleSending = some t := ⟨_, rfl⟩
  have hpasses := (checkFlowControl_iff fresh_sampleIpdc hrun).2.2.mpr (.inr (by decide))
  refine ⟨t, hrun, ?_, ?_, hpasses⟩
  · cases hrun
    rfl
  · cases hrun
    rfl

end Ipdc
end UeSim
