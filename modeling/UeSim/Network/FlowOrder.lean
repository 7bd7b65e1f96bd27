import UeSim.Network.PathReservations

/-!
# The order of a flow

With explicit paths, or with one transmitter that all packets share, a packet arrives when its
transmitter has sent it and the latency is over.  So the packets of a flow arrive in the order in
which they were transmitted, but for those that were held back.  Times are natural numbers that do
not wrap, as in the model of the channel.
-/

namespace UeSim

/-- A copy may be delivered before another one: if they are of one flow and none of them was held
back, it was transmitted first. -/
def ChannelCopy.Follows (copy copy' : ChannelCopy) : Prop :=
  copy.wasHeld = false → copy'.wasHeld = false → copy.flowKey = copy'.flowKey →
    copy.transmission ≤ copy'.transmission

/-- Whether every packet waits for its transmitter. -/
def ChannelConfig.Serialized (c : ChannelConfig) : Prop :=
  c.explicitPaths ∨ c.serializeTransmissions

namespace SoftUeChannel

variable {env : ChannelEnvironment} {s s' : SoftUeChannel}

/-! ## When packets arrive -/

namespace Paths

variable {p p' : Paths} {flow : UInt64} {time time' : ℕ}

/-- When the last packet arrives that was sent on the transmitter of a flow. -/
def Arrival (p : Paths) (flow : UInt64) (time : ℕ) : Prop :=
  if p.config.explicitPaths then
    ∃ i, p.Routes flow i ∧
      time = (p.pathState i).nextTxAvailable + p.config.pathDelay + p.config.extraDelay
  else time = p.nextTxAvailable + p.config.delay + p.config.extraDelay

theorem Arrival.unique (h : p.Arrival flow time) (h' : p.Arrival flow time') : time = time' := by
  unfold Arrival at h h'
  split_ifs at h h'
  · obtain ⟨i, hi, rfl⟩ := h
    obtain ⟨j, hj, rfl⟩ := h'
    rw [hi.unique hj]
  · exact h.trans h'.symm

/-- The last packet of a flow arrives no earlier than those before it. -/
theorem Grows.arrival (hgrows : p.Grows p') (h : p.Arrival flow time) :
    ∃ time', p'.Arrival flow time' ∧ time ≤ time' := by
  unfold Arrival at h ⊢
  rw [hgrows.config]
  split_ifs at h ⊢
  · obtain ⟨i, hroutes, rfl⟩ := h
    have hle := hgrows.pathState i
    exact ⟨_, ⟨i, hgrows.routes flow i hroutes, rfl⟩, by omega⟩
  · have hle := hgrows.shared
    exact ⟨_, rfl, by omega⟩

end Paths

theorem now_receiveDelay (env : ChannelEnvironment) (s : SoftUeChannel) (reserved : Option ℕ)
    (copy : ChannelCopy) :
    (s.receiveDelay env reserved copy).1.1.paths.now = s.paths.now :=
  eq_of_traffic (traffic_receiveDelay env s reserved copy) (fun t => t.events.now) fun _ => rfl

/-- A packet arrives when it is the last one on its transmitter. -/
theorem arrival_receiveDelay (env : ChannelEnvironment) (h : s.paths.Recorded)
    (hserialized : s.config.Serialized) (copy : ChannelCopy) (reserved : Option ℕ)
    (hreserved : s.config.explicitPaths → ∀ delay ∈ reserved,
      s.paths.Arrival copy.flowKey (s.paths.now + delay)) :
    let result := s.receiveDelay env reserved copy
    result.1.1.paths.Arrival copy.flowKey (s.paths.now + result.1.2) ∧
      (s.config.explicitPaths → ∀ delay ∈ result.2,
        result.1.1.paths.Arrival copy.flowKey (s.paths.now + delay)) := by
  dsimp only
  by_cases hexplicit : s.config.explicitPaths
  · unfold receiveDelay
    rw [if_pos hexplicit]
    cases reserved with
    | some delay =>
        exact ⟨hreserved hexplicit delay rfl, hreserved⟩
    | none =>
        obtain ⟨-, hgrows, i, hroutes, htime⟩ :=
          reserveExplicitPath_spec env h hexplicit copy
        have hconfig := hgrows.config
        have harrival : (s.reserveExplicitPathAndCalculateDelay env copy).1.paths.Arrival
            copy.flowKey (s.paths.now + (s.reserveExplicitPathAndCalculateDelay env copy).2) := by
          unfold Paths.Arrival
          rw [hconfig, if_pos (by exact hexplicit)]
          exact ⟨i, hroutes, htime⟩
        refine ⟨harrival, fun _ delay hdelay => ?_⟩
        cases hdelay
        exact harrival
  · have hserialize : s.config.serializeTransmissions = true :=
      hserialized.resolve_left hexplicit
    unfold receiveDelay
    rw [if_neg hexplicit]
    refine ⟨?_, fun hcontra => absurd hcontra hexplicit⟩
    have hconfig := (h.calculateScheduleDelay env copy.packet).2.config
    unfold Paths.Arrival
    rw [hconfig, if_neg (by exact hexplicit)]
    unfold calculateScheduleDelay
    simp only [hserialize, Bool.not_true, Bool.false_eq_true, if_false, paths]
    omega

/-! ## The invariant -/

/-- The packets of a flow are delivered, and on their way, in the order of their transmissions,
and the last of them arrives last on its transmitter. -/
structure FlowOrdered (s : SoftUeChannel) : Prop where
  ordered : s.events.Ordered
  delivered : s.delivered.Pairwise ChannelCopy.Follows
  pending : s.events.pending.Pairwise fun e e' =>
    ∀ copy ∈ e.action.copy?, ∀ copy' ∈ e'.action.copy?, copy.Follows copy'
  between : ∀ copy ∈ s.delivered, ∀ e ∈ s.events.pending, ∀ copy' ∈ e.action.copy?,
    copy.Follows copy'
  timely : ∀ e ∈ s.events.pending, ∀ copy ∈ e.action.copy?, copy.wasHeld = false →
    ∃ time, s.paths.Arrival copy.flowKey time ∧ e.time ≤ time
  delivered_lt : ∀ copy ∈ s.delivered, copy.wasHeld = false → copy.transmission < s.transmissions
  pending_lt : ∀ e ∈ s.events.pending, ∀ copy ∈ e.action.copy?, copy.wasHeld = false →
    copy.transmission < s.transmissions
  held : ∀ held ∈ s.held, held.copy.wasHeld = true

theorem FlowOrdered.congr (h : FlowOrdered s) (htraffic : s'.traffic = s.traffic)
    (hgrows : s.paths.Grows s'.paths) : FlowOrdered s' := by
  have hevents := eq_of_traffic htraffic SoftUeChannel.events fun _ => rfl
  have hdelivered := eq_of_traffic htraffic SoftUeChannel.delivered fun _ => rfl
  have hheld := eq_of_traffic htraffic SoftUeChannel.held fun _ => rfl
  have htransmissions := eq_of_traffic htraffic SoftUeChannel.transmissions fun _ => rfl
  constructor <;> simp only [hevents, hdelivered, hheld, htransmissions]
  case ordered => exact h.ordered
  case delivered => exact h.delivered
  case pending => exact h.pending
  case between => exact h.between
  case timely =>
    intro e he copy hcopy hunheld
    obtain ⟨time, harrival, hle⟩ := h.timely e he copy hcopy hunheld
    obtain ⟨time', harrival', hle'⟩ := hgrows.arrival harrival
    exact ⟨time', harrival', hle.trans hle'⟩
  case delivered_lt => exact h.delivered_lt
  case pending_lt => exact h.pending_lt
  case held => exact h.held

/-- An event is scheduled; if it delivers a copy that was not held, this is the last one of its
flow. -/
theorem FlowOrdered.schedule (h : FlowOrdered s) (event : ChannelEvent) (delay : ℕ)
    (hlast : ∀ copy ∈ event.copy?, copy.wasHeld = false →
      s.paths.Arrival copy.flowKey (s.paths.now + delay) ∧
        copy.transmission + 1 = s.transmissions) :
    FlowOrdered { s with events := s.events.schedule delay event } where
  ordered := h.ordered.schedule delay event
  delivered := h.delivered
  pending := by
    refine h.ordered.pairwise_schedule h.pending (fun e he _ copy hcopy copy' hcopy' => ?_)
      fun e he hlt copy hcopy copy' hcopy' => ?_
    · intro hunheld hunheld' _
      have hlt := h.pending_lt e he copy hcopy hunheld
      have heq := (hlast copy' hcopy' hunheld').2
      omega
    · -- No packet of the flow arrives after the last one.
      intro hunheld hunheld' hflow
      obtain ⟨time, harrival, hle⟩ := h.timely e he copy' hcopy' hunheld'
      rw [← hflow] at harrival
      have heq := harrival.unique (hlast copy hcopy hunheld).1
      have hnow : s.paths.now = s.events.now := rfl
      omega
  between copy hmem e he copy' hcopy' := by
    rcases EventQueue.mem_schedule.mp he with rfl | he
    · intro hunheld hunheld' _
      have hlt := h.delivered_lt copy hmem hunheld
      have heq := (hlast copy' hcopy' hunheld').2
      omega
    · exact h.between copy hmem e he copy' hcopy'
  timely e he copy hcopy hunheld := by
    rcases EventQueue.mem_schedule.mp he with rfl | he
    · exact ⟨_, (hlast copy hcopy hunheld).1, le_rfl⟩
    · exact h.timely e he copy hcopy hunheld
  delivered_lt := h.delivered_lt
  pending_lt e he copy hcopy hunheld := by
    rcases EventQueue.mem_schedule.mp he with rfl | he
    · have heq := (hlast copy hcopy hunheld).2
      change copy.transmission < s.transmissions
      omega
    · exact h.pending_lt e he copy hcopy hunheld
  held := h.held

/-- A copy is held back. -/
theorem FlowOrdered.holdCopy (h : FlowOrdered s) (copy : ChannelCopy) (delay : ℕ) :
    FlowOrdered (s.holdCopy copy delay) := by
  have hholding : FlowOrdered { s with
      held := some ⟨{ copy with wasHeld := true }, delay, s.events.now⟩
      holds := s.holds ++ [copy.target] } := by
    refine { h with held := fun held hheld => ?_ }
    cases hheld
    rfl
  rw [holdCopy_cases]
  split_ifs
  · have harmed := hholding.schedule (.releaseHeldPacket delay)
      s.config.reorderHoldDelay fun _ hnone => nomatch hnone
    exact { harmed with }
  · exact hholding

/-- The loop of `Transmit` sends a copy of the last transmission. -/
theorem FlowOrdered.transmitCopy (env : ChannelEnvironment) (h : FlowOrdered s)
    (hrecorded : s.paths.Recorded) (hserialized : s.config.Serialized) (copy : ChannelCopy)
    (hlast : copy.transmission + 1 = s.transmissions) (reserved : Option ℕ)
    (hreserved : s.config.explicitPaths → ∀ delay ∈ reserved,
      s.paths.Arrival copy.flowKey (s.paths.now + delay)) :
    FlowOrdered (s.transmitCopy env reserved copy).1 ∧
      (s.config.explicitPaths → ∀ delay ∈ (s.transmitCopy env reserved copy).2,
        (s.transmitCopy env reserved copy).1.paths.Arrival copy.flowKey (s.paths.now + delay)) := by
  obtain ⟨t, htraffic, hpaths, heq | heq⟩ := transmitCopy_cases env s reserved copy
  · rw [heq]
    have ht := h.congr htraffic (.of_eq hpaths)
    refine ⟨{ ht with }, ?_⟩
    change s.config.explicitPaths → ∀ delay ∈ reserved, t.paths.Arrival _ _
    rw [hpaths]
    exact hreserved
  · have hconfig : t.config = s.config := congrArg Paths.config hpaths
    have htrecorded : t.paths.Recorded := by
      rw [hpaths]
      exact hrecorded
    obtain ⟨harrival, hnext⟩ := arrival_receiveDelay env htrecorded
      (by rw [hconfig]; exact hserialized) copy reserved
      (by rw [hconfig, hpaths]; exact hreserved)
    have hgrows := (htrecorded.receiveDelay env reserved copy).2
    have hnow := now_receiveDelay env t reserved copy
    have hdelayedTraffic :=
      (traffic_receiveDelay env t reserved copy).trans htraffic
    rw [heq, forwardCopy]
    rw [hconfig] at hnext
    rw [hpaths] at harrival hnext hgrows hnow
    set result := t.receiveDelay env reserved copy
    refine ⟨?_, by rw [paths_holdOrSchedule]; exact hnext⟩
    obtain ⟨u, hu, hupaths, hcases⟩ := holdOrSchedule_cases env result.1.1 copy result.1.2
    have hordered : FlowOrdered u :=
      h.congr (hu.trans hdelayedTraffic) (by rw [hupaths]; exact hgrows)
    have htransmissions :=
      eq_of_traffic (hu.trans hdelayedTraffic) SoftUeChannel.transmissions fun _ => rfl
    rcases hcases with ⟨-, hresult⟩ | hresult
    · rw [hresult]
      exact hordered.holdCopy copy _
    · rw [hresult]
      refine hordered.schedule _ _ fun copy' hcopy' _ => ?_
      cases hcopy'
      rw [hupaths, hnow, htransmissions]
      exact ⟨harrival, hlast⟩

theorem now_transmitCopy (reserved : Option ℕ) (copy : ChannelCopy) :
    (s.transmitCopy env reserved copy).1.paths.now = s.paths.now := by
  obtain ⟨t, -, hpaths, heq | heq⟩ := transmitCopy_cases env s reserved copy
  · rw [heq]
    exact congrArg Paths.now hpaths
  · rw [heq, forwardCopy, paths_holdOrSchedule, now_receiveDelay, hpaths]

/-! ## Every operation -/

theorem FlowOrdered.transmit (env : ChannelEnvironment) (h : FlowOrdered s)
    (hrecorded : s.paths.Recorded)
    (hserialized : s.config.Serialized) (packet : Option ChannelPacket)
    (src : Option ChannelDevice) (sourceFep destFep : UInt32) :
    FlowOrdered (s.transmit env packet src sourceFep destFep) := by
  unfold SoftUeChannel.transmit
  split
  · rename_i packet src
    have hrecorded' : (s.started src destFep).paths.Recorded := hrecorded
    obtain ⟨hensured, hgrows⟩ := hrecorded'.ensurePathStateSize
    have htraffic := traffic_ensurePathStateSize (s := s.started src destFep)
    have hstarted : FlowOrdered (s.started src destFep) :=
      { h with
        delivered_lt := fun copy hmem hunheld =>
          Nat.lt_succ_of_lt (h.delivered_lt copy hmem hunheld)
        pending_lt := fun e he copy hcopy hunheld =>
          Nat.lt_succ_of_lt (h.pending_lt e he copy hcopy hunheld) }
    obtain ⟨-, hresult, -⟩ := transmitTo_induction env src
      (fun dest => { transmission := s.transmissions, packet, dest, sourceFep, destFep })
      (P := fun _ t reserved => FlowOrdered t ∧ t.paths.Recorded ∧ t.config = s.config ∧
        t.transmissions = s.transmissions + 1 ∧ (s.config.explicitPaths → ∀ delay ∈ reserved,
          t.paths.Arrival (buildFlowKey packet sourceFep destFep) (t.paths.now + delay)))
      (fun _ _ _ _ _ ht => ht)
      (fun dest _ t reserved _ ⟨hordered, ht, hconfig, htransmissions, hreserved⟩ => by
        have hcalls := (calls_transmitCopy env t reserved
          { transmission := s.transmissions, packet, dest, sourceFep, destFep }).1
        obtain ⟨hordered', hreserved'⟩ := hordered.transmitCopy env ht
          (by rw [hconfig]; exact hserialized)
          { transmission := s.transmissions, packet, dest, sourceFep, destFep }
          htransmissions.symm reserved (by rw [hconfig]; exact hreserved)
        refine ⟨hordered', (ht.transmitCopy env reserved _).1,
          (congrArg Calls.config hcalls).trans hconfig,
          (congrArg Calls.transmissions hcalls).trans htransmissions, ?_⟩
        rw [now_transmitCopy, ← hconfig]
        exact hreserved')
      s.devices (s.started src destFep).ensurePathStateSize none
      ⟨hstarted.congr htraffic hgrows, hensured,
        eq_of_traffic htraffic SoftUeChannel.config fun _ => rfl,
        eq_of_traffic htraffic SoftUeChannel.transmissions fun _ => rfl,
        fun _ _ hnone => nomatch hnone⟩
    exact hresult
  · exact h

theorem FlowOrdered.releaseHeldPacket (h : FlowOrdered s) (hrecorded : s.paths.Recorded)
    (scheduleDelay : ℕ) : FlowOrdered (s.releaseHeldPacket env scheduleDelay) := by
  cases hheld : s.held with
  | none =>
      rw [releaseHeldPacket_of_none env hheld]
      exact h
  | some held =>
      obtain ⟨delayed, hdelayed, htraffic, heq⟩ :=
        releaseHeldPacket_of_held env hheld scheduleDelay
      have hcancelled : FlowOrdered s.cancelTimer :=
        { h with
          ordered := h.ordered.cancel _
          pending := h.pending.sublist List.filter_sublist
          between := fun copy hmem e he =>
            h.between copy hmem e (List.mem_of_mem_filter he)
          timely := fun e he => h.timely e (List.mem_of_mem_filter he)
          pending_lt := fun e he => h.pending_lt e (List.mem_of_mem_filter he) }
      have hrecorded' : s.cancelTimer.paths.Recorded := hrecorded
      have hgrows : s.paths.Grows delayed.1.paths := by
        rw [hdelayed]
        exact (hrecorded'.releaseDelay env held scheduleDelay).2
      have hscheduled := (hcancelled.congr htraffic hgrows).schedule
        (.receivePacket held.copy) delayed.2 fun copy hcopy hunheld => by
          cases hcopy
          rw [h.held held hheld] at hunheld
          cases hunheld
      rw [heq]
      exact { hscheduled with held := fun _ hnone => nomatch hnone }

/-- The next event is taken from the queue. -/
theorem FlowOrdered.next (h : FlowOrdered s) {event : ChannelEvent} {q : EventQueue ChannelEvent}
    (hnext : s.events.next = some (event, q)) : FlowOrdered { s with events := q } := by
  obtain ⟨e, -, hpending, -, -⟩ := EventQueue.next_eq_some hnext
  have hmem : ∀ e' ∈ q.pending, e' ∈ s.events.pending := by
    intro e' he'
    rw [hpending]
    exact List.mem_cons_of_mem _ he'
  have hsorted := h.pending
  rw [hpending, List.pairwise_cons] at hsorted
  exact
    { h with
      ordered := (h.ordered.next hnext).1
      pending := hsorted.2
      between := fun copy hcopy e' he' => h.between copy hcopy e' (hmem e' he')
      timely := fun e' he' => h.timely e' (hmem e' he')
      pending_lt := fun e' he' => h.pending_lt e' (hmem e' he') }

/-- A copy arrives: none that is still on its way may be delivered before it. -/
theorem FlowOrdered.receivePacket (h : FlowOrdered s) {copy : ChannelCopy}
    {q : EventQueue ChannelEvent} (hnext : s.events.next = some (.receivePacket copy, q)) :
    FlowOrdered (({ s with events := q } : SoftUeChannel).receivePacket copy) := by
  have hrest := h.next hnext
  obtain ⟨e, haction, hpending, -, -⟩ := EventQueue.next_eq_some hnext
  have he : e ∈ s.events.pending := by
    rw [hpending]
    exact List.mem_cons_self
  have hcopy : copy ∈ e.action.copy? := by
    rw [haction]
    rfl
  have hfirst := h.pending
  rw [hpending, List.pairwise_cons] at hfirst
  unfold SoftUeChannel.receivePacket
  split_ifs
  · exact
      { hrest with
        delivered := List.pairwise_append.mpr ⟨h.delivered, List.pairwise_singleton _ _,
          fun earlier hmem last hlast => by
            rw [List.mem_singleton.mp hlast]
            exact h.between earlier hmem e he copy hcopy⟩
        between := List.forall_mem_append.mpr ⟨hrest.between, List.forall_mem_singleton.mpr
          fun e' he' copy' hcopy' => hfirst.1 e' he' copy hcopy copy' hcopy'⟩
        delivered_lt := List.forall_mem_append.mpr ⟨h.delivered_lt,
          List.forall_mem_singleton.mpr (h.pending_lt e he copy hcopy)⟩ }
  · exact { hrest with }

/-! ## Runs -/

/-- A channel that has just been made has no packets. -/
theorem FlowOrdered.fresh (h : Fresh s) : FlowOrdered s := by
  rw [h]
  exact
    { ordered := EventQueue.ordered_empty
      delivered := .nil
      pending := .nil
      between := fun _ hmem => absurd hmem List.not_mem_nil
      timely := fun _ hmem => absurd hmem List.not_mem_nil
      delivered_lt := fun _ hmem => absurd hmem List.not_mem_nil
      pending_lt := fun _ hmem => absurd hmem List.not_mem_nil
      held := fun _ hnone => nomatch hnone }

theorem FlowOrdered.step (h : FlowOrdered s) (hrecorded : s.paths.Recorded)
    (hserialized : s.config.Serialized) (a : ChannelAction)
    (hstep : s.channelStep env a = some s') : FlowOrdered s' := by
  cases a with
  | attach device =>
      cases hstep
      unfold attach
      split_ifs
      · exact h
      · exact h
      · exact { h with }
  | transmit packet src sourceFep destFep =>
      cases hstep
      exact h.transmit env hrecorded hserialized packet src sourceFep destFep
  | flushHeldPacket =>
      cases hstep
      exact h.releaseHeldPacket hrecorded 1
  | dropNextRequests count =>
      cases hstep
      exact { h with }
  | dropNextResponses count =>
      cases hstep
      exact { h with }
  | holdNextResponse =>
      cases hstep
      exact { h with }
  | clearDeterministicFaultPlan =>
      cases hstep
      exact { h with }
  | fillFabricRuntimeStats =>
      cases hstep
      exact h.congr traffic_ensurePathStateSize hrecorded.ensurePathStateSize.2
  | runEvent =>
      obtain ⟨⟨event, q⟩, hnext, rfl⟩ := Option.map_eq_some_iff.mp hstep
      cases event with
      | receivePacket copy => exact h.receivePacket hnext
      | releaseHeldPacket scheduleDelay =>
          exact (h.next hnext).releaseHeldPacket
            (hrecorded.later (h.ordered.next hnext).2).1 scheduleDelay
  | advance time =>
      obtain ⟨q, hadvance, rfl⟩ := Option.map_eq_some_iff.mp hstep
      obtain ⟨hordered, rfl, -⟩ := h.ordered.advance hadvance
      exact { h with ordered := hordered }

theorem flowOrdered_of_reachable (h : (channelSystem env).Reachable s)
    (hserialized : s.config.Serialized) : FlowOrdered s := by
  have hall : (Consistent s ∧ s.paths.Recorded) ∧ (s.config.Serialized → FlowOrdered s) := by
    refine h.invariant (P := fun s => (Consistent s ∧ s.paths.Recorded) ∧
      (s.config.Serialized → FlowOrdered s))
      (fun t hfresh => ⟨⟨.fresh hfresh, .fresh hfresh⟩, fun _ => .fresh hfresh⟩)
      fun t a t' ⟨⟨hconsistent, hrecorded⟩, hordered⟩ _ hstep => ?_
    obtain ⟨hrecorded', hgrows⟩ := hrecorded.step hconsistent a hstep
    refine ⟨⟨hconsistent.step a hstep, hrecorded'⟩, fun hserialized => ?_⟩
    have hconfig : t'.config = t.config := hgrows.config
    rw [hconfig] at hserialized
    exact (hordered hserialized).step hrecorded hserialized a hstep
  exact hall.2 hserialized

/-! ## The result -/

/-- The queue depth that a reservation reports is the number of those before it on its path that
are not finished then, as a `uint32_t`. -/
theorem Paths.Recorded.queueDepth_eq {p : Paths} (h : p.Recorded) {i : ℕ}
    {before after : List PathReservation} {r : PathReservation}
    (hsplit : p.reservationsOf i = before ++ r :: after) :
    r.queueDepth = toU32 (before.countP fun earlier => r.slot.time < earlier.slot.finish) := by
  have hmem : r ∈ p.reservationsOf i := by
    rw [hsplit]
    exact List.mem_append_right _ List.mem_cons_self
  have hdepth := (h.records i).depths (before.map PathReservation.slot) r.slot
    (after.map PathReservation.slot) (by rw [hsplit, List.map_append, List.map_cons])
  rw [h.queueDepth r (List.mem_of_mem_filter hmem), hdepth, List.countP_map]
  rfl

/-- Along every run each path serves its reservations one after the other and reports the number
of those that are not finished, a flow stays on its path, and if every packet waits for its
transmitter then the packets of a flow that were not held back are delivered in the order in which
they were transmitted. -/
theorem paths_serve_in_order (h : (channelSystem env).Reachable s) :
    (∀ i, (s.paths.pathState i).finishTimes.Pairwise (· ≤ ·) ∧
      (s.paths.reservationsOf i).Pairwise (fun r r' => r.slot.finish ≤ r'.slot.finish) ∧
      (∀ r ∈ s.paths.reservationsOf i, r.slot.start ≤ r.slot.finish) ∧
      (s.paths.reservationsOf i).Pairwise (fun r r' => r.slot.finish ≤ r'.slot.start) ∧
      ∀ before r after, s.paths.reservationsOf i = before ++ r :: after →
        r.queueDepth = toU32 (before.countP fun earlier => r.slot.time < earlier.slot.finish)) ∧
    (∀ r ∈ s.reservations, ∀ r' ∈ s.reservations, r.flowKey = r'.flowKey → r.path = r'.path) ∧
    (s.config.Serialized → s.delivered.Pairwise ChannelCopy.Follows) := by
  have hrecorded := recorded_of_reachable h
  refine ⟨fun i => ?_, fun r hr r' hr' hflow => ?_, fun hserialized =>
    (flowOrdered_of_reachable h hserialized).delivered⟩
  · have hrecords := hrecorded.records i
    have hfinish := List.pairwise_map.mp hrecords.finish_sorted
    have hordered := List.pairwise_map.mp hrecords.ordered
    refine ⟨hrecords.sorted, hfinish, fun r hr => ?_, hordered,
      fun _ _ _ hsplit => hrecorded.queueDepth_eq hsplit⟩
    exact hrecords.start_le r.slot (List.mem_map_of_mem hr)
  · have hroutes := hrecorded.routed r hr
    rw [hflow] at hroutes
    exact hroutes.unique (hrecorded.routed r' hr')

/-- On two paths, a flow of a long and two short packets in one direction, a packet in the other
one, and a response that is held until the first packets have arrived. -/
def pacedRun : List ChannelAction :=
  [.attach ⟨1, some 1⟩, .attach ⟨2, some 2⟩,
    .transmit (some { size := 1000 }) (some ⟨1, some 1⟩) 1 2,
    .transmit (some { size := 10 }) (some ⟨1, some 1⟩) 1 2, .holdNextResponse,
    .transmit (some sampleResponse) (some ⟨1, some 1⟩) 1 2,
    .transmit (some { size := 500 }) (some ⟨2, some 2⟩) 2 1,
    .transmit (some { size := 10 }) (some ⟨1, some 1⟩) 1 2,
    .runEvent, .runEvent, .flushHeldPacket, .runEvent, .runEvent, .runEvent]

/-- The three packets of the flow wait for each other on one path and are delivered in order. -/
theorem paths_serve_in_order_paced :
    ∃ s, (channelSystem calmEnvironment).runActions
        { config := { pathCount := 2, useEcmpHash := true } } pacedRun = some s ∧
      s.delivered.map ChannelCopy.transmission = [3, 0, 1, 4, 2] ∧
      (s.paths.reservationsOf 0).map PathReservation.queueDepth = [0, 1, 2] ∧
      s.delivered.Pairwise ChannelCopy.Follows := by
  obtain ⟨s, hrun⟩ : ∃ s, (channelSystem calmEnvironment).runActions
      { config := { pathCount := 2, useEcmpHash := true } } pacedRun = some s := ⟨_, rfl⟩
  have hend : ((channelSystem calmEnvironment).runActions
      { config := { pathCount := 2, useEcmpHash := true } } pacedRun).map (fun s =>
        (s.delivered.map ChannelCopy.transmission,
          (s.paths.reservationsOf 0).map PathReservation.queueDepth, s.config.explicitPaths)) =
      some ([3, 0, 1, 4, 2], [0, 1, 2], true) := rfl
  rw [hrun, Option.map_some, Option.some.injEq, Prod.mk.injEq, Prod.mk.injEq] at hend
  exact ⟨s, hrun, hend.1, hend.2.1,
    (paths_serve_in_order (reachable_of_run hrun)).2.2 (.inl hend.2.2)⟩

/-- A response of 100 bytes is held, another one follows and the first one is flushed. -/
def overtakingRun : List ChannelAction :=
  [.attach ⟨1, some 1⟩, .attach ⟨2, some 2⟩, .holdNextResponse,
    .transmit (some sampleResponse) (some ⟨1, some 1⟩) 1 2,
    .transmit (some sampleResponse) (some ⟨1, some 1⟩) 1 2,
    .flushHeldPacket, .runEvent, .runEvent]

/-- A packet of 1000 bytes is transmitted before one of 10 bytes. -/
def shortAfterLongRun : List ChannelAction :=
  [.attach ⟨1, some 1⟩, .attach ⟨2, some 2⟩,
    .transmit (some { size := 1000 }) (some ⟨1, some 1⟩) 1 2,
    .transmit (some { size := 10 }) (some ⟨1, some 1⟩) 1 2, .runEvent, .runEvent]

/-- A packet that is held is overtaken by its flow on explicit paths, and with the default
attributes, where no packet waits for another one, a long packet is overtaken by a short one. -/
theorem flow_overtaken :
    (¬ ∀ env s, (channelSystem env).Reachable s → s.config.explicitPaths →
      s.delivered.Pairwise fun c c' => c.flowKey = c'.flowKey → c.transmission ≤ c'.transmission) ∧
    ¬ ∀ env s, (channelSystem env).Reachable s → s.holds = [] →
      s.delivered.Pairwise fun c c' =>
        c.flowKey = c'.flowKey → c.transmission ≤ c'.transmission := by
  constructor
  · intro hall
    obtain ⟨s, hrun⟩ : ∃ s, (channelSystem calmEnvironment).runActions
        { config := { pathCount := 2, useEcmpHash := true } } overtakingRun = some s := ⟨_, rfl⟩
    have hordered := hall _ s (reachable_of_run hrun)
    cases hrun
    exact absurd (hordered rfl) (by decide)
  · intro hall
    obtain ⟨s, hrun⟩ : ∃ s, (channelSystem calmEnvironment).runActions
        { config := {} } shortAfterLongRun = some s := ⟨_, rfl⟩
    have hordered := hall _ s (reachable_of_run hrun)
    cases hrun
    exact absurd (hordered rfl) (by decide)

end SoftUeChannel
end UeSim
