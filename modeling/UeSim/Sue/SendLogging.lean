import UeSim.Sue.LoadBalancer
import UeSim.Sue.SendScheduler

/-!
# Statistics and traffic

The flag that enables the statistics of a client is written by the generators, through the
load balancer, and read by `ScheduleNextSend` when it schedules the next round.  Two runs
with the same events that differ only in the calls that write the flag are compared by
erasing the flag: everything except a round does the same to what is left.
-/

namespace UeSim

namespace SueClient

/-- `CancelAllLogEvents`, which also disables the statistics of devices. -/
def cancelAllLogEvents (c : SueClient) : SueClient := c.setLoggingEnabled false

/-- A client without its logging flag. -/
def quiet (c : SueClient) : SueClient := c.setLoggingEnabled false

variable {c c' : SueClient} {now : ℕ} {devices : List DeviceCapacityInfo}

/-- The flag is all that is erased. -/
theorem eq_of_quiet_eq (hquiet : c.quiet = c'.quiet)
    (hflag : c.loggingEnabled = c'.loggingEnabled) : c = c' := by
  have hback (d : SueClient) : d = d.quiet.setLoggingEnabled d.loggingEnabled := rfl
  rw [hback c, hback c', hquiet, hflag]

theorem schedulerEvent_of_quiet_eq (hquiet : c.quiet = c'.quiet) :
    c.schedulerEvent = c'.schedulerEvent := by
  have herased (d : SueClient) : d.schedulerEvent = d.quiet.schedulerEvent := rfl
  rw [herased c, herased c', hquiet]

theorem popFront_quiet (c : SueClient) (key : Destination) :
    c.quiet.popFront key = (c.popFront key).map quiet := by
  unfold popFront
  rw [Option.map_map]
  rfl

/-- What a round schedules depends on the flag. -/
theorem schedulerEvent_of_scheduleNextSend (h : c.scheduleNextSend now devices = some c') :
    c'.schedulerEvent = if c.loggingEnabled then some (now + c.schedulingInterval) else none := by
  rcases scheduleNextSend_eq_some h with rfl | ⟨dest, info, maxPackets, rfl⟩
  · rfl
  · rfl

end SueClient

/-- The calls that write the logging flags of clients. -/
inductive LoggingCall
  | setLoggingEnabled (sueId : UInt32) (enabled : Bool)
  | cancelAllLogEvents (sueId : UInt32)
  | stopAllLogging
  | disableSueLoggingOnly
  deriving DecidableEq, Repr

/-- What a call does to the client with some identifier. -/
def LoggingCall.apply (call : LoggingCall) (sueId : UInt32) (c : SueClient) : SueClient :=
  match call with
  | .setLoggingEnabled sueId' enabled =>
      if sueId = sueId' then c.setLoggingEnabled enabled else c
  | .cancelAllLogEvents sueId' => if sueId = sueId' then c.cancelAllLogEvents else c
  | .stopAllLogging => (c.setLoggingEnabled false).cancelAllLogEvents
  | .disableSueLoggingOnly => c.setLoggingEnabled false

theorem LoggingCall.quiet_apply (call : LoggingCall) (sueId : UInt32) (c : SueClient) :
    (call.apply sueId c).quiet = c.quiet := by
  unfold LoggingCall.apply
  cases call with
  | setLoggingEnabled sueId' enabled =>
      dsimp only
      split_ifs <;> rfl
  | cancelAllLogEvents sueId' =>
      dsimp only
      split_ifs <;> rfl
  | stopAllLogging => rfl
  | disableSueLoggingOnly => rfl

/-- What happens to the clients of a load balancer, other than calls that write flags. -/
inductive SendEvent
  | distributeTransaction (now : ℕ) (b : BufferedTransaction)
  | startApplication (now : ℕ) (sueId : UInt32) (devices : List DeviceCapacityInfo)
  | scheduleNextSend (now : ℕ) (sueId : UInt32) (devices : List DeviceCapacityInfo)
  | doSendBurst (now : ℕ) (sueId : UInt32) (i : ℕ) (outcome : SendOutcome)
  | stopApplication (sueId : UInt32)

namespace LoadBalancer

/-- Put a client back. -/
def setClient (lb : LoadBalancer) (sueId : UInt32) (c : SueClient) : LoadBalancer :=
  { lb with sueClients := lb.sueClients.insert sueId c }

/-- `ScheduleNextSend` of a client, if what is scheduled for the client is as given. -/
def scheduleNextSend (lb : LoadBalancer) (scheduled : Option ℕ) (now : ℕ) (sueId : UInt32)
    (devices : List DeviceCapacityInfo) : Option LoadBalancer :=
  match lb.sueClients.lookup sueId with
  | none => some lb
  | some c =>
      if c.schedulerEvent = scheduled then
        (c.scheduleNextSend now devices).map (lb.setClient sueId)
      else some lb

/-- `DoSendBurst` of the `i`-th packet that is scheduled for a client. -/
def doSendBurst (lb : LoadBalancer) (now : ℕ) (sueId : UInt32) (i : ℕ) (outcome : SendOutcome) :
    LoadBalancer :=
  match lb.sueClients.lookup sueId with
  | none => lb
  | some c =>
      match c.bursts[i]? with
      | none => lb
      | some b =>
          if b.sendTime = now then
            popTransactionsFromQueue now sueId b.dest (c.popCount b outcome)
              (lb.setClient sueId (c.sendTo now i b outcome))
          else lb

/-- `StopApplication` of a client. -/
def stopApplication (lb : LoadBalancer) (sueId : UInt32) : LoadBalancer :=
  match lb.sueClients.lookup sueId with
  | none => lb
  | some c => lb.setClient sueId c.stopApplication

/-- A load balancer after an event, if the event returns.  A client starts when nothing is
scheduled for it. -/
def send (lb : LoadBalancer) : SendEvent → Option LoadBalancer
  | .distributeTransaction now b => some (lb.distributeTransaction now b)
  | .startApplication now sueId devices => lb.scheduleNextSend none now sueId devices
  | .scheduleNextSend now sueId devices => lb.scheduleNextSend (some now) now sueId devices
  | .doSendBurst now sueId i outcome => some (lb.doSendBurst now sueId i outcome)
  | .stopApplication sueId => some (lb.stopApplication sueId)

/-- A load balancer after a call that writes flags. -/
def log (lb : LoadBalancer) (call : LoggingCall) : LoadBalancer :=
  { lb with sueClients := KeyedMap.mapValues call.apply lb.sueClients }

/-! ## Erasing the flags -/

/-- A load balancer without the logging flags of its clients. -/
def quiet (lb : LoadBalancer) : LoadBalancer :=
  { lb with sueClients := KeyedMap.mapValues (fun _ c => c.quiet) lb.sueClients }

variable {lb : LoadBalancer}

theorem quiet_log (lb : LoadBalancer) (call : LoggingCall) : (lb.log call).quiet = lb.quiet := by
  unfold quiet log
  dsimp only
  rw [KeyedMap.mapValues_mapValues]
  simp only [LoggingCall.quiet_apply]

theorem lookup_quiet (lb : LoadBalancer) (sueId : UInt32) :
    lb.quiet.sueClients.lookup sueId = (lb.sueClients.lookup sueId).map SueClient.quiet :=
  KeyedMap.lookup_mapValues _ lb.sueClients sueId

theorem setClient_quiet (lb : LoadBalancer) (sueId : UInt32) (c : SueClient) :
    lb.quiet.setClient sueId c.quiet = (lb.setClient sueId c).quiet := by
  unfold setClient quiet
  dsimp only
  rw [← KeyedMap.insert_mapValues]

theorem calculateHash_quiet (lb : LoadBalancer) (destXpuId : UInt32) (vcId : UInt8) :
    lb.quiet.calculateHash destXpuId vcId = lb.calculateHash destXpuId vcId := by
  have hcount : lb.quiet.clientCount = lb.clientCount := KeyedMap.length_mapValues _ _
  unfold calculateHash modClients
  rw [hcount]
  rfl

theorem checkSueDestQueueSpace_quiet (lb : LoadBalancer) (sueId destXpuId : UInt32)
    (vcId : UInt8) (packetSize : ℕ) :
    lb.quiet.checkSueDestQueueSpace sueId destXpuId vcId packetSize =
      lb.checkSueDestQueueSpace sueId destXpuId vcId packetSize := by
  unfold checkSueDestQueueSpace getSueDestQueueAvailableSpace
  rw [lookup_quiet]
  cases lb.sueClients.lookup sueId <;> rfl

theorem select_quiet (lb : LoadBalancer) (b : BufferedTransaction) :
    lb.quiet.select b = lb.select b := by
  have hids : lb.quiet.sueIds = lb.sueIds :=
    congrArg (List.insertionSort (· ≤ ·)) (KeyedMap.keys_mapValues _ lb.sueClients)
  unfold select selectSueWithDestQueueSpace tryNextAvailableSueWithSpace
  simp only [calculateHash_quiet, checkSueDestQueueSpace_quiet, hids]
  rfl

theorem deliver_quiet (lb : LoadBalancer) (now : ℕ) (sueId : UInt32) (b : BufferedTransaction) :
    lb.quiet.deliver now sueId b = (lb.deliver now sueId b).quiet := by
  unfold deliver
  rw [lookup_quiet]
  cases lb.sueClients.lookup sueId with
  | none => rfl
  | some c =>
      have hset := lb.setClient_quiet sueId (c.addTransaction now b.packet b.destXpuId)
      exact congrArg (fun l : LoadBalancer =>
        { l with
          deliveries :=
            lb.deliveries ++ [(⟨sueId, b, c.accepts b.packet b.destXpuId⟩ : Delivery)] }) hset

theorem advanceRoundRobin_quiet (lb : LoadBalancer) :
    lb.quiet.advanceRoundRobin = lb.advanceRoundRobin.quiet := by
  have hcount : lb.quiet.clientCount = lb.clientCount := KeyedMap.length_mapValues _ _
  unfold advanceRoundRobin modClients
  rw [hcount]
  rfl

theorem notifyTrafficGenerator_quiet (lb : LoadBalancer) (paused : Bool) :
    lb.quiet.notifyTrafficGenerator paused = (lb.notifyTrafficGenerator paused).quiet := by
  unfold notifyTrafficGenerator
  rw [apply_ite quiet]
  rfl

theorem buffer_quiet (lb : LoadBalancer) (b : BufferedTransaction) :
    lb.quiet.buffer b = (lb.buffer b).quiet := by
  unfold buffer
  dsimp only
  rw [apply_ite quiet, ← notifyTrafficGenerator_quiet]
  rfl

theorem distributeTransaction_quiet (lb : LoadBalancer) (now : ℕ) (b : BufferedTransaction) :
    lb.quiet.distributeTransaction now b = (lb.distributeTransaction now b).quiet := by
  let recorded := { lb with distributed := lb.distributed ++ [b] }
  have hrecorded : { lb.quiet with distributed := lb.distributed ++ [b] }.advanceRoundRobin =
      recorded.advanceRoundRobin.quiet := recorded.advanceRoundRobin_quiet
  have hlocal : lb.quiet.localXpuId = lb.localXpuId := rfl
  unfold distributeTransaction
  dsimp only
  rw [select_quiet, hlocal]
  split_ifs
  · rfl
  · exact (congrArg (fun l => deliver l now (lb.select b) b) hrecorded).trans (deliver_quiet ..)
  · exact (congrArg (fun l => buffer l b) hrecorded).trans (buffer_quiet ..)

theorem processLoop_quiet (now : ℕ) (l : List BufferedTransaction) (lb : LoadBalancer) :
    processLoop now l lb.quiet = (processLoop now l lb).quiet := by
  induction l generalizing lb with
  | nil => rfl
  | cons b rest ih =>
      unfold processLoop
      rw [select_quiet, advanceRoundRobin_quiet, deliver_quiet, ih, apply_ite quiet]
      rfl

theorem notifyDestQueueSpaceAvailable_quiet (lb : LoadBalancer) (now : ℕ) :
    lb.quiet.notifyDestQueueSpaceAvailable now = (lb.notifyDestQueueSpaceAvailable now).quiet := by
  have hloop : processLoop now lb.quiet.bufferQueue lb.quiet =
      (processLoop now lb.bufferQueue lb).quiet := processLoop_quiet now lb.bufferQueue lb
  unfold notifyDestQueueSpaceAvailable processBufferedTransactions
  dsimp only
  rw [hloop, notifyTrafficGenerator_quiet, apply_ite quiet, apply_ite quiet]
  rfl

theorem popFront_quiet (lb : LoadBalancer) (sueId : UInt32) (key : Destination) :
    lb.quiet.popFront sueId key = (lb.popFront sueId key).map quiet := by
  unfold popFront
  rw [lookup_quiet]
  cases lb.sueClients.lookup sueId with
  | none => rfl
  | some c =>
      have hpop := c.popFront_quiet key
      cases hc : c.popFront key with
      | none =>
          rw [hc] at hpop
          dsimp only [Option.map_some, Option.bind_some] at hpop ⊢
          rw [hpop, hc]
          rfl
      | some c' =>
          rw [hc] at hpop
          dsimp only [Option.map_some, Option.bind_some] at hpop ⊢
          rw [hpop, hc]
          exact congrArg some (lb.setClient_quiet sueId c')

/-- Taking transactions out of a queue, by induction on their number. -/
theorem popTransactionsFromQueue_quiet (now : ℕ) (sueId : UInt32) (key : Destination)
    (count : ℕ) (lb : LoadBalancer) :
    popTransactionsFromQueue now sueId key count lb.quiet =
      (popTransactionsFromQueue now sueId key count lb).quiet := by
  induction count generalizing lb with
  | zero => rfl
  | succ count ih =>
      unfold popTransactionsFromQueue
      rw [popFront_quiet]
      cases lb.popFront sueId key with
      | none => rfl
      | some popped =>
          dsimp only [Option.map_some]
          rw [notifyDestQueueSpaceAvailable_quiet, ih]

theorem doSendBurst_quiet (lb : LoadBalancer) (now : ℕ) (sueId : UInt32) (i : ℕ)
    (outcome : SendOutcome) :
    lb.quiet.doSendBurst now sueId i outcome = (lb.doSendBurst now sueId i outcome).quiet := by
  unfold doSendBurst
  rw [lookup_quiet]
  cases lb.sueClients.lookup sueId with
  | none => rfl
  | some c =>
      have hbursts : c.quiet.bursts = c.bursts := rfl
      dsimp only [Option.map_some]
      rw [hbursts]
      cases c.bursts[i]? with
      | none => rfl
      | some b =>
          dsimp only
          rw [apply_ite quiet, ← popTransactionsFromQueue_quiet, ← setClient_quiet]
          rfl

theorem stopApplication_quiet (lb : LoadBalancer) (sueId : UInt32) :
    lb.quiet.stopApplication sueId = (lb.stopApplication sueId).quiet := by
  unfold stopApplication
  rw [lookup_quiet]
  cases lb.sueClients.lookup sueId with
  | none => rfl
  | some c => exact lb.setClient_quiet sueId c.stopApplication

end LoadBalancer

/-! ## Two runs -/

/-- Two runs of a load balancer and its clients. -/
structure Twins where
  left : LoadBalancer
  right : LoadBalancer

/-- An event of both runs, or a call that writes flags in one of them. -/
inductive TwinEvent
  | both (event : SendEvent)
  | left (call : LoggingCall)
  | right (call : LoggingCall)

namespace Twins

/-- Two runs with the same events, which differ only in calls that write flags. -/
def system : TransitionSystem Twins TwinEvent where
  init t := t.left = t.right
  step t
    | .both event =>
        (t.left.send event).bind fun left => (t.right.send event).map fun right => ⟨left, right⟩
    | .left call => some { t with left := t.left.log call }
    | .right call => some { t with right := t.right.log call }

/-- The packets that a client has sent, with their times, and what is scheduled for it. -/
def traffic (lb : LoadBalancer) (sueId : UInt32) :
    Option (List SentBurst × List Burst × Option ℕ) :=
  (lb.sueClients.lookup sueId).map fun c => (c.sent, c.bursts, c.schedulerEvent)

/-- The clients of both runs have sent the same, and the same is scheduled for them. -/
def SameTraffic (t : Twins) : Prop :=
  ∀ sueId, traffic t.left sueId = traffic t.right sueId

/-- Where a client's round takes place, its flag is the same in both runs. -/
def SameFlag (t : Twins) (scheduled : Option ℕ) (sueId : UInt32) : Prop :=
  ∀ c c', t.left.sueClients.lookup sueId = some c → t.right.sueClients.lookup sueId = some c' →
    c.schedulerEvent = scheduled → c.loggingEnabled = c'.loggingEnabled

/-- The flags are the same in both runs where `ScheduleNextSend` reads them. -/
def FlagsAgree (t : Twins) : TwinEvent → Prop
  | .both (.startApplication _ sueId _) => t.SameFlag none sueId
  | .both (.scheduleNextSend now sueId _) => t.SameFlag (some now) sueId
  | _ => True

/-- The two runs differ in the flags only. -/
def Alike (t : Twins) : Prop := t.left.quiet = t.right.quiet

variable {t t' : Twins} {scheduled : Option ℕ} {now : ℕ} {sueId : UInt32}
variable {devices : List DeviceCapacityInfo}

/-- A client of one run is a client of the other one, but for its flag. -/
theorem Alike.lookup (h : t.Alike) (sueId : UInt32) :
    (t.left.sueClients.lookup sueId).map SueClient.quiet =
      (t.right.sueClients.lookup sueId).map SueClient.quiet := by
  rw [← LoadBalancer.lookup_quiet, ← LoadBalancer.lookup_quiet]
  exact congrArg (fun lb : LoadBalancer => lb.sueClients.lookup sueId) h

theorem Alike.sameTraffic (h : t.Alike) : t.SameTraffic := by
  intro sueId
  have htraffic (lb : LoadBalancer) : traffic lb sueId =
      ((lb.sueClients.lookup sueId).map SueClient.quiet).map fun c =>
        (c.sent, c.bursts, c.schedulerEvent) := by
    rw [Option.map_map]
    rfl
  rw [htraffic, htraffic, h.lookup sueId]

/-- Both runs have the client of a round, or none of them. -/
theorem Alike.clients (h : t.Alike) (sueId : UInt32) :
    (t.left.sueClients.lookup sueId = none ∧ t.right.sueClients.lookup sueId = none) ∨
      ∃ c c', t.left.sueClients.lookup sueId = some c ∧
        t.right.sueClients.lookup sueId = some c' ∧ c.quiet = c'.quiet := by
  have hlookup := h.lookup sueId
  cases hleft : t.left.sueClients.lookup sueId with
  | none =>
      rw [hleft] at hlookup
      exact .inl ⟨rfl, Option.map_eq_none_iff.mp hlookup.symm⟩
  | some c =>
      rw [hleft] at hlookup
      obtain ⟨c', hright, hquiet⟩ := Option.map_eq_some_iff.mp hlookup.symm
      exact .inr ⟨c, c', rfl, hright, hquiet.symm⟩

/-- Rounds of two runs that differ in the flags of other clients only. -/
theorem Alike.scheduleNextSend {left right : LoadBalancer} (h : t.Alike)
    (hflag : t.SameFlag scheduled sueId)
    (hleft : t.left.scheduleNextSend scheduled now sueId devices = some left)
    (hright : t.right.scheduleNextSend scheduled now sueId devices = some right) :
    left.quiet = right.quiet := by
  unfold LoadBalancer.scheduleNextSend at hleft hright
  rcases h.clients sueId with ⟨hl, hr⟩ | ⟨c, c', hl, hr, hquiet⟩
  · rw [hl] at hleft
    rw [hr] at hright
    cases hleft
    cases hright
    exact h
  · rw [hl] at hleft
    rw [hr] at hright
    have hevent := SueClient.schedulerEvent_of_quiet_eq hquiet
    dsimp only at hleft hright
    rw [← hevent] at hright
    by_cases hscheduled : c.schedulerEvent = scheduled
    · rw [if_pos hscheduled] at hleft hright
      obtain rfl := SueClient.eq_of_quiet_eq hquiet (hflag c c' hl hr hscheduled)
      obtain ⟨d, hround, rfl⟩ := Option.map_eq_some_iff.mp hleft
      rw [hround] at hright
      cases hright
      have hset : t.left.quiet.setClient sueId d.quiet = t.right.quiet.setClient sueId d.quiet :=
        congrArg (fun lb => LoadBalancer.setClient lb sueId d.quiet) h
      rw [LoadBalancer.setClient_quiet, LoadBalancer.setClient_quiet] at hset
      exact hset
    · rw [if_neg hscheduled] at hleft hright
      cases hleft
      cases hright
      exact h

/-- What a round schedules next tells the flags apart. -/
theorem Alike.not_sameTraffic_of_round {left right : LoadBalancer} (h : t.Alike)
    (hflag : ¬t.SameFlag scheduled sueId)
    (hleft : t.left.scheduleNextSend scheduled now sueId devices = some left)
    (hright : t.right.scheduleNextSend scheduled now sueId devices = some right) :
    ¬SameTraffic ⟨left, right⟩ := by
  intro hsame
  apply hflag
  intro c c' hl hr hscheduled
  have hlookup := h.lookup sueId
  rw [hl, hr] at hlookup
  have hquiet : c.quiet = c'.quiet := Option.some.inj hlookup
  have hevent := SueClient.schedulerEvent_of_quiet_eq hquiet
  unfold LoadBalancer.scheduleNextSend at hleft hright
  rw [hl] at hleft
  rw [hr] at hright
  dsimp only at hleft hright
  rw [if_pos hscheduled] at hleft
  rw [if_pos (hevent.symm.trans hscheduled)] at hright
  obtain ⟨d, hd, rfl⟩ := Option.map_eq_some_iff.mp hleft
  obtain ⟨d', hd', rfl⟩ := Option.map_eq_some_iff.mp hright
  have hnext := hsame sueId
  unfold traffic LoadBalancer.setClient at hnext
  dsimp only at hnext
  rw [AList.lookup_insert, AList.lookup_insert] at hnext
  have hscheduler : d.schedulerEvent = d'.schedulerEvent :=
    congrArg (fun x => x.2.2) (Option.some.inj hnext)
  rw [SueClient.schedulerEvent_of_scheduleNextSend hd,
    SueClient.schedulerEvent_of_scheduleNextSend hd'] at hscheduler
  cases hc : c.loggingEnabled <;> cases hc' : c'.loggingEnabled
  · rfl
  · rw [hc, hc'] at hscheduler
    cases hscheduler
  · rw [hc, hc'] at hscheduler
    cases hscheduler
  · rfl

/-- An event of two runs that differ in the flags only. -/
theorem Alike.send {left right : LoadBalancer} {event : SendEvent} (h : t.Alike)
    (hflags : t.FlagsAgree (.both event)) (hleft : t.left.send event = some left)
    (hright : t.right.send event = some right) : left.quiet = right.quiet := by
  cases event with
  | distributeTransaction now b =>
      cases hleft
      cases hright
      rw [← LoadBalancer.distributeTransaction_quiet, ← LoadBalancer.distributeTransaction_quiet]
      exact congrArg (fun lb => LoadBalancer.distributeTransaction lb now b) h
  | startApplication now sueId devices => exact h.scheduleNextSend hflags hleft hright
  | scheduleNextSend now sueId devices => exact h.scheduleNextSend hflags hleft hright
  | doSendBurst now sueId i outcome =>
      cases hleft
      cases hright
      rw [← LoadBalancer.doSendBurst_quiet, ← LoadBalancer.doSendBurst_quiet]
      exact congrArg (fun lb => LoadBalancer.doSendBurst lb now sueId i outcome) h
  | stopApplication sueId =>
      cases hleft
      cases hright
      rw [← LoadBalancer.stopApplication_quiet, ← LoadBalancer.stopApplication_quiet]
      exact congrArg (fun lb => LoadBalancer.stopApplication lb sueId) h

/-- Both runs of a step that is taken. -/
theorem step_both {event : SendEvent} (hstep : system.step t (.both event) = some t') :
    t.left.send event = some t'.left ∧ t.right.send event = some t'.right := by
  obtain ⟨left, hleft, hrest⟩ := Option.bind_eq_some_iff.mp hstep
  obtain ⟨right, hright, rfl⟩ := Option.map_eq_some_iff.mp hrest
  exact ⟨hleft, hright⟩

/-- Runs that differ in the flags only stay so while the flags agree where they are read. -/
theorem Alike.step {event : TwinEvent} (h : t.Alike) (hflags : t.FlagsAgree event)
    (hstep : system.step t event = some t') : t'.Alike := by
  cases event with
  | both event => exact h.send hflags (step_both hstep).1 (step_both hstep).2
  | left call =>
      cases hstep
      exact (t.left.quiet_log call).trans h
  | right call =>
      cases hstep
      exact Eq.trans h (t.right.quiet_log call).symm

/-- Where a flag that is read differs, the traffic does. -/
theorem Alike.not_sameTraffic {event : TwinEvent} (h : t.Alike) (hflags : ¬t.FlagsAgree event)
    (hstep : system.step t event = some t') : ¬t'.SameTraffic := by
  cases event with
  | both event =>
      obtain ⟨hleft, hright⟩ := step_both hstep
      cases event with
      | startApplication now sueId devices => exact h.not_sameTraffic_of_round hflags hleft hright
      | scheduleNextSend now sueId devices => exact h.not_sameTraffic_of_round hflags hleft hright
      | distributeTransaction now b => exact absurd trivial hflags
      | doSendBurst now sueId i outcome => exact absurd trivial hflags
      | stopApplication sueId => exact absurd trivial hflags
  | left call => exact absurd trivial hflags
  | right call => exact absurd trivial hflags

/-- Two runs with the same events that differ only in the calls that write the logging flags
have the same traffic throughout, exactly if the flag of a client is the same in both runs
whenever its `ScheduleNextSend` reads it. -/
theorem sameTraffic_iff_flagsAgree {lb : LoadBalancer} {events : List TwinEvent} {t : Twins}
    (hrun : system.runActions ⟨lb, lb⟩ events = some t) :
    system.Throughout SameTraffic ⟨lb, lb⟩ events ↔
      system.GuardedRun FlagsAgree ⟨lb, lb⟩ events := by
  have halike : Alike ⟨lb, lb⟩ := rfl
  refine TransitionSystem.throughout_iff_guardedRun ?_ ?_ halike halike.sameTraffic hrun
  · intro t event t' h _ hflags hstep
    have hnext := h.step hflags hstep
    exact ⟨hnext, hnext.sameTraffic⟩
  · intro t event t' h _ hflags hstep
    exact h.not_sameTraffic hflags hstep

/-! ## Generation that completes before the queues are empty -/

/-- A transaction to a destination. -/
def packetTo (id : ℕ) (destXpuId : UInt32) : BufferedTransaction where
  packet := ⟨id, SueHeader.serialize {}, 128, by decide⟩
  destXpuId := destXpuId
  vcId := 0

/-- A device with room for some packets. -/
def device : DeviceCapacityInfo := ⟨0, [1000], true⟩

/-- A load balancer with one client. -/
def single : LoadBalancer where
  localXpuId := 0
  sueClients := AList.singleton 0 {}

/-- Two transactions for two destinations come before the first round, and the generator of
the left run completes and stops logging before it. -/
def completion : List TwinEvent :=
  [.both (.startApplication 0 0 [device]),
    .both (.distributeTransaction 1 (packetTo 0 1)),
    .both (.distributeTransaction 2 (packetTo 1 2)),
    .left .stopAllLogging,
    .both (.scheduleNextSend 10 0 [device]), .both (.doSendBurst 13 0 0 .taken),
    .both (.scheduleNextSend 20 0 [device]), .both (.doSendBurst 23 0 0 .taken)]

/-- The second transaction stays in its queue in the left run, and nothing is scheduled. -/
theorem completion_strands_transaction :
    ∃ t, system.runActions ⟨single, single⟩ completion = some t ∧ ¬t.SameTraffic ∧
      (t.left.sueClients.lookup 0).map (fun c => c.sent.length) = some 1 ∧
      (t.right.sueClients.lookup 0).map (fun c => c.sent.length) = some 2 ∧
      (t.left.sueClients.lookup 0).map
        (fun c => (c.hasPendingTransactions, c.bursts, c.schedulerEvent)) =
          some (true, [], none) := by
  obtain ⟨t, hrun⟩ : ∃ t, system.runActions ⟨single, single⟩ completion = some t := ⟨_, rfl⟩
  refine ⟨t, hrun, ?_⟩
  cases hrun
  refine ⟨fun hsame => ?_, by decide, by decide, by decide⟩
  exact absurd (hsame 0) (by decide)

/-- The flag is written between two rounds, and is back before the next one. -/
def interlude : List TwinEvent :=
  [.both (.startApplication 0 0 [device]), .left (.setLoggingEnabled 0 false),
    .both (.distributeTransaction 1 (packetTo 0 1)), .left (.setLoggingEnabled 0 true),
    .both (.scheduleNextSend 10 0 [device]), .both (.doSendBurst 13 0 0 .taken)]

theorem sameTraffic_interlude : system.Throughout SameTraffic ⟨single, single⟩ interlude := by
  obtain ⟨t, hrun⟩ : ∃ t, system.runActions ⟨single, single⟩ interlude = some t := ⟨_, rfl⟩
  apply (sameTraffic_iff_flagsAgree hrun).mpr
  refine ⟨?_, fun t₁ h₁ => ⟨trivial, fun t₂ h₂ => ⟨trivial, fun t₃ h₃ => ⟨trivial, fun t₄ h₄ =>
    ⟨?_, fun t₅ h₅ => ⟨trivial, fun t₆ _ => trivial⟩⟩⟩⟩⟩⟩
  · intro c c' hc hc' _
    cases hc
    cases hc'
    rfl
  · cases h₁
    cases h₂
    cases h₃
    cases h₄
    intro c c' hc hc' _
    cases hc
    cases hc'
    rfl

end Twins

end UeSim
