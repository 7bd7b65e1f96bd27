import UeSim.Sue.LoadBalancer

/-!
# Custody of transactions

The load balancer asks a client for space in the queue of the virtual channel that it is
told, and the client puts the transaction into the queue of the virtual channel that it reads
from the header, which has two bits for it.  For an identifier from 4 on these are different
queues, and the client drops the transaction if its own choice is full.

This module says exactly in which runs every transaction is kept by a client or waits in the
buffer.
-/

namespace UeSim

/-- A transaction that is being given to a client. -/
structure HandOver where
  sueId : UInt32
  client : SueClient
  item : BufferedTransaction

namespace HandOver

/-- What the record of a transaction will be. -/
def record (h : HandOver) : Delivery :=
  ⟨h.sueId, h.item, h.client.accepts h.item.packet h.item.destXpuId⟩

/-- The load balancer has found space for the transaction. -/
def Admitted (h : HandOver) : Prop :=
  h.item.packet.size ≤ subU32 h.client.getDestQueueMaxBytes
    (h.client.getDestQueueCurrentUsage h.item.destXpuId h.item.vcId)

/-- The condition: where the identifier of the virtual channel has more than two bits, or the
queue of its lower bits is beyond its bound, that queue takes the transaction all the same. -/
def Fits (h : HandOver) : Prop :=
  4 ≤ h.item.vcId ∨ h.client.getDestQueueMaxBytes <
      h.client.getDestQueueCurrentUsage h.item.destXpuId (h.item.vcId &&& 0x03) →
    toU32 (h.client.getDestQueueCurrentUsage h.item.destXpuId (h.item.vcId &&& 0x03) +
      h.item.packet.size) ≤ h.client.getDestQueueMaxBytes

instance (h : HandOver) : Decidable h.Fits := inferInstanceAs (Decidable (_ ∨ _ < _ → _ ≤ _))

/-- A client keeps a transaction that the load balancer admits exactly when it fits. -/
theorem kept_iff_fits {h : HandOver} (hadmitted : h.Admitted) (hbuilt : h.item.Built) :
    h.record.kept = true ↔ h.Fits := by
  have hkept : h.record.kept = true ↔
      toU32 (h.client.getDestQueueCurrentUsage h.item.destXpuId (h.item.vcId &&& 0x03) +
        h.item.packet.size) ≤ h.client.getDestQueueMaxBytes := by
    rw [← hbuilt]
    exact decide_eq_true_iff
  rw [hkept]
  constructor
  · intro hfits _
    exact hfits
  · intro hfits
    by_cases hother : 4 ≤ h.item.vcId ∨ h.client.getDestQueueMaxBytes <
        h.client.getDestQueueCurrentUsage h.item.destXpuId (h.item.vcId &&& 0x03)
    · exact hfits hother
    · -- the queue that was asked is the queue that is used
      push Not at hother
      obtain ⟨hsmall, husage⟩ := hother
      unfold Admitted at hadmitted
      rw [SueHeader.and_three_of_lt (UInt8.not_le.mp hsmall)] at husage ⊢
      have hmax := h.client.getDestQueueMaxBytes_lt
      rw [subU32_of_le hmax husage] at hadmitted
      rw [toU32_of_lt (by omega)]
      omega

end HandOver

namespace LoadBalancer

variable {lb : LoadBalancer} {now : ℕ}

/-! ## What a step gives to clients -/

/-- What `deliver` gives to a client. -/
def handOver (lb : LoadBalancer) (sueId : UInt32) (b : BufferedTransaction) : List HandOver :=
  ((lb.sueClients.lookup sueId).map fun c => ⟨sueId, c, b⟩).toList

/-- What the loop of `ProcessBufferedTransactions` gives to clients. -/
def loopHandOvers (now : ℕ) : List BufferedTransaction → LoadBalancer → List HandOver
  | [], _ => []
  | b :: rest, lb =>
      if lb.select b ≠ noSue then
        lb.handOver (lb.select b) b ++
          loopHandOvers now rest (lb.advanceRoundRobin.deliver now (lb.select b) b)
      else []

/-- What the callbacks of `PopTransactionsFromQueue` give to clients. -/
def popHandOvers (now : ℕ) (sueId : UInt32) (key : Destination) :
    ℕ → LoadBalancer → List HandOver
  | 0, _ => []
  | count + 1, lb =>
      match lb.popFront sueId key with
      | none => []
      | some popped =>
          loopHandOvers now popped.bufferQueue popped ++
            popHandOvers now sueId key count (popped.notifyDestQueueSpaceAvailable now)

/-- What an event gives to clients, in this order. -/
def handOvers (lb : LoadBalancer) : LoadBalancerEvent → List HandOver
  | .distributeTransaction _ packet header destXpuId vcId =>
      let b := packet.addressed header destXpuId vcId
      if b.destXpuId = lb.localXpuId ∨ lb.select b = noSue then []
      else lb.handOver (lb.select b) b
  | .popTransactionsFromQueue now sueId key count => popHandOvers now sueId key count lb

/-! ## What should hold -/

/-- A load balancer before its records begin: what it has buffered counts as distributed. -/
structure Unrecorded (lb : LoadBalancer) : Prop where
  deliveries : lb.deliveries = []
  distributed : lb.distributed = lb.bufferQueue
  built : ∀ b ∈ lb.bufferQueue, b.Built

/-- The runs of a load balancer, from any state of its queues and clients. -/
def system : TransitionSystem LoadBalancer LoadBalancerEvent where
  init := Unrecorded
  step lb event := some (lb.act event)

/-- Every transaction that has been distributed has been kept by a client or is in the
buffer. -/
def LosesNothing (lb : LoadBalancer) : Prop :=
  ((lb.deliveries.filter Delivery.kept).map Delivery.item ++ lb.bufferQueue).Perm
    lb.distributed

/-- The condition on an event: every transaction that it gives to a client fits. -/
def AllFit (lb : LoadBalancer) (event : LoadBalancerEvent) : Prop :=
  ∀ h ∈ lb.handOvers event, h.Fits

instance (lb : LoadBalancer) (event : LoadBalancerEvent) : Decidable (lb.AllFit event) :=
  inferInstanceAs (Decidable (∀ h ∈ lb.handOvers event, HandOver.Fits h))

/-- Every transaction that has been distributed has been given to a client or is in the
buffer, where the headers are as they were built. -/
structure Recorded (lb : LoadBalancer) : Prop where
  given : (lb.deliveries.map Delivery.item ++ lb.bufferQueue).Perm lb.distributed
  built : ∀ b ∈ lb.bufferQueue, b.Built

theorem Unrecorded.recorded (h : lb.Unrecorded) : lb.Recorded := by
  refine ⟨?_, h.built⟩
  rw [h.deliveries, h.distributed]
  exact List.Perm.refl _

/-- Nothing is lost exactly when the clients have kept all that they were given. -/
theorem Recorded.losesNothing_iff (h : lb.Recorded) :
    lb.LosesNothing ↔ ∀ d ∈ lb.deliveries, d.kept = true := by
  constructor
  · intro hnothing
    have hlength := (hnothing.trans h.given.symm).length_eq
    rw [List.length_append, List.length_append, List.length_map, List.length_map] at hlength
    exact List.length_filter_eq_length_iff.mp (by omega)
  · intro hkept
    unfold LosesNothing
    rw [List.filter_eq_self.mpr hkept]
    exact h.given

/-! ## Steps -/

/-- A step gives these transactions to clients, which it has asked for space, and records
them. -/
structure Handed (lb lb' : LoadBalancer) (hs : List HandOver) : Prop where
  deliveries : lb'.deliveries = lb.deliveries ++ hs.map HandOver.record
  sound : ∀ h ∈ hs, h.Admitted ∧ h.item.Built
  recorded : lb'.Recorded

theorem Handed.trans {lb' lb'' : LoadBalancer} {hs hs' : List HandOver}
    (h : Handed lb lb' hs) (h' : Handed lb' lb'' hs') : Handed lb lb'' (hs ++ hs') := by
  refine ⟨?_, ?_, h'.recorded⟩
  · rw [h'.deliveries, h.deliveries, List.map_append, List.append_assoc]
  · intro x hx
    rcases List.mem_append.mp hx with hx | hx
    · exact h.sound x hx
    · exact h'.sound x hx

/-- A step that leaves records and buffer alone. -/
theorem Handed.of_frame {lb' : LoadBalancer} (h : lb.Recorded)
    (hdeliveries : lb'.deliveries = lb.deliveries) (hbuffer : lb'.bufferQueue = lb.bufferQueue)
    (hdistributed : lb'.distributed = lb.distributed) : Handed lb lb' [] := by
  refine ⟨?_, fun x hx => absurd hx List.not_mem_nil, ?_, ?_⟩
  · rw [hdeliveries]
    exact (List.append_nil _).symm
  · rw [hdeliveries, hbuffer, hdistributed]
    exact h.given
  · rw [hbuffer]
    exact h.built

/-- A transaction that has a client is given to it. -/
theorem handed_deliver (lb : LoadBalancer) (now : ℕ) {b : BufferedTransaction}
    {rest : List BufferedTransaction} (h : Recorded { lb with bufferQueue := b :: rest })
    (hselect : lb.select b ≠ noSue) :
    Handed { lb with bufferQueue := b :: rest }
      { lb.advanceRoundRobin.deliver now (lb.select b) b with bufferQueue := rest }
      (lb.handOver (lb.select b) b) := by
  obtain ⟨c, hc, hspace⟩ := exists_client_of_select hselect
  have hc' : lb.advanceRoundRobin.sueClients.lookup (lb.select b) = some c := hc
  have hhand : lb.handOver (lb.select b) b = [⟨lb.select b, c, b⟩] := by
    unfold handOver
    rw [hc]
    rfl
  rw [deliver_eq hc', hhand]
  refine ⟨rfl, ?_, ?_, fun x hx => h.built x (List.mem_cons_of_mem b hx)⟩
  · intro x hx
    cases List.mem_singleton.mp hx
    exact ⟨hspace, h.built b (List.mem_cons_self ..)⟩
  · have hgiven := h.given
    dsimp only [deliveries_advanceRoundRobin, distributed_advanceRoundRobin] at hgiven ⊢
    rw [List.map_append, List.append_assoc]
    exact hgiven

/-- A transaction that has a client is given to it without passing the buffer. -/
theorem handed_deliver_keep {b : BufferedTransaction}
    (h : Recorded { lb with
      distributed := lb.distributed ++ [b], bufferQueue := b :: lb.bufferQueue })
    (hselect : lb.select b ≠ noSue) :
    Handed lb
      ({ lb with distributed := lb.distributed ++ [b] }.advanceRoundRobin.deliver now
        (lb.select b) b) (lb.handOver (lb.select b) b) := by
  have hgiven := handed_deliver { lb with distributed := lb.distributed ++ [b] } now h hselect
  have hkeep := (frame_deliver { lb with
    distributed := lb.distributed ++ [b] }.advanceRoundRobin now (lb.select b) b).1
  refine ⟨hgiven.deliveries, hgiven.sound, ?_, ?_⟩
  · rw [hkeep]
    exact hgiven.recorded.given
  · rw [hkeep]
    exact hgiven.recorded.built

/-- The loop over the buffer. -/
theorem handed_processLoop (now : ℕ) (l : List BufferedTransaction) (lb : LoadBalancer)
    (h : Recorded { lb with bufferQueue := l }) :
    Handed { lb with bufferQueue := l } (processLoop now l lb) (loopHandOvers now l lb) := by
  induction l generalizing lb with
  | nil => exact Handed.of_frame h rfl rfl rfl
  | cons b rest ih =>
      unfold processLoop loopHandOvers
      split_ifs with hselect
      · have hfirst := handed_deliver lb now h hselect
        exact hfirst.trans (ih _ hfirst.recorded)
      · exact Handed.of_frame h rfl rfl rfl

theorem handed_notifyDestQueueSpaceAvailable (now : ℕ) (h : lb.Recorded) :
    Handed lb (lb.notifyDestQueueSpaceAvailable now)
      (loopHandOvers now lb.bufferQueue lb) := by
  have hloop : Handed lb (processLoop now lb.bufferQueue lb)
      (loopHandOvers now lb.bufferQueue lb) := handed_processLoop now lb.bufferQueue lb h
  obtain ⟨-, hbuffer, hdistributed, hdeliveries⟩ :=
    frame_processBufferedTransactions lb now
  have hsame := Handed.of_frame hloop.recorded hdeliveries hbuffer hdistributed
  have hall := hloop.trans hsame
  rw [List.append_nil] at hall
  exact hall

theorem handed_popTransactionsFromQueue (sueId : UInt32) (key : Destination) (count : ℕ)
    (h : lb.Recorded) :
    Handed lb (popTransactionsFromQueue now sueId key count lb)
      (popHandOvers now sueId key count lb) := by
  induction count generalizing lb with
  | zero => exact Handed.of_frame h rfl rfl rfl
  | succ count ih =>
      unfold popTransactionsFromQueue popHandOvers
      cases hpop : lb.popFront sueId key with
      | none => exact Handed.of_frame h rfl rfl rfl
      | some popped =>
          obtain ⟨c, c', -, -, rfl⟩ := popFront_eq_some.mp hpop
          have hrecorded : Recorded { lb with sueClients := lb.sueClients.insert sueId c' } :=
            ⟨h.given, h.built⟩
          have hpopped : Handed lb { lb with
              sueClients := lb.sueClients.insert sueId c' } [] := Handed.of_frame h rfl rfl rfl
          have hnotify := handed_notifyDestQueueSpaceAvailable now hrecorded
          exact hpopped.trans (hnotify.trans (ih hnotify.recorded))

theorem handed_distributeTransaction {b : BufferedTransaction} (h : lb.Recorded)
    (hbuilt : b.Built) :
    Handed lb (lb.distributeTransaction now b)
      (if b.destXpuId = lb.localXpuId ∨ lb.select b = noSue then []
        else lb.handOver (lb.select b) b) := by
  unfold distributeTransaction
  dsimp only
  by_cases hlocal : b.destXpuId = lb.localXpuId
  · rw [if_pos hlocal, if_pos (.inl hlocal)]
    exact Handed.of_frame h rfl rfl rfl
  · rw [if_neg hlocal]
    by_cases hselect : lb.select b = noSue
    · rw [if_neg (not_not.mpr hselect), if_pos (.inr hselect)]
      obtain ⟨-, hbuffer, hdistributed, hdeliveries⟩ := frame_buffer
        { lb with distributed := lb.distributed ++ [b] }.advanceRoundRobin b
      refine ⟨?_, fun x hx => absurd hx List.not_mem_nil, ?_, ?_⟩
      · rw [hdeliveries]
        exact (List.append_nil _).symm
      · rw [hdeliveries, hbuffer, hdistributed, ← List.append_assoc]
        exact h.given.append_right [b]
      · rw [hbuffer]
        intro x hx
        rcases List.mem_append.mp hx with hx | hx
        · exact h.built x hx
        · cases List.mem_singleton.mp hx
          exact hbuilt
    · rw [if_pos hselect, if_neg (not_or.mpr ⟨hlocal, hselect⟩)]
      have hrecorded : Recorded { lb with
          distributed := lb.distributed ++ [b], bufferQueue := b :: lb.bufferQueue } := by
        refine ⟨?_, fun x hx => ?_⟩
        · have hcons : (lb.deliveries.map Delivery.item ++ b :: lb.bufferQueue).Perm
              (b :: (lb.deliveries.map Delivery.item ++ lb.bufferQueue)) := List.perm_middle
          refine hcons.trans ((h.given.cons b).trans ?_)
          exact (List.perm_append_singleton b lb.distributed).symm
        · rcases List.mem_cons.mp hx with rfl | hx
          · exact hbuilt
          · exact h.built x hx
      exact handed_deliver_keep hrecorded hselect

theorem handed_act (event : LoadBalancerEvent) (h : lb.Recorded) :
    Handed lb (lb.act event) (lb.handOvers event) := by
  cases event with
  | distributeTransaction now packet header destXpuId vcId =>
      exact handed_distributeTransaction h (built_addressed packet header destXpuId vcId)
  | popTransactionsFromQueue now sueId key count =>
      exact handed_popTransactionsFromQueue sueId key count h

/-! ## Runs -/

/-- An event loses nothing exactly when all that it gives to clients fits. -/
theorem losesNothing_act_iff (event : LoadBalancerEvent) (h : lb.Recorded)
    (hnothing : lb.LosesNothing) : (lb.act event).LosesNothing ↔ lb.AllFit event := by
  have hhanded := handed_act event h
  have hbefore := h.losesNothing_iff.mp hnothing
  rw [hhanded.recorded.losesNothing_iff, hhanded.deliveries]
  constructor
  · intro hkept x hx
    obtain ⟨hadmitted, hbuilt⟩ := hhanded.sound x hx
    apply (HandOver.kept_iff_fits hadmitted hbuilt).mp
    exact hkept _ (List.mem_append_right _ (List.mem_map_of_mem hx))
  · intro hfits d hd
    rcases List.mem_append.mp hd with hd | hd
    · exact hbefore d hd
    · obtain ⟨x, hx, rfl⟩ := List.mem_map.mp hd
      obtain ⟨hadmitted, hbuilt⟩ := hhanded.sound x hx
      exact (HandOver.kept_iff_fits hadmitted hbuilt).mpr (hfits x hx)

/-- Nothing is lost throughout a run exactly when all that its events give to clients
fits. -/
theorem losesNothing_iff_allFit {lb lb' : LoadBalancer} {events : List LoadBalancerEvent}
    (hinit : system.init lb) (hrun : system.runActions lb events = some lb') :
    system.Throughout LosesNothing lb events ↔ system.GuardedRun AllFit lb events := by
  have hunrecorded : lb.Unrecorded := hinit
  have hrecorded := hunrecorded.recorded
  have hnothing : lb.LosesNothing := by
    apply hrecorded.losesNothing_iff.mpr
    rw [hunrecorded.deliveries]
    exact fun d hd => absurd hd List.not_mem_nil
  refine TransitionSystem.throughout_iff_guardedRun ?_ ?_ hrecorded hnothing hrun
  · intro s event t hrec hnothing hguard hstep
    cases hstep
    exact ⟨(handed_act event hrec).recorded, (losesNothing_act_iff event hrec hnothing).mpr hguard⟩
  · intro s event t hrec hnothing hguard hstep hnothing'
    cases hstep
    exact hguard ((losesNothing_act_iff event hrec hnothing).mp hnothing')

end LoadBalancer

/-! ## Identifiers of two bits -/

/-- A transaction whose virtual channel has two bits, with the header that it should have. -/
def BufferedTransaction.Plain (b : BufferedTransaction) : Prop :=
  b.vcId < 4 ∧ b.Built

theorem BufferedTransaction.Plain.keyOf {b : BufferedTransaction} (h : b.Plain) :
    SueClient.keyOf b.packet b.destXpuId = ⟨b.destXpuId, b.vcId⟩ :=
  congrArg (Destination.mk b.destXpuId) (h.2.trans (SueHeader.and_three_of_lt h.1))

/-- The space that the load balancer sees is the space that there is. -/
theorem SueClient.Within.fits_of_space {c : SueClient} {b : BufferedTransaction}
    (h : c.Within) (hplain : b.Plain)
    (hspace : b.packet.size ≤
      subU32 c.getDestQueueMaxBytes (c.getDestQueueCurrentUsage b.destXpuId b.vcId)) :
    (c.queueOf (SueClient.keyOf b.packet b.destXpuId)).bytes + b.packet.size ≤
      c.getDestQueueMaxBytes := by
  rw [hplain.keyOf]
  have hbound := (h ⟨b.destXpuId, b.vcId⟩).bound
  rw [h.space_eq] at hspace
  omega

namespace LoadBalancer

variable {lb : LoadBalancer} {now : ℕ}

/-- The clients are within their bounds, what is in the buffer is plain, and the clients
have kept what they were given. -/
structure Bounded (lb : LoadBalancer) : Prop where
  clients : ∀ sueId c, lb.sueClients.lookup sueId = some c → c.Within
  buffered : ∀ b ∈ lb.bufferQueue, b.Plain
  kept : ∀ d ∈ lb.deliveries, d.kept = true

theorem Bounded.replace {c : SueClient} (h : lb.Bounded) (sueId : UInt32) (hc : c.Within) :
    Bounded { lb with sueClients := lb.sueClients.insert sueId c } := by
  refine ⟨fun sueId' c' hlookup => ?_, h.buffered, h.kept⟩
  dsimp only at hlookup
  by_cases hself : sueId' = sueId
  · subst hself
    rw [AList.lookup_insert] at hlookup
    cases hlookup
    exact hc
  · rw [AList.lookup_insert_ne hself] at hlookup
    exact h.clients sueId' c' hlookup

/-- A plain transaction that has a client is kept by it. -/
theorem Bounded.deliver {b : BufferedTransaction} (now : ℕ) (h : lb.Bounded) (hplain : b.Plain)
    (hselect : lb.select b ≠ noSue) : Bounded (lb.deliver now (lb.select b) b) := by
  obtain ⟨c, hc, hspace⟩ := exists_client_of_select hselect
  have hwithin := h.clients _ c hc
  have hfits := hwithin.fits_of_space hplain hspace
  have hsum := Nat.lt_of_le_of_lt hfits c.getDestQueueMaxBytes_lt
  have hreplaced := h.replace (lb.select b) (hwithin.addTransaction now hfits)
  rw [deliver_eq hc]
  refine ⟨hreplaced.clients, h.buffered, fun d hd => ?_⟩
  rcases List.mem_append.mp hd with hd | hd
  · exact h.kept d hd
  · cases List.mem_singleton.mp hd
    exact (hwithin.accepts_iff hsum).mpr hfits

theorem stable_bounded : Stable Bounded where
  flags lb counter paused generator h := ⟨h.clients, h.buffered, h.kept⟩
  serve lb now b rest hbuffer h hselect := by
    have hplain : b.Plain := h.buffered b (hbuffer ▸ List.mem_cons_self ..)
    have hserved := h.deliver now hplain hselect
    refine ⟨hserved.clients, fun x hx => ?_, hserved.kept⟩
    exact h.buffered x (hbuffer ▸ List.mem_cons_of_mem b hx)
  pop lb lb' sueId key h hpop := by
    obtain ⟨c, c', hc, hpop', rfl⟩ := popFront_eq_some.mp hpop
    exact h.replace sueId ((h.clients sueId c hc).popFront hpop')

/-- An event with an identifier of two bits, if it has one. -/
def TwoBits : LoadBalancerEvent → Prop
  | .distributeTransaction _ _ _ _ vcId => vcId < 4
  | .popTransactionsFromQueue .. => True

theorem Bounded.act {event : LoadBalancerEvent} (h : lb.Bounded) (hbits : TwoBits event) :
    (lb.act event).Bounded := by
  cases event with
  | distributeTransaction now packet header destXpuId vcId =>
      have hplain : (packet.addressed header destXpuId vcId).Plain :=
        ⟨hbits, built_addressed packet header destXpuId vcId⟩
      apply stable_bounded.distributeTransaction now _ h
      · intro hselect
        exact Bounded.deliver now ⟨h.clients, h.buffered, h.kept⟩ hplain hselect
      · intro _
        refine ⟨h.clients, fun x hx => ?_, h.kept⟩
        rcases List.mem_append.mp hx with hx | hx
        · exact h.buffered x hx
        · cases List.mem_singleton.mp hx
          exact hplain
  | popTransactionsFromQueue now sueId key count =>
      exact stable_bounded.popTransactionsFromQueue now sueId key count h

/-- The runs of a load balancer whose clients start within their bounds. -/
def boundedSystem : TransitionSystem LoadBalancer LoadBalancerEvent :=
  { system with init := fun lb => lb.Unrecorded ∧ lb.Bounded }

/-- With identifiers of two bits, and clients that start within their bounds, nothing is
ever lost. -/
theorem losesNothing_of_twoBits
    (hreach : boundedSystem.ReachableBy (fun _ event => TwoBits event) lb) :
    lb.LosesNothing := by
  have hboth : lb.Recorded ∧ lb.Bounded := by
    refine hreach.invariant (P := fun s => s.Recorded ∧ s.Bounded) ?_ ?_
    · rintro s ⟨hunrecorded, hbounded⟩
      exact ⟨hunrecorded.recorded, hbounded⟩
    · intro s event t hs hbits hstep
      cases hstep
      exact ⟨(handed_act event hs.1).recorded, hs.2.act hbits⟩
  exact hboth.1.losesNothing_iff.mpr hboth.2.kept

/-! ## A load balancer with one client -/

/-- A packet without payload. -/
def emptyPacket (id : ℕ) : Transaction := ⟨id, ({} : SueHeader).serialize, 0, by decide⟩

/-- A load balancer whose client takes one packet of 8 bytes for each queue. -/
def oneClient : LoadBalancer where
  sueClients := (∅ : KeyedMap UInt32 SueClient).insert 0 { destQueueMaxBytes := 8 }

/-- Two packets to one destination, on virtual channel 0 and on virtual channel 4. -/
def twoChannels : List LoadBalancerEvent :=
  [.distributeTransaction 0 (emptyPacket 1) {} 1 0,
    .distributeTransaction 0 (emptyPacket 2) {} 1 4]

/-- The second packet is lost: the queue of channel 4 is free, and that of channel 0 is
full. -/
theorem not_losesNothing_twoChannels :
    ∃ lb, system.runActions oneClient twoChannels = some lb ∧ ¬lb.LosesNothing := by
  obtain ⟨lb, hrun⟩ : ∃ lb, system.runActions oneClient twoChannels = some lb := ⟨_, rfl⟩
  refine ⟨lb, hrun, fun h => ?_⟩
  have hlength := h.length_eq
  cases hrun
  exact absurd hlength (by decide)

/-- Two packets on different virtual channels fit; two more on the first one are buffered, and
the client's pop makes room for one of them. -/
def bufferedChannel : List LoadBalancerEvent :=
  [.distributeTransaction 0 (emptyPacket 1) {} 1 0,
    .distributeTransaction 0 (emptyPacket 2) {} 1 1,
    .distributeTransaction 0 (emptyPacket 3) {} 1 0,
    .distributeTransaction 0 (emptyPacket 4) {} 1 0,
    .popTransactionsFromQueue 5 0 ⟨1, 0⟩ 1]

/-- Three packets have been kept at the end and one is in the buffer, and nothing was lost
throughout. -/
theorem losesNothing_iff_allFit_bufferedChannel :
    ∃ lb, system.runActions oneClient bufferedChannel = some lb ∧
      lb.deliveries.map (fun d => d.item.packet.id) = [1, 2, 3] ∧
      lb.bufferQueue.map (fun b => b.packet.id) = [4] ∧
      system.Throughout LosesNothing oneClient bufferedChannel := by
  obtain ⟨lb, hrun⟩ : ∃ lb, system.runActions oneClient bufferedChannel = some lb := ⟨_, rfl⟩
  have hend : lb.deliveries.map (fun d => d.item.packet.id) = [1, 2, 3] ∧
      lb.bufferQueue.map (fun b => b.packet.id) = [4] := by
    cases hrun
    decide
  have hguarded : system.GuardedRun AllFit oneClient bufferedChannel := by
    decide
  exact ⟨lb, hrun, hend.1, hend.2, (losesNothing_iff_allFit
    ⟨rfl, rfl, fun b hb => absurd hb List.not_mem_nil⟩ hrun).mpr hguarded⟩

end LoadBalancer

end UeSim
