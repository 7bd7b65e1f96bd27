import UeSim.Sue.SueClient
import UeSim.Support.Transition

/-!
# The load balancer

`LoadBalancer` gives each transaction to one of its clients.  The client is chosen by a hash,
and it is asked for space in the queue of the destination and the virtual channel; if there
is none, the transaction waits in a buffer and the traffic generator is paused.  When a
client has taken a transaction from one of its queues, the buffer is served from its head.

A record tells which transactions have been distributed, and to which clients transactions
have been given, with what became of them.
-/

namespace UeSim

/-- `LoadBalanceAlgorithm`.  An attribute can also have a value that has no name. -/
inductive LoadBalanceAlgorithm
  | simpleMod
  | modWithSeed
  | primeHash
  | enhancedHash
  | roundRobin
  | consistentHash
  | other (value : UInt32)
  deriving DecidableEq, Repr

/-- An entry of the buffer queue. -/
structure BufferedTransaction where
  packet : Transaction
  destXpuId : UInt32
  vcId : UInt8
  deriving DecidableEq, Repr

/-- A transaction that a client has been given, and whether it has kept it. -/
structure Delivery where
  sueId : UInt32
  item : BufferedTransaction
  kept : Bool
  deriving DecidableEq, Repr

/-- What a traffic generator shows the load balancer. -/
structure TrafficGenerator where
  generationPaused : Bool := false
  deriving DecidableEq, Repr

/-- `LoadBalancer`, with its records. -/
structure LoadBalancer where
  localXpuId : UInt32 := 0
  hashSeed : UInt32 := 12345
  algorithm : LoadBalanceAlgorithm := .enhancedHash
  prime1 : UInt32 := 7919
  roundRobinCounter : UInt32 := 0
  enableAlternativePath : Bool := false
  sueClients : KeyedMap UInt32 SueClient := ∅
  bufferQueue : List BufferedTransaction := []
  trafficGenerationPaused : Bool := false
  trafficGenerator : Option TrafficGenerator := none
  distributed : List BufferedTransaction := []
  deliveries : List Delivery := []

namespace LoadBalancer

/-- The identifier that stands for no client, `UINT32_MAX`. -/
def noSue : UInt32 := 0xFFFFFFFF

/-! ## The choice of a client -/

/-- The number of clients. -/
def clientCount (lb : LoadBalancer) : ℕ := lb.sueClients.entries.length

/-- The identifiers of the clients, in the order of the map. -/
def sueIds (lb : LoadBalancer) : List UInt32 := lb.sueClients.keys.insertionSort (· ≤ ·)

/-- A 32-bit number modulo the number of clients. -/
def modClients (lb : LoadBalancer) (n : UInt32) : UInt32 :=
  UInt32.ofNat (n.toNat % lb.clientCount)

/-- The result of `CalculateHash`. -/
def calculateHash (lb : LoadBalancer) (destXpuId : UInt32) (vcId : UInt8) : UInt32 :=
  if lb.clientCount = 0 then 0
  else
    match lb.algorithm with
    | .simpleMod => lb.modClients destXpuId
    | .modWithSeed => lb.modClients (destXpuId + lb.hashSeed)
    | .primeHash => lb.modClients (destXpuId * lb.prime1 + lb.hashSeed)
    | .enhancedHash => lb.modClients (destXpuId + vcId.toUInt32)
    | .roundRobin => lb.modClients (destXpuId + lb.roundRobinCounter)
    | .consistentHash => lb.modClients destXpuId
    | .other _ => lb.modClients destXpuId

/-- What `CalculateHash` does to the counter of the round-robin algorithm. -/
def advanceRoundRobin (lb : LoadBalancer) : LoadBalancer :=
  { lb with
    roundRobinCounter :=
      if lb.algorithm = .roundRobin ∧ lb.clientCount ≠ 0 then
        lb.modClients (lb.roundRobinCounter + 1)
      else lb.roundRobinCounter }

/-- `GetSueDestQueueAvailableSpace`. -/
def getSueDestQueueAvailableSpace (lb : LoadBalancer) (sueId destXpuId : UInt32)
    (vcId : UInt8) : ℕ :=
  match lb.sueClients.lookup sueId with
  | none => 0
  | some c => subU32 c.getDestQueueMaxBytes (c.getDestQueueCurrentUsage destXpuId vcId)

/-- `CheckSueDestQueueSpace`. -/
def checkSueDestQueueSpace (lb : LoadBalancer) (sueId destXpuId : UInt32) (vcId : UInt8)
    (packetSize : ℕ) : Bool :=
  match lb.sueClients.lookup sueId with
  | none => false
  | some _ => packetSize ≤ lb.getSueDestQueueAvailableSpace sueId destXpuId vcId

/-- `TryNextAvailableSueWithSpace`, which looks at the clients from the first one on. -/
def tryNextAvailableSueWithSpace (lb : LoadBalancer) (destXpuId : UInt32) (vcId : UInt8)
    (packetSize : ℕ) : UInt32 :=
  (lb.sueIds.find? fun sueId =>
    lb.checkSueDestQueueSpace sueId destXpuId vcId packetSize).getD noSue

/-- The result of `SelectSueWithDestQueueSpace`. -/
def selectSueWithDestQueueSpace (lb : LoadBalancer) (destXpuId : UInt32) (vcId : UInt8)
    (packetSize : ℕ) : UInt32 :=
  let targetSueId := lb.calculateHash destXpuId vcId
  if lb.checkSueDestQueueSpace targetSueId destXpuId vcId packetSize then targetSueId
  else if lb.enableAlternativePath then
    lb.tryNextAvailableSueWithSpace destXpuId vcId packetSize
  else noSue

/-- The client that is selected for a transaction. -/
def select (lb : LoadBalancer) (b : BufferedTransaction) : UInt32 :=
  lb.selectSueWithDestQueueSpace b.destXpuId b.vcId b.packet.size

/-! ## Distribution -/

/-- Give a transaction to a client, if it is there. -/
def deliver (lb : LoadBalancer) (now : ℕ) (sueId : UInt32) (b : BufferedTransaction) :
    LoadBalancer :=
  match lb.sueClients.lookup sueId with
  | none => lb
  | some c =>
      { lb with
        sueClients := lb.sueClients.insert sueId (c.addTransaction now b.packet b.destXpuId)
        deliveries := lb.deliveries ++ [⟨sueId, b, c.accepts b.packet b.destXpuId⟩] }

/-- `NotifyTrafficGeneratorToPause` and `NotifyTrafficGeneratorToResume`. -/
def notifyTrafficGenerator (lb : LoadBalancer) (paused : Bool) : LoadBalancer :=
  if lb.trafficGenerationPaused = paused then lb
  else
    { lb with
      trafficGenerationPaused := paused
      trafficGenerator := lb.trafficGenerator.map fun _ => ⟨paused⟩ }

/-- Put a transaction into the buffer, and pause the generator if it is the first one. -/
def buffer (lb : LoadBalancer) (b : BufferedTransaction) : LoadBalancer :=
  let queued := { lb with bufferQueue := lb.bufferQueue ++ [b] }
  if queued.bufferQueue.length = 1 ∧ ¬lb.trafficGenerationPaused = true then
    queued.notifyTrafficGenerator true
  else queued

/-- `DistributeTransaction`. -/
def distributeTransaction (lb : LoadBalancer) (now : ℕ) (b : BufferedTransaction) :
    LoadBalancer :=
  if b.destXpuId = lb.localXpuId then lb
  else
    let recorded := { lb with distributed := lb.distributed ++ [b] }.advanceRoundRobin
    if lb.select b ≠ noSue then recorded.deliver now (lb.select b) b else recorded.buffer b

/-- The loop of `ProcessBufferedTransactions`, over what is in the buffer. -/
def processLoop (now : ℕ) : List BufferedTransaction → LoadBalancer → LoadBalancer
  | [], lb => { lb with bufferQueue := [] }
  | b :: rest, lb =>
      if lb.select b ≠ noSue then
        processLoop now rest (lb.advanceRoundRobin.deliver now (lb.select b) b)
      else { lb.advanceRoundRobin with bufferQueue := b :: rest }

/-- `ProcessBufferedTransactions`. -/
def processBufferedTransactions (lb : LoadBalancer) (now : ℕ) : LoadBalancer :=
  if lb.bufferQueue = [] then lb
  else
    let processed := processLoop now lb.bufferQueue lb
    if processed.bufferQueue = [] ∧ processed.trafficGenerationPaused = true then
      processed.notifyTrafficGenerator false
    else processed

/-- `NotifyDestQueueSpaceAvailable`, which does not look at what has become free. -/
def notifyDestQueueSpaceAvailable (lb : LoadBalancer) (now : ℕ) : LoadBalancer :=
  lb.processBufferedTransactions now

/-- One turn of the loop of `PopTransactionsFromQueue` of a client, before its callback. -/
def popFront (lb : LoadBalancer) (sueId : UInt32) (key : Destination) : Option LoadBalancer :=
  (lb.sueClients.lookup sueId).bind fun c =>
    (c.popFront key).map fun c' => { lb with sueClients := lb.sueClients.insert sueId c' }

/-- `PopTransactionsFromQueue` of a client whose callback notifies the load balancer. -/
def popTransactionsFromQueue (now : ℕ) (sueId : UInt32) (key : Destination) :
    ℕ → LoadBalancer → LoadBalancer
  | 0, lb => lb
  | count + 1, lb =>
      match lb.popFront sueId key with
      | none => lb
      | some popped =>
          popTransactionsFromQueue now sueId key count
            (popped.notifyDestQueueSpaceAvailable now)

variable {lb : LoadBalancer} {b : BufferedTransaction} {c : SueClient} {now : ℕ}
variable {sueId destXpuId : UInt32} {vcId : UInt8} {packetSize : ℕ} {key : Destination}

/-! ## What a choice tells -/

/-- A client is there and has the space. -/
theorem checkSueDestQueueSpace_eq_true :
    lb.checkSueDestQueueSpace sueId destXpuId vcId packetSize = true ↔
      ∃ c, lb.sueClients.lookup sueId = some c ∧
        packetSize ≤ subU32 c.getDestQueueMaxBytes (c.getDestQueueCurrentUsage destXpuId vcId) := by
  unfold checkSueDestQueueSpace getSueDestQueueAvailableSpace
  cases lb.sueClients.lookup sueId with
  | none =>
      apply iff_of_false
      · exact Bool.false_ne_true
      · rintro ⟨c, hc, -⟩
        cases hc
  | some c =>
      dsimp only
      rw [decide_eq_true_iff]
      constructor
      · exact fun h => ⟨c, rfl, h⟩
      · rintro ⟨c', hc', h⟩
        cases hc'
        exact h

/-- A client that is selected has been asked for space. -/
theorem check_of_select (h : lb.select b ≠ noSue) :
    lb.checkSueDestQueueSpace (lb.select b) b.destXpuId b.vcId b.packet.size = true := by
  unfold select selectSueWithDestQueueSpace at h ⊢
  dsimp only at h ⊢
  split_ifs at h ⊢ with hcheck halternative
  · exact hcheck
  · unfold tryNextAvailableSueWithSpace at h ⊢
    cases hfind : lb.sueIds.find? fun sueId =>
        lb.checkSueDestQueueSpace sueId b.destXpuId b.vcId b.packet.size with
    | none =>
        rw [hfind] at h
        exact absurd rfl h
    | some sueId =>
        have hsome := List.find?_some hfind
        exact hsome
  · exact absurd rfl h

/-- A client that is selected is there and has the space. -/
theorem exists_client_of_select (h : lb.select b ≠ noSue) :
    ∃ c, lb.sueClients.lookup (lb.select b) = some c ∧
      b.packet.size ≤
        subU32 c.getDestQueueMaxBytes (c.getDestQueueCurrentUsage b.destXpuId b.vcId) :=
  checkSueDestQueueSpace_eq_true.mp (check_of_select h)

theorem deliver_eq (h : lb.sueClients.lookup sueId = some c) :
    lb.deliver now sueId b =
      { lb with
        sueClients := lb.sueClients.insert sueId (c.addTransaction now b.packet b.destXpuId)
        deliveries := lb.deliveries ++ [⟨sueId, b, c.accepts b.packet b.destXpuId⟩] } := by
  unfold deliver
  rw [h]

/-! ## What operations leave alone -/

@[simp] theorem sueClients_advanceRoundRobin :
    lb.advanceRoundRobin.sueClients = lb.sueClients := rfl

@[simp] theorem deliveries_advanceRoundRobin :
    lb.advanceRoundRobin.deliveries = lb.deliveries := rfl

@[simp] theorem distributed_advanceRoundRobin :
    lb.advanceRoundRobin.distributed = lb.distributed := rfl

@[simp] theorem bufferQueue_advanceRoundRobin :
    lb.advanceRoundRobin.bufferQueue = lb.bufferQueue := rfl

/-- Telling the generator changes nothing else. -/
theorem frame_notifyTrafficGenerator (lb : LoadBalancer) (paused : Bool) :
    (lb.notifyTrafficGenerator paused).sueClients = lb.sueClients ∧
      (lb.notifyTrafficGenerator paused).bufferQueue = lb.bufferQueue ∧
      (lb.notifyTrafficGenerator paused).distributed = lb.distributed ∧
      (lb.notifyTrafficGenerator paused).deliveries = lb.deliveries := by
  unfold notifyTrafficGenerator
  split_ifs <;> exact ⟨rfl, rfl, rfl, rfl⟩

theorem frame_buffer (lb : LoadBalancer) (b : BufferedTransaction) :
    (lb.buffer b).sueClients = lb.sueClients ∧
      (lb.buffer b).bufferQueue = lb.bufferQueue ++ [b] ∧
      (lb.buffer b).distributed = lb.distributed ∧
      (lb.buffer b).deliveries = lb.deliveries := by
  unfold buffer
  dsimp only
  split_ifs
  · exact frame_notifyTrafficGenerator _ true
  · exact ⟨rfl, rfl, rfl, rfl⟩

/-- Giving a transaction to a client leaves the buffer alone. -/
theorem frame_deliver (lb : LoadBalancer) (now : ℕ) (sueId : UInt32) (b : BufferedTransaction) :
    (lb.deliver now sueId b).bufferQueue = lb.bufferQueue ∧
      (lb.deliver now sueId b).distributed = lb.distributed := by
  unfold deliver
  cases lb.sueClients.lookup sueId <;> exact ⟨rfl, rfl⟩

/-- What the turns of the loop do, beside the generator. -/
theorem frame_processBufferedTransactions (lb : LoadBalancer) (now : ℕ) :
    (lb.processBufferedTransactions now).sueClients =
        (processLoop now lb.bufferQueue lb).sueClients ∧
      (lb.processBufferedTransactions now).bufferQueue =
        (processLoop now lb.bufferQueue lb).bufferQueue ∧
      (lb.processBufferedTransactions now).distributed =
        (processLoop now lb.bufferQueue lb).distributed ∧
      (lb.processBufferedTransactions now).deliveries =
        (processLoop now lb.bufferQueue lb).deliveries := by
  unfold processBufferedTransactions
  dsimp only
  split_ifs with hempty
  · rw [hempty]
    exact ⟨rfl, rfl, rfl, rfl⟩
  · exact frame_notifyTrafficGenerator _ false
  · exact ⟨rfl, rfl, rfl, rfl⟩

/-- The loop over the buffer leaves the generator alone. -/
theorem generator_processLoop (now : ℕ) (l : List BufferedTransaction) (lb : LoadBalancer) :
    (processLoop now l lb).trafficGenerationPaused = lb.trafficGenerationPaused ∧
      (processLoop now l lb).trafficGenerator = lb.trafficGenerator := by
  induction l generalizing lb with
  | nil => exact ⟨rfl, rfl⟩
  | cons b rest ih =>
      unfold processLoop
      split_ifs
      · obtain ⟨hpaused, hgenerator⟩ := ih (lb.advanceRoundRobin.deliver now (lb.select b) b)
        rw [hpaused, hgenerator]
        unfold deliver
        cases lb.advanceRoundRobin.sueClients.lookup (lb.select b) <;> exact ⟨rfl, rfl⟩
      · exact ⟨rfl, rfl⟩

/-- A removal changes one client. -/
theorem popFront_eq_some {lb' : LoadBalancer} :
    lb.popFront sueId key = some lb' ↔ ∃ c c', lb.sueClients.lookup sueId = some c ∧
      c.popFront key = some c' ∧
      lb' = { lb with sueClients := lb.sueClients.insert sueId c' } := by
  unfold popFront
  rw [Option.bind_eq_some_iff]
  apply exists_congr
  intro c
  rw [Option.map_eq_some_iff]
  constructor
  · rintro ⟨hc, c', hc', rfl⟩
    exact ⟨c', hc, hc', rfl⟩
  · rintro ⟨c', hc, hc', rfl⟩
    exact ⟨hc, c', hc', rfl⟩

/-! ## What operations preserve -/

/-- A load balancer with another counter, and with another mark for the generator. -/
def withFlags (lb : LoadBalancer) (counter : UInt32) (paused : Bool)
    (generator : Option TrafficGenerator) : LoadBalancer :=
  { lb with
    roundRobinCounter := counter
    trafficGenerationPaused := paused
    trafficGenerator := generator }

/-- A transaction of the buffer is given to its client. -/
def serve (lb : LoadBalancer) (now : ℕ) (b : BufferedTransaction)
    (rest : List BufferedTransaction) : LoadBalancer :=
  { lb.deliver now (lb.select b) b with bufferQueue := rest }

theorem deliver_advanceRoundRobin :
    lb.advanceRoundRobin.deliver now sueId b =
      (lb.deliver now sueId b).withFlags lb.advanceRoundRobin.roundRobinCounter
        lb.trafficGenerationPaused lb.trafficGenerator := by
  unfold deliver
  rw [sueClients_advanceRoundRobin]
  cases lb.sueClients.lookup sueId <;> rfl

/-- A turn of the loop serves the head of the buffer. -/
theorem serve_withFlags {rest : List BufferedTransaction} :
    (serve { lb with bufferQueue := b :: rest } now b rest).withFlags
        lb.advanceRoundRobin.roundRobinCounter lb.trafficGenerationPaused lb.trafficGenerator =
      { lb.advanceRoundRobin.deliver now (lb.select b) b with bufferQueue := rest } := by
  rw [deliver_advanceRoundRobin]
  unfold serve deliver
  have hselect : select { lb with bufferQueue := b :: rest } b = lb.select b := rfl
  rw [hselect]
  cases lb.sueClients.lookup (lb.select b) <;> rfl

/-- The loop of `PopTransactionsFromQueue`, by induction on its count. -/
theorem popTransactionsFromQueue_induction {P : LoadBalancer → Prop}
    (hturn : ∀ lb popped, P lb → popFront lb sueId key = some popped →
      P (popped.notifyDestQueueSpaceAvailable now))
    (count : ℕ) (h : P lb) : P (popTransactionsFromQueue now sueId key count lb) := by
  induction count generalizing lb with
  | zero => exact h
  | succ count ih =>
      unfold popTransactionsFromQueue
      cases hpop : lb.popFront sueId key with
      | none => exact h
      | some popped =>
          apply ih
          exact hturn lb popped h hpop

/-- A property that the turns of the loops preserve. -/
structure Stable (P : LoadBalancer → Prop) : Prop where
  flags : ∀ lb counter paused generator, P lb → P (lb.withFlags counter paused generator)
  serve : ∀ lb now b rest, lb.bufferQueue = b :: rest → P lb → lb.select b ≠ noSue →
    P (lb.serve now b rest)
  pop : ∀ lb lb' sueId key, P lb → popFront lb sueId key = some lb' → P lb'

namespace Stable

variable {P : LoadBalancer → Prop}

theorem advanceRoundRobin (hP : Stable P) (h : P lb) : P lb.advanceRoundRobin :=
  hP.flags lb _ lb.trafficGenerationPaused lb.trafficGenerator h

theorem notifyTrafficGenerator (hP : Stable P) (h : P lb) (paused : Bool) :
    P (lb.notifyTrafficGenerator paused) := by
  unfold LoadBalancer.notifyTrafficGenerator
  split_ifs
  · exact h
  · exact hP.flags lb lb.roundRobinCounter _ _ h

/-- Where the loop over the buffer ends, by induction on what is left of it. -/
theorem processLoop_cases (hP : Stable P) (now : ℕ) (l : List BufferedTransaction)
    (lb : LoadBalancer) (h : P { lb with bufferQueue := l }) :
    (P (LoadBalancer.processLoop now l lb) ∧
        (LoadBalancer.processLoop now l lb).bufferQueue = []) ∨
      ∃ last b rest, P last ∧ last.bufferQueue = b :: rest ∧ last.select b = noSue ∧
        LoadBalancer.processLoop now l lb = last.advanceRoundRobin := by
  induction l generalizing lb with
  | nil => exact .inl ⟨h, rfl⟩
  | cons b rest ih =>
      unfold LoadBalancer.processLoop
      split_ifs with hselect
      · apply ih
        rw [← serve_withFlags]
        exact hP.flags _ _ _ _ (hP.serve _ now b rest rfl h hselect)
      · exact .inr ⟨_, b, rest, h, rfl, not_not.mp hselect, rfl⟩

theorem processLoop (hP : Stable P) (now : ℕ) (l : List BufferedTransaction) (lb : LoadBalancer)
    (h : P { lb with bufferQueue := l }) : P (processLoop now l lb) := by
  rcases hP.processLoop_cases now l lb h with ⟨hend, -⟩ | ⟨last, b, rest, hlast, -, -, heq⟩
  · exact hend
  · rw [heq]
    exact hP.advanceRoundRobin hlast

theorem notifyDestQueueSpaceAvailable (hP : Stable P) (now : ℕ) (h : P lb) :
    P (lb.notifyDestQueueSpaceAvailable now) := by
  have hloop : P (LoadBalancer.processLoop now lb.bufferQueue lb) :=
    hP.processLoop now lb.bufferQueue lb h
  unfold LoadBalancer.notifyDestQueueSpaceAvailable processBufferedTransactions
  dsimp only
  split_ifs
  · exact h
  · exact hP.notifyTrafficGenerator hloop false
  · exact hloop

theorem popTransactionsFromQueue (hP : Stable P) (now : ℕ) (sueId : UInt32)
    (key : Destination) (count : ℕ) (h : P lb) :
    P (popTransactionsFromQueue now sueId key count lb) := by
  refine popTransactionsFromQueue_induction ?_ count h
  intro lb popped h hpop
  exact hP.notifyDestQueueSpaceAvailable now (hP.pop lb popped sueId key h hpop)

/-- A transaction is given to its client or put into the buffer, unless it is for the local
unit. -/
theorem distributeTransaction (hP : Stable P) (now : ℕ) (b : BufferedTransaction) (h : P lb)
    (hgive : lb.select b ≠ noSue →
      P ({ lb with distributed := lb.distributed ++ [b] }.deliver now (lb.select b) b))
    (hbuffer : lb.select b = noSue →
      P { lb with
        distributed := lb.distributed ++ [b], bufferQueue := lb.bufferQueue ++ [b] }) :
    P (lb.distributeTransaction now b) := by
  unfold LoadBalancer.distributeTransaction
  dsimp only
  split_ifs with hlocal hselect
  · exact h
  · rw [deliver_advanceRoundRobin]
    exact hP.flags _ _ _ _ (hgive hselect)
  · have hbuffered := hP.advanceRoundRobin (hbuffer (not_not.mp hselect))
    unfold buffer
    dsimp only
    split_ifs
    · exact hP.notifyTrafficGenerator hbuffered true
    · exact hbuffered

end Stable

end LoadBalancer

/-! ## Runs -/

/-- What happens to a load balancer. -/
inductive LoadBalancerEvent
  /-- `DistributeTransaction`, for a packet to which a header has been added that `SetVc` has
  been given the virtual channel for. -/
  | distributeTransaction (now : ℕ) (packet : Transaction) (header : SueHeader)
      (destXpuId : UInt32) (vcId : UInt8)
  /-- `PopTransactionsFromQueue` of a client. -/
  | popTransactionsFromQueue (now : ℕ) (sueId : UInt32) (key : Destination) (count : ℕ)

/-- A packet with its header, on the way to the load balancer. -/
def Transaction.addressed (packet : Transaction) (header : SueHeader) (destXpuId : UInt32)
    (vcId : UInt8) : BufferedTransaction :=
  ⟨packet.withHeader (header.setVc vcId), destXpuId, vcId⟩

/-- The header of a transaction carries the lower bits of its virtual channel. -/
def BufferedTransaction.Built (b : BufferedTransaction) : Prop :=
  b.packet.vc = b.vcId &&& 0x03

theorem built_addressed (packet : Transaction) (header : SueHeader) (destXpuId : UInt32)
    (vcId : UInt8) : (packet.addressed header destXpuId vcId).Built :=
  (Transaction.vc_withHeader packet _).trans (SueHeader.getVc_setVc header vcId)

namespace LoadBalancer

/-- A load balancer after an event. -/
def act (lb : LoadBalancer) : LoadBalancerEvent → LoadBalancer
  | .distributeTransaction now packet header destXpuId vcId =>
      lb.distributeTransaction now (packet.addressed header destXpuId vcId)
  | .popTransactionsFromQueue now sueId key count =>
      popTransactionsFromQueue now sueId key count lb

end LoadBalancer

end UeSim
