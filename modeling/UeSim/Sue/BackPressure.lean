import UeSim.Sue.Distribution

/-!
# Back-pressure of the load balancer

The load balancer pauses the traffic generator when it has to buffer a transaction, and lets
it go on when the buffer has become empty.  The buffer is served when a client has taken a
transaction from a queue, from its head and as far as there is space.

`DistributeTransaction` does not look at the buffer.  So a transaction may overtake one that
waits there, unless the generator is as good as its word and gives nothing to the load
balancer while it is paused.  It may go on with the round in which it has been paused, in
which no queue becomes shorter.
-/

namespace UeSim

namespace LoadBalancer

variable {lb lb' : LoadBalancer} {now : ℕ} {n : UInt32} {b : BufferedTransaction}

/-! ## What should hold -/

/-- A client may be chosen for a transaction and has the space for it. -/
def Admissible (lb : LoadBalancer) (b : BufferedTransaction) (sueId : UInt32) : Prop :=
  lb.checkSueDestQueueSpace sueId b.destXpuId b.vcId b.packet.size = true ∧
    (sueId = lb.calculateHash b.destXpuId b.vcId ∨ lb.enableAlternativePath = true)

/-- No client is admissible for a transaction. -/
def Blocked (lb : LoadBalancer) (b : BufferedTransaction) : Prop :=
  ∀ sueId, ¬lb.Admissible b sueId

/-- No client is admissible for the head of the buffer. -/
def HeadBlocked (lb : LoadBalancer) : Prop :=
  ∀ b rest, lb.bufferQueue = b :: rest → lb.Blocked b

/-- Generation is paused exactly while the buffer is not empty, and the generator knows. -/
def PausedWhileBuffered (lb : LoadBalancer) : Prop :=
  (lb.trafficGenerationPaused = true ↔ lb.bufferQueue ≠ []) ∧
    lb.trafficGenerator = some ⟨lb.trafficGenerationPaused⟩

/-- A transaction for a destination and a virtual channel. -/
def isFor (destXpuId : UInt32) (vcId : UInt8) (b : BufferedTransaction) : Bool :=
  b.destXpuId = destXpuId && b.vcId = vcId

/-- The transactions of each destination and virtual channel reach the client that the hash
gives, in the order in which they were distributed. -/
def Ordered (lb : LoadBalancer) : Prop :=
  (∀ d ∈ lb.deliveries, d.sueId = lb.calculateHash d.item.destXpuId d.item.vcId) ∧
    ∀ destXpuId vcId,
      (((lb.deliveries.filter Delivery.kept).map Delivery.item).filter
        (isFor destXpuId vcId)).IsPrefix (lb.distributed.filter (isFor destXpuId vcId))

/-- The clients are those with the identifiers below `n`. -/
def Registered (n : UInt32) (lb : LoadBalancer) : Prop :=
  ∀ sueId, (∃ c, lb.sueClients.lookup sueId = some c) ↔ sueId < n

/-- A load balancer with `n` clients and a generator, before anything has been distributed. -/
structure Fresh (n : UInt32) (lb : LoadBalancer) : Prop where
  registered : lb.Registered n
  clients : ∀ sueId c, lb.sueClients.lookup sueId = some c → c.Within
  algorithm : lb.algorithm ≠ .roundRobin
  generator : lb.trafficGenerator = some {}
  unpaused : lb.trafficGenerationPaused = false
  bufferQueue : lb.bufferQueue = []
  distributed : lb.distributed = []
  deliveries : lb.deliveries = []

/-- The runs in which transactions are distributed at any time. -/
def distribution (n : UInt32) : TransitionSystem LoadBalancer LoadBalancerEvent where
  init := Fresh n
  step lb event := some (lb.act event)

/-! ## Clients that may be chosen -/

/-- With fewer than `UINT32_MAX` clients, the search for a client fails exactly when none is
admissible. -/
theorem select_eq_noSue_iff (h : lb.Registered n) : lb.select b = noSue ↔ lb.Blocked b := by
  have hsentinel : ¬lb.checkSueDestQueueSpace noSue b.destXpuId b.vcId b.packet.size = true := by
    intro hcheck
    obtain ⟨c, hc, -⟩ := checkSueDestQueueSpace_eq_true.mp hcheck
    have hlt := UInt32.lt_iff_toNat_lt.mp ((h noSue).mp ⟨c, hc⟩)
    have hn := n.toNat_lt
    have hmax : noSue.toNat = 4294967295 := rfl
    omega
  constructor
  · intro hnone sueId hadmissible
    obtain ⟨hcheck, hchoice⟩ := hadmissible
    unfold select selectSueWithDestQueueSpace at hnone
    dsimp only at hnone
    split_ifs at hnone with htarget hpath
    · exact hsentinel (hnone ▸ htarget)
    · unfold tryNextAvailableSueWithSpace at hnone
      cases hfind : lb.sueIds.find? fun sueId =>
          lb.checkSueDestQueueSpace sueId b.destXpuId b.vcId b.packet.size with
      | none =>
          obtain ⟨c, hc, -⟩ := checkSueDestQueueSpace_eq_true.mp hcheck
          have hkey : sueId ∈ lb.sueClients.keys :=
            AList.mem_keys.mp (AList.lookup_isSome.mp (Option.isSome_iff_exists.mpr ⟨c, hc⟩))
          have hmem : sueId ∈ lb.sueIds := (List.mem_insertionSort _).mpr hkey
          exact List.find?_eq_none.mp hfind sueId hmem hcheck
      | some found =>
          rw [hfind] at hnone
          have hfound := List.find?_some hfind
          cases hnone
          exact hsentinel hfound
    · rcases hchoice with rfl | htrue
      · exact htarget hcheck
      · exact hpath htrue
  · intro hblocked
    by_contra hsome
    have hcheck := check_of_select hsome
    apply hblocked (lb.select b)
    refine ⟨hcheck, ?_⟩
    unfold select selectSueWithDestQueueSpace at hsome ⊢
    dsimp only at hsome ⊢
    split_ifs at hsome ⊢ with htarget hpath
    · exact .inl rfl
    · exact .inr hpath
    · exact absurd rfl hsome

/-! ## Choices that a step leaves -/

/-- A step that leaves the choice of clients as it is, and that makes no space. -/
structure Tighter (lb lb' : LoadBalancer) : Prop where
  choice : lb'.calculateHash = lb.calculateHash
  path : lb'.enableAlternativePath = lb.enableAlternativePath
  space : ∀ sueId destXpuId vcId packetSize,
    lb'.checkSueDestQueueSpace sueId destXpuId vcId packetSize = true →
      lb.checkSueDestQueueSpace sueId destXpuId vcId packetSize = true

theorem Blocked.tighter (h : lb.Blocked b) (htighter : Tighter lb lb') : lb'.Blocked b := by
  intro sueId hadmissible
  apply h sueId
  refine ⟨htighter.space _ _ _ _ hadmissible.1, ?_⟩
  rw [← htighter.choice, ← htighter.path]
  exact hadmissible.2

theorem Tighter.trans {lb'' : LoadBalancer} (h : Tighter lb lb') (h' : Tighter lb' lb'') :
    Tighter lb lb'' :=
  ⟨h'.choice.trans h.choice, h'.path.trans h.path,
    fun sueId destXpuId vcId packetSize hcheck =>
      h.space _ _ _ _ (h'.space sueId destXpuId vcId packetSize hcheck)⟩

/-- The hash depends on the settings and on the number of clients. -/
theorem calculateHash_congr (halgorithm : lb'.algorithm = lb.algorithm)
    (hseed : lb'.hashSeed = lb.hashSeed) (hprime : lb'.prime1 = lb.prime1)
    (hcount : lb'.clientCount = lb.clientCount) (hfixed : lb.algorithm ≠ .roundRobin) :
    lb'.calculateHash = lb.calculateHash := by
  funext destXpuId vcId
  unfold calculateHash modClients
  rw [halgorithm, hseed, hprime, hcount]
  cases hcase : lb.algorithm with
  | roundRobin => exact absurd hcase hfixed
  | simpleMod => rfl
  | modWithSeed => rfl
  | primeHash => rfl
  | enhancedHash => rfl
  | consistentHash => rfl
  | other value => rfl

theorem tighter_withFlags (hfixed : lb.algorithm ≠ .roundRobin) (counter : UInt32)
    (paused : Bool) (generator : Option TrafficGenerator) :
    Tighter lb (lb.withFlags counter paused generator) :=
  ⟨calculateHash_congr rfl rfl rfl rfl hfixed, rfl, fun _ _ _ _ hcheck => hcheck⟩

theorem tighter_advanceRoundRobin (hfixed : lb.algorithm ≠ .roundRobin) :
    Tighter lb lb.advanceRoundRobin :=
  tighter_withFlags hfixed _ lb.trafficGenerationPaused lb.trafficGenerator

theorem tighter_notifyTrafficGenerator (hfixed : lb.algorithm ≠ .roundRobin) (paused : Bool) :
    Tighter lb (lb.notifyTrafficGenerator paused) := by
  unfold notifyTrafficGenerator
  split_ifs
  · exact ⟨rfl, rfl, fun _ _ _ _ hcheck => hcheck⟩
  · exact tighter_withFlags hfixed lb.roundRobinCounter _ _

/-- A transaction that a client is given takes space from one queue. -/
theorem tighter_deliver {sueId : UInt32} {c : SueClient} (now : ℕ) (h : lb.Bounded)
    (hfixed : lb.algorithm ≠ .roundRobin) (hplain : b.Plain)
    (hc : lb.sueClients.lookup sueId = some c)
    (hspace : b.packet.size ≤
      subU32 c.getDestQueueMaxBytes (c.getDestQueueCurrentUsage b.destXpuId b.vcId)) :
    Tighter lb (lb.deliver now sueId b) := by
  have hwithin := h.clients _ c hc
  have hwithin' := hwithin.addTransaction now (hwithin.fits_of_space hplain hspace)
  rw [deliver_eq hc]
  refine ⟨?_, rfl, ?_⟩
  · exact calculateHash_congr rfl rfl rfl (KeyedMap.length_insert_of_some hc _) hfixed
  · intro sueId' destXpuId vcId packetSize hcheck
    obtain ⟨c', hc', hspace'⟩ := checkSueDestQueueSpace_eq_true.mp hcheck
    apply checkSueDestQueueSpace_eq_true.mpr
    dsimp only at hc'
    by_cases hself : sueId' = sueId
    · subst hself
      rw [AList.lookup_insert] at hc'
      cases hc'
      refine ⟨c, hc, hspace'.trans ?_⟩
      rw [hwithin.space_eq, hwithin'.space_eq]
      have hbytes : (c.queueOf ⟨destXpuId, vcId⟩).bytes ≤
          ((c.addTransaction now b.packet b.destXpuId).queueOf ⟨destXpuId, vcId⟩).bytes := by
        rw [SueClient.queueOf_addTransaction]
        split_ifs
        · rw [QueueState.bytes_push]
          omega
        · exact le_refl _
      have hmax : (c.addTransaction now b.packet b.destXpuId).getDestQueueMaxBytes =
          c.getDestQueueMaxBytes := rfl
      omega
    · rw [AList.lookup_insert_ne hself] at hc'
      exact ⟨c', hc', hspace'⟩

/-- Distributing a transaction makes no space. -/
theorem tighter_distributeTransaction (now : ℕ) (h : lb.Bounded)
    (hfixed : lb.algorithm ≠ .roundRobin) (hplain : b.Plain) :
    Tighter lb (lb.distributeTransaction now b) := by
  have hrecord : Tighter lb { lb with distributed := lb.distributed ++ [b] } :=
    ⟨rfl, rfl, fun _ _ _ _ hcheck => hcheck⟩
  have hadvance := hrecord.trans (tighter_advanceRoundRobin hfixed)
  unfold distributeTransaction
  dsimp only
  split_ifs with hlocal hselect
  · exact ⟨rfl, rfl, fun _ _ _ _ hcheck => hcheck⟩
  · obtain ⟨c, hc, hspace⟩ := exists_client_of_select hselect
    have hbounded : Bounded { lb with
        distributed := lb.distributed ++ [b] }.advanceRoundRobin :=
      ⟨h.clients, h.buffered, h.kept⟩
    exact hadvance.trans (tighter_deliver now hbounded hfixed hplain hc hspace)
  · have hbuffer : Tighter lb { { lb with
        distributed := lb.distributed ++ [b] }.advanceRoundRobin with
        bufferQueue := lb.bufferQueue ++ [b] } :=
      hadvance.trans ⟨rfl, rfl, fun _ _ _ _ hcheck => hcheck⟩
    unfold buffer
    dsimp only
    split_ifs
    · refine hbuffer.trans (tighter_notifyTrafficGenerator ?_ true)
      exact hfixed
    · exact hbuffer

/-! ## What every step keeps -/

/-- The clients, the hash and the search for other clients are as at the beginning, and
the clients that have been given transactions are those of the hash, if there is no search
for others. -/
structure Regular (n : UInt32) (hash : UInt32 → UInt8 → UInt32) (path : Bool)
    (lb : LoadBalancer) : Prop where
  bounded : lb.Bounded
  registered : lb.Registered n
  fixed : lb.algorithm ≠ .roundRobin
  hashed : lb.calculateHash = hash
  searches : lb.enableAlternativePath = path
  targets : path = false → ∀ d ∈ lb.deliveries,
    d.sueId = hash d.item.destXpuId d.item.vcId

section Regular

variable {hash : UInt32 → UInt8 → UInt32} {path : Bool}

/-- Replacing a client registers no other. -/
theorem Registered.replace {sueId : UInt32} {c : SueClient} (h : lb.Registered n)
    (hc : lb.sueClients.lookup sueId = some c) (c' : SueClient) :
    Registered n { lb with sueClients := lb.sueClients.insert sueId c' } := by
  intro sueId'
  dsimp only
  by_cases hself : sueId' = sueId
  · subst hself
    rw [AList.lookup_insert]
    exact iff_of_true ⟨c', rfl⟩ ((h sueId').mp ⟨c, hc⟩)
  · rw [AList.lookup_insert_ne hself]
    exact h sueId'

/-- Without a search for other clients, the hash gives the client. -/
theorem select_eq_hash (hpath : lb.enableAlternativePath = false) (hselect : lb.select b ≠ noSue) :
    lb.select b = lb.calculateHash b.destXpuId b.vcId := by
  unfold select selectSueWithDestQueueSpace at hselect ⊢
  dsimp only at hselect ⊢
  rw [hpath] at hselect ⊢
  split_ifs at hselect ⊢ with htarget hfalse
  · rfl
  · cases hfalse
  · exact absurd rfl hselect

/-- A plain transaction is given to a client. -/
theorem Regular.deliver (now : ℕ) (h : Regular n hash path lb) (hplain : b.Plain)
    (hselect : lb.select b ≠ noSue) :
    Regular n hash path (lb.deliver now (lb.select b) b) := by
  obtain ⟨c, hc, hspace⟩ := exists_client_of_select hselect
  have htighter := tighter_deliver now h.bounded h.fixed hplain hc hspace
  have hbounded := h.bounded.deliver now hplain hselect
  have hregistered := h.registered.replace hc (c.addTransaction now b.packet b.destXpuId)
  rw [deliver_eq hc] at htighter hbounded ⊢
  refine ⟨hbounded, hregistered, h.fixed, htighter.choice.trans h.hashed, h.searches, ?_⟩
  intro hpath d hd
  rcases List.mem_append.mp hd with hd | hd
  · exact h.targets hpath d hd
  · cases List.mem_singleton.mp hd
    rw [← h.hashed]
    exact select_eq_hash (h.searches.trans hpath) hselect

theorem stable_regular : Stable (Regular n hash path) where
  flags lb counter paused generator h :=
    ⟨⟨h.bounded.clients, h.bounded.buffered, h.bounded.kept⟩, h.registered, h.fixed,
      (tighter_withFlags h.fixed counter paused generator).choice.trans h.hashed, h.searches,
      h.targets⟩
  serve lb now b rest hbuffer h hselect := by
    have hplain : b.Plain := h.bounded.buffered b (hbuffer ▸ List.mem_cons_self ..)
    have hserved := h.deliver now hplain hselect
    refine ⟨stable_bounded.serve lb now b rest hbuffer h.bounded hselect, hserved.registered,
      hserved.fixed, hserved.hashed, hserved.searches, hserved.targets⟩
  pop lb lb' sueId key h hpop := by
    have hbounded := stable_bounded.pop lb lb' sueId key h.bounded hpop
    obtain ⟨c, c', hc, -, rfl⟩ := popFront_eq_some.mp hpop
    refine ⟨hbounded, h.registered.replace hc c', h.fixed, ?_, h.searches, h.targets⟩
    rw [← h.hashed]
    exact calculateHash_congr rfl rfl rfl (KeyedMap.length_insert_of_some hc c') h.fixed

theorem Regular.distributeTransaction (now : ℕ) (h : Regular n hash path lb)
    (hplain : b.Plain) : Regular n hash path (lb.distributeTransaction now b) := by
  apply stable_regular.distributeTransaction now b h
  · intro hselect
    have hrecord : Regular n hash path { lb with distributed := lb.distributed ++ [b] } :=
      ⟨⟨h.bounded.clients, h.bounded.buffered, h.bounded.kept⟩, h.registered, h.fixed, h.hashed,
        h.searches, h.targets⟩
    exact hrecord.deliver now hplain hselect
  · intro _
    refine ⟨⟨h.bounded.clients, fun x hx => ?_, h.bounded.kept⟩, h.registered, h.fixed, h.hashed,
      h.searches, h.targets⟩
    rcases List.mem_append.mp hx with hx | hx
    · exact h.bounded.buffered x hx
    · cases List.mem_singleton.mp hx
      exact hplain

theorem Fresh.regular (h : Fresh n lb) :
    Regular n lb.calculateHash lb.enableAlternativePath lb := by
  refine ⟨⟨h.clients, ?_, ?_⟩, h.registered, h.algorithm, rfl, rfl, ?_⟩
  · rw [h.bufferQueue]
    exact fun b hb => absurd hb List.not_mem_nil
  · rw [h.deliveries]
    exact fun d hd => absurd hd List.not_mem_nil
  · rw [h.deliveries]
    exact fun _ d hd => absurd hd List.not_mem_nil

end Regular

/-! ## The generator and the head of the buffer -/

theorem HeadBlocked.of_tighter (h : lb.HeadBlocked) (htighter : Tighter lb lb')
    (hbuffer : lb'.bufferQueue = lb.bufferQueue) : lb'.HeadBlocked := by
  intro b rest hhead
  exact (h b rest (hbuffer.symm.trans hhead)).tighter htighter

theorem headBlocked_of_empty (h : lb.bufferQueue = []) : lb.HeadBlocked := by
  intro b rest hhead
  cases h.symm.trans hhead

section Invariants

variable {hash : UInt32 → UInt8 → UInt32} {path : Bool}

/-- Serving the buffer ends when it is empty or when its head is blocked. -/
theorem headBlocked_notifyDestQueueSpaceAvailable (now : ℕ) (h : Regular n hash path lb) :
    (lb.notifyDestQueueSpaceAvailable now).HeadBlocked := by
  have hloop : (processLoop now lb.bufferQueue lb).HeadBlocked := by
    rcases stable_regular.processLoop_cases now lb.bufferQueue lb h with
      ⟨-, hempty⟩ | ⟨last, b, rest, hlast, hhead, hselect, hend⟩
    · exact headBlocked_of_empty hempty
    · rw [hend]
      have hblocked : last.HeadBlocked := by
        intro b' rest' hhead'
        cases hhead.symm.trans hhead'
        exact (select_eq_noSue_iff hlast.registered).mp hselect
      exact hblocked.of_tighter (tighter_advanceRoundRobin hlast.fixed) rfl
  have hregular := stable_regular.processLoop now lb.bufferQueue lb h
  unfold notifyDestQueueSpaceAvailable processBufferedTransactions
  dsimp only
  split_ifs with hempty
  · exact headBlocked_of_empty hempty
  · exact hloop.of_tighter (tighter_notifyTrafficGenerator hregular.fixed false)
      (frame_notifyTrafficGenerator _ false).2.1
  · exact hloop

/-- The generator goes on when the buffer has become empty. -/
theorem PausedWhileBuffered.notifyDestQueueSpaceAvailable (now : ℕ)
    (h : lb.PausedWhileBuffered) :
    (lb.notifyDestQueueSpaceAvailable now).PausedWhileBuffered := by
  obtain ⟨hpaused, hgenerator⟩ := generator_processLoop now lb.bufferQueue lb
  unfold LoadBalancer.notifyDestQueueSpaceAvailable processBufferedTransactions
  dsimp only
  split_ifs with hempty hresume
  · exact h
  · unfold notifyTrafficGenerator
    rw [if_neg fun hfalse => Bool.noConfusion (hresume.2.symm.trans hfalse)]
    refine ⟨iff_of_false Bool.false_ne_true fun hne => hne hresume.1, ?_⟩
    dsimp only
    rw [hgenerator, h.2]
    rfl
  · have htrue := h.1.mpr hempty
    rw [hpaused] at hresume
    refine ⟨iff_of_true (hpaused.trans htrue) fun hnil => hresume ⟨hnil, htrue⟩, ?_⟩
    rw [hgenerator, hpaused]
    exact h.2

/-- What holds of the generator and of the buffer after every event. -/
structure Served (n : UInt32) (hash : UInt32 → UInt8 → UInt32) (path : Bool)
    (lb : LoadBalancer) : Prop where
  regular : Regular n hash path lb
  paused : lb.PausedWhileBuffered
  head : lb.HeadBlocked

theorem Served.popTransactionsFromQueue (now : ℕ) (sueId : UInt32) (key : Destination)
    (count : ℕ) (h : Served n hash path lb) :
    Served n hash path (popTransactionsFromQueue now sueId key count lb) := by
  refine popTransactionsFromQueue_induction ?_ count h
  intro lb popped h hpop
  have hregular := stable_regular.pop lb popped sueId key h.regular hpop
  obtain ⟨c, c', -, -, rfl⟩ := popFront_eq_some.mp hpop
  have hpaused : PausedWhileBuffered
      { lb with sueClients := lb.sueClients.insert sueId c' } := h.paused
  exact ⟨stable_regular.notifyDestQueueSpaceAvailable now hregular,
    hpaused.notifyDestQueueSpaceAvailable now,
    headBlocked_notifyDestQueueSpaceAvailable now hregular⟩

/-- The generator is paused when a transaction is the first one in the buffer. -/
theorem PausedWhileBuffered.buffer (h : lb.PausedWhileBuffered) (b : BufferedTransaction) :
    (lb.buffer b).PausedWhileBuffered := by
  have hne : lb.bufferQueue ++ [b] ≠ [] := by simp
  unfold LoadBalancer.buffer
  dsimp only
  split_ifs with hfirst
  · unfold notifyTrafficGenerator
    rw [if_neg hfirst.2]
    refine ⟨iff_of_true rfl hne, ?_⟩
    dsimp only
    rw [h.2]
    rfl
  · have hpaused : lb.trafficGenerationPaused = true := by
      by_contra hnot
      have hempty : lb.bufferQueue = [] := not_not.mp fun hne => hnot (h.1.mpr hne)
      apply hfirst
      rw [hempty]
      exact ⟨rfl, hnot⟩
    exact ⟨iff_of_true hpaused hne, h.2⟩

theorem PausedWhileBuffered.distributeTransaction (now : ℕ) (h : lb.PausedWhileBuffered)
    (b : BufferedTransaction) : (lb.distributeTransaction now b).PausedWhileBuffered := by
  have hrecord : PausedWhileBuffered
      { lb with distributed := lb.distributed ++ [b] }.advanceRoundRobin := h
  unfold LoadBalancer.distributeTransaction
  dsimp only
  split_ifs
  · exact h
  · unfold deliver
    cases LoadBalancer.sueClients
        { lb with distributed := lb.distributed ++ [b] }.advanceRoundRobin |>.lookup
          (lb.select b) with
    | none => exact hrecord
    | some c => exact hrecord
  · exact hrecord.buffer b

/-- Either the buffer is as before, or it ends in a transaction that has no client. -/
theorem bufferQueue_distributeTransaction (lb : LoadBalancer) (now : ℕ)
    (b : BufferedTransaction) :
    (lb.distributeTransaction now b).bufferQueue = lb.bufferQueue ∨
      lb.select b = noSue ∧
        (lb.distributeTransaction now b).bufferQueue = lb.bufferQueue ++ [b] := by
  unfold distributeTransaction
  dsimp only
  split_ifs with hlocal hselect
  · exact .inl rfl
  · exact .inl (frame_deliver _ now _ b).1
  · exact .inr ⟨not_not.mp hselect, (frame_buffer _ b).2.1⟩

theorem Served.distributeTransaction (now : ℕ) (h : Served n hash path lb) (hplain : b.Plain) :
    Served n hash path (lb.distributeTransaction now b) := by
  have htighter := tighter_distributeTransaction now h.regular.bounded h.regular.fixed hplain
  refine ⟨h.regular.distributeTransaction now hplain, h.paused.distributeTransaction now b, ?_⟩
  rcases bufferQueue_distributeTransaction lb now b with hsame | ⟨hselect, hbuffer⟩
  · exact h.head.of_tighter htighter hsame
  · intro b' rest' hhead
    rw [hbuffer] at hhead
    cases hqueue : lb.bufferQueue with
    | nil =>
        rw [hqueue] at hhead
        cases hhead
        exact ((select_eq_noSue_iff h.regular.registered).mp hselect).tighter htighter
    | cons first rest =>
        rw [hqueue] at hhead
        cases hhead
        exact (h.head _ _ hqueue).tighter htighter

theorem Fresh.served (h : Fresh n lb) :
    Served n lb.calculateHash lb.enableAlternativePath lb := by
  refine ⟨h.regular, ⟨?_, ?_⟩, headBlocked_of_empty h.bufferQueue⟩
  · rw [h.unpaused, h.bufferQueue]
    exact iff_of_false Bool.false_ne_true fun hne => hne rfl
  · rw [h.generator, h.unpaused]

end Invariants

end LoadBalancer

/-! ## Rounds of a generator -/

/-- A packet that a generator makes, with the header to which it gives the virtual
channel. -/
structure GeneratedTransaction where
  packet : Transaction
  header : SueHeader
  destXpuId : UInt32
  vcId : UInt8

/-- The transaction that the generator gives to the load balancer. -/
def GeneratedTransaction.item (t : GeneratedTransaction) : BufferedTransaction :=
  t.packet.addressed t.header t.destXpuId t.vcId

/-- What happens to a load balancer whose transactions come from its generator. -/
inductive GeneratorEvent
  /-- `GenerateTransaction` or `GenerateTransactions`, with what they make if generation is
  not paused. -/
  | generateTransactions (now : ℕ) (transactions : List GeneratedTransaction)
  /-- `PopTransactionsFromQueue` of a client. -/
  | popTransactionsFromQueue (now : ℕ) (sueId : UInt32) (key : Destination) (count : ℕ)

namespace LoadBalancer

variable {lb lb' : LoadBalancer} {now : ℕ} {n : UInt32} {b : BufferedTransaction}

/-- Give the transactions of a round to the load balancer. -/
def distributeAll (now : ℕ) (transactions : List GeneratedTransaction) (lb : LoadBalancer) :
    LoadBalancer :=
  transactions.foldl (fun lb t => lb.distributeTransaction now t.item) lb

/-- A round of the generator, which looks only at its beginning whether it is paused. -/
def generateTransactions (now : ℕ) (transactions : List GeneratedTransaction)
    (lb : LoadBalancer) : LoadBalancer :=
  if lb.trafficGenerator.any TrafficGenerator.generationPaused then lb
  else distributeAll now transactions lb

/-- The runs in which the transactions come from the generator. -/
def generation (n : UInt32) : TransitionSystem LoadBalancer GeneratorEvent where
  init := Fresh n
  step lb
    | .generateTransactions now transactions => some (generateTransactions now transactions lb)
    | .popTransactionsFromQueue now sueId key count =>
        some (popTransactionsFromQueue now sueId key count lb)

/-- The identifiers of a round have two bits, and its payloads have one size. -/
def EvenRound (size : ℕ) : GeneratorEvent → Prop
  | .generateTransactions _ transactions =>
      ∀ t ∈ transactions, t.vcId < 4 ∧ t.packet.payloadSize = size
  | .popTransactionsFromQueue .. => True

/-! ## Order -/

/-- For each destination and virtual channel, what has been given to clients, and then what
is in the buffer, is what has been distributed, in this order; and what is in the buffer has
one size. -/
structure InOrder (size : ℕ) (lb : LoadBalancer) : Prop where
  order : ∀ destXpuId vcId,
    (lb.deliveries.map Delivery.item).filter (isFor destXpuId vcId) ++
      lb.bufferQueue.filter (isFor destXpuId vcId) =
      lb.distributed.filter (isFor destXpuId vcId)
  even : ∀ b ∈ lb.bufferQueue, b.packet.payloadSize = size

/-- Nothing in the buffer has a client. -/
def AllBlocked (lb : LoadBalancer) : Prop :=
  ∀ b ∈ lb.bufferQueue, lb.Blocked b

section Order

variable {hash : UInt32 → UInt8 → UInt32} {path : Bool} {size : ℕ}

/-- The buffer is served from its head. -/
theorem stable_inOrder : Stable (InOrder size) where
  flags lb counter paused generator h := ⟨h.order, h.even⟩
  serve lb now b rest hbuffer h hselect := by
    obtain ⟨c, hc, -⟩ := exists_client_of_select hselect
    unfold serve
    rw [deliver_eq hc]
    refine ⟨fun destXpuId vcId => ?_, fun x hx => ?_⟩
    · have horder := h.order destXpuId vcId
      rw [hbuffer] at horder
      rw [← horder]
      dsimp only
      rw [List.map_append, List.filter_append, List.append_assoc, List.map_singleton,
        ← List.filter_append]
      rfl
    · exact h.even x (hbuffer ▸ List.mem_cons_of_mem b hx)
  pop lb lb' sueId key h hpop := by
    obtain ⟨c, c', -, -, rfl⟩ := popFront_eq_some.mp hpop
    exact ⟨h.order, h.even⟩

/-- A transaction that has a client overtakes nothing that has none. -/
theorem filter_eq_nil_of_allBlocked (hregistered : lb.Registered n) (hblocked : lb.AllBlocked)
    (heven : ∀ x ∈ lb.bufferQueue, x.packet.payloadSize = b.packet.payloadSize)
    (hselect : lb.select b ≠ noSue) : lb.bufferQueue.filter (isFor b.destXpuId b.vcId) = [] := by
  apply List.filter_eq_nil_iff.mpr
  intro x hx hfor
  apply hselect
  have hx_none := (select_eq_noSue_iff hregistered).mpr (hblocked x hx)
  unfold isFor at hfor
  rw [Bool.and_eq_true, decide_eq_true_iff, decide_eq_true_iff] at hfor
  have hsize : x.packet.size = b.packet.size :=
    congrArg (· + SueHeader.serializedSize) (heven x hx)
  unfold select at hx_none ⊢
  rw [hfor.1, hfor.2, hsize] at hx_none
  exact hx_none

theorem InOrder.distributeTransaction (now : ℕ) (h : lb.InOrder size)
    (hregistered : lb.Registered n) (hblocked : lb.AllBlocked)
    (hsize : b.packet.payloadSize = size) : (lb.distributeTransaction now b).InOrder size := by
  apply stable_inOrder.distributeTransaction now b h
  · intro hselect
    have hnone := filter_eq_nil_of_allBlocked hregistered hblocked
      (fun x hx => (h.even x hx).trans hsize.symm) hselect
    obtain ⟨c, hc, -⟩ := exists_client_of_select hselect
    unfold deliver
    dsimp only
    rw [hc]
    refine ⟨fun destXpuId vcId => ?_, h.even⟩
    have horder := h.order destXpuId vcId
    dsimp only
    rw [List.map_append, List.filter_append, List.filter_append, ← horder, List.append_assoc,
      List.append_assoc, List.map_singleton]
    congr 1
    by_cases hfor : isFor destXpuId vcId b = true
    · unfold isFor at hfor
      rw [Bool.and_eq_true, decide_eq_true_iff, decide_eq_true_iff] at hfor
      rw [← hfor.1, ← hfor.2, hnone]
      exact List.append_nil _
    · simp [hfor]
  · intro _
    refine ⟨fun destXpuId vcId => ?_, fun x hx => ?_⟩
    · dsimp only
      rw [List.filter_append, List.filter_append, ← List.append_assoc, h.order]
    · rcases List.mem_append.mp hx with hx | hx
      · exact h.even x hx
      · cases List.mem_singleton.mp hx
        exact hsize

theorem AllBlocked.distributeTransaction (now : ℕ) (h : lb.AllBlocked)
    (hregular : Regular n hash path lb) (hplain : b.Plain) :
    (lb.distributeTransaction now b).AllBlocked := by
  have htighter := tighter_distributeTransaction now hregular.bounded hregular.fixed hplain
  intro x hx
  rcases bufferQueue_distributeTransaction lb now b with hsame | ⟨hselect, hbuffer⟩
  · rw [hsame] at hx
    exact (h x hx).tighter htighter
  · rw [hbuffer] at hx
    rcases List.mem_append.mp hx with hx | hx
    · exact (h x hx).tighter htighter
    · cases List.mem_singleton.mp hx
      exact ((select_eq_noSue_iff hregular.registered).mp hselect).tighter htighter

/-- A round, by induction on its transactions: in it nothing in the buffer gets a client. -/
theorem distributeAll_inOrder (now : ℕ) (transactions : List GeneratedTransaction)
    (hserved : Served n hash path lb) (horder : lb.InOrder size) (hblocked : lb.AllBlocked)
    (heven : ∀ t ∈ transactions, t.vcId < 4 ∧ t.packet.payloadSize = size) :
    Served n hash path (distributeAll now transactions lb) ∧
      (distributeAll now transactions lb).InOrder size := by
  induction transactions generalizing lb with
  | nil => exact ⟨hserved, horder⟩
  | cons t transactions ih =>
      obtain ⟨hbits, hsize⟩ := heven t (List.mem_cons_self ..)
      have hplain : t.item.Plain :=
        ⟨hbits, built_addressed t.packet t.header t.destXpuId t.vcId⟩
      exact ih (hserved.distributeTransaction now hplain)
        (horder.distributeTransaction now hserved.regular.registered hblocked hsize)
        (hblocked.distributeTransaction now hserved.regular hplain)
        fun t ht => heven t (List.mem_cons_of_mem _ ht)

/-- What holds in the runs in which the transactions come from the generator. -/
theorem generation_keeps {event : GeneratorEvent}
    (h : Served n hash path lb ∧ lb.InOrder size) (heven : EvenRound size event)
    (hstep : (generation n).step lb event = some lb') :
    Served n hash path lb' ∧ lb'.InOrder size := by
  cases event with
  | generateTransactions now transactions =>
      cases hstep
      unfold generateTransactions
      split_ifs with hpaused
      · exact h
      · apply distributeAll_inOrder now transactions h.1 h.2 ?_ heven
        have hrunning : ¬lb.trafficGenerationPaused = true := by
          rw [h.1.paused.2] at hpaused
          exact hpaused
        have hempty : lb.bufferQueue = [] :=
          not_not.mp fun hne => hrunning (h.1.paused.1.mpr hne)
        intro x hx
        rw [hempty] at hx
        exact absurd hx List.not_mem_nil
  | popTransactionsFromQueue now sueId key count =>
      cases hstep
      exact ⟨h.1.popTransactionsFromQueue now sueId key count,
        stable_inOrder.popTransactionsFromQueue now sueId key count h.2⟩

theorem Fresh.inOrder (h : Fresh n lb) : lb.InOrder size := by
  refine ⟨fun destXpuId vcId => ?_, ?_⟩
  · rw [h.deliveries, h.bufferQueue, h.distributed]
    rfl
  · rw [h.bufferQueue]
    exact fun x hx => absurd hx List.not_mem_nil

/-- What is in order has reached the clients in order. -/
theorem InOrder.ordered (h : lb.InOrder size) (hserved : Served n hash false lb) :
    lb.Ordered := by
  constructor
  · rw [hserved.regular.hashed]
    exact hserved.regular.targets rfl
  · intro destXpuId vcId
    rw [List.filter_eq_self.mpr hserved.regular.bounded.kept, ← h.order]
    exact List.prefix_append _ _

end Order

/-! ## Runs -/

/-- With identifiers of two bits, generation is paused exactly while the buffer is not empty,
and no client is admissible for the head of the buffer, whenever transactions are distributed.
If they come from the generator, have one size and there is no search for other clients, they
reach the clients in order. -/
theorem backPressure (n : UInt32) :
    (∀ lb, (distribution n).ReachableBy (fun _ event => TwoBits event) lb →
      lb.PausedWhileBuffered ∧ lb.HeadBlocked) ∧
    ∀ size lb, (generation n).ReachableBy (fun _ event => EvenRound size event) lb →
      lb.enableAlternativePath = false → lb.Ordered := by
  constructor
  · intro lb hreach
    have hserved : ∃ hash path, Served n hash path lb := by
      refine hreach.invariant (P := fun s => ∃ hash path, Served n hash path s) ?_ ?_
      · exact fun s hfresh => ⟨_, _, hfresh.served⟩
      · rintro s event t ⟨hash, path, hserved⟩ hbits hstep
        refine ⟨hash, path, ?_⟩
        cases event with
        | distributeTransaction now packet header destXpuId vcId =>
            cases hstep
            exact hserved.distributeTransaction now
              ⟨hbits, built_addressed packet header destXpuId vcId⟩
        | popTransactionsFromQueue now sueId key count =>
            cases hstep
            exact hserved.popTransactionsFromQueue now sueId key count
    obtain ⟨hash, path, hserved⟩ := hserved
    exact ⟨hserved.paused, hserved.head⟩
  · intro size lb hreach hpath
    have hboth : ∃ hash path, Served n hash path lb ∧ lb.InOrder size := by
      refine hreach.invariant (P := fun s => ∃ hash path, Served n hash path s ∧ s.InOrder size)
        ?_ ?_
      · exact fun s hfresh => ⟨_, _, hfresh.served, hfresh.inOrder⟩
      · rintro s event t ⟨hash, path, hboth⟩ heven hstep
        exact ⟨hash, path, generation_keeps hboth heven hstep⟩
    obtain ⟨hash, path, hserved, horder⟩ := hboth
    cases hserved.regular.searches.symm.trans hpath
    exact horder.ordered hserved

/-! ## Runs with one client -/

/-- A load balancer with a generator, whose client takes one packet of 8 bytes for each
queue. -/
def oneClientPaced : LoadBalancer := { oneClient with trafficGenerator := some {} }

theorem fresh_oneClientPaced : Fresh 1 oneClientPaced := by
  refine ⟨fun sueId => ?_, fun sueId c hc => ?_, fun h => ?_, rfl, rfl, rfl, rfl, rfl⟩
  · unfold oneClientPaced oneClient
    dsimp only
    by_cases hzero : sueId = 0
    · subst hzero
      rw [AList.lookup_insert]
      exact iff_of_true ⟨_, rfl⟩ (by decide)
    · rw [AList.lookup_insert_ne hzero]
      refine iff_of_false (fun ⟨c, hc⟩ => ?_) fun hlt => hzero (UInt32.lt_one_iff.mp hlt)
      cases (AList.lookup_empty sueId).symm.trans hc
  · unfold oneClientPaced oneClient at hc
    dsimp only at hc
    by_cases hzero : sueId = 0
    · subst hzero
      rw [AList.lookup_insert] at hc
      cases hc
      exact SueClient.within_of_empty rfl
    · rw [AList.lookup_insert_ne hzero] at hc
      cases (AList.lookup_empty sueId).symm.trans hc
  · cases h

/-- A transaction without payload to a destination, on virtual channel 0. -/
def emptyFor (id : ℕ) (destXpuId : UInt32) : LoadBalancerEvent :=
  .distributeTransaction 0 (emptyPacket id) {} destXpuId 0

/-- Two destinations have a transaction in the client and another one in the buffer.  The
second destination becomes free, and a third transaction for it is distributed. -/
def overtaking : List LoadBalancerEvent :=
  [emptyFor 1 1, emptyFor 2 2, emptyFor 3 1, emptyFor 4 2,
    .popTransactionsFromQueue 0 0 ⟨2, 0⟩ 1, emptyFor 5 2]

/-- The size of the payload of a transaction that is distributed. -/
def HasSize (size : ℕ) : LoadBalancerEvent → Prop
  | .distributeTransaction _ packet _ _ _ => packet.payloadSize = size
  | .popTransactionsFromQueue .. => True

theorem even_overtaking : ∀ event ∈ overtaking, TwoBits event ∧ HasSize 0 event := by
  intro event hevent
  simp only [overtaking, emptyFor, List.mem_cons, List.not_mem_nil, or_false] at hevent
  rcases hevent with rfl | rfl | rfl | rfl | rfl | rfl <;> simp [TwoBits, HasSize, emptyPacket]

/-- A transaction overtakes one that waits in the buffer. -/
theorem not_ordered_overtaking :
    ∃ lb, (distribution 1).ReachableBy (fun _ event => TwoBits event ∧ HasSize 0 event) lb ∧
      lb.enableAlternativePath = false ∧ ¬lb.Ordered := by
  obtain ⟨lb, hrun⟩ : ∃ lb, (distribution 1).runActions oneClientPaced overtaking = some lb :=
    ⟨_, rfl⟩
  refine ⟨lb, ?_, ?_, fun h => ?_⟩
  · exact TransitionSystem.ReachableBy.runActions (.init fresh_oneClientPaced)
      (fun _ event hevent => even_overtaking event hevent) hrun
  · cases hrun
    rfl
  · have hprefix := h.2 2 0
    cases hrun
    exact absurd hprefix (by decide)

/-- A transaction of a round, without payload and on virtual channel 0. -/
def emptyGenerated (id : ℕ) (destXpuId : UInt32) : GeneratedTransaction :=
  ⟨emptyPacket id, {}, destXpuId, 0⟩

/-- The same transactions from the generator, whose second round begins while it is
paused. -/
def rounds : List GeneratorEvent :=
  [.generateTransactions 0
      [emptyGenerated 1 1, emptyGenerated 2 2, emptyGenerated 3 1, emptyGenerated 4 2],
    .popTransactionsFromQueue 0 0 ⟨2, 0⟩ 1,
    .generateTransactions 0 [emptyGenerated 5 2],
    .popTransactionsFromQueue 0 0 ⟨1, 0⟩ 1]

/-- Both parts of the statement, for these runs. -/
theorem backPressure_oneClientPaced :
    (∃ lb, (distribution 1).runActions oneClientPaced overtaking = some lb ∧
      lb.PausedWhileBuffered ∧ lb.HeadBlocked) ∧
    ∃ lb, (generation 1).runActions oneClientPaced rounds = some lb ∧ lb.Ordered := by
  constructor
  · obtain ⟨lb, hrun⟩ : ∃ lb, (distribution 1).runActions oneClientPaced overtaking = some lb :=
      ⟨_, rfl⟩
    refine ⟨lb, hrun, (backPressure 1).1 lb ?_⟩
    exact TransitionSystem.ReachableBy.runActions (.init fresh_oneClientPaced)
      (fun _ event hevent => (even_overtaking event hevent).1) hrun
  · obtain ⟨lb, hrun⟩ : ∃ lb, (generation 1).runActions oneClientPaced rounds = some lb :=
      ⟨_, rfl⟩
    refine ⟨lb, hrun, (backPressure 1).2 0 lb ?_ ?_⟩
    · refine TransitionSystem.ReachableBy.runActions (.init fresh_oneClientPaced) ?_ hrun
      intro _ event hevent
      simp only [rounds, List.mem_cons, List.not_mem_nil, or_false] at hevent
      rcases hevent with rfl | rfl | rfl | rfl <;> simp [EvenRound, emptyGenerated, emptyPacket]
    · cases hrun
      rfl

end LoadBalancer

end UeSim
