import UeSim.Sue.SendScheduler
import UeSim.Support.Transition

/-!
# Transactions that are sent once

A client whose transactions are given to it, whose rounds pack them, and whose packets are
sent or fail, in any order.  Packing leaves a transaction in its queue, and a packet that has
been sent takes as many transactions out of the queue as its size suggests.  A record of what
the client has accepted tells whether each transaction is sent once.

As long as a packet that is sent starts with the first transaction of its queue and takes out
what it contains, a queue is what has been accepted for it without what has been sent.
-/

namespace UeSim

/-! ## Lists without duplicates -/

section Lists

variable {α β : Type*} [DecidableEq α]

omit [DecidableEq α] in
/-- A part of a list that begins with the same element as a suffix is a prefix of it. -/
theorem prefix_of_infix_of_nodup {x : α} {before part suffix : List α}
    (hnodup : (before ++ x :: suffix).Nodup) (hpart : x :: part <:+: before ++ x :: suffix) :
    x :: part <+: x :: suffix := by
  obtain ⟨before', after, hsplit⟩ := hpart
  rw [List.append_assoc, List.cons_append] at hsplit
  obtain ⟨-, hsuffix, hdisjoint⟩ := List.nodup_append.mp hnodup
  have hbefore : x ∉ before := fun h => hdisjoint x h x List.mem_cons_self rfl
  obtain ⟨-, -, htail⟩ :=
    (List.append_cons_inj_of_notMem hbefore (List.nodup_cons.mp hsuffix).1).mp hsplit.symm
  exact ⟨after, by rw [htail, List.cons_append]⟩

/-- An element of a list without duplicates comes from one of its pieces. -/
theorem countP_mem_of_nodup {f : β → List α} {l : List β} {x : α}
    (hnodup : (l.flatMap f).Nodup) (hx : x ∈ l.flatMap f) :
    l.countP (fun p => decide (x ∈ f p)) = 1 := by
  induction l with
  | nil => cases hx
  | cons p l ih =>
      rw [List.flatMap_cons] at hnodup hx
      obtain ⟨-, hrest, hdisjoint⟩ := List.nodup_append.mp hnodup
      by_cases hp : x ∈ f p
      · have hnone : l.countP (fun p => decide (x ∈ f p)) = 0 := by
          rw [List.countP_eq_zero]
          intro q hq hmem
          exact hdisjoint x hp x (List.mem_flatMap.mpr ⟨q, hq, of_decide_eq_true hmem⟩) rfl
        rw [List.countP_cons, hnone, if_pos (decide_eq_true hp)]
      · rw [List.countP_cons, if_neg fun h => hp (of_decide_eq_true h)]
        exact ih hrest ((List.mem_append.mp hx).resolve_left hp)

end Lists

namespace SueClient

/-- The transactions of the packets that have been sent to a destination. -/
def sentFor (c : SueClient) (key : Destination) : List Transaction :=
  (c.sent.filter fun p => decide (p.burst.dest = key)).flatMap fun p => p.burst.transactions

/-- The number of packets that have been sent with a transaction. -/
def sentCount (c : SueClient) (t : Transaction) : ℕ :=
  c.sent.countP fun p => decide (t ∈ p.burst.transactions)

end SueClient

/-! ## Runs -/

/-- A client, with the transactions that it has accepted and their queues. -/
structure SendLedger where
  client : SueClient
  accepted : List (Destination × Transaction) := []

/-- What happens to a client.  The callback of `PopTransactionsFromQueue` gives it some
transactions after each removal. -/
inductive ClientEvent
  | addTransaction (now : ℕ) (t : Transaction) (destXpuId : UInt32)
  | scheduleNextSend (now : ℕ) (devices : List DeviceCapacityInfo)
  | doSendBurst (now i : ℕ) (outcome : SendOutcome)
      (arrivals : List (List (Transaction × UInt32)))

namespace SendLedger

/-- The transactions of a record that are for a queue. -/
def forKey (key : Destination) (l : List (Destination × Transaction)) : List Transaction :=
  (l.filter fun e => decide (e.1 = key)).map Prod.snd

/-- What has been accepted for a queue. -/
def acceptedFor (s : SendLedger) (key : Destination) : List Transaction := forKey key s.accepted

/-- `AddTransaction`, for a packet that has not been accepted before. -/
def give (s : SendLedger) (now : ℕ) (t : Transaction) (destXpuId : UInt32) : SendLedger :=
  if t ∈ s.accepted.map Prod.snd then s
  else
    { client := s.client.addTransaction now t destXpuId
      accepted :=
        if s.client.accepts t destXpuId then
          s.accepted ++ [(SueClient.keyOf t destXpuId, t)]
        else s.accepted }

/-- What a call of the callback gives. -/
def giveAll (now : ℕ) : List (Transaction × UInt32) → SendLedger → SendLedger
  | [], s => s
  | x :: rest, s => giveAll now rest (s.give now x.1 x.2)

/-- `PopTransactionsFromQueue`, with what its callback gives after each removal. -/
def popTransactionsFromQueue (now : ℕ) (key : Destination) :
    ℕ → List (List (Transaction × UInt32)) → SendLedger → SendLedger
  | 0, _, s => s
  | count + 1, arrivals, s =>
      match s.client.popFront key with
      | none => s
      | some c =>
          popTransactionsFromQueue now key count arrivals.tail
            (giveAll now (arrivals.headD []) { s with client := c })

/-- `DoSendBurst` of the `i`-th packet that is scheduled. -/
def doSendBurst (s : SendLedger) (now i : ℕ) (outcome : SendOutcome)
    (arrivals : List (List (Transaction × UInt32))) : Option SendLedger :=
  s.client.bursts[i]?.map fun b =>
    popTransactionsFromQueue now b.dest (s.client.popCount b outcome) arrivals
      { s with client := s.client.sendTo now i b outcome }

/-- A client from its construction on, with any attributes. -/
def system : TransitionSystem SendLedger ClientEvent where
  init s := s.accepted = [] ∧ s.client.destQueues = ∅ ∧ s.client.bursts = [] ∧ s.client.sent = []
  step s
    | .addTransaction now t destXpuId => some (s.give now t destXpuId)
    | .scheduleNextSend now devices =>
        (s.client.scheduleNextSend now devices).map fun c => { s with client := c }
    | .doSendBurst now i outcome arrivals => s.doSendBurst now i outcome arrivals

/-! ## What is expected of a run -/

/-- Each transaction is sent once. -/
structure SentExactlyOnce (s : SendLedger) : Prop where
  /-- No transaction is in two packets that have been sent. -/
  atMostOnce : ∀ t, s.client.sentCount t ≤ 1
  /-- What has left its queue is in a packet that has been sent. -/
  left : ∀ key t, t ∈ s.acceptedFor key → t ∉ (s.client.queueOf key).transactions →
    s.client.sentCount t = 1
  /-- The packets of a destination carry the transactions in the order of the queue. -/
  order : ∀ key, s.client.sentFor key <+: s.acceptedFor key

/-- A packet with what its sending takes out of the queue: it starts with the first
transaction that is there, and its size, divided by the size of a transaction and rounded up,
is the number of its transactions, or more than that where nothing else is in the queue. -/
structure Matches (c : SueClient) (b : Burst) (arrivals : List (List (Transaction × UInt32))) :
    Prop where
  head : b.transactions.head? = (c.queueOf b.dest).transactions.head?
  small : (b.transactions.map Transaction.payloadSize).sum + c.transactionSize.toNat ≤ 2 ^ 32
  least : b.transactions.length = 1 ∨
    (b.transactions.length - 1) * c.transactionSize.toNat <
      (b.transactions.map Transaction.payloadSize).sum
  most : (b.transactions.map Transaction.payloadSize).sum ≤
      b.transactions.length * c.transactionSize.toNat ∨
    (0 < c.transactionSize.toNat ∧
      (c.queueOf b.dest).transactions.length = b.transactions.length ∧
      ∀ batch ∈ arrivals, ∀ x ∈ batch, SueClient.keyOf x.1 x.2 ≠ b.dest)

/-- The packets that are sent match their queues. -/
def PacketsMatch (s : SendLedger) : ClientEvent → Prop
  | .doSendBurst _ i outcome arrivals =>
      ∀ b, s.client.bursts[i]? = some b → b.isSent outcome = true → Matches s.client b arrivals
  | _ => True

instance (c : SueClient) (b : Burst) (arrivals : List (List (Transaction × UInt32))) :
    Decidable (Matches c b arrivals) :=
  decidable_of_iff (_ ∧ _ ∧ _ ∧ _)
    ⟨fun ⟨head, small, least, most⟩ => ⟨head, small, least, most⟩,
      fun h => ⟨h.head, h.small, h.least, h.most⟩⟩

instance (s : SendLedger) : ∀ event, Decidable (s.PacketsMatch event)
  | .addTransaction _ _ _ => inferInstanceAs (Decidable True)
  | .scheduleNextSend _ _ => inferInstanceAs (Decidable True)
  | .doSendBurst _ i _ _ => inferInstanceAs (Decidable (∀ b ∈ s.client.bursts[i]?, _))

/-- A queue is what has been accepted for it, without what has been sent; a packet that is
scheduled is a part of what has been accepted. -/
structure Accounted (s : SendLedger) : Prop where
  fresh : (s.accepted.map Prod.snd).Nodup
  queues : ∀ key,
    s.acceptedFor key = s.client.sentFor key ++ (s.client.queueOf key).transactions
  parts : ∀ b ∈ s.client.bursts,
    b.transactions ≠ [] ∧ b.transactions <:+: s.acceptedFor b.dest

variable {s s' s'' : SendLedger} {c : SueClient} {key : Destination} {now : ℕ} {t : Transaction}
variable {destXpuId : UInt32} {b : Burst} {arrivals : List (List (Transaction × UInt32))}

theorem forKey_append (key : Destination) (l l' : List (Destination × Transaction)) :
    forKey key (l ++ l') = forKey key l ++ forKey key l' := by
  unfold forKey
  rw [List.filter_append, List.map_append]

theorem mem_forKey {l : List (Destination × Transaction)} : t ∈ forKey key l ↔ (key, t) ∈ l := by
  unfold forKey
  constructor
  · intro h
    obtain ⟨e, he, rfl⟩ := List.mem_map.mp h
    obtain ⟨hmem, hkey⟩ := List.mem_filter.mp he
    obtain rfl := of_decide_eq_true hkey
    exact hmem
  · intro h
    exact List.mem_map.mpr ⟨(key, t), List.mem_filter.mpr ⟨h, decide_eq_true rfl⟩, rfl⟩

theorem forKey_eq_nil {l : List (Destination × Transaction)} (h : ∀ e ∈ l, e.1 ≠ key) :
    forKey key l = [] := by
  rw [List.eq_nil_iff_forall_not_mem]
  intro t ht
  exact h _ (mem_forKey.mp ht) rfl

/-! ## What an accounted record tells -/

theorem Accounted.nodup (h : s.Accounted) (key : Destination) : (s.acceptedFor key).Nodup :=
  (List.Nodup.sublist (List.filter_sublist.map Prod.snd) h.fresh)

/-- A transaction is accepted for one queue. -/
theorem Accounted.key_unique {key' : Destination} (h : s.Accounted) (ht : t ∈ s.acceptedFor key)
    (ht' : t ∈ s.acceptedFor key') : key = key' := by
  have heq := List.inj_on_of_nodup_map h.fresh (mem_forKey.mp ht) (mem_forKey.mp ht') rfl
  exact congrArg Prod.fst heq

/-- What has been sent to a destination has been sent once. -/
theorem Accounted.sentCount_eq_one (h : s.Accounted) (ht : t ∈ s.client.sentFor key) :
    s.client.sentCount t = 1 := by
  have hsent (key : Destination) : s.client.sentFor key <+: s.acceptedFor key :=
    ⟨_, (h.queues key).symm⟩
  have hothers : (s.client.sent.filter fun p => !decide (p.burst.dest = key)).countP
      (fun p => decide (t ∈ p.burst.transactions)) = 0 := by
    rw [List.countP_eq_zero]
    intro p hp hmem
    obtain ⟨hp, hdest⟩ := List.mem_filter.mp hp
    have ht' : t ∈ s.client.sentFor p.burst.dest :=
      List.mem_flatMap.mpr
        ⟨p, List.mem_filter.mpr ⟨hp, decide_eq_true rfl⟩, of_decide_eq_true hmem⟩
    have hkey : key = p.burst.dest :=
      h.key_unique ((hsent key).subset ht) ((hsent _).subset ht')
    rw [hkey, decide_eq_true rfl] at hdest
    cases hdest
  unfold SueClient.sentCount
  rw [List.countP_eq_countP_filter_add _ _ fun p => decide (p.burst.dest = key), hothers]
  exact countP_mem_of_nodup ((h.nodup key).sublist (hsent key).sublist) ht

/-- In a record that is accounted for, each transaction is sent once. -/
theorem Accounted.sentExactlyOnce (h : s.Accounted) : s.SentExactlyOnce := by
  refine ⟨?_, ?_, ?_⟩
  · intro t
    by_cases hnone : s.client.sentCount t = 0
    · omega
    · obtain ⟨p, hp, hmem⟩ := List.countP_pos_iff.mp (Nat.pos_of_ne_zero hnone)
      have ht : t ∈ s.client.sentFor p.burst.dest :=
        List.mem_flatMap.mpr
          ⟨p, List.mem_filter.mpr ⟨hp, decide_eq_true rfl⟩, of_decide_eq_true hmem⟩
      exact (h.sentCount_eq_one ht).le
  · intro key t ht hleft
    rw [h.queues key] at ht
    exact h.sentCount_eq_one ((List.mem_append.mp ht).resolve_right hleft)
  · intro key
    exact ⟨_, (h.queues key).symm⟩

/-! ## Giving and taking -/

/-- What giving and taking do: `taken` transactions leave the queue of `key`, and those of a
record are accepted. -/
structure Advance (s s' : SendLedger) (key : Destination) (taken : ℕ)
    (added : List (Destination × Transaction)) : Prop where
  bursts : s'.client.bursts = s.client.bursts
  sent : s'.client.sent = s.client.sent
  accepted : s'.accepted = s.accepted ++ added
  fresh : (s.accepted.map Prod.snd).Nodup → (s'.accepted.map Prod.snd).Nodup
  bound : taken ≤ ((s.client.queueOf key).transactions ++ forKey key added).length
  queues : ∀ key', (s'.client.queueOf key').transactions =
    ((s.client.queueOf key').transactions ++ forKey key' added).drop
      (if key' = key then taken else 0)

theorem Advance.refl (s : SendLedger) (key : Destination) : Advance s s key 0 [] := by
  refine ⟨rfl, rfl, ?_, id, Nat.zero_le _, ?_⟩
  · exact (List.append_nil _).symm
  · intro key'
    rw [ite_self, List.drop_zero]
    exact (List.append_nil _).symm

/-- Two advances are one. -/
theorem Advance.trans {taken taken' : ℕ} {added added' : List (Destination × Transaction)}
    (h : Advance s s' key taken added) (h' : Advance s' s'' key taken' added') :
    Advance s s'' key (taken + taken') (added ++ added') := by
  have hqueue (key' : Destination) (ht : (if key' = key then taken else 0) ≤
      ((s.client.queueOf key').transactions ++ forKey key' added).length) :
      (s''.client.queueOf key').transactions =
        ((s.client.queueOf key').transactions ++ forKey key' (added ++ added')).drop
          ((if key' = key then taken else 0) + if key' = key then taken' else 0) := by
    rw [h'.queues, h.queues, ← List.drop_drop, forKey_append, ← List.append_assoc,
      List.drop_append_of_le_length ht]
  refine ⟨h'.bursts.trans h.bursts, h'.sent.trans h.sent, ?_, h'.fresh ∘ h.fresh, ?_, ?_⟩
  · rw [h'.accepted, h.accepted, List.append_assoc]
  · have hbound := h'.bound
    rw [h.queues key, if_pos rfl] at hbound
    have hfirst := h.bound
    simp only [forKey_append, List.length_append, List.length_drop] at hbound hfirst ⊢
    omega
  · intro key'
    rw [hqueue key']
    · split_ifs <;> rfl
    · split_ifs with hkey
      · rw [hkey]
        exact h.bound
      · exact Nat.zero_le _

/-- A transaction that is given is accepted at the end of its queue, or dropped. -/
theorem exists_advance_give (s : SendLedger) (key : Destination) (now : ℕ) (t : Transaction)
    (destXpuId : UInt32) : ∃ added, Advance s (s.give now t destXpuId) key 0 added ∧
      ∀ e ∈ added, e.1 = SueClient.keyOf t destXpuId := by
  have hqueues (key' : Destination) :=
    SueClient.queueOf_addTransaction s.client now t destXpuId key'
  unfold give
  by_cases hold : t ∈ s.accepted.map Prod.snd
  · rw [if_pos hold]
    exact ⟨[], Advance.refl s key, fun e he => by cases he⟩
  rw [if_neg hold]
  by_cases hkept : s.client.accepts t destXpuId = true
  · refine ⟨[(SueClient.keyOf t destXpuId, t)],
      ⟨rfl, rfl, if_pos hkept, ?_, Nat.zero_le _, ?_⟩, ?_⟩
    · intro hfresh
      dsimp only
      rw [if_pos hkept, List.map_append]
      exact hfresh.append (List.nodup_singleton t) (by simpa using hold)
    · intro key'
      dsimp only
      rw [hqueues, ite_self, List.drop_zero]
      unfold forKey
      by_cases hkey : key' = SueClient.keyOf t destXpuId
      · rw [if_pos ⟨hkey, hkept⟩, QueueState.transactions_push, hkey]
        simp
      · rw [if_neg fun h => hkey h.1]
        simp [Ne.symm hkey]
    · intro e he
      rw [List.mem_singleton.mp he]
  · refine ⟨[], ⟨rfl, rfl, ?_, ?_, Nat.zero_le _, ?_⟩, fun e he => by cases he⟩
    · dsimp only
      rw [if_neg hkept, List.append_nil]
    · intro hfresh
      dsimp only
      rw [if_neg hkept]
      exact hfresh
    · intro key'
      dsimp only
      rw [hqueues, if_neg fun h => hkept h.2, ite_self, List.drop_zero]
      exact (List.append_nil _).symm

/-- A call of the callback, by induction on what it gives. -/
theorem exists_advance_giveAll (now : ℕ) (l : List (Transaction × UInt32)) (s : SendLedger)
    (key : Destination) : ∃ added, Advance s (giveAll now l s) key 0 added ∧
      ∀ e ∈ added, ∃ x ∈ l, e.1 = SueClient.keyOf x.1 x.2 := by
  induction l generalizing s with
  | nil => exact ⟨[], Advance.refl s key, fun e he => by cases he⟩
  | cons x rest ih =>
      obtain ⟨first, hfirst, hkey⟩ := s.exists_advance_give key now x.1 x.2
      obtain ⟨others, hothers, hkeys⟩ := ih (s.give now x.1 x.2)
      refine ⟨first ++ others, hfirst.trans hothers, fun e he => ?_⟩
      rcases List.mem_append.mp he with he | he
      · exact ⟨x, List.mem_cons_self, hkey e he⟩
      · obtain ⟨y, hy, heq⟩ := hkeys e he
        exact ⟨y, List.mem_cons_of_mem x hy, heq⟩

/-- A removal takes the first transaction of a queue. -/
theorem advance_popFront (h : s.client.popFront key = some c) :
    Advance s { s with client := c } key 1 [] := by
  obtain ⟨now, t, rest, hqueue, rfl⟩ := SueClient.popFront_eq_some.mp h
  have htransactions : (s.client.queueOf key).transactions = t :: rest.map Prod.snd := by
    unfold QueueState.transactions
    rw [hqueue]
    rfl
  refine ⟨rfl, rfl, (List.append_nil _).symm, id, ?_, ?_⟩
  · rw [htransactions]
    exact Nat.succ_le_succ (Nat.zero_le _)
  · intro key'
    dsimp only
    have hnone : forKey key' [] = [] := rfl
    rw [SueClient.queueOf_setQueue, hnone, List.append_nil]
    split_ifs with hkey
    · rw [hkey, htransactions]
      unfold QueueState.transactions QueueState.pop
      rw [hqueue]
      rfl
    · rfl

/-- What has been added is among what the callback gives. -/
def FromArrivals (arrivals : List (List (Transaction × UInt32)))
    (added : List (Destination × Transaction)) : Prop :=
  ∀ e ∈ added, ∃ batch ∈ arrivals, ∃ x ∈ batch, e.1 = SueClient.keyOf x.1 x.2

/-- The first call of the callback, and the later ones. -/
theorem FromArrivals.append {given added : List (Destination × Transaction)}
    (hgiven : ∀ e ∈ given, ∃ x ∈ arrivals.headD [], e.1 = SueClient.keyOf x.1 x.2)
    (hadded : FromArrivals arrivals.tail added) : FromArrivals arrivals (given ++ added) := by
  intro e he
  rcases List.mem_append.mp he with he | he
  · obtain ⟨x, hx, heq⟩ := hgiven e he
    cases arrivals with
    | nil => cases hx
    | cons batch rest => exact ⟨batch, List.mem_cons_self, x, hx, heq⟩
  · obtain ⟨batch, hbatch, x, hx, heq⟩ := hadded e he
    exact ⟨batch, List.mem_of_mem_tail hbatch, x, hx, heq⟩

/-- `PopTransactionsFromQueue` takes `taken` transactions out of a queue: as many as it is
told to, or all of them. -/
structure Pops (s s' : SendLedger) (key : Destination) (count : ℕ)
    (arrivals : List (List (Transaction × UInt32))) (taken : ℕ)
    (added : List (Destination × Transaction)) : Prop where
  advance : Advance s s' key taken added
  le : taken ≤ count
  all : taken = count ∨
    taken = ((s.client.queueOf key).transactions ++ forKey key added).length
  origin : FromArrivals arrivals added

/-- One turn of the loop, and the other ones. -/
theorem Pops.cons {count taken : ℕ} {given added : List (Destination × Transaction)}
    (hfirst : Advance s { s with client := c } key 1 [])
    (hgiven : Advance { s with client := c } s' key 0 given)
    (hkeys : ∀ e ∈ given, ∃ x ∈ arrivals.headD [], e.1 = SueClient.keyOf x.1 x.2)
    (hrest : Pops s' s'' key count arrivals.tail taken added) :
    Pops s s'' key (count + 1) arrivals (1 + 0 + taken) ([] ++ given ++ added) := by
  have hle := hrest.le
  refine ⟨(hfirst.trans hgiven).trans hrest.advance, by omega, ?_, ?_⟩
  · rcases hrest.all with hend | hend
    · exact .inl (by omega)
    · right
      have hqueue := (hfirst.trans hgiven).queues key
      have hbound := hfirst.bound
      rw [if_pos rfl] at hqueue
      rw [hqueue] at hend
      simp only [forKey_append, List.length_append, List.length_drop] at hend hbound ⊢
      omega
  · rw [List.nil_append]
    exact FromArrivals.append hkeys hrest.origin

/-- The loop of `PopTransactionsFromQueue`, by induction on its count. -/
theorem exists_pops (now : ℕ) (key : Destination) (count : ℕ)
    (arrivals : List (List (Transaction × UInt32))) (s : SendLedger) :
    ∃ taken added,
      Pops s (popTransactionsFromQueue now key count arrivals s) key count arrivals taken
        added := by
  induction count generalizing s arrivals with
  | zero =>
      exact ⟨0, [], Advance.refl s key, le_rfl, .inl rfl, fun e he => by cases he⟩
  | succ count ih =>
      unfold popTransactionsFromQueue
      cases hpop : s.client.popFront key with
      | none =>
          have hempty : (s.client.queueOf key).transactions = [] := by
            unfold SueClient.popFront at hpop
            unfold QueueState.transactions
            rw [List.head?_eq_none_iff.mp (Option.map_eq_none_iff.mp hpop)]
            rfl
          refine ⟨0, [], Advance.refl s key, Nat.zero_le _, .inr ?_, fun e he => by cases he⟩
          rw [hempty]
          rfl
      | some c =>
          have hfirst := advance_popFront hpop
          obtain ⟨given, hgiven, hkeys⟩ :=
            exists_advance_giveAll now (arrivals.headD []) { s with client := c } key
          obtain ⟨taken, added, hrest⟩ :=
            ih arrivals.tail (giveAll now (arrivals.headD []) { s with client := c })
          exact ⟨_, _, Pops.cons hfirst hgiven hkeys hrest⟩

/-! ## The estimate -/

/-- The payload of a packet and the size of a transaction, rounded up. -/
theorem toNat_roundUp (payload size : ℕ) (hpayload : payload ≠ 0) (hsmall : payload + size ≤ 2 ^ 32)
    (hsize : 0 < size) :
    ((UInt32.ofNat payload + UInt32.ofNat size - 1) / UInt32.ofNat size).toNat =
      (payload + size - 1) / size := by
  rw [UInt32.toNat_div, UInt32.toNat_sub, UInt32.toNat_add, UInt32.toNat_ofNat',
    UInt32.toNat_ofNat', Nat.mod_eq_of_lt (by omega : payload < 2 ^ 32),
    Nat.mod_eq_of_lt (by omega : size < 2 ^ 32)]
  congr 1
  simp only [UInt32.toNat_one]
  omega

/-- The estimate for a packet that matches is not below the number of its transactions, and
is that number unless the payload is too large for it. -/
theorem Matches.estimate (h : Matches c b arrivals) (hnonempty : b.transactions ≠ []) :
    b.transactions.length ≤ c.analyzeTransactionCount b ∧
      ((b.transactions.map Transaction.payloadSize).sum ≤
        b.transactions.length * c.transactionSize.toNat →
          c.analyzeTransactionCount b = b.transactions.length) := by
  have hlength : 0 < b.transactions.length := List.length_pos_iff.mpr hnonempty
  have hsmall := h.small
  have hleast := h.least
  have hmost := h.most
  unfold SueClient.analyzeTransactionCount Burst.payloadSize
  generalize b.transactions.length = n at hlength hleast hmost ⊢
  generalize (b.transactions.map Transaction.payloadSize).sum = payload at hsmall hleast hmost ⊢
  by_cases hzero : payload = 0
  · have hn : n = 1 := by omega
    rw [hzero, if_pos (show UInt32.ofNat 0 = (0 : UInt32) from rfl), hn]
    exact ⟨le_rfl, fun _ => rfl⟩
  have hsize : 0 < c.transactionSize.toNat := by
    rcases hmost with hle | hmore
    · by_contra hnone
      rw [Nat.eq_zero_of_not_pos hnone, Nat.mul_zero] at hle
      omega
    · exact hmore.1
  have hround := toNat_roundUp payload c.transactionSize.toNat hzero hsmall hsize
  rw [UInt32.ofNat_toNat] at hround
  rw [if_neg fun h0 => hzero ?_, hround]
  · generalize c.transactionSize.toNat = size at hsmall hleast hmost hsize ⊢
    have hlow : n ≤ (payload + size - 1) / size := by
      rw [Nat.le_div_iff_mul_le hsize]
      obtain ⟨m, rfl⟩ := Nat.exists_eq_add_of_lt hlength
      rw [Nat.zero_add] at hleast ⊢
      rw [Nat.add_sub_cancel] at hleast
      rw [Nat.succ_mul]
      rcases hleast with hone | hlt
      · obtain rfl : m = 0 := by omega
        omega
      · omega
    refine ⟨hlow.trans (le_max_right _ _), fun hle => ?_⟩
    have hhigh : (payload + size - 1) / size < n + 1 := by
      rw [Nat.div_lt_iff_lt_mul hsize, Nat.succ_mul]
      omega
    omega
  · have h0' := congrArg UInt32.toNat h0
    rw [UInt32.toNat_ofNat', Nat.mod_eq_of_lt (by omega)] at h0'
    exact h0'

/-! ## What a step preserves -/

/-- What is given keeps the record accounted for. -/
theorem Accounted.add {added : List (Destination × Transaction)} (h : s.Accounted)
    (hadvance : Advance s s' key 0 added) : s'.Accounted := by
  have haccepted (key' : Destination) :
      s'.acceptedFor key' = s.acceptedFor key' ++ forKey key' added := by
    unfold acceptedFor
    rw [hadvance.accepted, forKey_append]
  have hsent (key' : Destination) : s'.client.sentFor key' = s.client.sentFor key' := by
    unfold SueClient.sentFor
    rw [hadvance.sent]
  refine ⟨hadvance.fresh h.fresh, fun key' => ?_, fun b hb => ?_⟩
  · rw [haccepted, hsent, hadvance.queues, ite_self, List.drop_zero, h.queues key',
      List.append_assoc]
  · rw [hadvance.bursts] at hb
    obtain ⟨hne, hpart⟩ := h.parts b hb
    rw [haccepted]
    exact ⟨hne, hpart.trans (List.prefix_append _ _).isInfix⟩

/-- A round schedules parts of queues. -/
theorem Accounted.schedule {devices : List DeviceCapacityInfo} (h : s.Accounted)
    (hround : s.client.scheduleNextSend now devices = some c) :
    Accounted { s with client := c } := by
  rcases SueClient.scheduleNextSend_eq_some hround with rfl | ⟨dest, info, maxPackets, rfl⟩
  · exact ⟨h.fresh, h.queues, h.parts⟩
  refine ⟨h.fresh, h.queues, fun b hb => ?_⟩
  unfold SueClient.launch at hb
  dsimp only at hb
  split_ifs at hb
  · rcases List.mem_append.mp hb with hb | hb
    · exact h.parts b hb
    obtain ⟨batch, hbatch, rfl⟩ := List.mem_map.mp hb
    have hmem := List.fst_mem_of_mem_zipIdx hbatch
    have hqueue : batch.1 <:+: ((s.client.reschedule now).queueOf dest).transactions :=
      SueClient.infix_of_mem_packedBatches hmem
    refine ⟨SueClient.ne_nil_of_mem_packBatches hmem, ?_⟩
    have haccepted : s.acceptedFor dest =
        s.client.sentFor dest ++ (s.client.queueOf dest).transactions := h.queues dest
    show batch.1 <:+: s.acceptedFor dest
    rw [haccepted]
    exact hqueue.trans (List.suffix_append _ _).isInfix
  · exact h.parts b hb

/-- A packet that starts with the first transaction of its queue starts the queue. -/
theorem Accounted.prefix_of_head (h : s.Accounted) (hb : b ∈ s.client.bursts)
    (hhead : b.transactions.head? = (s.client.queueOf b.dest).transactions.head?) :
    b.transactions <+: (s.client.queueOf b.dest).transactions := by
  obtain ⟨hne, hpart⟩ := h.parts b hb
  have hnodup := h.nodup b.dest
  rw [h.queues b.dest] at hpart hnodup
  cases htransactions : b.transactions with
  | nil => exact absurd htransactions hne
  | cons x part =>
      cases hqueue : (s.client.queueOf b.dest).transactions with
      | nil =>
          rw [htransactions, hqueue] at hhead
          cases hhead
      | cons y suffix =>
          rw [htransactions, hqueue] at hhead
          obtain rfl : x = y := Option.some.inj hhead
          rw [htransactions, hqueue] at hpart
          rw [hqueue] at hnodup
          exact prefix_of_infix_of_nodup hnodup hpart

/-- A packet that has not been sent is forgotten. -/
theorem Accounted.fail {i : ℕ} {outcome : SendOutcome} (h : s.Accounted)
    (hsent : b.isSent outcome = false) :
    Accounted { s with client := s.client.sendTo now i b outcome } := by
  have hrecord : (s.client.sendTo now i b outcome).sent = s.client.sent := by
    unfold SueClient.sendTo
    dsimp only
    rw [hsent]
    rfl
  refine ⟨h.fresh, fun key => ?_, fun b' hb' => h.parts b' (List.mem_of_mem_eraseIdx hb')⟩
  have hqueues := h.queues key
  unfold SueClient.sentFor at hqueues ⊢
  dsimp only
  rw [hrecord]
  exact hqueues

/-- A packet that matches takes out what it contains. -/
theorem Matches.taken_eq {taken : ℕ} {added : List (Destination × Transaction)}
    (h : Matches s.client b arrivals) (hnonempty : b.transactions ≠ [])
    (hstart : b.transactions <+: (s.client.queueOf b.dest).transactions)
    (hpops : Pops s s' b.dest (s.client.analyzeTransactionCount b) arrivals taken added) :
    taken = b.transactions.length := by
  obtain ⟨hlow, hexact⟩ := h.estimate hnonempty
  have hlength := hstart.length_le
  have hle := hpops.le
  have hend := hpops.all
  have hbound := hpops.advance.bound
  rw [List.length_append] at hend hbound
  rcases h.most with hsmall | ⟨-, hwhole, hnone⟩
  · have hestimate := hexact hsmall
    omega
  · have hforKey : forKey b.dest added = [] := by
      apply forKey_eq_nil
      intro e he hkey
      obtain ⟨batch, hbatch, x, hx, heq⟩ := hpops.origin e he
      exact hnone batch hbatch x hx (heq.symm.trans hkey)
    rw [hforKey, List.length_nil] at hend hbound
    omega

/-- A packet that is sent where it matches its queue. -/
theorem Accounted.sent {i taken : ℕ} {outcome : SendOutcome}
    {added : List (Destination × Transaction)} (h : s.Accounted) (hsent : b.isSent outcome = true)
    (hstart : b.transactions <+: (s.client.queueOf b.dest).transactions)
    (hadvance : Advance { s with client := s.client.sendTo now i b outcome } s' b.dest taken added)
    (htaken : taken = b.transactions.length) : s'.Accounted := by
  have haccepted (key : Destination) :
      s'.acceptedFor key = s.acceptedFor key ++ forKey key added := by
    unfold acceptedFor
    rw [hadvance.accepted, forKey_append]
  have hrecord : s'.client.sent = s.client.sent ++ [⟨b, now⟩] := by
    rw [hadvance.sent]
    exact if_pos hsent
  refine ⟨hadvance.fresh h.fresh, fun key => ?_, fun b' hb' => ?_⟩
  · have hqueue := hadvance.queues key
    have hsame : (s.client.sendTo now i b outcome).queueOf key = s.client.queueOf key := rfl
    dsimp only at hqueue
    rw [hsame] at hqueue
    have hsentFor : s'.client.sentFor key =
        s.client.sentFor key ++ if b.dest = key then b.transactions else [] := by
      unfold SueClient.sentFor
      rw [hrecord, List.filter_append, List.flatMap_append]
      by_cases hkey : b.dest = key
      · simp [hkey]
      · simp [hkey]
    rw [haccepted, hsentFor, hqueue, h.queues key]
    by_cases hkey : b.dest = key
    · subst hkey
      obtain ⟨rest, hrest⟩ := hstart
      rw [if_pos rfl, if_pos rfl, htaken, ← hrest]
      simp [List.append_assoc]
    · rw [if_neg hkey, if_neg (Ne.symm hkey), List.drop_zero, List.append_nil, List.append_assoc]
  · rw [hadvance.bursts] at hb'
    obtain ⟨hne, hpart⟩ := h.parts b' (List.mem_of_mem_eraseIdx hb')
    rw [haccepted]
    exact ⟨hne, hpart.trans (List.prefix_append _ _).isInfix⟩

/-- `DoSendBurst` keeps the record accounted for, if a packet that is sent matches. -/
theorem Accounted.doSendBurst {i : ℕ} {outcome : SendOutcome} (h : s.Accounted)
    (hmatch : s.PacketsMatch (.doSendBurst now i outcome arrivals))
    (hstep : s.doSendBurst now i outcome arrivals = some s') : s'.Accounted := by
  obtain ⟨b, hburst, rfl⟩ := Option.map_eq_some_iff.mp hstep
  have hb : b ∈ s.client.bursts := List.mem_of_getElem? hburst
  cases hsent : b.isSent outcome with
  | false =>
      have hcount : s.client.popCount b outcome = 0 := by
        unfold SueClient.popCount
        rw [hsent]
        rfl
      rw [hcount]
      exact h.fail hsent
  | true =>
      have hcount : s.client.popCount b outcome = s.client.analyzeTransactionCount b :=
        if_pos hsent
      have hmatches := hmatch b hburst hsent
      have hstart := h.prefix_of_head hb hmatches.head
      rw [hcount]
      obtain ⟨taken, added, hpops⟩ :=
        exists_pops now b.dest (s.client.analyzeTransactionCount b) arrivals
          { s with client := s.client.sendTo now i b outcome }
      apply h.sent hsent hstart hpops.advance
      -- sending the packet changes neither the queues nor the attributes that it is compared with
      have hsame : Matches (s.client.sendTo now i b outcome) b arrivals :=
        ⟨hmatches.head, hmatches.small, hmatches.least, hmatches.most⟩
      refine Matches.taken_eq ?_ (h.parts b hb).1 ?_ hpops
      · exact hsame
      · exact hstart

/-- One step, by cases on the event. -/
theorem Accounted.step {event : ClientEvent} (h : s.Accounted) (hmatch : s.PacketsMatch event)
    (hstep : system.step s event = some s') : s'.Accounted := by
  cases event with
  | addTransaction now t destXpuId =>
      cases hstep
      obtain ⟨added, hadvance, -⟩ :=
        s.exists_advance_give (SueClient.keyOf t destXpuId) now t destXpuId
      exact h.add hadvance
  | scheduleNextSend now devices =>
      obtain ⟨c, hround, rfl⟩ := Option.map_eq_some_iff.mp hstep
      exact h.schedule hround
  | doSendBurst now i outcome arrivals => exact h.doSendBurst hmatch hstep

/-- A new client is accounted for. -/
theorem accounted_init (hinit : system.init s) : s.Accounted := by
  obtain ⟨haccepted, hqueues, hbursts, hsent⟩ := hinit
  refine ⟨?_, fun key => ?_, fun b hb => ?_⟩
  · rw [haccepted]
    exact List.nodup_nil
  · unfold acceptedFor SueClient.sentFor SueClient.queueOf
    rw [haccepted, hqueues, hsent, AList.lookup_empty]
    rfl
  · rw [hbursts] at hb
    cases hb

/-- In every state of a run in which each packet that is sent starts with the first
transaction of its queue and takes out what it contains, each transaction is sent once. -/
theorem sentExactlyOnce_of_packetsMatch (hreach : system.ReachableBy PacketsMatch s) :
    s.SentExactlyOnce := by
  have haccounted : s.Accounted := by
    refine hreach.invariant (fun _ => accounted_init) ?_
    intro s event s' h hmatch hstep
    exact h.step hmatch hstep
  exact haccounted.sentExactlyOnce

/-! ## Rounds that overlap -/

theorem payload_small : 128 + SueHeader.serializedSize < 2 ^ 32 := Nat.le_of_ble_eq_true rfl

/-- A transaction of the default size. -/
def payload (id : ℕ) : Transaction := ⟨id, SueHeader.serialize {}, 128, payload_small⟩

/-- A device with room for some packets. -/
def roomy : DeviceCapacityInfo := ⟨0, [1000], true⟩

/-- A client whose packets carry one transaction. -/
def narrow : SendLedger where
  client := { maxBurstSize := 128 }

/-- The first round packs four transactions, and the second one, before the last of these
packets is sent, packs the last transaction again. -/
def overlap : List ClientEvent :=
  [.addTransaction 1 (payload 0) 1, .addTransaction 2 (payload 1) 1,
    .addTransaction 3 (payload 2) 1, .addTransaction 4 (payload 3) 1,
    .scheduleNextSend 10 [roomy],
    .doSendBurst 13 0 .taken [], .doSendBurst 16 0 .taken [], .doSendBurst 19 0 .taken [],
    .scheduleNextSend 20 [roomy],
    .doSendBurst 22 0 .taken [], .doSendBurst 23 0 .taken []]

/-- The last transaction has left its queue, and is in two packets that have been sent. -/
theorem overlap_sends_twice :
    ∃ s, system.init narrow ∧ system.runActions narrow overlap = some s ∧
      payload 3 ∈ s.acceptedFor ⟨1, 0⟩ ∧
      payload 3 ∉ (s.client.queueOf ⟨1, 0⟩).transactions ∧
      s.client.sentCount (payload 3) = 2 ∧ ¬s.SentExactlyOnce := by
  obtain ⟨s, hrun⟩ : ∃ s, system.runActions narrow overlap = some s := ⟨_, rfl⟩
  refine ⟨s, ⟨rfl, rfl, rfl, rfl⟩, hrun, ?_⟩
  cases hrun
  refine ⟨by decide, by decide, by decide, fun h => ?_⟩
  exact absurd (h.atMostOnce (payload 3)) (by decide)

/-- A client with room for two transactions in a packet. -/
def paired : SendLedger where
  client := { maxBurstSize := 256 }

/-- A round with two packets for three transactions, of which the first brings in a fourth
one, and a round for that one. -/
def inOrder : List ClientEvent :=
  [.addTransaction 1 (payload 0) 1, .addTransaction 2 (payload 1) 1,
    .addTransaction 3 (payload 2) 1, .scheduleNextSend 10 [roomy],
    .doSendBurst 13 0 .taken [[], [(payload 3, 1)]], .doSendBurst 16 0 .taken [],
    .scheduleNextSend 20 [roomy], .doSendBurst 23 0 .taken []]

/-- The four transactions leave in three packets, each once. -/
theorem sentExactlyOnce_inOrder :
    ∃ s, system.runActions paired inOrder = some s ∧
      s.client.sentFor ⟨1, 0⟩ = [payload 0, payload 1, payload 2, payload 3] ∧
      s.client.sent.length = 3 ∧ s.SentExactlyOnce := by
  obtain ⟨s, hrun⟩ : ∃ s, system.runActions paired inOrder = some s := ⟨_, rfl⟩
  have hguarded : system.GuardedRun PacketsMatch paired inOrder := by decide
  refine ⟨s, hrun, ?_, ?_,
    sentExactlyOnce_of_packetsMatch (.of_guardedRun (.init ⟨rfl, rfl, rfl, rfl⟩) hguarded hrun)⟩
  · cases hrun
    decide
  · cases hrun
    rfl

end SendLedger

end UeSim
