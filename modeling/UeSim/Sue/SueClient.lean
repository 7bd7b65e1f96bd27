import UeSim.Sue.SueHeader
import UeSim.Support.KeyedMap
import UeSim.Support.WeightedList
import Mathlib.Data.List.Sort

/-!
# The destination queues of a client

`SueClient` keeps the transactions that it is given in a queue for each destination and
virtual channel, bounded in bytes.  The bytes of a queue are counted in 32 bits.

What a client packs is on its way to the socket until its `DoSendBurst` runs.  The packets
for which the socket took the data are kept as a record.
-/

namespace UeSim

/-- A packet that `AddTransaction` is given: which one it is, its serialised header and the
size of its payload. -/
structure Transaction where
  id : ℕ
  header : SueHeader.Words
  payloadSize : ℕ
  small : payloadSize + SueHeader.serializedSize < 2 ^ 32
  deriving DecidableEq, Repr

namespace Transaction

/-- `GetSize`. -/
def size (t : Transaction) : ℕ := t.payloadSize + SueHeader.serializedSize

/-- The virtual channel that `PeekHeader` and `GetVc` read. -/
def vc (t : Transaction) : UInt8 := (SueHeader.deserialize t.header).getVc

/-- A transaction after `AddHeader`. -/
def withHeader (t : Transaction) (h : SueHeader) : Transaction :=
  { t with header := h.serialize }

theorem vc_withHeader (t : Transaction) (h : SueHeader) : (t.withHeader h).vc = h.getVc := by
  unfold vc withHeader
  rw [SueHeader.deserialize_serialize, SueHeader.getVc_onWire]

end Transaction

/-- `Destination`. -/
structure Destination where
  destXpuId : UInt32
  vcId : UInt8
  deriving DecidableEq, Repr

/-- The order of destinations in a map. -/
def Destination.le (a b : Destination) : Prop :=
  a.destXpuId < b.destXpuId ∨ (a.destXpuId = b.destXpuId ∧ a.vcId ≤ b.vcId)

instance : DecidableRel Destination.le := fun _ _ =>
  inferInstanceAs (Decidable (_ ∨ _))

/-- `QueueState`: the transactions of a queue with the times at which they came. -/
structure QueueState where
  queue : List (ℕ × Transaction) := []
  currentBurstSize : ℕ := 0
  deriving DecidableEq

namespace QueueState

/-- The transactions of a queue. -/
def transactions (q : QueueState) : List Transaction := q.queue.map Prod.snd

/-- The bytes of a queue. -/
def bytes (q : QueueState) : ℕ := WeightedList.weight Transaction.size q.transactions

/-- A queue with one more transaction. -/
def push (q : QueueState) (now : ℕ) (t : Transaction) : QueueState where
  queue := q.queue ++ [(now, t)]
  currentBurstSize := toU32 (q.currentBurstSize + t.size)

/-- A queue without its first transaction. -/
def pop (q : QueueState) (t : Transaction) : QueueState where
  queue := q.queue.tail
  currentBurstSize := subU32 q.currentBurstSize t.size

end QueueState

/-- A packed packet whose `DoSendBurst` is scheduled: its header, the transactions whose
payloads it carries, the device that it goes to and the time of the call. -/
structure Burst where
  header : SueHeader.Words
  transactions : List Transaction
  dest : Destination
  device : ℕ
  sendTime : ℕ
  deriving DecidableEq, Repr

/-- A packet that a socket has taken, with the time of the call. -/
structure SentBurst where
  burst : Burst
  time : ℕ
  deriving DecidableEq, Repr

/-- `SueClient`. -/
structure SueClient where
  transactionSize : UInt32 := 128
  maxBurstSize : UInt32 := 2048
  schedulingInterval : ℕ := 10
  destQueueMaxBytes : UInt32 := 30 * 1024
  packingDelayPerPacket : ℕ := 3
  additionalHeaderSize : UInt32 := 44
  destQueues : KeyedMap Destination QueueState := ∅
  psn : UInt16 := 0
  loggingEnabled : Bool := true
  /-- The time for which `ScheduleNextSend` is scheduled. -/
  schedulerEvent : Option ℕ := none
  bursts : List Burst := []
  sent : List SentBurst := []

namespace SueClient

variable {c : SueClient} {key key' : Destination} {now : ℕ} {t : Transaction}

/-- The queue of a destination, empty if it does not exist. -/
def queueOf (c : SueClient) (key : Destination) : QueueState :=
  (c.destQueues.lookup key).getD {}

/-- `GetDestQueueMaxBytes`. -/
def getDestQueueMaxBytes (c : SueClient) : ℕ := c.destQueueMaxBytes.toNat

/-- `GetDestQueueCurrentUsage`. -/
def getDestQueueCurrentUsage (c : SueClient) (destXpuId : UInt32) (vcId : UInt8) : ℕ :=
  (c.queueOf ⟨destXpuId, vcId⟩).currentBurstSize

/-- The queue that `AddTransaction` takes for a transaction. -/
def keyOf (t : Transaction) (destXpuId : UInt32) : Destination := ⟨destXpuId, t.vc⟩

/-- Whether `AddTransaction` keeps a transaction. -/
def accepts (c : SueClient) (t : Transaction) (destXpuId : UInt32) : Bool :=
  toU32 ((c.queueOf (keyOf t destXpuId)).currentBurstSize + t.size) ≤ c.getDestQueueMaxBytes

/-- Replace a queue. -/
def setQueue (c : SueClient) (key : Destination) (q : QueueState) : SueClient :=
  { c with destQueues := c.destQueues.insert key q }

/-- `AddTransaction`, which makes the queue even if it drops the transaction. -/
def addTransaction (c : SueClient) (now : ℕ) (t : Transaction) (destXpuId : UInt32) :
    SueClient :=
  c.setQueue (keyOf t destXpuId)
    (if c.accepts t destXpuId then (c.queueOf (keyOf t destXpuId)).push now t
      else c.queueOf (keyOf t destXpuId))

/-- One turn of the loop of `PopTransactionsFromQueue`, when there is something to pop. -/
def popFront (c : SueClient) (key : Destination) : Option SueClient :=
  (c.queueOf key).queue.head?.map fun e => c.setQueue key ((c.queueOf key).pop e.2)

/-- `HasPendingTransactions`. -/
def hasPendingTransactions (c : SueClient) : Bool :=
  c.destQueues.entries.any fun e => !e.2.queue.isEmpty

/-! ## Queues after an operation -/

theorem queueOf_setQueue (c : SueClient) (key key' : Destination) (q : QueueState) :
    (c.setQueue key q).queueOf key' = if key' = key then q else c.queueOf key' := by
  unfold queueOf setQueue
  dsimp only
  split_ifs with hkey
  · rw [hkey, AList.lookup_insert]
    rfl
  · rw [AList.lookup_insert_ne hkey]

theorem queueOf_addTransaction (c : SueClient) (now : ℕ) (t : Transaction)
    (destXpuId : UInt32) (key : Destination) :
    (c.addTransaction now t destXpuId).queueOf key =
      if key = keyOf t destXpuId ∧ c.accepts t destXpuId = true then (c.queueOf key).push now t
      else c.queueOf key := by
  unfold addTransaction
  rw [queueOf_setQueue]
  by_cases hkey : key = keyOf t destXpuId
  · subst hkey
    rw [if_pos rfl]
    exact if_congr (by rw [eq_self, true_and]) rfl rfl
  · rw [if_neg hkey, if_neg fun h => hkey h.1]

theorem popFront_eq_some {c' : SueClient} :
    c.popFront key = some c' ↔ ∃ now t rest, (c.queueOf key).queue = (now, t) :: rest ∧
      c' = c.setQueue key ((c.queueOf key).pop t) := by
  unfold popFront
  cases hqueue : (c.queueOf key).queue with
  | nil =>
      refine iff_of_false (fun h => ?_) fun ⟨_, _, _, h, _⟩ => ?_
      · cases h
      · cases h
  | cons e rest =>
      obtain ⟨now, t⟩ := e
      constructor
      · intro h
        cases h
        exact ⟨now, t, rest, rfl, rfl⟩
      · rintro ⟨now', t', rest', hcons, rfl⟩
        cases hcons
        rfl

end SueClient

/-! ## Queues within their bound -/

/-- A queue counts its bytes, and has at most `max` of them. -/
structure QueueState.Within (q : QueueState) (max : ℕ) : Prop where
  counted : q.currentBurstSize = q.bytes
  bound : q.bytes ≤ max

namespace QueueState

variable {q : QueueState} {max now : ℕ} {t : Transaction}

theorem transactions_push (q : QueueState) (now : ℕ) (t : Transaction) :
    (q.push now t).transactions = q.transactions ++ [t] :=
  List.map_append

theorem bytes_push (q : QueueState) (now : ℕ) (t : Transaction) :
    (q.push now t).bytes = q.bytes + t.size := by
  unfold bytes
  rw [transactions_push, WeightedList.weight_append, WeightedList.weight_singleton]

theorem Within.push (h : q.Within max) (hmax : max < 2 ^ 32) (hfit : q.bytes + t.size ≤ max) :
    (q.push now t).Within max := by
  refine ⟨?_, ?_⟩
  · rw [bytes_push, ← h.counted]
    refine toU32_of_lt ?_
    rw [h.counted]
    omega
  · rw [bytes_push]
    exact hfit

/-- The first transaction leaves with its bytes. -/
theorem Within.pop {rest : List (ℕ × Transaction)} (h : q.Within max) (hmax : max < 2 ^ 32)
    (hqueue : q.queue = (now, t) :: rest) : (q.pop t).Within max := by
  have hbytes : q.bytes = t.size + (q.pop t).bytes := by
    unfold bytes transactions QueueState.pop
    rw [hqueue]
    exact WeightedList.weight_cons t _
  have hbound := h.bound
  refine ⟨?_, by omega⟩
  have hcount : (q.pop t).currentBurstSize = subU32 q.currentBurstSize t.size := rfl
  rw [hcount, h.counted, subU32_of_le (by omega) (by omega)]
  omega

end QueueState

namespace SueClient

variable {c c' : SueClient} {key : Destination} {now : ℕ} {t : Transaction} {destXpuId : UInt32}

/-- All queues of a client are within its bound. -/
def Within (c : SueClient) : Prop :=
  ∀ key, (c.queueOf key).Within c.getDestQueueMaxBytes

theorem getDestQueueMaxBytes_lt (c : SueClient) : c.getDestQueueMaxBytes < 2 ^ 32 :=
  c.destQueueMaxBytes.toNat_lt

/-- A client without queues is within its bound. -/
theorem within_of_empty (h : c.destQueues = ∅) : c.Within := by
  intro key
  have hqueue : c.queueOf key = {} := by
    unfold queueOf
    rw [h, AList.lookup_empty]
    rfl
  rw [hqueue]
  exact ⟨rfl, Nat.zero_le _⟩

/-- The space in a queue of a client that is within its bound. -/
theorem Within.space_eq (h : c.Within) (destXpuId : UInt32) (vcId : UInt8) :
    subU32 c.getDestQueueMaxBytes (c.getDestQueueCurrentUsage destXpuId vcId) =
      c.getDestQueueMaxBytes - (c.queueOf ⟨destXpuId, vcId⟩).bytes := by
  have hqueue := h ⟨destXpuId, vcId⟩
  have husage : c.getDestQueueCurrentUsage destXpuId vcId =
      (c.queueOf ⟨destXpuId, vcId⟩).bytes := hqueue.counted
  rw [husage, subU32_of_le c.getDestQueueMaxBytes_lt hqueue.bound]

theorem Within.setQueue {q : QueueState} (h : c.Within)
    (hq : q.Within c.getDestQueueMaxBytes) : (c.setQueue key q).Within := by
  intro key'
  rw [queueOf_setQueue]
  split_ifs
  · exact hq
  · exact h key'

/-- In a client within its bound, a transaction is kept if its bytes fit, where the sum
with the bytes of the queue does not exceed 32 bits. -/
theorem Within.accepts_iff (h : c.Within)
    (hsum : (c.queueOf (keyOf t destXpuId)).bytes + t.size < 2 ^ 32) :
    c.accepts t destXpuId = true ↔
      (c.queueOf (keyOf t destXpuId)).bytes + t.size ≤ c.getDestQueueMaxBytes := by
  unfold accepts
  rw [decide_eq_true_iff, (h _).counted, toU32_of_lt hsum]

/-- Adding a transaction that fits. -/
theorem Within.addTransaction (now : ℕ) (h : c.Within)
    (hfit : (c.queueOf (keyOf t destXpuId)).bytes + t.size ≤ c.getDestQueueMaxBytes) :
    (c.addTransaction now t destXpuId).Within := by
  refine h.setQueue ?_
  split_ifs
  · exact (h _).push c.getDestQueueMaxBytes_lt hfit
  · exact h _

theorem Within.popFront (h : c.Within) (hpop : c.popFront key = some c') : c'.Within := by
  obtain ⟨now, t, rest, hqueue, rfl⟩ := popFront_eq_some.mp hpop
  exact h.setQueue ((h key).pop c.getDestQueueMaxBytes_lt hqueue)

end SueClient

end UeSim
