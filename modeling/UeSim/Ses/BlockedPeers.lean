import UeSim.Common.Types
import UeSim.Support.KeyedMap

/-!
# Blocked queues by peer

`m_blockedPeerQueues` keeps one first-in first-out queue of blocked requests
for each peer, together with the handle of the wakeup event that drains it.
The operations here are the ones the manager performs on that container; what
they do is described by the two observations `requests` and `wakeupPending`.
-/

namespace UeSim

/-- `SesManager::BlockedPeerQueueState`. -/
structure BlockedPeerQueueState where
  requests : List RequestKey := []
  wakeupPending : Bool := false
  deriving DecidableEq, Repr

/-- `SesManager::m_blockedPeerQueues`. -/
abbrev BlockedPeerQueues := KeyedMap ℕ BlockedPeerQueueState

namespace BlockedPeerQueues

/-- The keys waiting for a peer, head first. -/
def requests (queues : BlockedPeerQueues) (peerFep : ℕ) : List RequestKey :=
  (queues.lookup peerFep).elim [] (·.requests)

/-- Whether the wakeup event of a peer is pending. -/
def wakeupPending (queues : BlockedPeerQueues) (peerFep : ℕ) : Bool :=
  (queues.lookup peerFep).elim false (·.wakeupPending)

/-- Schedule the wakeup of a nonempty queue, unless it is pending. -/
def wake (queues : BlockedPeerQueues) (peerFep : ℕ) : BlockedPeerQueues :=
  match queues.lookup peerFep with
  | none => queues
  | some queue =>
      if queue.requests = [] then queues
      else if queue.wakeupPending then queues
      else queues.insert peerFep { queue with wakeupPending := true }

/-- Append a key to the queue of its peer. -/
def push (queues : BlockedPeerQueues) (key : RequestKey) : BlockedPeerQueues :=
  let queue := (queues.lookup key.peerFep).getD {}
  queues.insert key.peerFep { queue with requests := queue.requests ++ [key] }

/-- Take the first occurrence of a key out of its peer's queue; an emptied
queue goes away together with its wakeup event. -/
def remove (queues : BlockedPeerQueues) (key : RequestKey) : BlockedPeerQueues :=
  match queues.lookup key.peerFep with
  | none => queues
  | some queue =>
      let requests := queue.requests.erase key
      if requests = [] then queues.erase key.peerFep
      else queues.insert key.peerFep { queue with requests := requests }

/-- Mark the wakeup event of a peer as fired. -/
def fire (queues : BlockedPeerQueues) (peerFep : ℕ) : BlockedPeerQueues :=
  KeyedMap.modify queues peerFep fun queue => { queue with wakeupPending := false }

/-! ## What is waiting -/

@[simp] theorem requests_wake (queues : BlockedPeerQueues) (p p' : ℕ) :
    (queues.wake p).requests p' = queues.requests p' := by
  unfold wake
  cases hq : queues.lookup p with
  | none => rfl
  | some queue =>
      dsimp only
      split_ifs with hempty hpending
      · rfl
      · rfl
      · by_cases hp : p' = p
        · subst hp
          simp [requests, hq]
        · simp [requests, AList.lookup_insert_ne hp]

@[simp] theorem requests_fire (queues : BlockedPeerQueues) (p p' : ℕ) :
    (queues.fire p).requests p' = queues.requests p' := by
  by_cases hp : p' = p
  · subst hp
    simp only [requests, fire, KeyedMap.lookup_modify_self]
    cases queues.lookup p' <;> rfl
  · simp only [requests, fire, KeyedMap.lookup_modify_ne hp]

theorem requests_push_self (queues : BlockedPeerQueues) (key : RequestKey) :
    (queues.push key).requests key.peerFep = queues.requests key.peerFep ++ [key] := by
  cases hq : queues.lookup key.peerFep <;> simp [requests, push, hq]

theorem requests_push_ne (queues : BlockedPeerQueues) {key : RequestKey} {p : ℕ}
    (hp : p ≠ key.peerFep) : (queues.push key).requests p = queues.requests p := by
  simp [requests, push, AList.lookup_insert_ne hp]

theorem requests_remove_self (queues : BlockedPeerQueues) (key : RequestKey) :
    (queues.remove key).requests key.peerFep = (queues.requests key.peerFep).erase key := by
  unfold remove
  cases hq : queues.lookup key.peerFep with
  | none => simp [requests, hq]
  | some queue =>
      dsimp only
      split_ifs with hempty
      · simp [requests, hq, hempty]
      · simp [requests, hq]

theorem requests_remove_ne (queues : BlockedPeerQueues) {key : RequestKey} {p : ℕ}
    (hp : p ≠ key.peerFep) : (queues.remove key).requests p = queues.requests p := by
  unfold remove
  cases hq : queues.lookup key.peerFep with
  | none => rfl
  | some queue =>
      dsimp only
      split_ifs with hempty
      · simp [requests, AList.lookup_erase_ne hp]
      · simp [requests, AList.lookup_insert_ne hp]

/-! ## What will be woken -/

/-- A wakeup that was asked for is pending, as long as somebody waits. -/
theorem wakeupPending_wake_self {queues : BlockedPeerQueues} {p : ℕ}
    (hwaiting : queues.requests p ≠ []) : (queues.wake p).wakeupPending p = true := by
  unfold wake
  cases hq : queues.lookup p with
  | none => simp [requests, hq] at hwaiting
  | some queue =>
      dsimp only
      split_ifs with hempty hpending
      · simp [requests, hq, hempty] at hwaiting
      · simp [wakeupPending, hq, hpending]
      · simp [wakeupPending]

theorem wakeupPending_wake_ne (queues : BlockedPeerQueues) {p p' : ℕ} (hp : p' ≠ p) :
    (queues.wake p).wakeupPending p' = queues.wakeupPending p' := by
  unfold wake
  cases hq : queues.lookup p with
  | none => rfl
  | some queue =>
      dsimp only
      split_ifs with hempty hpending
      · rfl
      · rfl
      · simp [wakeupPending, AList.lookup_insert_ne hp]

/-- Waking a peer cancels nothing. -/
theorem wakeupPending_wake_of_pending {queues : BlockedPeerQueues} {p p' : ℕ}
    (hpending : queues.wakeupPending p' = true) :
    (queues.wake p).wakeupPending p' = true := by
  by_cases hp : p' = p
  · subst hp
    unfold wake
    cases hq : queues.lookup p' with
    | none => simp [wakeupPending, hq] at hpending
    | some queue =>
        dsimp only
        split_ifs <;> simp_all [wakeupPending]
  · rw [wakeupPending_wake_ne queues hp, hpending]

theorem wakeupPending_push (queues : BlockedPeerQueues) (key : RequestKey) (p : ℕ) :
    (queues.push key).wakeupPending p = queues.wakeupPending p := by
  by_cases hp : p = key.peerFep
  · subst hp
    cases hq : queues.lookup key.peerFep <;> simp [wakeupPending, push, hq]
  · simp [wakeupPending, push, AList.lookup_insert_ne hp]

/-- A removal keeps the wakeup of every queue that it does not empty. -/
theorem wakeupPending_remove {queues : BlockedPeerQueues} {key : RequestKey} {p : ℕ}
    (hwaiting : (queues.remove key).requests p ≠ []) :
    (queues.remove key).wakeupPending p = queues.wakeupPending p := by
  unfold remove at hwaiting ⊢
  cases hq : queues.lookup key.peerFep with
  | none => rfl
  | some queue =>
      simp only [hq] at hwaiting ⊢
      by_cases hp : p = key.peerFep
      · subst hp
        split_ifs at hwaiting ⊢ with hempty
        · simp [requests] at hwaiting
        · simp [wakeupPending, hq]
      · split_ifs with hempty
        · simp [wakeupPending, AList.lookup_erase_ne hp]
        · simp [wakeupPending, AList.lookup_insert_ne hp]

theorem wakeupPending_fire_ne (queues : BlockedPeerQueues) {p p' : ℕ} (hp : p' ≠ p) :
    (queues.fire p).wakeupPending p' = queues.wakeupPending p' := by
  simp only [wakeupPending, fire, KeyedMap.lookup_modify_ne hp]

end BlockedPeerQueues
end UeSim
