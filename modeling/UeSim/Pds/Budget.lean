import UeSim.Common.Types

/-!
# Semantic budgets of the packet delivery sublayer

The `PdsManager` of an endpoint owns one send-admission budget and one write
budget.  Both are global to the endpoint: a reservation names the peer only
for notification.  A limit of zero means that the resource is unlimited.
-/

namespace UeSim

/-- `PdsManager::SemanticBudgetState`, without its diagnostic counters. -/
structure SemanticBudgetState where
  messageLimit : ℕ := 0
  byteLimit : ℕ := 0
  messagesInUse : ℕ := 0
  bytesInUse : ℕ := 0
  deriving DecidableEq, Repr

namespace SemanticBudgetState

/-- The admission test of `TryReserveSendAdmission` and
`TryReserveWriteBudget`. -/
def admits (b : SemanticBudgetState) (payloadBytes : ℕ) : Bool :=
  (b.messageLimit = 0 || b.messagesInUse + 1 ≤ b.messageLimit) &&
    (b.byteLimit = 0 || b.bytesInUse + payloadBytes ≤ b.byteLimit)

/-- The charge of a successful reservation. -/
def reserve (b : SemanticBudgetState) (payloadBytes : ℕ) : SemanticBudgetState :=
  { b with
    messagesInUse := b.messagesInUse + 1
    bytesInUse := b.bytesInUse + payloadBytes }

/-- `TryReserveSendAdmission` and `TryReserveWriteBudget`. -/
def tryReserve (b : SemanticBudgetState) (payloadBytes : ℕ) : Option SemanticBudgetState :=
  if b.admits payloadBytes then some (b.reserve payloadBytes) else none

/-- The counters after `ReleaseSendAdmission` and `ReleaseWriteBudget`: both
subtractions stop at zero. -/
def release (b : SemanticBudgetState) (payloadBytes : ℕ) : SemanticBudgetState :=
  { b with
    messagesInUse := b.messagesInUse - 1
    bytesInUse := b.bytesInUse - payloadBytes }

/-- `b` is at most as loaded as `b'`, under the same limits. -/
structure Below (b b' : SemanticBudgetState) : Prop where
  messageLimit : b.messageLimit = b'.messageLimit
  byteLimit : b.byteLimit = b'.byteLimit
  messagesInUse : b.messagesInUse ≤ b'.messagesInUse
  bytesInUse : b.bytesInUse ≤ b'.bytesInUse

theorem Below.refl (b : SemanticBudgetState) : b.Below b := ⟨rfl, rfl, le_rfl, le_rfl⟩

theorem Below.trans {b b' b'' : SemanticBudgetState} (h : b.Below b') (h' : b'.Below b'') :
    b.Below b'' where
  messageLimit := h.messageLimit.trans h'.messageLimit
  byteLimit := h.byteLimit.trans h'.byteLimit
  messagesInUse := h.messagesInUse.trans h'.messagesInUse
  bytesInUse := h.bytesInUse.trans h'.bytesInUse

theorem release_below (b : SemanticBudgetState) (n : ℕ) : (b.release n).Below b where
  messageLimit := rfl
  byteLimit := rfl
  messagesInUse := Nat.sub_le _ _
  bytesInUse := Nat.sub_le _ _

/-- What a loaded budget admits, a less loaded one admits. -/
theorem Below.admits {b b' : SemanticBudgetState} (h : b.Below b') {n : ℕ}
    (hadmits : b'.admits n) : b.admits n := by
  obtain ⟨hm, hb, hmu, hbu⟩ := h
  simp only [SemanticBudgetState.admits, Bool.and_eq_true, Bool.or_eq_true,
    decide_eq_true_eq, hm, hb] at hadmits ⊢
  omega

/-! ## What can be admitted at all -/

/-- The budget with nothing in use. -/
def emptied (b : SemanticBudgetState) : SemanticBudgetState :=
  { b with messagesInUse := 0, bytesInUse := 0 }

/-- Whether a payload is within the byte limit, if there is one. -/
def fits (b : SemanticBudgetState) (payloadBytes : ℕ) : Bool :=
  b.byteLimit = 0 || payloadBytes ≤ b.byteLimit

/-- An empty budget admits whatever is within its byte limit. -/
@[simp] theorem admits_emptied (b : SemanticBudgetState) (n : ℕ) :
    b.emptied.admits n = b.fits n := by
  apply Bool.eq_iff_iff.mpr
  unfold admits fits
  simp only [Bool.and_eq_true, Bool.or_eq_true, decide_eq_true_eq]
  simp only [emptied]
  omega

/-- What exceeds the byte limit is admitted by no state of the budget. -/
theorem admits_eq_false_of_not_fits {b : SemanticBudgetState} {n : ℕ} (h : b.fits n = false) :
    b.admits n = false := by
  simp only [fits, Bool.or_eq_false_iff, decide_eq_false_iff_not] at h
  simp only [admits, Bool.and_eq_false_iff, Bool.or_eq_false_iff, decide_eq_false_iff_not]
  omega

/-- Releasing what was just reserved restores the budget. -/
@[simp] theorem release_reserve (b : SemanticBudgetState) (n : ℕ) :
    (b.reserve n).release n = b := by
  simp [reserve, release]

theorem tryReserve_eq_some {b b' : SemanticBudgetState} {n : ℕ} :
    b.tryReserve n = some b' ↔ b.admits n ∧ b' = b.reserve n := by
  unfold tryReserve
  by_cases h : b.admits n <;> simp [h, eq_comm]

theorem tryReserve_eq_none {b : SemanticBudgetState} {n : ℕ} :
    b.tryReserve n = none ↔ b.admits n = false := by
  simp [tryReserve]

end SemanticBudgetState

end UeSim
