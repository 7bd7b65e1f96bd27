import UeSim.Support.KeyedMap

/-!
# Reservations against a pool

Each value of a keyed map may hold a reservation of some amount.  A pool that
counts reservations and amounts is balanced when its two counters are the
totals over the map.  The lemmas say how a write to one key moves the balance,
according to what the old and the new value hold.
-/

namespace Reservations

variable {κ ν : Type*} [DecidableEq κ]

/-- The number of values that hold a reservation. -/
def count (held : ν → Option ℕ) (m : KeyedMap κ ν) : ℕ :=
  KeyedMap.total (fun _ v => (held v).elim 0 fun _ => 1) m

/-- The sum of the reserved amounts. -/
def amount (held : ν → Option ℕ) (m : KeyedMap κ ν) : ℕ :=
  KeyedMap.total (fun _ v => (held v).elim 0 id) m

/-- What the value at a key holds, if there is one. -/
def heldAt (held : ν → Option ℕ) (m : KeyedMap κ ν) (k : κ) : Option ℕ :=
  (m.lookup k).bind held

/-- The counters of a pool agree with the reservations that are held. -/
structure Balanced (held : ν → Option ℕ) (m : KeyedMap κ ν) (messages bytes : ℕ) : Prop where
  messages : messages = count held m
  bytes : bytes = amount held m

variable {held : ν → Option ℕ} {m : KeyedMap κ ν} {k : κ} {v : ν} {messages bytes n : ℕ}

omit [DecidableEq κ] in
theorem balanced_empty : Balanced held (∅ : KeyedMap κ ν) 0 0 := ⟨rfl, rfl⟩

theorem count_insert_add (held : ν → Option ℕ) (m : KeyedMap κ ν) (k : κ) (v : ν) :
    count held (m.insert k v) + (heldAt held m k).elim 0 (fun _ => 1) =
      count held m + (held v).elim 0 fun _ => 1 := by
  have hbal := KeyedMap.total_insert_add (fun _ v => (held v).elim 0 fun _ => 1) m k v
  unfold count heldAt
  cases hv : m.lookup k with
  | none => simpa [KeyedMap.weightAt, hv] using hbal
  | some v₀ => simpa [KeyedMap.weightAt, hv] using hbal

theorem amount_insert_add (held : ν → Option ℕ) (m : KeyedMap κ ν) (k : κ) (v : ν) :
    amount held (m.insert k v) + (heldAt held m k).elim 0 id =
      amount held m + (held v).elim 0 id := by
  have hbal := KeyedMap.total_insert_add (fun _ v => (held v).elim 0 id) m k v
  unfold amount heldAt
  cases hv : m.lookup k with
  | none => simpa [KeyedMap.weightAt, hv] using hbal
  | some v₀ => simpa [KeyedMap.weightAt, hv] using hbal

/-- A write that keeps what its key holds keeps the balance. -/
theorem Balanced.keep (h : Balanced held m messages bytes)
    (hkeep : held v = heldAt held m k) : Balanced held (m.insert k v) messages bytes := by
  have hcount := count_insert_add held m k v
  have hamount := amount_insert_add held m k v
  rw [hkeep] at hcount hamount
  exact ⟨by have := h.messages; omega, by have := h.bytes; omega⟩

theorem heldAt_of_some (h : m.lookup k = some v) : heldAt held m k = held v := by
  simp [heldAt, h]

/-- Replacing a value by one that holds the same keeps the balance. -/
theorem Balanced.replace {v₀ : ν} (h : Balanced held m messages bytes)
    (hv₀ : m.lookup k = some v₀) (hkeep : held v = held v₀) :
    Balanced held (m.insert k v) messages bytes :=
  h.keep (hkeep.trans (heldAt_of_some hv₀).symm)

/-- A new reservation is charged to both counters. -/
theorem Balanced.acquire (h : Balanced held m messages bytes)
    (hfree : heldAt held m k = none) (hv : held v = some n) :
    Balanced held (m.insert k v) (messages + 1) (bytes + n) := by
  have hcount := count_insert_add held m k v
  have hamount := amount_insert_add held m k v
  simp only [hfree, hv, Option.elim_none, Option.elim_some, id] at hcount hamount
  exact ⟨by have := h.messages; omega, by have := h.bytes; omega⟩

/-- A reservation that is given back is taken off both counters. -/
theorem Balanced.release (h : Balanced held m messages bytes)
    (hheld : heldAt held m k = some n) (hv : held v = none) :
    Balanced held (m.insert k v) (messages - 1) (bytes - n) := by
  have hcount := count_insert_add held m k v
  have hamount := amount_insert_add held m k v
  simp only [hheld, hv, Option.elim_none, Option.elim_some, id] at hcount hamount
  exact ⟨by have := h.messages; omega, by have := h.bytes; omega⟩

/-- Erasing a value that holds nothing keeps the balance. -/
theorem Balanced.erase_free (h : Balanced held m messages bytes)
    (hfree : heldAt held m k = none) : Balanced held (m.erase k) messages bytes := by
  have hcount := KeyedMap.total_eq_weightAt_add_erase
    (fun _ v => (held v).elim 0 fun _ => 1) m k
  have hamount := KeyedMap.total_eq_weightAt_add_erase (fun _ v => (held v).elim 0 id) m k
  unfold heldAt at hfree
  cases hv : m.lookup k with
  | none =>
      simp only [KeyedMap.weightAt_of_none hv, zero_add] at hcount hamount
      exact ⟨h.messages.trans hcount, h.bytes.trans hamount⟩
  | some v =>
      simp only [hv, Option.bind_some] at hfree
      simp only [KeyedMap.weightAt_of_some hv, hfree, Option.elim_none, zero_add] at hcount hamount
      exact ⟨h.messages.trans hcount, h.bytes.trans hamount⟩

/-- Erasing a value gives its reservation back. -/
theorem Balanced.erase_held (h : Balanced held m messages bytes)
    (hheld : heldAt held m k = some n) :
    Balanced held (m.erase k) (messages - 1) (bytes - n) := by
  obtain ⟨v, hv, hn⟩ := Option.bind_eq_some_iff.mp hheld
  have hcount := KeyedMap.total_eq_weightAt_add_erase
    (fun _ v => (held v).elim 0 fun _ => 1) m k
  have hamount := KeyedMap.total_eq_weightAt_add_erase (fun _ v => (held v).elim 0 id) m k
  simp only [KeyedMap.weightAt_of_some hv, hn, Option.elim_some, id] at hcount hamount
  have hmessages : messages = 1 + count held (m.erase k) := h.messages.trans hcount
  have hbytes : bytes = n + amount held (m.erase k) := h.bytes.trans hamount
  exact ⟨by omega, by omega⟩

/-- A balanced pool without holders is empty. -/
theorem Balanced.eq_zero (h : Balanced held m messages bytes)
    (hnone : ∀ k v, m.lookup k = some v → held v = none) : messages = 0 ∧ bytes = 0 := by
  constructor
  · rw [h.messages]
    exact KeyedMap.total_eq_zero fun k v hv => by simp [hnone k v hv]
  · rw [h.bytes]
    exact KeyedMap.total_eq_zero fun k v hv => by simp [hnone k v hv]

end Reservations
