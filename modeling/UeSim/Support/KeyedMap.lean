import Mathlib.Data.List.AList
import Mathlib.Algebra.BigOperators.Group.List.Basic
import Mathlib.Algebra.Order.Ring.Nat

/-!
# Finite maps with totals

`KeyedMap κ ν` is a finite map from keys to values.  A weight on its entries
has a total over the map, and the lemmas below say how that total moves when
one entry is written or erased.  Counting the entries that satisfy a predicate
is the total of an indicator weight.
-/

/-- A finite map with at most one value for each key. -/
abbrev KeyedMap (κ ν : Type*) := AList fun _ : κ => ν

namespace KeyedMap

variable {κ ν : Type*} [DecidableEq κ]

/-- The sum of a weight over the entries of a map. -/
def total (w : κ → ν → ℕ) (m : KeyedMap κ ν) : ℕ :=
  (m.entries.map fun e => w e.1 e.2).sum

/-- The weight of the entry at a key, zero when the key is absent. -/
def weightAt (w : κ → ν → ℕ) (m : KeyedMap κ ν) (k : κ) : ℕ :=
  (m.lookup k).elim 0 (w k)

/-- Replace the value at a key, if there is one. -/
def modify (m : KeyedMap κ ν) (k : κ) (f : ν → ν) : KeyedMap κ ν :=
  match m.lookup k with
  | none => m
  | some v => m.insert k (f v)

/-- An entry with its value changed, or nothing. -/
def filterMapEntry (f : κ → ν → Option ν) (e : Sigma fun _ : κ => ν) :
    Option (Sigma fun _ : κ => ν) :=
  (f e.1 e.2).map (Sigma.mk e.1)

omit [DecidableEq κ] in
private theorem sublist_keys_filterMap (f : κ → ν → Option ν)
    (l : List (Sigma fun _ : κ => ν)) :
    (l.filterMap (filterMapEntry f)).keys.Sublist l.keys := by
  induction l with
  | nil => simp
  | cons e l ih =>
      cases he : f e.1 e.2 with
      | none => simpa [filterMapEntry, he] using ih.cons e.1
      | some v => simpa [filterMapEntry, he] using ih

/-- Change or drop every entry of a map. -/
def filterMap (f : κ → ν → Option ν) (m : KeyedMap κ ν) : KeyedMap κ ν where
  entries := m.entries.filterMap (filterMapEntry f)
  nodupKeys := (sublist_keys_filterMap f m.entries).nodup m.nodupKeys

omit [DecidableEq κ] in
@[simp] theorem total_empty (w : κ → ν → ℕ) :
    total w (∅ : KeyedMap κ ν) = 0 := rfl

theorem weightAt_of_some {w : κ → ν → ℕ} {m : KeyedMap κ ν} {k : κ} {v : ν}
    (h : m.lookup k = some v) : weightAt w m k = w k v := by
  simp [weightAt, h]

theorem weightAt_of_none {w : κ → ν → ℕ} {m : KeyedMap κ ν} {k : κ}
    (h : m.lookup k = none) : weightAt w m k = 0 := by
  simp [weightAt, h]

/-- Splitting one entry off a list of entries with distinct keys. -/
private theorem sum_kerase (w : κ → ν → ℕ) (k : κ)
    (l : List (Sigma fun _ : κ => ν)) :
    (List.dlookup k l).elim 0 (w k) +
        ((List.kerase k l).map fun e => w e.1 e.2).sum =
      (l.map fun e => w e.1 e.2).sum := by
  induction l with
  | nil => simp
  | cons e l ih =>
      obtain ⟨k', v⟩ := e
      by_cases hk : k = k'
      · subst hk
        simp
      · have hlook : List.dlookup k (⟨k', v⟩ :: l : List (Sigma fun _ : κ => ν)) =
            List.dlookup k l := List.dlookup_cons_ne l ⟨k', v⟩ hk
        have herase : List.kerase k (⟨k', v⟩ :: l : List (Sigma fun _ : κ => ν)) =
            ⟨k', v⟩ :: List.kerase k l := List.kerase_cons_ne hk
        rw [hlook, herase, List.map_cons, List.map_cons, List.sum_cons, List.sum_cons]
        omega

/-- A total splits into the weight at a key and the rest. -/
theorem total_eq_weightAt_add_erase (w : κ → ν → ℕ) (m : KeyedMap κ ν) (k : κ) :
    total w m = weightAt w m k + total w (m.erase k) :=
  (sum_kerase w k m.entries).symm

/-- Writing an entry replaces the weight at its key. -/
theorem total_insert (w : κ → ν → ℕ) (m : KeyedMap κ ν) (k : κ) (v : ν) :
    total w (m.insert k v) = w k v + total w (m.erase k) := by
  have hentries : (m.insert k v).entries = ⟨k, v⟩ :: (m.erase k).entries := rfl
  rw [total, hentries, List.map_cons, List.sum_cons, total]

/-- The balance equation for one write. -/
theorem total_insert_add (w : κ → ν → ℕ) (m : KeyedMap κ ν) (k : κ) (v : ν) :
    total w (m.insert k v) + weightAt w m k = total w m + w k v := by
  rw [total_insert, total_eq_weightAt_add_erase w m k]
  omega

theorem weightAt_le_total (w : κ → ν → ℕ) (m : KeyedMap κ ν) (k : κ) :
    weightAt w m k ≤ total w m := by
  rw [total_eq_weightAt_add_erase w m k]
  omega

/-- A write that keeps the weight at its key keeps the total. -/
theorem total_insert_of_weight_eq {w : κ → ν → ℕ} {m : KeyedMap κ ν} {k : κ} {v : ν}
    (h : w k v = weightAt w m k) : total w (m.insert k v) = total w m := by
  have hbal := total_insert_add w m k v
  omega

/-- Replacing an entry does not change the number of entries. -/
theorem length_insert_of_some {m : KeyedMap κ ν} {k : κ} {v : ν} (h : m.lookup k = some v)
    (v' : ν) : (m.insert k v').entries.length = m.entries.length := by
  have hlength : ∀ m : KeyedMap κ ν, total (fun _ _ => 1) m = m.entries.length := by
    intro m
    simp [total]
  have hweight : weightAt (fun _ _ => 1) m k = 1 := weightAt_of_some h
  rw [← hlength, ← hlength]
  exact total_insert_of_weight_eq hweight.symm

/-- A new entry is one more. -/
theorem length_insert_of_none {m : KeyedMap κ ν} {k : κ} (h : m.lookup k = none) (v : ν) :
    (m.insert k v).entries.length = m.entries.length + 1 := by
  rw [AList.entries_insert_of_notMem (AList.lookup_eq_none.mp h)]
  rfl

omit [DecidableEq κ] in
/-- Totals add up entry by entry. -/
theorem total_add (w w' : κ → ν → ℕ) (m : KeyedMap κ ν) :
    total (fun k v => w k v + w' k v) m = total w m + total w' m :=
  List.sum_map_add

omit [DecidableEq κ] in
/-- Changing or dropping the entries of a map changes their weights. -/
theorem total_filterMap (w : κ → ν → ℕ) (f : κ → ν → Option ν) (m : KeyedMap κ ν) :
    total w (filterMap f m) = total (fun k v => (f k v).elim 0 (w k)) m := by
  unfold total filterMap
  dsimp only
  induction m.entries with
  | nil => rfl
  | cons e l ih =>
      rw [List.map_cons, List.sum_cons, ← ih]
      cases he : f e.1 e.2 with
      | none => simp [filterMapEntry, he]
      | some v => simp [filterMapEntry, he]

omit [DecidableEq κ] in
/-- A total splits into the entries with a property and those without it. -/
theorem total_eq_sum_filter_add (w : κ → ν → ℕ) (p : (Sigma fun _ : κ => ν) → Bool)
    (m : KeyedMap κ ν) :
    total w m = ((m.entries.filter p).map fun e => w e.1 e.2).sum +
      total (fun k v => if p ⟨k, v⟩ then 0 else w k v) m := by
  unfold total
  induction m.entries with
  | nil => rfl
  | cons e l ih =>
      simp only [List.map_cons, List.sum_cons, List.filter_cons]
      rw [ih]
      cases hp : p e with
      | true => simp [Nat.add_assoc]
      | false =>
          simp
          omega

/-- A total depends only on the weights of the entries of the map. -/
theorem total_congr {w w' : κ → ν → ℕ} {m : KeyedMap κ ν}
    (h : ∀ k v, m.lookup k = some v → w k v = w' k v) : total w m = total w' m := by
  unfold total
  congr 1
  refine List.map_congr_left fun e he => ?_
  exact h e.1 e.2 (AList.mem_lookup_iff.mpr he)

/-- A total of vanishing weights vanishes. -/
theorem total_eq_zero {w : κ → ν → ℕ} {m : KeyedMap κ ν}
    (h : ∀ k v, m.lookup k = some v → w k v = 0) : total w m = 0 := by
  refine List.sum_eq_zero ?_
  intro n hn
  obtain ⟨e, he, rfl⟩ := List.mem_map.mp hn
  exact h e.1 e.2 (AList.mem_lookup_iff.mpr he)

private theorem dlookup_filterMap (f : κ → ν → Option ν) (k : κ)
    (l : List (Sigma fun _ : κ => ν)) (hnodup : l.NodupKeys) :
    List.dlookup k (l.filterMap (filterMapEntry f)) = (List.dlookup k l).bind (f k) := by
  induction l with
  | nil => rfl
  | cons e l ih =>
      obtain ⟨k', v⟩ := e
      rw [List.nodupKeys_cons] at hnodup
      have htail := ih hnodup.2
      by_cases hk : k = k'
      · subst hk
        have habsent : List.dlookup k l = none := List.dlookup_eq_none.mpr hnodup.1
        rw [habsent, Option.bind_none] at htail
        cases hv : f k v with
        | none => simpa [filterMapEntry, hv] using htail
        | some v' => simp [filterMapEntry, hv]
      · rw [List.dlookup_cons_ne l ⟨k', v⟩ hk, ← htail]
        cases hv : f k' v with
        | none => simp [filterMapEntry, hv]
        | some v' =>
            simpa [filterMapEntry, hv] using List.dlookup_cons_ne
              (l.filterMap (filterMapEntry f)) (⟨k', v'⟩ : Sigma fun _ : κ => ν) hk

theorem lookup_filterMap (f : κ → ν → Option ν) (m : KeyedMap κ ν) (k : κ) :
    (filterMap f m).lookup k = (m.lookup k).bind (f k) :=
  dlookup_filterMap f k m.entries m.nodupKeys

omit [DecidableEq κ] in
/-- A change that keeps the only entry of a map. -/
theorem filterMap_singleton {f : κ → ν → Option ν} {k : κ} {v : ν} (h : f k v = some v) :
    filterMap f (AList.singleton k v) = AList.singleton k v := by
  refine AList.ext ?_
  simp [filterMap, filterMapEntry, h]

/-- A change drops no entry exactly when every entry has a value after it. -/
theorem length_filterMap_eq_iff (f : κ → ν → Option ν) (m : KeyedMap κ ν) :
    (filterMap f m).entries.length = m.entries.length ↔
      ∀ k v, m.lookup k = some v → (f k v).isSome = true := by
  have hentry : ∀ e, (filterMapEntry f e).isSome = (f e.1 e.2).isSome :=
    fun e => Option.isSome_map
  unfold filterMap
  dsimp only
  rw [List.filterMap_length_eq_length]
  constructor
  · intro h k v hv
    rw [← hentry ⟨k, v⟩]
    exact h ⟨k, v⟩ (AList.mem_lookup_iff.mp hv)
  · intro h e he
    rw [hentry]
    exact h e.1 e.2 (AList.mem_lookup_iff.mpr he)

/-- A property of all entries survives a change of the entries that keeps it. -/
theorem forall_filterMap {P : κ → ν → Prop} {m : KeyedMap κ ν} {f : κ → ν → Option ν}
    (h : ∀ k v, m.lookup k = some v → P k v) (hf : ∀ k v v', P k v → f k v = some v' → P k v') :
    ∀ k v, (filterMap f m).lookup k = some v → P k v := by
  intro k v hv
  rw [lookup_filterMap] at hv
  obtain ⟨v₀, hv₀, hfv⟩ := Option.bind_eq_some_iff.mp hv
  exact hf k v₀ v (h k v₀ hv₀) hfv

theorem lookup_modify_self {m : KeyedMap κ ν} {k : κ} {f : ν → ν} :
    (modify m k f).lookup k = (m.lookup k).map f := by
  unfold modify
  cases h : m.lookup k with
  | none => simp [h]
  | some v => simp

theorem lookup_modify_ne {m : KeyedMap κ ν} {k k' : κ} {f : ν → ν} (hne : k' ≠ k) :
    (modify m k f).lookup k' = m.lookup k' := by
  unfold modify
  cases m.lookup k with
  | none => rfl
  | some v => exact AList.lookup_insert_ne hne

theorem modify_of_some {m : KeyedMap κ ν} {k : κ} {f : ν → ν} {v : ν}
    (h : m.lookup k = some v) : modify m k f = m.insert k (f v) := by
  simp [modify, h]

/-- A map has entries exactly when some key has a value. -/
theorem entries_ne_nil_iff {m : KeyedMap κ ν} :
    m.entries ≠ [] ↔ ∃ k v, m.lookup k = some v := by
  constructor
  · intro hne
    obtain ⟨⟨k, v⟩, he⟩ := List.exists_mem_of_ne_nil _ hne
    exact ⟨k, v, AList.mem_lookup_iff.mpr he⟩
  · rintro ⟨k, v, hv⟩ hnil
    have he := AList.mem_lookup_iff.mp hv
    rw [hnil] at he
    exact List.not_mem_nil he

/-- A property of all entries survives a write of an entry that has it. -/
theorem forall_insert {P : κ → ν → Prop} {m : KeyedMap κ ν} {k : κ} {v : ν}
    (h : ∀ k' v', m.lookup k' = some v' → P k' v') (hk : P k v) :
    ∀ k' v', (m.insert k v).lookup k' = some v' → P k' v' := by
  intro k' v' hv'
  by_cases hne : k' = k
  · subst hne
    rw [AList.lookup_insert, Option.some.injEq] at hv'
    exact hv' ▸ hk
  · exact h k' v' (by rwa [AList.lookup_insert_ne hne] at hv')

/-- An entry that is left after an erasure was there before. -/
theorem lookup_of_lookup_erase {m : KeyedMap κ ν} {k k' : κ} {v : ν}
    (h : (m.erase k).lookup k' = some v) : m.lookup k' = some v := by
  by_cases hne : k' = k
  · subst hne
    cases (AList.lookup_erase k' m).symm.trans h
  · rwa [AList.lookup_erase_ne hne] at h

/-- A property of all entries survives a change of one entry that keeps it. -/
theorem forall_modify {P : κ → ν → Prop} {m : KeyedMap κ ν} {k : κ} {f : ν → ν}
    (h : ∀ k' v', m.lookup k' = some v' → P k' v') (hf : ∀ v, P k v → P k (f v)) :
    ∀ k' v', (modify m k f).lookup k' = some v' → P k' v' := by
  cases hk : m.lookup k with
  | none => simpa [modify, hk] using h
  | some v =>
      rw [modify_of_some hk]
      exact forall_insert h (hf v (h k v hk))

/-! ## The values of a map -/

/-- The values of a map, in the order of its entries. -/
def values (m : KeyedMap κ ν) : List ν :=
  m.entries.map Sigma.snd

theorem values_insert (m : KeyedMap κ ν) (k : κ) (v : ν) :
    values (m.insert k v) = v :: values (m.erase k) := rfl

theorem values_insert_of_none {m : KeyedMap κ ν} {k : κ} {v : ν} (h : m.lookup k = none) :
    values (m.insert k v) = v :: values m := by
  unfold values
  rw [AList.entries_insert_of_notMem (AList.lookup_eq_none.mp h)]
  rfl

/-- The value of a key and the values of the other keys. -/
theorem values_perm_of_some {m : KeyedMap κ ν} {k : κ} {v : ν} (h : m.lookup k = some v) :
    (values m).Perm (v :: values (m.erase k)) := by
  have hperm : m.entries.Perm (m.insert k v).entries := by
    refine List.lookup_ext m.nodupKeys (m.insert k v).nodupKeys fun k' v' => ?_
    change m.lookup k' = some v' ↔ (m.insert k v).lookup k' = some v'
    by_cases hk : k' = k
    · rw [hk, AList.lookup_insert, h]
    · rw [AList.lookup_insert_ne hk]
  exact hperm.map Sigma.snd

omit [DecidableEq κ] in
/-- A change of the values that a projection does not see. -/
theorem map_values_filterMap {β : Type*} {f : κ → ν → ν} {g : ν → β}
    (hg : ∀ k v, g (f k v) = g v) (m : KeyedMap κ ν) :
    (values (filterMap (fun k v => some (f k v)) m)).map g = (values m).map g := by
  unfold values filterMap
  dsimp only
  induction m.entries with
  | nil => rfl
  | cons e l ih => simpa [filterMapEntry, hg] using ih

omit [DecidableEq κ] in
/-- Dropping the values that satisfy a predicate. -/
theorem values_filterMap_drop (p : ν → Bool) (m : KeyedMap κ ν) :
    values (filterMap (fun _ v => if p v then none else some v) m) =
      (values m).filter fun v => !p v := by
  unfold values filterMap
  dsimp only
  induction m.entries with
  | nil => rfl
  | cons e l ih =>
      cases hp : p e.2 with
      | true => simpa [filterMapEntry, hp] using ih
      | false => simpa [filterMapEntry, hp] using ih

/-! ## Changing every value -/

/-- Change every value of a map. -/
def mapValues (g : κ → ν → ν) (m : KeyedMap κ ν) : KeyedMap κ ν :=
  filterMap (fun k v => some (g k v)) m

omit [DecidableEq κ] in
theorem entries_mapValues (g : κ → ν → ν) (m : KeyedMap κ ν) :
    (mapValues g m).entries = m.entries.map fun e => ⟨e.1, g e.1 e.2⟩ :=
  congrFun List.filterMap_eq_map m.entries

omit [DecidableEq κ] in
theorem keys_mapValues (g : κ → ν → ν) (m : KeyedMap κ ν) : (mapValues g m).keys = m.keys := by
  unfold AList.keys List.keys
  rw [entries_mapValues, List.map_map]
  rfl

omit [DecidableEq κ] in
theorem length_mapValues (g : κ → ν → ν) (m : KeyedMap κ ν) :
    (mapValues g m).entries.length = m.entries.length := by
  rw [entries_mapValues, List.length_map]

omit [DecidableEq κ] in
/-- Two changes are one. -/
theorem mapValues_mapValues (g h : κ → ν → ν) (m : KeyedMap κ ν) :
    mapValues g (mapValues h m) = mapValues (fun k v => g k (h k v)) m := by
  apply AList.ext
  rw [entries_mapValues, entries_mapValues, entries_mapValues, List.map_map]
  rfl

theorem lookup_mapValues (g : κ → ν → ν) (m : KeyedMap κ ν) (k : κ) :
    (mapValues g m).lookup k = (m.lookup k).map (g k) := by
  unfold mapValues
  rw [lookup_filterMap]
  exact Option.map_eq_bind.symm

/-- A changed value is written into a changed map. -/
theorem insert_mapValues (g : κ → ν → ν) (m : KeyedMap κ ν) (k : κ) (v : ν) :
    (mapValues g m).insert k (g k v) = mapValues g (m.insert k v) := by
  apply AList.ext
  rw [entries_mapValues, AList.entries_insert, AList.entries_insert, entries_mapValues]
  unfold List.kerase
  rw [List.map_cons, List.eraseP_map]
  rfl

end KeyedMap
