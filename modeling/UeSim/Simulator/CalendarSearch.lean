import UeSim.Simulator.CalendarOrder

/-!
# The search through a year

The search passes the days that have no event due.  The events of a day that was passed are at
least a year later, so that the first event that is due is the next one; and when the year is
over, the least of the first events of all buckets is the least event of all.
-/

namespace UeSim
namespace Scheduler
namespace CalendarScheduler

variable {s s' : CalendarScheduler} {l : List Event} {ev a : Event} {found : Option (ℕ × Event)}

/-- The day on which the search starts. -/
def firstDay (s : CalendarScheduler) : ℕ := s.lastPrio / s.width

/-- The days of a bucket are a year apart. -/
theorem day_cases {day first k n : ℕ} (hk : k < n) (hfirst : first ≤ day)
    (hmod : day % n = (first + k) % n) : day = first + k ∨ first + k + n ≤ day := by
  have hcancel : day - first ≡ k [MOD n] := by
    refine Nat.ModEq.add_left_cancel' first ?_
    rw [Nat.add_sub_cancel' hfirst]
    exact hmod
  have hrest : (day - first) % n = k := Eq.trans hcancel (Nat.mod_eq_of_lt hk)
  have hdiv := Nat.div_add_mod (day - first) n
  rw [hrest] at hdiv
  cases hquot : (day - first) / n with
  | zero =>
      rw [hquot, Nat.mul_zero] at hdiv
      exact .inl (by omega)
  | succ m =>
      rw [hquot, Nat.mul_succ] at hdiv
      exact .inr (by omega)

/-- The end of a day does not wrap, if there is an event on that day or later. -/
theorem day_end_lt (h : Stored s l) {day : ℕ} (hday : day ≤ ev.ts / s.width) :
    (day + 1) * s.width < 2 ^ 64 := by
  have hts : ev.ts < 2 ^ 63 := ev.key.ts_lt
  have hle : day * s.width ≤ ev.ts := (Nat.le_div_iff_mul_le h.width_pos).mp hday
  have hwidth := h.width_lt
  rw [Nat.succ_mul]
  cases day with
  | zero => omega
  | succ day =>
      have hone : s.width ≤ (day + 1) * s.width := Nat.le_mul_of_pos_left _ (Nat.succ_pos day)
      omega

/-- The first event of a bucket is the least one in it. -/
theorem nextEvent_some (h : Stored s l) {i : ℕ}
    (hnext : nextEvent s.reverse (s.bucket i) = some ev) :
    ev ∈ s.bucket i ∧ ∀ e ∈ s.bucket i, ¬Before e ev := by
  rw [nextEvent_eq] at hnext
  obtain ⟨rest, hrest⟩ := List.head?_eq_some_iff.mp hnext
  have hperm := perm_chronological s.reverse (s.bucket i)
  have hsorted := h.sorted i
  rw [hrest] at hperm hsorted
  refine ⟨hperm.mem_iff.mp List.mem_cons_self, fun e he hbefore => ?_⟩
  rcases List.mem_cons.mp (hperm.mem_iff.mpr he) with rfl | he
  · exact lt_irrefl _ hbefore
  · exact hbefore.asymm ((List.pairwise_cons.mp hsorted).1 e he)

theorem nextEvent_none {i : ℕ} (hnext : nextEvent s.reverse (s.bucket i) = none) :
    s.bucket i = [] := by
  rw [nextEvent_eq, List.head?_eq_none_iff] at hnext
  have hperm := perm_chronological s.reverse (s.bucket i)
  rw [hnext] at hperm
  exact hperm.nil_eq.symm

/-! ## The days that were passed -/

/-- An event lies in the bucket of the `k`-th day of the search. -/
def OnDay (s : CalendarScheduler) (k : ℕ) (e : Event) : Prop :=
  s.hash e.ts = (s.firstDay + k) % s.nBuckets

/-- What is known after `k` days: the events of their buckets are at least a year later, and none
of them is before the event that was found. -/
structure Passed (s : CalendarScheduler) (l : List Event) (k : ℕ) (found : Option (ℕ × Event)) :
    Prop where
  later : ∀ e ∈ l, ∀ j < k, s.OnDay j e → s.firstDay + j + s.nBuckets ≤ e.ts / s.width
  least : ∀ e ∈ l, ∀ j < k, s.OnDay j e → ∃ best, found = some best ∧ ¬Before e best.2
  stored : ∀ best, found = some best → best.2 ∈ l ∧ best.1 = s.hash best.2.ts

/-- The search has found an event. -/
def Finds (s : CalendarScheduler) (a : Event) : Search → Prop
  | .due i bucketTop ev => ev = a ∧ i = s.hash a.ts ∧ bucketTop = topOf s.width a.ts
  | .least found => found = some (s.hash a.ts, a)

/-- A day without events is passed. -/
theorem Passed.empty {k : ℕ} (h : Passed s l k found) (hempty : ∀ e ∈ l, ¬s.OnDay k e) :
    Passed s l (k + 1) found := by
  have hbefore : ∀ e ∈ l, ∀ j < k + 1, s.OnDay j e → j < k := by
    intro e he j hj hday
    refine lt_of_le_of_ne (Nat.lt_succ_iff.mp hj) ?_
    rintro rfl
    exact hempty e he hday
  exact ⟨fun e he j hj hday => h.later e he j (hbefore e he j hj hday) hday,
    fun e he j hj hday => h.least e he j (hbefore e he j hj hday) hday, h.stored⟩

/-- The lesser of two events is one of them, and neither is before it. -/
theorem lesser_spec (found : Option (ℕ × Event)) (i : ℕ) (ev : Event) :
    ∃ best, lesser found i ev = some best ∧ (best = (i, ev) ∨ found = some best) ∧
      ¬Before ev best.2 ∧ ∀ other, found = some other → ¬Before other.2 best.2 := by
  cases found with
  | none => exact ⟨(i, ev), rfl, .inl rfl, lt_irrefl _, fun _ h => nomatch h⟩
  | some best =>
      unfold lesser
      dsimp only
      split_ifs with hbefore
      · have hlt : Before ev best.2 := before_iff.mp hbefore
        refine ⟨(i, ev), rfl, .inl rfl, lt_irrefl _, ?_⟩
        rintro other ⟨⟩
        exact hlt.asymm
      · refine ⟨best, rfl, .inr rfl, fun hlt => hbefore (before_iff.mpr hlt), ?_⟩
        rintro other ⟨⟩
        exact lt_irrefl _

/-- A day whose events are due in a later year is passed, with the first of them. -/
theorem Passed.later_year {k : ℕ} (h : Passed s l k found) (hmem : ev ∈ l) (hev : s.OnDay k ev)
    (hlater : s.firstDay + k + s.nBuckets ≤ ev.ts / s.width)
    (hleast : ∀ e ∈ l, s.OnDay k e → ¬Before e ev) :
    Passed s l (k + 1) (lesser found ((s.firstDay + k) % s.nBuckets) ev) := by
  obtain ⟨best, heq, hbest, hev', hothers⟩ :=
    lesser_spec found ((s.firstDay + k) % s.nBuckets) ev
  refine ⟨fun e he j hj hday => ?_, fun e he j hj hday => ⟨best, heq, ?_⟩, fun best' hbest' => ?_⟩
  · rcases Nat.lt_succ_iff_lt_or_eq.mp hj with hj | rfl
    · exact h.later e he j hj hday
    · refine hlater.trans (Nat.div_le_div_right ?_)
      by_contra hlt
      exact hleast e he hday (PriorityQueue.rank_lt_rank.mpr (.inl (not_le.mp hlt)))
  · rcases Nat.lt_succ_iff_lt_or_eq.mp hj with hj | rfl
    · obtain ⟨other, hother, hle⟩ := h.least e he j hj hday
      exact fun hbefore => hle (hbefore.trans_le (not_lt.mp (hothers other hother)))
    · exact fun hbefore =>
        hleast e he hday (hbefore.trans_le (not_lt.mp hev'))
  · rw [heq] at hbest'
    cases hbest'
    rcases hbest with rfl | hbest
    · exact ⟨hmem, hev.symm⟩
    · exact h.stored best hbest

/-! ## The result of the search -/

/-- The search finds the least event. -/
theorem search_finds (h : Stored s l) (hpointed : Pointed s l) (ha : a ∈ l)
    (hmin : ∀ e ∈ l, ¬Before a e → e = a) (remaining k : ℕ) (found : Option (ℕ × Event))
    (hk : k + remaining = s.nBuckets) (hpassed : Passed s l k found) :
    Finds s a (s.search remaining ((s.firstDay + k) % s.nBuckets)
      (toU64 ((s.firstDay + k + 1) * s.width)) found) := by
  have hnext : ∀ k, toU64 (toU64 ((s.firstDay + k + 1) * s.width) + s.width) =
      toU64 ((s.firstDay + (k + 1) + 1) * s.width) := by
    intro k
    unfold toU64
    rw [Nat.mod_add_mod, ← Nat.succ_mul]
    rfl
  have hday : ∀ k, ((s.firstDay + k) % s.nBuckets + 1) % s.nBuckets =
      (s.firstDay + (k + 1)) % s.nBuckets := fun k => Nat.mod_add_mod _ _ _
  have hleast : ∀ {e}, e ∈ l → (∀ e' ∈ l, ¬Before e' e) → e = a :=
    fun he hno => hmin _ he (hno a ha)
  induction remaining generalizing k found with
  | zero =>
      obtain rfl : k = s.nBuckets := hk
      -- Every bucket belongs to one of the days that were passed.
      have hall : ∀ e ∈ l, ∃ best, found = some best ∧ ¬Before e best.2 := by
        intro e he
        obtain ⟨j, hj, hmod⟩ : ∃ j < s.nBuckets,
            e.ts / s.width % s.nBuckets = (s.firstDay + j) % s.nBuckets := by
          have hle : s.firstDay ≤ e.ts / s.width := Nat.div_le_div_right (hpointed.bound e he)
          refine ⟨(e.ts / s.width - s.firstDay) % s.nBuckets, Nat.mod_lt _ h.nBuckets_pos, ?_⟩
          rw [Nat.add_mod_mod, Nat.add_sub_cancel' hle]
        exact hpassed.least e he j hj hmod
      obtain ⟨best, hbest, -⟩ := hall a ha
      obtain ⟨hmem, hbucket⟩ := hpassed.stored best hbest
      have heq : best.2 = a := by
        refine hleast hmem fun e he => ?_
        obtain ⟨best', hbest', hnot⟩ := hall e he
        cases hbest.symm.trans hbest'
        exact hnot
      change found = some (s.hash a.ts, a)
      rw [hbest, ← heq, ← hbucket]
  | succ remaining ih =>
      have hlt : k < s.nBuckets := by omega
      rw [search]
      cases hfirst : nextEvent s.reverse (s.bucket ((s.firstDay + k) % s.nBuckets)) with
      | none =>
          dsimp only
          rw [hnext, hday]
          refine ih (k + 1) found (by omega) (hpassed.empty fun e he honDay => ?_)
          rw [h.mem_iff, honDay, nextEvent_none hfirst] at he
          exact List.not_mem_nil he
      | some ev =>
          dsimp only
          obtain ⟨hbucket, hbucketLeast⟩ := nextEvent_some h hfirst
          have hev : ev ∈ l := h.mem_of_mem_bucket hbucket
          have honDay : s.OnDay k ev := h.placed _ ev hbucket
          have hdays : ∀ e ∈ l, ∀ j < s.nBuckets, s.OnDay j e →
              e.ts / s.width = s.firstDay + j ∨ s.firstDay + j + s.nBuckets ≤ e.ts / s.width :=
            fun e he j hj hon =>
              day_cases hj (Nat.div_le_div_right (hpointed.bound e he)) hon
          have hfrom : s.firstDay + k ≤ ev.ts / s.width := by
            rcases hdays ev hev k hlt honDay with heq | hle
            · exact heq.ge
            · omega
          have htop : toU64 ((s.firstDay + k + 1) * s.width) = (s.firstDay + k + 1) * s.width :=
            toU64_of_lt (day_end_lt h hfrom)
          have hdue : ev.ts < toU64 ((s.firstDay + k + 1) * s.width) ↔
              ev.ts / s.width < s.firstDay + k + 1 := by
            rw [htop, Nat.div_lt_iff_lt_mul h.width_pos]
          have hsameDay : ∀ e ∈ l, s.OnDay k e → ¬Before e ev := by
            intro e he hon
            exact hbucketLeast e (hon ▸ h.mem_iff.mp he)
          split_ifs with hlt'
          · have hequal : ev.ts / s.width = s.firstDay + k := by
              have := hdue.mp hlt'
              omega
            have hfound : ev = a := by
              refine hleast hev fun e he hbefore => ?_
              have hle : e.ts / s.width ≤ ev.ts / s.width :=
                Nat.div_le_div_right (PriorityQueue.prio_le_of_rank_lt hbefore)
              obtain ⟨j, hj, hon⟩ : ∃ j < s.nBuckets, s.OnDay j e := by
                have hge : s.firstDay ≤ e.ts / s.width :=
                  Nat.div_le_div_right (hpointed.bound e he)
                refine ⟨e.ts / s.width - s.firstDay, by omega, ?_⟩
                unfold OnDay hash
                rw [Nat.add_sub_cancel' hge]
              rcases lt_trichotomy j k with hjk | rfl | hjk
              · have := hpassed.later e he j hjk hon
                omega
              · exact hsameDay e he hon hbefore
              · rcases hdays e he j hj hon with heq | hge <;> omega
            subst hfound
            refine ⟨rfl, honDay.symm, ?_⟩
            unfold topOf
            rw [hequal]
          · have hlater : s.firstDay + k + s.nBuckets ≤ ev.ts / s.width := by
              rcases hdays ev hev k hlt honDay with heq | hle
              · exact absurd (hdue.mpr (by omega)) hlt'
              · exact hle
            rw [hnext, hday]
            exact ih (k + 1) _ (by omega) (hpassed.later_year hev honDay hlater hsameDay)

/-- The search through the year finds the least event. -/
theorem searchYear_finds (h : Stored s (a :: l)) (hpointed : Pointed s (a :: l))
    (hmin : ∀ e ∈ l, Before a e) : Finds s a s.searchYear := by
  have hmin' : ∀ e ∈ a :: l, ¬Before a e → e = a := by
    intro e he hnot
    exact (List.mem_cons.mp he).resolve_right fun he => hnot (hmin e he)
  have hstart : Passed s (a :: l) 0 none :=
    ⟨fun e _ j hj => absurd hj (Nat.not_lt_zero j), fun e _ j hj => absurd hj (Nat.not_lt_zero j),
      fun _ h => nomatch h⟩
  have hfinds := search_finds h hpointed List.mem_cons_self hmin' s.nBuckets 0 none
    (Nat.zero_add _) hstart
  unfold searchYear
  rw [hpointed.lastBucket_eq, hpointed.bucketTop_eq]
  exact hfinds

end CalendarScheduler
end Scheduler
end UeSim
