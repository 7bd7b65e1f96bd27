import UeSim.Simulator.CalendarScheduler

/-!
# The calendar queue hands out its events in their order

Whatever the width and the number of the buckets are, every event lies in the bucket of its day,
and no event is before the one that was handed out last.  So the first day of the year that has an
event due has the next event, and resizing changes nothing that can be seen.
-/

namespace UeSim
namespace Scheduler
namespace CalendarScheduler

variable {s s' : CalendarScheduler} {l l' : List Event} {ev a : Event} {last : WithBot ℕ}

/-! ## One bucket -/

/-- The events of a bucket in their order. -/
def chronological (reverse : Bool) (bucket : List Event) : List Event :=
  if reverse then bucket.reverse else bucket

theorem perm_chronological (reverse : Bool) (bucket : List Event) :
    (chronological reverse bucket).Perm bucket := by
  cases reverse with
  | false => exact .refl _
  | true => exact List.reverse_perm bucket

theorem nextEvent_eq (reverse : Bool) (bucket : List Event) :
    nextEvent reverse bucket = (chronological reverse bucket).head? := by
  cases reverse with
  | false => rfl
  | true => exact List.head?_reverse.symm

theorem chronological_pop (reverse : Bool) (bucket : List Event) :
    chronological reverse (pop reverse bucket) = (chronological reverse bucket).tail := by
  cases reverse with
  | false => rfl
  | true => exact (List.tail_reverse).symm

theorem perm_insertInto (reverse : Bool) (ev : Event) (bucket : List Event) :
    (insertInto reverse ev bucket).Perm (ev :: bucket) := by
  induction bucket with
  | nil => exact .refl _
  | cons e bucket ih =>
      rw [insertInto]
      split_ifs
      · exact .refl _
      · exact (ih.cons e).trans (.swap ev e bucket)

/-- Insertion into a bucket, whichever way its events are stored. -/
theorem sorted_insertInto {reverse : Bool} {bucket : List Event}
    (hsorted : (chronological reverse bucket).Pairwise Before)
    (hnew : ∀ e ∈ bucket, e.uid ≠ ev.uid) :
    (chronological reverse (insertInto reverse ev bucket)).Pairwise Before := by
  cases reverse with
  | false =>
      have heq : ∀ bucket, insertInto false ev bucket =
          PriorityQueue.insertSorted Event.ts Event.uid ev bucket := by
        intro bucket
        induction bucket with
        | nil => rfl
        | cons e bucket ih =>
            rw [insertInto, PriorityQueue.insertSorted, ih]
            exact if_congr before_iff rfl rfl
      unfold chronological at hsorted ⊢
      rw [if_neg Bool.false_ne_true] at hsorted ⊢
      rw [heq]
      exact PriorityQueue.sorted_insertSorted hsorted hnew
  | true =>
      unfold chronological at hsorted ⊢
      rw [if_pos rfl, List.pairwise_reverse] at hsorted ⊢
      induction bucket with
      | nil => exact List.pairwise_singleton _ _
      | cons e bucket ih =>
          rw [List.pairwise_cons] at hsorted
          rw [insertInto]
          have hne : order ev ≠ order e := fun heq =>
            hnew e List.mem_cons_self (congrArg Prod.snd (toLex.injective heq)).symm
          split_ifs with hlt
          · have hbefore : Before e ev := before_iff.mp hlt
            refine List.pairwise_cons.mpr ⟨fun c hc => ?_, List.pairwise_cons.mpr hsorted⟩
            rcases List.mem_cons.mp hc with rfl | hc
            · exact hbefore
            · exact (hsorted.1 c hc).trans hbefore
          · have hbefore : Before ev e :=
              lt_of_le_of_ne (not_lt.mp fun h => hlt (before_iff.mpr h)) hne
            refine List.pairwise_cons.mpr ⟨fun c hc => ?_, ?_⟩
            · rcases List.mem_cons.mp ((perm_insertInto true ev bucket).mem_iff.mp hc) with rfl | hc
              · exact hbefore
              · exact hsorted.1 c hc
            · exact ih (fun c hc => hnew c (List.mem_cons_of_mem e hc)) hsorted.2

theorem sorted_erase {reverse : Bool} {bucket : List Event} (ev : Event)
    (hsorted : (chronological reverse bucket).Pairwise Before) :
    (chronological reverse (bucket.erase ev)).Pairwise Before := by
  cases reverse with
  | false => exact hsorted.sublist List.erase_sublist
  | true => exact hsorted.sublist (List.reverse_sublist.mpr List.erase_sublist)

/-! ## All buckets -/

/-- The scheduler stores the events of a list: each lies in the bucket of its day, and every bucket
is in order. -/
structure Stored (s : CalendarScheduler) (l : List Event) : Prop where
  nBuckets_pos : 0 < s.nBuckets
  width_pos : 0 < s.width
  width_lt : s.width < 2 ^ 64
  placed : ∀ i, ∀ e ∈ s.bucket i, s.hash e.ts = i
  sorted : ∀ i, (chronological s.reverse (s.bucket i)).Pairwise Before
  perm : s.buckets.flatten.Perm l
  distinct : l.Pairwise fun a b => a.uid ≠ b.uid

/-- The search starts on the day of the last event that was handed out, and no event is before
it. -/
structure Pointed (s : CalendarScheduler) (l : List Event) : Prop where
  lastPrio_lt : s.lastPrio < 2 ^ 63
  lastBucket_eq : s.lastBucket = s.hash s.lastPrio
  bucketTop_eq : s.bucketTop = topOf s.width s.lastPrio
  bound : ∀ e ∈ l, s.lastPrio ≤ e.ts

theorem hash_lt (h : Stored s l) (ts : ℕ) : s.hash ts < s.nBuckets :=
  Nat.mod_lt _ h.nBuckets_pos

theorem bucket_eq {i : ℕ} (hi : i < s.buckets.length) : s.bucket i = s.buckets[i] := by
  unfold bucket
  rw [List.getD_eq_getElem?_getD, List.getElem?_eq_getElem hi, Option.getD_some]

/-- An event is stored exactly if it is in the bucket of its day. -/
theorem Stored.mem_iff (h : Stored s l) : ev ∈ l ↔ ev ∈ s.bucket (s.hash ev.ts) := by
  rw [← h.perm.mem_iff, List.mem_flatten]
  constructor
  · rintro ⟨b, hb, hev⟩
    obtain ⟨i, hi, rfl⟩ := List.mem_iff_getElem.mp hb
    rw [h.placed i ev (bucket_eq hi ▸ hev), bucket_eq hi]
    exact hev
  · intro hev
    have hi : s.hash ev.ts < s.buckets.length := hash_lt h ev.ts
    exact ⟨_, List.getElem_mem hi, bucket_eq hi ▸ hev⟩

theorem Stored.mem_of_mem_bucket (h : Stored s l) {i : ℕ} (hev : ev ∈ s.bucket i) : ev ∈ l := by
  rw [h.mem_iff, h.placed i ev hev]
  exact hev

/-- What is stored does not depend on the order of the list. -/
theorem Stored.congr (h : Stored s l) (hperm : l.Perm l') : Stored s l' where
  nBuckets_pos := h.nBuckets_pos
  width_pos := h.width_pos
  width_lt := h.width_lt
  placed := h.placed
  sorted := h.sorted
  perm := h.perm.trans hperm
  distinct := (hperm.pairwise_iff fun hne => hne.symm).mp h.distinct

theorem bucket_modify (s : CalendarScheduler) (f : List Event → List Event) {i : ℕ}
    (hi : i < s.nBuckets) (j : ℕ) :
    (s.buckets.modify i f).getD j [] = if j = i then f (s.bucket i) else s.bucket j := by
  unfold bucket
  simp only [List.getD_eq_getElem?_getD, List.getElem?_modify]
  by_cases hj : j = i
  · subst hj
    have hsome : s.buckets[j]? = some s.buckets[j] := List.getElem?_eq_getElem hi
    rw [hsome, if_pos rfl]
    simp
  · rw [if_neg hj]
    simp only [if_neg (Ne.symm hj)]
    simp

/-- A bucket that gets more events, among the others. -/
theorem perm_flatten_modify {buckets : List (List Event)} {i : ℕ} (hi : i < buckets.length)
    {f : List Event → List Event} {more : List Event}
    (hf : (f buckets[i]).Perm (more ++ buckets[i])) :
    (buckets.modify i f).flatten.Perm (more ++ buckets.flatten) := by
  induction buckets generalizing i with
  | nil => exact absurd hi (Nat.not_lt_zero i)
  | cons b buckets ih =>
      cases i with
      | zero =>
          rw [List.modify_zero_cons, List.flatten_cons, List.flatten_cons, ← List.append_assoc]
          exact hf.append_right _
      | succ i =>
          have htail := ih (Nat.lt_of_succ_lt_succ hi) hf
          rw [List.modify_succ_cons, List.flatten_cons, List.flatten_cons]
          refine (htail.append_left b).trans ?_
          rw [← List.append_assoc, ← List.append_assoc]
          exact List.perm_append_comm.append_right _

/-- A bucket that loses an event, among the others. -/
theorem perm_cons_flatten_modify {buckets : List (List Event)} {i : ℕ} (hi : i < buckets.length)
    {f : List Event → List Event} (hf : (a :: f buckets[i]).Perm buckets[i]) :
    (a :: (buckets.modify i f).flatten).Perm buckets.flatten := by
  induction buckets generalizing i with
  | nil => exact absurd hi (Nat.not_lt_zero i)
  | cons b buckets ih =>
      cases i with
      | zero =>
          rw [List.modify_zero_cons, List.flatten_cons, List.flatten_cons, ← List.cons_append]
          exact hf.append_right _
      | succ i =>
          have htail := ih (Nat.lt_of_succ_lt_succ hi) hf
          rw [List.modify_succ_cons, List.flatten_cons, List.flatten_cons]
          exact List.perm_middle.symm.trans (htail.append_left b)

/-- The settings and the position of the search are those of another scheduler. -/
structure SameSettings (s s' : CalendarScheduler) : Prop where
  reverse : s'.reverse = s.reverse
  width : s'.width = s.width
  nBuckets : s'.nBuckets = s.nBuckets
  lastBucket : s'.lastBucket = s.lastBucket
  bucketTop : s'.bucketTop = s.bucketTop
  lastPrio : s'.lastPrio = s.lastPrio
  qSize : s'.qSize = s.qSize

theorem SameSettings.trans {s'' : CalendarScheduler} (h : SameSettings s s')
    (h' : SameSettings s' s'') : SameSettings s s'' where
  reverse := h'.reverse.trans h.reverse
  width := h'.width.trans h.width
  nBuckets := h'.nBuckets.trans h.nBuckets
  lastBucket := h'.lastBucket.trans h.lastBucket
  bucketTop := h'.bucketTop.trans h.bucketTop
  lastPrio := h'.lastPrio.trans h.lastPrio
  qSize := h'.qSize.trans h.qSize

theorem sameSettings_doInsert (s : CalendarScheduler) (ev : Event) :
    SameSettings s (s.doInsert ev) :=
  ⟨rfl, rfl, List.length_modify _ _ _, rfl, rfl, rfl, rfl⟩

/-- A new event is stored with the others. -/
theorem Stored.doInsert (h : Stored s l) (hnew : ∀ e ∈ l, e.uid ≠ ev.uid) :
    Stored (s.doInsert ev) (ev :: l) := by
  have hsame := sameSettings_doInsert s ev
  have hi := hash_lt h ev.ts
  have hbucket : ∀ j, (s.doInsert ev).bucket j =
      if j = s.hash ev.ts then insertInto s.reverse ev (s.bucket (s.hash ev.ts))
      else s.bucket j := bucket_modify s _ hi
  have hhash : ∀ ts, (s.doInsert ev).hash ts = s.hash ts := by
    intro ts
    unfold hash
    rw [hsame.width, hsame.nBuckets]
  refine ⟨?_, h.width_pos, h.width_lt, fun j e he => ?_, fun j => ?_, ?_, ?_⟩
  · rw [hsame.nBuckets]
    exact h.nBuckets_pos
  · rw [hbucket] at he
    rw [hhash]
    split_ifs at he with hj
    · rcases List.mem_cons.mp ((perm_insertInto _ _ _).mem_iff.mp he) with rfl | he
      · exact hj.symm
      · rw [hj]
        exact h.placed _ e he
    · exact h.placed j e he
  · rw [hbucket]
    split_ifs
    · exact sorted_insertInto (h.sorted _) fun e he => hnew e (h.mem_of_mem_bucket he)
    · exact h.sorted j
  · have hperm : ((s.buckets.modify (s.hash ev.ts) (insertInto s.reverse ev)).flatten).Perm
        ([ev] ++ s.buckets.flatten) := perm_flatten_modify hi (perm_insertInto _ _ _)
    exact hperm.trans (h.perm.cons ev)
  · exact List.pairwise_cons.mpr ⟨fun e he => (hnew e he).symm, h.distinct⟩

/-- Events are stored one after the other. -/
theorem Stored.insertAll (h : Stored s l) {evs : List Event}
    (hdistinct : (evs ++ l).Pairwise fun a b => a.uid ≠ b.uid) :
    Stored (evs.foldl CalendarScheduler.doInsert s) (evs ++ l) ∧
      SameSettings s (evs.foldl CalendarScheduler.doInsert s) := by
  induction evs generalizing s l with
  | nil => exact ⟨h, ⟨rfl, rfl, rfl, rfl, rfl, rfl, rfl⟩⟩
  | cons ev evs ih =>
      rw [List.cons_append, List.pairwise_cons] at hdistinct
      have hfirst : Stored (s.doInsert ev) (ev :: l) :=
        h.doInsert fun e he => (hdistinct.1 e (List.mem_append_right _ he)).symm
      have hmiddle : (evs ++ ev :: l).Perm (ev :: (evs ++ l)) := List.perm_middle
      obtain ⟨hstored, hsame⟩ := ih hfirst
        ((hmiddle.pairwise_iff fun hne => hne.symm).mpr (List.pairwise_cons.mpr hdistinct))
      exact ⟨hstored.congr hmiddle, (sameSettings_doInsert s ev).trans hsame⟩

/-- The scheduler without one of its events. -/
theorem Stored.modify (h : Stored s (a :: l)) {i : ℕ} {f : List Event → List Event}
    (hi : i < s.nBuckets) (hperm : (a :: f (s.bucket i)).Perm (s.bucket i))
    (hsorted : (chronological s.reverse (f (s.bucket i))).Pairwise Before)
    (hbuckets : s'.buckets = s.buckets.modify i f) (hreverse : s'.reverse = s.reverse)
    (hwidth : s'.width = s.width) : Stored s' l := by
  have hn : s'.nBuckets = s.nBuckets := by
    unfold nBuckets
    rw [hbuckets, List.length_modify]
  have hbucket : ∀ j, s'.bucket j = if j = i then f (s.bucket i) else s.bucket j := by
    intro j
    unfold bucket
    rw [hbuckets]
    exact bucket_modify s f hi j
  have hhash : ∀ ts, s'.hash ts = s.hash ts := by
    intro ts
    unfold hash
    rw [hwidth, hn]
  refine ⟨hn ▸ h.nBuckets_pos, hwidth ▸ h.width_pos, hwidth ▸ h.width_lt, fun j e he => ?_,
    fun j => ?_, ?_, (List.pairwise_cons.mp h.distinct).2⟩
  · rw [hbucket] at he
    rw [hhash]
    split_ifs at he with hj
    · rw [hj]
      exact h.placed i e (hperm.mem_iff.mp (List.mem_cons_of_mem a he))
    · exact h.placed j e he
  · rw [hbucket, hreverse]
    split_ifs
    · exact hsorted
    · exact h.sorted j
  · rw [bucket_eq hi] at hperm
    have hflatten := (perm_cons_flatten_modify hi hperm).trans h.perm
    rw [← hbuckets] at hflatten
    exact hflatten.cons_inv

end CalendarScheduler
end Scheduler
end UeSim
