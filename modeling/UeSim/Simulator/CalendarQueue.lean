import UeSim.Simulator.CalendarSearch

/-!
# The calendar queue is a priority queue

Every operation keeps the events in their buckets and the search where it has to start.  Samples
are taken out and put back, and a resize distributes the events anew; neither changes which
events there are.
-/

namespace UeSim
namespace Scheduler
namespace CalendarScheduler

variable {s s' : CalendarScheduler} {l : List Event} {ev a : Event} {last : WithBot ℕ}

/-! ## The next event -/

/-- The scheduler after an event was handed out. -/
def handedOut (s : CalendarScheduler) (a : Event) : CalendarScheduler :=
  { s with
    lastPrio := a.ts
    lastBucket := s.hash a.ts
    bucketTop := topOf s.width a.ts }.popBucket (s.hash a.ts)

/-- The least event is handed out. -/
theorem doRemoveNext_eq (h : Stored s (a :: l)) (hpointed : Pointed s (a :: l))
    (hmin : ∀ e ∈ l, Before a e) : s.doRemoveNext = some (a, s.handedOut a) := by
  have hfinds := searchYear_finds h hpointed hmin
  unfold doRemoveNext
  cases hsearch : s.searchYear with
  | due i bucketTop ev =>
      rw [hsearch] at hfinds
      obtain ⟨rfl, rfl, rfl⟩ := hfinds
      rfl
  | least found =>
      rw [hsearch] at hfinds
      cases hfinds
      rfl

theorem nBuckets_popBucket (s : CalendarScheduler) (i : ℕ) :
    (s.popBucket i).nBuckets = s.nBuckets :=
  List.length_modify _ _ _

/-- The least event is the first one of its bucket. -/
theorem chronological_bucket (h : Stored s (a :: l)) (hmin : ∀ e ∈ l, Before a e) :
    chronological s.reverse (s.bucket (s.hash a.ts)) =
      a :: chronological s.reverse (pop s.reverse (s.bucket (s.hash a.ts))) := by
  have hperm := perm_chronological s.reverse (s.bucket (s.hash a.ts))
  have ha : a ∈ chronological s.reverse (s.bucket (s.hash a.ts)) :=
    hperm.mem_iff.mpr (h.mem_iff.mp List.mem_cons_self)
  have hsorted := h.sorted (s.hash a.ts)
  rw [chronological_pop]
  cases hlist : chronological s.reverse (s.bucket (s.hash a.ts)) with
  | nil =>
      rw [hlist] at ha
      cases ha
  | cons b rest =>
      rw [hlist] at ha hperm hsorted
      have hb : b ∈ a :: l := h.mem_of_mem_bucket (hperm.mem_iff.mp List.mem_cons_self)
      rcases List.mem_cons.mp ha with rfl | ha
      · rfl
      · have hbefore : Before b a := (List.pairwise_cons.mp hsorted).1 a ha
        rcases List.mem_cons.mp hb with rfl | hb
        · rfl
        · exact absurd hbefore (hmin b hb).asymm

theorem Stored.handedOut (h : Stored s (a :: l)) (hmin : ∀ e ∈ l, Before a e) :
    Stored (s.handedOut a) l := by
  have hbucket := chronological_bucket h hmin
  have hsorted := h.sorted (s.hash a.ts)
  rw [hbucket] at hsorted
  refine h.modify (f := pop s.reverse) (hash_lt h a.ts) ?_ (List.pairwise_cons.mp hsorted).2
    rfl rfl rfl
  refine ((perm_chronological s.reverse _).symm.cons a).trans ?_
  rw [← hbucket]
  exact perm_chronological s.reverse _

theorem pointed_handedOut (s : CalendarScheduler) (hmin : ∀ e ∈ l, Before a e) :
    Pointed (s.handedOut a) l := by
  refine ⟨a.key.ts_lt, ?_, rfl, fun e he => PriorityQueue.prio_le_of_rank_lt (hmin e he)⟩
  unfold hash
  rw [CalendarScheduler.handedOut, nBuckets_popBucket]
  rfl

/-! ## Resizing -/

/-- The samples are the first events in their order. -/
theorem gather_eq {samples : List Event} (h : Stored s (samples ++ l))
    (hpointed : Pointed s (samples ++ l)) (hsorted : (samples ++ l).Pairwise Before) :
    (gather samples.length s).1 = samples ∧ Stored (gather samples.length s).2 l ∧
      (gather samples.length s).2.reverse = s.reverse ∧
      (gather samples.length s).2.width = s.width ∧
      (gather samples.length s).2.nBuckets = s.nBuckets ∧
      (gather samples.length s).2.qSize = s.qSize := by
  induction samples generalizing s with
  | nil => exact ⟨rfl, h, rfl, rfl, rfl, rfl⟩
  | cons a samples ih =>
      rw [List.cons_append] at h hpointed hsorted
      rw [List.pairwise_cons] at hsorted
      obtain ⟨hsamples, hstored, hreverse, hwidth, hn, hsize⟩ :=
        ih (h.handedOut hsorted.1) (pointed_handedOut s hsorted.1) hsorted.2
      rw [List.length_cons, gather, doRemoveNext_eq h hpointed hsorted.1]
      dsimp only
      refine ⟨congrArg (a :: ·) hsamples, hstored, hreverse, hwidth, ?_, hsize⟩
      rw [hn]
      exact nBuckets_popBucket _ _

theorem nSamples_le (qSize : ℕ) : nSamples qSize ≤ qSize := by
  unfold nSamples
  split_ifs <;> omega

theorem width_bounds (samples : List Event) : 0 < widthOf samples ∧ widthOf samples < 2 ^ 64 := by
  unfold widthOf toU64
  constructor
  · exact lt_of_lt_of_le Nat.one_pos (le_max_right _ _)
  · exact max_lt (Nat.mod_lt _ (by decide)) (by decide)

/-- The samples are put back, and the width is one. -/
theorem calculateNewWidth_spec (h : Stored s l) (hpointed : Pointed s l)
    (hsorted : l.Pairwise Before) (hsize : s.qSize = l.length) :
    Stored s.calculateNewWidth.1 l ∧ SameSettings s s.calculateNewWidth.1 ∧
      0 < s.calculateNewWidth.2 ∧ s.calculateNewWidth.2 < 2 ^ 64 := by
  unfold calculateNewWidth
  split_ifs
  · exact ⟨h, ⟨rfl, rfl, rfl, rfl, rfl, rfl, rfl⟩, Nat.one_pos, Nat.one_lt_two_pow (by decide)⟩
  · dsimp only
    have hlength : (l.take (nSamples s.qSize)).length = nSamples s.qSize := by
      rw [List.length_take, min_eq_left]
      rw [← hsize]
      exact nSamples_le _
    have hsplit : l = l.take (nSamples s.qSize) ++ l.drop (nSamples s.qSize) :=
      (List.take_append_drop _ _).symm
    have hdistinct := h.distinct
    rw [hsplit] at h hpointed hsorted hdistinct
    obtain ⟨hsamples, hstored, hreverse, hwidth, hn, hq⟩ := gather_eq h hpointed hsorted
    rw [hlength] at hsamples hstored hreverse hwidth hn hq
    obtain ⟨hback, hsame⟩ := hstored.insertAll hdistinct
    rw [← hsplit] at hback
    rw [hsamples]
    exact ⟨{ hback with }, ⟨hsame.reverse.trans hreverse, hsame.width.trans hwidth,
      hsame.nBuckets.trans hn, rfl, rfl, rfl, hsame.qSize.trans hq⟩, width_bounds _⟩

/-- A resize changes neither the events nor the last event that was handed out. -/
structure Resized (s s' : CalendarScheduler) (l : List Event) : Prop where
  stored : Stored s' l
  pointed : Pointed s' l
  lastPrio : s'.lastPrio = s.lastPrio
  qSize : s'.qSize = s.qSize

theorem stored_init (s : CalendarScheduler) {n width : ℕ} (hn : 0 < n) (hwidth : 0 < width)
    (hlt : width < 2 ^ 64) (startPrio : ℕ) : Stored (s.init n width startPrio) [] := by
  have hbucket : ∀ i, (s.init n width startPrio).bucket i = [] := by
    intro i
    unfold bucket init
    rw [List.getD_eq_getElem?_getD, List.getElem?_replicate]
    split_ifs <;> rfl
  refine ⟨?_, hwidth, hlt, fun i e he => ?_, fun i => ?_, ?_, .nil⟩
  · exact hn.trans_eq List.length_replicate.symm
  · rw [hbucket] at he
    cases he
  · rw [hbucket]
    cases (s.init n width startPrio).reverse <;> exact .nil
  · have hempty : (List.replicate n ([] : List Event)).flatten = [] := by simp
    rw [init, hempty]

theorem resize_spec (h : Stored s l) (hpointed : Pointed s l) (hsorted : l.Pairwise Before)
    (hsize : s.qSize = l.length) {newSize : ℕ} (hnew : 0 < newSize) :
    Resized s (s.resize newSize) l := by
  obtain ⟨hcalc, hcalcSame, hpos, hlt⟩ := calculateNewWidth_spec h hpointed hsorted hsize
  unfold resize
  generalize s.calculateNewWidth.1 = t at *
  generalize s.calculateNewWidth.2 = width at *
  have hdistinct : (t.buckets.flatten ++ []).Pairwise fun a b : Event => a.uid ≠ b.uid := by
    rw [List.append_nil]
    exact (hcalc.perm.pairwise_iff fun hne => hne.symm).mpr hcalc.distinct
  obtain ⟨hstored, hsame⟩ :=
    (stored_init t hnew hpos hlt t.lastPrio).insertAll hdistinct
  rw [List.append_nil] at hstored
  have hlast : (t.doResize newSize width).lastPrio = s.lastPrio :=
    hsame.lastPrio.trans hcalcSame.lastPrio
  have hwidth : (t.doResize newSize width).width = width := hsame.width
  have hn : (t.doResize newSize width).nBuckets = newSize :=
    hsame.nBuckets.trans List.length_replicate
  refine ⟨hstored.congr hcalc.perm, ⟨?_, ?_, ?_, ?_⟩, hlast,
    hsame.qSize.trans hcalcSame.qSize⟩
  · rw [hlast]
    exact hpointed.lastPrio_lt
  · unfold hash
    rw [hlast, hwidth, hn, ← hcalcSame.lastPrio]
    exact hsame.lastBucket
  · rw [hlast, hwidth, ← hcalcSame.lastPrio]
    exact hsame.bucketTop
  · rw [hlast]
    exact hpointed.bound

/-- A scheduler that may have been resized. -/
theorem resizeUp_spec (h : Stored s l) (hpointed : Pointed s l) (hsorted : l.Pairwise Before)
    (hsize : s.qSize = l.length) : Resized s s.resizeUp l := by
  unfold resizeUp
  split_ifs
  · exact resize_spec h hpointed hsorted hsize (Nat.mul_pos h.nBuckets_pos Nat.two_pos)
  · exact ⟨h, hpointed, rfl, rfl⟩

theorem resizeDown_spec (h : Stored s l) (hpointed : Pointed s l) (hsorted : l.Pairwise Before)
    (hsize : s.qSize = l.length) : Resized s s.resizeDown l := by
  unfold resizeDown
  split_ifs with hlt
  · exact resize_spec h hpointed hsorted hsize (Nat.zero_lt_of_lt hlt)
  · exact ⟨h, hpointed, rfl, rfl⟩

/-! ## The operations -/

/-- The scheduler holds the events of a sorted list, after an event of time `last` was handed
out. -/
structure Represents (last : WithBot ℕ) (l : List Event) (s : CalendarScheduler) : Prop where
  ordered : Ordered last l
  stored : Stored s l
  pointed : Pointed s l
  qSize_eq : s.qSize = l.length
  lastPrio_le : ∀ ts : ℕ, last ≤ ts → s.lastPrio ≤ ts

theorem Represents.of_resized (h : Resized s s' l) (hordered : Ordered last l)
    (hsize : s.qSize = l.length) (hlast : ∀ ts : ℕ, last ≤ ts → s.lastPrio ≤ ts) :
    Represents last l s' where
  ordered := hordered
  stored := h.stored
  pointed := h.pointed
  qSize_eq := h.qSize.trans hsize
  lastPrio_le ts hts := h.lastPrio ▸ hlast ts hts

theorem represents_init (reverse : Bool) :
    Represents ⊥ [] (init ⟨reverse, [], 1, 0, 0, 0, 0⟩ 2 1 0) where
  ordered := ⟨.nil, .nil, fun _ he => absurd he List.not_mem_nil⟩
  stored := stored_init _ Nat.two_pos Nat.one_pos (by decide) 0
  pointed := ⟨Nat.two_pow_pos 63, rfl, rfl, fun _ he => absurd he List.not_mem_nil⟩
  qSize_eq := rfl
  lastPrio_le ts _ := Nat.zero_le ts

theorem Represents.insert (h : Represents last l s) (hnew : ∀ e ∈ l, e.uid ≠ ev.uid)
    (hlast : last ≤ ev.ts) :
    Represents last (PriorityQueue.insertSorted Event.ts Event.uid ev l) (s.insert ev) := by
  have hordered := h.ordered.insert hnew hlast
  have hperm : (PriorityQueue.insertSorted Event.ts Event.uid ev l).Perm (ev :: l) :=
    PriorityQueue.perm_insertSorted ev l
  have hsame := sameSettings_doInsert s ev
  have hstored := (h.stored.doInsert hnew).congr hperm.symm
  have hsize : s.qSize + 1 = (PriorityQueue.insertSorted Event.ts Event.uid ev l).length := by
    rw [hperm.length_eq, h.qSize_eq]
    rfl
  have hpointed :
      Pointed (s.doInsert ev) (PriorityQueue.insertSorted Event.ts Event.uid ev l) := by
    refine ⟨h.pointed.lastPrio_lt, ?_, h.pointed.bucketTop_eq, fun e he => ?_⟩
    · rw [hsame.lastBucket, hsame.lastPrio, h.pointed.lastBucket_eq]
      unfold hash
      rw [hsame.width, hsame.nBuckets]
    · rcases PriorityQueue.mem_insertSorted.mp he with rfl | he
      · exact h.lastPrio_le _ hlast
      · exact h.pointed.bound e he
  exact .of_resized (resizeUp_spec (s := { s.doInsert ev with qSize := s.qSize + 1 })
    { hstored with } { hpointed with } hordered.sorted hsize) hordered hsize h.lastPrio_le

theorem Represents.removeNext (h : Represents last (a :: l) s) :
    ∃ s', s.removeNext = some (a, s') ∧ Represents a.ts l s' := by
  have hmin := (List.pairwise_cons.mp h.ordered.sorted).1
  have hordered := h.ordered.tail
  have hsize : s.qSize - 1 = l.length := by
    rw [h.qSize_eq]
    rfl
  have hnonempty : ¬s.qSize = 0 := by
    rw [h.qSize_eq]
    exact Nat.succ_ne_zero _
  have hstored := h.stored.handedOut hmin
  have hpointed := pointed_handedOut s hmin
  have hresized := resizeDown_spec (s := { s.handedOut a with qSize := s.qSize - 1 })
    { hstored with } { hpointed with } hordered.sorted hsize
  unfold CalendarScheduler.removeNext
  rw [if_neg hnonempty, doRemoveNext_eq h.stored h.pointed hmin]
  refine ⟨_, rfl, .of_resized hresized hordered hsize fun ts hts => ?_⟩
  exact WithBot.coe_le_coe.mp hts

theorem Represents.peekNext (h : Represents last l s) : s.peekNext = l.head? := by
  unfold CalendarScheduler.peekNext
  rw [h.qSize_eq]
  cases l with
  | nil => rfl
  | cons a l =>
      rw [if_neg (List.length_pos_of_ne_nil (List.cons_ne_nil a l)).ne']
      have hfinds := searchYear_finds h.stored h.pointed
        (List.pairwise_cons.mp h.ordered.sorted).1
      cases hsearch : s.searchYear with
      | due i bucketTop ev =>
          rw [hsearch] at hfinds
          exact congrArg some hfinds.1
      | least found =>
          rw [hsearch] at hfinds
          cases hfinds
          rfl

theorem Represents.remove (h : Represents last l s) (hev : ev ∈ l) :
    ∃ s', s.remove ev = some s' ∧ Represents last (l.erase ev) s' := by
  have hordered := h.ordered.erase ev
  have hperm := List.perm_cons_erase hev
  have hbucket : ev ∈ s.bucket (s.hash ev.ts) := h.stored.mem_iff.mp hev
  have hi := hash_lt h.stored ev.ts
  have hdistinct : (s.bucket (s.hash ev.ts)).Pairwise fun a b : Event => a.uid ≠ b.uid := by
    have hall := (h.stored.perm.pairwise_iff fun hne => hne.symm).mpr h.stored.distinct
    rw [bucket_eq hi]
    exact (List.pairwise_flatten.mp hall).1 _ (List.getElem_mem hi)
  have hnonempty : ¬s.qSize = 0 := by
    rw [h.qSize_eq]
    exact List.length_pos_iff.mpr (List.ne_nil_of_mem hev) |>.ne'
  have hsize : s.qSize - 1 = (l.erase ev).length := by
    rw [h.qSize_eq, List.length_erase_of_mem hev]
  have hset : s.buckets.set (s.hash ev.ts) ((s.bucket (s.hash ev.ts)).erase ev) =
      s.buckets.modify (s.hash ev.ts) fun _ => (s.bucket (s.hash ev.ts)).erase ev :=
    List.set_eq_modify _ _ _
  have hstored : Stored { s with
      buckets := s.buckets.set (s.hash ev.ts) ((s.bucket (s.hash ev.ts)).erase ev)
      qSize := s.qSize - 1 } (l.erase ev) :=
    (h.stored.congr hperm).modify hi (List.perm_cons_erase hbucket).symm
      (sorted_erase ev (h.stored.sorted _)) hset rfl rfl
  have hpointed : Pointed { s with
      buckets := s.buckets.set (s.hash ev.ts) ((s.bucket (s.hash ev.ts)).erase ev)
      qSize := s.qSize - 1 } (l.erase ev) := by
    refine ⟨h.pointed.lastPrio_lt, ?_, h.pointed.bucketTop_eq,
      fun e he => h.pointed.bound e (List.mem_of_mem_erase he)⟩
    rw [h.pointed.lastBucket_eq]
    unfold hash nBuckets
    rw [List.length_set]
  unfold CalendarScheduler.remove
  rw [if_neg hnonempty, ListScheduler.remove_eq hdistinct hbucket]
  exact ⟨_, rfl, .of_resized (resizeDown_spec hstored hpointed hordered.sorted hsize) hordered
    hsize h.lastPrio_le⟩

end CalendarScheduler

open CalendarScheduler in
theorem implements_calendarScheduler (reverse : Bool) :
    Implements (calendarScheduler reverse) Represents where
  ordered h := h.ordered
  empty := represents_init reverse
  isEmpty := by
    intro last l s h
    change decide (s.qSize = 0) = l.isEmpty
    rw [h.qSize_eq]
    cases l <;> rfl
  peekNext h := h.peekNext
  insert h hnew hlast := h.insert hnew hlast
  removeNext_nil := by
    intro last s h
    exact if_pos h.qSize_eq
  removeNext_cons h := h.removeNext
  remove h hev _ := h.remove hev

/-- The calendar queue, the map and the list answer the same calls alike, whichever way the buckets
are stored: as the list of all pending events in their order does. -/
theorem answers_calendarScheduler (reverse : Bool) {calls : List (PriorityQueue.Call Event)}
    (hlegal : Legal calls) :
    (calendarScheduler reverse).answers (calendarScheduler reverse).empty calls =
        reference.answers [] calls ∧
      mapScheduler.answers mapScheduler.empty calls = reference.answers [] calls ∧
      listScheduler.answers listScheduler.empty calls = reference.answers [] calls ∧
      (reference.answers [] calls).isSome := by
  have hcalendar := implements_calendarScheduler reverse
  obtain ⟨heq, hsome⟩ := hcalendar.answers_eq hcalendar.empty hlegal
    (PriorityQueue.allowed_of_forall (fun _ _ => trivial) _ _)
  refine ⟨heq, ?_, ?_, hsome⟩
  · exact (implements_mapScheduler.answers_eq implements_mapScheduler.empty hlegal
      (PriorityQueue.allowed_of_forall (fun _ _ => trivial) _ _)).1
  · exact (implements_listScheduler.answers_eq implements_listScheduler.empty hlegal
      (PriorityQueue.allowed_of_forall (fun _ _ => trivial) _ _)).1

/-- Six events, so that the number of buckets grows; one of them is removed, and the others are
handed out. -/
def sampleCalls : List (PriorityQueue.Call Event) :=
  [.insert (sampleEvent 4 30), .insert (sampleEvent 5 10), .insert (sampleEvent 6 500),
    .insert (sampleEvent 7 10), .insert (sampleEvent 8 90), .insert (sampleEvent 9 31),
    .removeNext, .remove (sampleEvent 8 90), .insert (sampleEvent 10 10), .peekNext, .removeNext,
    .removeNext, .removeNext, .removeNext, .removeNext]

theorem answers_calendarScheduler_sample :
    (calendarScheduler true).answers (calendarScheduler true).empty sampleCalls =
        reference.answers [] sampleCalls ∧
      mapScheduler.answers mapScheduler.empty sampleCalls = reference.answers [] sampleCalls ∧
      listScheduler.answers listScheduler.empty sampleCalls = reference.answers [] sampleCalls ∧
      (reference.answers [] sampleCalls).isSome :=
  answers_calendarScheduler true (by decide)

end Scheduler
end UeSim
