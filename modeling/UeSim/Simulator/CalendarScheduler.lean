import UeSim.Common.Types
import UeSim.Simulator.Scheduler
import Mathlib.Data.Nat.ModEq

/-!
# The calendar queue

A `CalendarScheduler` keeps its events in buckets, as the days of a year: an event goes into the
bucket of its time stamp modulo the length of a year.  The next event is looked for day by day,
from the day of the last one on; if a whole year has none, then it is the least event of all.  The
number of the buckets and their width follow the number of events and the times between them.

The end of a day is computed in `uint64_t` and can wrap, but only for a bucket that is empty.
-/

namespace UeSim
namespace Scheduler

/-- `CalendarScheduler`, with `m_nBuckets` buckets. -/
structure CalendarScheduler where
  reverse : Bool
  buckets : List (List Event)
  width : ℕ
  lastBucket : ℕ
  bucketTop : ℕ
  lastPrio : ℕ
  qSize : ℕ := 0

namespace CalendarScheduler

/-! ## Buckets -/

/-- `Order`: where an event is inserted. -/
def ordered (reverse : Bool) (a b : EventKey) : Bool :=
  if reverse then b.before a else a.before b

/-- `NextEvent`. -/
def nextEvent (reverse : Bool) (bucket : List Event) : Option Event :=
  if reverse then bucket.getLast? else bucket.head?

/-- `Pop`. -/
def pop (reverse : Bool) (bucket : List Event) : List Event :=
  if reverse then bucket.dropLast else bucket.tail

/-- The loop of `DoInsert` over a bucket. -/
def insertInto (reverse : Bool) (ev : Event) : List Event → List Event
  | [] => [ev]
  | e :: bucket =>
      if ordered reverse ev.key e.key then ev :: e :: bucket
      else e :: insertInto reverse ev bucket

/-- `m_nBuckets`. -/
def nBuckets (s : CalendarScheduler) : ℕ := s.buckets.length

/-- The events of a bucket. -/
def bucket (s : CalendarScheduler) (i : ℕ) : List Event := s.buckets.getD i []

/-- `CalendarScheduler::Hash`. -/
def hash (s : CalendarScheduler) (ts : ℕ) : ℕ := ts / s.width % s.nBuckets

/-- The end of the day of a time stamp. -/
def topOf (width ts : ℕ) : ℕ := toU64 ((ts / width + 1) * width)

/-- `CalendarScheduler::Init`, which leaves the number of events alone. -/
def init (s : CalendarScheduler) (nBuckets width startPrio : ℕ) : CalendarScheduler :=
  { s with
    buckets := List.replicate nBuckets []
    width := width
    lastPrio := startPrio
    lastBucket := startPrio / width % nBuckets
    bucketTop := topOf width startPrio }

/-- `CalendarScheduler::DoInsert`. -/
def doInsert (s : CalendarScheduler) (ev : Event) : CalendarScheduler :=
  { s with buckets := s.buckets.modify (s.hash ev.ts) (insertInto s.reverse ev) }

/-! ## The search for the next event -/

/-- What the search finds: an event that is due before the end of its day, with its bucket and
that end, or the least of the first events of all buckets, with its bucket. -/
inductive Search
  | due (bucket bucketTop : ℕ) (ev : Event)
  | least (found : Option (ℕ × Event))

/-- The lesser of the event found so far and the next one.  The key that the source starts from is
greater than that of every event. -/
def lesser (found : Option (ℕ × Event)) (i : ℕ) (ev : Event) : Option (ℕ × Event) :=
  match found with
  | none => some (i, ev)
  | some best => if ev.key.before best.2.key then some (i, ev) else some best

/-- The loop of `DoRemoveNext` and of `PeekNext` over the buckets that are left. -/
def search (s : CalendarScheduler) : ℕ → ℕ → ℕ → Option (ℕ × Event) → Search
  | 0, _, _, found => .least found
  | remaining + 1, i, bucketTop, found =>
      match nextEvent s.reverse (s.bucket i) with
      | none =>
          search s remaining ((i + 1) % s.nBuckets) (toU64 (bucketTop + s.width)) found
      | some ev =>
          if ev.ts < bucketTop then .due i bucketTop ev
          else
            search s remaining ((i + 1) % s.nBuckets) (toU64 (bucketTop + s.width))
              (lesser found i ev)

/-- The search over the whole year. -/
def searchYear (s : CalendarScheduler) : Search :=
  s.search s.nBuckets s.lastBucket s.bucketTop none

/-- `CalendarScheduler::PeekNext`. -/
def peekNext (s : CalendarScheduler) : Option Event :=
  if s.qSize = 0 then none
  else
    match s.searchYear with
    | .due _ _ ev => some ev
    | .least found => found.map Prod.snd

/-- The scheduler without the next event of a bucket. -/
def popBucket (s : CalendarScheduler) (i : ℕ) : CalendarScheduler :=
  { s with buckets := s.buckets.modify i (pop s.reverse) }

/-- `CalendarScheduler::DoRemoveNext`. -/
def doRemoveNext (s : CalendarScheduler) : Option (Event × CalendarScheduler) :=
  match s.searchYear with
  | .due i bucketTop ev =>
      some (ev, { s with lastBucket := i, lastPrio := ev.ts, bucketTop := bucketTop }.popBucket i)
  | .least (some (i, ev)) =>
      some (ev, { s with
        lastPrio := ev.ts
        lastBucket := s.hash ev.ts
        bucketTop := topOf s.width ev.ts }.popBucket i)
  | .least none => none

/-! ## Resizing -/

/-- The number of events that `CalculateNewWidth` looks at. -/
def nSamples (qSize : ℕ) : ℕ := min (if qSize ≤ 5 then qSize else 5 + qSize / 10) 25

/-- The events that `CalculateNewWidth` takes out; there are as many as it asks for. -/
def gather : ℕ → CalendarScheduler → List Event × CalendarScheduler
  | 0, s => ([], s)
  | n + 1, s =>
      match s.doRemoveNext with
      | none => ([], s)
      | some (ev, s') => (ev :: (gather n s').1, (gather n s').2)

/-- The times between the samples, which come in their order. -/
def separations (samples : List Event) : List ℕ :=
  List.zipWith (fun cur next => next.ts - cur.ts) samples samples.tail

/-- The width that `CalculateNewWidth` computes from the samples. -/
def widthOf (samples : List Event) : ℕ :=
  let diffs := separations samples
  let twiceAvg := toU64 (toU64 diffs.sum / (samples.length - 1) * 2)
  max (toU64 (toU64 (diffs.filter (· ≤ twiceAvg)).sum * 3)) 1

/-- `CalendarScheduler::CalculateNewWidth`: the samples are put back. -/
def calculateNewWidth (s : CalendarScheduler) : CalendarScheduler × ℕ :=
  if s.qSize < 2 then (s, 1)
  else
    let gathered := gather (nSamples s.qSize) s
    ({ gathered.1.foldl doInsert gathered.2 with
        lastBucket := s.lastBucket
        bucketTop := s.bucketTop
        lastPrio := s.lastPrio },
      widthOf gathered.1)

/-- `CalendarScheduler::DoResize`. -/
def doResize (s : CalendarScheduler) (newSize newWidth : ℕ) : CalendarScheduler :=
  s.buckets.flatten.foldl doInsert (s.init newSize newWidth s.lastPrio)

/-- `CalendarScheduler::Resize`. -/
def resize (s : CalendarScheduler) (newSize : ℕ) : CalendarScheduler :=
  s.calculateNewWidth.1.doResize newSize s.calculateNewWidth.2

/-- `CalendarScheduler::ResizeUp`. -/
def resizeUp (s : CalendarScheduler) : CalendarScheduler :=
  if s.nBuckets * 2 < s.qSize && s.nBuckets < 32768 then s.resize (s.nBuckets * 2) else s

/-- `CalendarScheduler::ResizeDown`. -/
def resizeDown (s : CalendarScheduler) : CalendarScheduler :=
  if s.qSize < s.nBuckets / 2 then s.resize (s.nBuckets / 2) else s

/-! ## The operations -/

/-- `CalendarScheduler::Insert`. -/
def insert (s : CalendarScheduler) (ev : Event) : CalendarScheduler :=
  { s.doInsert ev with qSize := s.qSize + 1 }.resizeUp

/-- `CalendarScheduler::RemoveNext`. -/
def removeNext (s : CalendarScheduler) : Option (Event × CalendarScheduler) :=
  if s.qSize = 0 then none
  else s.doRemoveNext.map fun next => (next.1, { next.2 with qSize := s.qSize - 1 }.resizeDown)

/-- `CalendarScheduler::Remove`, with the loop of `ListScheduler::Remove` over the bucket. -/
def remove (s : CalendarScheduler) (ev : Event) : Option CalendarScheduler :=
  if s.qSize = 0 then none
  else
    (ListScheduler.remove (s.bucket (s.hash ev.ts)) ev).map fun bucket =>
      { s with
        buckets := s.buckets.set (s.hash ev.ts) bucket
        qSize := s.qSize - 1 }.resizeDown

end CalendarScheduler

/-- `CalendarScheduler`, with its attribute `Reverse`. -/
def calendarScheduler (reverse : Bool) : PriorityQueue CalendarScheduler Event where
  empty := CalendarScheduler.init ⟨reverse, [], 1, 0, 0, 0, 0⟩ 2 1 0
  isEmpty s := s.qSize = 0
  insert := CalendarScheduler.insert
  peekNext := CalendarScheduler.peekNext
  removeNext := CalendarScheduler.removeNext
  remove := CalendarScheduler.remove

end Scheduler
end UeSim
