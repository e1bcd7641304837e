import Monthwise.Coverage

/-! # Timelines

Records about overlapping periods are laid over a window, month by month: the
strongest record that has a month wins it. Records are painted from the weakest
to the strongest, each over the months it has, and runs of months with the same
winner become the segments of the timeline.

A record must tell what it takes to have its place there: the months it is about,
how recent it is, and who it is when that does not decide.
-/

namespace Monthwise

/-- A record about a period. More recent records override less recent ones. -/
class TimedRecord (ρ : Type) (Recency Id : outParam Type) where
  id : ρ → Id
  period : ρ → Period
  recency : ρ → Recency
  /-- The record narrowed to a period inside its own, under a new identity if it keeps one. -/
  clip : ρ → (fresh : Id) → Period → ρ

/-- A run of months with the record that won them. -/
structure Segment (ρ : Type) where
  period : Period
  /-- The winner, narrowed to the run. -/
  record : ρ
deriving DecidableEq, Repr

/-- A window with the records that won its months. Months that no record has are in no segment. -/
structure Timeline (ρ : Type) where
  window : Period
  segments : List (Segment ρ)
deriving DecidableEq, Repr

/-- A record and its place in the input. -/
abbrev Placed (ρ : Type) : Type := ρ × Nat

namespace Timeline

variable {ρ Recency Id : Type} [TimedRecord ρ Recency Id]

section Painting

variable [Ord Recency] [Ord Id]

/-- Which of two records is stronger: the more recent one, then the one with the greater identity,
then the one that comes later in the input. -/
def compareStrength (a b : Placed ρ) : Ordering :=
  (compare (TimedRecord.recency a.1) (TimedRecord.recency b.1)).then
    ((compare (TimedRecord.id a.1) (TimedRecord.id b.1)).then (compare a.2 b.2))

/-- The records from the weakest to the strongest. -/
def ranked (records : List ρ) : List (Placed ρ) :=
  records.zipIdx.mergeSort fun a b => (compareStrength a b).isLE

/-- Lets a record win the months of the window that it has. -/
def paint (window : Period) (slots : List (Option (Placed ρ))) (r : Placed ρ) :
    List (Option (Placed ρ)) :=
  match (TimedRecord.period r.1).intersect? window with
  | none => slots
  | some clipped =>
    let offset := (clipped.first - window.first).toNat
    slots.mapIdx fun i slot =>
      if offset ≤ i ∧ i < offset + clipped.monthCount then some r else slot

/-- The winner of each month of the window. -/
def winners (window : Period) (records : List ρ) : List (Option (Placed ρ)) :=
  (ranked records).foldl (paint window) (List.replicate window.monthCount none)

/-- The number of months of the window that no record has. -/
def uncovered (window : Period) (records : List ρ) : Nat :=
  (winners window records).countP (·.isNone)

/-- Two months have the same winner, or both have none. -/
def sameWinner (a b : Option (Placed ρ)) : Bool := a.map (·.2) == b.map (·.2)

/-- The segments of runs of slots, the first of which begins at `month`. The segment with `n`
others before it takes its identity from `fresh n`. -/
def segmentsFrom (fresh : Nat → Id) :
    (month : Int) → (n : Nat) → List (List (Option (Placed ρ))) → List (Segment ρ)
  | _, _, [] => []
  | month, n, run :: rest =>
    match run.head?.join, Period.ofMonths? month (month + run.length - 1) with
    | some (winner, _), some period =>
      ⟨period, TimedRecord.clip winner (fresh n) period⟩ ::
        segmentsFrom fresh (month + run.length) (n + 1) rest
    | _, _ => segmentsFrom fresh (month + run.length) n rest

/-- Lays the records over the window. -/
def reconcile (fresh : Nat → Id) (window : Period) (records : List ρ) : Timeline ρ where
  window
  segments := segmentsFrom fresh window.first 0 ((winners window records).splitBy sameWinner)

end Painting

variable (t : Timeline ρ)

/-- The periods of the segments, in calendar order. -/
def periods : List Period := t.segments.map (·.period)

/-- The days of the window that are in no segment, in reduced form. -/
def gaps : List Period := Coverage.gaps t.window t.periods

/-- The segments fill the window. -/
def isComplete : Bool := t.gaps.isEmpty

/-- There are no segments. -/
def isEmpty : Bool := t.segments.isEmpty

/-- The number of segments. -/
def size : Nat := t.segments.length

/-- The segment of a day, if there is one: the first that does not end before the day, provided
it has the day. -/
def segmentAt? (d : Date) : Option (Segment ρ) :=
  (t.segments.dropWhile fun s => s.period.stop < d).head?.filter fun s => s.period.containsDate d

end Timeline

end Monthwise
