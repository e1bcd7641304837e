import Monthwise.Coverage
import Monthwise.Proofs.ByDays.Algebra

/-! # Lists of periods by days

Reduction, remainders, gaps and the span of lists of periods, computed from the ends
of their members. They make new periods by the algebra and by reading off the first
and the last date, and never come upon two ends that are not those of a period. The
sweep for overlaps keeps the latest end as a date.
-/

namespace Monthwise.ByDays

/-- Earlier starts come first, and of equal starts the earlier end. -/
def inOrder (p q : Period) : Bool :=
  p.start < q.start || p.start == q.start && p.stop ≤ q.stop

theorem inOrder_eq (p q : Period) : inOrder p q = decide (p ≤ q) := by
  have hstart : p.start = q.start ↔ p.first = q.first := by
    constructor
    · intro h
      simpa using congrArg Date.monthNumber h
    · exact Period.start_congr
  rw [Bool.eq_iff_iff]
  simp [inOrder, Period.le_def, Period.start_lt_start_iff, Period.stop_le_stop_iff, hstart]

/-- The members by the day of their start, then by that of their end. -/
def sort (ps : List Period) : List Period := ps.mergeSort inOrder

theorem sort_eq (ps : List Period) : sort ps = Coverage.sort ps := by
  unfold sort Coverage.sort
  congr 1
  funext p q
  exact inOrder_eq p q

/-- Merges `last` with the periods behind it as long as that is possible. -/
def coalesce (last : Period) : List Period → Except Abort (List Period)
  | [] => .ok [last]
  | p :: rest => do
    match ← merge last p with
    | .ok union => coalesce union rest
    | .error _ => return last :: (← coalesce p rest)

theorem coalesce_eq (last : Period) (ps : List Period) :
    coalesce last ps = .ok (Coverage.coalesce last ps) := by
  induction ps generalizing last with
  | nil => rfl
  | cons p rest ih =>
      simp only [coalesce, Coverage.coalesce, merge_eq, ok_bind]
      cases last.merge p with
      | ok union => exact ih union
      | error e =>
          simp only [ih, ok_bind]
          rfl

/-- The members in order, and merged wherever two of them can be. -/
def reduce (ps : List Period) : Except Abort (List Period) :=
  match sort ps with
  | [] => .ok []
  | p :: rest => coalesce p rest

@[simp]
theorem reduce_eq (ps : List Period) : reduce ps = .ok (Coverage.reduce ps) := by
  unfold reduce Coverage.reduce
  rw [sort_eq]
  cases Coverage.sort ps with
  | nil => rfl
  | cons p rest => exact coalesce_eq p rest

/-- What comes of the members, one after the other, in one list. -/
def collect (f : Period → Except Abort (List Period)) (ps : List Period) :
    Except Abort (List Period) := do
  return (← ps.mapM f).flatten

theorem collect_eq {f : Period → Except Abort (List Period)} {g : Period → List Period}
    (h : ∀ p, f p = .ok (g p)) (ps : List Period) : collect f ps = .ok (ps.flatMap g) := by
  have hpure : f = fun p => pure (g p) := funext h
  rw [collect, hpure, List.mapM_pure, pure_bind, List.flatMap_def]
  rfl

/-- What is left of `base` when one removal after the other is subtracted. -/
def remainder (base : Period) (removals : List Period) : Except Abort (List Period) :=
  removals.foldlM (fun pieces removal => collect (subtract · removal) pieces) [base]

theorem remainder_eq (base : Period) (removals : List Period) :
    remainder base removals = .ok (Coverage.remainder base removals) := by
  have hpure : (fun pieces removal => collect (subtract · removal) pieces) =
      fun pieces removal => pure (pieces.flatMap (·.subtract removal)) := by
    funext pieces removal
    exact collect_eq (subtract_eq · removal) pieces
  rw [remainder, hpure, List.foldlM_pure]
  rfl

/-- The remainders of the bases, base by base. -/
def subtractAll (bases removals : List Period) : Except Abort (List Period) :=
  collect (remainder · removals) bases

@[simp]
theorem subtractAll_eq (bases removals : List Period) :
    subtractAll bases removals = .ok (Coverage.subtractAll bases removals) :=
  collect_eq (remainder_eq · removals) bases

/-- What the members leave of the window, in reduced form. -/
def gaps (window : Period) (ps : List Period) : Except Abort (List Period) := do
  reduce (← subtractAll [window] ps)

@[simp]
theorem gaps_eq (window : Period) (ps : List Period) :
    gaps window ps = .ok (Coverage.gaps window ps) := by
  simp [gaps, Coverage.gaps]

/-- A period starts no later than `latest` or the end of a period before it, which is the latest end
if there was none yet. -/
def startsBy (latest : Option Date) : List Period → Bool
  | [] => false
  | p :: rest =>
    latest.any (p.start ≤ ·) || startsBy (some (latest.elim p.stop (later · p.stop))) rest

theorem startsBy_eq (r : Period) (ps : List Period) :
    startsBy (some r.stop) ps = Coverage.startsBy r.last ps := by
  induction ps generalizing r with
  | nil => rfl
  | cons p rest ih =>
      have hlatest : later r.stop p.stop = (r.hull p).stop := later_stop rfl
      have hlast : (r.hull p).last = max r.last p.last := rfl
      simp only [startsBy, Coverage.startsBy, Option.any_some, Option.elim_some, hlatest, ih, hlast,
        Period.start_le_stop_iff]

/-- In calendar order some member starts before those in front of it are over. -/
def hasOverlapping (ps : List Period) : Bool := startsBy none (sort ps)

theorem hasOverlapping_eq (ps : List Period) :
    hasOverlapping ps = Coverage.hasOverlapping ps := by
  unfold hasOverlapping Coverage.hasOverlapping
  rw [sort_eq]
  cases Coverage.sort ps with
  | nil => rfl
  | cons p rest => exact startsBy_eq p rest

/-- From the earliest start to the latest end. -/
def span? : List Period → Except Abort (Option Period)
  | [] => .ok none
  | p :: rest => do
    let start := rest.foldl (fun d q => earlier d q.start) p.start
    let stop := rest.foldl (fun d q => later d q.stop) p.stop
    return (← ofDates start stop).toOption

@[simp]
theorem span?_eq (ps : List Period) : span? ps = .ok (Coverage.span? ps) := by
  cases ps with
  | nil => rfl
  | cons p rest =>
      have hstart : rest.foldl (fun d q => earlier d q.start) p.start =
          (rest.foldl Period.hull p).start :=
        List.foldl_hom Period.start fun p q => earlier_start (r := p.hull q) rfl
      have hstop : rest.foldl (fun d q => later d q.stop) p.stop =
          (rest.foldl Period.hull p).stop :=
        List.foldl_hom Period.stop fun p q => later_stop (r := p.hull q) rfl
      simp only [span?, hstart, hstop, ofDates_eq, ok_bind, Period.ofDates_start_stop]
      rfl

end Monthwise.ByDays
