import Mathlib
import Monthwise.Proofs.Timeline.Compaction

/-! # Windows inside windows

A timeline over a window shows the timeline over every smaller window: its segments
only have to be cut to that window. Runs of a colouring are cut in the same way,
and a run that reaches over the edge of the smaller window ends there.
-/

namespace Monthwise

section Runs

variable {κ : Type} {colour : Int → Option κ} {p common window : Period} {ps : List Period}
variable {month month' : Int}

/-- The colouring with the months outside a window left blank. -/
def within (window : Period) (colour : Int → Option κ) (month : Int) : Option κ :=
  if window.HasMonth month then colour month else none

theorem within_of_hasMonth (hm : window.HasMonth month) :
    within window colour month = colour month := if_pos hm

theorem within_of_not_hasMonth (hm : ¬ window.HasMonth month) :
    within window colour month = none := if_neg hm

theorem hasMonth_of_within (hcoloured : within window colour month ≠ none) :
    window.HasMonth month := by
  by_contra hm
  exact hcoloured (within_of_not_hasMonth hm)

namespace IsRun

/-- A month beside a run has another colour. -/
theorem colour_ne (hrun : IsRun colour p) (hm : p.HasMonth month) (hm' : ¬ p.HasMonth month')
    (hbeside : month' + 1 = month ∨ month + 1 = month') : colour month' ≠ colour month := by
  have hfirst := hm.1
  have hlast := hm.2
  rw [Period.HasMonth, not_and_or, Int.not_le, Int.not_le] at hm'
  rcases hbeside with hbefore | hafter
  · obtain rfl : month = p.first := by omega
    obtain rfl : month' = p.first - 1 := by omega
    exact hrun.opens
  · obtain rfl : month = p.last := by omega
    subst hafter
    exact hrun.closes.symm

/-- What a run and a window have in common is a run inside the window. -/
theorem within (hrun : IsRun colour p) (hcommon : p.intersect? window = some common) :
    IsRun (within window colour) common := by
  have hmonth {m : Int} : common.HasMonth m ↔ p.HasMonth m ∧ window.HasMonth m :=
    Period.hasMonth_intersect? hcommon
  have hchange {m m' : Int} (hm : common.HasMonth m) (hm' : ¬ common.HasMonth m')
      (hbeside : m' + 1 = m ∨ m + 1 = m') :
      Monthwise.within window colour m' ≠ Monthwise.within window colour m := by
    rw [within_of_hasMonth (hmonth.mp hm).2]
    by_cases hinside : window.HasMonth m'
    · rw [within_of_hasMonth hinside]
      exact hrun.colour_ne (hmonth.mp hm).1 (fun hp => hm' (hmonth.mpr ⟨hp, hinside⟩)) hbeside
    · rw [within_of_not_hasMonth hinside]
      exact (hrun.coloured m (hmonth.mp hm).1).symm
  refine ⟨?coloured, ?joined, ?opens, ?closes⟩
  case coloured =>
    intro m hm
    rw [within_of_hasMonth (hmonth.mp hm).2]
    exact hrun.coloured m (hmonth.mp hm).1
  case joined =>
    intro m hm hm'
    obtain ⟨hp, hwindow⟩ := hmonth.mp ⟨hm, Int.le_of_lt hm'⟩
    obtain ⟨hp', hwindow'⟩ := hmonth.mp (⟨by omega, hm'⟩ : common.HasMonth (m + 1))
    rw [within_of_hasMonth hwindow, within_of_hasMonth hwindow']
    exact hrun.joined m hp.1 hp'.2
  case opens =>
    exact hchange common.has_first (fun hm => by have := hm.1; omega) (.inl (by omega))
  case closes =>
    exact (hchange common.has_last (fun hm => by have := hm.2; omega) (.inr rfl)).symm

end IsRun

/-- The runs of a colouring, cut to a window, are the runs inside the window. -/
theorem AreRuns.within (hruns : AreRuns colour ps) (window : Period) :
    AreRuns (within window colour) (ps.filterMap (·.intersect? window)) where
  inOrder := by
    refine List.Pairwise.filterMap _ ?_ hruns.inOrder
    intro p q hlt c hc d hd
    have hlast := ((Period.hasMonth_intersect? hc).mp c.has_last).1.2
    have hfirst := ((Period.hasMonth_intersect? hd).mp d.has_first).1.1
    omega
  isRun common hcommon := by
    obtain ⟨p, hp, hcut⟩ := List.mem_filterMap.mp hcommon
    exact (hruns.isRun p hp).within hcut
  exhaustive m hcoloured := by
    have hwindow := hasMonth_of_within hcoloured
    rw [within_of_hasMonth hwindow] at hcoloured
    obtain ⟨p, hp, hm⟩ := hruns.exhaustive m hcoloured
    cases hcut : p.intersect? window with
    | none => exact absurd hm (Period.not_hasMonth_of_intersect? hcut hwindow)
    | some common =>
        refine ⟨common, List.mem_filterMap.mpr ⟨p, hp, hcut⟩, ?_⟩
        exact (Period.hasMonth_intersect? hcut).mpr ⟨hm, hwindow⟩

end Runs

namespace Timeline

variable {ρ Recency Id Content : Type} [TimedRecord ρ Recency Id]

/-- Segments of these periods that hold these records of the input, each narrowed to its period. -/
def narrowed (fresh : Nat → Id) (won : List (Period × Placed ρ)) : List (Segment ρ) :=
  won.mapIdx fun i x => ⟨x.1, TimedRecord.clip x.2.1 (fresh i) x.1⟩

/-- The parts of the periods in a window, each with what went with the period. -/
def partsIn {β : Type} (window : Period) (won : List (Period × β)) : List (Period × β) :=
  won.filterMap fun x => (x.1.intersect? window).map fun part => (part, x.2)

theorem mem_partsIn {β : Type} {window part : Period} {won : List (Period × β)} {b : β} :
    (part, b) ∈ partsIn window won ↔ ∃ p, (p, b) ∈ won ∧ p.intersect? window = some part := by
  simp only [partsIn, List.mem_filterMap, Option.map_eq_some_iff, Prod.mk.injEq, Prod.exists]
  constructor
  · rintro ⟨p, b', hmem, part', hcut, rfl, rfl⟩
    exact ⟨p, hmem, hcut⟩
  · rintro ⟨p, hmem, hcut⟩
    exact ⟨p, b, hmem, part, hcut, rfl, rfl⟩

theorem map_fst_partsIn {β : Type} (window : Period) (won : List (Period × β)) :
    (partsIn window won).map (·.1) = (won.map (·.1)).filterMap (·.intersect? window) := by
  simp only [partsIn, List.map_filterMap, List.filterMap_map, Option.map_map, Function.comp_def,
    Option.map_id']

variable [Ord Recency] [Ord Id]

/-- The runs of months of a window with one winner, in calendar order, each beside its winner. -/
structure AreWon (window : Period) (records : List ρ) (won : List (Period × Placed ρ)) : Prop where
  areRuns : AreRuns (colour window records) (won.map (·.1))
  wins : ∀ x ∈ won, ∀ month, x.1.HasMonth month → winner? records month = some x.2

variable {fresh : Nat → Id} {window inner : Period} {records : List ρ} {month : Int}
variable {won : List (Period × Placed ρ)}

theorem colour_inner (hinside : window.contains inner) :
    colour inner records = within inner (colour window records) := by
  funext month
  by_cases hm : inner.HasMonth month
  · rw [Period.contains_iff] at hinside
    have hwindow : window.HasMonth month :=
      ⟨Int.le_trans hinside.1 hm.1, Int.le_trans hm.2 hinside.2⟩
    rw [colour_of_hasMonth hm, within_of_hasMonth hm, colour_of_hasMonth hwindow]
  · rw [colour_of_not_hasMonth hm, within_of_not_hasMonth hm]

/-- Every timeline is made from the runs that are won. -/
theorem AreWon.segments_eq (hwon : AreWon window records won) (fresh : Nat → Id) :
    (reconcile fresh window records).segments = narrowed fresh won := by
  have hperiods := (areRuns_reconcile fresh window records).unique hwon.areRuns
  apply List.ext_getElem?
  intro i
  have hperiod := congrArg (·[i]?) hperiods
  simp only [periods, List.getElem?_map] at hperiod
  rw [narrowed, List.getElem?_mapIdx]
  cases hs : (reconcile fresh window records).segments[i]? with
  | none =>
      rw [hs, Option.map_none, eq_comm, Option.map_eq_none_iff] at hperiod
      rw [hperiod, Option.map_none]
  | some s =>
      rw [hs, Option.map_some, eq_comm, Option.map_eq_some_iff] at hperiod
      obtain ⟨x, hx, heq⟩ := hperiod
      obtain ⟨r, hrecord, hwins⟩ := winner_of_getElem? hs
      have hfirst := s.period.has_first
      have hwinner := hwon.wins x (List.mem_of_getElem? hx) s.period.first (heq ▸ hfirst)
      rw [hwins _ hfirst, Option.some.injEq] at hwinner
      rw [hx, Option.map_some, heq, ← hwinner, ← hrecord]

theorem exists_areWon (fresh : Nat → Id) (window : Period) (records : List ρ) :
    ∃ won, AreWon window records won := by
  have hruns := areRuns_reconcile fresh window records
  have hwinner : ∀ p ∈ (reconcile fresh window records).periods, ∃ r,
      ∀ month, p.HasMonth month → winner? records month = some r := by
    intro p hp
    obtain ⟨s, hs, rfl⟩ := List.mem_map.mp hp
    obtain ⟨i, hi⟩ := List.mem_iff_getElem?.mp hs
    obtain ⟨r, -, hwins⟩ := winner_of_getElem? hi
    exact ⟨r, hwins⟩
  generalize (reconcile fresh window records).periods = ps at hruns hwinner
  choose r hr using hwinner
  refine ⟨ps.attach.map fun p => (p.1, r p.1 p.2), ?areRuns, ?wins⟩
  case areRuns =>
    simpa [Function.comp_def] using hruns
  case wins =>
    intro x hx month hm
    obtain ⟨p, -, rfl⟩ := List.mem_map.mp hx
    exact hr p.1 p.2 month hm

theorem AreWon.partsIn (hwon : AreWon window records won) (hinside : window.contains inner) :
    AreWon inner records (partsIn inner won) where
  areRuns := by
    rw [map_fst_partsIn, colour_inner hinside]
    exact hwon.areRuns.within inner
  wins := by
    rintro ⟨part, r⟩ hx month hm
    obtain ⟨p, hp, hcut⟩ := mem_partsIn.mp hx
    exact hwon.wins (p, r) hp month ((Period.hasMonth_intersect? hcut).mp hm).1

section Content

variable [LawfulTimedRecord ρ Recency Id Content]

theorem AreWon.contains (hwon : AreWon window records won) {p : Period} {r : Placed ρ}
    (hmem : (p, r) ∈ won) : (TimedRecord.period r.1).contains p :=
  contains_of_winner (hwon.wins (p, r) hmem)

/-- What is said does not depend on the identities that the segments take. -/
theorem AreWon.outline_reconcile (hwon : AreWon window records won) (fresh : Nat → Id) (id : Id) :
    outline (reconcile fresh window records) =
      won.map fun x => (x.1, LawfulTimedRecord.content (TimedRecord.clip x.2.1 id x.1)) := by
  rw [outline, hwon.segments_eq fresh, narrowed]
  apply List.ext_getElem?
  intro i
  simp only [List.getElem?_map, List.getElem?_mapIdx, Option.map_map]
  cases hx : won[i]? with
  | none => rfl
  | some x =>
      have hinside := hwon.contains (List.mem_of_getElem? hx)
      simp only [Option.map_some, Function.comp_apply,
        LawfulTimedRecord.content_clip (fresh i) id hinside]

/-- A record of the outer timeline is as good as the record of the input that it was made from. -/
theorem AreWon.map_partsIn (hwon : AreWon window records won) (inner : Period) (fresh : Nat → Id)
    (id : Id) :
    (Timeline.partsIn inner ((reconcile fresh window records).segments.map
        fun s => (s.period, s.record))).map
        (fun x => (x.1, LawfulTimedRecord.content (TimedRecord.clip x.2 id x.1))) =
      (Timeline.partsIn inner won).map
        fun x => (x.1, LawfulTimedRecord.content (TimedRecord.clip x.2.1 id x.1)) := by
  have hplaced : won = won.zipIdx.map (·.1) := by simp
  rw [hwon.segments_eq fresh, narrowed, List.mapIdx_eq_zipIdx_map]
  conv_rhs => rw [hplaced]
  simp only [Timeline.partsIn, List.map_map, List.map_filterMap, List.filterMap_map]
  apply List.filterMap_congr
  rintro ⟨⟨p, r⟩, i⟩ hmem
  simp only [Function.comp_apply, Option.map_map]
  cases hcut : p.intersect? inner with
  | none => rfl
  | some part =>
      have houter := hwon.contains (List.fst_mem_of_mem_zipIdx hmem)
      have hpart : p.contains part :=
        Period.contains_of_hasMonth fun m hm => ((Period.hasMonth_intersect? hcut).mp hm).1
      simp only [Option.map_some, Function.comp_apply,
        LawfulTimedRecord.content_clip_clip (fresh i) id id houter hpart]

end Content

variable [Std.TransOrd Recency] [Std.TransOrd Id]

/-- Both timelines are made from one list of runs of months, each run beside the record that is the
strongest in all of its months: over the outer window from the runs themselves, over the inner
window from their parts inside it. Where narrowing in two steps is narrowing at once, the inner
timeline says what the outer one says, cut to the inner window. -/
theorem segments_reconcile_inner (fresh fresh' : Nat → Id) (hinside : window.contains inner)
    (records : List ρ) :
    (∃ won : List (Period × Placed ρ),
      (∀ x ∈ won, ∀ month, x.1.HasMonth month → IsStrongest records month x.2) ∧
      (reconcile fresh window records).segments = narrowed fresh won ∧
      (reconcile fresh' inner records).segments = narrowed fresh' (partsIn inner won)) ∧
    (∀ [LawfulTimedRecord ρ Recency Id Content] (id : Id),
      outline (reconcile fresh' inner records) =
        (partsIn inner ((reconcile fresh window records).segments.map
          fun s => (s.period, s.record))).map
          fun x => (x.1, LawfulTimedRecord.content (TimedRecord.clip x.2 id x.1))) := by
  obtain ⟨won, hwon⟩ := exists_areWon fresh window records
  have hinner := hwon.partsIn hinside
  refine ⟨⟨won, ?_, hwon.segments_eq fresh, hinner.segments_eq fresh'⟩, ?_⟩
  · intro x hx month hm
    exact isStrongest_of_winner? (hwon.wins x hx month hm)
  · intro _ id
    rw [hinner.outline_reconcile fresh' id, hwon.map_partsIn inner fresh id]

/-- The smaller window begins in the middle of a segment, ends in the middle of the next but one,
and so has a part of the older award on both sides of the newer one. -/
theorem segments_reconcile_inner_two_awards :
    let months (first last : Int) (h : (Period.ofMonths? first last).isSome) : Period :=
      (Period.ofMonths? first last).get h
    let older : Award := ⟨"older", months 0 9 rfl, 1, 7, [⟨months 0 4 rfl, 30⟩]⟩
    let newer : Award := ⟨"newer", months 3 5 rfl, 2, 3, []⟩
    let ids : Nat → Int := fun n => n
    (months 0 11 rfl).contains (months 2 6 rfl) ∧
    outline (reconcile ids (months 2 6 rfl) [newer, older]) =
      [(months 2 2 rfl, "older", months 2 2 rfl, 1, [⟨months 2 2 rfl, 30⟩]),
        (months 3 5 rfl, "newer", months 3 5 rfl, 2, []),
        (months 6 6 rfl, "older", months 6 6 rfl, 1, [])] := by
  intro months older newer ids
  have hinside : (months 0 11 rfl).contains (months 2 6 rfl) := by decide
  refine ⟨hinside, ?_⟩
  obtain ⟨-, houtline⟩ := segments_reconcile_inner ids ids hinside [newer, older]
  rw [houtline 0]
  unfold ids newer older months
  cbv

end Timeline

end Monthwise
