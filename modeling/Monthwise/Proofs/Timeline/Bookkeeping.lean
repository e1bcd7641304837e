import Mathlib
import Monthwise.Journal.Event
import Monthwise.Proofs.Coverage.Counting
import Monthwise.Proofs.Timeline.Overlay

/-! # The books of a timeline

What a timeline leaves out can be told from its segments, from the records that it
was made of, and from the slots that nobody won while it was made. The three agree:
the segments have all the months of the window that some record has, each of them
once.
-/

namespace Monthwise

namespace Timeline

open Coverage (CoversMonth monthTotal)

variable {ρ Recency Id : Type} [TimedRecord ρ Recency Id] [Ord Recency] [Ord Id]
variable {fresh : Nat → Id} {window : Period} {records : List ρ} {month : Int}

omit [Ord Recency] [Ord Id] in
theorem coversMonth_records_iff : CoversMonth (records.map TimedRecord.period) month ↔
    ∃ r ∈ records, (TimedRecord.period r).HasMonth month := by
  simp only [CoversMonth, List.mem_map, exists_exists_and_eq_and]

theorem gaps_reconcile (fresh : Nat → Id) (window : Period) (records : List ρ) :
    (reconcile fresh window records).gaps =
      Coverage.gaps window (records.map TimedRecord.period) := by
  apply Coverage.gaps_congr
  intro m hm
  rw [coversMonth_periods_iff, coversMonth_records_iff]
  exact and_iff_right hm

theorem isComplete_reconcile_iff : (reconcile fresh window records).isComplete ↔
    ∀ month, window.HasMonth month →
      ∃ r ∈ records, (TimedRecord.period r).HasMonth month := by
  rw [isComplete, gaps_reconcile, List.isEmpty_iff, Coverage.gaps_eq_nil_iff]
  simp only [coversMonth_records_iff]

theorem isEmpty_reconcile_iff : (reconcile fresh window records).isEmpty ↔
    ∀ r ∈ records, ¬ (TimedRecord.period r).overlaps window := by
  rw [isEmpty, List.isEmpty_iff, ← List.map_eq_nil_iff, ← periods, Coverage.eq_nil_iff]
  simp only [coversMonth_periods_iff, Period.overlaps_iff_hasMonth]
  constructor
  · rintro hfree r hr ⟨m, hrm, hm⟩
    exact hfree m ⟨hm, r, hr, hrm⟩
  · rintro hfree m ⟨hm, r, hr, hrm⟩
    exact hfree r hr ⟨m, hrm, hm⟩

/-- The slots that nobody won are the months of the gaps. -/
theorem uncovered_eq (fresh : Nat → Id) (window : Period) (records : List ρ) :
    uncovered window records = monthTotal (reconcile fresh window records).gaps := by
  have hslots : uncovered window records =
      (window.monthNumbers.filter fun m => (winner? records m).isNone).length := by
    rw [uncovered, winners_eq, List.countP_map, List.countP_eq_length_filter]
    rfl
  rw [hslots, gaps_reconcile]
  apply Coverage.monthTotal_eq_length (Coverage.inOrder_gaps _ _)
  · exact window.nodup_monthNumbers.filter _
  · intro m
    rw [List.mem_filter, Period.mem_monthNumbers, Coverage.coversMonth_gaps,
      Option.isNone_iff_eq_none, winner?_eq_none_iff, coversMonth_records_iff]

/-- A timeline keeps the books of its records. Its gaps are those that the records' periods leave in
the window. It is complete if every month of the window is had by some record, and empty if no
record overlaps the window. The journal notes the number of months in the gaps, which together with
the months of the segments make up the window. -/
theorem reconcile_bookkeeping (fresh : Nat → Id) (window : Period) (records : List ρ) :
    let t := reconcile fresh window records
    t.gaps = Coverage.gaps window (records.map TimedRecord.period) ∧
    (t.isComplete ↔ ∀ month, window.HasMonth month →
      ∃ r ∈ records, (TimedRecord.period r).HasMonth month) ∧
    (t.isEmpty ↔ ∀ r ∈ records, ¬ (TimedRecord.period r).overlaps window) ∧
    ∃ uncovered,
      event fresh window records = .reconciled window records.length t.size uncovered ∧
      uncovered = monthTotal t.gaps ∧ uncovered + monthTotal t.periods = window.monthCount := by
  intro t
  refine ⟨gaps_reconcile fresh window records, isComplete_reconcile_iff, isEmpty_reconcile_iff,
    uncovered window records, rfl, uncovered_eq fresh window records, ?_⟩
  rw [uncovered_eq fresh window records]
  apply Coverage.monthTotal_gaps_add
  · exact (areRuns_reconcile fresh window records).inOrder
  · exact fun m hcovered => (coversMonth_periods_iff.mp hcovered).1

end Timeline

end Monthwise
