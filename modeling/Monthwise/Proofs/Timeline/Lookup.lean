import Monthwise.Proofs.Period.DateAlgebra
import Monthwise.Proofs.Timeline.Segments

/-! # Looking up a date

The segment of a date is looked for from the left, and the first segment that is not
over yet decides. Segments are in calendar order, so no later one can have the date.
What is found holds the winner of the date's month.
-/

namespace Monthwise

theorem Period.stop_lt_iff {p : Period} {d : Date} : p.stop < d ↔ p.last < d.monthNumber := by
  rw [← not_iff_not, Date.not_lt, stop, Calendar.le_lastDay_iff, Int.not_lt]

namespace Timeline

variable {ρ Recency Id : Type} {t : Timeline ρ} {d : Date} {s : Segment ρ}

/-- Among periods in order the look-up finds the one that has the date. -/
theorem segmentAt?_eq_some_iff (horder : InOrder t.periods) :
    t.segmentAt? d = some s ↔ s ∈ t.segments ∧ s.period.HasMonth d.monthNumber := by
  unfold segmentAt?
  rw [periods] at horder
  generalize t.segments = segments at horder ⊢
  induction segments with
  | nil => simp
  | cons u rest ih =>
      obtain ⟨hafter, hrest⟩ := List.pairwise_cons.mp horder
      by_cases hover : u.period.stop < d
      · rw [List.dropWhile_cons_of_pos (by simpa using hover), ih hrest, List.mem_cons,
          or_and_right, iff_or_self]
        rintro ⟨rfl, hm⟩
        rw [Period.stop_lt_iff] at hover
        exact absurd hm.2 (Int.not_le.mpr hover)
      · rw [List.dropWhile_cons_of_neg (by simpa using hover), List.head?_cons, Option.filter_some,
          Option.ite_none_right_eq_some, Option.some.injEq, Period.containsDate_iff_dates,
          Period.mem_dates]
        rw [Period.stop_lt_iff, Int.not_lt] at hover
        constructor
        · rintro ⟨hm, rfl⟩
          exact ⟨List.mem_cons_self, hm⟩
        · rintro ⟨hs, hm⟩
          rcases List.mem_cons.mp hs with rfl | hlater
          · exact ⟨hm, rfl⟩
          · have hlt : u.period.last < s.period.first := hafter _ (List.mem_map_of_mem hlater)
            have hfirst := hm.1
            omega

theorem segmentAt?_eq_none_iff (horder : InOrder t.periods) :
    t.segmentAt? d = none ↔ ∀ s ∈ t.segments, ¬ s.period.HasMonth d.monthNumber := by
  rw [Option.eq_none_iff_forall_ne_some]
  simp only [ne_eq, segmentAt?_eq_some_iff horder, not_and]

variable [TimedRecord ρ Recency Id]

/-- On this date the timeline has this record of the input, narrowed to the segment of the date, or
it has no segment there and no record. -/
inductive Holds (t : Timeline ρ) (d : Date) : Option (Placed ρ) → Prop where
  | nothing (hnone : t.segmentAt? d = none) : Holds t d none
  | record {s : Segment ρ} {r : Placed ρ} (fresh : Id) (hsome : t.segmentAt? d = some s)
      (hrecord : s.record = TimedRecord.clip r.1 fresh s.period) : Holds t d (some r)

variable [Ord Recency] [Ord Id]

/-- On every date of the window the timeline holds the winner of the month. -/
theorem holds_winner? {window : Period} (hd : d ∈ window) (fresh : Nat → Id) (records : List ρ) :
    Holds (reconcile fresh window records) d (winner? records d.monthNumber) := by
  have hm : window.HasMonth d.monthNumber := Period.mem_iff_hasMonth.mp hd
  have hruns := areRuns_reconcile fresh window records
  have hcoloured : colour window records d.monthNumber ≠ none ↔ _ := hruns.coloured_iff
  rw [colour_of_hasMonth hm, Ne, winningPlace?_eq_none_iff] at hcoloured
  cases hwinner : winner? records d.monthNumber with
  | none =>
      refine .nothing ((segmentAt?_eq_none_iff hruns.inOrder).mpr fun s hs hhas => ?_)
      exact hcoloured.mpr ⟨s.period, List.mem_map_of_mem hs, hhas⟩ hwinner
  | some r =>
      obtain ⟨p, hp, hhas⟩ := hcoloured.mp (hwinner ▸ Option.some_ne_none r)
      obtain ⟨s, hs, rfl⟩ := List.mem_map.mp hp
      obtain ⟨i, hi⟩ := List.mem_iff_getElem?.mp hs
      obtain ⟨r', hrecord, hwins⟩ := winner_of_getElem? hi
      obtain rfl := Option.some.inj ((hwins _ hhas).symm.trans hwinner)
      exact .record (fresh i) ((segmentAt?_eq_some_iff hruns.inOrder).mpr ⟨hs, hhas⟩) hrecord

end Timeline

end Monthwise
