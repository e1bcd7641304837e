import Monthwise.Proofs.Calendar.DaySteps
import Monthwise.Proofs.Period.DateAlgebra
import Monthwise.Proofs.Period.Ends

/-! # Steps between months

The last day of a month is found by trial, and the first by setting the day. Both are always
found, and a step of one day from there leads to the neighbouring month, as long as the
calendar has one. Where a period is cut out of another, the ends of what is left are one step
beside it. Such a step never leads out of the calendar, so nothing of what is left gets lost.
-/

namespace Monthwise

namespace ByDays

open Calendar (IsFirstDay IsLastDay)

section Months

variable {number : Int} {day : Date}

theorem firstDay?_eq_none_iff : firstDay? number = none ↔ ¬ Calendar.HasMonth number := by
  rw [firstDay?_eq]
  split_ifs with hmonth <;> simp [hmonth]

theorem firstDay?_eq_some_iff : firstDay? number = some day ↔ IsFirstDay number day := by
  rw [firstDay?_eq]
  split_ifs with hmonth
  · rw [Option.some.injEq, Calendar.isFirstDay_iff hmonth, eq_comm]
  · exact iff_of_false (by simp) fun hday => hmonth hday.hasMonth

theorem map_monthEnd_firstDay?_eq_some_iff :
    (firstDay? number).map monthEnd = some day ↔ IsLastDay number day := by
  rw [firstDay?_eq]
  split_ifs with hmonth
  · rw [Option.map_some, monthEnd_eq, Calendar.lastOfMonth_firstDay, Option.some.injEq,
      Calendar.isLastDay_iff hmonth, eq_comm]
  · exact iff_of_false (by simp) fun hday => hmonth hday.hasMonth

end Months

section Steps

variable (d : Date)

theorem monthEnd_eq_lastDay :
    monthEnd d = Calendar.lastDay d.monthNumber d.hasMonth_monthNumber := by
  rw [monthEnd_eq, Date.lastOfMonth_eq_lastDay]

theorem monthStart_eq_firstDay :
    monthStart d = Calendar.firstDay d.monthNumber d.hasMonth_monthNumber := by
  rw [monthStart_eq, Date.firstOfMonth_eq_firstDay]

/-- After the end of a month comes the month with the next number. -/
theorem succ?_monthEnd : (monthEnd d).succ? = firstDay? (d.monthNumber + 1) := by
  rw [monthEnd_eq_lastDay, firstDay?_eq]
  split_ifs with hnext
  · exact Calendar.succ?_lastDay _ hnext
  · exact Calendar.succ?_lastDay_of_not_hasMonth _ hnext

/-- Before the beginning of a month comes the end of the one with the number before. -/
theorem pred?_monthStart :
    (monthStart d).pred? = (firstDay? (d.monthNumber - 1)).map monthEnd := by
  rw [monthStart_eq_firstDay, firstDay?_eq]
  split_ifs with hprevious
  · rw [Calendar.pred?_firstDay _ hprevious, Option.map_some, monthEnd_eq,
      Calendar.lastOfMonth_firstDay]
  · exact Calendar.pred?_firstDay_of_not_hasMonth _ hprevious

theorem isLastDay_monthEnd : IsLastDay d.monthNumber (monthEnd d) :=
  (Calendar.isLastDay_iff _).mpr (monthEnd_eq_lastDay d)

theorem isFirstDay_monthStart : IsFirstDay d.monthNumber (monthStart d) :=
  (Calendar.isFirstDay_iff _).mpr (monthStart_eq_firstDay d)

theorem succ?_monthEnd_eq_none_iff :
    (monthEnd d).succ? = none ↔ d.monthNumber = Calendar.lastMonth := by
  rw [succ?_monthEnd, firstDay?_eq_none_iff, d.hasMonth_monthNumber.not_hasMonth_succ_iff]

theorem pred?_monthStart_eq_none_iff :
    (monthStart d).pred? = none ↔ d.monthNumber = Calendar.firstMonth := by
  rw [pred?_monthStart, Option.map_eq_none_iff, firstDay?_eq_none_iff,
    d.hasMonth_monthNumber.not_hasMonth_pred_iff]

end Steps

section Pieces

variable {p q : Period}

/-- There is a day before a period that starts later than another one, and it ends what the other
has before. -/
theorem exists_partBefore? (h : p.start < q.start) : ∃ piece : Period,
    p.partBefore? q = some piece ∧ piece.start = p.start ∧ q.start.pred? = some piece.stop := by
  cases hpart : p.partBefore? q with
  | none =>
      rw [Period.start_lt_start_iff] at h
      simp [Period.partBefore?, h] at hpart
  | some piece =>
      obtain ⟨-, hfirst, hlast⟩ := Period.ends_of_partBefore? hpart
      exact ⟨piece, rfl, Period.start_congr hfirst, pred?_start hlast⟩

/-- There is a day after a period that stops earlier than another one, and it begins what the other
has after. -/
theorem exists_partAfter? (h : q.stop < p.stop) : ∃ piece : Period,
    p.partAfter? q = some piece ∧ q.stop.succ? = some piece.start ∧ piece.stop = p.stop := by
  cases hpart : p.partAfter? q with
  | none =>
      rw [Period.stop_lt_stop_iff] at h
      simp [Period.partAfter?, h] at hpart
  | some piece =>
      obtain ⟨-, hfirst, hlast⟩ := Period.ends_of_partAfter? hpart
      exact ⟨piece, rfl, succ?_stop hfirst, Period.stop_congr hlast⟩

theorem mem_subtract_of_partBefore? {piece : Period} (hmeet : p.overlaps q)
    (hpart : p.partBefore? q = some piece) : piece ∈ p.subtract q := by
  simp [Period.subtract, hmeet, hpart]

theorem mem_subtract_of_partAfter? {piece : Period} (hmeet : p.overlaps q)
    (hpart : p.partAfter? q = some piece) : piece ∈ p.subtract q := by
  simp [Period.subtract, hmeet, hpart]

end Pieces

/-- A step of a day leads to the next or to the previous date of all, and there is none only at the
end or at the beginning of the calendar.

The search for the last day of a month always finds one of its four candidates. It is the latest
date of the month and not before the date that one started from. The day after it is the first of
the month with the next number, and missing only if that number is past the last month. Setting the
day to 1 works as well, and leads to the earliest date of the month. The day before it is the last
of the month with the number before, and missing only if that is before the first month.

Taking a period out of another that it overlaps asks for the day before it if the other starts
earlier, and for the day after it if the other stops later. Both days are there whenever they are
asked for, and each is an end of a piece. The pieces are all that is left: the longest runs of the
dates that the other period has and this one has not. -/
theorem steps_fit_monthEnds :
    (∀ d e : Date, (d.succ? = some e ↔ d ⋖ e) ∧ (d.pred? = some e ↔ e ⋖ d)) ∧
    (∀ d : Date, (d.succ? = none ↔ ∀ e, e ≤ d) ∧ (d.pred? = none ↔ ∀ e, d ≤ e)) ∧
    (∀ d : Date, ByWords.monthNumber d = .ok d.monthNumber ∧
      [31, 30, 29, 28].findSome? d.withDay? = some (monthEnd d) ∧ monthEnd d = d.lastOfMonth ∧
      IsLastDay d.monthNumber (monthEnd d) ∧ d ≤ monthEnd d ∧
      ByWords.firstDay? (d.monthNumber + 1) = .ok (monthEnd d).succ? ∧
      (∀ next, (monthEnd d).succ? = some next ↔ IsFirstDay (d.monthNumber + 1) next) ∧
      ((monthEnd d).succ? = none ↔ d.monthNumber = Calendar.lastMonth)) ∧
    (∀ d : Date, d.withDay? 1 = some (monthStart d) ∧ monthStart d = d.firstOfMonth ∧
      IsFirstDay d.monthNumber (monthStart d) ∧ monthStart d ≤ d ∧
      (∃ day?, ByWords.firstDay? (d.monthNumber - 1) = .ok day? ∧
        (monthStart d).pred? = day?.map monthEnd) ∧
      (∀ previous, (monthStart d).pred? = some previous ↔
        IsLastDay (d.monthNumber - 1) previous) ∧
      ((monthStart d).pred? = none ↔ d.monthNumber = Calendar.firstMonth)) ∧
    ∀ p q : Period, subtract p q = .ok (p.subtract q) ∧
      AreLongestRuns (p.dates \ q.dates) (p.subtract q) ∧
      (overlaps p q → p.start < q.start →
        ∃ piece ∈ p.subtract q, piece.start = p.start ∧ q.start.pred? = some piece.stop) ∧
      (overlaps p q → q.stop < p.stop →
        ∃ piece ∈ p.subtract q, q.stop.succ? = some piece.start ∧ piece.stop = p.stop) := by
  refine ⟨fun d e => ⟨Date.succ?_eq_some_iff, Date.pred?_eq_some_iff⟩,
    fun d => ⟨Date.succ?_eq_none_iff, Date.pred?_eq_none_iff⟩, fun d => ?last, fun d => ?first,
    fun p q => ⟨subtract_eq p q, p.areLongestRuns_subtract q, ?before, ?after⟩⟩
  case last =>
    have hlast := isLastDay_monthEnd d
    refine ⟨ByWords.monthNumber_eq d, ?_, monthEnd_eq d, hlast, hlast.latest d rfl, ?_,
      fun next => ?_, succ?_monthEnd_eq_none_iff d⟩
    · rw [Date.findSome?_withDay?, monthEnd_eq]
    · rw [ByWords.firstDay?_eq, succ?_monthEnd]
    · rw [succ?_monthEnd, firstDay?_eq_some_iff]
  case first =>
    have hfirst := isFirstDay_monthStart d
    refine ⟨?_, monthStart_eq d, hfirst, hfirst.earliest d rfl,
      ⟨_, ByWords.firstDay?_eq _, pred?_monthStart d⟩, fun previous => ?_,
      pred?_monthStart_eq_none_iff d⟩
    · rw [Date.withDay?_one, monthStart_eq]
    · rw [pred?_monthStart, map_monthEnd_firstDay?_eq_some_iff]
  case before =>
    rw [overlaps_eq]
    intro hmeet hstart
    obtain ⟨piece, hpart, hends⟩ := exists_partBefore? hstart
    exact ⟨piece, mem_subtract_of_partBefore? hmeet hpart, hends⟩
  case after =>
    rw [overlaps_eq]
    intro hmeet hstop
    obtain ⟨piece, hpart, hends⟩ := exists_partAfter? hstop
    exact ⟨piece, mem_subtract_of_partAfter? hmeet hpart, hends⟩

/-- At the end of the calendar nothing follows the period that is taken out, and nothing is asked
for there. -/
example :
    let year : Period := ⟨3145704, 3145715, by decide, by decide, by decide⟩
    let december : Period := ⟨3145715, 3145715, by decide, by decide, by decide⟩
    december.stop.succ? = none ∧
      (subtract year december).map (·.map toString) = .ok ["+262142-01-01..+262142-11-30"] := by
  decide +kernel

end ByDays

end Monthwise
