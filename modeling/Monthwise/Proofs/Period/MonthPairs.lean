import Monthwise.Proofs.ByDays.Words
import Monthwise.Proofs.Coverage.Dates

/-! # Periods as pairs of month numbers

A period is settled by the numbers of its first and its last month, and two months of the
calendar settle one if they are in order. The numbers keep the order of the days: starts
compare like the numbers of their months, ends do so too, and an end is before a start
exactly if its month is. Periods are therefore ordered like the pairs of their numbers.
-/

namespace Monthwise

namespace Date

variable {a b : Date} {i j : Int}

theorem compare_eq_lt_iff : compare a b = .lt ↔ a < b := by
  change (compare a.year b.year).then ((compare a.month b.month).then (compare a.day b.day)) =
    .lt ↔ _
  simp only [Ordering.then_eq_lt, Int.compare_eq_lt, Int.compare_eq_eq, Nat.compare_eq_lt,
    Nat.compare_eq_eq, lt_def]

theorem compare_eq_gt_iff : compare a b = .gt ↔ b < a := by
  rw [Std.OrientedCmp.gt_iff_lt, compare_eq_lt_iff]

/-- Dates that stand like two numbers compare like them. -/
theorem compare_eq_compare (hlt : a < b ↔ i < j) (hgt : b < a ↔ j < i) :
    compare a b = compare i j := by
  have hsame : ∀ o o' : Ordering, (o = .lt ↔ o' = .lt) → (o = .gt ↔ o' = .gt) → o = o' := by
    decide
  apply hsame
  · rw [compare_eq_lt_iff, Int.compare_eq_lt, hlt]
  · rw [compare_eq_gt_iff, Int.compare_eq_gt, hgt]

end Date

theorem Calendar.hasMonth_iff_exists {number : Int} :
    HasMonth number ↔ ∃ d : Date, d.monthNumber = number := by
  constructor
  · exact fun h => ⟨firstDay number h, Date.monthNumber_firstDay number h⟩
  · rintro ⟨d, rfl⟩
    exact d.hasMonth_monthNumber

namespace Period

variable {p q : Period} {first last : Int}

theorem compare_start : compare p.start q.start = compare p.first q.first :=
  Date.compare_eq_compare start_lt_start_iff start_lt_start_iff

theorem compare_stop : compare p.stop q.stop = compare p.last q.last :=
  Date.compare_eq_compare stop_lt_stop_iff stop_lt_stop_iff

theorem ofMonths?_eq_none_iff : ofMonths? first last = none ↔
    last < first ∨ ¬ Calendar.HasMonth first ∨ ¬ Calendar.HasMonth last := by
  unfold ofMonths? Calendar.HasMonth
  split_ifs with h
  · refine iff_of_false (by simp) ?_
    omega
  · refine iff_of_true rfl ?_
    omega

end Period

/-- The order of two periods by their days: that of their starts, and of equal starts that of their
ends. -/
def ByDays.compareEnds (p q : Period) : Ordering :=
  (compare p.start q.start).then (compare p.stop q.stop)

theorem ByDays.compareEnds_eq (p q : Period) : compareEnds p q = compare p q := by
  rw [compareEnds, Period.compare_start, Period.compare_stop]
  rfl

namespace ByWords

/-- The months of the calendar are those that dates lie in. Two numbers make a period exactly if
both are months of the calendar and the first is not after the last; it is the one whose start and
end lie in these months, so a period is made again from the numbers of its own two ends. Numbers
that make none give nothing, and are not refused in any other way.

Starts compare as dates like the numbers of their months, and so do ends. An end is before a start
exactly if its month is before the month of the start; within one month the start is the earlier of
the two. The order of periods by their days, starts first, is therefore that of the pairs of
numbers. -/
theorem monthPairs_faithful :
    (∀ number, Calendar.HasMonth number ↔ ∃ d, monthNumber d = .ok number) ∧
    (∀ first last, (∃ p, ofMonths? first last = .ok (some p)) ↔
      Calendar.HasMonth first ∧ Calendar.HasMonth last ∧ first ≤ last) ∧
    (∀ first last, ofMonths? first last = .ok none ↔
      last < first ∨ ¬ Calendar.HasMonth first ∨ ¬ Calendar.HasMonth last) ∧
    (∀ first last p, ofMonths? first last = .ok (some p) ↔
      monthNumber p.start = .ok first ∧ monthNumber p.stop = .ok last) ∧
    (∀ p, ∃ first last, monthNumber p.start = .ok first ∧ monthNumber p.stop = .ok last ∧
      ofMonths? first last = .ok (some p)) ∧
    ∀ p q : Period,
      compare p.start q.start = compare p.start.monthNumber q.start.monthNumber ∧
      compare p.stop q.stop = compare p.stop.monthNumber q.stop.monthNumber ∧
      (p.stop < q.start ↔ p.stop.monthNumber < q.start.monthNumber) ∧
      (q.start ≤ p.stop ↔ q.start.monthNumber ≤ p.stop.monthNumber) ∧
      ByDays.compareEnds p q = compare p q ∧
      compare p q = (compare p.start.monthNumber q.start.monthNumber).then
        (compare p.stop.monthNumber q.stop.monthNumber) := by
  simp only [monthNumber_eq, ofMonths?_eq, Except.ok.injEq, Period.monthNumber_start,
    Period.monthNumber_stop]
  refine ⟨fun number => Calendar.hasMonth_iff_exists, fun first last => ?made,
    fun first last => Period.ofMonths?_eq_none_iff,
    fun first last p => Period.ofMonths?_eq_some_iff,
    fun p => ⟨p.first, p.last, rfl, rfl, p.ofMonths?_first_last⟩, fun p q => ?order⟩
  case made =>
    rw [← Option.ne_none_iff_exists', ne_eq, Period.ofMonths?_eq_none_iff, not_or, not_or,
      not_not, not_not, Int.not_lt]
    exact ⟨fun ⟨horder, hfirst, hlast⟩ => ⟨hfirst, hlast, horder⟩,
      fun ⟨hfirst, hlast, horder⟩ => ⟨horder, hfirst, hlast⟩⟩
  case order =>
    exact ⟨Period.compare_start, Period.compare_stop, Period.stop_lt_start_iff,
      Period.start_le_stop_iff, ByDays.compareEnds_eq p q, rfl⟩

/-- Around the turn to year 0 the numbers go on by one, and past the last month there is nothing. -/
example : (ofMonths? (-1) 0).map (·.map toString) = .ok (some "-0001-12-01..0000-01-31") ∧
    ofMonths? 3145715 3145716 = .ok none := by decide +kernel

end ByWords

end Monthwise
