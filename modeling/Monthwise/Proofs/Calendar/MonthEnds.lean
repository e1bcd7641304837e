import Mathlib.Tactic.SplitIfs
import Monthwise.Proofs.Calendar.MonthGrid

/-! # From month to month by days

The day after the last of a month is the first of the next month, and the day
before the first is the last of the month before, through all lengths of months
and over the turn of the year. Where the calendar ends there is no such day. A
month has a first day if the calendar has it.
-/

namespace Monthwise

namespace Date

theorem ofYmd?_of_eq {d : Date} {year : Int} {month day : Nat} (hyear : d.year = year)
    (hmonth : d.month = month) (hday : d.day = day) : ofYmd? year month day = some d := by
  subst hyear hmonth hday
  exact ofYmd?_self d

theorem ofYmd?_eq_some_iff {d : Date} {year : Int} {month day : Nat} :
    ofYmd? year month day = some d ↔ d.year = year ∧ d.month = month ∧ d.day = day := by
  constructor
  · intro h
    unfold ofYmd? at h
    split_ifs at h
    obtain rfl := Option.some.inj h
    exact ⟨rfl, rfl, rfl⟩
  · rintro ⟨hyear, hmonth, hday⟩
    exact ofYmd?_of_eq hyear hmonth hday

theorem withDay?_succ_daysInMonth (d : Date) :
    d.withDay? (Calendar.daysInMonth d.year d.month + 1) = none := by
  unfold withDay? ofYmd?
  rw [dif_neg (by omega)]

theorem withDay?_zero (d : Date) : d.withDay? 0 = none := by
  unfold withDay? ofYmd?
  rw [dif_neg (by omega)]

theorem withDay?_one (d : Date) : d.withDay? 1 = some d.firstOfMonth :=
  ofYmd?_of_eq rfl rfl rfl

theorem firstMonth_le_monthNumber (d : Date) : Calendar.firstMonth ≤ d.monthNumber :=
  d.hasMonth_monthNumber.1

theorem monthNumber_le_lastMonth (d : Date) : d.monthNumber ≤ Calendar.lastMonth :=
  d.hasMonth_monthNumber.2

theorem firstOfMonth_eq_firstDay (d : Date) :
    d.firstOfMonth = Calendar.firstDay d.monthNumber d.hasMonth_monthNumber :=
  ext d.yearOf_monthNumber.symm d.monthOf_monthNumber.symm rfl

theorem lastOfMonth_eq_lastDay (d : Date) :
    d.lastOfMonth = Calendar.lastDay d.monthNumber d.hasMonth_monthNumber := by
  apply ext
  · exact d.yearOf_monthNumber.symm
  · exact d.monthOf_monthNumber.symm
  · simp [lastOfMonth, Calendar.lastDay, Calendar.firstDay, yearOf_monthNumber, monthOf_monthNumber]

theorem eq_firstDay_of_day {d : Date} (h : d.day = 1) :
    d = Calendar.firstDay d.monthNumber d.hasMonth_monthNumber := by
  rw [← firstOfMonth_eq_firstDay]
  exact ext rfl rfl h

theorem eq_lastDay_of_day {d : Date} (h : d.day = Calendar.daysInMonth d.year d.month) :
    d = Calendar.lastDay d.monthNumber d.hasMonth_monthNumber := by
  rw [← lastOfMonth_eq_lastDay]
  exact ext rfl rfl h

end Date

namespace Calendar

variable {number : Int}

theorem HasMonth.not_hasMonth_succ_iff (h : HasMonth number) :
    ¬ HasMonth (number + 1) ↔ number = lastMonth := by
  unfold HasMonth at h ⊢
  omega

theorem HasMonth.not_hasMonth_pred_iff (h : HasMonth number) :
    ¬ HasMonth (number - 1) ↔ number = firstMonth := by
  unfold HasMonth at h ⊢
  omega

theorem lastOfMonth_firstDay (h : HasMonth number) :
    (firstDay number h).lastOfMonth = lastDay number h := rfl

theorem ofYmd?_yearOf_monthOf (number : Int) :
    Date.ofYmd? (yearOf number) (monthOf number) 1 =
      if h : HasMonth number then some (firstDay number h) else none := by
  split_ifs with h
  · exact Date.ofYmd?_of_eq rfl rfl rfl
  · have hmonth := monthOf_mem number
    unfold Date.ofYmd?
    rw [dif_neg]
    -- a month whose year is in the calendar is in the calendar
    rintro ⟨hyear, -, -⟩
    unfold HasMonth firstMonth lastMonth at h
    unfold yearOf at hyear
    omega

theorem ofYmd?_january {year : Int} (h : HasMonth (12 * year)) :
    Date.ofYmd? year 1 1 = some (firstDay (12 * year) h) := by
  apply Date.ofYmd?_of_eq <;> simp only [firstDay, yearOf, monthOf] <;> omega

theorem ofYmd?_december {year : Int} (h : HasMonth (12 * year + 11)) :
    Date.ofYmd? year 12 31 = some (lastDay (12 * year + 11) h) := by
  have hmonth : monthOf (12 * year + 11) = 12 := by
    unfold monthOf
    omega
  apply Date.ofYmd?_of_eq
  · simp only [lastDay, Date.lastOfMonth, firstDay, yearOf]
    omega
  · exact hmonth
  · simp [lastDay, Date.lastOfMonth, firstDay, hmonth, daysInMonth]

theorem succ?_lastDay (h : HasMonth number) (hnext : HasMonth (number + 1)) :
    (lastDay number h).succ? = some (firstDay (number + 1) hnext) := by
  have hend : (lastDay number h).withDay? ((lastDay number h).day + 1) = none :=
    (lastDay number h).withDay?_succ_daysInMonth
  simp only [Date.succ?, hend]
  split_ifs with hmonth <;> apply Date.ofYmd?_of_eq <;>
    simp only [lastDay, Date.lastOfMonth, firstDay, yearOf, monthOf] at hmonth ⊢ <;> omega

/-- Nothing comes after the last day of the calendar. -/
theorem succ?_lastDay_of_not_hasMonth (h : HasMonth number) (hend : ¬ HasMonth (number + 1)) :
    (lastDay number h).succ? = none := by
  obtain rfl := h.not_hasMonth_succ_iff.mp hend
  rfl

theorem pred?_firstDay (h : HasMonth number) (hprev : HasMonth (number - 1)) :
    (firstDay number h).pred? = some (lastDay (number - 1) hprev) := by
  have hend : (firstDay number h).withDay? ((firstDay number h).day - 1) = none :=
    (firstDay number h).withDay?_zero
  simp only [Date.pred?, hend]
  split_ifs with hmonth <;> simp only [firstDay, monthOf] at hmonth
  · have hyear : yearOf (number - 1) = yearOf number := by unfold yearOf; omega
    have hbefore : monthOf (number - 1) = monthOf number - 1 := by unfold monthOf; omega
    apply Date.ofYmd?_of_eq hyear hbefore
    simp only [lastDay, Date.lastOfMonth, firstDay, hyear, hbefore]
  · have hyear : yearOf (number - 1) = yearOf number - 1 := by unfold yearOf; omega
    have hbefore : monthOf (number - 1) = 12 := by unfold monthOf; omega
    apply Date.ofYmd?_of_eq hyear hbefore
    simp [lastDay, Date.lastOfMonth, firstDay, hbefore, daysInMonth]

/-- Nothing comes before the first day of the calendar. -/
theorem pred?_firstDay_of_not_hasMonth (h : HasMonth number) (hend : ¬ HasMonth (number - 1)) :
    (firstDay number h).pred? = none := by
  obtain rfl := h.not_hasMonth_pred_iff.mp hend
  rfl

end Calendar

end Monthwise
