import Monthwise.Calendar.Date

/-! # Month numbers

The months of the calendar in one row: January of year 0 has number 0 and every
month is one more than the month before it. Between two months the number of
steps is a difference of numbers, whatever the lengths of the months between.
-/

namespace Monthwise

namespace Calendar

/-- The number of January of the first supported year. -/
def firstMonth : Int := 12 * firstYear

/-- The number of December of the last supported year. -/
def lastMonth : Int := 12 * lastYear + 11

/-- The month numbers that stand for a month of the supported calendar. -/
def HasMonth (number : Int) : Prop :=
  firstMonth ≤ number ∧ number ≤ lastMonth

instance (number : Int) : Decidable (HasMonth number) := by
  unfold HasMonth; infer_instance

/-- The year of a month number. -/
def yearOf (number : Int) : Int := number / 12

/-- The place of a month number in its year, January being 1. -/
def monthOf (number : Int) : Nat := (number % 12).toNat + 1

theorem HasMonth.yearOf_mem {number : Int} (h : HasMonth number) :
    firstYear ≤ yearOf number ∧ yearOf number ≤ lastYear := by
  unfold HasMonth firstMonth lastMonth at h
  unfold yearOf
  omega

theorem monthOf_mem (number : Int) : 1 ≤ monthOf number ∧ monthOf number ≤ 12 := by
  unfold monthOf
  omega

/-- The first day of a month. -/
def firstDay (number : Int) (h : HasMonth number) : Date where
  year := yearOf number
  month := monthOf number
  day := 1
  year_mem := h.yearOf_mem
  month_mem := monthOf_mem number
  day_mem := ⟨Nat.le_refl 1, by have := le_daysInMonth (yearOf number) (monthOf number); omega⟩

/-- The last day of a month. -/
def lastDay (number : Int) (h : HasMonth number) : Date :=
  (firstDay number h).lastOfMonth

end Calendar

namespace Date

/-- The number of the month that `d` lies in. -/
def monthNumber (d : Date) : Int := 12 * d.year + ((d.month : Int) - 1)

theorem hasMonth_monthNumber (d : Date) : Calendar.HasMonth d.monthNumber := by
  have hy := d.year_mem
  have hm := d.month_mem
  unfold Calendar.HasMonth Calendar.firstMonth Calendar.lastMonth monthNumber
  omega

theorem yearOf_monthNumber (d : Date) : Calendar.yearOf d.monthNumber = d.year := by
  have hm := d.month_mem
  unfold Calendar.yearOf monthNumber
  omega

theorem monthOf_monthNumber (d : Date) : Calendar.monthOf d.monthNumber = d.month := by
  have hm := d.month_mem
  unfold Calendar.monthOf monthNumber
  omega

@[simp]
theorem monthNumber_firstDay (number : Int) (h : Calendar.HasMonth number) :
    (Calendar.firstDay number h).monthNumber = number := by
  unfold monthNumber Calendar.firstDay Calendar.yearOf Calendar.monthOf
  simp only
  omega

@[simp]
theorem monthNumber_lastDay (number : Int) (h : Calendar.HasMonth number) :
    (Calendar.lastDay number h).monthNumber = number :=
  monthNumber_firstDay number h

/-- A later date never lies in an earlier month. -/
theorem monthNumber_le_of_not_lt {a b : Date} (h : ¬ b < a) : a.monthNumber ≤ b.monthNumber := by
  have ha := a.month_mem
  have hb := b.month_mem
  rw [lt_def] at h
  unfold monthNumber
  omega

end Date

end Monthwise
