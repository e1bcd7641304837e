/-! # Calendar dates

The proleptic Gregorian calendar with a year zero, cut off at both ends so that
every date has a fixed place. A `Date` carries the proof that it exists, and
dates are ordered by year, month and day.
-/

namespace Monthwise

namespace Calendar

/-- The first year of the supported calendar. -/
def firstYear : Int := -262143

/-- The last year of the supported calendar. -/
def lastYear : Int := 262142

/-- Years with a 29th of February: every fourth, but of the full centuries only every fourth. -/
def IsLeap (year : Int) : Prop :=
  year % 4 = 0 ∧ (year % 100 ≠ 0 ∨ year % 400 = 0)

instance (year : Int) : Decidable (IsLeap year) := by
  unfold IsLeap; infer_instance

/-- The number of days of a month; months are numbered from 1. -/
def daysInMonth (year : Int) (month : Nat) : Nat :=
  if month = 2 then
    if IsLeap year then 29 else 28
  else if month = 4 ∨ month = 6 ∨ month = 9 ∨ month = 11 then 30
  else 31

theorem le_daysInMonth (year : Int) (month : Nat) : 28 ≤ daysInMonth year month := by
  unfold daysInMonth; split <;> split <;> omega

theorem daysInMonth_le (year : Int) (month : Nat) : daysInMonth year month ≤ 31 := by
  unfold daysInMonth; split <;> split <;> omega

end Calendar

/-- A day of the supported calendar. -/
structure Date where
  year : Int
  month : Nat
  day : Nat
  year_mem : Calendar.firstYear ≤ year ∧ year ≤ Calendar.lastYear
  month_mem : 1 ≤ month ∧ month ≤ 12
  day_mem : 1 ≤ day ∧ day ≤ Calendar.daysInMonth year month
deriving DecidableEq, Repr

namespace Date

/-- The date with the given year, month and day, if the calendar has it. -/
def ofYmd? (year : Int) (month day : Nat) : Option Date :=
  if h : (Calendar.firstYear ≤ year ∧ year ≤ Calendar.lastYear) ∧ (1 ≤ month ∧ month ≤ 12) ∧
      (1 ≤ day ∧ day ≤ Calendar.daysInMonth year month) then
    some ⟨year, month, day, h.1, h.2.1, h.2.2⟩
  else
    none

/-- Earlier dates come first: by year, then month, then day. -/
instance : LT Date where
  lt a b := a.year < b.year ∨
    a.year = b.year ∧ (a.month < b.month ∨ a.month = b.month ∧ a.day < b.day)

instance : LE Date where
  le a b := a.year < b.year ∨
    a.year = b.year ∧ (a.month < b.month ∨ a.month = b.month ∧ a.day ≤ b.day)

theorem lt_def {a b : Date} : a < b ↔ a.year < b.year ∨
    a.year = b.year ∧ (a.month < b.month ∨ a.month = b.month ∧ a.day < b.day) := Iff.rfl

theorem le_def {a b : Date} : a ≤ b ↔ a.year < b.year ∨
    a.year = b.year ∧ (a.month < b.month ∨ a.month = b.month ∧ a.day ≤ b.day) := Iff.rfl

instance (a b : Date) : Decidable (a < b) := decidable_of_iff' _ lt_def

instance (a b : Date) : Decidable (a ≤ b) := decidable_of_iff' _ le_def

instance : Ord Date where
  compare a b := (compare a.year b.year).then ((compare a.month b.month).then (compare a.day b.day))

/-- The first day of the month that `d` lies in. -/
def firstOfMonth (d : Date) : Date :=
  { d with day := 1, day_mem := ⟨Nat.le_refl 1, Nat.le_trans d.day_mem.1 d.day_mem.2⟩ }

/-- The last day of the month that `d` lies in. -/
def lastOfMonth (d : Date) : Date :=
  { d with
    day := Calendar.daysInMonth d.year d.month
    day_mem := ⟨Nat.le_trans d.day_mem.1 d.day_mem.2, Nat.le_refl _⟩ }

/-- The same month with another day, if that month has it. -/
def withDay? (d : Date) (day : Nat) : Option Date :=
  ofYmd? d.year d.month day

/-- The next day, unless the calendar ends. -/
def succ? (d : Date) : Option Date :=
  match d.withDay? (d.day + 1) with
  | some next => some next
  | none => if d.month < 12 then ofYmd? d.year (d.month + 1) 1 else ofYmd? (d.year + 1) 1 1

/-- The previous day, unless the calendar begins. -/
def pred? (d : Date) : Option Date :=
  match d.withDay? (d.day - 1) with
  | some previous => some previous
  | none =>
    if 1 < d.month then
      ofYmd? d.year (d.month - 1) (Calendar.daysInMonth d.year (d.month - 1))
    else
      ofYmd? (d.year - 1) 12 31

/-- A calendar month has day numbers without holes, so its last day is the greatest of the
four candidates that exists. -/
theorem findSome?_withDay? (d : Date) :
    [31, 30, 29, 28].findSome? d.withDay? = some d.lastOfMonth := by
  have hy := d.year_mem
  have hm := d.month_mem
  have hlow := Calendar.le_daysInMonth d.year d.month
  have hhigh := Calendar.daysInMonth_le d.year d.month
  have exact {n : Nat} (h : Calendar.daysInMonth d.year d.month = n) :
      d.withDay? n = some d.lastOfMonth := by
    subst h
    unfold withDay? ofYmd? lastOfMonth
    rw [dif_pos ⟨hy, hm, by omega, Nat.le_refl _⟩]
  have beyond {n : Nat} (h : Calendar.daysInMonth d.year d.month < n) : d.withDay? n = none := by
    unfold withDay? ofYmd?
    rw [dif_neg (by omega)]
  obtain h | h | h | h :
      Calendar.daysInMonth d.year d.month = 31 ∨ Calendar.daysInMonth d.year d.month = 30 ∨
      Calendar.daysInMonth d.year d.month = 29 ∨ Calendar.daysInMonth d.year d.month = 28 := by
    omega
  all_goals simp [List.findSome?, exact h, beyond, h]

end Date

end Monthwise
