import Monthwise.Period.Basic

/-! # Days on the month grid

A day lies in a period exactly when its month does. The first and the last day
of a month enclose the days of that month, whatever its length, so an order of
days that respects months can be traded for the order of month numbers.
-/

namespace Monthwise

namespace Date

theorem ext {a b : Date} (hyear : a.year = b.year) (hmonth : a.month = b.month)
    (hday : a.day = b.day) : a = b := by
  cases a
  cases b
  simp_all

theorem not_lt {a b : Date} : ¬ a < b ↔ b ≤ a := by
  rw [lt_def, le_def]
  omega

theorem not_le {a b : Date} : ¬ a ≤ b ↔ b < a := by
  rw [← not_lt, Decidable.not_not]

theorem le_antisymm {a b : Date} (hab : a ≤ b) (hba : b ≤ a) : a = b := by
  rw [le_def] at hab hba
  exact ext (by omega) (by omega) (by omega)

theorem ofYmd?_self (d : Date) : ofYmd? d.year d.month d.day = some d := by
  unfold ofYmd?
  rw [dif_pos ⟨d.year_mem, d.month_mem, d.day_mem⟩]

instance : Std.TransOrd Date :=
  inferInstanceAs (Std.TransCmp (compareLex (compareOn year)
    (compareLex (compareOn month) (compareOn day))))

theorem monthNumber_le_of_le {a b : Date} (h : a ≤ b) : a.monthNumber ≤ b.monthNumber :=
  monthNumber_le_of_not_lt (not_lt.mpr h)

end Date

namespace Calendar

theorem hasMonth_iff {number : Int} : HasMonth number ↔ -3145716 ≤ number ∧ number ≤ 3145715 := by
  unfold HasMonth firstMonth firstYear lastMonth lastYear
  omega

variable {number : Int} (h : HasMonth number)

/-- The days from the first of a month on are those of this and of later months. -/
theorem firstDay_le_iff {d : Date} : firstDay number h ≤ d ↔ number ≤ d.monthNumber := by
  constructor
  · intro hle
    simpa using Date.monthNumber_le_of_le hle
  · intro hle
    have hmonth := d.month_mem
    have hday := d.day_mem.1
    rw [Date.le_def]
    simp only [Date.monthNumber, firstDay, yearOf, monthOf] at hle ⊢
    omega

/-- The days up to the last of a month are those of this and of earlier months. -/
theorem le_lastDay_iff {d : Date} : d ≤ lastDay number h ↔ d.monthNumber ≤ number := by
  constructor
  · intro hle
    simpa using Date.monthNumber_le_of_le hle
  · intro hle
    have hmonth := d.month_mem
    rcases Int.lt_or_eq_of_le hle with hlt | heq
    · rw [Date.le_def]
      simp only [Date.monthNumber, lastDay, Date.lastOfMonth, firstDay, yearOf, monthOf] at hlt ⊢
      omega
    · subst heq
      have hday := d.day_mem.2
      rw [Date.le_def]
      simp only [lastDay, Date.lastOfMonth, firstDay, Date.yearOf_monthNumber,
        Date.monthOf_monthNumber]
      exact .inr ⟨trivial, .inr ⟨trivial, hday⟩⟩

theorem lastOfMonth_lastDay : (lastDay number h).lastOfMonth = lastDay number h := rfl

end Calendar

namespace Period

variable (p : Period)

@[simp]
theorem monthNumber_start : p.start.monthNumber = p.first := Date.monthNumber_firstDay _ _

@[simp]
theorem monthNumber_stop : p.stop.monthNumber = p.last := Date.monthNumber_lastDay _ _

theorem mem_def {d : Date} : d ∈ p ↔ p.start ≤ d ∧ d ≤ p.stop := Iff.rfl

/-- Periods are made of whole months. -/
theorem mem_iff_hasMonth {p : Period} {d : Date} : d ∈ p ↔ p.HasMonth d.monthNumber := by
  rw [mem_def, start, stop, Calendar.firstDay_le_iff, Calendar.le_lastDay_iff]
  exact Iff.rfl

theorem start_le_stop : p.start ≤ p.stop := by
  rw [stop, Calendar.le_lastDay_iff, monthNumber_start]
  exact p.first_le_last

theorem HasMonth.inCalendar {p : Period} {month : Int} (h : p.HasMonth month) :
    Calendar.HasMonth month :=
  ⟨Int.le_trans p.firstMonth_le h.1, Int.le_trans h.2 p.last_le⟩

theorem has_first : p.HasMonth p.first := ⟨Int.le_refl _, p.first_le_last⟩

theorem has_last : p.HasMonth p.last := ⟨p.first_le_last, Int.le_refl _⟩

theorem ext {p q : Period} (hfirst : p.first = q.first) (hlast : p.last = q.last) : p = q := by
  cases p
  cases q
  simp_all

theorem ofMonths?_first_last : ofMonths? p.first p.last = some p :=
  dif_pos ⟨p.first_le_last, p.firstMonth_le, p.last_le⟩

theorem ofMonths?_eq_some_iff {p : Period} {first last : Int} :
    ofMonths? first last = some p ↔ p.first = first ∧ p.last = last := by
  constructor
  · intro h
    unfold ofMonths? at h
    split at h
    · obtain rfl := Option.some.inj h
      exact ⟨rfl, rfl⟩
    · cases h
  · rintro ⟨rfl, rfl⟩
    exact p.ofMonths?_first_last

/-- The first and the last day of a period are the bounds of that period. -/
theorem ofDates_start_stop : ofDates p.start p.stop = .ok p := by
  have hlast : p.stop.lastOfMonth = p.stop := Calendar.lastOfMonth_lastDay _
  have horder : ¬ p.stop < p.start := Date.not_lt.mpr p.start_le_stop
  have hday : p.start.day = 1 := rfl
  simp only [ofDates, hday, hlast, horder, ne_eq, not_true_eq_false, ↓reduceIte, ↓reduceDIte,
    monthNumber_start, monthNumber_stop]

end Period

end Monthwise
