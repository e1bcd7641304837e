import Monthwise.Proofs.ByDays.Words
import Monthwise.Proofs.Period.Grammar

/-! # The ends of a period

Two dates make a period exactly if one is the first day of a month and the other is the
last day of the same month or of a later one. Otherwise the first of three rules that is
broken is the one reported. A period that is too long is refused with the number of its
months, which is counted in machine words. A number without a word of its own would be
replaced by the greatest word, but the calendar has not that many months.
-/

namespace Monthwise

namespace Calendar

/-- The date is in the month with this number, and no date in it is earlier. -/
structure IsFirstDay (number : Int) (d : Date) : Prop where
  inMonth : d.monthNumber = number
  earliest : ∀ e : Date, e.monthNumber = number → d ≤ e

/-- The date is in the month with this number, and no date in it is later. -/
structure IsLastDay (number : Int) (d : Date) : Prop where
  inMonth : d.monthNumber = number
  latest : ∀ e : Date, e.monthNumber = number → e ≤ d

variable {number : Int} {d : Date}

theorem IsFirstDay.hasMonth (h : IsFirstDay number d) : HasMonth number :=
  h.inMonth ▸ d.hasMonth_monthNumber

theorem IsLastDay.hasMonth (h : IsLastDay number d) : HasMonth number :=
  h.inMonth ▸ d.hasMonth_monthNumber

theorem isFirstDay_iff (hnumber : HasMonth number) :
    IsFirstDay number d ↔ d = firstDay number hnumber := by
  constructor
  · intro h
    apply Date.le_antisymm
    · exact h.earliest _ (Date.monthNumber_firstDay number hnumber)
    · exact (firstDay_le_iff hnumber).mpr (Int.le_of_eq h.inMonth.symm)
  · rintro rfl
    exact ⟨Date.monthNumber_firstDay number hnumber, fun e he =>
      (firstDay_le_iff hnumber).mpr (Int.le_of_eq he.symm)⟩

theorem isLastDay_iff (hnumber : HasMonth number) :
    IsLastDay number d ↔ d = lastDay number hnumber := by
  constructor
  · intro h
    apply Date.le_antisymm
    · exact (le_lastDay_iff hnumber).mpr (Int.le_of_eq h.inMonth)
    · exact h.latest _ (Date.monthNumber_lastDay number hnumber)
  · rintro rfl
    exact ⟨Date.monthNumber_lastDay number hnumber, fun e he =>
      (le_lastDay_iff hnumber).mpr (Int.le_of_eq he)⟩

theorem exists_isFirstDay_iff : (∃ number, IsFirstDay number d) ↔ d.day = 1 := by
  constructor
  · rintro ⟨number, h⟩
    rw [(isFirstDay_iff h.hasMonth).mp h]
    rfl
  · intro hday
    exact ⟨_, (isFirstDay_iff d.hasMonth_monthNumber).mpr (Date.eq_firstDay_of_day hday)⟩

theorem exists_isLastDay_iff :
    (∃ number, IsLastDay number d) ↔ d.day = daysInMonth d.year d.month := by
  constructor
  · rintro ⟨number, h⟩
    rw [(isLastDay_iff h.hasMonth).mp h]
    rfl
  · intro hday
    exact ⟨_, (isLastDay_iff d.hasMonth_monthNumber).mpr (Date.eq_lastDay_of_day hday)⟩

end Calendar

namespace ByWords

open Word (unsigned32 signed64)
open ByDays (ok_bind)

/-- The number of months of a period, or the greatest word if it has none of its own. -/
def monthCount (p : Period) : Except Abort Nat := do
  let steps ← signed64.subtract (← monthNumber p.stop) (← monthNumber p.start)
  let months ← signed64.add steps 1
  return ((unsigned32.convert? months).getD unsigned32.greatest).toNat

/-- The period with the given first and last day, if it is not too long. -/
def create (start stop : Date) : Except Abort (Except PeriodError Period) := do
  match ← ByDays.ofDates start stop with
  | .error e => return .error e
  | .ok p =>
    let months ← monthCount p
    if Period.maxMonths < months then return .error (.tooManyMonths months) else return .ok p

/-- A word of 32 bits has room for the number of months of any period. -/
theorem monthCount_eq (p : Period) : monthCount p = .ok p.monthCount := by
  have hfirst := Calendar.hasMonth_iff.mp p.hasMonth_first
  have hlast := Calendar.hasMonth_iff.mp p.hasMonth_last
  have hle := p.first_le_last
  have hsteps : signed64.Holds (p.last - p.first) := by
    rw [Word.holds_signed64]
    omega
  have hmonths : signed64.Holds (p.last - p.first + 1) := by
    rw [Word.holds_signed64]
    omega
  have hcount : unsigned32.Holds (p.last - p.first + 1) := by
    rw [Word.holds_unsigned32]
    omega
  simp only [monthCount, monthNumber_eq, Period.monthNumber_start, Period.monthNumber_stop, ok_bind,
    Word.subtract_of_holds hsteps, Word.add_of_holds hmonths, Word.convert?_of_holds hcount]
  rfl

theorem create_eq (start stop : Date) : create start stop = .ok (Period.create start stop) := by
  unfold create Period.create
  rw [ByDays.ofDates_eq]
  cases Period.ofDates start stop with
  | error e => rfl
  | ok p =>
      simp only [ok_bind, monthCount_eq]
      split_ifs <;> rfl

end ByWords

namespace Period

open Calendar (IsFirstDay IsLastDay)

variable {start stop : Date} {p : Period} {e : PeriodError}

theorem ofDates_eq_ok_iff_days :
    ofDates start stop = .ok p ↔ IsFirstDay p.first start ∧ IsLastDay p.last stop := by
  rw [ofDates_eq_ok_iff, Calendar.isFirstDay_iff p.hasMonth_first,
    Calendar.isLastDay_iff p.hasMonth_last]
  rfl

/-- The first day of a month and the last day of a month that is not earlier make a period. -/
theorem exists_ofDates_of_days {i j : Int} (hle : i ≤ j) (hstart : IsFirstDay i start)
    (hstop : IsLastDay j stop) :
    ∃ p : Period, p.first = i ∧ p.last = j ∧ ofDates start stop = .ok p :=
  ⟨⟨i, j, hstart.hasMonth.1, hle, hstop.hasMonth.2⟩, rfl, rfl,
    ofDates_eq_ok_iff_days.mpr ⟨hstart, hstop⟩⟩

/-- The error of two dates is the first rule that they break. -/
theorem ofDates_eq_error_iff : ofDates start stop = .error e ↔ FirstBroken start stop e := by
  constructor
  · intro herror
    obtain ⟨p, rfl, rfl⟩ | ⟨e', hbroken⟩ := ends_or_firstBroken start stop
    · rw [ofDates_start_stop] at herror
      cases herror
    · rw [hbroken.ofDates_eq] at herror
      rwa [← Except.error.inj herror]
  · exact FirstBroken.ofDates_eq

theorem create_of_error (h : ofDates start stop = .error e) : create start stop = .error e := by
  rw [create, h]
  rfl

theorem create_of_ok (h : ofDates start stop = .ok p) : create start stop =
    if maxMonths < p.monthCount then .error (.tooManyMonths p.monthCount) else .ok p := by
  rw [create, h]
  rfl

theorem create_eq_ok_iff :
    create start stop = .ok p ↔ ofDates start stop = .ok p ∧ p.monthCount ≤ maxMonths := by
  cases hdates : ofDates start stop with
  | error e => simp [create_of_error hdates]
  | ok q =>
      rw [create_of_ok hdates, Except.ok.injEq]
      split_ifs with hlong
      · simp only [false_iff, not_and]
        rintro rfl
        exact Nat.not_le.mpr hlong
      · rw [Except.ok.injEq, iff_self_and]
        rintro rfl
        exact Nat.not_lt.mp hlong

theorem create_eq_error_iff : create start stop = .error e ↔ ofDates start stop = .error e ∨
    ∃ p, ofDates start stop = .ok p ∧ maxMonths < p.monthCount ∧
      e = .tooManyMonths p.monthCount := by
  cases hdates : ofDates start stop with
  | error e' => simp [create_of_error hdates]
  | ok q =>
      rw [create_of_ok hdates]
      split_ifs with hlong
      · simp [hlong, eq_comm]
      · simp [hlong]

theorem firstBroken_ne_tooManyMonths (h : FirstBroken start stop e) (months : Nat) :
    e ≠ .tooManyMonths months := by
  cases h <;> nofun

/-- A period is refused for its length alone, and then its months are counted exactly. -/
theorem create_eq_tooManyMonths_iff {months : Nat} :
    create start stop = .error (.tooManyMonths months) ↔ ∃ i j, IsFirstDay i start ∧
      IsLastDay j stop ∧ (months : Int) = j - i + 1 ∧ maxMonths < months := by
  rw [create_eq_error_iff]
  constructor
  · rintro (herror | ⟨p, hdates, hlong, heq⟩)
    · exact absurd rfl (firstBroken_ne_tooManyMonths (ofDates_eq_error_iff.mp herror) months)
    · obtain rfl := PeriodError.tooManyMonths.inj heq
      obtain ⟨hstart, hstop⟩ := ofDates_eq_ok_iff_days.mp hdates
      have hle := p.first_le_last
      refine ⟨p.first, p.last, hstart, hstop, ?_, hlong⟩
      unfold monthCount
      omega
  · rintro ⟨i, j, hstart, hstop, hmonths, hlong⟩
    obtain ⟨p, rfl, rfl, hdates⟩ := exists_ofDates_of_days (by omega) hstart hstop
    have hcount : p.monthCount = months := by
      unfold monthCount
      omega
    exact .inr ⟨p, hdates, hcount ▸ hlong, hcount ▸ rfl⟩

/-- The first day of a month and the last day of the same month or of a later one are the ends of a
period, and no other dates are. For other dates the error is the first of three that applies: the
start is the first day of no month, it is after the end, the end is the last day of no month. The
limit on the length makes a difference only to periods of more than 12 months, which are refused
with the number of their months. With the last day found by trial and the months counted in machine
words the answers are the same, and no number is cut off or wrapped around. -/
theorem create_exact (start stop : Date) :
    ByDays.ofDates start stop = .ok (ofDates start stop) ∧
    ByWords.create start stop = .ok (create start stop) ∧
    ((∃ p, ofDates start stop = .ok p) ↔
      ∃ i j, i ≤ j ∧ IsFirstDay i start ∧ IsLastDay j stop) ∧
    (∀ p, ofDates start stop = .ok p ↔ IsFirstDay p.first start ∧ IsLastDay p.last stop) ∧
    (ofDates start stop = .error .startNotFirstDay ↔ ¬ ∃ i, IsFirstDay i start) ∧
    (ofDates start stop = .error .startAfterEnd ↔ (∃ i, IsFirstDay i start) ∧ stop < start) ∧
    (ofDates start stop = .error .endNotLastDay ↔
      (∃ i, IsFirstDay i start) ∧ ¬ stop < start ∧ ¬ ∃ j, IsLastDay j stop) ∧
    (∀ e, ofDates start stop = .error e ↔
      create start stop = .error e ∧ ∀ months, e ≠ .tooManyMonths months) ∧
    (∀ p, create start stop = .ok p ↔
      ofDates start stop = .ok p ∧ p.last - p.first + 1 ≤ 12) ∧
    (∀ months : Nat, create start stop = .error (.tooManyMonths months) ↔ ∃ i j,
      IsFirstDay i start ∧ IsLastDay j stop ∧ (months : Int) = j - i + 1 ∧ 12 < months) := by
  simp only [ofDates_eq_error_iff, Calendar.exists_isFirstDay_iff, Calendar.exists_isLastDay_iff]
  refine ⟨ByDays.ofDates_eq start stop, ByWords.create_eq start stop, ?ends,
    fun p => ofDates_eq_ok_iff_days, ?first, ?order, ?last, fun e => ?agree, fun p => ?short,
    fun months => create_eq_tooManyMonths_iff⟩
  case ends =>
    constructor
    · rintro ⟨p, hdates⟩
      exact ⟨p.first, p.last, p.first_le_last, ofDates_eq_ok_iff_days.mp hdates⟩
    · rintro ⟨i, j, hle, hstart, hstop⟩
      obtain ⟨p, -, -, hdates⟩ := exists_ofDates_of_days hle hstart hstop
      exact ⟨p, hdates⟩
  case first => exact ⟨fun | .startNotFirstDay first => first, .startNotFirstDay⟩
  case order =>
    exact ⟨fun | .startAfterEnd first order => ⟨first, order⟩, fun h => .startAfterEnd h.1 h.2⟩
  case last =>
    rw [Date.not_lt]
    exact ⟨fun | .endNotLastDay first order last => ⟨first, order, last⟩,
      fun h => .endNotLastDay h.1 h.2.1 h.2.2⟩
  case agree =>
    rw [create_eq_error_iff, ofDates_eq_error_iff]
    constructor
    · exact fun hbroken => ⟨.inl hbroken, firstBroken_ne_tooManyMonths hbroken⟩
    · rintro ⟨hbroken | ⟨p, -, -, rfl⟩, hother⟩
      · exact hbroken
      · exact absurd rfl (hother p.monthCount)
  case short =>
    have hle := p.first_le_last
    rw [create_eq_ok_iff, monthCount, maxMonths]
    exact and_congr_right fun _ => by omega

/-- The whole calendar is too long, by far less than a word of 32 bits could tell. -/
example : ByWords.create (Calendar.firstDay Calendar.firstMonth (by decide))
    (Calendar.lastDay Calendar.lastMonth (by decide)) =
      .ok (.error (.tooManyMonths 6291432)) := rfl

end Period

end Monthwise
