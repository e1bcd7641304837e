import Mathlib.Order.Defs.PartialOrder
import Monthwise.Proofs.Calendar.MonthEnds

/-! # From day to day

The next day is the least of all later dates, and the previous day the greatest of all
earlier ones. Only the last day of the calendar has no next day, and only the first has no
previous one. Inside a month a step is one in the number of the day; between months it is
one from the end of a month to the beginning of another.
-/

namespace Monthwise

namespace Date

variable {a b c : Date}

theorem covBy_iff : a ⋖ b ↔ a < b ∧ ∀ c, a < c → b ≤ c := by
  change (a < b ∧ ∀ c, a < c → ¬ c < b) ↔ _
  simp only [not_lt]

theorem eq_of_covBy_right (hb : a ⋖ b) (hc : a ⋖ c) : b = c := by
  rw [covBy_iff] at hb hc
  exact le_antisymm (hb.2 c hc.1) (hc.2 b hb.1)

theorem eq_of_covBy_left (ha : a ⋖ c) (hb : b ⋖ c) : a = b := by
  apply le_antisymm
  · exact not_lt.mp fun hlt => hb.2 hlt ha.1
  · exact not_lt.mp fun hlt => ha.2 hlt hb.1

/-- No date lies between a day of a month and the one with the next number. -/
theorem covBy_of_day (hyear : b.year = a.year) (hmonth : b.month = a.month)
    (hday : b.day = a.day + 1) : a ⋖ b := by
  rw [covBy_iff]
  constructor
  · rw [lt_def]
    omega
  · intro c hc
    rw [lt_def] at hc
    rw [le_def]
    omega

end Date

/-- No date lies between two months that follow on each other. -/
theorem Calendar.lastDay_covBy_firstDay {number : Int} (h : HasMonth number)
    (hnext : HasMonth (number + 1)) : lastDay number h ⋖ firstDay (number + 1) hnext := by
  rw [Date.covBy_iff]
  constructor
  · rw [← Date.not_le, firstDay_le_iff, Date.monthNumber_lastDay]
    omega
  · intro c hc
    rw [← Date.not_le, le_lastDay_iff] at hc
    rw [firstDay_le_iff]
    omega

namespace Date

variable {d e : Date}

/-- A step forward gets to the next date, or there is no later one. -/
theorem succ?_spec (d : Date) :
    (∃ e, d.succ? = some e ∧ d ⋖ e) ∨ d.succ? = none ∧ ∀ e, e ≤ d := by
  rcases Nat.lt_or_eq_of_le d.day_mem.2 with hinside | hend
  · let next : Date := { d with day := d.day + 1, day_mem := ⟨Nat.le_add_left 1 _, hinside⟩ }
    have hnext : d.withDay? (d.day + 1) = some next := ofYmd?_of_eq rfl rfl rfl
    exact .inl ⟨next, by simp only [succ?, hnext], covBy_of_day rfl rfl rfl⟩
  · -- from a month's end the step is one between months, if there is a month to get to
    rw [eq_lastDay_of_day hend]
    by_cases hnext : Calendar.HasMonth (d.monthNumber + 1)
    · exact .inl ⟨_, Calendar.succ?_lastDay _ hnext, Calendar.lastDay_covBy_firstDay _ hnext⟩
    · refine .inr ⟨Calendar.succ?_lastDay_of_not_hasMonth _ hnext, fun e => ?_⟩
      rw [Calendar.le_lastDay_iff, d.hasMonth_monthNumber.not_hasMonth_succ_iff.mp hnext]
      exact e.monthNumber_le_lastMonth

/-- A step back gets to the previous date, or there is no earlier one. -/
theorem pred?_spec (d : Date) :
    (∃ e, d.pred? = some e ∧ e ⋖ d) ∨ d.pred? = none ∧ ∀ e, d ≤ e := by
  rcases Nat.lt_or_eq_of_le d.day_mem.1 with hinside | hbegin
  · have hlow := d.day_mem.2
    let previous : Date := { d with day := d.day - 1, day_mem := ⟨by omega, by omega⟩ }
    have hprevious : d.withDay? (d.day - 1) = some previous := ofYmd?_of_eq rfl rfl rfl
    have hday : d.day = previous.day + 1 := (Nat.sub_add_cancel d.day_mem.1).symm
    exact .inl ⟨previous, by simp only [pred?, hprevious], covBy_of_day rfl rfl hday⟩
  · rw [eq_firstDay_of_day hbegin.symm]
    by_cases hprevious : Calendar.HasMonth (d.monthNumber - 1)
    · have hcov := Calendar.lastDay_covBy_firstDay hprevious (by simpa using d.hasMonth_monthNumber)
      simp only [Int.sub_add_cancel] at hcov
      exact .inl ⟨_, Calendar.pred?_firstDay _ hprevious, hcov⟩
    · refine .inr ⟨Calendar.pred?_firstDay_of_not_hasMonth _ hprevious, fun e => ?_⟩
      rw [Calendar.firstDay_le_iff, d.hasMonth_monthNumber.not_hasMonth_pred_iff.mp hprevious]
      exact e.firstMonth_le_monthNumber

theorem succ?_eq_some_iff : d.succ? = some e ↔ d ⋖ e := by
  rcases d.succ?_spec with ⟨e', hstep, hnext⟩ | ⟨hstep, hlast⟩ <;> rw [hstep]
  · rw [Option.some.injEq]
    exact ⟨fun h => h ▸ hnext, eq_of_covBy_right hnext⟩
  · exact iff_of_false (by simp) fun hnext => not_lt.mpr (hlast e) hnext.1

theorem succ?_eq_none_iff : d.succ? = none ↔ ∀ e, e ≤ d := by
  rcases d.succ?_spec with ⟨e', hstep, hnext⟩ | ⟨hstep, hlast⟩ <;> rw [hstep]
  · exact iff_of_false (by simp) fun hlast => not_lt.mpr (hlast e') hnext.1
  · exact iff_of_true rfl hlast

theorem pred?_eq_some_iff : d.pred? = some e ↔ e ⋖ d := by
  rcases d.pred?_spec with ⟨e', hstep, hprevious⟩ | ⟨hstep, hfirst⟩ <;> rw [hstep]
  · rw [Option.some.injEq]
    exact ⟨fun h => h ▸ hprevious, eq_of_covBy_left hprevious⟩
  · exact iff_of_false (by simp) fun hprevious => not_lt.mpr (hfirst e) hprevious.1

theorem pred?_eq_none_iff : d.pred? = none ↔ ∀ e, d ≤ e := by
  rcases d.pred?_spec with ⟨e', hstep, hprevious⟩ | ⟨hstep, hfirst⟩ <;> rw [hstep]
  · exact iff_of_false (by simp) fun hfirst => not_lt.mpr (hfirst e') hprevious.1
  · exact iff_of_true rfl hfirst

end Date

end Monthwise
