import Monthwise.Proofs.Coverage.Dates
import Monthwise.Proofs.Period.MonthAlgebra

/-! # Computing with periods, date by date

What the relations between periods and the computations on them mean for sets of
dates. Two periods touch if they share no date and have one run of dates
together, they have a union if together they are one run, and what is left of a
period without another are the longest runs of the remaining dates.
-/

namespace Monthwise

namespace Period

variable {p q : Period} {month : Int}

theorem meet_iff : (p.dates ∩ q.dates).Nonempty ↔ p.first ≤ q.last ∧ q.first ≤ p.last := by
  constructor
  · rintro ⟨d, hp, hq⟩
    rw [mem_dates] at hp hq
    exact ⟨Int.le_trans hp.1 hq.2, Int.le_trans hq.1 hp.2⟩
  · intro hmeet
    -- the later of the two starts is in both
    rcases Int.le_total p.first q.first with hle | hle
    · refine ⟨q.start, ?_, q.start_mem_dates⟩
      rw [mem_dates, monthNumber_start]
      exact ⟨hle, hmeet.2⟩
    · refine ⟨p.start, p.start_mem_dates, ?_⟩
      rw [mem_dates, monthNumber_start]
      exact ⟨hle, hmeet.1⟩

theorem dates_hull (hpq : q.first ≤ p.last + 1) (hqp : p.first ≤ q.last + 1) :
    (p.hull q).dates = p.dates ∪ q.dates := by
  ext d
  simp [hasMonth_hull hpq hqp]

/-- Together two periods are one run of dates exactly if no month is left free between them. -/
theorem unbroken_union_iff :
    Unbroken (p.dates ∪ q.dates) ↔ q.first ≤ p.last + 1 ∧ p.first ≤ q.last + 1 := by
  constructor
  · intro hrun
    have hp := p.first_le_last
    have hq := q.first_le_last
    constructor
    · by_contra hfree
      obtain ⟨b, hb, hmonth⟩ := hrun.exists_monthNumber (.inl p.stop_mem_dates)
        (.inr q.start_mem_dates) (p.last + 1) (by rw [monthNumber_stop]; omega)
        (by rw [monthNumber_start]; omega)
      simp only [Set.mem_union, mem_dates, HasMonth] at hb
      omega
    · by_contra hfree
      obtain ⟨b, hb, hmonth⟩ := hrun.exists_monthNumber (.inr q.stop_mem_dates)
        (.inl p.start_mem_dates) (q.last + 1) (by rw [monthNumber_stop]; omega)
        (by rw [monthNumber_start]; omega)
      simp only [Set.mem_union, mem_dates, HasMonth] at hb
      omega
  · intro ⟨hpq, hqp⟩
    rw [← dates_hull hpq hqp]
    exact unbroken_dates _

theorem containsDate_iff_dates {d : Date} : p.containsDate d ↔ d ∈ p.dates := by
  simp only [containsDate, Bool.and_eq_true, decide_eq_true_eq]
  exact Iff.rfl

theorem contains_iff_dates : p.contains q ↔ q.dates ⊆ p.dates :=
  contains_iff.trans dates_subset_iff.symm

theorem overlaps_iff_dates : p.overlaps q ↔ (p.dates ∩ q.dates).Nonempty :=
  overlaps_iff.trans meet_iff.symm

theorem isAdjacentTo_iff_dates :
    p.isAdjacentTo q ↔ p.dates ∩ q.dates = ∅ ∧ Unbroken (p.dates ∪ q.dates) := by
  rw [← Set.not_nonempty_iff_eq_empty, ← overlaps_iff_dates, unbroken_union_iff]
  have hp := p.first_le_last
  have hq := q.first_le_last
  simp only [isAdjacentTo, overlaps, Bool.and_eq_true, Bool.or_eq_true, Bool.not_eq_true',
    Bool.and_eq_false_imp, decide_eq_true_eq, decide_eq_false_iff_not, beq_iff_eq]
  omega

theorem dates_intersect? {common : Period} (hcommon : p.intersect? q = some common) :
    common.dates = p.dates ∩ q.dates := by
  ext d
  simp [hasMonth_intersect? hcommon]

theorem intersect?_eq_none_iff : p.intersect? q = none ↔ p.dates ∩ q.dates = ∅ := by
  rw [← Set.not_nonempty_iff_eq_empty, meet_iff]
  have hp := p.first_le_last
  have hq := q.first_le_last
  simp only [intersect?, dite_eq_right_iff, reduceCtorEq, imp_false]
  omega

theorem intersect?_eq_some_iff {common : Period} :
    p.intersect? q = some common ↔ common.dates = p.dates ∩ q.dates := by
  constructor
  · exact dates_intersect?
  · intro hdates
    cases hcommon : p.intersect? q with
    | none =>
        have hempty := intersect?_eq_none_iff.mp hcommon
        rw [← hdates] at hempty
        exact absurd hempty common.unbroken_dates.nonempty.ne_empty
    | some r => rw [dates_injective ((dates_intersect? hcommon).trans hdates.symm)]

theorem merge_eq_ok_iff {union : Period} :
    p.merge q = .ok union ↔ union.dates = p.dates ∪ q.dates := by
  rw [merge_eq]
  split_ifs with hclose
  · have hhull := dates_hull hclose.1 hclose.2
    rw [Except.ok.injEq, ← hhull]
    exact ⟨fun h => h ▸ rfl, fun h => (dates_injective h).symm⟩
  · constructor
    · exact fun h => nomatch h
    · intro hdates
      have hrun := union.unbroken_dates
      rw [hdates, unbroken_union_iff] at hrun
      exact absurd hrun hclose

theorem merge_eq_error_iff {e : CannotMerge} :
    p.merge q = .error e ↔ ¬ Unbroken (p.dates ∪ q.dates) ∧ e = ⟨p, q⟩ := by
  rw [merge_eq, unbroken_union_iff]
  split_ifs with hclose
  · simp [hclose]
  · simp [hclose, eq_comm]

/-- A piece before the other period and a piece after it are kept apart by it. -/
theorem separated_subtract (p q : Period) : Coverage.Separated (p.subtract q) := by
  have hq := q.first_le_last
  unfold Coverage.Separated subtract partBefore? partAfter?
  split_ifs <;> simp
  omega

theorem coversMonth_subtract :
    Coverage.CoversMonth (p.subtract q) month ↔ p.HasMonth month ∧ ¬ q.HasMonth month := by
  have hp := p.first_le_last
  have hq := q.first_le_last
  unfold subtract partBefore? partAfter?
  split_ifs with hmeet hbefore hafter hafter <;>
    simp [Coverage.CoversMonth, HasMonth, overlaps] at hmeet ⊢ <;> omega

theorem areLongestRuns_subtract (p q : Period) :
    AreLongestRuns (p.dates \ q.dates) (p.subtract q) := by
  have hdates : Coverage.dates (p.subtract q) = p.dates \ q.dates := by
    ext d
    simp [coversMonth_subtract]
  rw [← hdates]
  exact (separated_subtract p q).areLongestRuns

/-- Of two periods one is over before the other begins, or they overlap. -/
theorem overlaps_eq_not : p.overlaps q = (!p.isBefore q && !p.isAfter q) := by
  rw [Bool.eq_iff_iff]
  simp [overlaps, isBefore, isAfter, and_comm]

theorem count_before_overlaps_after :
    [p.isBefore q, p.overlaps q, p.isAfter q].count true = 1 := by
  have hp := p.first_le_last
  have hq := q.first_le_last
  have hnotBoth : ¬ (p.isBefore q = true ∧ p.isAfter q = true) := by
    simp only [isBefore, isAfter, decide_eq_true_eq]
    omega
  rw [overlaps_eq_not]
  cases hbefore : p.isBefore q <;> cases hafter : p.isAfter q <;> simp_all

/-- The algebra of periods means what it says on sets of dates. -/
theorem algebra_iff_dates (p q : Period) :
    (∀ d, p.containsDate d ↔ d ∈ p.dates) ∧
    (p.contains q ↔ q.dates ⊆ p.dates) ∧
    (p.overlaps q ↔ (p.dates ∩ q.dates).Nonempty) ∧
    (p.isAdjacentTo q ↔ p.dates ∩ q.dates = ∅ ∧ Unbroken (p.dates ∪ q.dates)) ∧
    (∀ common, p.intersect? q = some common ↔ common.dates = p.dates ∩ q.dates) ∧
    (p.intersect? q = none ↔ p.dates ∩ q.dates = ∅) ∧
    (∀ union, p.merge q = .ok union ↔ union.dates = p.dates ∪ q.dates) ∧
    (∀ e, p.merge q = .error e ↔ ¬ Unbroken (p.dates ∪ q.dates) ∧ e = ⟨p, q⟩) ∧
    AreLongestRuns (p.dates \ q.dates) (p.subtract q) ∧
    [p.isBefore q, p.overlaps q, p.isAfter q].count true = 1 := by
  refine ⟨fun _ => containsDate_iff_dates, contains_iff_dates, overlaps_iff_dates,
    isAdjacentTo_iff_dates, fun _ => intersect?_eq_some_iff, intersect?_eq_none_iff,
    fun _ => merge_eq_ok_iff, fun _ => merge_eq_error_iff, areLongestRuns_subtract p q,
    count_before_overlaps_after⟩

end Period

end Monthwise
