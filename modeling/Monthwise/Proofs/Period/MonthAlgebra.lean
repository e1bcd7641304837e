import Mathlib.Tactic.SplitIfs
import Monthwise.Period.Algebra
import Monthwise.Proofs.Calendar.MonthGrid

/-! # Computing with periods, month by month

What the computations on periods do to single months: containment is inclusion
of months, the common part has the months of both, and the hull has no more than
the months of either unless a month was left free between them.
-/

namespace Monthwise.Period

variable {p q : Period} {month : Int}

@[simp]
theorem contains_iff : p.contains q ↔ p.first ≤ q.first ∧ q.last ≤ p.last := by
  simp [contains]

theorem contains_refl (p : Period) : p.contains p :=
  contains_iff.mpr ⟨Int.le_refl _, Int.le_refl _⟩

theorem contains_of_hasMonth (h : ∀ month, q.HasMonth month → p.HasMonth month) :
    p.contains q :=
  contains_iff.mpr ⟨(h q.first q.has_first).1, (h q.last q.has_last).2⟩

theorem overlaps_iff : p.overlaps q ↔ p.first ≤ q.last ∧ q.first ≤ p.last := by
  simp [overlaps]

theorem overlaps_iff_hasMonth :
    p.overlaps q ↔ ∃ month, p.HasMonth month ∧ q.HasMonth month := by
  have hp := p.first_le_last
  have hq := q.first_le_last
  simp only [overlaps_iff, HasMonth]
  constructor
  · intro hmeet
    exact ⟨max p.first q.first, by omega⟩
  · rintro ⟨month, hboth⟩
    omega

theorem hasMonth_intersect? {common : Period} (hcommon : p.intersect? q = some common) :
    common.HasMonth month ↔ p.HasMonth month ∧ q.HasMonth month := by
  unfold intersect? at hcommon
  split_ifs at hcommon with hmeet
  obtain rfl := Option.some.inj hcommon
  simp only [HasMonth]
  omega

theorem not_hasMonth_of_intersect? (hnone : p.intersect? q = none) (hq : q.HasMonth month) :
    ¬ p.HasMonth month := by
  unfold intersect? at hnone
  split_ifs at hnone with hmeet
  simp only [HasMonth] at hq ⊢
  omega

/-- Cutting to a period and then to one inside it is the same as cutting to the inner one. -/
theorem intersect?_bind_intersect? (part : Period) (hinside : p.contains q) :
    (part.intersect? p).bind (·.intersect? q) = part.intersect? q := by
  rw [contains_iff] at hinside
  unfold intersect?
  split_ifs with hp hq hq
  · rw [Option.bind_some, dif_pos (by simp only; omega)]
    congr 1
    apply Period.ext <;> simp only <;> omega
  · rw [Option.bind_some, dif_neg (by simp only; omega)]
  · omega
  · rfl

/-- Periods have a union exactly if they leave no free month between them. -/
theorem merge_eq (p q : Period) :
    p.merge q = if q.first ≤ p.last + 1 ∧ p.first ≤ q.last + 1 then .ok (p.hull q)
      else .error ⟨p, q⟩ := by
  have hp := p.first_le_last
  have hq := q.first_le_last
  unfold merge
  congr 1
  simp only [overlaps, isAdjacentTo, Bool.or_eq_true, Bool.and_eq_true, Bool.not_eq_true',
    Bool.and_eq_false_imp, decide_eq_true_eq, decide_eq_false_iff_not, beq_iff_eq, eq_iff_iff]
  omega

theorem hasMonth_hull (hpq : q.first ≤ p.last + 1) (hqp : p.first ≤ q.last + 1) :
    (p.hull q).HasMonth month ↔ p.HasMonth month ∨ q.HasMonth month := by
  have hp := p.first_le_last
  have hq := q.first_le_last
  simp only [hull, HasMonth]
  omega

end Monthwise.Period
