import Mathlib.Data.List.Forall2
import Monthwise.Period.Months
import Monthwise.Proofs.Period.MonthAlgebra

/-! # Moving periods through time

A period is moved by moving its two months. Months and years of other lengths come to lie
under it, but what is computed from periods depends on the month grid alone: it moves
along with them, and questions about them get the answers that they had.
-/

namespace Monthwise.Period

/-- The second period is the first one, moved by so many months. -/
def Moved (months : Int) (p p' : Period) : Prop := p.shift? months = some p'

instance (months : Int) (p p' : Period) : Decidable (Moved months p p') := by
  unfold Moved; infer_instance

/-- Two periods have a union and it moves along, or the union is refused, of the periods where
they are. -/
inductive UnionMoved (months : Int) :
    Except CannotMerge Period → Except CannotMerge Period → Prop
  | made {p p' : Period} : Moved months p p' → UnionMoved months (.ok p) (.ok p')
  | refused {e e' : CannotMerge} : Moved months e.left e'.left → Moved months e.right e'.right →
      UnionMoved months (.error e) (.error e')

variable {months month : Int} {p p' q q' : Period}

theorem moved_iff :
    Moved months p p' ↔ p'.first = p.first + months ∧ p'.last = p.last + months :=
  ofMonths?_eq_some_iff

theorem exists_moved (hfirst : Calendar.firstMonth ≤ p.first + months)
    (hlast : p.last + months ≤ Calendar.lastMonth) : ∃ p', Moved months p p' := by
  have hle := p.first_le_last
  exact ⟨⟨p.first + months, p.last + months, hfirst, by omega, hlast⟩, moved_iff.mpr ⟨rfl, rfl⟩⟩

theorem exists_moved_iff : (∃ p', Moved months p p') ↔
    Calendar.HasMonth (p.first + months) ∧ Calendar.HasMonth (p.last + months) := by
  constructor
  · rintro ⟨p', hmoved⟩
    obtain ⟨hfirst, hlast⟩ := moved_iff.mp hmoved
    exact ⟨hfirst ▸ p'.hasMonth_first, hlast ▸ p'.hasMonth_last⟩
  · rintro ⟨hfirst, hlast⟩
    exact exists_moved hfirst.1 hlast.2

theorem shift?_zero (p : Period) : p.shift? 0 = some p := by
  rw [shift?, Int.add_zero, Int.add_zero, ofMonths?_first_last]

namespace Moved

theorem hasMonth_iff (hp : Moved months p p') :
    p'.HasMonth (month + months) ↔ p.HasMonth month := by
  obtain ⟨hfirst, hlast⟩ := moved_iff.mp hp
  unfold HasMonth
  omega

theorem monthCount_eq (hp : Moved months p p') : p'.monthCount = p.monthCount := by
  obtain ⟨hfirst, hlast⟩ := moved_iff.mp hp
  unfold monthCount
  omega

/-- Two shifts are one, if the first of them stays inside the calendar. -/
theorem shift?_eq (hp : Moved months p p') (further : Int) :
    p'.shift? further = p.shift? (months + further) := by
  obtain ⟨hfirst, hlast⟩ := moved_iff.mp hp
  rw [shift?, shift?, hfirst, hlast, Int.add_assoc, Int.add_assoc]

theorem back (hp : Moved months p p') : p'.shift? (-months) = some p := by
  rw [hp.shift?_eq, Int.add_right_neg, shift?_zero]

variable (hp : Moved months p p') (hq : Moved months q q')
include hp hq

theorem eq_iff : p = q ↔ p' = q' := by
  obtain ⟨hpfirst, hplast⟩ := moved_iff.mp hp
  obtain ⟨hqfirst, hqlast⟩ := moved_iff.mp hq
  constructor
  · rintro rfl
    apply ext <;> omega
  · rintro rfl
    apply ext <;> omega

theorem le_iff : p ≤ q ↔ p' ≤ q' := by
  obtain ⟨hpfirst, hplast⟩ := moved_iff.mp hp
  obtain ⟨hqfirst, hqlast⟩ := moved_iff.mp hq
  rw [le_def, le_def]
  omega

theorem contains_eq : p'.contains q' = p.contains q := by
  obtain ⟨hpfirst, hplast⟩ := moved_iff.mp hp
  obtain ⟨hqfirst, hqlast⟩ := moved_iff.mp hq
  rw [Bool.eq_iff_iff, contains_iff, contains_iff]
  omega

theorem overlaps_eq : p'.overlaps q' = p.overlaps q := by
  obtain ⟨hpfirst, hplast⟩ := moved_iff.mp hp
  obtain ⟨hqfirst, hqlast⟩ := moved_iff.mp hq
  rw [Bool.eq_iff_iff, overlaps_iff, overlaps_iff]
  omega

theorem isAdjacentTo_eq : p'.isAdjacentTo q' = p.isAdjacentTo q := by
  obtain ⟨hpfirst, hplast⟩ := moved_iff.mp hp
  obtain ⟨hqfirst, hqlast⟩ := moved_iff.mp hq
  unfold isAdjacentTo
  rw [overlaps_eq hp hq]
  congr 1
  rw [Bool.eq_iff_iff]
  simp only [Bool.or_eq_true, beq_iff_eq]
  omega

theorem intersect? : Option.Rel (Moved months) (p.intersect? q) (p'.intersect? q') := by
  obtain ⟨hpfirst, hplast⟩ := moved_iff.mp hp
  obtain ⟨hqfirst, hqlast⟩ := moved_iff.mp hq
  unfold Period.intersect?
  by_cases hmeet : max p.first q.first ≤ min p.last q.last
  · rw [dif_pos hmeet, dif_pos (by omega)]
    apply Option.Rel.some
    rw [moved_iff]
    simp only
    omega
  · rw [dif_neg hmeet, dif_neg (by omega)]
    exact .none

theorem hull : Moved months (p.hull q) (p'.hull q') := by
  obtain ⟨hpfirst, hplast⟩ := moved_iff.mp hp
  obtain ⟨hqfirst, hqlast⟩ := moved_iff.mp hq
  rw [moved_iff]
  simp only [Period.hull]
  omega

theorem merge : UnionMoved months (p.merge q) (p'.merge q') := by
  unfold Period.merge
  rw [overlaps_eq hp hq, isAdjacentTo_eq hp hq]
  split_ifs
  · exact .made (hull hp hq)
  · exact .refused hp hq

end Moved

/-- The months of a moved period are its months, moved one by one. -/
theorem Moved.toMonths (hp : Moved months p p') :
    List.Forall₂ (Moved months) p.toMonths p'.toMonths := by
  obtain ⟨hfirst, hlast⟩ := moved_iff.mp hp
  have hsize : p'.months.size = p.months.size := by
    simp only [Period.months, MonthQueue.size]
    omega
  rw [List.forall₂_iff_get]
  refine ⟨by simp [Period.toMonths, hsize], fun i _ _ => ?_⟩
  rw [moved_iff]
  simp only [Period.toMonths, MonthQueue.toList, List.get_eq_getElem, List.getElem_ofFn,
    MonthQueue.get, Period.months]
  omega

end Monthwise.Period
