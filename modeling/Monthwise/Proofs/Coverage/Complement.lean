import Mathlib
import Monthwise.Proofs.Coverage.Counting

/-! # Gaps as a complement

Inside a window the gaps of a list are what the list leaves out: every date of the
window lies either in a gap or in the part of some member that reaches into the
window. The gaps of the gaps are therefore these parts again, in reduced form, and a
list is the target and nothing else exactly if it leaves no gap in the target and
stays inside it.
-/

namespace Monthwise.Coverage

variable {window target : Period} {ps : List Period} {month : Int}

/-- What the members have in common with a window, member by member. -/
def commonParts (window : Period) (ps : List Period) : List Period :=
  ps.filterMap (·.intersect? window)

theorem coversMonth_commonParts : CoversMonth (commonParts window ps) month ↔
    window.HasMonth month ∧ CoversMonth ps month := by
  constructor
  · rintro ⟨part, hpart, hm⟩
    obtain ⟨p, hp, hcommon⟩ := List.mem_filterMap.mp hpart
    have hboth := (Period.hasMonth_intersect? hcommon).mp hm
    exact ⟨hboth.2, p, hp, hboth.1⟩
  · rintro ⟨hwindow, p, hp, hm⟩
    cases hcommon : p.intersect? window with
    | none => exact absurd hm (Period.not_hasMonth_of_intersect? hcommon hwindow)
    | some part =>
        have hpart : part ∈ commonParts window ps := List.mem_filterMap.mpr ⟨p, hp, hcommon⟩
        exact ⟨part, hpart, (Period.hasMonth_intersect? hcommon).mpr ⟨hm, hwindow⟩⟩

theorem separated_gaps (window : Period) (ps : List Period) : Separated (gaps window ps) := by
  rw [gaps_eq_remainder]
  exact separated_remainder window ps

/-- Only what lies inside the window counts for its gaps. -/
theorem gaps_reduce_commonParts (window : Period) (ps : List Period) :
    gaps window (reduce (commonParts window ps)) = gaps window ps := by
  apply gaps_congr
  intro m hm
  rw [coversMonth_reduce, coversMonth_commonParts]
  exact and_iff_right hm

theorem gaps_gaps (window : Period) (ps : List Period) :
    gaps window (gaps window ps) = reduce (commonParts window ps) := by
  apply (separated_gaps window _).eq_of_coversMonth_iff (separated_reduce _)
  intro m
  rw [coversMonth_gaps, coversMonth_gaps, coversMonth_reduce, coversMonth_commonParts]
  by_cases hm : window.HasMonth m <;> simp [hm]

theorem mem_window_iff {d : Date} :
    d ∈ window ↔ Xor (Covers (gaps window ps) d) (Covers (commonParts window ps) d) := by
  rw [Period.mem_iff_hasMonth, covers_iff_coversMonth, covers_iff_coversMonth, coversMonth_gaps,
    coversMonth_commonParts]
  by_cases hcovered : CoversMonth ps d.monthNumber <;> simp [Xor, hcovered]

theorem monthTotal_gaps_add_commonParts (window : Period) (ps : List Period) :
    monthTotal (gaps window ps) + monthTotal (reduce (commonParts window ps)) =
      window.monthCount := by
  rw [← gaps_reduce_commonParts]
  apply monthTotal_gaps_add (separated_reduce _).inOrder
  intro m hm
  rw [coversMonth_reduce, coversMonth_commonParts] at hm
  exact hm.1

/-- Gaps are the exact complement inside the window. The gaps of the gaps are the members' parts
inside the window, reduced. Every date of the window, and no other, lies in one of the two and not
in the other: in the gaps, or in some member's part. So the months of the gaps and those of the
reduced parts add up to the months of the window. -/
theorem gaps_complement (window : Period) (ps : List Period) :
    gaps window (gaps window ps) = reduce (commonParts window ps) ∧
    (∀ d, d ∈ window ↔ Xor (Covers (gaps window ps) d) (Covers (commonParts window ps) d)) ∧
    window.monthCount =
      monthTotal (gaps window ps) + monthTotal (reduce (commonParts window ps)) :=
  ⟨gaps_gaps window ps, fun _ => mem_window_iff, (monthTotal_gaps_add_commonParts window ps).symm⟩

section Target

theorem fullyCoveredBy_iff_coversMonth :
    fullyCoveredBy target ps ↔ ∀ m, CoversMonth ps m ↔ target.HasMonth m := by
  have hone : reduce [target] = [target] := Separated.reduce_eq (List.pairwise_singleton _ target)
  rw [fullyCoveredBy, decide_eq_true_eq, ← hone, reduce_eq_reduce_iff]
  simp [CoversMonth]

theorem containsAll_iff_coversMonth :
    target.containsAll ps ↔ ∀ m, CoversMonth ps m → target.HasMonth m := by
  rw [Period.containsAll, List.all_eq_true]
  constructor
  · rintro hinside m ⟨p, hp, hm⟩
    have hp' := Period.contains_iff.mp (hinside p hp)
    exact ⟨Int.le_trans hp'.1 hm.1, Int.le_trans hm.2 hp'.2⟩
  · intro hinside p hp
    exact Period.contains_of_hasMonth fun m hm => hinside m ⟨p, hp, hm⟩

theorem fullyCoveredBy_iff_gaps :
    fullyCoveredBy target ps ↔ gaps target ps = [] ∧ target.containsAll ps := by
  rw [fullyCoveredBy_iff_coversMonth, gaps_eq_nil_iff, containsAll_iff_coversMonth, and_comm,
    ← forall_and]
  simp only [iff_iff_implies_and_implies]

theorem fullyCoveredBy_iff_covers :
    fullyCoveredBy target ps ↔ ∀ d, Covers ps d ↔ d ∈ target := by
  have hone (d : Date) : d ∈ target ↔ Covers [target] d := by simp [Covers]
  simp only [hone]
  rw [forall_covers_iff, fullyCoveredBy_iff_coversMonth]
  simp [CoversMonth]

theorem gaps_eq_nil_iff_covers : gaps target ps = [] ↔ ∀ d ∈ target, Covers ps d := by
  constructor
  · intro hnil d hd
    rw [covers_iff_coversMonth]
    exact gaps_eq_nil_iff.mp hnil _ (Period.mem_iff_hasMonth.mp hd)
  · intro hcovers
    rw [gaps_eq_nil_iff]
    intro m hm
    have hday := hcovers (Calendar.firstDay m hm.inCalendar)
    rw [Period.mem_iff_hasMonth, covers_iff_coversMonth, Date.monthNumber_firstDay] at hday
    exact hday hm

theorem not_containsAll_iff_dates :
    ¬ target.containsAll ps ↔ ∃ p ∈ ps, ∃ d ∈ p, d ∉ target := by
  have hinside (p : Period) : target.contains p ↔ ∀ d ∈ p, d ∈ target :=
    Period.contains_iff_dates
  simp only [Period.containsAll, List.all_eq_true, hinside, not_forall, exists_prop]

end Target

end Monthwise.Coverage
