import Mathlib
import Monthwise.Proofs.ByDays.Coverage
import Monthwise.Proofs.Coverage.Counting

/-! # Members that overlap

Sorted by start, the members of a list are gone through once, with no more in hand
than the latest end so far. An overlap is found whenever any two members share a date,
however far apart they stand in the list. Counting the months finds it too: the reduced
form has as many as the members together exactly if none of them is counted twice.
-/

namespace Monthwise

theorem Period.overlaps_comm (p q : Period) : p.overlaps q = q.overlaps p :=
  Bool.and_comm _ _

namespace Coverage

variable {latest : Int} {p q : Period} {ps : List Period}

section Sweep

theorem inOrder_cons_iff :
    InOrder (p :: ps) ↔ (∀ q ∈ ps, p.last < q.first) ∧ InOrder ps :=
  List.pairwise_cons

/-- What the sweep lets pass begins after everything before it. -/
theorem startsBy_eq_false_iff :
    startsBy latest ps = false ↔ (∀ p ∈ ps, latest < p.first) ∧ InOrder ps := by
  induction ps generalizing latest with
  | nil => simp [startsBy, InOrder]
  | cons p rest ih =>
      have hp := p.first_le_last
      rw [startsBy, Bool.or_eq_false_iff, decide_eq_false_iff_not, ih, inOrder_cons_iff,
        List.forall_mem_cons]
      simp only [Int.max_lt, forall_and]
      constructor
      · rintro ⟨hlate, ⟨hbefore, hafter⟩, horder⟩
        exact ⟨⟨by omega, hbefore⟩, hafter, horder⟩
      · rintro ⟨⟨hlate, hbefore⟩, hafter, horder⟩
        exact ⟨by omega, ⟨hbefore, hafter⟩, horder⟩

theorem hasOverlapping_eq_false_iff : hasOverlapping ps = false ↔ InOrder (sort ps) := by
  unfold hasOverlapping
  cases sort ps with
  | nil => simp [InOrder]
  | cons p rest => rw [startsBy_eq_false_iff, inOrder_cons_iff]

/-- Members that do not overlap are put into calendar order by sorting. -/
theorem inOrder_sort_iff : InOrder (sort ps) ↔ ps.Pairwise fun p q => ¬ p.overlaps q := by
  have hapart (p q : Period) : ¬ p.overlaps q ↔ p.last < q.first ∨ q.last < p.first := by
    rw [Period.overlaps_iff]
    omega
  have hsort : InOrder (sort ps) ↔
      ps.Pairwise fun p q => p.last < q.first ∨ q.last < p.first := by
    simpa only [InOrder, Int.add_zero] using pairwise_sort_iff (Int.le_refl 0)
  simp only [hsort, hapart]

end Sweep

section Count

theorem disjoint_monthNumbers_iff :
    p.monthNumbers.Disjoint q.monthNumbers ↔ ¬ p.overlaps q := by
  rw [Period.overlaps_iff_hasMonth, not_exists]
  simp only [List.Disjoint, Period.mem_monthNumbers, not_and]

/-- No month is counted twice exactly if no two members overlap. -/
theorem nodup_monthNumbers_iff :
    (monthNumbers ps).Nodup ↔ ps.Pairwise fun p q => ¬ p.overlaps q := by
  rw [monthNumbers, List.nodup_flatMap, and_iff_right fun p _ => p.nodup_monthNumbers]
  exact List.Pairwise.iff fun {_ _} => disjoint_monthNumbers_iff

theorem monthTotal_reduce (ps : List Period) :
    monthTotal (reduce ps) = (monthNumbers ps).dedup.length := by
  refine (monthTotal_eq_length (separated_reduce ps).inOrder (List.nodup_dedup _) fun m => ?_).symm
  rw [List.mem_dedup, mem_monthNumbers, coversMonth_reduce]

/-- Reducing loses the months that are counted twice. -/
theorem monthTotal_reduce_lt_iff :
    monthTotal (reduce ps) < monthTotal ps ↔ ¬ (monthNumbers ps).Nodup := by
  have hsub := List.dedup_sublist (monthNumbers ps)
  rw [monthTotal_reduce, ← length_monthNumbers, ← List.dedup_eq_self]
  constructor
  · intro hlt heq
    rw [heq] at hlt
    exact Nat.lt_irrefl _ hlt
  · intro hne
    exact Nat.lt_of_le_of_ne hsub.length_le fun hlength => hne (hsub.eq_of_length hlength)

end Count

theorem hasOverlapping_iff_pairwise :
    hasOverlapping ps ↔ ¬ ps.Pairwise fun p q => ¬ p.overlaps q := by
  rw [← inOrder_sort_iff, ← hasOverlapping_eq_false_iff, Bool.not_eq_false]

theorem exists_overlaps_iff : (¬ ps.Pairwise fun p q => ¬ p.overlaps q) ↔
    ∃ i j : Fin ps.length, i ≠ j ∧ ∃ d, d ∈ ps[i] ∧ d ∈ ps[j] := by
  have hdate (p q : Period) : p.overlaps q ↔ ∃ d, d ∈ p ∧ d ∈ q := Period.overlaps_iff_dates
  simp only [List.pairwise_iff_get, ← hdate, not_forall, not_not]
  constructor
  · rintro ⟨i, j, hlt, hmeet⟩
    exact ⟨i, j, Fin.ne_of_lt hlt, hmeet⟩
  · rintro ⟨i, j, hne, hmeet⟩
    rcases Fin.lt_or_lt_of_ne hne with hlt | hlt
    · exact ⟨i, j, hlt, hmeet⟩
    · exact ⟨j, i, hlt, by rwa [Period.overlaps_comm]⟩

/-- The sweep, which compares days or month numbers alike, finds an overlap exactly if two members
at different positions share a date, be they equal or not. That is the case exactly if the months of
the members, counted for each of them, are more than the months of the reduced form. -/
theorem hasOverlapping_exact (ps : List Period) :
    ByDays.hasOverlapping ps = hasOverlapping ps ∧
    (hasOverlapping ps ↔ ∃ i j : Fin ps.length, i ≠ j ∧ ∃ d, d ∈ ps[i] ∧ d ∈ ps[j]) ∧
    (hasOverlapping ps ↔ monthTotal (reduce ps) < monthTotal ps) := by
  refine ⟨ByDays.hasOverlapping_eq ps, ?_, ?_⟩
  · exact hasOverlapping_iff_pairwise.trans exists_overlaps_iff
  · rw [hasOverlapping_iff_pairwise, monthTotal_reduce_lt_iff, nodup_monthNumbers_iff]

end Coverage

end Monthwise
