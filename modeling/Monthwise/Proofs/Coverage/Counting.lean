import Mathlib
import Monthwise.Proofs.Coverage.Remainder

/-! # Counting months

A list of periods covers finitely many months. Counted member by member they come
to the same number as long as no month is counted twice, so a list in calendar
order and its gaps in a window make up the months of the window.
-/

namespace Monthwise

namespace Period

/-- The numbers of the months of a period, in order. -/
def monthNumbers (p : Period) : List Int := (List.range p.monthCount).map fun i : Nat => p.first + i

@[simp]
theorem length_monthNumbers (p : Period) : p.monthNumbers.length = p.monthCount := by
  simp [monthNumbers]

@[simp]
theorem mem_monthNumbers {p : Period} {month : Int} :
    month ∈ p.monthNumbers ↔ p.HasMonth month := by
  simp only [monthNumbers, List.mem_map, List.mem_range, monthCount, HasMonth]
  constructor
  · rintro ⟨i, hi, rfl⟩
    omega
  · rintro ⟨hfirst, hlast⟩
    exact ⟨(month - p.first).toNat, by omega, by omega⟩

theorem nodup_monthNumbers (p : Period) : p.monthNumbers.Nodup :=
  List.nodup_range.map fun _ _ h => Int.ofNat.inj (Int.add_left_cancel h)

end Period

namespace Coverage

/-- The numbers of the members' months, member by member. -/
def monthNumbers (ps : List Period) : List Int := ps.flatMap (·.monthNumbers)

/-- The months of the members, counted for each of them. -/
def monthTotal (ps : List Period) : Nat := (ps.map (·.monthCount)).sum

variable {window : Period} {ps qs : List Period} {month : Int}

@[simp]
theorem length_monthNumbers (ps : List Period) : (monthNumbers ps).length = monthTotal ps := by
  simp [monthNumbers, monthTotal, List.length_flatMap]

@[simp]
theorem mem_monthNumbers : month ∈ monthNumbers ps ↔ CoversMonth ps month := by
  simp [monthNumbers, CoversMonth]

/-- In calendar order no month is counted twice. -/
theorem nodup_monthNumbers (horder : InOrder ps) : (monthNumbers ps).Nodup := by
  refine List.nodup_flatMap.mpr ⟨fun p _ => p.nodup_monthNumbers, horder.imp ?_⟩
  intro p q hlt m hp hq
  have hlast := (Period.mem_monthNumbers.mp hp).2
  have hfirst := (Period.mem_monthNumbers.mp hq).1
  omega

theorem monthTotal_eq_length (horder : InOrder ps) {months : List Int} (hnodup : months.Nodup)
    (hmem : ∀ m, m ∈ months ↔ CoversMonth ps m) : months.length = monthTotal ps := by
  rw [← length_monthNumbers]
  apply List.Perm.length_eq
  rw [List.perm_ext_iff_of_nodup hnodup (nodup_monthNumbers horder)]
  intro m
  rw [hmem, mem_monthNumbers]

theorem coversMonth_gaps :
    CoversMonth (gaps window ps) month ↔ window.HasMonth month ∧ ¬ CoversMonth ps month := by
  rw [gaps_eq_remainder, coversMonth_remainder]

theorem inOrder_gaps (window : Period) (ps : List Period) : InOrder (gaps window ps) := by
  rw [gaps_eq_remainder]
  exact (separated_remainder window ps).inOrder

theorem gaps_congr
    (hsame : ∀ m, window.HasMonth m → (CoversMonth ps m ↔ CoversMonth qs m)) :
    gaps window ps = gaps window qs := by
  rw [gaps_eq_remainder, gaps_eq_remainder]
  apply (separated_remainder window ps).eq_of_coversMonth_iff (separated_remainder window qs)
  intro m
  rw [coversMonth_remainder, coversMonth_remainder]
  exact and_congr_right fun hm => not_congr (hsame m hm)

theorem eq_nil_iff : ps = [] ↔ ∀ m, ¬ CoversMonth ps m := by
  constructor
  · rintro rfl m ⟨p, hp, -⟩
    cases hp
  · intro hfree
    cases ps with
    | nil => rfl
    | cons p rest => exact absurd ⟨p, List.mem_cons_self, p.has_first⟩ (hfree p.first)

theorem gaps_eq_nil_iff :
    gaps window ps = [] ↔ ∀ m, window.HasMonth m → CoversMonth ps m := by
  simp only [eq_nil_iff, coversMonth_gaps, not_and, not_not]

/-- What lies inside a window, in calendar order, and its gaps there are the months of the window,
each counted once. -/
theorem monthTotal_gaps_add (horder : InOrder ps)
    (hinside : ∀ m, CoversMonth ps m → window.HasMonth m) :
    monthTotal (gaps window ps) + monthTotal ps = window.monthCount := by
  have hgaps := nodup_monthNumbers (inOrder_gaps window ps)
  have hnodup : (monthNumbers (gaps window ps) ++ monthNumbers ps).Nodup := by
    refine hgaps.append (nodup_monthNumbers horder) ?_
    intro m hgap hcovered
    rw [mem_monthNumbers, coversMonth_gaps] at hgap
    exact hgap.2 (mem_monthNumbers.mp hcovered)
  have hperm : (monthNumbers (gaps window ps) ++ monthNumbers ps).Perm window.monthNumbers := by
    rw [List.perm_ext_iff_of_nodup hnodup window.nodup_monthNumbers]
    intro m
    rw [List.mem_append, mem_monthNumbers, mem_monthNumbers, coversMonth_gaps,
      Period.mem_monthNumbers]
    by_cases hcovered : CoversMonth ps m
    · exact iff_of_true (.inr hcovered) (hinside m hcovered)
    · simp [hcovered]
  simpa using hperm.length_eq

end Coverage

end Monthwise
