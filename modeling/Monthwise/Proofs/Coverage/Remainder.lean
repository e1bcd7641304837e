import Monthwise.Proofs.Coverage.Reduction
import Monthwise.Proofs.Period.DateAlgebra

/-! # Remainders

Removals are taken away from a period one after the other. At every moment the
pieces that are left are separated, so that they are always the longest runs of
the dates left so far. The order of the removals, and how they are cut up, is
thereby of no consequence.
-/

namespace Monthwise.Coverage

variable {base p q : Period} {pieces ps removals others : List Period} {month : Int}

/-- The pieces without the dates of one removal. -/
def without (pieces : List Period) (removal : Period) : List Period :=
  pieces.flatMap (·.subtract removal)

theorem remainder_eq_foldl (base : Period) (removals : List Period) :
    remainder base removals = removals.foldl without [base] := rfl

section Step

theorem inside_of_mem_subtract {piece : Period} (hpiece : piece ∈ p.subtract q) :
    p.first ≤ piece.first ∧ piece.last ≤ p.last := by
  have hfirst := Period.coversMonth_subtract.mp ⟨piece, hpiece, piece.has_first⟩
  have hlast := Period.coversMonth_subtract.mp ⟨piece, hpiece, piece.has_last⟩
  exact ⟨hfirst.1.1, hlast.1.2⟩

theorem coversMonth_without :
    CoversMonth (without pieces q) month ↔ CoversMonth pieces month ∧ ¬ q.HasMonth month := by
  induction pieces with
  | nil => simp [without, CoversMonth]
  | cons p rest ih =>
      have hstep : CoversMonth (without (p :: rest) q) month ↔
          CoversMonth (p.subtract q) month ∨ CoversMonth (without rest q) month := by
        simp only [without, List.flatMap_cons, CoversMonth, List.mem_append, or_and_right,
          exists_or]
      rw [hstep, ih, Period.coversMonth_subtract, coversMonth_cons, or_and_right]

/-- Pieces of separate pieces are separate. -/
theorem Separated.without (hsep : Separated pieces) (q : Period) :
    Separated (without pieces q) := by
  refine List.pairwise_flatMap.mpr ⟨fun p _ => Period.separated_subtract p q, ?_⟩
  refine List.Pairwise.imp ?_ hsep
  intro p r hfree left hleft right hright
  have hend := (inside_of_mem_subtract hleft).2
  have hbegin := (inside_of_mem_subtract hright).1
  omega

end Step

section Run

theorem coversMonth_foldl_without : CoversMonth (removals.foldl without pieces) month ↔
    CoversMonth pieces month ∧ ¬ CoversMonth removals month := by
  induction removals generalizing pieces with
  | nil => simp [CoversMonth]
  | cons q rest ih =>
      rw [List.foldl_cons, ih, coversMonth_without, coversMonth_cons, not_or, and_assoc]

theorem Separated.foldl_without (hsep : Separated pieces) (removals : List Period) :
    Separated (removals.foldl Coverage.without pieces) := by
  induction removals generalizing pieces with
  | nil => exact hsep
  | cons q rest ih => exact ih (hsep.without q)

/-- What is done to the pieces together is done to each of them. -/
theorem foldl_without_eq_flatMap (pieces removals : List Period) :
    removals.foldl without pieces = pieces.flatMap (remainder · removals) := by
  induction removals generalizing pieces with
  | nil => simp [remainder]
  | cons q rest ih =>
      have hone (p : Period) :
          remainder p (q :: rest) = (p.subtract q).flatMap (remainder · rest) := by
        rw [remainder_eq_foldl, List.foldl_cons, ih, without, List.flatMap_singleton]
      simp only [List.foldl_cons, ih, without, List.flatMap_assoc, hone]

end Run

theorem separated_remainder (base : Period) (removals : List Period) :
    Separated (remainder base removals) :=
  Separated.foldl_without (List.pairwise_singleton _ base) removals

theorem coversMonth_remainder : CoversMonth (remainder base removals) month ↔
    base.HasMonth month ∧ ¬ CoversMonth removals month := by
  rw [remainder_eq_foldl, coversMonth_foldl_without]
  simp [CoversMonth]

theorem areLongestRuns_remainder (base : Period) (removals : List Period) :
    AreLongestRuns (base.dates \ dates removals) (remainder base removals) := by
  have hdates : dates (remainder base removals) = base.dates \ dates removals := by
    ext d
    simp [coversMonth_remainder]
  rw [← hdates]
  exact (separated_remainder base removals).areLongestRuns

theorem Separated.reduce_eq (hsep : Separated ps) : reduce ps = ps :=
  (separated_reduce ps).eq_of_coversMonth_iff hsep fun _ => coversMonth_reduce

theorem gaps_eq_remainder (base : Period) (removals : List Period) :
    gaps base removals = remainder base removals := by
  rw [gaps, subtractAll, List.flatMap_singleton, (separated_remainder base removals).reduce_eq]

theorem remainder_congr (hsame : ∀ d, Covers removals d ↔ Covers others d) (base : Period) :
    remainder base removals = remainder base others := by
  apply (separated_remainder base removals).eq_of_coversMonth_iff (separated_remainder base others)
  intro month
  rw [coversMonth_remainder, coversMonth_remainder, forall_covers_iff.mp hsame month]

/-- Taking removals away in two goes is taking all of them away at once. -/
theorem flatMap_remainder (base : Period) (removals others : List Period) :
    (remainder base removals).flatMap (remainder · others) =
      remainder base (removals ++ others) := by
  rw [remainder_eq_foldl base (removals ++ others), List.foldl_append,
    foldl_without_eq_flatMap _ others]
  rfl

/-- The remainders of the bases stand in the order of the bases. Each is the list of its gaps: the
longest runs of the base's dates that no removal covers, which reduction leaves as they are. So
removals count only by the dates that they cover, and it makes no difference whether they are taken
away together or some of them later. -/
theorem subtractAll_exact (bases removals : List Period) :
    subtractAll bases removals = bases.flatMap (gaps · removals) ∧
    (∀ base, AreLongestRuns (base.dates \ dates removals) (gaps base removals) ∧
      reduce (gaps base removals) = gaps base removals) ∧
    (∀ others, (∀ d, Covers removals d ↔ Covers others d) →
      subtractAll bases removals = subtractAll bases others) ∧
    (∀ others, subtractAll (subtractAll bases removals) others =
      subtractAll bases (removals ++ others)) := by
  refine ⟨?_, ?_, ?_, ?_⟩
  · simp only [subtractAll, gaps_eq_remainder]
  · intro base
    rw [gaps_eq_remainder]
    exact ⟨areLongestRuns_remainder base removals, (separated_remainder base removals).reduce_eq⟩
  · intro others hsame
    simp only [subtractAll, remainder_congr hsame]
  · intro others
    simp only [subtractAll, List.flatMap_assoc, flatMap_remainder]

end Monthwise.Coverage
