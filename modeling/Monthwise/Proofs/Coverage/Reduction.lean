import Monthwise.Period.Months
import Monthwise.Proofs.Coverage.Months
import Monthwise.Proofs.Period.MonthAlgebra

/-! # The reduced form of a list

Reducing sorts a list by start and joins what overlaps or touches. The result
covers the same days, keeps a free month between neighbours, and is thereby the
only such list: reduced lists are equal exactly when they cover the same days,
and no list that covers these days is shorter.
-/

namespace Monthwise.Coverage

variable {p : Period} {ps qs rest : List Period} {month : Int}

/-- The members begin in calendar order. -/
def ByStart (ps : List Period) : Prop := ps.Pairwise fun p q => p.first ≤ q.first

theorem sort_perm (ps : List Period) : (sort ps).Perm ps := List.mergeSort_perm ps _

theorem byStart_sort (ps : List Period) : ByStart (sort ps) := by
  have hsorted : (sort ps).Pairwise fun p q => decide (p ≤ q) = true := by
    apply List.pairwise_mergeSort
    · intro a b c hab hbc
      simp only [decide_eq_true_eq, Period.le_def] at hab hbc ⊢
      omega
    · intro a b
      simp only [Bool.or_eq_true, decide_eq_true_eq, Period.le_def]
      omega
  refine hsorted.imp fun {p q} hle => ?_
  rw [decide_eq_true_eq, Period.le_def] at hle
  omega

/-- Members with at least so many free months between any two have them in calendar order when they
are sorted. -/
theorem pairwise_sort_iff {free : Int} (hfree : 0 ≤ free) :
    (sort ps).Pairwise (fun p q => p.last + free < q.first) ↔
      ps.Pairwise fun p q => p.last + free < q.first ∨ q.last + free < p.first := by
  rw [← (sort_perm ps).pairwise_iff fun {_ _} => Or.symm]
  constructor
  · exact List.Pairwise.imp .inl
  · intro hapart
    refine (hapart.and (byStart_sort ps)).imp fun {p q} hboth => ?_
    obtain ⟨hpq, hstart⟩ := hboth
    have hq := q.first_le_last
    omega

theorem ByStart.hull (hsorted : ByStart (p :: q :: rest)) : ByStart (p.hull q :: rest) := by
  obtain ⟨hp, hrest⟩ := List.pairwise_cons.mp hsorted
  refine List.pairwise_cons.mpr ⟨fun r hr => ?_, hrest.tail⟩
  have hpq := hp q List.mem_cons_self
  have hpr := hp r (List.mem_cons_of_mem q hr)
  simp only [Period.hull]
  omega

/-- One step of the sweep: of two members in order the second is joined to the first exactly if
no month is left free between them. -/
theorem coalesce_cons (p q : Period) (rest : List Period) (hle : p.first ≤ q.first) :
    coalesce p (q :: rest) =
      if q.first ≤ p.last + 1 then coalesce (p.hull q) rest else p :: coalesce q rest := by
  have hq := q.first_le_last
  rw [coalesce]
  split_ifs with htouch
  · rw [Period.merge_eq, if_pos ⟨htouch, by omega⟩]
  · rw [Period.merge_eq, if_neg (by omega)]

/-- The sweep neither loses nor gains a month. -/
theorem coversMonth_coalesce (hsorted : ByStart (p :: rest)) :
    CoversMonth (coalesce p rest) month ↔ CoversMonth (p :: rest) month := by
  induction rest generalizing p with
  | nil => rfl
  | cons q rest ih =>
      obtain ⟨hp, hrest⟩ := List.pairwise_cons.mp hsorted
      have hpq := hp q List.mem_cons_self
      rw [coalesce_cons p q rest hpq]
      split_ifs with htouch
      · have hqlast := q.first_le_last
        rw [ih hsorted.hull, coversMonth_cons, coversMonth_cons, coversMonth_cons,
          Period.hasMonth_hull htouch (by omega), or_assoc]
      · rw [coversMonth_cons, ih hrest, coversMonth_cons, coversMonth_cons, coversMonth_cons]

theorem le_first_of_mem_coalesce (hsorted : ByStart (p :: rest)) {q : Period}
    (hq : q ∈ coalesce p rest) : p.first ≤ q.first := by
  -- the first month of `q` is covered, hence by `p` or by something that begins after it
  have hcovered : CoversMonth (p :: rest) q.first :=
    (coversMonth_coalesce hsorted).mp ⟨q, hq, q.has_first⟩
  obtain ⟨hle, _⟩ := List.pairwise_cons.mp hsorted
  rw [coversMonth_cons] at hcovered
  rcases hcovered with hm | ⟨r, hr, hm⟩
  · exact hm.1
  · exact Int.le_trans (hle r hr) hm.1

/-- The sweep leaves a free month wherever it does not join. -/
theorem separated_coalesce (hsorted : ByStart (p :: rest)) : Separated (coalesce p rest) := by
  induction rest generalizing p with
  | nil => exact List.pairwise_singleton _ p
  | cons q rest ih =>
      obtain ⟨hp, hrest⟩ := List.pairwise_cons.mp hsorted
      have hpq := hp q List.mem_cons_self
      rw [coalesce_cons p q rest hpq]
      split_ifs with htouch
      · exact ih hsorted.hull
      · refine List.pairwise_cons.mpr ⟨fun r hr => ?_, ih hrest⟩
        have hr' := le_first_of_mem_coalesce hrest hr
        omega

theorem coversMonth_reduce : CoversMonth (reduce ps) month ↔ CoversMonth ps month := by
  rw [← coversMonth_of_perm (sort_perm ps)]
  have hsorted := byStart_sort ps
  unfold reduce
  cases hsort : sort ps with
  | nil => rfl
  | cons p rest =>
      rw [hsort] at hsorted
      exact coversMonth_coalesce hsorted

theorem separated_reduce (ps : List Period) : Separated (reduce ps) := by
  have hsorted := byStart_sort ps
  unfold reduce
  cases hsort : sort ps with
  | nil => exact List.Pairwise.nil
  | cons p rest =>
      rw [hsort] at hsorted
      exact separated_coalesce hsorted

theorem reduce_ne_nil (p : Period) (ps : List Period) : reduce (p :: ps) ≠ [] := by
  intro hnil
  have hcovered : CoversMonth (reduce (p :: ps)) p.first :=
    coversMonth_reduce.mpr ⟨p, List.mem_cons_self, p.has_first⟩
  rw [hnil] at hcovered
  obtain ⟨q, hq, -⟩ := hcovered
  cases hq

theorem reduce_eq_reduce_iff :
    reduce ps = reduce qs ↔ ∀ m, CoversMonth ps m ↔ CoversMonth qs m := by
  constructor
  · intro heq m
    rw [← coversMonth_reduce, heq, coversMonth_reduce]
  · intro hsame
    apply (separated_reduce ps).eq_of_coversMonth_iff (separated_reduce qs)
    intro m
    rw [coversMonth_reduce, coversMonth_reduce]
    exact hsame m

theorem coversMonth_toMonths : CoversMonth p.toMonths month ↔ p.HasMonth month := by
  simp only [CoversMonth, Period.toMonths, MonthQueue.toList, List.mem_ofFn, Period.HasMonth,
    exists_exists_eq_and, MonthQueue.get, Period.months]
  constructor
  · rintro ⟨i, hfirst, hlast⟩
    have hi := i.isLt
    simp only [MonthQueue.size] at hi
    omega
  · rintro ⟨hfirst, hlast⟩
    have hi : (month - p.first).toNat < p.months.size := by
      simp only [MonthQueue.size, Period.months]
      omega
    refine ⟨⟨(month - p.first).toNat, hi⟩, ?_, ?_⟩ <;> simp only <;> omega

/-- The months of a period, put together again. -/
theorem reduce_toMonths (p : Period) : reduce p.toMonths = [p] := by
  have hone : Separated [p] := List.pairwise_singleton _ p
  apply (separated_reduce p.toMonths).eq_of_coversMonth_iff hone
  intro month
  rw [coversMonth_reduce, coversMonth_toMonths, coversMonth_cons]
  simp [CoversMonth]

theorem length_reduce_le (hsame : ∀ m, CoversMonth qs m ↔ CoversMonth ps m) :
    (reduce ps).length ≤ qs.length := by
  have hcolour : colour (reduce ps) = colour qs :=
    colour_congr fun m => coversMonth_reduce.trans (hsame m).symm
  have hruns := (separated_reduce ps).areRuns
  rw [hcolour] at hruns
  exact hruns.length_le (fun q hq => colour_joined hq) fun m hm => colour_ne_none_iff.mp hm

/-- The reduced form is canonical. It covers the same days as the list, is sorted, and between any
two of its members a whole month is covered by nothing. No list that covers these days is shorter,
and two lists have the same reduced form exactly if they cover the same days; hence reducing twice
is reducing once, and neither order nor repetition matters. -/
theorem reduce_canonical (ps : List Period) :
    (∀ d, Covers (reduce ps) d ↔ Covers ps d) ∧
    (reduce ps).Pairwise (fun p q =>
      p ≤ q ∧ ∃ month, p.last < month ∧ month < q.first ∧ ¬ CoversMonth ps month) ∧
    (∀ qs, (∀ d, Covers qs d ↔ Covers ps d) → (reduce ps).length ≤ qs.length) ∧
    (∀ qs, reduce ps = reduce qs ↔ ∀ d, Covers ps d ↔ Covers qs d) ∧
    reduce (reduce ps) = reduce ps ∧
    (∀ qs, ps ⊆ qs → qs ⊆ ps → reduce ps = reduce qs) := by
  refine ⟨?_, ?_, ?_, ?_, ?_, ?_⟩
  · exact forall_covers_iff.mpr fun m => coversMonth_reduce
  · have hsep := separated_reduce ps
    refine List.Pairwise.imp_of_mem ?_ hsep
    intro p q hp _ hfree
    have hle := p.first_le_last
    refine ⟨.inl (by omega), p.last + 1, by omega, hfree, ?_⟩
    rw [← coversMonth_reduce]
    exact (hsep.free_beside hp).2
  · intro qs hsame
    exact length_reduce_le (forall_covers_iff.mp hsame)
  · intro qs
    rw [reduce_eq_reduce_iff, forall_covers_iff]
  · exact reduce_eq_reduce_iff.mpr fun m => coversMonth_reduce
  · intro qs hpq hqp
    apply reduce_eq_reduce_iff.mpr
    intro m
    exact ⟨fun ⟨p, hp, hm⟩ => ⟨p, hpq hp, hm⟩, fun ⟨q, hq, hm⟩ => ⟨q, hqp hq, hm⟩⟩

end Monthwise.Coverage
