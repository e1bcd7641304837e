import Mathlib.Data.List.Perm.Basic
import Monthwise.Proofs.Coverage.Reduction

/-! # Joining in any order

A list of periods can be shortened by hand: take any two members that overlap or
touch and put their union in their place, until no two are left that do. Two
members that have no union now may have one later, with something that was put
in between them. The outcome does not depend on the choices: it is the reduced
form, in some order.
-/

namespace Monthwise

theorem Period.hasMonth_of_merge {p q union : Period} {month : Int}
    (hmerge : p.merge q = .ok union) :
    union.HasMonth month ↔ p.HasMonth month ∨ q.HasMonth month := by
  rw [merge_eq] at hmerge
  split_ifs at hmerge with hclose
  obtain rfl := Except.ok.inj hmerge
  exact hasMonth_hull hclose.1 hclose.2

namespace Coverage

/-- One join: two members, at different places, are taken out and their union is put in. Where it
is put, and how the others are then arranged, is left open. -/
inductive Joins (ps qs : List Period) : Prop where
  | join {p q union : Period} {rest : List Period} (taken : ps.Perm (p :: q :: rest))
      (merged : p.merge q = .ok union) (put : qs.Perm (union :: rest))

/-- So many joins, one after the other, lead from one list to another. -/
inductive JoinedIn : Nat → List Period → List Period → Prop where
  | none (ps : List Period) : JoinedIn 0 ps ps
  | step {n : Nat} {ps qs rs : List Period} (first : Joins ps qs) (others : JoinedIn n qs rs) :
      JoinedIn (n + 1) ps rs

/-- No two members have a union. -/
def Finished (ps : List Period) : Prop := ¬ ∃ qs, Joins ps qs

/-- One of the periods is over, and a month has passed, before the other begins. -/
def Apart (p q : Period) : Prop := p.last + 1 < q.first ∨ q.last + 1 < p.first

variable {n : Nat} {ps qs : List Period} {p q : Period} {month : Int}

theorem Apart.symm (h : Apart p q) : Apart q p := Or.symm h

theorem exists_merge_iff : (∃ union, p.merge q = .ok union) ↔ ¬ Apart p q := by
  have hp := p.first_le_last
  have hq := q.first_le_last
  rw [Period.merge_eq]
  unfold Apart
  split_ifs with hclose
  · simp only [Except.ok.injEq, exists_eq', true_iff]
    omega
  · simp only [exists_false, false_iff, not_not]
    omega

section Step

theorem Joins.length (h : Joins ps qs) : qs.length + 1 = ps.length := by
  obtain ⟨taken, -, put⟩ := h
  rw [taken.length_eq, put.length_eq]
  rfl

theorem Joins.length_pos (h : Joins ps qs) : 0 < qs.length := by
  obtain ⟨-, -, put⟩ := h
  rw [put.length_eq]
  exact Nat.succ_pos _

theorem Joins.coversMonth_iff (h : Joins ps qs) : CoversMonth qs month ↔ CoversMonth ps month := by
  obtain ⟨taken, merged, put⟩ := h
  rw [coversMonth_of_perm taken, coversMonth_of_perm put, coversMonth_cons, coversMonth_cons,
    coversMonth_cons, Period.hasMonth_of_merge merged, or_assoc]

/-- Nothing is left to join exactly if any two members are apart. -/
theorem finished_iff_apart : Finished ps ↔ ps.Pairwise Apart := by
  constructor
  · intro hfinished
    rw [List.pairwise_iff_forall_sublist]
    intro p q htwo
    obtain ⟨rest, taken⟩ := htwo.exists_perm_append
    by_contra hclose
    obtain ⟨union, merged⟩ := exists_merge_iff.mpr hclose
    exact hfinished ⟨union :: rest, .join taken merged (.refl _)⟩
  · rintro hapart ⟨qs, taken, merged, -⟩
    rw [taken.pairwise_iff fun {_ _} => Apart.symm, List.pairwise_cons] at hapart
    exact exists_merge_iff.mp ⟨_, merged⟩ (hapart.1 _ List.mem_cons_self)

/-- Members that are apart are kept apart by sorting, and stand in calendar order then. -/
theorem separated_sort_iff : Separated (sort ps) ↔ Finished ps := by
  rw [finished_iff_apart]
  exact pairwise_sort_iff (Int.le_of_lt Int.zero_lt_one)

end Step

section Run

theorem JoinedIn.coversMonth_iff (h : JoinedIn n ps qs) :
    CoversMonth qs month ↔ CoversMonth ps month := by
  induction h with
  | none ps => rfl
  | step first _ ih => rw [ih, first.coversMonth_iff]

theorem JoinedIn.le_length (h : JoinedIn n ps qs) : n ≤ ps.length - 1 := by
  induction h with
  | none ps => exact Nat.zero_le _
  | step first _ ih =>
      have hlength := first.length
      have hpos := first.length_pos
      omega

/-- Joins can be made until nothing is left to join. -/
theorem exists_finished (ps : List Period) : ∃ n qs, JoinedIn n ps qs ∧ Finished qs := by
  induction hlength : ps.length generalizing ps with
  | zero =>
      refine ⟨0, ps, .none ps, ?_⟩
      rintro ⟨qs, hjoin⟩
      have := hjoin.length
      omega
  | succ length ih =>
      by_cases hfinished : Finished ps
      · exact ⟨0, ps, .none ps, hfinished⟩
      · obtain ⟨qs, hjoin⟩ := not_not.mp hfinished
        obtain ⟨n, rs, hrest, hend⟩ := ih qs (by have := hjoin.length; omega)
        exact ⟨n + 1, rs, .step hjoin hrest, hend⟩

theorem JoinedIn.finished_iff (h : JoinedIn n ps qs) : Finished qs ↔ sort qs = reduce ps := by
  rw [← separated_sort_iff]
  constructor
  · intro hsep
    apply hsep.eq_of_coversMonth_iff (separated_reduce ps)
    intro month
    rw [coversMonth_of_perm (sort_perm qs), h.coversMonth_iff, coversMonth_reduce]
  · intro heq
    rw [heq]
    exact separated_reduce ps

end Run

/-- Whichever members are joined, and in whichever order, there are fewer joins than members. As
long as two members have a union the list is not yet the reduced form of the list that was begun
with, and when no two have one any more it is, up to the order of its members. -/
theorem joinedIn_confluent (ps : List Period) :
    (∀ n qs, JoinedIn n ps qs → n ≤ ps.length - 1) ∧
    (∀ n qs, JoinedIn n ps qs → ∃ m rs, JoinedIn m qs rs ∧ Finished rs) ∧
    (∀ n qs, JoinedIn n ps qs → (Finished qs ↔ sort qs = reduce ps)) :=
  ⟨fun _ _ h => h.le_length, fun _ qs _ => exists_finished qs, fun _ _ h => h.finished_iff⟩

end Coverage

end Monthwise
