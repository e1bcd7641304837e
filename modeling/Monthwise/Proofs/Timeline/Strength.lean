import Mathlib.Tactic.SplitIfs
import Monthwise.Timeline.Basic

/-! # The strongest record of a month

Recency, identity and place in the input together rank all records, and no two
alike. So every month that some record has is won by exactly one of them. When
two lists are joined, the winner is the stronger of the two winners.
-/

namespace Monthwise.Timeline

theorem then_of_ne_eq {o : Ordering} (hne : o ≠ .eq) (o' : Ordering) : o.then o' = o := by
  cases o with
  | eq => exact absurd rfl hne
  | lt | gt => rfl

variable {ρ Recency Id : Type} [TimedRecord ρ Recency Id]

/-- The record is about the month. -/
def Has (r : Placed ρ) (month : Int) : Prop := (TimedRecord.period r.1).HasMonth month

instance (r : Placed ρ) (month : Int) : Decidable (Has r month) := by
  unfold Has; infer_instance

theorem eq_of_place_eq {records : List ρ} {a b : Placed ρ} (ha : a ∈ records.zipIdx)
    (hb : b ∈ records.zipIdx) (hplace : a.2 = b.2) : a = b := by
  rw [List.mem_zipIdx_iff_getElem?] at ha hb
  rw [hplace, hb] at ha
  exact Prod.ext (Option.some.inj ha).symm hplace

variable [Ord Recency] [Ord Id]

/-- Of all the records about the month this one is the strongest: each of the others comes before
it by recency, then identity, then place. -/
structure IsStrongest (records : List ρ) (month : Int) (r : Placed ρ) : Prop where
  mem : r ∈ records.zipIdx
  has : Has r month
  beats : ∀ other ∈ records.zipIdx, Has other month → other.2 ≠ r.2 →
    compareStrength other r = .lt

/-- The record that wins a month: of those that have it, the last in order of strength. -/
def winner? (records : List ρ) (month : Int) : Option (Placed ρ) :=
  ((ranked records).filter (Has · month)).getLast?

omit [Ord Recency] [Ord Id] in
theorem exists_placed_iff {records : List ρ} {month : Int} :
    (∃ r ∈ records.zipIdx, Has r month) ↔
      ∃ r ∈ records, (TimedRecord.period r).HasMonth month := by
  constructor
  · rintro ⟨r, hr, hm⟩
    exact ⟨r.1, List.fst_mem_of_mem_zipIdx hr, hm⟩
  · rintro ⟨r, hr, hm⟩
    obtain ⟨i, hi⟩ := List.mem_iff_getElem?.mp hr
    exact ⟨(r, i), List.mem_zipIdx_iff_getElem?.mpr hi, hm⟩

theorem mem_ranked {records : List ρ} {r : Placed ρ} :
    r ∈ ranked records ↔ r ∈ records.zipIdx :=
  List.mem_mergeSort

theorem mem_of_winner? {records : List ρ} {month : Int} {r : Placed ρ}
    (hr : winner? records month = some r) : r ∈ records.zipIdx ∧ Has r month := by
  have hmem := List.mem_filter.mp (List.mem_of_getLast? hr)
  exact ⟨mem_ranked.mp hmem.1, of_decide_eq_true hmem.2⟩

theorem winner?_eq_none_iff {records : List ρ} {month : Int} :
    winner? records month = none ↔ ¬ ∃ r ∈ records, (TimedRecord.period r).HasMonth month := by
  rw [winner?, List.getLast?_eq_none_iff, List.filter_eq_nil_iff, ← exists_placed_iff]
  simp only [mem_ranked, decide_eq_true_eq, not_exists, not_and]

theorem compareStrength_ne_eq {a b : Placed ρ} (hplace : a.2 ≠ b.2) :
    compareStrength a b ≠ .eq := by
  simp only [compareStrength, ne_eq, Ordering.then_eq_eq, Nat.compare_eq_eq]
  exact fun h => hplace h.2.2

/-- Where recency decides, nothing else matters. -/
theorem compareStrength_of_recency {a b : Placed ρ}
    (hne : compare (TimedRecord.recency a.1) (TimedRecord.recency b.1) ≠ .eq) :
    compareStrength a b = compare (TimedRecord.recency a.1) (TimedRecord.recency b.1) :=
  then_of_ne_eq hne _

variable [Std.TransOrd Recency] [Std.TransOrd Id]

instance : Std.TransCmp (compareStrength (ρ := ρ)) :=
  inferInstanceAs (Std.TransCmp (compareLex (compareOn fun a : Placed ρ => TimedRecord.recency a.1)
    (compareLex (compareOn fun a => TimedRecord.id a.1) (compareOn fun a => a.2))))

theorem pairwise_ranked (records : List ρ) :
    (ranked records).Pairwise fun a b => (compareStrength a b).isLE := by
  apply List.pairwise_mergeSort
  · intro a b c hab hbc
    exact Std.TransCmp.isLE_trans hab hbc
  · intro a b
    have hswap : compareStrength b a = (compareStrength a b).swap := Std.OrientedCmp.eq_swap
    rw [hswap]
    cases compareStrength a b <;> rfl

theorem IsStrongest.unique {records : List ρ} {month : Int} {a b : Placed ρ}
    (ha : IsStrongest records month a) (hb : IsStrongest records month b) : a = b := by
  by_cases hplace : a.2 = b.2
  · exact eq_of_place_eq ha.mem hb.mem hplace
  · have hab := hb.beats a ha.mem ha.has hplace
    have hba := ha.beats b hb.mem hb.has (Ne.symm hplace)
    exact absurd hba (Std.OrientedCmp.not_lt_of_lt hab)

theorem isStrongest_of_winner? {records : List ρ} {month : Int} {r : Placed ρ}
    (hr : winner? records month = some r) : IsStrongest records month r := by
  obtain ⟨hmem, hhas⟩ := mem_of_winner? hr
  refine ⟨hmem, hhas, fun other hother hotherHas hplace => ?_⟩
  -- the winner stands last among the ranked records of the month
  obtain ⟨weaker, hsplit⟩ := List.getLast?_eq_some_iff.mp hr
  have hsorted := (pairwise_ranked records).filter (Has · month)
  have hin : other ∈ (ranked records).filter (Has · month) :=
    List.mem_filter.mpr ⟨mem_ranked.mpr hother, decide_eq_true hotherHas⟩
  rw [hsplit] at hsorted hin
  have hle : (compareStrength other r).isLE := by
    rcases List.mem_append.mp hin with hweaker | hlast
    · exact (List.pairwise_append.mp hsorted).2.2 other hweaker r List.mem_cons_self
    · rw [List.mem_singleton] at hlast
      exact absurd (congrArg Prod.snd hlast) hplace
  have hne := compareStrength_ne_eq hplace
  cases hcompare : compareStrength other r with
  | lt => rfl
  | eq => exact absurd hcompare hne
  | gt => simp [hcompare] at hle

theorem winner?_eq_some_iff {records : List ρ} {month : Int} {r : Placed ρ} :
    winner? records month = some r ↔ IsStrongest records month r := by
  constructor
  · exact isStrongest_of_winner?
  · intro hstrongest
    cases hwinner : winner? records month with
    | none =>
        have hnone := winner?_eq_none_iff.mp hwinner
        exact absurd (exists_placed_iff.mp ⟨r, hstrongest.mem, hstrongest.has⟩) hnone
    | some winner => rw [(isStrongest_of_winner? hwinner).unique hstrongest]

/-- Every record about a month is the winner or weaker than the winner. -/
theorem isLE_winner {records : List ρ} {month : Int} {other : Placed ρ}
    (hother : other ∈ records.zipIdx) (hhas : Has other month) :
    ∃ r, winner? records month = some r ∧ (compareStrength other r).isLE := by
  cases hwinner : winner? records month with
  | none =>
      have hnone := winner?_eq_none_iff.mp hwinner
      exact absurd (exists_placed_iff.mp ⟨other, hother, hhas⟩) hnone
  | some r =>
      refine ⟨r, rfl, ?_⟩
      have hstrongest := isStrongest_of_winner? hwinner
      by_cases hplace : other.2 = r.2
      · rw [eq_of_place_eq hother hstrongest.mem hplace]
        exact Std.ReflCmp.isLE_rfl
      · rw [hstrongest.beats other hother hhas hplace]
        rfl

section Join

/-- The record with its place counted from before `n` other records. -/
def behind (n : Nat) (r : Placed ρ) : Placed ρ := (r.1, n + r.2)

/-- The stronger of two winners, where there are two. -/
def stronger : Option (Placed ρ) → Option (Placed ρ) → Option (Placed ρ)
  | none, b => b
  | some a, none => some a
  | some a, some b => if compareStrength a b = .gt then some a else some b

omit [Std.TransOrd Recency] [Std.TransOrd Id] in
theorem stronger_none (a : Option (Placed ρ)) : stronger a none = a := by
  cases a <;> rfl

omit [Std.TransOrd Recency] [Std.TransOrd Id] in
theorem compareStrength_behind (n : Nat) (a b : Placed ρ) :
    compareStrength (behind n a) (behind n b) = compareStrength a b := by
  have hplace : compare (n + a.2) (n + b.2) = compare a.2 b.2 := by
    simp only [compare, compareOfLessAndEq, Nat.add_lt_add_iff_left, Nat.add_left_cancel_iff]
  simp only [compareStrength, behind, hplace]

omit [Ord Recency] [Ord Id] [Std.TransOrd Recency] [Std.TransOrd Id] in
theorem mem_zipIdx_append {as bs : List ρ} {r : Placed ρ} :
    r ∈ (as ++ bs).zipIdx ↔ r ∈ as.zipIdx ∨ ∃ b ∈ bs.zipIdx, behind as.length b = r := by
  have hright : bs.zipIdx as.length = bs.zipIdx.map (behind as.length) := List.zipIdx_eq_map_add
  rw [List.zipIdx_append, List.mem_append, Nat.zero_add, hright, List.mem_map]

variable {as bs : List ρ} {month : Int} {a b : Placed ρ}

theorem IsStrongest.append_left (ha : IsStrongest as month a)
    (hbeats : ∀ b, winner? bs month = some b → compareStrength (behind as.length b) a = .lt) :
    IsStrongest (as ++ bs) month a where
  mem := mem_zipIdx_append.mpr (.inl ha.mem)
  has := ha.has
  beats other hother hhas hplace := by
    rcases mem_zipIdx_append.mp hother with hleft | ⟨b, hb, rfl⟩
    · exact ha.beats other hleft hhas hplace
    · obtain ⟨winner, hwinner, hle⟩ := isLE_winner hb hhas
      rw [← compareStrength_behind as.length] at hle
      exact Std.TransCmp.lt_of_isLE_of_lt hle (hbeats winner hwinner)

theorem IsStrongest.append_right (hb : IsStrongest bs month b)
    (hbeats : ∀ a, winner? as month = some a → compareStrength a (behind as.length b) = .lt) :
    IsStrongest (as ++ bs) month (behind as.length b) where
  mem := mem_zipIdx_append.mpr (.inr ⟨b, hb.mem, rfl⟩)
  has := hb.has
  beats other hother hhas hplace := by
    rcases mem_zipIdx_append.mp hother with hleft | ⟨other, hright, rfl⟩
    · obtain ⟨winner, hwinner, hle⟩ := isLE_winner hleft hhas
      exact Std.TransCmp.lt_of_isLE_of_lt hle (hbeats winner hwinner)
    · rw [compareStrength_behind]
      exact hb.beats other hright hhas fun heq => hplace (congrArg (as.length + ·) heq)

/-- The winner of two lists in a row is the stronger of their winners. -/
theorem winner?_append (as bs : List ρ) (month : Int) :
    winner? (as ++ bs) month =
      stronger (winner? as month) ((winner? bs month).map (behind as.length)) := by
  cases ha : winner? as month with
  | none =>
      cases hb : winner? bs month with
      | none =>
          rw [winner?_eq_none_iff] at ha hb
          refine winner?_eq_none_iff.mpr ?_
          rintro ⟨r, hr, hm⟩
          rcases List.mem_append.mp hr with hleft | hright
          · exact ha ⟨r, hleft, hm⟩
          · exact hb ⟨r, hright, hm⟩
      | some b =>
          refine winner?_eq_some_iff.mpr ((isStrongest_of_winner? hb).append_right ?_)
          simp [ha]
  | some a =>
      have hstrongest := isStrongest_of_winner? ha
      cases hb : winner? bs month with
      | none =>
          refine winner?_eq_some_iff.mpr (hstrongest.append_left ?_)
          simp [hb]
      | some b =>
          have hplace : a.2 ≠ (behind as.length b).2 := by
            have hlt := List.snd_lt_of_mem_zipIdx hstrongest.mem
            simp only [behind]
            omega
          simp only [stronger, Option.map_some]
          split_ifs with hgt
          · refine winner?_eq_some_iff.mpr (hstrongest.append_left fun b' hb' => ?_)
            obtain rfl := Option.some.inj (hb.symm.trans hb')
            exact Std.OrientedCmp.lt_of_gt hgt
          · refine winner?_eq_some_iff.mpr
              ((isStrongest_of_winner? hb).append_right fun a' ha' => ?_)
            obtain rfl := Option.some.inj (ha.symm.trans ha')
            have hne := compareStrength_ne_eq hplace
            cases hcompare : compareStrength a (behind as.length b) with
            | lt => rfl
            | eq => exact absurd hcompare hne
            | gt => exact absurd hcompare hgt

end Join

end Monthwise.Timeline
