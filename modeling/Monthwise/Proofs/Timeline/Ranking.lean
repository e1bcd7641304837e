import Mathlib.Data.List.Forall2
import Monthwise.Proofs.Timeline.Segments

/-! # The ranking of records

Recency and identity of records are used for nothing but to put the records in
order of strength. Two lists of records whose members say the same, rank by rank,
therefore have the same timeline, whatever the keys are, wherever in the input
the records stand, and whichever identities the segments take.
-/

namespace Monthwise.Timeline

variable {ρ ρ' Recency Recency' Id Id' β : Type}
variable [TimedRecord ρ Recency Id] [TimedRecord ρ' Recency' Id']

/-- What a timeline has to say, in words that `said` takes from its records. -/
def saying (said : ρ → β) (t : Timeline ρ) : List (Period × β) :=
  t.segments.map fun s => (s.period, said s.record)

/-- Records for the same months that say the same to whatever period they are narrowed. -/
structure Twins (said : ρ → β) (said' : ρ' → β) (r : ρ) (r' : ρ') : Prop where
  period_eq : TimedRecord.period r = TimedRecord.period r'
  said_clip_eq : ∀ p fresh fresh', (TimedRecord.period r).contains p →
    said (TimedRecord.clip r fresh p) = said' (TimedRecord.clip r' fresh' p)

section Keys

variable [Ord Recency] [Ord Id]

/-- The order of strength as far as the keys decide it. -/
def compareKeys (a b : ρ) : Ordering :=
  (compare (TimedRecord.recency a) (TimedRecord.recency b)).then
    (compare (TimedRecord.id a) (TimedRecord.id b))

/-- The keys do not decide between the records. -/
def tied (a b : ρ) : Bool := compareKeys a b == .eq

/-- The records in order of strength, without their places in the input. -/
def ranking (records : List ρ) : List ρ := (ranked records).map (·.1)

theorem compareStrength_eq_then (a b : Placed ρ) :
    compareStrength a b = (compareKeys a.1 b.1).then (compare a.2 b.2) := by
  rw [compareKeys, Ordering.then_assoc, compareStrength]

variable [Std.TransOrd Recency] [Std.TransOrd Id]

instance : Std.TransCmp (compareKeys (ρ := ρ)) :=
  inferInstanceAs (Std.TransCmp (compareLex (compareOn fun a : ρ => TimedRecord.recency a)
    (compareOn fun a => TimedRecord.id a)))

/-- Sorting by strength is stable sorting by the keys. -/
theorem ranking_eq_mergeSort (records : List ρ) :
    ranking records = records.mergeSort fun a b => (compareKeys a b).isLE := by
  rw [ranking, ← List.mergeSort_zipIdx, ranked]
  congr 2
  funext a b
  have hswap : compareKeys b.1 a.1 = (compareKeys a.1 b.1).swap := Std.OrientedCmp.eq_swap
  rw [compareStrength_eq_then, List.zipIdxLE, hswap]
  cases compareKeys a.1 b.1 with
  | lt => rfl
  | gt => rfl
  | eq =>
      have hplace : (compare a.2 b.2).isLE = decide (a.2 ≤ b.2) := by
        rw [Bool.eq_iff_iff, Nat.isLE_compare, decide_eq_true_eq]
      exact hplace

theorem pairwise_ranking (records : List ρ) :
    (ranking records).Pairwise fun a b => (compareKeys a b).isLE := by
  rw [ranking, List.pairwise_map]
  refine (pairwise_ranked records).imp fun {a b} hle => ?_
  rw [compareStrength_eq_then, Ordering.isLE_then_iff_or] at hle
  rcases hle with hlt | ⟨heq, _⟩
  · rw [hlt]
    rfl
  · rw [heq]
    rfl

theorem ranking_perm (records : List ρ) : (ranking records).Perm records := by
  rw [ranking_eq_mergeSort]
  exact List.mergeSort_perm records _

theorem tied_self (r : ρ) : tied r r := by
  rw [tied, beq_iff_eq]
  exact Std.ReflCmp.compare_self

theorem compareKeys_eq_of_tied {r a b : ρ} (ha : tied r a) (hb : tied r b) :
    compareKeys a b = .eq := by
  rw [tied, beq_iff_eq] at ha hb
  exact Std.TransCmp.eq_trans (Std.OrientedCmp.eq_symm ha) hb

/-- Tied records rank as they stand in the input. -/
theorem filter_tied_ranking (records : List ρ) (r : ρ) :
    (ranking records).filter (tied r) = records.filter (tied r) := by
  have hsorted : (records.filter (tied r)).Pairwise fun a b => (compareKeys a b).isLE := by
    apply List.pairwise_of_forall_mem_list
    intro a ha b hb
    rw [compareKeys_eq_of_tied (List.mem_filter.mp ha).2 (List.mem_filter.mp hb).2]
    rfl
  have hsublist : (records.filter (tied r)).Sublist (ranking records) := by
    rw [ranking_eq_mergeSort]
    refine List.sublist_mergeSort ?_ ?_ hsorted List.filter_sublist
    · intro a b c hab hbc
      exact Std.TransCmp.isLE_trans hab hbc
    · intro a b
      have hswap : compareKeys b a = (compareKeys a b).swap := Std.OrientedCmp.eq_swap
      rw [hswap]
      cases compareKeys a b <;> rfl
  have hlength := ((ranking_perm records).filter (tied r)).length_eq
  have htied := hsublist.filter (tied r)
  rw [List.filter_filter] at htied
  simp only [Bool.and_self] at htied
  exact (htied.eq_of_length hlength.symm).symm

/-- Two orders of the same records begin with records of one strength. -/
theorem tied_of_perm {x y : ρ} {xs ys : List ρ} (hperm : (x :: xs).Perm (y :: ys))
    (hx : ∀ a ∈ xs, (compareKeys x a).isLE) (hy : ∀ a ∈ ys, (compareKeys y a).isLE) :
    tied x y := by
  rcases List.mem_cons.mp (hperm.mem_iff.mpr List.mem_cons_self) with rfl | hmem
  · exact tied_self y
  · rcases List.mem_cons.mp (hperm.mem_iff.mp List.mem_cons_self) with rfl | hmem'
    · exact tied_self x
    · rw [tied, beq_iff_eq]
      exact Std.OrientedCmp.isLE_antisymm (hx y hmem) (hy x hmem')

/-- An order of strength is determined by how it has the records of one strength. -/
theorem eq_of_filter_tied_eq {xs ys : List ρ} (hxs : xs.Pairwise fun a b => (compareKeys a b).isLE)
    (hys : ys.Pairwise fun a b => (compareKeys a b).isLE) (hperm : xs.Perm ys)
    (htied : ∀ r ∈ xs, xs.filter (tied r) = ys.filter (tied r)) : xs = ys := by
  induction xs generalizing ys with
  | nil => exact hperm.nil_eq
  | cons x xs ih =>
      cases ys with
      | nil => exact hperm.eq_nil
      | cons y ys =>
          obtain ⟨hx, hxrest⟩ := List.pairwise_cons.mp hxs
          obtain ⟨hy, hyrest⟩ := List.pairwise_cons.mp hys
          -- the heads are tied, so they come first among the records tied with `x`
          have hhead := htied x List.mem_cons_self
          rw [List.filter_cons_of_pos (tied_self x),
            List.filter_cons_of_pos (tied_of_perm hperm hx hy), List.cons.injEq] at hhead
          obtain ⟨rfl, -⟩ := hhead
          rw [ih hxrest hyrest hperm.cons_inv]
          intro r hr
          have hrest := htied r (List.mem_cons_of_mem x hr)
          simp only [List.filter_cons] at hrest
          split at hrest
          · exact (List.cons.inj hrest).2
          · exact hrest

theorem ranking_eq_of_perm {records records' : List ρ} (hperm : records.Perm records')
    (htied : ∀ r ∈ records, records.filter (tied r) = records'.filter (tied r)) :
    ranking records = ranking records' := by
  apply eq_of_filter_tied_eq (pairwise_ranking records) (pairwise_ranking records')
  · exact (ranking_perm records).trans (hperm.trans (ranking_perm records').symm)
  · intro r hr
    rw [filter_tied_ranking, filter_tied_ranking]
    exact htied r ((ranking_perm records).mem_iff.mp hr)

end Keys

section Winners

variable [Ord Recency] [Ord Id] [Ord Recency'] [Ord Id']

theorem nodup_ranked (records : List ρ) : (ranked records).Nodup := by
  have hplaces : (records.zipIdx.map Prod.snd).Nodup := by
    rw [List.zipIdx_map_snd]
    exact List.nodup_range'
  exact (List.mergeSort_perm _ _).nodup_iff.mpr (List.Nodup.of_map _ hplaces)

/-- Records of one list have one place exactly if they have one rank. -/
theorem place_eq_iff_rank_eq {records : List ρ} {a b : Placed ρ} {i j : Nat}
    (ha : (ranked records)[i]? = some a) (hb : (ranked records)[j]? = some b) :
    a.2 = b.2 ↔ i = j := by
  have hmem := mem_ranked.mp (List.mem_of_getElem? ha)
  have hmem' := mem_ranked.mp (List.mem_of_getElem? hb)
  constructor
  · intro hplace
    rw [← eq_of_place_eq hmem hmem' hplace] at hb
    obtain ⟨hi, -⟩ := List.getElem?_eq_some_iff.mp ha
    exact (List.getElem?_inj hi (nodup_ranked records)).mp (ha.trans hb.symm)
  · rintro rfl
    rw [Option.some.inj (ha.symm.trans hb)]

/-- The records have one rank, each in its own list. -/
def SameRank (records : List ρ) (records' : List ρ') (a : Placed ρ) (a' : Placed ρ') : Prop :=
  ∃ i : Nat, (ranked records)[i]? = some a ∧ (ranked records')[i]? = some a'

variable {said : ρ → β} {said' : ρ' → β} {records : List ρ} {records' : List ρ'}

theorem SameRank.place_eq_iff {a b : Placed ρ} {a' b' : Placed ρ'}
    (ha : SameRank records records' a a') (hb : SameRank records records' b b') :
    a.2 = b.2 ↔ a'.2 = b'.2 := by
  obtain ⟨i, hai, hai'⟩ := ha
  obtain ⟨j, hbj, hbj'⟩ := hb
  rw [place_eq_iff_rank_eq hai hbj, place_eq_iff_rank_eq hai' hbj']

variable (htwins : List.Forall₂ (Twins said said') (ranking records) (ranking records'))
include htwins

/-- A month is won in both lists by records of one rank, or in neither. -/
theorem rel_winner? (month : Int) :
    Option.Rel (fun a a' => SameRank records records' a a' ∧ Twins said said' a.1 a'.1)
      (winner? records month) (winner? records' month) := by
  have hlength : (ranked records).length = (ranked records').length := by
    simpa [ranking] using htwins.length_eq
  have hpairs : ∀ z ∈ (ranked records).zip (ranked records'), Twins said said' z.1.1 z.2.1 := by
    rw [ranking, ranking, List.forall₂_map_left_iff, List.forall₂_map_right_iff] at htwins
    exact fun z hz => List.forall₂_zip htwins hz
  have hleft := List.map_fst_zip hlength.le
  have hright := List.map_snd_zip hlength.ge
  generalize hzip : (ranked records).zip (ranked records') = pairs at hpairs hleft hright
  have hwinner : winner? records month =
      (pairs.filter fun z => Has z.1 month).getLast?.map Prod.fst := by
    rw [winner?, ← hleft, List.filter_map, List.getLast?_map]
    rfl
  have hwinner' : winner? records' month =
      (pairs.filter fun z => Has z.1 month).getLast?.map Prod.snd := by
    have hsame : (pairs.filter fun z => Has z.1 month) = pairs.filter fun z => Has z.2 month := by
      apply List.filter_congr
      intro z hz
      rw [decide_eq_decide, Has, Has, (hpairs z hz).period_eq]
    rw [winner?, ← hright, List.filter_map, List.getLast?_map, hsame]
    rfl
  rw [hwinner, hwinner']
  cases hlast : (pairs.filter fun z => Has z.1 month).getLast? with
  | none => exact .none
  | some z =>
      have hmem := (List.mem_filter.mp (List.mem_of_getLast? hlast)).1
      refine .some ⟨?_, hpairs z hmem⟩
      rw [← hzip] at hmem
      obtain ⟨i, hi⟩ := List.mem_iff_getElem?.mp hmem
      exact ⟨i, List.getElem?_zip_eq_some.mp hi⟩

/-- Lists with the same ranking have the same timeline. -/
theorem saying_reconcile_of_ranking (fresh : Nat → Id) (fresh' : Nat → Id') (window : Period) :
    saying said (reconcile fresh window records) =
      saying said' (reconcile fresh' window records') := by
  apply map_eq_map_of_periods
  · apply periods_reconcile_congr
    · intro m _
      have hrel := rel_winner? htwins m
      generalize winner? records m = a, winner? records' m = a' at hrel ⊢
      cases hrel <;> simp
    · intro m _ _
      have hrel := rel_winner? htwins m
      have hnext := rel_winner? htwins (m + 1)
      unfold winningPlace?
      generalize winner? records m = a, winner? records' m = a' at hrel ⊢
      generalize winner? records (m + 1) = b, winner? records' (m + 1) = b' at hnext ⊢
      cases hrel with
      | none => cases hnext <;> simp
      | some h =>
          cases hnext with
          | none => simp
          | some h' => simpa using h.1.place_eq_iff h'.1
  · intro i s s' hs hs' hperiod
    obtain ⟨r, hrecord, hwins⟩ := winner_of_getElem? hs
    obtain ⟨r', hrecord', hwins'⟩ := winner_of_getElem? hs'
    have hfirst := s.period.has_first
    have hrel := rel_winner? htwins s.period.first
    rw [hwins _ hfirst, hwins' _ (hperiod ▸ hfirst)] at hrel
    cases hrel with
    | some h =>
        rw [hrecord, hrecord', ← hperiod, h.2.said_clip_eq _ _ _ (contains_of_winner hwins)]

end Winners

end Monthwise.Timeline
