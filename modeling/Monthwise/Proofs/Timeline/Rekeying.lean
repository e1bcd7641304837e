import Mathlib
import Monthwise.Proofs.Timeline.Compaction
import Monthwise.Proofs.Timeline.Ranking

/-! # Other keys, other orders

Records may be put into another order, as long as those between which the keys
do not decide keep theirs, and their keys may be replaced by others that compare
in the same way. The timeline stays what it was.
-/

namespace Monthwise

instance : Std.LawfulEqOrd Date where
  eq_of_compare {a b} h := by
    have hparts : (compare a.year b.year).then
        ((compare a.month b.month).then (compare a.day b.day)) = .eq := h
    simp only [Ordering.then_eq_eq, Std.compare_eq_iff_eq] at hparts
    exact Date.ext hparts.1 hparts.2.1 hparts.2.2

instance : Std.LawfulEqOrd Instant where
  eq_of_compare {a b} h := by
    have hparts : (compare a.date b.date).then
        ((compare a.second b.second).then (compare a.nano b.nano)) = .eq := h
    simp only [Ordering.then_eq_eq, Std.compare_eq_iff_eq] at hparts
    cases a
    cases b
    simp_all

namespace Timeline

variable {ρ ρ' Recency Recency' Id Id' Content β : Type}
variable [TimedRecord ρ Recency Id] [TimedRecord ρ' Recency' Id']
variable {said : ρ → β} {said' : ρ' → β}

theorem twins_self [LawfulTimedRecord ρ Recency Id Content] (r : ρ) :
    Twins LawfulTimedRecord.content LawfulTimedRecord.content r r where
  period_eq := rfl
  said_clip_eq _ fresh fresh' hinside := LawfulTimedRecord.content_clip fresh fresh' hinside

variable [Ord Recency] [Ord Id] [Ord Recency'] [Ord Id']
variable [Std.TransOrd Recency] [Std.TransOrd Id] [Std.TransOrd Recency'] [Std.TransOrd Id']

/-- Keys that compare in the same way rank in the same way. -/
theorem forall₂_ranking_map {R : ρ → ρ' → Prop} {pairs : List (ρ × ρ')}
    (hpairs : ∀ x ∈ pairs, R x.1 x.2)
    (hkeys : ∀ x ∈ pairs, ∀ y ∈ pairs, compareKeys x.1 y.1 = compareKeys x.2 y.2) :
    List.Forall₂ R (ranking (pairs.map (·.1))) (ranking (pairs.map (·.2))) := by
  -- the pairs are put in order once, by the keys on either side
  have hleft : (pairs.mergeSort fun x y => (compareKeys x.1 y.1).isLE).map (·.1) =
      ranking (pairs.map (·.1)) := by
    rw [ranking_eq_mergeSort]
    exact List.map_mergeSort fun _ _ _ _ => rfl
  have hright : (pairs.mergeSort fun x y => (compareKeys x.1 y.1).isLE).map (·.2) =
      ranking (pairs.map (·.2)) := by
    rw [ranking_eq_mergeSort]
    exact List.map_mergeSort fun x hx y hy => congrArg Ordering.isLE (hkeys x hx y hy)
  rw [← hleft, ← hright, List.forall₂_map_left_iff, List.forall₂_map_right_iff, List.forall₂_same]
  exact fun x hx => hpairs x (List.mem_mergeSort.mp hx)

theorem outline_reconcile_of_perm [LawfulTimedRecord ρ Recency Id Content]
    {records records' : List ρ} (hperm : records.Perm records')
    (htied : ∀ r ∈ records, records.filter (tied r) = records'.filter (tied r))
    (fresh fresh' : Nat → Id) (window : Period) :
    outline (reconcile fresh window records) = outline (reconcile fresh' window records') := by
  apply saying_reconcile_of_ranking
  rw [ranking_eq_of_perm hperm htied, List.forall₂_same]
  exact fun r _ => twins_self r

omit [Std.TransOrd Recency] [Std.TransOrd Id] in
theorem compareKeys_of_recency {a b : ρ}
    (hne : compare (TimedRecord.recency a) (TimedRecord.recency b) ≠ .eq) :
    compareKeys a b = compare (TimedRecord.recency a) (TimedRecord.recency b) :=
  then_of_ne_eq hne _

/-- Where recency always decides, identities may be anything. -/
theorem compareKeys_eq_of_recency {pairs : List (ρ × ρ)}
    (hsame : ∀ x ∈ pairs, TimedRecord.recency x.1 = TimedRecord.recency x.2)
    (hdecides : pairs.Pairwise fun x y =>
      compare (TimedRecord.recency x.1) (TimedRecord.recency y.1) ≠ .eq) :
    ∀ x ∈ pairs, ∀ y ∈ pairs, compareKeys x.1 y.1 = compareKeys x.2 y.2 := by
  have happart {x y : ρ × ρ} (hx : x ∈ pairs) (hy : y ∈ pairs)
      (hne : compare (TimedRecord.recency x.1) (TimedRecord.recency y.1) ≠ .eq) :
      compareKeys x.1 y.1 = compareKeys x.2 y.2 := by
    rw [compareKeys_of_recency hne, hsame x hx, hsame y hy]
    rw [hsame x hx, hsame y hy] at hne
    exact (compareKeys_of_recency hne).symm
  intro x hx y hy
  refine List.Pairwise.forall_of_forall_of_flip
    (R := fun x y => x ∈ pairs → y ∈ pairs → compareKeys x.1 y.1 = compareKeys x.2 y.2)
    ?_ ?_ ?_ hx hy hx hy
  · intro x _ _ _
    have hself (r : ρ) : compareKeys r r = .eq := Std.ReflCmp.compare_self
    rw [hself, hself]
  · exact hdecides.imp fun hne hx hy => happart hx hy hne
  · refine hdecides.imp fun hne hy hx => happart hy hx fun heq => hne ?_
    exact Std.OrientedCmp.eq_symm heq

section Renaming

variable {α : Type} (ids : Nat → Uuid) (entries : List (Entry α))

/-- The entries with other identifiers. -/
def renamed : List (Entry α) := entries.mapIdx fun i e => { e with id := ids i }

/-- Each entry beside the one that it becomes. -/
def besideRenamed : List (Entry α × Entry α) :=
  entries.zipIdx.map fun e => (e.1, { e.1 with id := ids e.2 })

@[simp]
theorem map_fst_besideRenamed : (besideRenamed ids entries).map (·.1) = entries := by
  simp [besideRenamed, Function.comp_def]

@[simp]
theorem map_snd_besideRenamed : (besideRenamed ids entries).map (·.2) = renamed ids entries := by
  simp [besideRenamed, renamed, List.mapIdx_eq_zipIdx_map, Function.comp_def]

variable {ids entries} in
theorem snd_of_mem_besideRenamed {x : Entry α × Entry α} (hx : x ∈ besideRenamed ids entries) :
    ∃ u, x.2 = { x.1 with id := u } := by
  obtain ⟨e, -, rfl⟩ := List.mem_map.mp hx
  exact ⟨ids e.2, rfl⟩

variable {entries} in
theorem outline_reconcile_renamed (hinstants : (entries.map (·.createdAt)).Nodup)
    (fresh fresh' : Nat → Uuid) (window : Period) :
    outline (reconcile fresh window entries) =
      outline (reconcile fresh' window (renamed ids entries)) := by
  have hdecides : (besideRenamed ids entries).Pairwise fun x y =>
      compare x.1.createdAt y.1.createdAt ≠ .eq := by
    rw [← map_fst_besideRenamed ids entries, List.map_map, List.Nodup, List.pairwise_map]
      at hinstants
    refine hinstants.imp fun hne heq => hne ?_
    exact Std.compare_eq_iff_eq.mp heq
  have hranking : List.Forall₂ (Twins LawfulTimedRecord.content LawfulTimedRecord.content)
      (ranking ((besideRenamed ids entries).map (·.1)))
      (ranking ((besideRenamed ids entries).map (·.2))) := by
    apply forall₂_ranking_map
    · intro x hx
      obtain ⟨u, hu⟩ := snd_of_mem_besideRenamed hx
      rw [hu]
      exact ⟨rfl, fun _ _ _ _ => rfl⟩
    · apply compareKeys_eq_of_recency _ hdecides
      intro x hx
      obtain ⟨u, hu⟩ := snd_of_mem_besideRenamed hx
      rw [hu]
      rfl
  rw [map_fst_besideRenamed, map_snd_besideRenamed] at hranking
  exact saying_reconcile_of_ranking hranking fresh fresh' window

end Renaming

/-- The keys of records count only by the ranking that they induce. Of the records only those
between which the keys do not decide have to keep their order, the keys may be replaced by any that
compare alike, even of other types, and the identifiers of entries made at different instants by any
at all. Identities that are given to segments never count. -/
theorem reconcile_of_ranking [LawfulTimedRecord ρ Recency Id Content] (said : ρ → β)
    (said' : ρ' → β) (fresh fresh' : Nat → Id) (fresh'' : Nat → Id') (window : Period) :
    (∀ records records' : List ρ, records.Perm records' →
      (∀ r ∈ records, records.filter (tied r) = records'.filter (tied r)) →
      outline (reconcile fresh window records) = outline (reconcile fresh' window records')) ∧
    (∀ pairs : List (ρ × ρ'), (∀ x ∈ pairs, Twins said said' x.1 x.2) →
      (∀ x ∈ pairs, ∀ y ∈ pairs, compareKeys x.1 y.1 = compareKeys x.2 y.2) →
      saying said (reconcile fresh window (pairs.map (·.1))) =
        saying said' (reconcile fresh'' window (pairs.map (·.2)))) ∧
    (∀ (α : Type) (entries : List (Entry α)) (ids key key' : Nat → Uuid),
      (entries.map (·.createdAt)).Nodup →
      outline (reconcile key window entries) =
        outline (reconcile key' window (renamed ids entries))) := by
  refine ⟨?_, ?_, ?_⟩
  · intro records records' hperm htied
    exact outline_reconcile_of_perm hperm htied fresh fresh' window
  · intro pairs htwins hkeys
    exact saying_reconcile_of_ranking (forall₂_ranking_map htwins hkeys) fresh fresh'' window
  · intro α entries ids key key' hinstants
    exact outline_reconcile_renamed ids hinstants key key' window

/-- Neither recency nor identity decides between the first two entries, and the later of them wins
March. The third may stand anywhere, awards may take the place of the entries, and the identifiers
of the second and the third are of no consequence. -/
theorem reconcile_of_ranking_three_entries :
    let months (first last : Int) (h : (Period.ofMonths? first last).isSome) : Period :=
      (Period.ofMonths? first last).get h
    let made (day : Nat) (h : (Date.ofYmd? 2021 1 day).isSome) : Instant :=
      ⟨(Date.ofYmd? 2021 1 day).get h, 0, 0, by decide, by decide, by decide⟩
    let key := Uuid.version4
    let year := months 0 11 rfl
    let base : Entry String := ⟨key 9, months 0 5 rfl, made 1 rfl, "base"⟩
    let patch : Entry String := ⟨key 9, months 2 3 rfl, made 1 rfl, "patch"⟩
    let late : Entry String := ⟨key 7, months 3 4 rfl, made 2 rfl, "late"⟩
    let award (e : Entry String) (recency id : Int) : Award :=
      ⟨e.payload, e.period, recency, id, []⟩
    outline (reconcile key year [late, base, patch]) =
      outline (reconcile key year [base, patch, late]) ∧
    saying (·.payload) (reconcile key year [base, patch, late]) =
      saying (·.name) (reconcile (fun n => (n : Int)) year
        [award base 4 6, award patch 4 6, award late 5 0]) ∧
    outline (reconcile key year [patch, late]) =
      outline (reconcile key year [{ patch with id := key 0 }, { late with id := key 0 }]) := by
  intro months made key year base patch late award
  obtain ⟨hperm, hkeys, -⟩ := reconcile_of_ranking (fun e : Entry String => e.payload) Award.name
    key key (fun n => (n : Int)) year
  obtain ⟨-, -, hids⟩ := reconcile_of_ranking Award.name Award.name (fun n => (n : Int))
    (fun n => (n : Int)) (fun n => (n : Int)) year
  refine ⟨?_, ?_, ?_⟩
  · exact hperm _ _ (by decide) (by decide)
  · apply hkeys [(base, award base 4 6), (patch, award patch 4 6), (late, award late 5 0)]
    · intro x hx
      fin_cases hx <;> exact ⟨rfl, fun _ _ _ _ => rfl⟩
    · decide
  · exact hids String [patch, late] (fun _ => key 0) key key (by decide)

end Timeline

end Monthwise
