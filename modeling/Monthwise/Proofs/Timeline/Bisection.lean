import Mathlib
import Monthwise.Proofs.Timeline.Lookup
import Monthwise.Proofs.Timeline.Overlay

/-! # Looking up a date by halving

The segments of a timeline end one after the other, so those that are over before a
date stand in front of those that are not. The place where the first ones give way to
the others can be found by halving, and there is the segment of the date, if it has
one. A look at every segment comes to the same.
-/

namespace Monthwise.Timeline

section Bisect

variable {α : Type} {before : α → Bool} {items : List α}

/-- The place between `low` and `high` where items that are `before` give way to items that are not,
found by halving. -/
def bisect (before : α → Bool) (items : List α) (low high : Nat) : Nat :=
  if low < high then
    let middle := low + (high - low) / 2
    if items[middle]?.any before then bisect before items (middle + 1) high
    else bisect before items low middle
  else low
termination_by high - low

/-- All items that are `before` stand in front of all others. -/
def IsParted (before : α → Bool) (items : List α) : Prop :=
  items.Pairwise fun a b => before b = true → before a = true

/-- Then they are as many as the first others are far from the front. -/
theorem any_getElem?_iff (hparted : IsParted before items) {i : Nat} :
    items[i]?.any before = true ↔ i < (items.takeWhile before).length := by
  induction items generalizing i with
  | nil => simp
  | cons a rest ih =>
      obtain ⟨hfront, hrest⟩ := List.pairwise_cons.mp hparted
      by_cases ha : before a = true
      · rw [List.takeWhile_cons_of_pos ha, List.length_cons]
        cases i with
        | zero => simp [ha]
        | succ i => rw [List.getElem?_cons_succ, ih hrest, Nat.add_lt_add_iff_right]
      · rw [List.takeWhile_cons_of_neg ha, List.length_nil]
        cases i with
        | zero => simp [ha]
        | succ i =>
            rw [List.getElem?_cons_succ, Option.any_eq_true]
            refine iff_of_false ?_ (Nat.not_lt_zero _)
            rintro ⟨b, hb, hbefore⟩
            exact ha (hfront b (List.mem_of_getElem? hb) hbefore)

/-- Halving keeps the place that is looked for between the two ends. -/
theorem bisect_eq_of_between (hparted : IsParted before items) (low high : Nat)
    (hlow : low ≤ (items.takeWhile before).length)
    (hhigh : (items.takeWhile before).length ≤ high) :
    bisect before items low high = (items.takeWhile before).length := by
  fun_induction bisect before items low high with
  | case1 low high hlt middle hbefore ih =>
      rw [any_getElem?_iff hparted] at hbefore
      exact ih hbefore hhigh
  | case2 low high hlt middle hnot ih =>
      rw [any_getElem?_iff hparted, Nat.not_lt] at hnot
      exact ih hlow hnot
  | case3 low high hle => omega

theorem bisect_eq (hparted : IsParted before items) :
    bisect before items 0 items.length = (items.takeWhile before).length :=
  bisect_eq_of_between hparted 0 items.length (Nat.zero_le _)
    (List.takeWhile_prefix before).length_le

theorem getElem?_length_takeWhile (before : α → Bool) (items : List α) :
    items[(items.takeWhile before).length]? = (items.dropWhile before).head? := by
  have hsplit := List.takeWhile_append_dropWhile (p := before) (l := items)
  calc items[(items.takeWhile before).length]?
      = (items.takeWhile before ++ items.dropWhile before)[(items.takeWhile before).length]? := by
        rw [hsplit]
    _ = (items.dropWhile before)[0]? := by
        rw [List.getElem?_append_right (Nat.le_refl _), Nat.sub_self]
    _ = (items.dropWhile before).head? := List.head?_eq_getElem?.symm

end Bisect

variable {ρ Recency Id : Type} {t : Timeline ρ} {d : Date}

/-- The segment of a day, looked for by halving: the first that does not end before the day,
provided it has the day. -/
def segmentByHalving? (t : Timeline ρ) (d : Date) : Option (Segment ρ) :=
  t.segments[bisect (fun s => s.period.stop < d) t.segments 0 t.segments.length]?.filter
    fun s => s.period.containsDate d

theorem isParted_segments (horder : InOrder t.periods) (d : Date) :
    IsParted (fun s => s.period.stop < d) t.segments := by
  refine (List.pairwise_map.mp horder).imp fun {a b} hlt hover => ?_
  rw [decide_eq_true_eq, Period.stop_lt_iff] at hover ⊢
  have hle := b.period.first_le_last
  omega

theorem segmentByHalving?_eq (horder : InOrder t.periods) (d : Date) :
    t.segmentByHalving? d = t.segmentAt? d := by
  rw [segmentByHalving?, bisect_eq (isParted_segments horder d), getElem?_length_takeWhile]
  rfl

/-- The segment that is found is the only one with the date. -/
theorem filter_mem_segments (horder : InOrder t.periods) (d : Date) :
    t.segments.filter (fun s => d ∈ s.period) = (t.segmentAt? d).toList := by
  simp only [Period.mem_iff_hasMonth]
  cases hfound : t.segmentAt? d with
  | none =>
      rw [segmentAt?_eq_none_iff horder] at hfound
      exact List.filter_eq_nil_iff.mpr fun s hs => by simpa using hfound s hs
  | some s =>
      rw [segmentAt?_eq_some_iff horder] at hfound
      exact horder.filter_eq hfound.1 hfound.2

variable [TimedRecord ρ Recency Id] [Ord Recency] [Ord Id]
variable {fresh : Nat → Id} {window : Period} {records : List ρ}

theorem isSome_segmentAt?_iff : ((reconcile fresh window records).segmentAt? d).isSome ↔
    d ∈ window ∧ ∃ r ∈ records, d ∈ TimedRecord.period r := by
  have horder := (areRuns_reconcile fresh window records).inOrder
  have hcovers :
      Coverage.CoversMonth (reconcile fresh window records).periods d.monthNumber ↔ _ :=
    coversMonth_periods_iff
  simp only [Option.isSome_iff_exists, segmentAt?_eq_some_iff horder, Period.mem_iff_hasMonth]
  rw [← hcovers]
  simp only [Coverage.CoversMonth, periods, List.mem_map, exists_exists_and_eq_and]

variable [Std.TransOrd Recency] [Std.TransOrd Id]

/-- What is found on a date is the strongest of the records that have the date, narrowed. -/
theorem exists_strongest_of_segmentAt? {s : Segment ρ}
    (hfound : (reconcile fresh window records).segmentAt? d = some s) :
    ∃ (r : Placed ρ) (id : Id), s.record = TimedRecord.clip r.1 id s.period ∧
      r ∈ records.zipIdx ∧ d ∈ TimedRecord.period r.1 ∧
      ∀ other ∈ records.zipIdx, d ∈ TimedRecord.period other.1 → other.2 ≠ r.2 →
        compareStrength other r = .lt := by
  rw [segmentAt?_eq_some_iff (areRuns_reconcile fresh window records).inOrder] at hfound
  obtain ⟨hs, hm⟩ := hfound
  obtain ⟨i, hi⟩ := List.mem_iff_getElem?.mp hs
  obtain ⟨r, hrecord, hwins⟩ := winner_of_getElem? hi
  have hstrongest := isStrongest_of_winner? (hwins _ hm)
  refine ⟨r, fresh i, hrecord, hstrongest.mem, Period.mem_iff_hasMonth.mpr hstrongest.has, ?_⟩
  intro other hother hd
  exact hstrongest.beats other hother (Period.mem_iff_hasMonth.mp hd)

/-- The look-up by halving agrees with a plain search, on every date: it finds the one segment that
has the date, or nothing if there is none. It finds something exactly on the dates of the window
that some record has, and then the strongest of these records, narrowed to the segment. -/
theorem segmentAt?_reconcile (fresh : Nat → Id) (window : Period) (records : List ρ) (d : Date) :
    let t := reconcile fresh window records
    t.segmentByHalving? d = t.segmentAt? d ∧
    t.segments.filter (fun s => d ∈ s.period) = (t.segmentAt? d).toList ∧
    ((t.segmentAt? d).isSome ↔ d ∈ window ∧ ∃ r ∈ records, d ∈ TimedRecord.period r) ∧
    ∀ s, t.segmentAt? d = some s → ∃ (r : Placed ρ) (id : Id),
      s.record = TimedRecord.clip r.1 id s.period ∧
      r ∈ records.zipIdx ∧ d ∈ TimedRecord.period r.1 ∧
      ∀ other ∈ records.zipIdx, d ∈ TimedRecord.period other.1 → other.2 ≠ r.2 →
        compareStrength other r = .lt := by
  intro t
  have horder : InOrder t.periods := (areRuns_reconcile fresh window records).inOrder
  exact ⟨segmentByHalving?_eq horder d, filter_mem_segments horder d, isSome_segmentAt?_iff,
    fun _ hfound => exists_strongest_of_segmentAt? hfound⟩

/-- On the last of March the newer of two awards is found, although the older one has that day too
and comes later in the input; in July there is none. -/
theorem segmentAt?_reconcile_two_awards :
    let months (first last : Int) (h : (Period.ofMonths? first last).isSome) : Period :=
      (Period.ofMonths? first last).get h
    let older : Award := ⟨"older", months 0 3 rfl, 1, 7, []⟩
    let newer : Award := ⟨"newer", months 2 5 rfl, 2, 3, []⟩
    let t := reconcile (fun n => (n : Int)) (months 0 6 rfl) [newer, older]
    t.segmentByHalving? ⟨0, 3, 31, by decide, by decide, by decide⟩ =
      some ⟨months 2 5 rfl, newer⟩ ∧
    t.segmentByHalving? ⟨0, 7, 1, by decide, by decide, by decide⟩ = none := by
  intro months older newer t
  have hmarch := segmentAt?_reconcile (fun n => (n : Int)) (months 0 6 rfl) [newer, older]
    ⟨0, 3, 31, by decide, by decide, by decide⟩
  have hjuly := segmentAt?_reconcile (fun n => (n : Int)) (months 0 6 rfl) [newer, older]
    ⟨0, 7, 1, by decide, by decide, by decide⟩
  refine ⟨hmarch.1.trans ?_, hjuly.1.trans ?_⟩
  · unfold months older newer
    cbv
  · unfold months older newer
    cbv

end Monthwise.Timeline
