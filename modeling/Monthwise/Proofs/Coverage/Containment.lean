import Mathlib
import Monthwise.Proofs.ByDays.Coverage
import Monthwise.Proofs.Coverage.Complement

/-! # What contains a list

The span of a list is the least period that contains every member, and the list is one
unbroken run exactly if it fills its span. A list of containers, on the other hand, may
cover an item without any one of them containing it, where the item reaches over two
containers that touch. Reducing the containers first joins these, so that covered and
contained come to the same.
-/

namespace Monthwise

namespace Period

variable {p q r : Period}

theorem contains_antisymm (hpq : p.contains q) (hqp : q.contains p) : p = q := by
  rw [contains_iff] at hpq hqp
  apply Period.ext <;> omega

theorem contains_hull_iff : r.contains (p.hull q) ↔ r.contains p ∧ r.contains q := by
  simp only [contains_iff, hull]
  omega

end Period

namespace Coverage

variable {p q s : Period} {ps containers items : List Period} {month : Int}

section Span

theorem containsAll_iff : q.containsAll ps ↔ ∀ p ∈ ps, q.contains p := List.all_eq_true

theorem contains_foldl_hull_iff :
    q.contains (ps.foldl Period.hull p) ↔ q.contains p ∧ ∀ r ∈ ps, q.contains r := by
  induction ps generalizing p with
  | nil => simp
  | cons r rest ih =>
      rw [List.foldl_cons, ih, Period.contains_hull_iff, List.forall_mem_cons, and_assoc]

theorem span?_eq_none_iff : span? ps = none ↔ ps = [] := by
  cases ps with
  | nil => simp [span?]
  | cons p rest => simp [span?]

/-- A period contains the span exactly if it contains every member. -/
theorem contains_span_iff (hspan : span? ps = some s) : q.contains s ↔ q.containsAll ps := by
  cases ps with
  | nil => cases hspan
  | cons p rest =>
      obtain rfl := Option.some.inj hspan
      rw [contains_foldl_hull_iff, containsAll_iff, List.forall_mem_cons]

theorem containsAll_span (hspan : span? ps = some s) : s.containsAll ps :=
  (contains_span_iff hspan).mp s.contains_refl

theorem span?_eq_some_iff : span? ps = some s ↔
    ps ≠ [] ∧ s.containsAll ps ∧ ∀ q : Period, q.containsAll ps → q.contains s := by
  constructor
  · intro hspan
    refine ⟨?_, containsAll_span hspan, fun q hq => (contains_span_iff hspan).mpr hq⟩
    rintro rfl
    cases hspan
  · rintro ⟨hne, hall, hleast⟩
    obtain ⟨t, hspan⟩ := Option.ne_none_iff_exists'.mp (span?_eq_none_iff.not.mpr hne)
    rw [hspan, Period.contains_antisymm (hleast t (containsAll_span hspan))
      ((contains_span_iff hspan).mpr hall)]

end Span

section Contiguous

/-- A list that fills its span leaves no gap in it. -/
theorem reduce_span_iff (hspan : span? ps = some s) : reduce ps = [s] ↔ gaps s ps = [] := by
  have hfull : fullyCoveredBy s ps ↔ gaps s ps = [] ∧ s.containsAll ps := fullyCoveredBy_iff_gaps
  rw [fullyCoveredBy, decide_eq_true_eq] at hfull
  rw [hfull, and_iff_left (containsAll_span hspan)]

/-- Of a list that reduces to one period this period is the span. -/
theorem span?_of_reduce (hreduce : reduce ps = [s]) : span? ps = some s := by
  have hsame : ∀ m, CoversMonth ps m ↔ s.HasMonth m := by
    intro m
    rw [← coversMonth_reduce, hreduce]
    simp [CoversMonth]
  refine span?_eq_some_iff.mpr ⟨?_, ?_, fun q hq => ?_⟩
  · obtain ⟨p, hp, -⟩ := (hsame s.first).mpr s.has_first
    exact List.ne_nil_of_mem hp
  · exact containsAll_iff_coversMonth.mpr fun m hm => (hsame m).mp hm
  · rw [containsAll_iff_coversMonth] at hq
    exact Period.contains_of_hasMonth fun m hm => hq m ((hsame m).mpr hm)

theorem isContiguous_iff_reduce :
    isContiguous ps ↔ ∃ s, span? ps = some s ∧ reduce ps = [s] := by
  rw [isContiguous, beq_iff_eq, List.length_eq_one_iff]
  exact exists_congr fun s => ⟨fun h => ⟨span?_of_reduce h, h⟩, And.right⟩

/-- Every list has a span but the empty one. It is the least period that contains every member, and
the earliest start and the latest end of the members always pass the checks by which a period is
made of two dates. A list is one unbroken run exactly if it reduces to its span, that is, if it is
not empty and leaves no gap in its span. -/
theorem span?_exact (ps : List Period) :
    ByDays.span? ps = .ok (span? ps) ∧
    (span? ps = none ↔ ps = []) ∧
    (∀ s, span? ps = some s ↔
      ps ≠ [] ∧ s.containsAll ps ∧ ∀ q : Period, q.containsAll ps → q.contains s) ∧
    (isContiguous ps ↔ ∃ s, span? ps = some s ∧ reduce ps = [s]) ∧
    (isContiguous ps ↔ ps ≠ [] ∧ ∃ s, span? ps = some s ∧ gaps s ps = []) := by
  refine ⟨ByDays.span?_eq ps, span?_eq_none_iff, fun _ => span?_eq_some_iff,
    isContiguous_iff_reduce, ?_⟩
  rw [isContiguous_iff_reduce]
  constructor
  · rintro ⟨s, hspan, hreduce⟩
    exact ⟨(span?_eq_some_iff.mp hspan).1, s, hspan, (reduce_span_iff hspan).mp hreduce⟩
  · rintro ⟨-, s, hspan, hgaps⟩
    exact ⟨s, hspan, (reduce_span_iff hspan).mpr hgaps⟩

end Contiguous

section Containers

theorem containsAll_iff_exists :
    containsAll containers items ↔ ∀ item ∈ items, ∃ p ∈ containers, p.contains item := by
  simp only [containsAll, List.all_eq_true, List.any_eq_true]

/-- A period that separated periods cover lies in one of them. -/
theorem Separated.exists_contains_iff (hsep : Separated ps) :
    (∃ p ∈ ps, p.contains q) ↔ ∀ d ∈ q, Covers ps d := by
  constructor
  · rintro ⟨p, hp, hinside⟩ d hd
    exact ⟨p, hp, Period.contains_iff_dates.mp hinside hd⟩
  · intro hcovered
    obtain ⟨p, hp, hstart⟩ := hcovered q.start q.start_mem_dates
    refine ⟨p, hp, Period.contains_iff_dates.mpr ?_⟩
    exact hsep.subset_of_unbroken hp q.unbroken_dates hcovered q.start_mem_dates hstart

theorem covers_reduce {d : Date} : Covers (reduce ps) d ↔ Covers ps d :=
  forall_covers_iff.mpr (fun _ => coversMonth_reduce) d

theorem containsAll_reduce_iff :
    containsAll (reduce containers) items ↔ ∀ item ∈ items, ∀ d ∈ item, Covers containers d := by
  simp only [containsAll_iff_exists, (separated_reduce containers).exists_contains_iff,
    covers_reduce]

theorem subtractAll_eq_nil_iff :
    subtractAll items containers = [] ↔ ∀ item ∈ items, ∀ d ∈ item, Covers containers d := by
  simp only [subtractAll, List.flatMap_eq_nil_iff, ← gaps_eq_remainder, gaps_eq_nil_iff_covers]

/-- Reduced containers contain the items exactly if the containers, taken together, cover every date
of every item, that is, if nothing is left of the items when the containers are taken away. Items
that are contained as things stand are among these. -/
theorem containsAll_reduce (containers items : List Period) :
    (containsAll (reduce containers) items ↔
      ∀ item ∈ items, ∀ d ∈ item, Covers containers d) ∧
    (containsAll (reduce containers) items ↔ subtractAll items containers = []) ∧
    (containsAll containers items → containsAll (reduce containers) items) := by
  refine ⟨containsAll_reduce_iff, ?_, fun hcontained => ?_⟩
  · rw [containsAll_reduce_iff, subtractAll_eq_nil_iff]
  · rw [containsAll_iff_exists] at hcontained
    refine containsAll_reduce_iff.mpr fun item hitem d hd => ?_
    obtain ⟨p, hp, hinside⟩ := hcontained item hitem
    exact ⟨p, hp, Period.contains_iff_dates.mp hinside hd⟩

/-- An item of two months over the turn of a year, and containers that touch at the turn. -/
example :
    let containers : List Period := [⟨-3, -1, by decide, by decide, by decide⟩,
      ⟨0, 2, by decide, by decide, by decide⟩]
    let item : Period := ⟨-1, 0, by decide, by decide, by decide⟩
    containsAll containers [item] = false ∧ containsAll (reduce containers) [item] = true := by
  cbv

end Containers

end Coverage

end Monthwise
