import Mathlib
import Monthwise.Award
import Monthwise.Proofs.Timeline.Segments

/-! # The overlay of records

Reconciling records over a window gives every month to its strongest record and
nothing else: the segments are the longest stretches with one strongest record.
-/

namespace Monthwise.Timeline

variable {ρ Recency Id : Type} [TimedRecord ρ Recency Id] [Ord Recency] [Ord Id]

/-- What the segments of a timeline owe to its records. A month has one strongest record by
`IsStrongest.unique`. -/
structure IsOverlay (fresh : Nat → Id) (window : Period) (records : List ρ)
    (segments : List (Segment ρ)) : Prop where
  /-- The segments have the months of the window that some record has. -/
  covered : ∀ month, window.HasMonth month → ((∃ s ∈ segments, s.period.HasMonth month) ↔
    ∃ r ∈ records, (TimedRecord.period r).HasMonth month)
  /-- A month of a segment is in no other. -/
  alone : ∀ s ∈ segments, ∀ month, s.period.HasMonth month →
    segments.filter (·.period.HasMonth month) = [s]
  /-- A segment holds the strongest record of its months, narrowed to it and under the identity
  that is due to it. -/
  strongest : ∀ i s, segments[i]? = some s → ∃ r : Placed ρ,
    s.record = TimedRecord.clip r.1 (fresh i) s.period ∧
    ∀ month, s.period.HasMonth month → IsStrongest records month r
  /-- The segments come in chronological order and share no month. -/
  ordered : segments.Pairwise fun s t => s.period.last < t.period.first
  inside : ∀ s ∈ segments, window.first ≤ s.period.first ∧ s.period.last ≤ window.last
  /-- Where two segments touch, the record changes. -/
  maximal : ∀ s ∈ segments, ∀ t ∈ segments, s.period.last + 1 = t.period.first → ∀ a b,
    IsStrongest records s.period.last a → IsStrongest records t.period.first b → a.2 ≠ b.2

variable {fresh : Nat → Id} {window : Period} {records : List ρ} {month : Int}
variable {segments segments' : List (Segment ρ)}

theorem colour_ne_none_iff (hm : window.HasMonth month) :
    colour window records month ≠ none ↔
      ∃ r ∈ records, (TimedRecord.period r).HasMonth month := by
  rw [colour_of_hasMonth hm, Ne, winningPlace?_eq_none_iff, winner?_eq_none_iff, not_not]

/-- The segments have the months of the window that some record has. -/
theorem coversMonth_periods_iff :
    Coverage.CoversMonth (reconcile fresh window records).periods month ↔
      window.HasMonth month ∧ ∃ r ∈ records, (TimedRecord.period r).HasMonth month := by
  have hruns := areRuns_reconcile fresh window records
  constructor
  · intro hcovered
    have hcoloured := hruns.coloured_iff.mpr hcovered
    have hm := hasMonth_of_colour hcoloured
    exact ⟨hm, (colour_ne_none_iff hm).mp hcoloured⟩
  · rintro ⟨hm, hhas⟩
    exact hruns.coloured_iff.mp ((colour_ne_none_iff hm).mpr hhas)

theorem covered_reconcile (hm : window.HasMonth month) :
    (∃ s ∈ (reconcile fresh window records).segments, s.period.HasMonth month) ↔
      ∃ r ∈ records, (TimedRecord.period r).HasMonth month := by
  have hcovers : Coverage.CoversMonth (reconcile fresh window records).periods month ↔ _ :=
    coversMonth_periods_iff
  rw [and_iff_right hm] at hcovers
  simpa only [Coverage.CoversMonth, periods, List.mem_map, exists_exists_and_eq_and] using hcovers

theorem IsOverlay.hasMonth (hoverlay : IsOverlay fresh window records segments) {s : Segment ρ}
    (hs : s ∈ segments) (hm : s.period.HasMonth month) : window.HasMonth month := by
  obtain ⟨hfirst, hlast⟩ := hoverlay.inside s hs
  exact ⟨Int.le_trans hfirst hm.1, Int.le_trans hm.2 hlast⟩

theorem IsOverlay.exists_of_colour (hoverlay : IsOverlay fresh window records segments)
    (hcoloured : colour window records month ≠ none) : ∃ s ∈ segments, s.period.HasMonth month := by
  have hwindow := hasMonth_of_colour hcoloured
  exact (hoverlay.covered month hwindow).mpr ((colour_ne_none_iff hwindow).mp hcoloured)

/-- A coloured month outside a segment is in another one, and the two share no month. -/
theorem IsOverlay.exists_beside (hoverlay : IsOverlay fresh window records segments)
    {s : Segment ρ} (hs : s ∈ segments) (hm : ¬ s.period.HasMonth month)
    (hcoloured : colour window records month ≠ none) :
    ∃ t ∈ segments, t.period.HasMonth month ∧ ∀ m, s.period.HasMonth m → ¬ t.period.HasMonth m := by
  obtain ⟨t, ht, htm⟩ := hoverlay.exists_of_colour hcoloured
  refine ⟨t, ht, htm, fun m hsm htm' => ?_⟩
  have hsame : [s] = [t] := (hoverlay.alone s hs m hsm).symm.trans (hoverlay.alone t ht m htm')
  rw [List.cons.injEq] at hsame
  exact hm (hsame.1 ▸ htm)

theorem IsOverlay.exists_strongest (hoverlay : IsOverlay fresh window records segments)
    {s : Segment ρ} (hs : s ∈ segments) :
    ∃ r, ∀ month, s.period.HasMonth month → IsStrongest records month r := by
  obtain ⟨i, hi⟩ := List.mem_iff_getElem?.mp hs
  obtain ⟨r, -, hstrongest⟩ := hoverlay.strongest i s hi
  exact ⟨r, hstrongest⟩

variable [Std.TransOrd Recency] [Std.TransOrd Id]

theorem colour_of_isStrongest {r : Placed ρ} (hm : window.HasMonth month)
    (hr : IsStrongest records month r) : colour window records month = some r.2 := by
  rw [colour_of_hasMonth hm, winningPlace?, winner?_eq_some_iff.mpr hr, Option.map_some]

/-- All of a segment has one colour. -/
theorem IsOverlay.exists_colour (hoverlay : IsOverlay fresh window records segments)
    {s : Segment ρ} (hs : s ∈ segments) :
    ∃ place, ∀ month, s.period.HasMonth month → colour window records month = some place := by
  obtain ⟨r, hr⟩ := hoverlay.exists_strongest hs
  exact ⟨r.2, fun month hm => colour_of_isStrongest (hoverlay.hasMonth hs hm) (hr month hm)⟩

/-- The colour changes between segments that touch. -/
theorem IsOverlay.colour_change (hoverlay : IsOverlay fresh window records segments)
    {s t : Segment ρ} (hs : s ∈ segments) (ht : t ∈ segments)
    (htouch : s.period.last + 1 = t.period.first) :
    colour window records s.period.last ≠ colour window records t.period.first := by
  obtain ⟨a, ha⟩ := hoverlay.exists_strongest hs
  obtain ⟨b, hb⟩ := hoverlay.exists_strongest ht
  have hlast := ha s.period.last s.period.has_last
  have hfirst := hb t.period.first t.period.has_first
  rw [colour_of_isStrongest (hoverlay.hasMonth hs s.period.has_last) hlast,
    colour_of_isStrongest (hoverlay.hasMonth ht t.period.has_first) hfirst, Ne,
    Option.some.injEq]
  exact hoverlay.maximal s hs t ht htouch a b hlast hfirst

/-- With the colour of a segment, the month before would end a segment that touches it. -/
theorem IsOverlay.colour_opens (hoverlay : IsOverlay fresh window records segments)
    {s : Segment ρ} (hs : s ∈ segments) :
    colour window records (s.period.first - 1) ≠ colour window records s.period.first := by
  intro heq
  obtain ⟨place, hcolour⟩ := hoverlay.exists_colour hs
  have hcoloured : colour window records (s.period.first - 1) ≠ none := by
    rw [heq, hcolour _ s.period.has_first]
    exact Option.some_ne_none _
  have hout : ¬ s.period.HasMonth (s.period.first - 1) := fun hm => by
    have := hm.1
    omega
  obtain ⟨t, ht, htm, hapart⟩ := hoverlay.exists_beside hs hout hcoloured
  have hfree := hapart s.period.first s.period.has_first
  have htouch : t.period.last = s.period.first - 1 := by
    simp only [Period.HasMonth] at htm hfree
    omega
  apply hoverlay.colour_change ht hs (by omega)
  rw [htouch, heq]

/-- With the colour of a segment, the month after would begin a segment that touches it. -/
theorem IsOverlay.colour_closes (hoverlay : IsOverlay fresh window records segments)
    {s : Segment ρ} (hs : s ∈ segments) :
    colour window records s.period.last ≠ colour window records (s.period.last + 1) := by
  intro heq
  obtain ⟨place, hcolour⟩ := hoverlay.exists_colour hs
  have hcoloured : colour window records (s.period.last + 1) ≠ none := by
    rw [← heq, hcolour _ s.period.has_last]
    exact Option.some_ne_none _
  have hout : ¬ s.period.HasMonth (s.period.last + 1) := fun hm => by
    have := hm.2
    omega
  obtain ⟨t, ht, htm, hapart⟩ := hoverlay.exists_beside hs hout hcoloured
  have hfree := hapart s.period.last s.period.has_last
  have htouch : s.period.last + 1 = t.period.first := by
    simp only [Period.HasMonth] at htm hfree
    omega
  apply hoverlay.colour_change hs ht htouch
  rw [← htouch, heq]

theorem IsOverlay.isRun (hoverlay : IsOverlay fresh window records segments) {s : Segment ρ}
    (hs : s ∈ segments) : IsRun (colour window records) s.period := by
  obtain ⟨place, hcolour⟩ := hoverlay.exists_colour hs
  refine ⟨?coloured, ?joined, hoverlay.colour_opens hs, hoverlay.colour_closes hs⟩
  case coloured =>
    intro m hm
    rw [hcolour m hm]
    exact Option.some_ne_none _
  case joined =>
    intro m hfirst hlast
    rw [hcolour m ⟨hfirst, by omega⟩, hcolour (m + 1) ⟨by omega, by omega⟩]

/-- The periods of an overlay are the runs of months with one winner. -/
theorem IsOverlay.areRuns (hoverlay : IsOverlay fresh window records segments) :
    AreRuns (colour window records) (segments.map (·.period)) where
  inOrder := List.pairwise_map.mpr hoverlay.ordered
  isRun p hp := by
    obtain ⟨s, hs, rfl⟩ := List.mem_map.mp hp
    exact hoverlay.isRun hs
  exhaustive m hcoloured := by
    obtain ⟨s, hs, hm⟩ := hoverlay.exists_of_colour hcoloured
    exact ⟨s.period, List.mem_map_of_mem hs, hm⟩

/-- Nothing is left open: there is one overlay. -/
theorem IsOverlay.unique (hoverlay : IsOverlay fresh window records segments)
    (hoverlay' : IsOverlay fresh window records segments') : segments = segments' := by
  have hperiods := hoverlay.areRuns.unique hoverlay'.areRuns
  have hsegments : segments.map id = segments'.map id := by
    apply map_eq_map_of_periods hperiods
    intro i s s' hs hs' hperiod
    obtain ⟨r, hrecord, hr⟩ := hoverlay.strongest i s hs
    obtain ⟨r', hrecord', hr'⟩ := hoverlay'.strongest i s' hs'
    have hfirst := s.period.has_first
    obtain rfl := (hr _ hfirst).unique (hr' _ (hperiod ▸ hfirst))
    cases s
    cases s'
    simp_all
  simpa using hsegments

/-- A timeline is the overlay of its records. -/
theorem isOverlay_reconcile (fresh : Nat → Id) (window : Period) (records : List ρ) :
    IsOverlay fresh window records (reconcile fresh window records).segments where
  covered month hm := covered_reconcile hm
  alone s hs month hm := by
    have horder := (segmented_reconcile fresh window records).inOrder
    exact horder.filter_eq hs hm
  strongest i s hs := by
    obtain ⟨r, hrecord, hwins⟩ := winner_of_getElem? hs
    exact ⟨r, hrecord, fun month hm => isStrongest_of_winner? (hwins month hm)⟩
  ordered := List.pairwise_map.mp (segmented_reconcile fresh window records).inOrder
  inside s hs := by
    have hfirst := window_hasMonth_of_mem_segments hs s.period.has_first
    have hlast := window_hasMonth_of_mem_segments hs s.period.has_last
    exact ⟨hfirst.1, hlast.2⟩
  maximal s hs t ht htouch a b ha hb hplace := by
    have hlast := window_hasMonth_of_mem_segments hs s.period.has_last
    have hfirst := window_hasMonth_of_mem_segments ht t.period.has_first
    apply (isRun_of_mem_segments hs).closes
    rw [htouch, colour_of_isStrongest hlast ha, colour_of_isStrongest hfirst hb, hplace]

/-- The newer of two awards comes first in the input and has the smaller identity, and still takes
March and April from the older one. -/
theorem isOverlay_two_awards :
    let months (first last : Int) (h : (Period.ofMonths? first last).isSome) : Period :=
      (Period.ofMonths? first last).get h
    let older : Award := ⟨"older", months 0 3 rfl, 1, 7, []⟩
    let newer : Award := ⟨"newer", months 2 5 rfl, 2, 3, []⟩
    IsOverlay (fun n => (n : Int)) (months 0 6 rfl) [newer, older]
      [⟨months 0 1 rfl, { older with period := months 0 1 rfl }⟩, ⟨months 2 5 rfl, newer⟩] := by
  intro months older newer
  have hsegments : (reconcile (fun n => (n : Int)) (months 0 6 rfl) [newer, older]).segments =
      [⟨months 0 1 rfl, { older with period := months 0 1 rfl }⟩, ⟨months 2 5 rfl, newer⟩] := by
    unfold months older newer
    cbv
  rw [← hsegments]
  exact isOverlay_reconcile _ _ _

end Monthwise.Timeline
