import Mathlib
import Monthwise.Proofs.Coverage.Complement
import Monthwise.Proofs.Timeline.Bookkeeping

/-! # Timelines are short

However long a window is and however often a record comes back in it, a timeline has fewer
than two segments for each record. A segment begins where its record begins, or with the
window, or in the month after some stronger record; and nothing begins after the record
that ends last. A gap begins with the window or in the month after a record.
-/

namespace Monthwise

/-- Periods in order begin at different months. -/
theorem InOrder.length_le_of_first_mem {ps : List Period} {months : List Int} (horder : InOrder ps)
    (hmem : ∀ p ∈ ps, p.first ∈ months) : ps.length ≤ months.length := by
  have hnodup : (ps.map (·.first)).Nodup := by
    refine List.pairwise_map.mpr (horder.imp fun {p q} hlt heq => ?_)
    have hle := p.first_le_last
    omega
  have hsubset : ps.map (·.first) ⊆ months := by
    intro m hm
    obtain ⟨p, hp, rfl⟩ := List.mem_map.mp hm
    exact hmem p hp
  simpa using hnodup.length_le_of_subset hsubset

/-- The month after the last of a period. -/
def Period.monthAfter (p : Period) : Int := p.last + 1

theorem Period.monthAfter_eq {p : Period} {month : Int} (hbefore : p.HasMonth (month - 1))
    (hover : ¬ p.HasMonth month) : p.monthAfter = month := by
  obtain ⟨hfirst, hlast⟩ := hbefore
  have hend : ¬ month ≤ p.last := fun hle => hover ⟨by omega, hle⟩
  unfold monthAfter
  omega

namespace Coverage

/-- A gap begins with the window or in the month after a member. -/
theorem first_mem_of_mem_gaps {window gap : Period} {ps : List Period}
    (hgap : gap ∈ gaps window ps) : gap.first ∈ window.first :: ps.map Period.monthAfter := by
  obtain ⟨hinside, hfree⟩ := coversMonth_gaps.mp ⟨gap, hgap, gap.has_first⟩
  have hbefore := ((separated_gaps window ps).free_beside hgap).1
  rw [coversMonth_gaps, not_and, not_not] at hbefore
  by_cases hwindow : window.HasMonth (gap.first - 1)
  · obtain ⟨p, hp, hpm⟩ := hbefore hwindow
    have hafter : p.monthAfter = gap.first := Period.monthAfter_eq hpm fun hm => hfree ⟨p, hp, hm⟩
    exact List.mem_cons_of_mem _ (List.mem_map.mpr ⟨p, hp, hafter⟩)
  · have hstart : gap.first = window.first := by
      unfold Period.HasMonth at hinside hwindow
      omega
    exact hstart ▸ List.mem_cons_self

theorem length_gaps_le (window : Period) (ps : List Period) :
    (gaps window ps).length ≤ ps.length + 1 := by
  have hle := (inOrder_gaps window ps).length_le_of_first_mem fun _ => first_mem_of_mem_gaps
  simpa using hle

end Coverage

namespace Timeline

theorem getLast?_filter_concat {α : Type} (as : List α) (c : α) (kind : α → Bool) :
    ((as ++ [c]).filter kind).getLast? =
      if kind c then some c else (as.filter kind).getLast? := by
  rw [List.filter_append, List.filter_singleton]
  split_ifs with hc
  · simp [hc]
  · simp [hc]

/-- The last elements of two kinds are the same element if each of them is of both kinds. -/
theorem eq_of_getLast?_filter {α : Type} {as : List α} {kind kind' : α → Bool} {a b : α}
    (ha : (as.filter kind).getLast? = some a) (hb : (as.filter kind').getLast? = some b)
    (ha' : kind' a) (hb' : kind b) : a = b := by
  induction as using List.reverseRecOn with
  | nil => cases ha
  | append_singleton as c ih =>
      rw [getLast?_filter_concat] at ha hb
      split_ifs at ha hb with hc hc'
      · exact Option.some.inj (ha.symm.trans hb)
      · obtain rfl := Option.some.inj ha
        exact absurd ha' hc'
      · obtain rfl := Option.some.inj hb
        exact absurd hb' hc
      · exact ih ha hb

variable {ρ Recency Id : Type} [TimedRecord ρ Recency Id] [Ord Recency] [Ord Id]
variable {fresh : Nat → Id} {window p : Period} {records : List ρ} {month : Int}

/-- Two months have the same winner if either winner has both of them. -/
theorem winner?_eq_of_has {month' : Int} {a b : Placed ρ} (ha : winner? records month = some a)
    (hb : winner? records month' = some b) (ha' : Has a month') (hb' : Has b month) : a = b :=
  eq_of_getLast?_filter ha hb (decide_eq_true ha') (decide_eq_true hb')

/-- The month of the window in which a record begins to be seen. -/
def opening (window : Period) (r : ρ) : Int := max (TimedRecord.period r).first window.first

/-- The first month that a record has no more. -/
def closing (r : ρ) : Int := (TimedRecord.period r).monthAfter

/-- The record that wins the first month of a segment. -/
theorem exists_winner_of_isRun (hrun : IsRun (colour window records) p) :
    ∃ r, winner? records p.first = some r := by
  have hcoloured := hrun.coloured p.first p.has_first
  rw [colour_of_hasMonth (hasMonth_of_colour hcoloured), Ne, winningPlace?_eq_none_iff] at hcoloured
  exact Option.ne_none_iff_exists'.mp hcoloured

theorem fst_mem_of_winner? {r : Placed ρ} (hr : winner? records month = some r) :
    r.1 ∈ records :=
  List.fst_mem_of_mem_zipIdx (mem_of_winner? hr).1

/-- A segment begins before its record is over. -/
theorem exists_first_lt_closing (hrun : IsRun (colour window records) p) :
    ∃ r ∈ records, p.first < closing r := by
  obtain ⟨r, hr⟩ := exists_winner_of_isRun hrun
  refine ⟨r.1, fst_mem_of_winner? hr, ?_⟩
  have hlast := (mem_of_winner? hr).2.2
  unfold closing Period.monthAfter
  omega

/-- A segment begins where a record begins to be seen or where one is over. -/
theorem first_mem_of_isRun (hrun : IsRun (colour window records) p) :
    p.first ∈ records.map (opening window) ∨ p.first ∈ records.map closing := by
  obtain ⟨r, hr⟩ := exists_winner_of_isRun hrun
  have hwindow : window.HasMonth p.first := hasMonth_of_colour (hrun.coloured _ p.has_first)
  have hhas := (mem_of_winner? hr).2
  by_cases hbefore : window.HasMonth (p.first - 1) ∧ Has r (p.first - 1)
  · -- the month before belongs to a stronger record, which is over now
    obtain ⟨hprevious, hhas'⟩ := hbefore
    right
    cases hwinner : winner? records (p.first - 1) with
    | none => exact absurd ⟨r.1, fst_mem_of_winner? hr, hhas'⟩ (winner?_eq_none_iff.mp hwinner)
    | some stronger =>
        have hover : ¬ Has stronger p.first := by
          intro hstill
          obtain rfl := winner?_eq_of_has hwinner hr hstill hhas'
          apply hrun.opens
          rw [colour_of_hasMonth hprevious, colour_of_hasMonth hwindow, winningPlace?,
            winningPlace?, hwinner, hr]
        exact List.mem_map.mpr ⟨stronger.1, fst_mem_of_winner? hwinner,
          Period.monthAfter_eq (mem_of_winner? hwinner).2 hover⟩
  · left
    refine List.mem_map.mpr ⟨r.1, fst_mem_of_winner? hr, ?_⟩
    unfold Has Period.HasMonth at hhas hbefore
    unfold Period.HasMonth at hwindow
    unfold opening
    omega

theorem length_periods_le (fresh : Nat → Id) (window : Period) (records : List ρ) :
    (reconcile fresh window records).periods.length ≤ 2 * records.length - 1 := by
  have hruns := areRuns_reconcile fresh window records
  cases hlatest : (records.map closing).max? with
  | none =>
      have hnil : records = [] := List.map_eq_nil_iff.mp (List.max?_eq_none_iff.mp hlatest)
      have hnone : (reconcile fresh window records).periods = [] := by
        rw [List.eq_nil_iff_forall_not_mem]
        intro p hp
        obtain ⟨r, hr, -⟩ := exists_first_lt_closing (hruns.isRun p hp)
        rw [hnil] at hr
        cases hr
      rw [hnone]
      exact Nat.zero_le _
  | some latest =>
      obtain ⟨hmem, hmax⟩ := List.max?_eq_some_iff.mp hlatest
      have hevents : ∀ p ∈ (reconcile fresh window records).periods,
          p.first ∈ records.map (opening window) ++ (records.map closing).erase latest := by
        intro p hp
        have hrun := hruns.isRun p hp
        obtain ⟨r, hr, hlt⟩ := exists_first_lt_closing hrun
        have hle := hmax _ (List.mem_map_of_mem hr)
        rw [List.mem_append]
        refine (first_mem_of_isRun hrun).imp_right fun hclosing => ?_
        exact (List.mem_erase_of_ne (by omega)).mpr hclosing
      have hlength := hruns.inOrder.length_le_of_first_mem hevents
      rw [List.length_append, List.length_erase_of_mem hmem, List.length_map, List.length_map]
        at hlength
      omega

/-- A timeline of so many records, if there are any, has fewer than twice as many segments and at
most one gap more than there are records. It matters neither how long the window is nor what the
periods and the strengths of the records are. -/
theorem size_reconcile_le (fresh : Nat → Id) (window : Period) (records : List ρ) :
    (reconcile fresh window records).size ≤ 2 * records.length - 1 ∧
      (reconcile fresh window records).gaps.length ≤ records.length + 1 := by
  constructor
  · have hle := length_periods_le fresh window records
    rwa [periods, List.length_map] at hle
  · rw [gaps_reconcile]
    have hle := Coverage.length_gaps_le window (records.map TimedRecord.period)
    rwa [List.length_map] at hle

/-- Both bounds are reached: a stronger award inside another leaves three segments, and two awards
apart from each other leave three gaps. -/
example :
    let window : Period := ⟨0, 9, by decide, by decide, by decide⟩
    let award (first last : Int) (hfirst : Calendar.firstMonth ≤ first) (hle : first ≤ last)
      (hlast : last ≤ Calendar.lastMonth) : Award :=
        ⟨"", ⟨first, last, hfirst, hle, hlast⟩, first, 0, []⟩
    let inside := award 3 4 (by decide) (by decide) (by decide)
    let around := award 1 8 (by decide) (by decide) (by decide)
    let later := award 7 8 (by decide) (by decide) (by decide)
    (reconcile (fun _ => (0 : Int)) window [inside, around]).size = 3 ∧
      (reconcile (fun _ => (0 : Int)) window [inside, later]).gaps.length = 3 := by
  cbv

end Timeline

end Monthwise
