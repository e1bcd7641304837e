import Mathlib
import Monthwise.Proofs.Coverage.Shifting
import Monthwise.Proofs.Timeline.Narrowing
import Monthwise.Proofs.Timeline.Segments

/-! # Moving timelines

Records and window are moved together. The keys of the records stay what they are, so
that the same records win, only in other months; the winners change where they changed
before, and the segments move along. With this the whole algebra of periods, lists of
periods and timelines is seen to depend on the month grid alone.
-/

namespace Monthwise

section SideBySide

variable {α β : Type} {R : α → β → Prop} {as : List α} {bs : List β}

theorem forall₂_zipIdx (h : List.Forall₂ R as bs) :
    List.Forall₂ (fun a b => R a.1 b.1 ∧ a.2 = b.2) as.zipIdx bs.zipIdx := by
  rw [List.forall₂_iff_get]
  refine ⟨by simp [h.length_eq], fun i hi hi' => ?_⟩
  rw [List.length_zipIdx] at hi hi'
  simpa using h.get hi hi'

theorem rel_getLast? (h : List.Forall₂ R as bs) : Option.Rel R as.getLast? bs.getLast? := by
  have hreverse : List.Forall₂ R as.reverse bs.reverse := List.rel_reverse h
  rw [← List.head?_reverse, ← List.head?_reverse]
  generalize as.reverse = cs, bs.reverse = ds at hreverse ⊢
  cases hreverse with
  | nil => exact .none
  | cons hlast _ => exact .some hlast

end SideBySide

open Period (Moved)

/-- The second record is the first one, moved: it has the same keys. -/
structure MovedRecord {ρ Recency Id : Type} [TimedRecord ρ Recency Id] (months : Int) (r r' : ρ) :
    Prop where
  period : Moved months (TimedRecord.period r) (TimedRecord.period r')
  recency_eq : TimedRecord.recency r' = TimedRecord.recency r
  id_eq : TimedRecord.id r' = TimedRecord.id r

namespace Timeline

variable {ρ Recency Id : Type} [TimedRecord ρ Recency Id]

/-- What two records side by side say, whatever they are narrowed to. -/
structure MovedSegment (R : ρ → ρ → Prop) (months : Int) (s s' : Segment ρ) : Prop where
  period : Moved months s.period s'.period
  record : ∃ r r' fresh fresh', R r r' ∧ s.record = TimedRecord.clip r fresh s.period ∧
    s'.record = TimedRecord.clip r' fresh' s'.period

variable [Ord Recency] [Ord Id] {R : ρ → ρ → Prop} {months month : Int} {window window' : Period}
variable {records records' : List ρ}

section Winners

variable (hR : ∀ r r', R r r' → MovedRecord months r r')
variable (hrecords : List.Forall₂ R records records')
include hR hrecords

theorem ranked_moved : List.Forall₂ (fun a b : Placed ρ => R a.1 b.1 ∧ a.2 = b.2)
    (ranked records) (ranked records') := by
  refine forall₂_mergeSort (forall₂_zipIdx hrecords) fun a a' b b' hab hab' => ?_
  obtain ⟨hrecord, hplace⟩ := hab
  obtain ⟨hrecord', hplace'⟩ := hab'
  simp only [compareStrength, (hR _ _ hrecord).recency_eq, (hR _ _ hrecord).id_eq, hplace,
    (hR _ _ hrecord').recency_eq, (hR _ _ hrecord').id_eq, hplace']

/-- A moved month is won by the record that won the month, moved. -/
theorem winner?_moved (month : Int) : Option.Rel (fun a b : Placed ρ => R a.1 b.1 ∧ a.2 = b.2)
    (winner? records month) (winner? records' (month + months)) := by
  apply rel_getLast?
  refine List.rel_filter (fun a b hab => ?_) (ranked_moved hR hrecords)
  have hhas : Has b (month + months) ↔ Has a month := (hR _ _ hab.1).period.hasMonth_iff
  simp only [hhas, decide_eq_true_eq]

theorem winningPlace?_moved (month : Int) :
    winningPlace? records' (month + months) = winningPlace? records month := by
  have hrel := winner?_moved hR hrecords month
  unfold winningPlace?
  generalize winner? records month = a, winner? records' (month + months) = b at hrel ⊢
  cases hrel with
  | none => rfl
  | some h => exact congrArg some h.2.symm

variable (hwindow : Moved months window window')
include hwindow

theorem colour_moved (month : Int) :
    colour window' records' (month + months) = colour window records month := by
  simp only [colour, hwindow.hasMonth_iff, winningPlace?_moved hR hrecords]

theorem periods_moved (fresh fresh' : Nat → Id) :
    List.Forall₂ (Moved months) (reconcile fresh window records).periods
      (reconcile fresh' window' records').periods := by
  apply (areRuns_reconcile fresh window records).forall₂_moved
    (areRuns_reconcile fresh' window' records')
  · intro m
    rw [colour_moved hR hrecords hwindow]
  · intro m
    rw [colour_moved hR hrecords hwindow, colour_moved hR hrecords hwindow]

/-- The segments move along, and a segment still holds the record that it held. -/
theorem segments_moved (fresh fresh' : Nat → Id) :
    List.Forall₂ (MovedSegment R months) (reconcile fresh window records).segments
      (reconcile fresh' window' records').segments := by
  have hperiods := periods_moved hR hrecords hwindow fresh fresh'
  rw [periods, periods, List.forall₂_map_left_iff, List.forall₂_map_right_iff] at hperiods
  rw [List.forall₂_iff_get] at hperiods ⊢
  refine ⟨hperiods.1, fun i hi hi' => ⟨hperiods.2 i hi hi', ?_⟩⟩
  have hmoved := hperiods.2 i hi hi'
  obtain ⟨r, hrecord, hwins⟩ := winner_of_getElem? (List.getElem?_eq_getElem hi)
  obtain ⟨r', hrecord', hwins'⟩ := winner_of_getElem? (List.getElem?_eq_getElem hi')
  have hfirst := ((reconcile fresh window records).segments[i]).period.has_first
  have hrel := winner?_moved hR hrecords ((reconcile fresh window records).segments[i]).period.first
  rw [hwins _ hfirst, hwins' _ (hmoved.hasMonth_iff.mpr hfirst)] at hrel
  cases hrel with
  | some hrel => exact ⟨r.1, r'.1, fresh i, fresh' i, hrel.1, hrecord, hrecord'⟩

end Winners

end Timeline

namespace Entry

variable {α : Type} {months : Int}

/-- The second entry is the first one, moved. -/
structure Moved (months : Int) (e e' : Entry α) : Prop where
  period : Period.Moved months e.period e'.period
  id_eq : e'.id = e.id
  createdAt_eq : e'.createdAt = e.createdAt
  payload_eq : e'.payload = e.payload

theorem Moved.movedRecord {e e' : Entry α} (he : Moved months e e') : MovedRecord months e e' :=
  ⟨he.period, he.createdAt_eq, he.id_eq⟩

/-- A segment has moved and says of the new months what it said of the old ones. -/
structure SegmentMoved (months : Int) (s s' : Segment (Entry α)) : Prop where
  period : Period.Moved months s.period s'.period
  recordPeriod : Period.Moved months s.record.period s'.record.period
  createdAt_eq : s'.record.createdAt = s.record.createdAt
  payload_eq : s'.record.payload = s.record.payload

theorem segmentMoved_of_movedSegment {s s' : Segment (Entry α)}
    (h : Timeline.MovedSegment (Moved months) months s s') : SegmentMoved months s s' := by
  obtain ⟨period, record⟩ := s
  obtain ⟨period', record'⟩ := s'
  obtain ⟨hperiod, r, r', fresh, fresh', hr, hrecord, hrecord'⟩ := h
  simp only at hperiod hrecord hrecord'
  subst hrecord hrecord'
  exact ⟨hperiod, hperiod, hr.createdAt_eq, hr.payload_eq⟩

variable {window window' : Period} {entries entries' : List (Entry α)}

theorem segments_moved (hwindow : Period.Moved months window window')
    (hentries : List.Forall₂ (Moved months) entries entries') (fresh fresh' : Nat → Uuid) :
    List.Forall₂ (SegmentMoved months) (Timeline.reconcile fresh window entries).segments
      (Timeline.reconcile fresh' window' entries').segments :=
  (Timeline.segments_moved (fun _ _ he => he.movedRecord) hentries hwindow fresh fresh').imp
    fun _ _ => segmentMoved_of_movedSegment

end Entry

/-- Moving periods, lists of periods, windows and entries moves what is computed from them, and
changes no answer to a question about them. -/
theorem algebra_moved (months : Int) :
    (∀ p p' q q' : Period, Moved months p p' → Moved months q q' →
      Option.Rel (Moved months) (p.intersect? q) (p'.intersect? q') ∧
      Period.UnionMoved months (p.merge q) (p'.merge q') ∧
      List.Forall₂ (Moved months) (p.subtract q) (p'.subtract q') ∧
      List.Forall₂ (Moved months) p.toMonths p'.toMonths ∧
      p'.overlaps q' = p.overlaps q ∧
      p'.isAdjacentTo q' = p.isAdjacentTo q ∧
      p'.contains q' = p.contains q) ∧
    (∀ ps ps' : List Period, List.Forall₂ (Moved months) ps ps' →
      List.Forall₂ (Moved months) (Coverage.reduce ps) (Coverage.reduce ps') ∧
      Option.Rel (Moved months) (Coverage.span? ps) (Coverage.span? ps') ∧
      Coverage.hasOverlapping ps' = Coverage.hasOverlapping ps ∧
      Coverage.isContiguous ps' = Coverage.isContiguous ps ∧
      (∀ bases bases', List.Forall₂ (Moved months) bases bases' →
        List.Forall₂ (Moved months) (Coverage.subtractAll bases ps)
          (Coverage.subtractAll bases' ps')) ∧
      ∀ p p', Moved months p p' →
        List.Forall₂ (Moved months) (Coverage.gaps p ps) (Coverage.gaps p' ps') ∧
        Coverage.fullyCoveredBy p' ps' = Coverage.fullyCoveredBy p ps) ∧
    ∀ (α : Type) (window window' : Period) (entries entries' : List (Entry α)),
      Moved months window window' → List.Forall₂ (Entry.Moved months) entries entries' →
      ∀ fresh fresh', List.Forall₂ (Entry.SegmentMoved months)
        (Timeline.reconcile fresh window entries).segments
        (Timeline.reconcile fresh' window' entries').segments := by
  refine ⟨fun p p' q q' hp hq => ?_, fun ps ps' hps => ?_, ?_⟩
  · exact ⟨hp.intersect? hq, hp.merge hq, Coverage.subtract_moved hp hq, hp.toMonths,
      hp.overlaps_eq hq, hp.isAdjacentTo_eq hq, hp.contains_eq hq⟩
  · refine ⟨Coverage.reduce_moved hps, Coverage.span?_moved hps, Coverage.hasOverlapping_moved hps,
      Coverage.isContiguous_moved hps, fun bases bases' hbases => ?_, fun p p' hp => ?_⟩
    · exact Coverage.subtractAll_moved hps hbases
    · exact ⟨Coverage.gaps_moved hps hp, Coverage.fullyCoveredBy_moved hps hp⟩
  · exact fun α window window' entries entries' hwindow hentries =>
      Entry.segments_moved hwindow hentries

/-- January and February of a leap year are moved to lie on either side of the beginning of
year 0, and with them two entries, the second of which takes one month from the first. -/
theorem algebra_moved_before_year_zero :
    let months (first last : Int) (h : (Period.ofMonths? first last).isSome) : Period :=
      (Period.ofMonths? first last).get h
    let made (day : Nat) (h : (Date.ofYmd? 2021 1 day).isSome) : Instant :=
      ⟨(Date.ofYmd? 2021 1 day).get h, 0, 0, by decide, by decide, by decide⟩
    let key := Uuid.version4
    let both := months 24288 24289 rfl
    let february := months 24289 24289 rfl
    let both' := months (-1) 0 rfl
    let february' := months 0 0 rfl
    let entry (name : Nat) (period : Period) (day : Nat)
        (h : (Date.ofYmd? 2021 1 day).isSome) (text : String) : Entry String :=
      ⟨key name, period, made day h, text⟩
    Moved (-24289) both both' ∧
    both'.overlaps february' = both.overlaps february ∧
    List.Forall₂ (Moved (-24289)) (Coverage.reduce [february, both])
      (Coverage.reduce [february', both']) ∧
    List.Forall₂ (Entry.SegmentMoved (-24289))
      (Timeline.reconcile key both
        [entry 1 both 1 rfl "base", entry 2 february 2 rfl "new"]).segments
      (Timeline.reconcile key both'
        [entry 1 both' 1 rfl "base", entry 2 february' 2 rfl "new"]).segments := by
  intro months made key both february both' february' entry
  have hboth : Moved (-24289) both both' := by decide
  have hfebruary : Moved (-24289) february february' := by decide
  obtain ⟨hperiods, hlists, hentries⟩ := algebra_moved (-24289)
  refine ⟨hboth, (hperiods _ _ _ _ hboth hfebruary).2.2.2.2.1, ?_, ?_⟩
  · exact (hlists _ _ (.cons hfebruary (.cons hboth .nil))).1
  · have hbase : Entry.Moved (-24289) (entry 1 both 1 rfl "base") (entry 1 both' 1 rfl "base") :=
      ⟨hboth, rfl, rfl, rfl⟩
    have hnew : Entry.Moved (-24289) (entry 2 february 2 rfl "new")
        (entry 2 february' 2 rfl "new") := ⟨hfebruary, rfl, rfl, rfl⟩
    exact hentries String both both' _ _ hboth (.cons hbase (.cons hnew .nil)) key key

end Monthwise
