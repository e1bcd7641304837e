import Mathlib
import Monthwise.Proofs.Timeline.Narrowing
import Monthwise.Proofs.Timeline.Segments

/-! # Compaction

The records of a timeline can stand in for those that it was made of. Laid over
the same window once more, alone or together with records of other recencies,
they give the timeline that the original records give.
-/

namespace Monthwise.Timeline

variable {ρ Recency Id Content : Type} [TimedRecord ρ Recency Id]

/-- The records of the segments, in calendar order. -/
def records (t : Timeline ρ) : List ρ := t.segments.map (·.record)

/-- What a timeline says: the periods of its segments, each with the content of its record. -/
def outline [LawfulTimedRecord ρ Recency Id Content] (t : Timeline ρ) : List (Period × Content) :=
  t.segments.map fun s => (s.period, LawfulTimedRecord.content s.record)

theorem outline_ext [LawfulTimedRecord ρ Recency Id Content] {t t' : Timeline ρ}
    (hperiods : t.periods = t'.periods)
    (hcontent : ∀ (i : Nat) (s s' : Segment ρ), t.segments[i]? = some s →
      t'.segments[i]? = some s' → s.period = s'.period →
      LawfulTimedRecord.content s.record = LawfulTimedRecord.content s'.record) :
    outline t = outline t' := by
  apply map_eq_map_of_periods hperiods
  intro i s s' hs hs' hperiod
  rw [hperiod, hcontent i s s' hs hs' hperiod]

variable [Ord Recency] [Ord Id]

/-- The records cut down to the months of the window that they win. -/
def compact (fresh : Nat → Id) (window : Period) (olds : List ρ) : List ρ :=
  (reconcile fresh window olds).records

variable {fresh : Nat → Id} {window : Period} {olds news : List ρ} {month : Int}

theorem getElem?_compact {i : Nat} {r : ρ} :
    (compact fresh window olds)[i]? = some r ↔
      ∃ s, (reconcile fresh window olds).segments[i]? = some s ∧ s.record = r := by
  rw [compact, records, List.getElem?_map, Option.map_eq_some_iff]

/-- How the winners of a month correspond before and after compaction: to a record that was
compacted, the copy of it for the segment of the month; to a later record, the same. -/
inductive Corresponds (fresh : Nat → Id) (window : Period) (olds : List ρ) (month : Int) :
    Option (Placed ρ) → Option (Placed ρ) → Prop where
  | blank : Corresponds fresh window olds month none none
  | copy (i : Nat) (s : Segment ρ) (r : Placed ρ)
      (hs : (reconcile fresh window olds).segments[i]? = some s) (hm : s.period.HasMonth month)
      (hwins : winner? olds month = some r) :
      Corresponds fresh window olds month (some (s.record, i)) (some r)
  | kept (r : Placed ρ) : Corresponds fresh window olds month
      (some (behind (compact fresh window olds).length r)) (some (behind olds.length r))

theorem Corresponds.eq_none_iff {x y : Option (Placed ρ)}
    (h : Corresponds fresh window olds month x y) : x = none ↔ y = none := by
  cases h <;> simp

section Places

variable {i j : Nat} {s t : Segment ρ}

/-- Copies of one record for neighbouring months are one copy: the months are in one segment. -/
theorem index_eq_iff (hs : (reconcile fresh window olds).segments[i]? = some s)
    (hsm : s.period.HasMonth month) (ht : (reconcile fresh window olds).segments[j]? = some t)
    (htm : t.period.HasMonth (month + 1)) :
    i = j ↔ winner? olds month = winner? olds (month + 1) := by
  constructor
  · rintro rfl
    obtain rfl := Option.some.inj (hs.symm.trans ht)
    obtain ⟨r, -, hwins⟩ := winner_of_getElem? hs
    rw [hwins month hsm, hwins (month + 1) htm]
  · intro hsame
    have hmem := List.mem_of_getElem? hs
    have hcolour : colour window olds month = colour window olds (month + 1) := by
      rw [colour_of_hasMonth (window_hasMonth_of_mem_segments hmem hsm),
        colour_of_hasMonth (window_hasMonth_of_mem_segments (List.mem_of_getElem? ht) htm),
        winningPlace?, hsame, winningPlace?]
    exact index_eq_of_hasMonth hs ht ((isRun_of_mem_segments hmem).has_succ hsm hcolour) htm

theorem index_lt (hs : (reconcile fresh window olds).segments[i]? = some s) :
    i < (compact fresh window olds).length := by
  obtain ⟨hi, -⟩ := List.getElem?_eq_some_iff.mp hs
  rwa [compact, records, List.length_map]

end Places

theorem place_lt {r : Placed ρ} (hwins : winner? olds month = some r) : r.2 < olds.length :=
  List.snd_lt_of_mem_zipIdx (mem_of_winner? hwins).1

/-- Corresponding winners change at the same months. -/
theorem Corresponds.place_eq_iff {x x' y y' : Option (Placed ρ)}
    (h : Corresponds fresh window olds month x y)
    (h' : Corresponds fresh window olds (month + 1) x' y') :
    x.map (·.2) = x'.map (·.2) ↔ y.map (·.2) = y'.map (·.2) := by
  cases h with
  | blank => cases h' <;> simp
  | copy i s r hs hm hwins =>
      cases h' with
      | blank => simp
      | copy i' s' r' hs' hm' hwins' =>
          simp only [Option.map_some, Option.some.injEq]
          rw [index_eq_iff hs hm hs' hm', hwins, hwins', Option.some.injEq]
          constructor
          · exact congrArg Prod.snd
          · exact eq_of_place_eq (mem_of_winner? hwins).1 (mem_of_winner? hwins').1
      | kept r' =>
          -- on both sides the later records come after all others
          have hi := index_lt hs
          have hplace := place_lt hwins
          simp only [Option.map_some, Option.some.injEq, behind]
          omega
  | kept r =>
      cases h' with
      | blank => simp
      | copy i' s' r' hs' hm' hwins' =>
          have hi := index_lt hs'
          have hplace := place_lt hwins'
          simp only [Option.map_some, Option.some.injEq, behind]
          omega
      | kept r' =>
          simp only [Option.map_some, Option.some.injEq, behind]
          omega

section Copies

theorem period_record [LawfulTimedRecord ρ Recency Id Content] {i : Nat} {s : Segment ρ}
    (hs : (reconcile fresh window olds).segments[i]? = some s) :
    TimedRecord.period s.record = s.period := by
  obtain ⟨r, hrecord, hwins⟩ := winner_of_getElem? hs
  rw [hrecord, LawfulTimedRecord.period_clip (fresh i) (contains_of_winner hwins)]

/-- Of the compacted records, the one that wins a month is the copy for the segment of the month. -/
theorem corresponds_compact [LawfulTimedRecord ρ Recency Id Content]
    (hm : window.HasMonth month) :
    Corresponds fresh window olds month (winner? (compact fresh window olds) month)
      (winner? olds month) := by
  cases hwinner : winner? (compact fresh window olds) month with
  | none =>
      have hblank : winner? olds month = none := by
        -- a month that was won is in a segment, and so a copy has it
        by_contra hwon
        have hcoloured : colour window olds month ≠ none := by
          rwa [colour_of_hasMonth hm, Ne, winningPlace?_eq_none_iff]
        obtain ⟨p, hp, hpm⟩ := (areRuns_reconcile fresh window olds).exhaustive month hcoloured
        obtain ⟨s, hmem, rfl⟩ := List.mem_map.mp hp
        obtain ⟨i, hs⟩ := List.mem_iff_getElem?.mp hmem
        refine winner?_eq_none_iff.mp hwinner ⟨s.record, List.mem_map_of_mem hmem, ?_⟩
        rwa [period_record hs]
      rw [hblank]
      exact .blank
  | some r =>
      obtain ⟨copied, i⟩ := r
      obtain ⟨hmem, hhas⟩ := mem_of_winner? hwinner
      obtain ⟨s, hs, rfl⟩ := getElem?_compact.mp (List.mem_zipIdx_iff_getElem?.mp hmem)
      rw [Has, period_record hs] at hhas
      obtain ⟨r, -, hwins⟩ := winner_of_getElem? hs
      rw [hwins month hhas]
      exact .copy i s r hs hhas (hwins month hhas)

theorem recency_record [LawfulTimedRecord ρ Recency Id Content] {i : Nat} {s : Segment ρ}
    {r : Placed ρ} (hs : (reconcile fresh window olds).segments[i]? = some s)
    (hm : s.period.HasMonth month) (hwins : winner? olds month = some r) :
    TimedRecord.recency s.record = TimedRecord.recency r.1 := by
  obtain ⟨original, hrecord, horiginal⟩ := winner_of_getElem? hs
  obtain rfl := Option.some.inj ((horiginal month hm).symm.trans hwins)
  rw [hrecord, LawfulTimedRecord.recency_clip]

/-- Against a later record copy and original do equally well, provided recency decides. -/
theorem Corresponds.stronger [LawfulTimedRecord ρ Recency Id Content] {x y : Option (Placed ρ)}
    (h : Corresponds fresh window olds month x y) (new : Placed ρ)
    (hrecency : ∀ old ∈ olds,
      compare (TimedRecord.recency old) (TimedRecord.recency new.1) ≠ .eq) :
    Corresponds fresh window olds month
      (stronger x (some (behind (compact fresh window olds).length new)))
      (stronger y (some (behind olds.length new))) := by
  cases h with
  | blank => exact .kept new
  | copy i s r hs hm hwins =>
      have hne := hrecency r.1 (List.fst_mem_of_mem_zipIdx (mem_of_winner? hwins).1)
      have horiginal : compareStrength r (behind olds.length new) =
          compare (TimedRecord.recency r.1) (TimedRecord.recency new.1) :=
        compareStrength_of_recency hne
      have hcopy : compareStrength (s.record, i) (behind (compact fresh window olds).length new) =
          compare (TimedRecord.recency r.1) (TimedRecord.recency new.1) := by
        rw [← recency_record hs hm hwins] at hne ⊢
        exact compareStrength_of_recency hne
      simp only [Timeline.stronger, horiginal, hcopy]
      split
      · exact .copy i s r hs hm hwins
      · exact .kept new
  | kept r =>
      simp only [Timeline.stronger, compareStrength_behind]
      split
      · exact .kept r
      · exact .kept new

variable [Std.TransOrd Recency] [Std.TransOrd Id]

/-- Later records leave the correspondence as it is. -/
theorem corresponds_append [LawfulTimedRecord ρ Recency Id Content]
    (hrecency : ∀ old ∈ olds, ∀ new ∈ news,
      compare (TimedRecord.recency old) (TimedRecord.recency new) ≠ .eq)
    (hm : window.HasMonth month) :
    Corresponds fresh window olds month (winner? (compact fresh window olds ++ news) month)
      (winner? (olds ++ news) month) := by
  have hold : Corresponds fresh window olds month (winner? (compact fresh window olds) month)
      (winner? olds month) := corresponds_compact hm
  rw [winner?_append, winner?_append]
  cases hnew : winner? news month with
  | none =>
      rw [Option.map_none, Option.map_none, stronger_none, stronger_none]
      exact hold
  | some new =>
      have hmem := List.fst_mem_of_mem_zipIdx (mem_of_winner? hnew).1
      exact hold.stronger new fun old hmem' => hrecency old hmem' new.1 hmem

variable (hrecency : ∀ old ∈ olds, ∀ new ∈ news,
  compare (TimedRecord.recency old) (TimedRecord.recency new) ≠ .eq)
include hrecency

/-- Compaction does not move the ends of segments. -/
theorem periods_reconcile_compact [LawfulTimedRecord ρ Recency Id Content]
    (fresh' fresh'' : Nat → Id) :
    (reconcile fresh' window (compact fresh window olds ++ news)).periods =
      (reconcile fresh'' window (olds ++ news)).periods := by
  apply periods_reconcile_congr
  · intro m hm
    exact (corresponds_append hrecency hm).eq_none_iff
  · intro m hm hsucc
    exact (corresponds_append hrecency hm).place_eq_iff (corresponds_append hrecency hsucc)

/-- Nor does it change what a segment says: a copy of a copy is a copy. -/
theorem content_reconcile_compact [LawfulTimedRecord ρ Recency Id Content]
    {fresh' fresh'' : Nat → Id} {i j : Nat} {s t : Segment ρ}
    (hs : (reconcile fresh' window (compact fresh window olds ++ news)).segments[i]? = some s)
    (ht : (reconcile fresh'' window (olds ++ news)).segments[j]? = some t)
    (hperiod : s.period = t.period) :
    LawfulTimedRecord.content s.record = LawfulTimedRecord.content t.record := by
  obtain ⟨x, hx, hxwins⟩ := winner_of_getElem? hs
  obtain ⟨y, hy, hywins⟩ := winner_of_getElem? ht
  rw [← hperiod] at hy hywins
  have hfirst := s.period.has_first
  have hm := window_hasMonth_of_mem_segments (List.mem_of_getElem? hs) hfirst
  have hcorresponds : Corresponds fresh window olds s.period.first _ _ :=
    corresponds_append hrecency hm
  rw [hxwins _ hfirst, hywins _ hfirst] at hcorresponds
  rw [hx, hy]
  cases hcorresponds with
  | copy k old _ hold holdm hywins' =>
      obtain ⟨original, hcut, horiginal⟩ := winner_of_getElem? hold
      obtain rfl := Option.some.inj ((horiginal _ holdm).symm.trans hywins')
      have houter : (TimedRecord.period original.1).contains old.period :=
        contains_of_winner horiginal
      -- the copy wins all of the segment, so the segment is inside the one the copy was cut for
      have hinner : old.period.contains s.period := by
        rw [← period_record hold]
        exact contains_of_winner hxwins
      rw [hcut]
      exact LawfulTimedRecord.content_clip_clip _ _ _ houter hinner
  | kept r => exact LawfulTimedRecord.content_clip _ _ (contains_of_winner hxwins)

end Copies

variable [Std.TransOrd Recency] [Std.TransOrd Id]

/-- Reconciling what a timeline holds gives the timeline back. -/
theorem outline_reconcile_idem [LawfulTimedRecord ρ Recency Id Content]
    (fresh fresh' fresh'' : Nat → Id) (window : Period) (olds : List ρ) :
    outline (reconcile fresh' window (compact fresh window olds)) =
      outline (reconcile fresh'' window olds) := by
  have hnone : ∀ old ∈ olds, ∀ new ∈ ([] : List ρ),
      compare (TimedRecord.recency old) (TimedRecord.recency new) ≠ .eq :=
    fun _ _ _ hnew => nomatch hnew
  have hsame : outline (reconcile fresh' window (compact fresh window olds ++ [])) =
      outline (reconcile fresh'' window (olds ++ [])) := by
    apply outline_ext
    · exact periods_reconcile_compact hnone fresh' fresh''
    · exact fun _ _ _ hs ht hperiod => content_reconcile_compact hnone hs ht hperiod
  simpa only [List.append_nil] using hsame

/-- Records that were laid over a window can be compacted before others are added. This is safe if
recency decides between them and the others. -/
theorem outline_reconcile_compact [LawfulTimedRecord ρ Recency Id Content]
    (fresh fresh' fresh'' : Nat → Id) (window : Period) (olds news : List ρ)
    (hrecency : ∀ old ∈ olds, ∀ new ∈ news,
      compare (TimedRecord.recency old) (TimedRecord.recency new) ≠ .eq) :
    outline (reconcile fresh' window (compact fresh window olds ++ news)) =
      outline (reconcile fresh'' window (olds ++ news)) := by
  apply outline_ext
  · exact periods_reconcile_compact hrecency fresh' fresh''
  · exact fun _ _ _ hs ht hperiod => content_reconcile_compact hrecency hs ht hperiod

/-- An entry that is newer than one and older than another of the entries that were compacted
takes one month from the first, which lies in its second copy, and leaves one to the other. -/
theorem outline_reconcile_compact_three_entries :
    let months (first last : Int) (h : (Period.ofMonths? first last).isSome) : Period :=
      (Period.ofMonths? first last).get h
    let made (day : Nat) (h : (Date.ofYmd? 2021 1 day).isSome) : Instant :=
      ⟨(Date.ofYmd? 2021 1 day).get h, 0, 0, by decide, by decide, by decide⟩
    let key := Uuid.version4
    let year := months 0 11 rfl
    let base : Entry String := ⟨key 9, months 0 5 rfl, made 1 rfl, "base"⟩
    let patch : Entry String := ⟨key 5, months 2 3 rfl, made 3 rfl, "patch"⟩
    let late : Entry String := ⟨key 7, months 3 4 rfl, made 2 rfl, "late"⟩
    outline (reconcile key year (compact key year [base, patch] ++ [late])) =
      [base.clip (key 0) (months 0 1 rfl), patch, late.clip (key 1) (months 4 4 rfl),
        base.clip (key 2) (months 5 5 rfl)].map fun e => (e.period, LawfulTimedRecord.content e)
    := by
  intro months made key year base patch late
  have hrecency : ∀ old ∈ [base, patch], ∀ new ∈ [late],
      compare (TimedRecord.recency old) (TimedRecord.recency new) ≠ .eq := by
    decide
  rw [outline_reconcile_compact key key key year [base, patch] [late] hrecency]
  unfold late patch base year key made months
  cbv

end Monthwise.Timeline
