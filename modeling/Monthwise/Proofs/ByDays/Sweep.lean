import Monthwise.Proofs.ByDays.Timeline

/-! # From slot to slot

When all records are painted, the slots of the window are gone through from left to
right. A turn passes over one empty slot, or it looks for the end of a run of slots
with one winner and makes a segment of it. Much could go wrong on the way: there might
be no slot, a run might have no period and be lost, or an entry might be narrowed to a
period that is not inside its own. None of this happens, because what has been found at
any moment only waits for the rest of the segments to be the whole timeline.
-/

namespace Monthwise.ByDays

open Timeline (sameWinner Segmented winner? winningPlace? colour)

/-- How far the slots have been gone through, and the segments found on the way. -/
structure Sweep (α : Type) where
  offset : Nat := 0
  segments : List (Segment (Entry α)) := []

/-- Where the run of slots that begins at `offset` with this winner gives way to another, or where
the slots end. -/
def runEnd {ρ : Type} (slots : List (Option (Placed ρ))) (offset : Nat) (winner : Placed ρ) : Nat :=
  offset + (slots.drop offset).findIdx fun slot => !sameWinner slot (some winner)

section Turn

variable {α : Type} (fresh : Nat → Uuid) (window : Period)
  (slots : List (Option (Placed (Entry α))))

/-- One turn, which takes a sweep past an empty slot or past a run of slots. A run that has no
period is lost. The turn gives up if there is no slot, or if the winner does not have the run. -/
def turn (s : Sweep α) : Except Abort (Sweep α) := do
  match slots[s.offset]? with
  | none =>
    .error (.text s!"index out of bounds: the len is {slots.length} but the index is {s.offset}")
  | some none => return { s with offset := s.offset + 1 }
  | some (some winner) =>
    let start := window.start.monthNumber
    let stop := runEnd slots s.offset winner
    match ← ofMonths? (start + s.offset) (start + stop - 1) with
    | none => return { s with offset := stop }
    | some period =>
      let record ← winner.1.clipOrAbort (fresh s.segments.length) period
      return { offset := stop, segments := s.segments ++ [⟨period, record⟩] }

/-- The sweeps that come about, turn by turn, as long as there are slots. -/
inductive Reached : Sweep α → Prop where
  | start : Reached {}
  | turn {s s' : Sweep α} (before : Reached s) (slot : s.offset < slots.length)
      (turned : turn fresh window slots s = .ok s') : Reached s'

/-- A turn that loses nothing: an empty slot is passed over, or the months of a run become a segment
with their winner, who has them all. -/
inductive Proceeds (s s' : Sweep α) : Prop where
  | blank (slot : slots[s.offset]? = some none) (next : s' = { s with offset := s.offset + 1 })
  | run {winner : Placed (Entry α)} {p : Period} (slot : slots[s.offset]? = some (some winner))
      (first : p.first = window.first + s.offset) (last : p.last + 1 = window.first + s'.offset)
      (inside : winner.1.period.contains p)
      (next : s'.segments = s.segments ++ [⟨p, winner.1.clip (fresh s.segments.length) p⟩])

variable {fresh window slots} {s : Sweep α} {r : Placed (Entry α)} {p : Period}

theorem turn_blank (hslot : slots[s.offset]? = some none) :
    turn fresh window slots s = .ok { s with offset := s.offset + 1 } := by
  simp only [turn, hslot]
  rfl

theorem turn_run (hslot : slots[s.offset]? = some (some r))
    (hfirst : p.first = window.first + s.offset)
    (hlast : p.last + 1 = window.first + runEnd slots s.offset r)
    (hinside : r.1.period.contains p) :
    turn fresh window slots s = .ok {
      offset := runEnd slots s.offset r
      segments := s.segments ++ [⟨p, r.1.clip (fresh s.segments.length) p⟩] } := by
  have hend : window.first + runEnd slots s.offset r - 1 = p.last := by omega
  have hclip : r.1.clipOrAbort (fresh s.segments.length) p =
      .ok (r.1.clip (fresh s.segments.length) p) := by
    rw [← clip_entry]
    exact clip_eq hinside _
  simp only [turn, hslot, Period.monthNumber_start, hend, ← hfirst, ofMonths?_eq,
    p.ofMonths?_first_last, ok_bind, hclip]
  rfl

end Turn

section RunEnd

variable {ρ : Type} {slots : List (Option (Placed ρ))} {offset : Nat} {winner : Placed ρ}

theorem runEnd_le (hoffset : offset ≤ slots.length) :
    runEnd slots offset winner ≤ slots.length := by
  have hle : (slots.drop offset).findIdx (fun slot => !sameWinner slot (some winner)) ≤
      (slots.drop offset).length := List.findIdx_le_length
  rw [List.length_drop] at hle
  unfold runEnd
  omega

/-- Up to its end a run has one winner. -/
theorem sameWinner_of_lt_runEnd {i : Nat} {slot : Option (Placed ρ)} (hle : offset ≤ i)
    (hlt : i < runEnd slots offset winner) (hslot : slots[i]? = some slot) :
    sameWinner slot (some winner) = true := by
  obtain ⟨j, rfl⟩ := Nat.exists_eq_add_of_le hle
  rw [← List.getElem?_drop] at hslot
  obtain ⟨hj, rfl⟩ := List.getElem?_eq_some_iff.mp hslot
  simpa using List.not_of_lt_findIdx (Nat.lt_of_add_lt_add_left hlt)

/-- The slot at the end of a run, if there is one, has another winner. -/
theorem sameWinner_runEnd {slot : Option (Placed ρ)}
    (hslot : slots[runEnd slots offset winner]? = some slot) :
    sameWinner slot (some winner) = false := by
  rw [runEnd, ← List.getElem?_drop] at hslot
  obtain ⟨hlt, rfl⟩ := List.getElem?_eq_some_iff.mp hslot
  simpa using List.findIdx_getElem (w := hlt)

theorem lt_runEnd (hslot : slots[offset]? = some (some winner)) :
    offset < runEnd slots offset winner := by
  have hself : sameWinner (some winner) (some winner) = true := beq_self_eq_true _
  refine Nat.lt_of_le_of_ne (Nat.le_add_right _ _) fun heq => ?_
  rw [heq] at hslot
  rw [sameWinner_runEnd hslot] at hself
  cases hself

end RunEnd

section Invariant

variable {α : Type}

/-- The segments found so far, with those of the remaining months behind them, are the segments of
the window. Where the remaining months begin, the winner changes. -/
structure Swept (fresh : Nat → Uuid) (window : Period) (records : List (Entry α))
    (s : Sweep α) : Prop where
  inside : s.offset ≤ window.monthCount
  opens : colour window records (window.first + s.offset) ≠ none →
    colour window records (window.first + s.offset - 1) ≠
      colour window records (window.first + s.offset)
  extends_of_later : ∀ later,
    Segmented fresh window records (window.first + s.offset) s.segments.length later →
    Segmented fresh window records window.first 0 (s.segments ++ later)

variable {fresh : Nat → Uuid} {window : Period} {records : List (Entry α)} {s : Sweep α}

theorem swept_start : Swept fresh window records {} where
  inside := Nat.zero_le _
  opens hcoloured := by
    have hbefore : ¬ window.HasMonth (window.first + (0 : Nat) - 1) := fun hm => by
      have := hm.1
      omega
    rw [Timeline.colour_of_not_hasMonth hbefore]
    exact hcoloured.symm
  extends_of_later later hlater := by
    rw [Int.natCast_zero, Int.add_zero] at hlater
    exact hlater

/-- At the end of the window nothing remains to be found. -/
theorem Swept.segments_eq (hs : Swept fresh window records s)
    (hend : s.offset = window.monthCount) :
    s.segments = (Timeline.reconcile fresh window records).segments := by
  have hlast : window.last < window.first + s.offset := by
    rw [hend, Period.monthCount]
    omega
  have hwhole := hs.extends_of_later [] (.nil hlast)
  rw [List.append_nil] at hwhole
  exact hwhole.unique (Timeline.segmented_reconcile fresh window records)

theorem sameWinner_winner?_iff {r : Placed (Entry α)} {month : Int} :
    sameWinner (winner? records month) (some r) = true ↔
      winningPlace? records month = some r.2 := by
  rw [sameWinner, beq_iff_eq]
  rfl

theorem Swept.blank (hs : Swept fresh window records s) (hlt : s.offset < window.monthCount)
    (hfree : winner? records (window.first + s.offset) = none) :
    Swept fresh window records { s with offset := s.offset + 1 } := by
  have hblank : colour window records (window.first + s.offset) = none := by
    rw [Timeline.colour_of_hasMonth (Timeline.hasMonth_of_lt_monthCount window hlt),
      Timeline.winningPlace?_eq_none_iff, hfree]
  have hnext : window.first + ((s.offset + 1 : Nat) : Int) = window.first + s.offset + 1 := by
    omega
  refine ⟨hlt, ?_, ?_⟩
  · intro hcoloured
    rw [hnext] at hcoloured ⊢
    rw [Int.add_sub_cancel, hblank]
    exact hcoloured.symm
  · intro later hlater
    rw [hnext] at hlater
    refine hs.extends_of_later later (hlater.skip (by omega) fun m hm hm' => ?_)
    rw [show m = window.first + s.offset by omega, hblank]

section Run

variable {offset : Nat} {r : Placed (Entry α)}

theorem colour_of_lt_runEnd {i : Nat} (hi : i < window.monthCount) (hle : offset ≤ i)
    (hlt : i < runEnd (Timeline.winners window records) offset r) :
    colour window records (window.first + i) = some r.2 := by
  rw [Timeline.colour_of_hasMonth (Timeline.hasMonth_of_lt_monthCount window hi),
    ← sameWinner_winner?_iff]
  exact sameWinner_of_lt_runEnd hle hlt (Timeline.getElem?_winners window records hi)

theorem colour_runEnd_ne :
    colour window records (window.first + runEnd (Timeline.winners window records) offset r) ≠
      some r.2 := by
  intro hsame
  have hm := Timeline.hasMonth_of_colour (hsame ▸ Option.some_ne_none r.2)
  have hi : runEnd (Timeline.winners window records) offset r < window.monthCount := by
    have hlast := hm.2
    rw [Period.monthCount]
    omega
  rw [Timeline.colour_of_hasMonth hm, ← sameWinner_winner?_iff,
    sameWinner_runEnd (Timeline.getElem?_winners window records hi)] at hsame
  cases hsame

/-- Where a month is won there begins a run of the colouring, and its winner has all of it. -/
theorem Swept.exists_run (hs : Swept fresh window records s) (hlt : s.offset < window.monthCount)
    (hwinner : winner? records (window.first + s.offset) = some r) :
    ∃ p : Period, p.first = window.first + s.offset ∧
      p.last + 1 = window.first + runEnd (Timeline.winners window records) s.offset r ∧
      IsRun (colour window records) p ∧ ∀ m, p.HasMonth m → winner? records m = some r := by
  have hslot := Timeline.getElem?_winners window records hlt
  rw [hwinner] at hslot
  have hbegin := lt_runEnd hslot
  have hend : runEnd (Timeline.winners window records) s.offset r ≤ window.monthCount := by
    rw [← Timeline.length_winners window records]
    apply runEnd_le
    rw [Timeline.length_winners]
    exact hs.inside
  rw [Period.monthCount] at hend
  obtain ⟨p, hfirst, hlast⟩ : ∃ p : Period, p.first = window.first + s.offset ∧
      p.last + 1 = window.first + runEnd (Timeline.winners window records) s.offset r :=
    window.exists_inside (by omega) (by omega) (by omega)
  have hcolour (m : Int) (hm : p.HasMonth m) : colour window records m = some r.2 := by
    have hm' := hm.1
    have hm'' := hm.2
    obtain ⟨i, rfl⟩ := Int.le.dest (by omega : window.first ≤ m)
    have hle : s.offset ≤ i := by omega
    refine colour_of_lt_runEnd ?_ hle (by omega)
    rw [Period.monthCount]
    omega
  refine ⟨p, hfirst, hlast, ⟨?coloured, ?joined, ?opens, ?closes⟩, ?wins⟩
  case coloured =>
    intro m hm
    rw [hcolour m hm]
    exact Option.some_ne_none _
  case joined =>
    intro m hm hm'
    rw [hcolour m ⟨hm, by omega⟩, hcolour (m + 1) ⟨by omega, by omega⟩]
  case opens =>
    have hopens := hs.opens
    rw [← hfirst] at hopens
    apply hopens
    rw [hcolour _ p.has_first]
    exact Option.some_ne_none _
  case closes =>
    rw [hcolour _ p.has_last, hlast]
    exact colour_runEnd_ne.symm
  case wins =>
    intro m hm
    apply Timeline.winner?_eq_of_place_eq _ hwinner
    rw [Timeline.winningPlace?_of_colour (hcolour m hm), ← hfirst,
      Timeline.winningPlace?_of_colour (hcolour _ p.has_first)]

/-- The segment of a run is the next one to be found. -/
theorem Swept.run (hs : Swept fresh window records s) {p : Period} {stop : Nat}
    (hfirst : p.first = window.first + s.offset) (hlast : p.last + 1 = window.first + stop)
    (hrun : IsRun (colour window records) p) (hwinner : winner? records p.first = some r) :
    Swept fresh window records {
      offset := stop
      segments := s.segments ++ [⟨p, r.1.clip (fresh s.segments.length) p⟩] } where
  inside := by
    have hle := (Timeline.hasMonth_of_colour (hrun.coloured _ p.has_last)).2
    simp only [Period.monthCount]
    omega
  opens _ := by
    simp only [← hlast, Int.add_sub_cancel]
    exact hrun.closes
  extends_of_later later hlater := by
    simp only [← hlast, List.length_append, List.length_singleton] at hlater
    have hnext := hlater.cons hrun hwinner
    rw [hfirst] at hnext
    have hwhole := hs.extends_of_later _ hnext
    rw [List.append_cons] at hwhole
    exact hwhole

end Run

/-- One turn loses nothing, and comes closer to the end of the window. -/
theorem Swept.turn (hs : Swept fresh window records s) (hlt : s.offset < window.monthCount) :
    ∃ s', turn fresh window (Timeline.winners window records) s = .ok s' ∧ s.offset < s'.offset ∧
      Proceeds fresh window (Timeline.winners window records) s s' ∧
      Swept fresh window records s' := by
  have hslot := Timeline.getElem?_winners window records hlt
  cases hwinner : winner? records (window.first + s.offset) with
  | none =>
      rw [hwinner] at hslot
      exact ⟨_, turn_blank hslot, Nat.lt_succ_self _, .blank hslot rfl, hs.blank hlt hwinner⟩
  | some r =>
      rw [hwinner] at hslot
      obtain ⟨p, hfirst, hlast, hrun, hwins⟩ := hs.exists_run hlt hwinner
      have hinside : r.1.period.contains p := Timeline.contains_of_winner hwins
      exact ⟨_, turn_run hslot hfirst hlast hinside, lt_runEnd hslot,
        .run hslot hfirst hlast hinside rfl, hs.run hfirst hlast hrun (hwins _ p.has_first)⟩

/-- What holds of the first sweep and is kept by every turn holds of all of them. -/
theorem swept_of_reached (hs : Reached fresh window (Timeline.winners window records) s) :
    Swept fresh window records s := by
  induction hs with
  | start => exact swept_start
  | turn _ hslot hturned ih =>
      rw [Timeline.length_winners] at hslot
      obtain ⟨s', hturned', -, -, hs'⟩ := ih.turn hslot
      rw [hturned', Except.ok.injEq] at hturned
      exact hturned ▸ hs'

/-- The turns come to the end of the window. -/
theorem exists_reached_end (hs : Reached fresh window (Timeline.winners window records) s) :
    ∃ s', Reached fresh window (Timeline.winners window records) s' ∧
      s'.offset = window.monthCount := by
  have hswept := swept_of_reached hs
  induction hleft : window.monthCount - s.offset using Nat.strong_induction_on generalizing s with
  | h left ih =>
      by_cases hlt : s.offset < window.monthCount
      · obtain ⟨s', hturned, hnearer, -, hs'⟩ := hswept.turn hlt
        have hnext := Reached.turn hs (by rwa [Timeline.length_winners]) hturned
        exact ih (window.monthCount - s'.offset) (by omega) hnext hs' rfl
      · exact ⟨s, hs, Nat.le_antisymm hswept.inside (Nat.not_lt.mp hlt)⟩

end Invariant

/-- Nothing goes wrong while entries are laid over a window, and nothing is lost. Every entry is
painted over slots that are there. After that every turn, from whichever sweep that comes about,
succeeds, gets closer to the end without passing it, and makes a segment of every run, with a winner
that has all of it. The turns come to the end of the slots, and what they have found then are the
segments of the timeline. -/
theorem sweep_unfailing {α : Type} (fresh : Nat → Uuid) (window : Period)
    (records : List (Entry α)) :
    ∃ slots, winners window records = .ok slots ∧ slots.length = monthCount window ∧
      (∀ e ∈ records, ∀ clipped, intersect? e.period window = .ok (some clipped) →
        0 ≤ clipped.start.monthNumber - window.start.monthNumber ∧
        clipped.start.monthNumber - window.start.monthNumber + monthCount clipped ≤
          (slots.length : Int)) ∧
      (∀ s, Reached fresh window slots s → s.offset < slots.length →
        ∃ s', turn fresh window slots s = .ok s' ∧ s.offset < s'.offset ∧
          s'.offset ≤ slots.length ∧ Proceeds fresh window slots s s') ∧
      (∃ s, Reached fresh window slots s ∧ s.offset = slots.length) ∧
      ∀ s, Reached fresh window slots s → s.offset = slots.length →
        s.segments = (Timeline.reconcile fresh window records).segments := by
  have hlength := Timeline.length_winners window records
  refine ⟨Timeline.winners window records, winners_eq window records, ?_, ?_, ?_, ?_, ?_⟩
  · rw [hlength, monthCount_eq]
  · intro e _ clipped hclipped
    rw [intersect?_eq, Except.ok.injEq] at hclipped
    rw [Period.monthNumber_start, Period.monthNumber_start, monthCount_eq, hlength]
    exact slots_of_intersect? hclipped
  · intro s hs hlt
    rw [hlength] at hlt ⊢
    obtain ⟨s', hturned, hnearer, hproceeds, hs'⟩ := (swept_of_reached hs).turn hlt
    exact ⟨s', hturned, hnearer, hs'.inside, hproceeds⟩
  · rw [hlength]
    exact exists_reached_end .start
  · intro s hs hend
    exact (swept_of_reached hs).segments_eq (hend.trans hlength)

end Monthwise.ByDays
