import Mathlib.Data.List.SplitBy
import Monthwise.Proofs.Runs
import Monthwise.Proofs.Timeline.Painting

/-! # Segments are runs

The winners colour the months of the window, each by its place in the input. The
segments of a timeline are the runs of this colouring in calendar order, and the
record of a segment is the winner of its months, narrowed to it.
-/

namespace Monthwise

theorem Period.exists_inside (window : Period) {first next : Int} (hfirst : window.first ≤ first)
    (hlt : first < next) (hlast : next ≤ window.last + 1) :
    ∃ p : Period, p.first = first ∧ p.last + 1 = next :=
  ⟨⟨first, next - 1, Int.le_trans window.firstMonth_le hfirst, by omega,
    by have := window.last_le; omega⟩, rfl, Int.sub_add_cancel next 1⟩

namespace Timeline

variable {ρ ρ' Recency Recency' Id Id' : Type}

/-- Segments with the same periods, and with the same of something else wherever the periods agree,
have the same list of it. -/
theorem map_eq_map_of_periods {α : Type} {f : Segment ρ → α} {f' : Segment ρ' → α}
    {segments : List (Segment ρ)} {segments' : List (Segment ρ')}
    (hperiods : segments.map (·.period) = segments'.map (·.period))
    (hf : ∀ (i : Nat) (s : Segment ρ) (s' : Segment ρ'), segments[i]? = some s →
      segments'[i]? = some s' → s.period = s'.period → f s = f' s') :
    segments.map f = segments'.map f' := by
  apply List.ext_getElem?
  intro i
  have hperiod := congrArg (·[i]?) hperiods
  simp only [List.getElem?_map] at hperiod ⊢
  cases hs : segments[i]? with
  | none =>
      rw [hs, Option.map_none, eq_comm, Option.map_eq_none_iff] at hperiod
      rw [hperiod, Option.map_none, Option.map_none]
  | some s =>
      rw [hs, Option.map_some, eq_comm, Option.map_eq_some_iff] at hperiod
      obtain ⟨s', hs', heq⟩ := hperiod
      rw [hs', Option.map_some, Option.map_some, hf i s s' hs hs' heq.symm]

variable [TimedRecord ρ Recency Id] [Ord Recency] [Ord Id]

/-- The place of the record that wins a month. -/
def winningPlace? (records : List ρ) (month : Int) : Option Nat :=
  (winner? records month).map (·.2)

/-- The colour of a month is the place of its winner; months outside the window are blank. -/
def colour (window : Period) (records : List ρ) (month : Int) : Option Nat :=
  if window.HasMonth month then winningPlace? records month else none

variable {fresh : Nat → Id} {window : Period} {records : List ρ} {month : Int}

theorem colour_of_hasMonth (hm : window.HasMonth month) :
    colour window records month = winningPlace? records month := if_pos hm

theorem colour_of_not_hasMonth (hm : ¬ window.HasMonth month) :
    colour window records month = none := if_neg hm

theorem hasMonth_of_colour (hcolour : colour window records month ≠ none) :
    window.HasMonth month := by
  by_contra hm
  exact hcolour (colour_of_not_hasMonth hm)

theorem winningPlace?_of_colour {place : Nat} (hcolour : colour window records month = some place) :
    winningPlace? records month = some place := by
  rwa [colour_of_hasMonth (hasMonth_of_colour (hcolour ▸ Option.some_ne_none place))] at hcolour

theorem winningPlace?_eq_none_iff :
    winningPlace? records month = none ↔ winner? records month = none :=
  Option.map_eq_none_iff

theorem winner?_eq_of_place_eq {month' : Int} {r : Placed ρ}
    (hsame : winningPlace? records month = winningPlace? records month')
    (hwinner : winner? records month' = some r) : winner? records month = some r := by
  rw [winningPlace?, winningPlace?, hwinner] at hsame
  obtain ⟨other, hother, hplace⟩ := Option.map_eq_some_iff.mp hsame
  rw [hother, eq_of_place_eq (mem_of_winner? hother).1 (mem_of_winner? hwinner).1 hplace]

/-- From `month` on, the segments are the runs of the colouring in calendar order, each with the
winner narrowed to it. Identities are taken in order, and `n` of them are already gone. -/
structure Segmented (fresh : Nat → Id) (window : Period) (records : List ρ) (month : Int) (n : Nat)
    (segments : List (Segment ρ)) : Prop where
  inOrder : InOrder (segments.map (·.period))
  starts : ∀ s ∈ segments, month ≤ s.period.first
  isRun : ∀ s ∈ segments, IsRun (colour window records) s.period
  exhaustive : ∀ m, month ≤ m → colour window records m ≠ none →
    ∃ s ∈ segments, s.period.HasMonth m
  winner : ∀ i s, segments[i]? = some s → ∃ r, winner? records s.period.first = some r ∧
    s.record = TimedRecord.clip r.1 (fresh (n + i)) s.period

namespace Segmented

variable {segments : List (Segment ρ)} {n : Nat}

theorem nil (hmonth : window.last < month) : Segmented fresh window records month n [] where
  inOrder := List.Pairwise.nil
  starts s hs := nomatch hs
  isRun s hs := nomatch hs
  exhaustive m hm hcolour := by
    have hlast := (hasMonth_of_colour hcolour).2
    omega
  winner i s hs := nomatch hs

theorem skip {later : Int} (hsegments : Segmented fresh window records later n segments)
    (hle : month ≤ later)
    (hblank : ∀ m, month ≤ m → m < later → colour window records m = none) :
    Segmented fresh window records month n segments where
  inOrder := hsegments.inOrder
  starts s hs := Int.le_trans hle (hsegments.starts s hs)
  isRun := hsegments.isRun
  exhaustive m hm hcolour := by
    have hlater : later ≤ m := by
      by_contra hlt
      exact hcolour (hblank m hm (by omega))
    exact hsegments.exhaustive m hlater hcolour
  winner := hsegments.winner

theorem cons {p : Period} {r : Placed ρ}
    (hsegments : Segmented fresh window records (p.last + 1) (n + 1) segments)
    (hrun : IsRun (colour window records) p) (hwinner : winner? records p.first = some r) :
    Segmented fresh window records p.first n
      (⟨p, TimedRecord.clip r.1 (fresh n) p⟩ :: segments) where
  inOrder := by
    refine List.pairwise_cons.mpr ⟨fun q hq => ?_, hsegments.inOrder⟩
    obtain ⟨s, hs, rfl⟩ := List.mem_map.mp hq
    exact hsegments.starts s hs
  starts s hs := by
    rcases List.mem_cons.mp hs with rfl | hrest
    · exact Int.le_refl _
    · have hstart := hsegments.starts s hrest
      have hle := p.first_le_last
      omega
  isRun s hs := by
    rcases List.mem_cons.mp hs with rfl | hrest
    · exact hrun
    · exact hsegments.isRun s hrest
  exhaustive m hm hcolour := by
    by_cases hlast : m ≤ p.last
    · exact ⟨_, List.mem_cons_self, hm, hlast⟩
    · obtain ⟨s, hs, hhas⟩ := hsegments.exhaustive m (by omega) hcolour
      exact ⟨s, List.mem_cons_of_mem _ hs, hhas⟩
  winner i s hs := by
    cases i with
    | zero =>
        obtain rfl := Option.some.inj hs
        exact ⟨r, hwinner, rfl⟩
    | succ i =>
        obtain ⟨r', hfirst, hrecord⟩ := hsegments.winner i s hs
        refine ⟨r', hfirst, ?_⟩
        rw [hrecord, Nat.add_assoc, Nat.add_comm 1 i]

/-- From the start of the window on, the segments have the runs of the whole window. -/
theorem areRuns (hsegments : Segmented fresh window records window.first n segments) :
    AreRuns (colour window records) (segments.map (·.period)) where
  inOrder := hsegments.inOrder
  isRun p hp := by
    obtain ⟨s, hs, rfl⟩ := List.mem_map.mp hp
    exact hsegments.isRun s hs
  exhaustive m hcoloured := by
    have hm := (hasMonth_of_colour hcoloured).1
    obtain ⟨s, hs, hhas⟩ := hsegments.exhaustive m hm hcoloured
    exact ⟨s.period, List.mem_map_of_mem hs, hhas⟩

theorem unique {segments' : List (Segment ρ)}
    (hsegments : Segmented fresh window records window.first n segments)
    (hsegments' : Segmented fresh window records window.first n segments') :
    segments = segments' := by
  have hmap : segments.map id = segments'.map id := by
    apply map_eq_map_of_periods (hsegments.areRuns.unique hsegments'.areRuns)
    intro i s s' hs hs' hperiod
    obtain ⟨r, hfirst, hrecord⟩ := hsegments.winner i s hs
    obtain ⟨r', hfirst', hrecord'⟩ := hsegments'.winner i s' hs'
    rw [hperiod, hfirst', Option.some.injEq] at hfirst
    cases s
    cases s'
    simp_all
  simpa using hmap

end Segmented

/-- The slots of the months from `month` on. -/
def IsSlots (records : List ρ) (month : Int) (slots : List (Option (Placed ρ))) : Prop :=
  slots = (monthsFrom month slots.length).map (winner? records)

namespace IsSlots

variable {slots rest : List (Option (Placed ρ))}

theorem append (hslots : IsSlots records month (slots ++ rest)) :
    IsSlots records month slots ∧ IsSlots records (month + slots.length) rest := by
  unfold IsSlots at hslots
  rw [List.length_append, monthsFrom_add, List.map_append] at hslots
  exact List.append_inj hslots (by simp)

theorem getElem? (hslots : IsSlots records month slots) {i : Nat} (hi : i < slots.length) :
    slots[i]? = some (winner? records (month + i)) := by
  rw [hslots, List.getElem?_map, getElem?_monthsFrom hi, Option.map_some]

theorem head_eq (hslots : IsSlots records month slots) (hne : slots ≠ []) :
    slots.head hne = winner? records month := by
  have hfirst := hslots.getElem? (List.length_pos_iff.mpr hne)
  rw [← List.head?_eq_getElem?, List.head?_eq_some_head hne, Option.some.injEq] at hfirst
  simpa using hfirst

theorem getLast_eq (hslots : IsSlots records month slots) (hne : slots ≠ []) :
    slots.getLast hne = winner? records (month + slots.length - 1) := by
  have hlength := List.length_pos_iff.mpr hne
  have hlast := hslots.getElem? (Nat.sub_one_lt_of_lt hlength)
  rw [← List.getLast?_eq_getElem?, List.getLast?_eq_some_getLast hne, Option.some.injEq] at hlast
  rw [hlast]
  congr 1
  omega

/-- Inside a run of equal winners the colour does not change. -/
theorem joined (hslots : IsSlots records month slots)
    (hchain : slots.IsChain fun a b => sameWinner a b = true) {m : Int} (hfirst : month ≤ m)
    (hlast : m + 1 < month + slots.length) :
    winningPlace? records m = winningPlace? records (m + 1) := by
  obtain ⟨i, rfl⟩ := Int.le.dest hfirst
  have hi : i + 1 < slots.length := by omega
  have hsame := List.isChain_iff_getElem.mp hchain i hi
  have hleft := hslots.getElem? (Nat.lt_of_succ_lt hi)
  have hright := hslots.getElem? hi
  rw [List.getElem?_eq_getElem (by omega), Option.some.injEq] at hleft hright
  rw [hleft, hright, sameWinner, beq_iff_eq] at hsame
  rw [winningPlace?, hsame, winningPlace?, Int.add_assoc]
  rfl

/-- Where one run of equal winners gives way to the next, the colour changes. -/
theorem change {next : List (Option (Placed ρ))} (hslots : IsSlots records month slots)
    (hnext : IsSlots records (month + slots.length) (next ++ rest))
    (hbreak : ∃ ha hb, sameWinner (slots.getLast ha) (next.head hb) = false) :
    winningPlace? records (month + slots.length - 1) ≠
      winningPlace? records (month + slots.length) := by
  obtain ⟨hne, hnext_ne, hdiffer⟩ := hbreak
  rw [hslots.getLast_eq hne, hnext.append.1.head_eq hnext_ne, sameWinner, beq_eq_false_iff_ne]
    at hdiffer
  exact hdiffer

end IsSlots

section Runs

variable {run : List (Option (Placed ρ))} {rest : List (List (Option (Placed ρ)))}

omit [Ord Recency] [Ord Id] in
theorem segmentsFrom_blank (n : Nat) (hhead : run.head? = some none) :
    segmentsFrom fresh month n (run :: rest) =
      segmentsFrom fresh (month + run.length) n rest := by
  rw [segmentsFrom, hhead]
  rfl

omit [Ord Recency] [Ord Id] in
theorem segmentsFrom_won {p : Period} {r : Placed ρ} (n : Nat) (hhead : run.head? = some (some r))
    (hfirst : p.first = month) (hlast : p.last + 1 = month + run.length) :
    segmentsFrom fresh month n (run :: rest) =
      ⟨p, TimedRecord.clip r.1 (fresh n) p⟩ :: segmentsFrom fresh (p.last + 1) (n + 1) rest := by
  have hperiod : Period.ofMonths? month (month + run.length - 1) = some p := by
    have hend : month + run.length - 1 = p.last := by omega
    rw [hend, ← hfirst]
    exact p.ofMonths?_first_last
  rw [segmentsFrom, hhead, hperiod, hlast]
  rfl

/-- A run of slots is followed by a change of colour, or by the end of the window. -/
theorem colour_change (hrun : IsSlots records month run)
    (hrest : IsSlots records (month + run.length) rest.flatten) (hfirst : window.first ≤ month)
    (hlength : 0 < run.length)
    (hlast : month + run.length + rest.flatten.length = window.last + 1)
    (hbreak : (run :: rest).IsChain fun a b =>
      ∃ ha hb, sameWinner (a.getLast ha) (b.head hb) = false)
    (hcolour : colour window records (month + run.length) ≠ none) :
    colour window records (month + run.length - 1) ≠
      colour window records (month + run.length) := by
  have hnext := hasMonth_of_colour hcolour
  have hbefore : window.HasMonth (month + run.length - 1) := ⟨by omega, by omega⟩
  rw [colour_of_hasMonth hnext, colour_of_hasMonth hbefore]
  cases rest with
  | nil =>
      have hend := hnext.2
      simp only [List.flatten_nil, List.length_nil] at hlast
      omega
  | cons next rest => exact hrun.change hrest (List.isChain_cons_cons.mp hbreak).1

/-- One step of the segmentation: a run of slots followed by segments. -/
theorem Segmented.step (n : Nat) (hrun : IsSlots records month run)
    (hchain : run.IsChain fun a b => sameWinner a b = true) (hlength : 0 < run.length)
    (hfirst : window.first ≤ month) (hlast : month + run.length ≤ window.last + 1)
    (hopen : colour window records month ≠ none →
      colour window records (month - 1) ≠ colour window records month)
    (hclose : colour window records (month + run.length) ≠ none →
      colour window records (month + run.length - 1) ≠
        colour window records (month + run.length))
    (hsegments : ∀ k, Segmented fresh window records (month + run.length) k
      (segmentsFrom fresh (month + run.length) k rest)) :
    Segmented fresh window records month n (segmentsFrom fresh month n (run :: rest)) := by
  have hinside {m : Int} (hm : month ≤ m) (hm' : m < month + run.length) :
      window.HasMonth m := ⟨by omega, by omega⟩
  have hjoined (m : Int) (hm : month ≤ m) (hm' : m < month + run.length - 1) :
      colour window records m = colour window records (m + 1) := by
    rw [colour_of_hasMonth (hinside hm (by omega)),
      colour_of_hasMonth (hinside (by omega) (by omega))]
    exact hrun.joined hchain hm (by omega)
  have hhead : run.head? = some (winner? records month) := by
    have hne := List.length_pos_iff.mp hlength
    rw [List.head?_eq_some_head hne, hrun.head_eq hne]
  have hstart : colour window records month = winningPlace? records month :=
    colour_of_hasMonth (hinside (Int.le_refl month) (by omega))
  cases hwinner : winner? records month with
  | none =>
      -- nobody has the run: its months are passed over
      have hblank : colour window records month = none := by
        rw [hstart, winningPlace?_eq_none_iff, hwinner]
      rw [segmentsFrom_blank n (hhead.trans (congrArg some hwinner))]
      refine (hsegments n).skip (by omega) fun m hm hm' => ?_
      rw [colour_eq_of_joined hjoined hm (by omega), hblank]
  | some r =>
      -- the months of the run are a segment
      have hcoloured : colour window records month ≠ none := by
        rw [hstart, Ne, winningPlace?_eq_none_iff, hwinner]
        exact Option.some_ne_none r
      obtain ⟨p, rfl, hplast⟩ := window.exists_inside hfirst (by omega) hlast
      rw [segmentsFrom_won n (hhead.trans (congrArg some hwinner)) rfl hplast]
      rw [← hplast] at hsegments hclose
      refine (hsegments (n + 1)).cons ?_ hwinner
      have hconst {m : Int} (hm : p.HasMonth m) :
          colour window records m = colour window records p.first :=
        colour_eq_of_joined hjoined hm.1 (by have := hm.2; omega)
      exact {
        coloured := fun m hm => by rw [hconst hm]; exact hcoloured
        joined := fun m hm hm' => hjoined m hm (by omega)
        opens := hopen hcoloured
        closes := by
          intro heq
          have hlastColour := hconst p.has_last
          rw [Int.add_sub_cancel] at hclose
          exact hclose (by rw [← heq, hlastColour]; exact hcoloured) heq }

/-- Runs of slots up to the end of the window become its segments. The induction goes from left to
right and carries along that the colour changes where the remaining runs begin. -/
theorem segmented_segmentsFrom (runs : List (List (Option (Placed ρ)))) (month : Int) (n : Nat)
    (hfirst : window.first ≤ month) (hlast : month + runs.flatten.length = window.last + 1)
    (hslots : IsSlots records month runs.flatten) (hnil : [] ∉ runs)
    (hchain : ∀ run ∈ runs, run.IsChain fun a b => sameWinner a b = true)
    (hbreak : runs.IsChain fun a b => ∃ ha hb, sameWinner (a.getLast ha) (b.head hb) = false)
    (hopen : colour window records month ≠ none →
      colour window records (month - 1) ≠ colour window records month) :
    Segmented fresh window records month n (segmentsFrom fresh month n runs) := by
  induction runs generalizing month n with
  | nil =>
      simp only [List.flatten_nil, List.length_nil] at hlast
      exact .nil (by omega)
  | cons run rest ih =>
      obtain ⟨hrun, hrest⟩ := hslots.append
      have hlength : 0 < run.length := by
        rw [List.length_pos_iff]
        exact fun heq => hnil (heq ▸ List.mem_cons_self)
      have hend : month + run.length + rest.flatten.length = window.last + 1 := by
        rw [List.flatten_cons, List.length_append] at hlast
        omega
      have hclose := colour_change hrun hrest hfirst hlength hend hbreak
      refine .step n hrun (hchain run List.mem_cons_self) hlength hfirst (by omega) hopen hclose ?_
      intro k
      exact ih (month + run.length) k (by omega) hend hrest
        (fun hmem => hnil (List.mem_cons_of_mem _ hmem))
        (fun r hr => hchain r (List.mem_cons_of_mem _ hr)) hbreak.tail hclose

end Runs

section Reconcile

variable (fresh : Nat → Id) (window : Period) (records : List ρ)

theorem segmented_reconcile :
    Segmented fresh window records window.first 0 (reconcile fresh window records).segments := by
  have hflat := List.flatten_splitBy sameWinner (winners window records)
  have hlength : (winners window records).length = window.monthCount :=
    length_winners window records
  have hle := window.first_le_last
  apply segmented_segmentsFrom
  · exact Int.le_refl _
  · rw [hflat, hlength, Period.monthCount]
    omega
  · rw [hflat, IsSlots, hlength]
    exact winners_eq window records
  · exact List.nil_notMem_splitBy _ _
  · exact fun run hrun => List.isChain_of_mem_splitBy hrun
  · exact List.isChain_getLast_head_splitBy _ _
  · intro hcoloured
    have hbefore : ¬ window.HasMonth (window.first - 1) := fun hm => by
      have := hm.1
      omega
    rw [colour_of_not_hasMonth hbefore]
    exact hcoloured.symm

/-- The periods of a timeline are the runs of months with one winner. -/
theorem areRuns_reconcile :
    AreRuns (colour window records) (reconcile fresh window records).periods :=
  (segmented_reconcile fresh window records).areRuns

/-- The periods depend only on which months are won, and on where the winner changes. -/
theorem periods_reconcile_congr [TimedRecord ρ' Recency' Id'] [Ord Recency'] [Ord Id']
    {records' : List ρ'} (fresh' : Nat → Id')
    (hwon : ∀ m, window.HasMonth m → (winner? records m = none ↔ winner? records' m = none))
    (hsame : ∀ m, window.HasMonth m → window.HasMonth (m + 1) →
      (winningPlace? records m = winningPlace? records (m + 1) ↔
        winningPlace? records' m = winningPlace? records' (m + 1))) :
    (reconcile fresh window records).periods = (reconcile fresh' window records').periods := by
  have hblank (m : Int) : colour window records m = none ↔ colour window records' m = none := by
    by_cases hm : window.HasMonth m
    · rw [colour_of_hasMonth hm, colour_of_hasMonth hm, winningPlace?_eq_none_iff,
        winningPlace?_eq_none_iff, hwon m hm]
    · rw [colour_of_not_hasMonth hm, colour_of_not_hasMonth hm]
  refine AreRuns.unique ?_ (areRuns_reconcile fresh' window records')
  refine (areRuns_reconcile fresh window records).congr hblank fun m => ?_
  -- at an end of the window only the blank months count
  by_cases hm : window.HasMonth m
  · by_cases hsucc : window.HasMonth (m + 1)
    · rw [colour_of_hasMonth hm, colour_of_hasMonth hm, colour_of_hasMonth hsucc,
        colour_of_hasMonth hsucc]
      exact hsame m hm hsucc
    · rw [colour_of_not_hasMonth hsucc, colour_of_not_hasMonth hsucc]
      exact hblank m
  · rw [colour_of_not_hasMonth hm, colour_of_not_hasMonth hm, eq_comm,
      @eq_comm _ none (colour window records' (m + 1))]
    exact hblank (m + 1)

variable {fresh window records}

theorem isRun_of_mem_segments {s : Segment ρ} (hs : s ∈ (reconcile fresh window records).segments) :
    IsRun (colour window records) s.period :=
  (segmented_reconcile fresh window records).isRun s hs

theorem window_hasMonth_of_mem_segments {s : Segment ρ}
    (hs : s ∈ (reconcile fresh window records).segments) (hm : s.period.HasMonth month) :
    window.HasMonth month :=
  hasMonth_of_colour ((isRun_of_mem_segments hs).coloured month hm)

/-- One record wins all months of a segment, and the segment holds it, narrowed. -/
theorem winner_of_getElem? {i : Nat} {s : Segment ρ}
    (hs : (reconcile fresh window records).segments[i]? = some s) :
    ∃ r, s.record = TimedRecord.clip r.1 (fresh i) s.period ∧
      ∀ m, s.period.HasMonth m → winner? records m = some r := by
  have hmem := List.mem_of_getElem? hs
  have hrun := isRun_of_mem_segments hmem
  obtain ⟨r, hfirst, hrecord⟩ := (segmented_reconcile fresh window records).winner i s hs
  refine ⟨r, by rwa [Nat.zero_add] at hrecord, fun m hm => ?_⟩
  have hsame := hrun.colour_eq hm
  rw [colour_of_hasMonth (window_hasMonth_of_mem_segments hmem hm),
    colour_of_hasMonth (window_hasMonth_of_mem_segments hmem s.period.has_first)] at hsame
  exact winner?_eq_of_place_eq hsame hfirst

theorem contains_of_winner {p : Period} {r : Placed ρ}
    (hwins : ∀ m, p.HasMonth m → winner? records m = some r) :
    (TimedRecord.period r.1).contains p :=
  Period.contains_of_hasMonth fun m hm => (mem_of_winner? (hwins m hm)).2

theorem index_eq_of_hasMonth {i j : Nat} {s t : Segment ρ}
    (hs : (reconcile fresh window records).segments[i]? = some s)
    (ht : (reconcile fresh window records).segments[j]? = some t) (hsm : s.period.HasMonth month)
    (htm : t.period.HasMonth month) : i = j := by
  have horder := (segmented_reconcile fresh window records).inOrder
  obtain rfl := horder.eq_of_map (List.mem_of_getElem? hs) (List.mem_of_getElem? ht) hsm htm
  obtain ⟨hi, -⟩ := List.getElem?_eq_some_iff.mp hs
  exact (List.getElem?_inj hi (List.Nodup.of_map _ horder.nodup)).mp (hs.trans ht.symm)

end Reconcile

end Timeline

end Monthwise
