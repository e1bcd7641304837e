import Mathlib
import Monthwise.Proofs.ByDays.Calls
import Monthwise.Proofs.Journal.Lines

/-! # Where computations were abandoned

A journal learns of an abandoned computation from the text that it leaves behind, and the
line that it keeps names the operation to which the text points. A creation and a shift
leave texts of their own, and their lines name them. The same words can be left by
anybody else, and then they point to the same operation; only what looks like neither is
put down to an unknown one.
-/

namespace Monthwise

namespace Event

/-- The line tells of an abandoned computation, and of this operation in this part of the
library. -/
def Names (e : Event) (area operation : String) : Prop :=
  s!"event=panic_captured module={area} op={operation} status=error ".toList <+: e.text.toList

/-- The event tells of an abandoned computation. -/
def isAbandoned : Event → Bool
  | abandoned _ => true
  | _ => false

end Event

namespace Abort

/-- The text begins with the mark of a refused creation. -/
def LooksCreated : Abort → Prop
  | text message => "invalid period".toList <+: message.toList
  | untold => False

/-- The text begins and ends with the marks of an impossible shift. -/
def LooksShifted : Abort → Prop
  | text message => "shifting ".toList <+: message.toList ∧
      "leaves the calendar".toList <:+ message.toList
  | untold => False

end Abort

namespace Act

/-- The operation that an act abandons, and what is told of it, if it abandons one. -/
def givesUp? : Act → Option (Origin × Abandonment)
  | .create start stop place? =>
    (abandonment? place? (Period.createOrAbort start stop)).map (Origin.create, ·)
  | .shift p months place? =>
    (abandonment? place? (p.shiftOrAbort months)).map (Origin.shift, ·)
  | .abandon abort place? => some (.elsewhere, { abort, place? })
  | _ => none

end Act

section Texts

variable {abort : Abort}

theorem Abort.LooksCreated.not_looksShifted (h : abort.LooksCreated) : ¬ abort.LooksShifted := by
  intro hshifted
  cases abort with
  | text message =>
      have hboth : "shifting ".toList <+: "invalid period".toList :=
        List.prefix_of_prefix_length_le hshifted.1 h (by decide)
      exact absurd hboth (by decide)
  | untold => exact h

theorem looksCreated_of_createOrAbort {start stop : Date}
    (h : Period.createOrAbort start stop = .error abort) : abort.LooksCreated := by
  obtain ⟨e, -, rfl⟩ := ByDays.createOrAbort_eq_error_iff.mp h
  simp only [Abort.LooksCreated, String.toList_append, List.append_assoc]
  exact List.prefix_append _ _

theorem looksShifted_of_shiftOrAbort {p : Period} {months : Int}
    (h : p.shiftOrAbort months = .error abort) : abort.LooksShifted := by
  obtain ⟨-, rfl⟩ := ByDays.shiftOrAbort_eq_error_iff.mp h
  refine ⟨?_, ?_⟩
  · simp only [String.toList_append, List.append_assoc]
    exact List.prefix_append _ _
  · rw [String.toList_append]
    exact List.suffix_append _ _

theorem Abort.looksCreated_iff :
    abort.LooksCreated ↔ Period.createMark.toList.isPrefixOf (Event.abortText abort).toList := by
  rw [List.isPrefixOf_iff_prefix]
  cases abort with
  | text message => rfl
  | untold => exact iff_of_false id (by decide)

theorem Abort.looksShifted_iff : abort.LooksShifted ↔
    "shifting ".toList.isPrefixOf (Event.abortText abort).toList ∧
      Period.shiftMark.toList.isSuffixOf (Event.abortText abort).toList := by
  rw [List.isPrefixOf_iff_prefix, List.isSuffixOf_iff_suffix]
  cases abort with
  | text message => rfl
  | untold => exact iff_of_false id (by decide)

theorem Origin.ofText_abortText (abort : Abort) :
    (ofText (Event.abortText abort).toList = create ↔ abort.LooksCreated) ∧
    (ofText (Event.abortText abort).toList = shift ↔ abort.LooksShifted) := by
  unfold ofText
  split_ifs with hcreated hshifted <;> rw [← Abort.looksCreated_iff] at hcreated
  · simp [hcreated, hcreated.not_looksShifted]
  · simp [hcreated, Abort.looksShifted_iff.mpr hshifted]
  · simp [hcreated, mt Abort.looksShifted_iff.mp hshifted]

end Texts

namespace Event

variable {told : Abandonment}

theorem names_own (told : Abandonment) :
    (abandoned told).Names (Origin.ofText (abortText told.abort).toList).area
      (Origin.ofText (abortText told.abort).toList).operation := by
  unfold Names text
  simp only [String.toList_append, List.append_assoc, List.prefix_append_right_inj]
  exact List.prefix_append _ _

/-- The operation that a line names is the one to which the text points. -/
theorem names_iff (origin : Origin) : (abandoned told).Names origin.area origin.operation ↔
    Origin.ofText (abortText told.abort).toList = origin := by
  have hown := names_own told
  constructor
  · intro hnames
    -- Of two beginnings of one line one begins the other, and the three tags differ early on.
    have hboth := List.prefix_or_prefix_of_prefix hown hnames
    generalize Origin.ofText (abortText told.abort).toList = own at hboth
    revert hboth
    cases own <;> cases origin <;> decide
  · rintro rfl
    exact hown

theorem names_create_iff :
    (abandoned told).Names "period" "create" ↔ told.abort.LooksCreated :=
  (names_iff .create).trans (Origin.ofText_abortText told.abort).1

theorem names_shift_iff : (abandoned told).Names "period" "shift" ↔ told.abort.LooksShifted :=
  (names_iff .shift).trans (Origin.ofText_abortText told.abort).2

theorem names_unknown_iff : (abandoned told).Names "core" "unknown" ↔
    ¬ told.abort.LooksCreated ∧ ¬ told.abort.LooksShifted := by
  refine (names_iff .elsewhere).trans ?_
  rw [← (Origin.ofText_abortText told.abort).1, ← (Origin.ofText_abortText told.abort).2]
  cases Origin.ofText (abortText told.abort).toList <;> decide

end Event

namespace Act

variable {act : Act} {origin : Origin} {told : Abandonment}

theorem eq_of_map_abandonment? {α : Type} {result : Except Abort α} {place? : Option Place}
    {named : Origin} (h : (abandonment? place? result).map (named, ·) = some (origin, told)) :
    result = .error told.abort ∧ told.place? = place? ∧ named = origin := by
  cases result with
  | ok _ => cases h
  | error abort =>
      cases h
      exact ⟨rfl, rfl, rfl⟩

theorem looks_of_givesUp? (h : act.givesUp? = some (origin, told)) :
    (origin = .create → told.abort.LooksCreated) ∧
    (origin = .shift → told.abort.LooksShifted) := by
  cases act with
  | create start stop place? =>
      obtain ⟨herror, -, rfl⟩ := eq_of_map_abandonment? h
      exact ⟨fun _ => looksCreated_of_createOrAbort herror, nofun⟩
  | shift p months place? =>
      obtain ⟨herror, -, rfl⟩ := eq_of_map_abandonment? h
      exact ⟨nofun, fun _ => looksShifted_of_shiftOrAbort herror⟩
  | abandon abort place? =>
      obtain ⟨rfl, rfl⟩ := Prod.mk.inj (Option.some.inj h)
      exact ⟨nofun, nofun⟩
  | _ => cases h

/-- Of all that acts report, what they abandon is what the journal hears of as abandoned. -/
theorem filter_report? (act : Act) :
    act.report?.filter Event.isAbandoned = act.givesUp?.map fun gone => .abandoned gone.2 := by
  have habandonment (told? : Option Abandonment) (named : Origin) :
      (told?.map .abandoned).filter Event.isAbandoned =
        (told?.map (named, ·)).map fun gone => .abandoned gone.2 := by
    cases told? <;> rfl
  cases act with
  | create start stop place? => exact habandonment _ .create
  | shift p months place? => exact habandonment _ .shift
  | _ => rfl

end Act

namespace Session

variable {s : Session} {act : Act}

/-- A journal of any level keeps what is abandoned. -/
theorem filter_emits (h : s.status ≠ none) (act : Act) :
    (s.emits act).filter Event.isAbandoned = act.givesUp?.map fun gone => .abandoned gone.2 := by
  obtain ⟨j, hj⟩ := Option.ne_none_iff_exists'.mp (mt status_eq_none_iff.mpr h)
  have hkept : (fun e : Event => j.level.admits e.level && e.isAbandoned) = Event.isAbandoned := by
    funext e
    cases e with
    | abandoned told => cases j.level <;> rfl
    | _ => exact Bool.and_false _
  simp only [emits, hj]
  rw [Option.filter_filter, hkept, Act.filter_report?]

theorem status_perform_ne_none (h : s.status ≠ none) (act : Act) :
    (s.perform act).2.status ≠ none := by
  obtain ⟨kept, hkept⟩ := Option.ne_none_iff_exists'.mp h
  rw [status_perform, hkept, Option.some_or]
  exact Option.some_ne_none kept

/-- No act takes the journal away, and each adds to it what it gives up. -/
theorem filter_emitted (h : s.status ≠ none) (acts : List Act) :
    (s.emitted acts).filter Event.isAbandoned =
      (acts.filterMap Act.givesUp?).map fun gone => .abandoned gone.2 := by
  induction acts generalizing s with
  | nil => rfl
  | cons act rest ih =>
      rw [emitted, List.filter_append, ← Option.toList_filter, filter_emits h,
        ih (status_perform_ne_none h act), List.filterMap_cons]
      cases act.givesUp? <;> rfl

theorem emits_of_givesUp? {origin : Origin} {told : Abandonment} (h : s.status ≠ none)
    (hact : act.givesUp? = some (origin, told)) : s.emits act = some (.abandoned told) := by
  have hfilter := filter_emits h act
  rw [hact, Option.map_some, Option.filter_eq_some_iff] at hfilter
  exact hfilter.1

theorem kept_of_givesUp? {origin : Origin} {told : Abandonment} (h : s.status ≠ none)
    (hact : act.givesUp? = some (origin, told)) :
    (s.perform act).2.kept = s.kept ++ [.abandoned told] := by
  obtain ⟨j, hj⟩ := Option.ne_none_iff_exists'.mp (mt status_eq_none_iff.mpr h)
  have hno : ∀ path, act ≠ .makeFile path := by
    rintro path rfl
    cases hact
  rw [kept_perform_of_journal hj hno, emits_of_givesUp? h hact]
  rfl

/-- Once a journal is started, every computation that is abandoned gets a line of its own, whatever
the journal's level, and these lines stand in the order of the computations. A creation that is
abandoned is named on its line, and so is a shift. A computation of any other kind is put down to an
unknown operation, unless its text begins as that of a refused creation or begins and ends as that
of an impossible shift: then its line names that operation. The place of a computation has no say in
this. -/
theorem run_origins (s : Session) (hstarted : s.status ≠ none) :
    (∀ acts : List Act, (∀ path, Act.makeFile path ∉ acts) →
      (s.run acts).kept.filter Event.isAbandoned = s.kept.filter Event.isAbandoned ++
        (acts.filterMap Act.givesUp?).map fun gone => .abandoned gone.2) ∧
    (∀ (act : Act) (origin : Origin) (told : Abandonment), act.givesUp? = some (origin, told) →
      let e : Event := .abandoned told
      (s.perform act).2.kept = s.kept ++ [e] ∧
      (e.Names "period" "create" ↔
        origin = .create ∨ origin = .elsewhere ∧ told.abort.LooksCreated) ∧
      (e.Names "period" "shift" ↔
        origin = .shift ∨ origin = .elsewhere ∧ told.abort.LooksShifted) ∧
      (e.Names "core" "unknown" ↔
        origin = .elsewhere ∧ ¬ told.abort.LooksCreated ∧ ¬ told.abort.LooksShifted)) := by
  constructor
  · intro acts hacts
    rw [kept_run s hacts, List.filter_append, filter_emitted hstarted]
  · intro act origin told hact
    obtain ⟨hcreate, hshift⟩ := Act.looks_of_givesUp? hact
    refine ⟨kept_of_givesUp? hstarted hact, ?_⟩
    rw [Event.names_create_iff, Event.names_shift_iff, Event.names_unknown_iff]
    cases origin with
    | create => simp [hcreate rfl, (hcreate rfl).not_looksShifted]
    | shift =>
        have hno : ¬ told.abort.LooksCreated := fun h => h.not_looksShifted (hshift rfl)
        simp [hshift rfl, hno]
    | elsewhere => simp

theorem status_run_init :
    (Session.run { files := .empty } [.init "error" "/logs"]).status ≠ none := by
  let before : Session := { files := .empty }
  let directory : Directory := ⟨"/logs", by decide⟩
  have hmade : before.files.createAll "/logs" = (.directory [("logs", .empty)], .ok ()) :=
    FileTree.ensureChain_of_ne (by rintro ⟨⟩)
  have hok : (before.launch .error directory).1 = .ok () :=
    fst_launch_eq_ok_iff.mpr ⟨congrArg Prod.snd hmade, rfl⟩
  have hstatus : (before.perform (.init "error" "/logs")).2.status = some (.error, directory) := by
    rw [perform_of_ok rfl, start_of_status rfl, status_launch rfl, hok]
  exact Option.ne_none_iff_exists'.mpr ⟨_, hstatus⟩

/-- A creation is given up, a shift and something else, the last at an unknown place. The three
lines of a journal for errors name three operations. -/
theorem run_origins_three_lines :
    let s : Session := Session.run { files := .empty } [.init "error" "/logs"]
    let secondOfJanuary : Date := ⟨2024, 1, 2, by decide, by decide, by decide⟩
    let february : Period := ⟨24289, 24289, by decide, by decide, by decide⟩
    let place : Place := ⟨"library", 99, by decide⟩
    let refused : Abandonment := ⟨.text
      "invalid period 2024-01-02..2024-01-02: period start must be the first day of a month",
      some place⟩
    let moved : Abandonment := ⟨.text
      "shifting 2024-02-01..2024-02-29 by 3200000 months leaves the calendar", some place⟩
    let untold : Abandonment := ⟨.untold, none⟩
    (s.run [.create secondOfJanuary secondOfJanuary (some place),
      .shift february 3200000 (some place), .abandon .untold]).kept.filter Event.isAbandoned =
        s.kept.filter Event.isAbandoned ++
          [.abandoned refused, .abandoned moved, .abandoned untold] ∧
    (Event.abandoned refused).Names "period" "create" ∧
    (Event.abandoned moved).Names "period" "shift" ∧
    (Event.abandoned untold).Names "core" "unknown" := by
  intro s secondOfJanuary february place refused moved untold
  obtain ⟨hlines, horigins⟩ := run_origins s status_run_init
  have hrefused : (Act.create secondOfJanuary secondOfJanuary (some place)).givesUp? =
      some (.create, refused) := by decide
  have hmoved : (Act.shift february 3200000 (some place)).givesUp? = some (.shift, moved) := by
    decide +kernel
  refine ⟨?_, ?_, ?_, ?_⟩
  · rw [hlines _ (by simp)]
    simp only [List.filterMap_cons, List.filterMap_nil, hrefused, hmoved]
    rfl
  · exact (horigins _ _ _ hrefused).2.1.mpr (.inl rfl)
  · exact (horigins _ _ _ hmoved).2.2.1.mpr (.inl rfl)
  · exact (horigins (.abandon .untold) _ _ rfl).2.2.2.mpr ⟨rfl, id, id⟩

/-- Two computations are given up that are neither a creation nor a shift. Their texts have the
marks of one, and so their lines name what did not happen. -/
theorem run_origins_foreign_marks :
    let s : Session := Session.run { files := .empty } [.init "error" "/logs"]
    let first : Abandonment := ⟨.text "invalid period", some ⟨"caller", 7, by decide⟩⟩
    let second : Abandonment := ⟨.text "shifting sands leaves the calendar", none⟩
    (Act.abandon first.abort first.place?).givesUp? = some (.elsewhere, first) ∧
    (Act.abandon second.abort second.place?).givesUp? = some (.elsewhere, second) ∧
    (s.perform (.abandon first.abort first.place?)).2.kept = s.kept ++ [.abandoned first] ∧
    (s.perform (.abandon second.abort second.place?)).2.kept = s.kept ++ [.abandoned second] ∧
    (Event.abandoned first).Names "period" "create" ∧
    ¬ (Event.abandoned first).Names "core" "unknown" ∧
    (Event.abandoned second).Names "period" "shift" ∧
    ¬ (Event.abandoned second).Names "core" "unknown" := by
  intro s first second
  have hcreated : first.abort.LooksCreated := List.prefix_rfl
  have hshifted : second.abort.LooksShifted := ⟨by decide, by decide⟩
  refine ⟨rfl, rfl, kept_of_givesUp? status_run_init rfl,
    kept_of_givesUp? status_run_init rfl,
    Event.names_create_iff.mpr hcreated, ?_, Event.names_shift_iff.mpr hshifted, ?_⟩
  · exact fun hunknown => (Event.names_unknown_iff.mp hunknown).1 hcreated
  · exact fun hunknown => (Event.names_unknown_iff.mp hunknown).2 hshifted

end Session

end Monthwise
