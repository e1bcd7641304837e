import Mathlib
import Monthwise.Proofs.Journal.WriteOnce
import Monthwise.Proofs.Period.WrittenText

/-! # Lines of a journal

The file of a journal has a line for every event that was kept, as long as no value in the
text of an event has a line feed in it. Texts of abandoned computations are flattened for
that reason, and periods, numbers, levels and places have no line feeds. The directory is
written as it is, and a line feed in it splits the line of the start. All this is about a
file that stays below the size at which it would be put aside.
-/

namespace Monthwise

namespace Text

theorem length_atLineFeeds (cs : List Char) : (atLineFeeds cs).2.length = cs.count '\n' := by
  induction cs with
  | nil => rfl
  | cons c rest ih =>
      by_cases hc : c = '\n'
      · simp only [atLineFeeds, if_pos hc]
        rw [hc, List.count_cons_self, List.length_cons, ih]
      · simp only [atLineFeeds, if_neg hc]
        rw [List.count_cons_of_ne hc, ih]

end Text

namespace Event

theorem length_lines (e : Event) : e.lines.length = e.text.toList.count '\n' + 1 := by
  rw [lines, List.length_cons, List.length_map, Text.length_atLineFeeds]

theorem count_level (level : Level) : level.name.toList.count '\n' = 0 := by
  cases level <;> decide

theorem count_window (p : Period) : (toString p).toList.count '\n' = 0 := by
  rw [List.count_eq_zero]
  intro hmem
  exact absurd (p.not_isBlank_of_mem_toString hmem) (by decide)

theorem count_decimal (n : Nat) : (Decimal.text n).toList.count '\n' = 0 := by
  rw [Decimal.text, String.toList_ofList, List.count_eq_zero]
  intro hmem
  exact absurd (Decimal.isDigit_of_mem_digits hmem) (by decide)

theorem count_flatten (limit : Nat) (cs : List Char) : (flatten limit cs).count '\n' = 0 := by
  rw [List.count_eq_zero, flatten, List.mem_append, List.mem_map]
  rintro (⟨c, -, hc⟩ | hdots)
  · split_ifs at hc with hend
    · cases hc
    · exact hend (.inl hc)
  · split_ifs at hdots
    · revert hdots
      decide
    · cases hdots

theorem count_origin (origin : Origin) :
    origin.area.toList.count '\n' = 0 ∧ origin.operation.toList.count '\n' = 0 := by
  cases origin <;> decide

theorem count_started (level : Level) (directory : Directory) :
    (started level directory).text.toList.count '\n' = directory.path.toList.count '\n' := by
  unfold text
  simp only [String.toList_append, List.count_append, toString, count_level]
  simp +decide

theorem count_location (told : Abandonment) : told.location.toList.count '\n' = 0 := by
  unfold Abandonment.location
  split
  · next place _ =>
      have hfile : place.file.toList.count '\n' = 0 := List.count_eq_zero.mpr place.oneLine
      simp only [toString, String.toList_append, List.count_append, hfile, count_decimal]
      decide
  · decide

theorem count_abandoned (told : Abandonment) : (abandoned told).text.toList.count '\n' = 0 := by
  unfold text
  simp only [String.toList_append, List.count_append, toString, count_origin, count_location,
    String.toList_ofList, count_flatten]
  decide

theorem count_reconciled (window : Period) (records segments uncovered : Nat) :
    (reconciled window records segments uncovered).text.toList.count '\n' = 0 := by
  unfold text
  simp only [String.toList_append, List.count_append, count_window]
  simp only [toString, count_decimal]
  decide

theorem count_date (d : Date) : (toString d).toList.count '\n' = 0 := by
  rw [show (toString d).toList = d.chars from String.toList_ofList, List.count_eq_zero]
  intro hmem
  exact absurd (d.not_isBlank_of_mem_chars hmem) (by decide)

theorem count_showPeriod (p : Period) : (Command.showPeriod p).toList.count '\n' = 0 := by
  unfold Command.showPeriod
  simp only [String.toList_append, List.count_append, count_date]
  decide

theorem count_intercalate {separator : String} {texts : List String}
    (hseparator : separator.toList.count '\n' = 0)
    (htexts : ∀ t ∈ texts, t.toList.count '\n' = 0) :
    (separator.intercalate texts).toList.count '\n' = 0 := by
  induction texts with
  | nil => rfl
  | cons t rest ih =>
      have ht := htexts t List.mem_cons_self
      have hrest := ih fun u hu => htexts u (List.mem_cons_of_mem _ hu)
      cases rest with
      | nil => rwa [String.intercalate_singleton]
      | cons u rest =>
          rw [String.intercalate_cons_cons, String.toList_append, String.toList_append,
            List.count_append, List.count_append, ht, hseparator, hrest]

theorem count_showPeriods (ps : List Period) :
    (Command.showPeriods ps).toList.count '\n' = 0 := by
  have hperiods : (String.intercalate ", " (ps.map Command.showPeriod)).toList.count '\n' = 0 := by
    refine count_intercalate rfl fun t ht => ?_
    obtain ⟨p, -, rfl⟩ := List.mem_map.mp ht
    exact count_showPeriod p
  unfold Command.showPeriods
  simp only [String.toList_append, List.count_append, hperiods]
  decide

theorem count_describe (command : Command) : command.describe.toList.count '\n' = 0 := by
  unfold Command.describe
  cases command <;>
    simp only [String.toList_append, List.count_append, toString, count_showPeriod,
      count_showPeriods] <;>
    decide

theorem count_commanded (command : Command) : (commanded command).text.toList.count '\n' = 0 := by
  unfold text
  simp only [String.toList_append, List.count_append, toString, count_describe]
  decide

/-- The event names no directory with a line feed in its path. -/
def NamesPlainDirectory : Event → Prop
  | started _ directory => '\n' ∉ directory.path.toList
  | _ => True

/-- An event is one line, unless it names a directory with a line feed in its path. -/
theorem length_lines_eq_one_iff (e : Event) : e.lines.length = 1 ↔ e.NamesPlainDirectory := by
  rw [length_lines]
  cases e with
  | started level directory =>
      rw [count_started, Nat.add_eq_right, List.count_eq_zero]
      rfl
  | abandoned told => simp [count_abandoned, NamesPlainDirectory]
  | reconciled window records segments uncovered =>
      simp [count_reconciled, NamesPlainDirectory]
  | commanded command => simp [count_commanded, NamesPlainDirectory]

end Event

namespace Act

/-- What is told of a computation at the given place, if it was abandoned. -/
def abandonment? {α : Type} (place? : Option Place) : Except Abort α → Option Abandonment
  | .ok _ => none
  | .error abort => some { abort, place? }

/-- What an act reports to a journal. -/
def report? : Act → Option Event
  | .create start stop place? =>
    (abandonment? place? (Period.createOrAbort start stop)).map .abandoned
  | .shift p months place? => (abandonment? place? (p.shiftOrAbort months)).map .abandoned
  | .abandon abort place? => some (.abandoned { abort, place? })
  | .reconcile window records => some (Timeline.event (fun _ => (0 : Int)) window records)
  | _ => none

theorem plain_of_report? {act : Act} {e : Event} (h : act.report? = some e) :
    e.NamesPlainDirectory := by
  have habandoned {told? : Option Abandonment} (h : told?.map .abandoned = some e) :
      e.NamesPlainDirectory := by
    obtain ⟨told, -, rfl⟩ := Option.map_eq_some_iff.mp h
    trivial
  cases act with
  | create start stop place? => exact habandoned h
  | shift p months place? => exact habandoned h
  | abandon abort place? =>
      obtain rfl := Option.some.inj h
      trivial
  | reconcile window records =>
      obtain rfl := Option.some.inj h
      trivial
  | _ => cases h

end Act

namespace Session

/-- The events whose lines the journal's file shows once all is written. -/
def kept (s : Session) : List Event := (s.journal.map Journal.events).getD []

/-- The lines of the journal's file once all is written. -/
def shown (s : Session) : List (Option Level × String) := s.kept.flatMap Event.lines

/-- The event that an act adds to the journal: the start of the journal that it starts, or what it
reports to the journal that there is. Events that are not grave enough are not added. -/
def emits (s : Session) (act : Act) : Option Event :=
  match s.journal with
  | none => (act.started? (s.perform act).1).bind fun (level, directory) =>
      if level.admits .info then some (.started level directory) else none
  | some j => act.report?.filter fun e => j.level.admits e.level

/-- The events that a run adds to the journal. -/
def emitted (s : Session) : List Act → List Event
  | [] => []
  | act :: rest => (s.emits act).toList ++ (s.perform act).2.emitted rest

variable {s : Session} {act : Act} {j : Journal}

theorem kept_of_journal (h : s.journal = some j) : s.kept = j.events := by
  rw [kept, h]
  rfl

theorem kept_of_none (h : s.journal = none) : s.kept = [] := by
  rw [kept, h]
  rfl

/-- An event is added if there is a journal and the event is grave enough for it. -/
theorem kept_note (h : s.journal = some j) (e : Event) :
    (s.note e).kept = s.kept ++ if j.level.admits e.level then [e] else [] := by
  have hnote : (s.note e).journal = some (j.note e) := by
    unfold note
    simp only [h]
  rw [kept_of_journal hnote, kept_of_journal h, Journal.events_note]
  split_ifs
  · rfl
  · exact (List.append_nil _).symm

theorem kept_noteResult {α : Type} (h : s.journal = some j) (place? : Option Place)
    (result : Except Abort α) :
    (s.noteResult place? result).kept = s.kept ++
      (((Act.abandonment? place? result).map .abandoned).filter fun e =>
        j.level.admits e.level).toList := by
  cases result with
  | ok _ => exact (List.append_nil _).symm
  | error abort =>
      rw [noteResult, kept_note h, Act.abandonment?, Option.map_some, Option.filter_some]
      split_ifs <;> rfl

/-- Whoever makes a file may empty the journal's, and with it go the lines that were written. -/
theorem kept_makeFile (s : Session) (path : String) : (s.makeFile path).2.kept <:+ s.kept := by
  unfold makeFile
  split
  · exact List.suffix_rfl
  · cases hjournal : s.journal with
    | none => simp [kept, hjournal]
    | some j =>
        rw [kept_of_journal hjournal]
        simp only [kept, Option.map_some, Option.getD_some]
        split_ifs
        · exact List.suffix_append j.written j.pending
        · exact List.suffix_rfl

theorem kept_readJournal (s : Session) : s.readJournal.2.kept = s.kept := by
  unfold readJournal
  cases hjournal : s.journal with
  | none => rfl
  | some j =>
      rw [kept_of_journal hjournal]
      exact Journal.events_write j

theorem kept_perform_of_journal (h : s.journal = some j) (hact : ∀ path, act ≠ .makeFile path) :
    (s.perform act).2.kept = s.kept ++ (s.emits act).toList := by
  have hstatus : s.status = some (j.level, j.directory) := by
    rw [status, h]
    rfl
  have hemits : s.emits act = act.report?.filter fun e => j.level.admits e.level := by
    simp only [emits, h]
  have hsame (hkept : (s.perform act).2.kept = s.kept) (hreport : act.report? = none) :
      (s.perform act).2.kept = s.kept ++ (act.report?.filter fun e => j.level.admits e.level).toList
      := by
    rw [hkept, hreport]
    exact (List.append_nil _).symm
  rw [hemits]
  cases act with
  | makeFile path => exact absurd rfl (hact path)
  | init level path => exact hsame (by rw [perform_of_status rfl hstatus]) rfl
  | initFrom settings =>
      refine hsame ?_ rfl
      cases hrequest : (Act.initFrom settings).request? with
      | some request => rw [perform_of_status hrequest hstatus]
      | none =>
          rw [Act.request?, Option.map_eq_none_iff] at hrequest
          simp only [perform, initFrom, hrequest]
  | makeDirectory path => exact hsame rfl rfl
  | readJournal => exact hsame (kept_readJournal s) rfl
  | claim =>
      refine hsame ?_ rfl
      simp only [perform]
      split_ifs <;> rfl
  | create start stop place? => exact kept_noteResult h place? _
  | shift p months place? => exact kept_noteResult h place? _
  | abandon abort place? => exact kept_noteResult h place? (.error abort : Except Abort Unit)
  | reconcile window records =>
      refine (kept_note h _).trans ?_
      rw [Act.report?, Option.filter_some]
      split_ifs <;> rfl

theorem kept_launch (h : s.journal = none) (level : Level) (directory : Directory) :
    (s.launch level directory).2.kept =
      match (s.launch level directory).1 with
      | .ok () => if level.admits .info then [.started level directory] else []
      | .error _ => [] := by
  unfold launch
  rcases s.files.createAll directory.path with ⟨files, fault | _⟩
  · exact kept_of_none h
  · cases s.claimed with
    | true => exact kept_of_none h
    | false =>
        refine (kept_note (j := { level, directory }) rfl _).trans ?_
        rw [kept_of_journal (j := { level, directory }) rfl]
        rfl

theorem kept_perform_of_none (h : s.journal = none) (act : Act) :
    (s.perform act).2.kept = (s.emits act).toList := by
  have hs : s.status = none := status_eq_none_iff.mpr h
  have hemits : s.emits act = (act.started? (s.perform act).1).bind fun (level, directory) =>
      if level.admits .info then some (.started level directory) else none := by
    simp only [emits, h]
  have hnothing (hstatus : (s.perform act).2.status = none) :
      (s.perform act).2.kept = (s.emits act).toList := by
    have hstarted := status_perform s act
    rw [hs, hstatus, Option.none_or] at hstarted
    rw [kept_of_none (status_eq_none_iff.mp hstatus), hemits, ← hstarted]
    rfl
  cases hrequest : act.request? with
  | none => exact hnothing ((status_perform_of_none hrequest).trans hs)
  | some request =>
      cases request with
      | error e =>
          apply hnothing
          rw [perform_of_error hrequest, hs]
      | ok asked =>
          obtain ⟨level, directory⟩ := asked
          rw [hemits, perform_of_ok hrequest, start_of_status hs, kept_launch h]
          cases (s.launch level directory).1 with
          | error e => rfl
          | ok _ =>
              simp only [Act.started?, hrequest, Option.bind_some, Except.toOption]
              split_ifs <;> rfl

theorem emits_of_launch {level : Level} {directory : Directory} (hs : s.status = none)
    (hrequest : act.request? = some (.ok (level, directory)))
    (hok : (s.launch level directory).1 = .ok ()) :
    s.emits act = if level.admits .info then some (.started level directory) else none := by
  simp only [emits, status_eq_none_iff.mp hs, perform_of_ok hrequest, start_of_status hs, hok,
    Act.started?, hrequest, Option.bind_some, Except.toOption]

/-- An act adds the event that it emits, and nothing goes away unless a file is made. -/
theorem kept_perform (s : Session) (act : Act) :
    ∃ left, left <:+ s.kept ∧ ((∀ path, act ≠ .makeFile path) → left = s.kept) ∧
      (s.perform act).2.kept = left ++ (s.emits act).toList := by
  cases h : s.journal with
  | none =>
      refine ⟨[], List.nil_suffix, fun _ => (kept_of_none h).symm, ?_⟩
      rw [List.nil_append, kept_perform_of_none h]
  | some j =>
      by_cases hact : ∃ path, act = .makeFile path
      · obtain ⟨path, rfl⟩ := hact
        refine ⟨_, kept_makeFile s path, fun hno => absurd rfl (hno path), ?_⟩
        simp only [emits, h]
        exact (List.append_nil _).symm
      · have hno : ∀ path, act ≠ .makeFile path := fun path heq => hact ⟨path, heq⟩
        exact ⟨s.kept, List.suffix_rfl, fun _ => rfl, kept_perform_of_journal h hno⟩

theorem kept_run (s : Session) {acts : List Act} (h : ∀ path, Act.makeFile path ∉ acts) :
    (s.run acts).kept = s.kept ++ s.emitted acts := by
  induction acts generalizing s with
  | nil => exact (List.append_nil _).symm
  | cons act rest ih =>
      have hrest : ∀ path, Act.makeFile path ∉ rest :=
        fun path hmem => h path (List.mem_cons_of_mem _ hmem)
      have hact : ∀ path, act ≠ .makeFile path :=
        fun path heq => h path (heq ▸ List.mem_cons_self)
      obtain ⟨left, -, hleft, hkept⟩ := kept_perform s act
      have hstep : s.run (act :: rest) = (s.perform act).2.run rest := rfl
      rw [hstep, ih _ hrest, hkept, hleft hact, emitted, List.append_assoc]

/-- How many lines of the journal's file are more than there are events: those into which the path
of the directory splits the line of the start. -/
def surplus (s : Session) : Nat :=
  match s.status with
  | none => 0
  | some (level, directory) =>
    if level.admits .info then directory.path.toList.count '\n' else 0

theorem surplus_perform (s : Session) (act : Act) :
    ((s.emits act).toList.flatMap Event.lines).length + s.surplus =
      (s.emits act).toList.length + (s.perform act).2.surplus := by
  have hstatus := status_perform s act
  cases h : s.journal with
  | none =>
      rw [status_eq_none_iff.mpr h, Option.none_or] at hstatus
      simp only [surplus, emits, h, hstatus, status_eq_none_iff.mpr h]
      cases act.started? (s.perform act).1 with
      | none => rfl
      | some kept =>
          obtain ⟨level, directory⟩ := kept
          simp only [Option.bind_some]
          split_ifs
          · simp [Event.length_lines, Event.count_started, Nat.add_comm]
          · rfl
  | some j =>
      have hkept : s.status = some (j.level, j.directory) := by
        rw [status, h]
        rfl
      rw [hkept, Option.some_or, ← hkept] at hstatus
      have hsurplus : (s.perform act).2.surplus = s.surplus := by
        simp only [surplus, hstatus]
      rw [hsurplus, Nat.add_right_cancel_iff]
      cases hevent : s.emits act with
      | none => rfl
      | some e =>
          simp only [emits, h] at hevent
          have hone : e.lines.length = 1 := e.length_lines_eq_one_iff.mpr
            (Act.plain_of_report? (Option.eq_some_of_filter_eq_some hevent))
          simpa using hone

theorem surplus_run (s : Session) (acts : List Act) :
    ((s.emitted acts).flatMap Event.lines).length + s.surplus =
      (s.emitted acts).length + (s.run acts).surplus := by
  induction acts generalizing s with
  | nil => rfl
  | cons act rest ih =>
      have hstep : s.run (act :: rest) = (s.perform act).2.run rest := rfl
      have hact := surplus_perform s act
      have hrest := ih (s.perform act).2
      rw [emitted, hstep, List.flatMap_append, List.length_append, List.length_append]
      omega

/-- What a journal's file shows is made of the lines of the events that were emitted. Every act adds
the lines of the event that it emits, if it emits one, and takes none away unless it makes a file.
An event adds one line, unless it is the start of the journal in a directory whose path has line
feeds: the file then has one line more for each of them. The file is taken to stay below the size at
which it would be put aside. -/
theorem run_lines (files : FileTree) (claimed : Bool) (acts : List Act) :
    let begin : Session := { files, claimed }
    let s := begin.run acts
    (∀ act, ∃ left, left <:+ s.shown ∧ ((∀ path, act ≠ .makeFile path) → left = s.shown) ∧
      (s.perform act).2.shown = left ++ (s.emits act).toList.flatMap Event.lines) ∧
    (∀ act e, s.emits act = some e → (e.lines.length = 1 ↔ e.NamesPlainDirectory)) ∧
    (∀ lines, (s.perform .readJournal).1 = .lines (some lines) → lines = s.shown) ∧
    ((∀ path, Act.makeFile path ∉ acts) →
      s.shown = (begin.emitted acts).flatMap Event.lines ∧
      ∀ level directory, s.status = some (level, directory) →
        s.shown.length = (begin.emitted acts).length +
          if level.admits .info then directory.path.toList.count '\n' else 0) := by
  intro begin s
  refine ⟨fun act => ?_, fun act e _ => e.length_lines_eq_one_iff, fun lines hlines => ?_,
    fun hfiles => ?_⟩
  · obtain ⟨left, hsuffix, hleft, hkept⟩ := kept_perform s act
    refine ⟨left.flatMap Event.lines, ?_, fun hact => ?_, ?_⟩
    · obtain ⟨gone, hgone⟩ := hsuffix
      exact ⟨gone.flatMap Event.lines, by rw [shown, ← hgone, List.flatMap_append]⟩
    · rw [hleft hact, shown]
    · rw [shown, hkept, List.flatMap_append]
  · simp only [perform, readJournal] at hlines
    cases h : s.journal with
    | none => simp [h] at hlines
    | some j =>
        simp only [h, Reply.lines.injEq] at hlines
        split_ifs at hlines
        rw [shown, kept_of_journal h, ← Option.some.inj hlines]
        rfl
  · have hshown : s.shown = (begin.emitted acts).flatMap Event.lines := by
      rw [shown, kept_run begin hfiles, kept_of_none rfl, List.nil_append]
    refine ⟨hshown, fun level directory hstatus => ?_⟩
    have hsurplus := surplus_run begin acts
    have hbegin : begin.surplus = 0 := rfl
    have hend : s.surplus = if level.admits .info then directory.path.toList.count '\n' else 0 := by
      simp only [surplus, hstatus]
    rw [hbegin, Nat.add_zero] at hsurplus
    rw [hshown, hsurplus, ← hend]

end Session

section SplitStart

/-- A directory with a line feed in its path. -/
def splitDirectory : Directory := ⟨"/a\nb", by decide⟩

namespace Session

theorem fst_launch_splitDirectory :
    (launch { files := .empty } .info splitDirectory).1 = .ok () := by
  have hmade : FileTree.empty.createAll splitDirectory.path =
      (.directory [("a\nb", .empty)], .ok ()) :=
    FileTree.ensureChain_of_ne (by rintro ⟨⟩)
  exact fst_launch_eq_ok_iff.mpr ⟨congrArg Prod.snd hmade, rfl⟩

theorem emits_start_splitDirectory : emits { files := .empty } (.init "info" "/a\nb") =
    some (.started .info splitDirectory) :=
  emits_of_launch rfl rfl fst_launch_splitDirectory

/-- The start of a journal in such a directory is one event on two lines. -/
theorem run_lines_split_start :
    let acts : List Act := [.init "info" "/a\nb"]
    let begin : Session := { files := .empty }
    begin.emitted acts = [.started .info splitDirectory] ∧
    (begin.run acts).shown =
      [(some .info, "event=core_init module=core status=ok version=0.1.0 level=info log_dir=/a"),
        (none, "b")] := by
  intro acts begin
  have hemits : begin.emits (.init "info" "/a\nb") = some (.started .info splitDirectory) :=
    emits_start_splitDirectory
  have hkept := kept_perform_of_none (s := begin) rfl (.init "info" "/a\nb")
  rw [hemits] at hkept
  have hemitted : begin.emitted acts = [.started .info splitDirectory] := by
    rw [emitted, hemits]
    rfl
  have hshown : (begin.run acts).shown = [Event.started .info splitDirectory].flatMap Event.lines :=
    congrArg (List.flatMap Event.lines) hkept
  refine ⟨hemitted, hshown.trans ?_⟩
  decide

/-- The text of the abandoned computation has a line feed too, but is one line. -/
theorem run_lines_split_start_abandon :
    let place : Place := ⟨"caller", 7, by decide⟩
    let acts : List Act := [.init "info" "/a\nb", .abandon (.text "x\ny") (some place)]
    let begin : Session := { files := .empty }
    (begin.emitted acts).length = 2 ∧ (begin.run acts).shown.length = 3 := by
  intro place acts begin
  have hstart : begin.emits (.init "info" "/a\nb") = some (.started .info splitDirectory) :=
    emits_start_splitDirectory
  have hstatus : (begin.perform (.init "info" "/a\nb")).2.status =
      some (.info, splitDirectory) := by
    have hrequest : (Act.init "info" "/a\nb").request? = some (.ok (.info, splitDirectory)) := rfl
    have hok : (begin.launch .info splitDirectory).1 = .ok () := fst_launch_splitDirectory
    rw [perform_of_ok hrequest, start_of_status rfl, status_launch rfl, hok]
  have habandon : (begin.perform (.init "info" "/a\nb")).2.emits
      (.abandon (.text "x\ny") (some place)) = some (.abandoned ⟨.text "x\ny", some place⟩) := by
    obtain ⟨j, hjournal, hj⟩ := Option.map_eq_some_iff.mp hstatus
    simp only [emits, hjournal, (Prod.mk.inj hj).1]
    rfl
  have hemitted : (begin.emitted acts).length = 2 := by
    simp only [acts, emitted, hstart, habandon]
    rfl
  have hkept : (begin.run acts).status = some (.info, splitDirectory) :=
    (status_noteResult _ (some place) (.error (.text "x\ny") : Except Abort Unit)).trans hstatus
  obtain ⟨-, -, -, htotal⟩ := run_lines .empty false acts
  have hshown := (htotal (by simp [acts])).2 .info splitDirectory hkept
  refine ⟨hemitted, hshown.trans ?_⟩
  rw [hemitted]
  decide

end Session

end SplitStart

end Monthwise
