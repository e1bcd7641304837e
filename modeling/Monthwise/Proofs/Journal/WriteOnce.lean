import Mathlib.Tactic.SplitIfs
import Monthwise.Journal.Session

/-! # A journal is started once

Whatever is done during a run, the first start that succeeds decides on the level
and the directory of the journal. A start that fails leaves nothing behind that could
be in the way of a later one, and a start that comes too late changes nothing at all.
-/

namespace Monthwise

theorem Level.ofText_name (level : Level) : Level.ofText level.name = .ok level := by
  cases level <;> rfl

theorem Directory.ofPath_path (directory : Directory) :
    Directory.ofPath directory.path = .ok directory := by
  have hne : directory.path ≠ "" := by
    intro heq
    have habsolute := directory.isAbsolute
    rw [heq] at habsolute
    exact absurd habsolute (by decide)
  rw [Directory.ofPath, if_neg hne, dif_pos directory.isAbsolute]

/-- What two texts ask for. A complaint about the level comes before one about the path. -/
def startRequest (level path : String) : Except JournalError (Level × Directory) := do
  let level ← Level.ofText level
  let directory ← Directory.ofPath path
  return (level, directory)

theorem FileTree.ensureChain_of_ne {tree : FileTree} {segments : List String}
    (h : (tree.ensureDirectory segments).2 ≠ .error .notFound) :
    tree.ensureChain segments = tree.ensureDirectory segments := by
  rw [ensureChain]
  split
  · next heq =>
      rw [heq] at h
      exact absurd rfl h
  · rfl

namespace Act

/-- What an act asks the journal to be started with, if it asks for that at all. -/
def request? : Act → Option (Except JournalError (Level × Directory))
  | .init level path => some (startRequest level path)
  | .initFrom settings => settings.directory.map fun directory => .ok (settings.level, directory)
  | _ => none

/-- The level and the directory of a start that succeeded. -/
def started? (act : Act) : Reply → Option (Level × Directory)
  | .started (.ok ()) => act.request?.bind Except.toOption
  | _ => none

end Act

namespace Journal

variable (j : Journal) (e : Event)

@[simp]
theorem level_note : (j.note e).level = j.level := by
  unfold note makeRoom write
  split_ifs <;> rfl

@[simp]
theorem directory_note : (j.note e).directory = j.directory := by
  unfold note makeRoom write
  split_ifs <;> rfl

end Journal

namespace Session

/-- How a journal of this level in this directory answers a request to start it. A directory is
another one if its path has other parts. -/
def verdict (level : Level) (directory : Directory)
    (request : Except JournalError (Level × Directory)) : Except JournalError Unit := do
  let (level', directory') ← request
  if FilePath.parts directory.path ≠ FilePath.parts directory'.path then
    .error (.directoryConflict directory directory')
  else if level ≠ level' then .error (.levelConflict level level')
  else .ok ()

/-- The acts of a run, each with what came of it. -/
def history (s : Session) : List Act → List (Act × Reply)
  | [] => []
  | act :: rest => (act, (s.perform act).1) :: (s.perform act).2.history rest

variable {s : Session} {act : Act} {level : Level} {directory : Directory}

theorem status_eq_none_iff : s.status = none ↔ s.journal = none := Option.map_eq_none_iff

@[simp]
theorem status_note (s : Session) (e : Event) : (s.note e).status = s.status := by
  unfold note status
  cases hjournal : s.journal <;> simp [hjournal]

@[simp]
theorem status_noteResult {α : Type} (s : Session) (place? : Option Place)
    (result : Except Abort α) : (s.noteResult place? result).status = s.status := by
  cases result with
  | ok _ => rfl
  | error abort => exact status_note s _

theorem status_makeFile (s : Session) (path : String) : (s.makeFile path).2.status = s.status := by
  unfold makeFile
  split
  · rfl
  · simp only [status, Option.map_map]
    congr 1
    funext j
    simp only [Function.comp_apply]
    split_ifs <;> rfl

theorem status_readJournal (s : Session) : s.readJournal.2.status = s.status := by
  unfold readJournal status
  cases hjournal : s.journal with
  | none => simp [hjournal]
  | some j => rfl

section Requests

/-- Settings with a directory ask for what their level and their directory ask for as texts. -/
theorem perform_initFrom {settings : Settings} (h : settings.directory = some directory) :
    s.perform (.initFrom settings) = s.perform (.init settings.level.name directory.path) := by
  simp only [perform, initFrom, init, h, Level.ofText_name, directory.ofPath_path]

theorem perform_init (s : Session) (level path : String) : s.perform (.init level path) =
    match startRequest level path with
    | .error e => (.started (.error e), s)
    | .ok (level, directory) =>
      (.started (s.start level directory).1, (s.start level directory).2) := by
  simp only [perform, init, startRequest]
  cases Level.ofText level with
  | error e => rfl
  | ok level =>
      cases Directory.ofPath path with
      | error e => rfl
      | ok directory => rfl

theorem perform_of_error {e : JournalError} (h : act.request? = some (.error e)) :
    s.perform act = (.started (.error e), s) := by
  cases act with
  | init level path =>
      rw [perform_init, Option.some.inj h]
  | initFrom settings =>
      obtain ⟨directory, -, heq⟩ := Option.map_eq_some_iff.mp h
      cases heq
  | _ => cases h

theorem perform_of_ok (h : act.request? = some (.ok (level, directory))) :
    s.perform act = (.started (s.start level directory).1, (s.start level directory).2) := by
  cases act with
  | init level path =>
      rw [perform_init, Option.some.inj h]
  | initFrom settings =>
      obtain ⟨directory', hdirectory, heq⟩ := Option.map_eq_some_iff.mp h
      cases heq
      simp only [perform, initFrom, hdirectory]
  | _ => cases h

theorem status_perform_of_none (h : act.request? = none) :
    (s.perform act).2.status = s.status := by
  cases act with
  | init level path => cases h
  | initFrom settings =>
      rw [Act.request?, Option.map_eq_none_iff] at h
      simp only [perform, initFrom, h]
  | makeDirectory path => rfl
  | makeFile path => exact status_makeFile s path
  | readJournal => exact status_readJournal s
  | claim =>
      simp only [perform]
      split_ifs <;> rfl
  | create start stop place? => exact status_noteResult s place? _
  | shift p months place? => exact status_noteResult s place? _
  | abandon abort place? => exact status_note s _
  | reconcile window records => exact status_note s _

end Requests

section Start

theorem fst_launch_eq_ok_iff : (s.launch level directory).1 = .ok () ↔
    (s.files.createAll directory.path).2 = .ok () ∧ s.claimed = false := by
  unfold launch
  rcases s.files.createAll directory.path with ⟨files, _ | _⟩
  · simp
  · cases s.claimed <;> simp

/-- A first start that succeeds settles level and directory, and one that fails leaves them open. -/
theorem status_launch (h : s.status = none) : (s.launch level directory).2.status =
    match (s.launch level directory).1 with
    | .ok () => some (level, directory)
    | .error _ => none := by
  rw [status_eq_none_iff] at h
  unfold launch
  rcases s.files.createAll directory.path with ⟨files, fault | _⟩
  · simp [status, h]
  · cases s.claimed
    · exact status_note _ _
    · simp [status, h]

theorem start_of_status (h : s.status = none) :
    s.start level directory = s.launch level directory := by
  rw [status_eq_none_iff] at h
  rw [start, h]

/-- A journal that is kept answers a request and is left as it is, like everything around it. -/
theorem perform_of_status {request : Except JournalError (Level × Directory)}
    (hact : act.request? = some request) (hs : s.status = some (level, directory)) :
    s.perform act = (.started (verdict level directory request), s) := by
  obtain ⟨j, hjournal, heq⟩ := Option.map_eq_some_iff.mp hs
  obtain ⟨rfl, rfl⟩ := Prod.mk.inj heq
  cases request with
  | error e => exact perform_of_error hact
  | ok asked =>
      obtain ⟨level', directory'⟩ := asked
      have hsame : (!j.directory.same directory') = true ↔
          FilePath.parts j.directory.path ≠ FilePath.parts directory'.path := by
        simp [Directory.same]
      have hverdict : verdict j.level j.directory (.ok (level', directory')) =
          j.accepts level' directory' := by
        simp only [Journal.accepts, hsame]
        rfl
      rw [perform_of_ok hact, start, hjournal, hverdict]

/-- The first start that succeeds settles the status; nothing else has a say in it. -/
theorem status_perform (s : Session) (act : Act) :
    (s.perform act).2.status = s.status.or (act.started? (s.perform act).1) := by
  cases hrequest : act.request? with
  | none =>
      have hnone (reply : Reply) : act.started? reply = none := by
        unfold Act.started?
        split
        · rw [hrequest, Option.bind_none]
        · rfl
      rw [status_perform_of_none hrequest, hnone, Option.or_none]
  | some request =>
      cases hs : s.status with
      | some kept => rw [perform_of_status hrequest hs, hs, Option.some_or]
      | none =>
          rw [Option.none_or]
          cases request with
          | error e =>
              rw [perform_of_error hrequest, hs]
              rfl
          | ok asked =>
              obtain ⟨level, directory⟩ := asked
              rw [perform_of_ok hrequest, start_of_status hs, status_launch hs]
              cases (s.launch level directory).1 with
              | error e => rfl
              | ok _ =>
                  rw [Act.started?, hrequest]
                  rfl

theorem status_run (s : Session) (acts : List Act) : (s.run acts).status =
    s.status.or ((s.history acts).findSome? fun entry => entry.1.started? entry.2) := by
  induction acts generalizing s with
  | nil => rw [history, List.findSome?_nil, Option.or_none]; rfl
  | cons act rest ih =>
      have hstep : s.run (act :: rest) = (s.perform act).2.run rest := rfl
      rw [hstep, ih, status_perform, history, List.findSome?_cons, Option.or_assoc]
      cases act.started? (s.perform act).1 with
      | none => rfl
      | some kept => rfl

end Start

/-- In a run that begins without a journal, the status is that of the first start that succeeds, and
there is none before. Until then a start succeeds exactly if its texts can be understood, its
directory can be made and nobody else has claimed the events, whatever has failed before. From then
on every start only gets its verdict, and nothing changes. Settings ask for what their level and
directory ask for as texts, and without a directory they ask for nothing. -/
theorem run_startsOnce (files : FileTree) (claimed : Bool) (acts : List Act) :
    let begin : Session := { files, claimed }
    let s := begin.run acts
    s.status = ((begin.history acts).findSome? fun entry => entry.1.started? entry.2) ∧
    (∀ kept, s.status = some kept → ∀ more, (s.run more).status = some kept) ∧
    (∀ act request, act.request? = some request →
      match s.status with
      | none => (s.perform act).1 = .started (.ok ()) ↔ ∃ level directory,
          request = .ok (level, directory) ∧
          (s.files.createAll directory.path).2 = .ok () ∧ s.claimed = false
      | some (level, directory) =>
          s.perform act = (.started (verdict level directory request), s)) ∧
    (∀ settings : Settings, s.perform (.initFrom settings) =
      match settings.directory with
      | none => (.started (.ok ()), s)
      | some directory => s.perform (.init settings.level.name directory.path)) := by
  intro begin s
  refine ⟨?_, ?_, ?_, ?_⟩
  · exact (status_run begin acts).trans (Option.none_or ..)
  · intro kept hs more
    rw [status_run, hs, Option.some_or]
  · intro act request hact
    cases hs : s.status with
    | some kept => exact perform_of_status hact hs
    | none =>
        simp only
        cases request with
        | error e => simp [perform_of_error hact]
        | ok asked =>
            obtain ⟨level, directory⟩ := asked
            simp only [perform_of_ok hact, start_of_status hs, Reply.started.injEq,
              fst_launch_eq_ok_iff, Except.ok.injEq, Prod.mk.injEq]
            constructor
            · exact fun hstarts => ⟨level, directory, ⟨rfl, rfl⟩, hstarts⟩
            · rintro ⟨_, _, ⟨rfl, rfl⟩, hstarts⟩
              exact hstarts
  · intro settings
    cases hdirectory : settings.directory with
    | none => simp only [perform, initFrom, hdirectory]
    | some directory => exact perform_initFrom hdirectory

/-- Two starts fail, one by its text and one because a file is where the directory should be. The
third succeeds, and after it neither another spelling of the same start nor two others change
anything. -/
theorem run_startsOnce_third_start :
    let acts : List Act := [.init "loud" "/logs", .makeFile "/logs", .init "info" "/logs",
      .init " Warning " "/var/"]
    let s : Session := Session.run { files := .empty } acts
    let kept : Directory := ⟨"/var/", by decide⟩
    s.status = some (.warn, kept) ∧
    s.perform (.init "warn" "//var/.") = (.started (.ok ()), s) ∧
    s.perform (.init "info" "/var") = (.started (.error (.levelConflict .warn .info)), s) ∧
    s.perform (.init "info" "/logs") =
      (.started (.error (.directoryConflict kept ⟨"/logs", by decide⟩)), s) := by
  intro acts s kept
  obtain ⟨-, -, hverdict, -⟩ := run_startsOnce .empty false acts
  let before : Session := { files := .directory [("logs", .file)] }
  have hblocked : before.files.createAll "/logs" = (before.files, .error .exists) :=
    FileTree.ensureChain_of_ne (by rintro ⟨⟩)
  have hmade : before.files.createAll "/var/" =
      (.directory [("var", .empty), ("logs", .file)], .ok ()) :=
    FileTree.ensureChain_of_ne (by rintro ⟨⟩)
  have hsecond : (before.perform (.init "info" "/logs")).2 = before := by
    rw [perform_of_ok rfl, start_of_status rfl, launch]
    simp only [hblocked]
  have hrun : s = (before.perform (.init " Warning " "/var/")).2 := by
    rw [← hsecond]
    rfl
  have hkept : s.status = some (.warn, kept) := by
    have hok : (before.launch .warn kept).1 = .ok () :=
      fst_launch_eq_ok_iff.mpr ⟨congrArg Prod.snd hmade, rfl⟩
    rw [hrun, perform_of_ok rfl, start_of_status rfl, status_launch rfl, hok]
  have hanswer {act : Act} {request} (hact : act.request? = some request) :
      s.perform act = (.started (verdict .warn kept request), s) := by
    have hmatch := hverdict act request hact
    rw [hkept] at hmatch
    exact hmatch
  refine ⟨hkept, ?_, ?_, ?_⟩
  · have hsame : verdict .warn ⟨"/var/", by decide⟩ (startRequest "warn" "//var/.") = .ok () := rfl
    rw [hanswer rfl, hsame]
  · have hlevel : verdict .warn ⟨"/var/", by decide⟩ (startRequest "info" "/var") =
        .error (.levelConflict .warn .info) := rfl
    rw [hanswer rfl, hlevel]
  · have hdirectory : verdict .warn ⟨"/var/", by decide⟩ (startRequest "info" "/logs") =
        .error (.directoryConflict ⟨"/var/", by decide⟩ ⟨"/logs", by decide⟩) := rfl
    rw [hanswer rfl, hdirectory]

end Session

end Monthwise
