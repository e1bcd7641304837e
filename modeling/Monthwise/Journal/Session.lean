import Monthwise.Award
import Monthwise.Journal.Basic
import Monthwise.Settings

/-! # The journal of a run

A run of the program starts its journal at most once. Before that nothing is
kept; afterwards a start with the same level and directory changes nothing, and
any other start is refused. Events can also be claimed by somebody else, and
then no journal can be started. Somebody else may also put a directory where the
journal's file should be, or empty that file.
-/

namespace Monthwise

/-- What a run of the program has got to: the files around it, whether somebody else has claimed
its events, and its journal, once started. -/
structure Session where
  files : FileTree
  claimed : Bool := false
  journal : Option Journal := none

namespace Session

/-- Level and directory of the started journal. -/
def status (s : Session) : Option (Level × Directory) :=
  s.journal.map fun j => (j.level, j.directory)

/-- Keeps an event if the journal is started. The journal's file is there from the first event on
that is kept. -/
def note (s : Session) (e : Event) : Session :=
  match s.journal with
  | none => s
  | some j =>
    let files := if j.level.admits e.level then (s.files.createFile j.file).1 else s.files
    { s with files, journal := some (j.note e) }

/-- Starts the journal for the first time: its directory is made, then its events are claimed. -/
def launch (s : Session) (level : Level) (directory : Directory) :
    Except JournalError Unit × Session :=
  match s.files.createAll directory.path with
  | (files, .error fault) =>
    (.error (.invalidDirectory (.uncreatable directory.path fault)), { s with files })
  | (files, .ok ()) =>
    if s.claimed then (.error .backend, { s with files })
    else
      let journal : Option Journal := some { level, directory }
      (.ok (), { s with files, journal }.note (.started level directory))

/-- Starts the journal, unless it is started already. -/
def start (s : Session) (level : Level) (directory : Directory) :
    Except JournalError Unit × Session :=
  match s.journal with
  | some j => (j.accepts level directory, s)
  | none => s.launch level directory

/-- Starts the journal as two texts ask for. -/
def init (s : Session) (level path : String) : Except JournalError Unit × Session :=
  match Level.ofText level with
  | .error e => (.error e, s)
  | .ok level =>
    match Directory.ofPath path with
    | .error e => (.error e, s)
    | .ok directory => s.start level directory

/-- Starts the journal as the settings ask for; without a directory there is nothing to start. -/
def initFrom (s : Session) (settings : Settings) : Except JournalError Unit × Session :=
  match settings.directory with
  | none => (.ok (), s)
  | some directory => s.start settings.level directory

/-- Writes an empty file, which may be the journal's. -/
def makeFile (s : Session) (path : String) : Bool × Session :=
  match s.files.createFile path with
  | (files, false) => (false, { s with files })
  | (files, true) =>
    let leadsTo (other : String) : Bool :=
      files.samePlace (FilePath.segments path) (FilePath.segments other)
    let journal := s.journal.map fun j => if leadsTo j.file then j.wipe else j
    (true, { s with files, journal })

/-- Writes out the journal and reads the lines of its file, if there is a file. -/
def readJournal (s : Session) : Option (List (Option Level × String)) × Session :=
  match s.journal with
  | none => (none, s)
  | some j =>
    let j := j.write
    let readable := (FilePath.fault? j.file).isNone && s.files.isFile (FilePath.segments j.file)
    (if readable then some j.lines else none, { s with journal := some j })

end Session

/-- Something that is done during a run. A computation that may be abandoned comes with the place
where that would be. -/
inductive Act where
  | init (level path : String)
  | initFrom (settings : Settings)
  | makeDirectory (path : String)
  | makeFile (path : String)
  | readJournal
  /-- Somebody else claims the events. -/
  | claim
  | create (start stop : Date) (place? : Option Place := none)
  | shift (p : Period) (months : Int) (place? : Option Place := none)
  /-- Something else is given up. -/
  | abandon (abort : Abort) (place? : Option Place := none)
  | reconcile (window : Period) (records : List Award)

/-- What came of an act. -/
inductive Reply where
  | started (result : Except JournalError Unit)
  | succeeded (yes : Bool)
  | lines (lines? : Option (List (Option Level × String)))
  | period (result : Except Abort Period)
  | abandoned (abort : Abort)
  | laid (timeline : Timeline Award)

namespace Session

/-- Keeps the event of a computation that was abandoned at the given place, if it was abandoned. -/
def noteResult {α : Type} (s : Session) (place? : Option Place) : Except Abort α → Session
  | .ok _ => s
  | .error abort => s.note (.abandoned { abort, place? })

/-- Does an act. -/
def perform (s : Session) : Act → Reply × Session
  | .init level path =>
    let (result, s) := s.init level path
    (.started result, s)
  | .initFrom settings =>
    let (result, s) := s.initFrom settings
    (.started result, s)
  | .makeDirectory path =>
    let (files, result) := s.files.createAll path
    (.succeeded (result matches .ok ()), { s with files })
  | .makeFile path =>
    let (made, s) := s.makeFile path
    (.succeeded made, s)
  | .readJournal =>
    let (lines?, s) := s.readJournal
    (.lines lines?, s)
  | .claim =>
    if s.claimed || s.journal.isSome then (.succeeded false, s)
    else (.succeeded true, { s with claimed := true })
  | .create start stop place? =>
    let result := Period.createOrAbort start stop
    (.period result, s.noteResult place? result)
  | .shift p months place? =>
    let result := p.shiftOrAbort months
    (.period result, s.noteResult place? result)
  | .abandon abort place? => (.abandoned abort, s.note (.abandoned { abort, place? }))
  | .reconcile window records =>
    let identity := fun _ => (0 : Int)
    (.laid (Timeline.reconcile identity window records),
      s.note (Timeline.event identity window records))

/-- Does one act after the other. -/
def run (s : Session) (acts : List Act) : Session :=
  acts.foldl (fun s act => (s.perform act).2) s

end Session

end Monthwise
