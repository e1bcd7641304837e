import Monthwise.Journal.FileTree
import Monthwise.Journal.Level

/-! # Refusals of a journal

Why a journal is not started, or not started again.
-/

namespace Monthwise

/-- Why a path is no directory for a journal. -/
inductive DirectoryFault where
  | blank
  | relative (path : String)
  | uncreatable (path : String) (fault : FileFault)
deriving DecidableEq, Repr

/-- Why a journal is refused. -/
inductive JournalError where
  | unsupportedLevel (name : String)
  | invalidDirectory (fault : DirectoryFault)
  | levelConflict (active requested : Level)
  | directoryConflict (active requested : Directory)
  /-- Events go to somebody else already. -/
  | backend
deriving DecidableEq

/-- What is wrong with a path. -/
def DirectoryFault.message : DirectoryFault → String
  | .blank => "log_dir cannot be empty"
  | .relative path => s!"log_dir must be an absolute path, got `{path}`"
  | .uncreatable path fault => s!"failed to create `{path}`: {fault.message}"

/-- The wording of a refusal. -/
def JournalError.message : JournalError → String
  | .unsupportedLevel name =>
    s!"unsupported log level `{name}`; expected trace|debug|info|warn|error"
  | .invalidDirectory fault => s!"invalid log directory: {fault.message}"
  | .levelConflict active requested =>
    s!"logging already initialized with level `{active.name}`; " ++
      s!"refusing to switch to `{requested.name}`"
  | .directoryConflict active requested =>
    s!"logging already initialized at `{active.path}`; " ++
      s!"refusing to switch to `{requested.path}`"
  | .backend => "logger backend failed: Logger initialization failed"

/-- The level that a text asks for. -/
def Level.ofText (text : String) : Except JournalError Level :=
  match ofName? (normalize text) with
  | some level => .ok level
  | none => .error (.unsupportedLevel (normalize text))

/-- The directory that a path asks for. It need not exist yet. -/
def Directory.ofPath (path : String) : Except JournalError Directory :=
  if path = "" then .error (.invalidDirectory .blank)
  else if h : FilePath.IsAbsolute path then .ok ⟨path, h⟩
  else .error (.invalidDirectory (.relative path))

end Monthwise
