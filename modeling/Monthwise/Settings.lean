import Monthwise.Journal.Error

/-! # Settings

The level and the directory of the journal, put together from the environment and
from what the caller asks for. Without a directory no journal is kept.
-/

namespace Monthwise

/-- What is set for the journal. -/
structure Settings where
  level : Level := .standard
  directory : Option Directory := none
deriving DecidableEq

/-- A variable of the environment holds what cannot be used. -/
structure InvalidVariable where
  name : String
  cause : JournalError

/-- The wording of the complaint about a variable. -/
def InvalidVariable.message (e : InvalidVariable) : String := s!"{e.name}: {e.cause.message}"

namespace Settings

/-- The variable that holds the level. -/
def levelVariable : String := "CASELINE_LOG_LEVEL"

/-- The variable that holds the directory. -/
def directoryVariable : String := "CASELINE_LOG_DIR"

/-- Sets the level. -/
def withLevel (s : Settings) (text : String) : Except JournalError Settings := do
  return { s with level := ← Level.ofText text }

/-- Sets the directory. -/
def withDirectory (s : Settings) (path : String) : Except JournalError Settings := do
  return { s with directory := some (← Directory.ofPath path) }

/-- A text of nothing but blanks. -/
def isBlank (text : String) : Bool := text.toList.all Text.isBlank

/-- The value of a variable; a blank one is as good as unset. -/
def read? (environment : String → Option String) (name : String) : Option String :=
  (environment name).filter fun text => !isBlank text

/-- Applies a setting to the value of a variable, if the variable has one. -/
def apply (s : Settings) (name : String) (value? : Option String)
    (set : Settings → String → Except JournalError Settings) : Except InvalidVariable Settings :=
  match value? with
  | none => .ok s
  | some value => (set s value).mapError fun cause => ⟨name, cause⟩

/-- The settings of the environment: first the level, then the directory, the latter without the
blanks around it. Which level there is without a variable depends on the build. -/
def ofVariables (environment : String → Option String) (build : Build := .debug) :
    Except InvalidVariable Settings := do
  let s ← apply { level := .standard build } levelVariable (read? environment levelVariable)
    withLevel
  apply s directoryVariable (read? environment directoryVariable) fun s path =>
    s.withDirectory (String.ofList (Text.trim path.toList))

/-- Sets what the caller asks for: first the level, then the directory. -/
def override (s : Settings) (level? directory? : Option String) :
    Except JournalError Settings := do
  let s ← match level? with
    | some level => s.withLevel level
    | none => pure s
  match directory? with
  | some directory => s.withDirectory directory
  | none => pure s

end Settings

end Monthwise
