import Monthwise.CommandLine.Run

/-! # The program

Fetches words and variables, makes the journal's directory, prints what a run
leaves behind and appends the events of the run to the journal's file.
-/

namespace Monthwise

open CommandLine

/-- What the system says about a directory that cannot be created. -/
def FileFault.ofError : IO.Error → FileFault
  | .alreadyExists _ _ _ => .exists
  | .noFileOrDirectory _ _ _ => .notFound
  | .inappropriateType _ _ _ => .notDirectory
  | .invalidArgument _ 36 _ => .nameTooLong
  | e => .other (toString e)

/-- Makes a directory; one that is there already is as good. -/
def ensureDirectory (path : String) : IO Unit := do
  try
    IO.FS.createDir path
  catch
    | .alreadyExists file code details =>
      try IO.FS.createDirAll path catch _ => throw (.alreadyExists file code details)
    | e => throw e

/-- Makes a directory and those it lies in, in the order of `FileTree.ensureChain`. -/
def makeAll (segments : List String) : IO Unit := do
  let path := "/" ++ "/".intercalate segments
  try
    IO.FS.createDir path
  catch
    | .noFileOrDirectory file code details =>
      if segments = [] then
        throw (.noFileOrDirectory file code details)
      else
        makeAll (FilePath.parent segments)
        ensureDirectory path
    | _ => ensureDirectory path
termination_by segments.length
decreasing_by
  have := FilePath.length_parent_le segments
  have : segments.length ≠ 0 := by simpa using ‹¬ segments = []›
  omega

/-- Makes the directory of the journal, if there is to be one. -/
def prepare (settings : Settings) : IO (Except JournalError Unit) :=
  match settings.directory with
  | none => return .ok ()
  | some directory => do
    let refusal (fault : FileFault) : Except JournalError Unit :=
      .error (.invalidDirectory (.uncreatable directory.path fault))
    match FilePath.fault? directory.path with
    | some fault => return refusal fault
    | none =>
      try
        makeAll (FilePath.segments directory.path)
        return .ok ()
      catch e =>
        return refusal (.ofError e)

/-- Appends the events of a journal to its file. -/
def save (j : Journal) : IO Unit := do
  let handle ← IO.FS.Handle.mk j.file .append
  for e in j.events do
    handle.putStrLn s!"{e.level.name.toUpper} {e.text}"

/-- Keeps the events of a run that answers a command. -/
def keepEvents (settings : Settings) (command : Command) : IO Unit :=
  match settings.directory with
  | none => return ()
  | some directory =>
    let journal : Journal := { level := settings.level, directory }
    save ((journal.note (.started settings.level directory)).note (.commanded command))

/-- Prints what a run leaves behind. -/
def report (outcome : Outcome) : IO UInt32 := do
  for line in outcome.output do
    IO.println line
  for line in outcome.errors do
    IO.eprintln line
  return outcome.code.toUInt32

end Monthwise

open Monthwise in
/-- Runs the program on the words of its command line. -/
def main (words : List String) : IO UInt32 := do
  let level ← IO.getEnv Settings.levelVariable
  let directory ← IO.getEnv Settings.directoryVariable
  let environment := fun name =>
    if name = Settings.levelVariable then level
    else if name = Settings.directoryVariable then directory
    else none
  match CommandLine.plan words environment with
  | .error outcome => report outcome
  | .ok (settings, command) =>
    let started ← prepare settings
    if started matches .ok () then keepEvents settings command
    report (CommandLine.finish started command)
