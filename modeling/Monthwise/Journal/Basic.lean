import Monthwise.Journal.Error
import Monthwise.Journal.Event

/-! # Journals

A journal keeps the events that are grave enough, and its file shows them as
lines. Events reach the file only when the journal is written out or when too
much waits to be written, so that somebody who empties the file takes away no
event that still waits.

A file that grows beyond ten MiB is put aside under a number and a new one is begun;
five of those that were put aside are kept. All that is left out here: the file of a
journal is taken to stay below that size.
-/

namespace Monthwise

/-- A started journal: the events that its file shows and those that wait to be written, the oldest
first. -/
structure Journal where
  level : Level
  directory : Directory
  written : List Event := []
  pending : List Event := []

namespace Journal

/-- The path of the file that holds the journal's lines. -/
def file (j : Journal) : String := s!"{j.directory.path}/{About.program}_rCURRENT.log"

/-- The events that the journal holds, the oldest first. -/
def events (j : Journal) : List Event := j.written ++ j.pending

/-- Writes what waits to be written. -/
def write (j : Journal) : Journal := { j with written := j.events, pending := [] }

/-- How many bytes may wait to be written. -/
def maxPendingBytes : Nat := 8192

/-- How many bytes wait to be written. -/
def pendingBytes (j : Journal) : Nat := j.pending.foldl (fun n e => n + e.bytes) 0

/-- Writes what waits if as many bytes more may not wait with it. -/
def makeRoom (j : Journal) (bytes : Nat) : Journal :=
  if maxPendingBytes < j.pendingBytes + bytes then j.write else j

/-- Keeps an event that is grave enough. -/
def note (j : Journal) (e : Event) : Journal :=
  if j.level.admits e.level then
    let j := j.makeRoom e.bytes
    { j with pending := j.pending ++ [e] }
  else j

/-- The journal after its file was emptied. -/
def wipe (j : Journal) : Journal := { j with written := [] }

/-- The lines of the journal's file. -/
def lines (j : Journal) : List (Option Level × String) := j.written.flatMap Event.lines

/-- Whether a start with this directory and level would change nothing. The directory is looked
at first. -/
def accepts (j : Journal) (level : Level) (directory : Directory) : Except JournalError Unit :=
  if !j.directory.same directory then .error (.directoryConflict j.directory directory)
  else if j.level ≠ level then .error (.levelConflict j.level level)
  else .ok ()

theorem events_write (j : Journal) : j.write.events = j.events := by
  simp [write, events]

theorem events_makeRoom (j : Journal) (bytes : Nat) : (j.makeRoom bytes).events = j.events := by
  unfold makeRoom
  split
  · exact events_write j
  · rfl

theorem events_note (j : Journal) (e : Event) :
    (j.note e).events = if j.level.admits e.level then j.events ++ [e] else j.events := by
  unfold note
  split
  · rw [← events_makeRoom j e.bytes]
    simp [events]
  · rfl

end Journal

end Monthwise
