import Monthwise.CommandLine.Command
import Monthwise.Journal.Directory
import Monthwise.Journal.Level
import Monthwise.Period.Algebra
import Monthwise.Text.Basic
import Monthwise.Timeline.Basic

/-! # Events of a journal

What is worth a line in a journal, and the text of that line: names and values
in a fixed order, so that lines can be searched.
-/

namespace Monthwise

/-- Where an abandoned computation came from, as far as its text tells. -/
inductive Origin where
  | create
  | shift
  | elsewhere
deriving DecidableEq, Repr

namespace Origin

/-- The origin that a text points to: refused creations begin with a mark of their own, and
impossible shifts begin and end with theirs. -/
def ofText (cs : List Char) : Origin :=
  if Period.createMark.toList.isPrefixOf cs then .create
  else if "shifting ".toList.isPrefixOf cs ∧ Period.shiftMark.toList.isSuffixOf cs then .shift
  else .elsewhere

/-- The part of the library that is named for the origin. -/
def area : Origin → String
  | .create => "period"
  | .shift => "period"
  | .elsewhere => "core"

/-- The operation that is at the origin. -/
def operation : Origin → String
  | .create => "create"
  | .shift => "shift"
  | .elsewhere => "unknown"

end Origin

/-- A place in the text of the program, of which the name of the file is on one line. -/
structure Place where
  file : String
  line : Nat
  oneLine : '\n' ∉ file.toList := by decide
deriving DecidableEq, Repr

/-- What is told of an abandoned computation: what it left behind and where, if that is known. -/
structure Abandonment where
  abort : Abort
  place? : Option Place := none
deriving DecidableEq, Repr

/-- The place as it is shown. -/
def Abandonment.location (told : Abandonment) : String :=
  match told.place? with
  | some place => s!"{place.file}:{Decimal.text place.line}"
  | none => "unknown"

/-- Something that a journal may keep. -/
inductive Event where
  /-- The journal was started. -/
  | started (level : Level) (directory : Directory)
  /-- A computation was given up. -/
  | abandoned (told : Abandonment)
  /-- Records were laid over a window. -/
  | reconciled (window : Period) (records segments uncovered : Nat)
  /-- A command is about to be answered. -/
  | commanded (command : Command)

namespace Event

/-- The greatest number of characters of an abandoned computation's text that are kept. -/
def maxTextLength : Nat := 160

/-- A text on one line: line ends become spaces, and what is too long is cut. -/
def flatten (limit : Nat) (cs : List Char) : List Char :=
  (cs.take limit).map (fun c => if c = '\n' ∨ c = '\r' then ' ' else c) ++
    if limit < cs.length then ['.', '.', '.'] else []

/-- The text that stands for an abandoned computation. -/
def abortText (abort : Abort) : String := abort.message?.getD "non-string panic payload"

/-- How grave an event is. -/
def level : Event → Level
  | .started _ _ => .info
  | .abandoned _ => .error
  | .reconciled _ _ _ _ => .debug
  | .commanded _ => .info

/-- The line that tells of an event. -/
def text : Event → String
  | .started level directory =>
    s!"event=core_init module=core status=ok version={About.version} " ++
      s!"level={level.name} log_dir={directory.path}"
  | .abandoned told =>
    let cs := (abortText told.abort).toList
    let origin := Origin.ofText cs
    s!"event=panic_captured module={origin.area} op={origin.operation} status=error " ++
      s!"location={told.location} payload={String.ofList (flatten maxTextLength cs)}"
  | .reconciled window records segments uncovered =>
    s!"event=timeline_reconcile module=timeline status=ok window={window} " ++
      s!"records={Decimal.text records} segments={Decimal.text segments} " ++
      s!"uncovered_months={Decimal.text uncovered}"
  | .commanded command => s!"event=cli_command module=cli command={command.describe}"

/-- The lines of an event in a file. The first shows the level; a text that has line ends in it
goes on without one. -/
def lines (e : Event) : List (Option Level × String) :=
  let (first, others) := Text.atLineFeeds e.text.toList
  (some e.level, Text.ofLine first) :: others.map fun line => (none, Text.ofLine line)

/-- How many bytes of a file's line name the place in the program that tells of an event. That is
not the place of an abandoned computation, which stands in the text. -/
def placeBytes : Event → Nat
  | .started _ _ => 66
  | .abandoned _ => 66
  | .reconciled _ _ _ _ => 89
  | .commanded _ => 48

/-- How many bytes an event takes in a file: a time stamp, the level, the place, the text and a
line feed. -/
def bytes (e : Event) : Nat :=
  36 + (e.level.name.utf8ByteSize + 1) + e.placeBytes + e.text.utf8ByteSize + 1

end Event

/-- The event of laying records over a window. -/
def Timeline.event {ρ Recency Id : Type} [TimedRecord ρ Recency Id] [Ord Recency] [Ord Id]
    (fresh : Nat → Id) (window : Period) (records : List ρ) : Event :=
  .reconciled window records.length (reconcile fresh window records).size
    (uncovered window records)

end Monthwise
