import Monthwise.Text.Basic

/-! # Levels of a journal

How grave an event is, and from which level on a journal keeps events.
-/

namespace Monthwise

/-- How the program was built: to be worked on, or to be given away. -/
inductive Build where
  | debug
  | release
deriving DecidableEq, Repr

/-- A level of gravity, the lowest first. -/
inductive Level where
  | trace
  | debug
  | info
  | warn
  | error
deriving DecidableEq, Repr

namespace Level

/-- The place of a level among the five. -/
def rank : Level → Nat
  | .trace => 0
  | .debug => 1
  | .info => 2
  | .warn => 3
  | .error => 4

/-- A journal of this level keeps events of the given level. -/
def admits (level event : Level) : Bool := level.rank ≤ event.rank

/-- The name of a level. -/
def name : Level → String
  | .trace => "trace"
  | .debug => "debug"
  | .info => "info"
  | .warn => "warn"
  | .error => "error"

/-- The level of a name in lower case; there are two names for the fourth. -/
def ofName? : String → Option Level
  | "trace" => some .trace
  | "debug" => some .debug
  | "info" => some .info
  | "warn" => some .warn
  | "warning" => some .warn
  | "error" => some .error
  | _ => none

/-- The name that a text is understood as: blanks around it do not count, nor does the case of
ASCII letters. -/
def normalize (text : String) : String :=
  String.ofList ((Text.trim text.toList).map Char.toLower)

/-- The level that a journal has unless another is asked for: a program that is being worked on
tells more. -/
def standard (build : Build := .debug) : Level :=
  match build with
  | .debug => .debug
  | .release => .info

end Level

end Monthwise
