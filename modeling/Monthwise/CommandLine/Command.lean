import Monthwise.Coverage
import Monthwise.Period.Wire

/-! # Commands

What can be asked of the program, and the lines that answer it. Every period in
an answer is written so that it can be handed in again. The program also tells
its name, its version and what it is for.
-/

namespace Monthwise

namespace About

/-- The name of the program on the command line. -/
def program : String := "caseline"

/-- The name under which the library reports itself. -/
def library : String := "caseline_core"

/-- The version of the program and of the library. -/
def version : String := "0.1.0"

/-- The answer to a liveness check. -/
def pong : String := "pong"

/-- What the program does, in one line. -/
def description : String := "Month-aligned period algebra"

end About

/-- A command with its periods. -/
inductive Command where
  | ping
  | version
  | months (p : Period)
  | reduce (ps : List Period)
  | subtract (base : Period) (removals : List Period)
  | covered (target : Period) (ps : List Period)
  | json (p : Period)
deriving DecidableEq, Repr

namespace Command

/-- Each period on a line of its own. -/
def periodLines (ps : List Period) : List String := ps.map toString

/-- The lines that answer a command. -/
def lines : Command → List String
  | .ping => [s!"{About.library} ping={About.pong}"]
  | .version => [s!"{About.library} version={About.version}"]
  | .months p => periodLines p.toMonths
  | .reduce ps => periodLines (Coverage.reduce ps)
  | .subtract base removals => periodLines (Coverage.subtractAll [base] removals)
  | .covered target ps =>
    s!"covered={Coverage.fullyCoveredBy target ps}" ::
      (Coverage.gaps target ps).map fun gap => s!"gap={gap}"
  | .json p => [p.json.render]

/-- A period with its two fields, as it is shown in a journal. -/
def showPeriod (p : Period) : String :=
  s!"Period \x7b fra_og_med: {p.start}, til_og_med: {p.stop} \x7d"

/-- Periods in brackets, as they are shown in a journal. -/
def showPeriods (ps : List Period) : String :=
  "[" ++ String.intercalate ", " (ps.map showPeriod) ++ "]"

/-- The command as it is shown in a journal. -/
def describe : Command → String
  | .ping => "Ping"
  | .version => "Version"
  | .months p => s!"Months \x7b period: {showPeriod p} \x7d"
  | .reduce ps => s!"Reduce \x7b periods: {showPeriods ps} \x7d"
  | .subtract base removals =>
    s!"Subtract \x7b base: {showPeriod base}, remove: {showPeriods removals} \x7d"
  | .covered target ps =>
    s!"Covered \x7b target: {showPeriod target}, periods: {showPeriods ps} \x7d"
  | .json p => s!"Json \x7b period: {showPeriod p} \x7d"

end Command

end Monthwise
