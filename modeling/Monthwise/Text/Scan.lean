import Monthwise.Text.Basic
import Monthwise.Text.Decimal

/-! # Scanning dates and times

The steps by which a forgiving reader of dates and times goes through a text:
numbers with blanks before them, marks, and the five ways to fail.
-/

namespace Monthwise

/-- Why a text is not read as a date or a time. -/
inductive ScanFault where
  | outOfRange
  | impossible
  | invalid
  | tooShort
  | tooLong
deriving DecidableEq, Repr

/-- The wording of a failed scan. -/
def ScanFault.message : ScanFault → String
  | .outOfRange => "input is out of range"
  | .impossible => "no possible date and time matching input"
  | .invalid => "input contains invalid characters"
  | .tooShort => "premature end of input"
  | .tooLong => "trailing input"

namespace Scan

/-- The value of a run of digits that a signed 64-bit integer must hold. -/
def value (ds : List Char) : Except ScanFault Nat :=
  if Decimal.value ds < Width.signed64 then .ok (Decimal.value ds) else .error .outOfRange

/-- What is wrong with a text that should begin with a digit. -/
def noDigit {α : Type} : List Char → Except ScanFault α
  | [] => .error .tooShort
  | _ :: _ => .error .invalid

/-- Reads a number of at least one digit; there is no limit to its length. -/
def number (cs : List Char) : Except ScanFault (Nat × List Char) :=
  match cs.takeWhile Char.isDigit with
  | [] => noDigit cs
  | ds => do return (← value ds, cs.dropWhile Char.isDigit)

/-- Reads a number of at least one and at most `places` digits. -/
def numberUpTo (places : Nat) (cs : List Char) : Except ScanFault (Nat × List Char) :=
  match (cs.take places).takeWhile Char.isDigit with
  | [] => noDigit cs
  | ds => do return (← value ds, cs.drop ds.length)

/-- Reads a number of up to two digits that lies between two bounds; blanks before it do not
count. -/
def within (low high : Nat) (cs : List Char) : Except ScanFault (Nat × List Char) := do
  let (n, cs) ← numberUpTo 2 (Text.skipBlanks cs)
  if low ≤ n ∧ n ≤ high then return (n, cs) else .error .outOfRange

/-- Reads a year: at most four digits, or any number of them after a sign. -/
def year (cs : List Char) : Except ScanFault (Int × List Char) := do
  let (y, cs) ← show Except ScanFault (Int × List Char) from
    match Text.skipBlanks cs with
    | '-' :: rest => (number rest).map fun (n, rest) => (-(n : Int), rest)
    | '+' :: rest => (number rest).map fun (n, rest) => ((n : Int), rest)
    | rest => (numberUpTo 4 rest).map fun (n, rest) => ((n : Int), rest)
  if -(Width.signed32 : Int) ≤ y ∧ y < Width.signed32 then return (y, cs) else .error .outOfRange

/-- Passes over a mark. -/
def mark (c : Char) : List Char → Except ScanFault (List Char)
  | [] => .error .tooShort
  | d :: rest => if d = c then .ok rest else .error .invalid

/-- Passes over a mark and the blanks before it. -/
def markAfterBlanks (c : Char) (cs : List Char) : Except ScanFault (List Char) :=
  mark c (Text.skipBlanks cs)

end Scan

end Monthwise
