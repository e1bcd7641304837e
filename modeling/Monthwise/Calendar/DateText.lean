import Monthwise.Calendar.Date
import Monthwise.Text.Scan

/-! # Dates as text

A date is written as year, month and day with hyphens between them. A year that
does not fit into four digits, or lies before year zero, carries its sign.

In data a date is read forgivingly: with blanks around the numbers, one digit where
one is enough, and a sign before any year. Everything that is written is read.
-/

namespace Monthwise

/-- Four digits for the years 0 to 9999; every other year has a sign and at least four digits. -/
def Calendar.yearChars (year : Int) : List Char :=
  if 0 ≤ year ∧ year ≤ 9999 then Decimal.fixed 4 year.toNat
  else (if year < 0 then '-' else '+') :: Decimal.atLeast 4 year.natAbs

namespace Date

/-- Year, month and day, the last two in two digits. -/
def chars (d : Date) : List Char :=
  Calendar.yearChars d.year ++ '-' :: (Decimal.fixed 2 d.month ++ '-' :: Decimal.fixed 2 d.day)

instance : ToString Date where
  toString d := String.ofList d.chars

/-- Reads year, month and day, without asking whether there is such a day. -/
def scanNumbers (cs : List Char) : Except ScanFault ((Int × Nat × Nat) × List Char) := do
  let (year, cs) ← Scan.year cs
  let cs ← Scan.markAfterBlanks '-' cs
  let (month, cs) ← Scan.within 1 12 cs
  let cs ← Scan.markAfterBlanks '-' cs
  let (day, cs) ← Scan.within 1 31 cs
  return ((year, month, day), cs)

/-- The date with these numbers, or the fault of there being none. -/
def ofNumbers (numbers : Int × Nat × Nat) : Except ScanFault Date :=
  match ofYmd? numbers.1 numbers.2.1 numbers.2.2 with
  | some d => .ok d
  | none => .error .outOfRange

/-- Reads a date and nothing after it but blanks. -/
def scan (cs : List Char) : Except ScanFault Date := do
  let (numbers, cs) ← scanNumbers cs
  if Text.skipBlanks cs = [] then ofNumbers numbers else .error .tooLong

end Date

end Monthwise
