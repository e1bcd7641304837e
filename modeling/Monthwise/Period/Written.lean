import Monthwise.Period.Basic
import Monthwise.Text.Basic

/-! # Periods as people write them

A period is written as one month, as two months, or as its first and last day.
Reading goes in two steps. The first looks only at the shape of the text and
takes decimal digits of any script; the second asks for the month or day that
the digits name, and knows ASCII digits alone.
-/

namespace Monthwise

/-- The digits of a written month. -/
structure MonthDigits where
  year : List Char
  month : List Char
deriving DecidableEq, Repr

/-- The digits of a written day. -/
structure DateDigits where
  year : List Char
  month : List Char
  day : List Char
deriving DecidableEq, Repr

/-- What stands between the two days of a period. -/
inductive DateSeparator where
  | dots
  | slash
deriving DecidableEq, Repr

/-- The three ways to write a period. -/
inductive Written where
  | oneMonth (only : MonthDigits)
  | monthRange (first last : MonthDigits)
  | dateRange (start : DateDigits) (separator : DateSeparator) (stop : DateDigits)
deriving DecidableEq, Repr

/-- Why a text is not read as a period. -/
inductive ReadError where
  | unrecognised (text : String)
  | noSuchDate (text : String)
  | rejected (cause : PeriodError)
deriving DecidableEq, Repr

/-- The wording of a failed reading. -/
def ReadError.message : ReadError → String
  | .unrecognised text =>
    s!"unrecognised period `{text}`; expected YYYY-MM, YYYY-MM..YYYY-MM or YYYY-MM-DD..YYYY-MM-DD"
  | .noSuchDate text => s!"invalid calendar date in `{text}`"
  | .rejected cause => cause.message

/-- The refusal that lies behind a failed reading, if the text itself was good. -/
def ReadError.cause? : ReadError → Option PeriodError
  | .rejected cause => some cause
  | _ => none

namespace Written

/-- Splits off exactly `n` decimal digits of any script. -/
def digits? (n : Nat) (cs : List Char) : Option (List Char × List Char) :=
  if (cs.take n).length = n ∧ (cs.take n).all Text.isDecimalDigit then
    some (cs.take n, cs.drop n)
  else
    none

/-- Drops the mark that the text must begin with. -/
def mark? (mark cs : List Char) : Option (List Char) :=
  if mark.isPrefixOf cs then some (cs.drop mark.length) else none

/-- Four digits, a hyphen and two digits. -/
def monthDigits? (cs : List Char) : Option (MonthDigits × List Char) := do
  let (year, cs) ← digits? 4 cs
  let cs ← mark? ['-'] cs
  let (month, cs) ← digits? 2 cs
  return (⟨year, month⟩, cs)

/-- A written month, a hyphen and two digits. -/
def dateDigits? (cs : List Char) : Option (DateDigits × List Char) := do
  let (m, cs) ← monthDigits? cs
  let cs ← mark? ['-'] cs
  let (day, cs) ← digits? 2 cs
  return (⟨m.year, m.month, day⟩, cs)

/-- Two dots, or a slash. -/
def separator? (cs : List Char) : Option (DateSeparator × List Char) :=
  match mark? ['.', '.'] cs with
  | some rest => some (.dots, rest)
  | none => (mark? ['/'] cs).map fun rest => (.slash, rest)

/-- Reads two days and nothing after them. -/
def dates? (cs : List Char) : Option Written := do
  let (start, cs) ← dateDigits? cs
  let (separator, cs) ← separator? cs
  let (stop, cs) ← dateDigits? cs
  if cs = [] then some (.dateRange start separator stop) else none

/-- Reads one month or two and nothing after them. -/
def months? (cs : List Char) : Option Written := do
  let (first, cs) ← monthDigits? cs
  if cs = [] then
    some (.oneMonth first)
  else
    let cs ← mark? ['.', '.'] cs
    let (last, cs) ← monthDigits? cs
    if cs = [] then some (.monthRange first last) else none

/-- The shape of a text, if it is one of the three. -/
def ofChars? (cs : List Char) : Option Written := (dates? cs).or (months? cs)

/-- The number that digits of ASCII name; digits of other scripts name none. -/
def number? (digits : List Char) : Option Nat :=
  if digits.all Char.isDigit then some (Decimal.value digits) else none

end Written

namespace MonthDigits

/-- The written form of a month. -/
def chars (m : MonthDigits) : List Char := m.year ++ '-' :: m.month

/-- The first day of the month that is named, if there is one. -/
def date? (m : MonthDigits) : Option Date := do
  let year ← Written.number? m.year
  let month ← Written.number? m.month
  Date.ofYmd? year month 1

end MonthDigits

namespace DateDigits

/-- The written form of a day. -/
def chars (d : DateDigits) : List Char := d.year ++ '-' :: (d.month ++ '-' :: d.day)

/-- The day that is named, if there is one. -/
def date? (d : DateDigits) : Option Date := do
  let year ← Written.number? d.year
  let month ← Written.number? d.month
  let day ← Written.number? d.day
  Date.ofYmd? year month day

/-- The day that is named; its absence is put down to this part of the text. -/
def date (d : DateDigits) : Except ReadError Date :=
  match d.date? with
  | some day => .ok day
  | none => .error (.noSuchDate (String.ofList d.chars))

end DateDigits

namespace Written

/-- The mark between two days. -/
def separatorChars : DateSeparator → List Char
  | .dots => ['.', '.']
  | .slash => ['/']

/-- The text of a written period. -/
def chars : Written → List Char
  | .oneMonth only => only.chars
  | .monthRange first last => first.chars ++ ['.', '.'] ++ last.chars
  | .dateRange start separator stop => start.chars ++ separatorChars separator ++ stop.chars

/-- The first day of a named month; its absence is put down to the text as a whole. -/
def monthStart (w : Written) (m : MonthDigits) : Except ReadError Date :=
  match m.date? with
  | some day => .ok day
  | none => .error (.noSuchDate (String.ofList w.chars))

/-- The first and the last day that are written. A month stands for all its days. -/
def ends (w : Written) : Except ReadError (Date × Date) :=
  match w with
  | .oneMonth only => do
    let start ← w.monthStart only
    return (start, start.lastOfMonth)
  | .monthRange first last => do
    let start ← w.monthStart first
    let stop ← w.monthStart last
    return (start, stop.lastOfMonth)
  | .dateRange start _ stop => do
    return (← start.date, ← stop.date)

end Written

namespace Period

/-- Reads a period and puts its two days together by `build`. -/
def parseWith (build : Date → Date → Except PeriodError Period) (text : String) :
    Except ReadError Period :=
  let cs := Text.trim text.toList
  match Written.ofChars? cs with
  | none => .error (.unrecognised (String.ofList cs))
  | some written =>
    match written.ends with
    | .error e => .error e
    | .ok (start, stop) => (build start stop).mapError .rejected

/-- Reads a period of at most `maxMonths` months. Blanks around it do not count. -/
def parse (text : String) : Except ReadError Period := parseWith create text

/-- Reads a period of any length. Blanks around it do not count. -/
def parseAnyLength (text : String) : Except ReadError Period := parseWith ofDates text

end Period

end Monthwise
