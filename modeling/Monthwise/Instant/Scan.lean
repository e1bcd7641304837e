import Monthwise.Calendar.DateText
import Monthwise.Instant.Basic

/-! # Reading instants forgivingly

A date, a time of day and the distance of the clock from universal time. The
distance is taken off, so that the same instant read from two clocks is the same
value.
-/

namespace Monthwise.Instant

/-- The time of day that a text shows, with the nanoseconds counted through a leap second. -/
structure ClockTime where
  second : Nat
  nano : Nat
  second_lt : second < 86400
  nano_lt : nano < 2000000000
  leap : 1000000000 ≤ nano → second % 60 = 59
deriving Repr

/-- The time of day with these parts, if there is one. The sixtieth second is a leap second. -/
def ClockTime.ofParts? (hour minute second nano : Nat) : Option ClockTime :=
  if h : hour < 24 ∧ minute < 60 ∧ second ≤ 60 ∧ nano < 1000000000 then
    if hs : second = 60 then
      some {
        second := 3600 * hour + 60 * minute + 59
        nano := 1000000000 + nano
        second_lt := by omega
        nano_lt := by omega
        leap := by omega }
    else
      some {
        second := 3600 * hour + 60 * minute + second
        nano
        second_lt := by omega
        nano_lt := by omega
        leap := by omega }
  else
    none

/-- Reads the part of a second, if there is one: nine digits count, any more are passed over. -/
def scanFraction : List Char → Except ScanFault (Nat × List Char)
  | '.' :: rest => do
    let (n, after) ← Scan.numberUpTo 9 rest
    let places := rest.length - after.length
    return (n * Nat.pow 10 (9 - places), after.dropWhile Char.isDigit)
  | cs => .ok (0, cs)

/-- Reads hour, minute and second. -/
def scanClock (cs : List Char) : Except ScanFault (ClockTime × List Char) := do
  let (hour, cs) ← Scan.within 0 23 cs
  let cs ← Scan.markAfterBlanks ':' cs
  let (minute, cs) ← Scan.within 0 59 cs
  let cs ← Scan.markAfterBlanks ':' cs
  let (second, cs) ← Scan.within 0 60 cs
  let (nano, cs) ← scanFraction cs
  match ClockTime.ofParts? hour minute second nano with
  | some time => return (time, cs)
  | none => .error .outOfRange

/-- Reads two digits that say how many hours a clock is ahead or behind. -/
def scanOffsetHours : List Char → Except ScanFault (Nat × List Char)
  | a :: b :: rest =>
    if a.isDigit ∧ b.isDigit then .ok (Decimal.value [a, b], rest) else .error .invalid
  | [a] => if a.utf8Size < 2 then .error .tooShort else .error .invalid
  | [] => .error .tooShort

/-- Reads two digits that say how many minutes a clock is ahead or behind. -/
def scanOffsetMinutes : List Char → Except ScanFault (Nat × List Char)
  | a :: b :: rest =>
    if a.isDigit ∧ b.isDigit then
      if a ≤ '5' then .ok (Decimal.value [a, b], rest) else .error .outOfRange
    else .error .invalid
  | [a] => if a.utf8Size < 2 then .error .tooShort else .error .invalid
  | [] => .error .tooShort

/-- Passes over colons and blanks. -/
def skipColons (cs : List Char) : List Char := cs.dropWhile fun c => c == ':' || Text.isBlank c

/-- Reads the seconds by which a clock is ahead of universal time, after its sign. -/
def scanOffsetRest (sign : Int) (cs : List Char) : Except ScanFault (Int × List Char) := do
  let (hours, cs) ← scanOffsetHours cs
  let (minutes, cs) ← scanOffsetMinutes (skipColons cs)
  return (sign * (3600 * hours + 60 * minutes), cs)

/-- Reads the seconds by which a clock is ahead of universal time. -/
def scanOffset (cs : List Char) : Except ScanFault (Int × List Char) :=
  if (cs.take 3).map Char.toLower = ['u', 't', 'c'] then .ok (0, cs.drop 3)
  else
    match cs with
    | [] => .error .tooShort
    | c :: rest =>
      if c = 'Z' ∨ c = 'z' then .ok (0, rest)
      else if c = '+' then scanOffsetRest 1 rest
      else if c = '-' ∨ c = '\u2212' then scanOffsetRest (-1) rest
      else .error .invalid

/-- The instant at which a clock that is `offset` seconds ahead shows this date and time, if the
calendar has it. The offset is less than a day and a whole number of minutes. -/
def ofLocal? (date : Date) (time : ClockTime) (offset : Int) (minutes : offset % 60 = 0) :
    Option Instant :=
  let shifted : Int := time.second - offset
  let day? :=
    if shifted < 0 then date.pred? else if shifted < 86400 then some date else date.succ?
  day?.map fun date => {
    date
    second := (shifted % 86400).toNat
    nano := time.nano
    second_lt := by omega
    nano_lt := time.nano_lt
    leap := fun h => by have := time.leap h; omega }

/-- Passes over the mark between date and time. -/
def scanTimeMark : List Char → Except ScanFault (List Char)
  | [] => .error .tooShort
  | c :: rest => if c = 't' ∨ c = 'T' ∨ c = ' ' then .ok rest else .error .invalid

/-- Reads an instant and nothing after it but blanks. -/
def scan (cs : List Char) : Except ScanFault Instant := do
  let (numbers, cs) ← Date.scanNumbers cs
  let cs ← scanTimeMark cs
  let (time, cs) ← scanClock cs
  let (offset, cs) ← scanOffset (Text.skipBlanks cs)
  if Text.skipBlanks cs ≠ [] then .error .tooLong
  else do
    let date ← Date.ofNumbers numbers
    if h : offset.natAbs < 86400 ∧ offset % 60 = 0 then
      match ofLocal? date time offset h.2 with
      | some t => return t
      | none => .error .impossible
    else .error .outOfRange

end Monthwise.Instant
