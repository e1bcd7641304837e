import Monthwise.Calendar.DateText

/-! # Instants

A point in time as the date and the time of day at Greenwich, exact to the
nanosecond. A leap second has no second of its own: it is the last second of a
minute, with a thousand million nanoseconds or more.
-/

namespace Monthwise

/-- A point in time in universal time. -/
structure Instant where
  date : Date
  /-- Seconds since midnight. -/
  second : Nat
  nano : Nat
  second_lt : second < 86400
  nano_lt : nano < 2000000000
  /-- Only the last second of a minute is drawn out into a leap second. -/
  leap : 1000000000 ≤ nano → second % 60 = 59
deriving DecidableEq, Repr

namespace Instant

/-- Earlier instants come first. -/
instance : Ord Instant where
  compare a b :=
    (compare a.date b.date).then ((compare a.second b.second).then (compare a.nano b.nano))

/-- The part of a second: nothing, thousandths, millionths or thousand-millionths, whichever is
the first to be exact. -/
def fractionChars (nano : Nat) : List Char :=
  if nano = 0 then []
  else if nano % 1000000 = 0 then '.' :: Decimal.fixed 3 (nano / 1000000)
  else if nano % 1000 = 0 then '.' :: Decimal.fixed 6 (nano / 1000)
  else '.' :: Decimal.fixed 9 nano

/-- Date and time of day with a `T` between them and a `Z` at the end. A leap second has the
number sixty. -/
def chars (t : Instant) : List Char :=
  let second := t.second % 60 + t.nano / 1000000000
  t.date.chars ++ 'T' :: (Decimal.fixed 2 (t.second / 3600) ++ ':' ::
    (Decimal.fixed 2 (t.second / 60 % 60) ++ ':' :: (Decimal.fixed 2 second ++
      (fractionChars (t.nano % 1000000000) ++ ['Z']))))

instance : ToString Instant where
  toString t := String.ofList t.chars

end Instant

end Monthwise
