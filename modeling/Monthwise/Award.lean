import Monthwise.Period.Algebra
import Monthwise.Timeline.Basic

/-! # Awards

An award is a record whose amounts belong to periods of their own. When an award
is narrowed its amounts are narrowed with it, and an amount for none of the
months that are left is dropped.
-/

namespace Monthwise

/-- An amount for some of the months of an award. -/
structure Award.Part where
  period : Period
  amount : Int
deriving DecidableEq, Repr

/-- A record with amounts for parts of its period. -/
structure Award where
  name : String
  period : Period
  recency : Int
  id : Int
  parts : List Award.Part
deriving DecidableEq, Repr

namespace Award

/-- The award for another period; it stays who it was. -/
def clip (a : Award) (period : Period) : Award :=
  { a with
    period
    parts := a.parts.filterMap fun part =>
      (part.period.intersect? period).map fun common => { part with period := common } }

instance : TimedRecord Award Int Int where
  id := Award.id
  period := Award.period
  recency := Award.recency
  clip a _ period := a.clip period

end Award

end Monthwise
