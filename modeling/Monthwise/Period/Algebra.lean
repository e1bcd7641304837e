import Monthwise.Period.Relation

/-! # Computing with periods

The common part, the union, the remainder and the shift of periods. The union is
a period only if the two overlap or touch; the remainder has up to two pieces.
-/

namespace Monthwise

/-- Two periods with a month between them have no union that is a period. -/
structure CannotMerge where
  left : Period
  right : Period
deriving DecidableEq, Repr

/-- The wording of a refused union. -/
def CannotMerge.message (e : CannotMerge) : String :=
  s!"cannot merge {e.left} with {e.right}: periods are neither overlapping nor adjacent"

namespace Period

variable (p q : Period)

/-- The days that both periods have, if there are any. -/
def intersect? : Option Period :=
  if h : max p.first q.first ≤ min p.last q.last then
    some {
      first := max p.first q.first
      last := min p.last q.last
      firstMonth_le := by have := p.firstMonth_le; omega
      last_le := by have := p.last_le; omega }
  else
    none

/-- The least period that contains both. -/
def hull : Period where
  first := min p.first q.first
  last := max p.last q.last
  firstMonth_le := by have := p.firstMonth_le; have := q.firstMonth_le; omega
  first_le_last := by have := p.first_le_last; omega
  last_le := by have := p.last_le; have := q.last_le; omega

/-- The days of either period, if they form one unbroken run. -/
def merge : Except CannotMerge Period :=
  if p.overlaps q || p.isAdjacentTo q then .ok (p.hull q) else .error ⟨p, q⟩

/-- The months of `p` that lie before `q`, cut at `q`'s start. -/
def partBefore? : Option Period :=
  if h : p.first < q.first then
    some {
      first := p.first
      last := q.first - 1
      firstMonth_le := p.firstMonth_le
      last_le := by have := q.first_le_last; have := q.last_le; omega }
  else
    none

/-- The months of `p` that lie after `q`, cut at `q`'s end. -/
def partAfter? : Option Period :=
  if h : q.last < p.last then
    some {
      first := q.last + 1
      last := p.last
      firstMonth_le := by have := q.firstMonth_le; have := q.first_le_last; omega
      last_le := p.last_le }
  else
    none

/-- The days of `p` that `q` does not have, as one piece on either side of `q`. -/
def subtract : List Period :=
  if p.overlaps q then (p.partBefore? q).toList ++ (p.partAfter? q).toList else [p]

/-- Both ends moved by the same number of months, if that stays inside the calendar. -/
def shift? (months : Int) : Option Period :=
  ofMonths? (p.first + months) (p.last + months)

/-- How the text of an impossible shift ends. -/
def shiftMark : String := "leaves the calendar"

/-- As `shift?`, for callers that know the result to exist: it gives up if there is none. -/
def shiftOrAbort (months : Int) : Except Abort Period :=
  match p.shift? months with
  | some moved => .ok moved
  | none =>
    .error (.text s!"shifting {p} by {Decimal.signedText months} months {shiftMark}")

end Period

end Monthwise
