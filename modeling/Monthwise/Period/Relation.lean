import Monthwise.Period.Basic

/-! # How two periods lie

Containment, overlap and adjacency of periods, and the comparisons of their
ends. All of them are decided on month numbers: two periods share a day exactly
when they share a month.
-/

namespace Monthwise.Period

variable (p q : Period)

/-- The date lies in the period, both end days included. -/
def containsDate (d : Date) : Bool := p.start ≤ d && d ≤ p.stop

/-- Every day of `q` is a day of `p`. -/
def contains : Bool := p.first ≤ q.first && q.last ≤ p.last

/-- Every day of every item is a day of `p`. -/
def containsAll (items : List Period) : Bool := items.all p.contains

/-- The periods share a day. -/
def overlaps : Bool := p.first ≤ q.last && q.first ≤ p.last

/-- The periods share no day, and one begins in the month after the other's last. -/
def isAdjacentTo : Bool :=
  !p.overlaps q && (p.last + 1 == q.first || q.last + 1 == p.first)

/-- `p` starts on an earlier day than `q`. -/
def startsBefore : Bool := p.first < q.first

/-- `p` starts on a later day than `q`. -/
def startsAfter : Bool := q.first < p.first

/-- The periods start on the same day. -/
def startsWith : Bool := p.first == q.first

/-- `p` starts on no earlier day than `q`. -/
def startsWithOrAfter : Bool := q.first ≤ p.first

/-- `p` starts on no later day than `q`. -/
def startsWithOrBefore : Bool := p.first ≤ q.first

/-- `p` ends on an earlier day than `q`. -/
def endsBefore : Bool := p.last < q.last

/-- `p` ends on a later day than `q`. -/
def endsAfter : Bool := q.last < p.last

/-- The periods end on the same day. -/
def endsWith : Bool := p.last == q.last

/-- `p` ends on no later day than `q`. -/
def endsWithOrBefore : Bool := p.last ≤ q.last

/-- `p` ends on no earlier day than `q`. -/
def endsWithOrAfter : Bool := q.last ≤ p.last

/-- The last day of `p` is a day of `q`. -/
def endsWithin : Bool := q.first ≤ p.last && p.last ≤ q.last

/-- `p` is over before `q` begins. -/
def isBefore : Bool := p.last < q.first

/-- `p` begins after `q` is over. -/
def isAfter : Bool := q.last < p.first

end Monthwise.Period
