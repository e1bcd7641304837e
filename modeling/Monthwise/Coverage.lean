import Monthwise.Period.Algebra
import Monthwise.Period.Months

/-! # What a list of periods covers

A list of periods stands for the days that its members have. Lists that cover
the same days have one reduced form: in calendar order, with a month left free
between any two neighbours. Remainders, gaps and the questions about coverage are
computed from periods alone, never day by day.
-/

namespace Monthwise.Coverage

/-- Some member has the day. -/
def Covers (ps : List Period) (d : Date) : Prop := ∃ p ∈ ps, d ∈ p

/-- Some member has the month with this number. -/
def CoversMonth (ps : List Period) (month : Int) : Prop := ∃ p ∈ ps, p.HasMonth month

/-- In calendar order, and any two members have a free month between them. -/
def Separated (ps : List Period) : Prop := ps.Pairwise fun p q => p.last + 1 < q.first

/-- The members by start, then by end. -/
def sort (ps : List Period) : List Period := ps.mergeSort fun p q => p ≤ q

/-- Joins `p` with the periods that follow it as long as they overlap or touch. -/
def coalesce (p : Period) : List Period → List Period
  | [] => [p]
  | q :: rest =>
    match p.merge q with
    | .ok union => coalesce union rest
    | .error _ => p :: coalesce q rest

/-- The shortest list that covers the same days, in calendar order. -/
def reduce (ps : List Period) : List Period :=
  match sort ps with
  | [] => []
  | p :: rest => coalesce p rest

/-- The pieces of `base` that are left when the removals are taken away one after the other. -/
def remainder (base : Period) (removals : List Period) : List Period :=
  removals.foldl (fun pieces removal => pieces.flatMap (·.subtract removal)) [base]

/-- The remainders of the bases, base by base. -/
def subtractAll (bases removals : List Period) : List Period :=
  bases.flatMap (remainder · removals)

/-- The days of the window that no member has, in reduced form. -/
def gaps (window : Period) (ps : List Period) : List Period :=
  reduce (subtractAll [window] ps)

/-- The candidates cover the target's days and no others. -/
def fullyCoveredBy (target : Period) (candidates : List Period) : Bool :=
  reduce candidates = [target]

/-- Every item lies inside a single container. An item that reaches over two touching containers
does not. -/
def containsAll (containers items : List Period) : Bool :=
  items.all fun item => containers.any (·.contains item)

/-- A period starts no later than `latest` or the end of a period before it. -/
def startsBy (latest : Int) : List Period → Bool
  | [] => false
  | p :: rest => p.first ≤ latest || startsBy (max latest p.last) rest

/-- Two members share a day. -/
def hasOverlapping (ps : List Period) : Bool :=
  match sort ps with
  | [] => false
  | p :: rest => startsBy p.last rest

/-- The least period that contains every member, if there are members. -/
def span? : List Period → Option Period
  | [] => none
  | p :: rest => some (rest.foldl Period.hull p)

/-- The members cover one unbroken run of days. -/
def isContiguous (ps : List Period) : Bool := (reduce ps).length == 1

end Monthwise.Coverage
