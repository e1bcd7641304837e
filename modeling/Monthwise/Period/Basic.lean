import Monthwise.Calendar.DateText
import Monthwise.Calendar.MonthNumber

/-! # Periods

A period is an unbroken run of whole months: from the first day of one month to
the last day of the same or a later one. It is stored as the numbers of its two
end months, so every period is well formed, and its dates are derived.

Some operations have a demanding form for callers that know their input to be
good. On bad input it does not answer with an error value but gives up, and an
`Abort` is what it leaves behind.
-/

namespace Monthwise

/-- What a computation leaves behind when it gives up: a text, or a value that is no text. -/
inductive Abort where
  | text (message : String)
  | untold
deriving DecidableEq, Repr

/-- The text that was left, if any. -/
def Abort.message? : Abort → Option String
  | .text message => some message
  | .untold => none

/-- A non-empty run of months of the calendar, both ends included. -/
structure Period where
  first : Int
  last : Int
  firstMonth_le : Calendar.firstMonth ≤ first := by omega
  first_le_last : first ≤ last := by omega
  last_le : last ≤ Calendar.lastMonth := by omega
deriving DecidableEq, Repr

/-- Why two dates are not the ends of a period. -/
inductive PeriodError where
  | startNotFirstDay
  | startAfterEnd
  | endNotLastDay
  | tooManyMonths (months : Nat)
deriving DecidableEq, Repr

namespace Period

/-- The greatest number of months of a period that a caller hands in. Periods that are computed
from others may be longer. -/
def maxMonths : Nat := 12

variable (p : Period)

theorem hasMonth_first : Calendar.HasMonth p.first :=
  ⟨p.firstMonth_le, Int.le_trans p.first_le_last p.last_le⟩

theorem hasMonth_last : Calendar.HasMonth p.last :=
  ⟨Int.le_trans p.firstMonth_le p.first_le_last, p.last_le⟩

/-- The first day of the period. -/
def start : Date := Calendar.firstDay p.first p.hasMonth_first

/-- The last day of the period. -/
def stop : Date := Calendar.lastDay p.last p.hasMonth_last

/-- The number of months, both ends counted. -/
def monthCount : Nat := (p.last - p.first + 1).toNat

/-- The period has the month with this number. -/
def HasMonth (month : Int) : Prop := p.first ≤ month ∧ month ≤ p.last

instance (month : Int) : Decidable (p.HasMonth month) := by
  unfold HasMonth; infer_instance

/-- The days of a period are those from its first to its last day. -/
instance : Membership Date Period where
  mem p d := p.start ≤ d ∧ d ≤ p.stop

instance (d : Date) : Decidable (d ∈ p) :=
  inferInstanceAs (Decidable (p.start ≤ d ∧ d ≤ p.stop))

/-- Periods are ordered by their start, then by their end. -/
instance : LE Period where
  le p q := p.first < q.first ∨ p.first = q.first ∧ p.last ≤ q.last

theorem le_def {p q : Period} :
    p ≤ q ↔ p.first < q.first ∨ p.first = q.first ∧ p.last ≤ q.last := Iff.rfl

instance (p q : Period) : Decidable (p ≤ q) := decidable_of_iff' _ le_def

instance : Ord Period where
  compare p q := (compare p.first q.first).then (compare p.last q.last)

/-- The period from one month number to another, if they are in order and in the calendar. -/
def ofMonths? (first last : Int) : Option Period :=
  if h : first ≤ last ∧ Calendar.firstMonth ≤ first ∧ last ≤ Calendar.lastMonth then
    some { first, last }
  else
    none

/-- The period of the one month with this number. -/
def single (month : Int) (h : Calendar.HasMonth month) : Period where
  first := month
  last := month
  firstMonth_le := h.1
  last_le := h.2

/-- The period of one month, given by year and month, if the calendar has it. -/
def ofMonth? (year : Int) (month : Nat) : Option Period :=
  (Date.ofYmd? year month 1).map fun d => single d.monthNumber d.hasMonth_monthNumber

/-- January to December of a year, if the calendar has it. -/
def ofYear? (year : Int) : Option Period :=
  ofMonths? (12 * year) (12 * year + 11)

/-- The period with the given first and last day, of any length. The first rule that is broken is
the one reported: the start's place in its month, the order, the end's place. -/
def ofDates (start stop : Date) : Except PeriodError Period :=
  if start.day ≠ 1 then .error .startNotFirstDay
  else if h : stop < start then .error .startAfterEnd
  else if stop.lastOfMonth ≠ stop then .error .endNotLastDay
  else .ok {
    first := start.monthNumber
    last := stop.monthNumber
    firstMonth_le := start.hasMonth_monthNumber.1
    first_le_last := Date.monthNumber_le_of_not_lt h
    last_le := stop.hasMonth_monthNumber.2 }

/-- The period with the given first and last day, if it has at most `maxMonths` months. -/
def create (start stop : Date) : Except PeriodError Period := do
  let p ← ofDates start stop
  if maxMonths < p.monthCount then .error (.tooManyMonths p.monthCount) else .ok p

/-- The first month as a period of its own. -/
def firstMonth : Period := single p.first p.hasMonth_first

/-- The last month as a period of its own. -/
def lastMonth : Period := single p.last p.hasMonth_last

/-- The period is one month long. -/
def isSingleMonth : Bool := p.first == p.last

/-- First and last day, joined by two dots. -/
def chars : List Char := p.start.chars ++ ['.', '.'] ++ p.stop.chars

instance : ToString Period where
  toString p := String.ofList p.chars

end Period

/-- The wording of a refusal. -/
def PeriodError.message : PeriodError → String
  | .startNotFirstDay => "period start must be the first day of a month"
  | .startAfterEnd => "period start must not be after period end"
  | .endNotLastDay => "period end must be the last day of a month"
  | .tooManyMonths months =>
    s!"period spans {Decimal.text months} months; " ++
      s!"at most {Decimal.text Period.maxMonths} are allowed"

/-- How the text of a refused creation begins. -/
def Period.createMark : String := "invalid period"

/-- As `Period.create`, for callers that know their dates to be good: it gives up on bad ones. -/
def Period.createOrAbort (start stop : Date) : Except Abort Period :=
  match Period.create start stop with
  | .ok p => .ok p
  | .error e => .error (.text s!"{Period.createMark} {start}..{stop}: {e.message}")

end Monthwise
