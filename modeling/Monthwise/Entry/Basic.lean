import Monthwise.Instant.Basic
import Monthwise.Period.Relation
import Monthwise.Timeline.Basic
import Monthwise.Uuid

/-! # Entries

An entry says something, its payload, about a period. It carries the instant at
which it was made, so that of two entries about the same month the later one
can be preferred, and an identifier of its own.
-/

namespace Monthwise

/-- A payload about a period, made at an instant. -/
structure Entry (α : Type) where
  id : Uuid
  period : Period
  createdAt : Instant
  payload : α
deriving DecidableEq, Repr

namespace Entry

variable {α : Type}

/-- The entry for another period and under another identifier. -/
def clip (e : Entry α) (fresh : Uuid) (period : Period) : Entry α :=
  { e with id := fresh, period }

/-- As `clip`, for callers that know the period to lie inside the entry's own: it gives up if it
does not. -/
def clipOrAbort (e : Entry α) (fresh : Uuid) (period : Period) : Except Abort (Entry α) :=
  if e.period.contains period then .ok (e.clip fresh period)
  else .error (.text s!"reclip target {period} must lie inside {e.period}")

/-- The entries say the same about the same period, whoever they are and whenever they were
made. -/
def sameContent [BEq α] (a b : Entry α) : Bool := a.period == b.period && a.payload == b.payload

/-- The entries agree in everything. -/
def eq [BEq α] (a b : Entry α) : Bool :=
  a.id == b.id && a.period == b.period && a.createdAt == b.createdAt && a.payload == b.payload

instance [BEq α] : BEq (Entry α) := ⟨eq⟩

instance : TimedRecord (Entry α) Instant Uuid where
  id := Entry.id
  period := Entry.period
  recency := Entry.createdAt
  clip := Entry.clip

end Entry

end Monthwise
