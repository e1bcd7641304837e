import Monthwise.Award
import Monthwise.Entry.Basic
import Monthwise.Proofs.Timeline.Painting

/-! # Narrowing records

A record is narrowed to periods inside its own. It stays as recent as it was, and
whether this happens in one step or in two makes a difference only to its
identity.
-/

namespace Monthwise

/-- A record that is narrowed as it should be. Its content is what it says, whoever it is. -/
class LawfulTimedRecord (ρ : Type) (Recency Id Content : outParam Type)
    [TimedRecord ρ Recency Id] where
  content : ρ → Content
  period_clip {r : ρ} {p : Period} (fresh : Id) : (TimedRecord.period r).contains p →
    TimedRecord.period (TimedRecord.clip r fresh p) = p
  recency_clip (r : ρ) (fresh : Id) (p : Period) :
    TimedRecord.recency (TimedRecord.clip r fresh p) = TimedRecord.recency r
  /-- Narrowing in two steps is narrowing at once. -/
  content_clip_clip {r : ρ} {p q : Period} (fresh fresh' fresh'' : Id) :
    (TimedRecord.period r).contains p → p.contains q →
    content (TimedRecord.clip (TimedRecord.clip r fresh p) fresh' q) =
      content (TimedRecord.clip r fresh'' q)

namespace LawfulTimedRecord

variable {ρ Recency Id Content : Type} [TimedRecord ρ Recency Id]
variable [LawfulTimedRecord ρ Recency Id Content]

/-- What a narrowed record says does not depend on its identity. -/
theorem content_clip {r : ρ} {p : Period} (fresh fresh' : Id)
    (hinside : (TimedRecord.period r).contains p) :
    content (TimedRecord.clip r fresh p) = content (TimedRecord.clip r fresh' p) := by
  have hself := Period.contains_refl (TimedRecord.period r)
  rw [← content_clip_clip fresh fresh fresh hself hinside,
    content_clip_clip fresh fresh fresh' hself hinside]

end LawfulTimedRecord

instance : Std.TransOrd Instant :=
  inferInstanceAs (Std.TransCmp (compareLex (compareOn Instant.date)
    (compareLex (compareOn Instant.second) (compareOn Instant.nano))))

instance : Std.TransOrd Uuid := inferInstanceAs (Std.TransCmp (compareOn Uuid.value))

/-- An entry says its payload about its period, and when it was made. -/
instance {α : Type} : LawfulTimedRecord (Entry α) Instant Uuid (Period × Instant × α) where
  content e := (e.period, e.createdAt, e.payload)
  period_clip _ _ := rfl
  recency_clip _ _ _ := rfl
  content_clip_clip _ _ _ _ _ := rfl

theorem Award.parts_clip_clip (a : Award) {p q : Period} (hinside : p.contains q) :
    ((a.clip p).clip q).parts = (a.clip q).parts := by
  simp only [clip, List.filterMap_filterMap]
  congr 1
  funext part
  rw [← Period.intersect?_bind_intersect? part.period hinside]
  cases part.period.intersect? p <;> rfl

/-- An award says all but its number. -/
instance : LawfulTimedRecord Award Int Int (String × Period × Int × List Award.Part) where
  content a := (a.name, a.period, a.recency, a.parts)
  period_clip _ _ := rfl
  recency_clip _ _ _ := rfl
  content_clip_clip {a p q} _ _ _ _ hinside := by
    simp only [TimedRecord.clip, a.parts_clip_clip hinside]
    rfl

end Monthwise
