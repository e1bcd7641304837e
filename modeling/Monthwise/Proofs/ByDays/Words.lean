import Monthwise.Proofs.ByDays.Algebra
import Monthwise.Proofs.Period.Shifting
import Monthwise.Text.Decimal

/-! # Shifting in machine words

A shift can be computed with numbers that have to fit into machine words: months are
numbered in words of 64 bits, while the offset and the year of a month are words of 32
bits. A calculation that comes to a number too large for its word gives up, and a number
that is converted to a narrower word may get lost. The first never happens, whatever the
offset is, and the second only to years that the calendar does not have. Shifting is
therefore adding to month numbers, as far as the calendar goes.
-/

namespace Monthwise

/-- The integers that a machine word of some kind holds. -/
structure Word where
  least : Int
  greatest : Int

namespace Word

/-- Signed words of 32 bits. -/
def signed32 : Word := ⟨-Width.signed32, Width.signed32 - 1⟩

/-- Unsigned words of 32 bits. -/
def unsigned32 : Word := ⟨0, 2 * Width.signed32 - 1⟩

/-- Signed words of 64 bits. -/
def signed64 : Word := ⟨-Width.signed64, Width.signed64 - 1⟩

variable (w : Word) {n : Int}

/-- The number is in the range of the word. -/
def Holds (n : Int) : Prop := w.least ≤ n ∧ n ≤ w.greatest

instance (n : Int) : Decidable (w.Holds n) := by
  unfold Holds; infer_instance

/-- The number, converted to a word of this kind, if it fits. -/
def convert? (n : Int) : Option Int := if w.Holds n then some n else none

/-- The outcome `n` of a calculation. It gives up on one that does not fit. -/
def calculated (verb : String) (n : Int) : Except Abort Int :=
  if w.Holds n then .ok n else .error (.text s!"attempt to {verb} with overflow")

/-- The sum, if it fits. -/
def add (a b : Int) : Except Abort Int := w.calculated "add" (a + b)

/-- The difference, if it fits. -/
def subtract (a b : Int) : Except Abort Int := w.calculated "subtract" (a - b)

/-- The product, if it fits. -/
def multiply (a b : Int) : Except Abort Int := w.calculated "multiply" (a * b)

variable {w}

theorem holds_signed32 : signed32.Holds n ↔ -2147483648 ≤ n ∧ n ≤ 2147483647 := Iff.rfl

theorem holds_unsigned32 : unsigned32.Holds n ↔ 0 ≤ n ∧ n ≤ 4294967295 := Iff.rfl

theorem holds_signed64 :
    signed64.Holds n ↔ -9223372036854775808 ≤ n ∧ n ≤ 9223372036854775807 := Iff.rfl

theorem convert?_of_holds (h : w.Holds n) : w.convert? n = some n := if_pos h

theorem add_of_holds {a b : Int} (h : w.Holds (a + b)) : w.add a b = .ok (a + b) := if_pos h

theorem subtract_of_holds {a b : Int} (h : w.Holds (a - b)) : w.subtract a b = .ok (a - b) :=
  if_pos h

theorem multiply_of_holds {a b : Int} (h : w.Holds (a * b)) : w.multiply a b = .ok (a * b) :=
  if_pos h

end Word

namespace ByWords

open Word (signed32 unsigned32 signed64)
open ByDays (ok_bind)

/-- The number of the month that `d` lies in. -/
def monthNumber (d : Date) : Except Abort Int := do
  signed64.add (← signed64.multiply d.year 12) (d.month - 1)

/-- The first day of a month, if the year fits and the calendar has the month. -/
def firstDay? (number : Int) : Except Abort (Option Date) :=
  -- rounded down: before year 0 the place in the year is counted from January as well
  match signed32.convert? (number / 12), unsigned32.convert? (number % 12) with
  | some year, some place => do
    let month ← unsigned32.add place 1
    return Date.ofYmd? year month.toNat 1
  | _, _ => .ok none

/-- From the first day of one month to the last day of another, as far as both years fit. -/
def ofMonths? (first last : Int) : Except Abort (Option Period) := do
  if last < first then return none
  match ← firstDay? first with
  | none => return none
  | some start =>
    match ← firstDay? last with
    | none => return none
    | some day => return some (← ByDays.assemble start (ByDays.monthEnd day))

/-- Both ends moved by the same number of months, a signed word of 32 bits. -/
def shift? (p : Period) (offset : Int) : Except Abort (Option Period) := do
  let first ← signed64.add (← monthNumber p.start) offset
  let last ← signed64.add (← monthNumber p.stop) offset
  ofMonths? first last

section Exact

variable {number offset : Int}

/-- A word of 64 bits has room for a month of the calendar and any offset. -/
theorem holds_add_offset (h : Calendar.HasMonth number) (hoffset : signed32.Holds offset) :
    signed64.Holds (number + offset) := by
  rw [Calendar.hasMonth_iff] at h
  rw [Word.holds_signed32] at hoffset
  rw [Word.holds_signed64]
  omega

theorem holds_of_hasMonth (h : Calendar.HasMonth number) : signed64.Holds number := by
  have hzero : signed32.Holds 0 := by decide
  simpa using holds_add_offset h hzero

theorem monthNumber_eq (d : Date) : monthNumber d = .ok d.monthNumber := by
  have hnumber : d.year * 12 + ((d.month : Int) - 1) = d.monthNumber := by
    rw [Int.mul_comm]
    rfl
  have hyears : signed64.Holds (d.year * 12) := by
    have hyear := d.year_mem
    unfold Calendar.firstYear Calendar.lastYear at hyear
    rw [Word.holds_signed64]
    omega
  have hmonths : signed64.Holds (d.year * 12 + ((d.month : Int) - 1)) := by
    rw [hnumber]
    exact holds_of_hasMonth d.hasMonth_monthNumber
  rw [monthNumber, Word.multiply_of_holds hyears, ok_bind, Word.add_of_holds hmonths, hnumber]

/-- A year that is lost in the conversion is none of the calendar's. -/
theorem firstDay?_eq (number : Int) : firstDay? number = .ok (ByDays.firstDay? number) := by
  have hplace : unsigned32.Holds (number % 12) := by
    rw [Word.holds_unsigned32]
    omega
  have hmonth : unsigned32.Holds (number % 12 + 1) := by
    rw [Word.holds_unsigned32]
    omega
  have htoNat : (number % 12 + 1).toNat = (number % 12).toNat + 1 := by omega
  rw [firstDay?, Word.convert?_of_holds hplace]
  by_cases hyear : signed32.Holds (number / 12)
  · simp only [Word.convert?_of_holds hyear, Word.add_of_holds hmonth, ok_bind, htoNat]
    rfl
  · have hlost : signed32.convert? (number / 12) = none := if_neg hyear
    have houtside : ByDays.firstDay? number = none := by
      unfold ByDays.firstDay? Date.ofYmd?
      rw [dif_neg]
      rintro ⟨hcalendar, -, -⟩
      unfold Calendar.firstYear Calendar.lastYear at hcalendar
      rw [Word.holds_signed32] at hyear
      omega
    rw [hlost, houtside]

theorem ofMonths?_eq (first last : Int) :
    ofMonths? first last = .ok (Period.ofMonths? first last) := by
  rw [← ByDays.ofMonths?_eq]
  unfold ofMonths? ByDays.ofMonths?
  split_ifs with horder
  · rfl
  · rw [firstDay?_eq, firstDay?_eq]
    cases hfirst : ByDays.firstDay? first with
    | none => rfl
    | some start =>
        cases hlast : ByDays.firstDay? last with
        | none => rfl
        | some day => rfl

theorem shift?_eq (p : Period) (hoffset : signed32.Holds offset) :
    shift? p offset = .ok (p.shift? offset) := by
  have hfirst : signed64.Holds (p.first + offset) := holds_add_offset p.hasMonth_first hoffset
  have hlast : signed64.Holds (p.last + offset) := holds_add_offset p.hasMonth_last hoffset
  simp only [shift?, monthNumber_eq, Period.monthNumber_start, Period.monthNumber_stop, ok_bind,
    Word.add_of_holds hfirst, Word.add_of_holds hlast, ofMonths?_eq]
  rfl

/-- A shift that stays inside the calendar can be taken back: the opposite offset is a word too. -/
theorem holds_neg_of_moved {p q : Period} (hmoved : Period.Moved offset p q) :
    signed32.Holds (-offset) := by
  obtain ⟨hfirst, -⟩ := Period.moved_iff.mp hmoved
  have hp := Calendar.hasMonth_iff.mp p.hasMonth_first
  have hq := Calendar.hasMonth_iff.mp q.hasMonth_first
  rw [Word.holds_signed32]
  omega

end Exact

/-- Shifting is exact for every offset that is a signed word of 32 bits, the least and the greatest
included: in machine words it neither gives up nor comes to anything else. There is a result exactly
if the calendar has the first and the last month, both moved by the offset. The result begins and
ends so many months later and has the same number of months. Shifting it further is shifting the
period by the sum of the offsets, whether or not that stays inside the calendar, and shifting it by
the opposite offset, which is a word as well, gives the period back. -/
theorem shift?_exact (p : Period) (offset : Int) :
    (signed32.Holds offset → shift? p offset = .ok (p.shift? offset)) ∧
    ((∃ q, p.shift? offset = some q) ↔
      Calendar.HasMonth (p.start.monthNumber + offset) ∧
      Calendar.HasMonth (p.stop.monthNumber + offset)) ∧
    ∀ q, p.shift? offset = some q →
      q.start.monthNumber = p.start.monthNumber + offset ∧
      q.stop.monthNumber = p.stop.monthNumber + offset ∧
      q.monthCount = p.monthCount ∧
      (∀ further, q.shift? further = p.shift? (offset + further)) ∧
      signed32.Holds (-offset) ∧ q.shift? (-offset) = some p := by
  simp only [Period.monthNumber_start, Period.monthNumber_stop]
  refine ⟨shift?_eq p, Period.exists_moved_iff, fun q hmoved => ?_⟩
  have hends := Period.moved_iff.mp hmoved
  exact ⟨hends.1, hends.2, Period.Moved.monthCount_eq hmoved, Period.Moved.shift?_eq hmoved,
    holds_neg_of_moved hmoved, Period.Moved.back hmoved⟩

/-- The two months at the turn to year 0 are moved out of the calendar by the least word, and to its
end by a smaller offset. -/
example :
    let p : Period := ⟨-1, 0, by decide, by decide, by decide⟩
    let q : Period := ⟨3145714, 3145715, by decide, by decide, by decide⟩
    shift? p (-2147483648) = .ok none ∧ shift? p 3145715 = .ok (some q) := ⟨rfl, rfl⟩

end ByWords

end Monthwise
