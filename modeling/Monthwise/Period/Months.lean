import Monthwise.Period.Basic

/-! # The months of a period, one by one

A `MonthQueue` holds the months of a period that are still to come. They can be
taken from either end, singly or with some skipped, until none is left.
-/

namespace Monthwise

/-- The months numbered from `front` up to, but without, `stop`. -/
structure MonthQueue where
  front : Int
  stop : Int
  firstMonth_le : Calendar.firstMonth ≤ front := by omega
  front_le_stop : front ≤ stop := by omega
  stop_le : stop ≤ Calendar.lastMonth + 1 := by omega
deriving Repr

/-- All months of a period. -/
def Period.months (p : Period) : MonthQueue where
  front := p.first
  stop := p.last + 1
  firstMonth_le := p.firstMonth_le
  front_le_stop := by have := p.first_le_last; omega
  stop_le := by have := p.last_le; omega

namespace MonthQueue

variable (months : MonthQueue)

/-- The number of months still to come. -/
def size : Nat := (months.stop - months.front).toNat

/-- The month with `n` others before it. -/
def get (n : Nat) (h : n < months.size) : Period where
  first := months.front + n
  last := months.front + n
  firstMonth_le := by have := months.firstMonth_le; omega
  last_le := by have := months.stop_le; unfold size at h; omega

/-- Drops the first `n` months, or all of them if there are fewer. -/
def drop (n : Nat) : MonthQueue where
  front := min (months.front + n) months.stop
  stop := months.stop
  firstMonth_le := by have := months.firstMonth_le; have := months.front_le_stop; omega
  stop_le := months.stop_le

/-- Drops the last `n` months, or all of them if there are fewer. -/
def dropBack (n : Nat) : MonthQueue where
  front := months.front
  stop := max months.front (months.stop - n)
  firstMonth_le := months.firstMonth_le
  stop_le := by have := months.stop_le; have := months.front_le_stop; omega

/-- Skips `n` months in front and takes the next, if there is one. -/
def nth (n : Nat) : Option Period × MonthQueue :=
  (if h : n < months.size then some (months.get n h) else none, months.drop (n + 1))

/-- Skips `n` months at the back and takes the one before, if there is one. -/
def nthBack (n : Nat) : Option Period × MonthQueue :=
  (if h : n < months.size then some (months.get (months.size - 1 - n) (by omega)) else none,
    months.dropBack (n + 1))

/-- Takes the first month. -/
def next : Option Period × MonthQueue := months.nth 0

/-- Takes the last month. -/
def nextBack : Option Period × MonthQueue := months.nthBack 0

/-- The months still to come, in calendar order. -/
def toList : List Period := List.ofFn fun i : Fin months.size => months.get i i.isLt

/-- The last of the months still to come. -/
def last? : Option Period := months.nextBack.1

@[simp]
theorem length_toList : months.toList.length = months.size := by simp [toList]

theorem size_drop (n : Nat) : (months.drop n).size = months.size - n := by
  have := months.front_le_stop
  simp only [drop, size]
  omega

theorem size_dropBack (n : Nat) : (months.dropBack n).size = months.size - n := by
  have := months.front_le_stop
  simp only [dropBack, size]
  omega

/-- Dropping from the front drops from the list of months. -/
theorem toList_drop (n : Nat) : (months.drop n).toList = months.toList.drop n := by
  have hstop := months.front_le_stop
  refine List.ext_getElem (by simp [size_drop]) fun i h _ => ?_
  simp only [length_toList, size_drop] at h
  simp only [toList, List.getElem_ofFn, List.getElem_drop, get, drop, Period.mk.injEq]
  unfold size at h
  omega

/-- Dropping from the back keeps the months in front. -/
theorem toList_dropBack (n : Nat) :
    (months.dropBack n).toList = months.toList.take (months.size - n) := by
  refine List.ext_getElem (by simp [size_dropBack]) fun i _ _ => ?_
  simp [toList, get, dropBack]

/-- Taking from the front with `n` skipped is the look-up in the list of months. -/
theorem nth_fst (n : Nat) : (months.nth n).1 = months.toList[n]? := by
  by_cases h : n < months.size
  · rw [List.getElem?_eq_getElem (by simpa using h)]
    simp [nth, h, toList]
  · rw [List.getElem?_eq_none (by simp; omega)]
    simp [nth, h]

end MonthQueue

/-- One period for each month, in calendar order. -/
def Period.toMonths (p : Period) : List Period := p.months.toList

end Monthwise
