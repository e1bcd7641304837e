import Monthwise.Period.Months
import Monthwise.Proofs.ByDays.Construction

/-! # The months of a period by days

A queue of months is walked from either end by two month numbers, and every month
that is taken is assembled from its days. The walk ends when the numbers meet, so it
never comes to a month outside the calendar.
-/

namespace Monthwise

namespace MonthQueue

variable (months : MonthQueue)

theorem size_pos_iff : 0 < months.size ↔ months.front < months.stop := by
  unfold size
  omega

theorem hasMonth_front (h : months.front < months.stop) : Calendar.HasMonth months.front :=
  ⟨months.firstMonth_le, by have := months.stop_le; omega⟩

theorem hasMonth_back (h : months.front < months.stop) : Calendar.HasMonth (months.stop - 1) :=
  ⟨by have := months.firstMonth_le; omega, by have := months.stop_le; omega⟩

theorem next_of_lt (h : months.front < months.stop) :
    months.next.1 = some (Period.single months.front (months.hasMonth_front h)) ∧
      months.next.2.front = months.front + 1 ∧ months.next.2.stop = months.stop := by
  refine ⟨?_, ?_, rfl⟩
  · simp [next, nth, months.size_pos_iff.mpr h, get, Period.single]
  · simp only [next, nth, drop]
    omega

theorem nextBack_of_lt (h : months.front < months.stop) :
    months.nextBack.1 = some (Period.single (months.stop - 1) (months.hasMonth_back h)) ∧
      months.nextBack.2.front = months.front ∧ months.nextBack.2.stop = months.stop - 1 := by
  have hlast : months.front + ((months.size - 1 - 0 : Nat) : Int) = months.stop - 1 := by
    unfold size
    omega
  refine ⟨?_, rfl, ?_⟩
  · simp only [nextBack, nthBack, months.size_pos_iff.mpr h, ↓reduceDIte, get, Period.single, hlast]
  · simp only [nextBack, nthBack, dropBack]
    omega

theorem next_of_le (h : months.stop ≤ months.front) :
    months.next.1 = none ∧ months.next.2.front = months.front ∧
      months.next.2.stop = months.stop := by
  have hle := months.front_le_stop
  refine ⟨?_, ?_, rfl⟩
  · exact dif_neg fun hpos => Int.not_lt.mpr h (months.size_pos_iff.mp hpos)
  · simp only [next, nth, drop]
    omega

theorem nextBack_of_le (h : months.stop ≤ months.front) :
    months.nextBack.1 = none ∧ months.nextBack.2.front = months.front ∧
      months.nextBack.2.stop = months.stop := by
  have hle := months.front_le_stop
  refine ⟨?_, rfl, ?_⟩
  · exact dif_neg fun hpos => Int.not_lt.mpr h (months.size_pos_iff.mp hpos)
  · simp only [nextBack, nthBack, dropBack]
    omega

/-- The end of a queue of months at which a month is taken. -/
inductive Side where
  | front
  | back
deriving DecidableEq, Repr

/-- Takes a month at one end of the queue. -/
def pop : Side → Option Period × MonthQueue
  | .front => months.next
  | .back => months.nextBack

/-- The months that are taken one after the other at these ends of the queue. -/
def popAll (months : MonthQueue) : List Side → List Period
  | [] => []
  | side :: rest => (months.pop side).1.toList ++ popAll (months.pop side).2 rest

/-- Taken from the front alone, the months come in calendar order. -/
theorem popAll_replicate_front (n : Nat) :
    months.popAll (List.replicate n .front) = months.toList.take n := by
  induction n generalizing months with
  | zero => rfl
  | succ n ih =>
      rw [List.replicate_succ, popAll, ih]
      simp only [pop, next, nth_fst]
      have hdrop : (months.nth 0).2.toList =
          months.toList.drop 1 := months.toList_drop 1
      rw [hdrop]
      cases months.toList with
      | nil => simp
      | cons month rest => simp

end MonthQueue

namespace ByDays

theorem ofMonths?_self {month : Int} (h : Calendar.HasMonth month) :
    ofMonths? month month = .ok (some (Period.single month h)) := by
  rw [ofMonths?_eq, Period.ofMonths?, dif_pos ⟨Int.le_refl month, h.1, h.2⟩]
  rfl

/-- Takes a month at one end of the months numbered from `front` up to, but without, `stop`, and
tells how the months that are left are numbered. -/
def popMonth (front stop : Int) (side : MonthQueue.Side) :
    Except Abort (Option Period × Int × Int) :=
  if stop ≤ front then .ok (none, front, stop)
  else
    match side with
    | .front => do
      match ← ofMonths? front front with
      | some month => return (some month, front + 1, stop)
      | none => return (none, front, stop)
    | .back => do
      match ← ofMonths? (stop - 1) (stop - 1) with
      | some month => return (some month, front, stop - 1)
      | none => return (none, front, stop)

/-- Takes months one after the other at these ends. -/
def popMonths (front stop : Int) : List MonthQueue.Side → Except Abort (List Period)
  | [] => .ok []
  | side :: rest => do
    let (month, front, stop) ← popMonth front stop side
    return month.toList ++ (← popMonths front stop rest)

/-- The months of a period, taken at these ends. -/
def months (p : Period) (sides : List MonthQueue.Side) : Except Abort (List Period) :=
  popMonths p.start.monthNumber (p.stop.monthNumber + 1) sides

theorem popMonth_eq (months : MonthQueue) (side : MonthQueue.Side) :
    popMonth months.front months.stop side =
      .ok ((months.pop side).1, (months.pop side).2.front, (months.pop side).2.stop) := by
  unfold popMonth
  split_ifs with hempty
  · cases side with
    | front =>
        obtain ⟨hmonth, hfront, hstop⟩ := months.next_of_le hempty
        simp only [MonthQueue.pop, hmonth, hfront, hstop]
    | back =>
        obtain ⟨hmonth, hfront, hstop⟩ := months.nextBack_of_le hempty
        simp only [MonthQueue.pop, hmonth, hfront, hstop]
  · have hlt := Int.not_le.mp hempty
    cases side with
    | front =>
        obtain ⟨hmonth, hfront, hstop⟩ := months.next_of_lt hlt
        simp only [ofMonths?_self (months.hasMonth_front hlt),
          ok_bind, MonthQueue.pop, hmonth, hfront, hstop]
        rfl
    | back =>
        obtain ⟨hmonth, hfront, hstop⟩ := months.nextBack_of_lt hlt
        simp only [ofMonths?_self (months.hasMonth_back hlt),
          ok_bind, MonthQueue.pop, hmonth, hfront, hstop]
        rfl

theorem popMonths_eq (months : MonthQueue) (sides : List MonthQueue.Side) :
    popMonths months.front months.stop sides = .ok (months.popAll sides) := by
  induction sides generalizing months with
  | nil => rfl
  | cons side rest ih =>
      simp only [popMonths, popMonth_eq, ok_bind, ih]
      rfl

@[simp]
theorem months_eq (p : Period) (sides : List MonthQueue.Side) :
    months p sides = .ok (p.months.popAll sides) := by
  rw [months, Period.monthNumber_start, Period.monthNumber_stop]
  exact popMonths_eq p.months sides

end ByDays

end Monthwise
