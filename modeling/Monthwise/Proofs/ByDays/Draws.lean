import Monthwise.Proofs.ByDays.Months
import Monthwise.Text.Decimal

/-! # Months from both ends

The months of a period can be asked for at either end by turns, with others skipped on
the way. A walk answers by taking one month after the other, and takes the skipped ones
too. Whatever is asked, what it has taken in front, what is still to come and what it
has taken at the back are the months of the period, in this order and without a seam.
-/

namespace Monthwise

namespace MonthQueue

/-- A request for one month. -/
inductive Draw where
  | next
  | nextBack
  | nth (n : Nat)
  | nthBack (n : Nat)
deriving DecidableEq, Repr

/-- The end at which the month is taken. -/
def Draw.side : Draw → Side
  | .next => .front
  | .nextBack => .back
  | .nth _ => .front
  | .nthBack _ => .back

/-- The number of months that are skipped before. -/
def Draw.skips : Draw → Nat
  | .next => 0
  | .nextBack => 0
  | .nth n => n
  | .nthBack n => n

/-- The opposite end. -/
def Side.other : Side → Side
  | .front => .back
  | .back => .front

/-- A list as it is gone through from this end. -/
def Side.order {α : Type} : Side → List α → List α
  | .front, as => as
  | .back, as => as.reverse

variable (months : MonthQueue)

/-- Answers a request. -/
def draw : Draw → Option Period × MonthQueue
  | .next => months.next
  | .nextBack => months.nextBack
  | .nth n => months.nth n
  | .nthBack n => months.nthBack n

/-- Answers one request after the other. -/
def drawAll (months : MonthQueue) : List Draw → List (Option Period) × MonthQueue
  | [] => ([], months)
  | d :: rest =>
    let (month, months) := months.draw d
    let (more, months) := drawAll months rest
    (month :: more, months)

/-- Skips `n` months at one end and takes the next, if there is one. -/
def nthAt : Side → (n : Nat) → Option Period × MonthQueue
  | .front, n => months.nth n
  | .back, n => months.nthBack n

/-- Drops `n` months at one end, or all of them if there are fewer. -/
def dropAt : Side → (n : Nat) → MonthQueue
  | .front, n => months.drop n
  | .back, n => months.dropBack n

theorem draw_eq (d : Draw) : months.draw d = months.nthAt d.side d.skips := by
  cases d <;> rfl

theorem pop_eq (side : Side) : months.pop side = months.nthAt side 0 := by
  cases side <;> rfl

variable {months}

theorem ext {others : MonthQueue} (hfront : months.front = others.front)
    (hstop : months.stop = others.stop) : months = others := by
  cases months
  cases others
  simp_all

theorem toList_eq_nil_iff : months.toList = [] ↔ months.front = months.stop := by
  have hle := months.front_le_stop
  rw [← List.length_eq_zero_iff, length_toList, size]
  omega

theorem dropAt_of_nil (h : months.toList = []) (side : Side) (n : Nat) :
    months.dropAt side n = months := by
  rw [toList_eq_nil_iff] at h
  cases side <;> apply ext <;> simp only [dropAt, drop, dropBack] <;> omega

variable (months)

theorem dropAt_dropAt (side : Side) (m n : Nat) :
    (months.dropAt side m).dropAt side n = months.dropAt side (m + n) := by
  have hle := months.front_le_stop
  cases side <;> apply ext <;> simp only [dropAt, drop, dropBack] <;> omega

theorem order_dropAt (side : Side) (n : Nat) :
    side.order (months.dropAt side n).toList = (side.order months.toList).drop n := by
  cases side with
  | front => exact months.toList_drop n
  | back =>
      rw [Side.order, Side.order, dropAt, toList_dropBack, List.drop_reverse, length_toList]

theorem nthBack_fst (n : Nat) : (months.nthBack n).1 = months.toList.reverse[n]? := by
  by_cases h : n < months.size
  · rw [List.getElem?_reverse (by simpa using h), length_toList,
      List.getElem?_eq_getElem (by simp; omega)]
    simp [nthBack, h, toList]
  · rw [List.getElem?_eq_none (by simp; omega)]
    simp [nthBack, h]

theorem nthAt_eq (side : Side) (n : Nat) :
    months.nthAt side n = ((side.order months.toList)[n]?, months.dropAt side (n + 1)) := by
  cases side with
  | front => exact Prod.ext (months.nth_fst n) rfl
  | back => exact Prod.ext (months.nthBack_fst n) rfl

theorem drawAll_append (draws more : List Draw) :
    (months.drawAll (draws ++ more)).1 =
      (months.drawAll draws).1 ++ ((months.drawAll draws).2.drawAll more).1 := by
  induction draws generalizing months with
  | nil => rfl
  | cons d rest ih => exact congrArg _ (ih _)

/-- From a queue without months nothing comes any more. -/
theorem drawAll_of_nil (h : months.toList = []) (draws : List Draw) :
    (months.drawAll draws).1 = draws.map fun _ => none := by
  induction draws with
  | nil => rfl
  | cons d rest ih =>
      have hnone : months.draw d = (none, months) := by
        rw [draw_eq, nthAt_eq, dropAt_of_nil h, h]
        cases d.side <;> rfl
      simp only [drawAll, hnone, ih, List.map_cons]

end MonthQueue

namespace ByDays

open MonthQueue (Side Draw)

/-- A walk through the months numbered from `front` up to, but without, `stop`. It keeps the months
that it has taken at either end, in the order in which it took them. -/
structure MonthWalk where
  front : Int
  stop : Int
  left : List Period := []
  right : List Period := []

/-- The walk through the months of a period, before anything is taken. -/
def monthWalk (p : Period) : MonthWalk where
  front := p.start.monthNumber
  stop := p.stop.monthNumber + 1

namespace MonthWalk

variable (w : MonthWalk)

/-- The months taken at one end so far. -/
def taken : Side → List Period
  | .front => w.left
  | .back => w.right

/-- Writes down the months that were taken at one end. -/
def keep : Side → List Period → MonthWalk
  | .front, months => { w with left := w.left ++ months }
  | .back, months => { w with right := w.right ++ months }

/-- Takes a month at one end, if there is one. -/
def take (side : Side) : Except Abort (Option Period × MonthWalk) := do
  let (month, front, stop) ← popMonth w.front w.stop side
  return (month, { w.keep side month.toList with front, stop })

/-- Takes `n` months at one end, passing over them, and then the one that is wanted. It stops where
there is none. -/
def takeAfter (w : MonthWalk) (side : Side) : (n : Nat) → Except Abort (Option Period × MonthWalk)
  | 0 => w.take side
  | n + 1 => do
    match ← w.take side with
    | (none, w) => return (none, w)
    | (some _, w) => takeAfter w side n

/-- Answers a request. -/
def draw : Draw → Except Abort (Option Period × MonthWalk)
  | .next => w.take .front
  | .nextBack => w.take .back
  | .nth n => w.takeAfter .front n
  | .nthBack n => w.takeAfter .back n

/-- Answers one request after the other. -/
def drawAll (w : MonthWalk) : List Draw → Except Abort (List (Option Period) × MonthWalk)
  | [] => .ok ([], w)
  | d :: rest => do
    let (month, w) ← w.draw d
    let (more, w) ← drawAll w rest
    return (month :: more, w)

/-- Bounds from below and from above for the number of months still to come. A number that is no
unsigned integer of 64 bits is given up for zero. -/
def sizeHint : Nat × Option Nat :=
  let remaining := w.stop - w.front
  let size := if 0 ≤ remaining ∧ remaining < Width.unsigned64 then remaining.toNat else 0
  (size, some size)

/-- The number of months still to come. It gives up if the two bounds for it differ. -/
def size : Except Abort Nat :=
  let (low, high) := w.sizeHint
  if high = some low then .ok low else .error (.text "the bounds of the size differ")

theorem draw_eq (d : Draw) : w.draw d = w.takeAfter d.side d.skips := by
  cases d <;> rfl

end MonthWalk

section Follow

variable {p : Period} {w : MonthWalk} {months : MonthQueue}

/-- The walk stands where the queue stands. The months that it has taken, with those of the queue
between them, are the months of the period. -/
structure Follows (p : Period) (w : MonthWalk) (months : MonthQueue) : Prop where
  front : w.front = months.front
  stop : w.stop = months.stop
  complete : w.left ++ months.toList ++ w.right.reverse = p.toMonths

/-- From `w` to `w'` months were taken at one end, and none at the other. -/
structure TakesAt (side : Side) (w w' : MonthWalk) (months : List Period) : Prop where
  here : w'.taken side = w.taken side ++ months
  other : w'.taken side.other = w.taken side.other

theorem follows_start (p : Period) : Follows p (monthWalk p) p.months where
  front := p.monthNumber_start
  stop := by
    change p.stop.monthNumber + 1 = p.last + 1
    rw [p.monthNumber_stop]
  complete := by simp [monthWalk, Period.toMonths]

theorem takesAt_keep (w : MonthWalk) (side : Side) (months : List Period) (front stop : Int) :
    TakesAt side w { w.keep side months with front, stop } months := by
  cases side <;> exact ⟨rfl, rfl⟩

theorem TakesAt.trans {side : Side} {w w' w'' : MonthWalk} {ms ns : List Period}
    (h : TakesAt side w w' ms) (h' : TakesAt side w' w'' ns) : TakesAt side w w'' (ms ++ ns) where
  here := by rw [h'.here, h.here, List.append_assoc]
  other := h'.other.trans h.other

/-- Taking a month at either end leaves the months together as they were. -/
theorem TakesAt.complete {side : Side} {w w' : MonthWalk} {taken before after : List Period}
    (h : TakesAt side w w' taken) (hbefore : side.order before = taken ++ side.order after) :
    w'.left ++ after ++ w'.right.reverse = w.left ++ before ++ w.right.reverse := by
  obtain ⟨hhere, hother⟩ := h
  cases side with
  | front =>
      have hleft : w'.left = w.left ++ taken := hhere
      have hright : w'.right = w.right := hother
      have hlist : before = taken ++ after := hbefore
      simp [hleft, hright, hlist]
  | back =>
      have hleft : w'.left = w.left := hother
      have hright : w'.right = w.right ++ taken := hhere
      have hlist : before = after ++ taken.reverse := by
        simpa [Side.order] using congrArg List.reverse hbefore
      simp [hleft, hright, hlist]

theorem Follows.take (h : Follows p w months) (side : Side) :
    ∃ w', w.take side = .ok ((side.order months.toList)[0]?, w') ∧
      Follows p w' (months.dropAt side 1) ∧
      TakesAt side w w' ((side.order months.toList).take 1) := by
  have hpop : popMonth w.front w.stop side = .ok ((side.order months.toList)[0]?,
      (months.dropAt side 1).front, (months.dropAt side 1).stop) := by
    rw [h.front, h.stop, popMonth_eq, months.pop_eq, months.nthAt_eq]
  have hfirst : (side.order months.toList)[0]?.toList = (side.order months.toList).take 1 := by
    rw [List.take_one, List.head?_eq_getElem?]
  have htakes := takesAt_keep w side ((side.order months.toList).take 1)
    (months.dropAt side 1).front (months.dropAt side 1).stop
  refine ⟨_, ?_, ⟨rfl, rfl, ?_⟩, htakes⟩
  · simp only [MonthWalk.take, hpop, ok_bind, hfirst]
    rfl
  · rw [← h.complete]
    apply htakes.complete
    rw [months.order_dropAt, List.take_append_drop]

/-- Passing over months is taking them from the list of those to come. -/
theorem Follows.takeAfter (h : Follows p w months) (side : Side) (n : Nat) :
    ∃ w', w.takeAfter side n = .ok ((side.order months.toList)[n]?, w') ∧
      Follows p w' (months.dropAt side (n + 1)) ∧
      TakesAt side w w' ((side.order months.toList).take (n + 1)) := by
  induction n generalizing w months with
  | zero => exact h.take side
  | succ n ih =>
      obtain ⟨w', htake, hnext, htakes⟩ := h.take side
      simp only [MonthWalk.takeAfter, htake, ok_bind]
      cases hlist : side.order months.toList with
      | nil =>
          have hnil : months.toList = [] := by
            cases side <;> simpa [Side.order] using hlist
          rw [hlist, List.take_nil] at htakes
          rw [months.dropAt_of_nil hnil] at hnext ⊢
          exact ⟨w', rfl, hnext, htakes⟩
      | cons month rest =>
          obtain ⟨w'', htake', hlast, htakes'⟩ := ih hnext
          have hrest : side.order (months.dropAt side 1).toList = rest := by
            rw [months.order_dropAt, hlist, List.drop_one, List.tail_cons]
          rw [hrest] at htake' htakes'
          rw [hlist] at htakes
          rw [months.dropAt_dropAt, Nat.add_comm] at hlast
          exact ⟨w'', htake', hlast, htakes.trans htakes'⟩

theorem Follows.draw (h : Follows p w months) (d : Draw) :
    ∃ w', w.draw d = .ok ((d.side.order months.toList)[d.skips]?, w') ∧
      Follows p w' (months.draw d).2 ∧
      TakesAt d.side w w' ((d.side.order months.toList).take (d.skips + 1)) := by
  rw [w.draw_eq, months.draw_eq, months.nthAt_eq]
  exact h.takeAfter d.side d.skips

/-- A walk that follows the queue goes on following it, and answers alike. -/
theorem Follows.drawAll (h : Follows p w months) (draws : List Draw) :
    ∃ w', w.drawAll draws = .ok ((months.drawAll draws).1, w') ∧
      Follows p w' (months.drawAll draws).2 := by
  induction draws generalizing w months with
  | nil => exact ⟨w, rfl, h⟩
  | cons d rest ih =>
      obtain ⟨w', hdraw, hnext, -⟩ := h.draw d
      obtain ⟨w'', hrest, hlast⟩ := ih hnext
      have hmonth : (months.draw d).1 = (d.side.order months.toList)[d.skips]? := by
        rw [months.draw_eq, months.nthAt_eq]
      refine ⟨w'', ?_, hlast⟩
      simp only [MonthWalk.drawAll, MonthQueue.drawAll, hdraw, hrest, hmonth, ok_bind]
      rfl

theorem Follows.sizeHint (h : Follows p w months) :
    w.sizeHint = (months.size, some months.size) := by
  have hfirst := months.firstMonth_le
  have hle := months.front_le_stop
  have hlast := months.stop_le
  -- the calendar has far fewer months than a machine word can count
  have hbounds : 0 ≤ months.stop - months.front ∧
      months.stop - months.front < Width.unsigned64 := by
    unfold Width.unsigned64
    unfold Calendar.firstMonth Calendar.firstYear at hfirst
    unfold Calendar.lastMonth Calendar.lastYear at hlast
    omega
  simp only [MonthWalk.sizeHint, h.front, h.stop, hbounds, and_self, ↓reduceIte, MonthQueue.size]

end Follow

/-- A walk from both ends loses no month, repeats none, and keeps their order. It never gives up,
whatever is asked of it, and it answers as the queue of months does. At every moment the months that
it has taken in front, those that are to come and those that it has taken at the back make up the
months of the period. The next request takes the months to come one after the other from its end, as
many as it skips and one more, and is answered by the last of these, or by nothing if there are too
few. The bounds of the size and the size itself are the number of months to come; and once there
are none, every request is answered by nothing. -/
theorem monthWalk_exact (p : Period) (draws : List Draw) :
    let queue := (p.months.drawAll draws).2
    ∃ w, (monthWalk p).drawAll draws = .ok ((p.months.drawAll draws).1, w) ∧
      w.left ++ queue.toList ++ w.right.reverse = p.toMonths ∧
      (∀ d : Draw, ∃ w', w.draw d = .ok ((d.side.order queue.toList)[d.skips]?, w') ∧
        TakesAt d.side w w' ((d.side.order queue.toList).take (d.skips + 1))) ∧
      queue.size = queue.toList.length ∧
      w.sizeHint = (queue.toList.length, some queue.toList.length) ∧
      w.size = .ok queue.toList.length ∧
      (queue.toList = [] → ∀ more : List Draw,
        (p.months.drawAll (draws ++ more)).1 =
          (p.months.drawAll draws).1 ++ more.map fun _ => none) := by
  intro queue
  obtain ⟨w, hrun, hw⟩ := (follows_start p).drawAll draws
  have hhint := hw.sizeHint
  rw [← MonthQueue.length_toList] at hhint
  refine ⟨w, hrun, hw.complete, ?next, queue.length_toList.symm, hhint, ?size, ?spent⟩
  case next =>
    intro d
    obtain ⟨w', hdraw, -, htakes⟩ := hw.draw d
    exact ⟨w', hdraw, htakes⟩
  case size =>
    simp only [MonthWalk.size, hhint, ↓reduceIte]
    rfl
  case spent =>
    intro hnil more
    rw [MonthQueue.drawAll_append, queue.drawAll_of_nil hnil]

/-- Of three months over the turn of a year the last is skipped and the middle one taken at the
back; the first is taken in front, and then none is left at either end. -/
theorem monthWalk_exact_three_months :
    let month (number : Int) (h : Calendar.HasMonth number) : Period := Period.single number h
    let p : Period := ⟨-1, 1, by decide, by decide, by decide⟩
    (p.months.drawAll ([.nthBack 1, .next] ++ [.nextBack, .nth 3])).1 =
      [some (month 0 (by decide)), some (month (-1) (by decide)), none, none] := by
  intro month p
  obtain ⟨w, -, -, -, -, -, -, hover⟩ := monthWalk_exact p [.nthBack 1, .next]
  exact hover (by decide) [.nextBack, .nth 3]

end ByDays

end Monthwise
