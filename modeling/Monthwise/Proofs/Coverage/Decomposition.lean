import Mathlib
import Monthwise.Proofs.ByDays.Months
import Monthwise.Proofs.Coverage.Counting
import Monthwise.Proofs.Period.Ends

/-! # Periods and their months

A period can be taken apart into its months, each as a period of its own, and reducing
puts them together again. In a list of periods it makes no difference to the reduced form,
or to the gaps in a window, which of the members are taken apart.
-/

namespace Monthwise

namespace Period

variable (p : Period)

theorem length_toMonths : p.toMonths.length = p.monthCount := by
  have hsize : p.months.size = (p.last + 1 - p.first).toNat := rfl
  rw [toMonths, MonthQueue.length_toList, hsize, monthCount]
  omega

theorem ends_of_getElem?_toMonths {p month : Period} {i : Nat} (h : p.toMonths[i]? = some month) :
    month.first = p.first + i ∧ month.last = p.first + i := by
  obtain ⟨hi, rfl⟩ := List.getElem?_eq_some_iff.mp h
  simp only [toMonths, MonthQueue.toList, List.getElem_ofFn, MonthQueue.get, months, and_self]

theorem isSingleMonth_of_mem_toMonths {p month : Period} (h : month ∈ p.toMonths) :
    month.isSingleMonth := by
  obtain ⟨i, hi⟩ := List.mem_iff_getElem?.mp h
  obtain ⟨hfirst, hlast⟩ := ends_of_getElem?_toMonths hi
  rw [isSingleMonth, hfirst, hlast, beq_self_eq_true]

/-- Each month begins on the day after the month before it, over the turns of the years as well. -/
theorem isChain_toMonths : p.toMonths.IsChain fun m n => m.stop.succ? = some n.start := by
  rw [List.isChain_iff_getElem]
  intro i hi
  have hm := ends_of_getElem?_toMonths (List.getElem?_eq_getElem (Nat.lt_of_succ_lt hi))
  have hn := ends_of_getElem?_toMonths (List.getElem?_eq_getElem hi)
  apply ByDays.succ?_stop
  rw [hm.2, hn.1]
  omega

theorem getElem?_toMonths {p month : Period} {i : Nat} (hi : i < p.monthCount)
    (hfirst : month.first = p.first + i) (hlast : month.last = p.first + i) :
    p.toMonths[i]? = some month := by
  have hfound := List.getElem?_eq_getElem (p.length_toMonths.symm ▸ hi)
  obtain ⟨hfirst', hlast'⟩ := ends_of_getElem?_toMonths hfound
  rw [hfound, Period.ext (hfirst'.trans hfirst.symm) (hlast'.trans hlast.symm)]

theorem monthCount_pos : 0 < p.monthCount := by
  have hle := p.first_le_last
  unfold monthCount
  omega

theorem head?_toMonths : p.toMonths.head? = some p.firstMonth := by
  rw [List.head?_eq_getElem?]
  exact getElem?_toMonths p.monthCount_pos (Int.add_zero _).symm (Int.add_zero _).symm

theorem getLast?_toMonths : p.toMonths.getLast? = some p.lastMonth := by
  have hpos := p.monthCount_pos
  have hlast : p.last = p.first + ((p.monthCount - 1 : Nat) : Int) := by
    have hle := p.first_le_last
    unfold monthCount
    omega
  rw [List.getLast?_eq_getElem?, length_toMonths]
  exact getElem?_toMonths (Nat.sub_lt hpos Nat.one_pos) hlast hlast

end Period

namespace Coverage

/-- Some of the members, any of them, are taken apart into their months. -/
inductive TakesApart : List Period → List Period → Prop where
  | nil : TakesApart [] []
  | keep (p : Period) {ps qs : List Period} (rest : TakesApart ps qs) :
      TakesApart (p :: ps) (p :: qs)
  | split (p : Period) {ps qs : List Period} (rest : TakesApart ps qs) :
      TakesApart (p :: ps) (p.toMonths ++ qs)

variable {ps qs : List Period} {month : Int}

theorem coversMonth_append :
    CoversMonth (ps ++ qs) month ↔ CoversMonth ps month ∨ CoversMonth qs month := by
  simp only [CoversMonth, List.mem_append, or_and_right, exists_or]

theorem TakesApart.coversMonth_iff (h : TakesApart ps qs) :
    CoversMonth qs month ↔ CoversMonth ps month := by
  induction h with
  | nil => rfl
  | keep p rest ih => rw [coversMonth_cons, coversMonth_cons, ih]
  | split p rest ih => rw [coversMonth_append, coversMonth_toMonths, coversMonth_cons, ih]

/-- A period has as many months as it counts, and an iterator that is asked so many times gives
them. They are periods of one month. The first is the first month of the period, each other one
begins on the day after the one before it, and the last is the last month of the period. Reducing
puts them together again; and members of a list can be taken apart into their months without a
change to the reduced form of the list or to its gaps in any window. -/
theorem toMonths_exact (p : Period) :
    p.toMonths.length = p.monthCount ∧
    ByWords.monthCount p = .ok p.monthCount ∧
    (∀ n, ByDays.months p (List.replicate n .front) = .ok (p.toMonths.take n)) ∧
    (∀ month ∈ p.toMonths, month.isSingleMonth) ∧
    p.toMonths.head? = some p.firstMonth ∧
    p.toMonths.IsChain (fun m n => m.stop.succ? = some n.start) ∧
    p.toMonths.getLast? = some p.lastMonth ∧
    reduce p.toMonths = [p] ∧
    ∀ ps qs, TakesApart ps qs →
      reduce qs = reduce ps ∧ ∀ window, gaps window qs = gaps window ps := by
  refine ⟨p.length_toMonths, ByWords.monthCount_eq p, fun n => ?_,
    fun _ => Period.isSingleMonth_of_mem_toMonths, p.head?_toMonths, p.isChain_toMonths,
    p.getLast?_toMonths, reduce_toMonths p, fun ps qs h => ⟨?_, fun window => ?_⟩⟩
  · rw [ByDays.months_eq, MonthQueue.popAll_replicate_front]
    rfl
  · exact reduce_eq_reduce_iff.mpr fun m => h.coversMonth_iff
  · exact gaps_congr fun m _ => h.coversMonth_iff

/-- Two of three overlapping periods around the turn of a year are taken apart. -/
theorem toMonths_exact_turn_of_year :
    let p : Period := ⟨-2, 1, by decide, by decide, by decide⟩
    let q : Period := ⟨0, 3, by decide, by decide, by decide⟩
    TakesApart [q, p, q] (q.toMonths ++ p :: (q.toMonths ++ [])) ∧
      reduce (q.toMonths ++ p :: (q.toMonths ++ [])) = reduce [q, p, q] := by
  intro p q
  have hparts : TakesApart [q, p, q] (q.toMonths ++ p :: (q.toMonths ++ [])) :=
    .split q (.keep p (.split q .nil))
  obtain ⟨-, -, -, -, -, -, -, -, hsame⟩ := toMonths_exact p
  exact ⟨hparts, (hsame _ _ hparts).1⟩

end Coverage

end Monthwise
