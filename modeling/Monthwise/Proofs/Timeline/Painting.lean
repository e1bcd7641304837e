import Monthwise.Proofs.Period.MonthAlgebra
import Monthwise.Proofs.Timeline.Strength

/-! # Painting the window

Records are painted over the slots of the window from the weakest to the
strongest. A slot always holds the last record painted so far that has its
month, so in the end it holds the winner of the month.
-/

namespace Monthwise.Timeline

variable {ρ Recency Id : Type} [TimedRecord ρ Recency Id]

/-- The numbers of `count` months in a row. -/
def monthsFrom (month : Int) (count : Nat) : List Int :=
  (List.range count).map fun i : Nat => month + i

@[simp]
theorem length_monthsFrom (month : Int) (count : Nat) :
    (monthsFrom month count).length = count := by
  simp [monthsFrom]

@[simp]
theorem getElem?_monthsFrom {month : Int} {count i : Nat} (hi : i < count) :
    (monthsFrom month count)[i]? = some (month + i) := by
  simp [monthsFrom, hi]

theorem monthsFrom_add (month : Int) (m n : Nat) :
    monthsFrom month (m + n) = monthsFrom month m ++ monthsFrom (month + m) n := by
  simp only [monthsFrom, List.range_add, List.map_append, List.map_map]
  congr 2
  funext i
  simp [Int.add_assoc]

theorem hasMonth_of_lt_monthCount (window : Period) {i : Nat} (hi : i < window.monthCount) :
    window.HasMonth (window.first + i) := by
  unfold Period.monthCount at hi
  exact ⟨by omega, by omega⟩

/-- One record paints the slots of the months that it has and no others. -/
theorem getElem?_paint (window : Period) (slots : List (Option (Placed ρ))) (r : Placed ρ)
    {i : Nat} (hi : i < window.monthCount) :
    (paint window slots r)[i]? =
      slots[i]?.map fun slot => if Has r (window.first + i) then some r else slot := by
  have hwindow := hasMonth_of_lt_monthCount window hi
  unfold paint
  cases hcommon : (TimedRecord.period r.1).intersect? window with
  | none =>
      have hfree : ¬ Has r (window.first + i) := Period.not_hasMonth_of_intersect? hcommon hwindow
      simp [hfree]
  | some clipped =>
      -- the painted slots are those of the clipped period
      have hrange : ((clipped.first - window.first).toNat ≤ i ∧
          i < (clipped.first - window.first).toNat + clipped.monthCount) ↔
          Has r (window.first + i) := by
        have hmonth : clipped.HasMonth (window.first + i) ↔
            Has r (window.first + i) ∧ window.HasMonth (window.first + i) :=
          Period.hasMonth_intersect? hcommon
        have hfirst := (Period.hasMonth_intersect? hcommon).mp clipped.has_first
        have hle := clipped.first_le_last
        rw [and_iff_left hwindow] at hmonth
        have hinside := hfirst.2.1
        refine Iff.trans ?_ hmonth
        simp only [Period.HasMonth, Period.monthCount]
        omega
      simp only [List.getElem?_mapIdx, hrange]

/-- After any number of records a slot holds the last of them that has its month. -/
theorem getElem?_foldl_paint (window : Period) (painted : List (Placed ρ))
    (slots : List (Option (Placed ρ))) {i : Nat} (hi : i < window.monthCount) :
    (painted.foldl (paint window) slots)[i]? =
      slots[i]?.map fun slot => ((painted.filter (Has · (window.first + i))).getLast?).or slot := by
  induction painted generalizing slots with
  | nil => simp
  | cons r rest ih =>
      rw [List.foldl_cons, ih, getElem?_paint window slots r hi, Option.map_map]
      congr 1
      funext slot
      by_cases hhas : Has r (window.first + i)
      · rw [List.filter_cons_of_pos (by simpa using hhas), List.getLast?_cons]
        cases (rest.filter (Has · (window.first + i))).getLast? <;> simp [hhas]
      · rw [List.filter_cons_of_neg (by simpa using hhas)]
        simp [hhas]

theorem length_paint (window : Period) (slots : List (Option (Placed ρ))) (r : Placed ρ) :
    (paint window slots r).length = slots.length := by
  unfold paint
  split
  · rfl
  · exact List.length_mapIdx

theorem length_foldl_paint (window : Period) (painted : List (Placed ρ))
    (slots : List (Option (Placed ρ))) :
    (painted.foldl (paint window) slots).length = slots.length := by
  induction painted generalizing slots with
  | nil => rfl
  | cons r rest ih => rw [List.foldl_cons, ih, length_paint]

variable [Ord Recency] [Ord Id]

theorem length_winners (window : Period) (records : List ρ) :
    (winners window records).length = window.monthCount := by
  rw [winners, length_foldl_paint, List.length_replicate]

/-- Painting finds the winner of every month of the window. -/
theorem winners_eq (window : Period) (records : List ρ) :
    winners window records =
      (monthsFrom window.first window.monthCount).map (winner? records) := by
  apply List.ext_getElem?
  intro i
  by_cases hi : i < window.monthCount
  · rw [winners, getElem?_foldl_paint window _ _ hi, List.getElem?_map, getElem?_monthsFrom hi,
      List.getElem?_replicate_of_lt hi]
    simp [winner?]
  · rw [List.getElem?_eq_none (by rw [length_winners]; omega),
      List.getElem?_eq_none (by simpa using hi)]

theorem getElem?_winners (window : Period) (records : List ρ) {i : Nat}
    (hi : i < window.monthCount) :
    (winners window records)[i]? = some (winner? records (window.first + i)) := by
  rw [winners_eq, List.getElem?_map, getElem?_monthsFrom hi, Option.map_some]

end Monthwise.Timeline
