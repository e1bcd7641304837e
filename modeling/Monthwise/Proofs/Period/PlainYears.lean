import Mathlib.Data.List.Induction
import Monthwise.Proofs.Period.Grammar
import Monthwise.Proofs.Period.WrittenText

/-! # Periods in the years of four digits

The notation of periods covers the years 0 to 9999, so every period that is read from a
text lies in them, and so does every period inside one that was read.
-/

namespace Monthwise

namespace Decimal

theorem value_lt {cs : List Char} (hcs : ∀ c ∈ cs, c.isDigit) :
    value cs < Nat.pow 10 cs.length := by
  induction cs using List.reverseRecOn with
  | nil => decide
  | append_singleton front c ih =>
      have hfront := ih fun d hd => hcs d (List.mem_append_left _ hd)
      have hcode := toNat_of_isDigit (hcs c (by simp))
      have hvalue : value (front ++ [c]) = 10 * value front + (c.toNat - 48) := by
        simp [value]
      have hpower : Nat.pow 10 (front ++ [c]).length = Nat.pow 10 front.length * 10 := by
        rw [List.length_append]
        rfl
      omega

end Decimal

/-- Trimming leaves a text what it begins with, unless that is a blank. -/
theorem Text.trim_cons {c : Char} (rest : List Char) (hc : isBlank c = false) :
    ∃ rest', trim (c :: rest) = c :: rest' := by
  have hfront : skipBlanks (c :: rest) = c :: rest := List.dropWhile_cons_of_neg (by simp [hc])
  have hlast : skipBlanks [c] = [c] := List.dropWhile_cons_of_neg (by simp [hc])
  unfold trim
  rw [hfront, List.reverse_cons, skipBlanks, List.dropWhile_append]
  split_ifs
  · exact ⟨[], congrArg List.reverse hlast⟩
  · exact ⟨_, by rw [List.reverse_append]; rfl⟩

namespace Written

/-- The years are written in four digits. -/
def HasFourDigitYears : Written → Prop
  | oneMonth only => only.year.length = 4
  | monthRange first last => first.year.length = 4 ∧ last.year.length = 4
  | dateRange start _ stop => start.year.length = 4 ∧ stop.year.length = 4

theorem IsShaped.hasFourDigitYears {w : Written} (h : w.IsShaped) : w.HasFourDigitYears := by
  cases w with
  | oneMonth only => exact h.year.length
  | monthRange first last => exact ⟨h.1.year.length, h.2.year.length⟩
  | dateRange start separator stop => exact ⟨h.1.year.length, h.2.year.length⟩

end Written

variable {d : Date}

theorem Date.plainYear_of_digits {ds : List Char} (hlength : ds.length = 4)
    (hascii : ∀ c ∈ ds, c.isDigit) (hyear : d.year = Decimal.value ds) : d.HasPlainYear := by
  have hlt := Decimal.value_lt hascii
  rw [hlength] at hlt
  change Decimal.value ds < 10000 at hlt
  unfold HasPlainYear
  omega

theorem MonthDigits.Names.plainYear {m : MonthDigits} (h : m.Names d) (hyear : m.year.length = 4) :
    d.HasPlainYear :=
  Date.plainYear_of_digits hyear (List.forall_mem_append.mp h.ascii).1 h.year

theorem DateDigits.Names.plainYear {digits : DateDigits} (h : digits.Names d)
    (hyear : digits.year.length = 4) : d.HasPlainYear :=
  Date.plainYear_of_digits hyear
    (List.forall_mem_append.mp (List.forall_mem_append.mp h.ascii).1).1 h.year

theorem Written.Bounds.plainYears {w : Written} {start stop : Date} (h : w.Bounds start stop)
    (hyears : w.HasFourDigitYears) : start.HasPlainYear ∧ stop.HasPlainYear := by
  cases w with
  | oneMonth only =>
      obtain ⟨hstart, rfl⟩ := h
      have hplain := hstart.plainYear hyears
      exact ⟨hplain, hplain⟩
  | monthRange first last =>
      obtain ⟨hstart, d, hd, rfl⟩ := h
      have hplain := hd.plainYear hyears.2
      exact ⟨hstart.plainYear hyears.1, hplain⟩
  | dateRange first separator last =>
      exact ⟨h.1.plainYear hyears.1, h.2.plainYear hyears.2⟩

namespace Period

variable {p : Period} {text : String}

/-- The years of the period can be written in four digits. -/
def HasPlainYears (p : Period) : Prop := p.start.HasPlainYear ∧ p.stop.HasPlainYear

theorem hasPlainYears_iff : p.HasPlainYears ↔ 0 ≤ p.first ∧ p.last < 120000 := by
  have hle := p.first_le_last
  have hstart : p.start.year = p.first / 12 := rfl
  have hstop : p.stop.year = p.last / 12 := rfl
  unfold HasPlainYears Date.HasPlainYear
  omega

/-- What is read from a text lies in the years of four digits. -/
theorem plainYears_of_parseAnyLength (h : parseAnyLength text = .ok p) : p.HasPlainYears := by
  cases parseAnyLength_eq_iff.mp h with
  | period shaped written bounds => exact bounds.plainYears shaped.hasFourDigitYears

/-- A text that begins with a hyphen is not read. -/
theorem head_of_parseAnyLength (h : parseAnyLength text = .ok p) :
    text.toList.head? ≠ some '-' := by
  intro hhead
  obtain ⟨rest, htext⟩ := List.head?_eq_some_iff.mp hhead
  obtain ⟨rest', htrim⟩ := Text.trim_cons rest (show Text.isBlank '-' = false by decide)
  have hshape : Written.ofChars? ('-' :: rest') = none := Written.ofChars?_of_sign (by decide) rest'
  simp only [parseAnyLength, parseWith, htext, htrim, hshape] at h
  cases h

end Period

end Monthwise
