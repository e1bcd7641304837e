import Mathlib.Data.List.TakeWhile
import Monthwise.Calendar.DateText
import Monthwise.Proofs.Period.WrittenText

/-! # Dates come back

The forgiving reader takes more than one spelling of a date. The one that is
written is among them, for every day of the calendar: also where the year has a
sign, or more than four digits.
-/

namespace Monthwise

namespace Decimal

theorem value_atLeast (places n : Nat) : value (atLeast places n) = n := by
  unfold atLeast
  split_ifs with hshort
  · exact value_fixed hshort
  · exact value_digits n

theorem digits_ne_nil (n : Nat) : digits n ≠ [] := by
  rw [digits]
  split_ifs <;> simp

theorem atLeast_ne_nil {places : Nat} (hplaces : places ≠ 0) (n : Nat) :
    atLeast places n ≠ [] := by
  unfold atLeast
  split_ifs with hshort
  · apply List.ne_nil_of_length_pos
    rw [length_fixed]
    exact Nat.pos_of_ne_zero hplaces
  · exact digits_ne_nil n

end Decimal

namespace Scan

theorem skipBlanks_cons {c : Char} (hc : Text.isBlank c = false) (rest : List Char) :
    Text.skipBlanks (c :: rest) = c :: rest :=
  List.dropWhile_cons_of_neg (by simp [hc])

section Numbers

variable {ds rest : List Char}

theorem skipBlanks_append (hne : ds ≠ []) (hdigits : ∀ c ∈ ds, c.isDigit) (rest : List Char) :
    Text.skipBlanks (ds ++ rest) = ds ++ rest := by
  cases ds with
  | nil => exact absurd rfl hne
  | cons c ds => exact skipBlanks_cons (Text.isBlank_of_isDigit (hdigits c List.mem_cons_self)) _

theorem takeWhile_isDigit (hdigits : ∀ c ∈ ds, c.isDigit)
    (hrest : ∀ c ∈ rest.head?, c.isDigit = false) :
    (ds ++ rest).takeWhile Char.isDigit = ds ∧ (ds ++ rest).dropWhile Char.isDigit = rest := by
  rw [List.takeWhile_append_of_pos hdigits, List.dropWhile_append_of_pos hdigits]
  cases rest with
  | nil => simp
  | cons c rest => simp [hrest c rfl]

/-- A number of any length ends where the digits end. -/
theorem number_append (hne : ds ≠ []) (hdigits : ∀ c ∈ ds, c.isDigit)
    (hrest : ∀ c ∈ rest.head?, c.isDigit = false) (hvalue : Decimal.value ds < Width.signed64) :
    number (ds ++ rest) = .ok (Decimal.value ds, rest) := by
  obtain ⟨htake, hdrop⟩ := takeWhile_isDigit hdigits hrest
  rw [number, htake, hdrop]
  cases ds with
  | nil => exact absurd rfl hne
  | cons c ds =>
      simp only [value, if_pos hvalue]
      rfl

/-- A number ends where its places are filled, whatever comes next, and otherwise where the digits
end. -/
theorem numberUpTo_append {places : Nat} (hlength : ds.length ≤ places) (hne : ds ≠ [])
    (hdigits : ∀ c ∈ ds, c.isDigit)
    (hrest : ds.length < places → ∀ c ∈ rest.head?, c.isDigit = false)
    (hvalue : Decimal.value ds < Width.signed64) :
    numberUpTo places (ds ++ rest) = .ok (Decimal.value ds, rest) := by
  have hstop : ∀ c ∈ (rest.take (places - ds.length)).head?, c.isDigit = false := by
    rw [List.head?_take]
    split_ifs with hfull
    · simp
    · exact hrest (by omega)
  have htake : ((ds ++ rest).take places).takeWhile Char.isDigit = ds := by
    rw [List.take_append, List.take_of_length_le hlength]
    exact (takeWhile_isDigit hdigits hstop).1
  rw [numberUpTo, htake]
  cases ds with
  | nil => exact absurd rfl hne
  | cons c ds =>
      simp only [value, if_pos hvalue, List.drop_left]
      rfl

/-- As many digits as there are places, or fewer if no digit follows. -/
theorem numberUpTo_fixed {width places n : Nat} (hwidth : width ≤ places) (hne : width ≠ 0)
    (hrest : width < places → ∀ c ∈ rest.head?, c.isDigit = false) (hn : n < Nat.pow 10 width)
    (hsmall : n < Width.signed64) :
    numberUpTo places (Decimal.fixed width n ++ rest) = .ok (n, rest) := by
  have hlength := Decimal.length_fixed width n
  have hvalue := Decimal.value_fixed hn
  have hnonempty : Decimal.fixed width n ≠ [] := by
    apply List.ne_nil_of_length_pos
    omega
  rw [numberUpTo_append (by omega) hnonempty (fun _ => Decimal.isDigit_of_mem_fixed)
    (by rwa [hlength]) (by omega), hvalue]

/-- All the places are filled. -/
theorem numberUpTo_fixed_self {places n : Nat} (hplaces : places ≠ 0) (hn : n < Nat.pow 10 places)
    (hsmall : n < Width.signed64) (rest : List Char) :
    numberUpTo places (Decimal.fixed places n ++ rest) = .ok (n, rest) :=
  numberUpTo_fixed le_rfl hplaces (fun hlt => absurd hlt (Nat.lt_irrefl places)) hn hsmall

theorem within_fixed {low high n : Nat} (hlow : low ≤ n) (hhigh : n ≤ high) (hplaces : high < 100)
    (rest : List Char) : within low high (Decimal.fixed 2 n ++ rest) = .ok (n, rest) := by
  have hne : Decimal.fixed 2 n ≠ [] := by
    apply List.ne_nil_of_length_pos
    rw [Decimal.length_fixed]
    decide
  have hn : n < Nat.pow 10 2 := by
    change n < 100
    omega
  have hsmall : n < Width.signed64 := Nat.lt_trans hn (by decide)
  rw [within, skipBlanks_append hne (fun _ => Decimal.isDigit_of_mem_fixed),
    numberUpTo_fixed_self (by decide) hn hsmall]
  exact if_pos ⟨hlow, hhigh⟩

theorem markAfterBlanks_cons {c : Char} (hc : Text.isBlank c = false) (rest : List Char) :
    markAfterBlanks c (c :: rest) = .ok rest := by
  rw [markAfterBlanks, skipBlanks_cons hc, mark, if_pos rfl]

end Numbers

section Years

/-- Four digits are read as a year without a sign. -/
theorem year_fixed {n : Nat} (hn : n < 10000) (rest : List Char) :
    year (Decimal.fixed 4 n ++ rest) = .ok (n, rest) := by
  have hdigits : ∀ c ∈ Decimal.fixed 4 n, c.isDigit := fun _ => Decimal.isDigit_of_mem_fixed
  have hread : numberUpTo 4 (Decimal.fixed 4 n ++ rest) = .ok (n, rest) :=
    numberUpTo_fixed_self (by decide) hn (Nat.lt_trans hn (by decide)) rest
  have hbounds : -(Width.signed32 : Int) ≤ n ∧ (n : Int) < Width.signed32 := by
    simp only [Width.signed32]
    omega
  cases hfixed : Decimal.fixed 4 n with
  | nil =>
      have hlength := Decimal.length_fixed 4 n
      rw [hfixed] at hlength
      cases hlength
  | cons c ds =>
      have hc : c.isDigit := hdigits c (hfixed ▸ List.mem_cons_self)
      rw [hfixed, List.cons_append] at hread
      rw [List.cons_append, year, skipBlanks_cons (Text.isBlank_of_isDigit hc)]
      -- a digit is neither of the two signs
      split
      · next heq =>
          obtain ⟨rfl, -⟩ := List.cons.inj heq
          exact absurd hc (by decide)
      · next heq =>
          obtain ⟨rfl, -⟩ := List.cons.inj heq
          exact absurd hc (by decide)
      · simp only [hread, Except.map, bind, Except.bind, hbounds, and_self, ↓reduceIte]
        rfl

/-- Behind a sign a year ends where its digits end. -/
theorem year_signed {n : Nat} (hn : n < Width.signed32) {rest : List Char}
    (hrest : ∀ c ∈ rest.head?, c.isDigit = false) :
    year ('-' :: (Decimal.atLeast 4 n ++ rest)) = .ok (-(n : Int), rest) ∧
      year ('+' :: (Decimal.atLeast 4 n ++ rest)) = .ok (n, rest) := by
  have hvalue := Decimal.value_atLeast 4 n
  have hread : number (Decimal.atLeast 4 n ++ rest) = .ok (n, rest) := by
    have hsmall : Decimal.value (Decimal.atLeast 4 n) < Width.signed64 := by
      rw [hvalue]
      exact Nat.lt_trans hn (by decide)
    rw [number_append (Decimal.atLeast_ne_nil (by decide) n)
      (fun _ => Decimal.isDigit_of_mem_atLeast) hrest hsmall, hvalue]
  have hminus : -(Width.signed32 : Int) ≤ -n ∧ -(n : Int) < Width.signed32 := by
    simp only [Width.signed32] at hn ⊢
    omega
  have hplus : -(Width.signed32 : Int) ≤ n ∧ (n : Int) < Width.signed32 := by
    omega
  constructor
  · simp only [year, skipBlanks_cons (show Text.isBlank '-' = false by decide), hread, Except.map,
      bind, Except.bind, hminus, and_self, ↓reduceIte]
    rfl
  · simp only [year, skipBlanks_cons (show Text.isBlank '+' = false by decide), hread, Except.map,
      bind, Except.bind, hplus, and_self, ↓reduceIte]
    rfl

theorem year_yearChars {y : Int} (hy : Calendar.firstYear ≤ y ∧ y ≤ Calendar.lastYear)
    (rest : List Char) : year (Calendar.yearChars y ++ '-' :: rest) = .ok (y, '-' :: rest) := by
  have hlow : -262143 ≤ y := hy.1
  have hhigh : y ≤ 262142 := hy.2
  have hsmall : y.natAbs < Width.signed32 := by
    simp only [Width.signed32]
    omega
  have hhyphen : ∀ c ∈ ('-' :: rest).head?, c.isDigit = false := by simp
  obtain ⟨hminus, hplus⟩ := year_signed hsmall hhyphen
  unfold Calendar.yearChars
  split_ifs with hplain hneg
  · rw [year_fixed (by omega), Int.toNat_of_nonneg hplain.1]
  · rw [List.cons_append, hminus]
    congr 2
    omega
  · rw [List.cons_append, hplus]
    congr 2
    omega

end Years

end Scan

namespace Date

/-- The numbers of a date are read from its text, whatever comes behind it. -/
theorem scanNumbers_append (d : Date) (rest : List Char) :
    scanNumbers (d.chars ++ rest) = .ok ((d.year, d.month, d.day), rest) := by
  have hmonth := d.month_mem
  have hday := d.day_mem
  have hdays := Calendar.daysInMonth_le d.year d.month
  have hhyphen : Text.isBlank '-' = false := by decide
  have hmonthText (rest : List Char) :
      Scan.within 1 12 (Decimal.fixed 2 d.month ++ rest) = .ok (d.month, rest) :=
    Scan.within_fixed hmonth.1 hmonth.2 (by decide) rest
  have hdayText : Scan.within 1 31 (Decimal.fixed 2 d.day ++ rest) = .ok (d.day, rest) :=
    Scan.within_fixed hday.1 (by omega) (by decide) rest
  simp only [scanNumbers, chars, List.append_assoc, List.cons_append,
    Scan.year_yearChars d.year_mem, bind, Except.bind, Scan.markAfterBlanks_cons hhyphen,
    hmonthText, hdayText]
  rfl

/-- Every date is read back from its own text. -/
theorem scan_chars (d : Date) : scan d.chars = .ok d := by
  have hnumbers := d.scanNumbers_append []
  rw [List.append_nil] at hnumbers
  have hnothing : Text.skipBlanks [] = [] := rfl
  simp only [scan, hnumbers, bind, Except.bind, hnothing, ↓reduceIte, ofNumbers, ofYmd?_self]

end Date

end Monthwise
