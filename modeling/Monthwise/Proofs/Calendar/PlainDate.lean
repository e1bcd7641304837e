import Monthwise.Proofs.Calendar.ScannedDate
import Monthwise.Proofs.Period.PlainYears

/-! # Dates in plain digits

Four, two and two digits of ASCII with hyphens between them are the one spelling of a date
that both readers know, the strict one of written periods and the forgiving one of data.
They find the same date in it, and none if the calendar has no such day.
-/

namespace Monthwise

namespace Decimal

theorem digit_of_isDigit {c : Char} (hc : c.isDigit) (n : Nat) :
    digit (10 * n + (c.toNat - 48)) = c := by
  have hcode := toNat_of_isDigit hc
  have hplace : 48 + (10 * n + (c.toNat - 48)) % 10 = c.toNat := by omega
  rw [digit, hplace, Char.ofNat_toNat]

/-- A run of digits is what is written for its value in as many places. -/
theorem fixed_value {ds : List Char} (hds : ∀ c ∈ ds, c.isDigit) :
    fixed ds.length (value ds) = ds := by
  induction ds using List.reverseRecOn with
  | nil => rfl
  | append_singleton front c ih =>
      have hc : c.isDigit := hds c (by simp)
      have hcode := toNat_of_isDigit hc
      have hvalue : value (front ++ [c]) = 10 * value front + (c.toNat - 48) := by
        simp [value]
      have hrest : (10 * value front + (c.toNat - 48)) / 10 = value front := by omega
      rw [List.length_append, List.length_singleton, fixed, hvalue, digit_of_isDigit hc, hrest,
        ih fun d hd => hds d (List.mem_append_left _ hd)]

end Decimal

/-- Two digits are a number between two bounds or out of range. -/
theorem Scan.within_fixed_eq {n : Nat} (hn : n < 100) (low high : Nat) (rest : List Char) :
    within low high (Decimal.fixed 2 n ++ rest) =
      if low ≤ n ∧ n ≤ high then .ok (n, rest) else .error .outOfRange := by
  have hne : Decimal.fixed 2 n ≠ [] := by
    apply List.ne_nil_of_length_pos
    rw [Decimal.length_fixed]
    decide
  rw [within, skipBlanks_append hne (fun _ => Decimal.isDigit_of_mem_fixed),
    numberUpTo_fixed_self (by decide) hn (Nat.lt_trans hn (by decide))]
  rfl

namespace Date

variable {year month day : Nat}

theorem scanNumbers_fixed (hyear : year < 10000) (hmonth : month < 100) (hday : day < 100) :
    scanNumbers (Decimal.fixed 4 year ++ '-' :: (Decimal.fixed 2 month ++
      '-' :: Decimal.fixed 2 day)) =
      if (1 ≤ month ∧ month ≤ 12) ∧ 1 ≤ day ∧ day ≤ 31 then .ok ((year, month, day), [])
      else .error .outOfRange := by
  have hhyphen : Text.isBlank '-' = false := by decide
  have hmonthText := Scan.within_fixed_eq hmonth 1 12 ('-' :: Decimal.fixed 2 day)
  have hdayText := Scan.within_fixed_eq hday 1 31 []
  rw [List.append_nil] at hdayText
  by_cases hm : 1 ≤ month ∧ month ≤ 12
  · rw [if_pos hm] at hmonthText
    by_cases hd : 1 ≤ day ∧ day ≤ 31
    · rw [if_pos hd] at hdayText
      simp only [scanNumbers, Scan.year_fixed hyear, bind, Except.bind,
        Scan.markAfterBlanks_cons hhyphen, hmonthText, hdayText]
      rw [if_pos ⟨hm, hd⟩]
      rfl
    · rw [if_neg hd] at hdayText
      simp only [scanNumbers, Scan.year_fixed hyear, bind, Except.bind,
        Scan.markAfterBlanks_cons hhyphen, hmonthText, hdayText]
      rw [if_neg fun h => hd h.2]
  · rw [if_neg hm] at hmonthText
    simp only [scanNumbers, Scan.year_fixed hyear, bind, Except.bind,
      Scan.markAfterBlanks_cons hhyphen, hmonthText]
    rw [if_neg fun h => hm h.1]

theorem ofYmd?_of_outOfRange {y : Int}
    (h : ¬ ((1 ≤ month ∧ month ≤ 12) ∧ 1 ≤ day ∧ day ≤ 31)) : ofYmd? y month day = none := by
  have hlength := Calendar.daysInMonth_le y month
  unfold ofYmd?
  rw [dif_neg]
  omega

theorem scan_fixed (hyear : year < 10000) (hmonth : month < 100) (hday : day < 100) :
    scan (Decimal.fixed 4 year ++ '-' :: (Decimal.fixed 2 month ++ '-' :: Decimal.fixed 2 day)) =
      match ofYmd? year month day with
      | some d => .ok d
      | none => .error .outOfRange := by
  have hnothing : Text.skipBlanks [] = [] := rfl
  rw [scan, scanNumbers_fixed hyear hmonth hday]
  split_ifs with hrange
  · cases hdate : ofYmd? year month day with
    | none => simp only [bind, Except.bind, hnothing, ↓reduceIte, ofNumbers, hdate]
    | some d => simp only [bind, Except.bind, hnothing, ↓reduceIte, ofNumbers, hdate]
  · simp only [bind, Except.bind, ofYmd?_of_outOfRange hrange]

end Date

/-- Digits of ASCII: four for the year, two for the month and two for the day. -/
structure DateDigits.IsPlain (digits : DateDigits) : Prop where
  shaped : digits.IsShaped
  ascii : ∀ c ∈ digits.year ++ digits.month ++ digits.day, c.isDigit

namespace DateDigits.IsPlain

variable {digits : DateDigits}

theorem exists_fixed (h : digits.IsPlain) : ∃ year month day, year < 10000 ∧ month < 100 ∧
    day < 100 ∧ digits = ⟨Decimal.fixed 4 year, Decimal.fixed 2 month, Decimal.fixed 2 day⟩ := by
  obtain ⟨hascii, hday⟩ := List.forall_mem_append.mp h.ascii
  obtain ⟨hyear, hmonth⟩ := List.forall_mem_append.mp hascii
  have hplaces {n : Nat} {ds : List Char} (hds : ∀ c ∈ ds, c.isDigit) (hlength : ds.length = n) :
      Decimal.value ds < Nat.pow 10 n ∧ ds = Decimal.fixed n (Decimal.value ds) := by
    subst hlength
    exact ⟨Decimal.value_lt hds, (Decimal.fixed_value hds).symm⟩
  obtain ⟨hylt, hy⟩ := hplaces hyear h.shaped.year.length
  obtain ⟨hmlt, hm⟩ := hplaces hmonth h.shaped.month.length
  obtain ⟨hdlt, hd⟩ := hplaces hday h.shaped.day.length
  refine ⟨_, _, _, hylt, hmlt, hdlt, ?_⟩
  rw [← hy, ← hm, ← hd]

/-- The forgiving reader finds the date that the digits name. -/
theorem scan_chars (h : digits.IsPlain) : Date.scan digits.chars =
    match digits.date? with
    | some d => .ok d
    | none => .error .outOfRange := by
  obtain ⟨year, month, day, hyear, hmonth, hday, rfl⟩ := h.exists_fixed
  have hdate : date? ⟨Decimal.fixed 4 year, Decimal.fixed 2 month, Decimal.fixed 2 day⟩ =
      Date.ofYmd? year month day := by
    have hy : Written.number? (Decimal.fixed 4 year) = some year := Written.number?_fixed hyear
    have hm : Written.number? (Decimal.fixed 2 month) = some month := Written.number?_fixed hmonth
    have hd : Written.number? (Decimal.fixed 2 day) = some day := Written.number?_fixed hday
    simp only [date?, hy, hm, hd, Option.bind_eq_bind, Option.bind_some]
  rw [hdate]
  exact Date.scan_fixed hyear hmonth hday

end DateDigits.IsPlain

end Monthwise
