import Mathlib.Tactic.SplitIfs
import Monthwise.Proofs.Calendar.MonthGrid
import Monthwise.Proofs.Period.Shape

/-! # Reading back the text of a period

The notation has four digits for a year. A period from the years 0 to 9999 is
therefore read back from its own text, and the text of every other period, which
carries a sign before one of its years, is not recognised at all.
-/

namespace Monthwise

namespace Decimal

theorem toNat_of_isDigit {c : Char} (hc : c.isDigit) : 48 ≤ c.toNat ∧ c.toNat ≤ 57 := by
  simp only [Char.isDigit, Bool.and_eq_true, decide_eq_true_eq, ge_iff_le, UInt32.le_iff_toNat_le]
    at hc
  exact hc

theorem isDigit_of_mem_fixed {places n : Nat} {c : Char} (hc : c ∈ fixed places n) :
    c.isDigit := by
  induction places generalizing n with
  | zero => simp [fixed] at hc
  | succ places ih =>
      rw [fixed, List.mem_append, List.mem_singleton] at hc
      rcases hc with hfront | rfl
      · exact ih hfront
      · exact isDigit_digit n

theorem isDigit_of_mem_digits {n : Nat} {c : Char} (hc : c ∈ digits n) : c.isDigit := by
  induction n using digits.induct with
  | case1 n hsmall =>
      rw [digits, if_pos hsmall, List.mem_singleton] at hc
      exact hc ▸ isDigit_digit n
  | case2 n hlarge ih =>
      rw [digits, if_neg hlarge, List.mem_append, List.mem_singleton] at hc
      rcases hc with hfront | rfl
      · exact ih hfront
      · exact isDigit_digit n

theorem isDigit_of_mem_atLeast {places n : Nat} {c : Char} (hc : c ∈ atLeast places n) :
    c.isDigit := by
  unfold atLeast at hc
  split_ifs at hc
  · exact isDigit_of_mem_fixed hc
  · exact isDigit_of_mem_digits hc

end Decimal

namespace Text

theorem isBlank_of_isDigit {c : Char} (hc : c.isDigit) : isBlank c = false := by
  have hcode := Decimal.toNat_of_isDigit hc
  simp only [isBlank, Bool.or_eq_false_iff, Bool.and_eq_false_imp, decide_eq_true_eq,
    decide_eq_false_iff_not, beq_eq_false_iff_ne]
  omega

theorem trim_of_not_blank {cs : List Char} (hcs : ∀ c ∈ cs, isBlank c = false) :
    trim cs = cs := by
  have hskip (ds : List Char) (hds : ∀ c ∈ ds, isBlank c = false) : skipBlanks ds = ds := by
    cases ds with
    | nil => rfl
    | cons c rest =>
        unfold skipBlanks
        rw [List.dropWhile_cons, if_neg (by simp [hds c List.mem_cons_self])]
  unfold trim
  rw [hskip cs hcs, hskip _ (by simpa using hcs), List.reverse_reverse]

end Text

namespace Written

theorem isDigits_fixed (n k : Nat) : IsDigits n (Decimal.fixed n k) where
  length := Decimal.length_fixed n k
  decimal _ hc := Text.isDecimalDigit_of_isDigit (Decimal.isDigit_of_mem_fixed hc)

/-- A sign is no digit, so nothing that begins with one begins with a month. -/
theorem monthDigits?_of_sign {sign : Char} (hsign : Text.isDecimalDigit sign = false)
    (rest : List Char) : monthDigits? (sign :: rest) = none := by
  simp [monthDigits?, digits?, hsign]

theorem dateDigits?_of_sign {sign : Char} (hsign : Text.isDecimalDigit sign = false)
    (rest : List Char) : dateDigits? (sign :: rest) = none := by
  rw [dateDigits?, monthDigits?_of_sign hsign]
  rfl

theorem number?_fixed {places n : Nat} (h : n < Nat.pow 10 places) :
    number? (Decimal.fixed places n) = some n := by
  have hall : (Decimal.fixed places n).all Char.isDigit := by
    rw [List.all_eq_true]
    exact fun _ => Decimal.isDigit_of_mem_fixed
  rw [number?, if_pos hall, Decimal.value_fixed h]

end Written

namespace Date

variable (d : Date)

/-- The year can be written in four digits. -/
def HasPlainYear : Prop := 0 ≤ d.year ∧ d.year ≤ 9999

instance : Decidable d.HasPlainYear := by
  unfold HasPlainYear; infer_instance

/-- The digits of a date with a year of four digits. -/
def digits : DateDigits where
  year := Decimal.fixed 4 d.year.toNat
  month := Decimal.fixed 2 d.month
  day := Decimal.fixed 2 d.day

variable {d}

theorem HasPlainYear.chars_eq (h : d.HasPlainYear) : d.chars = d.digits.chars := by
  have hyear : 0 ≤ d.year ∧ d.year ≤ 9999 := h
  simp only [chars, Calendar.yearChars, DateDigits.chars, digits]
  rw [if_pos hyear]

theorem HasPlainYear.date_digits (h : d.HasPlainYear) : d.digits.date = .ok d := by
  have hmonth := d.month_mem
  have hday := d.day_mem
  have hdays := Calendar.daysInMonth_le d.year d.month
  have hyear : ((d.year.toNat : Nat) : Int) = d.year := Int.toNat_of_nonneg h.1
  have hfound : d.digits.date? = some d := by
    have hy : Written.number? d.digits.year = some d.year.toNat :=
      Written.number?_fixed (by have := h.2; change d.year.toNat < 10000; omega)
    have hm : Written.number? d.digits.month = some d.month :=
      Written.number?_fixed (by change d.month < 100; omega)
    have hd : Written.number? d.digits.day = some d.day :=
      Written.number?_fixed (by change d.day < 100; omega)
    simp only [DateDigits.date?, hy, hm, hd, Option.bind_eq_bind, Option.bind_some, hyear]
    exact ofYmd?_self d
  rw [DateDigits.date, hfound]

theorem isShaped_digits (d : Date) : d.digits.IsShaped where
  year := Written.isDigits_fixed 4 _
  month := Written.isDigits_fixed 2 _
  day := Written.isDigits_fixed 2 _

theorem dateDigits?_append (d : Date) (rest : List Char) :
    Written.dateDigits? (d.digits.chars ++ rest) = some (d.digits, rest) :=
  Written.dateDigits?_eq_some_iff.mpr ⟨d.isShaped_digits, rfl⟩

/-- A year beyond four digits is written with a sign in front. -/
theorem chars_of_not_plainYear (h : ¬ d.HasPlainYear) :
    ∃ sign rest, d.chars = sign :: rest ∧ Text.isDecimalDigit sign = false := by
  unfold HasPlainYear at h
  unfold chars Calendar.yearChars
  rw [if_neg h]
  split_ifs with hneg
  · exact ⟨'-', _, rfl, by decide⟩
  · exact ⟨'+', _, rfl, by decide⟩

theorem not_isBlank_of_mem_chars {c : Char} (hc : c ∈ d.chars) : Text.isBlank c = false := by
  have hfixed {places n : Nat} (hmem : c ∈ Decimal.fixed places n) : Text.isBlank c = false :=
    Text.isBlank_of_isDigit (Decimal.isDigit_of_mem_fixed hmem)
  have hyear (hmem : c ∈ Calendar.yearChars d.year) : Text.isBlank c = false := by
    unfold Calendar.yearChars at hmem
    split_ifs at hmem with hplain hneg
    · exact hfixed hmem
    all_goals
      rcases List.mem_cons.mp hmem with rfl | hdigit
      · decide
      · exact Text.isBlank_of_isDigit (Decimal.isDigit_of_mem_atLeast hdigit)
  simp only [chars, List.mem_append, List.mem_cons] at hc
  rcases hc with hmem | rfl | hmem | rfl | hmem
  · exact hyear hmem
  · decide
  · exact hfixed hmem
  · decide
  · exact hfixed hmem

end Date

namespace Written

theorem ofChars?_digits (d d' : Date) :
    ofChars? (d.digits.chars ++ '.' :: '.' :: d'.digits.chars) =
      some (.dateRange d.digits .dots d'.digits) :=
  ofChars?_eq_some_iff.mpr ⟨⟨d.isShaped_digits, d'.isShaped_digits⟩, List.append_assoc _ _ _⟩

theorem ofChars?_of_sign {sign : Char} (hsign : Text.isDecimalDigit sign = false)
    (rest : List Char) : ofChars? (sign :: rest) = none := by
  simp [ofChars?, dates?, months?, dateDigits?_of_sign hsign, monthDigits?_of_sign hsign]

theorem ofChars?_digits_sign {sign : Char} (hsign : Text.isDecimalDigit sign = false) (d : Date)
    (rest : List Char) : ofChars? (d.digits.chars ++ '.' :: '.' :: sign :: rest) = none := by
  have hdots : separator? ('.' :: '.' :: sign :: rest) = some (.dots, sign :: rest) :=
    separator?_eq_some_iff.mpr rfl
  have hdates : dates? (d.digits.chars ++ '.' :: '.' :: sign :: rest) = none := by
    simp [dates?, Date.dateDigits?_append, hdots, dateDigits?_of_sign hsign]
  -- read as a month, the text stops at the hyphen before the day
  have hmonth : monthDigits? (d.digits.chars ++ '.' :: '.' :: sign :: rest) =
      some (⟨d.digits.year, d.digits.month⟩, '-' :: d.digits.day ++ '.' :: '.' :: sign :: rest) :=
    monthDigits?_eq_some_iff.mpr ⟨⟨d.isShaped_digits.year, d.isShaped_digits.month⟩,
      by simp [DateDigits.chars, MonthDigits.chars]⟩
  have hmonths : months? (d.digits.chars ++ '.' :: '.' :: sign :: rest) = none := by
    simp [months?, hmonth, mark?]
  rw [ofChars?, hdates, hmonths, Option.or]

end Written

namespace Period

variable (p : Period)

theorem year_start_le_year_stop : p.start.year ≤ p.stop.year := by
  rcases p.start_le_stop with hlt | ⟨heq, _⟩
  · exact Int.le_of_lt hlt
  · exact Int.le_of_eq heq

theorem toList_toString : (toString p).toList = p.start.chars ++ '.' :: '.' :: p.stop.chars := by
  change (String.ofList p.chars).toList = _
  rw [String.toList_ofList, chars, List.append_assoc]
  rfl

theorem not_isBlank_of_mem_toString {c : Char} (hc : c ∈ (toString p).toList) :
    Text.isBlank c = false := by
  rw [toList_toString, List.mem_append, List.mem_cons, List.mem_cons] at hc
  rcases hc with hstart | rfl | rfl | hstop
  · exact Date.not_isBlank_of_mem_chars hstart
  · decide
  · decide
  · exact Date.not_isBlank_of_mem_chars hstop

theorem trim_toString : Text.trim (toString p).toList = (toString p).toList :=
  Text.trim_of_not_blank fun _ => p.not_isBlank_of_mem_toString

variable {p}

theorem parseAnyLength_of_plainYears (hstart : p.start.HasPlainYear) (hstop : p.stop.HasPlainYear) :
    parseAnyLength (toString p) = .ok p := by
  have hshape : Written.ofChars? (toString p).toList =
      some (.dateRange p.start.digits .dots p.stop.digits) := by
    rw [toList_toString, hstart.chars_eq, hstop.chars_eq, Written.ofChars?_digits]
  have hends : (Written.dateRange p.start.digits .dots p.stop.digits).ends =
      .ok (p.start, p.stop) := by
    simp only [Written.ends, hstart.date_digits, hstop.date_digits]
    rfl
  unfold parseAnyLength parseWith
  simp only [p.trim_toString, hshape, hends, p.ofDates_start_stop]
  rfl

/-- With a year beyond them its text has no shape that is known. -/
theorem parseAnyLength_of_signedYear (h : ¬ p.start.HasPlainYear ∨ ¬ p.stop.HasPlainYear) :
    parseAnyLength (toString p) = .error (.unrecognised (toString p)) := by
  have hshape : Written.ofChars? (toString p).toList = none := by
    rw [toList_toString]
    by_cases hstart : p.start.HasPlainYear
    · have hstop : ¬ p.stop.HasPlainYear := h.resolve_left (not_not_intro hstart)
      obtain ⟨sign, rest, hchars, hsign⟩ := Date.chars_of_not_plainYear hstop
      rw [hstart.chars_eq, hchars, Written.ofChars?_digits_sign hsign]
    · obtain ⟨sign, rest, hchars, hsign⟩ := Date.chars_of_not_plainYear hstart
      rw [hchars, List.cons_append, Written.ofChars?_of_sign hsign]
  unfold parseAnyLength parseWith
  simp only [p.trim_toString, hshape, String.ofList_toList]

/-- A period is read back from its own text exactly if it lies in the years 0 to 9999; from a text
with any other year nothing is read. -/
theorem parseAnyLength_toString (p : Period) :
    parseAnyLength (toString p) =
      if 0 ≤ p.start.year ∧ p.stop.year ≤ 9999 then .ok p
      else .error (.unrecognised (toString p)) := by
  have hyears := p.year_start_le_year_stop
  split_ifs with hplain
  · exact parseAnyLength_of_plainYears ⟨hplain.1, by omega⟩ ⟨by omega, hplain.2⟩
  · apply parseAnyLength_of_signedYear
    unfold Date.HasPlainYear
    omega

/-- The first year of five digits is not read back. -/
theorem parseAnyLength_year_ten_thousand :
    ∃ p, ofYear? 10000 = some p ∧ parseAnyLength (toString p) ≠ .ok p := by
  refine ⟨{ first := 120000, last := 120011, firstMonth_le := by decide, last_le := by decide },
    rfl, ?_⟩
  rw [parseAnyLength_of_signedYear (.inl (by decide))]
  exact fun h => nomatch h

end Period

end Monthwise
