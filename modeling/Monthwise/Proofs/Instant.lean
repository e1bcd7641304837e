import Monthwise.Instant.Scan
import Monthwise.Proofs.Calendar.ScannedDate

/-! # Instants come back

An instant is written as it is at Greenwich, with no more digits of a second than it needs and with
the number sixty for a leap second. From that text it is read again to the nanosecond.
-/

namespace Monthwise.Instant

/-- The time of day at Greenwich. -/
def time (t : Instant) : ClockTime where
  second := t.second
  nano := t.nano
  second_lt := t.second_lt
  nano_lt := t.nano_lt
  leap := t.leap

/-- The time of day as it is written. -/
def timeChars (t : Instant) : List Char :=
  Decimal.fixed 2 (t.second / 3600) ++ ':' :: (Decimal.fixed 2 (t.second / 60 % 60) ++
    ':' :: (Decimal.fixed 2 (t.second % 60 + t.nano / 1000000000) ++
      fractionChars (t.nano % 1000000000)))

section Fractions

variable {rest : List Char}

/-- Up to nine digits are a part of a second, with the zeros behind them left out. -/
theorem scanFraction_fixed {places n : Nat} (hplaces : places ≤ 9) (hne : places ≠ 0)
    (hn : n < Nat.pow 10 places) (hrest : ∀ c ∈ rest.head?, c.isDigit = false) :
    scanFraction ('.' :: (Decimal.fixed places n ++ rest)) =
      .ok (n * Nat.pow 10 (9 - places), rest) := by
  have hsmall : n < Width.signed64 := by
    have hpow : Nat.pow 10 places ≤ Nat.pow 10 9 := Nat.pow_le_pow_right (by decide) hplaces
    exact Nat.lt_trans (Nat.lt_of_lt_of_le hn hpow) (by decide)
  have hnumber := Scan.numberUpTo_fixed hplaces hne (fun _ => hrest) hn hsmall
  have hwritten : (Decimal.fixed places n ++ rest).length - rest.length = places := by
    rw [List.length_append, Decimal.length_fixed, Nat.add_sub_cancel]
  have hstop : rest.dropWhile Char.isDigit = rest :=
    (@Scan.takeWhile_isDigit [] rest (fun _ hc => nomatch hc) hrest).2
  simp only [scanFraction, hnumber, bind, Except.bind, hwritten, hstop]
  rfl

theorem scanFraction_fractionChars {nano : Nat} (hnano : nano < 1000000000)
    (hrest : ∀ c ∈ rest.head?, c.isDigit = false) (hpoint : rest.head? ≠ some '.') :
    scanFraction (fractionChars nano ++ rest) = .ok (nano, rest) := by
  unfold fractionChars
  split_ifs with hnone hthousandths hmillionths
  · subst hnone
    rw [List.nil_append, scanFraction]
    rintro rest rfl
    exact hpoint rfl
  · have hn : nano / 1000000 < Nat.pow 10 3 := by
      change nano / 1000000 < 1000
      omega
    rw [List.cons_append, scanFraction_fixed (by decide) (by decide) hn hrest]
    congr 2
    change nano / 1000000 * 1000000 = nano
    omega
  · have hn : nano / 1000 < Nat.pow 10 6 := by
      change nano / 1000 < 1000000
      omega
    rw [List.cons_append, scanFraction_fixed (by decide) (by decide) hn hrest]
    congr 2
    change nano / 1000 * 1000 = nano
    omega
  · rw [List.cons_append, scanFraction_fixed le_rfl (by decide) hnano hrest]
    congr 2
    exact Nat.mul_one nano

end Fractions

section Clocks

variable (t : Instant)

/-- The parts that are written make up the time of day, the sixtieth second a leap second. -/
theorem ofParts?_time : ClockTime.ofParts? (t.second / 3600) (t.second / 60 % 60)
    (t.second % 60 + t.nano / 1000000000) (t.nano % 1000000000) = some t.time := by
  have hsecond := t.second_lt
  have hnano := t.nano_lt
  have hleap := t.leap
  have hparts : t.second / 3600 < 24 ∧ t.second / 60 % 60 < 60 ∧
      t.second % 60 + t.nano / 1000000000 ≤ 60 ∧ t.nano % 1000000000 < 1000000000 := by omega
  rw [ClockTime.ofParts?, dif_pos hparts]
  by_cases hlong : 1000000000 ≤ t.nano
  · rw [dif_pos (by have := hleap hlong; omega)]
    congr 2
    · have := hleap hlong
      omega
    · omega
  · rw [dif_neg (by omega)]
    congr 2
    · omega
    · omega

theorem scanClock_timeChars {rest : List Char} (hrest : ∀ c ∈ rest.head?, c.isDigit = false)
    (hpoint : rest.head? ≠ some '.') : scanClock (t.timeChars ++ rest) = .ok (t.time, rest) := by
  have hsecond := t.second_lt
  have hnano := t.nano_lt
  have hleap := t.leap
  have hcolon : Text.isBlank ':' = false := by decide
  have hhours (rest : List Char) :
      Scan.within 0 23 (Decimal.fixed 2 (t.second / 3600) ++ rest) = .ok (t.second / 3600, rest) :=
    Scan.within_fixed (Nat.zero_le _) (by omega) (by decide) rest
  have hminutes (rest : List Char) : Scan.within 0 59
      (Decimal.fixed 2 (t.second / 60 % 60) ++ rest) = .ok (t.second / 60 % 60, rest) :=
    Scan.within_fixed (Nat.zero_le _) (by omega) (by decide) rest
  have hseconds (rest : List Char) : Scan.within 0 60
      (Decimal.fixed 2 (t.second % 60 + t.nano / 1000000000) ++ rest) =
        .ok (t.second % 60 + t.nano / 1000000000, rest) :=
    Scan.within_fixed (Nat.zero_le _) (by omega) (by decide) rest
  have hfraction := scanFraction_fractionChars
    (Nat.mod_lt t.nano (show 1000000000 > 0 by decide)) hrest hpoint
  simp only [scanClock, timeChars, List.append_assoc, List.cons_append, hhours, hminutes, hseconds,
    hfraction, Scan.markAfterBlanks_cons hcolon, bind, Except.bind, ofParts?_time]
  rfl

end Clocks

variable (t : Instant)

theorem chars_eq : t.chars = t.date.chars ++ 'T' :: (t.timeChars ++ ['Z']) := by
  simp only [chars, timeChars, List.append_assoc, List.cons_append]

/-- Where the clock is not ahead, nothing is taken off. -/
theorem ofLocal?_time (minutes : (0 : Int) % 60 = 0) :
    ofLocal? t.date t.time 0 minutes = some t := by
  have hsecond : t.time.second = t.second := rfl
  have hlt := t.second_lt
  have hnotBefore : ¬ (t.second : Int) - 0 < 0 := by omega
  have hsameDay : (t.second : Int) - 0 < 86400 := by omega
  have hsame : (((t.second : Int) - 0) % 86400).toNat = t.second := by omega
  simp only [ofLocal?, hsecond, hnotBefore, hsameDay, ↓reduceIte, Option.map_some, hsame]
  rfl

/-- Every instant is read back from its own text. -/
theorem scan_chars : scan t.chars = .ok t := by
  have hmark (rest : List Char) : scanTimeMark ('T' :: rest) = .ok rest := rfl
  have hclock : scanClock (t.timeChars ++ ['Z']) = .ok (t.time, ['Z']) :=
    t.scanClock_timeChars (by simp) (by simp)
  have hoffset : scanOffset (Text.skipBlanks ['Z']) = .ok (0, []) := rfl
  have hnothing : Text.skipBlanks [] = [] := rfl
  have hdate : Date.ofNumbers (t.date.year, t.date.month, t.date.day) = .ok t.date := by
    rw [Date.ofNumbers, Date.ofYmd?_self]
  have hzero : (0 : Int).natAbs < 86400 ∧ (0 : Int) % 60 = 0 := by decide
  rw [chars_eq]
  simp only [scan, t.date.scanNumbers_append, hmark, hclock, hoffset, hnothing, hdate, bind,
    Except.bind, hzero, and_self, ↓reduceDIte, ne_eq, not_true_eq_false, ↓reduceIte, ofLocal?_time]
  rfl

end Monthwise.Instant
