/-! # Decimal numerals

Natural numbers written in ASCII digits, as many as needed or in a fixed number
of places, and the value of a run of digits. Readers set limits to the numbers that
they read: each is one more than the greatest number that fits.
-/

namespace Monthwise

namespace Width

/-- The limit of signed integers of 32 bits. -/
def signed32 : Nat := 0x80000000

/-- The limit of signed integers of 64 bits. -/
def signed64 : Nat := 0x8000000000000000

/-- The limit of unsigned integers of 64 bits. -/
def unsigned64 : Nat := 0x10000000000000000

end Width

namespace Decimal

/-- The ASCII digit of the last place of `n`. -/
def digit (n : Nat) : Char := Char.ofNat (48 + n % 10)

/-- The last `places` places of `n`, zeros in front included. -/
def fixed : (places n : Nat) → List Char
  | 0, _ => []
  | places + 1, n => fixed places (n / 10) ++ [digit n]

/-- The numeral of `n`, without zeros in front. -/
def digits (n : Nat) : List Char :=
  if n < 10 then [digit n] else digits (n / 10) ++ [digit n]

/-- The numeral of `n`, filled up with zeros to at least `places` places. -/
def atLeast (places n : Nat) : List Char :=
  if n < Nat.pow 10 places then fixed places n else digits n

/-- The numeral of an integer, with a minus sign below zero. -/
def signed (n : Int) : List Char :=
  if n < 0 then '-' :: digits n.natAbs else digits n.natAbs

/-- The numeral of `n` as a string. -/
def text (n : Nat) : String := String.ofList (digits n)

/-- The numeral of an integer as a string. -/
def signedText (n : Int) : String := String.ofList (signed n)

/-- The number that a run of ASCII digits stands for. -/
def value (cs : List Char) : Nat := cs.foldl (fun n c => 10 * n + (c.toNat - 48)) 0

@[simp]
theorem length_fixed (places n : Nat) : (fixed places n).length = places := by
  induction places generalizing n with
  | zero => rfl
  | succ places ih => simp [fixed, ih]

theorem toNat_digit (n : Nat) : (digit n).toNat = 48 + n % 10 := by
  have each : ∀ k < 10, (Char.ofNat (48 + k)).toNat = 48 + k := by decide
  exact each (n % 10) (Nat.mod_lt _ (by decide))

theorem isDigit_digit (n : Nat) : (digit n).isDigit := by
  have h := toNat_digit n
  have hlt : n % 10 < 10 := Nat.mod_lt _ (by decide)
  simp only [Char.isDigit, Bool.and_eq_true, decide_eq_true_eq, ge_iff_le,
    UInt32.le_iff_toNat_le]
  change 48 ≤ (digit n).toNat ∧ (digit n).toNat ≤ 57
  omega

@[simp]
theorem value_append_singleton (cs : List Char) (n : Nat) :
    value (cs ++ [digit n]) = 10 * value cs + n % 10 := by
  simp [value, toNat_digit]

/-- A number is the value of its numeral. -/
theorem value_digits (n : Nat) : value (digits n) = n := by
  induction n using digits.induct with
  | case1 n h =>
    rw [digits, if_pos h]
    have := value_append_singleton [] n
    simp only [List.nil_append] at this
    rw [this]
    simp [value, Nat.mod_eq_of_lt h]
  | case2 n h ih =>
    rw [digits, if_neg h, value_append_singleton, ih]
    omega

/-- Fixed places keep a number that fits into them. -/
theorem value_fixed {places n : Nat} (h : n < Nat.pow 10 places) : value (fixed places n) = n := by
  induction places generalizing n with
  | zero =>
    obtain rfl : n = 0 := Nat.lt_one_iff.mp h
    rfl
  | succ places ih =>
    have hn : n < Nat.pow 10 places * 10 := h
    rw [fixed, value_append_singleton, ih (by omega)]
    omega

end Decimal

end Monthwise
