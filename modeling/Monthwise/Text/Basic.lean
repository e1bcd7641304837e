/-! # Characters and lines

The classes of characters that readers ask for, and how a text falls into lines when
it is printed. A line ends with a line feed, and a carriage return right before the
line feed belongs to that end.
-/

namespace Monthwise.Text

/-! ## Blanks -/

/-- White space in the sense of Unicode: twenty-five characters. -/
def isBlank (c : Char) : Bool :=
  let n := c.toNat
  (0x09 ≤ n && n ≤ 0x0D) || n == 0x20 || n == 0x85 || n == 0xA0 || n == 0x1680 ||
    (0x2000 ≤ n && n ≤ 0x200A) || n == 0x2028 || n == 0x2029 || n == 0x202F || n == 0x205F ||
    n == 0x3000

/-- Drops the blanks in front. -/
def skipBlanks (cs : List Char) : List Char := cs.dropWhile isBlank

/-- Drops the blanks at both ends. -/
def trim (cs : List Char) : List Char := (skipBlanks (skipBlanks cs).reverse).reverse

/-! ## Decimal digits of all scripts

The Unicode class Nd consists of rows of ten characters, one row for each script
that writes decimal numbers with digits of its own.
-/

/-- The zeros of the digit rows, in code point order. -/
def digitRows : List Nat :=
  [0x30, 0x660, 0x6F0, 0x7C0, 0x966, 0x9E6, 0xA66, 0xAE6, 0xB66, 0xBE6, 0xC66, 0xCE6, 0xD66,
   0xDE6, 0xE50, 0xED0, 0xF20, 0x1040, 0x1090, 0x17E0, 0x1810, 0x1946, 0x19D0, 0x1A80, 0x1A90,
   0x1B50, 0x1BB0, 0x1C40, 0x1C50, 0xA620, 0xA8D0, 0xA900, 0xA9D0, 0xA9F0, 0xAA50, 0xABF0, 0xFF10,
   0x104A0, 0x10D30, 0x10D40, 0x11066, 0x110F0, 0x11136, 0x111D0, 0x112F0, 0x11450, 0x114D0,
   0x11650, 0x116C0, 0x116D0, 0x116DA, 0x11730, 0x118E0, 0x11950, 0x11BF0, 0x11C50, 0x11D50,
   0x11DA0, 0x11F50, 0x16130, 0x16A60, 0x16AC0, 0x16B50, 0x16D70, 0x1CCF0, 0x1D7CE, 0x1D7D8,
   0x1D7E2, 0x1D7EC, 0x1D7F6, 0x1E140, 0x1E2F0, 0x1E4F0, 0x1E5F1, 0x1E950, 0x1FBF0]

/-- A decimal digit of any script. -/
def isDecimalDigit (c : Char) : Bool :=
  digitRows.any fun row => row ≤ c.toNat && c.toNat < row + 10

/-- The digits of ASCII are among them. -/
theorem isDecimalDigit_of_isDigit {c : Char} (h : c.isDigit) : isDecimalDigit c := by
  unfold isDecimalDigit digitRows
  simp only [List.any_cons, Bool.or_eq_true, Bool.and_eq_true, decide_eq_true_eq]
  refine .inl ?_
  simp only [Char.isDigit, Bool.and_eq_true, decide_eq_true_eq, ge_iff_le, UInt32.le_iff_toNat_le]
    at h
  exact ⟨h.1, Nat.lt_succ_of_le h.2⟩

/-! ## Lines -/

/-- What stands before the first line feed of a text, and what stands after each line feed. -/
def atLineFeeds : List Char → List Char × List (List Char)
  | [] => ([], [])
  | c :: rest =>
    let (first, others) := atLineFeeds rest
    if c = '\n' then ([], first :: others) else (c :: first, others)

/-- The text of a line whose line feed is taken off. -/
def ofLine (cs : List Char) : String :=
  String.ofList (if cs.getLast? = some '\r' then cs.dropLast else cs)

/-- The lines to be seen when a text is printed with a line feed after it. -/
def printedLines (text : String) : List String :=
  let (first, others) := atLineFeeds text.toList
  (first :: others).map ofLine

end Monthwise.Text
