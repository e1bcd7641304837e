import Monthwise.Json.Basic
import Monthwise.Text.ShortestDecimal

/-! # Writing JSON

Values are written without blanks. Only the characters that JSON forbids inside
a string are escaped, and a floating-point number is written by its shortest
decimal, always with a point or an exponent.
-/

namespace Monthwise.Json

/-- The lower-case hexadecimal digit of a number below sixteen. -/
def hexDigit (n : Nat) : Char :=
  if n < 10 then Char.ofNat (48 + n) else Char.ofNat (87 + n)

/-- A character inside a string. -/
def escape (c : Char) : List Char :=
  if c = '"' then ['\\', '"']
  else if c = '\\' then ['\\', '\\']
  else if c = '\x08' then ['\\', 'b']
  else if c = '\t' then ['\\', 't']
  else if c = '\n' then ['\\', 'n']
  else if c = '\x0c' then ['\\', 'f']
  else if c = '\r' then ['\\', 'r']
  else if c.toNat < 0x20 then
    ['\\', 'u', '0', '0', hexDigit (c.toNat / 16), hexDigit (c.toNat % 16)]
  else [c]

/-- A string between its quotes. -/
def quote (s : String) : List Char := '"' :: (s.toList.flatMap escape ++ ['"'])

/-- An exponent with its sign, which is written also if it is a plus. -/
def exponent (n : Int) : List Char :=
  'e' :: if n < 0 then Decimal.signed n else '+' :: Decimal.signed n

/-- The point stands among the digits, or zeros are filled in, while the number lies between
a hundred-thousandth and ten to the sixteenth; beyond that an exponent is written. -/
def layout (d : ShortDecimal) : List Char :=
  let ds := Decimal.digits d.significand
  let count := ds.length
  let pointAt : Int := count + d.exponent
  if 0 ≤ d.exponent ∧ pointAt ≤ 16 then
    ds ++ List.replicate d.exponent.toNat '0' ++ ['.', '0']
  else if 0 < pointAt ∧ pointAt ≤ 16 then
    ds.take pointAt.toNat ++ '.' :: ds.drop pointAt.toNat
  else if -5 < pointAt ∧ pointAt ≤ 0 then
    ['0', '.'] ++ List.replicate (-pointAt).toNat '0' ++ ds
  else if count = 1 then
    ds ++ exponent (pointAt - 1)
  else
    ds.take 1 ++ '.' :: (ds.drop 1 ++ exponent (pointAt - 1))

/-- A finite floating-point number. -/
def floatChars (x : Float) : List Char :=
  let bits := x.toBits.toNat
  let magnitude := bits % Width.signed64
  let sign := if Width.signed64 ≤ bits then ['-'] else []
  sign ++ if magnitude = 0 then ['0', '.', '0'] else layout (ShortDecimal.ofBits magnitude)

mutual

/-- The text of a value. -/
def chars : Json → List Char
  | .null => ['n', 'u', 'l', 'l']
  | .bool true => ['t', 'r', 'u', 'e']
  | .bool false => ['f', 'a', 'l', 's', 'e']
  | .int n => Decimal.signed n
  | .float x => floatChars x
  | .str s => quote s
  | .arr items => '[' :: (itemChars items ++ [']'])
  | .obj members => '\x7b' :: (memberChars members ++ ['\x7d'])

/-- Values with commas between them. -/
def itemChars : List Json → List Char
  | [] => []
  | [v] => v.chars
  | v :: rest => v.chars ++ ',' :: itemChars rest

/-- Members with commas between them. -/
def memberChars : List (String × Json) → List Char
  | [] => []
  | [(k, v)] => quote k ++ ':' :: v.chars
  | (k, v) :: rest => quote k ++ ':' :: (v.chars ++ ',' :: memberChars rest)

end

/-- The text of a value. -/
def render (v : Json) : String := String.ofList v.chars

end Monthwise.Json
