import Monthwise.Json.Basic
import Monthwise.Text.Decimal

/-! # Numerals of JSON

The parts of a written number and its value. An integer that fits into 64 bits
is read exactly. Everything else becomes a floating-point number: as many digits
as fit into 64 bits are taken, then scaled by a power of ten.
-/

namespace Monthwise

/-- Why a text is not JSON: it breaks the rules, or ends before it is complete. -/
inductive JsonDefect where
  | malformed
  | truncated
deriving DecidableEq, Repr

/-- The written parts of a number. -/
structure Numeral where
  negative : Bool
  whole : List Char
  fraction : List Char
  /-- The sign of the exponent and its digits, if it has one. -/
  exponent : Option (Bool × List Char)
deriving DecidableEq, Repr

namespace Numeral

/-- Something is missing here: the text ends, or goes on with something else. -/
def missing {α : Type} : List Char → Except JsonDefect α
  | [] => .error .truncated
  | _ :: _ => .error .malformed

/-- One or more digits. -/
def someDigits (cs : List Char) : Except JsonDefect (List Char × List Char) :=
  match cs.takeWhile Char.isDigit with
  | [] => missing cs
  | ds => .ok (ds, cs.dropWhile Char.isDigit)

/-- The digits before the point. A zero stands alone. -/
def scanWhole (cs : List Char) : Except JsonDefect (List Char × List Char) :=
  match cs with
  | '0' :: rest =>
    match rest with
    | c :: _ => if c.isDigit then .error .malformed else .ok (['0'], rest)
    | [] => .ok (['0'], rest)
  | _ => someDigits cs

/-- The digits after the point, if there is one. -/
def scanFraction : List Char → Except JsonDefect (List Char × List Char)
  | '.' :: rest => someDigits rest
  | cs => .ok ([], cs)

/-- The sign of an exponent, plus if none is written. -/
def scanSign : List Char → Bool × List Char
  | '-' :: rest => (true, rest)
  | '+' :: rest => (false, rest)
  | cs => (false, cs)

/-- The exponent, if there is one. -/
def scanExponent : List Char → Except JsonDefect (Option (Bool × List Char) × List Char)
  | c :: rest =>
    if c = 'e' ∨ c = 'E' then do
      let (negative, rest) := scanSign rest
      let (ds, rest) ← someDigits rest
      return (some (negative, ds), rest)
    else
      .ok (none, c :: rest)
  | [] => .ok (none, [])

/-- The parts of the number in front, after its sign. -/
def scan (negative : Bool) (cs : List Char) : Except JsonDefect (Numeral × List Char) := do
  let (whole, cs) ← scanWhole cs
  let (fraction, cs) ← scanFraction cs
  let (exponent, cs) ← scanExponent cs
  return (⟨negative, whole, fraction, exponent⟩, cs)

/-- Takes digits into a significand as long as it fits into 64 bits; also counts the digits that
are left. -/
def absorb (significand : Nat) : List Char → Nat × Nat
  | [] => (significand, 0)
  | c :: rest =>
    let next := 10 * significand + (c.toNat - 48)
    if next < Width.unsigned64 then absorb next rest else (significand, rest.length + 1)

/-- The significand times a power of ten, unless that is too great for a double. A power that
is too small for a double is applied in steps of 308 places. -/
def scale (x : Float) (exponent : Int) : Option Float :=
  if exponent.natAbs ≤ 308 then
    let power := Float.ofScientific 1 false exponent.natAbs
    if 0 ≤ exponent then
      let scaled := x * power
      if scaled.isInf then none else some scaled
    else
      some (x / power)
  else if x == 0 then some x
  else if 0 ≤ exponent then none
  else scale (x / Float.ofScientific 1 false 308) (exponent + 308)
termination_by exponent.natAbs
decreasing_by omega

/-- The place value of the written exponent, or `none` if it is too long to matter: then the
number is zero or out of range. -/
def exponentValue? (exponent : Option (Bool × List Char)) : Option Int :=
  match exponent with
  | none => some 0
  | some (negative, ds) =>
    let n := Decimal.value ds
    if Width.signed32 ≤ n then none else some (if negative then -(n : Int) else n)

/-- The floating-point number with these parts, unless it is out of range. -/
def float? (n : Numeral) : Option Float :=
  let (significand, wholeLeft) := absorb 0 n.whole
  let (significand, fractionLeft) := absorb significand n.fraction
  let taken := n.fraction.length - fractionLeft
  let magnitude :=
    match exponentValue? n.exponent with
    | some power => scale significand.toUInt64.toFloat (power + wholeLeft - taken)
    | none =>
      let tooGreat := n.exponent.any fun (e : Bool × List Char) => !e.1
      if significand ≠ 0 ∧ tooGreat then none else some 0.0
  magnitude.map fun x => if n.negative then -x else x

/-- An integer of this size fits into 64 bits: signed ones if it is negative, else unsigned ones.
There is no negative zero among them. -/
def fits (negative : Bool) (whole : Nat) : Bool :=
  if negative then 0 < whole && whole ≤ Width.signed64 else whole < Width.unsigned64

/-- The value of a number: an integer if it is written as one and fits into 64 bits. Everything
else is a floating-point number. -/
def value? (n : Numeral) : Option Json :=
  let whole := Decimal.value n.whole
  if n.fraction = [] ∧ n.exponent = none ∧ fits n.negative whole then
    some (.int (if n.negative then -(whole : Int) else whole))
  else
    n.float?.map .float

end Numeral

end Monthwise
