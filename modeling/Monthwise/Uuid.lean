import Monthwise.Json.Reader

/-! # Universally unique identifiers

Identifiers of 128 bits, ordered as numbers. They are written as five groups of
hexadecimal digits, and read from that form, from the bare digits, from braces
and from a URN.
-/

namespace Monthwise

/-- The number of identifiers. -/
def Uuid.total : Nat := 0x100000000000000000000000000000000

/-- An identifier of 128 bits. -/
structure Uuid where
  value : Nat
  value_lt : value < Uuid.total
deriving DecidableEq, Repr

/-- Why a text is not an identifier. -/
inductive UuidError where
  | character (c : Char) (place : Nat)
  | length (bytes : Nat)
  | groupCount (count : Nat)
  | groupLength (group : Nat) (length : Nat)
deriving DecidableEq, Repr

namespace Uuid

instance : Ord Uuid where
  compare a b := compare a.value b.value

/-- The lengths of the five groups. -/
def groupLengths : List Nat := [8, 4, 4, 4, 12]

/-- The places of the digits at which a group begins. -/
def groupStarts : List Nat := [0, 9, 14, 19, 24]

/-- The last `places` hexadecimal digits of a number. -/
def hexDigits : (places n : Nat) → List Char
  | 0, _ => []
  | places + 1, n => hexDigits places (n / 16) ++ [Json.hexDigit (n % 16)]

/-- Splits digits into groups with hyphens between them. -/
def hyphenate : List Nat → List Char → List Char
  | [], _ => []
  | [n], ds => ds.take n
  | n :: rest, ds => ds.take n ++ '-' :: hyphenate rest (ds.drop n)

/-- Five groups of lower-case hexadecimal digits. -/
def chars (u : Uuid) : List Char := hyphenate groupLengths (hexDigits 32 u.value)

instance : ToString Uuid where
  toString u := String.ofList u.chars

/-- The identifier with these hexadecimal digits, if there are thirty-two of them. -/
def ofHex? (ds : List Char) : Option Uuid := do
  let ns ← ds.mapM Json.hexValue?
  let n := ns.foldl (fun n d => 16 * n + d) 0
  if h : n < total ∧ ns.length = 32 then some ⟨n, h.1⟩ else none

/-- Takes the digits out of five groups, if the groups have their lengths. -/
def unhyphenate? : List Nat → List Char → Option (List Char)
  | [], cs => if cs = [] then some [] else none
  | [n], cs => if cs.length = n then some cs else none
  | n :: rest, cs =>
    match cs.drop n with
    | '-' :: after => (unhyphenate? rest after).map (cs.take n ++ ·)
    | _ => none

/-- What begins a URN of an identifier, in lower case. -/
def urnMark : List Char := "urn:uuid:".toList

/-- The text begins with the mark of a URN, in letters of either case. -/
def hasUrnMark (cs : List Char) : Bool :=
  urnMark.isPrefixOf ((cs.take urnMark.length).map Char.toLower)

/-- The text inside braces or behind the mark of a URN, and the length of what stands before it. -/
def unwrap? (cs : List Char) : Option (List Char × Nat) :=
  match cs with
  | '\x7b' :: rest => if rest.getLast? = some '\x7d' then some (rest.dropLast, 1) else none
  | _ => if hasUrnMark cs then some (cs.drop urnMark.length, urnMark.length) else none

/-- The first character that can be no part of an identifier, with its place in bytes, where the
text begins at `place`. -/
def badCharacter? (place : Nat) : List Char → Option (Char × Nat)
  | [] => none
  | c :: rest =>
    if c = '-' ∨ (Json.hexValue? c).isSome then badCharacter? (place + 1) rest else some (c, place)

/-- The places of the hyphens. -/
def hyphenPlaces (cs : List Char) : List Nat :=
  cs.zipIdx.filterMap fun (c, place) => if c = '-' then some place else none

/-- What is wrong with the groups of a text that has five. The hyphens before a group are in
their places if no group before it is wrong. -/
def groupFault (hyphens : List Nat) (bytes : Nat) : UuidError :=
  let ends := (hyphens.zip (groupStarts.zip groupLengths)).zipIdx
  match ends.find? fun ((hyphen, start, length), _) => hyphen ≠ start + length with
  | some ((hyphen, start, _), group) => .groupLength group (hyphen - start)
  | none => .groupLength 4 (bytes - 24)

/-- The length of the longest form, a URN. -/
def maxBytes : Nat := 45

/-- The length of the form with groups and nothing around it. -/
def groupedBytes : Nat := 36

/-- What is wrong with a text of hexadecimal digits and hyphens that begins at `place`, where the
whole text with its wrapping has `bytes` bytes. Without hyphens it lacks its groups if it has to be
`grouped`; otherwise it lacks digits or has too many. -/
def faultIn (grouped : Bool) (place bytes : Nat) (cs : List Char) : UuidError :=
  match badCharacter? place cs with
  | some (c, place) => .character c place
  | none =>
    let hyphens := hyphenPlaces cs
    if hyphens = [] ∧ !grouped then .length bytes
    else if hyphens.length ≠ 4 then .groupCount (hyphens.length + 1)
    else groupFault hyphens bytes

/-- What is wrong with a text that is not an identifier. A text that is too long is not looked
at. One that has the length of the form with groups is taken for that form, whether it is the whole
text or what is wrapped, and its places are counted from its own beginning. In a wrapped text of
another length they are counted from the beginning of the wrapping. -/
def diagnose (cs : List Char) : UuidError :=
  let bytes := Json.utf8Length cs
  if maxBytes < bytes then .length bytes
  else if bytes = groupedBytes then faultIn true 0 bytes cs
  else
    match unwrap? cs with
    | none => faultIn false 0 bytes cs
    | some (inner, before) =>
      let place := if Json.utf8Length inner = groupedBytes then 0 else before
      faultIn true place bytes inner

/-- Reads an identifier in one of its four forms. -/
def ofChars (cs : List Char) : Except UuidError Uuid :=
  let digits? :=
    match unwrap? cs with
    | some (inner, _) => unhyphenate? groupLengths inner
    | none => if cs.length = 32 then some cs else unhyphenate? groupLengths cs
  match digits?.bind ofHex? with
  | some u => .ok u
  | none => .error (diagnose cs)

/-- The identifier of version 4 that is built from the last 122 bits of `random`. -/
def version4 (random : Nat) : Uuid where
  value :=
    let head := random / 0x4000000000000000000 % 0x1000000000000
    let middle := random / 0x4000000000000000 % 0x1000
    let tail := random % 0x4000000000000000
    (((head * 0x10 + 4) * 0x1000 + middle) * 4 + 2) * 0x4000000000000000 + tail
  value_lt := by simp only [total]; omega

/-- A supply of identifiers of version 4 that are not among those taken: the `n`-th of them. -/
def unused (taken : List Uuid) (n : Nat) : Uuid :=
  let free := ((List.range (taken.length + n + 1)).map version4).filter fun u => u ∉ taken
  free.getD n (version4 n)

end Uuid

/-- The wording of a refusal. -/
def UuidError.message : UuidError → String
  | .character c place =>
    s!"UUID parsing failed: invalid character: found `{c}` at {Decimal.text place}"
  | .length bytes => s!"UUID parsing failed: invalid length: found {Decimal.text bytes}"
  | .groupCount count =>
    s!"UUID parsing failed: invalid group count: expected 5, found {Decimal.text count}"
  | .groupLength group found =>
    let expected := Uuid.groupLengths.getD group 0
    s!"UUID parsing failed: invalid group length in group {Decimal.text group}: " ++
      s!"expected {Decimal.text expected}, found {Decimal.text found}"

end Monthwise
