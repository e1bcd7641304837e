import Monthwise.Json.Numeral
import Monthwise.Json.Printer
import Monthwise.Text.Quoted

/-! # Reading JSON

A text is read from the front, and every reader returns what is left of it. What
is wrong is reported where it is first seen: a text that breaks the rules, a text
that ends too early, or a value of the wrong kind.
-/

namespace Monthwise

/-- A value where another kind of value was due. -/
inductive Json.Found where
  | null
  | bool (b : Bool)
  | int (n : Int)
  | float (x : Float)
  | str (s : String)
  | arr
  | obj

/-- Well-formed JSON of the wrong content. -/
inductive Json.Mismatch where
  | wrongKind (found : Json.Found) (expected : String)
  | missingField (name : String)
  | duplicateField (name : String)
  | wrongLength (length : Nat) (expected : String)
  | rejected (reason : String)

/-- Why a text is not read. -/
inductive Json.Fault where
  | malformed
  | truncated
  | mismatch (what : Json.Mismatch)

namespace Json

/-- How a message names a value. -/
def Found.describe : Found → String
  | .null => "null"
  | .bool b => s!"boolean `{b}`"
  | .int n => s!"integer `{Decimal.signedText n}`"
  | .float x => s!"floating point `{String.ofList (floatChars x)}`"
  | .str s => s!"string {Text.quoted s}"
  | .arr => "sequence"
  | .obj => "map"

/-- The wording of a mismatch. -/
def Mismatch.message : Mismatch → String
  | .wrongKind found expected => s!"invalid type: {found.describe}, expected {expected}"
  | .missingField name => s!"missing field `{name}`"
  | .duplicateField name => s!"duplicate field `{name}`"
  | .wrongLength length expected => s!"invalid length {Decimal.text length}, expected {expected}"
  | .rejected reason => reason

/-- A defect of the text, as a fault. -/
def Fault.ofDefect : JsonDefect → Fault
  | .malformed => .malformed
  | .truncated => .truncated

/-- A reader takes what it reads from the front of the text. -/
abbrev Reader (α : Type) := List Char → Except Fault (α × List Char)

/-- The four blanks of JSON. -/
def isSpace (c : Char) : Bool := c == ' ' || c == '\n' || c == '\t' || c == '\r'

/-- Drops blanks in front. -/
def skipSpace (cs : List Char) : List Char := cs.dropWhile isSpace

/-- Reads the rest of a word that has only one way to go on. -/
def word : (rest cs : List Char) → Except Fault (List Char)
  | [], cs => .ok cs
  | _ :: _, [] => .error .truncated
  | e :: rest, c :: cs => if c = e then word rest cs else .error .malformed

/-- The value of a hexadecimal digit. -/
def hexValue? (c : Char) : Option Nat :=
  if '0' ≤ c ∧ c ≤ '9' then some (c.toNat - 48)
  else if 'a' ≤ c ∧ c ≤ 'f' then some (c.toNat - 87)
  else if 'A' ≤ c ∧ c ≤ 'F' then some (c.toNat - 55)
  else none

/-- The number of bytes of a text in UTF-8. -/
def utf8Length : List Char → Nat
  | [] => 0
  | c :: cs => c.utf8Size + utf8Length cs

/-- The number written in four hexadecimal digits. The text ends too early if it has no four
bytes left. -/
def hex4 (cs : List Char) : Except Fault Nat :=
  if utf8Length (cs.take 4) < 4 then .error .truncated
  else
    match (cs.take 4).mapM hexValue? with
    | some [a, b, c, d] => .ok (((a * 16 + b) * 16 + c) * 16 + d)
    | _ => .error .malformed

/-- The second half of a pair of surrogates: its value follows a backslash and a `u`. -/
def lowSurrogate : List Char → Except Fault Nat
  | [] => .error .truncated
  | '\\' :: [] => .error .truncated
  | '\\' :: 'u' :: rest => do
    let low ← hex4 rest
    if 0xDC00 ≤ low ∧ low ≤ 0xDFFF then .ok low else .error .malformed
  | _ => .error .malformed

/-- The character that four hexadecimal digits name, and the number of characters of text that
were used. Surrogates come in pairs; if `paired` is off, one alone is let through and stands for
the replacement character. -/
def unicodeEscape (paired : Bool) (cs : List Char) : Except Fault (Char × Nat) := do
  let n ← hex4 cs
  if n < 0xD800 ∨ 0xDFFF < n then
    return (Char.ofNat n, 4)
  else if !paired then
    return ('\uFFFD', 4)
  else if 0xDC00 ≤ n then
    .error .malformed
  else
    let low ← lowSurrogate (cs.drop 4)
    return (Char.ofNat ((n - 0xD800) * 0x400 + (low - 0xDC00) + 0x10000), 10)

/-- The character that an escape stands for, and the number of characters of text after the
backslash that were used. -/
def unescape (paired : Bool) : List Char → Except Fault (Char × Nat)
  | [] => .error .truncated
  | c :: rest =>
    match c with
    | '"' => .ok ('"', 1)
    | '\\' => .ok ('\\', 1)
    | '/' => .ok ('/', 1)
    | 'b' => .ok ('\x08', 1)
    | 'f' => .ok ('\x0c', 1)
    | 'n' => .ok ('\n', 1)
    | 'r' => .ok ('\r', 1)
    | 't' => .ok ('\t', 1)
    | 'u' => (unicodeEscape paired rest).map fun (d, used) => (d, used + 1)
    | _ => .error .malformed

/-- The characters of a string up to its closing quote. -/
def stringBody (paired : Bool) (cs : List Char) : Except Fault (List Char × List Char) :=
  match cs with
  | [] => .error .truncated
  | '"' :: rest => .ok ([], rest)
  | '\\' :: rest => do
    let (c, used) ← unescape paired rest
    let (body, rest) ← stringBody paired (rest.drop used)
    return (c :: body, rest)
  | c :: rest =>
    if c.toNat < 0x20 then .error .malformed
    else do
      let (body, rest) ← stringBody paired rest
      return (c :: body, rest)
termination_by cs.length
decreasing_by all_goals simp only [List.length_cons, List.length_drop]; omega

/-- A string after its opening quote; `paired` as for `unicodeEscape`. -/
def stringRest (paired : Bool) : Reader String := fun cs => do
  let (body, rest) ← stringBody paired cs
  return (String.ofList body, rest)

/-- A number after its sign. -/
def number (negative : Bool) : Reader Json := fun cs =>
  match Numeral.scan negative cs with
  | .error defect => .error (.ofDefect defect)
  | .ok (n, rest) =>
    match n.value? with
    | some v => .ok (v, rest)
    | none => .error .malformed

/-- Moves to the next item of an array, if there is one. `opened` says that no item was read. -/
def nextItem (opened : Bool) (cs : List Char) : Except Fault (Option (List Char)) :=
  match skipSpace cs with
  | [] => .error .truncated
  | ']' :: _ => .ok none
  | c :: rest =>
    if opened then .ok (some (c :: rest))
    else if c = ',' then
      match skipSpace rest with
      | [] => .error .truncated
      | ']' :: _ => .error .malformed
      | rest => .ok (some rest)
    else .error .malformed

/-- The end of an array. -/
def endItems (cs : List Char) : Except Fault (List Char) :=
  match skipSpace cs with
  | [] => .error .truncated
  | ']' :: rest => .ok rest
  | _ => .error .malformed

/-- Moves behind the opening quote of the next key of an object, if there is one. -/
def nextKey (opened : Bool) (cs : List Char) : Except Fault (Option (List Char)) :=
  match skipSpace cs with
  | [] => .error .truncated
  | '\x7d' :: _ => .ok none
  | c :: rest =>
    if opened then
      if c = '"' then .ok (some rest) else .error .malformed
    else if c = ',' then
      match skipSpace rest with
      | [] => .error .truncated
      | '"' :: rest => .ok (some rest)
      | _ => .error .malformed
    else .error .malformed

/-- The end of an object. -/
def endMembers (cs : List Char) : Except Fault (List Char) :=
  match skipSpace cs with
  | [] => .error .truncated
  | '\x7d' :: rest => .ok rest
  | _ => .error .malformed

/-- The colon between a key and its value. -/
def colon (cs : List Char) : Except Fault (List Char) :=
  match skipSpace cs with
  | [] => .error .truncated
  | ':' :: rest => .ok rest
  | _ => .error .malformed

/-- Reads the items of an array into a state, up to the closing bracket. An item is at least one
character long, so `fuel` need not exceed the length of the text. -/
def foldItems {σ : Type} (item : σ → Reader σ) :
    (fuel : Nat) → (opened : Bool) → σ → List Char → Except Fault (σ × List Char)
  | 0, _, _, _ => .error .truncated
  | fuel + 1, opened, s, cs => do
    match ← nextItem opened cs with
    | none => return (s, cs)
    | some cs =>
      let (s, cs) ← item s cs
      foldItems item fuel false s cs

/-- Reads the members of an object into a state, up to the closing brace; `paired` as for
`unicodeEscape`, in keys. -/
def foldMembers {σ : Type} (paired : Bool) (member : String → σ → Reader σ) :
    (fuel : Nat) → (opened : Bool) → σ → List Char → Except Fault (σ × List Char)
  | 0, _, _, _ => .error .truncated
  | fuel + 1, opened, s, cs => do
    match ← nextKey opened cs with
    | none => return (s, cs)
    | some cs =>
      let (key, cs) ← stringRest paired cs
      let (s, cs) ← member key s cs
      foldMembers paired member fuel false s cs

/-- The greatest depth to which arrays and objects may be nested. -/
def maxDepth : Nat := 127

/-- Reads a value in which arrays and objects are nested at most `depth` deep. -/
def value : (depth : Nat) → Reader Json := fun depth cs =>
  match skipSpace cs with
  | [] => .error .truncated
  | c :: rest =>
    match c with
    | 'n' => (word ['u', 'l', 'l'] rest).map fun rest => (.null, rest)
    | 't' => (word ['r', 'u', 'e'] rest).map fun rest => (.bool true, rest)
    | 'f' => (word ['a', 'l', 's', 'e'] rest).map fun rest => (.bool false, rest)
    | '-' => number true rest
    | '"' => (stringRest true rest).map fun (s, rest) => (.str s, rest)
    | '[' =>
      match depth with
      | 0 => .error .malformed
      | depth + 1 => do
        let item := fun (items : List Json) cs => do
          let (v, cs) ← value depth cs
          return (v :: items, cs)
        let (items, cs) ← foldItems item (rest.length + 1) true [] rest
        let cs ← endItems cs
        return (.arr items.reverse, cs)
    | '\x7b' =>
      match depth with
      | 0 => .error .malformed
      | depth + 1 => do
        let member := fun key (members : List (String × Json)) cs => do
          let cs ← colon cs
          let (v, cs) ← value depth cs
          return (insertMember key v members, cs)
        let (members, cs) ← foldMembers true member (rest.length + 1) true [] rest
        let cs ← endMembers cs
        return (.obj members, cs)
    | c => if c.isDigit then number false (c :: rest) else .error .malformed

/-- Passes over a value that nobody asked for, nested at most `depth` deep. Only its shape is
checked: numbers may be out of range and surrogates unpaired. -/
def skipValue : (depth : Nat) → List Char → Except Fault (List Char) := fun depth cs =>
  match skipSpace cs with
  | [] => .error .truncated
  | c :: rest =>
    let number cs :=
      match Numeral.scan false cs with
      | .error _ => .error .malformed
      | .ok (_, rest) => .ok rest
    match c with
    | 'n' => word ['u', 'l', 'l'] rest
    | 't' => word ['r', 'u', 'e'] rest
    | 'f' => word ['a', 'l', 's', 'e'] rest
    | '-' => number rest
    | '"' => (stringBody false rest).map (·.2)
    | '[' =>
      match depth with
      | 0 => .error .malformed
      | depth + 1 => do
        let item := fun (_ : Unit) cs => (skipValue depth cs).map fun cs => ((), cs)
        let (_, cs) ← foldItems item (rest.length + 1) true () rest
        endItems cs
    | '\x7b' =>
      match depth with
      | 0 => .error .malformed
      | depth + 1 => do
        let member := fun _ (_ : Unit) cs => do
          let cs ← colon cs
          let cs ← skipValue depth cs
          return ((), cs)
        let (_, cs) ← foldMembers false member (rest.length + 1) true () rest
        endMembers cs
    | c => if c.isDigit then number (c :: rest) else .error .malformed

/-- Refuses the value in front because another kind of value was due. -/
def wrongKind {α : Type} (expected : String) (cs : List Char) : Except Fault α :=
  let refuse (found : Found) : Except Fault α := .error (.mismatch (.wrongKind found expected))
  let refuseNumber (read : Except Fault (Json × List Char)) : Except Fault α := do
    match (← read).1 with
    | .float x => refuse (.float x)
    | .int n => refuse (.int n)
    | _ => .error .malformed
  match skipSpace cs with
  | [] => .error .truncated
  | c :: rest =>
    match c with
    | 'n' => do let _ ← word ['u', 'l', 'l'] rest; refuse .null
    | 't' => do let _ ← word ['r', 'u', 'e'] rest; refuse (.bool true)
    | 'f' => do let _ ← word ['a', 'l', 's', 'e'] rest; refuse (.bool false)
    | '-' => refuseNumber (number true rest)
    | '"' => do let (s, _) ← stringRest true rest; refuse (.str s)
    | '[' => refuse .arr
    | '\x7b' => refuse .obj
    | c => if c.isDigit then refuseNumber (number false (c :: rest)) else .error .malformed

/-- Reads a string that `parse` understands. -/
def text {α : Type} (expected : String) (parse : String → Except String α) : Reader α := fun cs =>
  match skipSpace cs with
  | '"' :: rest => do
    let (s, rest) ← stringRest true rest
    match parse s with
    | .ok a => return (a, rest)
    | .error reason => .error (.mismatch (.rejected reason))
  | cs => wrongKind expected cs

/-- Reads a whole text, with nothing but blanks after the value. -/
def readAll {α : Type} (reader : Reader α) (s : String) : Except Fault α := do
  let (a, rest) ← reader s.toList
  match skipSpace rest with
  | [] => return a
  | _ :: _ => .error .malformed

/-- Reads a value from a whole text. -/
def parse (s : String) : Except Fault Json := readAll (value maxDepth) s

end Json

end Monthwise
