import Monthwise.Json.Reader

/-! # Decoders

A decoder reads one kind of data from JSON, in two ways: from the front of a
text, or from a value that has been read already. A value is well-formed, so
only its content can be wrong.
-/

namespace Monthwise.Json

/-- How a kind of data is read. -/
structure Decoder (α : Type) where
  /-- Reads from the front of a text, with arrays and objects nested at most so deep. -/
  read : (depth : Nat) → Reader α
  /-- Reads from a value. -/
  ofValue : Json → Except Mismatch α

/-- How a message names a value. -/
def found : Json → Found
  | .null => .null
  | .bool b => .bool b
  | .int n => .int n
  | .float x => .float x
  | .str s => .str s
  | .arr _ => .arr
  | .obj _ => .obj

namespace Decoder

variable {α β : Type}

/-- Any value, as it is. -/
def any : Decoder Json where
  read := value
  ofValue := .ok

/-- A string that `parse` understands. -/
def text (expected : String) (parse : String → Except String α) : Decoder α where
  read _ := Json.text expected parse
  ofValue
    | .str s => (parse s).mapError .rejected
    | v => .error (.wrongKind v.found expected)

/-- What is read, turned into something else. -/
def map (f : α → β) (d : Decoder α) : Decoder β where
  read depth cs := (d.read depth cs).map fun (a, rest) => (f a, rest)
  ofValue v := (d.ofValue v).map f

/-- What is read, once it has passed a check. -/
def refine (check : α → Except String β) (d : Decoder α) : Decoder β where
  read depth cs := do
    let (a, rest) ← d.read depth cs
    match check a with
    | .ok b => return (b, rest)
    | .error reason => .error (.mismatch (.rejected reason))
  ofValue v := do (check (← d.ofValue v)).mapError .rejected

/-- Reads a whole text. -/
def ofText (d : Decoder α) (s : String) : Except Fault α := readAll (d.read maxDepth) s

end Decoder

end Monthwise.Json
