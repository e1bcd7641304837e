import Monthwise.Json.Decoder

/-! # Records in JSON

A record is an object with named fields in any order, or an array of its fields
in the order in which they are declared. Members of other names are passed over,
but an array must not hold more than the fields.
-/

namespace Monthwise.Json

/-- A field of a record that is read into a state. -/
structure Field (σ : Type) where
  name : String
  /-- The field was read before. -/
  isSet : σ → Bool
  /-- Reads the field and tells what becomes of the state. -/
  decoder : Decoder (σ → σ)

/-- The form of a record. -/
structure RecordForm (σ α : Type) where
  /-- How a message names the record. -/
  expected : String
  fields : List (Field σ)
  /-- Before any field is read. -/
  start : σ
  /-- The record, once its fields are read. -/
  finish : σ → Except Mismatch α

/-- What was read of a field, which must not be missing. -/
def require {α : Type} (name : String) : Option α → Except Mismatch α
  | some a => .ok a
  | none => .error (.missingField name)

namespace RecordForm

variable {σ α : Type} (form : RecordForm σ α)

/-- The field of this name. -/
def field? (name : String) : Option (Field σ) := form.fields.find? (·.name == name)

/-- An array ends after `count` items, before all fields are read. -/
def tooShort (count : Nat) : Mismatch :=
  .wrongLength count s!"{form.expected} with {Decimal.text form.fields.length} elements"

/-- An array of `count` items holds more than the fields. -/
def tooLong (count : Nat) : Mismatch := .wrongLength count "fewer elements in array"

/-- The record, if nothing is missing. -/
def complete (s : σ) : Except Fault α := (form.finish s).mapError .mismatch

/-- Reads a member of an object: a field, or a value to pass over. -/
def member (depth : Nat) (key : String) (s : σ) : Reader σ := fun cs =>
  match form.field? key with
  | some field =>
    if field.isSet s then .error (.mismatch (.duplicateField key))
    else do
      let cs ← colon cs
      let (update, cs) ← field.decoder.read depth cs
      return (update s, cs)
  | none => do
    let cs ← colon cs
    let cs ← skipValue cs.length cs
    return (s, cs)

/-- Reads the fields from the items of an array. -/
def items (depth : Nat) : List (Field σ) → (count : Nat) → σ → Reader σ
  | [], _, s, cs => .ok (s, cs)
  | field :: rest, count, s, cs => do
    match ← nextItem (count == 0) cs with
    | none => .error (.mismatch (form.tooShort count))
    | some cs =>
      let (update, cs) ← field.decoder.read depth cs
      items depth rest (count + 1) (update s) cs

/-- Reads the record from the front of a text. -/
def read (depth : Nat) : Reader α := fun cs =>
  match skipSpace cs, depth with
  | '\x7b' :: rest, depth + 1 => do
    let (s, rest) ← foldMembers true (form.member depth) (rest.length + 1) true form.start rest
    let a ← form.complete s
    let rest ← endMembers rest
    return (a, rest)
  | '[' :: rest, depth + 1 => do
    let (s, rest) ← form.items depth form.fields 0 form.start rest
    let a ← form.complete s
    let rest ← endItems rest
    return (a, rest)
  | '\x7b' :: _, 0 => .error .malformed
  | '[' :: _, 0 => .error .malformed
  | cs, _ => wrongKind form.expected cs

/-- Reads the fields from the members of an object, in their order. -/
def ofMembers : σ → List (String × Json) → Except Mismatch σ
  | s, [] => .ok s
  | s, (key, v) :: rest =>
    match form.field? key with
    | some field => do
      let update ← field.decoder.ofValue v
      ofMembers (update s) rest
    | none => ofMembers s rest

/-- Reads the fields from as many values, and returns the values that are left. -/
def ofItems : List (Field σ) → (count : Nat) → σ → List Json → Except Mismatch (σ × List Json)
  | [], _, s, vs => .ok (s, vs)
  | _ :: _, count, _, [] => .error (form.tooShort count)
  | field :: rest, count, s, v :: vs => do
    let update ← field.decoder.ofValue v
    ofItems rest (count + 1) (update s) vs

/-- Reads the record from a value. -/
def ofValue : Json → Except Mismatch α
  | .obj members => do form.finish (← form.ofMembers form.start members)
  | .arr vs => do
    let (s, left) ← form.ofItems form.fields 0 form.start vs
    let a ← form.finish s
    if left.isEmpty then return a else .error (tooLong vs.length)
  | v => .error (.wrongKind v.found form.expected)

/-- Reads the record. -/
def decoder : Decoder α where
  read := form.read
  ofValue := form.ofValue

end RecordForm

end Monthwise.Json
