import Monthwise.Entry.Basic
import Monthwise.Instant.Scan
import Monthwise.Period.Wire

/-! # Entries in JSON

An entry is a record of its identifier, its period, the instant at which it was
made and its payload, which may be any JSON value.
-/

namespace Monthwise

/-- Reads an identifier from a JSON string. -/
def Uuid.decoder : Json.Decoder Uuid :=
  .text "a formatted UUID string" fun s => (Uuid.ofChars s.toList).mapError (·.message)

/-- Reads an instant from a JSON string. -/
def Instant.decoder : Json.Decoder Instant :=
  .text "an RFC 3339 formatted date and time string" fun s =>
    (Instant.scan s.toList).mapError (·.message)

namespace Entry

/-- An entry as a record. -/
def json (e : Entry Json) : Json :=
  .obj [("id", .str (toString e.id)), ("period", e.period.json),
    ("createdAt", .str (toString e.createdAt)), ("payload", e.payload)]

/-- The fields of an entry that were read so far. -/
structure Draft where
  id : Option Uuid := none
  period : Option Period := none
  createdAt : Option Instant := none
  payload : Option Json := none

/-- The form of an entry. -/
def form : Json.RecordForm Draft (Entry Json) where
  expected := "struct TimedEntry"
  fields := [
    { name := "id"
      isSet := fun s => s.id.isSome
      decoder := Uuid.decoder.map fun u s => { s with id := some u } },
    { name := "period"
      isSet := fun s => s.period.isSome
      decoder := Period.decoder.map fun p s => { s with period := some p } },
    { name := "createdAt"
      isSet := fun s => s.createdAt.isSome
      decoder := Instant.decoder.map fun t s => { s with createdAt := some t } },
    { name := "payload"
      isSet := fun s => s.payload.isSome
      decoder := Json.Decoder.any.map fun v s => { s with payload := some v } }]
  start := {}
  finish := fun s => do
    let id ← Json.require "id" s.id
    let period ← Json.require "period" s.period
    let createdAt ← Json.require "createdAt" s.createdAt
    let payload ← Json.require "payload" s.payload
    return { id, period, createdAt, payload }

/-- Reads an entry. -/
def decoder : Json.Decoder (Entry Json) := form.decoder

/-- Reads an entry from a whole JSON text. -/
def ofJson (s : String) : Except Json.Fault (Entry Json) := decoder.ofText s

/-- Reads an entry from a value. -/
def ofValue (v : Json) : Except Json.Mismatch (Entry Json) := decoder.ofValue v

end Entry

end Monthwise
