import Monthwise.Calendar.DateText
import Monthwise.Json.Record
import Monthwise.Period.Basic

/-! # Periods in JSON

A period is a record of its first and its last day. What is read is checked by
the same rules as any two dates, without a limit on the number of months.
-/

namespace Monthwise

/-- A date as a JSON string. -/
def Date.json (d : Date) : Json := .str (toString d)

/-- Reads a date from a JSON string. -/
def Date.decoder : Json.Decoder Date :=
  .text "a formatted date string" fun s => (Date.scan s.toList).mapError (·.message)

namespace Period

/-- The name of the field that holds the first day. -/
def startField : String := "fraOgMed"

/-- The name of the field that holds the last day. -/
def stopField : String := "tilOgMed"

/-- A period as a record. -/
def json (p : Period) : Json :=
  .obj [(startField, p.start.json), (stopField, p.stop.json)]

/-- The two days as they are read, before they are known to be the ends of a period. -/
def endsForm : Json.RecordForm (Option Date × Option Date) (Date × Date) where
  expected := "struct RawPeriod"
  fields := [
    { name := startField
      isSet := fun s => s.1.isSome
      decoder := Date.decoder.map fun d s => (some d, s.2) },
    { name := stopField
      isSet := fun s => s.2.isSome
      decoder := Date.decoder.map fun d s => (s.1, some d) }]
  start := (none, none)
  finish := fun s => do
    return (← Json.require startField s.1, ← Json.require stopField s.2)

/-- Reads a period. -/
def decoder : Json.Decoder Period :=
  endsForm.decoder.refine fun (start, stop) => (ofDates start stop).mapError (·.message)

/-- Reads a period from a whole JSON text. -/
def ofJson (s : String) : Except Json.Fault Period := decoder.ofText s

end Period

end Monthwise
