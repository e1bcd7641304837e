import Mathlib
import Monthwise.Period.Wire
import Monthwise.Proofs.ByDays.Construction
import Monthwise.Proofs.Calendar.ScannedDate
import Monthwise.Proofs.Json.Records

/-! # Periods come back from JSON

Every period is read back from the JSON that is written for it. The other way round, a
text may spell the two days of a record in many ways and put them in either order, but
whatever the route, they make a period only if they are the ends of whole months.
-/

namespace Monthwise

namespace Date

variable (d : Date)

theorem yields_json (depth : Nat) : Json.Yields (Date.decoder.read depth) d.json.chars d :=
  Json.Decoder.yields_text d.scan_chars

theorem ofValue_json : Date.decoder.ofValue d.json = .ok d :=
  Json.Decoder.ofValue_text d.scan_chars

end Date

namespace Period

section Ends

variable {p : Period} {start stop : Date}

theorem checked_of_not_wholeMonths (h : ¬ ByDays.WholeMonths start stop) :
    ∃ e : PeriodError, (ofDates start stop).mapError (·.message) = .error e.message := by
  cases hdates : ofDates start stop with
  | error e => exact ⟨e, rfl⟩
  | ok p =>
      obtain ⟨rfl, rfl⟩ := ofDates_eq_ok_iff.mp hdates
      exact absurd (ByDays.wholeMonths p) h

theorem checked_eq_ok_iff : (ofDates start stop).mapError (·.message) = .ok p ↔
    (start, stop) = (p.start, p.stop) := by
  rw [Json.mapError_eq_ok_iff, ofDates_eq_ok_iff, Prod.mk.injEq]

theorem exists_checked_iff {ε : Type} {found : Except ε (Date × Date)} :
    (∃ ends, found = .ok ends ∧ (ofDates ends.1 ends.2).mapError (·.message) = .ok p) ↔
      found = .ok (p.start, p.stop) := by
  constructor
  · rintro ⟨⟨start, stop⟩, hfound, hcheck⟩
    rw [hfound, checked_eq_ok_iff.mp hcheck]
  · intro hfound
    exact ⟨_, hfound, checked_eq_ok_iff.mpr rfl⟩

theorem ofJson_eq_ok_iff {text : String} :
    ofJson text = .ok p ↔ endsForm.decoder.ofText text = .ok (p.start, p.stop) := by
  rw [ofJson, decoder, Json.Decoder.ofText_refine_eq_ok_iff]
  exact exists_checked_iff

theorem ofValue_eq_ok_iff {v : Json} :
    decoder.ofValue v = .ok p ↔ endsForm.decoder.ofValue v = .ok (p.start, p.stop) := by
  rw [decoder, Json.Decoder.ofValue_refine_eq_ok_iff]
  exact exists_checked_iff

end Ends

section RoundTrip

variable (p : Period)

theorem fills_json (depth : Nat) : endsForm.Fills depth (none, none)
    [(startField, p.start.json), (stopField, p.stop.json)] (some p.start, some p.stop) := by
  have hstart := Json.Decoder.yields_map
    (fun d (s : Option Date × Option Date) => (some d, s.2)) (p.start.yields_json depth)
  have hstop := Json.Decoder.yields_map
    (fun d (s : Option Date × Option Date) => (s.1, some d)) (p.stop.yields_json depth)
  exact .cons rfl rfl hstart (.cons rfl rfl hstop .nil)

/-- A period comes back also where its record stands inside another value. -/
theorem yields_json (depth : Nat) : Json.Yields (decoder.read (depth + 1)) p.json.chars p := by
  have hends : Json.Yields (endsForm.read (depth + 1)) p.json.chars (p.start, p.stop) :=
    (p.fills_json depth).yields rfl
  have hcheck : (ofDates p.start p.stop).mapError (·.message) = .ok p := checked_eq_ok_iff.mpr rfl
  exact Json.Decoder.yields_refine hcheck hends

theorem ofJson_render : ofJson p.json.render = .ok p :=
  -- the record itself is one of the 127 levels
  Json.readAll_of_yields (p.yields_json 126)

theorem ofValue_json : decoder.ofValue p.json = .ok p := by
  have hdate (d : Date) (f : Date → Option Date × Option Date → Option Date × Option Date) :
      (Date.decoder.map f).ofValue d.json = .ok (f d) := by
    simp only [Json.Decoder.map, d.ofValue_json]
    rfl
  have hmembers : endsForm.ofMembers (none, none)
      [(startField, p.start.json), (stopField, p.stop.json)] = .ok (some p.start, some p.stop) := by
    rw [Json.RecordForm.ofMembers_of_field rfl (hdate _ _),
      Json.RecordForm.ofMembers_of_field rfl (hdate _ _)]
    rfl
  rw [ofValue_eq_ok_iff]
  change (do endsForm.finish (← endsForm.ofMembers (none, none) _)) = _
  rw [hmembers]
  rfl

end RoundTrip

/-- Every period comes back from its JSON, as a text and as a value. Whatever else is read as a
period, the two days that it names are the ends of whole months, they are the ends of that period,
and the period comes back when it is written again. Days that are not the ends of whole months are
refused, however they are spelled. -/
theorem json_roundTrip :
    (∀ p : Period, ofJson p.json.render = .ok p ∧ decoder.ofValue p.json = .ok p) ∧
    (∀ text p, ofJson text = .ok p →
      endsForm.decoder.ofText text = .ok (p.start, p.stop) ∧
      ByDays.WholeMonths p.start p.stop ∧ ofJson p.json.render = .ok p) ∧
    (∀ v p, decoder.ofValue v = .ok p →
      endsForm.decoder.ofValue v = .ok (p.start, p.stop) ∧
      ByDays.WholeMonths p.start p.stop ∧ decoder.ofValue p.json = .ok p) ∧
    (∀ text start stop, endsForm.decoder.ofText text = .ok (start, stop) →
      ¬ ByDays.WholeMonths start stop →
      ∃ e : PeriodError, ofJson text = .error (.mismatch (.rejected e.message))) ∧
    (∀ v start stop, endsForm.decoder.ofValue v = .ok (start, stop) →
      ¬ ByDays.WholeMonths start stop →
      ∃ e : PeriodError, decoder.ofValue v = .error (.rejected e.message)) := by
  refine ⟨?_, ?_, ?_, ?_, ?_⟩
  · exact fun p => ⟨p.ofJson_render, p.ofValue_json⟩
  · intro text p h
    exact ⟨ofJson_eq_ok_iff.mp h, ByDays.wholeMonths p, p.ofJson_render⟩
  · intro v p h
    exact ⟨ofValue_eq_ok_iff.mp h, ByDays.wholeMonths p, p.ofValue_json⟩
  · intro text start stop hread hbroken
    obtain ⟨e, he⟩ := checked_of_not_wholeMonths hbroken
    exact ⟨e, Json.Decoder.ofText_refine_of_error hread he⟩
  · intro v start stop hread hbroken
    obtain ⟨e, he⟩ := checked_of_not_wholeMonths hbroken
    exact ⟨e, Json.Decoder.ofValue_refine_of_error hread he⟩

/-- Two routes that the encoder does not take: the fields the other way round, with blanks, a sign
and a field of another name, and an array, whose first day is not the first of its month. -/
theorem json_roundTrip_other_spellings :
    let text :=
      "\x7b \"note\": [1], \"tilOgMed\": \"+10000 - 2-29\", \"fraOgMed\" : \" 9999-03-1\" \x7d"
    let p : Period := {
      first := 119990
      last := 120001
      firstMonth_le := by decide
      last_le := by decide }
    (ofJson text = .ok p ∧ endsForm.decoder.ofText text = .ok (p.start, p.stop) ∧
      ofJson p.json.render = .ok p) ∧
    ∃ e : PeriodError, ofJson "[\"2024-1-02\", \"2024-01-31\"]" =
      .error (.mismatch (.rejected e.message)) := by
  intro text p
  obtain ⟨-, hgood, -, hbad, -⟩ := json_roundTrip
  have hread : ofJson text = .ok p := by
    unfold text p
    cbv
  obtain ⟨hends, -, hagain⟩ := hgood text p hread
  refine ⟨⟨hread, hends, hagain⟩, ?_⟩
  have hdays : endsForm.decoder.ofText "[\"2024-1-02\", \"2024-01-31\"]" =
      .ok (⟨2024, 1, 2, by decide, by decide, by decide⟩,
        ⟨2024, 1, 31, by decide, by decide, by decide⟩) := by cbv
  exact hbad _ _ _ hdays fun hwhole => absurd hwhole.firstDay (by decide)

end Period

end Monthwise
