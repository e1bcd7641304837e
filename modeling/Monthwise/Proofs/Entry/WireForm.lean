import Monthwise.Entry.Wire
import Monthwise.Proofs.Instant
import Monthwise.Proofs.Json.Values
import Monthwise.Proofs.Period.WireForm
import Monthwise.Proofs.Uuid

/-! # Entries come back from JSON

An entry may be read from many texts: the identifier has four forms, the days of the period and the
instant have more than one spelling each, and the members of an object may stand in any order. It is
written in one way only, and from there the same entry is read.
-/

namespace Monthwise

theorem Uuid.yields_json (u : Uuid) (depth : Nat) :
    Json.Yields (Uuid.decoder.read depth) (Json.str (toString u)).chars u :=
  Json.Decoder.yields_text u.ofChars_chars

theorem Instant.yields_json (t : Instant) (depth : Nat) :
    Json.Yields (Instant.decoder.read depth) (Json.str (toString t)).chars t :=
  Json.Decoder.yields_text t.scan_chars

namespace Entry

variable {e : Entry Json} {depth : Nat}

/-- A payload that was read so far is of the shape of what is read. -/
def Draft.Shaped (depth : Nat) (s : Draft) : Prop :=
  ∀ v ∈ s.payload, Json.Shaped depth v

theorem finish_eq_ok_iff {s : Draft} : form.finish s = .ok e ↔
    s = { id := some e.id, period := some e.period, createdAt := some e.createdAt,
          payload := some e.payload } := by
  obtain ⟨id, period, createdAt, payload⟩ := s
  constructor
  · intro h
    obtain ⟨u, hid, h⟩ := Json.bind_eq_ok_iff.mp h
    obtain ⟨p, hperiod, h⟩ := Json.bind_eq_ok_iff.mp h
    obtain ⟨t, hcreated, h⟩ := Json.bind_eq_ok_iff.mp h
    obtain ⟨v, hpayload, h⟩ := Json.bind_eq_ok_iff.mp h
    obtain rfl := Except.ok.inj h
    obtain rfl : id = some u := Json.require_eq_ok_iff.mp hid
    obtain rfl : period = some p := Json.require_eq_ok_iff.mp hperiod
    obtain rfl : createdAt = some t := Json.require_eq_ok_iff.mp hcreated
    obtain rfl : payload = some v := Json.require_eq_ok_iff.mp hpayload
    rfl
  · intro h
    rw [h]
    rfl

/-- Three of the fields leave the payload as it is, and the fourth reads a value. -/
theorem shaped_of_field : ∀ field ∈ form.fields, ∀ s cs update rest, Draft.Shaped depth s →
    field.decoder.read depth cs = .ok (update, rest) → Draft.Shaped depth (update s) := by
  intro field hfield s cs update rest hs hread
  simp only [form, List.mem_cons, List.not_mem_nil, or_false] at hfield
  rcases hfield with rfl | rfl | rfl | rfl
  all_goals simp only [Json.Decoder.read_map_eq_ok_iff] at hread
  · obtain ⟨u, -, rfl⟩ := hread
    exact hs
  · obtain ⟨p, -, rfl⟩ := hread
    exact hs
  · obtain ⟨t, -, rfl⟩ := hread
    exact hs
  · obtain ⟨v, hv, rfl⟩ := hread
    rintro w hw
    obtain rfl := Option.some.inj hw
    exact Json.shaped_of_read hv

/-- The record itself is one of the levels of nesting that are allowed. -/
theorem shaped_payload {text : String} (h : ofJson text = .ok e) : Json.Shaped 126 e.payload := by
  obtain ⟨rest, hread, -⟩ := Json.readAll_eq_ok_iff.mp h
  have hstart : Draft.Shaped 126 form.start := fun v hv => by cases hv
  obtain ⟨s, hs, hfinish⟩ := Json.RecordForm.read_invariant hstart shaped_of_field hread
  obtain rfl := finish_eq_ok_iff.mp hfinish
  exact hs e.payload rfl

theorem fills_json (hpayload : Json.Yields (Json.value (depth + 1)) e.payload.chars e.payload) :
    form.Fills (depth + 1) {}
      [("id", .str (toString e.id)), ("period", e.period.json),
        ("createdAt", .str (toString e.createdAt)), ("payload", e.payload)]
      { id := some e.id, period := some e.period, createdAt := some e.createdAt,
        payload := some e.payload } := by
  have hid := Json.Decoder.yields_map (fun u (s : Draft) => { s with id := some u })
    (e.id.yields_json (depth + 1))
  have hperiod := Json.Decoder.yields_map (fun p (s : Draft) => { s with period := some p })
    (e.period.yields_json depth)
  have hcreated := Json.Decoder.yields_map (fun t (s : Draft) => { s with createdAt := some t })
    (e.createdAt.yields_json (depth + 1))
  have hvalue := Json.Decoder.yields_map (d := .any)
    (fun v (s : Draft) => { s with payload := some v }) hpayload
  exact .cons rfl rfl hid <| .cons rfl rfl hperiod <| .cons rfl rfl hcreated <|
    .cons rfl rfl hvalue .nil

/-- An entry comes back if its payload does. -/
theorem yields_json (hpayload : Json.Yields (Json.value (depth + 1)) e.payload.chars e.payload) :
    Json.Yields (decoder.read (depth + 2)) e.json.chars e :=
  (fills_json hpayload).yields (finish_eq_ok_iff.mpr rfl)

theorem eq_self (hwhole : e.payload.Whole) : (e == e) = true := by
  change ((e.id == e.id) && (e.period == e.period) && (e.createdAt == e.createdAt) &&
    (e.payload == e.payload)) = true
  simp only [beq_self_eq_true, Bool.and_true, Bool.true_and]
  exact hwhole.eq_self

/-- Whatever text an entry was read from, if all the numbers in its payload are integers (which fit
into 64 bits then, or they had not been read), it is written so that the same entry is read again,
down to the nanosecond and with every member of the payload. What is written is not changed by
reading and writing it once more. -/
theorem wire_roundTrip (text : String) (e : Entry Json) (hread : ofJson text = .ok e)
    (hwhole : e.payload.Whole) :
    ofJson e.json.render = .ok e ∧ (e == e) = true ∧
      (ofJson e.json.render).map (·.json.render) = .ok e.json.render := by
  have hagain : ofJson e.json.render = .ok e :=
    Json.readAll_of_yields (yields_json ((shaped_payload hread).yields hwhole))
  refine ⟨hagain, eq_self hwhole, ?_⟩
  rw [hagain]
  rfl

set_option maxRecDepth 8000 in
/-- An identifier as a URN in capital letters, days with blanks and fewer digits, a leap second on a
clock two hours ahead, and a payload with an escape, its keys out of order and one of them twice. -/
theorem wire_roundTrip_other_spellings :
    let text :=
      "\x7b\"payload\": \x7b\"b\": [1], \"a\": \"\\u0041\", \"b\": [-2, null]\x7d, " ++
      "\"id\": \"URN:UUID:00112233-4455-6677-8899-AABBCCDDEEFF\", " ++
      "\"period\": [\"2024-1-01\", \" 2024-02-29\"], " ++
      "\"createdAt\": \"2017-01-01 01:59:60.250000000+02:00\"\x7d"
    let e : Entry Json := {
      id := ⟨0x00112233445566778899aabbccddeeff, by decide⟩
      period := { first := 24288, last := 24289, firstMonth_le := by decide, last_le := by decide }
      createdAt := {
        date := ⟨2016, 12, 31, by decide, by decide, by decide⟩
        second := 86399
        nano := 1250000000
        second_lt := by decide
        nano_lt := by decide
        leap := by decide }
      payload := .obj [("a", .str "A"), ("b", .arr [.int (-2), .null])] }
    ofJson text = .ok e ∧ e.payload.Whole ∧ ofJson e.json.render = .ok e ∧ (e == e) = true ∧
      (ofJson e.json.render).map (·.json.render) = .ok e.json.render := by
  intro text e
  have hread : ofJson text = .ok e := by
    unfold text e
    cbv
  have hitems : (Json.arr [.int (-2), .null]).Whole :=
    .arr (List.forall_mem_cons.mpr ⟨.int (-2), List.forall_mem_singleton.mpr .null⟩)
  have hwhole : e.payload.Whole :=
    .obj (List.forall_mem_cons.mpr ⟨.str "A", List.forall_mem_singleton.mpr hitems⟩)
  exact ⟨hread, hwhole, wire_roundTrip text e hread hwhole⟩

end Entry

end Monthwise
