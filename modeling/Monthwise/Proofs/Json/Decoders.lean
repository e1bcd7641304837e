import Monthwise.Json.Decoder
import Monthwise.Proofs.Json.Strings

/-! # What decoders read

A reader that stands in front of a value stops where the value ends. How a decoder
answers for a whole text, or after a check, follows from what it reads in front.
-/

namespace Monthwise.Json

/-- What comes behind a value in a text without blanks. -/
def Closes (rest : List Char) : Prop := ∀ c ∈ rest.head?, c = ',' ∨ c = ']' ∨ c = '\x7d'

/-- Wherever the text stands in front of something that closes it, just this text is read. -/
def Yields {α : Type} (reader : Reader α) (cs : List Char) (a : α) : Prop :=
  ∀ rest, Closes rest → reader (cs ++ rest) = .ok (a, rest)

theorem bind_eq_ok_iff {ε α β : Type} {x : Except ε α} {f : α → Except ε β} {b : β} :
    (x >>= f) = .ok b ↔ ∃ a, x = .ok a ∧ f a = .ok b := by
  cases x with
  | error e => simp [bind, Except.bind]
  | ok a => simp [bind, Except.bind]

theorem mapError_eq_ok_iff {ε δ α : Type} {x : Except ε α} {f : ε → δ} {a : α} :
    x.mapError f = .ok a ↔ x = .ok a := by
  cases x with
  | error e => simp [Except.mapError]
  | ok a' => simp [Except.mapError]

theorem map_eq_ok_iff {ε α β : Type} {x : Except ε α} {f : α → β} {b : β} :
    x.map f = .ok b ↔ ∃ a, x = .ok a ∧ f a = b := by
  cases x with
  | error e => simp [Except.map]
  | ok a => simp [Except.map]

section Readers

variable {α : Type} {reader : Reader α} {cs : List Char} {a : α}

/-- Nothing comes of a value of another kind. -/
theorem wrongKind_ne_ok {expected : String} : wrongKind expected cs ≠ .ok a := by
  intro h
  unfold wrongKind at h
  simp only at h
  split at h
  · cases h
  · split at h
    case h_4 =>
      obtain ⟨v, -, h⟩ := bind_eq_ok_iff.mp h
      split at h <;> cases h
    case h_6 | h_7 => cases h
    case h_8 =>
      split_ifs at h
      obtain ⟨v, -, h⟩ := bind_eq_ok_iff.mp h
      split at h <;> cases h
    all_goals
      obtain ⟨_, -, h⟩ := bind_eq_ok_iff.mp h
      cases h

theorem readAll_eq_ok_iff {s : String} :
    readAll reader s = .ok a ↔ ∃ rest, reader s.toList = .ok (a, rest) ∧ skipSpace rest = [] := by
  rw [readAll, bind_eq_ok_iff]
  constructor
  · rintro ⟨⟨a', rest⟩, hread, hend⟩
    cases hrest : skipSpace rest with
    | nil =>
        simp only [hrest] at hend
        obtain rfl := Except.ok.inj hend
        exact ⟨rest, hread, hrest⟩
    | cons c cs =>
        simp only [hrest] at hend
        cases hend
  · rintro ⟨rest, hread, hrest⟩
    refine ⟨(a, rest), hread, ?_⟩
    simp only [hrest]
    rfl

theorem readAll_of_yields {v : Json} (h : Yields reader v.chars a) :
    readAll reader v.render = .ok a := by
  rw [readAll_eq_ok_iff]
  refine ⟨[], ?_, rfl⟩
  rw [render, String.toList_ofList, ← List.append_nil v.chars]
  exact h [] (fun c hc => nomatch hc)

theorem yields_text {expected : String} {parse : String → Except String α} {s : String}
    (h : parse s = .ok a) : Yields (text expected parse) (quote s) a := by
  intro rest _
  have hskip : skipSpace (quote s ++ rest) = '"' :: (s.toList.flatMap escape ++ '"' :: rest) := by
    simp [quote, skipSpace, isSpace]
  simp only [text, hskip, stringRest_escape, bind, Except.bind, h]
  rfl

end Readers

namespace Decoder

variable {α β : Type} {d : Decoder α} {depth : Nat} {cs : List Char} {a : α}

theorem yields_map (f : α → β) (h : Yields (d.read depth) cs a) :
    Yields ((d.map f).read depth) cs (f a) := by
  intro rest hrest
  simp only [map, h rest hrest, Except.map]

theorem read_map_eq_ok_iff {f : α → β} {b : β} {rest : List Char} :
    (d.map f).read depth cs = .ok (b, rest) ↔ ∃ a, d.read depth cs = .ok (a, rest) ∧ f a = b := by
  simp only [map, map_eq_ok_iff]
  constructor
  · rintro ⟨⟨a, rest'⟩, hread, hab⟩
    obtain ⟨hfa, rfl⟩ := Prod.mk.inj hab
    exact ⟨a, hread, hfa⟩
  · rintro ⟨a, hread, rfl⟩
    exact ⟨(a, rest), hread, rfl⟩

section Texts

variable {ε : Type} {parse : List Char → Except ε α} {expected : String} {message : ε → String}

/-- What is parsed from its characters is read where they are written as a string. -/
theorem yields_text (h : parse cs = .ok a) :
    Yields ((text expected fun s => (parse s.toList).mapError message).read depth)
      (Json.str (String.ofList cs)).chars a := by
  have hread : (text expected fun s => (parse s.toList).mapError message).read depth =
      Json.text expected fun s => (parse s.toList).mapError message := rfl
  have hchars : (Json.str (String.ofList cs)).chars = quote (String.ofList cs) := by rw [Json.chars]
  rw [hread, hchars]
  apply Json.yields_text
  rw [String.toList_ofList, h]
  rfl

theorem ofValue_text (h : parse cs = .ok a) :
    (text expected fun s => (parse s.toList).mapError message).ofValue
      (.str (String.ofList cs)) = .ok a := by
  simp only [text, String.toList_ofList, h]
  rfl

end Texts

section Refinement

variable {check : α → Except String β} {b : β}

theorem read_refine_eq_ok_iff {rest : List Char} :
    (d.refine check).read depth cs = .ok (b, rest) ↔
      ∃ a, d.read depth cs = .ok (a, rest) ∧ check a = .ok b := by
  simp only [refine, bind_eq_ok_iff]
  constructor
  · rintro ⟨⟨a, rest'⟩, hread, hchecked⟩
    cases hcheck : check a with
    | error reason =>
        simp only [hcheck] at hchecked
        cases hchecked
    | ok b' =>
        simp only [hcheck] at hchecked
        obtain ⟨rfl, rfl⟩ := Prod.mk.inj (Except.ok.inj hchecked)
        exact ⟨a, hread, hcheck⟩
  · rintro ⟨a, hread, hcheck⟩
    refine ⟨(a, rest), hread, ?_⟩
    simp only [hcheck]
    rfl

theorem yields_refine (hcheck : check a = .ok b) (h : Yields (d.read depth) cs a) :
    Yields ((d.refine check).read depth) cs b :=
  fun rest hrest => read_refine_eq_ok_iff.mpr ⟨a, h rest hrest, hcheck⟩

/-- A check leaves of what is read just what passes it, be it a text or a value. -/
theorem ofText_refine_eq_ok_iff {s : String} :
    (d.refine check).ofText s = .ok b ↔ ∃ a, d.ofText s = .ok a ∧ check a = .ok b := by
  simp only [ofText, readAll_eq_ok_iff, read_refine_eq_ok_iff]
  constructor
  · rintro ⟨rest, ⟨a, hread, hcheck⟩, hrest⟩
    exact ⟨a, ⟨rest, hread, hrest⟩, hcheck⟩
  · rintro ⟨a, ⟨rest, hread, hrest⟩, hcheck⟩
    exact ⟨rest, ⟨a, hread, hcheck⟩, hrest⟩

theorem ofValue_refine_eq_ok_iff {v : Json} :
    (d.refine check).ofValue v = .ok b ↔ ∃ a, d.ofValue v = .ok a ∧ check a = .ok b := by
  simp only [refine, bind_eq_ok_iff, mapError_eq_ok_iff]

theorem ofText_refine_of_error {s reason : String} (hread : d.ofText s = .ok a)
    (hcheck : check a = .error reason) :
    (d.refine check).ofText s = .error (.mismatch (.rejected reason)) := by
  obtain ⟨rest, hfront, -⟩ := readAll_eq_ok_iff.mp hread
  simp only [ofText, readAll, refine, hfront, bind, Except.bind, hcheck]

theorem ofValue_refine_of_error {v : Json} {reason : String} (hread : d.ofValue v = .ok a)
    (hcheck : check a = .error reason) :
    (d.refine check).ofValue v = .error (.rejected reason) := by
  simp only [refine, hread, bind, Except.bind, hcheck, Except.mapError]

end Refinement

end Decoder

end Monthwise.Json
