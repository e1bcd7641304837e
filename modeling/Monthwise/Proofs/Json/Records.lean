import Monthwise.Json.Record
import Monthwise.Proofs.Json.Decoders

/-! # Records come back

A record is written as an object whose members are its fields. Read from the front of
a text, the members fill the record one after the other, and the reader stops behind
the closing brace, so that a record may itself be a member of another.
-/

namespace Monthwise.Json

section Members

/-- A member with the comma before it. -/
def furtherMember (m : String × Json) : List Char := ',' :: (quote m.1 ++ ':' :: m.2.chars)

theorem memberChars_cons_cons (m m' : String × Json) (ms : List (String × Json)) :
    memberChars (m :: m' :: ms) =
      quote m.1 ++ ':' :: (m.2.chars ++ ',' :: memberChars (m' :: ms)) := rfl

theorem memberChars_cons (m : String × Json) (ms : List (String × Json)) :
    memberChars (m :: ms) = quote m.1 ++ ':' :: (m.2.chars ++ ms.flatMap furtherMember) := by
  induction ms generalizing m with
  | nil =>
      rw [List.flatMap_nil, List.append_nil]
      rfl
  | cons m' ms ih =>
      rw [memberChars_cons_cons, ih, List.flatMap_cons, furtherMember]
      simp

theorem closes_furtherMembers (ms : List (String × Json)) (rest : List Char) :
    Closes (ms.flatMap furtherMember ++ '\x7d' :: rest) := by
  intro c hc
  cases ms with
  | nil =>
      obtain rfl := Option.some.inj hc
      exact .inr (.inr rfl)
  | cons m ms =>
      obtain rfl := Option.some.inj hc
      exact .inl rfl

theorem length_le_memberChars (ms : List (String × Json)) :
    ms.length ≤ (memberChars ms).length := by
  induction ms with
  | nil => exact Nat.zero_le _
  | cons m ms ih =>
      cases ms with
      | nil => simp [memberChars, quote]
      | cons m' ms =>
          rw [memberChars_cons_cons]
          simp only [List.length_append, List.length_cons] at ih ⊢
          omega

variable {σ : Type} {member : String → σ → Reader σ} {fuel : Nat} {s s' : σ}
variable {ms : List (String × Json)}

theorem foldMembers_end (opened : Bool) (rest : List Char) :
    foldMembers true member (fuel + 1) opened s ('\x7d' :: rest) = .ok (s, '\x7d' :: rest) := by
  rfl

theorem foldMembers_key {opened : Bool} {key : String} {cs after rest : List Char}
    (hkey : nextKey opened cs = .ok (some (key.toList.flatMap escape ++ '"' :: after)))
    (hmember : member key s after = .ok (s', rest)) :
    foldMembers true member (fuel + 1) opened s cs =
      foldMembers true member fuel false s' rest := by
  simp only [foldMembers, hkey, bind, Except.bind, stringRest_escape, hmember]

/-- Read one after the other, the members take the reader from one state to the other. -/
inductive Takes (member : String → σ → Reader σ) : σ → List (String × Json) → σ → Prop
  | nil {s : σ} : Takes member s [] s
  | cons {s next s' : σ} {key : String} {v : Json} {ms : List (String × Json)} :
      Yields (member key s) (':' :: v.chars) next → Takes member next ms s' →
      Takes member s ((key, v) :: ms) s'

theorem Takes.foldMembers_further (h : Takes member s ms s') (hfuel : ms.length < fuel)
    (rest : List Char) :
    foldMembers true member fuel false s (ms.flatMap furtherMember ++ '\x7d' :: rest) =
      .ok (s', '\x7d' :: rest) := by
  induction h generalizing fuel with
  | nil =>
      cases fuel with
      | zero => exact absurd hfuel (Nat.lt_irrefl 0)
      | succ fuel => exact foldMembers_end false rest
  | @cons s next s' key v ms hread _ ih =>
      cases fuel with
      | zero => exact absurd hfuel (Nat.not_lt_zero _)
      | succ fuel =>
          have hkey : nextKey false (((key, v) :: ms).flatMap furtherMember ++ '\x7d' :: rest) =
              .ok (some (key.toList.flatMap escape ++ '"' :: ':' ::
                (v.chars ++ (ms.flatMap furtherMember ++ '\x7d' :: rest)))) := by
            simp [furtherMember, quote, nextKey, skipSpace, isSpace]
          rw [foldMembers_key hkey (hread _ (closes_furtherMembers ms rest))]
          exact ih (Nat.lt_of_succ_lt_succ hfuel)

theorem Takes.foldMembers (h : Takes member s ms s') (hfuel : ms.length < fuel)
    (rest : List Char) :
    Json.foldMembers true member fuel true s (memberChars ms ++ '\x7d' :: rest) =
      .ok (s', '\x7d' :: rest) := by
  cases fuel with
  | zero => exact absurd hfuel (Nat.not_lt_zero _)
  | succ fuel =>
      cases h with
      | nil => exact foldMembers_end true rest
      | @cons _ next _ key v ms hread hmore =>
          have hkey : nextKey true (memberChars ((key, v) :: ms) ++ '\x7d' :: rest) =
              .ok (some (key.toList.flatMap escape ++ '"' :: ':' ::
                (v.chars ++ (ms.flatMap furtherMember ++ '\x7d' :: rest)))) := by
            simp [memberChars_cons, quote, nextKey, skipSpace, isSpace]
          rw [foldMembers_key hkey (hread _ (closes_furtherMembers ms rest))]
          -- from here on every member has a comma before it
          exact hmore.foldMembers_further (Nat.lt_of_succ_lt_succ hfuel) rest

theorem skipSpace_obj (ms : List (String × Json)) (rest : List Char) :
    skipSpace ((Json.obj ms).chars ++ rest) = '\x7b' :: (memberChars ms ++ '\x7d' :: rest) := by
  simp [chars, skipSpace, isSpace]

/-- The length of the text is fuel enough. -/
theorem Takes.foldMembers_length (h : Takes member s ms s') (rest : List Char) :
    Json.foldMembers true member ((memberChars ms ++ '\x7d' :: rest).length + 1) true s
      (memberChars ms ++ '\x7d' :: rest) = .ok (s', '\x7d' :: rest) := by
  have hlength := length_le_memberChars ms
  apply h.foldMembers
  rw [List.length_append]
  omega

end Members

section Invariants

variable {σ : Type} {P : σ → Prop} {s s' : σ} {opened : Bool} {fuel : Nat} {cs rest : List Char}

/-- What every item keeps is kept by the items of an array. -/
theorem foldItems_invariant (item : σ → Reader σ)
    (hitem : ∀ s s' cs rest, P s → item s cs = .ok (s', rest) → P s') (hs : P s)
    (h : foldItems item fuel opened s cs = .ok (s', rest)) : P s' := by
  induction fuel generalizing opened s cs with
  | zero => cases h
  | succ fuel ih =>
      obtain ⟨next, -, h⟩ := bind_eq_ok_iff.mp h
      cases next with
      | none =>
          obtain ⟨rfl, -⟩ := Prod.mk.inj (Except.ok.inj h)
          exact hs
      | some cs =>
          obtain ⟨⟨t, after⟩, ht, h⟩ := bind_eq_ok_iff.mp h
          exact ih (hitem s t _ _ hs ht) h

theorem foldMembers_invariant {paired : Bool} (member : String → σ → Reader σ)
    (hmember : ∀ key s s' cs rest, P s → member key s cs = .ok (s', rest) → P s') (hs : P s)
    (h : foldMembers paired member fuel opened s cs = .ok (s', rest)) : P s' := by
  induction fuel generalizing opened s cs with
  | zero => cases h
  | succ fuel ih =>
      obtain ⟨next, -, h⟩ := bind_eq_ok_iff.mp h
      cases next with
      | none =>
          obtain ⟨rfl, -⟩ := Prod.mk.inj (Except.ok.inj h)
          exact hs
      | some cs =>
          obtain ⟨⟨key, after⟩, -, h⟩ := bind_eq_ok_iff.mp h
          obtain ⟨⟨t, after⟩, ht, h⟩ := bind_eq_ok_iff.mp h
          exact ih (hmember key s t _ _ hs ht) h

end Invariants

theorem require_eq_ok_iff {α : Type} {name : String} {o : Option α} {a : α} :
    require name o = .ok a ↔ o = some a := by
  cases o with
  | none => simp [require]
  | some b => simp [require]

namespace RecordForm

variable {σ α : Type} {form : RecordForm σ α} {depth : Nat}

/-- The members are fields that were not read before, and one after the other they take the record
from one state to the other. -/
inductive Fills (form : RecordForm σ α) (depth : Nat) : σ → List (String × Json) → σ → Prop
  | nil {s : σ} : Fills form depth s [] s
  | cons {s s' : σ} {key : String} {v : Json} {ms : List (String × Json)} {field : Field σ}
      {update : σ → σ} : form.field? key = some field → field.isSet s = false →
      Yields (field.decoder.read depth) v.chars update → Fills form depth (update s) ms s' →
      Fills form depth s ((key, v) :: ms) s'

theorem member_of_field {key : String} {s : σ} {field : Field σ} {update : σ → σ} {cs : List Char}
    (hfield : form.field? key = some field) (hset : field.isSet s = false)
    (hread : Yields (field.decoder.read depth) cs update) :
    Yields (form.member depth key s) (':' :: cs) (update s) := by
  intro rest hrest
  have hcolon : colon (':' :: (cs ++ rest)) = .ok (cs ++ rest) := rfl
  simp only [List.cons_append, member, hfield, hset, hcolon, bind, Except.bind, hread rest hrest]
  rfl

theorem ofMembers_of_field {key : String} {v : Json} {ms : List (String × Json)} {s : σ}
    {field : Field σ} {update : σ → σ} (hfield : form.field? key = some field)
    (hread : field.decoder.ofValue v = .ok update) :
    form.ofMembers s ((key, v) :: ms) = form.ofMembers (update s) ms := by
  simp only [ofMembers, hfield, hread]
  rfl

theorem Fills.takes {s s' : σ} {ms : List (String × Json)} (h : Fills form depth s ms s') :
    Takes (form.member depth) s ms s' := by
  induction h with
  | nil => exact .nil
  | cons hfield hset hread _ ih => exact .cons (member_of_field hfield hset hread) ih

/-- Members that fill a record are read as that record. -/
theorem Fills.yields {s : σ} {a : α} {ms : List (String × Json)}
    (h : Fills form depth form.start ms s) (hfinish : form.finish s = .ok a) :
    Yields (form.read (depth + 1)) (Json.obj ms).chars a := by
  intro rest _
  have hend : endMembers ('\x7d' :: rest) = .ok rest := rfl
  simp only [read, skipSpace_obj, h.takes.foldMembers_length, bind, Except.bind, complete, hfinish,
    Except.mapError, hend]
  rfl

section Invariants

variable {P : σ → Prop} {s s' : σ} {cs rest : List Char}

theorem member_invariant
    (hfield : ∀ field ∈ form.fields, ∀ s cs update rest, P s →
      field.decoder.read depth cs = .ok (update, rest) → P (update s))
    {key : String} (hs : P s) (h : form.member depth key s cs = .ok (s', rest)) : P s' := by
  unfold member at h
  split at h
  · next field hfound =>
      split_ifs at h
      obtain ⟨_, -, h⟩ := bind_eq_ok_iff.mp h
      obtain ⟨⟨update, _⟩, hread, h⟩ := bind_eq_ok_iff.mp h
      obtain ⟨rfl, -⟩ := Prod.mk.inj (Except.ok.inj h)
      exact hfield field (List.mem_of_find?_eq_some hfound) s _ update _ hs hread
  · obtain ⟨_, -, h⟩ := bind_eq_ok_iff.mp h
    obtain ⟨_, -, h⟩ := bind_eq_ok_iff.mp h
    obtain ⟨rfl, -⟩ := Prod.mk.inj (Except.ok.inj h)
    exact hs

theorem items_invariant {fields : List (Field σ)} {count : Nat}
    (hfield : ∀ field ∈ fields, ∀ s cs update rest, P s →
      field.decoder.read depth cs = .ok (update, rest) → P (update s))
    (hs : P s) (h : form.items depth fields count s cs = .ok (s', rest)) : P s' := by
  induction fields generalizing count s cs with
  | nil =>
      obtain ⟨rfl, -⟩ := Prod.mk.inj (Except.ok.inj h)
      exact hs
  | cons field fields ih =>
      obtain ⟨hthis, hothers⟩ := List.forall_mem_cons.mp hfield
      obtain ⟨next, -, h⟩ := bind_eq_ok_iff.mp h
      cases next with
      | none => cases h
      | some cs =>
          obtain ⟨⟨update, _⟩, hread, h⟩ := bind_eq_ok_iff.mp h
          exact ih hothers (hthis s _ update _ hs hread) h

/-- A record that was read was completed from a state with all that its fields keep. -/
theorem read_invariant {a : α} (hstart : P form.start)
    (hfield : ∀ field ∈ form.fields, ∀ s cs update rest, P s →
      field.decoder.read depth cs = .ok (update, rest) → P (update s))
    (h : form.read (depth + 1) cs = .ok (a, rest)) : ∃ s, P s ∧ form.finish s = .ok a := by
  unfold read at h
  split at h
  · next hdepth =>
      obtain rfl := Nat.succ.inj hdepth
      obtain ⟨⟨s, _⟩, hs, h⟩ := bind_eq_ok_iff.mp h
      obtain ⟨a', ha, h⟩ := bind_eq_ok_iff.mp h
      obtain ⟨_, -, h⟩ := bind_eq_ok_iff.mp h
      obtain ⟨rfl, -⟩ := Prod.mk.inj (Except.ok.inj h)
      exact ⟨s, foldMembers_invariant _ (fun _ _ _ _ _ => member_invariant hfield) hstart hs,
        mapError_eq_ok_iff.mp ha⟩
  · next hdepth =>
      obtain rfl := Nat.succ.inj hdepth
      obtain ⟨⟨s, _⟩, hs, h⟩ := bind_eq_ok_iff.mp h
      obtain ⟨a', ha, h⟩ := bind_eq_ok_iff.mp h
      obtain ⟨_, -, h⟩ := bind_eq_ok_iff.mp h
      obtain ⟨rfl, -⟩ := Prod.mk.inj (Except.ok.inj h)
      exact ⟨s, items_invariant hfield hstart hs, mapError_eq_ok_iff.mp ha⟩
  · cases h
  · cases h
  · exact absurd h wrongKind_ne_ok

end Invariants

end RecordForm

end Monthwise.Json
