import Mathlib.Data.List.TakeWhile
import Monthwise.Period.Wire
import Monthwise.Proofs.Json.Records

/-! # Records of two days, with blanks

Between the parts of a JSON text there may be blanks. A period is read from a record of two
strings as the two strings say, wherever the blanks stand, and the first string that is no
date is the one that is refused.
-/

namespace Monthwise

namespace Json

section Blanks

variable {blanks : List Char} {c : Char}

theorem skipSpace_append (hblanks : ∀ c ∈ blanks, isSpace c) (hc : isSpace c = false)
    (rest : List Char) : skipSpace (blanks ++ c :: rest) = c :: rest := by
  rw [skipSpace, List.dropWhile_append_of_pos hblanks, List.dropWhile_cons_of_neg (by simp [hc])]

theorem skipSpace_of_forall (hblanks : ∀ c ∈ blanks, isSpace c) : skipSpace blanks = [] :=
  List.dropWhile_eq_nil_iff.mpr hblanks

theorem skipSpace_quote (hblanks : ∀ c ∈ blanks, isSpace c) (s : String) (rest : List Char) :
    skipSpace (blanks ++ (quote s ++ rest)) = '"' :: (s.toList.flatMap escape ++ '"' :: rest) := by
  have hquote : quote s ++ rest = '"' :: (s.toList.flatMap escape ++ '"' :: rest) := by
    simp [quote]
  rw [hquote, skipSpace_append hblanks (by decide)]

theorem colon_append (hblanks : ∀ c ∈ blanks, isSpace c) (rest : List Char) :
    colon (blanks ++ ':' :: rest) = .ok rest := by
  rw [colon, skipSpace_append hblanks (by decide)]
  rfl

theorem endMembers_append (hblanks : ∀ c ∈ blanks, isSpace c) (rest : List Char) :
    endMembers (blanks ++ '\x7d' :: rest) = .ok rest := by
  rw [endMembers, skipSpace_append hblanks (by decide)]
  rfl

/-- Nothing is to be read any more where the closing brace is near. -/
theorem nextKey_end (hblanks : ∀ c ∈ blanks, isSpace c) (opened : Bool) (rest : List Char) :
    nextKey opened (blanks ++ '\x7d' :: rest) = .ok none := by
  rw [nextKey, skipSpace_append hblanks (by decide)]
  rfl

theorem nextKey_opened (hblanks : ∀ c ∈ blanks, isSpace c) (key : String) (rest : List Char) :
    nextKey true (blanks ++ (quote key ++ rest)) =
      .ok (some (key.toList.flatMap escape ++ '"' :: rest)) := by
  rw [nextKey, skipSpace_quote hblanks]
  rfl

theorem nextKey_further {blanks' : List Char} (hblanks : ∀ c ∈ blanks, isSpace c)
    (hblanks' : ∀ c ∈ blanks', isSpace c) (key : String) (rest : List Char) :
    nextKey false (blanks ++ ',' :: (blanks' ++ (quote key ++ rest))) =
      .ok (some (key.toList.flatMap escape ++ '"' :: rest)) := by
  have hcomma := skipSpace_append hblanks (show isSpace ',' = false by decide)
  simp [nextKey, hcomma, skipSpace_quote hblanks']

/-- A string is read up to its closing quote, and then what it says is judged. -/
theorem Decoder.read_text {α : Type} {expected : String} {parse : String → Except String α}
    (hblanks : ∀ c ∈ blanks, isSpace c) (depth : Nat) (s : String) (rest : List Char) :
    (Decoder.text expected parse).read depth (blanks ++ (quote s ++ rest)) =
      (((Decoder.text expected parse).ofValue (.str s)).mapError Fault.mismatch).map (·, rest) := by
  simp only [Decoder.text, Json.text, skipSpace_quote hblanks, stringRest_escape, bind, Except.bind]
  cases parse s <;> rfl

end Blanks

theorem foldMembers_of_end {σ : Type} {member : String → σ → Reader σ} {opened : Bool}
    {cs : List Char} (hend : nextKey opened cs = .ok none) (fuel : Nat) (s : σ) :
    foldMembers true member (fuel + 1) opened s cs = .ok (s, cs) := by
  simp only [foldMembers, hend, bind, Except.bind]
  rfl

theorem foldMembers_bind {σ : Type} {member : String → σ → Reader σ} {fuel : Nat} {s : σ}
    {opened : Bool} {key : String} {cs after : List Char}
    (hkey : nextKey opened cs = .ok (some (key.toList.flatMap escape ++ '"' :: after))) :
    foldMembers true member (fuel + 1) opened s cs =
      (member key s after >>= fun (s, rest) => foldMembers true member fuel false s rest) := by
  simp only [foldMembers, hkey, bind, Except.bind, stringRest_escape]

theorem RecordForm.read_append {σ α : Type} {form : RecordForm σ α} {blanks : List Char}
    (hblanks : ∀ c ∈ blanks, isSpace c) (depth : Nat) (rest : List Char) :
    form.read (depth + 1) (blanks ++ '\x7b' :: rest) =
      (foldMembers true (form.member depth) (rest.length + 1) true form.start rest >>=
        fun (s, rest) => form.complete s >>= fun a => (endMembers rest).map (a, ·)) := by
  have hbrace := skipSpace_append hblanks (show isSpace '\x7b' = false by decide)
  simp only [read, hbrace]
  rfl

end Json

namespace Period

/-- A member of a record, its key and its value strings, with blanks around both. -/
def spacedMember (gap : Nat → List Char) (key value : String) : List Char :=
  gap 0 ++ (Json.quote key ++ (gap 1 ++ ':' :: (gap 2 ++ (Json.quote value ++ gap 3))))

/-- A record of the two strings, with blanks wherever there can be any. -/
def spacedRecord (gap : Nat → List Char) (start stop : String) : List Char :=
  gap 0 ++ '\x7b' :: (spacedMember (gap <| · + 1) startField start ++
    ',' :: (spacedMember (gap <| · + 5) stopField stop ++ '\x7d' :: gap 9))

/-- What the two strings of a record say. -/
def ofStrings (start stop : String) : Except Json.Mismatch Period := do
  let start ← Date.decoder.ofValue (.str start)
  let stop ← Date.decoder.ofValue (.str stop)
  (ofDates start stop).mapError fun e => .rejected e.message

section Spaced

variable {gap : Nat → List Char} {depth : Nat}

theorem member_spaced {key : String} {field : Json.Field (Option Date × Option Date)}
    (hgap : ∀ n, ∀ c ∈ gap n, Json.isSpace c) (hfield : endsForm.field? key = some field)
    (s : Option Date × Option Date) (hset : field.isSet s = false)
    (set : Date → Option Date × Option Date → Option Date × Option Date)
    (hdecoder : field.decoder = Date.decoder.map set) (value : String) (rest : List Char) :
    endsForm.member depth key s (gap 1 ++ ':' :: (gap 2 ++ (Json.quote value ++ rest))) =
      ((Date.decoder.ofValue (.str value)).mapError .mismatch).map fun d => (set d s, rest) := by
  have hread : Date.decoder.read depth (gap 2 ++ (Json.quote value ++ rest)) =
      ((Date.decoder.ofValue (.str value)).mapError .mismatch).map (·, rest) :=
    Json.Decoder.read_text (hgap 2) depth value rest
  simp only [Json.RecordForm.member, hfield, hset, hdecoder, Json.colon_append (hgap 1),
    Json.Decoder.map, hread, bind, Except.bind]
  cases Date.decoder.ofValue (.str value) <;> rfl

theorem member_start (hgap : ∀ n, ∀ c ∈ gap n, Json.isSpace c) (value : String)
    (rest : List Char) :
    endsForm.member depth startField endsForm.start
      (gap 1 ++ ':' :: (gap 2 ++ (Json.quote value ++ rest))) =
        ((Date.decoder.ofValue (.str value)).mapError .mismatch).map fun d =>
          ((some d, none), rest) :=
  member_spaced hgap rfl (none, none) rfl (fun d s => (some d, s.2)) rfl value rest

theorem member_stop (hgap : ∀ n, ∀ c ∈ gap n, Json.isSpace c) (first : Date) (value : String)
    (rest : List Char) :
    endsForm.member depth stopField (some first, none)
      (gap 1 ++ ':' :: (gap 2 ++ (Json.quote value ++ rest))) =
        ((Date.decoder.ofValue (.str value)).mapError .mismatch).map fun d =>
          ((some first, some d), rest) :=
  member_spaced hgap rfl (some first, none) rfl (fun d s => (s.1, some d)) rfl value rest

/-- The two strings are judged one after the other. -/
theorem read_spacedRecord (hgap : ∀ n, ∀ c ∈ gap n, Json.isSpace c) (start stop : String) :
    endsForm.read (depth + 1) (spacedRecord gap start stop) =
      ((Date.decoder.ofValue (.str start)).mapError .mismatch >>= fun first =>
        ((Date.decoder.ofValue (.str stop)).mapError .mismatch).map fun last =>
          ((first, last), gap 9)) := by
  rw [spacedRecord, Json.RecordForm.read_append (hgap 0)]
  -- two members are read, and a third time it turns out that there is none
  generalize hfuel : List.length _ = fuel
  obtain ⟨fuel, rfl⟩ : ∃ k, fuel = k + 2 := by
    refine Nat.exists_eq_add_of_le' ?_
    rw [← hfuel]
    simp only [spacedMember, Json.quote, List.length_append, List.length_cons]
    omega
  simp only [spacedMember, List.append_assoc, List.cons_append]
  rw [Json.foldMembers_bind (Json.nextKey_opened (hgap 1) startField _),
    member_start (fun n => hgap (n + 1)) start]
  cases Date.decoder.ofValue (.str start) with
  | error e => rfl
  | ok first =>
      simp only [Except.mapError, Except.map, bind, Except.bind]
      rw [Json.foldMembers_bind (Json.nextKey_further (hgap 4) (hgap 5) stopField _),
        member_stop (fun n => hgap (n + 5)) first stop]
      cases Date.decoder.ofValue (.str stop) with
      | error e => rfl
      | ok last =>
          simp only [Except.mapError, Except.map, bind, Except.bind,
            Json.foldMembers_of_end (Json.nextKey_end (hgap 8) false (gap 9)),
            Json.endMembers_append (hgap 8)]
          rfl

end Spaced

variable {gap : Nat → List Char}

/-- A text with the record says what its two strings say. -/
theorem ofJson_spacedRecord (hgap : ∀ n, ∀ c ∈ gap n, Json.isSpace c) (start stop : String) :
    ofJson (String.ofList (spacedRecord gap start stop)) =
      (ofStrings start stop).mapError .mismatch := by
  have hrecord : endsForm.decoder.read Json.maxDepth (spacedRecord gap start stop) = _ :=
    read_spacedRecord hgap start stop
  have hend : Json.skipSpace (gap 9) = [] := Json.skipSpace_of_forall (hgap 9)
  simp only [ofJson, Json.Decoder.ofText, Json.readAll, String.toList_ofList, decoder,
    Json.Decoder.refine, hrecord, ofStrings, bind, Except.bind]
  cases Date.decoder.ofValue (.str start) with
  | error e => rfl
  | ok first =>
      cases Date.decoder.ofValue (.str stop) with
      | error e => rfl
      | ok last =>
          simp only [Except.mapError, Except.map]
          cases ofDates first last with
          | error e => rfl
          | ok p => simp only [hend, pure, Except.pure]

/-- So does the record as a value. -/
theorem ofValue_record (start stop : String) :
    decoder.ofValue (.obj [(startField, .str start), (stopField, .str stop)]) =
      ofStrings start stop := by
  have hstart : endsForm.field? startField = some _ := rfl
  have hstop : endsForm.field? stopField = some _ := rfl
  simp only [decoder, Json.Decoder.refine, Json.RecordForm.decoder, Json.RecordForm.ofValue,
    Json.RecordForm.ofMembers, hstart, hstop, Json.Decoder.map, ofStrings, bind, Except.bind]
  cases Date.decoder.ofValue (.str start) with
  | error e => rfl
  | ok first =>
      cases Date.decoder.ofValue (.str stop) with
      | error e => rfl
      | ok last =>
          change ((ofDates first last).mapError (·.message)).mapError _ =
            (ofDates first last).mapError _
          cases ofDates first last <;> rfl

end Period

end Monthwise
