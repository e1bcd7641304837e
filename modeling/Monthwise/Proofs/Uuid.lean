import Mathlib
import Monthwise.Proofs.Json.Strings
import Monthwise.Uuid

/-! # Identifiers come back

An identifier is written in one of the four forms that are read, so that it is found
again whatever form it was read from.
-/

namespace Monthwise.Uuid

section Digits

@[simp]
theorem length_hexDigits (places n : Nat) : (hexDigits places n).length = places := by
  induction places generalizing n with
  | zero => rfl
  | succ places ih => simp [hexDigits, ih]

theorem exists_of_mem_hexDigits {places n : Nat} {c : Char} (hc : c ∈ hexDigits places n) :
    ∃ k < 16, c = Json.hexDigit k := by
  induction places generalizing n with
  | zero => cases hc
  | succ places ih =>
      rw [hexDigits, List.mem_append, List.mem_singleton] at hc
      rcases hc with hfront | rfl
      · exact ih hfront
      · exact ⟨n % 16, Nat.mod_lt n (by decide), rfl⟩

/-- The digits have values, and put together these are the number again. -/
theorem mapM_hexValue?_hexDigits {places n : Nat} (hn : n < 16 ^ places) :
    ∃ ns, (hexDigits places n).mapM Json.hexValue? = some ns ∧ ns.length = places ∧
      ns.foldl (fun n d => 16 * n + d) 0 = n := by
  induction places generalizing n with
  | zero =>
      obtain rfl : n = 0 := Nat.lt_one_iff.mp hn
      exact ⟨[], rfl, rfl, rfl⟩
  | succ places ih =>
      have hfront : n / 16 < 16 ^ places := by
        rw [Nat.pow_succ] at hn
        omega
      obtain ⟨ns, hns, hlength, hvalue⟩ := ih hfront
      have hlast := Json.hexValue?_hexDigit (Nat.mod_lt n (show 16 > 0 by decide))
      refine ⟨ns ++ [n % 16], ?_, ?_, ?_⟩
      · rw [hexDigits, List.mapM_append, hns]
        simp [hlast]
      · rw [List.length_append, hlength]
        rfl
      · rw [List.foldl_append, hvalue]
        simp only [List.foldl_cons, List.foldl_nil]
        omega

theorem ofHex?_hexDigits (u : Uuid) : ofHex? (hexDigits 32 u.value) = some u := by
  have hlt : u.value < 16 ^ 32 := u.value_lt
  obtain ⟨ns, hns, hlength, hvalue⟩ := mapM_hexValue?_hexDigits hlt
  simp only [ofHex?, hns, Option.bind_eq_bind, Option.bind_some, hvalue, hlength, u.value_lt,
    and_self, ↓reduceDIte]

end Digits

section Groups

/-- The digits are taken out of the groups that they were split into. -/
theorem unhyphenate?_hyphenate {lengths : List Nat} (hne : lengths ≠ []) {ds : List Char}
    (hlength : ds.length = lengths.sum) :
    unhyphenate? lengths (hyphenate lengths ds) = some ds := by
  induction lengths generalizing ds with
  | nil => exact absurd rfl hne
  | cons n rest ih =>
      cases rest with
      | nil =>
          have hn : ds.length = n := by simpa using hlength
          rw [hyphenate, List.take_of_length_le (Nat.le_of_eq hn), unhyphenate?, if_pos hn]
      | cons m rest =>
          rw [List.sum_cons] at hlength
          have htake : (ds.take n).length = n := by
            rw [List.length_take]
            omega
          have hrest : unhyphenate? (m :: rest) (hyphenate (m :: rest) (ds.drop n)) =
              some (ds.drop n) := by
            apply ih (List.cons_ne_nil m rest)
            rw [List.length_drop]
            omega
          rw [hyphenate, unhyphenate?, List.drop_left' htake, List.take_left' htake]
          · simp only [hrest, Option.map_some, List.take_append_drop]
          · simp
          · simp

end Groups

variable (u : Uuid)

theorem length_chars : u.chars.length = 36 := by
  simp [chars, groupLengths, hyphenate]

theorem head_chars : ∃ k < 16, ∃ rest, u.chars = Json.hexDigit k :: rest := by
  cases hdigits : hexDigits 32 u.value with
  | nil =>
      have hlength := length_hexDigits 32 u.value
      rw [hdigits] at hlength
      cases hlength
  | cons c ds =>
      obtain ⟨k, hk, rfl⟩ := exists_of_mem_hexDigits (hdigits ▸ List.mem_cons_self)
      refine ⟨k, hk, u.chars.tail, ?_⟩
      rw [chars, hdigits]
      rfl

/-- What is written has nothing around it: neither an opening brace nor the mark of a URN begins
with a hexadecimal digit. -/
theorem unwrap?_chars : unwrap? u.chars = none := by
  have hbegin : ∀ k < 16, Json.hexDigit k ≠ '\x7b' ∧ (Json.hexDigit k).toLower ≠ 'u' := by decide
  obtain ⟨k, hk, rest, hchars⟩ := u.head_chars
  obtain ⟨hbrace, hletter⟩ := hbegin k hk
  have hmark : hasUrnMark (Json.hexDigit k :: rest) = false := by
    have htake : urnMark = 'u' :: urnMark.tail := rfl
    rw [hasUrnMark, htake, List.length_cons, List.take_succ_cons, List.map_cons,
      List.isPrefixOf_cons_cons]
    simp [Ne.symm hletter]
  rw [hchars, unwrap?]
  · rw [hmark]
    rfl
  · exact fun _ heq => hbrace (List.cons.inj heq).1

/-- Every identifier is read back from its own text. -/
theorem ofChars_chars : ofChars u.chars = .ok u := by
  have hgroups : unhyphenate? groupLengths u.chars = some (hexDigits 32 u.value) :=
    unhyphenate?_hyphenate (by decide) (length_hexDigits 32 u.value)
  have hlength : u.chars.length ≠ 32 := by
    rw [length_chars]
    decide
  simp only [ofChars, unwrap?_chars, hlength, ↓reduceIte, hgroups, Option.bind_some,
    ofHex?_hexDigits]

end Monthwise.Uuid
