import Mathlib.Tactic.SplitIfs
import Monthwise.Json.Decoder

/-! # Strings come back

A string is written with escapes where JSON asks for them. Whatever its characters
are, the reader finds them again and stops right behind the closing quote.
-/

namespace Monthwise.Json

section Escapes

theorem hexValue?_hexDigit {n : Nat} (h : n < 16) : hexValue? (hexDigit n) = some n := by
  have each : ∀ k < 16, hexValue? (hexDigit k) = some k := by decide
  exact each n h

theorem utf8Size_hexDigit {n : Nat} (h : n < 16) : (hexDigit n).utf8Size = 1 := by
  have each : ∀ k < 16, (hexDigit k).utf8Size = 1 := by decide
  exact each n h

theorem hex4_hexDigits {a b c d : Nat} (ha : a < 16) (hb : b < 16) (hc : c < 16) (hd : d < 16)
    (rest : List Char) :
    hex4 (hexDigit a :: hexDigit b :: hexDigit c :: hexDigit d :: rest) =
      .ok (((a * 16 + b) * 16 + c) * 16 + d) := by
  have htake : (hexDigit a :: hexDigit b :: hexDigit c :: hexDigit d :: rest).take 4 =
      [hexDigit a, hexDigit b, hexDigit c, hexDigit d] := rfl
  have hlength : utf8Length [hexDigit a, hexDigit b, hexDigit c, hexDigit d] = 4 := by
    simp only [utf8Length, utf8Size_hexDigit, ha, hb, hc, hd]
  have hvalues : [hexDigit a, hexDigit b, hexDigit c, hexDigit d].mapM hexValue? =
      some [a, b, c, d] := by
    simp [hexValue?_hexDigit, ha, hb, hc, hd]
  rw [hex4, htake, hlength, if_neg (Nat.lt_irrefl 4), hvalues]

variable (paired : Bool)

theorem unescape_control {c : Char} (hc : c.toNat < 0x20) (rest : List Char) :
    unescape paired ('u' :: '0' :: '0' :: hexDigit (c.toNat / 16) :: hexDigit (c.toNat % 16) ::
      rest) = .ok (c, 5) := by
  have hhex : hex4 ('0' :: '0' :: hexDigit (c.toNat / 16) :: hexDigit (c.toNat % 16) :: rest) =
      .ok c.toNat := by
    have hdigits := hex4_hexDigits (show 0 < 16 by omega) (show 0 < 16 by omega)
      (show c.toNat / 16 < 16 by omega) (Nat.mod_lt c.toNat (show 16 > 0 by omega)) rest
    rwa [show ((0 * 16 + 0) * 16 + c.toNat / 16) * 16 + c.toNat % 16 = c.toNat by omega] at hdigits
  have hlow : c.toNat < 0xD800 ∨ 0xDFFF < c.toNat := .inl (by omega)
  simp only [unescape, unicodeEscape, hhex, bind, Except.bind, hlow, ↓reduceIte, Char.ofNat_toNat]
  rfl

/-- The characters that are escaped by one other character each. -/
def pairEscaped : List Char := ['"', '\\', '\x08', '\t', '\n', '\x0c', '\r']

theorem unescape_of_mem_pairEscaped {c : Char} (hc : c ∈ pairEscaped) :
    ∃ code, escape c = ['\\', code] ∧ ∀ rest, unescape paired (code :: rest) = .ok (c, 1) := by
  simp only [pairEscaped, List.mem_cons, List.not_mem_nil, or_false] at hc
  rcases hc with rfl | rfl | rfl | rfl | rfl | rfl | rfl
  all_goals exact ⟨_, rfl, fun _ => rfl⟩

/-- A character stands for itself, or its escape stands for it. -/
theorem escape_cases (c : Char) :
    (escape c = [c] ∧ c ≠ '"' ∧ c ≠ '\\' ∧ 0x20 ≤ c.toNat) ∨
    ∃ code, escape c = '\\' :: code ∧
      ∀ rest, unescape paired (code ++ rest) = .ok (c, code.length) := by
  by_cases hpair : c ∈ pairEscaped
  · obtain ⟨code, hescape, hcode⟩ := unescape_of_mem_pairEscaped paired hpair
    exact .inr ⟨[code], hescape, hcode⟩
  · simp only [pairEscaped, List.mem_cons, List.not_mem_nil, or_false, not_or] at hpair
    by_cases hcontrol : c.toNat < 0x20
    · refine .inr ⟨['u', '0', '0', hexDigit (c.toNat / 16), hexDigit (c.toNat % 16)], ?_,
        unescape_control paired hcontrol⟩
      simp only [escape, hpair, hcontrol, ↓reduceIte]
    · refine .inl ⟨?_, hpair.1, hpair.2.1, Nat.not_lt.mp hcontrol⟩
      simp only [escape, hpair, hcontrol, ↓reduceIte]

end Escapes

section Bodies

variable (paired : Bool) (rest : List Char)

theorem stringBody_quote : stringBody paired ('"' :: rest) = .ok ([], rest) := by
  rw [stringBody]

theorem stringBody_plain {c : Char} {cs body rest : List Char}
    (hquote : c ≠ '"') (hslash : c ≠ '\\') (hcontrol : 0x20 ≤ c.toNat)
    (h : stringBody paired cs = .ok (body, rest)) :
    stringBody paired (c :: cs) = .ok (c :: body, rest) := by
  rw [stringBody, if_neg (Nat.not_lt.mpr hcontrol), h]
  · rfl
  · exact hquote
  · exact hslash

theorem stringBody_escaped {c : Char} {code cs body rest : List Char}
    (hcode : unescape paired (code ++ cs) = .ok (c, code.length))
    (h : stringBody paired cs = .ok (body, rest)) :
    stringBody paired ('\\' :: (code ++ cs)) = .ok (c :: body, rest) := by
  rw [stringBody, hcode]
  simp only [bind, Except.bind, List.drop_left, h]
  rfl

theorem stringBody_flatMap_escape (cs rest : List Char) :
    stringBody paired (cs.flatMap escape ++ '"' :: rest) = .ok (cs, rest) := by
  induction cs with
  | nil => exact stringBody_quote paired rest
  | cons c cs ih =>
      rw [List.flatMap_cons, List.append_assoc]
      rcases escape_cases paired c with ⟨hescape, hquote, hslash, hcontrol⟩ | ⟨code, hescape, hcode⟩
      · rw [hescape]
        exact stringBody_plain paired hquote hslash hcontrol ih
      · rw [hescape]
        exact stringBody_escaped paired (hcode _) ih

end Bodies

theorem stringRest_escape (paired : Bool) (s : String) (rest : List Char) :
    stringRest paired (s.toList.flatMap escape ++ '"' :: rest) = .ok (s, rest) := by
  rw [stringRest, stringBody_flatMap_escape]
  simp [bind, Except.bind, pure, Except.pure]

end Monthwise.Json
