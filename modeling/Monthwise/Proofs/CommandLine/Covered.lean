import Monthwise.Proofs.CommandLine.ReadBack
import Monthwise.Proofs.Coverage.Complement

/-! # What is said of coverage

Whether a target is covered is found out twice: by reducing the candidates, and by
looking for gaps and for candidates that reach outside. The two ways agree, so the
answer that the program prints and the gaps that it lists below never contradict each
other.
-/

namespace Monthwise

namespace Command

/-- The line lists a gap. -/
def IsGapLine (line : String) : Prop := ∃ text, line = "gap=" ++ text

variable {target : Period} {ps : List Period}

theorem not_isGapLine_covered (answer : Bool) : ¬ IsGapLine s!"covered={answer}" := by
  rintro ⟨text, htext⟩
  have hchars := congrArg String.toList htext
  rw [String.toList_append, String.toList_append] at hchars
  have hfirst : 'c' = 'g' := (List.cons.inj hchars).1
  exact absurd hfirst (by decide)

theorem covered_inj {a b : Bool} : s!"covered={a}" = s!"covered={b}" ↔ a = b := by
  revert a b
  decide

theorem covered_mem_lines_iff {answer : Bool} :
    s!"covered={answer}" ∈ (covered target ps).lines ↔
      Coverage.fullyCoveredBy target ps = answer := by
  have hgap : s!"covered={answer}" ∉
      (Coverage.gaps target ps).map fun gap => s!"gap={gap}" := by
    rw [List.mem_map]
    rintro ⟨gap, -, hgap⟩
    exact not_isGapLine_covered answer ⟨toString gap, hgap.symm⟩
  rw [lines, List.mem_cons, or_iff_left hgap, covered_inj, eq_comm]

theorem exists_isGapLine_iff :
    (∃ line ∈ (covered target ps).lines, IsGapLine line) ↔ Coverage.gaps target ps ≠ [] := by
  rw [lines, List.exists_mem_cons_iff, or_iff_right (not_isGapLine_covered _)]
  constructor
  · rintro ⟨line, hline, -⟩ hnil
    rw [hnil] at hline
    cases hline
  · intro hne
    obtain ⟨gap, hgap⟩ := List.exists_mem_of_ne_nil _ hne
    exact ⟨_, List.mem_map_of_mem hgap, toString gap, rfl⟩

end Command

namespace CommandLine

open Command (IsGapLine)

end CommandLine

end Monthwise
