import Monthwise.Journal.Event
import Monthwise.Proofs.ByDays.Calls
import Monthwise.Proofs.Period.Ends
import Monthwise.Proofs.Period.WrittenText

/-! # Texts of abandoned computations

A journal keeps the text of an abandoned computation on one line, and of a long text only
the beginning. The texts of refused creations and of impossible shifts are short enough to
be kept as they are, as neither a date nor a number in them is ever long.
-/

namespace Monthwise

namespace Decimal

theorem length_digits_le {places n : Nat} (h : n < Nat.pow 10 (places + 1)) :
    (digits n).length ≤ places + 1 := by
  induction places generalizing n with
  | zero =>
      rw [digits, if_pos h]
      rfl
  | succ places ih =>
      have hlt : n < Nat.pow 10 (places + 1) * 10 := h
      unfold digits
      split_ifs with hsmall
      · simp
      · have hfront := ih (n := n / 10) (by omega)
        rw [List.length_append, List.length_singleton]
        omega

theorem length_atLeast_le {least places n : Nat} (hleast : least ≤ places + 1)
    (h : n < Nat.pow 10 (places + 1)) : (atLeast least n).length ≤ places + 1 := by
  unfold atLeast
  split_ifs
  · rwa [length_fixed]
  · exact length_digits_le h

end Decimal

/-- At most so many characters, and none of them ends a line. -/
structure Text.FitsOneLine (limit : Nat) (cs : List Char) : Prop where
  length : cs.length ≤ limit
  oneLine : ∀ c ∈ cs, c ≠ '\n' ∧ c ≠ '\r'

namespace Text.FitsOneLine

variable {m n : Nat} {cs ds : List Char}

-- the test goes through the text: for all characters there are it could not be made
instance : Decidable (FitsOneLine n cs) :=
  decidable_of_iff (cs.length ≤ n ∧ cs.all fun c => c ≠ '\n' ∧ c ≠ '\r')
    ⟨fun h => ⟨h.1, fun c hc => of_decide_eq_true (List.all_eq_true.mp h.2 c hc)⟩,
      fun h => ⟨h.length, List.all_eq_true.mpr fun c hc => decide_eq_true (h.oneLine c hc)⟩⟩

theorem append (hcs : FitsOneLine m cs) (hds : FitsOneLine n ds) :
    FitsOneLine (m + n) (cs ++ ds) where
  length := by
    rw [List.length_append]
    exact Nat.add_le_add hcs.length hds.length
  oneLine := List.forall_mem_append.mpr ⟨hcs.oneLine, hds.oneLine⟩

theorem mono (hcs : FitsOneLine m cs) (hmn : m ≤ n) : FitsOneLine n cs :=
  ⟨hcs.length.trans hmn, hcs.oneLine⟩

theorem of_not_blank (hlength : cs.length ≤ n) (hcs : ∀ c ∈ cs, isBlank c = false) :
    FitsOneLine n cs where
  length := hlength
  oneLine c hc := by
    constructor <;> rintro rfl <;> exact absurd (hcs _ hc) (by decide)

theorem text {k : Nat} (hk : k < Nat.pow 10 (n + 1)) :
    FitsOneLine (n + 1) (Decimal.text k).toList := by
  rw [Decimal.text, String.toList_ofList]
  exact of_not_blank (Decimal.length_digits_le hk) fun _ hc =>
    isBlank_of_isDigit (Decimal.isDigit_of_mem_digits hc)

theorem signedText {k : Int} (hk : k.natAbs < Nat.pow 10 (n + 1)) :
    FitsOneLine (1 + (n + 1)) (Decimal.signedText k).toList := by
  have hdigits : FitsOneLine (n + 1) (Decimal.digits k.natAbs) := by
    simpa [Decimal.text] using text hk
  have hsign : FitsOneLine 1 ['-'] := by decide
  rw [Decimal.signedText, String.toList_ofList, Decimal.signed]
  split_ifs
  · exact hsign.append hdigits
  · exact hdigits.mono (by omega)

/-- The year of a date takes at most a sign and six digits. -/
theorem date (d : Date) : FitsOneLine 13 (toString d).toList := by
  have hchars : (toString d).toList = d.chars := String.toList_ofList
  rw [hchars]
  refine of_not_blank ?_ fun c => d.not_isBlank_of_mem_chars
  have hyear : (Calendar.yearChars d.year).length ≤ 7 := by
    have hmem := d.year_mem
    have habs : d.year.natAbs < Nat.pow 10 6 := by
      unfold Calendar.firstYear Calendar.lastYear at hmem
      change d.year.natAbs < 1000000
      omega
    have hsigned := Decimal.length_atLeast_le (show 4 ≤ 6 by decide) habs
    unfold Calendar.yearChars
    split_ifs
    · rw [Decimal.length_fixed]
      decide
    all_goals
      rw [List.length_cons]
      omega
  simp only [Date.chars, List.length_append, List.length_cons, Decimal.length_fixed]
  omega

theorem period (p : Period) : FitsOneLine 28 (toString p).toList := by
  have hdates : (toString p).toList =
      (toString p.start).toList ++ ("..".toList ++ (toString p.stop).toList) := by
    rw [p.toList_toString]
    simp [toString]
  have hdots : FitsOneLine 2 "..".toList := by decide
  rw [hdates]
  exact ((date p.start).append (hdots.append (date p.stop))).mono (by decide)

end Text.FitsOneLine

open Text (FitsOneLine)

section Messages

/-- A number of months of up to seven digits leaves the message of an error short. -/
theorem PeriodError.fits_message {e : PeriodError}
    (h : ∀ months, e = .tooManyMonths months → months < Nat.pow 10 7) :
    FitsOneLine 51 e.message.toList := by
  cases e with
  | tooManyMonths months =>
      have hspans : FitsOneLine 13 "period spans ".toList := by decide
      have hmonths : FitsOneLine 9 " months; ".toList := by decide
      have hmost : FitsOneLine 8 "at most ".toList := by decide
      have hallowed : FitsOneLine 12 " are allowed".toList := by decide
      have hlimit : FitsOneLine 2 (Decimal.text Period.maxMonths).toList := .text (by decide)
      simp only [message, String.toList_append]
      exact ((hspans.append (.text (h months rfl))).append hmonths).append
        ((hmost.append hlimit).append hallowed) |>.mono (by decide)
  | _ => decide

/-- The calendar has not ten million months. -/
theorem Period.months_lt_of_create {start stop : Date} {months : Nat}
    (h : create start stop = .error (.tooManyMonths months)) : months < Nat.pow 10 7 := by
  obtain ⟨i, j, hstart, hstop, hmonths, -⟩ := create_eq_tooManyMonths_iff.mp h
  have hi := Calendar.hasMonth_iff.mp hstart.hasMonth
  have hj := Calendar.hasMonth_iff.mp hstop.hasMonth
  change months < 10000000
  omega

variable {abort : Abort}

theorem fits_createOrAbort {start stop : Date}
    (h : Period.createOrAbort start stop = .error abort) :
    FitsOneLine Event.maxTextLength (Event.abortText abort).toList := by
  obtain ⟨e, he, rfl⟩ := ByDays.createOrAbort_eq_error_iff.mp h
  have hmark : FitsOneLine 14 Period.createMark.toList := by decide
  have hblank : FitsOneLine 1 " ".toList := by decide
  have hdots : FitsOneLine 2 "..".toList := by decide
  have hcolon : FitsOneLine 2 ": ".toList := by decide
  have hcause : FitsOneLine 51 e.message.toList :=
    PeriodError.fits_message fun months hmonths => Period.months_lt_of_create (hmonths ▸ he)
  simp only [Event.abortText, Abort.message?, Option.getD_some, String.toList_append]
  exact (((((hmark.append hblank).append (.date start)).append hdots).append (.date stop)).append
    hcolon).append hcause |>.mono (by decide)

theorem fits_shiftOrAbort {p : Period} {months : Int} (hmonths : Word.signed32.Holds months)
    (h : p.shiftOrAbort months = .error abort) :
    FitsOneLine Event.maxTextLength (Event.abortText abort).toList := by
  obtain ⟨-, rfl⟩ := ByDays.shiftOrAbort_eq_error_iff.mp h
  have hshifting : FitsOneLine 9 "shifting ".toList := by decide
  have hby : FitsOneLine 4 " by ".toList := by decide
  have hunit : FitsOneLine 8 " months ".toList := by decide
  have hmark : FitsOneLine 19 Period.shiftMark.toList := by decide
  have hten : months.natAbs < Nat.pow 10 10 := by
    rw [Word.holds_signed32] at hmonths
    change months.natAbs < 10000000000
    omega
  simp only [Event.abortText, Abort.message?, Option.getD_some, String.toList_append]
  exact ((((hshifting.append (.period p)).append hby).append (.signedText hten)).append
    hunit).append hmark |>.mono (by decide)

end Messages

namespace Event

variable {limit : Nat} {cs : List Char}

/-- What stands on a line for a character: line ends become blanks. -/
def onLine (c : Char) : Char := if c = '\n' ∨ c = '\r' then ' ' else c

theorem flatten_eq (limit : Nat) (cs : List Char) : flatten limit cs =
    if cs.length ≤ limit then cs.map onLine else (cs.take limit).map onLine ++ "...".toList := by
  unfold flatten
  split_ifs with hlong hfits hfits
  · omega
  · rfl
  · rw [List.take_of_length_le hfits, List.append_nil]
    rfl
  · omega

/-- A text that fits is kept as it is. -/
theorem flatten_of_fits (h : FitsOneLine limit cs) : flatten limit cs = cs := by
  have hsame : ∀ c ∈ cs, onLine c = id c := by
    intro c hc
    obtain ⟨hfeed, hreturn⟩ := h.oneLine c hc
    exact if_neg (not_or.mpr ⟨hfeed, hreturn⟩)
  rw [flatten_eq, if_pos h.length, List.map_congr_left hsame, List.map_id]

end Event

end Monthwise
