import Mathlib.Data.List.TakeWhile
import Monthwise.Proofs.ByDays.Construction
import Monthwise.Proofs.Period.Shape

/-! # What is read as a period

A text without the blanks around it is answered in one of four ways. It may be written in
one of the shapes, with digits that name two days, and the days may be the ends of a
period; or the days break one of the rules for ends; or the digits name no day of the
calendar; or it has no shape at all. Reading gives exactly the answer that fits.
-/

namespace Monthwise

namespace Text

/-- `core` is what is left of a text without the blanks around it. -/
structure IsTrimmed (cs core : List Char) : Prop where
  surrounded : ∃ front back, cs = front ++ core ++ back ∧
    (∀ c ∈ front, isBlank c) ∧ ∀ c ∈ back, isBlank c
  begins : ∀ c, core.head? = some c → isBlank c = false
  ends : ∀ c, core.getLast? = some c → isBlank c = false

theorem skipBlanks_spec (cs : List Char) : ∃ front, cs = front ++ skipBlanks cs ∧
    (∀ c ∈ front, isBlank c) ∧ ∀ c, (skipBlanks cs).head? = some c → isBlank c = false := by
  refine ⟨cs.takeWhile isBlank, List.takeWhile_append_dropWhile.symm,
    fun c hc => List.mem_takeWhile_imp hc, fun c hc => ?_⟩
  have hhead := List.head?_dropWhile_not isBlank cs
  rw [skipBlanks] at hc
  rwa [hc] at hhead

theorem isTrimmed_trim (cs : List Char) : IsTrimmed cs (trim cs) := by
  obtain ⟨front, hfront, hblank, hbegins⟩ := skipBlanks_spec cs
  obtain ⟨back, hback, hblank', hends⟩ := skipBlanks_spec (skipBlanks cs).reverse
  have hrest : skipBlanks cs = trim cs ++ back.reverse := by
    rw [trim, ← List.reverse_append, ← hback, List.reverse_reverse]
  refine ⟨⟨front, back.reverse, ?_, hblank, fun c hc => hblank' c (List.mem_reverse.mp hc)⟩, ?_, ?_⟩
  · rw [List.append_assoc, ← hrest, ← hfront]
  · intro c hc
    apply hbegins c
    rw [hrest, List.head?_append, hc, Option.some_or]
  · intro c hc
    apply hends c
    rwa [trim, List.getLast?_reverse] at hc

end Text

theorem Written.number?_eq_some_iff {ds : List Char} {n : Nat} :
    number? ds = some n ↔ (∀ c ∈ ds, c.isDigit) ∧ Decimal.value ds = n := by
  rw [number?, Option.ite_none_right_eq_some, List.all_eq_true, Option.some.injEq]

/-- The digits are digits of ASCII and name the month that begins on this day. -/
structure MonthDigits.Names (m : MonthDigits) (d : Date) : Prop where
  ascii : ∀ c ∈ m.year ++ m.month, c.isDigit
  year : d.year = Decimal.value m.year
  month : d.month = Decimal.value m.month
  day : d.day = 1

/-- The digits are digits of ASCII and name this day. -/
structure DateDigits.Names (digits : DateDigits) (d : Date) : Prop where
  ascii : ∀ c ∈ digits.year ++ digits.month ++ digits.day, c.isDigit
  year : d.year = Decimal.value digits.year
  month : d.month = Decimal.value digits.month
  day : d.day = Decimal.value digits.day

theorem MonthDigits.date?_eq_some_iff {m : MonthDigits} {d : Date} :
    m.date? = some d ↔ m.Names d := by
  simp only [date?, Option.bind_eq_bind, Option.bind_eq_some_iff, Written.number?_eq_some_iff,
    Date.ofYmd?_eq_some_iff]
  constructor
  · rintro ⟨_, ⟨hyear, rfl⟩, _, ⟨hmonth, rfl⟩, hd⟩
    exact ⟨List.forall_mem_append.mpr ⟨hyear, hmonth⟩, hd.1, hd.2.1, hd.2.2⟩
  · rintro ⟨hascii, hyear, hmonth, hday⟩
    rw [List.forall_mem_append] at hascii
    exact ⟨_, ⟨hascii.1, rfl⟩, _, ⟨hascii.2, rfl⟩, hyear, hmonth, hday⟩

theorem DateDigits.date?_eq_some_iff {digits : DateDigits} {d : Date} :
    digits.date? = some d ↔ digits.Names d := by
  simp only [date?, Option.bind_eq_bind, Option.bind_eq_some_iff, Written.number?_eq_some_iff,
    Date.ofYmd?_eq_some_iff]
  constructor
  · rintro ⟨_, ⟨hyear, rfl⟩, _, ⟨hmonth, rfl⟩, _, ⟨hday, rfl⟩, hd⟩
    exact ⟨List.forall_mem_append.mpr ⟨List.forall_mem_append.mpr ⟨hyear, hmonth⟩, hday⟩,
      hd.1, hd.2.1, hd.2.2⟩
  · rintro ⟨hascii, hyear, hmonth, hday⟩
    rw [List.forall_mem_append, List.forall_mem_append] at hascii
    exact ⟨_, ⟨hascii.1.1, rfl⟩, _, ⟨hascii.1.2, rfl⟩, _, ⟨hascii.2, rfl⟩, hyear, hmonth, hday⟩

namespace Written

variable {w : Written} {start stop : Date} {part : List Char}

/-- The first and the last day that are written. A month stands for all its days. -/
def Bounds : Written → (start stop : Date) → Prop
  | oneMonth only, start, stop => only.Names start ∧ stop = start.lastOfMonth
  | monthRange first last, start, stop =>
    first.Names start ∧ ∃ d, last.Names d ∧ stop = d.lastOfMonth
  | dateRange first _ last, start, stop => first.Names start ∧ last.Names stop

/-- Digits that name no month or no day of the calendar, and the part of the text that is blamed for
it: the whole text for a month, and for a day its own digits, those of the first day before those of
the last. -/
inductive Misses : Written → (part : List Char) → Prop where
  | oneMonth {only : MonthDigits} (misses : ∀ d, ¬ only.Names d) :
      Misses (oneMonth only) (oneMonth only).chars
  | firstMonth {first last : MonthDigits} (misses : ∀ d, ¬ first.Names d) :
      Misses (monthRange first last) (monthRange first last).chars
  | lastMonth {first last : MonthDigits} (misses : ∀ d, ¬ last.Names d) :
      Misses (monthRange first last) (monthRange first last).chars
  | firstDay {first last : DateDigits} {separator : DateSeparator} (misses : ∀ d, ¬ first.Names d) :
      Misses (dateRange first separator last) first.chars
  | lastDay {first last : DateDigits} {separator : DateSeparator} {d : Date}
      (names : first.Names d) (misses : ∀ d, ¬ last.Names d) :
      Misses (dateRange first separator last) last.chars

theorem monthStart_of_names {m : MonthDigits} (h : m.Names start) : w.monthStart m = .ok start := by
  rw [monthStart, MonthDigits.date?_eq_some_iff.mpr h]

theorem monthStart_of_misses {m : MonthDigits} (h : ∀ d, ¬ m.Names d) :
    w.monthStart m = .error (.noSuchDate (String.ofList w.chars)) := by
  have hnone : m.date? = none := by
    rw [Option.eq_none_iff_forall_ne_some]
    exact fun d hd => h d (MonthDigits.date?_eq_some_iff.mp hd)
  rw [monthStart, hnone]

theorem date_of_names {digits : DateDigits} (h : digits.Names start) : digits.date = .ok start := by
  rw [DateDigits.date, DateDigits.date?_eq_some_iff.mpr h]

theorem date_of_misses {digits : DateDigits} (h : ∀ d, ¬ digits.Names d) :
    digits.date = .error (.noSuchDate (String.ofList digits.chars)) := by
  have hnone : digits.date? = none := by
    rw [Option.eq_none_iff_forall_ne_some]
    exact fun d hd => h d (DateDigits.date?_eq_some_iff.mp hd)
  rw [DateDigits.date, hnone]

theorem Bounds.ends_eq (h : w.Bounds start stop) : w.ends = .ok (start, stop) := by
  cases w with
  | oneMonth only =>
      obtain ⟨hstart, rfl⟩ := h
      rw [ends, monthStart_of_names hstart]
      rfl
  | monthRange first last =>
      obtain ⟨hstart, d, hd, rfl⟩ := h
      rw [ends, monthStart_of_names hstart, monthStart_of_names hd]
      rfl
  | dateRange first separator last =>
      rw [ends, date_of_names h.1, date_of_names h.2]
      rfl

theorem Misses.ends_eq (h : w.Misses part) :
    w.ends = .error (.noSuchDate (String.ofList part)) := by
  cases h with
  | oneMonth misses | firstMonth misses =>
      rw [ends, monthStart_of_misses misses]
      rfl
  | @lastMonth first last misses =>
      -- both months put it down to the same text
      by_cases hfirst : ∃ d, first.Names d
      · obtain ⟨d, hd⟩ := hfirst
        rw [ends, monthStart_of_names hd, monthStart_of_misses misses]
        rfl
      · rw [ends, monthStart_of_misses (not_exists.mp hfirst)]
        rfl
  | firstDay misses =>
      rw [ends, date_of_misses misses]
      rfl
  | lastDay names misses =>
      rw [ends, date_of_names names, date_of_misses misses]
      rfl

/-- Digits name days or miss them. -/
theorem bounds_or_misses (w : Written) :
    (∃ start stop, w.Bounds start stop) ∨ ∃ part, w.Misses part := by
  cases w with
  | oneMonth only =>
      by_cases hnames : ∃ d, only.Names d
      · obtain ⟨d, hd⟩ := hnames
        exact .inl ⟨d, _, hd, rfl⟩
      · exact .inr ⟨_, .oneMonth (not_exists.mp hnames)⟩
  | monthRange first last =>
      by_cases hfirst : ∃ d, first.Names d
      · by_cases hlast : ∃ d, last.Names d
        · obtain ⟨start, hstart⟩ := hfirst
          obtain ⟨d, hd⟩ := hlast
          exact .inl ⟨start, _, hstart, d, hd, rfl⟩
        · exact .inr ⟨_, .lastMonth (not_exists.mp hlast)⟩
      · exact .inr ⟨_, .firstMonth (not_exists.mp hfirst)⟩
  | dateRange first separator last =>
      by_cases hfirst : ∃ d, first.Names d
      · obtain ⟨start, hstart⟩ := hfirst
        by_cases hlast : ∃ d, last.Names d
        · obtain ⟨stop, hstop⟩ := hlast
          exact .inl ⟨start, stop, hstart, hstop⟩
        · exact .inr ⟨_, .lastDay hstart (not_exists.mp hlast)⟩
      · exact .inr ⟨_, .firstDay (not_exists.mp hfirst)⟩

end Written

namespace Period

variable {start stop : Date} {e : PeriodError}

/-- The rules for the ends of a period, and the first of them that two days break. -/
inductive FirstBroken (start stop : Date) : PeriodError → Prop where
  | startNotFirstDay (first : start.day ≠ 1) : FirstBroken start stop .startNotFirstDay
  | startAfterEnd (first : start.day = 1) (order : stop < start) :
      FirstBroken start stop .startAfterEnd
  | endNotLastDay (first : start.day = 1) (order : start ≤ stop)
      (last : stop.day ≠ Calendar.daysInMonth stop.year stop.month) :
      FirstBroken start stop .endNotLastDay

theorem lastOfMonth_eq_self_iff : stop.lastOfMonth = stop ↔
    stop.day = Calendar.daysInMonth stop.year stop.month :=
  ⟨fun h => (congrArg Date.day h).symm, fun h => Date.ext rfl rfl h.symm⟩

theorem FirstBroken.ofDates_eq (h : FirstBroken start stop e) : ofDates start stop = .error e := by
  unfold ofDates
  cases h with
  | startNotFirstDay first => rw [if_pos first]
  | startAfterEnd first order => rw [if_neg (not_not_intro first), dif_pos order]
  | endNotLastDay first order last =>
      rw [if_neg (not_not_intro first), dif_neg (Date.not_lt.mpr order),
        if_pos (mt lastOfMonth_eq_self_iff.mp last)]

/-- Two days are the ends of a period or break a rule. -/
theorem ends_or_firstBroken (start stop : Date) :
    (∃ p : Period, start = p.start ∧ stop = p.stop) ∨ ∃ e, FirstBroken start stop e := by
  by_cases hfirst : start.day = 1
  · by_cases horder : stop < start
    · exact .inr ⟨_, .startAfterEnd hfirst horder⟩
    · by_cases hlast : stop.day = Calendar.daysInMonth stop.year stop.month
      · have hwhole : ByDays.WholeMonths start stop :=
          ⟨hfirst, Date.not_lt.mp horder, lastOfMonth_eq_self_iff.mpr hlast⟩
        exact .inl ⟨_, ByDays.assemble_eq_ok_iff.mp (ByDays.assemble_of_wholeMonths hwhole)⟩
      · exact .inr ⟨_, .endNotLastDay hfirst (Date.not_lt.mp horder) hlast⟩
  · exact .inr ⟨_, .startNotFirstDay hfirst⟩

section Reading

variable {text : String} {t : List Char} {answer : Except ReadError Period}

/-- The answer to a text that has no blanks around it. -/
inductive Reading (t : List Char) : Except ReadError Period → Prop where
  | period {w : Written} {p : Period} (shaped : w.IsShaped) (written : w.chars = t)
      (bounds : w.Bounds p.start p.stop) : Reading t (.ok p)
  | noSuchDate {w : Written} {part : List Char} (shaped : w.IsShaped) (written : w.chars = t)
      (misses : w.Misses part) : Reading t (.error (.noSuchDate (String.ofList part)))
  | rejected {w : Written} {start stop : Date} {e : PeriodError} (shaped : w.IsShaped)
      (written : w.chars = t) (bounds : w.Bounds start stop) (broken : FirstBroken start stop e) :
      Reading t (.error (.rejected e))
  | unrecognised (shapeless : ∀ w : Written, w.IsShaped → w.chars ≠ t) :
      Reading t (.error (.unrecognised (String.ofList t)))

/-- Every text has an answer. -/
theorem exists_reading (t : List Char) : ∃ answer, Reading t answer := by
  by_cases hshape : ∃ w : Written, w.IsShaped ∧ w.chars = t
  · obtain ⟨w, hshaped, hwritten⟩ := hshape
    obtain ⟨start, stop, hbounds⟩ | ⟨part, hmisses⟩ := w.bounds_or_misses
    · obtain ⟨p, rfl, rfl⟩ | ⟨e, hbroken⟩ := ends_or_firstBroken start stop
      · exact ⟨_, .period hshaped hwritten hbounds⟩
      · exact ⟨_, .rejected hshaped hwritten hbounds hbroken⟩
    · exact ⟨_, .noSuchDate hshaped hwritten hmisses⟩
  · exact ⟨_, .unrecognised fun w hshaped hwritten => hshape ⟨w, hshaped, hwritten⟩⟩

/-- It is the one that reading gives. -/
theorem Reading.parseAnyLength_eq (h : Reading (Text.trim text.toList) answer) :
    parseAnyLength text = answer := by
  unfold parseAnyLength parseWith
  cases h with
  | period shaped written bounds =>
      simp only [Written.ofChars?_eq_some_iff.mpr ⟨shaped, written⟩, bounds.ends_eq,
        ofDates_start_stop]
      rfl
  | noSuchDate shaped written misses =>
      simp only [Written.ofChars?_eq_some_iff.mpr ⟨shaped, written⟩, misses.ends_eq]
  | rejected shaped written bounds broken =>
      simp only [Written.ofChars?_eq_some_iff.mpr ⟨shaped, written⟩, bounds.ends_eq,
        broken.ofDates_eq]
      rfl
  | unrecognised shapeless =>
      have hnone : Written.ofChars? (Text.trim text.toList) = none := by
        rw [Option.eq_none_iff_forall_ne_some]
        intro w hw
        obtain ⟨hshaped, hwritten⟩ := Written.ofChars?_eq_some_iff.mp hw
        exact shapeless w hshaped hwritten
      simp only [hnone]

theorem parseAnyLength_eq_iff :
    parseAnyLength text = answer ↔ Reading (Text.trim text.toList) answer := by
  constructor
  · rintro rfl
    obtain ⟨answer, hreading⟩ := exists_reading (Text.trim text.toList)
    rwa [hreading.parseAnyLength_eq]
  · exact Reading.parseAnyLength_eq

/-- The limit on the length is the only difference between the two readings. -/
theorem parse_eq (text : String) : parse text =
    match parseAnyLength text with
    | .ok p => if 12 < p.monthCount then .error (.rejected (.tooManyMonths p.monthCount)) else .ok p
    | .error e => .error e := by
  unfold parse parseAnyLength parseWith
  cases hshape : Written.ofChars? (Text.trim text.toList) with
  | none => simp only [hshape]
  | some w =>
      cases hends : w.ends with
      | error e => simp only [hshape, hends]
      | ok bounds =>
          simp only [hshape, hends]
          unfold create
          cases ofDates bounds.1 bounds.2 with
          | error e => rfl
          | ok p => exact apply_ite (Except.mapError ReadError.rejected) (12 < p.monthCount) _ _

/-- The two readings accept their grammar and nothing else. What the text is without the blanks
around it settles the answer of the reading of any length: a period with the days that are written,
the part that names no day, the first rule that the days break, or the text as a whole. The limited
reading differs where the period has more than twelve months. -/
theorem parse_exact (text : String) :
    let t := Text.trim text.toList
    Text.IsTrimmed text.toList t ∧
      (∀ answer, parseAnyLength text = answer ↔ Reading t answer) ∧
      parse text =
        match parseAnyLength text with
        | .ok p =>
          if 12 < p.monthCount then .error (.rejected (.tooManyMonths p.monthCount)) else .ok p
        | .error e => .error e :=
  ⟨Text.isTrimmed_trim _, fun _ => parseAnyLength_eq_iff, parse_eq text⟩

end Reading

end Period

end Monthwise
