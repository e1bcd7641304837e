import Monthwise.Proofs.Calendar.PlainDate
import Monthwise.Proofs.Period.SpacedRecord

/-! # Periods in the notation and in records

A period of two days is read from the notation, where the days are joined by dots or by a
slash, and from a JSON record with the two days as strings. For days in plain digits both
ways come to the same answer, although each has a reader of dates of its own. Within the
notation, two months are short for the first day of the one and the last day of the other.
-/

namespace Monthwise

section Digits

variable {d : Date} {c : Char}

theorem MonthDigits.not_isBlank_of_mem_chars {m : MonthDigits}
    (hascii : ∀ c ∈ m.year ++ m.month, c.isDigit) (hc : c ∈ m.chars) :
    Text.isBlank c = false := by
  obtain ⟨hyear, hmonth⟩ := List.forall_mem_append.mp hascii
  simp only [chars, List.mem_append, List.mem_cons] at hc
  rcases hc with hmem | rfl | hmem
  · exact Text.isBlank_of_isDigit (hyear c hmem)
  · decide
  · exact Text.isBlank_of_isDigit (hmonth c hmem)

theorem DateDigits.not_isBlank_of_mem_chars {digits : DateDigits}
    (hascii : ∀ c ∈ digits.year ++ digits.month ++ digits.day, c.isDigit)
    (hc : c ∈ digits.chars) : Text.isBlank c = false := by
  have hchars : digits.chars =
      (MonthDigits.mk digits.year digits.month).chars ++ '-' :: digits.day := by
    simp [chars, MonthDigits.chars]
  obtain ⟨hmonths, hday⟩ := List.forall_mem_append.mp hascii
  rw [hchars, List.mem_append, List.mem_cons] at hc
  rcases hc with hmem | rfl | hmem
  · exact MonthDigits.not_isBlank_of_mem_chars hmonths hmem
  · decide
  · exact Text.isBlank_of_isDigit (hday c hmem)

/-- A date with a year of four digits is named by its own digits. -/
theorem Date.HasPlainYear.names_digits (h : d.HasPlainYear) : d.digits.Names d := by
  rw [← DateDigits.date?_eq_some_iff]
  have hdate := h.date_digits
  unfold DateDigits.date at hdate
  split at hdate
  next day hday =>
    obtain rfl := Except.ok.inj hdate
    exact hday
  next => cases hdate

namespace DateDigits.IsPlain

variable {digits : DateDigits}

theorem ofValue_of_names (h : digits.IsPlain) (hnames : digits.Names d) :
    Date.decoder.ofValue (.str (String.ofList digits.chars)) = .ok d := by
  have hscan : Date.scan digits.chars = .ok d := by
    rw [h.scan_chars, date?_eq_some_iff.mpr hnames]
  simp only [Date.decoder, Json.Decoder.text, String.toList_ofList, hscan]
  rfl

theorem ofValue_of_misses (h : digits.IsPlain) (hmisses : ∀ d, ¬ digits.Names d) :
    Date.decoder.ofValue (.str (String.ofList digits.chars)) =
      .error (.rejected ScanFault.outOfRange.message) := by
  have hnone : digits.date? = none := by
    rw [Option.eq_none_iff_forall_ne_some]
    exact fun d hd => hmisses d (date?_eq_some_iff.mp hd)
  have hscan : Date.scan digits.chars = .error .outOfRange := by
    rw [h.scan_chars, hnone]
  simp only [Date.decoder, Json.Decoder.text, String.toList_ofList, hscan]
  rfl

end DateDigits.IsPlain

end Digits

namespace Written

theorem not_isBlank_of_mem_separator (separator : DateSeparator) :
    ∀ c ∈ separatorChars separator, Text.isBlank c = false := by
  intro c hc
  cases separator with
  | dots =>
      obtain rfl : c = '.' := by simpa [separatorChars] using hc
      rfl
  | slash =>
      obtain rfl := List.mem_singleton.mp hc
      rfl

/-- Nothing is trimmed from two days in digits of ASCII. -/
theorem trim_dateRange {first last : DateDigits} (separator : DateSeparator)
    (hfirst : ∀ c ∈ first.year ++ first.month ++ first.day, c.isDigit)
    (hlast : ∀ c ∈ last.year ++ last.month ++ last.day, c.isDigit) :
    Text.trim (dateRange first separator last).chars = (dateRange first separator last).chars := by
  apply Text.trim_of_not_blank
  simp only [chars, List.forall_mem_append]
  exact ⟨⟨fun c => DateDigits.not_isBlank_of_mem_chars hfirst,
      not_isBlank_of_mem_separator separator⟩,
    fun c => DateDigits.not_isBlank_of_mem_chars hlast⟩

theorem trim_monthRange {first last : MonthDigits} {start d : Date} (hfirst : first.Names start)
    (hlast : last.Names d) :
    Text.trim (monthRange first last).chars = (monthRange first last).chars := by
  apply Text.trim_of_not_blank
  simp only [chars, List.forall_mem_append]
  exact ⟨⟨fun c => MonthDigits.not_isBlank_of_mem_chars hfirst.ascii,
      not_isBlank_of_mem_separator .dots⟩,
    fun c => MonthDigits.not_isBlank_of_mem_chars hlast.ascii⟩

end Written

namespace Period

section Reading

variable {w : Written} {start stop : Date} {part : List Char}

theorem parseAnyLength_of_bounds (hshaped : w.IsShaped) (htrim : Text.trim w.chars = w.chars)
    (hbounds : w.Bounds start stop) :
    parseAnyLength (String.ofList w.chars) = (ofDates start stop).mapError .rejected := by
  have hshape : Written.ofChars? w.chars = some w := Written.ofChars?_eq_some_iff.mpr ⟨hshaped, rfl⟩
  simp only [parseAnyLength, parseWith, String.toList_ofList, htrim, hshape, hbounds.ends_eq]

theorem parseAnyLength_of_misses (hshaped : w.IsShaped) (htrim : Text.trim w.chars = w.chars)
    (hmisses : w.Misses part) :
    parseAnyLength (String.ofList w.chars) = .error (.noSuchDate (String.ofList part)) := by
  apply Reading.parseAnyLength_eq
  rw [String.toList_ofList, htrim]
  exact .noSuchDate hshaped rfl hmisses

end Reading

/-- The same answer to two days, once from a text in the notation and once from a record. A day that
is not in the calendar is blamed in other words by the one than by the other, but the days that are
no ends of a period break the same rule. -/
inductive SameAnswer (first last : DateDigits) :
    Except ReadError Period → Except Json.Mismatch Period → Prop where
  | period {p : Period} (start : first.Names p.start) (stop : last.Names p.stop) :
      SameAnswer first last (.ok p) (.ok p)
  | noFirstDay (misses : ∀ d, ¬ first.Names d) :
      SameAnswer first last (.error (.noSuchDate (String.ofList first.chars)))
        (.error (.rejected ScanFault.outOfRange.message))
  | noLastDay {d : Date} (names : first.Names d) (misses : ∀ d, ¬ last.Names d) :
      SameAnswer first last (.error (.noSuchDate (String.ofList last.chars)))
        (.error (.rejected ScanFault.outOfRange.message))
  | rejected {start stop : Date} {e : PeriodError} (first_names : first.Names start)
      (last_names : last.Names stop) (broken : FirstBroken start stop e) :
      SameAnswer first last (.error (.rejected e)) (.error (.rejected e.message))

theorem sameAnswer_of_isPlain {first last : DateDigits} (hfirst : first.IsPlain)
    (hlast : last.IsPlain) (separator : DateSeparator) :
    SameAnswer first last
      (parseAnyLength (String.ofList (Written.dateRange first separator last).chars))
      (ofStrings (String.ofList first.chars) (String.ofList last.chars)) := by
  have hshaped : (Written.dateRange first separator last).IsShaped := ⟨hfirst.shaped, hlast.shaped⟩
  have htrim := Written.trim_dateRange separator hfirst.ascii hlast.ascii
  by_cases hstart : ∃ start, first.Names start
  case neg =>
    have hmisses := not_exists.mp hstart
    rw [parseAnyLength_of_misses hshaped htrim (.firstDay hmisses), ofStrings,
      hfirst.ofValue_of_misses hmisses]
    exact .noFirstDay hmisses
  obtain ⟨start, hstart⟩ := hstart
  by_cases hstop : ∃ stop, last.Names stop
  case neg =>
    have hmisses := not_exists.mp hstop
    rw [parseAnyLength_of_misses hshaped htrim (.lastDay hstart hmisses), ofStrings,
      hfirst.ofValue_of_names hstart, hlast.ofValue_of_misses hmisses]
    exact .noLastDay hstart hmisses
  obtain ⟨stop, hstop⟩ := hstop
  rw [parseAnyLength_of_bounds hshaped htrim ⟨hstart, hstop⟩, ofStrings,
    hfirst.ofValue_of_names hstart, hlast.ofValue_of_names hstop]
  simp only [bind, Except.bind]
  obtain ⟨p, rfl, rfl⟩ | ⟨e, hbroken⟩ := ends_or_firstBroken start stop
  · rw [ofDates_start_stop]
    exact .period hstart hstop
  · rw [hbroken.ofDates_eq]
    exact .rejected hstart hstop hbroken

theorem parseAnyLength_monthRange {first last : MonthDigits} {start d : Date}
    (hfirst : first.IsShaped) (hlast : last.IsShaped) (hstart : first.Names start)
    (hd : last.Names d) (separator : DateSeparator) :
    parseAnyLength (String.ofList (Written.monthRange first last).chars) =
      parseAnyLength (String.ofList
        (start.chars ++ Written.separatorChars separator ++ d.lastOfMonth.chars)) := by
  have hplain : start.HasPlainYear := hstart.plainYear hfirst.year.length
  have hplain' : d.lastOfMonth.HasPlainYear := hd.plainYear hlast.year.length
  have hnames := hplain.names_digits
  have hnames' := hplain'.names_digits
  have hdates : start.chars ++ Written.separatorChars separator ++ d.lastOfMonth.chars =
      (Written.dateRange start.digits separator d.lastOfMonth.digits).chars := by
    rw [hplain.chars_eq, hplain'.chars_eq, Written.chars]
  have hshaped : (Written.dateRange start.digits separator d.lastOfMonth.digits).IsShaped :=
    ⟨start.isShaped_digits, d.lastOfMonth.isShaped_digits⟩
  have hmonths : (Written.monthRange first last).IsShaped := ⟨hfirst, hlast⟩
  rw [hdates,
    parseAnyLength_of_bounds hmonths (Written.trim_monthRange hstart hd) ⟨hstart, d, hd, rfl⟩,
    parseAnyLength_of_bounds hshaped (Written.trim_dateRange separator hnames.ascii hnames'.ascii)
      ⟨hnames, hnames'⟩]

/-- Two days in plain digits are answered alike in the notation and in a record, whichever mark
joins them there and however the record is spaced here. Both ways the period is the same, or one of
the days is not in the calendar, or the days break the same rule for ends. Two months are answered
like the first day of the one and the last day of the other. -/
theorem spellings_agree :
    (∀ (first last : DateDigits) (separator : DateSeparator) (gap : Nat → List Char),
      first.IsPlain → last.IsPlain → (∀ n, ∀ c ∈ gap n, Json.isSpace c) →
      let start := String.ofList first.chars
      let stop := String.ofList last.chars
      let answer := decoder.ofValue (.obj [(startField, .str start), (stopField, .str stop)])
      SameAnswer first last
        (parseAnyLength (String.ofList (Written.dateRange first separator last).chars)) answer ∧
      ofJson (String.ofList (spacedRecord gap start stop)) = answer.mapError .mismatch) ∧
    ∀ (first last : MonthDigits) (start d : Date) (separator : DateSeparator),
      first.IsShaped → last.IsShaped → first.Names start → last.Names d →
      parseAnyLength (String.ofList (Written.monthRange first last).chars) =
        parseAnyLength (String.ofList
          (start.chars ++ Written.separatorChars separator ++ d.lastOfMonth.chars)) := by
  refine ⟨?days, ?months⟩
  case days =>
    intro first last separator gap hfirst hlast hgap start stop answer
    have hanswer : answer = ofStrings start stop := ofValue_record start stop
    rw [hanswer]
    exact ⟨sameAnswer_of_isPlain hfirst hlast separator, ofJson_spacedRecord hgap start stop⟩
  case months =>
    intro first last start d separator hfirst hlast hstart hd
    exact parseAnyLength_monthRange hfirst hlast hstart hd separator

/-- February 2024 ends with a leap day. -/
theorem spellings_agree_leap_day :
    let first : DateDigits := ⟨"2024".toList, "02".toList, "01".toList⟩
    let last : DateDigits := ⟨"2024".toList, "02".toList, "29".toList⟩
    let answer := decoder.ofValue
      (.obj [(startField, .str "2024-02-01"), (stopField, .str "2024-02-29")])
    SameAnswer first last (parseAnyLength "2024-02-01/2024-02-29") answer ∧
    ofJson "\x7b\"fraOgMed\": \"2024-02-01\", \"tilOgMed\": \"2024-02-29\"\x7d" =
      answer.mapError .mismatch ∧
    parseAnyLength "2024-02..2024-02" = parseAnyLength "2024-02-01..2024-02-29" := by
  intro first last answer
  obtain ⟨hdays, hmonths⟩ := spellings_agree
  have hdecimal {n : Nat} {ds : List Char} (hlength : ds.length = n)
      (hds : ds.all Text.isDecimalDigit = true) : Written.IsDigits n ds :=
    ⟨hlength, List.all_eq_true.mp hds⟩
  have hfirst : first.IsPlain :=
    ⟨⟨hdecimal rfl rfl, hdecimal rfl rfl, hdecimal rfl rfl⟩, List.all_eq_true.mp rfl⟩
  have hlast : last.IsPlain :=
    ⟨⟨hdecimal rfl rfl, hdecimal rfl rfl, hdecimal rfl rfl⟩, List.all_eq_true.mp rfl⟩
  -- a blank behind both colons and behind the comma
  let gap (n : Nat) : List Char := if n = 3 ∨ n = 5 ∨ n = 7 then [' '] else []
  have hgap (n : Nat) : ∀ c ∈ gap n, Json.isSpace c := by
    unfold gap
    split_ifs <;> exact List.all_eq_true.mp rfl
  have hdaysText : String.ofList (Written.dateRange first .slash last).chars =
      "2024-02-01/2024-02-29" := rfl
  have hrecordText : String.ofList (spacedRecord gap "2024-02-01" "2024-02-29") =
      "\x7b\"fraOgMed\": \"2024-02-01\", \"tilOgMed\": \"2024-02-29\"\x7d" := by decide
  have hstartText : String.ofList first.chars = "2024-02-01" := rfl
  have hstopText : String.ofList last.chars = "2024-02-29" := rfl
  have hleap := hdays first last .slash gap hfirst hlast hgap
  simp only [hdaysText, hstartText, hstopText, hrecordText] at hleap
  let month : MonthDigits := ⟨"2024".toList, "02".toList⟩
  have hmonth : month.IsShaped := ⟨hdecimal rfl rfl, hdecimal rfl rfl⟩
  have hnames : month.Names ⟨2024, 2, 1, by decide, by decide, by decide⟩ :=
    ⟨List.all_eq_true.mp rfl, rfl, rfl, rfl⟩
  have hmonthsText : String.ofList (Written.monthRange month month).chars =
      "2024-02..2024-02" := rfl
  have hrange := hmonths month month _ _ .dots hmonth hmonth hnames hnames
  rw [hmonthsText] at hrange
  exact ⟨hleap.1, hleap.2, hrange⟩

end Period

end Monthwise
