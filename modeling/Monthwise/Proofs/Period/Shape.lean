import Mathlib.Tactic.SplitIfs
import Monthwise.Period.Written

/-! # The shapes of written periods

The first step of reading looks only at the shape of a text. It finds a shape exactly if
the text is one of that shape, written out with the right number of decimal digits in
every place. No text has two shapes, as texts of different shapes differ in length.
-/

namespace Monthwise

namespace Written

/-- A run of `n` decimal digits, of whatever scripts. -/
structure IsDigits (n : Nat) (ds : List Char) : Prop where
  length : ds.length = n
  decimal : ∀ c ∈ ds, Text.isDecimalDigit c

theorem digits?_eq_some_iff {n : Nat} {cs ds rest : List Char} :
    digits? n cs = some (ds, rest) ↔ IsDigits n ds ∧ cs = ds ++ rest := by
  constructor
  · intro h
    unfold digits? at h
    split_ifs at h with hdigits
    obtain ⟨rfl, rfl⟩ := Prod.mk.inj (Option.some.inj h)
    exact ⟨⟨hdigits.1, List.all_eq_true.mp hdigits.2⟩, (List.take_append_drop n cs).symm⟩
  · rintro ⟨⟨rfl, hdecimal⟩, rfl⟩
    simpa [digits?] using hdecimal

theorem mark?_eq_some_iff {mark cs rest : List Char} :
    mark? mark cs = some rest ↔ cs = mark ++ rest := by
  constructor
  · intro h
    unfold mark? at h
    split_ifs at h with hmark
    obtain rfl := Option.some.inj h
    exact List.prefix_iff_eq_append.mp (List.isPrefixOf_iff_prefix.mp hmark) |>.symm
  · rintro rfl
    simp [mark?]

end Written

/-- Four digits for the year and two for the month. -/
structure MonthDigits.IsShaped (m : MonthDigits) : Prop where
  year : Written.IsDigits 4 m.year
  month : Written.IsDigits 2 m.month

/-- Four digits for the year, two for the month and two for the day. -/
structure DateDigits.IsShaped (d : DateDigits) : Prop where
  year : Written.IsDigits 4 d.year
  month : Written.IsDigits 2 d.month
  day : Written.IsDigits 2 d.day

namespace Written

theorem monthDigits?_eq_some_iff {cs rest : List Char} {m : MonthDigits} :
    monthDigits? cs = some (m, rest) ↔ m.IsShaped ∧ cs = m.chars ++ rest := by
  simp only [monthDigits?, Option.bind_eq_bind, Option.bind_eq_some_iff, Prod.exists,
    digits?_eq_some_iff, mark?_eq_some_iff, pure, Option.some.injEq, Prod.mk.injEq]
  constructor
  · rintro ⟨year, _, ⟨hyear, rfl⟩, _, rfl, month, _, ⟨hmonth, rfl⟩, rfl, rfl⟩
    exact ⟨⟨hyear, hmonth⟩, by simp [MonthDigits.chars]⟩
  · rintro ⟨⟨hyear, hmonth⟩, rfl⟩
    exact ⟨m.year, '-' :: m.month ++ rest, ⟨hyear, by simp [MonthDigits.chars]⟩,
      m.month ++ rest, rfl, m.month, rest, ⟨hmonth, rfl⟩, rfl, rfl⟩

theorem dateDigits?_eq_some_iff {cs rest : List Char} {d : DateDigits} :
    dateDigits? cs = some (d, rest) ↔ d.IsShaped ∧ cs = d.chars ++ rest := by
  simp only [dateDigits?, Option.bind_eq_bind, Option.bind_eq_some_iff, Prod.exists,
    monthDigits?_eq_some_iff, digits?_eq_some_iff, mark?_eq_some_iff, pure, Option.some.injEq,
    Prod.mk.injEq]
  constructor
  · rintro ⟨m, _, ⟨hm, rfl⟩, _, rfl, day, _, ⟨hday, rfl⟩, rfl, rfl⟩
    exact ⟨⟨hm.year, hm.month, hday⟩, by simp [DateDigits.chars, MonthDigits.chars]⟩
  · rintro ⟨⟨hyear, hmonth, hday⟩, rfl⟩
    exact ⟨⟨d.year, d.month⟩, '-' :: d.day ++ rest,
      ⟨⟨hyear, hmonth⟩, by simp [DateDigits.chars, MonthDigits.chars]⟩,
      d.day ++ rest, rfl, d.day, rest, ⟨hday, rfl⟩, rfl, rfl⟩

theorem separator?_eq_some_iff {cs rest : List Char} {separator : DateSeparator} :
    separator? cs = some (separator, rest) ↔ cs = separatorChars separator ++ rest := by
  unfold separator?
  split
  next rest' hdots =>
    rw [mark?_eq_some_iff] at hdots
    subst hdots
    cases separator <;> simp [separatorChars]
  next hdots =>
    rw [Option.map_eq_some_iff]
    simp only [mark?_eq_some_iff, Prod.mk.injEq]
    cases separator with
    | dots =>
        refine iff_of_false (by simp) fun h => ?_
        have hread : mark? ['.', '.'] cs = some rest := mark?_eq_some_iff.mpr h
        rw [hread] at hdots
        cases hdots
    | slash => simp [separatorChars]

/-- Months and days are written with the right number of digits. -/
def IsShaped : Written → Prop
  | oneMonth only => only.IsShaped
  | monthRange first last => first.IsShaped ∧ last.IsShaped
  | dateRange start _ stop => start.IsShaped ∧ stop.IsShaped

theorem dates?_eq_some_iff {cs : List Char} {w : Written} :
    dates? cs = some w ↔ ∃ start separator stop, start.IsShaped ∧ stop.IsShaped ∧
      w = dateRange start separator stop ∧ w.chars = cs := by
  simp only [dates?, Option.bind_eq_bind, Option.bind_eq_some_iff, Prod.exists,
    dateDigits?_eq_some_iff, separator?_eq_some_iff, Option.ite_none_right_eq_some,
    Option.some.injEq]
  constructor
  · rintro ⟨start, _, ⟨hstart, rfl⟩, separator, _, rfl, stop, _, ⟨hstop, rfl⟩, rfl, rfl⟩
    exact ⟨start, separator, stop, hstart, hstop, rfl, by simp [chars]⟩
  · rintro ⟨start, separator, stop, hstart, hstop, rfl, rfl⟩
    exact ⟨start, _, ⟨hstart, List.append_assoc _ _ _⟩, separator, stop.chars, rfl, stop, [],
      ⟨hstop, (List.append_nil _).symm⟩, rfl, rfl⟩

theorem months?_eq_some_iff {cs : List Char} {w : Written} :
    months? cs = some w ↔ (∃ only, only.IsShaped ∧ w = oneMonth only ∧ w.chars = cs) ∨
      ∃ first last, first.IsShaped ∧ last.IsShaped ∧ w = monthRange first last ∧ w.chars = cs := by
  simp only [months?, Option.bind_eq_bind, Option.bind_eq_some_iff, Prod.exists,
    monthDigits?_eq_some_iff]
  constructor
  · rintro ⟨first, rest, ⟨hfirst, rfl⟩, h⟩
    split_ifs at h with hend
    · obtain rfl := Option.some.inj h
      exact .inl ⟨first, hfirst, rfl, by simp [chars, hend]⟩
    · simp only [Option.bind_eq_some_iff, mark?_eq_some_iff, monthDigits?_eq_some_iff, Prod.exists,
        Option.ite_none_right_eq_some, Option.some.injEq] at h
      obtain ⟨_, rfl, last, _, ⟨hlast, rfl⟩, rfl, rfl⟩ := h
      exact .inr ⟨first, last, hfirst, hlast, rfl, by simp [chars]⟩
  · rintro (⟨only, honly, rfl, rfl⟩ | ⟨first, last, hfirst, hlast, rfl, rfl⟩)
    · exact ⟨only, [], ⟨honly, (List.append_nil _).symm⟩, if_pos rfl⟩
    · refine ⟨first, ['.', '.'] ++ last.chars, ⟨hfirst, List.append_assoc _ _ _⟩, ?_⟩
      rw [if_neg (by simp)]
      simp only [Option.bind_eq_some_iff, mark?_eq_some_iff, monthDigits?_eq_some_iff, Prod.exists]
      exact ⟨_, rfl, last, [], ⟨hlast, (List.append_nil _).symm⟩, rfl⟩

end Written

theorem MonthDigits.IsShaped.length_chars {m : MonthDigits} (h : m.IsShaped) :
    m.chars.length = 7 := by
  simp [chars, h.year.length, h.month.length]

theorem DateDigits.IsShaped.length_chars {d : DateDigits} (h : d.IsShaped) :
    d.chars.length = 10 := by
  simp [chars, h.year.length, h.month.length, h.day.length]

namespace Written

theorem dates?_of_months? {cs : List Char} {w : Written} (h : months? cs = some w) :
    dates? cs = none := by
  rw [Option.eq_none_iff_forall_ne_some]
  intro w' h'
  obtain ⟨start, separator, stop, hstart, hstop, rfl, hchars⟩ := dates?_eq_some_iff.mp h'
  have hlong : 20 ≤ cs.length := by
    rw [← hchars]
    simp only [chars, List.length_append, hstart.length_chars, hstop.length_chars]
    omega
  rw [months?_eq_some_iff] at h
  obtain ⟨only, honly, rfl, rfl⟩ | ⟨first, last, hfirst, hlast, rfl, rfl⟩ := h
  · simp only [chars, honly.length_chars] at hlong
    omega
  · simp [chars, hfirst.length_chars, hlast.length_chars] at hlong

/-- A text has one of the shapes exactly if it is written in it; so the shape is the only one. -/
theorem ofChars?_eq_some_iff {cs : List Char} {w : Written} :
    ofChars? cs = some w ↔ w.IsShaped ∧ w.chars = cs := by
  rw [ofChars?, Option.or_eq_some_iff]
  constructor
  · rintro (hdates | ⟨-, hmonths⟩)
    · obtain ⟨start, separator, stop, hstart, hstop, rfl, hchars⟩ := dates?_eq_some_iff.mp hdates
      exact ⟨⟨hstart, hstop⟩, hchars⟩
    · obtain ⟨only, honly, rfl, hchars⟩ | ⟨first, last, hfirst, hlast, rfl, hchars⟩ :=
        months?_eq_some_iff.mp hmonths
      · exact ⟨honly, hchars⟩
      · exact ⟨⟨hfirst, hlast⟩, hchars⟩
  · rintro ⟨hshaped, hchars⟩
    cases w with
    | oneMonth only =>
        have hmonths := months?_eq_some_iff.mpr (.inl ⟨only, hshaped, rfl, hchars⟩)
        exact .inr ⟨dates?_of_months? hmonths, hmonths⟩
    | monthRange first last =>
        have hmonths :=
          months?_eq_some_iff.mpr (.inr ⟨first, last, hshaped.1, hshaped.2, rfl, hchars⟩)
        exact .inr ⟨dates?_of_months? hmonths, hmonths⟩
    | dateRange start separator stop =>
        exact .inl (dates?_eq_some_iff.mpr
          ⟨start, separator, stop, hshaped.1, hshaped.2, rfl, hchars⟩)

end Written
end Monthwise
