import Monthwise.Period.Wire
import Monthwise.Period.Written
import Monthwise.Proofs.Calendar.MonthEnds

/-! # Putting periods together from their days

A period can also be had from its first and its last day, without a look at month
numbers. `assemble` does that, and insists on the three properties of the ends: it
gives up on days that do not have them. Here the ways to make a period from dates,
years, texts and JSON are gone through day by day, each under the name that it has
by month numbers. All of them hand good days to `assemble`, and so answer alike.
-/

namespace Monthwise

namespace ByDays

@[simp]
theorem ok_bind {ε α β : Type} (a : α) (f : α → Except ε β) : (Except.ok a >>= f) = f a := rfl

/-- The first day of the month that `d` lies in. -/
def monthStart (d : Date) : Date := (d.withDay? 1).getD d

/-- The last day of the month that `d` lies in: the greatest of the four candidates. -/
def monthEnd (d : Date) : Date := ([31, 30, 29, 28].findSome? d.withDay?).getD d

/-- The first day of the month with this number, if the calendar has the month. -/
def firstDay? (number : Int) : Option Date :=
  Date.ofYmd? (number / 12) ((number % 12).toNat + 1) 1

/-- The dates are the ends of a run of whole months. -/
structure WholeMonths (start stop : Date) : Prop where
  firstDay : start.day = 1
  inOrder : start ≤ stop
  lastDay : stop.lastOfMonth = stop

/-- The period from its first to its last day. It gives up if they are not the ends of a run of
whole months. -/
def assemble (start stop : Date) : Except Abort Period :=
  if start.day ≠ 1 then .error (.text "start must be first day of month")
  else if h : start ≤ stop then
    if monthEnd stop ≠ stop then .error (.text "end must be last day of month")
    else .ok {
      first := start.monthNumber
      last := stop.monthNumber
      firstMonth_le := start.firstMonth_le_monthNumber
      first_le_last := Date.monthNumber_le_of_le h
      last_le := stop.monthNumber_le_lastMonth }
  else .error (.text "start must not be after end")

@[simp]
theorem monthStart_eq (d : Date) : monthStart d = d.firstOfMonth := by
  rw [monthStart, d.withDay?_one, Option.getD_some]

@[simp]
theorem monthEnd_eq (d : Date) : monthEnd d = d.lastOfMonth := by
  rw [monthEnd, d.findSome?_withDay?, Option.getD_some]

theorem firstDay?_eq (number : Int) : firstDay? number =
    if h : Calendar.HasMonth number then some (Calendar.firstDay number h) else none :=
  Calendar.ofYmd?_yearOf_monthOf number

section Assemble

variable {p : Period} {start stop : Date}

theorem wholeMonths (p : Period) : WholeMonths p.start p.stop where
  firstDay := rfl
  inOrder := p.start_le_stop
  lastDay := Calendar.lastOfMonth_lastDay _

theorem assemble_of_wholeMonths (h : WholeMonths start stop) : assemble start stop = .ok {
    first := start.monthNumber
    last := stop.monthNumber
    firstMonth_le := start.firstMonth_le_monthNumber
    first_le_last := Date.monthNumber_le_of_le h.inOrder
    last_le := stop.monthNumber_le_lastMonth } := by
  simp only [assemble, h.firstDay, h.inOrder, monthEnd_eq, h.lastDay, ne_eq, not_true_eq_false,
    ↓reduceIte, ↓reduceDIte]

theorem assemble_start_stop (p : Period) : assemble p.start p.stop = .ok p := by
  rw [assemble_of_wholeMonths (wholeMonths p)]
  simp only [Period.monthNumber_start, Period.monthNumber_stop]

theorem assemble_of_eq (hstart : start = p.start) (hstop : stop = p.stop) :
    assemble start stop = .ok p := by
  subst hstart hstop
  exact assemble_start_stop p

theorem assemble_firstDay_lastDay {first last : Int} (hfirst : Calendar.HasMonth first)
    (hlast : Calendar.HasMonth last) (horder : first ≤ last) :
    assemble (Calendar.firstDay first hfirst) (Calendar.lastDay last hlast) =
      .ok ⟨first, last, hfirst.1, horder, hlast.2⟩ :=
  assemble_start_stop ⟨first, last, hfirst.1, horder, hlast.2⟩

theorem wholeMonths_of_assemble (h : assemble start stop = .ok p) : WholeMonths start stop := by
  unfold assemble at h
  split_ifs at h with hday horder hend
  rw [monthEnd_eq, ne_eq, Decidable.not_not] at hend
  exact ⟨Decidable.not_not.mp hday, horder, hend⟩

/-- `assemble` makes no period but the one with these two ends. -/
theorem assemble_eq_ok_iff : assemble start stop = .ok p ↔ start = p.start ∧ stop = p.stop := by
  constructor
  · intro h
    have hwhole := wholeMonths_of_assemble h
    rw [assemble_of_wholeMonths hwhole] at h
    obtain rfl := Except.ok.inj h
    exact ⟨Date.eq_firstDay_of_day hwhole.firstDay,
      hwhole.lastDay.symm.trans stop.lastOfMonth_eq_lastDay⟩
  · exact fun ⟨hstart, hstop⟩ => assemble_of_eq hstart hstop

end Assemble

/-- From the first day of one month to the last day of another, if they are in order and in the
calendar. -/
def ofMonths? (first last : Int) : Except Abort (Option Period) :=
  if last < first then .ok none
  else
    match firstDay? first, firstDay? last with
    | some start, some day => do return some (← assemble start (monthEnd day))
    | _, _ => .ok none

@[simp]
theorem ofMonths?_eq (first last : Int) :
    ofMonths? first last = .ok (Period.ofMonths? first last) := by
  cases hp : Period.ofMonths? first last with
  | some p =>
      obtain ⟨rfl, rfl⟩ := Period.ofMonths?_eq_some_iff.mp hp
      simp only [ofMonths?, Int.not_lt.mpr p.first_le_last, firstDay?_eq, p.hasMonth_first,
        p.hasMonth_last, monthEnd_eq, Calendar.lastOfMonth_firstDay,
        assemble_firstDay_lastDay _ _ p.first_le_last, ↓reduceIte, ↓reduceDIte]
      rfl
  | none =>
      unfold Period.ofMonths? at hp
      split_ifs at hp with hmonths
      unfold ofMonths?
      split_ifs with horder
      · rfl
      · rw [firstDay?_eq, firstDay?_eq]
        split <;> rename_i hfirst hlast
        · split_ifs at hfirst hlast with hf hl
          exact absurd ⟨Int.not_lt.mp horder, hf.1, hl.2⟩ hmonths
        · rfl

/-- From the first day of a month to its last, if the calendar has that first day. -/
def ofMonth? (year : Int) (month : Nat) : Except Abort (Option Period) :=
  match Date.ofYmd? year month 1 with
  | some start => do return some (← assemble start (monthEnd start))
  | none => .ok none

@[simp]
theorem ofMonth?_eq (year : Int) (month : Nat) :
    ofMonth? year month = .ok (Period.ofMonth? year month) := by
  unfold ofMonth? Period.ofMonth?
  cases hstart : Date.ofYmd? year month 1 with
  | none => rfl
  | some start =>
      have horder : start ≤ start.lastOfMonth := by
        rw [Date.lastOfMonth_eq_lastDay]
        exact (Calendar.le_lastDay_iff _).mpr (Int.le_refl _)
      have hwhole : WholeMonths start start.lastOfMonth :=
        ⟨(Date.ofYmd?_eq_some_iff.mp hstart).2.2, horder, rfl⟩
      simp only [monthEnd_eq, assemble_of_wholeMonths hwhole]
      rfl

/-- From New Year to the last of December, if the calendar has both. -/
def ofYear? (year : Int) : Except Abort (Option Period) :=
  match Date.ofYmd? year 1 1, Date.ofYmd? year 12 31 with
  | some start, some stop => do return some (← assemble start stop)
  | _, _ => .ok none

@[simp]
theorem ofYear?_eq (year : Int) : ofYear? year = .ok (Period.ofYear? year) := by
  unfold ofYear? Period.ofYear? Period.ofMonths?
  split_ifs with hyear
  · have hfirst : Calendar.HasMonth (12 * year) := ⟨hyear.2.1, by omega⟩
    have hlast : Calendar.HasMonth (12 * year + 11) := ⟨by omega, hyear.2.2⟩
    simp only [Calendar.ofYmd?_january hfirst, Calendar.ofYmd?_december hlast,
      assemble_firstDay_lastDay hfirst hlast hyear.1]
    rfl
  · have hnone : Date.ofYmd? year 1 1 = none := by
      unfold Date.ofYmd?
      rw [dif_neg]
      unfold Calendar.firstMonth Calendar.lastMonth at hyear
      omega
    rw [hnone]

/-- The dates are looked at before they are handed on. The first rule they break is reported. -/
def ofDates (start stop : Date) : Except Abort (Except PeriodError Period) :=
  if start.day ≠ 1 then .ok (.error .startNotFirstDay)
  else if stop < start then .ok (.error .startAfterEnd)
  else if monthEnd stop ≠ stop then .ok (.error .endNotLastDay)
  else do return .ok (← assemble start stop)

@[simp]
theorem ofDates_eq (start stop : Date) : ofDates start stop = .ok (Period.ofDates start stop) := by
  unfold ofDates Period.ofDates
  rw [monthEnd_eq]
  split_ifs with hday horder hend
  · rfl
  · rfl
  · rfl
  · have hwhole : WholeMonths start stop :=
      ⟨Decidable.not_not.mp hday, Date.not_lt.mp horder, Decidable.not_not.mp hend⟩
    rw [assemble_of_wholeMonths hwhole]
    rfl

/-- The number of months from that of the start to that of the end. -/
def monthCount (p : Period) : Nat := (p.stop.monthNumber - p.start.monthNumber + 1).toNat

@[simp]
theorem monthCount_eq (p : Period) : monthCount p = p.monthCount := by
  simp [monthCount, Period.monthCount]

/-- As `ofDates`, but too many months are refused as well. -/
def create (start stop : Date) : Except Abort (Except PeriodError Period) := do
  match ← ofDates start stop with
  | .error e => return .error e
  | .ok p =>
    if Period.maxMonths < monthCount p then return .error (.tooManyMonths (monthCount p))
    else return .ok p

@[simp]
theorem create_eq (start stop : Date) : create start stop = .ok (Period.create start stop) := by
  unfold create Period.create
  rw [ofDates_eq]
  cases Period.ofDates start stop with
  | error e => rfl
  | ok p =>
      simp only [ok_bind, monthCount_eq]
      split_ifs <;> rfl

/-- As `create`, but it gives up on dates that are refused. -/
def createOrAbort (start stop : Date) : Except Abort Period := do
  match ← create start stop with
  | .ok p => return p
  | .error e => .error (.text s!"{Period.createMark} {start}..{stop}: {e.message}")

@[simp]
theorem createOrAbort_eq (start stop : Date) :
    createOrAbort start stop = Period.createOrAbort start stop := by
  unfold createOrAbort Period.createOrAbort
  rw [create_eq]
  cases Period.create start stop <;> rfl

/-- Reads a text and hands the dates that it names to `build`. -/
def parseWith (build : Date → Date → Except Abort (Except PeriodError Period)) (text : String) :
    Except Abort (Except ReadError Period) :=
  let cs := Text.trim text.toList
  match Written.ofChars? cs with
  | none => .ok (.error (.unrecognised (String.ofList cs)))
  | some written =>
    match written.ends with
    | .error e => .ok (.error e)
    | .ok (start, stop) => do return (← build start stop).mapError .rejected

theorem parseWith_eq {build : Date → Date → Except Abort (Except PeriodError Period)}
    {build' : Date → Date → Except PeriodError Period}
    (h : ∀ start stop, build start stop = .ok (build' start stop)) (text : String) :
    parseWith build text = .ok (Period.parseWith build' text) := by
  simp only [parseWith, Period.parseWith]
  cases hwritten : Written.ofChars? (Text.trim text.toList) with
  | none => rfl
  | some written =>
      cases hends : written.ends with
      | error e => simp only [hends]
      | ok ends => simp only [hends, h, ok_bind]; rfl

/-- Reads a period from the front of a JSON text. -/
def read (depth : Nat) (cs : List Char) : Except Abort (Except Json.Fault (Period × List Char)) :=
  match Period.endsForm.read depth cs with
  | .error fault => .ok (.error fault)
  | .ok ((start, stop), rest) => do
    match ← ofDates start stop with
    | .error e => return .error (.mismatch (.rejected e.message))
    | .ok p => return .ok (p, rest)

theorem read_eq (depth : Nat) (cs : List Char) :
    read depth cs = .ok (Period.decoder.read depth cs) := by
  simp only [read, Period.decoder, Json.Decoder.refine, Json.RecordForm.decoder]
  cases hread : Period.endsForm.read depth cs with
  | error fault => rfl
  | ok found =>
      obtain ⟨⟨start, stop⟩, rest⟩ := found
      simp only [ofDates_eq, ok_bind]
      cases Period.ofDates start stop <;> rfl

/-- Reads a period from a JSON text, behind which nothing but blanks may follow. -/
def ofJson (text : String) : Except Abort (Except Json.Fault Period) := do
  match ← read Json.maxDepth text.toList with
  | .error fault => return .error fault
  | .ok (p, rest) =>
    match Json.skipSpace rest with
    | [] => return .ok p
    | _ :: _ => return .error .malformed

@[simp]
theorem ofJson_eq (text : String) : ofJson text = .ok (Period.ofJson text) := by
  simp only [ofJson, Period.ofJson, Json.Decoder.ofText, Json.readAll, read_eq, ok_bind]
  cases Period.decoder.read Json.maxDepth text.toList with
  | error fault => rfl
  | ok found =>
      obtain ⟨p, rest⟩ := found
      simp only [ok_bind]
      cases Json.skipSpace rest <;> rfl

/-- Reads a period from a JSON value. -/
def ofValue (v : Json) : Except Abort (Except Json.Mismatch Period) :=
  match Period.endsForm.ofValue v with
  | .error e => .ok (.error e)
  | .ok (start, stop) => do
    return (← ofDates start stop).mapError fun e => .rejected e.message

@[simp]
theorem ofValue_eq (v : Json) : ofValue v = .ok (Period.decoder.ofValue v) := by
  simp only [ofValue, Period.decoder, Json.Decoder.refine, Json.RecordForm.decoder]
  cases Period.endsForm.ofValue v with
  | error e => rfl
  | ok ends =>
      obtain ⟨start, stop⟩ := ends
      simp only [ofDates_eq, ok_bind]
      cases Period.ofDates start stop <;> rfl

end ByDays

/-- Two days make a period exactly if they are its ends. -/
theorem Period.ofDates_eq_ok_iff {p : Period} {start stop : Date} :
    ofDates start stop = .ok p ↔ start = p.start ∧ stop = p.stop := by
  constructor
  · intro h
    unfold ofDates at h
    split_ifs at h with hday horder hlast
    have hwhole : ByDays.WholeMonths start stop :=
      ⟨Decidable.not_not.mp hday, Date.not_lt.mp horder, Decidable.not_not.mp hlast⟩
    obtain rfl := Except.ok.inj h
    exact ByDays.assemble_eq_ok_iff.mp (ByDays.assemble_of_wholeMonths hwhole)
  · rintro ⟨rfl, rfl⟩
    exact ofDates_start_stop p

end Monthwise
