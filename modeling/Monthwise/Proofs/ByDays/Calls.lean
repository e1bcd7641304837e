import Monthwise.Proofs.ByDays.Coverage
import Monthwise.Proofs.ByDays.Months
import Monthwise.Proofs.ByDays.Timeline

/-! # Calls one after the other

A caller makes periods from dates, texts and JSON, computes with what comes out, and
goes on with that. Whether the calls are answered by month numbers or by days, the
same periods are produced, and every one of them runs from the first day of a month
to the last day of a month. A run breaks off only where the caller asked for it, by
one of the two calls that give up.
-/

namespace Monthwise.ByDays

/-- A call, with its operands. -/
inductive Call (ρ : Type) where
  | createOrAbort (start stop : Date)
  | create (start stop : Date)
  | ofDates (start stop : Date)
  | ofMonth (year : Int) (month : Nat)
  | ofYear (year : Int)
  | parse (text : String)
  | parseAnyLength (text : String)
  | ofJson (text : String)
  | ofValue (v : Json)
  | intersect (p q : Period)
  | merge (p q : Period)
  | subtract (p q : Period)
  | shift (p : Period) (months : Int)
  | shiftOrAbort (p : Period) (months : Int)
  | months (p : Period) (sides : List MonthQueue.Side)
  | firstMonth (p : Period)
  | lastMonth (p : Period)
  | reduce (ps : List Period)
  | subtractAll (bases removals : List Period)
  | gaps (window : Period) (ps : List Period)
  | span (ps : List Period)
  | reconcile (window : Period) (records : List ρ)

variable {ρ Recency Id : Type} [TimedRecord ρ Recency Id] [Ord Recency] [Ord Id]

/-- The periods that a call produces. A refusal produces none. -/
def answer (fresh : Nat → Id) : Call ρ → Except Abort (List Period)
  | .createOrAbort start stop => do return [← Period.createOrAbort start stop]
  | .create start stop => .ok (Period.create start stop).toOption.toList
  | .ofDates start stop => .ok (Period.ofDates start stop).toOption.toList
  | .ofMonth year month => .ok (Period.ofMonth? year month).toList
  | .ofYear year => .ok (Period.ofYear? year).toList
  | .parse text => .ok (Period.parse text).toOption.toList
  | .parseAnyLength text => .ok (Period.parseAnyLength text).toOption.toList
  | .ofJson text => .ok (Period.ofJson text).toOption.toList
  | .ofValue v => .ok (Period.decoder.ofValue v).toOption.toList
  | .intersect p q => .ok (p.intersect? q).toList
  | .merge p q => .ok (p.merge q).toOption.toList
  | .subtract p q => .ok (p.subtract q)
  | .shift p months => .ok (p.shift? months).toList
  | .shiftOrAbort p months => do return [← p.shiftOrAbort months]
  | .months p sides => .ok (p.months.popAll sides)
  | .firstMonth p => .ok [p.firstMonth]
  | .lastMonth p => .ok [p.lastMonth]
  | .reduce ps => .ok (Coverage.reduce ps)
  | .subtractAll bases removals => .ok (Coverage.subtractAll bases removals)
  | .gaps window ps => .ok (Coverage.gaps window ps)
  | .span ps => .ok (Coverage.span? ps).toList
  | .reconcile window records => .ok (Timeline.reconcile fresh window records).periods

/-- The periods that a call produces when it is answered by days. -/
def answerByDays (fresh : Nat → Id) : Call ρ → Except Abort (List Period)
  | .createOrAbort start stop => do return [← createOrAbort start stop]
  | .create start stop => do return (← create start stop).toOption.toList
  | .ofDates start stop => do return (← ofDates start stop).toOption.toList
  | .ofMonth year month => do return (← ofMonth? year month).toList
  | .ofYear year => do return (← ofYear? year).toList
  | .parse text => do return (← parseWith create text).toOption.toList
  | .parseAnyLength text => do return (← parseWith ofDates text).toOption.toList
  | .ofJson text => do return (← ofJson text).toOption.toList
  | .ofValue v => do return (← ofValue v).toOption.toList
  | .intersect p q => do return (← intersect? p q).toList
  | .merge p q => do return (← merge p q).toOption.toList
  | .subtract p q => subtract p q
  | .shift p months => do return (← shift? p months).toList
  | .shiftOrAbort p months => do return [← shiftOrAbort p months]
  | .months p sides => months p sides
  | .firstMonth p => do return [← firstMonth p]
  | .lastMonth p => do return [← lastMonth p]
  | .reduce ps => reduce ps
  | .subtractAll bases removals => subtractAll bases removals
  | .gaps window ps => gaps window ps
  | .span ps => do return (← span? ps).toList
  | .reconcile window records => do return (← reconcile fresh window records).periods

/-- Makes one call after the other, each chosen in view of the periods produced before it. -/
def run (answer : Call ρ → Except Abort (List Period)) :
    List (List Period → Call ρ) → (produced : List Period) → Except Abort (List Period)
  | [], produced => .ok produced
  | next :: rest, produced => do run answer rest (produced ++ (← answer (next produced)))

/-- The calls that give up, and the text they leave: an insistent creation that is refused, and an
insistent shift out of the calendar. -/
inductive GivesUp : Call ρ → Abort → Prop where
  | creation {start stop : Date} {e : PeriodError} (refused : Period.create start stop = .error e) :
      GivesUp (.createOrAbort start stop)
        (.text s!"{Period.createMark} {start}..{stop}: {e.message}")
  | shift {p : Period} {months : Int} (outside : p.shift? months = none) :
      GivesUp (.shiftOrAbort p months)
        (.text s!"shifting {p} by {Decimal.signedText months} months {Period.shiftMark}")

section Step

theorem singleton_eq_error_iff {x : Except Abort Period} {abort : Abort} :
    (do return [← x] : Except Abort (List Period)) = .error abort ↔ x = .error abort := by
  cases x with
  | ok p => simp
  | error e =>
      constructor <;> intro h <;> cases h <;> rfl

variable (fresh : Nat → Id) (call : Call ρ) {abort : Abort}

/-- No property that `assemble` insists on is ever missing. -/
theorem answerByDays_eq : answerByDays fresh call = answer fresh call := by
  cases call with
  | parse text =>
      rw [answerByDays, answer, parseWith_eq create_eq]
      rfl
  | parseAnyLength text =>
      rw [answerByDays, answer, parseWith_eq ofDates_eq]
      rfl
  | _ => simp [answerByDays, answer]

theorem createOrAbort_eq_error_iff {start stop : Date} :
    Period.createOrAbort start stop = .error abort ↔ ∃ e, Period.create start stop = .error e ∧
      abort = .text s!"{Period.createMark} {start}..{stop}: {e.message}" := by
  unfold Period.createOrAbort
  cases Period.create start stop <;> simp [eq_comm]

theorem shiftOrAbort_eq_error_iff {p : Period} {months : Int} :
    p.shiftOrAbort months = .error abort ↔ p.shift? months = none ∧
      abort = .text s!"shifting {p} by {Decimal.signedText months} months {Period.shiftMark}" := by
  unfold Period.shiftOrAbort
  cases p.shift? months <;> simp [eq_comm]

theorem answer_eq_error_iff : answer fresh call = .error abort ↔ GivesUp call abort := by
  constructor
  · intro h
    cases call with
    | createOrAbort start stop =>
        rw [answer, singleton_eq_error_iff, createOrAbort_eq_error_iff] at h
        obtain ⟨e, hrefused, rfl⟩ := h
        exact .creation hrefused
    | shiftOrAbort p months =>
        rw [answer, singleton_eq_error_iff, shiftOrAbort_eq_error_iff] at h
        obtain ⟨houtside, rfl⟩ := h
        exact .shift houtside
    | _ => simp [answer] at h
  · intro h
    cases h with
    | creation refused =>
        rw [answer, singleton_eq_error_iff, createOrAbort_eq_error_iff]
        exact ⟨_, refused, rfl⟩
    | shift outside =>
        rw [answer, singleton_eq_error_iff, shiftOrAbort_eq_error_iff]
        exact ⟨outside, rfl⟩

end Step

section Run

variable {answer : Call ρ → Except Abort (List Period)} {caller : List Period → Call ρ}
  {callers : List (List Period → Call ρ)} {produced : List Period} {abort : Abort}

theorem run_cons_error (h : answer (caller produced) = .error abort) :
    run answer (caller :: callers) produced = .error abort := by
  rw [run, h]
  rfl

theorem run_cons_ok {new : List Period} (h : answer (caller produced) = .ok new) :
    run answer (caller :: callers) produced = run answer callers (produced ++ new) := by
  rw [run, h]
  rfl

/-- A run breaks off at the first call that gives up. -/
theorem run_eq_error_iff : run answer callers produced = .error abort ↔
    ∃ before next after reached, callers = before ++ next :: after ∧
      run answer before produced = .ok reached ∧ answer (next reached) = .error abort := by
  induction callers generalizing produced with
  | nil => simp [run]
  | cons caller rest ih =>
      constructor
      · intro h
        cases hanswer : answer (caller produced) with
        | error e =>
            rw [run_cons_error hanswer] at h
            exact ⟨[], caller, rest, produced, rfl, rfl, hanswer.trans h⟩
        | ok new =>
            rw [run_cons_ok hanswer, ih] at h
            obtain ⟨before, next, after, reached, rfl, hrun, hnext⟩ := h
            exact ⟨caller :: before, next, after, reached, rfl,
              (run_cons_ok hanswer).trans hrun, hnext⟩
      · rintro ⟨before, next, after, reached, heq, hrun, hnext⟩
        cases before with
        | nil =>
            obtain ⟨rfl, -⟩ := List.cons.inj heq
            obtain rfl := Except.ok.inj hrun
            exact run_cons_error hnext
        | cons first before =>
            obtain ⟨rfl, rfl⟩ := List.cons.inj heq
            cases hanswer : answer (caller produced) with
            | error e =>
                rw [run_cons_error hanswer] at hrun
                cases hrun
            | ok new =>
                rw [run_cons_ok hanswer] at hrun ⊢
                exact ih.mpr ⟨before, next, after, reached, rfl, hrun, hnext⟩

end Run

/-- Whatever a caller does, calls that are answered by days produce the same periods as calls that
are answered by month numbers. All of them are runs of whole months. A run breaks off exactly at a
call to create from dates that are refused or to shift out of the calendar, made in the form that
gives up; no property that `assemble` insists on is ever found missing. -/
theorem run_answerByDays (fresh : Nat → Id) (callers : List (List Period → Call ρ)) :
    run (answerByDays fresh) callers [] = run (answer fresh) callers [] ∧
    (∀ reached, run (answerByDays fresh) callers [] = .ok reached →
      ∀ p ∈ reached, WholeMonths p.start p.stop) ∧
    (∀ abort, run (answerByDays fresh) callers [] = .error abort ↔
      ∃ before next after reached, callers = before ++ next :: after ∧
        run (answerByDays fresh) before [] = .ok reached ∧ GivesUp (next reached) abort) := by
  have hsame : (answerByDays fresh : Call ρ → _) = answer fresh := funext (answerByDays_eq fresh)
  rw [hsame]
  refine ⟨rfl, fun reached _ p _ => wholeMonths p, fun abort => ?_⟩
  simp only [run_eq_error_iff, answer_eq_error_iff]

end Monthwise.ByDays
