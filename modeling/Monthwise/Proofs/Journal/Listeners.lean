import Monthwise.Proofs.Journal.AbortTexts
import Monthwise.Proofs.Journal.Origins

/-! # Who hears of abandoned computations

A journal hears of an abandoned computation from a listener, which is put in place when the
journal is started and passes on what it hears to the listener that was there before. With
two such listeners the journal would hear everything twice, and with one that is put in
place too early it would be told before it is there. So the first start that succeeds puts
one in place, and no other start does.
-/

namespace Monthwise

/-- Who hears of an abandoned computation. -/
inductive Listener where
  /-- Listens from the beginning, and tells no journal. -/
  | standard
  /-- Tells the journal, and then the listener whose place it has taken. -/
  | capturing (previous : Listener)
deriving DecidableEq, Repr

/-- What a journal is told of an abandoned computation. -/
def Listener.tells : Listener → Abandonment → List Event
  | standard, _ => []
  | capturing previous, told => .abandoned told :: previous.tells told

/-- A session, and who listens in it. -/
structure Process where
  session : Session
  /-- A listener was put in place. -/
  installed : Bool := false
  listener : Listener := .standard

namespace Process

/-- Puts a listener in place, unless that was done before. -/
def install (p : Process) : Process :=
  if p.installed then p else { p with installed := true, listener := .capturing p.listener }

/-- Starts the journal for the first time. -/
def launch (p : Process) (level : Level) (directory : Directory) : Process :=
  match p.session.launch level directory with
  | (.ok (), session) => { p with session }.install
  | (.error _, session) => { p with session }

/-- Starts the journal as it is asked for, unless it is started already. -/
def answer (p : Process) : Except JournalError (Level × Directory) → Process
  | .error _ => p
  | .ok (level, directory) =>
    match p.session.journal with
    | some _ => p
    | none => p.launch level directory

/-- Abandons a computation. -/
def raise (p : Process) (told : Abandonment) : Process :=
  { p with session := (p.listener.tells told).foldl Session.note p.session }

/-- Does an act. -/
def perform (p : Process) (act : Act) : Process :=
  match act.givesUp?, act.request? with
  | some (_, told), _ => p.raise told
  | none, some request => p.answer request
  | none, none => { p with session := (p.session.perform act).2 }

/-- Does one act after the other. -/
def run (p : Process) (acts : List Act) : Process := acts.foldl perform p

/-- A single listener tells the journal, and only once there is a journal. -/
structure IsSettled (p : Process) : Prop where
  installed : p.installed = p.session.status.isSome
  listener : p.listener = if p.session.status.isSome then .capturing .standard else .standard

end Process

namespace Session

variable {s : Session} {act : Act} {origin : Origin} {told : Abandonment}

theorem note_of_status (h : s.status = none) (e : Event) : s.note e = s := by
  rw [note, status_eq_none_iff.mp h]

theorem perform_of_givesUp? (h : act.givesUp? = some (origin, told)) :
    (s.perform act).2 = s.note (.abandoned told) := by
  cases act with
  | create start stop place? =>
      obtain ⟨herror, rfl, -⟩ := Act.eq_of_map_abandonment? h
      simp only [perform, herror, noteResult]
  | shift p months place? =>
      obtain ⟨herror, rfl, -⟩ := Act.eq_of_map_abandonment? h
      simp only [perform, herror, noteResult]
  | abandon abort place? =>
      obtain ⟨-, rfl⟩ := Prod.mk.inj (Option.some.inj h)
      rfl
  | _ => cases h

/-- The start of a journal is no abandoned computation. -/
theorem filter_emits_of_status (h : s.status = none) (act : Act) :
    (s.emits act).filter Event.isAbandoned = none := by
  simp only [emits, status_eq_none_iff.mp h]
  cases act.started? (s.perform act).1 with
  | none => rfl
  | some kept =>
      rw [Option.bind_some]
      split_ifs <;> rfl

/-- Of a run, the journal has what was abandoned after its start. -/
theorem filter_kept_run {start : Act} {after : List Act} (h : s.status = none)
    (hstart : (s.perform start).2.status ≠ none) (hafter : ∀ path, Act.makeFile path ∉ after) :
    (s.run (start :: after)).kept.filter Event.isAbandoned =
      (after.filterMap Act.givesUp?).map fun gone => .abandoned gone.2 := by
  have hstep : s.run (start :: after) = (s.perform start).2.run after := rfl
  have hnothing : (s.perform start).2.kept.filter Event.isAbandoned = [] := by
    rw [kept_perform_of_none (status_eq_none_iff.mp h), ← Option.toList_filter,
      filter_emits_of_status h]
    rfl
  rw [hstep, kept_run _ hafter, List.filter_append, hnothing, List.nil_append,
    filter_emitted hstart]

theorem run_append (s : Session) (before after : List Act) :
    s.run (before ++ after) = (s.run before).run after := List.foldl_append

end Session

/-- The line of an abandoned computation has its place, and ends with its text, on one line and cut
after 160 characters. -/
theorem Event.text_abandoned (told : Abandonment) :
    let cs := (abortText told.abort).toList
    let origin := Origin.ofText cs
    let payload := if cs.length ≤ 160 then cs.map onLine
      else (cs.take 160).map onLine ++ "...".toList
    (Event.abandoned told).text =
      s!"event=panic_captured module={origin.area} op={origin.operation} status=error " ++
        s!"location={told.location} payload={String.ofList payload}" := by
  intro cs origin payload
  have hpayload : flatten maxTextLength cs = payload := flatten_eq maxTextLength cs
  rw [← hpayload]
  rfl

namespace Process

variable {p : Process} {level : Level} {directory : Directory}

theorem session_install (p : Process) : p.install.session = p.session := by
  unfold install
  split_ifs <;> rfl

theorem session_launch (p : Process) :
    (p.launch level directory).session = (p.session.launch level directory).2 := by
  unfold launch
  rcases p.session.launch level directory with ⟨_ | _, session⟩
  · rfl
  · exact session_install _

/-- A first start that fails puts no listener in place, and one that succeeds puts in place the only
one. -/
theorem IsSettled.launch (h : p.IsSettled) (hs : p.session.status = none) :
    (p.launch level directory).IsSettled := by
  have hinstalled : p.installed = false := by
    rw [h.installed, hs]
    rfl
  have hlistener : p.listener = .standard := by
    rw [h.listener, hs]
    rfl
  have hstatus : (p.session.launch level directory).2.status = _ := Session.status_launch hs
  unfold Process.launch
  rcases hlaunch : p.session.launch level directory with ⟨_ | _, session⟩
  · have hnone : session.status = none := by simpa only [hlaunch] using hstatus
    exact ⟨by simp [hinstalled, hnone], by simp [hlistener, hnone]⟩
  · have hsome : session.status = some (level, directory) := by
      simpa only [hlaunch] using hstatus
    exact ⟨by simp [install, hinstalled, hsome],
      by simp [install, hinstalled, hlistener, hsome]⟩

theorem IsSettled.tells_eq (h : p.IsSettled) (told : Abandonment) : p.listener.tells told =
    if p.session.status.isSome then [.abandoned told] else [] := by
  rw [h.listener]
  split_ifs <;> rfl

theorem IsSettled.session_raise (h : p.IsSettled) (told : Abandonment) :
    (p.raise told).session = p.session.note (.abandoned told) := by
  rw [raise, h.tells_eq]
  cases hs : p.session.status with
  | none => exact (Session.note_of_status hs _).symm
  | some kept => rfl

theorem IsSettled.raise (h : p.IsSettled) (told : Abandonment) : (p.raise told).IsSettled := by
  have hstatus : (p.raise told).session.status = p.session.status := by
    rw [h.session_raise, Session.status_note]
  constructor
  · rw [hstatus]
    exact h.installed
  · rw [hstatus]
    exact h.listener

/-- A process does what its session does. -/
theorem IsSettled.session_perform (h : p.IsSettled) (act : Act) :
    (p.perform act).session = (p.session.perform act).2 := by
  unfold perform
  cases hgone : act.givesUp? with
  | some gone =>
      obtain ⟨origin, told⟩ := gone
      rw [Session.perform_of_givesUp? hgone]
      exact h.session_raise told
  | none =>
      cases hrequest : act.request? with
      | none => rfl
      | some request =>
          cases request with
          | error e => rw [Session.perform_of_error hrequest]; rfl
          | ok asked =>
              obtain ⟨level, directory⟩ := asked
              rw [Session.perform_of_ok hrequest]
              simp only [answer, Session.start]
              cases p.session.journal with
              | some j => rfl
              | none => exact session_launch p

theorem IsSettled.perform (h : p.IsSettled) (act : Act) : (p.perform act).IsSettled := by
  unfold Process.perform
  cases hgone : act.givesUp? with
  | some gone => exact h.raise gone.2
  | none =>
      cases hrequest : act.request? with
      | none =>
          have hstatus := Session.status_perform_of_none (s := p.session) hrequest
          exact ⟨h.installed.trans (by rw [hstatus]), h.listener.trans (by rw [hstatus])⟩
      | some request =>
          cases request with
          | error e => exact h
          | ok asked =>
              simp only [answer]
              cases hjournal : p.session.journal with
              | some j => exact h
              | none => exact h.launch (Session.status_eq_none_iff.mpr hjournal)

theorem IsSettled.run (h : p.IsSettled) (acts : List Act) :
    (p.run acts).session = p.session.run acts ∧ (p.run acts).IsSettled := by
  induction acts generalizing p with
  | nil => exact ⟨rfl, h⟩
  | cons act rest ih =>
      obtain ⟨hsession, hsettled⟩ := ih (h.perform act)
      rw [h.session_perform] at hsession
      exact ⟨hsession, hsettled⟩

theorem isSettled_begin (files : FileTree) (claimed : Bool) :
    IsSettled { session := { files, claimed } } := ⟨rfl, rfl⟩

/-- Whatever is done in a run, every abandoned computation is told to the journal once. Before the
first start that succeeds there is no listener to tell it and nothing is kept. From then on there is
a single one, however often the journal is started again, and each computation that is abandoned
adds one event of the gravest level, which a journal of any level keeps. Its line has the place of
the computation, if that is known, and ends with the text that was left, or with words that stand
for a value that is no text. Line ends become blanks, and of more than 160 characters only the first
are kept, with three dots behind them. The text of a refused creation is always kept as it is, and
so is that of a shift by a number of 32 bits. -/
theorem run_capturesOnce (files : FileTree) (claimed : Bool) (acts : List Act) :
    let p := run { session := { files, claimed } } acts
    p.session = Session.run { files, claimed } acts ∧
    (p.installed = p.session.status.isSome ∧
      ∀ told, p.listener.tells told =
        if p.session.status.isSome then [.abandoned told] else []) ∧
    (p.session.status = none → p.session.kept = []) ∧
    (∀ act origin told, act.givesUp? = some (origin, told) →
      (p.perform act).session.kept =
        p.session.kept ++ if p.session.status.isSome then [.abandoned told] else []) ∧
    (∀ before start after, acts = before ++ start :: after →
      (∀ path, Act.makeFile path ∉ after) →
      (run { session := { files, claimed } } before).session.status = none →
      (run { session := { files, claimed } } (before ++ [start])).session.status ≠ none →
      p.session.kept.filter Event.isAbandoned =
        (after.filterMap Act.givesUp?).map fun gone => .abandoned gone.2) ∧
    (∀ abort place?, let e : Event := .abandoned { abort, place? }
      e.level = .error ∧ (∀ level : Level, level.admits e.level) ∧
      let cs := match abort with
        | .text message => message.toList
        | .untold => "non-string panic payload".toList
      let location := match place? with
        | some place => s!"{place.file}:{Decimal.text place.line}"
        | none => "unknown"
      let origin := Origin.ofText cs
      let payload := if cs.length ≤ 160 then cs.map Event.onLine
        else (cs.take 160).map Event.onLine ++ "...".toList
      e.text =
        s!"event=panic_captured module={origin.area} op={origin.operation} status=error " ++
          s!"location={location} payload={String.ofList payload}") ∧
    (∀ start stop abort, Period.createOrAbort start stop = .error abort →
      Event.flatten Event.maxTextLength (Event.abortText abort).toList =
        (Event.abortText abort).toList) ∧
    (∀ (q : Period) (months : Int) (abort : Abort), Word.signed32.Holds months →
      q.shiftOrAbort months = .error abort →
      Event.flatten Event.maxTextLength (Event.abortText abort).toList =
        (Event.abortText abort).toList) := by
  intro p
  have hrun (acts : List Act) := (isSettled_begin files claimed).run acts
  obtain ⟨hsession, hsettled⟩ := hrun acts
  refine ⟨hsession, ⟨hsettled.installed, hsettled.tells_eq⟩, ?before, ?one, ?all, ?line,
    ?created, ?shifted⟩
  case before => exact fun h => Session.kept_of_none (Session.status_eq_none_iff.mp h)
  case one =>
    intro act origin told hact
    rw [hsettled.session_perform]
    cases hs : p.session.status with
    | none =>
        rw [Session.perform_of_givesUp? hact, Session.note_of_status hs]
        exact (List.append_nil _).symm
    | some kept =>
        have hne : p.session.status ≠ none := by simp [hs]
        exact Session.kept_of_givesUp? hne hact
  case all =>
    rintro before start after rfl hafter hbefore hstart
    rw [(hrun before).1] at hbefore
    rw [(hrun _).1, Session.run_append] at hstart
    rw [hsession, Session.run_append]
    exact Session.filter_kept_run hbefore hstart hafter
  case line =>
    intro abort place?
    refine ⟨rfl, fun level => by cases level <;> rfl, ?_⟩
    cases abort <;> cases place? <;> exact Event.text_abandoned _
  case created =>
    intro start stop abort h
    exact Event.flatten_of_fits (fits_createOrAbort h)
  case shifted =>
    intro q months abort hmonths h
    exact Event.flatten_of_fits (fits_shiftOrAbort hmonths h)

/-- A computation is abandoned too early, a start fails and a start is repeated. The text that is
abandoned then is one character too long, and it is told once. -/
theorem run_capturesOnce_repeated_start :
    let long := Abort.text (String.ofList (List.replicate 161 'x'))
    let library : Place := ⟨"library", 99, by decide⟩
    let p : Process := run { session := { files := .empty } } [.abandon .untold,
      .init "loud" "/logs", .init "error" "/logs", .init "error" "/logs/", .abandon long]
    let secondOfJanuary : Date := ⟨2024, 1, 2, by decide, by decide, by decide⟩
    let refused := Abort.text
      "invalid period 2024-01-02..2024-01-02: period start must be the first day of a month"
    let moved := Abort.text
      "shifting 2024-02-01..2024-02-29 by 3200000 months leaves the calendar"
    p.session.kept.filter Event.isAbandoned = [.abandoned ⟨long, none⟩] ∧
    (p.perform (.create secondOfJanuary secondOfJanuary (some library))).session.kept =
      p.session.kept ++ [.abandoned ⟨refused, some library⟩] ∧
    Event.flatten Event.maxTextLength (Event.abortText refused).toList =
      (Event.abortText refused).toList ∧
    Event.flatten Event.maxTextLength (Event.abortText moved).toList =
      (Event.abortText moved).toList := by
  intro long library p secondOfJanuary refused moved
  let february : Period := ⟨24289, 24289, by decide, by decide, by decide⟩
  have hrefused : Period.createOrAbort secondOfJanuary secondOfJanuary = .error refused := by decide
  have hmoved : february.shiftOrAbort 3200000 = .error moved := by decide +kernel
  have hbefore : run { session := { files := .empty } } [.abandon .untold, .init "loud" "/logs"] =
      { session := { files := .empty } } := rfl
  have hstart : (run { session := { files := .empty } } [.init "error" "/logs"]).session.status ≠
      none := by
    rw [((isSettled_begin .empty false).run _).1]
    exact Session.status_run_init
  obtain ⟨-, -, hnone, hone, hall, -, hcreated, hshifted⟩ := run_capturesOnce .empty false
    [.abandon .untold, .init "loud" "/logs", .init "error" "/logs", .init "error" "/logs/",
      .abandon long]
  have hkept : p.session.kept.filter Event.isAbandoned = [.abandoned ⟨long, none⟩] :=
    hall [.abandon .untold, .init "loud" "/logs"] (.init "error" "/logs") _ rfl (by simp)
      (congrArg (·.session.status) hbefore) hstart
  have hsome : p.session.status.isSome := by
    rw [Option.isSome_iff_ne_none]
    intro hstatus
    rw [hnone hstatus] at hkept
    cases hkept
  have hlast := hone (.create secondOfJanuary secondOfJanuary (some library)) .create
    ⟨refused, some library⟩ (by decide)
  refine ⟨hkept, ?_, hcreated _ _ _ hrefused, hshifted _ _ _ (by decide) hmoved⟩
  rw [hlast]
  exact congrArg (p.session.kept ++ ·) (if_pos hsome)

end Process

end Monthwise
