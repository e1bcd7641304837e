import Monthwise.CommandLine.Run
import Monthwise.Proofs.CommandLine.Arguments
import Monthwise.Proofs.Coverage.Remainder
import Monthwise.Proofs.Period.WireForm

/-! # What is printed is read back

No command computes a period outside of the periods that it was given, and those lie in
the years of four digits. So all that a command prints can be handed in again, and means
what it meant.
-/

namespace Monthwise

namespace Coverage

variable {ps qs : List Period}

/-- Periods in covered months are in the same years as what covers them. -/
theorem plainYears_of_coversMonth (hps : ∀ p ∈ ps, p.HasPlainYears)
    (hcovers : ∀ month, CoversMonth qs month → CoversMonth ps month) :
    ∀ q ∈ qs, q.HasPlainYears := by
  intro q hq
  obtain ⟨p, hp, hfirst⟩ := hcovers q.first ⟨q, hq, q.has_first⟩
  obtain ⟨r, hr, hlast⟩ := hcovers q.last ⟨q, hq, q.has_last⟩
  have hpyears := Period.hasPlainYears_iff.mp (hps p hp)
  have hryears := Period.hasPlainYears_iff.mp (hps r hr)
  obtain ⟨hfirst, -⟩ := hfirst
  obtain ⟨-, hlast⟩ := hlast
  rw [Period.hasPlainYears_iff]
  omega

end Coverage

namespace Command

/-- Every period in the lines is read as the period that the command has to print there. -/
def IsReadBack : Command → (lines : List String) → Prop
  | .ping, _ => True
  | .version, _ => True
  | .months p, lines => CommandLine.Reads lines p.toMonths
  | .reduce ps, lines => CommandLine.Reads lines (Coverage.reduce ps)
  | .subtract base removals, lines =>
    CommandLine.Reads lines (Coverage.subtractAll [base] removals)
  | .covered target ps, lines => ∃ texts,
    lines = s!"covered={Coverage.fullyCoveredBy target ps}" :: texts.map ("gap=" ++ ·) ∧
    CommandLine.Reads texts (Coverage.gaps target ps)
  | .json p, lines => ∃ text, lines = [text] ∧ Period.ofJson text = .ok p

theorem reads_periodLines {ps : List Period} (hps : ∀ p ∈ ps, p.HasPlainYears) :
    CommandLine.Reads (periodLines ps) ps := by
  rw [periodLines, CommandLine.Reads, List.forall₂_map_left_iff, List.forall₂_same]
  exact fun p hp => Period.parseAnyLength_of_plainYears (hps p hp).1 (hps p hp).2

/-- If the periods that a command was given can be written, so can those that it prints. -/
theorem isReadBack_lines (command : Command) (h : ∀ p ∈ command.periods, p.HasPlainYears) :
    command.IsReadBack command.lines := by
  cases command with
  | ping => trivial
  | version => trivial
  | months p =>
      apply reads_periodLines
      refine Coverage.plainYears_of_coversMonth h fun month hm => ?_
      exact ⟨p, List.mem_cons_self, Coverage.coversMonth_toMonths.mp hm⟩
  | reduce ps =>
      apply reads_periodLines
      exact Coverage.plainYears_of_coversMonth h fun month hm => Coverage.coversMonth_reduce.mp hm
  | subtract base removals =>
      apply reads_periodLines
      refine Coverage.plainYears_of_coversMonth h fun month hm => ?_
      rw [Coverage.subtractAll, List.flatMap_singleton] at hm
      exact ⟨base, List.mem_cons_self, (Coverage.coversMonth_remainder.mp hm).1⟩
  | covered target ps =>
      refine ⟨periodLines (Coverage.gaps target ps), ?_, reads_periodLines ?_⟩
      · rw [periodLines, List.map_map]
        rfl
      · refine Coverage.plainYears_of_coversMonth h fun month hm => ?_
        rw [Coverage.gaps_eq_remainder] at hm
        exact ⟨target, List.mem_cons_self, (Coverage.coversMonth_remainder.mp hm).1⟩
  | json p => exact ⟨_, rfl, p.ofJson_render⟩

end Command

namespace CommandLine

variable {s : Session} {words : List String} {environment : String → Option String}

/-- What a run leaves behind that prints these lines. -/
def printed (lines : List String) : Outcome := { code := 0, output := lines }

theorem plan_of_parse {asked : Invocation} (h : parse words = .ok asked)
    (environment : String → Option String) (build : Build) :
    (∃ settings, plan words environment build = .ok (settings, asked.command)) ∨
      ∃ text, plan words environment build = .error (failure text) := by
  have hasked : (parse words).mapError Halt.outcome = .ok asked := Json.mapError_eq_ok_iff.mpr h
  unfold plan
  rw [hasked]
  simp only [bind, Except.bind]
  cases Settings.ofVariables environment build with
  | error e => exact .inr ⟨_, rfl⟩
  | ok settings =>
      simp only [Except.mapError]
      cases settings.override asked.level asked.directory with
      | error e => exact .inr ⟨_, rfl⟩
      | ok settings => exact .inl ⟨settings, rfl⟩

/-- A run prints what its command prints, unless its settings are refused. -/
theorem run_of_parse {asked : Invocation} (h : parse words = .ok asked) (s : Session)
    (environment : String → Option String) (build : Build) :
    (run s words environment build).1 = printed asked.command.lines ∨
      ∃ text, (run s words environment build).1 = failure text := by
  unfold run
  rcases plan_of_parse h environment build with ⟨settings, hplan⟩ | ⟨text, hplan⟩
  · rw [hplan]
    simp only
    rcases s.initFrom settings with ⟨_ | _, t⟩
    · exact .inr ⟨_, rfl⟩
    · exact .inl rfl
  · rw [hplan]
    exact .inr ⟨text, rfl⟩

/-- The words make the program print the lines, however it was built. Only variables can get in the
way, if they ask for a journal that is refused. -/
def Prints (words lines : List String) : Prop :=
  (∀ s build, (run s words (fun _ => none) build).1 = printed lines) ∧
  ∀ s environment build, (run s words environment build).1 = printed lines ∨
    ∃ text, (run s words environment build).1 = failure text

theorem prints_of_parse {command : Command} (h : parse words = .ok ⟨none, none, command⟩) :
    Prints words command.lines := by
  refine ⟨fun s build => ?_, run_of_parse h⟩
  have hplan : plan words (fun _ => none) build = .ok ({ level := .standard build }, command) := by
    unfold plan
    rw [h]
    rfl
  unfold run
  rw [hplan]
  rfl

variable {p : Period} {ps : List Period}

theorem plainYears_of_reads {texts : List String} (h : Reads texts ps) :
    ∀ p ∈ ps, p.HasPlainYears := by
  induction h with
  | nil => exact fun p hp => nomatch hp
  | cons hp _ ih =>
      exact List.forall_mem_cons.mpr ⟨Period.plainYears_of_parseAnyLength hp, ih⟩

/-- Periods that can be written are put together from their lines. -/
theorem prints_reduce_periodLines (hps : ∀ p ∈ ps, p.HasPlainYears) (hne : ps ≠ []) :
    Prints ("reduce" :: Command.periodLines ps) (Command.periodLines (Coverage.reduce ps)) := by
  have hreads := Command.reads_periodLines hps
  cases ps with
  | nil => exact absurd rfl hne
  | cons p ps =>
      cases hreads with
      | cons hp hmore => exact prints_of_parse (parse_reduce hp hmore)

theorem prints_reduce_months (hp : ∀ q ∈ [p], q.HasPlainYears) :
    Prints ("reduce" :: (Command.months p).lines) [toString p] := by
  have hmonths : ∀ q ∈ p.toMonths, q.HasPlainYears :=
    Coverage.plainYears_of_coversMonth hp fun month hm =>
      ⟨p, List.mem_cons_self, Coverage.coversMonth_toMonths.mp hm⟩
  have hne : p.toMonths ≠ [] := by
    obtain ⟨q, hq, -⟩ := Coverage.coversMonth_toMonths.mpr p.has_first
    exact List.ne_nil_of_mem hq
  have hprints := prints_reduce_periodLines hmonths hne
  rwa [Coverage.reduce_toMonths] at hprints

theorem prints_reduce_reduce (hps : ∀ q ∈ p :: ps, q.HasPlainYears) :
    Prints ("reduce" :: (Command.reduce (p :: ps)).lines) (Command.reduce (p :: ps)).lines := by
  have hreduce : ∀ q ∈ Coverage.reduce (p :: ps), q.HasPlainYears :=
    Coverage.plainYears_of_coversMonth hps fun month hm => Coverage.coversMonth_reduce.mp hm
  have hprints := prints_reduce_periodLines hreduce (Coverage.reduce_ne_nil p ps)
  rwa [(Coverage.separated_reduce (p :: ps)).reduce_eq] at hprints

/-- What is printed is read back with the same meaning, whatever else stands on the command line.
In particular this holds for every command whose arguments are read as periods: reducing what
was reduced prints the same lines again, and reducing the months of a period prints the period. -/
theorem output_readBack :
    (∀ words asked, parse words = .ok asked → asked.command.IsReadBack asked.command.lines ∧
      ∀ s environment build, (run s words environment build).1 = printed asked.command.lines ∨
        ∃ text, (run s words environment build).1 = failure text) ∧
    (∀ text p, Period.parseAnyLength text = .ok p →
      Prints ["months", text] (Command.months p).lines ∧
      Reads (Command.months p).lines p.toMonths ∧
      Prints ("reduce" :: (Command.months p).lines) [toString p] ∧
      (∃ line, Prints ["json", text] [line] ∧ Period.ofJson line = .ok p) ∧
      ∀ texts ps, Reads texts ps →
        Prints ("reduce" :: text :: texts) (Command.reduce (p :: ps)).lines ∧
        Reads (Command.reduce (p :: ps)).lines (Coverage.reduce (p :: ps)) ∧
        Prints ("reduce" :: (Command.reduce (p :: ps)).lines) (Command.reduce (p :: ps)).lines ∧
        ∀ word q, Period.parseAnyLength word = .ok q →
          (∃ lines, Prints ("subtract" :: word :: text :: texts) lines ∧
            Reads lines (Coverage.subtractAll [q] (p :: ps))) ∧
          ∃ gaps, Prints ("covered" :: word :: text :: texts)
              (s!"covered={Coverage.fullyCoveredBy q (p :: ps)}" :: gaps.map ("gap=" ++ ·)) ∧
            Reads gaps (Coverage.gaps q (p :: ps))) := by
  refine ⟨fun words asked h => ?_, fun text p hp => ?_⟩
  · exact ⟨asked.command.isReadBack_lines (plainYears_of_parse h), run_of_parse h⟩
  have hone : ∀ q ∈ [p], q.HasPlainYears := plainYears_of_reads (.cons hp .nil)
  refine ⟨prints_of_parse (parse_months hp), (Command.months p).isReadBack_lines hone,
    prints_reduce_months hone, ⟨_, prints_of_parse (parse_json hp), p.ofJson_render⟩,
    fun texts ps hps => ?_⟩
  have hmany : ∀ q ∈ p :: ps, q.HasPlainYears := plainYears_of_reads (.cons hp hps)
  refine ⟨prints_of_parse (parse_reduce hp hps), (Command.reduce (p :: ps)).isReadBack_lines hmany,
    prints_reduce_reduce hmany, fun word q hq => ?_⟩
  have hall : ∀ r ∈ q :: p :: ps, r.HasPlainYears := plainYears_of_reads (.cons hq (.cons hp hps))
  constructor
  · exact ⟨_, prints_of_parse (parse_subtract hq hp hps),
      (Command.subtract q (p :: ps)).isReadBack_lines hall⟩
  · obtain ⟨gaps, hlines, hgaps⟩ := (Command.covered q (p :: ps)).isReadBack_lines hall
    refine ⟨gaps, ?_, hgaps⟩
    rw [← hlines]
    exact prints_of_parse (parse_covered hq hp hps)

/-- A range across the end of a year, with a blank in front: its two months are printed, and from
what is printed it is put together again. Its second month is taken from it, and the first is
left. -/
theorem output_readBack_over_new_year :
    let december : Period :=
      { first := 24263, last := 24263, firstMonth_le := by decide, last_le := by decide }
    Prints ["months", " 2021-12..2022-01"] ["2021-12-01..2021-12-31", "2022-01-01..2022-01-31"] ∧
    Prints ["reduce", "2021-12-01..2021-12-31", "2022-01-01..2022-01-31"]
      ["2021-12-01..2022-01-31"] ∧
    ∃ lines, Prints ["subtract", " 2021-12..2022-01", "2022-01"] lines ∧
      Reads lines [december] := by
  intro december
  let both : Period :=
    { first := 24263, last := 24264, firstMonth_le := by decide, last_le := by decide }
  let january : Period :=
    { first := 24264, last := 24264, firstMonth_le := by decide, last_le := by decide }
  have hboth : Period.parseAnyLength " 2021-12..2022-01" = .ok both := by decide
  have hjanuary : Period.parseAnyLength "2022-01" = .ok january := by decide
  have hlines : (Command.months both).lines =
      ["2021-12-01..2021-12-31", "2022-01-01..2022-01-31"] := by decide
  have htext : toString both = "2021-12-01..2022-01-31" := by decide
  have hleft : Coverage.subtractAll [both] [january] = [december] := by decide
  obtain ⟨-, hall⟩ := output_readBack
  obtain ⟨hmonths, -, hreduce, -, -⟩ := hall _ both hboth
  obtain ⟨-, -, -, -, hmany⟩ := hall _ january hjanuary
  obtain ⟨-, -, -, htwo⟩ := hmany [] [] .nil
  obtain ⟨⟨lines, hprints, hreads⟩, -⟩ := htwo _ both hboth
  rw [hlines] at hmonths hreduce
  rw [htext] at hreduce
  rw [hleft] at hreads
  exact ⟨hmonths, hreduce, lines, hprints, hreads⟩

end CommandLine

end Monthwise
