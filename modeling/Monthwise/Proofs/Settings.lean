import Mathlib.Logic.Function.Basic
import Monthwise.CommandLine.Run
import Monthwise.Proofs.Journal.WriteOnce
import Monthwise.Proofs.Json.Decoders
import Monthwise.Proofs.Period.Grammar

/-! # Where settings come from

Two variables and two wishes of the caller decide on the level and the directory of the
journal. They are looked at in a fixed order. The first that cannot be used is the one that
is refused, although a later one would have replaced it, and if all can be used the last
one given counts.
-/

namespace Monthwise

namespace Text

theorem skipBlanks_of_head {cs : List Char} (hhead : ∀ c, cs.head? = some c → isBlank c = false) :
    skipBlanks cs = cs := by
  cases cs with
  | nil => rfl
  | cons c rest => exact List.dropWhile_cons_of_neg (by simp [hhead c rfl])

theorem trim_trim (cs : List Char) : trim (trim cs) = trim cs := by
  have htrimmed := isTrimmed_trim cs
  have hfront : skipBlanks (trim cs) = trim cs := skipBlanks_of_head htrimmed.begins
  have hback : skipBlanks (trim cs).reverse = (trim cs).reverse :=
    skipBlanks_of_head fun c hc => htrimmed.ends c (List.head?_reverse.symm.trans hc)
  rw [trim, hfront, hback, List.reverse_reverse]

end Text

namespace Settings

/-- What decides on the settings: the environment, what the caller asks for and the build. -/
structure Request where
  environment : String → Option String
  level? : Option String := none
  directory? : Option String := none
  build : Build := .debug

/-- Why there are no settings. -/
inductive Refusal where
  | ofVariable (e : InvalidVariable)
  | ofOption (cause : JournalError)

/-- The wording of a refusal. -/
def Refusal.message : Refusal → String
  | ofVariable e => e.message
  | ofOption cause => cause.message

/-- The settings of the environment, changed as the caller asks. -/
def resolve (r : Request) : Except Refusal Settings := do
  let s ← (ofVariables r.environment r.build).mapError .ofVariable
  (s.override r.level? r.directory?).mapError .ofOption

/-- What is accepted is not refused, where a refusal is read off beforehand. -/
theorem eq_none_of_eq_ok {ε α : Type} {x : Except ε α} {refused : Option ε} {a : α}
    (herror : ∀ e, x = .error e ↔ refused = some e) (hx : x = .ok a) : refused = none := by
  rw [Option.eq_none_iff_forall_ne_some]
  intro e hrefused
  rw [(herror e).mpr hrefused] at hx
  cases hx

/-- Where a setting can come from. -/
inductive Source where
  | levelVariable
  | directoryVariable
  | levelOption
  | directoryOption
deriving DecidableEq, Repr

namespace Source

/-- In this order the sources are looked at. -/
def inOrder : List Source := [levelVariable, directoryVariable, levelOption, directoryOption]

/-- The source is about the level, and not about the directory. -/
def isLevel : Source → Bool
  | levelVariable | levelOption => true
  | directoryVariable | directoryOption => false

variable (r : Request) (source : Source)

/-- The text that is given. A variable of nothing but blanks gives none, and the blanks around a
path count only if the caller asks for it. -/
def text? : Option String :=
  match source with
  | levelVariable => read? r.environment Settings.levelVariable
  | directoryVariable => (read? r.environment Settings.directoryVariable).map fun path =>
      String.ofList (Text.trim path.toList)
  | levelOption => r.level?
  | directoryOption => r.directory?

/-- What is wrong with a text. -/
def fault? (text : String) : Option JournalError :=
  if source.isLevel then
    if Level.ofName? (Level.normalize text) = none then
      some (.unsupportedLevel (Level.normalize text))
    else none
  else if text = "" then some (.invalidDirectory .blank)
  else if FilePath.IsAbsolute text then none
  else some (.invalidDirectory (.relative text))

/-- A refusal names the variable, if it was one. -/
def refusal (cause : JournalError) : Refusal :=
  match source with
  | levelVariable => .ofVariable ⟨Settings.levelVariable, cause⟩
  | directoryVariable => .ofVariable ⟨Settings.directoryVariable, cause⟩
  | levelOption | directoryOption => .ofOption cause

/-- The refusal of what is given. -/
def refusal? : Option Refusal :=
  (source.text? r).bind fun text => (source.fault? text).map source.refusal

/-- The level that is given. -/
def level? : Option Level :=
  if source.isLevel then
    (source.text? r).bind fun text => Level.ofName? (Level.normalize text)
  else none

/-- The path that is given. -/
def path? : Option String := if source.isLevel then none else source.text? r

/-- Sets what the source is about. -/
def set (s : Settings) (text : String) : Except JournalError Settings :=
  if source.isLevel then s.withLevel text else s.withDirectory text

/-- Looks at the source. -/
def step (s : Settings) : Except Refusal Settings :=
  match source.text? r with
  | none => .ok s
  | some text => (source.set s text).mapError source.refusal

variable {r source} {s s' : Settings} {text : String} {cause : JournalError} {e : Refusal}

theorem set_eq_error_iff : source.set s text = .error cause ↔ source.fault? text = some cause := by
  unfold set fault?
  split_ifs with hlevel hname hblank habsolute
  · simp [withLevel, Level.ofText, hname, bind, Except.bind]
  · obtain ⟨level, hlevel⟩ := Option.ne_none_iff_exists'.mp hname
    simp [withLevel, Level.ofText, hlevel, bind, Except.bind, pure, Except.pure]
  · simp [withDirectory, Directory.ofPath, hblank, bind, Except.bind]
  · simp [withDirectory, Directory.ofPath, hblank, habsolute, bind, Except.bind, pure, Except.pure]
  · simp [withDirectory, Directory.ofPath, hblank, habsolute, bind, Except.bind]

theorem set_of_level (hlevel : source.isLevel) (h : source.set s text = .ok s') :
    ∃ level, Level.ofName? (Level.normalize text) = some level ∧ s' = { s with level } := by
  rw [set, if_pos hlevel, withLevel] at h
  obtain ⟨level, htext, h⟩ := Json.bind_eq_ok_iff.mp h
  refine ⟨level, ?_, (Except.ok.inj h).symm⟩
  unfold Level.ofText at htext
  split at htext
  next level' hname => rw [hname, Except.ok.inj htext]
  next => cases htext

theorem set_of_path (hlevel : source.isLevel = false) (h : source.set s text = .ok s') :
    ∃ directory : Directory, directory.path = text ∧ s' = { s with directory } := by
  rw [set, if_neg (by simp [hlevel]), withDirectory] at h
  obtain ⟨directory, hpath, h⟩ := Json.bind_eq_ok_iff.mp h
  refine ⟨directory, ?_, (Except.ok.inj h).symm⟩
  unfold Directory.ofPath at hpath
  split_ifs at hpath
  rw [← Except.ok.inj hpath]

/-- A source is refused for its own sake, whatever is set already. -/
theorem step_eq_error_iff : source.step r s = .error e ↔ source.refusal? r = some e := by
  unfold step refusal?
  cases source.text? r with
  | none => simp
  | some text =>
      cases hset : source.set s text with
      | error cause => simp [hset, set_eq_error_iff.mp hset, Except.mapError]
      | ok s' =>
          have hnone : source.fault? text = none :=
            eq_none_of_eq_ok (fun _ => set_eq_error_iff) hset
          simp [hset, hnone, Except.mapError]

/-- What a source gives replaces what is set, and the rest stays. -/
theorem step_eq_ok (h : source.step r s = .ok s') :
    s'.level = (source.level? r).getD s.level ∧
    s'.directory.map (·.path) = (source.path? r).or (s.directory.map (·.path)) := by
  unfold step at h
  cases htext : source.text? r with
  | none =>
      rw [htext] at h
      obtain rfl := Except.ok.inj h
      simp [level?, path?, htext]
  | some text =>
      rw [htext] at h
      have hset := Json.mapError_eq_ok_iff.mp h
      cases hlevel : source.isLevel with
      | true =>
          obtain ⟨level, hname, rfl⟩ := set_of_level hlevel hset
          simp [level?, path?, htext, hlevel, hname]
      | false =>
          obtain ⟨directory, rfl, rfl⟩ := set_of_path hlevel hset
          simp [level?, path?, htext, hlevel]

end Source

/-- Looks at one source after the other. -/
def consult (r : Request) (sources : List Source) (s : Settings) : Except Refusal Settings :=
  sources.foldlM (fun s source => source.step r s) s

section Consult

open Source

variable {r : Request} {sources : List Source} {s s' : Settings} {e : Refusal}

theorem consult_cons {source : Source} :
    consult r (source :: sources) s = source.step r s >>= consult r sources :=
  List.foldlM_cons

/-- The first source that cannot be used is the one that is refused. -/
theorem consult_eq_error_iff :
    consult r sources s = .error e ↔ sources.findSome? (refusal? r) = some e := by
  induction sources generalizing s with
  | nil => simp [consult, pure, Except.pure]
  | cons source rest ih =>
      rw [consult_cons, List.findSome?_cons]
      cases hstep : source.step r s with
      | error e' =>
          rw [step_eq_error_iff.mp hstep]
          simp [bind, Except.bind]
      | ok s' =>
          have hnone : source.refusal? r = none :=
            eq_none_of_eq_ok (fun _ => step_eq_error_iff) hstep
          rw [hnone]
          exact ih

/-- The last source that gives a level counts, and so does the last that gives a path. -/
theorem consult_eq_ok (h : consult r sources s = .ok s') :
    s'.level = (sources.reverse.findSome? (level? r)).getD s.level ∧
    s'.directory.map (·.path) =
      (sources.reverse.findSome? (path? r)).or (s.directory.map (·.path)) := by
  induction sources generalizing s with
  | nil =>
      obtain rfl := Except.ok.inj h
      simp
  | cons source rest ih =>
      rw [consult_cons] at h
      obtain ⟨next, hstep, h⟩ := Json.bind_eq_ok_iff.mp h
      obtain ⟨hlevel, hpath⟩ := step_eq_ok hstep
      obtain ⟨ihlevel, ihpath⟩ := ih h
      rw [ihlevel, ihpath, hlevel, hpath, List.reverse_cons, List.findSome?_append,
        List.findSome?_append, List.findSome?_singleton, List.findSome?_singleton]
      exact ⟨(Option.getD_or ..).symm, (Option.or_assoc ..).symm⟩

end Consult

section Resolve

theorem mapError_bind {ε δ α β : Type} (x : Except ε α) (f : α → Except ε β) (g : ε → δ) :
    (x >>= f).mapError g = x.mapError g >>= fun a => (f a).mapError g := by
  cases x <;> rfl

variable {r : Request} {s : Settings} {e : Refusal}

theorem step_levelVariable : Source.levelVariable.step r s =
    (apply s levelVariable (read? r.environment levelVariable) withLevel).mapError .ofVariable := by
  unfold Source.step apply Source.text?
  cases read? r.environment levelVariable with
  | none => rfl
  | some text => cases hset : s.withLevel text <;> simp [Source.set, Source.isLevel, hset] <;> rfl

theorem step_directoryVariable : Source.directoryVariable.step r s =
    (apply s directoryVariable (read? r.environment directoryVariable) fun s path =>
      s.withDirectory (String.ofList (Text.trim path.toList))).mapError .ofVariable := by
  unfold Source.step apply Source.text?
  cases read? r.environment directoryVariable with
  | none => rfl
  | some text =>
      cases hset : s.withDirectory (String.ofList (Text.trim text.toList)) <;>
        simp [Source.set, Source.isLevel, hset] <;> rfl

theorem step_levelOption :
    Source.levelOption.step r s = (s.override r.level? none).mapError .ofOption := by
  unfold Source.step Source.text?
  cases r.level? with
  | none => rfl
  | some text =>
      cases hset : s.withLevel text <;> simp [override, Source.set, Source.isLevel, hset] <;> rfl

theorem step_directoryOption :
    Source.directoryOption.step r s = (s.override none r.directory?).mapError .ofOption := by
  unfold Source.step Source.text?
  cases r.directory? <;> rfl

theorem mapError_ofVariables (r : Request) :
    (ofVariables r.environment r.build).mapError .ofVariable =
      Source.levelVariable.step r { level := .standard r.build } >>=
        Source.directoryVariable.step r := by
  rw [ofVariables, mapError_bind, step_levelVariable]
  exact bind_congr fun _ => step_directoryVariable.symm

theorem mapError_override (r : Request) (s : Settings) :
    (s.override r.level? r.directory?).mapError .ofOption =
      Source.levelOption.step r s >>= Source.directoryOption.step r := by
  have hsplit : s.override r.level? r.directory? =
      s.override r.level? none >>= fun s => s.override none r.directory? := by
    cases r.level? with
    | none => rfl
    | some text =>
        change s.withLevel text >>= _ = (s.withLevel text >>= pure) >>= _
        rw [bind_pure]
        rfl
  rw [hsplit, mapError_bind, step_levelOption]
  exact bind_congr fun _ => step_directoryOption.symm

/-- The settings are those that the four sources give in their order, to begin with the level of the
build. -/
theorem resolve_eq_consult (r : Request) :
    resolve r = consult r Source.inOrder { level := .standard r.build } := by
  simp only [resolve, mapError_ofVariables, mapError_override, consult, Source.inOrder,
    List.foldlM_cons, List.foldlM_nil, bind_assoc, bind_pure]

theorem resolve_eq_error_iff :
    resolve r = .error e ↔ Source.inOrder.findSome? (·.refusal? r) = some e := by
  rw [resolve_eq_consult, consult_eq_error_iff]

theorem directory_eq_of_path {d d' : Option Directory} (h : d.map (·.path) = d'.map (·.path)) :
    d = d' := by
  have hinjective : Function.Injective Directory.path := by
    rintro ⟨path, _⟩ ⟨path', _⟩ rfl
    rfl
  exact Option.map_injective hinjective h

theorem resolve_eq_ok_iff : resolve r = .ok s ↔
    Source.inOrder.findSome? (·.refusal? r) = none ∧
    s.level = (Source.inOrder.reverse.findSome? (·.level? r)).getD (.standard r.build) ∧
    s.directory.map (·.path) = Source.inOrder.reverse.findSome? (·.path? r) := by
  cases hresolve : resolve r with
  | error e =>
      rw [resolve_eq_error_iff.mp hresolve]
      simp
  | ok s' =>
      have hnone : Source.inOrder.findSome? (·.refusal? r) = none :=
        eq_none_of_eq_ok (fun _ => resolve_eq_error_iff) hresolve
      rw [resolve_eq_consult] at hresolve
      obtain ⟨hlevel, hpath⟩ := consult_eq_ok hresolve
      have hpath' : s'.directory.map (·.path) = Source.inOrder.reverse.findSome? (·.path? r) := by
        rw [hpath]
        exact Option.or_none
      rw [← hpath', hnone]
      constructor
      · intro h
        obtain rfl := Except.ok.inj h
        exact ⟨rfl, hlevel, rfl⟩
      · rintro ⟨-, hlevel', hdirectory⟩
        obtain ⟨level, directory⟩ := s
        obtain rfl : directory = s'.directory := directory_eq_of_path hdirectory
        obtain rfl : level = s'.level := hlevel'.trans hlevel.symm
        rfl

end Resolve

section Blanks

variable {r : Request} {text : String}

theorem read?_update_blank (htext : ∀ c ∈ text.toList, Text.isBlank c)
    (environment : String → Option String) (name : String) :
    read? (Function.update environment name (some text)) =
      read? (Function.update environment name none) := by
  funext other
  have hblank : isBlank text := List.all_eq_true.mpr htext
  by_cases hname : other = name
  · subst hname
    simp [read?, hblank]
  · simp [read?, hname]

/-- A path that is asked for begins with a slash, which is no blank, and a name of a level is not
empty. -/
theorem exists_fault_of_blank (htext : ∀ c ∈ text.toList, Text.isBlank c) (source : Source) :
    ∃ cause, source.fault? text = some cause := by
  have hrelative : ¬ FilePath.IsAbsolute text := by
    intro habsolute
    have hslash := htext '/' (List.mem_of_head? habsolute)
    exact absurd hslash (by decide)
  have hnormal : Level.normalize text = "" := by
    have hskip : Text.skipBlanks text.toList = [] := List.dropWhile_eq_nil_iff.mpr htext
    rw [Level.normalize, Text.trim, hskip]
    rfl
  have hname : Level.ofName? "" = none := by decide
  unfold Source.fault?
  rw [hnormal, if_pos hname, if_neg hrelative]
  split_ifs <;> exact ⟨_, rfl⟩

theorem exists_error_of_fault {source : Source} {cause : JournalError}
    (htext : source.text? r = some text) (hfault : source.fault? text = some cause) :
    ∃ e, resolve r = .error e := by
  have hrefusal : source.refusal? r = some (source.refusal cause) := by
    rw [Source.refusal?, htext, Option.bind_some, hfault, Option.map_some]
  have hsome : (Source.inOrder.findSome? (·.refusal? r)).isSome := by
    rw [List.isSome_findSome?, List.any_eq_true]
    exact ⟨source, by cases source <;> decide, by rw [hrefusal]; rfl⟩
  obtain ⟨e, he⟩ := Option.isSome_iff_exists.mp hsome
  exact ⟨e, resolve_eq_error_iff.mpr he⟩

end Blanks

section RoundTrip

variable {environment : String → Option String} {build : Build} {s : Settings}

theorem resolve_environment (environment : String → Option String) (build : Build) :
    resolve { environment, build } = (ofVariables environment build).mapError .ofVariable := by
  unfold resolve
  cases ofVariables environment build <;> rfl

theorem findSome?_path? (r : Request) : Source.inOrder.reverse.findSome? (·.path? r) =
    r.directory?.or ((read? r.environment directoryVariable).map fun path =>
      String.ofList (Text.trim path.toList)) := by
  have hlevel : Source.levelOption.path? r = none ∧ Source.levelVariable.path? r = none :=
    ⟨rfl, rfl⟩
  have hoption : Source.directoryOption.path? r = r.directory? := rfl
  have hvariable : Source.directoryVariable.path? r =
    (read? r.environment directoryVariable).map fun path =>
      String.ofList (Text.trim path.toList) := rfl
  simp only [Source.inOrder, List.reverse_cons, List.reverse_nil, List.nil_append, List.cons_append,
    List.findSome?_cons, List.findSome?_nil, hlevel.1, hlevel.2, hoption, hvariable]
  cases r.directory? with
  | some path => rfl
  | none => cases read? r.environment directoryVariable <;> rfl

/-- A path from a variable has no blanks around it. -/
theorem trim_path_of_ofVariables {directory : Directory}
    (h : ofVariables environment build = .ok s) (hdirectory : s.directory = some directory) :
    String.ofList (Text.trim directory.path.toList) = directory.path := by
  have hresolve : resolve { environment, build } = .ok s := by
    rw [resolve_environment, h]
    rfl
  obtain ⟨-, -, hpath⟩ := resolve_eq_ok_iff.mp hresolve
  have hread : some directory.path = (read? environment directoryVariable).map fun path =>
      String.ofList (Text.trim path.toList) := by
    rw [hdirectory, findSome?_path?] at hpath
    exact hpath
  obtain ⟨path, -, hpath⟩ := Option.map_eq_some_iff.mp hread.symm
  rw [← hpath, String.toList_ofList, Text.trim_trim]

theorem read?_of_not_blank {name text : String} (htext : environment name = some text)
    (hblank : isBlank text = false) : read? environment name = some text := by
  rw [read?, htext, Option.filter_some, hblank]
  rfl

theorem not_isBlank_name (level : Level) : isBlank level.name = false := by
  cases level <;> rfl

theorem not_isBlank_path (directory : Directory) : isBlank directory.path = false := by
  rw [isBlank, List.all_eq_false]
  exact ⟨'/', List.mem_of_head? directory.isAbsolute, by decide⟩

/-- The settings of an environment come back if they are written into its variables, and another
build reads the same. -/
theorem ofVariables_writeBack {written : String → Option String}
    (h : ofVariables environment build = .ok s)
    (hlevel : written levelVariable = some s.level.name)
    (hdirectory : written directoryVariable = s.directory.map (·.path)) (other : Build) :
    ofVariables written other = .ok s := by
  have hname : read? written levelVariable = some s.level.name :=
    read?_of_not_blank hlevel (not_isBlank_name s.level)
  have hwith : withLevel { level := .standard other } s.level.name = .ok { level := s.level } := by
    rw [withLevel, Level.ofText_name]
    rfl
  rw [ofVariables, hname]
  simp only [apply, hwith]
  cases hpath : s.directory with
  | none =>
      have hread : read? written directoryVariable = none := by
        rw [read?, hdirectory, hpath]
        rfl
      rw [hread]
      exact congrArg Except.ok (by rw [← hpath])
  | some directory =>
      have hread : read? written directoryVariable = some directory.path :=
        read?_of_not_blank (by rw [hdirectory, hpath]; rfl) (not_isBlank_path directory)
      rw [hread]
      simp only [trim_path_of_ofVariables h hpath, withDirectory, directory.ofPath_path]
      exact congrArg Except.ok (by rw [← hpath])

end RoundTrip

theorem plan_eq_resolve (words : List String) (environment : String → Option String)
    (build : Build) :
    CommandLine.plan words environment build = do
      let invocation ← (CommandLine.parse words).mapError CommandLine.Halt.outcome
      let settings ←
        (resolve ⟨environment, invocation.level, invocation.directory, build⟩).mapError
          fun e => CommandLine.failure e.message
      return (settings, invocation.command) := by
  unfold CommandLine.plan resolve
  cases CommandLine.parse words with
  | error halt => rfl
  | ok invocation =>
      cases hvariables : ofVariables environment build with
      | error e => simp [hvariables, bind, Except.bind, Except.mapError, Refusal.message]
      | ok s =>
          cases hoverride : s.override invocation.level invocation.directory <;>
            simp [hvariables, hoverride, bind, Except.bind, Except.mapError, Refusal.message]

/-- The first source that cannot be used is refused, in the order of the level and the directory of
the environment and the level and the directory that the caller asks for, so a variable that cannot
be used is refused even where it would have been replaced. Otherwise the level and the directory are
those of the last source that gives them, and without any they are the level that goes with the
build and no directory at all. A blank variable is as good as none, but a blank wish of the caller
is refused. The settings of an environment come back in every build if they are written into its
variables, and a journal that is started by the texts of settings is started as the settings
themselves ask for. The command line comes to its settings in this way. -/
theorem resolve_exact :
    (∀ r e, resolve r = .error e ↔ Source.inOrder.findSome? (·.refusal? r) = some e) ∧
    (∀ r s, resolve r = .ok s ↔ Source.inOrder.findSome? (·.refusal? r) = none ∧
      s.level = (Source.inOrder.reverse.findSome? (·.level? r)).getD (.standard r.build) ∧
      s.directory.map (·.path) = Source.inOrder.reverse.findSome? (·.path? r)) ∧
    (∀ environment build e, ofVariables environment build = .error e → ∀ level? directory?,
      resolve { environment, level?, directory?, build } = .error (.ofVariable e)) ∧
    (∀ r text, (∀ c ∈ text.toList, Text.isBlank c) →
      (∀ name, resolve { r with environment := Function.update r.environment name (some text) } =
        resolve { r with environment := Function.update r.environment name none }) ∧
      (r.level? = some text ∨ r.directory? = some text → ∃ e, resolve r = .error e)) ∧
    (∀ environment build s, ofVariables environment build = .ok s →
      ∀ written : String → Option String, written levelVariable = some s.level.name →
        written directoryVariable = s.directory.map (·.path) →
        ∀ other, ofVariables written other = .ok s) ∧
    (∀ s : Settings, Level.ofText s.level.name = .ok s.level ∧
      ∀ directory, s.directory = some directory →
        Directory.ofPath directory.path = .ok directory ∧
        ∀ session : Session,
          session.init s.level.name directory.path = session.initFrom s) ∧
    (∀ words environment build, CommandLine.plan words environment build = do
      let invocation ← (CommandLine.parse words).mapError CommandLine.Halt.outcome
      let settings ←
        (resolve ⟨environment, invocation.level, invocation.directory, build⟩).mapError
          fun e => CommandLine.failure e.message
      return (settings, invocation.command)) := by
  refine ⟨fun r e => resolve_eq_error_iff, fun r s => resolve_eq_ok_iff, ?environment, ?blank,
    ?back, ?texts, plan_eq_resolve⟩
  case environment =>
    intro environment build e he level? directory?
    rw [resolve, he]
    rfl
  case blank =>
    intro r text htext
    constructor
    · intro name
      simp only [resolve, ofVariables, read?_update_blank htext]
    · rintro (hlevel | hdirectory)
      · have hgiven : Source.levelOption.text? r = some text := hlevel
        obtain ⟨cause, hfault⟩ := exists_fault_of_blank htext .levelOption
        exact exists_error_of_fault hgiven hfault
      · have hgiven : Source.directoryOption.text? r = some text := hdirectory
        obtain ⟨cause, hfault⟩ := exists_fault_of_blank htext .directoryOption
        exact exists_error_of_fault hgiven hfault
  case back =>
    intro environment build s h written hlevel hdirectory
    exact ofVariables_writeBack h hlevel hdirectory
  case texts =>
    intro s
    refine ⟨s.level.ofText_name, fun directory hdirectory => ⟨directory.ofPath_path, ?_⟩⟩
    intro session
    rw [Session.init, Session.initFrom, Level.ofText_name, directory.ofPath_path, hdirectory]

/-- A level that cannot be used is refused although another is asked for, and a blank path that is
asked for is refused as well. The path of the variable is replaced, or it loses its blanks and is
read back, also in the other build. -/
theorem resolve_exact_mixed :
    let environment (level : String) (name : String) : Option String :=
      some (if name = levelVariable then level else " /logs ")
    let logs : Directory := ⟨"/logs", by decide⟩
    resolve { environment := environment "loud", level? := some "info" } =
      .error (.ofVariable ⟨levelVariable, .unsupportedLevel "loud"⟩) ∧
    resolve { environment := environment " Warning", directory? := some "/tmp" } =
      .ok { level := .warn, directory := some ⟨"/tmp", by decide⟩ } ∧
    (∃ e, resolve { environment := environment "info", directory? := some " " } = .error e) ∧
    ofVariables (environment " Warning") = .ok { level := .warn, directory := some logs } ∧
    ofVariables (fun name => some (if name = levelVariable then "warn" else "/logs")) .release =
      .ok { level := .warn, directory := some logs } := by
  intro environment logs
  obtain ⟨-, hok, hvariables, hblank, hback, -⟩ := resolve_exact
  have hread : ofVariables (environment " Warning") =
      .ok { level := .warn, directory := some logs } := rfl
  refine ⟨?_, ?_, ?_, hread, ?_⟩
  · exact hvariables _ .debug _ rfl _ _
  · exact (hok _ _).mpr ⟨rfl, rfl, rfl⟩
  · exact (hblank _ " " (List.all_eq_true.mp rfl)).2 (.inr rfl)
  · exact hback _ _ _ hread _ rfl rfl .release

end Settings

end Monthwise
