import Mathlib
import Monthwise.CommandLine.Arguments
import Monthwise.Proofs.Json.Decoders
import Monthwise.Proofs.Period.PlainYears

/-! # Periods on the command line

Whatever stands on a command line besides them, the periods of the command that is asked
for were read from words. And words that can be read as periods are arguments: none of
them is taken for an option.
-/

namespace Monthwise

/-- The periods that a command was given. -/
def Command.periods : Command → List Period
  | .ping => []
  | .version => []
  | .months p => [p]
  | .reduce ps => ps
  | .subtract base removals => base :: removals
  | .covered target ps => target :: ps
  | .json p => [p]

namespace CommandLine

theorem CommandName.mem_of_command? {name : CommandName} {first second : List Period}
    {command : Command} (h : name.command? first second = some command) {p : Period}
    (hp : p ∈ command.periods) : p ∈ first ∨ p ∈ second := by
  unfold command? at h
  split at h <;> cases h
  all_goals
    simp only [Command.periods, List.mem_cons, List.not_mem_nil, or_false] at hp
  all_goals
    simp only [List.mem_cons]
    tauto

namespace Progress

variable {s t : Progress}

/-- All periods that were read lie in the years of four digits. -/
def IsPlain (s : Progress) : Prop := ∀ entry ∈ s.periods, entry.2.HasPlainYears

theorem periods_set {which : Setting} {value : String} (h : s.set which value = .ok t) :
    t.periods = s.periods := by
  unfold set at h
  cases which with
  | level =>
      simp only at h
      split_ifs at h
      obtain rfl := Except.ok.inj h
      rfl
  | directory =>
      simp only at h
      split_ifs at h
      obtain rfl := Except.ok.inj h
      rfl

theorem IsPlain.set {which : Setting} {value : String} (hs : s.IsPlain)
    (h : s.set which value = .ok t) : t.IsPlain := by
  unfold IsPlain
  rw [periods_set h]
  exact hs

theorem plainYears_of_readPeriods {place : Nat} {parameter : Parameter} {texts : List String}
    {more : List (Nat × Period)} (h : readPeriods place parameter texts = .ok more) :
    ∀ entry ∈ more, entry.2.HasPlainYears := by
  induction texts generalizing more with
  | nil =>
      obtain rfl := Except.ok.inj h
      intro entry hentry
      cases hentry
  | cons text rest ih =>
      rw [readPeriods, List.mapM_cons, Json.bind_eq_ok_iff] at h
      obtain ⟨entry, hentry, h⟩ := h
      obtain ⟨others, hothers, h⟩ := Json.bind_eq_ok_iff.mp h
      obtain rfl := Except.ok.inj h
      rintro entry' (_ | ⟨_, hmem⟩)
      · split at hentry
        · next p hp =>
            obtain rfl := Except.ok.inj hentry
            exact Period.plainYears_of_parseAnyLength hp
        · cases hentry
      · exact ih hothers entry' hmem

theorem IsPlain.settle (hs : s.IsPlain) (h : s.settle = .ok t) : t.IsPlain := by
  unfold Progress.settle at h
  split at h
  · obtain rfl := Except.ok.inj h
    exact hs
  · cases h
  · have hnothing : IsPlain { s with pending := .nothing } := hs
    exact hnothing.set h
  · obtain ⟨more, hmore, h⟩ := Json.bind_eq_ok_iff.mp h
    obtain rfl := Except.ok.inj h
    intro entry hentry
    rcases List.mem_append.mp hentry with hold | hnew
    · exact hs entry hold
    · exact plainYears_of_readPeriods hmore entry hnew

/-- What is judged before a word is taken was read before it. -/
theorem IsPlain.bind_settle {f : Progress → Except Halt Progress} (hs : s.IsPlain)
    (h : s.settle >>= f = .ok t) (hf : ∀ u : Progress, u.IsPlain → f u = .ok t → t.IsPlain) :
    t.IsPlain := by
  obtain ⟨u, hu, h⟩ := Json.bind_eq_ok_iff.mp h
  exact hf u (hs.settle hu) h

theorem IsPlain.long {top : Bool} {cs : List Char} (hs : s.IsPlain) (h : s.long top cs = .ok t) :
    t.IsPlain := by
  have hrefused {α : Type} {x : Except Halt α} {request : Halt}
      (h : (x >>= fun _ => (.error request : Except Halt Progress)) = .ok t) : False := by
    obtain ⟨_, -, h⟩ := Json.bind_eq_ok_iff.mp h
    cases h
  unfold Progress.long at h
  simp only at h
  split_ifs at h
  case pos | pos =>
    refine hs.bind_settle h fun u hu h => ?_
    split at h
    · exact hu.set h
    · obtain rfl := Except.ok.inj h
      exact hu
  all_goals
    split at h
    · cases h
    · exact (hrefused h).elim

theorem short_ne_ok {top : Bool} {c : Char} : s.short top c ≠ .ok t := by
  intro h
  unfold short at h
  split_ifs at h
  all_goals
    obtain ⟨_, -, h⟩ := Json.bind_eq_ok_iff.mp h
    cases h

theorem IsPlain.option? {top : Bool} {word : String} {taken : Except Halt Progress}
    (hs : s.IsPlain) (h : s.option? top word = some taken) (ht : taken = .ok t) : t.IsPlain := by
  unfold Progress.option? at h
  split_ifs at h
  split at h
  · obtain rfl := Option.some.inj h
    obtain rfl := Except.ok.inj ht
    exact hs
  · obtain rfl := Option.some.inj h
    exact hs.long ht
  · obtain rfl := Option.some.inj h
    exact absurd ht short_ne_ok
  · split at h
    · obtain rfl := Option.some.inj h
      obtain rfl := Except.ok.inj ht
      exact hs
    · cases h

theorem IsPlain.plain {parameters : List Parameter} {word : String} (hs : s.IsPlain)
    (h : s.plain parameters word = .ok t) : t.IsPlain := by
  have hfresh {parameter : Parameter} {filled : Nat}
      (h : (do
        let t ← s.settle
        return { t with pending := .periods s.filled parameter [word], filled }) = .ok t) :
      t.IsPlain := by
    refine hs.bind_settle h fun u hu h => ?_
    obtain rfl := Except.ok.inj h
    exact hu
  unfold Progress.plain at h
  split at h
  · cases h
  · simp only at h
    split at h
    · split_ifs at h
      · obtain rfl := Except.ok.inj h
        exact hs
      · exact hfresh h
      · exact hfresh h
    · exact hfresh h

theorem IsPlain.takeAll {parameters : List Parameter} {words : List String} (hs : s.IsPlain)
    (h : takeAll parameters s words = .ok t) : t.IsPlain := by
  induction words generalizing s with
  | nil => exact hs.settle h
  | cons word rest ih =>
      rw [Progress.takeAll, Json.bind_eq_ok_iff] at h
      obtain ⟨u, hu, h⟩ := h
      refine ih ?_ h
      cases hoption : s.option? false word with
      | some taken =>
          rw [hoption, Option.getD_some] at hu
          exact hs.option? hoption hu
      | none =>
          rw [hoption, Option.getD_none] at hu
          exact hs.plain hu

end Progress

theorem Progress.IsPlain.periodsAt {s : Progress} (hs : s.IsPlain) {place : Nat} {p : Period}
    (hp : p ∈ s.periodsAt place) : p.HasPlainYears := by
  obtain ⟨⟨place', q⟩, hentry, heq⟩ := List.mem_filterMap.mp hp
  simp only at heq
  split_ifs at heq
  obtain rfl := Option.some.inj heq
  exact hs _ hentry

theorem plainYears_of_invoke {outer : Progress} {name : CommandName} {words : List String}
    {asked : Invocation} (h : invoke outer name words = .ok asked) :
    ∀ p ∈ asked.command.periods, p.HasPlainYears := by
  obtain ⟨inner, hinner, h⟩ := Json.bind_eq_ok_iff.mp h
  have hplain : inner.IsPlain := Progress.IsPlain.takeAll (by simp [Progress.IsPlain]) hinner
  split at h
  · cases h
  · next command hcommand =>
      obtain ⟨outer, -, h⟩ := Json.bind_eq_ok_iff.mp h
      obtain rfl := Except.ok.inj h
      intro p hp
      rcases CommandName.mem_of_command? hcommand hp with hfirst | hsecond
      · exact hplain.periodsAt hfirst
      · exact hplain.periodsAt hsecond

theorem plainYears_of_invocation {s : Progress} {words : List String} {asked : Invocation}
    (h : invocation s words = .ok asked) : ∀ p ∈ asked.command.periods, p.HasPlainYears := by
  induction words generalizing s with
  | nil =>
      obtain ⟨u, -, h⟩ := Json.bind_eq_ok_iff.mp h
      split_ifs at h
  | cons word rest ih =>
      rw [invocation] at h
      split at h
      · cases h
      · split at h
        · exact plainYears_of_invoke h
        · split at h
          · obtain ⟨u, -, h⟩ := Json.bind_eq_ok_iff.mp h
            exact ih h
          · split_ifs at h

/-- The periods of the command that is asked for lie in the years of four digits. -/
theorem plainYears_of_parse {words : List String} {asked : Invocation}
    (h : parse words = .ok asked) : ∀ p ∈ asked.command.periods, p.HasPlainYears :=
  plainYears_of_invocation h

/-- Each text is read as the period beside it. -/
abbrev Reads (texts : List String) (ps : List Period) : Prop :=
  List.Forall₂ (fun text p => Period.parseAnyLength text = .ok p) texts ps

namespace Progress

variable {s : Progress} {word text : String} {p : Period} {ps : List Period} {texts : List String}

theorem option?_of_read {top : Bool} (hs : s.awaitsValue = false)
    (h : Period.parseAnyLength word = .ok p) : s.option? top word = none := by
  have hhead := Period.head_of_parseAnyLength h
  unfold option?
  split_ifs
  · rfl
  · split
    · next heq => exact absurd (by rw [heq]; rfl) hhead
    · next heq => exact absurd (by rw [heq]; rfl) hhead
    · next heq => exact absurd (by rw [heq]; rfl) hhead
    · split
      · next hpending => simp [awaitsValue, hpending] at hs
      · rfl

theorem readPeriods_of_reads {place : Nat} {parameter : Parameter} (h : Reads texts ps) :
    readPeriods place parameter texts = .ok (ps.map fun p => (place, p)) := by
  induction h with
  | nil => rfl
  | cons hp _ ih =>
      simp only [readPeriods] at ih
      rw [readPeriods, List.mapM_cons, hp, ih]
      rfl

theorem takeAll_cons_of_read {parameters : List Parameter} (hs : s.awaitsValue = false)
    (h : Period.parseAnyLength word = .ok p) (rest : List String) :
    takeAll parameters s (word :: rest) =
      s.plain parameters word >>= fun s => takeAll parameters s rest := by
  rw [takeAll, option?_of_read hs h]
  rfl

/-- A parameter that is not full takes all the words that are left. -/
theorem takeAll_of_reads {parameters : List Parameter} {parameter : Parameter} {more : List String}
    (hparameter : parameters[s.filled]? = some parameter)
    (hpending : s.pending = .periods s.filled parameter texts) (h : Reads more ps) :
    takeAll parameters s more =
      settle { s with pending := .periods s.filled parameter (texts ++ more) } := by
  induction h generalizing s texts with
  | nil =>
      rw [takeAll, List.append_nil, ← hpending]
  | @cons word p more ps hp _ ih =>
      have hplain : s.plain parameters word =
          .ok { s with pending := .periods s.filled parameter (texts ++ [word]) } := by
        simp only [plain, hparameter, hpending, ↓reduceIte]
      have hrest := ih (s := { s with pending := .periods s.filled parameter (texts ++ [word]) })
        hparameter rfl
      rw [List.append_assoc] at hrest
      rw [takeAll_cons_of_read (by simp [awaitsValue, hpending]) hp, hplain]
      exact hrest

/-- Judging the words of a parameter adds their periods. -/
theorem settle_of_reads {place : Nat} {parameter : Parameter}
    (hpending : s.pending = .periods place parameter texts) (h : Reads texts ps) :
    s.settle = .ok
      { s with pending := .nothing, periods := s.periods ++ ps.map fun p => (place, p) } := by
  simp only [settle, hpending, readPeriods_of_reads h]
  rfl

theorem takeAll_one {name : String} (h : Period.parseAnyLength text = .ok p) :
    takeAll [⟨name, false⟩] {} [text] = .ok { filled := 1, periods := [(0, p)] } := by
  have hplain : plain {} [⟨name, false⟩] text =
      .ok { pending := .periods 0 ⟨name, false⟩ [text], filled := 1 } := rfl
  rw [takeAll_cons_of_read rfl h, hplain]
  simp only [bind, Except.bind, takeAll]
  rw [settle_of_reads rfl (.cons h .nil)]
  rfl

theorem takeAll_many {name : String} (h : Period.parseAnyLength text = .ok p)
    (hmore : Reads texts ps) :
    takeAll [⟨name, true⟩] {} (text :: texts) =
      .ok { periods := (p :: ps).map fun p => (0, p) } := by
  have hplain : plain {} [⟨name, true⟩] text =
      .ok { pending := .periods 0 ⟨name, true⟩ [text] } := rfl
  rw [takeAll_cons_of_read rfl h, hplain]
  change takeAll _ _ texts = _
  rw [takeAll_of_reads rfl rfl hmore, settle_of_reads rfl (.cons h hmore)]
  rfl

/-- Two parameters, of which the second repeats. -/
theorem takeAll_one_many {name name' word : String} {q : Period}
    (hfirst : Period.parseAnyLength word = .ok q) (h : Period.parseAnyLength text = .ok p)
    (hmore : Reads texts ps) :
    takeAll [⟨name, false⟩, ⟨name', true⟩] {} (word :: text :: texts) =
      .ok { filled := 1, periods := (0, q) :: (p :: ps).map fun p => (1, p) } := by
  have hplain : plain {} [⟨name, false⟩, ⟨name', true⟩] word =
      .ok { pending := .periods 0 ⟨name, false⟩ [word], filled := 1 } := rfl
  have hplain' : plain { pending := .periods 0 ⟨name, false⟩ [word], filled := 1 }
      [⟨name, false⟩, ⟨name', true⟩] text =
        .ok { pending := .periods 1 ⟨name', true⟩ [text], filled := 1, periods := [(0, q)] } := by
    -- the word of the first parameter is judged before the second takes its first
    change settle _ >>= _ = _
    rw [settle_of_reads rfl (.cons hfirst .nil)]
    rfl
  rw [takeAll_cons_of_read rfl hfirst, hplain]
  change takeAll _ _ (text :: texts) = _
  rw [takeAll_cons_of_read rfl h, hplain']
  change takeAll _ _ texts = _
  rw [takeAll_of_reads rfl rfl hmore, settle_of_reads rfl (.cons h hmore)]
  rfl

end Progress

section Commands

variable {word text : String} {texts : List String} {p q : Period} {ps : List Period}

theorem invoke_of_takeAll {name : CommandName} {words : List String} {inner : Progress}
    {command : Command} (hinner : Progress.takeAll name.parameters {} words = .ok inner)
    (hlevel : inner.level = none) (hdirectory : inner.directory = none)
    (hcommand : name.command? (inner.periodsAt 0) (inner.periodsAt 1) = some command) :
    invoke {} name words = .ok ⟨none, none, command⟩ := by
  simp only [invoke, hinner, bind, Except.bind, hcommand, hlevel, hdirectory]
  rfl

theorem periodsAt_place (place : Nat) (ps : List Period) :
    Progress.periodsAt { periods := ps.map fun p => (place, p) } place = ps := by
  simp [Progress.periodsAt, List.filterMap_map]

theorem periodsAt_places (q : Period) (ps : List Period) :
    Progress.periodsAt { periods := (0, q) :: ps.map fun p => (1, p) } 0 = [q] ∧
      Progress.periodsAt { periods := (0, q) :: ps.map fun p => (1, p) } 1 = ps := by
  simp [Progress.periodsAt, List.filterMap_map]

theorem parse_months (h : Period.parseAnyLength text = .ok p) :
    parse ["months", text] = .ok ⟨none, none, .months p⟩ := by
  change invoke {} .months [text] = _
  exact invoke_of_takeAll (Progress.takeAll_one h) rfl rfl rfl

theorem parse_json (h : Period.parseAnyLength text = .ok p) :
    parse ["json", text] = .ok ⟨none, none, .json p⟩ := by
  change invoke {} .json [text] = _
  exact invoke_of_takeAll (Progress.takeAll_one h) rfl rfl rfl

theorem parse_reduce (h : Period.parseAnyLength text = .ok p) (hmore : Reads texts ps) :
    parse ("reduce" :: text :: texts) = .ok ⟨none, none, .reduce (p :: ps)⟩ := by
  change invoke {} .reduce (text :: texts) = _
  refine invoke_of_takeAll (Progress.takeAll_many h hmore) rfl rfl ?_
  rw [periodsAt_place]
  rfl

theorem parse_subtract (hfirst : Period.parseAnyLength word = .ok q)
    (h : Period.parseAnyLength text = .ok p) (hmore : Reads texts ps) :
    parse ("subtract" :: word :: text :: texts) = .ok ⟨none, none, .subtract q (p :: ps)⟩ := by
  change invoke {} .subtract (word :: text :: texts) = _
  refine invoke_of_takeAll (Progress.takeAll_one_many hfirst h hmore) rfl rfl ?_
  obtain ⟨hzero, hone⟩ := periodsAt_places q (p :: ps)
  exact congrArg₂ _ hzero hone

theorem parse_covered (hfirst : Period.parseAnyLength word = .ok q)
    (h : Period.parseAnyLength text = .ok p) (hmore : Reads texts ps) :
    parse ("covered" :: word :: text :: texts) = .ok ⟨none, none, .covered q (p :: ps)⟩ := by
  change invoke {} .covered (word :: text :: texts) = _
  refine invoke_of_takeAll (Progress.takeAll_one_many hfirst h hmore) rfl rfl ?_
  obtain ⟨hzero, hone⟩ := periodsAt_places q (p :: ps)
  exact congrArg₂ _ hzero hone

end Commands

end CommandLine

end Monthwise
