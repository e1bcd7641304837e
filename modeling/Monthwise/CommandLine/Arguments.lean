import Monthwise.CommandLine.Command
import Monthwise.Period.Written

/-! # Arguments of the command line

The words of a command line and what they ask for. Words are taken one by one.
Each is an option, the value of the option before it, the name of a command, or
a period for the command; after `--` there are no more options. A value is judged
only when the next word that does not belong to it is taken, so of two mistakes
the one that is reported need not be the one that comes first.
-/

namespace Monthwise.CommandLine

/-- The options that take a value. -/
inductive Setting where
  | level
  | directory
deriving DecidableEq, Repr

/-- An option as it is shown in messages. -/
def Setting.shown : Setting → String
  | .level => "--log-level <LOG_LEVEL>"
  | .directory => "--log-dir <LOG_DIR>"

/-- A place for periods behind the name of a command. -/
structure Parameter where
  name : String
  /-- It takes all periods that are left, at least one. -/
  repeated : Bool
deriving DecidableEq, Repr

/-- A parameter as it is shown in messages. -/
def Parameter.shown (p : Parameter) : String :=
  if p.repeated then s!"<{p.name}>..." else s!"<{p.name}>"

/-- The names of the commands. -/
inductive CommandName where
  | ping
  | version
  | months
  | reduce
  | subtract
  | covered
  | json
deriving DecidableEq, Repr

namespace CommandName

/-- The command of this name. -/
def ofText? : String → Option CommandName
  | "ping" => some .ping
  | "version" => some .version
  | "months" => some .months
  | "reduce" => some .reduce
  | "subtract" => some .subtract
  | "covered" => some .covered
  | "json" => some .json
  | _ => none

/-- The periods that a command takes, in order. -/
def parameters : CommandName → List Parameter
  | .ping => []
  | .version => []
  | .months => [⟨"PERIOD", false⟩]
  | .reduce => [⟨"PERIODS", true⟩]
  | .subtract => [⟨"BASE", false⟩, ⟨"REMOVE", true⟩]
  | .covered => [⟨"TARGET", false⟩, ⟨"PERIODS", true⟩]
  | .json => [⟨"PERIOD", false⟩]

/-- The command with the periods of its first and its second parameter, if none is missing. -/
def command? : CommandName → (first second : List Period) → Option Command
  | .ping, _, _ => some .ping
  | .version, _, _ => some .version
  | .months, p :: _, _ => some (.months p)
  | .reduce, p :: ps, _ => some (.reduce (p :: ps))
  | .subtract, base :: _, p :: ps => some (.subtract base (p :: ps))
  | .covered, target :: _, p :: ps => some (.covered target (p :: ps))
  | .json, p :: _, _ => some (.json p)
  | _, _, _ => none

end CommandName

/-- Why a command line is not understood. -/
inductive UsageError where
  | nothing
  | missingCommand
  | unknownCommand (word : String)
  | unexpectedArgument (word : String)
  | unexpectedValue (value option : String)
  | missingArguments
  | invalidValue (value : String) (parameter : Parameter) (cause : ReadError)
  | missingValue (setting : Setting)
  | repeated (setting : Setting)
deriving DecidableEq, Repr

/-- Why the words are not read to the end: a mistake, or a request that needs no more of them. -/
inductive Halt where
  | help
  | version
  | usage (e : UsageError)
deriving DecidableEq, Repr

/-- What was taken but not yet judged. -/
inductive Pending where
  | nothing
  | setting (which : Setting) (value : Option String)
  | periods (place : Nat) (parameter : Parameter) (texts : List String)
deriving DecidableEq, Repr

/-- What is known after some of the words. -/
structure Progress where
  pending : Pending := .nothing
  level : Option String := none
  directory : Option String := none
  /-- The number of parameters that take no more words. -/
  filled : Nat := 0
  /-- The periods that were read, each with the place of its parameter. -/
  periods : List (Nat × Period) := []
  /-- There are no more options. -/
  literal : Bool := false
deriving DecidableEq, Repr

/-- What a command line asks for. -/
structure Invocation where
  level : Option String
  directory : Option String
  command : Command
deriving DecidableEq, Repr

namespace Progress

variable (s : Progress)

/-- Gives an option its value. No option may stand twice, and a directory must not be empty. -/
def set (which : Setting) (value : String) : Except Halt Progress :=
  match which with
  | .level =>
    if s.level.isSome then .error (.usage (.repeated .level))
    else .ok { s with level := some value }
  | .directory =>
    if s.directory.isSome then .error (.usage (.repeated .directory))
    else if value = "" then .error (.usage (.missingValue .directory))
    else .ok { s with directory := some value }

/-- Reads the periods of a parameter. -/
def readPeriods (place : Nat) (parameter : Parameter) (texts : List String) :
    Except Halt (List (Nat × Period)) :=
  texts.mapM fun text =>
    match Period.parseAnyLength text with
    | .ok p => .ok (place, p)
    | .error e => .error (.usage (.invalidValue text parameter e))

/-- Judges what is pending. -/
def settle : Except Halt Progress :=
  match s.pending with
  | .nothing => .ok s
  | .setting which none => .error (.usage (.missingValue which))
  | .setting which (some value) => { s with pending := .nothing }.set which value
  | .periods place parameter texts => do
    let more ← readPeriods place parameter texts
    return { s with pending := .nothing, periods := s.periods ++ more }

/-- A word that begins with two hyphens, without them. `top` says that no command was named. -/
def long (top : Bool) (cs : List Char) : Except Halt Progress :=
  let name := String.ofList (cs.takeWhile (· ≠ '='))
  let value? :=
    match cs.dropWhile (· ≠ '=') with
    | [] => none
    | _ :: value => some (String.ofList value)
  let takeSetting (which : Setting) : Except Halt Progress := do
    let s ← s.settle
    match value? with
    | some value => s.set which value
    | none => return { s with pending := .setting which none }
  let halt (request : Halt) : Except Halt Progress :=
    match value? with
    | some value => .error (.usage (.unexpectedValue value s!"--{name}"))
    | none => do
      let _ ← s.settle
      .error request
  if name = "log-level" then takeSetting .level
  else if name = "log-dir" then takeSetting .directory
  else if name = "help" then halt .help
  else if name = "version" ∧ top then halt .version
  else .error (.usage (.unexpectedArgument s!"--{name}"))

/-- A word that begins with one hyphen, which is followed by the character `c`. -/
def short (top : Bool) (c : Char) : Except Halt Progress :=
  if c = 'h' then do
    let _ ← s.settle
    .error .help
  else if c = 'V' ∧ top then do
    let _ ← s.settle
    .error .version
  else .error (.usage (.unexpectedArgument s!"-{c}"))

/-- An option before this word still waits for its value. -/
def awaitsValue : Bool := s.pending matches .setting _ none

/-- Takes a word that is an option or the value of one; `none` if it is neither. -/
def option? (top : Bool) (word : String) : Option (Except Halt Progress) :=
  if s.literal then none
  else
    match word.toList with
    | ['-', '-'] => some (.ok { s with literal := true })
    | '-' :: '-' :: rest => some (s.long top rest)
    | '-' :: c :: _ => some (s.short top c)
    | _ =>
      match s.pending with
      | .setting which none => some (.ok { s with pending := .setting which (some word) })
      | _ => none

/-- Takes a word as a period for the next parameter. -/
def plain (parameters : List Parameter) (word : String) : Except Halt Progress :=
  match parameters[s.filled]? with
  | none => .error (.usage (.unexpectedArgument word))
  | some parameter =>
    let filled := if parameter.repeated then s.filled else s.filled + 1
    let fresh : Except Halt Progress := do
      let t ← s.settle
      return { t with pending := .periods s.filled parameter [word], filled }
    match s.pending with
    | .periods place _ texts =>
      if place = s.filled then
        .ok { s with pending := .periods place parameter (texts ++ [word]) }
      else fresh
    | _ => fresh

/-- Takes the words behind the name of a command. -/
def takeAll (parameters : List Parameter) (s : Progress) : List String → Except Halt Progress
  | [] => s.settle
  | word :: rest => do
    let s ← (s.option? false word).getD (s.plain parameters word)
    takeAll parameters s rest

/-- The periods of the parameter in this place. -/
def periodsAt (place : Nat) : List Period :=
  s.periods.filterMap fun (at_, p) => if at_ = place then some p else none

end Progress

/-- The words behind a request for help name at most a command. -/
def helpFor : List String → Halt
  | [] => .help
  | [word] =>
    if word = "help" ∨ (CommandName.ofText? word).isSome then .help
    else .usage (.unknownCommand word)
  | word :: next :: _ =>
    if word = "help" ∨ (CommandName.ofText? word).isSome then .usage (.unknownCommand next)
    else .usage (.unknownCommand word)

/-- What a command with the words behind it asks for. Options before its name are in `outer`;
those behind it override them. -/
def invoke (outer : Progress) (name : CommandName) (words : List String) :
    Except Halt Invocation := do
  let inner ← Progress.takeAll name.parameters {} words
  match name.command? (inner.periodsAt 0) (inner.periodsAt 1) with
  | none => .error (.usage .missingArguments)
  | some command =>
    let outer ← outer.settle
    return {
      level := inner.level.or outer.level
      directory := inner.directory.or outer.directory
      command }

/-- Takes words until a command is named. -/
def invocation (s : Progress) : List String → Except Halt Invocation
  | [] => do
    let s ← s.settle
    if s.level.isNone ∧ s.directory.isNone then .error (.usage .nothing)
    else .error (.usage .missingCommand)
  | word :: rest =>
    let named? := CommandName.ofText? word
    if !s.literal && !s.awaitsValue && word == "help" then .error (helpFor rest)
    else
      match named?, s.literal || s.awaitsValue with
      | some name, false => invoke s name rest
      | _, _ =>
        match s.option? true word with
        | some taken => do
          let s ← taken
          invocation s rest
        | none =>
          if s.literal ∧ (named?.isSome ∨ word = "help") then
            .error (.usage (.unexpectedArgument word))
          else
            .error (.usage (.unknownCommand word))

/-- What the words of a command line ask for. -/
def parse (words : List String) : Except Halt Invocation := invocation {} words

end Monthwise.CommandLine
