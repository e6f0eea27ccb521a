import ShaderPreview.Text.Search
import ShaderPreview.Text.Similar

/-!
# Command line parsing

Long options with `--name value` or `--name=value`, single-letter options, subcommands and one
operand; `--` ends the options. A value is validated only once the next argument has been
recognised, so an unknown argument is reported first.
-/

namespace ShaderPreview

inductive UsageFault where
  | unknown (argument : String)
  | unknownCommand (word : String)
  | noValue (option : String)
  | surplusValue (option : String)
  | emptyPath (argument : String)
  | notOffered (option value : String)
  | refused (option reason : String)
  | repeated (option : String)
  | missing (operand : String)
  deriving DecidableEq, Repr

def UsageFault.message : UsageFault → String
  | .unknown argument => s!"unexpected argument {argument}"
  | .unknownCommand word => s!"unrecognized subcommand {word}"
  | .noValue option => s!"a value is required for --{option}"
  | .surplusValue option => s!"no value is expected for --{option}"
  | .emptyPath argument => s!"a value is required for {argument}"
  | .notOffered option value => s!"invalid value {value} for --{option}"
  | .refused option reason => s!"invalid value for --{option}: {reason}"
  | .repeated option => s!"--{option} cannot be used multiple times"
  | .missing operand => s!"the required argument {operand} was not provided"

inductive EarlyEnd where
  | help
  | version
  | fault (fault : UsageFault)
  deriving DecidableEq, Repr

abbrev Parsing (α : Type) := Except EarlyEnd α

def refuseUsage {α : Type} (fault : UsageFault) : Parsing α := .error (.fault fault)

inductive OptionAction (ρ : Type) where
  /-- Ends parsing, as `--help` does. -/
  | ends (reason : EarlyEnd)
  /-- A flag; it may be given once. -/
  | switch (turnOn : ρ → ρ)
  /-- An option with a value. -/
  | takes (repeatable : Bool) (keep : String → ρ → Parsing ρ)

structure CommandOption (ρ : Type) where
  name : String
  action : OptionAction ρ

/-- A command; `ρ` is the record its arguments are collected in. -/
structure Grammar (ρ : Type) where
  options : List (CommandOption ρ)
  /-- Single-letter options that end parsing. -/
  letters : List (Char × EarlyEnd)
  subcommands : List String
  operand : String → ρ → Parsing ρ

/-- An argument that has been recognised and not been applied yet. -/
inductive Pending (ρ : Type) where
  | nothing
  | value (option : CommandOption ρ) (repeatable : Bool) (keep : String → ρ → Parsing ρ)
      (given : Option String)
  | operand (text : String)

structure ArgumentState (ρ : Type) where
  result : ρ
  pending : Pending ρ
  /-- Names of the options given so far. -/
  seen : List String
  hasOperand : Bool
  onlyOperands : Bool

namespace ArgumentState

variable {ρ : Type}

def start (standard : ρ) : ArgumentState ρ := ⟨standard, .nothing, [], false, false⟩

/-- The next argument is the value of an option. -/
def isAwaiting (state : ArgumentState ρ) : Bool :=
  match state.pending with
  | .value _ _ _ none => true
  | _ => false

/-- Records the use of an option; repeating a non-repeatable one is an error. -/
def note (name : String) (repeatable : Bool) (state : ArgumentState ρ) :
    Parsing (ArgumentState ρ) :=
  if !repeatable && state.seen.contains name then refuseUsage (.repeated name)
  else .ok { state with seen := name :: state.seen }

def keepValue (name : String) (repeatable : Bool) (keep : String → ρ → Parsing ρ)
    (value : String) (state : ArgumentState ρ) : Parsing (ArgumentState ρ) := do
  let state ← state.note name repeatable
  let result ← keep value state.result
  return { state with result := result }

/-- Applies the pending argument. -/
def settle (grammar : Grammar ρ) (state : ArgumentState ρ) : Parsing (ArgumentState ρ) :=
  let settled := { state with pending := .nothing }
  match state.pending with
  | .nothing => .ok settled
  | .operand text => do
    let result ← grammar.operand text state.result
    return { settled with result := result }
  | .value option _ _ none => refuseUsage (.noValue option.name)
  | .value option repeatable keep (some value) =>
    settled.keepValue option.name repeatable keep value

end ArgumentState

namespace Grammar

variable {ρ : Type}

/-- A long option, without its dashes, and the value attached with `=`. -/
def readOption (grammar : Grammar ρ) (name : String) (attached : Option String)
    (state : ArgumentState ρ) : Parsing (ArgumentState ρ) :=
  match grammar.options.find? (·.name == name) with
  | none => refuseUsage (.unknown ("--" ++ name))
  | some option => match option.action, attached with
    | .takes repeatable keep, some value => do
      (← state.settle grammar).keepValue name repeatable keep value
    | .takes repeatable keep, none => do
      return { ← state.settle grammar with pending := .value option repeatable keep none }
    | _, some _ => refuseUsage (.surplusValue name)
    | .switch turnOn, none => do
      let state ← (← state.settle grammar).note name false
      return { state with result := turnOn state.result }
    | .ends reason, none => do
      discard (state.settle grammar)
      .error reason

def readLetter (grammar : Grammar ρ) (letter : Char) (state : ArgumentState ρ) :
    Parsing (ArgumentState ρ) :=
  match grammar.letters.lookup letter with
  | none => refuseUsage (.unknown (String.ofList ['-', letter]))
  | some reason => do
    discard (state.settle grammar)
    .error reason

/-- Error for a second operand, which may be a mistyped subcommand. -/
def surplusOperand (grammar : Grammar ρ) (word : String) (onlyOperands : Bool) : UsageFault :=
  if onlyOperands && grammar.subcommands.contains word then .unknown word
  else if grammar.subcommands.any fun name => Text.isSimilar word.toList name.toList then
    .unknownCommand word
  else .unknown word

def readOperand (grammar : Grammar ρ) (word : String) (state : ArgumentState ρ) :
    Parsing (ArgumentState ρ) :=
  if state.hasOperand then refuseUsage (grammar.surplusOperand word state.onlyOperands)
  else do
    return { ← state.settle grammar with pending := .operand word, hasOperand := true }

/-- An option value or an operand. -/
def readWord (grammar : Grammar ρ) (word : String) (state : ArgumentState ρ) :
    Parsing (ArgumentState ρ) :=
  match state.pending with
  | .value option repeatable keep none =>
    .ok { state with pending := .value option repeatable keep (some word) }
  | _ => grammar.readOperand word state

def readArgument (grammar : Grammar ρ) (argument : String) (state : ArgumentState ρ) :
    Parsing (ArgumentState ρ) :=
  if state.onlyOperands then grammar.readOperand argument state
  else match argument.toList with
    | ['-', '-'] => .ok { state with onlyOperands := true }
    | '-' :: '-' :: option => match Text.cutAt? (· == '=') option with
      | some (name, value) =>
        grammar.readOption (String.ofList name) (some (String.ofList value)) state
      | none => grammar.readOption (String.ofList option) none state
    | '-' :: letter :: _ => grammar.readLetter letter state
    | _ => grammar.readWord argument state

/-- Parses up to a subcommand; returns the record, and the subcommand with its arguments. -/
def read (grammar : Grammar ρ) :
    List String → ArgumentState ρ → Parsing (ArgumentState ρ × Option (String × List String))
  | [], state => .ok (state, none)
  | argument :: rest, state =>
    if !state.onlyOperands && !state.isAwaiting && grammar.subcommands.contains argument then
      .ok (state, some (argument, rest))
    else do grammar.read rest (← grammar.readArgument argument state)

end Grammar

end ShaderPreview
