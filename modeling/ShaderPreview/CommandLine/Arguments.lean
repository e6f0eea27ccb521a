import ShaderPreview.Check.Run
import ShaderPreview.CommandLine.Value
import ShaderPreview.CommandLine.Grammar

/-!
# The arguments

The default command previews a shader; `check` validates one (SPEC_FULL.md, section 11.3). Arguments
before the subcommand are kept. The manifest may also be given by the environment.
-/

namespace ShaderPreview

structure PreviewArguments where
  shader : Option Path
  manifest : Option Path
  channels : List ChannelAssignment
  mesh : Option Path
  size : Option CanvasSize
  title : Option String
  watch : Bool
  deriving DecidableEq, Repr

def PreviewArguments.none : PreviewArguments :=
  ⟨.none, .none, [], .none, .none, .none, false⟩

structure Arguments where
  preview : PreviewArguments
  check : Option CheckRequest
  deriving DecidableEq, Repr

/-! ### Values -/

/-- A non-empty path. -/
def asArgumentPath (argument text : String) : Parsing Path :=
  if text.isEmpty then refuseUsage (.emptyPath argument) else .ok ⟨text⟩

def asReportFormat (text : String) : Parsing ReportFormat :=
  if text = "text" then .ok .text
  else if text = "json" then .ok .json
  else refuseUsage (.notOffered "format" text)

def asParsed {ε α : Type} (option : String) (message : ε → String) (result : Except ε α) :
    Parsing α :=
  result.mapError fun fault => .fault (.refused option (message fault))

/-! ### Grammars -/

def helpOption {ρ : Type} : CommandOption ρ := ⟨"help", .ends .help⟩

def previewGrammar : Grammar PreviewArguments where
  options :=
    [⟨"manifest", .takes false fun text arguments => do
        return { arguments with manifest := ← asArgumentPath "--manifest" text }⟩,
     ⟨"channel", .takes true fun text arguments => do
        let channel ← asParsed "channel" AssignmentFault.message (parseAssignment text)
        return { arguments with channels := arguments.channels ++ [channel] }⟩,
     ⟨"mesh", .takes false fun text arguments => do
        return { arguments with mesh := ← asArgumentPath "--mesh" text }⟩,
     ⟨"size", .takes false fun text arguments => do
        let size ← asParsed "size" SizeFault.message (parseSize text)
        return { arguments with size := size }⟩,
     ⟨"title", .takes false fun text arguments => .ok { arguments with title := text }⟩,
     ⟨"watch", .switch fun arguments => { arguments with watch := true }⟩,
     helpOption,
     ⟨"version", .ends .version⟩]
  letters := [('h', .help), ('V', .version)]
  subcommands := ["check", "help"]
  operand := fun text arguments => do
    return { arguments with shader := ← asArgumentPath "SHADER" text }

/-- Arguments of `check`; the shader may not have been read yet. -/
structure CheckArguments where
  shader : Option Path
  format : ReportFormat

def checkGrammar : Grammar CheckArguments where
  options :=
    [⟨"format", .takes false fun text arguments => do
        return { arguments with format := ← asReportFormat text }⟩,
     helpOption]
  letters := [('h', .help)]
  subcommands := []
  operand := fun text arguments => do
    return { arguments with shader := ← asArgumentPath "SHADER" text }

/-! ### Reading -/

def readCheck (arguments : List String) : Parsing CheckRequest := do
  let (state, _) ← checkGrammar.read arguments (.start ⟨none, .text⟩)
  let found := (← state.settle checkGrammar).result
  match found.shader with
  | some shader => return ⟨shader, found.format⟩
  | none => refuseUsage (.missing "SHADER")

def readHelp {α : Type} : List String → Parsing α
  | [] => .error .help
  | word :: rest =>
    if !previewGrammar.subcommands.contains word then refuseUsage (.unknownCommand word)
    else match rest with
      | [] => .error .help
      | surplus :: _ => refuseUsage (.unknownCommand surplus)

def readSubcommand : Option (String × List String) → Parsing (Option CheckRequest)
  | none => .ok none
  | some (name, rest) => if name = "help" then readHelp rest else some <$> readCheck rest

def withManifest (fromEnvironment : Option String) (arguments : PreviewArguments) :
    Parsing PreviewArguments :=
  match arguments.manifest, fromEnvironment with
  | none, some text => do
    return { arguments with manifest := ← asArgumentPath "--manifest" text }
  | _, _ => .ok arguments

def Arguments.read (fromEnvironment : Option String) (arguments : List String) :
    Parsing Arguments := do
  let (state, subcommand) ← previewGrammar.read arguments (.start .none)
  let check ← readSubcommand subcommand
  let state ← state.settle previewGrammar
  return ⟨← withManifest fromEnvironment state.result, check⟩

end ShaderPreview
