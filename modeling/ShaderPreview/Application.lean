import ShaderPreview.Preview.Run

/-!
# The application

The application follows its arguments: it checks a shader or previews one, tells on its output what
was asked for, and complains when something failed. Its exit code is 0 when all went well, 1 when
something failed or a checked shader does not pass, and 2 when the arguments cannot be followed.
-/

namespace ShaderPreview

/-- Standard output, standard error and the exit code of a run. -/
structure ProgramOutcome where
  exitCode : Nat
  output : String
  complaint : String
  deriving DecidableEq, Repr

namespace ProgramOutcome

def success (output : String) : ProgramOutcome := ⟨0, output, ""⟩

def failed (failure : Failure) : ProgramOutcome := ⟨1, "", failure.report⟩

/-- A usage error: exit code 2, nothing on standard output. -/
def refused (fault : UsageFault) : ProgramOutcome := ⟨2, "", s!"error: {fault.message}\n"⟩

def ofCheck : Except Failure CheckResult → ProgramOutcome
  | .ok result => ⟨if result.passed then 0 else 1, result.output, ""⟩
  | .error failure => failed failure

end ProgramOutcome

def versionLine : String := "shadebox 0.1.0\n"

def usageText : String :=
  "Live WGSL shader preview\n\n" ++
  "Usage: shadebox [OPTIONS] [SHADER]\n" ++
  "       shadebox check [--format text|json] SHADER\n\n" ++
  "Options: --manifest PATH, --channel INDEX=IMAGE, --mesh OBJ, --size WIDTHxHEIGHT,\n" ++
  "         --title TITLE, --watch, --help, --version\n"

namespace Application

/-- The parameters of a run: front end, format readers, window system, graphics system. -/
structure Surroundings where
  frontEnd : FrontEnd
  formats : FormatReaders
  windows : WindowSystem
  graphics : Graphics.System
  moment : Moment

def ended : EarlyEnd → ProgramOutcome
  | .help => .success usageText
  | .version => .success versionLine
  | .fault fault => .refused fault

def preview {m : Type → Type} [Monad m] (read : FileReader m) (surroundings : Surroundings)
    (arguments : PreviewArguments) : m ProgramOutcome := do
  match ← PreviewSettings.resolve surroundings.formats.toml read arguments with
  | .error fault => return .failed fault.failure
  | .ok settings =>
    let run ← settings.run surroundings.formats read surroundings.frontEnd surroundings.windows
      surroundings.graphics surroundings.moment
    return match run.outcome.failure? with
      | some failure => .failed failure
      | none => .success ""

/-- Entry point: `manifest?` is the value of `SHADEBOX_MANIFEST` (SPEC_FULL.md, section 11.3). -/
def run {m : Type → Type} [Monad m] (read : FileReader m) (surroundings : Surroundings)
    (fromEnvironment : Option String) (arguments : List String) : m ProgramOutcome := do
  match Arguments.read fromEnvironment arguments with
  | .error reason => return ended reason
  | .ok arguments => match arguments.check with
    | some request => return .ofCheck (← surroundings.frontEnd.runCheck read request)
    | none => preview read surroundings arguments.preview

end Application

end ShaderPreview
