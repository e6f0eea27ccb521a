import ShaderPreview.Diagnostic.Basic
import ShaderPreview.Text.Place
import ShaderPreview.Text.Search
import ShaderPreview.Text.Word

/-!
# Header injection

Shader source composer (SPEC_FULL.md, section 4.2). Sources may use uniforms and texture channels
without declaring them; their declarations are prepended before compilation, and locations in
diagnostics are mapped back. Channels are declared only for a source that refers to one.
-/

namespace ShaderPreview

open Text

/-- Fullscreen triangle for sources without a vertex stage; the corners are computed from the vertex
index. -/
def fullscreenVertex : String := "@vertex
fn main(@builtin(vertex_index) vertex_index: u32) -> @builtin(position) vec4<f32> \x7b
    var positions = array<vec2<f32>, 3>(
        vec2<f32>(-1.0, -3.0),
        vec2<f32>(3.0, 1.0),
        vec2<f32>(-1.0, 1.0),
    );
    return vec4<f32>(positions[vertex_index], 0.0, 1.0);
\x7d
"

def fullscreenEntry : String := "main"

/-- Declaration in the header: binding, address space, name, type. -/
structure HeaderVariable where
  binding : Nat
  space : String
  name : String
  type : String
  deriving DecidableEq, Repr

def HeaderVariable.declaration (declared : HeaderVariable) : String :=
  s!"@group(0) @binding({declared.binding}) var{declared.space} {declared.name}: {declared.type};\n"

def uniformVariables : List HeaderVariable :=
  [⟨0, "<uniform>", "iResolution", "vec3<f32>"⟩,
   ⟨1, "<uniform>", "iTime", "f32"⟩,
   ⟨2, "<uniform>", "iMouse", "vec4<f32>"⟩]

def channelVariables (channel : Nat) : List HeaderVariable :=
  [⟨3 + 2 * channel, "", s!"iChannel{channel}", "texture_2d<f32>"⟩,
   ⟨4 + 2 * channel, "", s!"iChannel{channel}Sampler", "sampler"⟩]

def headerVariables (textured : Bool) : List HeaderVariable :=
  if textured then uniformVariables ++ (List.range 4).flatMap channelVariables
  else uniformVariables

/-- Header text: an empty line, then one declaration per line. -/
def header (textured : Bool) : String :=
  "\n" ++ String.join ((headerVariables textured).map (·.declaration))

/-- Source for the compiler, with the number of injected lines. -/
structure ComposedSource where
  text : String
  headerLines : Nat
  headerBytes : Nat
  deriving DecidableEq, Repr

def ComposedSource.plain (text : String) : ComposedSource := ⟨text, 0, 0⟩

/-- Puts the header in front of a source. -/
def compose (source : String) (textured : Bool) : ComposedSource :=
  let above := header textured
  ⟨above ++ "\n" ++ source, above.toList.count '\n' + 1, above.utf8ByteSize + 1⟩

/-! ### References to channels -/

def channelName? (text : List Char) : Option (List Char) :=
  match dropWord? "iChannel".toList text with
  | some (c :: rest) => if '0' ≤ c ∧ c ≤ '3' then some rest else none
  | _ => none

def namesChannel (before : Option Char) (text : List Char) : Bool :=
  noWord before && match channelName? text with
    | some rest => noWord rest.head?
    | none => false

def namesChannelFrom (before : Option Char) : List Char → Bool
  | [] => false
  | c :: rest => namesChannel before (c :: rest) || namesChannelFrom (some c) rest

/-- Whole-word search for `iChannel0` to `iChannel3`, comments included. -/
def needsTextures (source : String) : Bool := namesChannelFrom none source.toList

/-! ### Places in the user's source -/

/-- Maps a line of the composed source to the user's source. -/
def userLine (line headerLines : Nat) : Nat := max 1 (line - headerLines)

def ComposedSource.locate (source : ComposedSource) (message : String) :
    Option Place → Diagnostic
  | some place =>
    { Diagnostic.onLine message (userLine place.line source.headerLines) with
      column := some place.column
      offset := place.offset - source.headerBytes
      length := place.length }
  | none => .general message

theorem one_le_userLine (line headerLines : Nat) : 1 ≤ userLine line headerLines := by
  simp only [userLine]
  omega

end ShaderPreview
