import ShaderPreview.Shader.Compilation
import ShaderPreview.Wgsl.Token
import ShaderPreview.Text.Quoted

/-!
# Front end errors

Errors of parsing and lowering, with the span they refer to and their message.
-/

namespace ShaderPreview.Wgsl

open Text

/-- What the parser expected. -/
inductive Wanted where
  | mark (mark : Mark)
  | word (text : String)
  | identifier
  | expression
  | assignment
  | switchItem
  | workgroupSizeEnd
  | globalItem
  | variable
  | function
  | type
  | diagnosticAttribute
  | extensionListEnd
  | extensionListMore
  deriving DecidableEq, Repr

def Mark.describe : Mark → String
  | .separator c | .paren c => s!"`{c}`"
  | .attribute => "@"
  | .operation c => s!"operation (`{c}`)"
  | .logical c => s!"logical operation (`{c}`)"
  | .shift c => s!"bitshift (`{c}{c}`)"
  | .assignment c =>
    if c = '<' ∨ c = '>' then s!"bitshift (`{c}{c}=`)" else s!"operation (`{c}=`)"
  | .increment => "increment operation"
  | .decrement => "decrement operation"
  | .arrow => "->"

def Wanted.describe : Wanted → String
  | .mark m => m.describe
  | .word text => text
  | .identifier => "identifier"
  | .expression => "expression"
  | .assignment => "assignment or increment/decrement"
  | .switchItem => "switch item (`case` or `default`) or a closing curly bracket to signify the " ++
      "end of the switch statement (`\x7d`)"
  | .workgroupSizeEnd => "workgroup size separator (`,`) or a closing parenthesis"
  | .globalItem => "global item (`struct`, `const`, `var`, `alias`, `fn`, `diagnostic`, " ++
      "`enable`, `requires`, `;`) or the end of the file"
  | .variable => "variable access"
  | .function => "function name"
  | .type => "type"
  | .diagnosticAttribute => "the `diagnostic` attribute identifier"
  | .extensionListEnd => "next argument or end of list (`;`)"
  | .extensionListMore => "next argument, trailing comma, or end of list (`,` or `;`)"

/-- Errors about a word, which the message quotes. -/
inductive Naming where
  | reservedPrefix
  | reservedKeyword
  | unknownAttribute
  | unknownBuiltin
  | unknownAccess
  | unknownAddressSpace
  | unknownFormat
  | unknownDepth
  | unknownExtension
  | unknownLanguageExtension
  | repeatedAttribute
  | redefinition
  | recursive
  | unknownIdentifier
  | unknownType
  | unknownScalarType
  | untyped
  | accessor
  | forInitializer
  | notConstructible
  | notImage
  | gatherComponent
  deriving DecidableEq, Repr

def Naming.message (quoted : String) : Naming → String
  | .reservedPrefix => s!"Identifier starts with a reserved prefix: `{quoted}`"
  | .reservedKeyword => s!"name `{quoted}` is a reserved keyword"
  | .unknownAttribute => s!"unknown attribute: `{quoted}`"
  | .unknownBuiltin => s!"unknown builtin: `{quoted}`"
  | .unknownAccess => s!"unknown access: `{quoted}`"
  | .unknownAddressSpace => s!"unknown address space: `{quoted}`"
  | .unknownFormat => s!"unknown storage format: `{quoted}`"
  | .unknownDepth => s!"unknown conservative depth: `{quoted}`"
  | .unknownExtension => s!"unknown enable-extension `{quoted}`"
  | .unknownLanguageExtension => s!"unknown language extension `{quoted}`"
  | .repeatedAttribute => s!"repeated attribute: `{quoted}`"
  | .redefinition => s!"redefinition of `{quoted}`"
  | .recursive => s!"declaration of `{quoted}` is recursive"
  | .unknownIdentifier => s!"no definition in scope for identifier: `{quoted}`"
  | .unknownType => s!"unknown type: `{quoted}`"
  | .unknownScalarType => s!"unknown scalar type: `{quoted}`"
  | .untyped => s!"declaration of `{quoted}` needs a type specifier or initializer"
  | .accessor => s!"invalid field accessor `{quoted}`"
  | .forInitializer =>
    s!"for(;;) initializer is not an assignment or a function call: `{quoted}`"
  | .notConstructible => s!"type `{quoted}` is not constructible"
  | .notImage => s!"expected an image, but found `{quoted}` which is not an image"
  | .gatherComponent =>
    "textureGather component `" ++ quoted ++ "` doesn't exist, must be 0, 1, 2, or 3"

/-- Errors with a fixed message. -/
inductive Rule where
  | underscore
  | directivePlace
  | workgroupSizeMissing
  | braceNesting
  | breakIf
  | bindingConsistency
  | mustUseVoid
  | mustUseResult
  | notInferable
  | invalidAssignment
  | stepOperand
  | addressOperand
  | pointerOperand
  | componentAddress
  | resultMissing
  | entryPointCall
  | switchSelector
  | switchCase
  | nonNegative
  | arrayLength
  | constInteger
  | constAssert
  | constBool
  | constContext
  | componentCount
  | alignmentPower
  | pipelineId
  | storageTexture
  | workgroupLoad
  | atomicPointer
  | atomicOperand
  | rayQueryPointer
  deriving DecidableEq, Repr

def Rule.message : Rule → String
  | .underscore => "Identifier can't be `_`"
  | .directivePlace => "expected global declaration, but found a global directive"
  | .workgroupSizeMissing => "workgroup size is missing on compute shader entry point"
  | .braceNesting => "brace nesting limit reached"
  | .breakIf => "A break if is only allowed in a continuing block"
  | .bindingConsistency => "input/output binding is not consistent"
  | .mustUseVoid => "function annotated with @must_use but does not return any value"
  | .mustUseResult => "unused return value from function annotated with @must_use"
  | .notInferable => "type can't be inferred"
  | .invalidAssignment => "invalid left-hand side of assignment"
  | .stepOperand =>
    "increment/decrement operation requires reference type to be one of i32 or u32"
  | .addressOperand => "the operand of the `&` operator must be a reference"
  | .pointerOperand => "the operand of the `*` operator must be a pointer"
  | .componentAddress => "cannot take the address of a vector component"
  | .resultMissing => "function does not return any value"
  | .entryPointCall => "entry point cannot be called"
  | .switchSelector => "invalid `switch` selector"
  | .switchCase => "invalid `switch` case selector value"
  | .nonNegative => "must be non-negative (>= 0)"
  | .arrayLength => "array element count must be positive (> 0)"
  | .constInteger =>
    "must be a const-expression that resolves to a concrete integer scalar (`u32` or `i32`)"
  | .constAssert => "`const_assert` failure"
  | .constBool => "must be a const-expression that resolves to a `bool`"
  | .constContext => "this operation is not supported in a const context"
  | .componentCount => "unexpected components"
  | .alignmentPower => "struct member alignment must be a power of 2"
  | .pipelineId => "pipeline constant ID must be between 0 and 65535 inclusive"
  | .storageTexture => "textureStore can only be applied to storage textures"
  | .workgroupLoad => "incorrect type passed to workgroupUniformLoad"
  | .atomicPointer => "atomic operation is done on a pointer to a non-atomic"
  | .atomicOperand => "atomic operand type is inconsistent with the operation"
  | .rayQueryPointer => "ray query operation is done on a pointer to a non-ray-query"

inductive Cause where
  | unexpected (wanted : Wanted)
  | numeral (fault : NumeralFault)
  | naming (naming : Naming)
  | rule (rule : Rule)
  /-- A binding lacks this attribute. -/
  | missingAttribute (name : String)
  /-- Cyclic declarations; the span is that of a name on the cycle. -/
  | cyclic (name : Span)
  | extensionNotEnabled (name : String)
  | typeMismatch (expected got : String)
  | noConversion (source goal : String)
  | noElementConversion (source goal : String)
  | argumentCount (expected found : String)
  | other (text : String)
  /-- The nesting exceeds the recursion limit. -/
  | tooDeep
  deriving DecidableEq, Repr

structure Fault where
  cause : Cause
  span : Option Span
  deriving DecidableEq, Repr

def excerptOf (text : String) (span : Span) : String :=
  ((String.fromUTF8? (text.toByteArray.extract span.first span.last)).getD "")

/-- Message of an error; `excerpt` is the text in its span. -/
def Cause.message (source here : String) : Cause → String
  | .unexpected wanted => s!"expected {wanted.describe}, found {quoted here}"
  | .numeral reason => s!"{reason.message}: `{here}`"
  | .naming about => about.message here
  | .rule broken => broken.message
  | .missingAttribute name => "variable `" ++ here ++ "` needs a '" ++ name ++ "' attribute"
  | .cyclic name => s!"declaration of `{excerptOf source name}` is cyclic"
  | .extensionNotEnabled name => s!"the `{name}` enable extension is not enabled"
  | .typeMismatch expected got =>
    s!"the type of `{here}` is expected to be `{expected}`, but got `{got}`"
  | .noConversion source goal => s!"automatic conversions cannot convert `{source}` to `{goal}`"
  | .noElementConversion source goal =>
    s!"automatic conversions cannot convert elements of `{source}` to `{goal}`"
  | .argumentCount expected found =>
    s!"wrong number of arguments: expected {expected}, found {found}"
  | .other text => text
  | .tooDeep => "internal WGSL front end error"

namespace Fault

def complaint (source : String) (fault : Fault) : Complaint :=
  { message := fault.cause.message source ((fault.span.map (excerptOf source)).getD "")
    place := fault.span.map (Place.ofSpan (bytes source)) }

def unexpected (span : Span) (wanted : Wanted) : Fault := ⟨.unexpected wanted, some span⟩

def named (span : Span) (naming : Naming) : Fault := ⟨.naming naming, some span⟩

def broken (span : Span) (rule : Rule) : Fault := ⟨.rule rule, some span⟩

def tooDeep : Fault := ⟨.tooDeep, none⟩

end Fault

end ShaderPreview.Wgsl
