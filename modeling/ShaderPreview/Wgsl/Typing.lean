import ShaderPreview.Wgsl.Math
import ShaderPreview.Wgsl.Module

/-!
# Types of nodes

The type of a node from its operation and the types of its operands. An operation without a type is
rejected here; all other checks belong to validation.
-/

namespace ShaderPreview.Wgsl

structure TypingContext where
  shader : ShaderModule
  nodes : Array Node
  parameters : List BoundType
  locals : Array LocalVariable

namespace TypingContext

variable (context : TypingContext)

def typingAt (place : Nat) : Typing :=
  ((context.nodes[place]?).map (·.typing)).getD ⟨.bool, none⟩

def typeAt (place : Nat) : Ty := (context.typingAt place).type

def label (type : Ty) : String := type.label context.shader.structs

def element? (index : Nat) : Ty → Option Typing
  | .pointer base space => (base.bare.componentTyping? context.shader.structs index).map
      fun typing => ⟨.pointer typing.part space, none⟩
  | type => type.componentTyping? context.shader.structs index

def product? : Ty → Ty → Option Ty
  | .matrix _ rows s, .matrix columns _ _ => some (.matrix columns rows s)
  | .matrix _ rows s, .vector _ _ => some (.vector rows s)
  | .vector _ _, .matrix columns _ s => some (.vector columns s)
  | .scalar _, right => some right
  | left, .scalar _ => some left
  | .vector n s, .vector _ _ => some (.vector n s)
  | _, _ => none

def binaryTyping (op : BinaryOp) (left right : Typing) : Except String Typing :=
  let incompatible : Except String Typing :=
    .error s!"Incompatible operands: {op.label}({context.label left.type}, _)"
  match op with
  | .multiply => match product? left.type right.type with
    | some type => .ok ⟨type, none⟩
    | none => .error
        s!"Incompatible operands: {context.label left.type} * {context.label right.type}"
  | .equal | .notEqual | .less | .lessEqual | .greater | .greaterEqual => match left.type with
    | .scalar _ => .ok ⟨.bool, none⟩
    | .vector n _ => .ok ⟨.vector n .bool, none⟩
    | _ => incompatible
  | .logicalAnd | .logicalOr => if left.type = .bool then .ok ⟨.bool, none⟩ else incompatible
  | _ => .ok left

def texelType (texture : Texture) : Ty :=
  match texture.content with
  | .sampled kind _ => .vector 4 ⟨kind, 4⟩
  | .depth _ => .f32
  | .storage kind format _ => .vector 4 (Ty.storageScalar kind format)

def extentType (texture : Texture) : Ty :=
  match texture.dimension with
  | .d1 => .u32
  | .d2 | .cube => .vector 2 .u32
  | .d3 => .vector 3 .u32

def textureResult (place : Nat) (result : Texture → Ty) : Except String Typing :=
  match context.typeAt place with
  | .texture texture => .ok ⟨result texture, none⟩
  | other => .error s!"Invalid image type {context.label other}"

def accessTyping (base index : Nat) : Except String Typing :=
  let type := context.typeAt base
  match (type.pointee?).getD type with
  | .vector n _ =>
    if n ≤ index then .error s!"Index {index} is out of bounds for expression [{base}]"
    else .ok ((context.element? index type).getD ⟨.bool, none⟩)
  | _ => match context.element? index type with
    | some found => .ok found
    | none => .error s!"Invalid access into expression [{base}], indexed: true"

/-- Target scalar of a cast; a bit cast keeps the width. -/
def castScalar (source goal : Scalar) (converts : Bool) : Scalar :=
  if converts then goal else ⟨goal.kind, source.width⟩

def typingOf : Op → Except String Typing
  | .value v => .ok v.typing
  | .overridable i =>
    .ok (((context.shader.overridables[i]?).map (·.typing)).getD ⟨.bool, none⟩)
  | .parameter i => .ok (((context.parameters[i]?).map (·.typing)).getD ⟨.bool, none⟩)
  | .global i => match context.shader.globals[i]? with
    | none => .ok ⟨.bool, none⟩
    | some declared =>
      if declared.space = .handle then .ok declared.typing
      else .ok ⟨.pointer declared.typing.part declared.space, none⟩
  | .localVar i =>
    .ok ⟨.pointer (((context.locals[i]?).map (·.typing.part)).getD .bool) .function, none⟩
  | .load pointer => match (context.typeAt pointer).pointeeTyping? with
    | some ⟨.atomic s, _⟩ => .ok ⟨.scalar s, none⟩
    | some base => .ok base
    | none => .error s!"Invalid pointer {context.label (context.typeAt pointer)}"
  | .access base _ =>
    let type := context.typeAt base
    match (type.pointee?).getD type with
    | .struct _ => .error s!"Invalid access into expression [{base}], indexed: false"
    | _ => context.accessTyping base 0
  | .component base index => context.accessTyping base index
  | .swizzle vector pattern => match (context.typeAt vector).component? with
    | some s => .ok ⟨.vector pattern.length s, none⟩
    | none => .error s!"Invalid vector {context.label (context.typeAt vector)}"
  | .splat size value => match context.typeAt value with
    | .scalar s => .ok ⟨.vector size s, none⟩
    | other => .error s!"Invalid scalar {context.label other}"
  | .compose typing _ => .ok typing
  | .unary _ operand => .ok (context.typingAt operand)
  | .binary op left right =>
    context.binaryTyping op (context.typingAt left) (context.typingAt right)
  | .select _ accept _ => .ok (context.typingAt accept)
  | .relational name operand => match context.typeAt operand with
    | .vector n _ =>
      .ok ⟨if name == "all" || name == "any" then .bool else .vector n .bool, none⟩
    | _ => .ok ⟨.bool, none⟩
  | .derivative operand => .ok (context.typingAt operand)
  | .math name arguments =>
    match (Signature.ofName? name).bind (·.result? context.shader.structs
        (arguments.map context.typeAt)) with
    | some type => .ok ⟨type, none⟩
    | none => .error s!"Incompatible operands: {name}"
  | .cast operand goal converts => match context.typeAt operand with
    | .scalar s => .ok ⟨.scalar (castScalar s goal converts), none⟩
    | .vector n s => .ok ⟨.vector n (castScalar s goal converts), none⟩
    | .matrix columns rows s => .ok ⟨.matrix columns rows (castScalar s goal converts), none⟩
    | other => .error s!"Incompatible operands: {goal.label}({context.label other} as)"
  | .sample s => context.textureResult s.texture fun texture =>
    if s.gather.isSome then match texture.content with
      | .depth _ => .vector 4 .f32
      | _ => texelType texture
    else if s.reference.isSome then .f32
    else texelType texture
  | .textureLoad texture _ _ _ _ => context.textureResult texture texelType
  | .textureQuery texture query => match query with
    | .size _ => context.textureResult texture extentType
    | _ => context.textureResult texture fun _ => .u32
  | .arrayLength _ => .ok ⟨.u32, none⟩
  | .callResult i => match (context.shader.functions[i]?).bind (·.result) with
    | some result => .ok result.typing
    | none => .error "function does not return any value"
  | .atomicResult typing | .workgroupLoad typing | .subgroupResult typing => .ok typing
  | .rayProceeds => .ok ⟨.bool, none⟩
  | .rayIntersection _ =>
    match context.shader.structs.findIdx? (· = Predeclared.rayIntersection) with
    | some number => .ok ⟨.struct number, none⟩
    | none => .error "ray intersection type is missing"
  | .rayCorners _ => .ok ⟨.array (.vector 3 .f32) (.fixed 3), none⟩

end TypingContext

end ShaderPreview.Wgsl
