import ShaderPreview.Wgsl.Tree.Statement

/-!
# Declarations and modules

Parsers for directives, attributes and module-scope declarations. The span of a declaration begins
after its attributes.
-/

namespace ShaderPreview.Wgsl

open Text

namespace Grammar

/-! ### Attributes of values that cross a stage -/

/-- Attributes of a parameter, a member or a result. -/
structure ValueAttributes where
  location : Option ExprTree
  builtin : Option Builtin
  interpolation : Option Interpolation
  sampling : Option SamplePlace
  invariant : Option Unit
  /-- Blend source. -/
  source : Option ExprTree
  size : Option ExprTree
  alignment : Option ExprTree

def ValueAttributes.none : ValueAttributes :=
  ⟨.none, .none, .none, .none, .none, .none, .none, .none⟩

def attributeArgument (grammar : Grammar) : ReaderM ExprTree := do
  Reader.expect (.paren '(')
  let value ← grammar.expression
  Reader.expect (.paren ')')
  return value

def valueAttribute (grammar : Grammar) (isMember : Bool) (name : Ident)
    (attributes : ValueAttributes) : ReaderM ValueAttributes := do
  match name.name, isMember with
  | "location", _ =>
    let value ← grammar.attributeArgument
    return { attributes with location := ← Reader.once attributes.location value name.span }
  | "builtin", _ =>
    Reader.expect (.paren '(')
    let ident ← Reader.takeIdentifier
    match Builtin.ofWord? ident.name with
    | Option.none => throw (.named ident.span .unknownBuiltin)
    | some builtin =>
      if builtin = .clipDistance then Reader.requireEnabled "clip_distances" ident.span
      let builtin ← Reader.once attributes.builtin builtin name.span
      Reader.expect (.paren ')')
      return { attributes with builtin := builtin }
  | "interpolate", _ =>
    Reader.expect (.paren '(')
    let ident ← Reader.takeIdentifier
    match Interpolation.ofWord? ident.name with
    | Option.none => throw (.named ident.span .unknownAttribute)
    | some interpolation =>
      let interpolation ← Reader.once attributes.interpolation interpolation name.span
      let sampling ←
        if ← Reader.skip (.separator ',') then
          let word ← Reader.takeIdentifier
          match SamplePlace.ofWord? word.name with
          | Option.none => throw (.named word.span .unknownAttribute)
          | some place => Reader.once attributes.sampling place name.span
        else pure attributes.sampling
      Reader.expect (.paren ')')
      return { attributes with interpolation := interpolation, sampling := sampling }
  | "invariant", _ =>
    return { attributes with invariant := ← Reader.once attributes.invariant () name.span }
  | "size", true =>
    let value ← grammar.attributeArgument
    return { attributes with size := ← Reader.once attributes.size value name.span }
  | "align", true =>
    let value ← grammar.attributeArgument
    return { attributes with alignment := ← Reader.once attributes.alignment value name.span }
  | "blend_src", _ =>
    Reader.requireEnabled "dual_source_blending" name.span
    Reader.expect (.paren '(')
    let value ← grammar.expression
    Reader.closeArguments
    return { attributes with source := ← Reader.once attributes.source value name.span }
  | _, _ => throw (.named name.span .unknownAttribute)

def valueAttributesFrom (grammar : Grammar) (isMember : Bool) :
    Nat → ValueAttributes → ReaderM ValueAttributes
  | 0, _ => throw .tooDeep
  | fuel + 1, attributes => do
    if ← Reader.skip .attribute then
      let name ← Reader.takeIdentifier
      valueAttributesFrom grammar isMember fuel (← grammar.valueAttribute isMember name attributes)
    else return attributes

def ValueAttributes.binding (attributes : ValueAttributes) (span : Span) :
    ReaderM (Option BindingTree) :=
  match attributes.location, attributes.builtin, attributes.interpolation, attributes.sampling,
      attributes.invariant, attributes.source with
  | .none, .none, .none, .none, .none, .none => return .none
  | some location, .none, interpolation, sampling, .none, source =>
    return some (.location location interpolation sampling source)
  | .none, some (.position _), .none, .none, invariant, .none =>
    return some (.builtin (.position invariant.isSome))
  | .none, some builtin, .none, .none, .none, .none => return some (.builtin builtin)
  | _, _, _, _, _, _ => throw (.broken span .bindingConsistency)

def valueAttributes (grammar : Grammar) (isMember : Bool) :
    ReaderM (ValueAttributes × Option BindingTree) := do
  let first ← Reader.startOffset
  let attributes ← grammar.valueAttributesFrom isMember (← get).limit .none
  let binding ← attributes.binding (← Reader.spanFrom first)
  return (attributes, binding)

/-! ### Lists in declarations -/

/-- End of a comma-separated list; a trailing comma is accepted. -/
def endsList (close : Mark) (ready : Bool) : ReaderM Bool := do
  if ← Reader.skip close then return true
  else if ready then return false
  else
    let (_, span) ← Reader.take
    throw (.unexpected span (.mark (.separator ',')))

def commaList {α : Type} (close : Mark) (entry : List α → ReaderM α) :
    Nat → Bool → List α → ReaderM (List α)
  | 0, _, _ => throw .tooDeep
  | fuel + 1, ready, found => do
    if ← endsList close ready then return found.reverse
    else
      let value ← entry found
      let ready ← Reader.skip (.separator ',')
      commaList close entry fuel ready (value :: found)

def member (grammar : Grammar) (others : List MemberTree) : ReaderM MemberTree := do
  let (attributes, binding) ← grammar.valueAttributes true
  let name ← Reader.takeName
  if others.any (·.name.name == name.name) then throw (.named name.span .redefinition)
  Reader.expect (.separator ':')
  let type ← grammar.type
  return ⟨name, type, binding, attributes.size, attributes.alignment⟩

def parameter (grammar : Grammar) : ReaderM ParameterTree := do
  let (_, binding) ← grammar.valueAttributes false
  let name ← Reader.takeName
  Reader.expect (.separator ':')
  let type ← grammar.type
  let number ← Reader.declareLocal name
  return ⟨name, number, type, binding⟩

/-! ### Declarations -/

structure DeclarationAttributes where
  group : Option ExprTree
  binding : Option ExprTree
  id : Option ExprTree
  stage : Option ShaderStage
  workgroupSize : Option (List ExprTree)
  earlyDepth : Option Unit
  mustUse : Option Span
  severities : List SeverityNote
  computeSpan : Span

def DeclarationAttributes.none : DeclarationAttributes :=
  ⟨.none, .none, .none, .none, .none, .none, .none, [], .nowhere⟩

/-- One to three sizes; a trailing comma is accepted after the third. -/
def workgroupSides (grammar : Grammar) : Nat → ReaderM (List ExprTree)
  | 0 => return []
  | sides + 1 => do
    let side ← grammar.expression
    let (token, span) ← Reader.take
    if token.isMark (.paren ')') then return [side]
    else if token.isMark (.separator ',') then
      return side :: (← workgroupSides grammar sides)
    else throw (.unexpected span .workgroupSizeEnd)

def earlyDepthArgument : ReaderM Unit := do
  Reader.expect (.paren '(')
  let ident ← Reader.takeIdentifier
  unless ident.name == "force" || depthWords.contains ident.name do
    throw (.named ident.span .unknownDepth)
  Reader.expect (.paren ')')

def declarationAttribute (grammar : Grammar) (first : Nat) (name : Ident)
    (attributes : DeclarationAttributes) : ReaderM DeclarationAttributes := do
  let stage (value : ShaderStage) := Reader.once attributes.stage value name.span
  match name.name with
  | "diagnostic" =>
    let severities ← Reader.noteSeverity true first attributes.severities
    return { attributes with severities := severities }
  | "binding" =>
    let value ← grammar.attributeArgument
    return { attributes with binding := ← Reader.once attributes.binding value name.span }
  | "group" =>
    let value ← grammar.attributeArgument
    return { attributes with group := ← Reader.once attributes.group value name.span }
  | "id" =>
    let value ← grammar.attributeArgument
    return { attributes with id := ← Reader.once attributes.id value name.span }
  | "vertex" => return { attributes with stage := ← stage .vertex }
  | "fragment" => return { attributes with stage := ← stage .fragment }
  | "compute" => return { attributes with stage := ← stage .compute, computeSpan := name.span }
  | "workgroup_size" =>
    Reader.expect (.paren '(')
    let sides ← grammar.workgroupSides 3
    return { attributes with
      workgroupSize := ← Reader.once attributes.workgroupSize sides name.span }
  | "early_depth_test" =>
    earlyDepthArgument
    return { attributes with earlyDepth := ← Reader.once attributes.earlyDepth () name.span }
  | "must_use" =>
    return { attributes with mustUse := ← Reader.once attributes.mustUse name.span name.span }
  | _ => throw (.named name.span .unknownAttribute)

def declarationAttributes (grammar : Grammar) (first : Nat) :
    Nat → DeclarationAttributes → ReaderM DeclarationAttributes
  | 0, _ => throw .tooDeep
  | fuel + 1, attributes => do
    if ← Reader.skip .attribute then
      let name ← Reader.takeIdentifier
      declarationAttributes grammar first fuel
        (← grammar.declarationAttribute first name attributes)
    else return attributes

/-- Group and binding are given together or not at all. -/
def checkBinding (attributes : DeclarationAttributes) (span : Span) : ReaderM Unit :=
  match attributes.group, attributes.binding with
  | some _, .none => throw ⟨.missingAttribute "binding", some span⟩
  | .none, some _ => throw ⟨.missingAttribute "group", some span⟩
  | _, _ => return ()

def addressSpace : ReaderM (Option AddressSpace) := do
  if ← Reader.skip (.paren '<') then
    let ident ← Reader.takeIdentifier
    let space ← match AddressSpace.ofWord? ident.name with
      | Option.none => throw (.named ident.span .unknownAddressSpace)
      | some (.storage _) =>
        if ← Reader.skip (.separator ',') then pure (.storage (← access))
        else pure (.storage .readOnly)
      | some space => pure space
    Reader.expect (.paren '>')
    return some space
  else return none

def globalVariable (grammar : Grammar) (attributes : DeclarationAttributes) :
    ReaderM DeclarationForm := do
  let space ← addressSpace
  let name ← Reader.takeName
  let type ← grammar.typeNote
  let value ← grammar.valueNote
  Reader.expect (.separator ';')
  return .global ⟨name, space, type, value, attributes.group, attributes.binding⟩

/-- The stage of an entry point; a compute stage needs a workgroup size. -/
def entry (attributes : DeclarationAttributes) : ReaderM (Option EntryTree) :=
  match attributes.stage with
  | .none => return .none
  | some stage =>
    if stage = .compute && attributes.workgroupSize.isNone then
      throw (.broken attributes.computeSpan .workgroupSizeMissing)
    else return some ⟨stage, attributes.workgroupSize, attributes.earlyDepth.isSome⟩

def functionResult (grammar : Grammar) (attributes : DeclarationAttributes) :
    ReaderM (Option (TypeTree × Option BindingTree)) := do
  if ← Reader.skip .arrow then
    let (_, binding) ← grammar.valueAttributes false
    let type ← grammar.type
    return some (type, binding)
  else match attributes.mustUse with
    | some span => throw (.broken span .mustUseVoid)
    | .none => return .none

/-- A function after its keyword. Parameters share a scope with the body, but types in the head
cannot refer to them. -/
def function (grammar : Grammar) (attributes : DeclarationAttributes) :
    ReaderM DeclarationForm := do
  let name ← Reader.takeName
  Reader.openScope
  modify ({ · with localsVisible := false })
  Reader.expect (.paren '(')
  let parameters ← commaList (.paren ')') (fun _ => grammar.parameter) (← get).limit true []
  let result ← grammar.functionResult attributes
  modify ({ · with localsVisible := true })
  Reader.expect (.paren '{')
  let body ← grammar.statementsToBrace 1
  Reader.closeScope
  let entry ← entry attributes
  return .function ⟨name, parameters, result, attributes.mustUse.isSome, body, entry⟩

def declaration? (grammar : Grammar) (attributes : DeclarationAttributes) (word : String) :
    Option (ReaderM DeclarationForm) :=
  match word with
  | "struct" => some do
    let name ← Reader.takeName
    Reader.expect (.paren '{')
    let members ← commaList (.paren '}') grammar.member (← get).limit true []
    return .struct name members
  | "alias" => some do
    let name ← Reader.takeName
    Reader.expect (.operation '=')
    let type ← grammar.type
    Reader.expect (.separator ';')
    return .typeAlias name type
  | "const" => some do
    let name ← Reader.takeName
    let type ← grammar.typeNote
    Reader.expect (.operation '=')
    let value ← grammar.expression
    Reader.expect (.separator ';')
    return .constant name type value
  | "override" => some do
    let name ← Reader.takeName
    let type ← grammar.typeNote
    let value ← grammar.valueNote
    Reader.expect (.separator ';')
    return .overridable name attributes.id type value
  | "var" => some (grammar.globalVariable attributes)
  | "fn" => some (grammar.function attributes)
  | "const_assert" => some (.constAssert <$> grammar.assertion)
  | _ => none

/-- Name of the declarations that do not take `diagnostic` attributes. -/
def withoutSeverities? : String → Option String
  | "struct" => some "`struct`s"
  | "alias" => some "`alias`es"
  | "const" => some "`const`s"
  | "override" => some "`override`s"
  | "var" => some "`var`s"
  | "const_assert" => some "`const_assert`s"
  | _ => none

def refuseSeverities (attributes : DeclarationAttributes) (kind : String) : ReaderM Unit :=
  Reader.refuseSeverities s!"on {kind} are not supported" attributes.severities

def bindsVariable (attributes : DeclarationAttributes) : DeclarationForm → Bool
  | .global _ => true
  | _ => attributes.group.isNone

def declaration (grammar : Grammar) : ReaderM (Option Declaration) := do
  modify fun state => { state with used := [], scopes := [], localCount := 0 }
  let attributesStart ← Reader.startOffset
  let attributes ← grammar.declarationAttributes attributesStart (← get).limit .none
  checkBinding attributes (← Reader.spanFrom attributesStart)
  let first ← Reader.startOffset
  let (token, span) ← Reader.take
  match token with
  | .mark (.separator ';') =>
    refuseSeverities attributes "semicolons"
    if attributes.group.isSome then throw .tooDeep else return none
  | .finish => return none
  | .word word =>
    if directiveWords.contains word then throw (.broken span .directivePlace)
    if let some kind := withoutSeverities? word then refuseSeverities attributes kind
    match grammar.declaration? attributes word with
    | none => throw (.unexpected span .globalItem)
    | some reading =>
      let form ← reading
      let declared : Declaration := ⟨← Reader.spanFrom first, form, (← get).used.reverse⟩
      if bindsVariable attributes form then return some declared else throw .tooDeep
  | _ => throw (.unexpected span .globalItem)

/-! ### Directives -/

def extensions (accept : Ident → ReaderM Unit) : Nat → ReaderM Unit
  | 0 => throw .tooDeep
  | fuel + 1 => do
    let ident ← Reader.takeIdentifier
    accept ident
    if (← Reader.peek).1.isMark (.separator ',') then
      let _ ← Reader.take
      match (← Reader.peek).1 with
      | .word _ => extensions accept fuel
      | _ => unless (← Reader.take).1.isMark (.separator ';') do
          throw (.unexpected ident.span .extensionListEnd)
    else unless (← Reader.take).1.isMark (.separator ';') do
      throw (.unexpected ident.span .extensionListMore)

def enableExtension (ident : Ident) : ReaderM Unit :=
  match ident.name with
  | "f16" | "dual_source_blending" | "clip_distances" =>
    modify fun state => { state with enabled := ident.name :: state.enabled }
  | "subgroups" =>
    throw ⟨.other s!"the `{ident.name}` enable-extension is not yet supported", some ident.span⟩
  | _ => throw (.named ident.span .unknownExtension)

def requireExtension (ident : Ident) : ReaderM Unit :=
  match ident.name with
  | "readonly_and_readwrite_storage_textures" | "packed_4x8_integer_dot_product"
  | "pointer_composite_access" => return ()
  | "unrestricted_pointer_parameters" =>
    throw ⟨.other s!"the `{ident.name}` language extension is not yet supported",
      some ident.span⟩
  | _ => throw (.named ident.span .unknownLanguageExtension)

def directives : Nat → List SeverityNote → ReaderM Unit
  | 0, _ => throw .tooDeep
  | fuel + 1, notes => do
    let first ← Reader.startOffset
    match (← Reader.peek).1 with
    | .word "diagnostic" =>
      let _ ← Reader.take
      let notes ← Reader.noteSeverity false first notes
      Reader.expect (.separator ';')
      directives fuel notes
    | .word "enable" =>
      let _ ← Reader.take
      extensions enableExtension (← get).limit
      directives fuel notes
    | .word "requires" =>
      let _ ← Reader.take
      extensions requireExtension (← get).limit
      directives fuel notes
    | _ => return ()

def moduleBody (grammar : Grammar) : ReaderM (List Declaration) := do
  directives (← get).limit []
  let first ← grammar.declaration
  let others ← Reader.gather do
    match (← Reader.peek).1 with
    | .finish => return none
    | _ => return some (← grammar.declaration)
  return (first :: others).filterMap id

end Grammar

def readModule (text : String) : Except Fault (List Declaration) :=
  (Grammar.full.moduleBody.run (Reader.start text)).map (·.1)

end ShaderPreview.Wgsl
