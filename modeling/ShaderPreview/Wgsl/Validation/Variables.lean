import ShaderPreview.Wgsl.Breach
import ShaderPreview.Wgsl.Validation.Nodes
import ShaderPreview.Wgsl.Validation.Usage

/-!
# Uses of global variables

Which global variables a function uses, directly or through its callees, and how. A pointer or
texture operation counts for the variable it starts from.
-/

namespace ShaderPreview.Wgsl.Validation

structure Use where
  reads : Bool
  writes : Bool
  asks : Bool
  /-- Texture atomics. -/
  changes : Bool
  deriving DecidableEq, Repr, Inhabited

namespace Use

def read : Use := ⟨true, false, false, false⟩
def write : Use := ⟨false, true, false, false⟩
def ask : Use := ⟨false, false, true, false⟩
def change : Use := ⟨false, false, false, true⟩

def both (a b : Use) : Use :=
  ⟨a.reads || b.reads, a.writes || b.writes, a.asks || b.asks, a.changes || b.changes⟩

def isAny (use : Use) : Bool := use.reads || use.writes || use.asks || use.changes

end Use

/-- What callers need to know about a function. -/
structure FunctionFacts where
  stages : StageSet
  uses : Array Use
  deriving Inhabited

/-- Global variable that a reference leads to. -/
def entered? (known : Array (Option Nat)) : Op → Option Nat
  | .global number => some number
  | .access base _ | .component base _ => known.getD base none
  | _ => none

def enteredVariables (nodes : Array Node) : Array (Option Nat) :=
  nodes.foldl (fun known node => known.push (entered? known node.op)) #[]

def operandUses : Op → List (Nat × Use)
  | .access _ index => [(index, .read)]
  | .component _ _ => []
  | .arrayLength pointer => [(pointer, .ask)]
  | .textureQuery texture query =>
    (texture, .ask) :: ((Op.textureQuery texture query).operands.drop 1).map (·, .read)
  | op => op.operands.map (·, .read)

/-! ### Steps -/

mutual

def stepUses : List Step → List (Nat × Use)
  | [] => []
  | .mk _ action :: steps => actionUses action ++ stepUses steps

def actionUses : Action → List (Nat × Use)
  | .emit _ _ | .leaveLoop | .continueLoop | .discard | .barrier => []
  | .block body => stepUses body
  | .conditional condition accept reject =>
    (condition, .read) :: (stepUses accept ++ stepUses reject)
  | .switch selector cases => (selector, .read) :: caseUses cases
  | .loop body continuing breakIf =>
    breakIf.toList.map (·, .read) ++ stepUses body ++ stepUses continuing
  | .giveBack value => value.toList.map (·, .read)
  | .store pointer value => [(pointer, .write), (value, .read)]
  | .call _ arguments _ => arguments.map (·, .read)
  | .textureStore texture coordinate layer value =>
    (texture, .write) :: ([coordinate, value] ++ layer.toList).map (·, .read)
  | .textureAtomic texture coordinate layer _ value =>
    (texture, .change) :: ([coordinate, value] ++ layer.toList).map (·, .read)
  | .atomic pointer function value _ =>
    (pointer, Use.read.both .write) :: (value :: function.operands).map (·, .read)
  | .workgroupLoad pointer _ => [(pointer, .read)]
  | .ballot predicate _ => predicate.toList.map (·, .read)
  | .subgroup _ argument _ => [(argument, .read)]
  | .shuffle source argument _ => (argument, .read) :: (match source with
    | .chosen number _ => [(number, .read)]
    | .implied => [])
  | .rayQuery query request => (query :: request.operands).map (·, .read)

def caseUses : List SwitchCase → List (Nat × Use)
  | [] => []
  | .mk _ body _ :: cases => stepUses body ++ caseUses cases

end

mutual

def stepCalls : List Step → List Nat
  | [] => []
  | .mk _ action :: steps => actionCalls action ++ stepCalls steps

def actionCalls : Action → List Nat
  | .call function _ _ => [function]
  | .block body => stepCalls body
  | .conditional _ accept reject => stepCalls accept ++ stepCalls reject
  | .switch _ cases => caseCalls cases
  | .loop body continuing _ => stepCalls body ++ stepCalls continuing
  | _ => []

def caseCalls : List SwitchCase → List Nat
  | [] => []
  | .mk _ body _ :: cases => stepCalls body ++ caseCalls cases

end

/-! ### Functions -/

def addUse (entered : Array (Option Nat)) (uses : Array Use) (use : Nat × Use) : Array Use :=
  match entered.getD use.1 none with
  | some number => uses.modify number (·.both use.2)
  | none => uses

def inheritUses (uses callee : Array Use) : Array Use :=
  uses.mapIdx fun i use => use.both (callee.getD i default)

/-- The variables that are only named: where nothing else is done with a variable whose place has a
name, it is asked for. -/
def addNamed (entered : Array (Option Nat)) (uses : Array Use) (named : List Nat) : Array Use :=
  (named.filterMap fun node => entered.getD node none).foldl
    (fun uses number => uses.modify number fun use => if use.isAny then use else .ask) uses

def variableUses (shader : ShaderModule) (callees : Array FunctionFacts) (function : Function) :
    Array Use :=
  let used := function.used
  let own := function.nodes.toList.zipIdx.flatMap fun entry =>
    if used.getD entry.2 false then operandUses entry.1.op else []
  let entered := enteredVariables function.nodes
  let uses := (own ++ stepUses function.body).foldl (addUse entered)
    (Array.replicate shader.globals.size default)
  let uses := ((stepCalls function.body).filterMap (callees[·]?)).foldl
    (fun uses callee => inheritUses uses callee.uses) uses
  addNamed entered uses function.named

end ShaderPreview.Wgsl.Validation
