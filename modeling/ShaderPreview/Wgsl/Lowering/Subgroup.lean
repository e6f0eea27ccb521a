import ShaderPreview.Wgsl.Lowering.Arguments

/-!
# Subgroup operations

Reductions, shuffles and ballots.
-/

namespace ShaderPreview.Wgsl

open Text

namespace Lowering

variable (lowering : Lowering)

/-- Reductions and scans. -/
def subgroupFunctions : List (String × SubgroupOperand) :=
  [("subgroupAll", .truth), ("subgroupAny", .truth), ("subgroupAdd", .number),
   ("subgroupMul", .number), ("subgroupMin", .number), ("subgroupMax", .number),
   ("subgroupAnd", .bits), ("subgroupOr", .bits), ("subgroupXor", .bits),
   ("subgroupExclusiveAdd", .number), ("subgroupExclusiveMul", .number),
   ("subgroupInclusiveAdd", .number), ("subgroupInclusiveMul", .number)]

/-- Shuffles by an index; the flag tells whether the index must be constant. -/
def chosenFunctions : List (String × Bool) :=
  [("subgroupBroadcast", true), ("subgroupShuffle", false), ("subgroupShuffleDown", false),
   ("subgroupShuffleUp", false), ("subgroupShuffleXor", false), ("quadBroadcast", true)]

/-- Quad swaps. -/
def swapFunctions : List String := ["quadSwapX", "quadSwapY", "quadSwapDiagonal"]

def exchange (argument : Nat) (span : Span) (action : Nat → Action) : BuildM Nat := do
  stepResult (.subgroupResult (← Build.typingOf argument)) span action

def subgroupCall (operand : SubgroupOperand) (trees : List ExprTree) (span : Span) :
    BuildM Nat := do
  let argument ← withArguments trees 1 span lowering.concreteArgument
  exchange argument span (.subgroup operand argument ·)

def chosenCall (isFixed : Bool) (trees : List ExprTree) (span : Span) : BuildM Nat := do
  let (argument, number) ← withArguments trees 2 span do
    let argument ← lowering.concreteArgument
    return (argument, ← lowering.concreteArgument)
  exchange argument span (.shuffle (.chosen number isFixed) argument ·)

def impliedCall (least : Nat) (trees : List ExprTree) (span : Span) : BuildM Nat := do
  let argument ← withArguments trees least span lowering.concreteArgument
  exchange argument span (.shuffle .implied argument ·)

def ballotCall (trees : List ExprTree) (span : Span) : BuildM Nat := do
  let predicate ← withArguments trees 0 span do
    if trees.length = 1 then some <$> lowering.concreteArgument else return none
  stepResult (.subgroupResult ⟨.vector 4 .u32, none⟩) span (.ballot predicate ·)

def subgroupCall? (name : String) (trees : List ExprTree) (span : Span) : Option (BuildM Nat) :=
  if let some operand := subgroupFunctions.lookup name then
    some (lowering.subgroupCall operand trees span)
  else if let some isFixed := chosenFunctions.lookup name then
    some (lowering.chosenCall isFixed trees span)
  else if swapFunctions.contains name then some (lowering.impliedCall 1 trees span)
  else if name == "subgroupBroadcastFirst" then some (lowering.impliedCall 2 trees span)
  else if name == "subgroupBallot" then some (lowering.ballotCall trees span)
  else none

end Lowering

end ShaderPreview.Wgsl
