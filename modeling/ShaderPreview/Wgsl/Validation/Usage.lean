import ShaderPreview.Wgsl.Module

/-!
# Node usage

A node is used if a step, a name, a local variable or another used node refers to it. Unused nodes
are not validated.
-/

namespace ShaderPreview.Wgsl

mutual

def stepRoots : List Step → List Nat
  | [] => []
  | .mk _ action :: steps => actionRoots action ++ stepRoots steps

def actionRoots : Action → List Nat
  | .emit _ _ | .leaveLoop | .continueLoop | .discard | .barrier => []
  | .block body => stepRoots body
  | .conditional condition accept reject => condition :: (stepRoots accept ++ stepRoots reject)
  | .switch selector cases => selector :: caseRoots cases
  | .loop body continuing breakIf => breakIf.toList ++ stepRoots body ++ stepRoots continuing
  | .giveBack value => value.toList
  | .store pointer value => [pointer, value]
  | .call _ arguments result => arguments ++ result.toList
  | .textureStore texture coordinate layer value => [texture, coordinate, value] ++ layer.toList
  | .textureAtomic texture coordinate layer _ value =>
    [texture, coordinate, value] ++ layer.toList
  | .atomic pointer function value result =>
    [pointer, value] ++ function.operands ++ result.toList
  | .workgroupLoad pointer result => [pointer, result]
  | .ballot predicate result => predicate.toList ++ [result]
  | .subgroup _ argument result => [argument, result]
  | .shuffle source argument result => argument :: result :: (match source with
    | .chosen number _ => [number]
    | .implied => [])
  | .rayQuery query request => query :: request.operands ++ (match request with
    | .proceed result => [result]
    | _ => [])

def caseRoots : List SwitchCase → List Nat
  | [] => []
  | .mk _ body _ :: cases => stepRoots body ++ caseRoots cases

end

def markAll (nodes : List Nat) (marks : Array Bool) : Array Bool :=
  nodes.foldl (fun marks node => marks.setIfInBounds node true) marks

/-- Transitive operands of the roots; operands precede the nodes that use them. -/
def usedFrom (nodes : Array Node) (roots : List Nat) : Array Bool :=
  nodes.toList.zipIdx.reverse.foldl
    (fun marks entry =>
      if marks.getD entry.2 false then markAll entry.1.op.operands marks else marks)
    (markAll roots (Array.replicate nodes.size false))

def Function.used (function : Function) : Array Bool :=
  usedFrom function.nodes
    (stepRoots function.body ++ function.named ++ function.locals.toList.filterMap (·.initial))

end ShaderPreview.Wgsl
