import ShaderPreview.Wgsl.Fault
import ShaderPreview.Wgsl.Tree

/-!
# Declaration order

Topological order of the declarations by their uses; cycles are errors. Otherwise the order of the
text is kept.
-/

namespace ShaderPreview.Wgsl

open Text

namespace Order

/-- Declared names with the indices of their declarations; redeclaration is an error. -/
def names (declarations : List Declaration) : Except Fault (List (String × Nat)) :=
  (declarations.zipIdx).foldlM
    (fun found entry => match entry.1.form.name? with
      | none => .ok found
      | some name =>
        if (found.lookup name.name).isSome then .error (.named name.span .redefinition)
        else .ok ((name.name, entry.2) :: found))
    []

/-- Ordered declarations, the latest first. -/
abbrev Placed := List Nat

def nameSpan (declarations : Array Declaration) (i : Nat) : Span :=
  ((declarations[i]?.bind (·.form.name?)).map (·.span)).getD .nowhere

def circle (declarations : Array Declaration) (i target : Nat) (chain : List Nat) : Fault :=
  if target = i then .named (nameSpan declarations i) .recursive
  else
    ⟨.cyclic (nameSpan declarations target),
      some (nameSpan declarations (chain.getLast?.getD target))⟩

/-- Places a declaration after those it uses. `waiting` are the declarations that wait for it, and
`chain` the uses that lead to it, the latest first. -/
def place (declarations : Array Declaration) (table : List (String × Nat)) :
    Nat → List Nat → List Nat → Placed → Nat → Except Fault Placed
  | 0, _, _, _, _ => .error .tooDeep
  | fuel + 1, waiting, chain, placed, i => do
    let dependencies := (declarations[i]?.map (·.dependencies)).getD []
    let targets := dependencies.filterMap fun ident => table.lookup ident.name
    let placed ← targets.foldlM
      (fun placed target =>
        if (i :: waiting).contains target then
          .error (circle declarations i target (target :: chain))
        else if placed.contains target then .ok placed
        else place declarations table fuel (i :: waiting) (target :: chain) placed target)
      placed
    return i :: placed

def places (declarations : Array Declaration) (table : List (String × Nat)) :
    Except Fault Placed :=
  (List.range declarations.size).foldlM
    (fun placed i =>
      if placed.contains i then .ok placed
      else place declarations table (declarations.size + 1) [] [] placed i)
    []

end Order

def inOrder (declarations : List Declaration) : Except Fault (List Declaration) := do
  let table ← Order.names declarations
  let all := declarations.toArray
  let placed ← Order.places all table
  return placed.reverse.filterMap (all[·]?)

end ShaderPreview.Wgsl
