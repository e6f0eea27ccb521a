import ShaderPreview.Wgsl.Value

/-!
# Constant evaluation of built-in functions

Values of the numeric built-in functions on constants, where they are implemented; component-wise on
vectors. Single and half precision are evaluated in single precision.
-/

namespace ShaderPreview.Wgsl.MathValue

open Text

/-! ### Floating point numbers -/

def pi : Float := 3.141592653589793

/-- `π / 180` and `180 / π` in single precision. -/
def singleDegree : Float32 := pi.toFloat32 / 180
def singleHalfTurn : Float32 := (57.2957795130823208767981548141051703 : Float).toFloat32

def whole (x : Float) : Float := if x < 0 then x.ceil else x.floor

/-- Clamps a number. -/
def held (x low high : Float) : Float :=
  let raised := if x < low then low else x
  if high < raised then high else raised

/-- Sign bit. -/
def isNegative (x : Float) : Bool := (Double.mk x.toBits).isNegative

/-- Functions of one number that are exact or correctly rounded. -/
def exactFunction? (name : String) (x : Float) : Option Float :=
  match name with
  | "abs" => some x.abs
  | "sign" => some (if x.isNaN then x else if isNegative x then -1 else 1)
  | "saturate" => some (held x 0 1)
  | "ceil" => some x.ceil
  | "floor" => some x.floor
  | "round" => some (Rounding.toInteger x)
  | "fract" => some (x - x.floor)
  | "trunc" => some (whole x)
  | "sqrt" => some x.sqrt
  | _ => none

/-- Other functions of one number, in double and in single precision. -/
def smoothFunctions : List (String × (Float → Float) × (Float32 → Float32)) :=
  [("cos", Float.cos, Float32.cos), ("cosh", Float.cosh, Float32.cosh),
   ("sin", Float.sin, Float32.sin), ("sinh", Float.sinh, Float32.sinh),
   ("tan", Float.tan, Float32.tan), ("tanh", Float.tanh, Float32.tanh),
   ("acos", Float.acos, Float32.acos), ("acosh", Float.acosh, Float32.acosh),
   ("asin", Float.asin, Float32.asin), ("asinh", Float.asinh, Float32.asinh),
   ("atan", Float.atan, Float32.atan), ("atanh", Float.atanh, Float32.atanh),
   ("radians", (· * (pi / 180)), (· * singleDegree)),
   ("degrees", (· * (180 / pi)), (· * singleHalfTurn)),
   ("exp", Float.exp, Float32.exp), ("exp2", Float.exp2, Float32.exp2),
   ("log", Float.log, Float32.log), ("log2", Float.log2, Float32.log2),
   ("inverseSqrt", (1 / ·.sqrt), (1 / ·.sqrt))]

def oneFloat? (name : String) (scalar : Scalar) (x : Float) : Option Float :=
  (exactFunction? name x).or <| (smoothFunctions.lookup name).map fun (double, single) =>
    if scalar.width = 8 then double x else (single x.toFloat32).toFloat

/-- Functions of two numbers; a NaN operand yields the other one. -/
def twoFloats? (name : String) (scalar : Scalar) (x y : Float) : Option Float :=
  match name with
  | "pow" => some <|
    if scalar.width = 8 then Float.pow x y else (Float32.pow x.toFloat32 y.toFloat32).toFloat
  | "step" => some (if x ≤ y then 1 else 0)
  | "min" => some (if x.isNaN then y else if y < x then y else x)
  | "max" => some (if x.isNaN then y else if x < y then y else x)
  | _ => none

/-! ### Integers -/

/-- Bits, least significant first. -/
def bitList (width bits : Nat) : List Bool := (List.range width).map bits.testBit

def ofBitList (bits : List Bool) : Nat := bits.foldr (fun bit value => 2 * value + bit.toNat) 0

/-- Index of the first set bit, or all ones if there is none. -/
def placeOr (bits : List Bool) (place : Nat → Int) : Int :=
  match bits.findIdx? id with
  | some i => place i
  | none => -1

def bitFunction? (name : String) (scalar : Scalar) (x : Int) : Option Int :=
  let width := 8 * scalar.width
  let bits := bitList width (Literal.bitsOf scalar x)
  match name with
  | "countTrailingZeros" => some (bits.takeWhile (!·)).length
  | "countLeadingZeros" => some (bits.reverse.takeWhile (!·)).length
  | "countOneBits" => some (bits.count true)
  | "reverseBits" => some (ofBitList bits.reverse)
  | "firstTrailingBit" => some (placeOr bits fun i => i)
  | "firstLeadingBit" =>
    let marks := if x < 0 then bits.map (!·) else bits
    some (placeOr marks.reverse fun i => width - 1 - i)
  | _ => none

def oneInt? (name : String) (scalar : Scalar) (x : Int) : Evaluation Literal :=
  match name with
  | "abs" => .ok (Literal.wrapped scalar x.natAbs)
  | "sign" =>
    if scalar = .i32 || scalar.isAbstract then .ok (.int scalar x.sign) else .error .mathOperand
  | _ =>
    if scalar = .i32 || scalar = .u32 then match bitFunction? name scalar x with
      | some value => .ok (Literal.wrapped scalar value)
      | none => .error .mathOperand
    else .error .mathOperand

/-! ### Literals -/

def ofLiterals (name : String) (arguments : List Literal) : Evaluation Literal :=
  let checked (scalar : Scalar) (value : Option Float) : Evaluation Literal :=
    match value with
    | some value => Literal.ofFloat scalar value
    | none => .error .mathOperand
  if arguments.any (·.scalar = .f64) ||
      !arguments.all (some ·.scalar = arguments.head?.map (·.scalar))
  then .error .mathOperand
  else match arguments with
    | [.float s x] => checked s (oneFloat? name s x)
    | [.float s x, .float _ y] => checked s (twoFloats? name s x y)
    | [.float s x, .float _ y, .float _ z] => match name with
      | "fma" => Literal.ofFloat s (Rounding.fused (s.width ≠ 8) x y z)
      | "clamp" => if z < y then .error .clampOrder else Literal.ofFloat s (held x y z)
      | _ => .error .mathOperand
    | [.int s x] => oneInt? name s x
    | [.int s x, .int _ y] => match name with
      | "min" => .ok (.int s (min x y))
      | "max" => .ok (.int s (max x y))
      | _ => .error .mathOperand
    | [.int s x, .int _ y, .int _ z] => match name with
      | "clamp" => if z < y then .error .clampOrder else .ok (.int s (max y (min x z)))
      | _ => .error .mathOperand
    | _ => .error .mathOperand

def componentwise : List String :=
  ["abs", "sign", "saturate", "ceil", "floor", "round", "fract", "trunc", "sqrt", "min", "max",
   "clamp", "pow", "step", "fma", "countTrailingZeros", "countLeadingZeros", "countOneBits",
   "reverseBits", "firstTrailingBit", "firstLeadingBit"] ++ smoothFunctions.map (·.1)

/-! ### Vectors -/

def components? (span : Span) (value : Value) : Option (List Literal) :=
  match value.expand span with
  | .compose ⟨.vector n _, _⟩ parts => (Value.flatten n parts).mapM (·.item.literal?)
  | _ => none

def partsOf (span : Span) (literals : List Literal) : List (Placed Value) :=
  literals.map (⟨.literal ·, span⟩)

def crossTerm (a b c d : Literal) : Evaluation Literal := do
  Literal.binary .subtract (← Literal.binary .multiply a b) (← Literal.binary .multiply c d)

def cross (span : Span) (left right : Value) : Evaluation Value :=
  match components? span left, components? span right with
  | some [a, b, c], some [x, y, z] => do
    return .compose left.typing <| partsOf span
      [← crossTerm b z c y, ← crossTerm c x a z, ← crossTerm a y b x]
  | _, _ => .error .mathOperand

def wordBytes (signed : Bool) (word : Int) : List Int :=
  (List.range 4).map fun i =>
    let byte := word / twoTo (8 * i) % 256
    if signed && 128 ≤ byte then byte - 256 else byte

/-- Dot product of the bytes of two words. -/
def packedProduct (signed : Bool) (left right : Value) : Evaluation Value :=
  match left.literal?, right.literal? with
  | some (.int s a), some (.int t b) =>
    if s = .u32 && t = .u32 then
      let products := ((wordBytes signed a).zip (wordBytes signed b)).map fun (x, y) => x * y
      .ok (.literal (.int (if signed then .i32 else .u32) (products.foldl (· + ·) 0)))
    else .error .mathOperand
  | _, _ => .error .mathOperand

def functionLabel (name : String) : String :=
  if name == "smoothstep" then "SmoothStep"
  else match name.toList with
    | first :: rest => String.ofList (first.toUpper :: rest)
    | [] => name

def evaluate (name : String) (span : Span) (arguments : List Value) : Evaluation Value :=
  if componentwise.contains name then
    match arguments.mapM Value.literal? with
    | some literals => .literal <$> ofLiterals name literals
    | none => match arguments.mapM (components? span), arguments.head? with
      | some columns, some first => do
        let count := (columns.head?.map List.length).getD 0
        let rows ← (List.range count).mapM fun i => match columns.mapM (·[i]?) with
          | some row => ofLiterals name row
          | none => .error .mathOperand
        return .compose first.typing (partsOf span rows)
      | _, _ => .error .mathOperand
  else match name, arguments with
    | "cross", [left, right] => cross span left right
    | "dot4I8Packed", [left, right] => packedProduct true left right
    | "dot4U8Packed", [left, right] => packedProduct false left right
    | _, _ => .error (.notImplemented s!"{functionLabel name} built-in function")

/-- `all` and `any`. -/
def relational (name : String) (span : Span) (value : Value) : Evaluation Value :=
  match (components? span value).bind (·.mapM fun
      | .bool b => some b
      | _ => none), name with
  | some truths, "all" => .ok (.literal (.bool (truths.all id)))
  | some truths, "any" => .ok (.literal (.bool (truths.any id)))
  | _, _ => .error .relationalOperand

/-! ### Choices -/

/-- Components of a condition; a scalar condition is repeated. -/
def conditions (count : Nat) (span : Span) (condition : Value) : Evaluation (List Bool) :=
  let truth? : Literal → Option Bool
    | .bool b => some b
    | _ => none
  match condition.expand span with
  | .literal (.bool b) => .ok (List.replicate count b)
  | .compose _ _ => match (components? span condition).bind (·.mapM truth?) with
    | some truths => if truths.length = count then .ok truths else .error .choiceConditionCount
    | none => .error .choiceConditions
  | _ => .error .choiceConditions

/-- `select` on literals; the accepted operand is converted to the type of the rejected one. -/
def chooseLiteral (condition : Bool) (span : Span) (accept : Literal) (reject : Placed Literal) :
    Evaluation (Placed Value) := do
  let accept ← Literal.cast reject.item.scalar accept
  return if condition then ⟨.literal accept, span⟩ else ⟨.literal reject.item, reject.span⟩

def choose (span : Span) (condition accept : Value) (reject : Placed Value) :
    Evaluation (Placed Value) :=
  match reject.item.expand span, accept.expand span with
  | .literal literal, .literal accept => match condition.expand span with
    | .literal (.bool b) => chooseLiteral b span accept ⟨literal, reject.span⟩
    | _ => .error .choiceCondition
  | .compose ⟨.vector n s, name⟩ _, .compose ⟨.vector m _, _⟩ _ =>
    if n ≠ m then .error (.choiceSizes n m)
    else match components? span accept, components? span reject.item with
      | some accepts, some rejects => do
        let truths ← conditions n span condition
        let chosen ← (truths.zip (accepts.zip rejects)).mapM fun (condition, accept, reject) =>
          chooseLiteral condition span accept ⟨reject, span⟩
        return ⟨.compose ⟨.vector n s, name⟩ chosen, span⟩
      | _, _ => .error .choiceTypes
  | _, _ => .error .choiceTypes

end ShaderPreview.Wgsl.MathValue
