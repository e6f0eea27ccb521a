import ShaderPreview.Number.Double
import ShaderPreview.Wgsl.Evaluation
import ShaderPreview.Wgsl.Numeral
import ShaderPreview.Wgsl.Tree

/-!
# Literals

Arithmetic on literals. 32-bit integers wrap around; abstract integers must not overflow. Concrete
floating point results must be finite; abstract ones may be infinite or NaN.
-/

namespace ShaderPreview.Wgsl.Literal

def zero (scalar : Scalar) : Literal :=
  match scalar.kind with
  | .bool => .bool false
  | .float | .abstractFloat => .float scalar 0
  | _ => .int scalar 0

def rounded (scalar : Scalar) (x : Float) : Float :=
  if scalar.width = 8 then x
  else if scalar.width = 2 then Rounding.toHalf x.toFloat32.toFloat
  else Rounding.toSingle x

/-- Concrete floating point results must be finite. -/
def ofFloat (scalar : Scalar) (x : Float) : Evaluation Literal :=
  let value := rounded scalar x
  if scalar.isAbstract then .ok (.float scalar value)
  else if value.isNaN then .error .notANumber
  else if value.isInf then .error .infinite
  else .ok (.float scalar value)

def bitsOf (scalar : Scalar) (value : Int) : Nat := (value % twoTo (8 * scalar.width)).toNat

def ofBits (scalar : Scalar) (bits : Nat) : Literal :=
  let width := 8 * scalar.width
  if scalar.kind = .uint ∨ bits < twoTo (width - 1) then .int scalar bits
  else .int scalar ((bits : Int) - twoTo width)

def wrapped (scalar : Scalar) (value : Int) : Literal := ofBits scalar (bitsOf scalar value)

/-- Concrete 32-bit results wrap around; abstract ones must be in range. -/
def ofInt (scalar : Scalar) (operation : String) (value : Int) : Evaluation Literal :=
  if !scalar.isAbstract then .ok (wrapped scalar value)
  else if scalar.holds value then .ok (.int scalar value)
  else .error (.overflow operation)

/-! ### Operators -/

def quotient (scalar : Scalar) (operation : String) (a b result : Int) : Evaluation Literal :=
  if scalar.holds (a.tdiv b) then .ok (.int scalar result) else .error (.overflow operation)

/-- Integer operands of the same type. Of the 64-bit types only the abstract one has arithmetic. -/
def integers (op : BinaryOp) (scalar : Scalar) (a b : Int) : Evaluation Literal :=
  let onBits (f : Nat → Nat → Nat) : Evaluation Literal :=
    .ok (ofBits scalar (f (bitsOf scalar a) (bitsOf scalar b)))
  if scalar.width = 8 && !scalar.isAbstract then .error .operands
  else match op with
    | .add => ofInt scalar "addition" (a + b)
    | .subtract => ofInt scalar "subtraction" (a - b)
    | .multiply => ofInt scalar "multiplication" (a * b)
    | .divide =>
      if b = 0 then .error .divisionByZero else quotient scalar "division" a b (a.tdiv b)
    | .modulo =>
      if b = 0 then .error .remainderByZero else quotient scalar "remainder" a b (a.tmod b)
    | .and => onBits (· &&& ·)
    | .inclusiveOr => onBits (· ||| ·)
    | .exclusiveOr => onBits (· ^^^ ·)
    | _ => .error .operands

/-- Number of leading bits equal to the sign bit. -/
def leadingSignBits (scalar : Scalar) (a : Int) : Nat :=
  let magnitude := (if a < 0 then -a - 1 else a).toNat
  if magnitude = 0 then 8 * scalar.width else 8 * scalar.width - (magnitude.log2 + 1)

/-- Signed operands must keep their sign and all bits, unsigned ones all bits. -/
def shiftLeft (scalar : Scalar) (a : Int) (b : Nat) : Evaluation Literal :=
  if scalar.kind = .uint then
    if 8 * scalar.width ≤ b then .error .shiftTooFar
    else if scalar.holds (a * twoTo b) then .ok (.int scalar (a * twoTo b))
    else .error (.overflow "<<")
  else if leadingSignBits scalar a ≤ b then .error (.overflow "<<")
  else .ok (.int scalar (a * twoTo b))

/-- Shifting an abstract number by its size or more gives zero. -/
def shiftRight (scalar : Scalar) (a : Int) (b : Nat) : Evaluation Literal :=
  if b < 8 * scalar.width then .ok (.int scalar (a >>> b))
  else if scalar.isAbstract then .ok (.int scalar 0)
  else .error .shiftTooFar

def shift (op : BinaryOp) (scalar : Scalar) (a : Int) (b : Nat) : Evaluation Literal :=
  if scalar.width = 8 && !scalar.isAbstract then .error .operands
  else match op with
    | .shiftLeft => shiftLeft scalar a b
    | .shiftRight => shiftRight scalar a b
    | _ => .error .operands

def remainderOfMagnitudes (a b : Float) : Nat → Float
  | 0 => a
  | fuel + 1 =>
    if a < b then a
    else
      let steps := a.frExp.2 - b.frExp.2
      let part := b.scaleB steps
      let part := if a < part then b.scaleB (steps - 1) else part
      remainderOfMagnitudes (a - part) b fuel

def maxSpread : Nat := 2200

/-- Remainder of truncating division. -/
def remainder (a b : Float) : Float :=
  if b == 0 || a.isInf || a.isNaN || b.isNaN then 0 / 0
  else if b.isInf then a
  else
    let value := remainderOfMagnitudes a.abs b.abs maxSpread
    if a < 0 then -value else value

/-- Floating point operands of the same type. Of the double precision types only the abstract one
has arithmetic. -/
def floats (op : BinaryOp) (scalar : Scalar) (a b : Float) : Evaluation Literal :=
  let result (x : Float) : Evaluation Literal :=
    if scalar = .f16 && !(rounded scalar x).isFinite then .error (.overflow op.label)
    else ofFloat scalar x
  if scalar = .f64 then .error .operands
  else match op with
    | .add => result (a + b)
    | .subtract => result (a - b)
    | .multiply => result (a * b)
    | .divide => result (a / b)
    | .modulo => result (remainder a b)
    | _ => .error .operands

def truths (op : BinaryOp) (a b : Bool) : Evaluation Literal :=
  match op with
  | .logicalAnd => .ok (.bool (a && b))
  | .logicalOr => .ok (.bool (a || b))
  | _ => .error .operands

def same : Literal → Literal → Bool
  | .bool a, .bool b => a == b
  | .int s a, .int t b => s = t && a == b
  | .float s a, .float t b => s = t && a == b
  | _, _ => false

def typeOrder : List Scalar :=
  [.f64, .f32, .f16, .u32, .i32, .u64, .i64, .bool, .abstractInt, .abstractFloat]

def typePlace (x : Literal) : Nat := typeOrder.idxOf x.scalar

def below (x y : Literal) : Bool :=
  if x.scalar = y.scalar then match x, y with
    | .bool a, .bool b => !a && b
    | .int _ a, .int _ b => a < b
    | .float _ a, .float _ b => a < b
    | _, _ => false
  else x.typePlace < y.typePlace

def binary (op : BinaryOp) (x y : Literal) : Evaluation Literal :=
  match op with
  | .equal => .ok (.bool (same x y))
  | .notEqual => .ok (.bool (!same x y))
  | .less => .ok (.bool (below x y))
  | .lessEqual => .ok (.bool (below x y || same x y))
  | .greater => .ok (.bool (below y x))
  | .greaterEqual => .ok (.bool (below y x || same x y))
  | .shiftLeft | .shiftRight => match x, y with
    | .int s a, .int t b => if t = .u32 then shift op s a b.toNat else .error .operands
    | _, _ => .error .operands
  | _ => match x, y with
    | .bool a, .bool b => truths op a b
    | .int s a, .int t b => if s = t then integers op s a b else .error .operands
    | .float s a, .float t b => if s = t then floats op s a b else .error .operands
    | _, _ => .error .operands

def unary (op : UnaryOp) (x : Literal) : Evaluation Literal :=
  match op, x with
  | .negate, .int s a => if s.kind = .uint then .error .unaryOperand else .ok (wrapped s (-a))
  | .negate, .float s a => .ok (.float s (-a))
  | .not, .bool a => .ok (.bool (!a))
  | .complement, .int s a => .ok (wrapped s (-a - 1))
  | _, _ => .error .unaryOperand

/-! ### Conversions -/

def greatest (scalar : Scalar) : Int :=
  if scalar.kind = .uint then twoTo (8 * scalar.width) - 1 else twoTo (8 * scalar.width - 1) - 1

def least (scalar : Scalar) : Int :=
  if scalar.kind = .uint then 0 else -(twoTo (8 * scalar.width - 1) : Int)

/-- Greatest integer of a type with at most `precision` significant bits. -/
def greatestExact (scalar : Scalar) (precision : Nat) : Int :=
  let bits := if scalar.kind = .uint then 8 * scalar.width else 8 * scalar.width - 1
  twoTo bits - twoTo (bits - precision)

def precisionOf (scalar : Scalar) : Nat :=
  if scalar.width = 8 then 53 else if scalar.width = 2 then 11 else 24

def wholePart (x : Float) : Int :=
  let (mantissa, exponent) := Rounding.parts x
  if 0 ≤ exponent then mantissa * twoTo exponent.toNat else mantissa.tdiv (twoTo (-exponent).toNat)

/-- Conversion to an integer type, clamped to the integers that are exact in the source type; an
abstract result is clamped to its own range. -/
def truncated (source goal : Scalar) (x : Float) : Literal :=
  if x.isNaN then .int goal 0
  else
    let top :=
      if source.isAbstract && goal.width = 4 then greatest goal
      else if precisionOf source < 8 * goal.width - 1 then greatestExact goal (precisionOf source)
      else greatest goal
    let value :=
      if x.isInf then (if x < 0 then least goal else top)
      else max (least goal) (min top (wholePart x))
    .int goal value

def label : Literal → String
  | .bool value => toString value
  | .int _ value => toString value
  | .float _ value => (Double.mk value.toBits).toBriefText

def isUnconvertible (source goal : Scalar) : Bool :=
  let wide := source = .f64 || source = .i64 || source = .u64
  if goal = .i32 || goal = .u32 || goal = .f32 || goal = .bool then wide
  else goal = .f64 && (source = .i64 || source = .u64)

def cast (goal : Scalar) (x : Literal) : Evaluation Literal :=
  let refused : Evaluation Literal := .error (.cast (label x) goal.label)
  if x.scalar = goal then .ok x
  else if isUnconvertible x.scalar goal then refused
  else match goal.kind with
    | .bool => match x with
      | .bool b => .ok (.bool b)
      | .int _ a => .ok (.bool (a ≠ 0))
      | .float _ a => .ok (.bool (a != 0))
    | .sint | .uint => match x with
      | .bool b => .ok (.int goal (if b then 1 else 0))
      | .int s a =>
        if !s.isAbstract then .ok (wrapped goal a)
        else if goal.holds a then .ok (.int goal a)
        else .error (.lossy goal.label (toString a))
      | .float s a => .ok (truncated s goal a)
    | .float => match x with
      | .bool b => ofFloat goal (if b then 1 else 0)
      | .int _ a => ofFloat goal (floatOfInt goal a)
      | .float s a =>
        if s.isAbstract && (rounded goal a).isInf then .error (.lossy goal.label (label x))
        else ofFloat goal a
    | .abstractFloat => match x with
      | .int s a => if s.isAbstract then .ok (.float goal (Float.ofInt a)) else refused
      | _ => refused
    | .abstractInt => refused
where
  floatOfInt (goal : Scalar) (a : Int) : Float :=
    if goal.width = 8 then Float.ofInt a
    else (Float32.ofBits (Single.ofRatio (a < 0) a.natAbs 1).bits).toFloat

end ShaderPreview.Wgsl.Literal
