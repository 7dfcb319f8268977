import AliasTools.Script.Show
import AliasTools.Text.Format

/-!
# Arithmetic

Whole numbers of any size, floats, and complex numbers; an operation works on the widest of its two
operands.
-/

namespace AliasTools.Script

open Number Dice Syntax

structure Complex where
  re : Float
  im : Float

inductive Numeric where
  | int (n : Int)
  | float (x : Float)
  | complex (z : Complex)

def Value.asNumeric? : Value → Option Numeric
  | .int n => some (.int n)
  | .bool b => some (.int (if b then 1 else 0))
  | .float x => some (.float x)
  | .complex a b => some (.complex ⟨a, b⟩)
  | _ => Option.none

def intToFloat (n : Int) : Eval Float := do
  let x := ofInt n
  if x.isInf then fail .overflow "int too large to convert to float"
  return x

def Numeric.toFloat : Numeric → Eval Float
  | .int n => intToFloat n
  | .float x => pure x
  | .complex z => pure z.re

def Numeric.toComplex : Numeric → Eval Complex
  | .int n => do return ⟨← intToFloat n, 0.0⟩
  | .float x => pure ⟨x, 0.0⟩
  | .complex z => pure z

namespace Complex

def toValue (z : Complex) : Value := .complex z.re z.im

variable (a b : Complex)

def mul : Complex := ⟨a.re * b.re - a.im * b.im, a.re * b.im + a.im * b.re⟩

def div? : Option Complex :=
  if b.re == 0.0 && b.im == 0.0 then none
  else if b.re.abs ≥ b.im.abs then
    let ratio := b.im / b.re
    let denom := b.re + b.im * ratio
    some ⟨(a.re + a.im * ratio) / denom, (a.im - a.re * ratio) / denom⟩
  else
    let ratio := b.re / b.im
    let denom := b.re * ratio + b.im
    some ⟨(a.re * ratio + a.im) / denom, (a.im * ratio - a.re) / denom⟩

def abs (z : Complex) : Float :=
  let x := z.re.abs
  let y := z.im.abs
  if x == 0.0 then y else if y == 0.0 then x
  else
    let big := if x < y then y else x
    let small := if x < y then x else y
    big * (1.0 + (small / big) * (small / big)).sqrt

def powNat (z : Complex) (acc : Complex) : Nat → Nat → Complex
  | 0, _ => acc
  | _, 0 => acc
  | k + 1, n => powNat (z.mul z) (if n % 2 == 1 then acc.mul z else acc) k (n / 2)

def powPolar : Complex :=
  if b.re == 0.0 && b.im == 0.0 then ⟨1.0, 0.0⟩
  else if a.re == 0.0 && a.im == 0.0 then ⟨0.0, 0.0⟩
  else
    let size := (a.re * a.re + a.im * a.im).sqrt
    let size := if a.im == 0.0 then a.re.abs else size
    let len := Float.pow size b.re
    let angle := Float.atan2 a.im a.re
    let phase := angle * b.re
    if b.im == 0.0 then ⟨len * phase.cos, len * phase.sin⟩
    else
      let len := len / Float.exp (angle * b.im)
      let phase := phase + b.im * Float.log size
      ⟨len * phase.cos, len * phase.sin⟩

def pow : Complex :=
  if b.im == 0.0 && b.re == b.re.floor && b.re.abs ≤ 100.0 then
    let n := (toInt? b.re).getD 0
    let p := powNat a ⟨1.0, 0.0⟩ 64 n.natAbs
    if n < 0 then ((⟨1.0, 0.0⟩ : Complex).div? p).getD ⟨0.0, 0.0⟩ else p
  else powPolar a b

end Complex

variable (op : BinOp) (a b : Int)

def opName : String :=
  match op with
  | .pow => "** or pow()"
  | o => o.symbol

def unsupported {α : Type} (op : BinOp) (a b : Value) : Eval α := do
  typeFault s!"unsupported operand type(s) for {opName op}: '{← typeName a}' and '{← typeName b}'"

def divideInts : Eval Value := do
  if b == 0 then fail .zeroDivision "division by zero"
  let x := ofRatio ((a < 0) != (b < 0)) a.natAbs b.natAbs
  if x.isInf then fail .overflow "integer division result too large for a float"
  return .float x

def powFloats (x y : Float) : Eval Value := do
  if x == 0.0 && y < 0.0 then fail .zeroDivision "0.0 cannot be raised to a negative power"
  if x < 0.0 && x.isFinite && y.isFinite && y != y.floor then return (Complex.pow ⟨x, 0.0⟩ ⟨y, 0.0⟩).toValue
  let r := Float.pow x y
  if r.isInf && x.isFinite && y.isFinite then fail .overflow "(34, 'Numerical result out of range')"
  return .float r

def floatArith (x y : Float) : Eval (Option Value) := do
  match op with
  | .add => return some (.float (x + y))
  | .sub => return some (.float (x - y))
  | .mult => return some (.float (x * y))
  | .div =>
    if y == 0.0 then fail .zeroDivision "float division by zero"
    return some (.float (x / y))
  | .floorDiv =>
    if y == 0.0 then fail .zeroDivision "float floor division by zero"
    return some (.float (Num.floatFloorDiv x y))
  | .mod =>
    if y == 0.0 then fail .zeroDivision "float modulo"
    return some (.float (Num.floatMod x y))
  | .pow => return some (← powFloats x y)
  | _ => return none

def complexArith (a b : Complex) : Eval (Option Value) := do
  match op with
  | .add => return some (.complex (a.re + b.re) (a.im + b.im))
  | .sub => return some (.complex (a.re - b.re) (a.im - b.im))
  | .mult => return some (a.mul b).toValue
  | .div =>
    match a.div? b with
    | some z => return some z.toValue
    | none => fail .zeroDivision "complex division by zero"
  | .pow =>
    if a.re == 0.0 && a.im == 0.0 && (b.re < 0.0 || b.im != 0.0) then
      fail .zeroDivision "0.0 to a negative or complex power"
    return some (a.pow b).toValue
  | _ => return none

def bitCombine (f : Nat → Nat → Nat) (fb : Bool → Bool → Bool) (a b : Int) : Int :=
  -- a negative number has the complement of the bits of the number before its opposite
  let bits (n : Int) : Nat × Bool := if n < 0 then ((-n - 1).toNat, true) else (n.toNat, false)
  let (m, p) := bits a
  let (n, q) := bits b
  let width := max m.log2 n.log2 + 1
  let all := twoTo width - 1
  let flip (k : Nat) (neg : Bool) : Nat := if neg then all - k else k
  let r := f (flip m p) (flip n q)
  if fb p q then -((all - r : Nat) : Int) - 1 else r

def bitAnd : Int := bitCombine Nat.land and a b

def bitOr : Int := bitCombine Nat.lor or a b

def bitXor : Int := bitCombine Nat.xor xor a b

def intArith : Eval (Option Value) := do
  match op with
  | .add => return some (.int (a + b))
  | .sub => return some (.int (a - b))
  | .mult => return some (.int (a * b))
  | .div => return some (← divideInts a b)
  | .floorDiv =>
    if b == 0 then fail .zeroDivision "integer division or modulo by zero"
    return some (.int (Int.fdiv a b))
  | .mod =>
    if b == 0 then fail .zeroDivision "integer modulo by zero"
    return some (.int (Int.fmod a b))
  | .pow =>
    if b < 0 then return some (← powFloats (← intToFloat a) (← intToFloat b))
    return some (.int (Int.pow a b.toNat))
  | .lShift =>
    if b < 0 then fail .valueError "negative shift count"
    return some (.int (a * twoTo b.toNat))
  | .rShift =>
    if b < 0 then fail .valueError "negative shift count"
    if b > 100000 then return some (.int (if a < 0 then -1 else 0))
    return some (.int (Int.fdiv a (twoTo b.toNat)))
  | .bitAnd => return some (.int (bitAnd a b))
  | .bitOr => return some (.int (bitOr a b))
  | .bitXor => return some (.int (bitXor a b))
  | .matMult => return none

def boolArith (a b : Bool) : Option Value :=
  match op with
  | .bitAnd => some (.bool (a && b))
  | .bitOr => some (.bool (a || b))
  | .bitXor => some (.bool (a != b))
  | _ => none

/-- An operation on numbers; nothing when the operands are no numbers or the operation does not
    exist for them. -/
def numericArith (a b : Value) : Eval (Option Value) := do
  match a, b with
  | .bool p, .bool q =>
    match boolArith op p q with
    | some v => return some v
    | none => intArith op (if p then 1 else 0) (if q then 1 else 0)
  | _, _ =>
    match a.asNumeric?, b.asNumeric? with
    | some (.int m), some (.int n) => intArith op m n
    | some (.complex z), some y => complexArith op z (← y.toComplex)
    | some x, some (.complex z) => complexArith op (← x.toComplex) z
    | some x, some y => floatArith op (← x.toFloat) (← y.toFloat)
    | _, _ => return none

def absOf (v : Value) : Eval Value := do
  match v.asNumeric? with
  | some (.int n) => return .int n.natAbs
  | some (.float x) => return .float x.abs
  | some (.complex z) => return .float z.abs
  | none => typeFault s!"bad operand type for abs(): '{← typeName v}'"

def unaryArith (op : UnaryOp) (v : Value) : Eval Value := do
  match op, v.asNumeric? with
  | .uSub, some (.int n) => return .int (-n)
  | .uSub, some (.float x) => return .float (-x)
  | .uSub, some (.complex z) => return .complex (-z.re) (-z.im)
  | .uAdd, some (.int n) => return .int n
  | .uAdd, some (.float x) => return .float x
  | .uAdd, some (.complex z) => return z.toValue
  | .invert, some (.int n) => return .int (-n - 1)
  | op, _ =>
    let sign := match op with
      | .uSub => "-"
      | .uAdd => "+"
      | _ => "~"
    typeFault s!"bad operand type for unary {sign}: '{← typeName v}'"

open Text

/-! ## 1. Conversions into numbers, and into text under a format -/

def floatToInt (x : Float) : Eval Int := do
  match truncate? x with
  | some n => return n
  | none =>
    if x.isNaN then valueFault "cannot convert float NaN to integer"
    else fail .overflow "cannot convert float infinity to integer"

def intOfText (s : String) (base : Nat) : Except Fault Int :=
  (readInt base s.toList).mapError fun f => ⟨.valueError, f.message base s⟩

def floatOfText (s : String) : Except Fault Float :=
  match readFloat? s.toList with
  | some x => .ok x
  | none => .error ⟨.valueError, s!"could not convert string to float: {quote s}"⟩

def textToInt (s : String) (base : Nat) : Eval Int := orRaise (intOfText s base)

def textToFloat (s : String) : Eval Float := orRaise (floatOfText s)

def toInt (v : Value) : Eval Int := do
  match v with
  | .int n => return n
  | .bool b => return if b then 1 else 0
  | .float x => floatToInt x
  | .str s _ => textToInt s 10
  | _ => typeFault s!"int() argument must be a string, a bytes-like object or a real number, not '{← typeName v}'"

def toFloat (v : Value) : Eval Float := do
  match v with
  | .int n => intToFloat n
  | .bool b => return if b then 1.0 else 0.0
  | .float x => return x
  | .str s _ => textToFloat s
  | _ => typeFault s!"float() argument must be a string or a real number, not '{← typeName v}'"

def toReal (v : Value) : Eval Float := do
  match v with
  | .int n => intToFloat n
  | .bool b => return if b then 1.0 else 0.0
  | .float x => return x
  | .str s true => textToFloat s
  | _ => typeFault s!"must be real number, not {← typeName v}"

/-- Only whole numbers are places. -/
def toIndex (v : Value) : Eval Int := do
  match v.asInt? with
  | some n => return n
  | none => typeFault s!"'{← typeName v}' object cannot be interpreted as an integer"

def liftFormat (r : Except FormatFault (List Char)) : Eval String :=
  match r with
  | .ok cs => pure (String.ofList cs)
  | .error e => fail (if e == .charRange || e == .wordRange then .overflow else .valueError) e.message

def asksForFloat (spec : List Char) : Bool := (spec.getLast?.map isFloatForm).getD false

def formatWhole (n : Int) (kind : String) (spec : List Char) : Eval String := do
  let x ← if asksForFloat spec then intToFloat n else pure 0.0
  liftFormat (formatInt n x kind spec)

variable (go : Go)

def formatValue (v : Value) (spec : String) : Eval String := do
  let cs := spec.toList
  match v with
  | .str s _ => liftFormat (formatText s.toList cs)
  | .int n => formatWhole n "int" cs
  | .float x => liftFormat (formatFloat x cs)
  | .bool b => if cs.isEmpty then go (.text v) else formatWhole (if b then 1 else 0) "bool" cs
  | _ =>
    if cs.isEmpty then go (.text v)
    else typeFault s!"unsupported format string passed to {← typeName v}.__format__"

end AliasTools.Script
