import AliasTools.Number

/-!
# Dice expressions

What can be asked of the dice: sums and products, comparisons, dice such as `4d6kh3`, sets in
brackets, and annotations such as `[fire]`.
-/

namespace AliasTools.Dice

open Text Number

/-! ## 1. Numbers -/

inductive Num where
  | int (n : Int)
  | float (x : Float)

namespace Num

def toFloat : Num → Float
  | .int n => ofInt n
  | .float x => x

def text : Num → String
  | .int n => String.ofList (intText n)
  | .float x => String.ofList (floatText x)

def truncate : Num → Int
  | .int n => n
  | .float x => (truncate? x).getD 0

def isZero : Num → Bool
  | .int n => n == 0
  | .float x => x == 0.0

def compare? : Num → Num → Option Ordering
  | .int a, .int b => some (compare a b)
  | .int a, .float y => compareInt a y
  | .float x, .int b => (compareInt b x).map Ordering.swap
  | .float x, .float y => if x < y then some .lt else if x == y then some .eq else if x > y then some .gt else none

def combine (whole : Int → Int → Int) (other : Float → Float → Float) : Num → Num → Num
  | .int a, .int b => .int (whole a b)
  | a, b => .float (other a.toFloat b.toFloat)

def add : Num → Num → Num := combine (· + ·) (· + ·)

def sub : Num → Num → Num := combine (· - ·) (· - ·)

def mul : Num → Num → Num := combine (· * ·) (· * ·)

def div : Num → Num → Num
  | .int a, .int b => .float (ofRatio ((a < 0) != (b < 0)) a.natAbs b.natAbs)
  | a, b => .float (a.toFloat / b.toFloat)

variable (x y : Float)

def cutMod : Float := if !x.isFinite || y.isNaN then undefined else if y.isInf then x else remainder x y

def zeroLike (x : Float) : Float := if isNegative x then -0.0 else 0.0

def floatMod : Float :=
  let r := cutMod x y
  if r == 0.0 then zeroLike y
  else if (y < 0.0) != (r < 0.0) then r + y else r

def floatFloorDiv : Float :=
  let r := cutMod x y
  let q := (x - r) / y
  let q := if r != 0.0 && ((y < 0.0) != (r < 0.0)) then q - 1.0 else q
  if q == 0.0 then zeroLike (x / y)
  else
    let f := q.floor
    if q - f > 0.5 then f + 1.0 else f

def floorDiv : Num → Num → Num := combine Int.fdiv floatFloorDiv

def mod : Num → Num → Num := combine Int.fmod floatMod

def neg : Num → Num
  | .int n => .int (-n)
  | .float x => .float (-x)

def sum (ns : List Num) : Num := ns.foldl add (.int 0)

end Num

/-! ## 2. The tree -/

inductive SetOpKind where
  | keep | drop | rerollAll | rerollOnce | explodeOnce | explode | atLeast | atMost
deriving DecidableEq

def SetOpKind.text : SetOpKind → String
  | .keep => "k" | .drop => "p" | .rerollAll => "rr" | .rerollOnce => "ro" | .explodeOnce => "ra"
  | .explode => "e" | .atLeast => "mi" | .atMost => "ma"

/-- Which values are selected: the lowest or highest few, those below or above a bound, or those
    equal to a number. -/
structure Selector where
  category : Option Char
  num : Nat

def Selector.text (s : Selector) : String :=
  let n := String.ofList (natText s.num)
  match s.category with
  | some c => c.toString ++ n
  | none => n

structure SetOp where
  kind : SetOpKind
  selectors : List Selector

def SetOp.text (o : SetOp) : String := String.join (o.selectors.map fun s => o.kind.text ++ s.text)

inductive Expr where
  | literal (n : Num)
  | dice (num : Int) (size : Option Nat) (ops : List SetOp)
  | paren (e : Expr) (ops : List SetOp)
  | set (es : List Expr) (ops : List SetOp)
  | unary (op : String) (e : Expr)
  | binary (left : Expr) (op : String) (right : Expr)
  | annotated (e : Expr) (text : String)

mutual

def Expr.scale (multiply add : Int) : Expr → Expr
  | .literal n => .literal n
  | .dice n s ops => .dice (n * multiply + add) s ops
  | .paren e ops => .paren (e.scale multiply add) ops
  | .set es ops => .set (scaleAll multiply add es) ops
  | .unary o e => .unary o (e.scale multiply add)
  | .binary l o r => .binary (l.scale multiply add) o (r.scale multiply add)
  | .annotated e t => .annotated (e.scale multiply add) t

def scaleAll (multiply add : Int) : List Expr → List Expr
  | [] => []
  | e :: es => e.scale multiply add :: scaleAll multiply add es

end

mutual

def Expr.firstNumber? : Expr → Option Int
  | .literal _ => none
  | .dice n _ _ => some n
  | .paren e _ | .unary _ e | .annotated e _ => e.firstNumber?
  | .set es _ => firstNumberIn? es
  | .binary l _ r => l.firstNumber? <|> r.firstNumber?

def firstNumberIn? : List Expr → Option Int
  | [] => none
  | e :: es => e.firstNumber? <|> firstNumberIn? es

end

/-! ## 3. Reading -/

variable (cs : List Char)

def skipBlank : List Char := cs.dropWhile isBlank

def takeInteger : Option (Nat × List Char) :=
  match cs.takeWhile isAsciiDigit with
  | [] => none
  | ds => some (digitsNat ds, cs.drop ds.length)

def takeSelector : Option (Selector × List Char) :=
  let (cat, rest) : Option Char × List Char := match cs with
    | c :: r => if c == 'l' || c == 'h' || c == '<' || c == '>' then (some c, r) else (none, cs)
    | [] => (none, cs)
  (takeInteger rest).map fun (n, r) => (⟨cat, n⟩, r)

def takeOpKind (onDice : Bool) (cs : List Char) : Option (SetOpKind × List Char) :=
  let kinds : List SetOpKind := if onDice then
      [.keep, .drop, .rerollAll, .rerollOnce, .explodeOnce, .explode, .atLeast, .atMost]
    else [.keep, .drop]
  (kinds.find? fun k => k.text.toList.isPrefixOf cs).map fun k => (k, cs.drop k.text.length)

def takeOps (onDice : Bool) (cs : List Char) (acc : List SetOp) : Nat → Option (List SetOp × List Char)
  | 0 => some (acc.reverse, cs)
  | k + 1 =>
    match takeOpKind onDice cs with
    | none => some (acc.reverse, cs)
    | some (kind, rest) => do
      let (sel, rest) ← takeSelector rest
      takeOps onDice rest (⟨kind, [sel]⟩ :: acc) k

def mergeOps : List SetOp → List SetOp
  | [] => []
  | o :: rest =>
    match mergeOps rest with
    | p :: more =>
      if p.kind == o.kind && o.kind != .atLeast && o.kind != .atMost then ⟨o.kind, o.selectors ++ p.selectors⟩ :: more
      else o :: p :: more
    | [] => [o]

def takeAnnotations (cs : List Char) (acc : List Char) : Nat → List Char × List Char
  | 0 => (acc, cs)
  | k + 1 =>
    match cs with
    | '[' :: rest =>
      let body := rest.takeWhile fun c => c ≠ ']' ∧ c ≠ '\n'
      match rest.drop body.length with
      | ']' :: after => takeAnnotations (skipBlank after) (acc ++ '[' :: body ++ [']']) k
      | _ => (acc, cs)
    | _ => (acc, cs)

def takeSign (signs : List String) (cs : List Char) : Option (String × List Char) :=
  (signs.find? fun s => s.toList.isPrefixOf cs).map fun s => (s, cs.drop s.length)

def levels : List (List String) := [["==", ">=", "<=", "!=", "<", ">"], ["+", "-"], ["*", "//", "/", "%"]]

def chain (operand : List Char → Option (Expr × List Char)) (signs : List String) (left : Expr)
    (cs : List Char) : Nat → Option (Expr × List Char)
  | 0 => some (left, cs)
  | k + 1 =>
    match takeSign signs cs with
    | none => some (left, cs)
    | some (op, rest) => do
      let (right, rest) ← operand (skipBlank rest)
      chain operand signs (.binary left op right) rest k

def takeDiceOrLiteral : Option (Expr × List Char) :=
  let dice (num : Nat) (rest : List Char) : Option (Expr × List Char) := do
    let (size, r) ← match rest with
      | '%' :: r => some (none, r)
      | _ => (takeInteger rest).map fun (n, r) => (some n, r)
    let (ops, r) ← takeOps true r [] r.length
    return (.dice num size (mergeOps ops), r)
  let decimal (whole fraction : List Char) : Num :=
    .float (ofDecimal false (digitsNat (whole ++ fraction)) (-(fraction.length : Int)))
  match cs with
  | 'd' :: rest => dice 1 rest
  | '.' :: rest =>
    match rest.takeWhile isAsciiDigit with
    | [] => none
    | fs => some (.literal (decimal [] fs), rest.drop fs.length)
  | _ =>
    match takeInteger cs with
    | none => none
    | some (n, 'd' :: rest) => dice n rest
    | some (_, '.' :: rest) =>
      let fs := rest.takeWhile isAsciiDigit
      some (.literal (decimal (cs.takeWhile isAsciiDigit) fs), rest.drop fs.length)
    | some (n, rest) => some (.literal (.int n), rest)

def takeSetItems (number : List Char → Option (Expr × List Char)) (acc : List Expr)
    (cs : List Char) : Nat → Option (List Expr × Bool × List Char)
  | 0 => none
  | k + 1 =>
    match cs with
    | ')' :: rest => some (acc.reverse, false, rest)
    | ',' :: rest =>
      match skipBlank rest with
      | ')' :: after => some (acc.reverse, true, after)
      | rest => do
        let (e, rest) ← number rest
        takeSetItems number (e :: acc) (skipBlank rest) k
    | _ => none

mutual

def takeNumber : Nat → List Char → Option (Expr × List Char)
  | 0, _ => none
  | n + 1, cs => takeLevel n levels cs

def takeLevel (n : Nat) : List (List String) → List Char → Option (Expr × List Char)
  | [], cs => takeUnary n cs
  | signs :: tighter, cs => do
    let (left, rest) ← takeLevel n tighter cs
    chain (fun r => takeLevel n tighter r) signs left (skipBlank rest) rest.length

def takeUnary : Nat → List Char → Option (Expr × List Char)
  | 0, _ => none
  | n + 1, '+' :: rest => (takeUnary n (skipBlank rest)).map fun (e, r) => (.unary "+" e, r)
  | n + 1, '-' :: rest => (takeUnary n (skipBlank rest)).map fun (e, r) => (.unary "-" e, r)
  | n + 1, cs => do
    let (e, rest) ← takeValue n cs
    match takeAnnotations (skipBlank rest) [] rest.length with
    | ([], rest) => return (e, rest)
    | (text, rest) => return (.annotated e (String.ofList text), rest)

def takeValue : Nat → List Char → Option (Expr × List Char)
  | n + 1, '(' :: rest =>
    let inside := skipBlank rest
    let finish (es : List Expr) (comma : Bool) (rest : List Char) : Option (Expr × List Char) :=
      (takeOps false rest [] rest.length).map fun (ops, r) =>
        match es, comma with
        | [e], false => (.paren e (mergeOps ops), r)
        | _, _ => (.set es (mergeOps ops), r)
    match inside with
    | ')' :: after => finish [] false after
    | _ => do
      let (e, rest) ← takeNumber n inside
      let (es, comma, after) ← takeSetItems (takeNumber n) [e] (skipBlank rest) (rest.length + 1)
      finish es comma after
  | _, '(' :: _ => none
  | _, cs => takeDiceOrLiteral cs

end

def Expr.parse? (text : String) : Option Expr := do
  let cs := text.toList
  let (e, rest) ← takeNumber (4 * cs.length + 8) cs
  if (skipBlank rest).isEmpty then return e else none

end AliasTools.Dice
