import AliasTools.Script.Attribute

/-!
# Functions that every script has

Lengths, extremes, sums, rounding, and the classes called as functions.
-/

namespace AliasTools.Script

open Text Number

variable (go : Go) (args : List Value) (named : Names) (guarded : Bool)

/-! ## 1. Extremes and sums -/

def extremeOperands (name : String) (args : List Value) (named : Names) : Eval (List Value × Option Value × Value) := do
  if args.isEmpty then typeFault s!"{name} expected at least 1 argument, got 0"
  let s : PlainSignature := { label := name, params := ["key", "default"], placed := 0 }
  discard <| s.bind [] named
  let key := (named.get? "key").getD .none
  let default := named.get? "default"
  match args with
  | [v] => return ((← collect go v).toList, default, key)
  | vs =>
    if default.isSome then typeFault s!"Cannot specify a default for {name}() with multiple positional arguments"
    return (vs, none, key)

def extremeFrom (o : Order) (key : Value) (best rank : Value) : List Value → Eval Value
  | [] => pure best
  | v :: vs => do
    let r ← if key.isNone then pure v else go (.call key [v] [])
    if ← go (.order o r rank) then extremeFrom o key v r vs else extremeFrom o key best rank vs

def extreme (name : String) (o : Order) (args : List Value) (named : Names) : Eval Value := do
  let (vs, default, key) ← extremeOperands go name args named
  match vs with
  | [] =>
    match default with
    | some v => return v
    | none => valueFault s!"{name}() arg is an empty sequence"
  | v :: rest =>
    let r ← if key.isNone then pure v else go (.call key [v] [])
    extremeFrom go o key v r rest

def sumValues : Eval Value := do
  let s : PlainSignature := { label := "sum", params := ["", "start"], unnamed := 1, required := 1, placed := 2 }
  let given ← s.bind args named
  let v := (given.getD 0 none).getD .none
  let start := (given.getD 1 none).getD (.int 0)
  let c ← go (.iter v)
  match start with
  | .str _ _ => typeFault "sum() can't sum strings [use ''.join(seq) instead]"
  | _ => pure ()
  (← drain go #[] c runLimit).toList.foldlM (addValues go) start

/-- `all` and `any` stop at the first value that decides. -/
def quantify (every : Bool) (c : Cursor) : Nat → Eval Bool
  | 0 => raise .outOfFuel
  | k + 1 => do
    match ← go (.next c) with
    | none => return every
    | some (v, c) => if (← go (.truth v)) == every then quantify every c k else return !every

/-! ## 2. Rounding -/

/-- A half is rounded to the even neighbour. -/
def roundInt (n digits : Int) : Int :=
  if digits ≥ 0 then n
  else
    let unit := tenTo (-digits).toNat
    let q := (roundDiv n.natAbs unit * unit : Nat)
    if n < 0 then -(q : Int) else q

def roundFloat (x : Float) (digits : Int) : Eval Float := do
  match decode x with
  | none => return x
  | some b =>
    if digits > 323 then return x
    if digits < -308 then return if isNegative x then -0.0 else 0.0
    let (n, d) := b.ratio
    let r := if digits ≥ 0 then ofRatio b.negative (roundDiv (n.natAbs * tenTo digits.toNat) d) (tenTo digits.toNat)
      else
        let unit := tenTo (-digits).toNat
        ofRatio b.negative (roundDiv n.natAbs (d * unit) * unit) 1
    if r.isInf then fail .overflow "rounded value too large to represent"
    return r

def roundValue : Eval Value := do
  let s : PlainSignature := { label := "round", params := ["number", "ndigits"], required := 1, placed := 2 }
  let given ← s.bind args named
  let v := (given.getD 0 none).getD .none
  let digits := (given.getD 1 none).getD .none
  match v with
  | .float x =>
    if digits.isNone then
      match round? x with
      | some n => return .int n
      | none => return .int (← floatToInt x)
    return .float (← roundFloat x (← toIndex digits))
  | _ =>
    match v.asInt? with
    | some n =>
      if digits.isNone then return .int n
      return .int (roundInt n (← toIndex digits))
    | none => typeFault s!"type {← typeName v} doesn't define __round__ method"

def wholeBeside (pick : Float → Option Int) (v : Value) : Eval Value := do
  match v.asInt? with
  | some n => return .int n
  | none =>
    let x ← toReal v
    match pick x with
    | some n => return .int n
    | none => return .int (← floatToInt x)

def squareRoot (v : Value) : Eval Value := do
  let x ← toReal v
  if x < 0.0 then valueFault "math domain error"
  return .float x.sqrt

/-! ## 3. Classes as functions -/

def makeInt : Eval Value := do
  let s : PlainSignature := { label := "int", params := ["", "base"], unnamed := 1, placed := 2 }
  let given ← s.bind args named
  match args, given.getD 1 none with
  | [], none => return .int 0
  | [], some _ => typeFault "int() missing string argument"
  | v :: _, none =>
    match ← cellOf v with
    | some (.object _ _) | some (.rollPart _ _) => go (.method v "__int__" [] [])
    | _ => return .int (← toInt v)
  | v :: _, some base =>
    let b ← toIndex base
    if b != 0 && (b < 2 || b > 36) then valueFault "int() base must be >= 2 and <= 36, or 0"
    match v with
    | .str s _ => return .int (← textToInt s b.toNat)
    | _ => typeFault "int() can't convert non-string with explicit base"

def makeFloat : Eval Value := do
  noKeywords "float" named
  someArguments "float" 0 1 args
  match args with
  | [] => return .float 0.0
  | v :: _ =>
    match ← cellOf v with
    | some (.object _ _) | some (.rollPart _ _) => go (.method v "__float__" [] [])
    | _ => return .float (← toFloat v)

def refuseDecoding (given : List (Option Value)) : Eval Unit := do
  let part (i : Nat) (name : String) : Eval Bool := do
    match given.getD i none with
    | none => return false
    | some (.str _ _) => return true
    | some v => typeFault s!"str() argument '{name}' must be str, not {← argumentWord v}"
  let encoding ← part 1 "encoding"
  let errors ← part 2 "errors"
  if encoding || errors then
    match given.getD 0 none with
    | none => pure ()
    | some (.str _ _) => typeFault "decoding str is not supported"
    | some v => typeFault s!"decoding to str: need a bytes-like object, {← typeName v} found"

def makeText (args : List Value) (named : Names) : Eval Value := do
  let plain : PlainSignature := { label := "str", params := ["object", "encoding", "errors"], placed := 3 }
  let given ← plain.bind args named
  refuseDecoding given
  if guarded then
    let s : Signature := { label := "safe_str.<locals>.str.__init__", params := [needed "self", needed "seq"] }
    let b ← s.bind (.none :: args) named
    return .str (← go (.text (b.get "seq"))) true
  match given.getD 0 none with
  | some v => return .str (← go (.text v)) false
  | none => return .str "" false

def makeListOf (args : List Value) (named : Names) : Eval Value := do
  let s : Signature := { label := "UserList.__init__", params := [needed "self", optional "initlist" .none] }
  let b ← s.bind (.none :: args) named
  let v := b.get "initlist"
  let items ← if v.isNone then pure #[] else collect go v
  if guarded then makeList go items else alloc (.list false items none)

def makeDictOf (args : List Value) (named : Names) : Eval Value := do
  someArguments "dict" 0 1 args
  let given ← match args with
    | v :: _ => entriesFrom go v
    | [] => pure #[]
  let es ← entriesOf (Entries.merge #[] given.toList) (namedPairs named)
  if guarded then makeDict go es else alloc (.dict false es none)

def makeSetOf (args : List Value) (named : Names) : Eval Value := do
  noKeywords "set" named
  someArguments (if guarded then "SafeSet" else "set") 0 1 args
  let ms ← match args with
    | v :: _ => asMembers go v
    | [] => pure #[]
  if guarded then makeSet go ms else alloc (.set false ms none)

def makeRange : Eval Value := do
  noKeywords "range" named
  someArguments "range" 1 3 args
  match args with
  | [stop] => return .range 0 (← toIndex stop) 1
  | [start, stop] =>
    let a ← toIndex start
    return .range a (← toIndex stop) 1
  | start :: stop :: step :: _ =>
    let a ← toIndex start
    let b ← toIndex stop
    let c ← toIndex step
    if c == 0 then valueFault "range() arg 3 must not be zero"
    return .range a b c
  | [] => return .none

def makeCounter : Eval Value := do
  let total := args.length + named.length
  let known : List String := match total, named with
    | 1, _ => ["iterable"]
    | _, [_] => ["start"]
    | _, _ => ["iterable", "start"]
  if args.isEmpty && (total == 0 || total > 2) then typeFault "enumerate() missing required argument 'iterable'"
  if total > 2 then typeFault s!"enumerate() takes at most 2 arguments ({total} given)"
  match named.find? fun p => !known.contains p.1 with
  | some (n, _) => typeFault s!"'{n}' is an invalid keyword argument for enumerate()"
  | none => pure ()
  let v := (args[0]? <|> named.get? "iterable").getD .none
  let n ← match args[1]? <|> named.get? "start" with
    | some s => toIndex s
    | none => pure 0
  alloc (.counter (← go (.iter v)) n)

def construct (c : ClassId) (args : List Value) (named : Names) : Eval Value := do
  match c with
  | .bool =>
    noKeywords "bool" named
    someArguments "bool" 0 1 args
    match args with
    | v :: _ => return .bool (← go (.truth v))
    | [] => return .bool false
  | .int => makeInt go args named
  | .float => makeFloat go args named
  | .str g => makeText go g args named
  | .tuple =>
    noKeywords "tuple" named
    someArguments "tuple" 0 1 args
    match args with
    | v :: _ => return .tuple (← collect go v).toList
    | [] => return .tuple []
  | .list g => makeListOf go g args named
  | .dict g => makeDictOf go g args named
  | .set g => makeSetOf go g args named
  | .range => makeRange args named
  | .enumerate => makeCounter go args named
  | .object _ | .other _ => typeFault s!"cannot create '{c.name}' instances"

/-! ## 4. Functions -/

def callCommon (f : Builtin) (args : List Value) (named : Names) : Eval Value := do
  match f with
  | .len => return .int (← go (.len (← oneArgument "len" args named)))
  | .min => extreme go "min" .lt args named
  | .max => extreme go "max" .gt args named
  | .sum => sumValues go args named
  | .any =>
    let v ← oneArgument "any" args named
    return .bool (← quantify go false (← go (.iter v)) runLimit)
  | .all =>
    let v ← oneArgument "all" args named
    return .bool (← quantify go true (← go (.iter v)) runLimit)
  | .abs => absOf (← oneArgument "abs" args named)
  | .round => roundValue args named
  | .ceil => wholeBeside ceil? (← oneArgument "math.ceil" args named)
  | .floor => wholeBeside floor? (← oneArgument "math.floor" args named)
  | .sqrt => squareRoot (← oneArgument "math.sqrt" args named)
  | .typeof =>
    let s : Signature := { label := "_default_builtins.<locals>.<lambda>", params := [needed "inst"] }
    let b ← s.bind args named
    return .str (← typeName (b.get "inst")) false
  | _ => fail .notImplemented "no such function"

end AliasTools.Script
