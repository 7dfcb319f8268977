import AliasTools.Script.Operator
import AliasTools.Script.TextMethod

/-!
# Attributes

What can be taken from a value with a dot, and what its methods do.
-/

namespace AliasTools.Script

open Text Number Syntax Dice

/-! ## 1. The text that describes a function -/

def cleanDoc (doc : List Char) : List Char :=
  let ls := cutAt '\n' (expandFrom 8 0 [] doc)
  match ls with
  | [] => []
  | first :: rest =>
    let margins := rest.filterMap fun l =>
      let body := l.dropWhile isBlank
      if body.isEmpty then none else some (l.length - body.length)
    let margin := margins.foldl min (margins.headD 0)
    let cut := first.dropWhile isBlank :: rest.map (·.drop margin)
    let isEmptyLine (l : List Char) : Bool := l.isEmpty
    let cut := (cut.reverse.dropWhile isEmptyLine).reverse.dropWhile isEmptyLine
    List.intercalate ['\n'] cut

def docOf (body : List Stmt) : Value :=
  match body with
  | .expr _ (.constant _ (.str s _)) :: _ => .str (String.ofList (cleanDoc s.toList)) false
  | _ => .none

/-! ## 2. Attributes -/

def intMethods : List String := ["as_integer_ratio", "bit_count", "bit_length", "conjugate", "from_bytes", "to_bytes"]

def floatMethods : List String := ["as_integer_ratio", "conjugate", "fromhex", "hex", "is_integer"]

def argumentMethods : List String :=
  ["get", "last", "adv", "join", "ignore", "update", "update_nx", "set_context", "add_context",
   "from_dict", "empty_args"]

def ClassId.hasMethod (c : ClassId) (name : String) : Bool :=
  match c with
  | .bool | .int => intMethods.contains name
  | .float => floatMethods.contains name
  | .str _ => (textParams name).isSome
  | .list _ => (listParams name).isSome
  | .dict _ => dictMethods.contains name
  | .set _ => setMethods.contains name
  | .tuple | .range => name == "count" || name == "index"
  | _ => false

def numberAttr (v : Value) (name : String) : Option Value :=
  match v, name with
  | .int n, "real" | .int n, "numerator" => some (.int n)
  | .bool b, "real" | .bool b, "numerator" => some (.int (if b then 1 else 0))
  | .int _, "imag" | .bool _, "imag" => some (.int 0)
  | .int _, "denominator" | .bool _, "denominator" => some (.int 1)
  | .float x, "real" => some (.float x)
  | .float _, "imag" => some (.float 0.0)
  | .complex a _, "real" => some (.float a)
  | .complex _ b, "imag" => some (.float b)
  | _, _ => none

def rollAttr (a : Addr) (c : Cell) (name : String) : Eval (Option Value) := do
  match c with
  | .roll r =>
    match name with
    | "dice" => return some (.str r.dice false)
    | "total" => return some (.int r.total)
    | "full" => return some (.str r.full false)
    | "result" => return some (← alloc (.rollPart a "RollResult"))
    | "raw" => return some (← alloc (.rollPart a "Expression"))
    | "consolidated" => return some (.method (.ref a) name)
    | _ => return none
  | .rollPart of part =>
    match ← cellAt of with
    | some (.roll r) =>
      match part, name with
      | "RollResult", "total" => return some (.int (← liftRoll r.rolled.totalInt))
      | "RollResult", "result" => return some (.str (← liftRoll r.rolled.text) false)
      | "RollResult", "crit" => return some (.int r.rolled.critical)
      | "RollResult", "comment" | "Expression", "comment" | "Expression", "annotation" => return some .none
      | "RollResult", "expr" => return some (← alloc (.rollPart of "Expression"))
      | "Expression", "total" | "Expression", "number" =>
        match ← liftRoll r.rolled.total with
        | .int n => return some (.int n)
        | .float x => return some (.float x)
      | "Expression", "kept" => return some (.bool true)
      | _, _ => return none
    | _ => return none
  | _ => return none

def getAttr (v : Value) (name : String) : Eval (Option Value) := do
  let method : Option Value := some (.method v name)
  let methodIf (b : Bool) : Option Value := if b then method else none
  match v with
  | .str s guarded =>
    if guarded && name == "data" then return some (.str s false)
    return methodIf (textParams name).isSome
  | .tuple _ => return methodIf (name == "count" || name == "index")
  | .int _ | .bool _ => return (numberAttr v name).or (methodIf (intMethods.contains name))
  | .float _ => return (numberAttr v name).or (methodIf (floatMethods.contains name))
  | .complex _ _ => return (numberAttr v name).or (methodIf (name == "conjugate"))
  | .range a b c =>
    match name with
    | "start" => return some (.int a)
    | "stop" => return some (.int b)
    | "step" => return some (.int c)
    | _ => return methodIf (name == "count" || name == "index")
  | .slice a b c =>
    match name with
    | "start" => return some a
    | "stop" => return some b
    | "step" => return some c
    | _ => return methodIf (name == "indices")
  | .cls c => return methodIf (c.hasMethod name)
  | .ref a =>
    match ← cellAt a with
    | some (.list guarded xs _) =>
      if guarded && name == "data" then return some (← alloc (.list false xs none))
      return methodIf (listParams name).isSome
    | some (.dict g es _) =>
      if dictMethods.contains name then return method
      if g then return es.get? (.str name) else return none
    | some (.set _ _ _) => return methodIf (setMethods.contains name)
    | some (.closure c) =>
      match name with
      | "name" => return some (.str c.name false)
      | "doc" =>
        return some (match c.body with
          | .inl body => docOf body
          | .inr _ => .none)
      | _ => return none
    | some (.generator g) =>
      match name with
      | "gi_running" => return some (.bool g.active)
      | "gi_yieldfrom" => return some .none
      | _ => return methodIf (name == "close" || name == "send" || name == "throw")
    | some (.view _ _) => return methodIf (name == "isdisjoint")
    | some (.namespace ns) => return ns.get? name
    | some (.arguments _ _) => return methodIf (argumentMethods.contains name)
    | some c => rollAttr a c name
    | none => return none
  | _ => return none

/-! ## 3. Methods of plain values -/

variable (go : Go)

def ratioOf (v : Value) : Eval Value := do
  match v with
  | .float x =>
    match decode x with
    | some b =>
      let (n, d) := b.ratio
      let g := Nat.gcd n.natAbs d
      return .tuple [.int (n / g), .int (d / g)]
    | none =>
      if x.isNaN then valueFault "cannot convert NaN to integer ratio"
      else fail .overflow "cannot convert Infinity to integer ratio"
  | _ => return .tuple [.int (v.asInt?.getD 0), .int 1]

def bitCount (n : Nat) : Nat := ((Nat.toDigits 2 n).filter (· == '1')).length

def numberMethod (v : Value) (name : String) (args : List Value) (named : Names) : Eval Value := do
  let kind ← match v with
    | .bool _ => pure "int"
    | _ => typeName v
  noArguments s!"{kind}.{name}" args named
  match name, v with
  | "as_integer_ratio", _ => ratioOf v
  | "conjugate", .complex a b => return .complex a (-b)
  | "conjugate", .float x => return .float x
  | "conjugate", _ => return .int (v.asInt?.getD 0)
  | "bit_length", _ =>
    let n := (v.asInt?.getD 0).natAbs
    return .int (if n == 0 then 0 else n.log2 + 1)
  | "bit_count", _ => return .int (bitCount (v.asInt?.getD 0).natAbs)
  | "is_integer", .float x => return .bool (toInt? x).isSome
  | _, _ => fail .notImplemented s!"{name} is not available"

def sequenceMethod (v : Value) (name : String) (args : List Value) (named : Names) : Eval Value := do
  let kind ← typeName v
  let items ← collect go v
  if name == "count" then
    let x ← oneArgument s!"{kind}.count" args named
    let hits ← items.toList.filterM fun y => sameOrEqual go y x
    return .int hits.length
  match v with
  | .range _ _ _ =>
    let x ← oneArgument s!"{kind}.index" args named
    match ← placeOf go x 0 items.toList with
    | some i => return .int i
    | none =>
      if x.asInt?.isSome then valueFault s!"{← go (.shown [] x)} is not in range"
      valueFault "sequence.index(x): x not in sequence"
  | _ =>
    noKeywords s!"{kind}.index" named
    someArguments "index" 1 3 args
    let (lo, hi) ← searchRange (args.drop 1) items.size
    match ← placeOf go (args.getD 0 .none) lo (items.extract lo hi).toList with
    | some i => return .int i
    | none => valueFault "tuple.index(x): x not in tuple"

def consolidate (a : Addr) (r : RollRecord) : Eval Value := do
  let simple ← liftRoll r.rolled.simplify
  .change (.setRoll a { r with rolled := simple })
  return .str (← liftRoll simple.plain) false

def classMethod (c : ClassId) (name : String) (args : List Value) (named : Names) : Eval Value := do
  match c, name with
  | .dict g, "fromkeys" => dictFromKeys go g args
  | .str _, "maketrans" => makeTable go args
  | _, _ =>
    match args with
    | [] => typeFault s!"unbound method {c.name}.{name}() needs an argument"
    | v :: rest => go (.method v name rest named)

def callMethod (self : Value) (name : String) (args : List Value) (named : Names) : Eval Value := do
  match self with
  | .str s g => textMethod go name self s g args named
  | .tuple _ | .range _ _ _ => sequenceMethod go self name args named
  | .int _ | .bool _ | .float _ | .complex _ _ => numberMethod self name args named
  | .cls c => classMethod go c name args named
  | .slice a b c =>
    let n ← toIndex (← oneArgument "slice.indices" args named)
    let s ← stretchOf a b c n.toNat
    return .tuple [.int s.start, .int s.stop, .int s.step]
  | .ref a =>
    match ← cellAt a with
    | some (.list g _ _) => listMethod go name self a g args named
    | some (.dict g _ _) => dictMethod go name self a g args named
    | some (.set g _ _) => setMethod go name self a g args named
    | some (.view _ _) =>
      let other ← asMembers go (← oneArgument "isdisjoint" args named)
      let own := (← setLike? self).getD #[]
      return .bool (intersect own other).isEmpty
    | some (.roll r) =>
      let s : Signature := { label := "SimpleRollResult.consolidated", params := [needed "self"] }
      discard <| s.bind (self :: args) named
      consolidate a r
    | _ => typeFault s!"'{← typeName self}' object is not callable"
  | _ => typeFault s!"'{← typeName self}' object is not callable"

/-! ## 4. Rolling dice -/

def rollExpr (e : Dice.Expr) : Eval (Option Rolled) := do
  let w ← read
  match e.roll { source := w.dice } with
  | .ok r s =>
    .change (.dice s.source)
    return some r
  | .error _ s =>
    .change (.dice s.source)
    return none

def rollText (text : String) : Eval (Option Rolled) := do
  match Dice.Expr.parse? text with
  | none => return none
  | some e => rollExpr e

def rollOrZero (text : String) : Eval Rolled := do
  match ← rollText text with
  | some r => return r
  | none => return .literal { value := .int 0 } {}

def rollResult (r : Rolled) : Eval Value := do
  let total ← liftRoll r.totalInt
  let full ← liftRoll r.text
  alloc (.roll { rolled := r, dice := r.markdown false, total := total, full := full })

variable (go : Go)

def scaledExpr (e : Dice.Expr) (multiply add : Value) : Eval Dice.Expr := do
  match e.firstNumber? with
  | none => return e
  | some n =>
    let scaled ← addValues go (← mulValues go (.int n) multiply) add
    match scaled.asInt?, multiply.asInt?, add.asInt? with
    | some _, some m, some a => return e.scale m a
    | _, _, _ => typeFault s!"'{← typeName scaled}' object cannot be interpreted as an integer"

def rollScaled (text : String) (multiply add : Value) : Eval Value := do
  match Dice.Expr.parse? text with
  | none => return .none
  | some e =>
    let same ← go (.eq multiply (.int 1))
    let same ← if same then go (.eq add (.int 0)) else pure false
    let e ← if same then pure e else scaledExpr go e multiply add
    match ← rollExpr e with
    | none => return .none
    | some r => rollResult r

end AliasTools.Script
