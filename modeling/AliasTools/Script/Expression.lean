import AliasTools.Script.Builtin
import AliasTools.Script.Comprehension
import AliasTools.Script.Match

/-!
# Evaluating expressions

Every node that is evaluated counts as a statement.
-/

namespace AliasTools.Script

open Syntax Text

/-! ## 1. Around every node -/

def tiedTo {α : Type} (span : Span) (act : Eval α) : Eval α := .wrapped (.node span) act

def notAvailable {α : Type} (name : String) (span : Span) : Eval α :=
  failAt .featureNotAvailable s!"Sorry, {name} is not available in this evaluator" span

variable (go : Go) (span : Span) (e : Expr) (func : Expr) (args : List Expr) (keywords : List Keyword)

/-! ## 2. Unpacking -/

/-- The size of what is unwrapped, with what is added to it. -/
def watchSize (checked : Bool) (span : Span) (total : Int) (size : Eval Int) : Eval Int := do
  if !checked then return total
  let total := total + (← size) + 1
  if total > (← read).limits.maxConstLen then failAt .iterableTooLong "Unwrapping generates too much" span
  return total

def unwrapStar (span : Span) (checked : Bool) (total : Int) (acc : Array Value) (c : Cursor) :
    Nat → Eval (Int × Array Value)
  | 0 => raise .outOfFuel
  | k + 1 => do
    match ← go (.next c) with
    | none => return (total, acc)
    | some (v, c) =>
      .round .unwrapping span
      let total ← watchSize checked span total (sizeOf go v)
      unwrapStar span checked total (acc.push v) c k

/-- Values one by one, and those behind a star all together. -/
def unwrapElements (checked : Bool) (total : Int) (acc : Array Value) : List Expr → Eval (Array Value)
  | [] => pure acc
  | .starred sp e _ :: rest => do
    let v ← go (.expr e)
    let (total, acc) ← onFaults [.typeError] (do unwrapStar go sp checked total acc (← go (.iter v)) runLimit)
      (do typeFault s!"Value after * must be iterable, got {← typeName v}")
    unwrapElements checked total acc rest
  | e :: rest => do
    let v ← go (.expr e)
    let total ← watchSize checked e.span total (sizeOf go v)
    unwrapElements checked total (acc.push v) rest

def unwrapEntries (span : Span) (checked : Bool) (total : Int) (acc : List (Value × Value)) :
    List Entry → Eval (Int × List (Value × Value))
  | [] => pure (total, acc)
  | e :: es => do
    .round .unwrapping span
    let total ← watchSize checked span total (sizeOfPair go e.name e.value)
    unwrapEntries span checked total ((e.name, e.value) :: acc) es

inductive KeyText where
  | written (e : Expr)
  | named (n : String)
  | unpacked

def unwrapPairs (checked : Bool) (total : Int) (acc : List (Value × Value)) :
    List (KeyText × Expr) → Eval (List (Value × Value))
  | [] => pure acc.reverse
  | (key, e) :: rest => do
    let v ← go (.expr e)
    match key with
    | .unpacked =>
      match ← entries? v with
      | none => typeFault s!"argument after ** must be a mapping, got {exprNode e}"
      | some es =>
        let (total, acc) ← unwrapEntries go e.span checked total acc es.toList
        unwrapPairs checked total acc rest
    | _ =>
      let k ← match key with
        | .written k => go (.expr k)
        | .named n => pure (.str n false)
        | .unpacked => pure .none
      let total ← watchSize checked e.span total (sizeOfPair go k v)
      unwrapPairs checked total ((k, v) :: acc) rest

/-! ## 3. Pieces of expressions -/

def evalLiteral (l : Literal) : Eval Value := do
  let limit := (← read).limits.maxConstLen
  let check (n : Nat) : Eval Unit := do
    if n > limit then failAt .iterableTooLong s!"Literal in statement is too long ({n} > {limit})" span
  match l with
  | .str s _ => check s.length
  | .bytes bs =>
    check bs.length
    failAt .featureNotAvailable "Creation of bytes literals is not allowed" span
  | _ => pure ()
  return literalValue l

def evalBoolOp (op : BoolOp) (last : Value) : List Expr → Eval Value
  | [] => pure last
  | e :: es => do
    let v ← go (.expr e)
    if (← go (.truth v)) == (op == .and) then evalBoolOp op v es else return v

/-- A chain of comparisons stops at the first that does not hold. -/
def evalCompare (left result : Value) : List (CmpOp × Expr) → Eval Value
  | [] => pure result
  | (op, e) :: rest => do
    if !(← go (.truth result)) then return result
    let right ← go (.expr e)
    let r ← compareOp go op left right
    evalCompare right r rest

def evalJoined (span : Span) (n : Int) (acc : List String) : List Expr → Eval Value
  | [] => pure (.str (String.join acc.reverse) false)
  | e :: es => do
    let v ← go (.expr e)
    let t ← go (.text v)
    let n := n + t.length
    let limit := (← read).limits.maxConstLen
    if n > limit then failAt .iterableTooLong s!"f-string in statement is too long ({n} > {limit})" span
    evalJoined span n (t :: acc) es

def checkFormat (spec : String) : Eval Unit := do
  if (fieldSize spec.toList : Int) > (← read).limits.maxConstLen then
    failWaiting .iterableTooLong "This str is too large"

def evalFormatted (value : Expr) (format : Option Expr) : Eval Value := do
  match format with
  | none => go (.expr value)
  | some f =>
    let spec ← go (.text (← go (.expr f)))
    checkFormat spec
    let v ← go (.expr value)
    return .str (← go (.format v spec)) true

def evalOptional : Option Expr → Eval Value
  | none => pure .none
  | some e => go (.expr e)

def evalAttribute (name : String) : Eval Value := do
  if (← read).limits.hides name then failAt .featureNotAvailable s!"Access to the {name} attribute is not allowed" span
  let v ← go (.expr e)
  let found ← onFaults [.attributeError, .typeError] (go (.attr v name)) (pure none)
  match found with
  | some w => return w
  | none =>
    let kind ← typeName v
    failAt .notDefined s!"'{kind}' object has no attribute {name}" span

def keywordNames (pairs : List (Value × Value)) : Eval Names := do
  let named ← pairs.mapM fun (k, v) => do
    match k with
    | .str n _ => return (n, v)
    | _ => typeFault "keywords must be strings"
  return Names.putAll [] named

structure Operands where
  function : Value
  args : List Value
  named : Names

def evalOperands : Eval Operands := do
  let f ← go (.expr func)
  let vs ← unwrapElements go false 0 #[] args
  let pairs ← unwrapPairs go false 0 [] (keywords.map fun (.mk _ name e) =>
    (match name with
      | some n => .named n
      | none => .unpacked, e))
  return ⟨f, vs.toList, ← keywordNames pairs⟩

def evalCall : Eval Value := do
  let since := (← read).heap.size
  let o ← evalOperands go func args keywords
  let r ← .wrapped (.call span) (go (.call o.function o.args o.named))
  .change (.closeLoose since r)
  return r

def evalPlainCall : Eval Value := do
  let f ← go (.expr func)
  let vs ← args.mapM fun a => go (.expr a)
  let pairs ← keywords.mapM fun (.mk _ name e) => do
    let v ← go (.expr e)
    return ((match name with
      | some n => Value.str n false
      | none => .none), v)
  let named ← keywordNames pairs
  go (.call f vs named)

def evalDict (keys : List (Option Expr)) (values : List Expr) : Eval Value := do
  let pairs ← unwrapPairs go true 0 [] ((keys.map fun k =>
    match k with
    | some e => .written e
    | none => .unpacked).zip values)
  makeDict go (← entriesOf #[] pairs)

def makeLambda (params : Params) (body : Expr) : Eval Value := do
  let w ← read
  alloc (.closure
    { name := "<lambda>", isLambda := true, params := params, body := .inr body, scope := w.scope,
      source := w.source })

/-! ## 4. Expressions -/

def evalNode : Eval Value := do
  match e with
  | .constant sp l => evalLiteral sp l
  | .name sp id _ =>
    match ← .lookup id with
    | some v => return v
    | none => failAt .notDefined s!"{id} is not defined" sp
  | .boolOp _ op values => evalBoolOp go op (.bool false) values
  | .namedExpr _ target value =>
    let v ← go (.expr value)
    assign go v target
    return v
  | .binOp _ l op r =>
    if op == .matMult then fail .keyError "<class 'ast.MatMult'>"
    let a ← go (.expr l)
    let b ← go (.expr r)
    binaryOp go op a b
  | .unaryOp _ op x => unaryOp go op (← go (.expr x))
  | .lambda _ params body => makeLambda params body
  | .ifExp _ test yes no =>
    let t ← go (.expr test)
    if ← go (.truth t) then go (.expr yes) else go (.expr no)
  | .dict _ keys values => evalDict go keys values
  | .set _ elts =>
    let vs ← unwrapElements go true 0 #[] elts
    makeSet go (← membersOf vs.toList)
  | .list _ elts _ => makeList go (← unwrapElements go true 0 #[] elts)
  | .tuple _ elts _ => return .tuple (← unwrapElements go true 0 #[] elts).toList
  | .listComp sp elt clauses => listComprehension go sp elt clauses
  | .setComp sp elt clauses => setComprehension go sp elt clauses
  | .dictComp sp key value clauses => dictComprehension go sp key value clauses
  | .generatorExp sp elt clauses => makeGenerator sp (.item elt) clauses
  | .compare _ left ops rights =>
    let l ← go (.expr left)
    evalCompare go l (.bool true) (ops.zip rights)
  | .call sp func args keywords => evalCall go sp func args keywords
  | .formattedValue _ value _ format => evalFormatted go value format
  | .joinedStr sp values => evalJoined go sp 0 [] values
  | .attribute sp value name _ => evalAttribute go sp value name
  | .subscript _ value slice _ =>
    let c ← go (.expr value)
    let k ← go (.expr slice)
    go (.item c k)
  | .slice _ lower upper step =>
    let a ← evalOptional go lower
    let b ← evalOptional go upper
    let c ← evalOptional go step
    return .slice a b c
  | .starred sp _ _ => failForm "can't use starred expression here" sp
  | .await sp _ | .yield sp _ | .yieldFrom sp _ => notAvailable (exprNode e) sp

def isPlain : Expr → Bool
  | .constant _ _ | .formattedValue _ _ _ _ | .joinedStr _ _ | .name _ _ _ | .unaryOp _ _ _
  | .binOp _ _ _ _ | .boolOp _ _ _ | .compare _ _ _ _ | .ifExp _ _ _ _ | .call _ _ _ _
  | .subscript _ _ _ _ | .slice _ _ _ _ | .attribute _ _ _ _ => true
  | _ => false

def evalPlain : Eval Value := do
  if !isPlain e then notAvailable (exprNode e) e.span
  tiedTo e.span (match e with
    | .call _ func args keywords => evalPlainCall go func args keywords
    | _ => evalNode go e)

def evalExpr : Eval Value := do
  if (← read).simple then evalPlain go e
  else
    .node e.span
    let v ← tiedTo e.span (evalNode go e)
    guardValue go v

end AliasTools.Script
