import AliasTools.Number
import AliasTools.Syntax.Tree

/-!
# Expressions written out

The text of an expression, laid out in one way: parentheses only where they are needed, single blanks
around operators.
-/

namespace AliasTools.Syntax

open Text Number

/-! ## 1. How strongly operators bind -/

abbrev Binding := Nat

namespace Binding

def named : Binding := 1
def tuple : Binding := 2
def yield : Binding := 3
def test : Binding := 4
def not : Binding := 7
def comparison : Binding := 8
def operation : Binding := 9
def factor : Binding := 15
def power : Binding := 16
def await : Binding := 17
def atom : Binding := 18

def next (b : Binding) : Binding := min (b + 1) atom

end Binding

def BinOp.binding : BinOp → Binding
  | .bitOr => 9 | .bitXor => 10 | .bitAnd => 11 | .lShift | .rShift => 12 | .add | .sub => 13
  | .mult | .matMult | .div | .mod | .floorDiv => 14 | .pow => 16

def parenthesized (own place : Binding) (s : String) : String := if place > own then s!"({s})" else s

/-! ## 2. Literals -/

def floatLiteral (x : Float) : String :=
  replaceAll (replaceAll (String.ofList (floatText x)) "inf" "1e309") "nan" "(1e309-1e309)"

def imaginaryLiteral (x : Float) : String :=
  let t := floatText x
  let t := if t.reverse.take 2 == ['0', '.'] then t.take (t.length - 2) else t
  replaceAll (replaceAll s!"{String.ofList t}j" "inf" "1e309") "nan" "(1e309-1e309)"

def bytesLiteral (data : List Nat) : String :=
  String.ofList ('b' :: quotedWhere (data.map Char.ofNat) fun c => 32 ≤ c.toNat && c.toNat < 127)

def allQuotes : List String := ["'", "\"", "\"\"\"", "'''"]

def escapedWhere (breaks : Bool) (c : Char) : List Char :=
  if !breaks && (c == '\n' || c == '\t') then [c] else quotedChar isPrintable '\\' c

def fewEscapes (s : String) (quotes : List String) (breaks : Bool) : String × List String :=
  let escaped := s.toList.flatMap (escapedWhere breaks)
  let possible := quotes.filter fun q =>
    (!escaped.contains '\n' || q.length == 3) && !containsPiece q.toList escaped
  match possible with
  | [] =>
    let whole := quoted s.toList
    let first := whole.headD '\''
    let q := (quotes.find? fun q => q.toList.contains first).getD (String.singleton first)
    (String.ofList (whole.drop 1).dropLast, [q])
  | _ =>
    match escaped.getLast? with
    | none => ("", possible)
    | some last =>
      let begins (q : String) : Bool := q.toList.head? == some last
      let sorted := possible.filter (!begins ·) ++ possible.filter begins
      let escaped := if (sorted.head?.map begins).getD false then escaped.dropLast ++ ['\\', last] else escaped
      (String.ofList escaped, sorted)

def avoidingBackslashes (s : String) : String :=
  let (t, quotes) := fewEscapes s allQuotes false
  let q := quotes.headD "'"
  q ++ t ++ q

def Literal.written (avoid : Bool) : Literal → String
  | .none => "None"
  | .ellipsis => "..."
  | .bool b => if b then "True" else "False"
  | .int n => String.ofList (intText n)
  | .float x => floatLiteral x
  | .imaginary x => imaginaryLiteral x
  | .str s marked => (if marked then "u" else "") ++ (if avoid then avoidingBackslashes s else quote s)
  | .bytes data => bytesLiteral data

def quotedPieces (parts : List (String × Bool)) : String :=
  let step (acc : Option (List String × List String)) (p : String × Bool) : Option (List String × List String) := do
    let (done, quotes) ← acc
    let (t, new) := fewEscapes p.1 quotes p.2
    if new.any quotes.contains then some (done ++ [t], new) else none
  match parts.foldl step (some ([], allQuotes)) with
  | some (done, quotes) =>
    let q := quotes.headD "'"
    q ++ String.join done ++ q
  | none =>
    let bodies := parts.map fun p => String.ofList ((quoted ('"' :: p.1.toList)).drop 2).dropLast
    s!"'''{String.join bodies}'''"

/-! ## 3. Expressions -/

def itemsText : List String → String
  | [s] => s ++ ","
  | ss => String.intercalate ", " ss

def Expr.isWholeNumber : Expr → Bool
  | .constant _ (.int _) | .constant _ (.bool _) => true
  | _ => false

def doubleBraces (s : String) : String := replaceAll (replaceAll s "\x7b" "\x7b\x7b") "\x7d" "\x7d\x7d"

def bracedValue (text : String) (conversion : Int) (spec : String) : Option String :=
  if text.toList.contains '\\' then none
  else
    let gap := if text.startsWith "\x7b" then " " else ""
    let mark := if conversion == -1 then "" else "!" ++ (Char.ofNat conversion.toNat).toString
    some ("\x7b" ++ gap ++ text ++ mark ++ spec ++ "\x7d")

def paramsText (positional : List String) (posOnly : Nat) (defaults : List String)
    (vararg : Option String) (kwOnly : List String) (kwDefaults : List (Option String))
    (kwarg : Option String) : String :=
  let missing := positional.length - defaults.length
  let ordinary := positional.zipIdx.map fun (a, i) =>
    a ++ (if i < missing then "" else "=" ++ defaults.getD (i - missing) "") ++ (if i + 1 == posOnly then ", /" else "")
  let star := match vararg with
    | some a => ["*" ++ a]
    | none => if kwOnly.isEmpty then [] else ["*"]
  let named := (kwOnly.zip kwDefaults).map fun (a, d) =>
    a ++ (match d with
      | some d => "=" ++ d
      | none => "")
  String.intercalate ", " (ordinary ++ star ++ named ++ (kwarg.map ("**" ++ ·)).toList)

mutual

/-- The text of an expression at a place that asks for a binding; `avoid` keeps backslashes out. -/
def Expr.writtenAt (avoid : Bool) (place : Binding) : Expr → Option String
  | .boolOp _ op vs => do
    let own : Binding := if op == .and then 6 else 5
    let parts ← writtenRising avoid own vs
    return parenthesized own place (String.intercalate (if op == .and then " and " else " or ") parts)
  | .namedExpr _ t v => do
    return parenthesized .named place s!"{← t.writtenAt avoid .atom} := {← v.writtenAt avoid .atom}"
  | .binOp _ l op r => do
    let own := op.binding
    let rightFirst := op == .pow
    let left ← l.writtenAt avoid (if rightFirst then own.next else own)
    let right ← r.writtenAt avoid (if rightFirst then own else own.next)
    return parenthesized own place s!"{left} {op.symbol} {right}"
  | .unaryOp _ op e => do
    match op with
    | .not => return parenthesized .not place s!"not {← e.writtenAt avoid .not}"
    | .invert | .uAdd | .uSub =>
      let sign := match op with
        | .invert => "~"
        | .uAdd => "+"
        | _ => "-"
      return parenthesized .factor place (sign ++ (← e.writtenAt avoid .factor))
  | .lambda _ ps b => do
    let params ← ps.writtenAt avoid
    return parenthesized .test place
      ("lambda" ++ (if params.isEmpty then "" else " " ++ params) ++ s!": {← b.writtenAt avoid .test}")
  | .ifExp _ t b o => do
    let body ← b.writtenAt avoid (Binding.next .test)
    let test ← t.writtenAt avoid (Binding.next .test)
    return parenthesized .test place s!"{body} if {test} else {← o.writtenAt avoid .test}"
  | .dict _ ks vs => do
    let keys ← writtenOptions avoid ks
    let parts ← writtenPairs avoid keys vs
    return "\x7b" ++ String.intercalate ", " parts ++ "\x7d"
  | .set _ es => do
    if es.isEmpty then return "\x7b*()\x7d"
    return "\x7b" ++ String.intercalate ", " (← writtenAll avoid .test es) ++ "\x7d"
  | .listComp _ e cs => do return s!"[{← e.writtenAt avoid .test}{← writtenClauses avoid cs}]"
  | .setComp _ e cs => do return "\x7b" ++ (← e.writtenAt avoid .test) ++ (← writtenClauses avoid cs) ++ "\x7d"
  | .dictComp _ k v cs => do
    return "\x7b" ++ s!"{← k.writtenAt avoid .test}: {← v.writtenAt avoid .test}" ++
      (← writtenClauses avoid cs) ++ "\x7d"
  | .generatorExp _ e cs => do return s!"({← e.writtenAt avoid .test}{← writtenClauses avoid cs})"
  | .await _ e => do return parenthesized .await place s!"await {← e.writtenAt avoid .atom}"
  | .yield _ none => return parenthesized .yield place "yield"
  | .yield _ (some e) => do return parenthesized .yield place s!"yield {← e.writtenAt avoid .atom}"
  | .yieldFrom _ e => do return parenthesized .yield place s!"yield from {← e.writtenAt avoid .atom}"
  | .compare _ l ops rs => do
    let left ← l.writtenAt avoid (Binding.next .comparison)
    let rights ← writtenAll avoid (Binding.next .comparison) rs
    return parenthesized .comparison place
      (left ++ String.join ((ops.zip rights).map fun (o, r) => s!" {o.symbol} {r}"))
  | .call _ f args ks => do
    let func ← f.writtenAt avoid .atom
    return func ++ "(" ++
      String.intercalate ", " ((← writtenAll avoid .test args) ++ (← writtenKeywords avoid ks)) ++ ")"
  | .formattedValue _ v conversion format => do
    let text ← v.writtenAt true (Binding.next .test)
    let spec ← match format with
      | some f => do pure s!":{← f.formattedInner avoid}"
      | none => pure ""
    bracedValue text conversion spec
  | .joinedStr _ vs => do
    let parts ← writtenPieces avoid vs
    if avoid then return "f" ++ avoidingBackslashes (String.join (parts.map (·.1)))
    return "f" ++ quotedPieces parts
  | .constant _ v => some (v.written avoid)
  | .attribute _ v attr _ => do return (← v.writtenAt avoid .atom) ++ (if v.isWholeNumber then " ." else ".") ++ attr
  | .subscript _ v (.tuple _ (e :: es) _) _ => do
    let value ← v.writtenAt avoid .atom
    let first ← e.writtenAt avoid .test
    return s!"{value}[{itemsText (first :: (← writtenAll avoid .test es))}]"
  | .subscript _ v s _ => do return s!"{← v.writtenAt avoid .atom}[{← s.writtenAt avoid .test}]"
  | .starred _ v _ => do return s!"*{← v.writtenAt avoid .operation}"
  | .name _ id _ => some id
  | .list _ es _ => do return "[" ++ String.intercalate ", " (← writtenAll avoid .test es) ++ "]"
  | .tuple _ es _ => do
    let text := itemsText (← writtenAll avoid .test es)
    return if es.isEmpty || place > .tuple then s!"({text})" else text
  | .slice _ l u s => do
    let lower ← writtenOption avoid l
    let upper ← writtenOption avoid u
    let step ← writtenOption avoid s
    return lower.getD "" ++ ":" ++ upper.getD "" ++ (match step with
      | some s => ":" ++ s
      | none => "")

def writtenOption (avoid : Bool) : Option Expr → Option (Option String)
  | none => some none
  | some e => (e.writtenAt avoid .test).map some

def writtenOptions (avoid : Bool) : List (Option Expr) → Option (List (Option String))
  | [] => some []
  | e :: es => do return (← writtenOption avoid e) :: (← writtenOptions avoid es)

def writtenAll (avoid : Bool) (place : Binding) : List Expr → Option (List String)
  | [] => some []
  | e :: es => do return (← e.writtenAt avoid place) :: (← writtenAll avoid place es)

def writtenRising (avoid : Bool) (before : Binding) : List Expr → Option (List String)
  | [] => some []
  | e :: es => do return (← e.writtenAt avoid before.next) :: (← writtenRising avoid before.next es)

def writtenPairs (avoid : Bool) : List (Option String) → List Expr → Option (List String)
  | some k :: ks, v :: vs => do return s!"{k}: {← v.writtenAt avoid .test}" :: (← writtenPairs avoid ks vs)
  | none :: ks, v :: vs => do return s!"**{← v.writtenAt avoid .operation}" :: (← writtenPairs avoid ks vs)
  | _, _ => some []

def writtenClauses (avoid : Bool) : List Clause → Option String
  | [] => some ""
  | .mk t i conds isAsync :: cs => do
    let target ← t.writtenAt avoid .tuple
    let iter ← i.writtenAt avoid (Binding.next .test)
    let conditions ← writtenAll avoid (Binding.next .test) conds
    return (if isAsync then " async for " else " for ") ++ s!"{target} in {iter}" ++
      String.join (conditions.map (" if " ++ ·)) ++ (← writtenClauses avoid cs)

def writtenKeywords (avoid : Bool) : List Keyword → Option (List String)
  | [] => some []
  | .mk _ name v :: ks => do
    let value ← v.writtenAt avoid .test
    let text := match name with
      | some n => s!"{n}={value}"
      | none => "**" ++ value
    return text :: (← writtenKeywords avoid ks)

def Param.writtenAt (avoid : Bool) : Param → Option String
  | .mk _ name none _ => some name
  | .mk _ name (some h) _ => do return s!"{name}: {← h.writtenAt avoid .test}"

def writtenParams (avoid : Bool) : List Param → Option (List String)
  | [] => some []
  | p :: ps => do return (← p.writtenAt avoid) :: (← writtenParams avoid ps)

def writtenParam (avoid : Bool) : Option Param → Option (Option String)
  | none => some none
  | some p => (p.writtenAt avoid).map some

def Params.writtenAt (avoid : Bool) : Params → Option String
  | .mk po as va ko kd kw ds => do
    let posOnly ← writtenParams avoid po
    let args ← writtenParams avoid as
    return paramsText (posOnly ++ args) posOnly.length (← writtenAll avoid .test ds)
      (← writtenParam avoid va) (← writtenParams avoid ko) (← writtenOptions avoid kd)
      (← writtenParam avoid kw)

def Expr.formattedInner (avoid : Bool) : Expr → Option String
  | .joinedStr _ vs => do return String.join ((← writtenPieces avoid vs).map (·.1))
  | .constant _ (.str s _) => some (doubleBraces s)
  | .formattedValue _ v conversion format => do
    let text ← v.writtenAt true (Binding.next .test)
    let spec ← match format with
      | some f => do pure s!":{← f.formattedInner avoid}"
      | none => pure ""
    bracedValue text conversion spec
  | _ => none

def writtenPieces (avoid : Bool) : List Expr → Option (List (String × Bool))
  | [] => some []
  | e :: es => do
    let isText := match e with
      | .constant _ _ => true
      | _ => false
    return ((← e.formattedInner avoid), isText) :: (← writtenPieces avoid es)

end

def Expr.written? (e : Expr) : Option String := e.writtenAt false .test

end AliasTools.Syntax
