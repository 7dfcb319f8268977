import AliasTools.Syntax.Literal
import AliasTools.Syntax.Parse

/-!
# Atoms, calls and operators

The grammar is recursive: an expression may hold a list of expressions, a statement a block of
statements.  `Rule` names the rules at which the grammar comes back to itself.  Every other
part of the grammar is a plain definition over a function `go` that answers these names, so that
each part can be read on its own; `Grammar.run` ties the knot.

Here is the part from single words up to comparisons: names and literals, brackets of all kinds,
attribute access, calls, subscripts and the operators by how tightly they bind.
-/

namespace AliasTools.Syntax

/-! ## 1. The rules that call each other -/

structure Arguments where
  positional : List Expr
  keywords : List Keyword
  sp : Span

inductive Rule : Type → Type 1 where
  | expression : Rule Expr
  | expressionOnly : Rule Expr
  | disjunction : Rule Expr
  | inversion : Rule Expr
  | bitwiseOr : Rule Expr
  | factor : Rule Expr
  | namedExpression : Rule Expr
  | starExpression : Rule Expr
  | starExpressions : Rule Expr
  | starNamedExpressions : Rule (List Expr)
  | yieldExpr : Rule Expr
  | slices : Rule Expr
  | arguments : Rule Arguments
  | clauses : Rule (List Clause)
  | starTarget : Rule Expr
  | starTargets : Rule Expr
  | targetAtom : Rule Expr
  | singleTarget : Rule Expr
  | delTarget : Rule Expr
  | annTarget : Rule Expr
  | pattern : Rule Pattern
  | starPattern : Rule Pattern
  | openSequence : Rule (List Pattern)
  | statements : Rule (List Stmt)
  | block : Rule (List Stmt)
  | elifBranch : Rule (List Stmt)
  | formatted (text : List Char) (line col : Nat) : Rule Expr

abbrev Go := {α : Type} → Rule α → Parse α

/-! ## 2. How faults speak of expressions -/

def Expr.describe : Expr → String
  | .attribute .. => "attribute"
  | .subscript .. => "subscript"
  | .starred .. => "starred"
  | .name .. => "name"
  | .list .. => "list"
  | .tuple .. => "tuple"
  | .lambda .. => "lambda"
  | .call .. => "function call"
  | .boolOp .. | .binOp .. | .unaryOp .. => "expression"
  | .generatorExp .. => "generator expression"
  | .yield .. | .yieldFrom .. => "yield expression"
  | .await .. => "await expression"
  | .listComp .. => "list comprehension"
  | .setComp .. => "set comprehension"
  | .dictComp .. => "dict comprehension"
  | .dict .. => "dict literal"
  | .set .. => "set display"
  | .joinedStr .. | .formattedValue .. => "f-string expression"
  | .constant _ v =>
    match v with
    | .none => "None"
    | .bool true => "True"
    | .bool false => "False"
    | .ellipsis => "ellipsis"
    | _ => "literal"
  | .compare .. => "comparison"
  | .ifExp .. => "conditional expression"
  | .namedExpr .. => "named expression"
  | .slice .. => "slice"

inductive TargetKind where
  | star | forLoop | del
deriving DecidableEq

mutual

def Expr.invalidTarget? (kind : TargetKind) : Expr → Option Expr
  | .list _ elts _ => invalidTargets? kind elts
  | .tuple _ elts _ => invalidTargets? kind elts
  | .starred sp v u => if kind == .del then some (.starred sp v u) else v.invalidTarget? kind
  | .compare sp left ops rights =>
    if kind == .forLoop then
      match ops with
      | .isIn :: _ => left.invalidTarget? kind
      | _ => none
    else some (.compare sp left ops rights)
  | .name .. | .subscript .. | .attribute .. => none
  | e => some e

def invalidTargets? (kind : TargetKind) : List Expr → Option Expr
  | [] => none
  | e :: rest => (e.invalidTarget? kind).orElse fun _ => invalidTargets? kind rest

end

mutual

def Expr.withUse (use : NameUse) : Expr → Expr
  | .name sp id _ => .name sp id use
  | .attribute sp v a _ => .attribute sp v a use
  | .subscript sp v s _ => .subscript sp v s use
  | .starred sp v _ => .starred sp (v.withUse use) use
  | .list sp elts _ => .list sp (withUses use elts) use
  | .tuple sp elts _ => .tuple sp (withUses use elts) use
  | e => e

def withUses (use : NameUse) : List Expr → List Expr
  | [] => []
  | e :: rest => e.withUse use :: withUses use rest

end

/-! ## 3. Pieces shared by many rules -/

def nameTarget (use : NameUse) : Parse Expr := do
  let (id, sp) ← nameToken
  pure (.name sp id use)

def nameExpr : Parse Expr := nameTarget .load

variable (go : Go) (strings : Parse Expr) (operand : Parse Expr)

def assignmentExpr : Parse Expr := spanned do
  let target ← nameTarget .store
  let value ← word ":=" *> go .expression
  pure (.namedExpr · target value)

def seesAssignment : Parse Bool := isAhead (nameToken *> word ":=")

def unassignedExpr : Parse Expr := go .expression <* notAhead (word ":=")

def assignmentOrExpr : Parse Expr := do if ← seesAssignment then assignmentExpr go else unassignedExpr go

def starredOf : Parse Expr := spanned do
  let value ← word "*" *> operand
  pure (.starred · value .load)

def starredExpr : Parse Expr := starredOf (go .expression <|> raiseHere "Invalid star expression")

def starNamedExpr : Parse Expr := starredOf (go .bitwiseOr) <|> go .namedExpression

def openTuple : Parse (List Expr) := List.cons <$> (starNamedExpr go <* word ",") <*> orEmpty (go .starNamedExpressions)

def required (text : String) : Parse Token := do
  let t ← peekToken
  if t.isText text then
    advance
    pure t
  else raiseAt (tokenSpan (← Parse.env) t) s!"expected '{text}'"

/-! ## 4. Comprehensions -/

def comprehensionMistake : Parse Unit :=
  let unclear := "did you forget parentheses around the comprehension target?"
  (do
    let a ← oneOf ["[", "(", "\x7b"] *> starredExpr go <* go .clauses
    raiseAt a.span "iterable unpacking cannot be used in comprehension") <|>
  (do
    let a ← oneOf ["[", "\x7b"] *> starNamedExpr go <* word ","
    let b ← go .starNamedExpressions <* go .clauses
    raiseRange a.span ((b.getLast?.map Expr.span).getD a.span) unclear) <|>
  (do
    let a ← oneOf ["[", "\x7b"] *> starNamedExpr go
    let b ← wordSpan "," <* go .clauses
    raiseRange a.span b unclear)

def comprehension (left right : String) (element : Parse Expr) (node : Span → Expr → List Clause → Expr) : Parse Expr :=
  (spanned do
    let elt ← word left *> element
    let cs ← go .clauses <* word right
    pure (node · elt cs)) <|> mistake (comprehensionMistake go)

def generatorExpr : Parse Expr := comprehension go "(" ")" (assignmentOrExpr go) .generatorExp

/-! ## 5. Brackets -/

def tupleExpr : Parse Expr := spanned do
  let elts ← between "(" (orEmpty (openTuple go)) ")"
  pure (.tuple · elts .load)

def groupExpr : Parse Expr :=
  between "(" (go .yieldExpr <|> go .namedExpression) ")" <|>
  mistake (refuse (between "(" (Expr.span <$> starredExpr go) ")") "cannot use starred expression here" <|>
    refuse (between "(" (wordSpan "**" <* go .expression) ")") "cannot use double starred expression here")

def listExpr : Parse Expr := spanned do
  let elts ← between "[" (orEmpty (go .starNamedExpressions)) "]"
  pure (.list · elts .load)

def keyValue : Parse (Option Expr × Expr) := Prod.mk <$> (some <$> go .expression) <*> (word ":" *> go .expression)

def dictItem : Parse (Option Expr × Expr) := word "**" *> ((none, ·) <$> go .bitwiseOr) <|> keyValue go

def entryValueMistake : Parse Unit :=
  (do
    let a ← go .expression *> word ":" *> wordSpan "*" <* go .bitwiseOr
    raiseFrom a "cannot use a starred expression in a dictionary value") <|>
  refuse (go .expression *> wordSpan ":" <* ahead (oneOf ["\x7d", ","]))
    "expression expected after dictionary key and ':'"

def entriesMistake : Parse Unit :=
  sepBy1 (dictItem go) "," *> word "," *> ((do
    let sp := (← go .expression <* notAhead (word ":")).span
    fun e s => .fault (faultAtPlace e s .form "':' expected after dictionary key" sp.line
      sp.endCol sp.endLine none 0) s) <|> entryValueMistake go) <|>
  entryValueMistake go

def dictExpr : Parse Expr :=
  (spanned do
    let items ← between "\x7b" (orEmpty (commaList (dictItem go))) "\x7d"
    pure (.dict · (items.map (·.1)) (items.map (·.2)))) <|>
  word "\x7b" *> entriesMistake go *> failure

def setExpr : Parse Expr := spanned do
  let elts ← between "\x7b" (go .starNamedExpressions) "\x7d"
  pure (.set · elts)

def dictCompExpr : Parse Expr :=
  (spanned do
    let (k, v) ← word "\x7b" *> keyValue go
    let cs ← go .clauses <* word "\x7d"
    pure (.dictComp · (k.getD v) v cs)) <|>
  mistake (refuse (between "\x7b" (wordSpan "**" <* go .bitwiseOr <* go .clauses) "\x7d")
    "dict unpacking cannot be used in dict comprehension")

/-! ## 6. Quoted texts -/

inductive TextPart where
  | text (s : List Char)
  | value (e : Expr)

def joinParts : List TextPart → List TextPart
  | [] => []
  | .text a :: rest =>
    match joinParts rest with
    | .text b :: more => .text (a ++ b) :: more
    | more => if a.isEmpty then more else .text a :: more
  | .value e :: rest => .value e :: joinParts rest

def charsOfWord (q : Quoted) : Parse (List Char) := do
  match charsOfBody q.raw q.bytes q.body with
  | .ok cs => pure cs
  | .error m => raiseHere m

def bytesOfWord (q : Quoted) (t : Token) : Parse (List Nat) := do
  if q.body.any (!AliasTools.Text.isAscii ·) then
    raiseAt (tokenSpan (← Parse.env) t) "bytes can only contain ASCII literal characters"
  return (← charsOfWord q).map Char.toNat

def stringsExpr (pieces : Quoted → Token → Parse (List TextPart)) : Parse Expr := do
  let start ← startSpan
  let tokens ← many1 (wordOf .string)
  let quoted := tokens.map fun t => (Quoted.ofWord t.text.toList, t)
  let sp ← spanFrom start
  let bytes := quoted.head?.any (·.1.bytes)
  let marked := quoted.head?.any (·.1.marked)
  let mut all : List Nat := []
  let mut parts : List TextPart := []
  for (q, t) in quoted do
    if q.bytes then all := all ++ (← bytesOfWord q t)
    else if !q.formatted then parts := parts ++ [.text (← charsOfWord q)]
    if q.bytes != bytes then raiseHere "cannot mix bytes and nonbytes literals"
    if q.formatted then parts := parts ++ (← pieces q t)
  if bytes then pure (.constant sp (.bytes all))
  else if quoted.any (·.1.formatted) then
    pure (.joinedStr sp ((joinParts parts).filterMap fun p =>
      match p with
      | .text [] => none
      | .text cs => some (.constant sp (.str (String.ofList cs) marked))
      | .value (.formattedValue _ v c f) => some (.formattedValue sp v c f)
      | .value e => some e))
  else
    let cs := (parts.map fun
      | .text cs => cs
      | .value _ => []).flatten
    pure (.constant sp (.str (String.ofList cs) marked))

/-! ## 7. Atoms -/

def numberExpr : Parse Expr := do
  let t ← wordOf .number
  let e ← Parse.env
  match numberLiteral t.text.toList with
  | .int n =>
    let digits := (t.text.toList.filter (· ≠ '_')).length
    if digits > 4300 && !t.text.startsWith "0" then
      let sp := tokenSpan e t
      let message := s!"Exceeds the limit (4300 digits) for integer string conversion: value has " ++
        s!"{digits} digits; use sys.set_int_max_str_digits() to increase the limit - " ++
        "Consider hexadecimal for huge integer literals to avoid decimal conversion limits."
      fun e s => .fault (faultAtPlace e s .form message sp.line 0 sp.endLine none 0) s
    else pure (.constant (tokenSpan e t) (.int n))
  | v => pure (.constant (tokenSpan e t) v)

def atomExpr : Parse Expr := do
  let t ← peekToken
  let e ← Parse.env
  let sp := tokenSpan e t
  match t.kind with
  | .name =>
    match t.text with
    | "True" => advance; pure (.constant sp (.bool true))
    | "False" => advance; pure (.constant sp (.bool false))
    | "None" => advance; pure (.constant sp .none)
    | _ => nameExpr
  | .string => remembered 1 strings
  | .number => numberExpr
  | .op =>
    match t.text with
    | "(" => tupleExpr go <|> groupExpr go <|> generatorExpr go
    | "[" => listExpr go <|> comprehension go "[" "]" (go .namedExpression) .listComp
    | "\x7b" => dictExpr go <|> setExpr go <|> dictCompExpr go <|>
      comprehension go "\x7b" "\x7d" (go .namedExpression) .setComp
    | "..." => advance; pure (.constant sp .ellipsis)
    | _ => failure
  | _ => failure

/-! ## 8. Access and calls -/

def trailer (start : Span) (value : Expr) : Parse Expr :=
  (do
    let attr ← word "." *> nameWord
    pure (.attribute (← spanFrom start) value attr .load)) <|>
  (do
    let g ← generatorExpr go
    pure (.call (← spanFrom start) value [g] [])) <|>
  (do
    let args ← between "(" (opt (go .arguments)) ")"
    let sp ← spanFrom start
    let args := args.getD ⟨[], [], sp⟩
    pure (.call sp value args.positional args.keywords)) <|>
  (do
    let i ← between "[" (go .slices) "]"
    pure (.subscript (← spanFrom start) value i .load))

def iterated {α : Type} (step : α → Parse α) (a : α) : Nat → Parse α
  | 0 => pure a
  | k + 1 => do
    match ← opt (step a) with
    | none => pure a
    | some b => iterated step b k

def iterate {α : Type} (step : α → Parse α) (a : α) : Parse α := fun e s =>
  iterated step a (e.tokens.size - s.pos + 1) e s

def primaryExpr : Parse Expr :=
  remembered 2 (do
    let start ← startSpan
    iterate (trailer go start) (← atomExpr go strings))

def seesTrailer : Parse Unit := ahead (oneOf ["(", "[", "."])

def targetPrimary : Parse Expr :=
  remembered 3 (do
    let start ← startSpan
    iterate (trailer go start · <* seesTrailer) (← atomExpr go strings <* seesTrailer))

/-! ## 9. Operators -/

def powerExpr : Parse Expr := do
  let start ← startSpan
  let base ← if ← sees "await" then (do
      let v ← advance *> primaryExpr go strings
      pure (.await (← spanFrom start) v))
    else primaryExpr go strings
  if ← sees "**" then
    (do
      let e ← advance *> go .factor
      pure (.binOp (← spanFrom start) base .pow e)) <|> pure base
  else pure base

def factorExpr : Parse Expr :=
  let sign (op : UnaryOp) : Parse Expr := spanned do
    let v ← advance *> go .factor
    pure (.unaryOp · op v)
  remembered 4 (do
    let t ← peekToken
    if t.isText "+" then sign .uAdd
    else if t.isText "-" then sign .uSub
    else if t.isText "~" then sign .invert
    else powerExpr go strings)

def leftLevel (ops : List (String × BinOp)) : Parse Expr := do
  let start ← startSpan
  let step (left : Expr) : Parse Expr := do
    let t ← peekToken
    match ops.find? fun (s, _) => t.isText s with
    | none => failure
    | some (_, op) =>
      let r ← advance *> operand
      pure (.binOp (← spanFrom start) left op r)
  iterate step (← operand)

def bitwiseOrExpr : Parse Expr :=
  remembered 5 ( leftLevel (leftLevel (leftLevel (leftLevel (leftLevel (leftLevel (factorExpr go strings)
      [("*", .mult), ("/", .div), ("//", .floorDiv), ("%", .mod), ("@", .matMult)])
      [("+", .add), ("-", .sub)])
      [("<<", .lShift), (">>", .rShift)])
      [("&", .bitAnd)])
      [("^", .bitXor)])
      [("|", .bitOr)])

def compareSigns : List (String × CmpOp) :=
  [("==", .eq), ("!=", .notEq), ("<=", .ltE), ("<", .lt), (">=", .gtE), (">", .gt), ("in", .isIn)]

def compareSign : Parse CmpOp := do
  let t ← peekToken
  match compareSigns.find? fun (s, _) => t.isText s with
  | some (_, op) => advance; pure op
  | none =>
    word "not" *> word "in" *> pure .notIn <|>
    word "is" *> (word "not" *> pure .isNot <|> pure .is)

/-- A sign and the operand after it; `is` may take `not` as part of its operand instead. -/
def comparePair : Parse (CmpOp × Expr) :=
  Prod.mk <$> compareSign <*> go .bitwiseOr <|> word "is" *> ((.is, ·) <$> go .bitwiseOr)

def comparisonExpr : Parse Expr := do
  let start ← startSpan
  let left ← go .bitwiseOr
  match ← many (comparePair go) with
  | [] => pure left
  | pairs => pure (.compare (← spanFrom start) left (pairs.map (·.1)) (pairs.map (·.2)))

def inversionExpr : Parse Expr :=
  remembered 6 ( (spanned do
      let e ← word "not" *> go .inversion
      pure (.unaryOp · .not e)) <|> comparisonExpr go)

def connective (text : String) (op : BoolOp) : Parse Expr := do
  let start ← startSpan
  match ← sepBy1 operand text with
  | [e] => pure e
  | es => pure (.boolOp (← spanFrom start) op es)

def disjunctionExpr : Parse Expr :=
  remembered 7 (connective (remembered 8 (connective (inversionExpr go) "and" .and)) "or" .or)

end AliasTools.Syntax
