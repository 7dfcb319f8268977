import AliasTools.Syntax.Grammar.Formatted

/-!
# Expressions, arguments and targets

The looser part of the grammar of expressions: parameters, conditionals and lambda expressions, lists of
expressions, arguments of calls, clauses of comprehensions, and what may stand on the left of an
assignment.
-/

namespace AliasTools.Syntax

/-! ## 1. Parameter lists -/

structure ParamStyle where
  closer : String
  annotated : Bool
  parenthesized : String

def ParamStyle.function : ParamStyle := ⟨")", true, "Function parameters cannot be parenthesized"⟩

def ParamStyle.lambda : ParamStyle := ⟨":", false, "Lambda expression parameters cannot be parenthesized"⟩

def Param.withComment : Param → Option String → Param
  | .mk sp n a none, c => .mk sp n a c
  | p, _ => p

def Param.span : Param → Span
  | .mk sp _ _ _ => sp

def typeComment : Parse (Option String) := do pure ((← opt (wordOf .typeComment)).map (·.text))

variable (go : Go) (style : ParamStyle)

def plainParam : Parse Param := spanned do
  let n ← nameWord
  let a ← if style.annotated then opt (word ":" *> go .expression) else pure none
  pure (.mk · n a none)

def starAnnotatedParam : Parse Param := spanned do
  let n ← nameWord
  let a ← word ":" *> go .starExpression
  pure (.mk · n (some a) none)

def paramEnd : Parse (Option String) :=
  let comment := if style.annotated then typeComment else pure none
  word "," *> comment <|> comment <* ahead (word style.closer)

def defaultValue : Parse Expr :=
  word "=" *> go .expression <|>
  mistake (refuse (wordSpan "=" <* ahead (oneOf [")", ","])) "expected default value expression")

def paramWith {α : Type} (go : Go) (style : ParamStyle) (after : Parse α) : Parse (Param × α) := do
  let p ← plainParam go style
  let a ← after
  pure (p.withComment (← paramEnd style), a)

def paramNoDefault : Parse Param := Prod.fst <$> paramWith go style (pure ())

def paramWithDefault : Parse (Param × Expr) := paramWith go style (defaultValue go)

def paramMaybeDefault : Parse (Param × Option Expr) := paramWith go style (opt (defaultValue go))

def slashEnd : Parse Unit := word "/" *> (word "," <|> ahead (word style.closer))

def slashNoDefault : Parse (List Param) := many1 (paramNoDefault go style) <* slashEnd style

def slashWithDefault : Parse (List Param × List (Param × Expr)) :=
  Prod.mk <$> many (paramNoDefault go style) <*> many1 (paramWithDefault go style) <* slashEnd style

structure StarPart where
  vararg : Option Param
  kwOnly : List (Param × Option Expr)
  kwarg : Option Param

def kwargMistake : Parse Unit :=
  let kwarg := word "**" *> plainParam go style
  refuse (kwarg *> wordSpan "=") "var-keyword argument cannot have default value" <|>
  refuse (kwarg *> word "," *> (Param.span <$> plainParam go style <|>
    placeOf (oneOf ["*", "**", "/"]))) "arguments cannot follow var-keyword argument"

def kwargParam : Parse Param := mistake (kwargMistake go style) <|> word "**" *> paramNoDefault go style

def starItem : Parse Unit := discard (paramNoDefault go style) <|> word ","

def starMistake : Parse Unit :=
  (do
    let a ← wordSpan "*" <* (word style.closer <|> word "," *> discard (oneOf [style.closer, "**"]))
    if style.annotated then raiseAt a "named arguments must follow bare *"
    else raiseHere "named arguments must follow bare *") <|>
  Parse.guard style.annotated *> word "*" *> word "," *> wordOf .typeComment *>
    raiseHere "bare * has associated type comment" <|>
  refuse (word "*" *> plainParam go style *> wordSpan "=") "var-positional argument cannot have default value" <|>
  refuse (word "*" *> starItem go style *> many (paramMaybeDefault go style) *> wordSpan "*" <*
    starItem go style) "* argument may appear only once"

def starPart : Parse StarPart :=
  let others := many (paramMaybeDefault go style)
  let node (v : Option Param) (ks : Parse (List (Param × Option Expr))) : Parse StarPart := do
    pure ⟨v, ← ks, ← opt (kwargParam go style)⟩
  mistake (starMistake go style) <|>
  (do node (some (← word "*" *> paramNoDefault go style)) others) <|>
  (do
    Parse.guard style.annotated
    let v ← word "*" *> starAnnotatedParam go
    node (some (v.withComment (← paramEnd style))) others) <|>
  word "*" *> word "," *> node none (many1 (paramMaybeDefault go style)) <|>
  (do pure ⟨none, [], some (← kwargParam go style)⟩)

def makeParams (posOnly : List Param) (plain : List Param) (posDefaults : List (Param × Expr))
    (defaulted : List (Param × Expr)) (star : Option StarPart) : Params :=
  let star := star.getD ⟨none, [], none⟩
  .mk (posOnly ++ posDefaults.map (·.1)) (plain ++ defaulted.map (·.1)) star.vararg
    (star.kwOnly.map (·.1)) (star.kwOnly.map (·.2)) star.kwarg
    (posDefaults.map (·.2) ++ defaulted.map (·.2))

def paramsMistake : Parse Unit :=
  let plains := many (paramNoDefault go style)
  let others := many (paramMaybeDefault go style)
  let slash := discard (slashNoDefault go style) <|> discard (slashWithDefault go style)
  refuse (plains *> (discard (slashWithDefault go style) <|>
    discard (many1 (paramWithDefault go style))) *> (Param.span <$> paramNoDefault go style))
    "non-default argument follows default argument" <|>
  (do
    let a ← plains *> wordSpan "("
    let _ ← if style.annotated then many1 (paramNoDefault go style) else sepBy1 (plainParam go style) ","
    let b ← opt (word ",") *> wordSpan ")"
    raiseRange a b style.parenthesized) <|>
  refuse (wordSpan "/" <* word ",") "at least one argument must precede /" <|>
  refuse (slash *> others *> wordSpan "/") "/ may appear only once" <|>
  refuse (opt slash *> others *> word "*" *> starItem go style *> others *> wordSpan "/") "/ must be ahead of *" <|>
  refuse (many1 (paramMaybeDefault go style) *> word "/" *> wordSpan "*") "expected comma between / and *"

def paramList : Parse Params :=
  let defaults := many (paramWithDefault go style)
  let node (posOnly plain : List Param) (posDefaults : List (Param × Expr))
      (defaulted : Parse (List (Param × Expr))) : Parse Params := do
    pure (makeParams posOnly plain posDefaults (← defaulted) (← opt (starPart go style)))
  mistake (paramsMistake go style) <|>
  (do node (← slashNoDefault go style) (← many (paramNoDefault go style)) [] defaults) <|>
  (do
    let (ps, pd) ← slashWithDefault go style
    node ps [] pd defaults) <|>
  (do node [] (← many1 (paramNoDefault go style)) [] defaults) <|>
  node [] [] [] (many1 (paramWithDefault go style)) <|>
  (do pure (makeParams [] [] [] [] (some (← starPart go style))))

/-! ## 2. Expressions -/

def isOldStatement : Expr → Bool
  | .name _ id _ => id == "print" || id == "exec"
  | _ => false

def depthHere : Parse Nat := fun e s =>
  .ok (((e.tokens[s.pos - 1]?).map (·.depth)).getD 0) s

variable (go : Go)

def lambdaExpr : Parse Expr := spanned do
  let ps ← word "lambda" *> opt (paramList go .lambda)
  let body ← word ":" *> go .expression
  pure (.lambda · (ps.getD default) body)

def plainExpr : Parse Expr :=
  (do
    let start ← startSpan
    let body ← go .disjunction
    (do
      let test ← word "if" *> go .disjunction
      let orelse ← word "else" *> go .expression
      pure (.ifExp (← spanFrom start) test body orelse)) <|> pure body) <|> lambdaExpr go

def softWords : List String := ["_", "case", "match"]

def expressionMistake : Parse Unit :=
  (do
    notAhead (nameToken *> wordOf .string <|> wordWhere fun t => t.isName && softWords.any (·.startsWith t.text))
    let a ← go .disjunction
    let b ← go .expressionOnly
    let depth ← depthHere
    if isOldStatement a || depth == 0 then pure ()
    else raiseRange a.span b.span "invalid syntax. Perhaps you forgot a comma?") <|>
  (do
    let a ← go .disjunction
    let b ← word "if" *> go .disjunction <* notAhead (oneOf ["else", ":"])
    raiseRange a.span b.span "expected 'else' after 'if' expression")

def oldStatementMistake : Parse Unit := do
  let (id, sp) ← nameToken <* notAhead (word "(")
  let b ← go .starExpressions
  if id == "print" || id == "exec" then
    raiseRange sp b.span s!"Missing parentheses in call to '{id}'. Did you mean {id}(...)?"
  else pure ()

def expressionRule : Parse Expr :=
  remembered 9 (mistake (expressionMistake go) <|> mistake (oldStatementMistake go) <|> plainExpr go)

def namedMistake : Parse Unit :=
  let operand := word "=" *> go .bitwiseOr <* notAhead (oneOf ["=", ":="])
  (do
    let a ← go .expression <* word ":=" <* go .expression
    raiseAt a.span s!"cannot use assignment expressions with {a.describe}") <|>
  (do
    let (_, a) ← nameToken
    let b ← operand
    raiseRange a b.span "invalid syntax. Maybe you meant '==' or ':=' instead of '='?") <|>
  (do
    notAhead (listExpr go <|> tupleExpr go <|> generatorExpr go <|> oneOf ["True", "None", "False"] *> pure default)
    let a ← go .bitwiseOr <* operand
    raiseAt a.span s!"cannot assign to {a.describe} here. Maybe you meant '==' instead of '='?")

def namedExpressionRule : Parse Expr := do
  if ← seesAssignment then assignmentExpr go
  else remembered 14 (mistake (namedMistake go)) <|> unassignedExpr go

def starExpressionRule : Parse Expr := remembered 10 (starredOf (go .bitwiseOr) <|> go .expression)

def commaTuple (item : Parse Expr) (use : NameUse) : Parse Expr := do
  let start ← startSpan
  let items ← sepBy1 item ","
  match items, ← opt (word ",") with
  | [e], none => pure e
  | es, _ => pure (.tuple (← spanFrom start) es use)

def expressionsRule : Parse Expr := commaTuple (go .expression) .load

def yieldRule : Parse Expr := spanned (word "yield" *> ((do
    let e ← word "from" *> go .expression
    pure (.yieldFrom · e)) <|>
  (do
    let e ← opt (go .starExpressions)
    pure (.yield · e))))

/-! ## 3. Subscripts -/

def sliceRule : Parse Expr :=
  (spanned do
    let lower ← opt (go .expression)
    let upper ← word ":" *> opt (go .expression)
    let step ← opt (word ":" *> opt (go .expression))
    pure (.slice · lower upper (step.getD none))) <|> go .namedExpression

def slicesRule : Parse Expr :=
  sliceRule go <* notAhead (word ",") <|>
  spanned do
    let es ← commaList (sliceRule go <|> starredExpr go)
    pure (.tuple · es .load)

/-! ## 4. Comprehension clauses -/

def raiseTarget (kind : TargetKind) (e : Expr) : Parse Unit :=
  match e.invalidTarget? kind with
  | none => pure ()
  | some bad =>
    let verb := if kind == .del then "delete" else "assign to"
    raiseAt bad.span s!"cannot {verb} {bad.describe}"

def forTargetMistake : Parse Unit := do raiseTarget .forLoop (← opt (word "async") *> word "for" *> go .starExpressions)

def forHead (isAsync : Bool) : Parse Expr := do
  if isAsync then word "async"
  word "for" *> go .starTargets <* word "in"

def clauseRule : Parse Clause :=
  let tail (isAsync : Bool) (t : Expr) : Parse Clause := do
    let iter ← go .disjunction
    let conds ← many (word "if" *> go .disjunction)
    pure (.mk t iter conds isAsync)
  committed (forHead go true) (tail true) (committed (forHead go false) (tail false) (mistake (forTargetMistake go)))

def lastClausePart (cs : List Clause) : Option Expr :=
  cs.getLast?.map fun (.mk _ iter conds _) => conds.getLast?.getD iter

/-! ## 5. Arguments -/

inductive ArgItem where
  | keyword (k : Keyword)
  | starred (e : Expr)

def keywordClauseMistake : Parse Unit := do
  let (_, a) ← nameToken
  let b ← wordSpan "=" <* go .expression <* go .clauses
  raiseRange a b "invalid syntax. Maybe you meant '==' or ':=' instead of '='?"

def keywordMistake : Parse Unit :=
  (do
    let a ← oneOf ["True", "False", "None"]
    let b ← wordSpan "="
    raiseRange (tokenSpan (← Parse.env) a) b s!"cannot assign to {a.text}") <|>
  keywordClauseMistake go <|>
  (do
    notAhead (nameToken *> word "=")
    let a ← go .expression
    let b ← wordSpan "="
    raiseRange a.span b "expression cannot contain assignment, perhaps you meant \"==\"?")

def keywordOr (other : Parse ArgItem) : Parse ArgItem :=
  mistake (keywordMistake go) <|>
  (spanned do
    let n ← nameWord
    let v ← word "=" *> go .expression
    pure fun sp => .keyword (.mk sp (some n) v)) <|> other

def keywordArgs : Parse (List ArgItem) :=
  let stars := sepBy1 (keywordOr go (.starred <$> starredExpr go)) ","
  let doubles := sepBy1 (keywordOr go (spanned do
    let v ← word "**" *> go .expression
    pure fun sp => .keyword (.mk sp none v))) ","
  (do pure ((← stars <* word ",") ++ (← doubles))) <|> stars <|> doubles

def positionalArg : Parse Expr := starredExpr go <|> assignmentOrExpr go <* notAhead (word "=")

def gatherArgs (positional : List Expr) (items : List ArgItem) (sp : Span) : Arguments :=
  { positional := positional ++ items.filterMap fun i =>
      match i with
      | .starred e => some e
      | .keyword _ => none
    keywords := items.filterMap fun i =>
      match i with
      | .keyword k => some k
      | .starred _ => none
    sp := sp }

def argsRule : Parse Arguments := spanned ((do
    let ps ← sepBy1 (positionalArg go) ","
    let ks ← orEmpty (word "," *> keywordArgs go)
    pure (gatherArgs ps ks)) <|> gatherArgs [] <$> keywordArgs go)

def unpacksMapping : Keyword → Bool
  | .mk _ none _ => true
  | _ => false

def argumentsMistake : Parse Unit :=
  let unbracketed (a : Span) (b : Option Expr) : Parse Unit :=
    raiseRange a ((b.map Expr.span).getD a) "Generator expression must be parenthesized"
  (do
    let a ← (sepBy1 (positionalArg go) "," *> word "," *> keywordArgs go <|> keywordArgs go) *>
      wordSpan "," <* sepBy1 (starredExpr go <* notAhead (word "=")) ","
    raiseFrom a "iterable argument unpacking follows keyword argument unpacking") <|>
  (do
    let a ← go .expression
    let b ← go .clauses <* word "," <* opt (discard (argsRule go) <|> go .expression *> discard (go .clauses))
    unbracketed a.span (lastClausePart b)) <|>
  keywordClauseMistake go <|>
  (do
    let a ← argsRule go
    let b ← go .clauses
    match a.positional.getLast? with
    | none => pure ()
    | some last => if a.positional.length ≤ 1 then pure () else unbracketed last.span (lastClausePart b)) <|>
  (do
    let a ← argsRule go *> word "," *> go .expression
    let b ← go .clauses
    unbracketed a.span (b.getLast?.map fun (.mk t _ _ _) => t)) <|>
  (do
    let a ← argsRule go <* word "," <* argsRule go
    if a.keywords.any unpacksMapping then raiseHere "positional argument follows keyword argument unpacking"
    else raiseHere "positional argument follows keyword argument")

def argumentsRule : Parse Arguments :=
  argsRule go <* opt (word ",") <* ahead (word ")") <|> mistake (argumentsMistake go)

/-! ## 6. Targets -/

def accessTarget (use : NameUse) : Parse Expr :=
  let owner := targetPrimary go (quotedExpr go)
  (spanned do
    let v ← owner
    let a ← word "." *> nameWord
    notAhead seesTrailer
    pure (.attribute · v a use)) <|>
  spanned do
    let v ← owner
    let i ← between "[" (go .slices) "]"
    notAhead seesTrailer
    pure (.subscript · v i use)

def bracketTarget (one : Parse Expr) (tuple list : Parse (List Expr)) (use : NameUse) : Parse Expr :=
  (·.withUse use) <$> between "(" one ")" <|>
  (spanned do
    let ts ← between "(" (orEmpty tuple) ")"
    pure (.tuple · ts use)) <|>
  spanned do
    let ts ← between "[" (orEmpty list) "]"
    pure (.list · ts use)

def targetAtomRule : Parse Expr :=
  let several := (List.cons <$> go .starTarget <*> many1 (word "," *> go .starTarget)) <*
    opt (word ",") <|> List.singleton <$> go .starTarget <* word ","
  remembered 11 (accessTarget go .store <|> nameTarget .store <|>
    bracketTarget (go .targetAtom) several (commaList (go .starTarget)) .store)

def starTargetRule : Parse Expr :=
  remembered 12 ((spanned do
    let t ← word "*" *> notAhead (word "*") *> go .starTarget
    pure (.starred · (t.withUse .store) .store)) <|> go .targetAtom)

def singleTargetRule : Parse Expr := accessTarget go .store <|> nameTarget .store <|> between "(" (go .singleTarget) ")"

def delTargetRule : Parse Expr :=
  let several := commaList (go .delTarget)
  remembered 13 (accessTarget go .del <|> nameTarget .del <|> bracketTarget (go .delTarget) several several .del)

def annTargetRule : Parse Expr := listExpr go <|> tupleExpr go <|> between "(" (go .annTarget) ")"

end AliasTools.Syntax
