import AliasTools.Syntax.Grammar.Expression

/-!
# Statements

Simple statements, which fit on a line, and compound ones, which hold blocks of others; and scripts:
`parseScript` reads a whole text.
-/

namespace AliasTools.Syntax

/-! ## 1. Patterns of `case` -/

def signedNumber : Parse Expr := do
  if ← sees "-" then spanned do
    let n ← advance *> numberExpr
    pure (.unaryOp · .uSub n)
  else numberExpr

def isImaginary : Expr → Bool
  | .constant _ (.imaginary _) => true
  | .unaryOp _ _ (.constant _ (.imaginary _)) => true
  | _ => false

def complexNumber : Parse Expr := spanned do
  let re ← signedNumber
  let op ← oneOf ["+", "-"]
  if isImaginary re then raiseAt re.span "real number required in complex literal"
  let im ← numberExpr
  if !isImaginary im then raiseAt im.span "imaginary number required in complex literal"
  pure (.binOp · re (if op.text == "+" then .add else .sub) im)

variable (go : Go)

def literalExpr : Parse Expr :=
  signedNumber <* notAhead (oneOf ["+", "-"]) <|> complexNumber <|>
  ahead (wordOf .string) *> remembered 1 (quotedExpr go) <|>
  (do
    let t ← oneOf ["None", "True", "False"]
    let sp := tokenSpan (← Parse.env) t
    pure (.constant sp (match t.text with
      | "None" => .none
      | "True" => .bool true
      | _ => .bool false)))

def captureName : Parse String := notAhead (word "_") *> nameWord <* notAhead (oneOf [".", "(", "="])

def dottedExpr (dotted : Bool) : Parse Expr := do
  let start ← startSpan
  let first ← nameExpr
  let attrs ← many (do
    let n ← word "." *> nameWord
    pure (n, ← spanFrom start))
  Parse.guard (!dotted || !attrs.isEmpty)
  pure (attrs.foldl (fun e (n, sp) => .attribute sp e n .load) first)

def openSequenceRule : Parse (List Pattern) :=
  List.cons <$> (go .starPattern <* word ",") <*> orEmpty (commaList (go .starPattern))

def starPatternRule : Parse Pattern :=
  (spanned do
    let n ← word "*" *> (some <$> captureName <|> word "_" *> pure none)
    pure (.star · n)) <|> go .pattern

def mappingItem : Parse (Expr × Pattern) :=
  Prod.mk <$> (literalExpr go <|> dottedExpr true) <*> (word ":" *> go .pattern)

def restName : Parse (Option String) := some <$> (word "**" *> captureName <* opt (word ","))

def mappingPattern : Parse Pattern :=
  let node (entries : Parse (List (Expr × Pattern))) (rest : Parse (Option String)) : Parse Pattern := spanned do
    let items ← word "\x7b" *> entries
    let r ← rest <* word "\x7d"
    pure (.mapping · (items.map (·.1)) (items.map (·.2)) r)
  let items := sepBy1 (mappingItem go) ","
  node (pure []) (pure none) <|> node (pure []) restName <|> node items (word "," *> restName) <|>
  node items (opt (word ",") *> pure none)

def keywordPattern : Parse (String × Pattern) := Prod.mk <$> nameWord <*> (word "=" *> go .pattern)

def classPattern : Parse Pattern :=
  let node (places : Parse (List Pattern)) (names : Parse (List (String × Pattern))) : Parse Pattern := spanned do
    let c ← dottedExpr false
    let ps ← word "(" *> places
    let ks ← names <* word ")"
    pure (.cls · c ps (ks.map (·.1)) (ks.map (·.2)))
  let places := sepBy1 (go .pattern) ","
  let names := sepBy1 (keywordPattern go) ","
  node (pure []) (pure []) <|> node (places <* opt (word ",")) (pure []) <|>
  node (pure []) (names <* opt (word ",")) <|> node (places <* word ",") (names <* opt (word ",")) <|>
  mistake (do
    let ps ← dottedExpr false *> word "(" *> opt (places *> word ",") *> names *> word "," *> places
    match ps.head?, ps.getLast? with
    | some a, some b => raiseRange a.span b.span "positional patterns follow keyword patterns"
    | _, _ => pure ())

def closedPattern : Parse Pattern :=
  let sequence (left : String) (items : Parse (List Pattern)) (right : String) : Parse Pattern :=
    spanned do
      let ps ← between left (orEmpty items) right
      pure (.sequence · ps)
  (do
    let start ← startSpan
    let e ← literalExpr go
    match e with
    | .constant sp v =>
      match v with
      | .none | .bool _ => pure (.singleton sp v)
      | _ => pure (.value (← spanFrom start) e)
    | _ => pure (.value (← spanFrom start) e)) <|>
  (spanned do
    let n ← captureName
    pure (.bind · none (some n))) <|>
  (.bind · none none) <$> wordSpan "_" <|>
  (fun e => .value e.span e) <$> (dottedExpr true <* notAhead (oneOf [".", "(", "="])) <|>
  between "(" (go .pattern) ")" <|> sequence "[" (commaList (go .starPattern)) "]" <|>
  sequence "(" (go .openSequence) ")" <|> mappingPattern go <|> classPattern go

def orPattern : Parse Pattern := do
  let start ← startSpan
  match ← sepBy1 (closedPattern go) "|" with
  | [p] => pure p
  | ps => pure (.or (← spanFrom start) ps)

def patternRule : Parse Pattern :=
  (spanned do
    let p ← orPattern go <* word "as"
    let n ← captureName
    pure (.bind · (some p) (some n))) <|>
  mistake (refuse (orPattern go *> word "as" *> wordSpan "_") "cannot use '_' as a target" <|>
    refuse (orPattern go *> word "as" *> notAhead nameToken *> (Expr.span <$> go .expression))
      "invalid pattern target") <|>
  orPattern go

def topPattern : Parse Pattern :=
  (spanned do
    let ps ← go .openSequence
    pure (.sequence · ps)) <|> go .pattern

/-! ## 2. Blocks -/

def withoutBlock (what : String) (head : Parse Span) : Parse Unit := do
  let sp ← head <* word ":" <* newline
  notAhead (wordOf .indent)
  raiseIndent s!"expected an indented block after {what} on line {sp.line}"

def withoutColon {α : Type} (head : Parse α) : Parse Unit := head *> newline *> raiseHere "expected ':'"

def headMistake (what : String) (head : Parse Span) : Parse Unit := withoutColon head <|> withoutBlock what head

variable (go : Go) (text : String)

def blockRule (simples : Parse (List Stmt)) : Parse (List Stmt) :=
  newline *> wordOf .indent *> go .statements <* wordOf .dedent <|> simples <|>
  mistake (newline *> notAhead (wordOf .indent) *> raiseIndent "expected an indented block")

/-! ## 3. Simple statements -/

def augSigns : List (String × BinOp) :=
  [("+=", .add), ("-=", .sub), ("*=", .mult), ("@=", .matMult), ("/=", .div), ("%=", .mod),
    ("&=", .bitAnd), ("|=", .bitOr), ("^=", .bitXor), ("<<=", .lShift), (">>=", .rShift),
    ("**=", .pow), ("//=", .floorDiv)]

def augSign : Parse BinOp := do
  let t ← peekToken
  match augSigns.find? fun (s, _) => t.isText s with
  | some (_, op) => advance; pure op
  | none => failure

def assigned : Parse Expr := go .yieldExpr <|> go .starExpressions

def assignmentMistake : Parse Unit :=
  let chained (p : Parse Expr) : Parse Expr := many (go .starTargets *> word "=") *> p <* word "="
  (do
    let a ← go .annTarget <* word ":" <* go .expression
    raiseAt a.span s!"only single target (not {a.describe}) can be annotated") <|>
  (do
    let a ← starNamedExpr go <* word "," <* many (go .starNamedExpressions) <* word ":" <* go .expression
    raiseAt a.span "only single target (not tuple) can be annotated") <|>
  (do
    let a ← go .expression <* word ":" <* go .expression
    raiseAt a.span "illegal target for annotation") <|>
  (do raiseTarget .star (← chained (go .starExpressions))) <|>
  (do
    let a ← chained (go .yieldExpr)
    raiseAt a.span "assignment to yield expression not possible") <|>
  (do
    let a ← go .starExpressions <* augSign <* assigned go
    raiseAt a.span s!"'{a.describe}' is an illegal expression for augmented assignment")

def assignmentStmt : Parse Stmt :=
  let annotated (target : Parse Expr) (simple : Bool) : Parse Stmt := spanned do
    let t ← target
    let a ← word ":" *> go .expression
    let v ← opt (word "=" *> assigned go)
    pure (.annAssign · t a v simple)
  annotated (nameTarget .store) true <|>
  annotated (between "(" (go .singleTarget) ")" <|> accessTarget go .store) false <|>
  (spanned do
    let ts ← many1 (go .starTargets <* word "=")
    let v ← assigned go
    notAhead (word "=")
    let c ← typeComment
    pure (.assign · ts v c)) <|>
  spanned (committed (Prod.mk <$> go .singleTarget <*> augSign) (fun (t, op) => do
      let v ← assigned go
      pure (.augAssign · t op v))
    (mistake (assignmentMistake go)))

def dottedName : Parse String := ".".intercalate <$> sepBy1 nameWord "."

def asName : Parse (Option String) := opt (word "as" *> nameWord)

def importName (name : Parse String) : Parse ImportName := spanned do
  let n ← name
  let a ← asName
  pure (ImportName.mk · n a)

def importStmt : Parse Stmt := spanned do
  let names ← word "import" *> sepBy1 (importName dottedName) ","
  pure (.importNames · names)

def importTargets : Parse (List ImportName) :=
  between "(" (commaList (importName nameWord)) ")" <|>
  sepBy1 (importName nameWord) "," <* notAhead (word ",") <|>
  (do pure [⟨← wordSpan "*", "*", none⟩]) <|>
  mistake (sepBy1 (importName nameWord) "," *> word "," *> newline *>
    raiseHere "trailing comma not allowed without surrounding parentheses")

def importFromStmt : Parse Stmt :=
  let dot : Parse Nat := (·.text.length) <$> oneOf [".", "..."]
  let node (dots : Parse (List Nat)) (name : Parse (Option String)) : Parse Stmt := spanned do
    let ds ← word "from" *> dots
    let m ← name
    let ns ← word "import" *> importTargets
    pure (.importFrom · m ns (ds.foldl (· + ·) 0))
  node (many dot) (some <$> dottedName) <|> node (many1 dot) (pure none)

def delStmt : Parse Stmt :=
  (spanned do
    let ts ← word "del" *> commaList (go .delTarget)
    ahead (word ";" <|> newline)
    pure (.delete · ts)) <|>
  mistake (do raiseTarget .del (← word "del" *> go .starExpressions))

def raiseStmt : Parse Stmt := spanned (word "raise" *> ((do
    let e ← go .expression
    let c ← opt (word "from" *> go .expression)
    pure (.raise · (some e) c)) <|> pure (.raise · none none)))

def exprStmt (p : Parse Expr) : Parse Stmt := spanned do
  let e ← p
  pure (.expr · e)

def simpleStmt : Parse Stmt :=
  let names (text : String) (node : Span → List String → Stmt) : Parse Stmt := spanned do
    let ns ← word text *> sepBy1 nameWord ","
    pure (node · ns)
  assignmentStmt go <|> exprStmt (go .starExpressions) <|>
  (do
    match (← peekToken).text with
    | "return" => spanned do
      let e ← word "return" *> opt (go .starExpressions)
      pure (.ret · e)
    | "import" => importStmt
    | "from" => importFromStmt
    | "raise" => raiseStmt go
    | "pass" => .pass <$> wordSpan "pass"
    | "del" => delStmt go
    | "yield" => exprStmt (go .yieldExpr)
    | "assert" => spanned do
      let e ← word "assert" *> go .expression
      let m ← opt (word "," *> go .expression)
      pure (.assert · e m)
    | "break" => .break <$> wordSpan "break"
    | "continue" => .continue <$> wordSpan "continue"
    | "global" => names "global" .global
    | "nonlocal" => names "nonlocal" .nonlocal
    | _ => failure)

def simpleStmts : Parse (List Stmt) := sepBy1 (simpleStmt go) ";" <* opt (word ";") <* newline

/-! ## 4. Functions and classes -/

def functionComment : Parse (Option String) :=
  (do
    let t ← newline *> wordOf .typeComment
    ahead (newline *> wordOf .indent)
    pure (some t.text)) <|>
  mistake (wordOf .typeComment *> newline *> wordOf .typeComment *> newline *> wordOf .indent *>
    raiseHere "Cannot have two type comments on def") <|>
  typeComment

def functionStmt (decorators : List Expr) : Parse Stmt :=
  let params := opt (paramList go .function) <* word ")"
  let result := opt (word "->" *> go .expression)
  mistake (withoutBlock "function definition"
    (opt (word "async") *> wordSpan "def" <* nameToken <* word "(" <* params <* result)) <|>
  spanned do
    let isAsync := (← opt (word "async")).isSome
    let n ← word "def" *> nameWord
    let ps ← required "(" *> params
    let r ← result <* required ":"
    let c ← functionComment
    let body ← go .block
    pure (.functionDef · n (ps.getD default) body decorators r c isAsync)

def classArgs : Parse Arguments := do
  let start ← startSpan
  let args ← opt (between "(" (opt (go .arguments)) ")")
  pure ((args.getD none).getD ⟨[], [], start⟩)

def classStmt (decorators : List Expr) : Parse Stmt :=
  mistake (headMistake "class definition" (wordSpan "class" <* nameToken <* classArgs go)) <|>
  spanned do
    let n ← word "class" *> nameWord
    let args ← classArgs go <* word ":"
    let body ← go .block
    pure (.classDef · n args.positional args.keywords body decorators)

def decoratorLines : Parse (List Expr) := many1 (word "@" *> go .namedExpression <* newline)

/-! ## 5. Branches and loops -/

def wordBlock : Parse (List Stmt) :=
  mistake (withoutBlock s!"'{text}' statement" (wordSpan text)) <|>
  word text *> required ":" *> go .block

def elseBlock : Parse (List Stmt) := orEmpty (wordBlock go "else")

def testStmt (node : Span → Expr → List Stmt → List Stmt → Stmt) (other : Parse (List Stmt)) : Parse Stmt :=
  mistake (headMistake s!"'{text}' statement" (wordSpan text <* go .namedExpression)) <|>
  spanned do
    let test ← word text *> go .namedExpression <* word ":"
    let body ← go .block
    let orelse ← other
    pure (node · test body orelse)

def ifRule : Parse Stmt := testStmt go text .ifElse (go .elifBranch <|> elseBlock go)

def forStmt : Parse Stmt :=
  let tail (isAsync : Bool) (t : Expr) : Parse (Span → Stmt) := do
    let iter ← go .starExpressions <* word ":"
    let c ← typeComment
    let body ← go .block
    let orelse ← elseBlock go
    pure (.forLoop · t iter body orelse c isAsync)
  mistake (headMistake "'for' statement" (opt (word "async") *> wordSpan "for" <*
    go .starTargets <* word "in" <* go .starExpressions)) <|>
  spanned (committed (forHead go false) (tail false)
    (committed (forHead go true) (tail true) (mistake (forTargetMistake go))))

/-! ## 6. Context managers -/

def withItem : Parse WithItem :=
  let close : Parse Unit := ahead (oneOf [",", ")", ":"])
  (do
    let e ← go .expression <* word "as"
    let t ← go .starTarget <* close
    pure ⟨e, some t⟩) <|>
  mistake (do raiseTarget .star (← go .expression *> word "as" *> go .expression <* close)) <|>
  (WithItem.mk · none) <$> go .expression

def withHead (bracketed : Bool) : Parse Span :=
  let item (e : Parse Expr) : Parse Expr := e <* opt (word "as" *> go .starTarget)
  opt (word "async") *> wordSpan "with" <*
    if bracketed then between "(" (commaList (item (expressionsRule go))) ")"
    else sepBy1 (item (go .expression)) ","

def withStmt : Parse Stmt :=
  let node (items : Parse (List WithItem)) (comment : Parse (Option String)) : Parse Stmt :=
    spanned do
      let isAsync := (← opt (word "async")).isSome
      let is ← word "with" *> items <* word ":"
      let c ← comment
      let body ← go .block
      pure (.withBlock · is body c isAsync)
  let missing := withoutBlock "'with' statement"
  mistake (missing (withHead go false) <|> missing (withHead go true)) <|>
  node (between "(" (commaList (withItem go)) ")") (pure none) <|>
  node (sepBy1 (withItem go) ",") typeComment <|>
  mistake (withoutColon (withHead go false) <|> withoutColon (withHead go true))

/-! ## 7. Errors -/

def exceptHead : Parse (Option Expr × Option String) := Prod.mk <$> (some <$> go .expression) <*> asName

def exceptMistake : Parse Unit :=
  let start := word "except" *> opt (word "*")
  (do
    let a ← start *> go .expression <* word "," <* expressionsRule go <* asName <* word ":"
    raiseFrom a.span "multiple exception types must be parenthesized") <|>
  withoutColon (start *> exceptHead go) <|> withoutColon (word "except") <|>
  word "except" *> word "*" *> (newline <|> word ":") *> raiseHere "expected one or more exception types"

def handlerOf (head : Parse (Option Expr × Option String)) : Parse Handler := spanned do
  let (e, n) ← head <* word ":"
  let body ← go .block
  pure (.mk · e n body)

def exceptBlock : Parse Handler :=
  let missing := withoutBlock "'except' statement"
  mistake (missing (wordSpan "except" <* exceptHead go) <|> missing (wordSpan "except")) <|>
  handlerOf go (word "except" *> exceptHead go) <|>
  handlerOf go (word "except" *> pure (none, none)) <|> mistake (exceptMistake go)

def exceptStarBlock : Parse Handler :=
  mistake (withoutBlock "'except*' statement" (wordSpan "except" <* word "*" <* exceptHead go)) <|>
  handlerOf go (word "except" *> word "*" *> exceptHead go) <|> mistake (exceptMistake go)

def tryMistake : Parse Unit :=
  withoutBlock "'try' statement" (wordSpan "try") <|>
  word "try" *> word ":" *> go .block *> notAhead (oneOf ["except", "finally"]) *>
    raiseHere "expected 'except' or 'finally' block" <|>
  word "try" *> word ":" *> many (go .block) *> (many1 (exceptBlock go) *> exceptStarBlock go <|>
      many1 (exceptStarBlock go) *> exceptBlock go) *> many (go .block) *>
    raiseHere "cannot have both 'except' and 'except*' on the same 'try'"

def tryStmt : Parse Stmt :=
  let node (rest : Parse (List Handler × List Stmt × List Stmt)) (isStar : Bool) : Parse Stmt :=
    spanned do
      let body ← word "try" *> required ":" *> go .block
      let (hs, orelse, fin) ← rest
      pure (.tryExcept · body hs orelse fin isStar)
  let final := wordBlock go "finally"
  let handled (h : Parse Handler) : Parse (List Handler × List Stmt × List Stmt) := do
    pure (← many1 h, ← elseBlock go, ← orEmpty final)
  mistake (tryMistake go) <|> node (([], [], ·) <$> final) false <|>
  node (handled (exceptBlock go)) false <|> node (handled (exceptStarBlock go)) true

/-! ## 8. Matching -/

def matchSubject : Parse Expr :=
  (spanned do
    let es ← openTuple go
    pure (.tuple · es .load)) <|> go .namedExpression

def caseHead : Parse (Pattern × Option Expr) := Prod.mk <$> topPattern go <*> opt (word "if" *> go .namedExpression)

def caseBlock : Parse MatchCase :=
  mistake (headMistake "'case' statement" (wordSpan "case" <* caseHead go)) <|>
  (do
    let (p, g) ← word "case" *> caseHead go <* word ":"
    let body ← go .block
    pure (.mk p g body))

def matchStmt : Parse Stmt :=
  (spanned do
    let subject ← word "match" *> matchSubject go <* word ":" <* newline <* wordOf .indent
    let cases ← many1 (caseBlock go) <* wordOf .dedent
    pure (.matchOn · subject cases)) <|>
  mistake (headMistake "'match' statement" (wordSpan "match" <* matchSubject go))

/-! ## 9. All statements -/

def compoundStmt : Parse Stmt := do
  let t ← peekToken
  if t.kind != .name && !t.isText "@" then failure
  else
    match t.text with
    | "def" => functionStmt go []
    | "@" => (do functionStmt go (← decoratorLines go)) <|> (do classStmt go (← decoratorLines go))
    | "async" => functionStmt go [] <|> withStmt go <|> forStmt go
    | "if" => ifRule go "if"
    | "class" => classStmt go []
    | "with" => withStmt go
    | "for" => forStmt go
    | "try" => tryStmt go
    | "while" => testStmt go "while" .whileLoop (elseBlock go)
    | "match" => matchStmt go
    | _ => failure

def statementsRule : Parse (List Stmt) := List.flatten <$> many1 (List.singleton <$> compoundStmt go <|> simpleStmts go)

/-! ## 10. Scripts -/

def sourceLines (text : List Char) : Array (List Char) := (AliasTools.Text.cutAt '\n' (normalizeLines text)).toArray

/-- A fault of the grammar gives way to one of the words that come later, if it was raised by
    the words, or if a bracket was opened on an earlier line and never closed. -/
def preferWordFault (env : ParseEnv) (s : ParseState) (f : SyntaxFault) : SyntaxFault :=
  match env.stop with
  | .ended => f
  | .raised g => (stopFault env s) |> fun h => { h with message := g.message }
  | .soft _ _ _ bracket =>
    match bracket with
    | none => f
    | some b =>
      let here := ((lastToken env s).map (·.line)).getD 0
      if here > b.line then unclosedFault env s b else f

def reachedStop (env : ParseEnv) (s : ParseState) : Bool := s.fill > env.tokens.size

def plainFault (env : ParseEnv) (first second : ParseState) : SyntaxFault :=
  let at1 : ParseState := { second with fill := first.fill }
  match lastToken env first with
  | some t =>
    match t.kind with
    | .indent => faultHere .indentation "unexpected indent" env second
    | .dedent => faultHere .indentation "unexpected unindent" env second
    | _ =>
      let sp := tokenSpan env t
      let f := if t.placed then
          faultAtPlace env at1 .form "invalid syntax" sp.line (sp.col + 1) sp.endLine (some (sp.endCol + 1)) 0
        else faultAtPlace env at1 .form "invalid syntax" sp.line 0 sp.endLine none 0
      preferWordFault env second f
  | none => ⟨.form, "invalid syntax", none⟩

def inTwoRounds {α : Type} (p : Parse α) (env : ParseEnv) : Except SyntaxFault α :=
  match p env ⟨0, 0, false, {}⟩ with
  | .ok a _ => .ok a
  | .fault f s => .error (if reachedStop env s then f else preferWordFault env s f)
  | .fail first =>
    match p env ⟨0, first.fill, true, {}⟩ with
    | .fault f s => .error (if reachedStop env s then f else preferWordFault env s f)
    | .ok _ second | .fail second => .error (plainFault env first second)

def embeddedExpr (go : Go) (text : List Char) (line col : Nat) : Parse Expr := fun _ s =>
  let source := '(' :: text ++ [')']
  let (tokens, stop) := lex source false
  let opened := match text.dropWhile fun c => c == ' ' || c == '\t' || c == '\x0c' with
    | '\n' :: _ => true
    | _ => false
  let shift := if opened then 0 else col
  let env : ParseEnv := ⟨tokens, stop, sourceLines source, some shift, shift, line - 1⟩
  match inTwoRounds (go .starExpressions) env with
  | .ok e => .ok e s
  | .error f => .fault f s

def stepRule (go : Go) : Go := fun r =>
  match r with
  | .expression => expressionRule go
  | .expressionOnly => withoutMistakes (plainExpr go)
  | .disjunction => disjunctionExpr go
  | .inversion => inversionExpr go
  | .bitwiseOr => bitwiseOrExpr go (quotedExpr go)
  | .factor => factorExpr go (quotedExpr go)
  | .namedExpression => namedExpressionRule go
  | .starExpression => starExpressionRule go
  | .starExpressions => commaTuple (go .starExpression) .load
  | .starNamedExpressions => commaList (starNamedExpr go)
  | .yieldExpr => yieldRule go
  | .slices => slicesRule go
  | .arguments => argumentsRule go
  | .clauses => many1 (clauseRule go)
  | .starTarget => starTargetRule go
  | .starTargets => commaTuple (go .starTarget) .store
  | .targetAtom => targetAtomRule go
  | .singleTarget => singleTargetRule go
  | .delTarget => delTargetRule go
  | .annTarget => annTargetRule go
  | .pattern => patternRule go
  | .starPattern => starPatternRule go
  | .openSequence => openSequenceRule go
  | .statements => statementsRule go
  | .block => blockRule go (simpleStmts go)
  | .elifBranch => List.singleton <$> ifRule go "elif"
  | .formatted text line col => embeddedExpr go text line col

def runRule : Nat → Go
  | 0 => fun _ => Parse.none
  | n + 1 => fun r => stepRule (runRule n) r

def scriptRule (go : Go) : Parse (List Stmt) := orEmpty (go .statements) <* wordOf .endMarker

def parseScript (text : String) (typeComments : Bool) : Except SyntaxFault (List Stmt) :=
  let cs := text.toList
  if cs.contains '\x00' then .error ⟨.form, "source code string cannot contain null bytes", none⟩
  else
    let (tokens, stop) := lex cs typeComments
    let env : ParseEnv := ⟨tokens, stop, sourceLines cs, none, 0, 0⟩
    inTwoRounds (scriptRule (runRule (40 * cs.length + 400))) env

end AliasTools.Syntax
