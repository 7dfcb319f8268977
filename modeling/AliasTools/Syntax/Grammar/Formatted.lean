import AliasTools.Syntax.Grammar.Primary

/-!
# Formatted texts

The body of a formatted text is literal text with expressions in braces; an expression may have a
conversion letter and a format, and a format may itself hold expressions.
-/

namespace AliasTools.Syntax

open Text

structure BodyPos where
  rest : List Char
  line : Nat
  col : Nat

def BodyPos.step (b : BodyPos) : BodyPos :=
  match b.rest with
  | [] => b
  | '\n' :: r => ⟨r, b.line + 1, 0⟩
  | c :: r => ⟨r, b.line, b.col + c.utf8Size⟩

def BodyPos.skip (b : BodyPos) : Nat → BodyPos
  | 0 => b
  | n + 1 => b.step.skip n

/-- How a stretch of literal text ends: at a doubled brace, at a brace or the end, or wrongly. -/
inductive LiteralEnd where
  | doubled | brace | single

def scanLiteral (raw : Bool) (top : Bool) (b : BodyPos) (acc : List Char) : Nat → List Char × BodyPos × LiteralEnd
  | 0 => (acc.reverse, b, .brace)
  | k + 1 =>
    let brace (b : BodyPos) (acc : List Char) (c : Char) : List Char × BodyPos × LiteralEnd :=
      if top && (b.step.rest.head? == some c) then ((c :: acc).reverse, b.skip 2, .doubled)
      else if top && c == '\x7d' then (acc.reverse, b, .single)
      else (acc.reverse, b, .brace)
    match b.rest with
    | [] => (acc.reverse, b, .brace)
    | '\\' :: c :: r =>
      if raw then scanLiteral raw top b.step ('\\' :: acc) k
      else if c == 'N' then
        match r with
        | '\x7b' :: r' =>
          let name := r'.takeWhile (· ≠ '\x7d')
          let n := 3 + name.length + (if r'.length == name.length then 0 else 1)
          scanLiteral raw top (b.skip n) ((b.rest.take n).reverse ++ acc) k
        | _ => scanLiteral raw top (b.skip 2) (c :: '\\' :: acc) k
      else if c == '\x7b' || c == '\x7d' then brace b.step ('\\' :: acc) c
      else scanLiteral raw top (b.skip 2) (c :: '\\' :: acc) k
    | c :: _ =>
      if c == '\x7b' || c == '\x7d' then brace b acc c
      else scanLiteral raw top b.step (c :: acc) k

inductive ExprEnd where
  | found (stop : BodyPos)
  | fault (message : String)

def scanExpr (b : BodyPos) (quote : Option (Char × Nat)) (brackets : List Char) : Nat → ExprEnd
  | 0 => .fault "f-string: expecting '\x7d'"
  | k + 1 =>
    match b.rest with
    | [] =>
      if quote.isSome then .fault "f-string: unterminated string"
      else
        match brackets with
        | o :: _ => .fault s!"f-string: unmatched '{o}'"
        | [] => .fault "f-string: expecting '\x7d'"
    | '\\' :: _ => .fault "f-string expression part cannot include a backslash"
    | c :: r =>
      let tripled := r.length ≥ 2 && r.take 2 == [c, c]
      match quote with
      | some (q, n) =>
        if c == q then
          if n == 3 then
            if tripled then scanExpr (b.skip 3) none brackets k
            else scanExpr b.step quote brackets k
          else scanExpr b.step none brackets k
        else scanExpr b.step quote brackets k
      | none =>
        if c == '\'' || c == '"' then
          if tripled then scanExpr (b.skip 3) (some (c, 3)) brackets k
          else scanExpr b.step (some (c, 1)) brackets k
        else if c == '[' || c == '\x7b' || c == '(' then
          if brackets.length ≥ 200 then .fault "f-string: too many nested parenthesis"
          else scanExpr b.step none (c :: brackets) k
        else if c == '#' then .fault "f-string expression part cannot include '#'"
        else if brackets.isEmpty && ['!', ':', '\x7d', '=', '>', '<'].contains c then
          if r.head? == some '=' && ['!', '=', '<', '>'].contains c then scanExpr (b.skip 2) none brackets k
          else if c == '>' || c == '<' then scanExpr b.step none brackets k
          else .found b
        else if c == ']' || c == '\x7d' || c == ')' then
          match brackets with
          | [] => .fault s!"f-string: unmatched '{c}'"
          | o :: more =>
            if closes o c then scanExpr b.step none more k
            else .fault (s!"f-string: closing parenthesis '{c}' does not match opening " ++ s!"parenthesis '{o}'")
        else scanExpr b.step none brackets k

def isCodeBlank (c : Char) : Bool := c == ' ' || c == '\t' || c == '\n' || c == '\x0c'

def formatNode (sp own : Span) (parts : List TextPart) : Expr :=
  let nodes (ps : List TextPart) (place : Span) : List Expr := ps.filterMap fun p =>
    match p with
    | .text [] => none
    | .text cs => some (.constant place (.str (String.ofList cs) false))
    | .value e => some e
  let joined := joinParts parts
  match joined.getLast? with
  | some (.text cs) => .joinedStr own (nodes joined.dropLast sp ++ nodes [.text cs] own)
  | _ => .joinedStr own (nodes joined sp)

def formattedParts (go : Go) (raw : Bool) (level : Nat) (sp own : Span) :
    Nat → BodyPos → Parse (List TextPart × BodyPos)
  | 0, b => pure ([], b)
  | k + 1, b => do
    let (lit, b, fin) := scanLiteral raw (level == 0) b [] (b.rest.length + 1)
    if let .single := fin then raiseHere "f-string: single '\x7d' is not allowed"
    let text ← match charsOfBody raw false lit with
      | .ok cs => pure cs
      | .error m => raiseHere m
    if let .doubled := fin then
      let (more, b) ← formattedParts go raw level sp own k b
      return (.text text :: more, b)
    match b.rest with
    | [] => return ([.text text], b)
    | '\x7d' :: _ => return ([.text text], b)
    | _ => pure ()
    if level ≥ 2 then raiseHere "f-string: expressions nested too deeply"
    let inside := b.step
    match scanExpr inside none [] (inside.rest.length + 1) with
    | .fault m => raiseHere m
    | .found stop =>
      let source := inside.rest.take (inside.rest.length - stop.rest.length)
      let mark := stop.rest.headD '\x7d'
      if source.all isCodeBlank then
        if mark == '\x7d' then raiseHere "f-string: empty expression not allowed"
        else raiseHere s!"f-string: expression required before '{mark}'"
      let value ← go (.formatted source b.line b.col)
      let mut at' := stop
      let mut shown : Option (List Char) := none
      if mark == '=' then
        let after := stop.step
        at' := after.skip (after.rest.takeWhile isBlank).length
        shown := some (inside.rest.take (inside.rest.length - at'.rest.length))
      let mut conversion : Int := -1
      if at'.rest.head? == some '!' then
        at' := at'.step
        match at'.rest with
        | [] => raiseHere "f-string: expecting '\x7d'"
        | c :: _ =>
          at' := at'.step
          if c == 's' || c == 'r' || c == 'a' then conversion := c.toNat
          else raiseHere "f-string: invalid conversion character: expected 's', 'r', or 'a'"
      let mut format : Option Expr := none
      if at'.rest.head? == some ':' then
        at' := at'.step
        if at'.rest.isEmpty then raiseHere "f-string: expecting '\x7d'"
        let (parts, b') ← formattedParts go raw (level + 1) sp own k at'
        if b'.rest.head? != some '\x7d' then raiseHere "f-string: expecting '\x7d'"
        at' := b'
        format := some (formatNode sp own parts)
      if at'.rest.head? != some '\x7d' then raiseHere "f-string: expecting '\x7d'"
      if shown.isSome && format.isNone && conversion == -1 then conversion := 'r'.toNat
      let node := TextPart.value (.formattedValue sp value conversion format)
      let (more, b') ← formattedParts go raw level sp own k at'.step
      return (.text text :: .text (shown.getD []) :: node :: more, b')

def formattedWord (go : Go) (sp : Span) (q : Quoted) (t : Token) : Parse (List TextPart) := do
  let e ← Parse.env
  let start := tokenSpan e t
  let lead := (t.text.toList.take q.lead)
  let b : BodyPos := ⟨q.body, start.line, start.col + lineBytes lead⟩
  let (parts, b') ← formattedParts go q.raw 0 sp start (q.body.length + 2) b
  if b'.rest.length > 1 then raiseHere "f-string: unexpected end of string"
  pure parts

def quotedExpr (go : Go) : Parse Expr := fun e s =>
  -- The nodes inside a formatted text carry the place of the whole run of words.
  let run := (e.tokens.toList.drop s.pos).takeWhile (·.kind == .string)
  let sp : Span := match run.head?, run.getLast? with
    | some a, some b => (tokenSpan e a).upTo (tokenSpan e b)
    | _, _ => default
  stringsExpr (formattedWord go sp) e s

end AliasTools.Syntax
