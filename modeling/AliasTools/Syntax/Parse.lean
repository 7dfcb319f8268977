import AliasTools.Syntax.Token
import Std.Data.TreeMap

/-!
# Reading words by a grammar

The grammar of scripts is a set of ordered choices: the first alternative that matches wins, and
an alternative that does not match gives its words back.  Reading happens in two rounds.  The
first only asks whether the text is a script.  If it is not, the second round also tries the
alternatives that describe well-known mistakes; the first of those that matches gives the fault.
-/

namespace AliasTools.Syntax

open Text

/-! ## 1. Replies -/

structure ParseEnv where
  tokens : Array Token
  stop : Stop
  lines : Array (List Char)
  /-- Set while the inside of a formatted text is read: how far columns are shifted. -/
  embedded : Option Nat
  /-- Columns of the first line are shifted by this much, and lines by the other. -/
  shiftCol : Nat
  shiftLine : Nat

/-- What reading has come to: the next word, how many words were looked at, the round, and the
    answers already found. -/
structure ParseState where
  pos : Nat
  fill : Nat
  mistakes : Bool
  memo : Std.TreeMap Nat (Option (Expr × Nat))

inductive Reply (α : Type) where
  | ok (a : α) (s : ParseState)
  | fail (s : ParseState)
  | fault (f : SyntaxFault) (s : ParseState)

def Parse (α : Type) : Type := ParseEnv → ParseState → Reply α

instance : Monad Parse where
  pure a := fun _ s => .ok a s
  bind p f := fun e s =>
    match p e s with
    | .ok a s' => f a e s'
    | .fail s' => .fail s'
    | .fault x s' => .fault x s'

variable {α : Type} (p : Parse α) (text : String)

def Parse.orElse (q : Unit → Parse α) : Parse α := fun e s =>
  match p e s with
  | .fail s' => q () e { s' with pos := s.pos }
  | r => r

def Parse.none : Parse α := fun _ s => .fail s

instance : Alternative Parse where
  failure := Parse.none
  orElse := Parse.orElse

def Parse.env : Parse ParseEnv := fun e s => .ok e s

def Parse.guard (b : Bool) : Parse Unit := fun _ s => if b then .ok () s else .fail s

/-! ## 2. Faults and their places -/

def charsIn : List Char → Nat → Nat
  | _, 0 => 0
  | [], _ + 1 => 1
  | c :: rest, n + 1 => 1 + charsIn rest (n + 1 - c.utf8Size)

def lineBytes (cs : List Char) : Nat := cs.foldl (fun n c => n + c.utf8Size) 0

def charColumn (env : ParseEnv) (s : ParseState) (line col : Nat) : Int :=
  let cs := (env.lines[line - env.shiftLine - 1]?).getD []
  let current : Bool := match env.tokens[s.fill - 1]? with
    | some t => decide (t.endLine ≤ line - env.shiftLine)
    | none => true
  let len := lineBytes cs + cond current 1 0
  charsIn cs (min col (len + 1))

def faultAtPlace (env : ParseEnv) (s : ParseState) (kind : FaultKind) (message : String)
    (line : Nat) (col : Nat) (endLine : Nat) (endCol : Option Nat) (unknownEnd : Int) :
    SyntaxFault :=
  let shift := env.embedded.getD 0
  let text := if env.embedded.isSome then "f-string: " ++ message else message
  let off := charColumn env s line (col - shift)
  let fin := match endCol with
    | some c => if c > shift then charColumn env s line (c - shift) else (c : Int) - shift
    | none => unknownEnd - shift
  ⟨kind, text, some ⟨line, off, endLine, fin⟩⟩

def lastToken (env : ParseEnv) (s : ParseState) : Option Token := env.tokens[s.fill - 1]?

def tokenCol (env : ParseEnv) (line col : Nat) : Nat := if line == 1 then col + env.shiftCol else col

def raiseAt (sp : Span) (message : String) : Parse α := fun e s =>
  .fault (faultAtPlace e s .form message sp.line (sp.col + 1) sp.endLine (some (sp.endCol + 1)) 0) s

def raiseRange (a b : Span) (message : String) : Parse α := raiseAt (a.upTo b) message

def raiseFrom (sp : Span) (message : String) : Parse α := fun e s =>
  let (line, reach) := match lastToken e s with
    | some t => (t.endLine + e.shiftLine, t.reach)
    | none => (sp.line, sp.col)
  .fault (faultAtPlace e s .form message sp.line (sp.col + 1) line (some reach) 0) s

def faultHere (kind : FaultKind) (message : String) (e : ParseEnv) (s : ParseState) : SyntaxFault :=
  match lastToken e s with
  | none => faultAtPlace e s kind message 1 0 1 none (-1)
  | some t =>
    let line := t.line + e.shiftLine
    let endLine := t.endLine + e.shiftLine
    if t.placed then
      faultAtPlace e s kind message line (tokenCol e t.line t.col + 1) endLine
        (some (tokenCol e t.endLine t.endCol + 1)) 0
    else faultAtPlace e s kind message line t.reach endLine none (-1)

def raiseHere (message : String) : Parse α := fun e s =>
  .fault (faultHere .form message e s) s

def raiseIndent (message : String) : Parse α := fun e s =>
  .fault (faultHere .indentation message e s) s

def unclosedFault (env : ParseEnv) (s : ParseState) (b : OpenBracket) : SyntaxFault :=
  let line := b.line + env.shiftLine
  faultAtPlace env s .form s!"'{b.char}' was never closed" line (tokenCol env b.line b.col + 1) line none 0

def stopFault (env : ParseEnv) (s : ParseState) : SyntaxFault :=
  match env.stop with
  | .ended => ⟨.form, "invalid syntax", none⟩
  | .raised f =>
    { f with place := f.place.map fun p =>
        { p with line := p.line + env.shiftLine, endLine := p.endLine + env.shiftLine } }
  | .soft why line reach bracket =>
    let line := line + env.shiftLine
    match why with
    | .endOfText =>
      match bracket with
      | some b => unclosedFault env s b
      | none => faultAtPlace env s .form "unexpected EOF while parsing" line reach line none (-1)
    | .dedent =>
      faultAtPlace env s .indentation "unindent does not match any outer indentation level" line reach line none (-1)
    | .tabs => faultAtPlace env s .tabs "inconsistent use of tabs and spaces in indentation" line 1 line none 0
    | .tooDeep => faultAtPlace env s .indentation "too many levels of indentation" line 1 line none 0
    | .continuation col =>
      faultAtPlace env s .form "unexpected character after line continuation character" line (col + 1) line none 0

/-! ## 3. Words -/

def peekToken : Parse Token := fun e s =>
  match e.tokens[s.pos]? with
  | some t => .ok t (if s.fill ≤ s.pos then { s with fill := s.pos + 1 } else s)
  | none =>
    match e.stop with
    | .ended => .ok (e.tokens.back?.getD default) s
    | _ => .fault (stopFault e s) { s with fill := s.pos + 1 }

def advance : Parse Unit := fun _ s => .ok () { s with pos := s.pos + 1 }

def keywords : List String :=
  ["False", "None", "True", "and", "as", "assert", "async", "await", "break", "class", "continue",
    "def", "del", "elif", "else", "except", "finally", "for", "from", "global", "if", "import",
    "in", "is", "lambda", "nonlocal", "not", "or", "pass", "raise", "return", "try", "while",
    "with", "yield"]

def Token.isText (t : Token) (text : String) : Bool := (t.kind == .op || t.kind == .name) && t.text == text

def Token.isName (t : Token) : Bool := t.kind == .name && !keywords.contains t.text

def tokenSpan (e : ParseEnv) (t : Token) : Span :=
  ⟨t.line + e.shiftLine, tokenCol e t.line t.col, t.endLine + e.shiftLine, tokenCol e t.endLine t.endCol⟩

def wordWhere (p : Token → Bool) : Parse Token := do
  let t ← peekToken
  if p t then
    advance
    pure t
  else failure

def word : Parse Unit := discard (wordWhere (·.isText text))

def oneOf (texts : List String) : Parse Token := wordWhere fun t => texts.any t.isText

def wordOf (kind : TokenKind) : Parse Token := wordWhere (·.kind == kind)

def placeOf (p : Parse Token) : Parse Span := do
  let t ← p
  pure (tokenSpan (← Parse.env) t)

def wordSpan : Parse Span := placeOf (wordWhere (·.isText text))

def nameToken : Parse (String × Span) := do
  let t ← wordWhere Token.isName
  pure (t.text, tokenSpan (← Parse.env) t)

def sees : Parse Bool := do pure ((← peekToken).isText text)

/-! ## 4. Choices and repetitions -/

def isAhead : Parse Bool := fun e s =>
  match p e s with
  | .ok _ s' => .ok true { s' with pos := s.pos }
  | .fail s' => .ok false { s' with pos := s.pos }
  | .fault f s' => .fault f s'

def ahead : Parse Unit := do if !(← isAhead p) then failure

def notAhead : Parse Unit := do if ← isAhead p then failure

def opt : Parse (Option α) := (some <$> p) <|> pure none

def manyUpTo {α : Type} (p : Parse α) : Nat → List α → Parse (List α)
  | 0, acc => pure acc.reverse
  | k + 1, acc => do
    match ← opt p with
    | none => pure acc.reverse
    | some a => manyUpTo p k (a :: acc)

def many : Parse (List α) := fun e s =>
  manyUpTo p (e.tokens.size - s.pos + 1) [] e s

def many1 : Parse (List α) := do
  let a ← p
  let rest ← many p
  pure (a :: rest)

def sepBy1 (separator : String) : Parse (List α) := do
  let a ← p
  let rest ← many (word separator *> p)
  pure (a :: rest)

def committed {α β : Type} (head : Parse α) (tail : α → Parse β) (other : Parse β) : Parse β :=
  fun e s =>
    match head e s with
    | .ok a s' => tail a e s'
    | .fail s' => other e { s' with pos := s.pos }
    | .fault f s' => .fault f s'

def mistake (p : Parse Unit) : Parse α := fun e s =>
  if s.mistakes then (isAhead p *> failure) e s else .fail s

def withoutMistakes : Parse α := fun e s =>
  match p e { s with mistakes := false } with
  | .ok a s' => .ok a { s' with mistakes := s.mistakes }
  | .fail s' => .fail { s' with mistakes := s.mistakes }
  | .fault f s' => .fault f { s' with mistakes := s.mistakes }

def remembered (rule : Nat) (p : Parse Expr) : Parse Expr := fun e s =>
  let key := s.pos * 64 + rule
  match s.memo[key]? with
  | some (some (x, pos)) => .ok x { s with pos := pos }
  | some none => .fail s
  | none =>
    match p e s with
    | .ok x s' => .ok x { s' with memo := s'.memo.insert key (some (x, s'.pos)) }
    | .fail s' => .fail { s' with memo := s'.memo.insert key none }
    | .fault f s' => .fault f s'

/-! ## 5. Places of what was read -/

def startSpan : Parse Span := placeOf peekToken

def lastWordBefore (tokens : Array Token) : Nat → Option Token
  | 0 => none
  | i + 1 =>
    match tokens[i]? with
    | none => lastWordBefore tokens i
    | some t =>
      match t.kind with
      | .newline | .indent | .dedent | .endMarker => lastWordBefore tokens i
      | _ => some t

def spanFrom (start : Span) : Parse Span := fun e s =>
  match lastWordBefore e.tokens s.pos with
  | none => .ok start s
  | some t => .ok (start.upTo (tokenSpan e t)) s

/-! ## 6. Shapes of rules -/

def spanned (p : Parse (Span → α)) : Parse α := do
  let start ← startSpan
  let node ← p
  pure (node (← spanFrom start))

def between (left : String) (p : Parse α) (right : String) : Parse α := word left *> p <* word right

def commaList : Parse (List α) := sepBy1 p "," <* opt (word ",")

def orEmpty (p : Parse (List α)) : Parse (List α) := p <|> pure []

def nameWord : Parse String := Prod.fst <$> nameToken

def newline : Parse Unit := discard (wordOf .newline)

def refuse (p : Parse Span) (why : String) : Parse Unit := do raiseAt (← p) why

end AliasTools.Syntax
