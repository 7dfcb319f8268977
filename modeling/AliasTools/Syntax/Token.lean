import AliasTools.Syntax.Tree
import AliasTools.Text.Casing

/-!
# Words of a script

A script is read word by word: names, numbers, quoted texts, operators, and the marks for the end of a
line and for deeper or shallower indentation.
-/

namespace AliasTools.Syntax

open Text

/-! ## 1. Words -/

inductive TokenKind where
  | name | number | string | op | newline | indent | dedent | typeComment | endMarker
deriving DecidableEq, Inhabited

structure Token where
  kind : TokenKind
  text : String
  line : Nat
  col : Nat
  endLine : Nat
  endCol : Nat
  placed : Bool
  reach : Nat
  depth : Nat
deriving Inhabited

structure OpenBracket where
  char : Char
  line : Nat
  col : Nat

/-- Stops that are a fault only if the grammar asks for the word that is missing. -/
inductive SoftStop where
  | endOfText | dedent | tabs | tooDeep | continuation (col : Nat)

inductive Stop where
  | ended
  | raised (fault : SyntaxFault)
  | soft (why : SoftStop) (line reach : Nat) (bracket : Option OpenBracket)

/-! ## 2. The place of reading -/

/-- What is left to read and where it starts; `pos` counts characters of the text, `col` bytes of the
    line, `chr` characters of the line. -/
structure Cursor where
  rest : List Char
  pos : Nat
  line : Nat
  col : Nat
  chr : Nat
  lastLength : Nat

variable (c : Cursor)

def Cursor.step : Cursor :=
  match c.rest with
  | [] => c
  | '\n' :: rest => ⟨rest, c.pos + 1, c.line + 1, 0, 0, c.col + 1⟩
  | ch :: rest => { c with rest := rest, pos := c.pos + 1, col := c.col + ch.utf8Size, chr := c.chr + 1 }

def Cursor.skip (c : Cursor) : Nat → Cursor
  | 0 => c
  | n + 1 => c.step.skip n

def Cursor.skipWhile (p : Char → Bool) : Cursor := c.skip (c.rest.takeWhile p).length

def Cursor.peek : Option Char := c.rest.head?

def Cursor.sees (p : Char → Bool) : Bool := c.rest.head?.any p

def Cursor.fault (message : String) : SyntaxFault := ⟨.form, message, some ⟨c.line, c.chr, c.line, c.chr⟩⟩

def Cursor.markPlace : Nat × Nat := if c.rest.isEmpty && c.col == 0 then (c.line - 1, c.lastLength) else (c.line, c.col)

def isWordChar (c : Char) : Bool := isAsciiLetter c || isAsciiDigit c || c == '_' || !isAscii c

def isWordStart (c : Char) : Bool := isAsciiLetter c || c == '_' || !isAscii c

/-! ## 3. Numbers -/

def keywordFollows (cs : List Char) : Bool :=
  let ends (rest : List Char) : Bool := !rest.head?.any isWordChar
  match cs with
  | 'a' :: 'n' :: 'd' :: r => ends r
  | 'e' :: 'l' :: 's' :: 'e' :: r => ends r
  | 'f' :: 'o' :: 'r' :: r => ends r
  | 'i' :: c :: _ => c == 'f' || c == 'n' || c == 's'
  | 'o' :: 'r' :: r => ends r
  | 'n' :: 'o' :: 't' :: r => ends r
  | _ => false

def endNumber (sort : String) : Except SyntaxFault Cursor :=
  if keywordFollows c.rest then .ok c
  else if c.sees fun ch => isAscii ch && isWordChar ch then
    .error (c.fault s!"invalid {sort} literal")
  else .ok c

def decimalTail (c : Cursor) : Nat → Except SyntaxFault Cursor
  | 0 => .ok c
  | k + 1 =>
    let c := c.skipWhile isAsciiDigit
    if c.peek == some '_' then
      let c := c.step
      if c.sees isAsciiDigit then decimalTail c k else .error (c.fault "invalid decimal literal")
    else .ok c

def basedTail (isBaseDigit : Char → Bool) (sort : String) (c : Cursor) : Nat → Except SyntaxFault Cursor
  | 0 => .ok c
  | k + 1 =>
    let c := if c.peek == some '_' then c.step else c
    match c.peek with
    | some d =>
      if isBaseDigit d then
        let c := c.skipWhile isBaseDigit
        if c.peek == some '_' then basedTail isBaseDigit sort c k
        else if c.sees isAsciiDigit then
          .error (c.step.fault s!"invalid digit '{c.rest.head!}' in {sort} literal")
        else endNumber c sort
      else if isAsciiDigit d then
        .error (c.step.fault s!"invalid digit '{d}' in {sort} literal")
      else .error (c.fault s!"invalid {sort} literal")
    | none => .error (c.fault s!"invalid {sort} literal")

def imaginaryTail : Except SyntaxFault Cursor :=
  if c.sees fun d => d == 'j' || d == 'J' then endNumber c.step "imaginary"
  else endNumber c "decimal"

def exponentTail : Except SyntaxFault Cursor :=
  if c.sees fun d => d == 'e' || d == 'E' then
    let after := c.step
    if after.sees fun d => d == '+' || d == '-' then
      let after := after.step
      if after.sees isAsciiDigit then do imaginaryTail (← decimalTail after after.rest.length)
      else .error (after.fault "invalid decimal literal")
    else if after.sees isAsciiDigit then do imaginaryTail (← decimalTail after after.rest.length)
    else endNumber c "decimal"
  else imaginaryTail c

def fractionTail : Except SyntaxFault Cursor := do
  if c.sees isAsciiDigit then exponentTail (← decimalTail c c.rest.length)
  else exponentTail c

def zeroTail (c : Cursor) : Nat → Except SyntaxFault Cursor
  | 0 => .ok c
  | k + 1 =>
    if c.peek == some '_' then
      let c := c.step
      if !c.sees isAsciiDigit then .error (c.fault "invalid decimal literal")
      else if c.peek == some '0' then zeroTail c.step k
      else .ok c
    else if c.peek == some '0' then zeroTail c.step k
    else .ok c

def scanNumber : Except SyntaxFault Cursor := do
  let size := c.rest.length
  match c.rest with
  | '0' :: 'x' :: _ | '0' :: 'X' :: _ => basedTail isHexDigit "hexadecimal" (c.skip 2) size
  | '0' :: 'o' :: _ | '0' :: 'O' :: _ => basedTail (fun d => '0' ≤ d && d ≤ '7') "octal" (c.skip 2) size
  | '0' :: 'b' :: _ | '0' :: 'B' :: _ => basedTail (fun d => d == '0' || d == '1') "binary" (c.skip 2) size
  | '0' :: _ =>
    let zeros ← zeroTail c.step size
    let nonzero := zeros.sees isAsciiDigit
    let after ← if nonzero then decimalTail zeros size else pure zeros
    match after.peek with
    | some '.' => fractionTail after.step
    | some 'e' | some 'E' => exponentTail after
    | some 'j' | some 'J' => imaginaryTail after
    | _ =>
      if nonzero then
        .error ⟨.form, "leading zeros in decimal integer literals are not permitted; " ++
          "use an 0o prefix for octal integers", some ⟨c.line, c.col + 1, c.line, zeros.col + 1⟩⟩
      else endNumber after "decimal"
  | _ =>
    let after ← decimalTail c size
    if after.peek == some '.' then fractionTail after.step else exponentTail after

/-! ## 4. Quoted texts -/

/-- Step over the body of a quoted text until `size` quotes in a row; `none` when it has no end. -/
def scanQuoted (quote : Char) (size : Nat) (c : Cursor) (seen : Nat) : Nat → Except Cursor Cursor
  | 0 => .error c
  | k + 1 =>
    if seen == size then .ok c
    else
      match c.rest with
      | [] => .error c
      | ch :: _ =>
        if size == 1 && ch == '\n' then .error c
        else if ch == quote then scanQuoted quote size c.step (seen + 1) k
        else if ch == '\\' then scanQuoted quote size c.step.step 0 k
        else scanQuoted quote size c.step 0 k

def scanString (start c : Cursor) : Except SyntaxFault Cursor :=
  match c.rest with
  | q :: rest =>
    let size := if rest.take 2 == [q, q] then 3 else 1
    let body := c.skip size
    if size == 1 && rest.head? == some q then .ok (body.step)
    else
      match scanQuoted q size body 0 (body.rest.length + 1) with
      | .ok after => .ok after
      | .error stopped =>
        let what := if size == 3 then "unterminated triple-quoted string literal" else "unterminated string literal"
        let last := (stopped.markPlace).1
        .error ⟨.form, s!"{what} (detected at line {last})",
          some ⟨start.line, start.chr + 1, start.line, start.chr + 1⟩⟩
  | [] => .ok c

def stringStart (sawB sawU sawR sawF : Bool) (c : Cursor) : Nat → Option Cursor
  | 0 => none
  | k + 1 =>
    let go (b u r f : Bool) : Option Cursor :=
      let c := c.step
      if c.sees fun q => q == '"' || q == '\'' then some c else stringStart b u r f c k
    match c.peek with
    | none => none
    | some ch =>
      if !(sawB || sawU || sawF) && (ch == 'b' || ch == 'B') then go true sawU sawR sawF
      else if !(sawB || sawU || sawR || sawF) && (ch == 'u' || ch == 'U') then
        go sawB true sawR sawF
      else if !(sawR || sawU) && (ch == 'r' || ch == 'R') then go sawB sawU true sawF
      else if !(sawF || sawB || sawU) && (ch == 'f' || ch == 'F') then go sawB sawU sawR true
      else none

/-! ## 5. Names -/

def codePointText (c : Char) : String :=
  let ds := Nat.toDigits 16 c.toNat
  String.ofList (List.replicate (4 - ds.length) '0' ++ ds.map Char.toUpper)

def identifierLength : List Char → Nat
  | [] => 0
  | c :: rest => if isIdentifierStart c then 1 + (rest.takeWhile isIdentifierPart).length else 0

def strayFault (after : Cursor) (ch : Char) : SyntaxFault :=
  if isPrintable ch then after.fault s!"invalid character '{ch}' (U+{codePointText ch})"
  else after.fault s!"invalid non-printable character U+{codePointText ch}"

def scanName : Except SyntaxFault Cursor :=
  let word := c.rest.takeWhile isWordChar
  let good := identifierLength word
  if good < word.length then .error (strayFault (c.skip (good + 1)) ((word.drop good).headD ' '))
  else .ok (c.skip word.length)

/-! ## 6. Operators -/

def operatorLength : List Char → Nat
  | '*' :: '*' :: '=' :: _ | '/' :: '/' :: '=' :: _ | '<' :: '<' :: '=' :: _
  | '>' :: '>' :: '=' :: _ | '.' :: '.' :: '.' :: _ => 3
  | '!' :: '=' :: _ | '%' :: '=' :: _ | '&' :: '=' :: _ | '*' :: '*' :: _ | '*' :: '=' :: _
  | '+' :: '=' :: _ | '-' :: '=' :: _ | '-' :: '>' :: _ | '/' :: '/' :: _ | '/' :: '=' :: _
  | ':' :: '=' :: _ | '<' :: '<' :: _ | '<' :: '=' :: _ | '<' :: '>' :: _ | '=' :: '=' :: _
  | '>' :: '=' :: _ | '>' :: '>' :: _ | '@' :: '=' :: _ | '^' :: '=' :: _ | '|' :: '=' :: _ => 2
  | _ => 1

def closes (opening closing : Char) : Bool :=
  (opening == '(' && closing == ')') || (opening == '[' && closing == ']') ||
    (opening == '\x7b' && closing == '\x7d')

/-! ## 7. Lines -/

structure LexState where
  cur : Cursor
  atLineStart : Bool
  blankLine : Bool
  brackets : List OpenBracket
  /-- Indentations that are open, innermost first: with tabs as eight, and as one. -/
  indents : List (Nat × Nat)
  tokens : Array Token
  typeComments : Bool

def LexState.push (s : LexState) (kind : TokenKind) (start stop : Cursor) : LexState :=
  let text := String.ofList (start.rest.take (stop.pos - start.pos))
  let token : Token := ⟨kind, text, start.line, start.col, stop.line, stop.col, true, stop.col, s.brackets.length⟩
  { s with cur := stop, tokens := s.tokens.push token }

def LexState.mark (s : LexState) (kind : TokenKind) : Nat → LexState
  | 0 => s
  | n + 1 =>
    let (line, reach) := s.cur.markPlace
    let token : Token := ⟨kind, "", line, 0, line, 0, false, reach, s.brackets.length⟩
    LexState.mark { s with tokens := s.tokens.push token } kind n

variable (s : LexState)

/-- A stop that is a fault only if the grammar comes to it; `c` is where reading stands. -/
def LexState.softStop (why : SoftStop) (c : Cursor) : Stop :=
  let (line, reach) := c.markPlace
  .soft why line reach s.brackets.head?

def Cursor.lineReach : Nat × Nat :=
  let c' := c.skipWhile (· ≠ '\n')
  (c.line, c'.col + 1)

def measureIndent (c : Cursor) (col alt fixed : Nat) : Nat → Except (Option Cursor) (Cursor × Nat × Nat × Nat)
  | 0 => .ok (c, col, alt, fixed)
  | k + 1 =>
    match c.rest with
    | ' ' :: _ => measureIndent c.step (col + 1) (alt + 1) fixed k
    | '\t' :: _ => measureIndent c.step ((col / 8 + 1) * 8) (alt + 1) fixed k
    | '\x0c' :: _ => measureIndent c.step 0 0 fixed k
    | '\\' :: rest =>
      let fixed := if fixed == 0 then col else fixed
      match rest with
      | ['\n'] => .error none
      | '\n' :: _ => measureIndent (c.skip 2) col alt fixed k
      | _ => .error (some (c.skip 2))
    | _ => .ok (c, col, alt, fixed)

/-- Close indentations that are deeper than `col`; gives those left and how many were closed. -/
def closeIndents (col : Nat) : List (Nat × Nat) → Nat → List (Nat × Nat) × Nat
  | [], n => ([], n)
  | [base], n => ([base], n)
  | top :: rest, n => if col < top.1 then closeIndents col rest (n + 1) else (top :: rest, n)

def lexLineStart : Except Stop LexState :=
  match measureIndent s.cur 0 0 0 (s.cur.rest.length + 1) with
  | .error none => .error (.soft .endOfText s.cur.line ((s.cur.skipWhile (· ≠ '\n')).col + 1) s.brackets.head?)
  | .error (some c) => .error (s.softStop (.continuation (c.col - 1)) c)
  | .ok (c, col, alt, fixed) =>
    let s := { s with cur := c, atLineStart := false, blankLine := false }
    if c.sees fun ch => ch == '#' || ch == '\n' then .ok { s with blankLine := true }
    else if !s.brackets.isEmpty then .ok s
    else
      let col := if fixed == 0 then col else fixed
      let alt := if fixed == 0 then alt else fixed
      let (line, reach) := c.lineReach
      let tabs : Stop := .soft .tabs line reach none
      match s.indents with
      | [] => .ok s
      | (top, topAlt) :: _ =>
        if col == top then if alt == topAlt then .ok s else .error tabs
        else if col > top then
          if s.indents.length ≥ 100 then .error (.soft .tooDeep line reach none)
          else if alt ≤ topAlt then .error tabs
          else .ok (LexState.mark { s with indents := (col, alt) :: s.indents } .indent 1)
        else
          let (left, closed) := closeIndents col s.indents 0
          match left with
          | [] => .ok s
          | (base, baseAlt) :: _ =>
            if col != base then .error (.soft .dedent line reach none)
            else if alt != baseAlt then .error tabs
            else .ok (LexState.mark { s with indents := left } .dedent closed)

def typeCommentBody (comment : List Char) : Option (List Char) :=
  let blank (c : Char) : Bool := c == ' ' || c == '\t'
  match comment with
  | '#' :: rest =>
    match rest.dropWhile blank with
    | 't' :: 'y' :: 'p' :: 'e' :: ':' :: body => some (body.dropWhile blank)
    | _ => none
  | _ => none

def isTypeIgnore : List Char → Bool
  | 'i' :: 'g' :: 'n' :: 'o' :: 'r' :: 'e' :: rest =>
    !rest.head?.any fun c => !isAscii c || isAsciiLetter c || isAsciiDigit c
  | _ => false

def lexOperator (c : Cursor) (ch : Char) : Except Stop LexState :=
  let n := operatorLength c.rest
  if n > 1 then .ok (s.push .op c (c.skip n))
  else if ch == '(' || ch == '[' || ch == '\x7b' then
    if s.brackets.length ≥ 200 then .error (.raised (c.step.fault "too many nested parentheses"))
    else .ok (LexState.push { s with brackets := ⟨ch, c.line, c.col⟩ :: s.brackets } .op c c.step)
  else if ch == ')' || ch == ']' || ch == '\x7d' then
    match s.brackets with
    | [] => .error (.raised (c.step.fault s!"unmatched '{ch}'"))
    | top :: rest =>
      if closes top.char ch then .ok (LexState.push { s with brackets := rest } .op c c.step)
      else
        let o := top.char
        let l := top.line
        let head := s!"closing parenthesis '{ch}' does not match opening parenthesis '{o}'"
        .error (.raised (c.step.fault (if l == c.line then head else s!"{head} on line {l}")))
  else if !isPrintable ch then .error (.raised (strayFault c.step ch))
  else .ok (s.push .op c c.step)

def lexWord : Except Stop LexState :=
  let c := s.cur.skipWhile fun ch => ch == ' ' || ch == '\t' || ch == '\x0c'
  match c.rest with
  | [] => if s.brackets.isEmpty then .error .ended else .error (s.softStop .endOfText c)
  | '#' :: _ =>
    let stop := c.skipWhile (· ≠ '\n')
    let comment := c.rest.take (stop.pos - c.pos)
    match if s.typeComments then typeCommentBody comment else none with
    | none =>
      if s.blankLine || !s.brackets.isEmpty then .ok { s with cur := stop }
      else
        -- The end of a line starts where its comment starts.
        let token : Token := ⟨.newline, "", c.line, c.col, c.line, stop.col, true, stop.col, 0⟩
        .ok { s with cur := stop.step, atLineStart := true, tokens := s.tokens.push token }
    | some body =>
      if isTypeIgnore body then
        if s.blankLine then .ok { s with cur := stop.step, atLineStart := true }
        else .ok { s with cur := stop }
      else .ok (s.push .typeComment (c.skip (comment.length - body.length)) stop)
  | '\n' :: _ =>
    let s' := { s with cur := c.step, atLineStart := true }
    if s.blankLine || !s.brackets.isEmpty then .ok s'
    else
      let token : Token := ⟨.newline, "", c.line, c.col, c.line, c.col, true, c.col, 0⟩
      .ok { s' with tokens := s.tokens.push token }
  | '\\' :: rest =>
    match rest with
    | ['\n'] => .error (.soft .endOfText c.line (c.col + 2) s.brackets.head?)
    | '\n' :: _ => .ok { s with cur := c.skip 2 }
    | _ => .error (s.softStop (.continuation (c.col + 1)) (c.skip 2))
  | ch :: rest =>
    if isWordStart ch then
      match stringStart false false false false c 4 with
      | some q =>
        match scanString c q with
        | .ok stop => .ok (s.push .string c stop)
        | .error f => .error (.raised f)
      | none =>
        match scanName c with
        | .ok stop => .ok (s.push .name c stop)
        | .error f => .error (.raised f)
    else if ch == '"' || ch == '\'' then
      match scanString c c with
      | .ok stop => .ok (s.push .string c stop)
      | .error f => .error (.raised f)
    else if isAsciiDigit ch then
      match scanNumber c with
      | .ok stop => .ok (s.push .number c stop)
      | .error f => .error (.raised f)
    else if ch == '.' && rest.head?.any isAsciiDigit then
      match fractionTail c.step with
      | .ok stop => .ok (s.push .number c stop)
      | .error f => .error (.raised f)
    else lexOperator s c ch

def lexLoop (s : LexState) : Nat → Array Token × Stop
  | 0 => (s.tokens, .ended)
  | k + 1 =>
    match (if s.atLineStart then lexLineStart s else lexWord s) with
    | .ok s' => lexLoop s' k
    | .error stop => (s.tokens, stop)

def normalizeLines : List Char → List Char
  | [] => ['\n']
  | ['\n'] => ['\n']
  | ['\r'] => ['\n']
  | '\r' :: '\n' :: rest => if rest.isEmpty then ['\n'] else '\n' :: normalizeLines rest
  | '\r' :: rest => '\n' :: normalizeLines rest
  | c :: rest => c :: normalizeLines rest

def lex (text : List Char) (typeComments : Bool) : Array Token × Stop :=
  let text := normalizeLines text
  let start : LexState := ⟨⟨text, 0, 1, 0, 0, 0⟩, true, false, [], [(0, 0)], #[], typeComments⟩
  match lexLoop start (3 * text.length + 4) with
  | (tokens, .ended) =>
    let last := (tokens.back?.map (·.endLine)).getD 1
    let lines := (text.filter (· == '\n')).length
    let lastLength := ((cutAt '\n' text).dropLast.getLastD []).foldl (fun n c => n + c.utf8Size) 1
    let line := if lines == 0 then last else lines
    (tokens.push ⟨.endMarker, "", line, 0, line, 0, false, lastLength, 0⟩, .ended)
  | other => other

end AliasTools.Syntax
