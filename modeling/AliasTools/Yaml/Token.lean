import AliasTools.Number

/-!
# Tokens of a document

The text of a document as tokens.  A complaint names what was being read and where that began, then
what was found and where.
-/

namespace AliasTools.Yaml

open Text Number

/-! ## 1. Places and complaints -/

structure Mark where
  index : Nat
  line : Nat
  column : Nat
deriving DecidableEq, Inhabited

def isBreak (c : Char) : Bool := c == '\r' || c == '\n' || c == '\x85' || c == '\u2028' || c == '\u2029'

def isBreakOrEnd (c : Char) : Bool := c == '\x00' || isBreak c

/-- What is shown of a line, and whether dots stand for the rest. -/
def shownPart (cs : List Char) : List Char × String :=
  let line := cs.takeWhile (!isBreakOrEnd ·)
  if line.length > 36 then (line.take 32, " ... ") else (line, "")

def Mark.show (text : List Char) (m : Mark) : String :=
  let (before, head) := shownPart (text.take m.index).reverse
  let (after, tail) := shownPart (text.drop m.index)
  let number (n : Nat) : String := String.ofList (natText (n + 1))
  s!"  in \"<unicode string>\", line {number m.line}, column {number m.column}:\n" ++
    s!"    {head}{String.ofList (before.reverse ++ after)}{tail}\n" ++
    String.ofList (List.replicate (4 + before.length + head.length) ' ') ++ "^"

inductive FaultKind where
  | character | token | event | node | value

structure Fault where
  kind : FaultKind
  context : Option String := none
  contextMark : Option Mark := none
  problem : String
  problemMark : Option Mark := none

def Fault.message (text : List Char) (f : Fault) : String :=
  let samePlace (a b : Mark) : Bool := a.line == b.line && a.column == b.column
  let start := match f.contextMark, f.problemMark with
    | some a, some b => if samePlace a b then [] else [a.show text]
    | some a, none => [a.show text]
    | none, _ => []
  String.intercalate "\n" (f.context.toList ++ start ++ [f.problem] ++ (f.problemMark.map (·.show text)).toList)

def isAllowed (c : Char) : Bool :=
  let n := c.toNat
  n == 0x09 || n == 0x0a || n == 0x0d || (0x20 ≤ n && n ≤ 0x7e) || n == 0x85 ||
    (0xa0 ≤ n && n ≤ 0xd7ff) || (0xe000 ≤ n && n ≤ 0xfffd) || 0x10000 ≤ n

/-- The first character that no document may hold. -/
def characterFault? (text : List Char) : Option Fault :=
  (text.findIdx? (!isAllowed ·)).map fun i =>
    { kind := .character
      problem := "unacceptable character #x" ++ String.ofList (hexText 4 (text.getD i ' ').toNat) ++
        ": special characters are not allowed\n  in \"<unicode string>\", position " ++
        String.ofList (natText i) }

/-! ## 2. Tokens -/

inductive Directive where
  | version (major minor : Nat)
  | tag (handle start : String)
  | other
deriving DecidableEq

inductive ScalarStyle where
  | plain | single | double | literal | folded
deriving DecidableEq

inductive TokenKind where
  | streamStart | streamEnd
  | directive (d : Directive)
  | documentStart | documentEnd
  | blockSequenceStart | blockMappingStart | blockEnd
  | flowSequenceStart | flowMappingStart | flowSequenceEnd | flowMappingEnd
  | key | value | blockEntry | flowEntry
  | alias (name : String)
  | anchor (name : String)
  | tag (handle : Option String) (rest : String)
  | scalar (text : String) (style : ScalarStyle)
deriving DecidableEq

def TokenKind.label : TokenKind → String
  | .streamStart => "<stream start>" | .streamEnd => "<stream end>" | .directive _ => "<directive>"
  | .documentStart => "<document start>" | .documentEnd => "<document end>"
  | .blockSequenceStart => "<block sequence start>" | .blockMappingStart => "<block mapping start>"
  | .blockEnd => "<block end>" | .flowSequenceStart => "[" | .flowMappingStart => "\x7b"
  | .flowSequenceEnd => "]" | .flowMappingEnd => "\x7d" | .key => "?" | .value => ":"
  | .blockEntry => "-" | .flowEntry => "," | .alias _ => "<alias>" | .anchor _ => "<anchor>"
  | .tag _ _ => "<tag>" | .scalar _ _ => "<scalar>"

structure Token where
  kind : TokenKind
  start : Mark
  stop : Mark

/-! ## 3. The reader -/

/-- A token that may turn out to be a key when a colon comes. -/
structure SimpleKey where
  level : Nat
  number : Nat
  required : Bool
  mark : Mark

/-- The text that is left, the tokens that wait, the blocks that are open and the keys that may be. -/
structure ReadState where
  rest : List Char
  mark : Mark := ⟨0, 0, 0⟩
  done : Bool := false
  flow : Nat := 0
  taken : Nat := 0
  tokens : List Token := []
  indent : Int := -1
  indents : List Int := []
  keyAllowed : Bool := true
  keys : List SimpleKey := []

abbrev Reading := EStateM Fault ReadState

def peekAt (n : Nat) : Reading Char := do return (← get).rest.getD n '\x00'

def peekChar : Reading Char := peekAt 0

def here : Reading Mark := do return (← get).mark

def Mark.after (m : Mark) (c next : Char) : Mark :=
  if isBreak c && !(c == '\r' && next == '\n') then ⟨m.index + 1, m.line + 1, 0⟩
  else if c == '\ufeff' then ⟨m.index + 1, m.line, m.column⟩
  else ⟨m.index + 1, m.line, m.column + 1⟩

def advanceOver (m : Mark) : Nat → List Char → Mark × List Char
  | 0, cs => (m, cs)
  | _, [] => (m, [])
  | n + 1, c :: cs => advanceOver (m.after c (cs.headD '\x00')) n cs

def advance (n : Nat) : Reading Unit :=
  modify fun s =>
    let (m, rest) := advanceOver s.mark n s.rest
    { s with mark := m, rest := rest }

def takeChars (p : Char → Bool) : Reading (List Char) := do
  let cs := (← get).rest.takeWhile p
  advance cs.length
  return cs

def skipChars (p : Char → Bool) : Reading Unit := discard (takeChars p)

def isBlankOrEnd (c : Char) : Bool := c == ' ' || isBreakOrEnd c

def isSpaceOrEnd (c : Char) : Bool := c == '\t' || isBlankOrEnd c

def isWordChar (c : Char) : Bool := isAsciiLetter c || isAsciiDigit c || c == '-' || c == '_'

def shownChar (c : Char) : String := quote c.toString

def readFail {α : Type} (context : String) (start : Mark) (problem : String) : Reading α := do
  throw { kind := .token, context := some context, contextMark := some start, problem := problem
          problemMark := some (← here) }

def expect (fits : Char → Bool) (context : String) (start : Mark) (what : String) : Reading Unit := do
  let c ← peekChar
  if !fits c then readFail context start s!"expected {what}, but found {shownChar c}"

def readFailHere {α : Type} (problem : String) : Reading α := do
  throw { kind := .token, problem := problem, problemMark := some (← here) }

def readBreak : Reading String := do
  let c ← peekChar
  if !isBreak c then return ""
  advance (if c == '\r' && (← peekAt 1) == '\n' then 2 else 1)
  return if c == '\u2028' || c == '\u2029' then c.toString else "\n"

def atDocumentMark : Reading Bool := do
  let three := (← get).rest.take 3
  return (three == ['-', '-', '-'] || three == ['.', '.', '.']) && isSpaceOrEnd (← peekAt 3)

def bound : Reading Nat := do return (← get).rest.length + 2

/-! ## 4. Keys and indentation -/

def missingColon {α : Type} (k : SimpleKey) : Reading α :=
  readFail "while scanning a simple key" k.mark "could not find expected ':'"

/-- A key stands in one line and is at most 1024 characters long. -/
def dropStaleKeys : Reading Unit := do
  let s ← get
  let isStale (k : SimpleKey) : Bool := k.mark.line != s.mark.line || s.mark.index - k.mark.index > 1024
  match s.keys.find? fun k => isStale k && k.required with
  | some k => missingColon k
  | none => set { s with keys := s.keys.filter fun k => !isStale k }

def dropKey : Reading Unit := do
  let s ← get
  match s.keys.find? fun k => k.level == s.flow with
  | some k =>
    if k.required then missingColon k
    set { s with keys := s.keys.filter fun k => k.level != s.flow }
  | none => pure ()

def saveKey : Reading Unit := do
  let s ← get
  if s.keyAllowed then
    dropKey
    modify fun s =>
      let required := s.flow == 0 && s.indent == s.mark.column
      { s with keys := s.keys ++ [⟨s.flow, s.taken + s.tokens.length, required, s.mark⟩] }

def allowKey (b : Bool) : Reading Unit := modify fun s => { s with keyAllowed := b }

variable (kind : TokenKind) (start : Mark)

def emit (start stop : Mark) : Reading Unit := modify fun s => { s with tokens := s.tokens ++ [⟨kind, start, stop⟩] }

/-- A line further to the left ends the blocks it is not in. -/
def closeBlocks (column : Int) : Nat → Reading Unit
  | 0 => pure ()
  | k + 1 => do
    let s ← get
    if s.flow == 0 && s.indent > column then
      set { s with
        indent := s.indents.headD (-1), indents := s.indents.tail
        tokens := s.tokens ++ [(⟨.blockEnd, s.mark, s.mark⟩ : Token)] }
      closeBlocks column k

def unwind (column : Int) : Reading Unit := do closeBlocks column ((← get).indents.length + 1)

def openBlock (column : Int) : Reading Bool := do
  let s ← get
  if s.indent < column then
    set { s with indents := s.indent :: s.indents, indent := column }
    return true
  return false

/-! ## 5. Between tokens -/

def skipComment : Reading Unit := do
  skipChars (· == ' ')
  if (← peekChar) == '#' then skipChars (!isBreakOrEnd ·)

def skipToToken : Nat → Reading Unit
  | 0 => pure ()
  | k + 1 => do
    skipComment
    if !(← readBreak).isEmpty then
      if (← get).flow == 0 then allowKey true
      skipToToken k

/-! ## 6. Directives, names and tags -/

def skipLineRest (context : String) (start : Mark) : Reading Unit := do
  skipComment
  expect isBreakOrEnd context start "a comment or a line break"
  discard readBreak

def inDirective : String := "while scanning a directive"

def readVersionNumber : Reading Nat := do
  expect isAsciiDigit inDirective start "a digit"
  return digitsNat (← takeChars isAsciiDigit)

def readTagHandle (name : String) (start : Mark) : Reading String := do
  let context := "while scanning a " ++ name
  expect (· == '!') context start "'!'"
  if (← peekAt 1) == ' ' then
    advance 1
    return "!"
  let word := ((← get).rest.drop 1).takeWhile isWordChar
  advance (word.length + 1)
  expect (· == '!') context start "'!'"
  advance 1
  return String.ofList ('!' :: word ++ ['!'])

def readHex (context : String) (start : Mark) (what : String) (digits : Nat) : Reading Nat := do
  let ds := (← get).rest.take digits
  let ds := ds ++ List.replicate (digits - ds.length) '\x00'
  match ds.find? (!isHexDigit ·) with
  | some c =>
    readFail context start (s!"expected {what}escape sequence of " ++ String.ofList (natText digits) ++
      s!" hexadecimal numbers, but found {shownChar c}")
  | none => pure ()
  advance digits
  return ((readInt? 16 ds).getD 0).toNat

def readUriBytes (context : String) (start : Mark) (acc : List Nat) : Nat → Reading (List Nat)
  | 0 => return acc.reverse
  | k + 1 => do
    if (← peekChar) != '%' then return acc.reverse
    advance 1
    readUriBytes context start ((← readHex context start "URI " 2) :: acc) k

def isUriChar (c : Char) : Bool := isAsciiLetter c || isAsciiDigit c || "-;/?:@&=+$,_.!~*'()[]%".toList.contains c

def readTagUri (name : String) (start : Mark) (acc : String) : Nat → Reading String
  | 0 => return acc
  | k + 1 => do
    let part ← takeChars fun c => isUriChar c && c != '%'
    let acc := acc ++ String.ofList part
    if (← peekChar) == '%' then
      let mark ← here
      let bytes ← readUriBytes s!"while scanning a {name}" start [] (← bound)
      match String.fromUTF8? ⟨(bytes.map Nat.toUInt8).toArray⟩ with
      | some s => readTagUri name start (acc ++ s) k
      | none =>
        throw { kind := .token, context := some s!"while scanning a {name}"
                contextMark := some start
                problem := "'utf-8' codec can't decode bytes in position 0: invalid start byte"
                problemMark := some mark }
    else
      expect (fun _ => !acc.isEmpty) s!"while parsing a {name}" start "URI"
      return acc

def readDirective : Reading Unit := do
  let start ← here
  advance 1
  let name ← takeChars isWordChar
  expect (fun c => !name.isEmpty && isBlankOrEnd c) inDirective start "alphabetic or numeric character"
  let (d, stop) ← match String.ofList name with
    | "YAML" => do
      skipChars (· == ' ')
      let major ← readVersionNumber start
      expect (· == '.') inDirective start "a digit or '.'"
      advance 1
      let minor ← readVersionNumber start
      expect isBlankOrEnd inDirective start "a digit or ' '"
      pure (Directive.version major minor, ← here)
    | "TAG" => do
      skipChars (· == ' ')
      let handle ← readTagHandle "directive" start
      expect (· == ' ') inDirective start "' '"
      skipChars (· == ' ')
      let front ← readTagUri "directive" start "" (← bound)
      expect isBlankOrEnd inDirective start "' '"
      pure (Directive.tag handle front, ← here)
    | _ => do
      let stop ← here
      skipChars (!isBreakOrEnd ·)
      pure (Directive.other, stop)
  skipLineRest inDirective start
  emit (.directive d) start stop

def readAnchor (isAlias : Bool) : Reading Unit := do
  let context := if isAlias then "while scanning an alias" else "while scanning an anchor"
  let start ← here
  advance 1
  let name ← takeChars isWordChar
  let ends (c : Char) : Bool := isSpaceOrEnd c || "?:,]\x7d%@`".toList.contains c
  expect (fun c => !name.isEmpty && ends c) context start "alphabetic or numeric character"
  let s := String.ofList name
  emit (if isAlias then .alias s else .anchor s) start (← here)

def readTag : Reading Unit := do
  let start ← here
  let c ← peekAt 1
  let (handle, rest) ← if c == '<' then do
      advance 2
      let uri ← readTagUri "tag" start "" (← bound)
      expect (· == '>') "while parsing a tag" start "'>'"
      advance 1
      pure (none, uri)
    else if isSpaceOrEnd c then do
      advance 1
      pure (none, "!")
    else do
      let word := ((← get).rest.drop 1).takeWhile fun c => !isBlankOrEnd c
      let handle ← if word.contains '!' then readTagHandle "tag" start else do
        advance 1
        pure "!"
      pure (some handle, ← readTagUri "tag" start "" (← bound))
  expect isBlankOrEnd "while scanning a tag" start "' '"
  emit (.tag handle rest) start (← here)

/-! ## 7. Scalars in blocks -/

structure BlockHeader where
  keep : Option Bool
  increment : Option Nat

def inBlockScalar : String := "while scanning a block scalar"

def readChomping : Reading (Option Bool) := do
  let c ← peekChar
  if c == '+' || c == '-' then
    advance 1
    return some (c == '+')
  return none

def readIncrement : Reading (Option Nat) := do
  let c ← peekChar
  if !isAsciiDigit c then return none
  if c == '0' then readFail inBlockScalar start "expected indentation indicator in the range 1-9, but found 0"
  advance 1
  return some (digitsNat [c])

def readBlockHeader : Reading BlockHeader := do
  let keep ← readChomping
  let increment ← readIncrement start
  let keep ← if keep.isNone && increment.isSome then readChomping else pure keep
  expect isBlankOrEnd inBlockScalar start "chomping or indentation indicators"
  return ⟨keep, increment⟩

/-- Lines of which `skip` leaves nothing: the breaks, the deepest indentation, and the place after the
    last break. -/
def readBreaks (skip : Reading Unit) (breaks : List String) (deepest : Nat) (stop : Mark) :
    Nat → Reading (List String × Nat × Mark)
  | 0 => return (breaks.reverse, deepest, stop)
  | k + 1 => do
    skip
    let deepest := max deepest (← here).column
    if !isBreak (← peekChar) then return (breaks.reverse, deepest, stop)
    let b ← readBreak
    readBreaks skip (b :: breaks) deepest (← here) k

def blankLines (skip : Reading Unit) : Reading (List String × Nat × Mark) := do
  readBreaks skip [] 0 (← here) (← bound)

def skipIndent (indent : Nat) : Reading Unit := do
  let s ← get
  let blanks := (s.rest.takeWhile (· == ' ')).length
  advance (min blanks (indent - s.mark.column))

/-- The lines of a block: the text so far, the last break, the breaks after it, and the place where
    the block ends. -/
def readBlockLines (folded : Bool) (indent : Nat) (text : String) (last : String)
    (breaks : List String) (stop : Mark) : Nat → Reading (String × String × List String × Mark)
  | 0 => return (text, last, breaks, stop)
  | k + 1 => do
    let atLine : Reading Bool := do return (← here).column == indent && (← peekChar) != '\x00'
    if !(← atLine) then return (text, last, breaks, stop)
    let first ← peekChar
    let line ← takeChars (!isBreakOrEnd ·)
    let text := text ++ String.join breaks ++ String.ofList line
    let last ← readBreak
    let (breaks, _, stop) ← blankLines (skipIndent indent)
    if !(← atLine) then return (text, last, breaks, stop)
    let next ← peekChar
    let isText (c : Char) : Bool := c != ' ' && c != '\t'
    let text := if folded && last == "\n" && isText first && isText next then
        (if breaks.isEmpty then text ++ " " else text)
      else text ++ last
    readBlockLines folded indent text last breaks stop k

def readBlockScalar (folded : Bool) : Reading Unit := do
  let start ← here
  advance 1
  let header ← readBlockHeader start
  skipLineRest inBlockScalar start
  let least : Nat := (max ((← get).indent + 1) 1).toNat
  let given := header.increment.map (least + · - 1)
  let (breaks, deepest, stop) ← blankLines (given.elim (skipChars (· == ' ')) skipIndent)
  let indent := given.getD (max least deepest)
  let (text, last, breaks, stop) ← readBlockLines folded indent "" "" breaks stop (← bound)
  let text := if header.keep == some false then text else text ++ last
  let text := if header.keep == some true then text ++ String.join breaks else text
  emit (.scalar text (if folded then .folded else .literal)) start stop

/-! ## 8. Scalars in quotes -/

/-- What may stand behind a backslash, and the character that it means. -/
def escapes : List (Char × Char) :=
  [('0', '\x00'), ('a', '\x07'), ('b', '\x08'), ('t', '\t'), ('n', '\n'), ('v', '\x0b'), ('f', '\x0c'),
   ('r', '\r'), ('e', '\x1b'), ('"', '"'), ('\\', '\\'), ('N', '\x85'), ('_', '\xa0'), ('L', '\u2028'),
   ('P', '\u2029'), ('\t', '\t'), (' ', ' '), ('/', '/')]

def escapeDigits? (c : Char) : Option Nat :=
  match c with
  | 'x' => some 2 | 'u' => some 4 | 'U' => some 8 | _ => none

def inQuoted : String := "while scanning a quoted scalar"

def readQuotedBreaks : Reading (List String) :=
  Prod.fst <$> blankLines do
    if ← atDocumentMark then readFail inQuoted start "found unexpected document separator"
    skipChars fun c => c == ' ' || c == '\t'

def readEscape : Reading String := do
  let context := "while scanning a double-quoted scalar"
  advance 1
  let c ← peekChar
  match escapes.lookup c, escapeDigits? c with
  | some x, _ =>
    advance 1
    return x.toString
  | none, some n =>
    advance 1
    return (Char.ofNat (← readHex context start "" n)).toString
  | none, none =>
    if isBreak c then
      discard readBreak
      return String.join (← readQuotedBreaks start)
    readFail context start s!"found unknown escape character {shownChar c}"

def readQuotedWord (double : Bool) (start : Mark) (acc : String) : Nat → Reading String
  | 0 => return acc
  | k + 1 => do
    let part ← takeChars fun c => !(isSpaceOrEnd c || c == '\'' || c == '"' || c == '\\')
    let acc := acc ++ String.ofList part
    let c ← peekChar
    if !double && c == '\'' && (← peekAt 1) == '\'' then
      advance 2
      readQuotedWord double start s!"{acc}'" k
    else if (double && c == '\'') || (!double && (c == '"' || c == '\\')) then
      advance 1
      readQuotedWord double start (acc.push c) k
    else if double && c == '\\' then
      readQuotedWord double start (acc ++ (← readEscape start)) k
    else return acc

/-- One break is a blank, and of more the first is left out. -/
def foldBreaks (first : String) (breaks : List String) : String :=
  (if first != "\n" then first else if breaks.isEmpty then " " else "") ++ String.join breaks

def readQuotedSpace : Reading String := do
  let blanks ← takeChars fun c => c == ' ' || c == '\t'
  let c ← peekChar
  if c == '\x00' then readFail inQuoted start "found unexpected end of stream"
  if isBreak c then
    let first ← readBreak
    return foldBreaks first (← readQuotedBreaks start)
  return String.ofList blanks

def readQuotedParts (double : Bool) (close : Char) (start : Mark) (acc : String) : Nat → Reading String
  | 0 => return acc
  | k + 1 => do
    if (← peekChar) == close then return acc
    let space ← readQuotedSpace start
    let word ← readQuotedWord double start "" (← bound)
    readQuotedParts double close start (acc ++ space ++ word) k

def readQuoted (double : Bool) : Reading Unit := do
  let start ← here
  let close ← peekChar
  advance 1
  let word ← readQuotedWord double start "" (← bound)
  let text ← readQuotedParts double close start word (← bound)
  advance 1
  emit (.scalar text (if double then .double else .single)) start (← here)

/-! ## 9. Plain scalars -/

def plainLength (inFlow : Bool) (n : Nat) : List Char → Nat
  | [] => n
  | c :: rest =>
    let next := rest.headD '\x00'
    if isSpaceOrEnd c ||
        (c == ':' && (isSpaceOrEnd next || (inFlow && ",[]\x7b\x7d".toList.contains next))) ||
        (inFlow && ",?[]\x7b\x7d".toList.contains c) then n
    else plainLength inFlow (n + 1) rest

def readPlainBreaks (breaks : List String) : Nat → Reading (Option (List String))
  | 0 => return some breaks.reverse
  | k + 1 => do
    let c ← peekChar
    if c == ' ' then
      advance 1
      readPlainBreaks breaks k
    else if isBreak c then
      let b ← readBreak
      if ← atDocumentMark then return none
      readPlainBreaks (b :: breaks) k
    else return some breaks.reverse

/-- Blanks and breaks inside a plain scalar; nothing when there are none, or when a document mark
    follows. -/
def readPlainSpace : Reading String := do
  let blanks ← takeChars (· == ' ')
  if isBreak (← peekChar) then
    let first ← readBreak
    allowKey true
    if ← atDocumentMark then return ""
    match ← readPlainBreaks [] (← bound) with
    | none => return ""
    | some breaks => return foldBreaks first breaks
  return String.ofList blanks

def readPlainWords (indent : Int) (acc space : String) (stop : Mark) : Nat → Reading (String × Mark)
  | 0 => return (acc, stop)
  | k + 1 => do
    let s ← get
    if (← peekChar) == '#' then return (acc, stop)
    let n := plainLength (s.flow != 0) 0 s.rest
    if n == 0 then return (acc, stop)
    allowKey false
    advance n
    let acc := acc ++ space ++ String.ofList (s.rest.take n)
    let stop ← here
    let space ← readPlainSpace
    let s ← get
    if space.isEmpty || (← peekChar) == '#' || (s.flow == 0 && (s.mark.column : Int) < indent) then return (acc, stop)
    readPlainWords indent acc space stop k

def readPlain : Reading Unit := do
  let start ← here
  let (text, stop) ← readPlainWords ((← get).indent + 1) "" "" start (← bound)
  emit (.scalar text .plain) start stop

/-! ## 10. The next token -/

def readMark (n : Nat) : Reading Unit := do
  let start ← here
  advance n
  emit kind start (← here)

def openEntry (what : String) : Reading Unit := do
  let outside := (← get).flow == 0
  if outside then
    if !(← get).keyAllowed then readFailHere s!"{what} are not allowed here"
    let m ← here
    if ← openBlock m.column then emit kind m m
  allowKey (outside || kind == .blockSequenceStart)
  dropKey

def readBlockEntry : Reading Unit := do
  openEntry .blockSequenceStart "sequence entries"
  readMark .blockEntry 1

def readKey : Reading Unit := do
  openEntry .blockMappingStart "mapping keys"
  readMark .key 1

def insertToken (number : Nat) (t : Token) : Reading Unit :=
  modify fun s =>
    let i := number - s.taken
    { s with tokens := s.tokens.take i ++ t :: s.tokens.drop i }

def readValue : Reading Unit := do
  let s ← get
  match s.keys.find? fun k => k.level == s.flow with
  | some k =>
    set { s with keys := s.keys.filter fun k => k.level != s.flow }
    insertToken k.number ⟨.key, k.mark, k.mark⟩
    if s.flow == 0 then if ← openBlock k.mark.column then insertToken k.number ⟨.blockMappingStart, k.mark, k.mark⟩
    allowKey false
  | none => openEntry .blockMappingStart "mapping values"
  readMark .value 1

def readTop (act : Reading Unit) : Reading Unit := do
  unwind (-1)
  dropKey
  allowKey false
  act

def readEnd : Reading Unit := readTop do
  let m ← here
  emit .streamEnd m m
  modify fun s => { s with keys := [], done := true }

def openFlow : Reading Unit := do
  saveKey
  modify fun s => { s with flow := s.flow + 1 }
  allowKey true
  readMark kind 1

def closeFlow : Reading Unit := do
  dropKey
  modify fun s => { s with flow := s.flow - 1 }
  allowKey false
  readMark kind 1

def readKeyPart (act : Reading Unit) : Reading Unit := do
  saveKey
  allowKey false
  act

def startsPlain (inFlow : Bool) (c next : Char) : Bool :=
  !(isSpaceOrEnd c || "-?:,[]\x7b\x7d#&*!|>'\"%@`".toList.contains c) ||
    (!isSpaceOrEnd next && (c == '-' || (!inFlow && (c == '?' || c == ':'))))

/-- What comes next is told by its first character. -/
def readToken : Reading Unit := do
  if (← here).index == 0 && (← peekChar) == '\ufeff' then advance 1
  skipToToken (← bound)
  dropStaleKeys
  unwind (← here).column
  let s ← get
  let c ← peekChar
  let next ← peekAt 1
  let inFlow := s.flow != 0
  let atStart := s.mark.column == 0
  if s.rest.isEmpty then readEnd
  else if c == '%' && atStart then readTop readDirective
  else if c == '-' && atStart && (← atDocumentMark) then readTop (readMark .documentStart 3)
  else if c == '.' && atStart && (← atDocumentMark) then readTop (readMark .documentEnd 3)
  else if c == '[' then openFlow .flowSequenceStart
  else if c == '\x7b' then openFlow .flowMappingStart
  else if c == ']' then closeFlow .flowSequenceEnd
  else if c == '\x7d' then closeFlow .flowMappingEnd
  else if c == ',' then
    allowKey true
    dropKey
    readMark .flowEntry 1
  else if c == '-' && isSpaceOrEnd next then readBlockEntry
  else if c == '?' && (inFlow || isSpaceOrEnd next) then readKey
  else if c == ':' && (inFlow || isSpaceOrEnd next) then readValue
  else if c == '*' then readKeyPart (readAnchor true)
  else if c == '&' then readKeyPart (readAnchor false)
  else if c == '!' then readKeyPart readTag
  else if (c == '|' || c == '>') && !inFlow then
    allowKey true
    dropKey
    readBlockScalar (c == '>')
  else if c == '\'' then readKeyPart (readQuoted false)
  else if c == '"' then readKeyPart (readQuoted true)
  else if startsPlain inFlow c next then readKeyPart readPlain
  else
    throw { kind := .token, context := some "while scanning for the next token"
            problem := s!"found character {shownChar c} that cannot start any token"
            problemMark := some s.mark }

def needsMore : Reading Bool := do
  if (← get).done then return false
  if (← get).tokens.isEmpty then return true
  dropStaleKeys
  let s ← get
  return match s.keys.map (·.number) with
    | [] => false
    | n :: ns => ns.foldl min n == s.taken

def readAll (acc : Array Token) (s : ReadState) : Nat → Array Token × Option Fault
  | 0 => (acc, none)
  | k + 1 =>
    match needsMore s with
    | .error f _ => (acc, some f)
    | .ok true s =>
      match readToken s with
      | .error f _ => (acc, some f)
      | .ok _ s => readAll acc s k
    | .ok false s =>
      match s.tokens with
      | [] => (acc, none)
      | t :: ts => readAll (acc.push t) { s with tokens := ts, taken := s.taken + 1 } k

/-- The tokens up to the first fault. -/
def tokensOf (text : List Char) : Array Token × Option Fault :=
  let start : Token := ⟨.streamStart, ⟨0, 0, 0⟩, ⟨0, 0, 0⟩⟩
  readAll #[] { rest := text, tokens := [start] } (8 * text.length + 64)

end AliasTools.Yaml
