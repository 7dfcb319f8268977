import AliasTools.Yaml.Scalar
import AliasTools.Yaml.Token

/-!
# Documents as text

How a tree of data is written: collections in blocks, one item a line; empty ones in brackets; scalars
plain where the text would be read back as it is, and in quotes otherwise.
-/

namespace AliasTools.Yaml

open Text Number

/-! ## 1. What is written -/

/-- A tree of data; what occurs again is told by its number. -/
inductive Content where
  | scalar (sort : String) (text : String)
  | sequence (number : Nat) (items : List Content)
  | mapping (number : Nat) (isSet : Bool) (pairs : List (Content × Content))
  | again (number : Nat)

mutual

def Content.repeated : Content → List Nat
  | .scalar _ _ => []
  | .again n => [n]
  | .sequence _ items => repeatedIn items
  | .mapping _ _ pairs => repeatedInPairs pairs

def repeatedIn : List Content → List Nat
  | [] => []
  | c :: cs => c.repeated ++ repeatedIn cs

def repeatedInPairs : List (Content × Content) → List Nat
  | [] => []
  | (k, v) :: ps => k.repeated ++ v.repeated ++ repeatedInPairs ps

end

def anchorName (i : Nat) : String :=
  let ds := natText (i + 1)
  "id" ++ String.ofList (List.replicate (3 - ds.length) '0' ++ ds)

def anchorOf? (shared : List Nat) (number : Nat) : Option String := (shared.findIdx? (· == number)).map anchorName

/-! ## 2. How a scalar may be written -/

structure Looks where
  multiline : Bool
  plain : Bool
  single : Bool

structure Seen where
  indicators : Bool := false
  breaks : Bool := false
  special : Bool := false
  breakSpace : Bool := false
  spaceBreak : Bool := false

def isInnerBreak (c : Char) : Bool := c == '\n' || c == '\x85' || c == '\u2028' || c == '\u2029'

def lookFrom (s : Seen) (before : Option Char) : List Char → Seen
  | [] => s
  | c :: rest =>
    let followed := isSpaceOrEnd (rest.headD '\x00')
    let indicator := match before with
      | none =>
        "#,[]\x7b\x7d&*!|>'\"%@`".toList.contains c ||
          ((c == '?' || c == ':' || c == '-') && followed)
      | some b => (c == ':' && followed) || (c == '#' && isSpaceOrEnd b)
    lookFrom
      { indicators := s.indicators || indicator
        breaks := s.breaks || isInnerBreak c
        special := s.special || !(c == '\n' || (' ' ≤ c && c ≤ '~'))
        breakSpace := s.breakSpace || (c == ' ' && before.any isInnerBreak)
        spaceBreak := s.spaceBreak || (isInnerBreak c && before == some ' ') }
      (some c) rest

def looksOf (text : List Char) : Looks :=
  let s := lookFrom {} none text
  let isOuter (c : Option Char) : Bool := c.any fun c => c == ' ' || isInnerBreak c
  let marked := text.take 3 == ['-', '-', '-'] || text.take 3 == ['.', '.', '.']
  { multiline := s.breaks
    plain := !(isOuter text.head? || isOuter text.getLast? || s.breakSpace || s.spaceBreak ||
      s.special || s.breaks || s.indicators || marked)
    single := !(s.breakSpace || s.spaceBreak || s.special) }

/-! ## 3. The page -/

/-- What is written so far, and how it goes on. -/
structure Page where
  out : List Char := []
  column : Nat := 0
  indent : Option Nat := none
  step : Nat := 2
  blank : Bool := true
  fresh : Bool := true
  open? : Bool := false

abbrev Writing := StateM Page

def pageWidth : Nat := 80

def put (s : List Char) : Writing Unit :=
  modify fun p => { p with out := s.reverse ++ p.out, column := p.column + s.length }

def putMark (s : String) (spaced : Bool) (blank fresh : Bool := false) : Writing Unit := do
  let p ← get
  put (if p.blank || !spaced then s.toList else ' ' :: s.toList)
  modify fun p => { p with blank := blank, fresh := p.fresh && fresh, open? := false }

def putBreak (c : Char) : Writing Unit :=
  modify fun p => { p with out := c :: p.out, column := 0, blank := true, fresh := true }

def putIndent : Writing Unit := do
  let p ← get
  let indent := p.indent.getD 0
  if !p.fresh || p.column > indent || (p.column == indent && !p.blank) then putBreak '\n'
  let p ← get
  if p.column < indent then
    put (List.replicate (indent - p.column) ' ')
    modify fun p => { p with blank := true }

def continueLine : Writing Unit := do
  putIndent
  modify fun p => { p with blank := false, fresh := false }

/-- Runs of blanks, of breaks and of other characters. -/
def runsOf (text : List Char) : List (List Char) :=
  text.splitBy fun a b => (a == ' ') == (b == ' ') && isInnerBreak a == isInnerBreak b

/-! ## 4. Scalars -/

def putRuns (split : Bool) (word : List Char → Writing Unit) (again : Writing Unit)
    (first : Bool) : List (List Char) → Writing Unit
  | [] => pure ()
  | cs :: rest => do
    if cs.head? == some ' ' then
      if cs.length == 1 && (← get).column > pageWidth && split && !first && !rest.isEmpty then again else put cs
    else if cs.head?.any isInnerBreak then
      if cs.head? == some '\n' then putBreak '\n'
      cs.forM putBreak
      putIndent
    else word cs
    putRuns split word again false rest

def putPlain (root split : Bool) (text : List Char) : Writing Unit := do
  if root then modify fun p => { p with open? := true }
  if !text.isEmpty then
    if !(← get).blank then put [' ']
    modify fun p => { p with blank := false, fresh := false }
    putRuns split put continueLine true (runsOf text)

def putSingle (split : Bool) (text : List Char) : Writing Unit := do
  putMark "'" true
  putRuns split (fun cs => put (cs.flatMap fun c => if c == '\'' then ['\'', '\''] else [c]))
    putIndent true (runsOf text)
  putMark "'" false

def capitalHex (width n : Nat) : List Char := (hexText width n).map Char.toUpper

def escapedForm (c : Char) : List Char :=
  let n := c.toNat
  match escapes.find? (·.2 == c) with
  | some (s, _) => ['\\', s]
  | none =>
    if n ≤ 0xff then '\\' :: 'x' :: capitalHex 2 n
    else if n ≤ 0xffff then '\\' :: 'u' :: capitalHex 4 n
    else '\\' :: 'U' :: capitalHex 8 n

/-- The characters between double quotes; `waiting` are those not yet written, backwards, and `first`
    tells whether none was seen yet. -/
def putDoubleFrom (split first : Bool) (waiting : List Char) : List Char → Writing Unit
  | [] => put waiting.reverse
  | c :: rest => do
    let isPlain := ' ' ≤ c && c ≤ '~' && c != '"' && c != '\\'
    let waiting ← if isPlain then pure waiting else do
      put waiting.reverse
      put (escapedForm c)
      pure []
    let column := (← get).column
    let reached := if isPlain then column + waiting.length else column - 1
    if !first && !rest.isEmpty && (c == ' ' || waiting.isEmpty) && reached > pageWidth && split then
      put (waiting.reverse ++ ['\\'])
      continueLine
      let next : List Char := if isPlain then c :: rest else rest
      if next.head? == some ' ' then put ['\\']
      putDoubleFrom split false (if isPlain then [c] else []) rest
    else putDoubleFrom split false (if isPlain then c :: waiting else waiting) rest

def putDouble (split : Bool) (text : List Char) : Writing Unit := do
  putMark "\"" true
  putDoubleFrom split true [] text
  putMark "\"" false

/-- Plain if it is read back so, or else in single quotes, or else in double ones. -/
def putScalar (root simpleKey : Bool) (sort : String) (text : String) : Writing Unit := do
  let cs := text.toList
  let looks := looksOf cs
  if plainSort text == sort && looks.plain && !(simpleKey && (cs.isEmpty || looks.multiline)) then
    putPlain root (!simpleKey) cs
  else if looks.single && !(simpleKey && looks.multiline) then putSingle (!simpleKey) cs
  else putDouble (!simpleKey) cs

/-! ## 5. Collections -/

inductive Place where
  | root | item | value | simpleKey
deriving DecidableEq

/-- Whether a key fits on a line with its value. -/
def Content.isSimpleKey (shared : List Nat) : Content → Bool
  | .again n => ((anchorOf? shared n).getD "").length < 128
  | .scalar sort text => !text.isEmpty && !(looksOf text.toList).multiline && 2 + sort.length + text.length < 128
  | .sequence _ items => items.isEmpty
  | .mapping _ _ pairs => pairs.isEmpty

def withIndent (f : Page → Nat) (act : Writing Unit) : Writing Unit := do
  let old := (← get).indent
  modify fun p => { p with indent := some (f p) }
  act
  modify fun p => { p with indent := old }

def indented (indentless : Bool) (act : Writing Unit) : Writing Unit :=
  withIndent (fun p => match p.indent with
    | none => 0
    | some n => if indentless then n else n + p.step) act

def hanging (act : Writing Unit) : Writing Unit := withIndent (fun p => p.indent.getD 0 + p.step) act

def putAnchor (shared : List Nat) (number : Nat) : Writing Unit :=
  match anchorOf? shared number with
  | some a => putMark s!"&{a}" true
  | none => pure ()

mutual

def putContent (shared : List Nat) (place : Place) : Content → Writing Unit
  | .again n => putMark ("*" ++ (anchorOf? shared n).getD "") true
  | .scalar sort text => hanging (putScalar (place == .root) (place == .simpleKey) sort text)
  | .sequence n items => do
    putAnchor shared n
    if items.isEmpty then
      putMark "[" true true
      putMark "]" false
    else
      let indentless := place == .value && !(← get).fresh
      indented indentless (putItems shared items)
  | .mapping n isSet pairs => do
    putAnchor shared n
    if isSet then putMark "!!set" true
    if pairs.isEmpty then
      putMark "\x7b" true true
      putMark "\x7d" false
    else indented false (putPairs shared pairs)

def putItems (shared : List Nat) : List Content → Writing Unit
  | [] => pure ()
  | c :: cs => do
    putIndent
    putMark "-" true false true
    putContent shared .item c
    putItems shared cs

def putPairs (shared : List Nat) : List (Content × Content) → Writing Unit
  | [] => pure ()
  | (k, v) :: ps => do
    putIndent
    if k.isSimpleKey shared then
      putContent shared .simpleKey k
      putMark ":" false
    else
      putMark "?" true false true
      putContent shared .value k
      putIndent
      putMark ":" true false true
    putContent shared .value v
    putPairs shared ps

end

def Content.render (step : Nat) (c : Content) : String :=
  let shared := c.repeated.eraseDups
  let write : Writing Unit := do
    putContent shared .root c
    putIndent
    if (← get).open? then
      putMark "..." true
      putIndent
  let (_, p) := write.run { step := step }
  String.ofList p.out.reverse

end AliasTools.Yaml
