import AliasTools.Pattern.Search
import AliasTools.Text.CharName

/-!
# Reading patterns

The written form of a pattern.
-/

namespace AliasTools.Pattern

/-! ## 1. Marks -/

inductive Mark where
  | plain (c : Char)
  | escaped (c : Char)
  deriving DecidableEq

def Mark.chars : Mark → List Char
  | plain c => [c]
  | escaped c => ['\\', c]

def marksOf : List Char → Option (List Mark)
  | [] => some []
  | ['\\'] => none
  | '\\' :: c :: cs => (marksOf cs).map (.escaped c :: ·)
  | c :: cs => (marksOf cs).map (.plain c :: ·)

/-! ## 2. The state of reading -/

structure Reading where
  rest : List Mark
  groups : Nat := 0
  names : List (String × Nat) := []
  closed : List (Nat × Width) := []
  options : Options := {}
  behindFrom : Option Nat := none
  asked : Nat := 0

abbrev Reader := StateT Reading Option

def peek : Reader (Option Mark) := do return (← get).rest.head?

def next : Reader Mark := do
  match (← get).rest with
  | m :: ms =>
    modify fun r => { r with rest := ms }
    return m
  | [] => failure

def took (c : Char) : Reader Bool := do
  if (← peek) == some (.plain c) then
    modify fun r => { r with rest := r.rest.drop 1 }
    return true
  else return false

def expect (c : Char) : Reader Unit := do unless ← took c do failure

def takeChars (limit : Nat) (p : Char → Bool) : Reader (List Char) := do
  let isOne (m : Mark) : Bool := match m with
    | .plain c => p c
    | .escaped _ => false
  let rest := (← get).rest
  let marks := (rest.take limit).takeWhile isOne
  set { ← get with rest := rest.drop marks.length }
  return marks.flatMap Mark.chars

def takeTo (stop : Char) : Reader (List Mark) := do
  let rest := (← get).rest
  let marks := rest.takeWhile fun m => m != .plain stop
  if marks.length == rest.length then failure
  set { ← get with rest := rest.drop (marks.length + 1) }
  return marks

def takeUntil (stop : Char) : Reader (List Char) := do
  let marks ← takeTo stop
  if marks.isEmpty then failure
  return marks.flatMap Mark.chars

/-! ## 3. Escapes -/

def digitsValue (base : Nat) (cs : List Char) : Nat := ((Number.readInt? base cs).getD 0).toNat

def isOctalDigit (c : Char) : Bool := '0' ≤ c && c ≤ '7'

def codeOfDigits (count : Nat) : Reader Nat := do
  let cs ← takeChars count Text.isHexDigit
  if cs.length != count then failure
  let n := digitsValue 16 cs
  if n > 0x10ffff then failure
  return n

def controlCode? (c : Char) : Option Nat :=
  [('a', 7), ('b', 8), ('f', 12), ('n', 10), ('r', 13), ('t', 9), ('v', 11), ('\\', 92)].lookup c

def classTest? (c : Char) : Option CharTest :=
  ([('d', CharTest.digit), ('s', .blank), ('w', .word)].lookup c.toLower).map (· c.isLower)

def codeOfName : Reader Nat := do
  expect '{'
  return (← Text.charNamed? (String.ofList (← takeUntil '}'))).toNat

def announcedCode? (c : Char) : Option (Reader Nat) :=
  match c with
  | 'x' => some (codeOfDigits 2)
  | 'u' => some (codeOfDigits 4)
  | 'U' => some (codeOfDigits 8)
  | 'N' => some codeOfName
  | _ => none

def letterEscape? (c : Char) : Option (Reader CharTest) :=
  match classTest? c with
  | some t => some (pure t)
  | none => (((controlCode? c).map pure).or (announcedCode? c)).map fun code => CharTest.code <$> code

def setEscape (c : Char) : Reader CharTest := do
  if let some read := letterEscape? c then return ← read
  if isOctalDigit c then
    let n := digitsValue 8 (c :: (← takeChars 2 isOctalDigit))
    if n > 0o377 then failure
    return .code n
  if Text.isAsciiDigit c || Text.isAsciiLetter c then failure
  return .code c.toNat

variable (o : Options) (c : Char)

def single (t : CharTest) : Pattern := .one { tests := [t], caseless := o.caseless, ascii := o.ascii }

def checkBehind (id : Nat) : Reader Unit := do
  let r ← get
  if let some from_ := r.behindFrom then if (r.closed.lookup id).isNone || id > from_ then failure

def sameAs (id : Nat) : Reader Pattern := do
  let w ← (← get).closed.lookup id
  checkBehind id
  return .same id w o.caseless o.ascii

def numberEscape : Reader Pattern := do
  let second ← takeChars 1 Text.isAsciiDigit
  match second with
  | [d] =>
    if isOctalDigit c && isOctalDigit d then
      let third ← takeChars 1 isOctalDigit
      if third.length == 1 then
        let n := digitsValue 8 (c :: d :: third)
        if n > 0o377 then failure
        return single o (.code n)
    sameAs o (digitsValue 10 [c, d])
  | _ => sameAs o (digitsValue 10 [c])

def itemEscape : Reader Pattern := do
  match c with
  | 'A' => return .place .textStart
  | 'Z' => return .place .textEnd
  | 'b' => return .place (.wordEdge o.ascii)
  | 'B' => return .place (.noWordEdge o.ascii)
  | _ =>
  if let some read := letterEscape? c then return single o (← read)
  if c == '0' then return single o (.code (digitsValue 8 (c :: (← takeChars 2 isOctalDigit))))
  if Text.isAsciiDigit c then numberEscape o c
  else if Text.isAsciiLetter c then failure
  else return single o (.code c.toNat)

/-! ## 4. Sets -/

def setChar (m : Mark) : Reader CharTest :=
  match m with
  | .escaped c => setEscape c
  | .plain c => pure (.code c.toNat)

def readSet (acc : List CharTest) : Nat → Reader (List CharTest)
  | 0 => failure
  | fuel + 1 => do
    let m ← next
    if m == .plain ']' && !acc.isEmpty then return acc.reverse
    let first ← setChar m
    if ← took '-' then
      let m ← next
      if m == .plain ']' then return (.code '-'.toNat :: first :: acc).reverse
      match first, ← setChar m with
      | .code a, .code b => if b < a then failure else readSet (.span a b :: acc) fuel
      | _, _ => failure
    else readSet (first :: acc) fuel

/-! ## 5. Repetition -/

def braceRounds? : Reader (Option (Nat × Option Nat)) := do
  let start ← get
  if (← peek) == some (.plain '}') then return none
  let all := start.rest.length
  let lo ← takeChars all Text.isAsciiDigit
  let hi ← if ← took ',' then takeChars all Text.isAsciiDigit else pure lo
  if ← took '}' then
    let least := if lo.isEmpty then 0 else digitsValue 10 lo
    if hi.isEmpty then return some (least, none)
    let most := digitsValue 10 hi
    if most < least then failure
    return some (least, some most)
  else
    set start
    return none

def greed : Reader Greed := do
  if ← took '?' then return .least
  if ← took '+' then return .all
  return .most

def repeatLast (least : Nat) (most : Option Nat) (acc : List Pattern) : Reader (List Pattern) := do
  match acc with
  | [] | .place _ :: _ | .again _ _ _ _ :: _ => failure
  | p :: ps => return .again (← greed) least most p :: ps

/-! ## 6. Options inside a pattern -/

def isOptionLetter : Bool := c ∈ ['i', 'L', 'm', 's', 'x', 'a', 't', 'u']

def optionLetters (stops : List Char) (acc : List Char) : Nat → Reader (List Char × Char)
  | 0 => failure
  | fuel + 1 => do
    match ← next with
    | .plain c =>
      if c ∈ stops then return (acc.reverse, c)
      else if isOptionLetter c then optionLetters stops (c :: acc) fuel
      else failure
    | .escaped _ => failure

def Options.turnOn (letters : List Char) : Options :=
  { caseless := o.caseless || 'i' ∈ letters, byLine := o.byLine || 'm' ∈ letters
    dotAll := o.dotAll || 's' ∈ letters, spaced := o.spaced || 'x' ∈ letters
    ascii := (o.ascii || 'a' ∈ letters) && 'u' ∉ letters }

def Options.turnOff (letters : List Char) : Options :=
  { o with
    caseless := o.caseless && 'i' ∉ letters, byLine := o.byLine && 'm' ∉ letters
    dotAll := o.dotAll && 's' ∉ letters, spaced := o.spaced && 'x' ∉ letters }

/-- Options that are written in a group: for the whole pattern, or for the group with those that hold
    in it. -/
def readOptions (first : Char) (fuel : Nat) : Reader (Options × Bool) := do
  let (on, stop) ←
    if first == '-' then pure ([], '-')
    else if isOptionLetter first then optionLetters [')', '-', ':'] [first] fuel
    else failure
  if 'L' ∈ on || ('a' ∈ on && 'u' ∈ on) then failure
  if stop == ')' then return (o.turnOn on, true)
  if 't' ∈ on then failure
  let off ← if stop == '-' then do
      let (off, _) ← optionLetters [':'] [] fuel
      if off.isEmpty || off.any (· ∈ ['a', 'u', 'L', 't']) then failure
      pure off
    else pure []
  if off.any (· ∈ on) then failure
  return ((o.turnOn on).turnOff off, false)

/-! ## 7. Items -/

def openGroup (name : Option (List Char)) : Reader Nat := do
  let r ← get
  let id := r.groups + 1
  let names ← match name with
    | none => pure r.names
    | some n =>
      let n := String.ofList n
      if (r.names.lookup n).isSome then failure
      pure ((n, id) :: r.names)
  set { r with groups := id, names := names }
  return id

def groupName (stop : Char) : Reader (List Char) := do
  let n ← takeUntil stop
  if Text.isIdentifier n then return n else failure

def groupNamed (name : List Char) : Reader Nat := do return ← (← get).names.lookup (String.ofList name)

def askedGroup : Reader Nat := do
  let n ← takeUntil ')'
  let id ← if Text.isIdentifier n then groupNamed n else match Number.readInt? 10 n with
      | some (.ofNat (k + 1)) => pure (k + 1)
      | _ => failure
  modify fun r => { r with asked := max r.asked id }
  checkBehind id
  return id

def skipLine : Reader Unit := do modify fun r => { r with rest := (r.rest.dropWhile fun m => m != .plain '\n').drop 1 }

inductive Opening where
  | capture (name : Option (List Char))
  | plain (o : Options)
  | atomic
  | ahead (positive : Bool)
  | behind (positive : Bool)
  | given (id : Nat)
  | same (id : Nat)
  | comment
  | whole (o : Options)

def openBehind : Reader Opening := do
  match ← next with
  | .plain '=' => return .behind true
  | .plain '!' => return .behind false
  | _ => failure

def openNamed : Reader Opening := do
  if ← took '<' then return .capture (some (← groupName '>'))
  if ← took '=' then return .same (← groupNamed (← groupName ')'))
  failure

def readOpening (fuel : Nat) : Reader Opening := do
  unless ← took '?' do return .capture none
  match ← next with
  | .plain 'P' => openNamed
  | .plain ':' => return .plain o
  | .plain '#' =>
    discard (takeTo ')')
    return .comment
  | .plain '=' => return .ahead true
  | .plain '!' => return .ahead false
  | .plain '<' => openBehind
  | .plain '(' => return .given (← askedGroup)
  | .plain '>' => return .atomic
  | .plain c =>
    let (o, whole) ← readOptions o c fuel
    return if whole then .whole o else .plain o
  | .escaped _ => failure

def edgeItem : Pattern :=
  if c == '^' then .place (if o.byLine then .lineStart else .textStart)
  else .place (if o.byLine then .lineEnd else .lastEnd)

/-- The items up to one that was begun, and the options behind it; `group` and `items` read what is inside. -/
def readItem (group items : Options → Reader Pattern) (front : Bool) (acc : List Pattern) (fuel : Nat) (m : Mark) :
    Reader (Options × List Pattern) := do
  let put (p : Pattern) : Reader (Options × List Pattern) := return (o, p :: acc)
  let rounds (least : Nat) (most : Option Nat) : Reader (Options × List Pattern) := do
    return (o, ← repeatLast least most acc)
  match m with
  | .escaped c => put (← itemEscape o c)
  | .plain c =>
  if o.spaced && (c == ' ' || (9 ≤ c.toNat && c.toNat ≤ 13)) then return (o, acc)
  if o.spaced && c == '#' then
    skipLine
    return (o, acc)
  match c with
  | '[' =>
    let negated ← took '^'
    let tests ← readSet [] fuel
    put (.one { negated := negated, tests := tests, caseless := o.caseless, ascii := o.ascii })
  | '?' => rounds 0 (some 1)
  | '*' => rounds 0 none
  | '+' => rounds 1 none
  | '{' =>
    match ← braceRounds? with
    | some (least, most) => rounds least most
    | none => put (single o (.code c.toNat))
  | '.' => put (.any o.dotAll)
  | '^' | '$' => put (edgeItem o c)
  | '(' =>
    match ← readOpening o fuel with
    | .comment => return (o, acc)
    | .whole o =>
      unless front do failure
      modify fun r => { r with options := o }
      return (o, acc)
    | .same id => put (← sameAs o id)
    | .plain o' => put (← group o')
    | .atomic => put (.atomic (← group o))
    | .ahead positive => put (.ahead positive (← group o))
    | .behind positive =>
      let outer := (← get).behindFrom
      if outer.isNone then modify fun r => { r with behindFrom := some r.groups }
      let body ← group o
      if outer.isNone then modify fun r => { r with behindFrom := none }
      let (lo, hi) := body.width
      if lo != hi then failure
      put (.behind positive lo body)
    | .given id =>
      let yes ← items o
      let no ← if ← took '|' then items o else pure (.seq [])
      expect ')'
      put (.given id yes no)
    | .capture name =>
      let id ← openGroup name
      let body ← group o
      modify fun r => { r with closed := (id, body.width) :: r.closed }
      put (.group id body)
  | c => put (single o (.code c.toNat))

mutual

def readBranches (o : Options) (top : Bool) : Nat → Reader Pattern
  | 0 => failure
  | fuel + 1 => do
    let first ← readItems o top [] fuel
    let rest ← readMoreBranches o top [] fuel
    return match rest with
      | [] => first
      | ps => .branch (first :: ps)

def readMoreBranches (o : Options) (top : Bool) (acc : List Pattern) : Nat → Reader (List Pattern)
  | 0 => failure
  | fuel + 1 => do
    if ← took '|' then
      let r ← get
      let o := if top then r.options else o
      let p ← readItems o false [] fuel
      readMoreBranches o top (p :: acc) fuel
    else return acc.reverse

def readItems (o : Options) (first : Bool) (acc : List Pattern) : Nat → Reader Pattern
  | 0 => failure
  | fuel + 1 => do
    let some m ← peek | return .seq acc.reverse
    if m == .plain '|' || m == .plain ')' then return .seq acc.reverse
    let _ ← next
    let (o, acc) ← readItem o (readGroup · fuel) (readItems · false [] fuel) (first && acc.isEmpty) acc fuel m
    readItems o first acc fuel

def readGroup (o : Options) : Nat → Reader Pattern
  | 0 => failure
  | fuel + 1 => do
    let p ← readBranches o false fuel
    expect ')'
    return p

end

def ofText? (text : String) : Option Pattern := do
  let marks ← marksOf text.toList
  let (p, r) ← (readBranches {} true (4 * marks.length + 4)).run { rest := marks }
  if r.rest.isEmpty && r.asked ≤ r.groups then some p else none

end AliasTools.Pattern
