import AliasTools.Number

/-!
# Reading settings

A document of settings is a table of names.  It is read line by line: a name with its value, the heading of
a table, or the heading of a new table in an array.
-/

inductive AliasTools.Toml where
  | text (s : String)
  | int (n : Int)
  | float (x : Float)
  | bool (b : Bool)
  | moment (written : String)
  | array (items : List Toml)
  | table (entries : List (String × Toml))

namespace AliasTools.Toml

open Text Number

abbrev Table := List (String × Toml)

/-- An array or a table, which nothing is added to once it is written. -/
def isCollection : Toml → Bool
  | .array _ | .table _ => true
  | _ => false

def replaceAt (name : String) (v : Toml) : Table → Table
  | [] => []
  | (n, w) :: rest => if n == name then (n, v) :: rest else (n, w) :: replaceAt name v rest

/-- Change the table at the end of a path; what is missing on the way is made. -/
def nest? (throughArrays : Bool) (f : Table → Option Table) : List String → Table → Option Table
  | [], t => f t
  | k :: ks, t =>
    match t.lookup k with
    | none => (nest? throughArrays f ks []).map fun sub => t ++ [(k, .table sub)]
    | some (.table sub) => (nest? throughArrays f ks sub).map fun sub => replaceAt k (.table sub) t
    | some (.array items) =>
      if throughArrays then
        match items.getLast? with
        | some (.table sub) =>
          (nest? throughArrays f ks sub).map fun sub =>
            replaceAt k (.array (items.dropLast ++ [.table sub])) t
        | _ => none
      else none
    | some _ => none

def appendIn? (name : String) (t : Table) : Option Table :=
  match t.lookup name with
  | none => some (t ++ [(name, .array [.table []])])
  | some (.array items) => some (replaceAt name (.array (items ++ [.table []])) t)
  | some _ => none

/-- Another table at the end of an array of tables. -/
def append? (path : List String) (t : Table) : Option Table :=
  match path.getLast? with
  | some name => nest? true (appendIn? name) path.dropLast t
  | none => none

/-- A name is given one value. -/
def insert? (name : String) (v : Toml) (t : Table) : Option Table :=
  if (t.lookup name).isSome then none else some (t ++ [(name, v)])

/-! ## 1. Reading characters -/

/-- A reader has the characters that are left, and can fail. -/
abbrev Reader := StateT (List Char) Option

def peek : Reader (Option Char) := do return (← get).head?

def isNext (s : String) : Reader Bool := do return s.toList.isPrefixOf (← get)

def skip (n : Nat) : Reader Unit := modify (·.drop n)

def took (s : String) : Reader Bool := do
  if ← isNext s then
    skip s.length
    return true
  else return false

def expect (s : String) : Reader Unit := do unless ← took s do failure

def takeChars (p : Char → Bool) : Reader (List Char) := do
  let cs ← get
  set (cs.dropWhile p)
  return cs.takeWhile p

def isGap (c : Char) : Bool := c == ' ' || c == '\t'

def skipGaps : Reader Unit := discard (takeChars isGap)

def isControl (c : Char) : Bool := (c.toNat < 32 && c != '\t') || c.toNat == 127

def skipComment : Reader Unit := do
  if (← peek) == some '#' then
    let said ← takeChars (· != '\n')
    if said.any isControl then failure

def skipLines : Nat → Reader Unit
  | 0 => pure ()
  | fuel + 1 => do
    discard (takeChars fun c => isGap c || c == '\n')
    if (← peek) == some '#' then
      skipComment
      skipLines fuel

/-! ## 2. Texts -/

/-- A character by its number, in so many hexadecimal digits. -/
def numbered (count : Nat) : Reader Char := do
  let cs := (← get).take count
  if cs.length != count || !cs.all isHexDigit then failure
  skip count
  let n := ((readInt? 16 cs).getD 0).toNat
  if n.isValidChar then return Char.ofNat n else failure

/-- What an escape stands for; at the end of a line that is nothing. -/
def escape (multiline : Bool) : Reader (List Char) := do
  let some c ← peek | failure
  skip 1
  match c with
  | 'u' => return [← numbered 4]
  | 'U' => return [← numbered 8]
  | _ =>
    if let some e := "btnfr\"\\".toList.zip "\x08\t\n\x0c\r\"\\".toList |>.lookup c then return [e]
    if !multiline || !(isGap c || c == '\n') then failure
    if c != '\n' then
      skipGaps
      match ← peek with
      | none => return []
      | some '\n' => skip 1
      | some _ => failure
    discard (takeChars fun c => isGap c || c == '\n')
    return []

def quotedText (multiline : Bool) (acc : List Char) : Nat → Reader (List Char)
  | 0 => failure
  | fuel + 1 => do
    if ← took (if multiline then "\"\"\"" else "\"") then return acc.reverse
    let some c ← peek | failure
    skip 1
    if c == '\\' then quotedText multiline ((← escape multiline).reverse ++ acc) fuel
    else if isControl c && !(multiline && c == '\n') then failure
    else quotedText multiline (c :: acc) fuel

def upToApostrophes (acc : List Char) : List Char → Option (List Char × List Char)
  | '\'' :: '\'' :: '\'' :: rest => some (acc.reverse, rest)
  | c :: rest => upToApostrophes (c :: acc) rest
  | [] => none

def plainText : Reader (List Char) := do
  expect "'"
  let cs ← takeChars (· != '\'')
  if cs.any isControl then failure
  expect "'"
  return cs

def lineText : Reader (List Char) := do
  expect "\""
  quotedText false [] ((← get).length + 1)

def closingMarks (mark : Char) : Reader (List Char) := do
  let more := ((← get).takeWhile (· == mark)).take 2
  skip more.length
  return more

/-- A text over several lines may end in two more of its marks. -/
def longText (mark : Char) : Reader (List Char) := do
  skip 3
  discard (took "\n")
  let cs ← if mark == '"' then quotedText true [] ((← get).length + 1)
    else match upToApostrophes [] (← get) with
      | some (cs, rest) => do
        if cs.any fun c => isControl c && c != '\n' then failure
        set rest
        pure cs
      | none => failure
  return cs ++ (← closingMarks mark)

/-! ## 3. Keys -/

def isKeyChar (c : Char) : Bool := isAsciiLetter c || isAsciiDigit c || c == '-' || c == '_'

def keyPart : Reader String := do
  match ← peek with
  | some '\'' => return String.ofList (← plainText)
  | some '"' => return String.ofList (← lineText)
  | some c => if isKeyChar c then return String.ofList (← takeChars isKeyChar) else failure
  | none => failure

def keyRest (acc : List String) : Nat → Reader (List String)
  | 0 => failure
  | fuel + 1 => do
    skipGaps
    if ← took "." then
      skipGaps
      keyRest ((← keyPart) :: acc) fuel
    else return acc.reverse

/-- A dotted name, in its parts. -/
def key : Reader (List String) := do
  let first ← keyPart
  keyRest [first] ((← get).length + 1)

/-! ## 4. Numbers and moments -/

/-- Digits, with single underscores between them. -/
def digitRun (first rest : Char → Bool) : List Char → Option (List Char × List Char)
  | c :: cs => if first c then some (go [c] cs) else none
  | [] => none
where go (acc : List Char) : List Char → List Char × List Char
    | '_' :: c :: cs => if rest c then go (c :: '_' :: acc) cs else (acc.reverse, '_' :: c :: cs)
    | c :: cs => if rest c then go (c :: acc) cs else (acc.reverse, c :: cs)
    | [] => (acc.reverse, [])

variable (cs : List Char)

def signed : List Char × List Char :=
  match cs with
  | '+' :: r => (['+'], r)
  | '-' :: r => (['-'], r)
  | r => ([], r)

def fraction : List Char × List Char :=
  match cs with
  | '.' :: rest =>
    match digitRun isAsciiDigit isAsciiDigit rest with
    | some (ds, rest) => ('.' :: ds, rest)
    | none => ([], cs)
  | _ => ([], cs)

def exponent : List Char × List Char :=
  match cs with
  | c :: rest =>
    let (sign, rest) := signed rest
    match digitRun isAsciiDigit isAsciiDigit rest with
    | some (ds, rest) => if c == 'e' || c == 'E' then (c :: sign ++ ds, rest) else ([], cs)
    | none => ([], cs)
  | [] => ([], cs)

def basedNumber? : Option (Toml × List Char) := do
  let (base, rest) ← match cs with
    | '0' :: 'x' :: r => some (16, r)
    | '0' :: 'b' :: r => some (2, r)
    | '0' :: 'o' :: r => some (8, r)
    | _ => none
  let isDigitOf (c : Char) : Bool := if base == 16 then isHexDigit c else isAsciiDigit c && c.toNat - 48 < base
  let (ds, rest) ← digitRun isDigitOf isDigitOf rest
  return (.int ((readInt? base ds).getD 0), rest)

/-- A number with a fraction or an exponent is a float. -/
def decimalNumber? : Option (Toml × List Char) := do
  let (sign, rest) := signed cs
  let (whole, rest) ← match rest with
    | '0' :: r => some (['0'], r)
    | r => digitRun isAsciiDigit isAsciiDigit r
  let (part, rest) := fraction rest
  let (power, rest) := exponent rest
  let written := sign ++ whole ++ part ++ power
  if part.isEmpty && power.isEmpty then some (.int ((readInt? 10 written).getD 0), rest)
  else some (.float ((readFloat? written).getD 0.0), rest)

def numberWord? : Option (Toml × List Char) :=
  ["inf", "nan", "+inf", "-inf", "+nan", "-nan"].findSome? fun w =>
    if w.toList.isPrefixOf cs then some (.float ((readFloat? w.toList).getD 0.0), cs.drop w.length)
    else none

/-- A number of so many digits, between two bounds. -/
def fixedNumber? (count lo hi : Nat) (cs : List Char) : Option (Nat × List Char) :=
  let ds := cs.take count
  if ds.length == count && ds.all isAsciiDigit then
    let n := ((readInt? 10 ds).getD 0).toNat
    if lo ≤ n && n ≤ hi then some (n, cs.drop count) else none
  else none

def after? (c : Char) : List Char → Option (List Char)
  | d :: rest => if d == c then some rest else none
  | [] => none

def timeEnd? : Option (List Char) := do
  let (_, r) ← fixedNumber? 2 0 23 cs
  let (_, r) ← fixedNumber? 2 0 59 (← after? ':' r)
  let (_, r) ← fixedNumber? 2 0 59 (← after? ':' r)
  match r with
  | '.' :: d :: rest => return if isAsciiDigit d then rest.dropWhile isAsciiDigit else r
  | _ => return r

def zoneEnd : List Char :=
  match cs with
  | 'Z' :: r | 'z' :: r => r
  | c :: rest =>
    if c == '+' || c == '-' then
      (do
        let (_, r) ← fixedNumber? 2 0 23 rest
        let (_, r) ← fixedNumber? 2 0 59 (← after? ':' r)
        return r).getD cs
    else cs
  | [] => cs

/-- What stands behind a date and its time, and whether there is such a date. -/
def dateEnd? : Option (Bool × List Char) := do
  let (y, r) ← fixedNumber? 4 0 9999 cs
  let (m, r) ← fixedNumber? 2 1 12 (← after? '-' r)
  let (d, r) ← fixedNumber? 2 1 31 (← after? '-' r)
  let later := if "Tt ".toList.contains (r.headD '-') then (timeEnd? (r.drop 1)).map zoneEnd else none
  return (1 ≤ y && d ≤ monthDays y m, later.getD r)

def plainValue : Reader Toml := do
  let cs ← get
  let moment (rest : List Char) : Reader Toml := do
    set rest
    return .moment (String.ofList (cs.take (cs.length - rest.length)))
  match dateEnd? cs with
  | some (real, rest) => if real then moment rest else failure
  | none =>
    match timeEnd? cs with
    | some rest => moment rest
    | none =>
      let (v, rest) ← (basedNumber? cs).orElse fun _ => (decimalNumber? cs).orElse fun _ => numberWord? cs
      set rest
      return v

/-! ## 5. Values -/

mutual

def value : Nat → Reader Toml
  | 0 => failure
  | fuel + 1 => do
    if ← isNext "\"\"\"" then return .text (String.ofList (← longText '"'))
    if ← isNext "'''" then return .text (String.ofList (← longText '\''))
    match ← peek with
    | some '"' => return .text (String.ofList (← lineText))
    | some '\'' => return .text (String.ofList (← plainText))
    | some '[' =>
      skip 1
      skipLines ((← get).length + 1)
      if ← took "]" then return .array []
      arrayItems [] fuel
    | some '{' =>
      skip 1
      skipGaps
      if ← took "\x7d" then return .table []
      tableItems [] [] fuel
    | _ =>
      if ← took "true" then return .bool true
      if ← took "false" then return .bool false
      plainValue

def arrayItems (acc : List Toml) : Nat → Reader Toml
  | 0 => failure
  | fuel + 1 => do
    let v ← value fuel
    let all := v :: acc
    skipLines ((← get).length + 1)
    if ← took "]" then return .array all.reverse
    expect ","
    skipLines ((← get).length + 1)
    if ← took "]" then return .array all.reverse
    arrayItems all fuel

def tableItems (acc : Table) (closed : List (List String)) : Nat → Reader Toml
  | 0 => failure
  | fuel + 1 => do
    let (k, v) ← entry fuel
    if closed.any (·.isPrefixOf k) then failure
    match nest? false (insert? (k.getLast?.getD "") v) k.dropLast acc with
    | none => failure
    | some t =>
      skipGaps
      if ← took "\x7d" then return .table t
      expect ","
      skipGaps
      tableItems t (if v.isCollection then k :: closed else closed) fuel

def entry : Nat → Reader (List String × Toml)
  | 0 => failure
  | fuel + 1 => do
    let k ← key
    expect "="
    skipGaps
    return (k, ← value fuel)

end

/-! ## 6. Documents -/

/-- The table so far, the heading that is in force, and the paths that may get no heading or nothing more. -/
structure Document where
  data : Table := []
  heading : List String := []
  closed : List (List String) := []
  headed : List (List String) := []
  pending : List (List String) := []

variable (d : Document) (path : List String)

def Document.isClosed : Bool := d.closed.any (·.isPrefixOf path)

/-- A table has one heading. -/
def Document.enter? : Option Document := do
  if d.headed.contains path || d.isClosed path then none
  let data ← nest? true some path d.data
  return { d with data := data, heading := path, headed := path :: d.headed }

/-- What was closed in the table before is open in the next one. -/
def Document.enterNew? : Option Document := do
  if d.isClosed path then none
  let data ← append? path d.data
  let apart (ps : List (List String)) : List (List String) := ps.filter fun p => !path.isPrefixOf p
  return { d with
    data := data, heading := path, headed := path :: apart d.headed, closed := apart d.closed }

/-- A collection is closed with its value. -/
def Document.add? (k : List String) (v : Toml) : Option Document := do
  let above := (List.range (k.length - 1)).map fun n => d.heading ++ k.take (n + 1)
  if above.any d.headed.contains then none
  let parent := d.heading ++ k.dropLast
  if !parent.isEmpty && d.isClosed parent then none
  let data ← nest? true (insert? (k.getLast?.getD "") v) parent d.data
  return { d with
    data := data, pending := above ++ d.pending
    closed := if v.isCollection then (d.heading ++ k) :: d.closed else d.closed }

def heading : Reader Document := do
  let d := { d with headed := d.pending ++ d.headed, pending := [] }
  let anew ← took "[["
  unless anew do expect "["
  skipGaps
  let k ← key
  expect (if anew then "]]" else "]")
  if anew then d.enterNew? k else d.enter? k

/-- A heading, or a name with its value. -/
def statement : Reader Document := do
  match ← peek with
  | none | some '\n' | some '#' => return d
  | some '[' => heading d
  | some _ =>
    let (k, v) ← entry (2 * (← get).length + 4)
    d.add? k v

def statements (d : Document) : Nat → Reader Document
  | 0 => failure
  | fuel + 1 => do
    skipGaps
    let d ← statement d
    skipGaps
    skipComment
    match ← peek with
    | none => return d
    | some '\n' =>
      skip 1
      statements d fuel
    | some _ => failure

/-- A document is read as a whole or not at all. -/
def parse (text : String) : Option Table := do
  let cs := text.toList
  let (d, _) ← (statements {} (cs.length + 1)).run cs
  return d.data

end AliasTools.Toml
