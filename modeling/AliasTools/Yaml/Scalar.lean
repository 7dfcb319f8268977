import AliasTools.Number

/-!
# What a plain scalar means

A scalar without quotes and without a tag is told by its text: nothing, a truth value, a number, a
date, or a text.
-/

namespace AliasTools.Yaml

open Text Number

def dropSign : List Char → List Char
  | c :: cs => if c == '-' || c == '+' then cs else c :: cs
  | [] => []

def isDigitOrMark (c : Char) : Bool := isAsciiDigit c || c == '_'

def dropDigits? : List Char → Option (List Char)
  | c :: cs => if isAsciiDigit c then some (cs.dropWhile isDigitOrMark) else none
  | [] => none

def isSixtieth : List Char → Bool
  | [a] => isAsciiDigit a
  | [a, b] => '0' ≤ a && a ≤ '5' && isAsciiDigit b
  | _ => false

/-- Groups that count to sixty, each after a colon: the rest behind them, and whether there was
    one. -/
def dropSixtieths (some? : Bool) : Nat → List Char → Option (Bool × List Char)
  | 0, cs => some (some?, cs)
  | k + 1, cs =>
    match cs with
    | ':' :: rest =>
      if isSixtieth (rest.takeWhile isAsciiDigit) then dropSixtieths true k (rest.dropWhile isAsciiDigit)
      else none
    | _ => some (some?, cs)

def isExponentOrEmpty : List Char → Bool
  | [] => true
  | e :: s :: ds => (e == 'e' || e == 'E') && (s == '-' || s == '+') && !ds.isEmpty && ds.all isAsciiDigit
  | _ => false

def isFloatText (s : List Char) : Bool :=
  let body := dropSign s
  let infinite := [".inf", ".Inf", ".INF"].contains (String.ofList body)
  let undefined := [".nan", ".NaN", ".NAN"].contains (String.ofList s)
  let bare := match s with
    | '.' :: rest => (dropDigits? rest).any isExponentOrEmpty
    | _ => false
  let whole := match dropDigits? body with
    | some ('.' :: rest) => isExponentOrEmpty (rest.dropWhile isDigitOrMark)
    | some rest =>
      match dropSixtieths false rest.length rest with
      | some (true, '.' :: tail) => tail.all isDigitOrMark
      | _ => false
    | none => false
  infinite || undefined || bare || whole

def isIntText (s : List Char) : Bool :=
  let marked (p : Char → Bool) (ds : List Char) : Bool := !ds.isEmpty && ds.all fun c => p c || c == '_'
  match dropSign s with
  | ['0'] => true
  | '0' :: 'b' :: ds => marked (fun c => c == '0' || c == '1') ds
  | '0' :: 'x' :: ds => marked isHexDigit ds
  | '0' :: ds => marked (fun c => '0' ≤ c && c ≤ '7') ds
  | body =>
    (dropDigits? body).any fun rest => (dropSixtieths false rest.length rest).any (·.2.isEmpty)

structure DateParts where
  year : Nat
  month : Nat
  day : Nat
  time : Option (Nat × Nat × Nat) := none
  fraction : List Char := []
  zone : Option Int := none

def takeTwo? (cs : List Char) : Option (Nat × Nat × List Char) :=
  let ds := cs.takeWhile isAsciiDigit
  if ds.length == 1 || ds.length == 2 then some (ds.length, digitsNat ds, cs.drop ds.length)
  else none

def behind? (c : Char) (cs : List Char) : Option (List Char) := if cs.head? == some c then some cs.tail else none

def takePair? : List Char → Option (Nat × List Char)
  | a :: b :: cs => if isAsciiDigit a && isAsciiDigit b then some (digitsNat [a, b], cs) else none
  | _ => none

def readZone? (cs : List Char) : Option (Option Int) :=
  match cs.dropWhile fun c => c == ' ' || c == '\t' with
  | [] => if cs.isEmpty then some none else none
  | ['Z'] => some (some 0)
  | s :: rest =>
    if s == '-' || s == '+' then do
      let (_, hours, rest) ← takeTwo? rest
      let (minutes, rest) ← if rest.isEmpty then some (0, []) else do takePair? (← behind? ':' rest)
      if !rest.isEmpty then none
      let ahead : Int := hours * 60 + minutes
      return some (if s == '-' then -ahead else ahead)
    else none

def readTime? (d : DateParts) (cs : List Char) : Option DateParts := do
  let rest ← match cs with
    | c :: tail =>
      if c == 'T' || c == 't' then some tail
      else if c == ' ' || c == '\t' then
        some (tail.dropWhile fun c => c == ' ' || c == '\t')
      else none
    | [] => none
  let (_, hour, rest) ← takeTwo? rest
  let (minute, rest) ← takePair? (← behind? ':' rest)
  let (second, rest) ← takePair? (← behind? ':' rest)
  let (fraction, rest) := match rest with
    | '.' :: tail => (tail.takeWhile isAsciiDigit, tail.dropWhile isAsciiDigit)
    | _ => ([], rest)
  let zone ← readZone? rest
  return { d with time := some (hour, minute, second), fraction := fraction, zone := zone }

/-- A date with or without a time; `strict` asks for two digits in each part when there is no time. -/
def readDate? (strict : Bool) (s : List Char) : Option DateParts := do
  let year := s.take 4
  if !(year.length == 4 && year.all isAsciiDigit) then none
  let (m, month, rest) ← takeTwo? (← behind? '-' (s.drop 4))
  let (d, day, rest) ← takeTwo? (← behind? '-' rest)
  let date : DateParts := { year := digitsNat year, month := month, day := day }
  if rest.isEmpty then if strict && !(m == 2 && d == 2) then none else some date
  else readTime? date rest

def usualTag (name : String) : String := "tag:yaml.org,2002:" ++ name

def boolWords : List (String × Bool) :=
  [("yes", true), ("no", false), ("true", true), ("false", false), ("on", true), ("off", false)].flatMap
    fun (s, b) => [(s, b), (s.capitalize, b), (s.toUpper, b)]

def plainSort (text : String) : String :=
  let cs := text.toList
  if (boolWords.lookup text).isSome then "bool"
  else if isFloatText cs then "float"
  else if isIntText cs then "int"
  else if text == "<<" then "merge"
  else if ["~", "null", "Null", "NULL", ""].contains text then "null"
  else if (readDate? true cs).isSome then "timestamp"
  else if text == "=" then "value"
  else "str"

end AliasTools.Yaml
