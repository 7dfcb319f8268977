import AliasTools.Number
import Std.Data.HashMap

/-!
# Data

Null, truth values, numbers, texts, arrays, and objects whose fields keep the order in which they were
written: as trees, and in the usual notation, on one line with a blank after commas and colons or over
several lines.
-/

namespace AliasTools

/-! ## 1. Trees -/

inductive Json where
  | null
  | bool (b : Bool)
  | int (n : Int)
  | float (x : Float)
  | str (s : String)
  | arr (items : List Json)
  | obj (fields : List (String × Json))

namespace Json

def fields : Json → List (String × Json)
  | .obj fs => fs
  | _ => []

def get? (j : Json) (name : String) : Option Json := j.fields.lookup name

def items : Json → List Json
  | .arr xs => xs
  | _ => []

def text? : Json → Option String
  | .str s => some s
  | _ => none

def int? : Json → Option Int
  | .int n => some n
  | _ => none

def bool? : Json → Option Bool
  | .bool b => some b
  | _ => none

def isFilled : Json → Bool
  | .null | .arr [] | .obj [] => false
  | .bool b => b
  | .int n => n != 0
  | .float x => x != 0.0
  | .str s => !s.isEmpty
  | _ => true

def lastOfEach (fs : List (String × Json)) : List (String × Json) :=
  let (out, _) := fs.foldl (fun (acc : Array (String × Json) × Std.HashMap String Nat) f =>
    match acc.2[f.1]? with
    | some i => (acc.1.setIfInBounds i f, acc.2)
    | none => (acc.1.push f, acc.2.insert f.1 acc.1.size)) (#[], {})
  out.toList

end Json

end AliasTools

namespace AliasTools.Json

open Text Number

/-! ## 2. Writing -/

def numbered (c : Char) : List Char :=
  let one (n : Nat) : List Char := '\\' :: 'u' :: hexText 4 n
  let n := c.toNat
  if n < 0x10000 then one n
  else one (0xd800 + (n - 0x10000) / 0x400) ++ one (0xdc00 + (n - 0x10000) % 0x400)

def quotedChar (c : Char) : List Char :=
  match c with
  | '"' => ['\\', '"'] | '\\' => ['\\', '\\'] | '\n' => ['\\', 'n'] | '\r' => ['\\', 'r']
  | '\t' => ['\\', 't'] | '\x08' => ['\\', 'b'] | '\x0c' => ['\\', 'f']
  | c => if 32 ≤ c.toNat && c.toNat ≤ 126 then [c] else numbered c

def quotedText (s : String) : String :=
  "\"" ++ s.foldl (fun acc c => (quotedChar c).foldl String.push acc) "" ++ "\""

def floatWord (x : Float) : String :=
  if x.isNaN then "NaN"
  else if x.isInf then (if isNegative x then "-Infinity" else "Infinity")
  else String.ofList (floatText x)

/-- How data is put into words: its plain values, what stands between two parts, and what begins a part at a depth. -/
structure Wording where
  null : String
  bool : Bool → String
  float : Float → String
  text : String → String
  between : String := ", "
  start : Nat → String := fun _ => ""

mutual

def worded (w : Wording) (depth : Nat) : Json → String
  | .null => w.null
  | .bool b => w.bool b
  | .int n => String.ofList (intText n)
  | .float x => w.float x
  | .str s => w.text s
  | .arr [] => "[]"
  | .obj [] => "\x7b\x7d"
  | .arr xs => "[" ++ String.intercalate w.between (wordedItems w (depth + 1) [] xs) ++ w.start depth ++ "]"
  | .obj fs => "\x7b" ++ String.intercalate w.between (wordedFields w (depth + 1) [] fs) ++ w.start depth ++ "\x7d"

def wordedItems (w : Wording) (depth : Nat) (acc : List String) : List Json → List String
  | [] => acc.reverse
  | x :: xs => wordedItems w depth ((w.start depth ++ worded w depth x) :: acc) xs

def wordedFields (w : Wording) (depth : Nat) (acc : List String) : List (String × Json) → List String
  | [] => acc.reverse
  | (n, x) :: fs => wordedFields w depth (s!"{w.start depth}{w.text n}: {worded w depth x}" :: acc) fs

end

def plainWording : Wording where
  null := "null"
  bool b := if b then "true" else "false"
  float := floatWord
  text := quotedText

def render : Json → String := worded plainWording 0

def renderLines (step : Nat) : Json → String :=
  worded { plainWording with
    between := ","
    start := fun depth => String.ofList ('\n' :: List.replicate (step * depth) ' ') } 0

/-- Data as a script shows it. -/
def shown : Json → String :=
  worded { null := "None", bool := fun b => if b then "True" else "False", text := quote
           float := fun x => String.ofList (floatText x) } 0

def text : Json → String
  | .str s => s
  | j => j.shown

/-! ## 3. Reading -/

inductive ReadReason where
  | value | name | colon | comma | extra | unterminated | control | escape | unicodeEscape | mark
  | longNumber (digits : Nat)

def ReadReason.message : ReadReason → String
  | .value => "Expecting value"
  | .name => "Expecting property name enclosed in double quotes"
  | .colon => "Expecting ':' delimiter"
  | .comma => "Expecting ',' delimiter"
  | .extra => "Extra data"
  | .unterminated => "Unterminated string starting at"
  | .control => "Invalid control character at"
  | .escape => "Invalid \\escape"
  | .unicodeEscape => "Invalid \\uXXXX escape"
  | .mark => "Unexpected UTF-8 BOM (decode using utf-8-sig)"
  | .longNumber digits => IntFault.message 10 "" (.tooLong digits)

structure ReadFault where
  reason : ReadReason
  pos : Nat

def ReadFault.line (f : ReadFault) (text : String) : Nat := ((text.toList.take f.pos).filter (· == '\n')).length + 1

def ReadFault.column (f : ReadFault) (text : String) : Nat :=
  ((text.toList.take f.pos).reverse.takeWhile (· != '\n')).length + 1

def ReadFault.isForm (f : ReadFault) : Bool :=
  match f.reason with
  | .longNumber _ => false
  | _ => true

def ReadFault.message (f : ReadFault) (text : String) : String :=
  if !f.isForm then f.reason.message
  else s!"{f.reason.message}: line {String.ofList (natText (f.line text))} column " ++
    s!"{String.ofList (natText (f.column text))} (char {String.ofList (natText f.pos)})"

structure Input where
  pos : Nat
  rest : List Char

abbrev Reader := StateT Input (Except ReadFault)

def fault {α : Type} (reason : ReadReason) : Reader α := do throw ⟨reason, (← get).pos⟩

def skip (n : Nat) : Reader Unit := modify fun i => ⟨i.pos + n, i.rest.drop n⟩

def took (c : Char) : Reader Bool := do
  if (← get).rest.head? == some c then
    skip 1
    return true
  return false

def expect (c : Char) (reason : ReadReason) : Reader Unit := do unless ← took c do fault reason

def isGap (c : Char) : Bool := c == ' ' || c == '\t' || c == '\n' || c == '\r'

def skipGaps : Reader Unit := do skip ((← get).rest.takeWhile isGap).length

def fourHex (cs : List Char) : Option Nat :=
  let ds := cs.take 4
  if ds.length == 4 && ds.all isHexDigit then some (hexValue ds) else none

def charOf (n : Nat) : Char := if n.isValidChar then Char.ofNat n else Char.ofNat 0xfffd

def lowHalf : Reader (Option Nat) := do
  match (← get).rest with
  | '\\' :: 'u' :: cs =>
    if (cs.drop 4).isEmpty then return none
    match fourHex cs with
    | none => throw ⟨.unicodeEscape, (← get).pos + 1⟩
    | some n => return if 0xdc00 ≤ n && n ≤ 0xdfff then some n else none
  | _ => return none

def numberedChar : Reader Char := do
  let i ← get
  match if (i.rest.drop 4).isEmpty then none else fourHex i.rest with
  | none => throw ⟨.unicodeEscape, i.pos - 1⟩
  | some n =>
    skip 4
    if !(0xd800 ≤ n && n ≤ 0xdbff) then return charOf n
    match ← lowHalf with
    | none => return charOf n
    | some m =>
      skip 6
      return charOf (0x10000 + (n - 0xd800) * 0x400 + (m - 0xdc00))

def escapedChar : Char → Option Char
  | '"' => some '"' | '\\' => some '\\' | '/' => some '/' | 'b' => some '\x08'
  | 'f' => some '\x0c' | 'n' => some '\n' | 'r' => some '\r' | 't' => some '\t'
  | _ => none

def textFrom (start : Nat) (acc : List Char) : Nat → Reader String
  | 0 => throw ⟨.unterminated, start⟩
  | k + 1 => do
    match (← get).rest with
    | [] | ['\\'] => throw ⟨.unterminated, start⟩
    | '"' :: _ =>
      skip 1
      return String.ofList acc.reverse
    | '\\' :: 'u' :: _ =>
      skip 2
      textFrom start ((← numberedChar) :: acc) k
    | '\\' :: c :: _ =>
      let some d := escapedChar c | fault .escape
      skip 2
      textFrom start (d :: acc) k
    | c :: _ =>
      if c.toNat ≤ 0x1f then fault .control
      skip 1
      textFrom start (c :: acc) k

def isDigit (c : Char) : Bool := '0' ≤ c && c ≤ '9'

def wholePart (cs : List Char) : List Char :=
  match cs with
  | '0' :: _ => ['0']
  | _ => cs.takeWhile isDigit

def fractionPart (cs : List Char) : List Char :=
  match cs with
  | '.' :: ds =>
    let digits := ds.takeWhile isDigit
    if digits.isEmpty then [] else '.' :: digits
  | _ => []

def exponentPart (cs : List Char) : List Char :=
  match cs with
  | m :: rest =>
    if m == 'e' || m == 'E' then
      let sign := (rest.take 1).filter fun c => c == '+' || c == '-'
      let digits := (rest.drop sign.length).takeWhile isDigit
      if digits.isEmpty then [] else m :: sign ++ digits
    else []
  | [] => []

def number : Reader Json := do
  let rest := (← get).rest
  let sign := (rest.take 1).filter (· == '-')
  let cs := rest.drop sign.length
  let whole := wholePart cs
  if whole.isEmpty then fault .value
  let fraction := fractionPart (cs.drop whole.length)
  let exponent := exponentPart (cs.drop (whole.length + fraction.length))
  let text := sign ++ whole ++ fraction ++ exponent
  let v ← if fraction.isEmpty && exponent.isEmpty then
      match readInt 10 text with
      | .ok n => pure (Json.int n)
      | .error (.tooLong k) => fault (.longNumber k)
      | .error .malformed => fault .value
    else pure (.float ((readFloat? text).getD 0.0))
  skip text.length
  return v

def words : List (String × Json) :=
  [("null", .null), ("true", .bool true), ("false", .bool false), ("NaN", .float undefined),
   ("Infinity", .float infinity), ("-Infinity", .float (-infinity))]

/-- Whether all ends behind a part, and not another part comes. -/
def ended (closer : Char) : Reader Bool := do
  skipGaps
  if ← took closer then return true
  expect ',' .comma
  skipGaps
  return false

variable (bound : Nat)

def itemsFrom (value : Reader Json) (acc : List Json) : Nat → Reader Json
  | 0 => fault .value
  | k + 1 => do
    let all := (← value) :: acc
    if ← ended ']' then return .arr all.reverse
    itemsFrom value all k

def fieldsFrom (value : Reader Json) (acc : List (String × Json)) : Nat → Reader Json
  | 0 => fault .name
  | k + 1 => do
    let start := (← get).pos
    expect '"' .name
    let name ← textFrom start [] bound
    skipGaps
    expect ':' .colon
    skipGaps
    let all := (name, ← value) :: acc
    if ← ended '\x7d' then return .obj (lastOfEach all.reverse)
    fieldsFrom value all k

/-- Data at the front; the number bounds how deep it nests, and `bound` how long its parts are. -/
def value : Nat → Reader Json
  | 0 => fault .value
  | n + 1 => do
    let i ← get
    if ← took '"' then return .str (← textFrom i.pos [] bound)
    if ← took '[' then
      skipGaps
      if ← took ']' then return .arr []
      return ← itemsFrom (value n) [] bound
    if ← took '\x7b' then
      skipGaps
      if ← took '\x7d' then return .obj []
      return ← fieldsFrom bound (value n) [] bound
    match words.find? fun p => p.1.toList.isPrefixOf i.rest with
    | some (w, v) =>
      skip w.length
      return v
    | none => number

def document (bound : Nat) : Reader Json := do
  skipGaps
  let v ← value bound bound
  skipGaps
  unless (← get).rest.isEmpty do fault .extra
  return v

def parse (text : String) : Except ReadFault Json :=
  let cs := text.toList
  if cs.head? == some (Char.ofNat 0xfeff) then .error ⟨.mark, 0⟩
  else Prod.fst <$> (document (cs.length + 1)).run ⟨0, cs⟩

end AliasTools.Json
