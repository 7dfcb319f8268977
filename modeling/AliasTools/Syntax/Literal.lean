import AliasTools.Number
import AliasTools.Syntax.Tree
import AliasTools.Text.CharName

/-!
# Numbers and quoted texts as they are written

The value of a number or of a quoted text, from the characters of its word.
-/

namespace AliasTools.Syntax

open Text

def natOfDigits (base : Nat) (cs : List Char) : Nat := cs.foldl (fun n c => base * n + hexDigit c) 0

def readFloat (cs : List Char) : Float := (Number.readFloat? cs).getD 0.0

def numberLiteral (text : List Char) : Literal :=
  let cs := text.filter (· ≠ '_')
  match cs with
  | '0' :: 'x' :: ds | '0' :: 'X' :: ds => .int (natOfDigits 16 ds)
  | '0' :: 'o' :: ds | '0' :: 'O' :: ds => .int (natOfDigits 8 ds)
  | '0' :: 'b' :: ds | '0' :: 'B' :: ds => .int (natOfDigits 2 ds)
  | _ =>
    match cs.getLast? with
    | some 'j' | some 'J' => .imaginary (readFloat cs.dropLast)
    | _ => if cs.all isAsciiDigit then .int (natOfDigits 10 cs) else .float (readFloat cs)

structure Quoted where
  bytes : Bool
  marked : Bool
  raw : Bool
  formatted : Bool
  lead : Nat
  body : List Char

def Quoted.ofWord (text : List Char) : Quoted :=
  let letters := text.takeWhile fun c => c ≠ '"' ∧ c ≠ '\''
  let rest := text.drop letters.length
  let size := match rest with
    | a :: b :: c :: _ => if a == b && b == c && rest.length ≥ 6 then 3 else 1
    | _ => 1
  let has (a b : Char) : Bool := letters.any fun c => c == a || c == b
  { bytes := has 'b' 'B', marked := has 'u' 'U', raw := has 'r' 'R', formatted := has 'f' 'F'
    lead := letters.length + size
    body := (rest.drop size).take (rest.length - 2 * size) }

def escapeWidth (c : Char) : Nat := if isAscii c then 1 else 10

def escapeFault (what : String) (first last : Nat) : String :=
  if first == last then s!"(unicode error) 'unicodeescape' codec can't decode byte 0x5c in position {first}: {what}"
  else s!"(unicode error) 'unicodeescape' codec can't decode bytes in position {first}-{last}: {what}"

def charOfCode (n : Nat) : Char := if n.isValidChar then Char.ofNat n else '�'

def hexEscape (count : Nat) (what : String) (at0 : Nat) (cs : List Char) : Except String (Char × List Char) :=
  let ds := (cs.take count).takeWhile isHexDigit
  if ds.length < count then .error (escapeFault what at0 (at0 + 1 + ds.length))
  else
    let n := hexValue ds
    if n > 0x10ffff then .error (escapeFault "illegal Unicode character" at0 (at0 + 1 + count))
    else .ok (charOfCode n, cs.drop count)

def octalDigits (cs : List Char) : List Char := (cs.take 3).takeWhile fun c => '0' ≤ c ∧ c ≤ '7'

/-- What a character stands for behind a backslash. -/
def escaped? (c : Char) : Option Char :=
  [('\\', '\\'), ('\'', '\''), ('"', '"'), ('a', '\x07'), ('b', '\x08'), ('f', '\x0c'), ('n', '\n'), ('r', '\r'),
    ('t', '\t'), ('v', '\x0b')].lookup c

/-- The characters that a body with escapes stands for, in a text or in `bytes`; `at0` is the position in the
    numbering of faults and `k` bounds the characters. -/
def unescape (bytes : Bool) (at0 : Nat) : Nat → List Char → Except String (List Char)
  | 0, _ => .ok []
  | _, [] => .ok []
  | k + 1, '\\' :: rest =>
    let keep (c : Char) (width : Nat) (rest : List Char) : Except String (List Char) := do
      pure (c :: (← unescape bytes (at0 + width) k rest))
    let hex (count : Nat) (form : String) (rest : List Char) : Except String (List Char) := do
      let (c, rest) ← hexEscape count s!"truncated \\{form} escape" at0 rest
      keep c (count + 2) rest
    match rest, bytes with
    | [], _ => .ok ['\\']
    | '\n' :: r, _ => unescape bytes (at0 + 2) k r
    | 'x' :: r, true =>
      let ds := (r.take 2).takeWhile isHexDigit
      if ds.length < 2 then .error s!"(value error) invalid \\x escape at position {at0}"
      else keep (charOfCode (hexValue ds)) 4 (r.drop 2)
    | 'x' :: r, false => hex 2 "xXX" r
    | 'u' :: r, false => hex 4 "uXXXX" r
    | 'U' :: r, false => hex 8 "UXXXXXXXX" r
    | 'N' :: r, false =>
      match r with
      | '\x7b' :: r' =>
        let name := r'.takeWhile (· ≠ '\x7d')
        if r'.length == name.length then
          .error (escapeFault "malformed \\N character escape" at0 (at0 + 2 + name.length))
        else if name.isEmpty then
          .error (escapeFault "malformed \\N character escape" at0 (at0 + 2))
        else
          match charNamed? (String.ofList name) with
          | some c => keep c (4 + name.length) (r'.drop (name.length + 1))
          | none => .error (escapeFault "unknown Unicode character name" at0 (at0 + 3 + name.length))
      | _ => .error (escapeFault "malformed \\N character escape" at0 (at0 + 1))
    | c :: r, _ =>
      if let some e := escaped? c then keep e 2 r
      else if '0' ≤ c && c ≤ '7' then
        let ds := octalDigits (c :: r)
        let n := natOfDigits 8 ds
        keep (charOfCode (if bytes then n % 256 else n)) (1 + ds.length) ((c :: r).drop ds.length)
      else do
        let width := if isAscii c then 2 else 6 + escapeWidth c
        pure ('\\' :: c :: (← unescape bytes (at0 + width) k r))
  | k + 1, c :: rest => do pure (c :: (← unescape bytes (at0 + escapeWidth c) k rest))

def charsOfBody (raw bytes : Bool) (body : List Char) : Except String (List Char) :=
  if raw || !body.contains '\\' then .ok body else unescape bytes 0 (body.length + 1) body

end AliasTools.Syntax
