/-!
# Classes and case of characters

A set of characters is a sorted list of ranges of code points; a case map is a list of runs of
code points that move by the same distance, beside the few characters whose form is longer than
one character.  Both are written down as text, each number counted
from the end of the stretch before it.  In a set, `41-19 50` is the range of U+0041 and the 25 code points
behind it, and the single U+00AA, which is 80 behind the end of that range.  In a map, `61-19:-20` moves every
code point from U+0061 to U+007A down by 32, `2-2e/2:-1` every second one of a stretch down by one, and
`df=53,53` gives U+00DF a form of two characters.

The blanks and the decimal digits are all there.  The other classes cover the alphabets up to U+06FF,
further Latin and Greek letters, ideographs, kana, Hangul, punctuation, symbols and pictures; a character
of any other script is in none of them.
-/

namespace AliasTools.Text

/-! ## 1. Sets and maps -/

def hexDigit (c : Char) : Nat :=
  if '0' ≤ c ∧ c ≤ '9' then c.toNat - '0'.toNat
  else if 'a' ≤ c ∧ c ≤ 'f' then c.toNat - 'a'.toNat + 10
  else if 'A' ≤ c ∧ c ≤ 'F' then c.toNat - 'A'.toNat + 10
  else 0

def isHexDigit (c : Char) : Bool := ('0' ≤ c && c ≤ '9') || ('a' ≤ c && c ≤ 'f') || ('A' ≤ c && c ≤ 'F')

def hexValue (cs : List Char) : Nat := cs.foldl (fun n c => 16 * n + hexDigit c) 0

def cutAt (sep : Char) (s : List Char) : List (List Char) :=
  s.foldr (fun c parts =>
    if c = sep then [] :: parts
    else match parts with
      | [] => [[c]]
      | w :: ws => (c :: w) :: ws) [[]]

def tableWords (text : String) : List (List Char) :=
  (cutAt ' ' (text.toList.map fun c => if c = '\n' then ' ' else c)).filter (!·.isEmpty)

/-- Read a stretch of code points such as `41-5a`, `aa` or `100-12e/2`: its first number, its second one if
    it has one, and its step. -/
def readStretch (w : List Char) : Nat × Option Nat × Nat :=
  let (ends, step) := match cutAt '/' w with
    | [ends, step] => (ends, hexValue step)
    | _ => (w, 1)
  match cutAt '-' ends with
  | [a, b] => (hexValue a, some (hexValue b), step)
  | _ => (hexValue ends, none, step)

def unwrapped (text : String) : List Char := (cutAt '\n' text.toList).flatMap (·.dropWhile (· = ' '))

structure CharSet where
  ranges : Array (Nat × Nat)

/-- The ranges behind a place that are told by how far each begins behind the one before it, and how long
    it is. -/
def rangesFrom (place : Nat) : List (Nat × Option Nat × Nat) → List (Nat × Nat)
  | [] => []
  | (gap, length, step) :: rest =>
    let length := length.getD 0
    let first := place + gap
    (if step = 1 then [(first, first + length)]
      else (List.range' first (length / step + 1) step).map fun n => (n, n)) ++
      rangesFrom (first + length) rest

def CharSet.ofRanges (text : String) : CharSet where
  ranges := (rangesFrom 0 ((tableWords text).map readStretch)).toArray

/-- Halve the stretch `lo … hi` of ranges until one holds `c`; `k` bounds the halvings. -/
def CharSet.search (ranges : Array (Nat × Nat)) (c : Nat) : Nat → Nat → Nat → Option (Nat × Nat)
  | 0, _, _ => none
  | k + 1, lo, hi =>
    if lo ≥ hi then none
    else
      match ranges[(lo + hi) / 2]? with
      | none => none
      | some (a, b) =>
        if c < a then search ranges c k lo ((lo + hi) / 2)
        else if b < c then search ranges c k ((lo + hi) / 2 + 1) hi
        else some (a, b)

def CharSet.rangeOf? (s : CharSet) (c : Char) : Option (Nat × Nat) := CharSet.search s.ranges c.toNat 32 0 s.ranges.size

def CharSet.contains (s : CharSet) (c : Char) : Bool := (s.rangeOf? c).isSome

structure CaseRun where
  first : Nat
  last : Nat
  step : Nat
  shift : Int

structure CaseMap where
  runs : Array CaseRun
  longer : Array (Nat × List Char)

/-- The runs behind a place, which are told as ranges are, and by how far they move. -/
def runsFrom (place : Nat) : List (List Char) → List CaseRun
  | [] => []
  | w :: ws =>
    let (gap, length, step) := readStretch (w.takeWhile (· ≠ ':'))
    let last := place + gap + length.getD 0
    let shift : Int := match (w.dropWhile (· ≠ ':')).drop 1 with
      | '-' :: distance => -hexValue distance
      | distance => hexValue distance
    ⟨place + gap, last, step, shift⟩ :: runsFrom last ws

def CaseMap.but (m : CaseMap) (runs longer : String) : CaseMap where
  runs := (runsFrom 0 (tableWords runs)).toArray ++ m.runs
  longer := ((tableWords longer).map fun w =>
    (hexValue (w.takeWhile (· ≠ '=')),
      (cutAt ',' ((w.dropWhile (· ≠ '=')).drop 1)).map fun h => Char.ofNat (hexValue h))).toArray ++ m.longer

def CaseMap.back (m : CaseMap) : CaseMap :=
  { m with runs := m.runs.map fun r => ⟨(r.first + r.shift).toNat, (r.last + r.shift).toNat, r.step, -r.shift⟩ }

def CaseRun.holds (r : CaseRun) (n : Nat) : Bool := r.first ≤ n && n ≤ r.last && (n - r.first) % r.step == 0

def CaseMap.holds (m : CaseMap) (c : Char) : Bool := m.runs.any (·.holds c.toNat)

def CaseMap.apply (m : CaseMap) (c : Char) : List Char :=
  match m.longer.find? (·.1 == c.toNat) with
  | some (_, form) => form
  | none =>
    match m.runs.find? (·.holds c.toNat) with
    | some r => [Char.ofNat (c.toNat + r.shift).toNat]
    | none => [c]

/-! ## 2. Classes of characters -/

def letters : CharSet := .ofRanges
  "41-19 7-19 30 b 5 6-16 2-1e 2-1c9 5-b f-4 8 2 82-4 2-1 3-3 2 7 2-2 2 2-13 2-52 2-8a 9-a5 2-25 3
  7-28 48-1a 5-3 2e-2a 24-1 2-62 2 10-1 8-1 b-2 3 1701-115 3-5 3-25 3-5 3-7 2-4/2 2-1e 3-34 2-6 2
  4-2 2-6 4-3 3-5 5-c 6-2 2-6 75 e 11-c 66 5 3-9 2 4-4 7-4/2 2-3 2-a 3-3 6-4 5 35-1 cab 1d6-1 2b-4
  6-1 5-55 7-2 2-59 2-3 301-19bf 41-51ff c01-2ba3 235d-6 41b-19 7-19 c-58 4-5 3-5 3-5 3-2"

def decimals : CharSet := .ofRanges
  "30-9 627-9 87-9 c7-9 19d-9 77-9 77-9 77-9 77-9 77-9 77-9 77-9 77-9 77-9 61-9 77-9 47-9 117-9 47-9
  747-9 27-9 12d-9 81-9 a7-9 7-9 b7-9 57-9 87-9 7-9 89c7-9 2a7-9 27-9 c7-9 17-9 57-9 197-9 5317-9
  587-9 887-9 32d-9 81-9 3d-9 91-9 117-9 157-9 77-9 177-9 67-9 67-9 1a7-9 67-9 2f7-9 f7-9 47-9
  4cb7-9 57-9 87-9 6c75-31 941-9 1a7-9 657-9 1297-9"

def digitForms : CharSet := .ofRanges "b2-1 6 1fb7 4-5 7-9 3d7-8 c-8 c-8 5a b-8 2 277-8 2-8 2-8 1c96e-a"

def numberForms : CharSet := .ofRanges
  "bc-2 2092-32 3-4 2e0-a a-a a-a 50-9 a 281 a a 874 1a-8 f-2 3cb 7e 3a7 323 12b3 3 4 2 54 2f 8 2
  29-1 1f 9 25 63 194 42 23-4/2 1d4 2-2 7 75-3 317 216 8 581 84-1 d-2 2 3ee 4e 486 734 490 2e8 a08
  3a6 882 5 7d 8f1 25 6 2c 7e 15a15-1"

def closedLetters : CharSet := .ofRanges "37a 2ab5 d16f-1"

def openers : CharSet := .ofRanges "2118 16 32-22 3-3 e7f 1a-8 f-2"

def joiners : CharSet := .ofRanges
  "b7 249-6f 18 fc-4 10a-2c 2 2-1 2-1 2 49-a 31-14 11 66-6 3-5 3-1 2-3 1952-1 14 7c-c 5 4-b f3a-5
  6a-1 cea5 5f-1"

def signs : CharSet := .ofRanges
  "a1-8 2-1 2-6 2 2-1 2-4 18 20 1cb-3 d-d 6-6 2 2-10 76 5 4 6-1 71 8c 6-1 d1-5 2a-1 3-2 2f 2 3 3
  2d-1 12-9 c 2-2 4b-3 67 a b 14-1 18bf 2-2 c-2 e-2 e-2 e-1 12-17 9-e 3-12 2-9 12 4-a 2-e 12-20
  1d-3 2-2 1c-1 2-3 2-1 b 2-1 7-5 2-4/2 11-1 5-4 6-3 2-10 2a-2 5-296 1a-a 16-713 3-1f 2-68 201-5d
  1a4-3 4-18 10 6-1 6-2 5c-1 4 5b ce06-e b-6 1b-3 2 1b-a 7b-6 2-6 f012-2b 5-63 d-e 3-e 2-e 2-24
  b-ad 39-1c e-2b 5-8 8-1 f-5 9b-3d7 6-f 4-c 4-73 d-58 8-b 5 10-b 5-37 9-9 7-27 9-1d 3-1 4f-153
  d-d 3-4 4-4 4-6 a-1c 4-a 6-5 b-9 7-7 9-6"

def otherCapitals : CharSet := .ofRanges "130 2a2-2 20 1aaa 264 5 4-2 3-2 3 4-4 7-6/2 1-2 3-1 2 b-1 6 1cfeb-19 7-19 7-19"

def otherSmalls : CharSet := .ofRanges
  "aa b 5 25 52 7 11 36 e e f-1 f 4 32 31 13-5 1c 3 2 3-2 3 2 3 6-1 2 3-1 2-6 2-1 2 3-2 7-4 2 2-7 3-19 8-1 1f-4 61 35
  16 20 12 e-1 4-1 1a-1 4 7 164 27-1 190e-7 2 b1-6/2 2a-7 9-7 9-7 b-2 2-1 7 4-2 2-1 b-1 3-1 b-2 2-1 b-2 2-1 7a e
  11-c 6e 4-1 4 1c 5 5 3-1 9-3 d9b7-6"

def titles : CharSet := .ofRanges "1c5 3 3 27 1d96-7 9-7 9-7 d 10 30"

def blanks : CharSet := .ofRanges "9-4 f-4 65 1b 15e0 980-a 1e-1 6 30 fa1"

/-! ## 3. Case maps -/

/-- Small letters that go to a capital which goes back to them. -/
def casePairs : CaseMap := CaseMap.but ⟨#[], #[]⟩
  "61-19:-20 66-16:-20 2-6:-20 1:79 2-2e/2:-1 4-4/2:-1 3-e/2:-1 3-2c/2:-1 3-4/2:-1 2:c3 3-2/2:-1 3:-1 4:-1 6:-1 3:61
  4:-1 1:a3 4:82 3-4/2:-1 3:-1 5:-1 3:-1 4-2/2:-1 3:-1 4:-1 2:38 7:-2 3:-2 3:-2 2-e/2:-1 1:-4f 2-10/2:-1 4:-2 2:-1
  4-26/2:-1 4-10/2:-1 9:-1 3-1:2a3f 2:-1 5-8/2:-1 1:2a1f 1:2a1c 1:2a1e 1:-d2 1:-ce 2-1:-cd 2:-ca 2:-cb 1:a54f 4:-cd
  1:a54b 2:-cf 2:a528 1:a544 2:-d1 1:-d3 1:a544 1:29f7 1:a541 3:-d3 2:29fd 1:-d5 3:-d6 8:29e7 3:-da 2:a543 1:-da
  4:a52a 1:-da 1:-45 1-1:-d9 1:-47 6:-db b:a515 1:a512 d3-2/2:-1 4:-1 4-2:82 2f:-26 1-2:-25 2-10:-20 2-8:-20 1:-40
  1-1:-3f 9:-8 2-16/2:-1 3:7 1:-74 5:-1 3:-1 35-1f:-20 1-f:-50 2-20/2:-1 a-34/2:-1 3-c/2:-1 1:-f 2-5e/2:-1 32-25:-30
  187b-94/2:-1 c-5e/2:-1 1-7:8 9-5:8 b-7:8 9-7:8 9-5:8 c-6/2:8 9-7:8 9-1:4a 1-3:56 1-1:64 1-1:80 1-1:70 1-1:7e
  33-1:8 1f-1:8 f-1:8 4:7 169:-1c 22-f:-10 5:-1 34c-19:-1a 77c:-2a2b 1:-2a28 d2db-19:-20" ""

def caseTurns : CaseMap := casePairs.back

def capitalMap : CaseMap := casePairs.but
  "b5:2e7 7c:-e8 4e:-12c 46:-1 3:-1 3:-1 27:-1 153:54 7d:-1f e:-3e 1:-39 4:-2f 1:-36 1a:-56 1:-50 4:-60 1aa6:-3b
  123:-1c25"
  "df=53,53 149=2bc,4e 1f0=4a,30c 390=399,308,301 3b0=3a5,308,301 587=535,552 1e96=48,331 1e97=54,308 1e98=57,30a
  1e99=59,30a 1e9a=41,2be fb00=46,46 fb01=46,49 fb02=46,4c fb03=46,46,49 fb04=46,46,4c fb05=53,54 fb06=53,54"

def smallMap : CaseMap := caseTurns.but
  "1c5:1 3:1 3:1 27:1 202:-3c 1aaa:-1dbf ea-7:-8 9-7:-8 9-7:-8 d:-9 10:-9 30:-9 12a:-1d5d 4:-20bf 1:-2046"
  "130=69,307"

def titleMap : CaseMap := capitalMap.but "1c4:1 1:0 1:-1 1:1 1:0 1:-1 1:1 1:0 1:-1 25:1 1:0 1:-1"
  "df=53,73 587=535,582 fb00=46,66 fb01=46,69 fb02=46,6c fb03=46,66,69 fb04=46,66,6c fb05=53,74 fb06=53,74"

def modifierLetters : CharSet := .ofRanges "2b0-8 8-1 1f-4 61 35 1cf7 e 11-c"

def caseIgnored : CharSet := .ofRanges
  "27 7 c 24 2 48 5 2 5 3-1 1f8-bf 5-1 5 a-1 2 fc-6 d0 6 32-2c 2 2-1 2-1 2 2d c-5 b-a 2 24 b-14 11
  66-7 2-9 2-3 18d0 2-2 c-2 e-2 e-2 e-1 d-4 9-1 b 3 3-4 32-4 2-9 2 e 11-c 34-20 d3f 1d6 25-3 4-4 6
  5e-5 5e-2 ce09 7 c 24 2 30 2e-1 44 f418-4"

/-! ## 4. Texts -/

variable (c : Char) (s : List Char)

def isAscii : Bool := c.toNat < 128

def isBlank : Bool :=
  if isAscii c then c == ' ' || ('\t' ≤ c && c ≤ '\r') || (28 ≤ c.toNat && c.toNat ≤ 31)
  else blanks.contains c

def isAsciiLetter : Bool := ('a' ≤ c && c ≤ 'z') || ('A' ≤ c && c ≤ 'Z')

def isAsciiDigit : Bool := '0' ≤ c && c ≤ '9'

def isLetter : Bool := if isAscii c then isAsciiLetter c else letters.contains c

def isDecimal : Bool := if isAscii c then isAsciiDigit c else decimals.contains c

def isDigit : Bool := if isAscii c then isAsciiDigit c else decimals.contains c || digitForms.contains c

def isNumeric : Bool := if isAscii c then isAsciiDigit c else isDigit c || numberForms.contains c

def isAlnum : Bool := isLetter c || isNumeric c || isDigit c || isDecimal c

def isIdentifierStart : Bool :=
  if isAscii c then isAsciiLetter c || c == '_'
  else (letters.contains c && !closedLetters.contains c) || openers.contains c

def isIdentifierPart : Bool :=
  if isAscii c then isAsciiLetter c || isAsciiDigit c || c == '_'
  else isIdentifierStart c || decimals.contains c || joiners.contains c

def isPrintable : Bool := if isAscii c then 32 ≤ c.toNat && c.toNat < 127 else isIdentifierPart c || signs.contains c

def isCapital : Bool := if isAscii c then 'A' ≤ c && c ≤ 'Z' else caseTurns.holds c || otherCapitals.contains c

def isSmall : Bool := if isAscii c then 'a' ≤ c && c ≤ 'z' else casePairs.holds c || otherSmalls.contains c

def isTitle : Bool := !isAscii c && titles.contains c

def isCased : Bool := (isCapital c || isSmall c || isTitle c) && !modifierLetters.contains c

def decimalValue? : Option Nat :=
  if isAscii c then (if isAsciiDigit c then some (c.toNat - '0'.toNat) else none)
  else (decimals.rangeOf? c).map fun (a, _) => (c.toNat - a) % 10

def capitalForm : List Char := if isAscii c then [c.toUpper] else capitalMap.apply c

def smallForm : List Char := if isAscii c then [c.toLower] else smallMap.apply c

def titleForm : List Char := if isAscii c then [c.toUpper] else titleMap.apply c

def foldForm : List Char :=
  if isAscii c then [c.toLower]
  else match c with
    | 'ı' => ['ı']
    | 'ẞ' => ['s', 's']
    | _ => (capitalMap.apply c).flatMap smallMap.apply

def isIdentifier : List Char → Bool
  | [] => false
  | c :: rest => isIdentifierStart c && rest.all isIdentifierPart

def casedNext : List Char → Bool
  | [] => false
  | c :: rest => if caseIgnored.contains c then casedNext rest else isCased c

def sigmaForm (before after : List Char) : Char := if casedNext before && !casedNext after then 'ς' else 'σ'

/-- Lower the characters of a text; `before` holds those already passed, last first. -/
def lowerFrom (before : List Char) : List Char → List Char
  | [] => []
  | c :: rest => (if c == 'Σ' then [sigmaForm before rest] else smallForm c) ++ lowerFrom (c :: before) rest

def lower : List Char := lowerFrom [] s

def upper : List Char := s.flatMap capitalForm

def caseFold : List Char := s.flatMap foldForm

def capitalize : List Char → List Char
  | [] => []
  | c :: rest => titleForm c ++ lowerFrom [c] rest

def swapCaseFrom (before : List Char) : List Char → List Char
  | [] => []
  | c :: rest =>
    (if isCapital c then (if c == 'Σ' then [sigmaForm before rest] else smallForm c)
      else if isSmall c then capitalForm c else [c]) ++ swapCaseFrom (c :: before) rest

def titleFrom (before : List Char) (inWord : Bool) : List Char → List Char
  | [] => []
  | c :: rest =>
    (if inWord then (if c == 'Σ' then [sigmaForm before rest] else smallForm c)
      else titleForm c) ++
      titleFrom (c :: before) (isCapital c || isSmall c || isTitle c) rest

def allCapital : Bool := !s.any (fun c => isSmall c || isTitle c) && s.any isCapital

def allSmall : Bool := !s.any (fun c => isCapital c || isTitle c) && s.any isSmall

def titleCaseFrom (seen inWord : Bool) : List Char → Bool
  | [] => seen
  | c :: rest =>
    if isCapital c || isTitle c then !inWord && titleCaseFrom true true rest
    else if isSmall c then inWord && titleCaseFrom true true rest
    else titleCaseFrom seen false rest

def stripBlank : List Char := ((s.dropWhile isBlank).reverse.dropWhile isBlank).reverse

end AliasTools.Text
