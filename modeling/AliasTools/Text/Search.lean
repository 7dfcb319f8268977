import AliasTools.Text.Casing

/-!
# Parts of a text

Cutting a text into lines, finding, counting and replacing a piece of it, and writing it between
quotes so that it can be read back.
-/

namespace AliasTools.Text

def isLineEnd (c : Char) : Bool :=
  let n := c.toNat
  (10 ≤ n && n ≤ 13) || (28 ≤ n && n ≤ 30) || n == 0x85 || n == 0x2028 || n == 0x2029

/-- The lines of a text with their ends; `acc` holds the current line backwards. -/
def linesFrom (acc : List Char) : List Char → List (List Char)
  | [] => if acc.isEmpty then [] else [acc.reverse]
  | c :: rest =>
    if isLineEnd c && !(c == '\r' && rest.head? == some '\n') then (c :: acc).reverse :: linesFrom [] rest
    else linesFrom (c :: acc) rest

def dropEnd (line : List Char) : List Char :=
  match line.reverse with
  | '\n' :: '\r' :: rest => rest.reverse
  | c :: rest => if isLineEnd c then rest.reverse else line
  | [] => []

variable (s : List Char)

def linesWithEnds : List (List Char) := linesFrom [] s

def lines : List (List Char) := (linesWithEnds s).map dropEnd

def lineTexts (s : String) : List String := (lines s.toList).map String.ofList

def indentWith (front s : List Char) : List Char :=
  ((linesWithEnds s).map fun l => if l.all isBlank then l else front ++ l).flatten

def isBlankOrTab (c : Char) : Bool := c == ' ' || c == '\t'

def commonStart : List Char → List Char → List Char
  | a :: as, b :: bs => if a == b then a :: commonStart as bs else []
  | _, _ => []

def dedent : List Char :=
  let ls := (cutAt '\n' s).map fun l => if l.all isBlankOrTab then [] else l
  let margins := (ls.filter (!·.isEmpty)).map (·.takeWhile isBlankOrTab)
  let margin := match margins with
    | [] => []
    | m :: ms => ms.foldl commonStart m
  List.intercalate ['\n'] (ls.map fun l => if l.isEmpty then l else l.drop margin.length)

def findFrom (piece : List Char) (start : Nat) : List Char → Option Nat
  | [] => if piece.isEmpty then some start else none
  | c :: rest => if piece.isPrefixOf (c :: rest) then some start else findFrom piece (start + 1) rest

/-- Where `piece` last stands in `s`, counted from `start`; `last` is the place found so far. -/
def findLastFrom (piece : List Char) (start : Nat) (last : Option Nat) : List Char → Option Nat
  | [] => if piece.isEmpty then some start else last
  | c :: rest => findLastFrom piece (start + 1) (if piece.isPrefixOf (c :: rest) then some start else last) rest

def containsPiece (piece s : List Char) : Bool := (findFrom piece 0 s).isSome

/-- Cut a text at a piece, at most `limit` times; `skip` counts the characters of a piece still to be
    passed. -/
def cutFrom (piece : List Char) (limit : Option Nat) (skip : Nat) (done : List (List Char))
    (acc : List Char) : List Char → List (List Char)
  | [] => (acc.reverse :: done).reverse
  | c :: rest =>
    match skip with
    | k + 1 => cutFrom piece limit k done acc rest
    | 0 =>
      if limit != some 0 && piece.isPrefixOf (c :: rest) then
        cutFrom piece (limit.map (· - 1)) (piece.length - 1) (acc.reverse :: done) [] rest
      else cutFrom piece limit 0 done (c :: acc) rest

def cutAtPiece (piece : List Char) (limit : Option Nat) (s : List Char) : List (List Char) :=
  cutFrom piece limit 0 [] [] s

def cutAtPieceRight (piece : List Char) (limit : Option Nat) (s : List Char) : List (List Char) :=
  ((cutAtPiece piece.reverse limit s.reverse).map List.reverse).reverse

def countPiece (piece s : List Char) : Nat :=
  if piece.isEmpty then s.length + 1 else (cutAtPiece piece none s).length - 1

def weave (new : List Char) (limit : Option Nat) (s : List Char) : List Char :=
  match limit with
  | none => (s.map fun c => new ++ [c]).flatten ++ new
  | some n => ((s.take n).map fun c => new ++ [c]).flatten ++ (if s.length < n then new else s.drop n)

def replacePiece (old new : List Char) (limit : Option Nat) (s : List Char) : List Char :=
  if old.isEmpty then weave new limit s
  else List.intercalate new (cutAtPiece old limit s)

/-- Cut a text at runs of blanks, at most `limit` times; the last part keeps its own blanks. -/
def words (limit : Option Nat) (done : List (List Char)) (s : List Char) : Nat → List (List Char)
  | 0 => done.reverse
  | k + 1 =>
    match s.dropWhile isBlank with
    | [] => done.reverse
    | t =>
      if limit == some 0 then (t :: done).reverse
      else words (limit.map (· - 1)) (t.takeWhile (!isBlank ·) :: done) (t.dropWhile (!isBlank ·)) k

def stripWhere (p : Char → Bool) (s : List Char) : List Char := ((s.dropWhile p).reverse.dropWhile p).reverse

def replaceAll (s old new : String) : String := String.ofList (replacePiece old.toList new.toList none s.toList)

def hasPiece (s piece : String) : Bool := containsPiece piece.toList s.toList

def trim (s : String) : String := String.ofList (stripBlank s.toList)

def lowerText (s : String) : String := String.ofList (lower s.toList)

def hexChar (n : Nat) : Char := if n < 10 then Char.ofNat (48 + n) else Char.ofNat (87 + n)

def hexText (width n : Nat) : List Char :=
  match width with
  | 0 => []
  | w + 1 => hexText w (n / 16) ++ [hexChar (n % 16)]

def escapeByNumber (c : Char) : List Char :=
  let n := c.toNat
  if n < 0x100 then '\\' :: 'x' :: hexText 2 n
  else if n < 0x10000 then '\\' :: 'u' :: hexText 4 n
  else '\\' :: 'U' :: hexText 8 n

def quotedChar (plain : Char → Bool) (quote c : Char) : List Char :=
  if c == quote || c == '\\' then ['\\', c]
  else if c == '\n' then ['\\', 'n']
  else if c == '\r' then ['\\', 'r']
  else if c == '\t' then ['\\', 't']
  else if plain c then [c]
  else escapeByNumber c

def quotedWhere (plain : Char → Bool) : List Char :=
  let quote := if s.contains '\'' && !s.contains '"' then '"' else '\''
  quote :: (s.map (quotedChar plain quote)).flatten ++ [quote]

def quoted : List Char := quotedWhere s isPrintable

def quote (s : String) : String := String.ofList (quoted s.toList)

end AliasTools.Text
