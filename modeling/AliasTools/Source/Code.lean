import AliasTools.Command.Placeholder
import AliasTools.Syntax.Tree

/-!
# Code inside a text

The text of an alias holds pieces of code: blocks between tags, expressions in double braces, and rolls
in single braces.  Where a text stands in a document is said as editors count: lines and characters from
0, and the end just behind the last character.
-/

namespace AliasTools.Source

open Syntax

/-! ## 1. Ranges -/

structure Position where
  line : Nat
  character : Nat
deriving DecidableEq, Inhabited

structure Range where
  start : Position
  stop : Position
deriving DecidableEq, Inhabited

structure Marked where
  line : Option Int := none
  column : Option Int := none
  endLine : Option Int := none
  endColumn : Option Int := none

def firstKnown (numbers : List (Option Int)) (otherwise : Int) : Int :=
  match numbers with
  | [] => otherwise
  | some n :: rest => if n == 0 then firstKnown rest otherwise else n
  | none :: rest => firstKnown rest otherwise

def Range.atLeastOne (r : Range) : Range :=
  if r.stop.character ≤ r.start.character then { r with stop := { r.stop with character := r.start.character + 1 } }
  else r

def Marked.lines (m : Marked) : Nat × Nat :=
  ((firstKnown [m.line] 1 - 1).toNat, (firstKnown [m.endLine, m.line] 1 - 1).toNat)

def Marked.rangeFromOne (m : Marked) : Range :=
  let (first, last) := m.lines
  ⟨⟨first, (firstKnown [m.column] 1 - 1).toNat⟩, ⟨last, (firstKnown [m.endColumn, m.column] 1 - 1).toNat⟩⟩

def Marked.rangeFromZero (m : Marked) : Range :=
  let (first, last) := m.lines
  let start := (m.column.getD 0).toNat
  let stop := (m.endColumn.orElse fun _ => m.column).getD start
  ⟨⟨first, start⟩, ⟨last, max stop.toNat start⟩⟩

def Position.shift (p : Position) (lines characters : Int) : Position where
  line := (p.line + lines).toNat
  character := (p.character + if p.line == 0 then characters else 0).toNat

def Range.shift (r : Range) (lines characters : Int) : Range :=
  ⟨r.start.shift lines characters, r.stop.shift lines characters⟩

def nodeRange (sp : Span) : Range :=
  ({ line := some sp.line, column := some sp.col, endLine := some sp.endLine,
     endColumn := some sp.endCol } : Marked).rangeFromZero.atLeastOne

open Text

/-! ## 2. Pieces -/

/-- A piece of code in a text: where it begins and ends with its marks, where the code begins, and the
    code. -/
structure Piece where
  start : Nat
  stop : Nat
  codeStart : Nat
  code : List Char
deriving DecidableEq

/-- How pieces are marked: the length of an opening mark at a place, given the character before it,
    and the length of the code and of the closing mark behind it. -/
structure Marks where
  opens : Option Char → List Char → Option Nat
  closes : List Char → Option (Nat × Nat)

def Marks.pieceAt (m : Marks) (before : Option Char) (i : Nat) (s : List Char) : Option Piece :=
  match m.opens before s with
  | none => none
  | some o => (m.closes (s.drop o)).map fun (n, e) => ⟨i, i + o + n + e, i + o, (s.drop o).take n⟩

def beginsWithTag (tag : String) (s : List Char) : Bool := tag.toList.isPrefixOf ((s.take tag.length).map Char.toLower)

def findTag (tag : String) (n : Nat) : List Char → Option Nat
  | [] => none
  | c :: rest => if beginsWithTag tag (c :: rest) then some n else findTag tag (n + 1) rest

def blockMarks : Marks where
  opens _ s := if beginsWithTag "<drac2>" s then some 7 else none
  closes s := (findTag "</drac2>" 0 s).map (·, 8)

def inlineMarks : Marks where
  opens _ s := if s.take 2 == ['\x7b', '\x7b'] then some 2 else none
  closes s := (findFrom ['\x7d', '\x7d'] 0 s).map (·, 2)

def findSingleClose (before : Char) (n : Nat) : List Char → Option Nat
  | [] => none
  | c :: rest =>
    if c == '\x7d' && before != '\x7d' && rest.head? != some '\x7d' then some n
    else findSingleClose c (n + 1) rest

def rollMarks : Marks where
  opens before s :=
    match s with
    | '\x7b' :: rest => if before == some '\x7b' || rest.head? == some '\x7b' then none else some 1
    | _ => none
  closes s := (findSingleClose '\x7b' 0 s).map (·, 1)

inductive PieceKind where
  | block | inline | roll
deriving DecidableEq

def PieceKind.marks : PieceKind → Marks
  | .block => blockMarks
  | .inline => inlineMarks
  | .roll => rollMarks

def pieceAt (kinds : List PieceKind) (before : Option Char) (i : Nat) (s : List Char) : Option (PieceKind × Piece) :=
  kinds.findSome? fun k => (k.marks.pieceAt before i s).map (k, ·)

/-- The pieces of some kinds from a place on, one behind the other; `skip` counts the characters of the
    last one still to be passed. -/
def scanFrom (kinds : List PieceKind) (before : Option Char) (i skip : Nat) : List Char → List (PieceKind × Piece)
  | [] => []
  | c :: rest =>
    match skip with
    | n + 1 => scanFrom kinds (some c) (i + 1) n rest
    | 0 =>
      match pieceAt kinds before i (c :: rest) with
      | none => scanFrom kinds (some c) (i + 1) 0 rest
      | some x => x :: scanFrom kinds (some c) (i + 1) (x.2.stop - i - 1) rest

variable (kinds : List PieceKind) (text : List Char) (source : String) (isModule : Bool) (s : List Char)

def scan : List (PieceKind × Piece) := scanFrom kinds none 0 0 text

def apartFrom (place : Nat) : List (PieceKind × Piece) → List (PieceKind × Piece)
  | [] => []
  | x :: rest => if x.2.start < place then apartFrom place rest else x :: apartFrom x.2.stop rest

def foundAlone : List (PieceKind × Piece) := kinds.flatMap fun k => scan [k] text

/-- The pieces of some kinds in a text: of all that are found, those that begin inside an earlier one are
    left out. -/
def piecesOf : List (PieceKind × Piece) :=
  apartFrom 0 ((foundAlone kinds text).mergeSort fun x y => x.2.start ≤ y.2.start)

/-- A block of code as an editor sees it: the code without the empty lines at its top, and where it
    begins. -/
structure Block where
  code : String
  line : Nat
  column : Nat
  lineCount : Nat
  inline : Bool := false
deriving DecidableEq

def countBreaks : Nat := s.countP (· == '\n')

def columnAfter : Nat := (s.reverse.takeWhile (· != '\n')).length

def lineCountOf : Nat := countBreaks s + 1

def Piece.block (inline : Bool) (p : Piece) : Block :=
  let before := text.take p.codeStart
  let blank := (p.code.takeWhile (· == '\n')).length
  let code := p.code.drop blank
  { code := String.ofList code
    line := countBreaks before + blank
    column := if blank == 0 then columnAfter before else 0
    lineCount := lineCountOf code
    inline := inline }

def blocksOf : List Block :=
  let text := source.toList
  if isModule then [{ code := source, line := 0, column := 0, lineCount := lineCountOf text }]
  else (piecesOf [.block, .inline] text).map fun (k, p) => p.block text (k == .inline)

def firstBlock : String × Nat × Nat :=
  match blocksOf source isModule with
  | b :: _ => (b.code, b.line, b.column)
  | [] => (source, 0, 0)

structure View where
  source : String
  prepared : String
  blocks : List Block
  isModule : Bool

def View.of (fillArgs : Bool := true) : View :=
  let prepared := if fillArgs && !isModule then Command.fillPlaceholders source [] else source
  { source := source, prepared := prepared, blocks := blocksOf prepared isModule
    isModule := isModule }

def View.blockAt? (v : View) (line : Int) : Option Block :=
  v.blocks.find? fun b => (b.line : Int) ≤ line && line ≤ (b.line + b.lineCount : Int) - 1

def View.codeAt? (v : View) (line character : Int) : Option (String × Int × Int) :=
  if v.blocks.isEmpty then some (v.prepared, line, character)
  else (v.blockAt? line).map fun b => (b.code, line - b.line, character)

end AliasTools.Source
