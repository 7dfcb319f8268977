import AliasTools.Number

/-!
# Patterns of text

A pattern describes texts: characters, places, alternatives, repetitions, groups that are remembered
and looked at again.  It is tried at a place of the text together with what has to follow.
-/

namespace AliasTools

/-! ## 1. Patterns -/

structure Pattern.Options where
  caseless : Bool := false
  byLine : Bool := false
  dotAll : Bool := false
  spaced : Bool := false
  ascii : Bool := false
  deriving DecidableEq

inductive Pattern.CharTest where
  | code (n : Nat)
  | span (first last : Nat)
  | digit (yes : Bool)
  | blank (yes : Bool)
  | word (yes : Bool)
  deriving DecidableEq

structure Pattern.OneOf where
  negated : Bool := false
  tests : List Pattern.CharTest
  caseless : Bool := false
  ascii : Bool := false
  deriving DecidableEq

inductive Pattern.Place where
  | textStart
  | lineStart
  | lastEnd
  | lineEnd
  | textEnd
  | wordEdge (ascii : Bool)
  | noWordEdge (ascii : Bool)
  deriving DecidableEq

inductive Pattern.Greed where
  | most
  | least
  | all
  deriving DecidableEq

abbrev Pattern.Width := Nat × Nat

inductive Pattern where
  | any (dotAll : Bool)
  | one (set : Pattern.OneOf)
  | place (p : Pattern.Place)
  | seq (parts : List Pattern)
  | branch (choices : List Pattern)
  | group (id : Nat) (body : Pattern)
  | again (greed : Pattern.Greed) (least : Nat) (most : Option Nat) (body : Pattern)
  | same (id : Nat) (width : Pattern.Width) (caseless ascii : Bool)
  | ahead (positive : Bool) (body : Pattern)
  | behind (positive : Bool) (width : Nat) (body : Pattern)
  | atomic (body : Pattern)
  | given (id : Nat) (yes no : Pattern)

namespace Pattern

def unlimited : Nat := Number.twoTo 64

def Width.add (a b : Width) : Width := (min (a.1 + b.1) unlimited, min (a.2 + b.2) unlimited)

def Width.either (a b : Width) : Width := (min a.1 b.1, max a.2 b.2)

mutual

def width : Pattern → Width
  | any _ | one _ => (1, 1)
  | place _ | ahead _ _ | behind _ _ _ => (0, 0)
  | seq parts => widthOfAll parts
  | branch choices => widthOfEither choices
  | group _ body | atomic body => width body
  | again _ least most body =>
    let (lo, hi) := width body
    (lo * least, match most with
      | some n => hi * n
      | none => if hi == 0 then 0 else unlimited)
  | same _ w _ _ => w
  | given _ yes no => (width yes).either (width no)

def widthOfAll : List Pattern → Width
  | [] => (0, 0)
  | p :: ps => (width p).add (widthOfAll ps)

def widthOfEither : List Pattern → Width
  | [] => (0, 0)
  | [p] => width p
  | p :: ps => (width p).either (widthOfEither ps)

end

end Pattern

end AliasTools

namespace AliasTools.Pattern

/-! ## 2. Searching -/

variable (ascii : Bool) (c : Char)

def small : Char := if ascii then c.toLower else (Text.smallForm c).headD c

def caseForm : List Char := if ascii then [c.toLower] else Text.capitalForm (small false c)

def alike (a b : Char) : Bool := caseForm ascii a == caseForm ascii b

def strayLetters : List Char :=
  ['\u00b5', '\u0130', '\u0131', '\u017f', '\u0345', '\u0390', '\u03b0', '\u03c2', '\u03d0',
    '\u03d1', '\u03d5', '\u03d6', '\u03f0', '\u03f1', '\u03f4', '\u03f5', '\u1c80', '\u1c81',
    '\u1c82', '\u1c83', '\u1c84', '\u1c85', '\u1c86', '\u1c87', '\u1c88', '\u1e9b', '\u1e9e',
    '\u1fbe', '\u1fd3', '\u1fe3', '\u2126', '\u212a', '\u212b', '\ufb05', '\ufb06']

def alikeLetters : List Char :=
  if ascii then [c, c.toLower, c.toUpper]
  else
    let s := small false c
    let only (cs : List Char) : Char := match cs with
      | [x] => x
      | _ => c
    let big := only (Text.capitalForm s)
    [c, s, big, only (Text.titleForm s), small false big] ++ strayLetters.filter fun x => alike false x c

def isWordChar : Bool :=
  c == '_' ||
    (if ascii then Text.isAsciiLetter c || Text.isAsciiDigit c else Text.isAlnum c)

def isSpaceChar : Bool := if ascii then c == ' ' || (9 ≤ c.toNat && c.toNat ≤ 13) else Text.isBlank c

def isDigitChar : Bool := if ascii then Text.isAsciiDigit c else Text.isDecimal c

def CharTest.accepts (t : CharTest) (ascii : Bool) (c : Char) : Bool :=
  match t with
  | .code n => c.toNat == n
  | .span a b => a ≤ c.toNat && c.toNat ≤ b
  | .digit yes => isDigitChar ascii c == yes
  | .blank yes => isSpaceChar ascii c == yes
  | .word yes => isWordChar ascii c == yes

def OneOf.accepts (s : OneOf) (c : Char) : Bool :=
  let passes (t : CharTest) : Bool :=
    if s.caseless then
      match t with
      | .code _ | .span _ _ => (alikeLetters s.ascii c).any (t.accepts s.ascii)
      | t => t.accepts s.ascii (small s.ascii c)
    else t.accepts s.ascii c
  s.tests.any passes != s.negated

structure Spot where
  pos : Nat
  marks : List (Nat × Nat × Nat) := []

def Place.holds (p : Place) (text : Array Char) (i : Nat) : Bool :=
  let before : Option Char := if i == 0 then none else text[i - 1]?
  let edge (ascii : Bool) : Bool :=
    let word (c : Option Char) : Bool := (c.map (isWordChar ascii)).getD false
    word before != word text[i]?
  match p with
  | .textStart => i == 0
  | .lineStart => i == 0 || before == some '\n'
  | .lastEnd => i == text.size || (i + 1 == text.size && text[i]? == some '\n')
  | .lineEnd => i == text.size || text[i]? == some '\n'
  | .textEnd => i == text.size
  | .wordEdge ascii => text.size != 0 && edge ascii
  | .noWordEdge ascii => text.size != 0 && !edge ascii

abbrev Rest := Spot → Option Spot

def repeatExactly (step : Spot → Rest → Option Spot) : Nat → Spot → Rest → Option Spot
  | 0, s, k => k s
  | n + 1, s, k => step s fun s' => repeatExactly step n s' k

def repeatUpTo (step : Spot → Rest → Option Spot) (lazy : Bool) : Nat → Spot → Rest → Option Spot
  | 0, s, k => k s
  | n + 1, s, k =>
    let more (_ : Unit) : Option Spot := step s fun s' =>
      if s'.pos == s.pos then k s' else repeatUpTo step lazy n s' k
    if lazy then (k s).orElse more else (more ()).orElse fun _ => k s

def repeatAll (step : Spot → Rest → Option Spot) : Nat → Spot → Spot
  | 0, s => s
  | n + 1, s =>
    match step s some with
    | some s' => if s'.pos == s.pos then s' else repeatAll step n s'
    | none => s

def pieceAt (text : Array Char) (caseless ascii : Bool) (start stop i : Nat) : Bool :=
  i + (stop - start) ≤ text.size && (List.range (stop - start)).all fun d =>
      match text[start + d]?, text[i + d]? with
      | some a, some b => if caseless then small ascii a == small ascii b else a == b
      | _, _ => false

mutual

def run (text : Array Char) : Pattern → Spot → Rest → Option Spot
  | any dotAll, s, k =>
    match text[s.pos]? with
    | some c => if c == '\n' && !dotAll then none else k { s with pos := s.pos + 1 }
    | none => none
  | one set, s, k =>
    match text[s.pos]? with
    | some c => if set.accepts c then k { s with pos := s.pos + 1 } else none
    | none => none
  | place p, s, k => if p.holds text s.pos then k s else none
  | seq parts, s, k => runAll text parts s k
  | branch choices, s, k => runAny text choices s k
  | group id body, s, k => run text body s fun s' => k { s' with marks := (id, s.pos, s'.pos) :: s'.marks }
  | again greed least most body, s, k =>
    let step := fun s k => run text body s k
    let rounds := text.size + 1
    let more := match most with
      | some n => min (n - least) rounds
      | none => rounds
    match greed with
    | .most => repeatExactly step least s fun s => repeatUpTo step false more s k
    | .least => repeatExactly step least s fun s => repeatUpTo step true more s k
    | .all =>
      (repeatExactly (fun s k => (step s some).bind k) least s some).bind fun s =>
        k (repeatAll step more s)
  | same id _ caseless ascii, s, k =>
    match s.marks.lookup id with
    | some (start, stop) =>
      if pieceAt text caseless ascii start stop s.pos then k { s with pos := s.pos + (stop - start) }
      else none
    | none => none
  | ahead positive body, s, k =>
    match run text body s some with
    | some s' => if positive then k { s with marks := s'.marks } else none
    | none => if positive then none else k s
  | behind positive width body, s, k =>
    let found := if s.pos < width then none else run text body { s with pos := s.pos - width } some
    match found with
    | some s' => if positive then k { s with marks := s'.marks } else none
    | none => if positive then none else k s
  | atomic body, s, k => (run text body s some).bind k
  | given id yes no, s, k => if (s.marks.lookup id).isSome then run text yes s k else run text no s k

def runAll (text : Array Char) : List Pattern → Spot → Rest → Option Spot
  | [], s, k => k s
  | p :: ps, s, k => run text p s fun s' => runAll text ps s' k

def runAny (text : Array Char) : List Pattern → Spot → Rest → Option Spot
  | [], _, _ => none
  | p :: ps, s, k => (run text p s k).orElse fun _ => runAny text ps s k

end

def foundIn (p : Pattern) (text : String) : Bool :=
  let cs := text.toList.toArray
  (List.range (cs.size + 1)).any fun i => (run cs p { pos := i } some).isSome

end AliasTools.Pattern
