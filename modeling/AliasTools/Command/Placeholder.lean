import AliasTools.Number

/-!
# Words of a command line

A command line is cut into words at blanks.  Words name arguments: `-d 5` gives `d` the value `5`, a flag
without a value is simply given, and so is a word of its own.

`%1%` stands for the first argument as it would be written on a command line, `&1&` for the first
argument inside a quoted text; `%*%` and `&*&` stand for all arguments, and `&ARGS&` for the list of
them.
-/

namespace AliasTools.Command

open Text

def quotePairs : List (Char × Char) :=
  [('"', '"'), ('\'', '\''), ('‘', '’'), ('‚', '‛'), ('“', '”'), ('„', '‟'), ('⹂', '⹂'), ('「', '」'),
   ('『', '』'), ('〝', '〞'), ('﹁', '﹂'), ('﹃', '﹄'), ('＂', '＂'), ('｢', '｣'), ('«', '»'),
   ('‹', '›'), ('《', '》'), ('〈', '〉')]

def closingOf (c : Char) : Option Char := quotePairs.lookup c

def isQuote (c : Char) : Bool := quotePairs.any fun p => p.1 == c || p.2 == c

def isApostrophe (c : Char) : Bool := c == '\'' || c == '’'

/-- Where a reader stands: outside quotes, or inside a part that a quote opened. -/
inductive Quoting where
  | outside
  | inside (opening : Char) (closing : Option Char)

def Quoting.escapes (q : Quoting) (c : Char) : Bool :=
  match q with
  | .outside => isQuote c
  | .inside o close => c == o || close == some c

structure Unclosed where
  closing : Option Char

def Unclosed.message (u : Unclosed) : String :=
  "Expected closing quote " ++ (match u.closing with
    | some c => String.singleton c
    | none => "None")

def readWord (q : Quoting) (acc : List Char) (s : List Char) : Except Unclosed (List Char × List Char) :=
  match s with
  | [] =>
    match q with
    | .outside => .ok (acc.reverse, [])
    | .inside _ close => .error ⟨close⟩
  | c :: rest =>
    if c == '\\' then
      match rest with
      | [] => readWord q (c :: acc) []
      | n :: after => if q.escapes n then readWord q (n :: acc) after else readWord q (c :: acc) (n :: after)
    else
      match q with
      | .outside =>
        if isQuote c && !isApostrophe c then readWord (.inside c (closingOf c)) acc rest
        else if isBlank c then .ok (acc.reverse, c :: rest)
        else readWord q (c :: acc) rest
      | .inside _ close =>
        if close == some c then
          match rest with
          | [] => .ok (acc.reverse, [])
          | n :: after => if isBlank n then .ok (acc.reverse, n :: after) else readWord .outside acc (n :: after)
        else readWord q (c :: acc) rest
termination_by s.length

def wordsFrom (done : List (List Char)) (s : List Char) : Nat → Except Unclosed (List (List Char))
  | 0 => .ok done.reverse
  | k + 1 =>
    match s.dropWhile isBlank with
    | [] => .ok done.reverse
    | c :: rest =>
      let start := match closingOf c with
        | some close => readWord (.inside c (some close)) [] rest
        | none => readWord .outside [c] rest
      match start with
      | .error u => .error u
      | .ok (w, after) => wordsFrom (w :: done) after k

def splitWords (line : String) : Except Unclosed (List String) :=
  let s := line.toList
  (wordsFrom [] s (s.length + 1)).map fun ws => ws.map String.ofList

def cutsWord (c : Char) : Bool := [' ', '\t', '\n', '\r', '\x0b', '\x0c'].contains c

def quoteWord (w : String) : String := if w.toList.any cutsWord then "\"" ++ replaceAll w "\"" "\\\"" ++ "\"" else w

structure FlagName where
  name : String
  uses : String

def FlagName.ofText? (s : List Char) : Option FlagName :=
  if s.head?.any isAsciiLetter && s.all (!isBlank ·) then
    some ⟨String.ofList (s.reverse.dropWhile isDecimal).reverse, String.ofList (s.reverse.takeWhile isDecimal).reverse⟩
  else none

def FlagName.ofFlag? (s : List Char) : Option FlagName :=
  match s with
  | '-' :: rest => ofText? (rest.dropWhile (· == '-'))
  | _ => none

def loneFlags : List String := ["-i", "-h", "-v"]

/-- A word is a flag that takes no value, a flag that may, or the value of a flag, which can also be given for
    itself. -/
inductive Word where
  | lone (name : String)
  | flag (name : FlagName)
  | value (name : Option FlagName)

def Word.ofText (w : String) : Word :=
  if loneFlags.contains w then .lone (String.ofList (w.toList.dropWhile (· == '-')))
  else
    match FlagName.ofFlag? w.toList with
    | some n => .flag n
    | none => .value (FlagName.ofText? w.toList)

open Number

/-! ## 1. Placeholders -/

def numberedMark? (mark : Char) (s : List Char) : Option (Nat × List Char) :=
  let ds := s.takeWhile isDecimal
  match s.dropWhile isDecimal with
  | m :: rest => if m == mark && !ds.isEmpty then some (((readInt? 10 ds).getD 0).toNat, rest) else none
  | [] => none

/-- The highest number asked for; `skip` counts characters of a placeholder still to be passed. -/
def highestFrom (best skip : Nat) : List Char → Nat
  | [] => best
  | c :: rest =>
    match skip with
    | k + 1 => highestFrom best k rest
    | 0 =>
      if c == '%' || c == '&' then
        match numberedMark? c rest with
        | some (n, after) => highestFrom (max best n) (rest.length - after.length) rest
        | none => highestFrom best 0 rest
      else highestFrom best 0 rest

def fillNumbered (mark : Char) (f : Nat → List Char) (acc : List Char) (skip : Nat) : List Char → List Char
  | [] => acc.reverse
  | c :: rest =>
    match skip with
    | k + 1 => fillNumbered mark f acc k rest
    | 0 =>
      if c == mark then
        match numberedMark? mark rest with
        | some (n, after) => fillNumbered mark f ((f n).reverse ++ acc) (rest.length - after.length) rest
        | none => fillNumbered mark f (c :: acc) 0 rest
      else fillNumbered mark f (c :: acc) 0 rest

def escapeQuotes (s : List Char) : List Char :=
  s.flatMap fun c => if c == '\\' || c == '"' || c == '\'' then ['\\', c] else [c]

def filledTo (count : Nat) (args : List String) : List String :=
  args ++ ((List.range count).drop args.length).map fun i =>
    "arg" ++ String.ofList (intText ((i + 1 : Nat) : Int))

def fillPlaceholders (text : String) (args : List String) : String :=
  let args := filledTo (highestFrom 0 0 text.toList) args
  let arg (n : Nat) : List Char := if n == 0 then [] else (args.getD (n - 1) "").toList
  let all := (String.intercalate " " args).toList
  let shown := "[" ++ String.intercalate ", " (args.map quote) ++ "]"
  let written (n : Nat) : List Char :=
    let a := arg n
    if a.contains ' ' then '"' :: a ++ ['"'] else a
  let t := fillNumbered '%' written [] 0 text.toList
  let t := replacePiece "%*%".toList all none t
  let t := fillNumbered '&' (fun n => escapeQuotes (arg n)) [] 0 t
  let t := replacePiece "&*&".toList (escapeQuotes all) none t
  String.ofList (replacePiece "&ARGS&".toList shown.toList none t)

end AliasTools.Command
