import AliasTools.Script.Arith
import AliasTools.Script.Index
import AliasTools.Script.Signature

/-!
# Methods of texts

A guarded text refuses to grow beyond the limit; what the other methods give is a text of the same
sort, or plain parts of it.
-/

namespace AliasTools.Script

open Text

/-! ## 1. Signatures -/

def farEnd : Value := .int (Number.twoTo 63 - 1)

def textParams (name : String) : Option (List Parameter × Bool) :=
  let span (p : String) : List Parameter := [needed p, optional "start" (.int 0), optional "end" farEnd]
  match name with
  | "capitalize" | "casefold" | "isalnum" | "isalpha" | "isascii" | "isdecimal" | "isdigit"
  | "isidentifier" | "islower" | "isnumeric" | "isprintable" | "isspace" | "istitle" | "isupper"
  | "lower" | "swapcase" | "title" | "upper" => some ([], false)
  | "center" | "ljust" | "rjust" => some ([needed "width"], true)
  | "count" | "find" | "index" | "rfind" | "rindex" => some (span "sub", false)
  | "startswith" => some (span "prefix", false)
  | "endswith" => some (span "suffix", false)
  | "expandtabs" => some ([optional "tabsize" (.int 8)], false)
  | "join" => some ([needed "seq"], false)
  | "lstrip" | "rstrip" | "strip" => some ([optional "chars" .none], false)
  | "partition" | "rpartition" => some ([needed "sep"], false)
  | "removeprefix" => some ([{ name := "prefix", kind := .positional }], false)
  | "removesuffix" => some ([{ name := "suffix", kind := .positional }], false)
  | "replace" => some ([needed "old", needed "new", optional "maxsplit" (.int (-1))], false)
  | "split" | "rsplit" => some ([optional "sep" .none, optional "maxsplit" (.int (-1))], false)
  | "splitlines" => some ([optional "keepends" (.bool false)], false)
  | "translate" => some ([needed "table"], false)
  | "zfill" => some ([needed "width"], false)
  | "encode" | "format" => some ([], true)
  | "format_map" => some ([needed "mapping"], false)
  | "maketrans" => some ([], true)
  | _ => none

def ownTextMethods : List String :=
  ["center", "encode", "expandtabs", "format", "format_map", "join", "ljust", "maketrans", "replace",
   "rjust", "translate", "zfill"]

def textSignature (name : String) (params : List Parameter) (rest : Bool) : Signature :=
  let owner := if ownTextMethods.contains name then "safe_str.<locals>.str" else "UserString"
  { label := s!"{owner}.{name}", params := needed "self" :: params, rest := rest,
    named := name == "encode" || name == "format" }

/-! ## 2. Parts -/

def textTooLarge {α : Type} : Eval α := failWaiting .iterableTooLong "This str is too large"

def needText (v : Value) : Eval (List Char) := do
  match v with
  | .str s _ => return s.toList
  | _ => typeFault s!"must be str, not {← typeName v}"

def argumentWord (v : Value) : Eval String := if v.isNone then pure "None" else typeName v

def searchBound (v : Value) (default : Int) : Eval Int := do return (← sliceBound v).getD default

def searchWindow (s : List Char) (b : Bound) : Eval (Option (List Char × Nat)) := do
  let len : Int := s.length
  let lo ← searchBound (b.get "start") 0
  let hi ← searchBound (b.get "end") len
  let lo := if lo < 0 then max (lo + len) 0 else lo
  let hi := if hi < 0 then max (hi + len) 0 else min hi len
  if lo > len || lo > hi then return none
  return some ((s.drop lo.toNat).take (hi - lo).toNat, lo.toNat)

def findIn (s : List Char) (b : Bound) (last must : Bool) : Eval Value := do
  let window ← searchWindow s b
  let piece ← needText (b.get "sub")
  let found := match window with
    | none => none
    | some (part, start) => if last then findLastFrom piece start none part else findFrom piece start part
  match found with
  | some i => return .int i
  | none => if must then valueFault "substring not found" else return .int (-1)

def endsWithPiece (atEnd : Bool) (part piece : List Char) : Bool :=
  if atEnd then piece.isSuffixOf part else piece.isPrefixOf part

def touches (atEnd : Bool) (name : String) (part : Option (List Char)) (v : Value) : Eval Bool := do
  match v with
  | .str p _ => return (part.map (endsWithPiece atEnd · p.toList)).getD false
  | .tuple ps =>
    let pieces ← ps.mapM fun p => do
      match p with
      | .str t _ => return t.toList
      | _ => typeFault s!"tuple for {name} must only contain str, not {← typeName p}"
    return (part.map fun s => pieces.any (endsWithPiece atEnd s)).getD false
  | _ => typeFault s!"{name} first arg must be str or a tuple of str, not {← typeName v}"

def fillChar (name : String) (rest : List Value) : Eval Char := do
  match rest with
  | [] => return ' '
  | [.str f _] =>
    match f.toList with
    | [c] => return c
    | _ => typeFault "The fill character must be exactly one character long"
  | [v] => typeFault s!"The fill character must be a unicode character, not {← typeName v}"
  | _ => typeFault s!"{name} expected at most 2 arguments, got {rest.length + 1}"

variable (go : Go) (s : List Char) (name : String)

def checkedWidth (v : Value) : Eval Int := do
  if ← go (.order .gt v (.int (← read).limits.maxConstLen)) then textTooLarge
  toIndex v

def alignText (s : List Char) (width : Int) (fill : Char) : List Char :=
  let missing := (width - s.length).toNat
  let many (n : Nat) : List Char := List.replicate n fill
  if name == "ljust" then s ++ many missing
  else if name == "rjust" then many missing ++ s
  else
    let left := missing / 2 + (if missing % 2 == 1 && width % 2 == 1 then 1 else 0)
    many left ++ s ++ many (missing - left)

def zeroFill (width : Int) : List Char :=
  let zeros := List.replicate (width - s.length).toNat '0'
  match s with
  | '+' :: rest => '+' :: zeros ++ rest
  | '-' :: rest => '-' :: zeros ++ rest
  | _ => zeros ++ s

def expandFrom (tab : Int) (col : Int) (acc : List Char) : List Char → List Char
  | [] => acc.reverse
  | '\t' :: rest =>
    if tab > 0 then
      let n := (tab - col % tab).toNat
      expandFrom tab (col + n) (List.replicate n ' ' ++ acc) rest
    else expandFrom tab col acc rest
  | c :: rest => expandFrom tab (if c == '\n' || c == '\r' then 0 else col + 1) (c :: acc) rest

def tabWidth (tab : Value) : Eval Int := do
  let tabs : Int := s.count '\t'
  let most := (← read).limits.maxConstLen
  match tab with
  | .float x => if Number.ofInt tabs * x > Number.ofInt most then textTooLarge
  | .str _ _ | .tuple _ | .complex _ _ => discard <| go (.order .gt tab (.int most))
  | _ =>
    if let some n := tab.asInt? then if tabs * n > most then textTooLarge
    else if (← listItems? tab).isSome then discard <| go (.order .gt tab (.int most))
    else unsupported .mult (.int tabs) tab
  toIndex tab

def splitText (b : Bound) (right : Bool) : Eval (List (List Char)) := do
  let most ← toIndex (b.get "maxsplit")
  let n : Option Nat := if most < 0 then none else some most.toNat
  match b.get "sep" with
  | .none =>
    if right then return ((words n [] s.reverse (s.length + 1)).map List.reverse).reverse
    return words n [] s (s.length + 1)
  | .str sep _ =>
    if sep.isEmpty then valueFault "empty separator"
    if right then return cutAtPieceRight sep.toList n s
    return cutAtPiece sep.toList n s
  | v => typeFault s!"must be str or None, not {← typeName v}"

def stripped (name : String) (chars : Value) : Eval (Char → Bool) := do
  match chars with
  | .none => return isBlank
  | .str cs _ => let cs := cs.toList; return fun c => cs.contains c
  | _ => typeFault s!"{name} arg must be None or str"

def partitionText (s sep : List Char) (last : Bool) : List (List Char) :=
  let found := if last then findLastFrom sep 0 none s else findFrom sep 0 s
  match found with
  | some i => [s.take i, sep, s.drop (i + sep.length)]
  | none => if last then [[], [], s] else [s, [], []]

def plainChars (cs : List Char) : Value := .str (String.ofList cs) false

/-! ## 3. Tables of characters -/

def charKey (c : Char) : Value := .int c.toNat

def tableOfDict (es : Entries) : Eval Value := do
  let pairs ← es.toList.mapM fun e => do
    match e.name with
    | .str s _ =>
      match s.toList with
      | [c] => return (charKey c, e.value)
      | _ => valueFault "string keys in translate table must be of length 1"
    | k =>
      if k.asInt?.isSome then return (k, e.value)
      else typeFault "keys in translate table must be strings or integers"
  alloc (.dict false (← entriesOf #[] pairs) none)

def makeTable (args : List Value) : Eval Value := do
  let fromDict : Option Entries ← match args with
    | [d] => entries? d
    | _ => pure none
  match fromDict with
  | some es => tableOfDict es
  | none =>
    if (← sizeOfAll go args) > (← read).limits.maxConstLen then failWaiting .iterableTooLong "This dict is too large"
    match args with
    | [] => typeFault "maketrans expected at least 1 argument, got 0"
    | [_] => typeFault "if you give only one argument to maketrans it must be a dict"
    | x :: y :: rest =>
      if rest.length > 1 then typeFault s!"maketrans expected at most 3 arguments, got {args.length}"
      let yc ← match y with
        | .str s _ => pure s.toList
        | _ => typeFault s!"maketrans() argument 2 must be str, not {← argumentWord y}"
      let zc ← match rest with
        | [.str s _] => pure s.toList
        | [v] => typeFault s!"maketrans() argument 3 must be str, not {← argumentWord v}"
        | _ => pure []
      let xc ← match x with
        | .str s _ => pure s.toList
        | _ => typeFault "first maketrans argument must be a string if there is a second argument"
      if xc.length != yc.length then valueFault "the first two maketrans arguments must have equal length"
      let pairs := (xc.zip yc).map fun (a, b) => (charKey a, charKey b)
      let gone := zc.map fun c => (charKey c, Value.none)
      alloc (.dict false (← entriesOf #[] (pairs ++ gone)) none)

def translateChar (table : Value) (c : Char) : Eval (List Char) := do
  let found ← onFaults [.keyError, .indexError] (some <$> go (.item table (charKey c))) (pure none)
  match found with
  | none => return [c]
  | some .none => return []
  | some (.str s _) => return s.toList
  | some v =>
    match v.asInt? with
    | some n =>
      if n < 0 || n ≥ 0x110000 then valueFault "character mapping must be in range(0x110000)"
      return [Char.ofNat n.toNat]
    | none => typeFault "character mapping must return integer, None or str"

/-! ## 4. Methods -/

def allChars (p : Char → Bool) (s : List Char) : Value := .bool (!s.isEmpty && s.all p)

def joinedText : Value × Nat → Eval String
  | (.str s _, _) => return s
  | (v, i) => do
    typeFault s!"sequence item {i}: expected str instance, {← typeName v} found"

def joinTexts (sep : List Char) (seq : Value) : Eval Value := do
  let items ← collect go seq
  let whole ← alloc (.list false items none)
  let size := (items.size : Int) * sep.length + (← sizeOf go whole)
  if size > (← read).limits.maxConstLen then textTooLarge
  let parts ← items.toList.zipIdx.mapM joinedText
  return .str (String.intercalate (String.ofList sep) parts) false

def replaceTimes (old limit : Value) : Eval Int := do
  if ← go (.order .gt limit (.int 0)) then toIndex limit
  else return countPiece (← needText old) s

def replaceIn (b : Bound) : Eval (List Char) := do
  let old := b.get "old"
  let new := b.get "new"
  let limit := b.get "maxsplit"
  let times ← replaceTimes go s old limit
  let growth := (← go (.len new)) - (← go (.len old))
  if times * growth + s.length > (← read).limits.maxConstLen then textTooLarge
  match old, new with
  | .str o _, .str n _ =>
    let k ← toIndex limit
    return replacePiece o.toList n.toList (if k < 0 then none else some k.toNat) s
  | .str _ _, v => typeFault s!"replace() argument 2 must be str, not {← typeName v}"
  | v, _ => typeFault s!"replace() argument 1 must be str, not {← typeName v}"

def textMethodOn (s : List Char) (guarded : Bool) (b : Bound) : Eval Value := do
  let same (cs : List Char) : Value := .str (String.ofList cs) guarded
  match name with
  | "capitalize" => return same (capitalize s)
  | "casefold" => return same (caseFold s)
  | "lower" => return same (lower s)
  | "upper" => return same (upper s)
  | "swapcase" => return same (swapCaseFrom [] s)
  | "title" => return same (titleFrom [] false s)
  | "isalnum" => return allChars isAlnum s
  | "isalpha" => return allChars isLetter s
  | "isascii" => return .bool (s.all isAscii)
  | "isdecimal" => return allChars isDecimal s
  | "isdigit" => return allChars isDigit s
  | "isidentifier" => return .bool (isIdentifier s)
  | "islower" => return .bool (allSmall s)
  | "isupper" => return .bool (allCapital s)
  | "isnumeric" => return allChars isNumeric s
  | "isprintable" => return .bool (s.all isPrintable)
  | "isspace" => return allChars isBlank s
  | "istitle" => return .bool (titleCaseFrom false false s)
  | "center" | "ljust" | "rjust" =>
    let width ← checkedWidth go (b.get "width")
    return same (alignText name s width (← fillChar name b.rest))
  | "zfill" => return same (zeroFill s (← checkedWidth go (b.get "width")))
  | "count" =>
    let window ← searchWindow s b
    let piece ← needText (b.get "sub")
    match window with
    | some (part, _) => return .int (countPiece piece part)
    | none => return .int 0
  | "find" => findIn s b false false
  | "index" => findIn s b false true
  | "rfind" => findIn s b true false
  | "rindex" => findIn s b true true
  | "startswith" =>
    let part := (← searchWindow s b).map (·.1)
    return .bool (← touches false name part (b.get "prefix"))
  | "endswith" =>
    let part := (← searchWindow s b).map (·.1)
    return .bool (← touches true name part (b.get "suffix"))
  | "expandtabs" => return same (expandFrom (← tabWidth go s (b.get "tabsize")) 0 [] s)
  | "join" => joinTexts go s (b.get "seq")
  | "lstrip" => return same (s.dropWhile (← stripped name (b.get "chars")))
  | "rstrip" => return same (s.reverse.dropWhile (← stripped name (b.get "chars"))).reverse
  | "strip" => return same (stripWhere (← stripped name (b.get "chars")) s)
  | "partition" | "rpartition" =>
    let sep ← needText (b.get "sep")
    if sep.isEmpty then valueFault "empty separator"
    return .tuple ((partitionText s sep (name == "rpartition")).map plainChars)
  | "removeprefix" | "removesuffix" =>
    let atEnd := name == "removesuffix"
    match b.get (if atEnd then "suffix" else "prefix") with
    | .str p _ =>
      if !endsWithPiece atEnd s p.toList then return same s
      if atEnd then return same (s.take (s.length - p.length))
      return same (s.drop p.length)
    | v => typeFault s!"{name}() argument must be str, not {← argumentWord v}"
  | "replace" => return same (← replaceIn go s b)
  | "split" | "rsplit" =>
    let parts ← splitText s b (name == "rsplit")
    alloc (.list false (parts.map plainChars).toArray none)
  | "splitlines" =>
    let keep ← toIndex (b.get "keepends")
    let ls := if keep != 0 then linesWithEnds s else lines s
    alloc (.list false (ls.map plainChars).toArray none)
  | "translate" =>
    let table := b.get "table"
    if (← sizeOf go table) * s.length > (← read).limits.maxConstLen then textTooLarge
    let parts ← s.mapM (translateChar go table)
    return same parts.flatten
  | "maketrans" => makeTable go b.rest
  | _ => failWaiting .featureNotAvailable "This method is not allowed"

def textArguments (self : Value) (args : List Value) (named : Names) : Eval Bound :=
  match textParams name with
  | none => typeFault s!"'str' object has no attribute '{name}'"
  | some (params, rest) => (textSignature name params rest).bind (self :: args) named

def textMethod (self : Value) (s : String) (guarded : Bool) (args : List Value) (named : Names) : Eval Value := do
  textMethodOn go name s.toList guarded (← textArguments name self args named)

end AliasTools.Script
