import AliasTools.Types.Infer

/-!
# Words about methods, from a page

A page of documentation lists methods as terms with descriptions.
-/

namespace AliasTools.Types

open Text

def afterSignature? (s : List Char) : Option (List Char) := do
  let (_, rest) ← takeName? s
  let inner ← afterMark? '(' rest
  let tail ← match inner.dropWhile (· != ')') with
    | _ :: tail => some tail
    | [] => none
  let tail := tail.dropWhile isBlank
  let tail := match tail with
    | '-' :: '>' :: more => more
    | '→' :: more => more
    | _ => tail
  return tail.dropWhile isBlank

def afterDash? (dash : Char) (s : List Char) : Option (List Char) := do
  let (before, after) ← splitAtFirst? dash s
  if before.contains '(' && before.contains ')' then some after else none

def dropSignature (text : String) : String :=
  let s := text.toList
  let rest := afterSignature? s <|> afterDash? '–' s <|> afterDash? '—' s <|> afterDash? '-' s
  String.ofList (stripBlank (rest.getD s))

def dropTags (skip : Nat) (acc : List Char) : List Char → List Char
  | [] => acc.reverse
  | c :: rest =>
    match skip with
    | k + 1 => dropTags k acc rest
    | 0 =>
      let inner := rest.takeWhile (· != '>')
      if c == '<' && !inner.isEmpty && inner.length < rest.length then dropTags (inner.length + 1) acc rest
      else dropTags 0 (c :: acc) rest

def afterPiece? (piece : String) (s : List Char) : Option (List Char) :=
  if piece.toList.isPrefixOf s then some (s.drop piece.length) else none

def takeWord? (s : List Char) : Option (String × List Char) :=
  let w := s.takeWhile isWordPart
  if w.isEmpty then none else some (String.ofList w, s.drop w.length)

def takeTerm? (s : List Char) : Option (String × String × List Char) := do
  let rest ← afterPiece? "<dt class=\"sig" s
  let rest ← afterPiece? "\" id=\"aliasing.api." (rest.dropWhile (· != '"'))
  let place := rest.takeWhile (· != '.')
  if place.isEmpty then none
  let rest ← afterPiece? "." (rest.drop place.length)
  let (cls, rest) ← takeWord? rest
  let rest ← afterPiece? "." rest
  let (method, rest) ← takeWord? rest
  let rest ← afterPiece? "\">" rest
  return (cls, method, rest)

def takeDescription? : List Char → Option (List Char × List Char)
  | [] => none
  | c :: rest =>
    let here := do
      let after ← afterPiece? "</dt>" (c :: rest)
      let body := after.dropWhile isBlank
      if !"<dd".toList.isPrefixOf body then none
      let n ← findFrom "</dd>".toList 3 (body.drop 3)
      return (body.take (n + 5), body.drop (n + 5))
    match here with
    | some r => some r
    | none => takeDescription? rest

abbrev MethodDocs := List (String × List (String × String))

def MethodDocs.put (docs : MethodDocs) (cls method text : String) : MethodDocs :=
  let set (ms : List (String × String)) : List (String × String) :=
    if ms.any (·.1 == method) then ms.map fun m => if m.1 == method then (method, text) else m
    else ms ++ [(method, text)]
  if docs.any (·.1 == cls) then docs.map fun d => if d.1 == cls then (cls, set d.2) else d
  else docs ++ [(cls, [(method, text)])]

def methodDocsFrom (docs : MethodDocs) (skip : Nat) : List Char → MethodDocs
  | [] => docs
  | c :: rest =>
    match skip with
    | k + 1 => methodDocsFrom docs k rest
    | 0 =>
      let entry := do
        let (cls, method, after) ← takeTerm? (c :: rest)
        let (body, tail) ← takeDescription? after
        return (cls, method, body, tail.length)
      match entry with
      | none => methodDocsFrom docs 0 rest
      | some (cls, method, body, left) =>
        let plain := String.ofList (stripBlank (unescape (dropTags 0 [] body)))
        let text := dropSignature plain
        let docs := if text.isEmpty then docs else docs.put cls method text
        methodDocsFrom docs (rest.length - left) rest

def methodDocs (page : String) : MethodDocs := methodDocsFrom [] 0 page.toList

end AliasTools.Types
