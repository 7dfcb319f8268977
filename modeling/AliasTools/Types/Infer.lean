import AliasTools.Syntax.Grammar.Statement
import AliasTools.Syntax.Written
import AliasTools.Types.Catalog

/-!
# Types of names

What types the names of a script have, as far as its text tells: from the values they are bound to, and
from what is written beside them.
-/

namespace AliasTools.Types

open Syntax Text Number

/-! ## 1. Types that are written -/

abbrev Guess := Option String × Option String

def isWordPart (c : Char) : Bool := isAlnum c || c == '_'

def takeName? (s : List Char) : Option (String × List Char) :=
  match s with
  | c :: _ =>
    if isAsciiLetter c || c == '_' then some (String.ofList (s.takeWhile isWordPart), s.dropWhile isWordPart)
    else none
  | [] => none

variable (mark : Char)

def afterMark? (s : List Char) : Option (List Char) :=
  match s.dropWhile isBlank with
  | c :: rest => if c == mark then some rest else none
  | [] => none

def bracketed? (s : List Char) : Option String := do
  let inner ← afterMark? '[' s
  let (first, rest) ← takeName? (inner.dropWhile isBlank)
  let (item, rest) ← match afterMark? ',' rest with
    | some more => takeName? (more.dropWhile isBlank)
    | none => some (first, rest)
  let tail ← afterMark? ']' rest
  if tail.isEmpty || tail == ['\n'] then some item else none

def writtenType (text : String) : Guess :=
  let s := stripWhere (fun c => c == '\'' || c == '"') (stripBlank text.toList)
  if s.isEmpty then (none, none)
  else
    match takeName? s with
    | none => (some (String.ofList s), none)
    | some (base, rest) =>
      let small := lowerText base
      let base := if ["list", "dict", "set", "tuple"].contains small then small else base
      if rest.all isBlank then (some base, none)
      else
        match bracketed? rest with
        | some item => (some base, some item)
        | none => (some (String.ofList s), none)

def namedType : Expr → Guess
  | .constant _ (.str s _) => writtenType s
  | .name _ id _ => (some id, none)
  | .attribute _ _ attr _ => (some attr, none)
  | e =>
    match e.written? with
    | some t => if t.isEmpty then (none, none) else writtenType t
    | none => (none, none)

def namedTypeOf (e : Option Expr) : Guess :=
  match e with
  | some e => namedType e
  | none => (none, none)

def hintLabel (e : Option Expr) : String :=
  match namedTypeOf e with
  | (none, _) => ""
  | (some base, none) => base
  | (some base, some item) => s!"{base}[{item}]"

/-! ## 2. Tables -/

abbrev TypeTable := List (String × String)

namespace TypeTable

def put (t : TypeTable) (name type : String) : TypeTable :=
  match t with
  | [] => [(name, type)]
  | (n, x) :: rest => if n == name then (n, type) :: rest else (n, x) :: put rest name type

def update (t : TypeTable) (more : TypeTable) : TypeTable := more.foldl (fun t p => t.put p.1 p.2) t

end TypeTable

def elementKey (name : String) : String := name ++ ".__element__"

def typeIn (scopes : List TypeTable) (name : String) : Option String := scopes.findSome? fun t => t.lookup name

/-! ## 3. Types of values -/

def literalKey? : Expr → Option (String × Bool)
  | .constant _ (.str s _) => some (s, true)
  | .constant _ (.int n) => some (String.ofList (intText n), false)
  | .constant _ (.bool b) => some (if b then "True" else "False", false)
  | _ => none

def attrGuess? (base : String) (attr : String) : Option Guess := do
  let a ← (typeNote base).attrs.lookup attr
  if !a.type.isEmpty then return (some a.type, if a.element.isEmpty then none else some a.element)
  if !a.element.isEmpty then return (some base, some a.element)
  none

def itemGuess (scopes : List TypeTable) (base : Expr) (key : Option (String × Bool)) (guess : Guess) : Guess :=
  let name : Option String := match base with
    | .name _ id _ => some id
    | _ => none
  let kept : Option Guess := do
    let n ← name
    let (k, _) ← key
    let at' := s!"{n}.{k}"
    let t ← typeIn scopes at'
    return (some t, typeIn scopes (elementKey at'))
  let element := guess.2 <|> name.bind fun n => typeIn scopes (elementKey n)
  let attr : Option Guess := do
    let b ← guess.1
    let (k, isText) ← key
    if isText then attrGuess? b k else none
  let element := element <|> guess.1.bind fun b =>
    let e := (typeNote b).element
    if e.isEmpty then none else some e
  match kept, attr, element with
  | some g, _, _ => g
  | none, some g, _ => g
  | none, none, some e => (some e, none)
  | none, none, none => (guess.1, none)

def commonType (acc : Option String) : List Guess → Option String
  | [] => acc
  | (none, _) :: _ => none
  | (some t, _) :: rest =>
    match acc with
    | none => commonType (some t) rest
    | some a => if a == t then commonType acc rest else none

def calledType? (name : String) : Option Guess :=
  match name with
  | "character" | "combat" => some (some name, none)
  | "vroll" => some (some "SimpleRollResult", none)
  | "argparse" => some (some "ParsedArguments", none)
  | "range" => some (some "range", some "int")
  | "list" | "dict" | "str" | "int" | "float" => some (some name, none)
  | _ => none

mutual

def guessOf (scopes : List TypeTable) : Expr → Guess
  | .call _ (.name _ f _) _ _ => (calledType? f).getD (none, none)
  | .call _ (.attribute _ v "get" _) (a :: _) _ =>
    let base := guessOf scopes v
    match itemGuess scopes v (literalKey? a) base with
    | (some t, e) => (some t, e)
    | (none, _) => (base.2, none)
  | .compare _ _ _ _ => (some "bool", none)
  | .list _ es _ => (some "list", commonType none (guessesOf scopes es))
  | .tuple _ es _ => (some "tuple", commonType none (guessesOf scopes es))
  | .set _ es => (some "set", commonType none (guessesOf scopes es))
  | .listComp _ e _ =>
    let (t, i) := guessOf scopes e
    (some "list", t <|> i)
  | .dict _ _ vs => (some "dict", commonType none (guessesOf scopes vs))
  | .subscript _ v s _ => itemGuess scopes v (literalKey? s) (guessOf scopes v)
  | .constant _ (.str _ _) => (some "str", none)
  | .name _ id _ =>
    match typeIn scopes id with
    | some t => (some t, typeIn scopes (elementKey id))
    | none => if ["character", "combat", "ctx"].contains id then (some id, none) else (none, none)
  | .attribute _ v attr _ =>
    let (base, element) := guessOf scopes v
    match base with
    | none => (none, none)
    | some b =>
      match attrGuess? b attr, element with
      | some g, _ => g
      | none, some e => (some e, none)
      | none, none => (knownKey? attr (some b), none)
  | .ifExp _ _ b o =>
    let (t, te) := guessOf scopes b
    let (e, ee) := guessOf scopes o
    let same := t.isSome && t == e
    let element := if same && te.isSome && ee.isSome && te != ee then none else te <|> ee
    (t <|> e, element)
  | _ => (none, none)

def guessesOf (scopes : List TypeTable) : List Expr → List Guess
  | [] => []
  | e :: es => guessOf scopes e :: guessesOf scopes es

end

/-! ## 4. Binding names -/

/-- What is known while a script is gone through: the scopes, innermost first, and the tables of what was
    left. -/
structure Inference where
  scopes : List TypeTable := [[]]
  closed : List ((Nat × Nat) × TypeTable) := []

def Inference.put (s : Inference) (name : String) (type : Option String) : Inference :=
  match type, s.scopes with
  | some t, top :: rest => { s with scopes := top.put name t :: rest }
  | _, _ => s

def Inference.putKeys (s : Inference) (name : String) : List (Option Expr) → List Expr → Inference
  | k :: ks, v :: vs =>
    let s := match k.bind literalKey? with
      | none => s
      | some (key, _) =>
        let (t, e) := guessOf s.scopes v
        (s.put s!"{name}.{key}" t).put (elementKey s!"{name}.{key}") e
    s.putKeys name ks vs
  | _, _ => s

def writtenItems? : Expr → Option (List Expr)
  | .tuple _ es _ | .list _ es _ => some es
  | _ => none

mutual

def bindTarget (s : Inference) (guess : Guess) (source : Option Expr) : Expr → Inference
  | .name _ id _ =>
    let s := (s.put id guess.1).put (elementKey id) guess.2
    match source with
    | some (.dict _ ks vs) => s.putKeys id ks vs
    | _ => s
  | .tuple _ elts _ | .list _ elts _ =>
    match source.bind writtenItems? with
    | some items => if items.length == elts.length then bindEach s items elts else bindSame s guess source elts
    | none => bindSame s guess source elts
  | _ => s

def bindEach (s : Inference) : List Expr → List Expr → Inference
  | v :: vs, t :: ts => bindEach (bindTarget s (guessOf s.scopes v) (some v) t) vs ts
  | _, _ => s

def bindSame (s : Inference) (guess : Guess) (source : Option Expr) : List Expr → Inference
  | [] => s
  | t :: ts => bindSame (bindTarget s guess source t) guess source ts

end

variable (s : Inference)

def bindParam : Param → Inference
  | .mk _ name hint _ =>
    let (t, e) := namedTypeOf hint
    (s.put name t).put (elementKey name) e

def bindParams : Params → Inference
  | .mk po as va ko _ kw _ => (po ++ as ++ va.toList ++ ko ++ kw.toList).foldl bindParam s

def mergeBranches (base left right : TypeTable) : TypeTable :=
  let keys := (left ++ right).map (·.1)
  keys.foldl (fun merged key =>
    let pick : Option String := match left.lookup key, right.lookup key with
      | some l, some r => if l == r then some l else base.lookup key
      | some l, none => base.lookup key <|> some l
      | none, some r => base.lookup key <|> some r
      | none, none => none
    match pick with
    | some t => merged.put key t
    | none => merged) base

def Inference.leave (sp : Span) : Inference :=
  let start := sp.line - 1
  let stop := max (sp.endLine - 1) start
  { scopes := s.scopes.tail, closed := ((start, stop), s.scopes.headD []) :: s.closed }

mutual

def inferStmt (s : Inference) : Stmt → Inference
  | .assign _ ts v comment =>
    let guess := guessOf s.scopes v
    let said := match comment with
      | some c => writtenType c
      | none => (none, none)
    let guess : Guess := (said.1 <|> guess.1, said.2 <|> guess.2)
    ts.foldl (fun s t => bindTarget s guess (some v) t) s
  | .annAssign _ t hint v _ =>
    let guess := match v with
      | some v => guessOf s.scopes v
      | none => (none, none)
    let said := namedType hint
    bindTarget s (guess.1 <|> said.1, guess.2 <|> said.2) v t
  | .augAssign _ t _ v =>
    let guess := guessOf s.scopes v
    let (old, item) : Guess := match t with
      | .name _ id _ => (typeIn s.scopes id, typeIn s.scopes (elementKey id))
      | _ => (none, none)
    bindTarget s (guess.1 <|> old, guess.2 <|> item) none t
  | .forLoop _ t i b o _ _ =>
    let item := (guessOf s.scopes i).2 <|> match i with
      | .name _ id _ => typeIn s.scopes (elementKey id)
      | _ => none
    inferAll (inferAll (bindTarget s (item, none) none t) b) o
  | .functionDef sp _ ps b _ _ _ _ => (inferAll (bindParams { s with scopes := [] :: s.scopes } ps) b).leave sp
  | .classDef sp _ _ _ b _ => (inferAll { s with scopes := [] :: s.scopes } b).leave sp
  | .ifElse _ _ b o =>
    let base := s.scopes.headD []
    let left := inferAll { scopes := [base], closed := s.closed } b
    let right := inferAll { scopes := [base], closed := left.closed } o
    let merged := mergeBranches base (left.scopes.headD []) (right.scopes.headD [])
    { scopes := base.update merged :: s.scopes.tail, closed := right.closed }
  | .whileLoop _ _ b o => inferAll (inferAll s b) o
  | .withBlock _ _ b _ _ => inferAll s b
  | .matchOn _ _ cs => inferCases s cs
  | .tryExcept _ b hs o f _ => inferAll (inferAll (inferHandlers (inferAll s b) hs) o) f
  | _ => s

def inferAll (s : Inference) : List Stmt → Inference
  | [] => s
  | x :: xs => inferAll (inferStmt s x) xs

def inferCases (s : Inference) : List MatchCase → Inference
  | [] => s
  | .mk _ _ b :: cs => inferCases (inferAll s b) cs

def inferHandlers (s : Inference) : List Handler → Inference
  | [] => s
  | .mk _ _ _ b :: hs => inferHandlers (inferAll s b) hs

end

def Inference.typesAt (line : Option Int) : TypeTable :=
  let outer := s.scopes.getLast?.getD []
  match line with
  | none => outer
  | some l =>
    match s.closed.find? fun c => (c.1.1 : Int) ≤ l && l ≤ (c.1.2 : Int) with
    | some (_, inner) => outer.update inner
    | none => outer

def inferTypes (code : String) (line : Option Int) : TypeTable :=
  match parseScript code true with
  | .ok body => (inferAll {} body).typesAt line
  | .error _ => []

/-! ## 5. Types of what is typed -/

def splitAtFirst? (s : List Char) : Option (List Char × List Char) :=
  match s.dropWhile (· != mark) with
  | _ :: rest => some (s.takeWhile (· != mark), rest)
  | [] => none

def splitAtLast? (s : List Char) : Option (List Char × List Char) :=
  (splitAtFirst? mark s.reverse).map fun (a, b) => (b.reverse, a.reverse)

def getLookup? (s : List Char) : Option (String × String) := do
  let (base, rest) ← takeName? s
  let args ← if ".get(".toList.isPrefixOf rest then some (rest.drop 5) else none
  let (q, body) ← match args.dropWhile isBlank with
    | q :: body => if q == '\'' || q == '"' then some (q, body) else none
    | [] => none
  let first ← body.head?
  if first == '\n' then none
  let key := first :: (body.drop 1).takeWhile fun c => c != q && c != '\n'
  if (body.drop key.length).head? == some q then some (base, String.ofList key) else none

def resolveTextIn (types : TypeTable) (receiver : List Char) : Nat → String
  | 0 => String.ofList receiver
  | k + 1 =>
    let byKey := (getLookup? receiver).bind fun (b, key) => types.lookup s!"{b}.{key}"
    match byKey with
    | some t => t
    | none =>
      let byIndex : Option String := do
        let (base, _) ← splitAtLast? '[' receiver
        if receiver.getLast? != some ']' then none
        match types.lookup (elementKey (String.ofList base)) with
        | some e => return e
        | none =>
          let t := resolveTextIn types base k
          if t.isEmpty then none
          let e := (typeNote t).element
          return if e.isEmpty then t else e
      match byIndex with
      | some t => t
      | none =>
        let receiver := (receiver.reverse.dropWhile fun c => c == '(' || c == ')').reverse
        let byAttr : Option String := do
          let (base, attr) ← splitAtLast? '.' receiver
          let t := resolveTextIn types base k
          if t.isEmpty then none
          let a ← (typeNote t).attrs.lookup (String.ofList (attr.takeWhile (· != '[')))
          if !a.element.isEmpty then return a.element
          if !a.type.isEmpty then return a.type
          none
        let text := String.ofList receiver
        let last := ((splitAtLast? '.' receiver).map (·.2)).getD receiver
        let tail := String.ofList (last.takeWhile (· != '['))
        (byAttr <|> types.lookup text <|> types.lookup (elementKey text) <|> knownKey? text none <|>
          knownKey? tail none).getD text

def resolveType (receiver code : String) (types : TypeTable) : String :=
  let types := if types.isEmpty then inferTypes code none else types
  resolveTextIn types receiver.toList (receiver.length + 1)

end AliasTools.Types
