import AliasTools.Script.Show

/-!
# Signatures

How the arguments of a call are matched with the parameters of a function of the library, and what is
said when they do not fit.
-/

namespace AliasTools.Script

open Text

inductive ParamKind where
  | positional | ordinary | keyword
deriving DecidableEq

structure Parameter where
  name : String
  default : Option Value := none
  kind : ParamKind := .ordinary

structure Signature where
  label : String
  params : List Parameter
  rest : Bool := false
  named : Bool := false

structure Bound where
  values : Names
  rest : List Value := []
  named : Names := []

def Bound.get (b : Bound) (name : String) : Value := (b.values.get? name).getD .none

def listed (names : List String) : String :=
  let qs := names.map quote
  match qs with
  | [] => ""
  | [a] => a
  | [a, b] => s!"{a} and {b}"
  | _ => String.intercalate ", " (qs.take (qs.length - 1)) ++ ", and " ++ qs.getLast?.getD ""

def plural (n : Nat) : String := if n == 1 then "" else "s"

def Signature.tooMany (s : Signature) (given keywordGiven : Nat) : String :=
  let pos := s.params.filter (·.kind != .keyword)
  let required := (pos.filter (·.default.isNone)).length
  let takes := if required < pos.length then s!"from {required} to {pos.length} positional arguments"
    else s!"{pos.length} positional argument{plural pos.length}"
  let extra := if keywordGiven == 0 then "" else s!" positional argument{plural given} (and {keywordGiven}" ++
      s!" keyword-only argument{plural keywordGiven})"
  s!"{s.label}() takes {takes} but {given}{extra}" ++
    (if given == 1 && keywordGiven == 0 then " was given" else " were given")

def matchPositional : List Parameter → List Value → Names × List Value
  | p :: ps, v :: vs =>
    let (ns, rest) := matchPositional ps vs
    ((p.name, v) :: ns, rest)
  | _, vs => ([], vs)

def Signature.matchNamed (s : Signature) (b : Bound) : Names → Eval Bound
  | [] => pure b
  | (n, v) :: rest => do
    match s.params.find? fun p => p.name == n && p.kind != .positional with
    | some _ =>
      if b.values.has n then typeFault s!"{s.label}() got multiple values for argument {quote n}"
      s.matchNamed { b with values := b.values ++ [(n, v)] } rest
    | none =>
      if s.named then s.matchNamed { b with named := b.named.put n v } rest
      else if s.params.any fun p => p.name == n then
        typeFault s!"{s.label}() got some positional-only arguments passed as keyword arguments: '{n}'"
      else typeFault s!"{s.label}() got an unexpected keyword argument {quote n}"

def Signature.bind (s : Signature) (args : List Value) (named : Names) : Eval Bound := do
  let pos := s.params.filter (·.kind != .keyword)
  let (given, extra) := matchPositional pos args
  let b ← s.matchNamed { values := given, rest := extra } named
  if !extra.isEmpty && !s.rest then
    let keywordGiven := (s.params.filter fun p => p.kind == .keyword && b.values.has p.name).length
    typeFault (s.tooMany args.length keywordGiven)
  let missing := (pos.filter fun p => p.default.isNone && !b.values.has p.name).map (·.name)
  if !missing.isEmpty then
    typeFault (s!"{s.label}() missing {missing.length} required positional argument" ++
      s!"{plural missing.length}: {listed missing}")
  let missing := (s.params.filter fun p =>
    p.kind == .keyword && p.default.isNone && !b.values.has p.name).map (·.name)
  if !missing.isEmpty then
    typeFault (s!"{s.label}() missing {missing.length} required keyword-only argument" ++
      s!"{plural missing.length}: {listed missing}")
  let defaults := s.params.filterMap fun p =>
    if b.values.has p.name then none else p.default.map (p.name, ·)
  return { b with values := b.values ++ defaults }

def needed (name : String) : Parameter := { name := name }

def optional (name : String) (v : Value) : Parameter := { name := name, default := some v }

def noKeywords (label : String) (named : Names) : Eval Unit :=
  if named.isEmpty then pure () else typeFault s!"{label}() takes no keyword arguments"

def oneArgument (label : String) (args : List Value) (named : Names) : Eval Value := do
  noKeywords label named
  match args with
  | [v] => return v
  | _ => typeFault s!"{label}() takes exactly one argument ({args.length} given)"

def noArguments (label : String) (args : List Value) (named : Names) : Eval Unit := do
  noKeywords label named
  if !args.isEmpty then typeFault s!"{label}() takes no arguments ({args.length} given)"

def someArguments (name : String) (least most : Nat) (args : List Value) : Eval Unit := do
  let n := args.length
  let word (k : Nat) : String := s!"{k} argument{plural k}"
  if n < least then
    typeFault (s!"{name} expected " ++ (if least == most then "" else "at least ") ++ s!"{word least}, got {n}")
  if n > most then
    typeFault (s!"{name} expected " ++ (if least == most then "" else "at most ") ++ s!"{word most}, got {n}")

structure PlainSignature where
  label : String
  params : List String
  unnamed : Nat := 0
  required : Nat := 0
  placed : Nat

variable (s : PlainSignature)

def PlainSignature.countFault? (given keywordGiven : Nat) : Option String :=
  let least := min s.unnamed s.required
  let most := s.params.length
  let positional (word : String) (k : Nat) : String :=
    s!"{s.label}() takes {word}{k} positional argument{plural k} ({given} given)"
  if given + keywordGiven > most then
    some (s!"{s.label}() takes at most {most}" ++
      (if given == 0 then " keyword argument" else " argument") ++ s!"{plural most} (" ++
      s!"{given + keywordGiven} given)")
  else if given > s.placed then
    some (if s.placed == 0 then s.label ++ "() takes no positional arguments"
      else positional (if s.required < s.placed then "at most " else "exactly ") s.placed)
  else if given < least then
    some (positional (if least < s.placed then "at least " else "exactly ") least)
  else none

/-- The complaint about names that do not fit, if any: one that is missing, one that is given by place
    too, or one that is unknown. -/
def PlainSignature.nameFault? (given : Nat) (named : Names) : Option String :=
  let places := s.params.zipIdx
  let missing := places.find? fun (n, i) => i < s.required && given ≤ i && !named.has n
  let twice := places.find? fun (n, i) => s.unnamed ≤ i && i < given && named.has n
  let unknown := named.find? fun p => !((s.params.drop s.unnamed).contains p.1)
  match missing, twice, unknown with
  | some (n, i), _, _ => some s!"{s.label}() missing required argument '{n}' (pos {i + 1})"
  | none, some (n, i), _ => some s!"argument for {s.label}() given by name ('{n}') and position ({i + 1})"
  | none, none, some (n, _) => some s!"'{n}' is an invalid keyword argument for {s.label}()"
  | none, none, none => none

def PlainSignature.bind (args : List Value) (named : Names) : Eval (List (Option Value)) := do
  match s.countFault? args.length named.length <|> s.nameFault? args.length named with
  | some m => typeFault m
  | none => return s.params.zipIdx.map fun (n, i) => args[i]? <|> named.get? n

end AliasTools.Script
