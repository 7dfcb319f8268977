import AliasTools.Command.Embed
import AliasTools.Editor.Symbols

/-!
# Reviewing a document

Everything that is said about a document: text that cannot be read, names that nothing before them
defines, shared variables that cannot be found, imports, calls with too few or too many positional
arguments, and mistakes in the use of objects: calling what is no method, reading an attribute of a list
instead of one of its items, using `character` without calling it, or asking for a character or a combat
where there is none.
-/

namespace AliasTools.Editor

open Source Syntax

/-! ## 1. Diagnostics -/

inductive Severity where
  | error | warning | information

def Severity.number : Severity → Nat
  | .error => 1
  | .warning => 2
  | .information => 3

def Severity.named? : String → Option Severity
  | "error" => some .error
  | "warning" => some .warning
  | "info" => some .information
  | _ => none

inductive Fixable where
  | undefinedName | missingGvar | unsupportedImport

def Fixable.code : Fixable → String
  | .undefinedName => "avrae.undefinedName"
  | .missingGvar => "avrae.missingGvar"
  | .unsupportedImport => "avrae.unsupportedImport"

inductive Speaker where
  | checks | run

def Speaker.name : Speaker → String
  | .checks => "avrae-ls"
  | .run => "avrae-ls-runtime"

/-- Something that is said about a range of a document. -/
structure Diagnostic where
  message : String
  range : Range
  severity : Severity
  speaker : Speaker := .checks
  code : Option String := none
  data : Json := .null

def Diagnostic.shift (d : Diagnostic) (lines characters : Int) : Diagnostic :=
  { d with range := d.range.shift lines characters }

def faultRange (sp : Span) : Range :=
  ({ line := some sp.line, column := some (sp.col + 1), endLine := some sp.endLine,
     endColumn := some sp.endCol } : Marked).rangeFromOne

def Diagnostic.atNode (sp : Span) (message level : String) (fix : Option (Fixable × Json) := none) :
    Diagnostic :=
  { message := message
    range := faultRange sp
    severity := (Severity.named? level).getD .warning
    code := fix.map (·.1.code)
    data := (fix.map (·.2)).getD .null }

def syntaxRange (f : SyntaxFault) : Range :=
  match f.place with
  | some p =>
    ({ line := some p.line, column := some p.offset, endLine := some p.endLine,
       endColumn := some p.endOffset } : Marked).rangeFromOne
  | none => ({} : Marked).rangeFromOne

def Diagnostic.ofSyntax (f : SyntaxFault) : Diagnostic :=
  { message := f.message, range := syntaxRange f, severity := .error }

open Script

/-! ## 2. Calls -/

def placed (name : String) (default : Option Value := none) : Parameter :=
  { name := name, default := default, kind := .positional }

def byName (name : String) (default : Value) : Parameter := { name := name, default := some default, kind := .keyword }

def plainForms : List (String × List Parameter) → List Signature := List.map fun (name, ps) => ⟨name, ps, false, false⟩

def callForms : List Signature :=
  plainForms [("len", [placed "obj"]), ("sum", [placed "iterable", optional "start" (.int 0)]),
     ("any", [placed "iterable"]), ("all", [placed "iterable"]), ("abs", [placed "x"]),
     ("enumerate", [needed "iterable", optional "start" (.int 0)]),
     ("float", [placed "x" (some (.int 0))]), ("round", [needed "number", optional "ndigits" .none]),
     ("ceil", [placed "x"]), ("floor", [placed "x"]), ("sqrt", [placed "x"]), ("roll", [needed "dice"]),
     ("vroll", [needed "dice", optional "multiply" (.int 1), optional "add" (.int 0)]), ("rand", []),
     ("randint", [needed "start", optional "stop" .none, optional "step" (.int 1)]),
     ("randchoice", [needed "seq"]),
     ("randchoices", [needed "population", optional "weights" .none, byName "cum_weights" .none, byName "k" (.int 1)]),
     ("typeof", [needed "inst"]), ("parse_coins", [needed "args", optional "include_total" (.bool true)]),
     ("load_json", [needed "s"]), ("dump_json", [needed "obj"]), ("load_yaml", [needed "data"]),
     ("dump_yaml", [needed "obj", optional "indent" (.int 2)]), ("get_gvar", [needed "key"]),
     ("get_svar", [needed "name", optional "default" .none]),
     ("get_uvar", [needed "name", optional "default" .none]), ("get_uvars", []),
     ("set_uvar", [needed "name", needed "value"]), ("set_uvar_nx", [needed "name", needed "value"]),
     ("delete_uvar", [needed "name"]), ("uvar_exists", [needed "name"]), ("exists", [needed "name"]),
     ("get", [needed "name", optional "default" .none])] ++
  ⟨"using", [], false, true⟩ :: plainForms
    [("signature", [optional "data" (.int 0)]), ("verify_signature", [needed "data"])] ++
  [⟨"print", [byName "sep" (.str " " false), byName "end" (.str "\n" false)], true, false⟩]

def fitsCount (s : Signature) (given : Nat) : Bool :=
  let positional := s.params.filter (·.kind != .keyword)
  (positional.filter (·.default.isNone)).length ≤ given && (s.rest || given ≤ positional.length)

/-- Calls with too few or too many arguments at their places. -/
def unfitCalls (body : List Stmt) : List (Span × String) :=
  (readScriptNodes body).filterMap fun
    | .expr (.call _ (.name sp id _) args _) =>
      match callForms.find? (·.label == id) with
      | some s => if fitsCount s args.length then none else some (sp, id)
      | none => none
    | _ => none

/-! ## 3. Names that are not defined -/

/-- What is known while a script is read: the names of each scope, the innermost first, and those that
    nothing defined. -/
structure Naming where
  scopes : List (List String) := [[]]
  missing : List (Span × String) := []

def Naming.define (s : Naming) (names : List String) : Naming :=
  match s.scopes with
  | top :: rest => { s with scopes := (names ++ top) :: rest }
  | [] => { s with scopes := [names] }

def Naming.defines (s : Naming) (name : String) : Bool := s.scopes.any (·.contains name)

def Naming.enter (s : Naming) (names : List String) : Naming := { s with scopes := names :: s.scopes }

def Naming.leave (s : Naming) : Naming := { s with scopes := s.scopes.tail }

def usingNames (f : Expr) (ks : List Keyword) : List String :=
  match f with
  | .name _ "using" _ => ks.filterMap fun | .mk _ n _ => n
  | _ => []

/-- The names of a node are checked in the order in which it is read. -/
def checkNames (known : String → Bool) (s : Naming) (n : Node) : Naming :=
  match n with
  | .stmt (.assign _ ts v _) => (checkNames known s (.expr v)).define (ts.flatMap targetNames)
  | .stmt (.annAssign _ t _ (some v) _) => (checkNames known s (.expr v)).define (targetNames t)
  | .stmt (.annAssign _ t _ none _) => s.define (targetNames t)
  | .stmt (.augAssign _ t _ v) => (checkNames known s (.expr v)).define (targetNames t)
  | .stmt (.functionDef _ name ps body _ _ _ _) =>
    (body.attach.foldl (fun s ⟨b, _⟩ => checkNames known s (.stmt b)) ((s.define [name]).enter ps.names)).leave
  | .stmt (.classDef _ name _ _ body _) =>
    (body.attach.foldl (fun s ⟨b, _⟩ => checkNames known s (.stmt b)) ((s.define [name]).enter [])).leave
  | .stmt (.forLoop _ t i body orelse _ _) =>
    let s := (checkNames known s (.expr i)).define (targetNames t)
    let s := body.attach.foldl (fun s ⟨b, _⟩ => checkNames known s (.stmt b)) s
    orelse.attach.foldl (fun s ⟨b, _⟩ => checkNames known s (.stmt b)) s
  | .stmt (.withBlock _ items body _ _) =>
    let names := items.flatMap fun i => (i.vars.map targetNames).getD []
    body.attach.foldl (fun s ⟨b, _⟩ => checkNames known s (.stmt b)) (s.define names)
  | .expr (.listComp _ e cs) | .expr (.setComp _ e cs) | .expr (.generatorExp _ e cs) =>
    let s := cs.attach.foldl (fun s ⟨c, _⟩ => checkNames known s (.clause c)) (s.enter [])
    (checkNames known s (.expr e)).leave
  | .expr (.dictComp _ k v cs) =>
    let s := cs.attach.foldl (fun s ⟨c, _⟩ => checkNames known s (.clause c)) (s.enter [])
    let s := (checkNames known s (.expr k)).leave
    let s := cs.attach.foldl (fun s ⟨c, _⟩ => checkNames known s (.clause c)) (s.enter [])
    (checkNames known s (.expr v)).leave
  | .clause (.mk t i conditions _) =>
    let s := (checkNames known s (.expr i)).define (targetNames t)
    conditions.attach.foldl (fun s ⟨e, _⟩ => checkNames known s (.expr e)) s
  | .expr (.name sp id use) =>
    if use == .load && !known id && !s.defines id then { s with missing := (sp, id) :: s.missing }
    else s
  | .expr (.namedExpr _ t v) => (checkNames known s (.expr v)).define (targetNames t)
  | .expr (.call sp f args ks) =>
    let s := s.define (usingNames f ks)
    (Expr.call sp f args ks).children.attach.foldl (fun s ⟨c, _⟩ => checkNames known s c) s
  | n => n.children.attach.foldl (fun s ⟨c, _⟩ => checkNames known s c) s
termination_by sizeOf n
decreasing_by
  all_goals first
    | exact Node.sizeOf_lt_of_mem_children (by assumption)
    | (apply Node.sizeOf_lt_of_mem_children
       simp_all [Node.children, Stmt.children, Expr.children, Node.opt])

def undefinedNames (known : String → Bool) (body : List Stmt) : List (Span × String) :=
  (body.foldl (fun s b => checkNames known s (.stmt b)) {}).missing.reverse

open Types

/-! ## 4. Mistakes in the use of objects -/

inductive Usage where
  | member (attr : String)
  | called
  | other

def usedBelow : Node → List (Usage × Node)
  | .expr (.attribute _ v attr _) => [(.member attr, .expr v)]
  | .expr (.call _ f args ks) =>
    (.called, .expr f) :: ((args.map Node.expr ++ ks.map Node.keyword).map (Usage.other, ·))
  | n => n.children.map (Usage.other, ·)

def usedLevels (acc : List (List (Usage × Node))) (level : List (Usage × Node)) : Nat → List (Usage × Node)
  | 0 => acc.reverse.flatten
  | k + 1 =>
    if level.isEmpty then acc.reverse.flatten
    else usedLevels (level :: acc) (level.flatMap fun u => usedBelow u.2) k

def walkUses (body : List Stmt) : List (Usage × Node) :=
  usedLevels [] (body.map fun s => (Usage.other, Node.stmt s)) levelBound

/-- The names that a node binds, as far as they can stand for an object; functions that wait do not
    count. -/
def boundBy : Node → List String
  | .stmt (.assign _ ts _ _) => ts.flatMap targetNames
  | .stmt (.annAssign _ t _ _ _) => targetNames t
  | .stmt (.forLoop _ t _ _ _ _ _) => targetNames t
  | .stmt (.functionDef _ name (.mk _ args _ _ _ _ _) _ _ _ _ false) => name :: args.map (·.name)
  | .stmt (.classDef _ name _ _ _ _) => [name]
  | _ => []

/-- What the use of objects is judged by. -/
structure Judging where
  code : String
  types : TypeTable
  bound : List String
  hasCharacter : Bool
  hasCombat : Bool
  level : String

variable (j : Judging)

def Judging.typeOf (e : Expr) : String :=
  match e.written? with
  | some text => if text.isEmpty then "" else resolveType text j.code j.types
  | none => ""

def Judging.missingContext? : Expr → Option (String × Diagnostic)
  | .name sp "character" _ =>
    if j.hasCharacter then none
    else some ("character", .atNode sp "No character context configured; character() will raise at runtime." j.level)
  | .name sp "combat" _ =>
    if j.hasCombat then none
    else some ("combat", .atNode sp "No combat context configured; combat() will return None." j.level)
  | _ => none

def Judging.calledProperty? : Expr → Option Diagnostic
  | .attribute sp v attr _ =>
    let type := j.typeOf v
    if type.isEmpty then none
    else
      let note := typeNote type
      if (note.methods.lookup attr).isSome || (note.attrs.lookup attr).isNone then none
      else
        let written := v.written?.getD ""
        let receiver := if written.isEmpty then type else written
        some (.atNode sp s!"'{attr}' on {receiver} is a property; drop the parentheses." j.level)
  | _ => none

def Judging.uncalled? (value : Expr) (attr : String) : Option Diagnostic :=
  match value with
  | .name sp id _ =>
    if ["character", "combat"].contains id && !j.bound.contains id then
      some (.atNode sp s!"Call {id}() before accessing '{attr}'." j.level)
    else none
  | _ => none

def Judging.usedCollection? (usage : Usage) (e value : Expr) (attr : String) : Option Diagnostic := do
  let doing ← match usage with
    | .member next => some s!"accessing '{next}'."
    | .called => some "calling it."
    | .other => none
  let type := j.typeOf value
  if type.isEmpty then none
  let note ← (typeNote type).attrs.lookup attr
  if note.element.isEmpty && note.type != "list" && note.type != "dict" then none
  let written := e.written?.getD ""
  let label := if written.isEmpty then attr else written
  let container := if note.type.isEmpty then "collection" else note.type
  let element := if note.element.isEmpty then "items" else note.element
  some (.atNode e.span s!"'{label}' is a {container} of {element}; index or iterate before {doing}" j.level)

def Judging.at (seen : List String) : Usage × Node → List String × List Diagnostic
  | (_, .expr (.call _ f _ _)) =>
    let property := (j.calledProperty? f).toList
    match j.missingContext? f with
    | some (what, d) => if seen.contains what then (seen, property) else (what :: seen, d :: property)
    | none => (seen, property)
  | (usage, .expr (.attribute sp v attr use)) =>
    (seen, (j.uncalled? v attr).toList ++ (j.usedCollection? usage (.attribute sp v attr use) v attr).toList)
  | _ => (seen, [])

def Judging.all (body : List Stmt) : List Diagnostic :=
  ((walkUses body).foldl (fun (seen, acc) u =>
    let (seen, ds) := j.at seen u
    (seen, ds.reverse ++ acc)) ([], [])).2.reverse

def typesForChecks (code : String) : TypeTable :=
  let types := inferTypes code none
  if types.isEmpty then inferTypes (wrapAlias code) none else types

/-! ## 5. The review -/

def nameDiagnostics (known : String → Bool) (level : String) (body : List Stmt) : List Diagnostic :=
  (undefinedNames known body).map fun (sp, name) =>
    .atNode sp s!"'{name}' may be undefined in this scope" level (some (.undefinedName, .obj [("name", .str name)]))

def gvarMentions (body : List Stmt) : List (Span × String) :=
  let mention (e : Expr) : List (Span × String) := (writtenText? e).toList.map fun key => (e.span, key)
  (readScriptNodes body).flatMap fun
    | .expr (.call _ (.name _ "get_gvar" _) (a :: _) _) => mention a
    | .expr (.call _ (.name _ "using" _) _ ks) => ks.flatMap fun | .mk _ _ v => mention v
    | _ => []

variable (level : String) (body : List Stmt)

def gvarDiagnostics : Job (List Diagnostic) := do
  let (_, found) ← (gvarMentions body).foldlM (fun (seen, acc) (sp, key) => do
    if seen.contains key then return (seen, acc)
    if ← Job.ensure key then return (key :: seen, acc)
    let d : Diagnostic := .atNode sp s!"Unknown gvar '{key}'" level (some (.missingGvar, .obj [("gvar", .str key)]))
    return (key :: seen, d :: acc)) (([], []) : List String × List Diagnostic)
  return found.reverse

def importDiagnostics : List Diagnostic :=
  let say (sp : Span) (data : Json) : Diagnostic :=
    .atNode sp "Imports are not supported in draconic aliases" level (some (.unsupportedImport, data))
  (readScriptNodes body).filterMap fun
    | .stmt (.importNames sp ns) =>
      some (say sp ((ns.head?.map fun n => Json.obj [("module", .str n.name)]).getD .null))
    | .stmt (.importFrom sp name _ _) => some (say sp (.obj [("module", (name.map Json.str).getD .null)]))
    | _ => none

def callDiagnostics : List Diagnostic :=
  (unfitCalls body).map fun (sp, name) =>
    .atNode sp s!"Call to '{name}' may have invalid arguments" level

def privateDiagnostics : List Diagnostic :=
  (readScriptNodes body).filterMap fun
    | .expr (.call _ (.attribute sp _ attr _) _ _) =>
      if attr.startsWith "_" then some (.atNode sp "Calling private methods (starting with '_') is not allowed" "error")
      else none
    | _ => none

/-- All that is said about code; if it is not read, only why. -/
def reviewCode (level code : String) : Job (List Diagnostic) := do
  match readCode code with
  | .error fault => return [.ofSyntax fault]
  | .ok ⟨body, shift⟩ =>
    let known ← availableNames
    let session := (← read).session
    let judging : Judging :=
      { code := code
        types := typesForChecks code
        bound := (walkScript body).flatMap boundBy
        hasCharacter := ← perform (.truth session.character)
        hasCombat := ← perform (.truth session.combat)
        level := level }
    let gvars ← gvarDiagnostics level body
    let all := nameDiagnostics known.contains level body ++ gvars ++ importDiagnostics level body ++
      callDiagnostics level body ++ privateDiagnostics body ++ judging.all body
    return all.map (·.shift shift 0)

def plainReview? (text : String) : Option (List Diagnostic) :=
  let preview := Command.Preview.ofCommand text
  match preview.name with
  | some "embed" =>
    some (preview.fault.toList.map fun f =>
      { message := f.message, range := default, severity := .warning })
  | some "echo" => some []
  | _ => none

/-- Each block is reviewed by itself; a document without blocks may be no code at all. -/
def review (level source : String) (isModule : Bool) : Job (List Diagnostic) := do
  let view := View.of source isModule
  if view.blocks.isEmpty then
    match plainReview? view.prepared with
    | some ds => return ds
    | none => reviewCode level view.prepared
  else view.blocks.flatMapM fun b => do return (← reviewCode level b.code).map (·.shift b.line b.column)

end AliasTools.Editor
