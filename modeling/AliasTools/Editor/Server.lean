import AliasTools.Editor.Action
import AliasTools.Editor.Hover
import AliasTools.Script.Render
import AliasTools.Workspace.Config

/-!
# The server of an editor

A server holds the open documents and the configuration of the workspace that was loaded, and answers
what an editor asks about a document.
-/

namespace AliasTools.Editor

open Source Script Workspace Text Command Syntax

def hexValue? (c : Char) : Option Nat := if isHexDigit c then Number.digitValue? c else none

def percentBytes (acc : ByteArray) : List Char → ByteArray
  | [] => acc
  | '%' :: a :: b :: rest =>
    match hexValue? a, hexValue? b with
    | some x, some y => percentBytes (acc.push (16 * x + y).toUInt8) rest
    | _, _ => percentBytes (acc.push 37) (a :: b :: rest)
  | c :: rest => percentBytes (acc ++ (String.singleton c).toUTF8) rest
termination_by s => s.length

/-- A text in which bytes may be written as a percent sign and two digits, read. -/
def percentDecoded (s : List Char) : String :=
  let bytes := percentBytes .empty s
  match String.fromUTF8? bytes with
  | some t => t
  | none => String.ofList (bytes.toList.map fun b =>
      if b < 128 then Char.ofNat b.toNat else '�')

def addressPath? (address : String) : Option String :=
  if address.isEmpty then none
  else if address.startsWith "file://" then
    let rest := (address.toList.drop 7).dropWhile fun c => c != '/' && c != '?' && c != '#'
    let path := percentDecoded (rest.takeWhile fun c => c != '?' && c != '#')
    if path.isEmpty then none else some path
  else some address

/-- A document that is open in an editor. -/
structure Document where
  address : Option String
  source : String
  language : String := "avrae"

def moduleEnding : String := ".alias-module"

def Document.isModule (d : Document) : Bool :=
  d.language == "avrae-module" ||
    match d.address with
    | none => false
    | some a =>
      match addressPath? a with
      | some p => (Path.ofText p).text.endsWith moduleEnding
      | none => a.endsWith moduleEnding

def spanRange (sp : Span) : Range := ⟨⟨sp.line - 1, sp.col⟩, ⟨sp.endLine - 1, sp.endCol⟩⟩

def usingRange? (source module : String) : Option Range := do
  if module.isEmpty then none
  let body ← (parseScript source false).toOption
  (walkScript body).findSome? fun
    | .expr (.call sp (.name _ "using" _) _ ks) =>
      if ks.any fun
        | .mk _ (some _) (.constant _ (.str s _)) => s == module
        | _ => false
      then some (spanRange sp) else none
    | _ => none

def failureRange : Failure → Range
  | .script (.form f _ _) => syntaxRange f
  | .script (.invalid _ _ s) | .script (.annotated _ s) | .script (.nested _ s _) => spanRange s.span
  | _ => ⟨⟨0, 0⟩, ⟨0, 1⟩⟩

def Diagnostic.ofFailure (e : Failure) (level : String) (source : Option String) : Diagnostic :=
  let imported := match e, source with
    | .fault ⟨.moduleExecution m, _⟩, some text => usingRange? text m
    | _, _ => none
  { message := e.message
    range := imported.getD (failureRange e)
    severity := (Severity.named? (lowerText level)).getD .error
    speaker := .run }

def unwrapped : Failure → Failure
  | .script (.annotated f _) => .fault f
  | .script (.nested m s i) =>
    match (ScriptError.nested m s i).cause with
    | .fault f => .fault f
    | .error e => .script e
  | e => e

/-- A configuration, with what it was warned about. -/
structure Loaded where
  root : Option Path
  config : Config
  warnings : List String

structure Server where
  files : Files := {}
  env : List (String × String) := []
  documents : List (String × Document) := []
  loaded : Option Loaded := none

namespace Server

variable (s : Server) (d : Document) (p : Position) (profile : Option String)

def document (address : Option String) : Document :=
  (address.bind fun a => s.documents.lookup a).getD { address := address, source := "" }

def workspace : Eval Loaded :=
  match s.loaded with
  | some l => pure l
  | none => fail .runtime "Server has not been initialized"

def folder : Path := (s.loaded.bind (·.root)).getD (.ofText ".")

def load (root : Option Path) : Run Server := do
  let (config, warnings) ← loadConfig perform s.files s.env (root.getD (.ofText ".")) false
  updateSession fun t => { t with service := config.service }
  return { s with loaded := some ⟨root, config, warnings⟩ }

def reload : Run Server := s.load (s.loaded.bind (·.root))

/-- The root, or else the first folder. -/
def rootOf (root : Option String) (folders : List String) : Option Path :=
  let address := match root with
    | some r => if r.isEmpty then folders.head? else some r
    | none => folders.head?
  (address.bind addressPath?).map Path.ofText

def enterContext : Job Context := do
  let l ← s.workspace
  let c ← buildContext perform s.files l.config profile
  .anew c.vars.gvars .finished
  c.enter
  return c

def symbols : List Symbol := symbolsOf d.source d.isModule

def symbolAt? : Option Symbol :=
  let word := documentWord d.source p
  if word.isEmpty then none else lookupSymbol (symbols d) word

def referencesAt (declaration : Bool) : List Range :=
  match symbolAt? d p with
  | some s => references d.source d.isModule (symbols d) s.name declaration
  | none => []

def renameRange? : Option Range := do
  let _ ← symbolAt? d p
  wordRange? d.source p

def renameEdits? (name : String) : Option (List Edit) :=
  if name.isEmpty then none
  else
    match referencesAt d p true with
    | [] => none
    | rs => some (rs.map (⟨·, name⟩))

def findSymbols (query : String) : List (String × Symbol) :=
  let query := (lowerText query).toList
  s.documents.flatMap fun (address, d) =>
    ((symbols d).filter fun x => (findFrom query 0 (lowerText x.name).toList).isSome).map (address, ·)

def codeAt? (d : Document) (p : Position) : Option (String × Nat × Nat) :=
  ((View.of d.source d.isModule).codeAt? p.line p.character).map
    fun (code, line, character) => (code, line.toNat, character.toNat)

def callHelpAt? : Option (FunctionHelp × Nat) := do
  let (code, line, character) ← codeAt? d p
  callHelp? code line character describedFunctions

def completionsAt : Job (List Item) := do
  let _ ← s.enterContext none
  let offered ← contextItems
  match codeAt? d p with
  | some (code, line, character) => return completions code line character offered
  | none => return []

def hoverAt : Job (Option String) := do
  let _ ← s.enterContext none
  match codeAt? d p with
  | some (code, line, character) => hover code line character describedFunctions
  | none => return none

def actionsAt (selection : Range) : Run (List Action) := actionsFor d.source d.isModule selection [] [] s.files s.folder

def reviewDocument : Job (List Diagnostic) := do
  let l ← s.workspace
  let _ ← s.enterContext profile
  review l.config.levels.semantic d.source d.isModule

structure RunReply where
  rendered : Rendered
  preview : Preview
  result : Value
  context : Context
  published : Option (List Diagnostic)

def run (text : Option String) (address profile : Option String) (args : List String) : Job (Option RunReply) := do
  let address := address.filter (!·.isEmpty)
  let d := s.document address
  match text.orElse fun _ => address.map fun _ => d.source with
  | none => return none
  | some body =>
    let context ← s.enterContext profile
    let l ← s.workspace
    let rendered ← renderAlias body args
    let preview := Preview.ofCommand rendered.command
    let result := (preview.shown.map fun t => Value.str t false).getD rendered.value
    let published ← match address with
      | none => pure none
      | some _ => do
        let failed := rendered.failure.toList.map fun e =>
          Diagnostic.ofFailure e l.config.levels.runtime (some body)
        pure (some ((← s.reviewDocument d profile) ++ failed))
    return some ⟨rendered, preview, result, context, published⟩

def refreshGvars (keys : List String) : Job Names := do
  let c ← s.enterContext profile
  .anew c.vars.gvars .finished
  if !keys.isEmpty then discard (Fetching.ensureMany keys : Job _)
  storedGvars

end Server

end AliasTools.Editor
