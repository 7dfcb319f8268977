import AliasTools.Editor.Review
import AliasTools.Workspace.Files

/-!
# Code actions

Changes that an editor offers: snippets around the selection, and fixes for names that nothing defines,
shared variables that cannot be found, and imports.
-/

namespace AliasTools.Editor

open Source Script Text Workspace

structure Edit where
  range : Range
  text : String
deriving DecidableEq

structure Action where
  title : String
  kind : String
  edit : Edit
  fixes : Option Diagnostic := none

def quickFix : String := "quickfix"

def isWanted (kind : String) (only : List String) : Bool :=
  only.isEmpty || only.any fun k => kind.startsWith k || k.startsWith kind

variable (source : String)

def offsetOf (p : Position) : Nat :=
  let ls := linesWithEnds source.toList
  match ls[p.line]? with
  | some l => ((ls.take p.line).map List.length).foldl (· + ·) 0 + min p.character l.length
  | none => source.length

def textIn (r : Range) : String :=
  if r.start == r.stop then ""
  else
    let start := offsetOf source r.start
    String.ofList ((source.toList.take (offsetOf source r.stop)).drop start)

def wholeRange : Range :=
  let ls := lineTexts source
  match ls.getLast? with
  | some l => ⟨⟨0, 0⟩, ⟨ls.length - 1, l.length⟩⟩
  | none => default

structure Snippet where
  key : String
  title : String
  body : String
  kind : String

def contentMark : String := "\x7bcontent\x7d"

def blockSnippet : Snippet where
  key := "drac2Wrapper"
  title := "Wrap in <drac2>…</drac2>"
  body := s!"<drac2>\n{contentMark}\n</drac2>\n"
  kind := "refactor.rewrite"

def snippetFile : String := ".avraels.snippets.json"

def firstText (data : Entries) : List String → Run (Option String)
  | [] => return none
  | n :: ns => do
    match data.get? (.str n) with
    | some v => if ← perform (.truth v) then return some (← perform (.text v)) else firstText data ns
    | none => firstText data ns

def readSnippet? (v : Value) : Run (Option Snippet) := do
  match ← entries? v with
  | none => return none
  | some es =>
    let key := (← firstText es ["key", "title"]).getD ""
    match es.get? (.str "body") with
    | some (.str body _) =>
      if key.isEmpty then return none
      let title := (← firstText es ["title"]).getD key
      let kind := (← firstText es ["kind"]).getD "CodeActionKind.RefactorRewrite"
      return some ⟨key, title, body, kind⟩
    | _ => return none

def snippetsOf (files : Files) (root : Path) : Run (List Snippet) := do
  let more : Run (List Snippet) := do
    match files.read (root.join (Path.ofText snippetFile)) with
    | .error _ => return []
    | .ok text =>
      let data ← readJson text
      let items ← match ← entries? data with
        | some es => pure (es.toList.map (·.value))
        | none => pure ((← listItems? data).getD #[]).toList
      items.filterMapM readSnippet?
  return blockSnippet :: (← tryCatch more fun _ => pure [])

def snippetAction (selection : Range) (s : Snippet) : Action :=
  let chosen := textIn source selection
  let content := if chosen.isEmpty then source else chosen
  { title := s.title
    kind := s.kind
    edit :=
      { range := if chosen.isEmpty then wholeRange source else selection
        text := replaceAll s.body contentMark content } }

def indentAt (line default : Nat) : Nat :=
  match (lines source.toList)[line]? with
  | some l => (l.takeWhile isBlank).length
  | none => default

/-- The line above which a new line is put, and its indentation. -/
def insertionAt (blocks : List Block) (line : Nat) : Nat × Nat :=
  match blocks.find? fun b => b.line ≤ line && line ≤ b.line + b.lineCount - 1 with
  | some b => (b.line, indentAt source b.line b.column)
  | none => (0, indentAt source 0 0)

def insertLine (line indent : Nat) (body : String) : Edit :=
  { range := ⟨⟨line, indent⟩, ⟨line, indent⟩⟩
    text := String.ofList (List.replicate indent ' ') ++ body ++ "\n" }

def asName (label : String) : String :=
  let rec clean (inRun : Bool) : List Char → List Char
    | [] => []
    | c :: rest =>
      if Types.isWordPart c then c :: clean false rest
      else if inRun then clean true rest
      else '_' :: clean true rest
  match clean false label.toList with
  | [] => "gvar_import"
  | c :: rest => (if isDigit c then "gvar_" else "") ++ String.ofList (c :: rest)

def dataText? (d : Diagnostic) (name : String) : Run (Option String) := do
  match d.data with
  | .obj fs =>
    match (Json.obj fs).get? name with
    | some j =>
      let v ← valueOfJson j
      if ← perform (.truth v) then return some (← perform (.text v)) else return none
    | none => return none
  | _ => return none

def fixFor? (blocks : List Block) (d : Diagnostic) : Run (Option Action) := do
  let (line, indent) := insertionAt source blocks d.range.start.line
  if d.code == some Fixable.undefinedName.code then
    return (← dataText? d "name").map fun name =>
      { title := s!"Create stub variable '{name}'", kind := quickFix
        edit := insertLine line indent s!"{name} = None", fixes := some d }
  else if d.code == some Fixable.missingGvar.code then
    return (← dataText? d "gvar").map fun key =>
      { title := s!"Add using() stub for gvar '{key}'", kind := quickFix
        edit := insertLine line indent s!"using({asName key}=\"{key}\")"
        fixes := some d }
  else if d.code == some Fixable.unsupportedImport.code then
    let target := (← dataText? d "module").getD "module"
    return some
      { title := "Replace import with using()", kind := quickFix
        edit := { range := d.range, text := "using(" ++ target ++ "=\"<gvar-id>\")" }
        fixes := some d }
  else return none

def actionsFor (isModule : Bool) (selection : Range) (only : List String)
    (said : List Diagnostic) (files : Files) (root : Path) : Run (List Action) := do
  let blocks := (View.of source isModule false).blocks
  let snippets := (← snippetsOf files root).filter fun s =>
    isWanted s.kind only && !(s.key == blockSnippet.key && !blocks.isEmpty)
  let fixes ← if isWanted quickFix only then said.filterMapM (fixFor? source blocks) else pure []
  return snippets.map (snippetAction source selection) ++ fixes

end AliasTools.Editor
