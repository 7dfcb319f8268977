import AliasTools.Command.Placeholder
import AliasTools.Script.YamlValue
import AliasTools.Workspace.Files

/-!
# Cases of a trial

A file of trials holds cases one after the other: the command that calls an alias, a line of three
dashes, what is expected, and, after another such line, more about the case.
-/

namespace AliasTools.Trial

open Command Script Text Workspace

structure Section where
  command : List String
  expected : List String
  about : List String

def isDivider (line : String) : Bool := trim line == "---"

def startsCase (line : String) : Bool := (trim line).toList.head? == some '!'

def isEmptyLine (line : String) : Bool := (trim line).isEmpty

inductive SectionFault where
  | noCommand
  | noDivider

def isExpectedLine (line : String) : Bool := !isDivider line && !startsCase line

def takeAbout : List String → List String × List String
  | [] => ([], [])
  | line :: rest =>
    if isDivider line then (rest.takeWhile (!startsCase ·), rest.dropWhile (!startsCase ·))
    else ([], line :: rest)

theorem length_takeAbout (lines : List String) : (takeAbout lines).2.length ≤ lines.length := by
  cases lines with
  | nil => simp [takeAbout]
  | cons line rest =>
    simp only [takeAbout]
    split
    · have := (List.dropWhile_suffix (!startsCase ·) (l := rest)).length_le
      simp only [List.length_cons]
      omega
    · simp

def sectionsOf (lines : List String) : List Section × Option SectionFault :=
  match _h : lines.dropWhile isEmptyLine with
  | [] => ([], none)
  | start =>
    let command := start.takeWhile (!isDivider ·)
    if command.isEmpty then ([], some .noCommand)
    else
      match _h' : start.dropWhile (!isDivider ·) with
      | [] => ([], some .noDivider)
      | _ :: rest =>
        let expected := rest.takeWhile isExpectedLine
        let more := takeAbout (rest.dropWhile isExpectedLine)
        let (sections, fault) := sectionsOf more.2
        (⟨command, expected, more.1⟩ :: sections, fault)
termination_by lines.length
decreasing_by
  have h₁ := (List.dropWhile_suffix isEmptyLine (l := lines)).length_le
  have h₂ := (List.dropWhile_suffix (!isDivider ·) (l := lines.dropWhile isEmptyLine)).length_le
  have h₃ := (List.dropWhile_suffix isExpectedLine (l := rest)).length_le
  have h₄ := length_takeAbout (rest.dropWhile isExpectedLine)
  simp only [_h] at h₂
  rw [_h'] at h₂
  simp only [List.length_cons] at h₂
  simp only [_h] at h₁
  omega

structure Case where
  path : Path
  aliasPath : Path
  aliasName : String
  name : Value
  args : List String
  expectedText : String
  expected : Value
  vars : Option Value
  character : Option Value

inductive CaseFault where
  | unreadable (path : Path) (fault : FileFault)
  | form (path : Path) (fault : SectionFault)
  | unclosed (path : Path) (fault : Unclosed)
  | noWords (path : Path)
  | noAlias (name : String) (looked : List Path)
  | aboutForm (path : Path)

def CaseFault.message : CaseFault → String
  | unreadable p f => s!"Failed to read {p.text}: {f.message}"
  | form p .noCommand => p.text ++ " has no command to execute before '---'"
  | form p .noDivider => p.text ++ " is missing a '---' separator"
  | unclosed p u => s!"{p.text} has an invalid command line: {u.message}"
  | noWords p => p.text ++ " has an empty command"
  | noAlias n looked =>
    s!"Could not find alias file for '{n}'. Checked: " ++ String.intercalate ", " (looked.map Path.text)
  | aboutForm p => p.text ++ " metadata after second '---' must be a mapping"

def caseFail {α : Type} (f : CaseFault) : Eval α := fail .trialForm f.message

def namedFor (path : Path) : String :=
  let stem := path.stem.toList
  String.ofList (if "test-".toList.isPrefixOf stem then stem.drop 5 else stem)

def aliasPlaces (path : Path) (name : String) : List Path :=
  let base := if (namedFor path).isEmpty then name else namedFor path
  let names := if base == name then [name] else [name, base]
  names.flatMap fun n => ["", ".alias", ".txt"].map fun ending => path.parent.join (.ofText (n ++ ending))

variable (files : Files) (path : Path)

def aliasFile? (name : String) : Option Path :=
  let found := (aliasPlaces path name).find? files.isThere
  let others := (files.below path.parent false).mergeSort fun a b => a.text ≤ b.text
  found.orElse fun _ => others.find? fun p =>
    p != path && files.isFile p && (p.stem == name || p.stem == namedFor path)

def readLines (lines : List String) : Eval (Option Value) := do
  let text := String.intercalate "\n" lines
  if (trim text).isEmpty then return none
  return some (← readYaml text)

def readAbout (lines : List String) : Eval Entries := do
  match (← readLines lines).getD .none with
  | .none => return #[]
  | v =>
    match ← entries? v with
    | some es => return es
    | none => caseFail (.aboutForm path)

def mappingAt (about : Entries) (name : String) : Eval (Option Value) := do
  let v := (about.get? (.str name)).getD .none
  return if (← entries? v).isSome then some v else none

def commandOf (s : Section) : Eval (String × List String) :=
  match splitWords (trim (String.intercalate "\n" s.command)) with
  | .error u => caseFail (.unclosed path u)
  | .ok [] => caseFail (.noWords path)
  | .ok (w :: ws) => pure (String.ofList (w.toList.dropWhile (· == '!')), ws)

def caseFor (aliasPath : Path) (command : String × List String) (s : Section) : Eval Case := do
  let expected ← readLines s.expected
  let about ← readAbout path s.about
  return {
    path := path, aliasPath := aliasPath, aliasName := command.1
    name := (about.get? (.str "name")).getD .none, args := command.2
    expectedText := String.intercalate "\n" s.expected, expected := expected.getD (.str "" false)
    vars := ← mappingAt about "vars", character := ← mappingAt about "character" }

def caseOf (s : Section) : Eval Case := do
  let command ← commandOf path s
  match aliasFile? files path command.1 with
  | some p => caseFor path p command s
  | none => caseFail (.noAlias command.1 (aliasPlaces path command.1))

def casesOf (files : Files) (path : Path) (fault : Option SectionFault) : List Section → Eval (List Case)
  | [] =>
    match fault with
    | some f => caseFail (.form path f)
    | none => return []
  | s :: rest => do return (← caseOf files path s) :: (← casesOf files path fault rest)

def casesIn (text : String) : Eval (List Case) :=
  let (sections, fault) := sectionsOf (lineTexts text)
  casesOf files path fault sections

def readCases : Eval (List Case) :=
  match files.read path with
  | .error f => caseFail (.unreadable path f)
  | .ok text => casesIn files path text

def pathBefore (a b : Path) : Bool := !(b.parts.lex a.parts)

def trialFiles (target : Path) (deep : Bool) : List Path :=
  if files.isFile target then [target]
  else
    ((files.below target deep).filter fun p =>
      p.name.endsWith ".alias-test" || p.name.endsWith ".aliastest").mergeSort pathBefore

end AliasTools.Trial
