import AliasTools.Editor.Review
import AliasTools.Shell.Options
import AliasTools.Text.Diff
import AliasTools.Trial.Outcome

/-!
# Commands of the shell

The program reviews a file, runs trials, tells its version, or begins to serve an editor.  Each trial is
told in a line that says whether it passed.
-/

namespace AliasTools.Shell

open Script Text Trial Workspace

/-! ## 1. Verdicts of trials -/

structure Console where
  out : String := ""
  err : String := ""
  world : World := {}

abbrev Talk := EStateM Failure Console

def say (line : String) : Talk Unit := modify fun c => { c with out := c.out ++ line ++ "\n" }

def complain (line : String) : Talk Unit := modify fun c => { c with err := c.err ++ line ++ "\n" }

def evaluating {α : Type} (act : Run α) : Talk α := fun c =>
  match act c.world with
  | .ok a w => .ok a { c with world := w }
  | .error e w => .error e { c with world := w }

variable (tty : Bool)

def colored (code line : String) : String := if tty then s!"\x1b[{code}m{line}\x1b[0m" else line

def coloredDiff (line : String) : String :=
  if line.startsWith "-" then colored tty "31" line
  else if line.startsWith "+" then colored tty "32" line
  else if line.startsWith "@@" then colored tty "36" line
  else line

def toldValue (v : Value) : Run String := do
  match v with
  | .none => return "None"
  | .ref a =>
    match ← cellAt a with
    | some (.dict _ _ _) | some (.list false _ _) => return trim (← writePlainYaml perform v)
    | _ => perform (.text v)
  | _ => perform (.text v)

def linesOrOne (s : String) : List String :=
  match lineTexts s with
  | [] => [""]
  | ls => ls

def tellLabeled (label text : String) : Talk Unit := do
  match linesOrOne text with
  | [line] => say s!"  {label}: {line}"
  | ls =>
    say s!"  {label}:"
    ls.forM fun l => say s!"    {l}"

def tellStdout (o : Outcome) : Talk Unit := do if !o.stdout.isEmpty then say s!"  Stdout: {trim o.stdout}"

def relativeTo (root path : Path) : String :=
  if root.top == path.top && root.parts.isPrefixOf path.parts then Path.text ⟨"", path.parts.drop root.parts.length⟩
  else path.text

def tellFailure (o : Outcome) (message : String) : Talk Unit := do
  let at_ := match o.place with
    | some (line, col) => s!" (line {line} col {col})"
    | none => ""
  say (colored tty "31" s!"  Execution Error{at_}")
  say s!"    {message}"
  tellStdout o

/-- Tell what was expected, what came out, and how they differ; only the parts that do not fit, where
    there are such parts. -/
def tellMismatch (tty : Bool) (o : Outcome) : Talk Unit := do
  o.details.forM fun d => say s!"  {d}"
  let (expected, actual) ← evaluating do
    let e ← datumOf o.case.expected
    let a ← datumOf o.actual
    match mismatch? e a with
    | some (e, a) => return (← e.toValue, ← a.toValue)
    | none => return (o.case.expected, o.actual)
  let expected ← evaluating (toldValue expected)
  let actual ← evaluating (toldValue actual)
  tellLabeled "Expected" expected
  tellLabeled "Actual" actual
  let diff := diffLines "expected" "actual" (linesOrOne expected) (linesOrOne actual)
  if !diff.isEmpty then
    say "  Diff:"
    diff.forM fun l => say s!"    {coloredDiff tty l}"
  tellStdout o

def tellOutcome (root : Path) (o : Outcome) : Talk Unit := do
  let file := relativeTo root o.case.path
  let named ← evaluating (perform (.truth o.case.name))
  let label ← if named then do
      pure s!"{file} ({← evaluating (perform (.text o.case.name))})"
    else pure file
  let word := if o.passed then "PASS" else "FAIL"
  say s!"[{word}] {label} (alias: {o.case.aliasName})"
  if o.passed then tellStdout o
  else
    match o.failure with
    | some m => if m.isEmpty then tellMismatch tty o else tellFailure tty o m
    | none => tellMismatch tty o

def tellOutcomes (root : Path) (os : List Outcome) : Talk Unit := do
  os.forM (tellOutcome tty root)
  let passed := os.countP (·.passed)
  say s!"{passed}/{os.length} tests passed"

open Editor

/-! ## 2. Commands -/

inductive Ending where
  | exit (code : Nat)
  | done
  | serve

structure Place where
  files : Files := {}
  env : List (String × String) := []
  tty : Bool := false
  version : String := "0.0.0+unknown"

def rootFor (files : Files) (target : Path) : Path :=
  let folder := if files.isFolder target then target else target.parent
  let above := (List.range (folder.parts.length + 1)).map fun n =>
    (⟨folder.top, folder.parts.take (folder.parts.length - n)⟩ : Path)
  (above.find? fun p => files.isThere (p.join (.ofText configName))).getD folder

def given? (t : Option String) : Option String := t.filter (!·.isEmpty)

variable (p : Place) (o : Options)

def configFor (root : Path) : Run Config := do
  let (c, _) ← loadConfig perform p.files p.env root true
  let service := { c.service with
    token := (given? o.token).orElse fun _ => c.service.token
    baseUrl := (given? o.baseUrl).getD c.service.baseUrl
    silent := c.service.silent || o.silentFetch }
  updateSession fun t => { t with service := service }
  return { c with service := service }

def severityWord : Severity → String
  | .error => "error"
  | .warning => "warning"
  | .information => "information"

def diagnosticLine (path : Path) (d : Diagnostic) : String :=
  s!"{path.text}:{d.range.start.line + 1}:" ++ s!"{d.range.start.character + 1}: {severityWord d.severity} [" ++
    s!"{d.speaker.name}] {d.message}"

def analyze (target : Path) : Talk Ending := do
  if !p.files.isThere target then
    complain s!"File not found: {target.text}"
    return .exit 2
  let found ← evaluating do
    let config ← configFor p o (rootFor p.files target)
    let context ← buildContext perform p.files config none
    resetGvars context.vars.gvars
    match p.files.read target with
    | .error f => fail f.kind f.message
    | .ok source =>
      context.enter
      (review config.levels.semantic source false).alone
  if found.isEmpty then say s!"{target.text}: no issues found"
  found.forM fun d => say (diagnosticLine target d)
  return .exit (if found.isEmpty then 0 else 1)

def casesOrFault (files : Files) (path : Path) : Eval (List Case ⊕ String) :=
  .onFault (.inl <$> readCases files path) (·.kind == .trialForm) fun f => pure (.inr f.message)

def runTrials (target : Path) : Talk Ending := do
  if !p.files.isThere target then
    complain s!"Test path not found: {target.text}"
    return .exit 2
  let root := rootFor p.files target
  let config ← evaluating (configFor p o root)
  let read ← (trialFiles p.files target true).mapM fun f => evaluating (casesOrFault p.files f)
  let (cases, faults) := read.partitionMap id
  let cases := cases.flatten
  faults.forM complain
  if cases.isEmpty then
    say s!"No alias tests found under {target.text}"
    return .exit (if faults.isEmpty then 0 else 1)
  let outcomes ← evaluating (runCases p.files config cases)
  tellOutcomes p.tty root outcomes
  return .exit (if outcomes.all (·.passed) && faults.isEmpty then 0 else 1)

def refuse (f : OptionFault) : Talk Ending := do
  modify fun c => { c with err := c.err ++ usage }
  complain s!"avrae-ls: error: {f.message}"
  return .exit 2

def runOptions : Talk Ending := do
  if o.version then
    say p.version
    return .done
  match o.runTests, given? o.analyze with
  | some path, analyzed =>
    if o.tcp then refuse (.together .runTests .tcp)
    else if analyzed.isSome then refuse (.together .runTests .analyze)
    else runTrials p o (.ofText path)
  | none, some path => if o.tcp then refuse (.together .analyze .tcp) else analyze p o (.ofText path)
  | none, none => return .serve

def runCommand (args : List String) : Talk Ending := do
  match readOptions args with
  | .fault f => refuse f
  | .help =>
    modify fun c => { c with out := c.out ++ description }
    return .exit 0
  | .options o => runOptions p o

end AliasTools.Shell
