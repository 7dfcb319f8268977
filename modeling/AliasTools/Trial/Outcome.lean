import AliasTools.Script.Render
import AliasTools.Trial.Case
import AliasTools.Trial.Expectation
import AliasTools.Workspace.Config

/-!
# Outcomes of trials

A case is run in a context built anew, with the case's own variables and character laid over it.
-/

namespace AliasTools.Trial

open Command Script Sheet Text Workspace

def mergedOver (layer base : Value) : Nat → Run Value
  | 0 => fail .recursion "maximum recursion depth exceeded"
  | fuel + 1 => do
    let merged ← mappingOf perform base
    let start := (← entries? merged).getD #[]
    let layer ← orElse perform layer emptyMap
    let new ← match ← entries? layer with
      | some es => pure es
      | none => fail .attributeError s!"'{← typeName layer}' object has no attribute 'items'"
    let all ← new.foldlM (fun (es : Entries) e => do
      let old := (es.get? e.key).getD .none
      if (← entries? old).isSome && (← entries? e.value).isSome then
        return es.put e.key e.name (← mergedOver e.value old fuel)
      else return es.put e.key e.name e.value) start
    alloc (.dict false all none)

def mergedData (base layer : Value) : Run Value := do mergedOver layer base ((← get).heap.size + 2)

structure Outcome where
  case : Case
  passed : Bool := false
  actual : Value := .none
  stdout : String := ""
  embed : Value := .none
  failure : Option String := none
  details : Option String := none
  place : Option (Int × Int) := none

def caseVars (c : Case) (vars : Vars) : Run Vars := do
  match c.vars with
  | some v => if ← perform (.truth v) then vars.merge (← Vars.ofData perform v) else return vars
  | none => return vars

def caseCharacter (c : Case) (character : Value) : Run Value := do
  match c.character with
  | some v => if ← perform (.truth v) then mergedData character v else return character
  | none => return character

variable (files : Files) (config : Config)

def caseContext (c : Case) : Run Context := do
  let context ← buildContext perform files config none
  resetGvars context.vars.gvars
  let vars ← caseVars c context.vars
  return { context with vars := vars, character := ← caseCharacter c context.character }

/-- What an alias gave: what its command shows, the value of its last script, or the command. -/
def actualOf (r : Rendered) (p : Preview) : Run Value := do
  match p.shown with
  | some s => return .str s false
  | none =>
    let command := trim r.command
    if r.value.isNone then return if command.isEmpty then .none else .str r.command false
    else if command == (← perform (.text r.value)) then return r.value
    else return .str r.command false

def judge (c : Case) (r : Rendered) (p : Preview) : Run Outcome := do
  let actual ← actualOf r p
  let embed ← match p.embed with
    | some e => valueOfJson e.toJson
    | none => pure .none
  let expected ← datumOf c.expected
  if !embed.isNone && expected.isMap then
    let passed := fits expected (← datumOf embed)
    return {
      case := c, passed := passed, actual := embed, stdout := r.stdout, embed := embed
      details := if passed then none else some "Embed preview did not match expected dictionary" }
  else
    let passed := wholeFits expected (← datumOf actual)
    return {
      case := c, passed := passed, actual := actual, stdout := r.stdout, embed := embed
      details := if passed then none else some "Result did not match expected output" }

def runCase (c : Case) : Run Outcome := do
  match files.read c.aliasPath with
  | .error f =>
    return {
      case := c
      failure := some s!"Failed to read alias file {c.aliasPath.text}: {f.message}" }
  | .ok source =>
    (← caseContext files config c).enter
    let r ← (renderAlias source c.args).alone
    match r.failure with
    | some e => return { case := c, stdout := r.stdout, failure := some e.message, place := r.place }
    | none =>
      let p := Preview.ofCommand r.command
      match p.fault with
      | some f => return { case := c, stdout := r.stdout, failure := some f.message }
      | none => judge c r p

def runCases (cases : List Case) : Run (List Outcome) := do
  updateSession fun t => { t with service := config.service }
  cases.mapM (runCase files config)

end AliasTools.Trial
