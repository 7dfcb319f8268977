import AliasTools.Workspace.Profile

/-!
# The configuration of a workspace

A file in the workspace's folder names a service, profiles and files of variables.
-/

namespace AliasTools.Workspace

open Script Sheet Text

def isNameChar (c : Char) : Bool := isAlnum c || c == '_'

/-- The name that a text refers to at its beginning, and how much is read for it behind the dollar sign. -/
def reference? : List Char → Option (List Char × Nat)
  | '$' :: '\x7b' :: s =>
    let name := s.takeWhile (· != '\x7d')
    if name.isEmpty || name == s then none else some (name, name.length + 2)
  | '$' :: s =>
    let name := s.takeWhile isNameChar
    if name.isEmpty then none else some (name, name.length)
  | _ => none

def expandText (env : List (String × String)) : List Char → List Char × List String
  | [] => ([], [])
  | c :: s =>
    match reference? (c :: s) with
    | some (name, n) =>
      let (out, missing) := expandText env (s.drop n)
      match env.lookup (.ofList name) with
      | some v => (v.toList ++ out, missing)
      | none => (out, .ofList name :: missing)
    | none =>
      let (out, missing) := expandText env s
      (c :: out, missing)
termination_by s => s.length

mutual

def expandEnv (env : List (String × String)) : Json → Json × List String
  | .str s =>
    let (t, missing) := expandText env s.toList
    (.str (.ofList t), missing)
  | .arr xs =>
    let (xs, missing) := expandItems env xs
    (.arr xs, missing)
  | .obj fs =>
    let (fs, missing) := expandFields env fs
    (.obj fs, missing)
  | j => (j, [])

def expandItems (env : List (String × String)) : List Json → List Json × List String
  | [] => ([], [])
  | x :: xs =>
    let (x, m) := expandEnv env x
    let (xs, ms) := expandItems env xs
    (x :: xs, m ++ ms)

def expandFields (env : List (String × String)) : List (String × Json) → List (String × Json) × List String
  | [] => ([], [])
  | (n, x) :: fs =>
    let (x, m) := expandEnv env x
    let (fs, ms) := expandFields env fs
    ((n, x) :: fs, m ++ ms)

end

structure Levels where
  semantic : String := "warning"
  runtime : String := "error"

structure Config where
  root : Path
  service : Service := {}
  varFiles : List Path := []
  defaultProfile : String := "default"
  profiles : List (String × Profile) := []
  levels : Levels := {}
deriving Inhabited

def configName : String := ".avraels.json"

def Config.sample (root : Path) : Eval Config := do return { root := root, profiles := [("default", ← Profile.sample)] }

variable (go : Go) (files : Files)

def textUnlessBlank (v : Value) : Eval (Option String) := do
  if v.isNone then return none
  let s ← go (.text v)
  return if (trim s).isEmpty then none else some s

def textOrDefault (data : Value) (name default : String) : Eval String := do
  let v ← send go data "get" [word name]
  if ← go (.truth v) then go (.text v) else return default

def readProfile (name : String) (data : Value) : Eval Profile := do
  let get (n : String) : Eval Value := send go data "get" [word n]
  let ctx ← mappingOf go (← get "ctx")
  let combat ← mappingOf go (← get "combat")
  let character ← mappingOf go (← get "character")
  let vars ← Vars.ofData go (← get "vars")
  return { name := name, ctx := ctx, combat := combat, character := character, vars := vars
           description := ← textOrDefault go data "description" "" }

def readConfig (root : Path) (raw : Value) (fetchByDefault : Bool) : Eval (Config × List String) := do
  let get (n : String) : Eval Value := send go raw "get" [word n]
  let fetches ← go (.truth (← send go raw "get" [word "enableGvarFetch", .bool fetchByDefault]))
  let service ← orElse go (← get "avraeService") emptyMap
  let baseUrl ← textOrDefault go service "baseUrl" ({} : Service).baseUrl
  let token ← textUnlessBlank go (← send go service "get" [word "token"])
  let levels ← orElse go (← get "diagnostics") emptyMap
  let semantic ← textOrDefault go levels "semanticLevel" "warning"
  let runtime ← textOrDefault go levels "runtimeLevel" "error"
  let files ← collect go (← send go raw "get" [word "varFiles", ← emptyList])
  let varFiles := files.toList.filterMap fun v => v.asText?.map fun s => root.join (.ofText s)
  let listed ← orElse go (← get "profiles") emptyMap
  let profiles ← (← itemPairs go listed).mapM fun (k, v) => do
    let name ← go (.text k)
    return (name, ← readProfile go name v)
  let chosen ← textOrDefault go raw "defaultProfile" "default"
  let config : Config :=
    { root := root
      service := { fetches := fetches, token := token, baseUrl := baseUrl }
      varFiles := varFiles
      levels := { semantic := lowerText semantic, runtime := lowerText runtime } }
  match profiles with
  | [] => return ({ config with profiles := [("default", ← Profile.sample)] }, [])
  | (first, _) :: _ =>
    if profiles.any (·.1 == chosen) then return ({ config with profiles := profiles, defaultProfile := chosen }, [])
    return ({ config with profiles := profiles, defaultProfile := first },
      [s!"defaultProfile '{chosen}' not found; falling back to first profile in file."])

def workspaceEnv (env : List (String × String)) (root : Path) : List (String × String) :=
  env ++ [("workspaceRoot", root.text), ("workspaceFolder", root.text)]

def missingWarning (name : String) : String :=
  s!"{configName}: environment variable '{name}' is not set; substituting an empty string."

def readFile (p : Path) : Eval String :=
  match files.read p with
  | .ok s => pure s
  | .error f => fail f.kind f.message

def configOfText (env : List (String × String)) (root : Path) (fetchByDefault : Bool) (text : String) :
    Eval (Config × List String) := do
  match Json.parse text with
  | .error f =>
    if !f.isForm then valueFault (f.message text)
    return (← Config.sample root, [s!"Failed to parse {configName}: {f.message text}"])
  | .ok raw =>
    let (raw, missing) := expandEnv (workspaceEnv env root) raw
    let missing := missing.eraseDups.mergeSort fun a b => a ≤ b
    let (config, more) ← readConfig go root (← valueOfJson raw) fetchByDefault
    return (config, missing.map missingWarning ++ more)

def loadConfig (env : List (String × String)) (root : Path) (fetchByDefault : Bool) : Eval (Config × List String) := do
  let path := root.join (.ofText configName)
  if !files.isThere path then
    let c ← Config.sample root
    return ({ c with service := { c.service with fetches := fetchByDefault } }, [])
  configOfText go env root fetchByDefault (← readFile files path)

/-- Where a shared variable of a file comes from: the value itself, a file that it names, or nowhere
    because the name is bad. -/
def gvarSource (v : Value) : Eval (Value ⊕ Option String) := do
  match ← entries? v with
  | none => return .inl v
  | some es =>
    let named := match es.get? (.str "filePath") with
      | some .none | none => (es.get? (.str "path")).getD .none
      | some p => p
    match named with
    | .none => return .inl v
    | .str s _ => return .inr (if (trim s).isEmpty then none else some s)
    | _ => return .inr none

def gvarsOfFile (varFile : Path) (gvars : Value) : Eval Value := do
  let es := (← entries? gvars).getD #[]
  let out ← es.foldlM (fun (out : Entries) e => do
    let put (v : Value) : Eval Entries := do
      let name ← go (.text e.name)
      return out.put (.str name) (word name) v
    match ← gvarSource e.value with
    | .inl v => put v
    | .inr none => return out
    | .inr (some p) =>
      match files.read (varFile.parent.join (.ofText p)) with
      | .ok text => put (word text)
      | .error _ => return out) #[]
  alloc (.dict false out none)

def fileVars (config : Config) : Eval Vars := do
  config.varFiles.foldlM (fun vars path => do
    match files.read path with
    | .error _ => return vars
    | .ok text =>
      match Json.parse text with
      | .error f =>
        if !f.isForm then valueFault (f.message text)
        return vars
      | .ok .null => return vars
      | .ok j =>
        let own ← Vars.ofData go (← valueOfJson j)
        vars.merge { own with gvars := ← gvarsOfFile go files path own.gvars }) (← Vars.empty)

def Config.profile? (c : Config) (name : Option String) : Option Profile :=
  ((name.filter (!·.isEmpty)).bind fun n => c.profiles.lookup n).orElse fun _ =>
    (c.profiles.lookup c.defaultProfile).orElse fun _ => (c.profiles.map (·.2)).head?

def buildContext (c : Config) (name : Option String) : Eval Context := do
  match c.profile? name with
  | none => fail .stopIteration ""
  | some p => p.build go (← fileVars go files c)

end AliasTools.Workspace
