import AliasTools.Json.Read
import AliasTools.Toml.Read
import AliasTools.Workspace.Files

/-!
# Versions of a release

A version has three numbers with points between them.
-/

namespace AliasTools.Release

open Number Script Text Workspace

inductive Level where
  | major | minor | patch

def Level.ofWord? : String → Option Level
  | "major" => some .major
  | "minor" => some .minor
  | "patch" => some .patch
  | _ => none

variable (version : String) (p : Path) (fields : List (String × Json))

def versionParts : String × String × String :=
  match version.splitOn "." with
  | [] => ("0", "0", "0")
  | [a] => (a, "0", "0")
  | [a, b] => (a, b, "0")
  | a :: b :: c :: _ => (a, b, c)

def raiseNumber (text : String) : Except Fault String :=
  match readInt 10 text.toList with
  | .ok n =>
    if isWritable (n + 1) then .ok (String.ofList (intText (n + 1)))
    else .error ⟨.valueError, unwritableText⟩
  | .error f => .error ⟨.valueError, f.message 10 text⟩

def raiseVersion (level : Level) (version : String) : Except Fault String := do
  let (major, minor, patch) := versionParts version
  match level with
  | .major => return s!"{← raiseNumber major}.0.0"
  | .minor => return s!"{major}.{← raiseNumber minor}.0"
  | .patch => return s!"{major}.{minor}.{← raiseNumber patch}"

def afterDigits? : List Char → Option (List Char)
  | c :: cs => if isAsciiDigit c then some (cs.dropWhile isAsciiDigit) else none
  | [] => none

def afterChar? (c : Char) : List Char → Option (List Char)
  | d :: cs => if d == c then some cs else none
  | [] => none

/-- What follows a version line at the front: the word, an equals sign and a version of three numbers in
    quotes. -/
def afterVersion? (cs : List Char) : Option (List Char) := do
  let word := "version".toList
  if !word.isPrefixOf cs then none
  let r ← afterChar? '=' ((cs.drop word.length).dropWhile isBlank)
  let r ← afterChar? '"' (r.dropWhile isBlank)
  let r ← afterChar? '.' (← afterDigits? r)
  let r ← afterChar? '.' (← afterDigits? r)
  afterChar? '"' (← afterDigits? r)

def replaceVersion (version : String) : List Char → List Char
  | [] => []
  | c :: cs =>
    match afterVersion? (c :: cs) with
    | some rest => "version = \"".toList ++ version.toList ++ '"' :: rest
    | none => c :: replaceVersion version cs

def setField (name : String) (v : Json) : List (String × Json) → List (String × Json)
  | [] => [(name, v)]
  | (n, w) :: rest => if n == name then (n, v) :: rest else (n, w) :: setField name v rest

def manifestWith : Json := .obj (setField "version" (.str version) fields)

def packagesWith : Json → Json
  | .obj ps =>
    match ps.lookup "" with
    | some (.obj own) => .obj (setField "" (manifestWith version own) ps)
    | _ => .obj ps
  | j => j

def lockWith : Json :=
  let fields := setField "version" (.str version) fields
  match fields.lookup "packages" with
  | some ps => .obj (setField "packages" (packagesWith version ps) fields)
  | none => .obj fields

abbrev Work := EStateM Fault Files

def settingsPath : Path := .ofText "pyproject.toml"

def manifestPath : Path := .ofText "vscode-extension/package.json"

def lockPath : Path := .ofText "vscode-extension/package-lock.json"

def readFile : Work String := do
  match (← get).read p with
  | .ok s => return s
  | .error f => throw ⟨f.kind, f.message⟩

def writeFile (s : String) : Work Unit := modify fun fs => fs.write p s

def settingsVersion (text : String) : Except Fault String :=
  match Toml.parse text with
  | none => .error ⟨.tomlDecode, ""⟩
  | some t =>
    match t.lookup "project" with
    | none => .error ⟨.keyError, "'project'"⟩
    | some (.table project) =>
      match project.lookup "version" with
      | none => .error ⟨.keyError, "'version'"⟩
      | some (.text v) => .ok v
      | some _ => .error ⟨.attributeError, "object has no attribute 'split'"⟩
    | some _ => .error ⟨.typeError, "indices must be integers"⟩

def readManifest : Work (List (String × Json)) := do
  let text ← readFile p
  match Json.parse text with
  | .error f => throw ⟨if f.isForm then .jsonDecode else .valueError, f.message text⟩
  | .ok (.obj fs) => return fs
  | .ok _ => throw ⟨.attributeError, "object has no attribute 'get'"⟩

def writeManifest (j : Json) : Work Unit := writeFile p s!"{j.renderLines 2}\n"

def orFail {α : Type} : Except Fault α → Work α
  | .ok a => pure a
  | .error f => throw f

/-- Raise the version of the project, of its extension and of the lock, which may be missing; the lines
    that say so. -/
def release (level : Level) : Work (List String) := do
  let settings ← readFile settingsPath
  let old ← orFail (settingsVersion settings)
  let new ← orFail (raiseVersion level old)
  writeFile settingsPath (String.ofList (replaceVersion new settings.toList))
  let manifest ← readManifest manifestPath
  writeManifest manifestPath (manifestWith new manifest)
  let said := [s!"Bumped pyproject version {old} -> {new}", "Bumped vscode-extension/package.json version " ++
      ((manifest.lookup "version").getD (.str new)).text ++ " -> " ++ new]
  if (← get).isThere lockPath then
    let lock ← readManifest lockPath
    writeManifest lockPath (lockWith new lock)
    let was := (lock.lookup "version").getD .null
    if was.isFilled then
      return said ++ [s!"Bumped vscode-extension/package-lock.json version {was.text} -> {new}"]
  return said

end AliasTools.Release
