import AliasTools.Script.Traceback

/-!
# Files of a workspace

The files below the workspace's folder, by path.  A path is a row of names, with slashes in front when
it starts at the top.
-/

namespace AliasTools.Workspace

open Text

structure Path where
  top : String
  parts : List String
deriving DecidableEq, Inhabited

namespace Path

def ofText (s : String) : Path :=
  let slashes := s.toList.takeWhile (· == '/')
  let top := match slashes.length with
    | 0 => ""
    | 2 => "//"
    | _ => "/"
  ⟨top, ((cutAt '/' s.toList).map String.ofList).filter fun p => !p.isEmpty && p != "."⟩

variable (p : Path)

def text : String := if p.top.isEmpty && p.parts.isEmpty then "." else p.top ++ String.intercalate "/" p.parts

def isAbsolute : Bool := !p.top.isEmpty

def join (a b : Path) : Path := if b.isAbsolute then b else ⟨a.top, a.parts ++ b.parts⟩

def name : String := p.parts.getLast?.getD ""

def parent : Path := ⟨p.top, p.parts.dropLast⟩

def suffix : String :=
  let cs := p.name.toList
  match findLastFrom ['.'] 0 none cs with
  | some i => if 0 < i && i + 1 < cs.length then String.ofList (cs.drop i) else ""
  | none => ""

def stem : String := String.ofList (p.name.toList.take (p.name.length - p.suffix.length))

end Path

structure Files where
  files : List (List String × String) := []
  folders : List (List String) := []

inductive FileFault where
  | missing (path : Path)
  | isFolder (path : Path)
  | notFolder (path : Path)

def FileFault.message : FileFault → String
  | .missing p => "[Errno 2] No such file or directory: " ++ quote p.text
  | .isFolder p => "[Errno 21] Is a directory: " ++ quote p.text
  | .notFolder p => "[Errno 20] Not a directory: " ++ quote p.text

def FileFault.kind : FileFault → Script.FaultKind
  | .missing _ => .fileMissing
  | .isFolder _ => .isFolder
  | .notFolder _ => .notFolder

namespace Files

variable (fs : Files) (parts : List String) (p : Path)

def find? : Option String := fs.files.lookup parts

def hasFolder : Bool :=
  parts.isEmpty || fs.folders.any (fun d => parts.isPrefixOf d) ||
    fs.files.any fun f => parts.isPrefixOf f.1 && parts.length < f.1.length

def walk (fs : Files) (done : List String) : List String → Option (List String)
  | [] => some done
  | ".." :: rest => if done.isEmpty || !fs.hasFolder done then none else walk fs done.dropLast rest
  | p :: rest => walk fs (done ++ [p]) rest

def resolve? : Option (List String) := if p.isAbsolute then none else walk fs [] p.parts

def isFile : Bool := ((fs.resolve? p).bind fs.find?).isSome

def isFolder : Bool := ((fs.resolve? p).map fs.hasFolder).getD false

def isThere : Bool := fs.isFile p || fs.isFolder p

def plainLines : List Char → List Char → List Char
  | acc, [] => acc.reverse
  | acc, '\r' :: '\n' :: rest => plainLines ('\n' :: acc) rest
  | acc, '\r' :: rest => plainLines ('\n' :: acc) rest
  | acc, c :: rest => plainLines (c :: acc) rest

def throughFile : Bool := fs.files.any fun f => f.1.isPrefixOf parts && f.1.length < parts.length

def read : Except FileFault String :=
  match fs.resolve? p with
  | none => .error (.missing p)
  | some parts =>
    match fs.find? parts with
    | some s => .ok (String.ofList (plainLines [] s.toList))
    | none =>
      if fs.hasFolder parts then .error (.isFolder p)
      else if fs.throughFile parts then .error (.notFolder p)
      else .error (.missing p)

def write (s : String) : Files :=
  match fs.resolve? p with
  | none => fs
  | some parts =>
    if fs.files.any (·.1 == parts) then
      { fs with files := fs.files.map fun f => if f.1 == parts then (parts, s) else f }
    else { fs with files := fs.files ++ [(parts, s)] }

def makeFolder : Files := { fs with folders := fs.folders ++ [p.parts] }

def below (deep : Bool) : List Path :=
  match fs.resolve? p with
  | none => []
  | some parts =>
    let inside := (fs.files.map (·.1) ++ fs.folders).filter fun f =>
      parts.isPrefixOf f && parts.length < f.length
    let steps (f : List String) : List (List String) :=
      let rest := f.drop parts.length
      (List.range (if deep then rest.length else 1)).map fun n => rest.take (n + 1)
    (inside.flatMap steps).eraseDups.map fun rest => p.join ⟨"", rest⟩

end Files

end AliasTools.Workspace
