import AliasTools.Shell.Command

/-!
# The program

Reads the files below the folder that it is started in, carries its command line out and says what came
of it.
-/

open AliasTools AliasTools.Script AliasTools.Shell AliasTools.Workspace

namespace AliasTools.Program

def isWanted (path : String) : Bool :=
  let parts := path.splitOn "/"
  !parts.contains ".git" && !parts.contains "node_modules"

def readFiles : IO Files := do
  let here ← IO.currentDir
  let top := here.toString ++ "/"
  let paths ← here.walkDir fun p => pure (isWanted p.toString)
  let mut files : Files := {}
  for p in paths do
    if !(← p.isDir) then
      try
        let text ← IO.FS.readFile p
        files := files.write (.ofText (String.ofList (p.toString.toList.drop top.length))) text
      catch _ => pure ()
  return files

def namesIn (text : String) : List String :=
  let isPart (c : Char) : Bool := c.isAlphanum || c == '_'
  ((text.toList.splitBy fun a b => isPart a == isPart b).filter fun g => g.all isPart).map String.ofList

def readEnv (files : Files) : IO (List (String × String)) := do
  let configs := files.files.filter fun f => f.1.getLast? == some configName
  let names := (configs.flatMap fun f => namesIn f.2).eraseDups
  names.filterMapM fun n => do return (← IO.getEnv n).map (n, ·)

end AliasTools.Program

def main (args : List String) : IO UInt32 := do
  let files ← Program.readFiles
  let place : Shell.Place := { files := files, env := ← Program.readEnv files, tty := ← (← IO.getStdout).isTty }
  let (ending, console) := match runCommand place args { world := { gvars := some [] } } with
    | .ok e c => (some e, c)
    | .error f c => (none, { c with err := c.err ++ f.message ++ "\n" })
  IO.print console.out
  IO.eprint console.err
  match ending with
  | some (.exit n) => return n.toUInt32
  | some .done => return 0
  | some .serve =>
    IO.eprintln "no editor to serve: use --analyze or --run-tests"
    return 2
  | none => return 1
