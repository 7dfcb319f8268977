import AliasTools.Number

/-!
# Options of the command line

An option begins with a dash.
-/

namespace AliasTools.Shell

open Text Number

inductive Flag where
  | help | tcp | host | port | stdio | logLevel | analyze | runTests | silentFetch | token | baseUrl
  | version
deriving DecidableEq

namespace Flag

def all : List Flag := [help, tcp, host, port, stdio, logLevel, analyze, runTests, silentFetch, token, baseUrl, version]

def words : Flag → List String
  | help => ["-h", "--help"]
  | tcp => ["--tcp"]
  | host => ["--host"]
  | port => ["--port"]
  | stdio => ["--stdio"]
  | logLevel => ["--log-level"]
  | analyze => ["--analyze"]
  | runTests => ["--run-tests"]
  | silentFetch => ["--silent-gvar-fetch"]
  | token => ["--token"]
  | baseUrl => ["--base-url"]
  | version => ["--version"]

def name (f : Flag) : String := String.intercalate "/" f.words

end Flag

inductive Takes where
  | nothing
  | one
  | atMostOne
deriving DecidableEq

def Flag.takes : Flag → Takes
  | .help | .tcp | .stdio | .silentFetch | .version => .nothing
  | .host | .port | .logLevel | .analyze | .token | .baseUrl => .one
  | .runTests => .atMostOne

structure Options where
  tcp : Bool := false
  host : String := "127.0.0.1"
  port : Int := 2087
  stdio : Bool := false
  logLevel : String := "WARNING"
  analyze : Option String := none
  runTests : Option String := none
  silentFetch : Bool := false
  token : Option String := none
  baseUrl : Option String := none
  version : Bool := false

inductive OptionFault where
  | ambiguous (word : String) (choices : List String)
  | noValue (flag : Flag)
  | unwantedValue (flag : Flag) (value : String)
  | noNumber (flag : Flag) (value : String)
  | unknown (words : List String)
  | together (flag other : Flag)

def OptionFault.message : OptionFault → String
  | ambiguous w cs => s!"ambiguous option: {w} could match " ++ String.intercalate ", " cs
  | noValue f => s!"argument {f.name}: expected one argument"
  | unwantedValue f v => s!"argument {f.name}: ignored explicit argument {quote v}"
  | noNumber f v => s!"argument {f.name}: invalid int value: {quote v}"
  | unknown ws => "unrecognized arguments: " ++ String.intercalate " " ws
  | together f g => s!"{f.name} cannot be combined with {g.name}"

inductive Word where
  | value (text : String)
  /-- An option with the word that it was recognised by, and a value that belongs to the same word. -/
  | option (flag : Flag) (word : String) (own : Option String)
  | letters (flag : Flag) (word : String) (more : String)
  | unknown (text : String)
  | divider

def splitEquals (w : String) : String × Option String :=
  let cs := w.toList
  let before := cs.takeWhile (· != '=')
  if before.length == cs.length then (w, none)
  else (String.ofList before, some (String.ofList (cs.drop (before.length + 1))))

def flagOf? (w : String) : Option Flag := Flag.all.find? fun f => f.words.contains w

def candidates (w : String) : List (String × Word) :=
  let known := Flag.all.flatMap fun f => f.words.map (f, ·)
  if w.startsWith "--" then
    let (start, own) := splitEquals w
    (known.filter fun (_, k) => k.startsWith start).map fun (f, k) => (k, .option f k own)
  else
    let short := String.ofList (w.toList.take 2)
    known.filterMap fun (f, k) =>
      if k == short then some (k, .letters f k (String.ofList (w.toList.drop 2)))
      else if k.startsWith w then some (k, .option f k none)
      else none

def isNegativeNumber (w : String) : Bool :=
  match w.toList with
  | '-' :: cs =>
    let rest := cs.dropWhile isDecimal
    (!cs.isEmpty && rest.isEmpty) ||
      (match rest with
        | '.' :: ds => !ds.isEmpty && ds.all isDecimal
        | _ => false)
  | _ => false

def readWord (w : String) : Except OptionFault Word :=
  if w.isEmpty || !w.startsWith "-" || w == "-" then .ok (.value w)
  else
    match flagOf? w with
    | some f => .ok (.option f w none)
    | none =>
      let (start, own) := splitEquals w
      match own, flagOf? start with
      | some v, some f => .ok (.option f start (some v))
      | _, _ =>
        match candidates w with
        | [(_, x)] => .ok x
        | [] => .ok (if isNegativeNumber w || w.toList.contains ' ' then .value w else .unknown w)
        | cs => .error (.ambiguous w (cs.map (·.1)))

def readWords : List String → Except OptionFault (List Word)
  | [] => .ok []
  | "--" :: ws => .ok (.divider :: ws.map .value)
  | w :: ws => do
    let x ← readWord w
    return x :: (← readWords ws)

def Word.text : Word → String
  | .value t | .unknown t => t
  | .option _ w _ | .letters _ w _ => w
  | .divider => "--"

inductive Reading where
  | options (o : Options)
  | help
  | fault (f : OptionFault)

def Options.set (o : Options) : Flag → Options
  | .tcp => { o with tcp := true }
  | .stdio => { o with stdio := true }
  | .silentFetch => { o with silentFetch := true }
  | .version => { o with version := true }
  | .runTests => { o with runTests := some "." }
  | _ => o

def Options.setTo (o : Options) (f : Flag) (v : String) : Except OptionFault Options :=
  match f with
  | .host => .ok { o with host := v }
  | .port =>
    match readInt? 10 v.toList with
    | some n => .ok { o with port := n }
    | none => .error (.noNumber f v)
  | .logLevel => .ok { o with logLevel := v }
  | .analyze => .ok { o with analyze := some v }
  | .runTests => .ok { o with runTests := some v }
  | .token => .ok { o with token := some v }
  | .baseUrl => .ok { o with baseUrl := some v }
  | f => .ok (o.set f)

/-- The value that the letters after a one-letter option give it, though it takes none. -/
def valueInLetters? (word : String) : List Char → Option String
  | [] => none
  | c :: cs =>
    if c == '-' then some (String.ofList (c :: cs))
    else if word == String.ofList ['-', c] then
      match cs with
      | '=' :: v => some (String.ofList v)
      | cs => valueInLetters? word cs
    else none

def readFrom (o : Options) (extras : List String) : List Word → Reading
  | [] => if extras.isEmpty then .options o else .fault (.unknown extras.reverse)
  | .option f _ own :: ws =>
    match own, f.takes with
    | some v, .nothing => .fault (.unwantedValue f v)
    | some v, _ =>
      match o.setTo f v with
      | .ok o => readFrom o extras ws
      | .error e => .fault e
    | none, .nothing => if f == .help then .help else readFrom (o.set f) extras ws
    | none, takes =>
      match ws with
      | .value v :: rest =>
        match o.setTo f v with
        | .ok o => readFrom o extras rest
        | .error e => .fault e
      | ws => if takes == .one then .fault (.noValue f) else readFrom (o.set f) extras ws
  | .letters f w more :: ws =>
    match valueInLetters? w more.toList with
    | some v => .fault (.unwantedValue f v)
    | none => if f == .help then .help else readFrom (o.set f) extras ws
  | w :: ws => readFrom o (w.text :: extras) ws

def readOptions (args : List String) : Reading :=
  match readWords args with
  | .ok ws => readFrom {} [] ws
  | .error e => .fault e

def usage : String :=
  "usage: avrae-ls [-h] [--tcp] [--host HOST] [--port PORT] [--stdio]\n" ++
  "                [--log-level LOG_LEVEL] [--analyze FILE] [--run-tests [PATH]]\n" ++
  "                [--silent-gvar-fetch] [--token TOKEN] [--base-url BASE_URL]\n" ++
  "                [--version]\n"

def description : String :=
  usage ++ "\nAvrae draconic alias language server\n\noptions:\n" ++
  "  -h, --help            show this help message and exit\n" ++
  "  --tcp                 Run in TCP mode instead of stdio\n" ++
  "  --host HOST           TCP host (when --tcp is set)\n" ++
  "  --port PORT           TCP port (when --tcp is set)\n" ++
  "  --stdio               Accept stdio flag for VS Code clients (ignored)\n" ++
  "  --log-level LOG_LEVEL\n" ++
  "                        Logging level (DEBUG, INFO, WARNING, ERROR)\n" ++
  "  --analyze FILE        Run diagnostics for a file and print them to stdout\n" ++
  "  --run-tests [PATH]    Run alias tests in PATH (defaults to current\n" ++
  "                        directory)\n" ++
  "  --silent-gvar-fetch   Silently ignore gvar fetch failures and treat them as\n" ++
  "                        None\n" ++
  "  --token TOKEN         Avrae API token (overrides config)\n" ++
  "  --base-url BASE_URL   Avrae API base URL (overrides config)\n" ++
  "  --version             Print version and exit\n"

end AliasTools.Shell
