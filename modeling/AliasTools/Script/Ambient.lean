import AliasTools.Script.Gvars
import AliasTools.Script.YamlValue

/-!
# Functions of a session

What a script can ask of the place where it runs: dice, variables, the character and the fight, data
as text, output, and signatures.
-/

namespace AliasTools.Script

/-! ## 1. Choosing -/

variable (go : Go) (args : List Value) (named : Names)

def wholeArgument (v : Value) (place : String) : Eval Int := do
  match v.asInt? with
  | some n => return n
  | none =>
    let n ← match ← makeInt go [v] [] with
      | .int n => pure n
      | _ => pure 0
    if !(← go (.eq (.int n) v)) then valueFault s!"non-integer {place} for randrange()"
    return n

def chooseNumber : Eval Value := do
  let s : Signature :=
    { label := "Random.randrange"
      params := [needed "self", needed "start", optional "stop" .none, optional "step" .ellipsis] }
  let b ← s.bind (.none :: args) named
  let start ← wholeArgument go (b.get "start") "arg 1"
  let stop := b.get "stop"
  if stop.isNone then
    match b.get "step" with
    | .ellipsis => pure ()
    | _ => typeFault "Missing a non-None stop argument"
    if start > 0 then return .int 0
    valueFault "empty range for randrange()"
  let stop ← wholeArgument go stop "stop"
  let step ← match b.get "step" with
    | .ellipsis => pure 1
    | v => wholeArgument go v "step"
  let width := stop - start
  if step == 1 then
    if width > 0 then return .int start
    valueFault s!"empty range for randrange() ({start}, {stop}, {width})"
  if step == 0 then valueFault "zero step for randrange()"
  let n := if step > 0 then Int.fdiv (width + step - 1) step else Int.fdiv (width + step + 1) step
  if n ≤ 0 then valueFault "empty range for randrange()"
  return .int start

def chooseItem : Eval Value := do
  let s : Signature := { label := "Random.choice", params := [needed "self", needed "seq"] }
  let b ← s.bind (.none :: args) named
  let seq := b.get "seq"
  if (← go (.len seq)) == 0 then fail .indexError "Cannot choose from an empty sequence"
  go (.item seq (.int 0))

def runningSums (acc : List Value) : List Value → Eval (List Value)
  | [] => pure acc.reverse
  | v :: vs => do
    match acc with
    | [] => runningSums [v] vs
    | s :: _ => runningSums ((← addValues go s v) :: acc) vs

def firstAbove (i : Nat) : List Value → Eval Nat
  | [] | [_] => pure i
  | v :: vs => do if ← go (.order .gt v (.float 0.0)) then return i else firstAbove (i + 1) vs

def choiceSums (weights sums : Value) : Eval (Option (List Value)) := do
  if sums.isNone then
    if weights.isNone then return none
    .onFault (do return some (← runningSums go [] (← collect go weights).toList)) (·.kind == .typeError) fun f =>
        match weights with
        | .int n => typeFault s!"The number of choices must be a keyword argument: k={n}"
        | .bool t =>
          typeFault ("The number of choices must be a keyword argument: k=" ++ (if t then "True" else "False"))
        | _ => raise (.fault f)
  else
    if !weights.isNone then typeFault "Cannot specify both weights and cumulative weights"
    return some (← collect go sums).toList

def chooseItems : Eval Value := do
  let keyword (name : String) (v : Value) : Parameter := { name := name, default := some v, kind := .keyword }
  let s : Signature :=
    { label := "Random.choices"
      params := [needed "self", needed "population", optional "weights" .none,
        keyword "cum_weights" .none, keyword "k" (.int 1)] }
  let b ← s.bind (.none :: args) named
  let population := b.get "population"
  let n ← go (.len population)
  let index ← match ← choiceSums go (b.get "weights") (b.get "cum_weights") with
    | none => pure 0
    | some sums =>
      if (sums.length : Int) != n then valueFault "The number of weights does not match the population"
      match sums.getLast? with
      | none => fail .indexError "list index out of range"
      | some total =>
        let total ← addValues go total (.float 0.0)
        if ← go (.order .le total (.float 0.0)) then valueFault "Total of weights must be greater than zero"
        match total with
        | .float x => if !x.isFinite then valueFault "Total of weights must be finite"
        | _ => pure ()
        firstAbove go 0 sums
  let k ← toIndex (b.get "k")
  let items ← (List.range k.toNat).mapM fun _ => go (.item population (.int index))
  alloc (.list false items.toArray none)

open Sheet Text

/-! ## 2. Asking the session -/

variable (go : Go) (f : Builtin) (b : Bound)

def storedText (v : Value) : Eval Value := do if v.isNone then return .none else return .str (← go (.text v)) false

def storeAt (a : Addr) : Eval Entries := do return (← entries? (.ref a)).getD #[]

def putInStore (a : Addr) (name : String) (v : Value) : Eval Unit := alter a (.setEntry (.str name) (.str name false) v)

/-- The value of a name for a script: its own names first, then variables of the character, then of
    the user. -/
def resolveName (name : String) : Eval (Option Value) := do
  match (← scopeNames).get? name with
  | some v => return some v
  | none =>
    let s := (← read).session
    match (← storeAt s.cvars).get? (.str name) with
    | some v => return some v
    | none => return (← storeAt s.uvars).get? (.str name)

def variableFunction : Eval Value := do
  let s := (← read).session
  let name ← go (.text (b.get "name"))
  let default := b.get "default"
  let key : Key := .str name
  match f with
  | .getSvar => return ((← storeAt s.svars).get? key).getD default
  | .getUvar =>
    let v := ((← storeAt s.uvars).get? key).getD default
    if v.isNone then return default else storedText go v
  | .setUvar =>
    let v ← storedText go (b.get "value")
    putInStore s.uvars name v
    return v
  | .setUvarNx =>
    match (← storeAt s.uvars).get? key with
    | some v => return v
    | none =>
      let v ← storedText go (b.get "value")
      putInStore s.uvars name v
      return v
  | .deleteUvar =>
    let old := ((← storeAt s.uvars).get? key).getD .none
    alter s.uvars (.dropEntry key 0)
    return old
  | .uvarExists => return .bool ((← storeAt s.uvars).get? key).isSome
  | .exists => return .bool (← resolveName name).isSome
  | _ => return (← resolveName name).getD default

def userVariables : Eval Value := do
  let es ← storeAt (← read).session.uvars
  let es ← es.mapM fun e => do return { e with value := ← storedText go e.value }
  alloc (.dict false es none)

def playedCharacter : Eval Value := do
  let s := (← read).session
  if !(← go (.truth s.character)) then fail .requiresCharacter "This alias requires an active character."
  match s.characterObject with
  | some v => return v
  | none =>
    let v ← makeOf go .playedCharacter s.character
    updateSession fun s => { s with characterObject := some v }
    return v

def signNumber (v : Value) : Eval Value := do
  let signed ← onFaults [.valueError] (makeInt go [v] []) do
    typeFault s!"Data {← go (.text v)} could not be converted to integer."
  match signed with
  | .int n => return .str s!"mock-signature:{n}" false
  | _ => return .none

/-- The first of some fields that is not empty, as a text. -/
def firstField? (j : Json) (names : List String) : Option String :=
  (names.findSome? fun n => (j.get? n).filter (·.isFilled)).map Json.text

/-- What the service says about a signature: the data that was signed, or what is wrong. -/
def Answer.signed (a : Answer) : Except Fault (List (String × Json)) :=
  let wrong (detail : String) : Except Fault (List (String × Json)) :=
    .error ⟨.valueError, "Failed to verify signature: " ++ detail⟩
  match a, a.content with
  | .failed m, _ => wrong m
  | _, (_, none) => wrong "invalid response body"
  | _, (200, some (.obj fs)) =>
    let j := Json.obj fs
    match j.get? "success", j.get? "data" with
    | some (.bool true), some (.obj d) => .ok d
    | some (.bool true), _ => wrong "malformed response"
    | _, _ => wrong ((firstField? j ["error"]).getD "unsuccessful response")
  | _, (200, _) => wrong "invalid response"
  | _, (status, some j) =>
    match firstField? j ["error", "message"] with
    | some m => wrong s!"{m} (HTTP {status})"
    | none => wrong s!"HTTP {status}"

def Session.verifiedAs? (s : Session) (signature : String) : Option (Except Fault Value) :=
  (s.verified.filter (·.1 == signature)).map (·.2)

def Service.signatureRequest (s : Service) (signature : String) : Request where
  method := "POST"
  url := dropSlashes s.baseUrl ++ "/bot/signature/verify"
  token := s.token.filter (!·.isEmpty)
  body := (Json.obj [("signature", .str signature)]).render

def checkSignature (signature : String) : Eval (Except Fault Value) := do
  match (← request ((← read).session.service.signatureRequest signature)).signed with
  | .ok d => return .ok (← valueOfJson (.obj d))
  | .error f => return .error f

/-- The last check is kept; one of another signature takes its place. -/
def verification (signature : String) : Eval (Except Fault Value) := do
  match (← read).session.verifiedAs? signature with
  | some r => return r
  | none =>
    let r ← checkSignature signature
    updateSession fun s => { s with verified := some (signature, r) }
    return r

def verifySignature (signature : String) : Eval Value := do
  match ← verification signature with
  | .ok v => return v
  | .error f => raise (.fault f)

def printValues : Eval Value := do
  let parts ← b.rest.mapM fun v => do return Value.str (← go (.text v)) false
  let line ← send go (b.get "sep") "join" [← listOf parts]
  let line ← addValues go line (b.get "end")
  match line with
  | .str t _ => updateSession fun s => { s with stdout := s.stdout ++ t }
  | v => typeFault s!"string argument expected, got '{← typeName v}'"
  return .none

def coinFaultKind : CoinFault → FaultKind
  | .unbounded => .overflow
  | .longCount _ => .valueError
  | .notCoins => .invalidArgument

def coinCounts (c : Coins) : Names :=
  [("pp", .int c.pp), ("gp", .int c.gp), ("ep", .int c.ep), ("sp", .int c.sp), ("cp", .int c.cp)]

def coinMap (c : Coins) (total : Bool) : Eval Value := do
  if total then mapOf (coinCounts c ++ [("total", .float (← coinTotal c))]) else mapOf (coinCounts c)

def coinsOf (args includeTotal : Value) : Eval Value := do
  match Coins.parse (← go (.text args)) with
  | .error f => fail (coinFaultKind f) f.message
  | .ok c => coinMap c (← go (.truth includeTotal))

def Builtin.params : Builtin → List Parameter
  | .roll => [needed "dice"]
  | .vroll => [needed "dice", optional "multiply" (.int 1), optional "add" (.int 0)]
  | .parseCoins => [needed "args", optional "include_total" (.bool true)]
  | .loadJson => [needed "s"]
  | .dumpJson => [needed "obj"]
  | .loadYaml => [needed "data"]
  | .dumpYaml => [needed "obj", optional "indent" (.int 2)]
  | .print =>
    [{ name := "sep", default := some (.str " " false), kind := .keyword },
     { name := "end", default := some (.str "\n" false), kind := .keyword }]
  | .getGvar => [needed "address"]
  | .getSvar | .getUvar | .get => [needed "name", optional "default" .none]
  | .setUvar | .setUvarNx => [needed "name", needed "value"]
  | .deleteUvar | .uvarExists | .exists => [needed "name"]
  | .argparse =>
    [needed "args", optional "character" .none, optional "splitter" (.fn .argsplit),
     optional "parse_ephem" (.bool true)]
  | .err => [needed "reason", optional "pm_user" (.bool false)]
  | .signature => [optional "data" (.int 0)]
  | .verifySignature => [needed "sig"]
  | .argsplit => [needed "args"]
  | _ => []

def Builtin.parameters : Signature where
  label := f.label
  params := f.params
  rest := f == .print
  named := f == .using

def ambientBody : Eval Value := do
  match f with
  | .roll =>
    match ← rollText (← go (.text (b.get "dice"))) with
    | none => return .int 0
    | some r => return .int (← liftRoll r.totalInt)
  | .vroll => rollScaled go (← go (.text (b.get "dice"))) (b.get "multiply") (b.get "add")
  | .parseCoins => coinsOf go (b.get "args") (b.get "include_total")
  | .loadJson => readJson (← go (.text (b.get "s")))
  | .dumpJson => return .str (← writeJson go (b.get "obj")) false
  | .loadYaml => loadYaml go (b.get "data")
  | .dumpYaml => return .str (← writeYaml go (b.get "obj") (← indentStep go (b.get "indent"))) false
  | .print => printValues go b
  | .combat => return (← read).session.combatObject
  | .character => playedCharacter go
  | .getGvar => gvarValue (← go (.text (b.get "address")))
  | .getUvars => userVariables go
  | .argparse => readArguments go (b.get "args") (b.get "character") (b.get "splitter") (b.get "parse_ephem")
  | .err => fail .aliasException (← go (.text (b.get "reason")))
  | .using =>
    b.named.forM fun (n, v) => importAs go n v
    return .none
  | .signature => signNumber go (b.get "data")
  | .verifySignature => verifySignature (← go (.text (b.get "sig")))
  | .argsplit =>
    match b.get "args" with
    | .str s _ => listOf ((← splitLine s).map word)
    | v => fail .attributeError s!"'{← typeName v}' object has no attribute 'strip'"
  | f => variableFunction go f b

def callBuiltin (args : List Value) (named : Names) : Eval Value := do
  match f with
  | .len | .min | .max | .sum | .any | .all | .abs | .round | .ceil | .floor | .sqrt | .typeof =>
    callCommon go f args named
  | .time =>
    noArguments "time.time" args named
    return .float 0.0
  | .rand =>
    noArguments "Random.random" args named
    return .float 0.0
  | .randint => chooseNumber go args named
  | .randchoice => chooseItem go args named
  | .randchoices => chooseItems go args named
  | f => ambientBody go f (← f.parameters.bind args named)

end AliasTools.Script
