import AliasTools.Script.Compare

/-!
# Values as text

How a value shows what it is, and the text of a value where the two differ.
-/

namespace AliasTools.Script

open Text Number

def showInt (n : Int) : String := String.ofList (intText n)

def intWord (n : Int) : Eval String := if isWritable n then pure (showInt n) else valueFault unwritableText

def showFloat (x : Float) : String := String.ofList (floatText x)

def showPart (x : Float) : List Char :=
  let t := floatText x
  if t.reverse.take 2 == ['0', '.'] then t.take (t.length - 2) else t

def showComplex (re im : Float) : String :=
  if re == 0.0 && !isNegative re then String.ofList (showPart im ++ ['j'])
  else
    let sign := if isNegative im || im.isNaN then [] else ['+']
    let sign := if im.isNaN then ['+'] else sign
    String.ofList ('(' :: showPart re ++ sign ++ showPart im ++ ['j', ')'])

def liftRoll {α : Type} (r : Except Dice.Fault α) : Eval α :=
  match r with
  | .ok a => pure a
  | .error x => fail .rollValue x.message

def showZone (seconds : Int) : String :=
  if seconds == 0 then "datetime.timezone.utc"
  else
    let days := Int.fdiv seconds 86400
    let rest := Int.fmod seconds 86400
    "datetime.timezone(datetime.timedelta(" ++ (if days == 0 then "" else "days=" ++ showInt days ++ ", ") ++
      s!"seconds={rest}))"

def numbersIn (text : List Char) : List Nat :=
  ((text.splitBy fun a b => a.isDigit == b.isDigit).filter fun g => g.all Char.isDigit).map fun g =>
    g.foldl (fun n c => 10 * n + (c.toNat - 48)) 0

def showDate (text : String) : String :=
  let (moment, zone) := (text.toList.drop 10).span fun c => c != '+' && c != '-'
  let date := numbersIn (text.toList.take 10)
  if moment.isEmpty then "datetime.date(" ++ String.intercalate ", " (date.map fun (n : Nat) => showInt n) ++ ")"
  else
    let time := numbersIn moment
    let time := if time.length == 3 && time.getLast? == some 0 then time.take 2 else time
    let zone := match zone with
      | [] => ""
      | sign :: rest =>
        let ahead : Int := match numbersIn rest with
          | [h, m] => h * 3600 + m * 60
          | _ => 0
        ", tzinfo=" ++ showZone (if sign == '-' then -ahead else ahead)
    "datetime.datetime(" ++ String.intercalate ", " ((date ++ time).map fun (n : Nat) => showInt n) ++ zone ++ ")"

def showClass : ClassId → String
  | .str true => "<class 'draconic.types.safe_str.<locals>.str'>"
  | .list true => "<class 'draconic.types.safe_list.<locals>.SafeList'>"
  | .dict true => "<class 'draconic.types.safe_dict.<locals>.SafeDict'>"
  | .set true => "<class 'draconic.types.safe_set.<locals>.SafeSet'>"
  | .object k => s!"<class 'avrae_ls.runtime.api.{k.name}'>"
  | c => s!"<class '{c.name}'>"

def Builtin.label : Builtin → String
  | .len => "len" | .min => "min" | .max => "max" | .sum => "sum" | .any => "any" | .all => "all"
  | .abs => "abs" | .round => "round" | .ceil => "ceil" | .floor => "floor" | .sqrt => "sqrt"
  | .time => "time" | .rand => "random"
  | .typeof | .loadJson | .dumpJson => "_default_builtins.<locals>.<lambda>"
  | .roll => "_roll_dice" | .vroll => "_vroll_dice"
  | .parseCoins => "_parse_coins" | .loadYaml => "_load_yaml" | .dumpYaml => "_dump_yaml"
  | .argsplit => "argsplit"
  | .randint => "Random.randrange" | .randchoice => "Random.choice"
  | .randchoices => "Random.choices"
  | .combat | .character => inner "<lambda>"
  | .print => inner "_print" | .getGvar => inner "_get_gvar" | .getSvar => inner "_get_svar"
  | .getUvar => inner "_get_uvar" | .getUvars => inner "_get_uvars" | .setUvar => inner "_set_uvar"
  | .setUvarNx => inner "_set_uvar_nx" | .deleteUvar => inner "_delete_uvar"
  | .uvarExists => inner "_uvar_exists" | .argparse => inner "_argparse" | .err => inner "_err"
  | .exists => inner "_exists" | .get => inner "_get" | .using => inner "_using"
  | .signature => inner "_signature" | .verifySignature => inner "_verify_signature"
where
  inner (name : String) : String := "MockExecutor._build_builtins.<locals>." ++ name

def showBuiltin (f : Builtin) : String :=
  if f == .rand then "<built-in method random of Random object at 0x>"
  else if f.isNative then s!"<built-in function {f.label}>"
  else if f.isBound then s!"<bound method {f.label} of <random.Random object at 0x>>"
  else s!"<function {f.label} at 0x>"

def commas (parts : List String) : String := String.intercalate ", " parts

def methodOwner (c : Cell) (name : String) : String :=
  match c with
  | .list _ _ _ =>
    if ["append", "extend", "pop", "remove", "clear"].contains name then "safe_list.<locals>.SafeList"
    else "UserList"
  | .dict _ _ _ => "safe_dict.<locals>.SafeDict"
  | .set _ _ _ => "safe_set.<locals>.SafeSet"
  | c => c.className

variable (go : Go) (seen : List Addr)

def showAll (vs : List Value) : Eval (List String) := vs.mapM fun v => go (.shown seen v)

def showEntries (es : List Entry) : Eval (List String) :=
  es.mapM fun e => do
    let k ← go (.shown seen e.name)
    let v ← go (.shown seen e.value)
    return s!"{k}: {v}"

def showNames (seen : List Addr) (ns : Names) : Eval (List String) :=
  ns.mapM fun (n, v) => do return s!"{n}={← go (.shown seen v)}"

def showArgument (a : Argument) : Eval String := do
  let name ← go (.shown seen a.name)
  let value ← go (.shown seen a.value)
  let common := s!" name={name} value={value} pos={a.pos}"
  match a.uses with
  | none => return s!"<Argument{common}>"
  | some n => return s!"<EphemeralArgument{common} uses={n} used={a.used}>"

def showGroups (gs : List ArgumentGroup) : Eval (List String) :=
  gs.mapM fun g => do
    let n ← go (.shown seen g.name)
    let items ← g.items.mapM (showArgument go seen)
    return s!"{n}: [{commas items}]"

def showCell (a : Addr) (c : Cell) : Eval String := do
  let inside := a :: seen
  match c with
  | .list _ items _ =>
    if seen.contains a then return "[...]"
    return s!"[{commas (← showAll go inside items.toList)}]"
  | .dict _ es _ =>
    if seen.contains a then return "\x7b...\x7d"
    return "\x7b" ++ commas (← showEntries go inside es.toList) ++ "\x7d"
  | .set g ms _ =>
    if ms.isEmpty then return if g then "SafeSet()" else "set()"
    if seen.contains a then return if g then "SafeSet(...)" else "set(...)"
    let body := "\x7b" ++ commas (← showAll go inside ms.inOrder) ++ "\x7d"
    return if g then s!"SafeSet({body})" else body
  | .closure c => return s!"<Function {c.name}>"
  | .generator _ => return "<generator object DraconicInterpreter._eval_generatorexp at 0x>"
  | .counter _ _ => return "<enumerate object at 0x>"
  | .view k d =>
    let es := ((← entries? (.ref d)).getD #[]).toList
    let parts ← match k with
      | .keys => showAll go inside (es.map (·.name))
      | .values => showAll go inside (es.map (·.value))
      | .items => showAll go inside (es.map fun e => .tuple [e.name, e.value])
    return s!"{c.className}([{commas parts}])"
  | .namespace ns =>
    if seen.contains a then return "namespace(...)"
    return s!"namespace({commas (← showNames go inside ns)})"
  | .roll _ => return "<avrae_ls.runtime.api.SimpleRollResult object at 0x>"
  | .rollPart of "RollResult" =>
    match ← cellAt of with
    | some (.roll r) => return s!"<RollResult total={← liftRoll r.rolled.totalInt}>"
    | _ => return "<RollResult>"
  | .rollPart _ n => return s!"<{n} object at 0x>"
  | .arguments t _ =>
    let context ← go (.text t.current)
    return "<ParsedArguments parsed=\x7b" ++ commas (← showGroups go inside t.groups) ++
      "\x7d context=" ++ context ++ ">"
  | .object k _ => return s!"<{k.name}>"

def showMethod (seen : List Addr) (self : Value) (name : String) : Eval String := do
  match self with
  | .str _ true =>
    let owner := if ["center", "encode", "expandtabs", "format", "format_map", "join", "ljust",
      "replace", "rjust", "translate", "zfill"].contains name then "safe_str.<locals>.str"
      else "UserString"
    return s!"<bound method {owner}.{name} of {← go (.shown seen self)}>"
  | .ref a =>
    match ← cellAt a with
    | some c =>
      if c.isWatched name then return s!"<bound method {methodOwner c name}.{name} of {← go (.shown seen self)}>"
      else return s!"<built-in method {name} of {c.className} object at 0x>"
    | none => return ""
  | _ => return s!"<built-in method {name} of {← typeName self} object at 0x>"

def showNode (name : String) : String := if name == loopItemClass then "<loop item>" else s!"<ast.{name} object at 0x>"

def showValue (v : Value) : Eval String := do
  match v with
  | .none => return "None"
  | .ellipsis => return "Ellipsis"
  | .bool b => return if b then "True" else "False"
  | .int n => intWord n
  | .float x => return showFloat x
  | .complex a b => return showComplex a b
  | .str s _ => return quote s
  | .tuple [x] => return s!"({← go (.shown seen x)},)"
  | .tuple xs => return s!"({commas (← showAll go seen xs)})"
  | .range a b c =>
    let step ← if c == 1 then pure "" else do pure s!", {← intWord c}"
    return s!"range({← intWord a}, {← intWord b}{step})"
  | .slice a b c => return s!"slice({commas (← showAll go seen [a, b, c])})"
  | .cls c => return showClass c
  | .fn f => return showBuiltin f
  | .method self name => showMethod go seen self name
  | .date t => return showDate t
  | .node n => return showNode n
  | .ref a =>
    match ← cellAt a with
    | some c => showCell go seen a c
    | none => return ""

def textOf (v : Value) : Eval String := do
  match v with
  | .str s _ => return s
  | .ref a =>
    match ← cellAt a with
    | some (.roll r) => return r.full
    | some (.rollPart of "RollResult") =>
      match ← cellAt of with
      | some (.roll r) => liftRoll r.rolled.text
      | _ => go (.shown [] v)
    | _ => go (.shown [] v)
  | .date t => return t
  | _ => go (.shown [] v)

end AliasTools.Script
