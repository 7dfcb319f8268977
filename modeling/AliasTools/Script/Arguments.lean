import AliasTools.Command.Placeholder
import AliasTools.Script.Builtin

/-!
# Tables of arguments

The arguments of a command line as a script sees them.
-/

namespace AliasTools.Script

open Command Text Number

/-! ## 1. Asking -/

def World.argumentsAt (w : World) (a : Addr) : ArgumentTable :=
  match w.heap[a]? with
  | some (.arguments t _) => t
  | _ => {}

def tableAt (a : Addr) : Eval ArgumentTable := do return (← read).argumentsAt a

def changeTable (a : Addr) (what : TableChange) : Eval Unit := .change (.table a what)

def contextTable (a : Addr) : Eval (Option Addr) := do
  let t ← tableAt a
  let k ← hashKey t.current
  return (t.contexts.find? fun c => c.1 == k).map (·.2.2)

def readGroup (r : Reading) (k : Key) (a : Addr) : Eval (List Value) := do
  let t ← tableAt a
  changeTable a (.read k r)
  return r.values (t.items k)

/-- Open the groups under a name: in a table, and in the one that applies in its context. -/
def openGroups (a : Addr) (name : Value) : Eval (Key × Option Addr) := do
  let k ← hashKey name
  changeTable a (.touch k name)
  let context ← contextTable a
  context.forM fun c => changeTable c (.touch k name)
  return (k, context)

def argumentValues (a : Addr) (name : Value) (limited : Bool) : Eval (List Value) := do
  let (k, context) ← openGroups a name
  let own ← readGroup ⟨limited, false⟩ k a
  return own ++ (← context.elim (pure []) (readGroup ⟨limited, false⟩ k))

def lastArgument (a : Addr) (name : Value) (limited : Bool) : Eval (Option Value) := do
  let (k, context) ← openGroups a name
  match ← context.elim (pure []) (readGroup ⟨limited, true⟩ k) with
  | v :: _ => return some v
  | [] => return (← readGroup ⟨limited, true⟩ k a).head?

variable (go : Go) (limited : Bool) (a : Addr)

/-! ## 2. Conversions -/

def callableName (f : Value) : Eval String := do
  let missing : Eval String := do fail .attributeError s!"'{← typeName f}' object has no attribute '__name__'"
  match f with
  | .cls c => return c.name
  | .fn b => return (b.label.splitOn ".").getLast?.getD ""
  | .method _ name => return name
  | _ =>
    match ← cellOf f with
    | some (.closure c) => return c.name
    | _ => missing

def FaultKind.isConversion : FaultKind → Bool
  | .typeError | .valueError | .jsonDecode | .unicodeDecode | .unicodeEncode => true
  | _ => false

def converting {α : Type} (kind : Value) (name : Value) (front : Eval String) (act : Eval α) : Eval α :=
  .onFault act (·.kind.isConversion) fun _ => do
    let front ← front
    let kindName ← callableName kind
    fail .invalidArgument s!"{front} cannot be cast to {kindName} (in \x60{← go (.text name)}\x60)"

def argumentsAs (name default kind limited : Value) : Eval Value := do
  let vs ← argumentValues a name (← go (.truth limited))
  if vs.isEmpty then if default.isNone then return ← alloc (.list false #[] none) else return default
  converting go kind name (pure "One or more arguments") do
    let rs ← vs.mapM fun v => go (.call kind [v] [])
    alloc (.list false rs.toArray none)

def lastAs (name default kind limited : Value) : Eval Value := do
  match ← lastArgument a name (← go (.truth limited)) with
  | none | some .none => return default
  | some v => converting go kind name (go (.text v)) (go (.call kind [v] []))

def lastIsTrue (name limited : Value) : Eval Bool := do
  go (.truth (← lastAs go a name (.bool false) (.cls .bool) limited))

def customName (custom : Value) (name : String) : Eval Value := do
  let v : Value := .str name false
  if custom.isNone then return v
  if ← go (.contains custom v) then go (.item custom v) else return v

def advantageOf (adv dis double : Bool) : Int :=
  if double && !dis then 2 else if dis && !(adv || double) then -1 else if adv && !dis then 1 else 0

def advantage (double boolwise limited custom : Value) : Eval Value := do
  let advName ← customName go custom "adv"
  let disName ← customName go custom "dis"
  let doubleName ← customName go custom "eadv"
  let adv ← lastIsTrue go a advName limited
  let dis ← lastIsTrue go a disName limited
  let ea ← if ← go (.truth double) then lastIsTrue go a doubleName limited else pure false
  let out := advantageOf adv dis ea
  if !(← go (.truth boolwise)) then return .int out
  return match out with
    | -1 => .bool false
    | 1 => .bool true
    | _ => .none

/-! ## 3. Changing -/

/-- A name whose last character is a digit, which gives the uses. -/
def limitedName? (s : List Char) : Option (String × Nat) :=
  s.getLast?.bind fun d =>
    if isDecimal d && !s.dropLast.isEmpty && s.dropLast.all (!isBlank ·) then
      some (String.ofList s.dropLast, (decimalValue? d).getD 0)
    else none

def setArguments (name value : Value) : Eval Unit := do
  let values := ((← listItems? value).map Array.toList).getD [value]
  let named (name : Value) (uses : Option Nat) : List Argument :=
    values.zipIdx.map fun (v, i) => { name := name, value := v, pos := i, uses := uses }
  let k ← hashKey name
  changeTable a (.set k name (named name none))
  match name with
  | .str s _ =>
    match limitedName? s.toList with
    | none => pure ()
    | some (short, n) =>
      let shortName : Value := .str short false
      changeTable a (.set (.str short) shortName (named shortName (some n)))
  | _ => typeFault s!"expected string or bytes-like object, got '{← typeName name}'"

def dropArguments (name : Value) : Eval Unit := do changeTable a (.drop (← hashKey name))

def hasArguments (name : Value) : Eval Bool := do
  let k ← hashKey name
  return !((← tableAt a).items k).isEmpty

def itemPairs (v : Value) : Eval (List (Value × Value)) := do
  match ← go (.attr v "items") with
  | none => fail .attributeError s!"'{← typeName v}' object has no attribute 'items'"
  | some m =>
    let items ← collect go (← go (.call m [] []))
    items.toList.mapM fun p => do
      match (← collect go p).toList with
      | [k, x] => return (k, x)
      | l =>
        if l.length > 2 then valueFault "too many values to unpack (expected 2)"
        else valueFault s!"not enough values to unpack (expected 2, got {l.length})"

def setAll (new : Value) : Eval Unit := do for (k, v) in ← itemPairs go new do setArguments a k v

def newTable (t : ArgumentTable) : Eval Value := alloc (.arguments t none)

def tableOfMapping (d : Value) : Eval Value := do
  let v ← newTable {}
  match v with
  | .ref a => setAll go a d
  | _ => pure ()
  return v

def isArgumentMapping (es : Entries) : Eval Bool :=
  es.toList.allM fun e => do
    match e.name, ← listItems? e.value with
    | .str _ _, some xs => return xs.toList.all fun x => x.asText?.isSome
    | _, _ => return false

def addContext (context args : Value) : Eval Unit := do
  let table ← match ← entries? args with
    | some es =>
      if ← isArgumentMapping es then tableOfMapping go args
      else fail .invalidArgument ("Argument is not in the format dict[str, list[str]] (in " ++ s!"{← go (.text args)})")
    | none =>
      match ← cellOf args with
      | some (.arguments _ _) => pure args
      | _ => fail .invalidArgument s!"Argument is not a dict or ParsedArguments (in {← go (.text args)})"
  let k ← hashKey context
  match table with
  | .ref c => changeTable a (.attach k context c)
  | _ => pure ()

/-! ## 4. Methods -/

def tableParams (name : String) : Option (List Parameter) :=
  let no : Value := .bool false
  match name with
  | "get" | "last" =>
    some [needed "arg", optional "default" .none, optional "type_" (.cls (.str false)), optional "ephem" no]
  | "adv" => some [optional "eadv" no, optional "boolwise" no, optional "ephem" no, optional "custom" .none]
  | "join" => some [needed "arg", needed "connector", optional "default" .none, optional "ephem" no]
  | "ignore" => some [needed "arg"]
  | "update" | "update_nx" => some [needed "new"]
  | "set_context" => some [needed "context"]
  | "add_context" => some [needed "context", needed "args"]
  | "from_dict" => some [needed "d"]
  | "empty_args" => some []
  | _ => none

def tableMethodBody (name : String) (b : Bound) : Eval Value := do
  let arg := b.get "arg"
  match name with
  | "get" => argumentsAs go a arg (b.get "default") (b.get "type_") (b.get "ephem")
  | "last" => lastAs go a arg (b.get "default") (b.get "type_") (b.get "ephem")
  | "adv" => advantage go a (b.get "eadv") (b.get "boolwise") (b.get "ephem") (b.get "custom")
  | "join" =>
    let connector := b.get "connector"
    match ← go (.attr connector "join") with
    | none => fail .attributeError s!"'{← typeName connector}' object has no attribute 'join'"
    | some m =>
      let vs ← argumentsAs go a arg .none (.cls (.str false)) (b.get "ephem")
      let joined ← go (.call m [vs] [])
      if ← go (.truth joined) then return joined else return b.get "default"
  | "ignore" =>
    dropArguments a arg
    for c in (← tableAt a).contexts do dropArguments c.2.2 arg
    return .none
  | "update" =>
    setAll go a (b.get "new")
    return .none
  | "update_nx" =>
    for (k, v) in ← itemPairs go (b.get "new") do if !(← hasArguments a k) && !v.isNone then setArguments a k v
    return .none
  | "set_context" =>
    changeTable a (.enter (b.get "context"))
    return .none
  | "add_context" =>
    addContext go a (b.get "context") (b.get "args")
    return .none
  | "from_dict" => tableOfMapping go (b.get "d")
  | _ => newTable {}

def tableMethod (self : Value) (name : String) (args : List Value) (named : Names) : Eval Value := do
  match tableParams name with
  | none => typeFault "'ParsedArguments' object is not callable"
  | some ps =>
    let s : Signature := { label := "ParsedArguments." ++ name, params := needed "self" :: ps }
    tableMethodBody go a name (← s.bind (self :: args) named)

/-! ## 5. Reading a command line -/

def splitLine (line : String) : Eval (List String) :=
  match splitWords line with
  | .ok ws => pure ws
  | .error u => fail .expectedClosingQuote u.message

structure Given where
  name : Value
  value : Value
  pos : Nat
  uses : Option String := none

def Given.ofFlag (n : FlagName) (value : Value) (pos : Nat) : Given :=
  if n.uses.isEmpty then { name := .str n.name false, value := value, pos := pos }
  else if limited then { name := .str n.name false, value := value, pos := pos, uses := some n.uses }
  else { name := .str (n.name ++ n.uses) false, value := value, pos := pos }

/-- What is given by a flag that had no value in front of the word at `pos`. -/
def givenAlone (waiting : Option FlagName) (pos : Nat) : List Given :=
  (waiting.map fun n => .ofFlag limited n (.bool true) (pos - 1)).toList

/-- Read the word at `pos`, where `waiting` is the flag that waits for its value: what has been given
    then, and the flag that waits afterwards. -/
def takeWord (waiting : Option FlagName) (pos : Nat) (w : String) (guarded : Bool) : List Given × Option FlagName :=
  match Word.ofText w, waiting with
  | .lone name, _ => (givenAlone limited waiting pos ++ [⟨.str name guarded, .bool true, pos, none⟩], none)
  | .flag n, _ => (givenAlone limited waiting pos, some n)
  | .value _, some n => ([.ofFlag limited n (.str w guarded) (pos - 1)], none)
  | .value name, none => ((name.map (.ofFlag limited · (.bool true) pos)).toList, none)

def Argument.ofGiven (g : Given) (uses : Option Nat) : Argument :=
  { name := g.name, value := g.value, pos := g.pos, uses := uses }

def Argument.ofGiven? (g : Given) : Except Fault Argument :=
  match g.uses with
  | none => .ok (.ofGiven g none)
  | some digits =>
    match readInt 10 digits.toList with
    | .ok n => .ok (.ofGiven g (some n.toNat))
    | .error f => .error ⟨.valueError, f.message 10 digits⟩

def argumentsOf (gs : List Given) : Eval (List Argument) :=
  match gs.mapM Argument.ofGiven? with
  | .ok xs => pure xs
  | .error f => raise (.fault f)

/-- Go on reading words: `pos` is the place of the next one, and `waiting` the flag that waits for its
    value. -/
def readWords (limited : Bool) (waiting : Option FlagName) (pos : Nat) : List Value → Eval (List Argument)
  | [] => argumentsOf (givenAlone limited waiting pos)
  | .str w guarded :: vs => do
    let (given, waiting) := takeWord limited waiting pos w guarded
    let first ← argumentsOf given
    return first ++ (← readWords limited waiting (pos + 1) vs)
  | v :: _ => do
    discard <| hashKey v
    typeFault s!"expected string or bytes-like object, got '{← typeName v}'"

def ArgumentTable.ofArguments (xs : List Argument) : ArgumentTable :=
  xs.foldl (fun t x => t.add (.str (x.name.asText?.getD "")) x) {}

def readArguments (args character splitter limited : Value) : Eval Value := do
  let args ← match args with
    | .str _ _ => go (.call splitter [args] [])
    | _ => pure args
  if ← go (.truth character) then fail .moduleNotFound "No module named 'aliasing'"
  let words := (← collect go args).toList
  newTable (.ofArguments (← readWords (← go (.truth limited)) none 0 words))

end AliasTools.Script
