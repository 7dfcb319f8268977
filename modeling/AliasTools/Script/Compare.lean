import AliasTools.Script.Eval

/-!
# Kinds of values

The name of a value's class, what tells values apart as keys, and which values are lists, mappings or
functions.  Equality never fails; the four orders exist between numbers, between texts, between lists,
between tuples, and between sets, where they mean inclusion.
-/

namespace AliasTools.Script

open Number

/-! ## 1. Kinds -/

def Builtin.isNative : Builtin → Bool
  | .len | .min | .max | .sum | .any | .all | .abs | .round | .ceil | .floor | .sqrt | .time
  | .rand => true
  | _ => false

def Builtin.isBound : Builtin → Bool
  | .randint | .randchoice | .randchoices => true
  | _ => false

def watchedSetMethods : List String :=
  ["union", "intersection", "symmetric_difference", "update", "intersection_update",
   "symmetric_difference_update", "add", "pop", "remove", "clear"]

def Cell.className : Cell → String
  | .list g _ _ => if g then "SafeList" else "list"
  | .dict g _ _ => if g then "SafeDict" else "dict"
  | .set g _ _ => if g then "SafeSet" else "set"
  | .closure c => if c.isLambda then "_Lambda" else "_Function"
  | .generator _ => "generator"
  | .counter _ _ => "enumerate"
  | .view .keys _ => "dict_keys"
  | .view .values _ => "dict_values"
  | .view .items _ => "dict_items"
  | .namespace _ => "SimpleNamespace"
  | .object k _ => k.name
  | .roll _ => "SimpleRollResult"
  | .rollPart _ n => n
  | .arguments _ _ => "ParsedArguments"

/-- Whether a method minds how large things get. -/
def Cell.isWatched (c : Cell) (name : String) : Bool :=
  match c with
  | .list g _ _ => g
  | .dict g _ _ => g && (name == "update" || name == "pop")
  | .set g _ _ => g && watchedSetMethods.contains name
  | .generator _ | .view _ _ => false
  | _ => true

/-- The name of a value's class, as errors say it. -/
def World.typeName (w : World) (v : Value) : String :=
  match v with
  | .none => "NoneType"
  | .ellipsis => "ellipsis"
  | .bool _ => "bool"
  | .int _ => "int"
  | .float _ => "float"
  | .complex _ _ => "complex"
  | .str _ _ => "str"
  | .tuple _ => "tuple"
  | .range _ _ _ => "range"
  | .slice _ _ _ => "slice"
  | .ref a => (w.heap[a]?.map Cell.className).getD "object"
  | .cls (.list true) | .cls (.str true) => "ABCMeta"
  | .cls _ => "type"
  | .fn f => if f.isNative then "builtin_function_or_method" else if f.isBound then "method" else "function"
  | .method self name =>
    match self with
    | .str _ true => if name == "maketrans" then "function" else "method"
    | .ref a => if (w.heap[a]?.map (·.isWatched name)).getD true then "method" else "builtin_function_or_method"
    | _ => "builtin_function_or_method"
  | .date t => if t.length > 10 then "datetime" else "date"
  | .node n => n

def typeName (v : Value) : Eval String := do return (← read).typeName v

def floatKey (x : Float) : Key :=
  match toInt? x with
  | some n => .int n
  | none => .float x.toBits

def Cell.unhashable : Cell → Option String
  | .namespace _ => some "types.SimpleNamespace"
  | .list g _ _ => some (if g then "SafeList" else "list")
  | .dict g _ _ => some (if g then "SafeDict" else "dict")
  | .set g _ _ => some (if g then "SafeSet" else "set")
  | .object k _ => some k.name
  | _ => none

mutual

/-- What tells a value apart as a key; `1`, `1.0` and `True` are one key. -/
def hashKey : Value → Eval Key
  | .none => pure .none
  | .ellipsis => pure .ellipsis
  | .bool b => pure (.int (if b then 1 else 0))
  | .int n => pure (.int n)
  | .float x => pure (floatKey x)
  | .complex re im => pure (if im == 0.0 then floatKey re else .complex re.toBits im.toBits)
  | .str s _ => pure (.str s)
  | .tuple items => do return .tuple (← hashKeys items)
  | .range a b c => pure (.range a b c)
  | .slice _ _ _ => typeFault "unhashable type: 'slice'"
  | .ref a => do
    match (← cellAt a).bind Cell.unhashable with
    | some n => typeFault s!"unhashable type: '{n}'"
    | none => return .ref a
  | .cls c => pure (.cls c)
  | .fn f => pure (.fn f)
  | .method self name => do return .method (← hashKey self) name
  | .date t => pure (.date t)
  | .node n => pure (.node n)

def hashKeys : List Value → Eval (List Key)
  | [] => pure []
  | v :: vs => do
    let k ← hashKey v
    return k :: (← hashKeys vs)

end

variable (v : Value)

def hashKey? : Eval (Option Key) := onFaults [.typeError] (some <$> hashKey v) (pure none)

def Value.asInt? : Value → Option Int
  | .int n => some n
  | .bool b => some (if b then 1 else 0)
  | _ => Option.none

def Value.asText? : Value → Option String
  | .str s _ => some s
  | _ => Option.none

def Value.isNone : Value → Bool
  | .none => true
  | _ => false

def listItems? : Eval (Option (Array Value)) := do
  match ← cellOf v with
  | some (.list _ items _) => return some items
  | _ => return none

def entries? : Eval (Option Entries) := do
  match ← cellOf v with
  | some (.dict _ es _) => return some es
  | _ => return none

def members? : Eval (Option Members) := do
  match ← cellOf v with
  | some (.set _ ms _) => return some ms
  | _ => return none

def isMapping : Eval Bool := do return (← entries? v).isSome

def isSequence : Eval Bool := do
  match v with
  | .str _ _ | .tuple _ | .range _ _ _ => return true
  | _ => return (← listItems? v).isSome

/-- Whether two values are known to be one object. -/
def sameValue : Value → Value → Bool
  | .none, .none | .ellipsis, .ellipsis => true
  | .bool a, .bool b => a == b
  | .int a, .int b => a == b && -5 ≤ a && a ≤ 256
  | .tuple [], .tuple [] => true
  | .ref a, .ref b => a == b
  | .cls a, .cls b => a == b
  | .fn a, .fn b => a == b
  | _, _ => false

/-! ## 2. Comparing -/

def Value.asReal? : Value → Option Dice.Num
  | .int n => some (.int n)
  | .bool b => some (.int (if b then 1 else 0))
  | .float x => some (.float x)
  | _ => Option.none

def realIsComplex (r : Dice.Num) (re im : Float) : Bool := im == 0.0 && r.compare? (.float re) == some .eq

def rangeLength (start stop step : Int) : Nat :=
  if step > 0 then ((stop - start + step - 1) / step).toNat
  else if step < 0 then ((start - stop + (-step) - 1) / (-step)).toNat
  else 0

/-- Ranges are equal if they give the same numbers. -/
def sameRange (a b c x y z : Int) : Bool :=
  let n := rangeLength a b c
  n == rangeLength x y z && (n == 0 || (a == x && (n == 1 || c == z)))

/-- The members of a set, or of a view of keys or of pairs. -/
def setLike? (v : Value) : Eval (Option Members) := do
  match ← cellOf v with
  | some (.set _ ms _) => return some ms
  | some (.view .keys d) => return (← entries? (.ref d)).map fun es => es.map fun e => ⟨e.key, e.name⟩
  | some (.view .items d) =>
    match ← entries? (.ref d) with
    | none => return none
    | some es =>
      let ms ← es.toList.filterMapM fun e => do
        match ← hashKey? (.tuple [e.name, e.value]) with
        | some k => return some (⟨k, .tuple [e.name, e.value]⟩ : Member)
        | none => return none
      return some ms.toArray
  | _ => return none

def includedIn (a b : Members) : Bool := a.all fun m => b.has m.key

def orderSets (o : Order) (a b : Members) : Bool :=
  match o with
  | .le => includedIn a b
  | .lt => includedIn a b && a.size < b.size
  | .ge => includedIn b a
  | .gt => includedIn b a && b.size < a.size

variable (go : Go)

/-- An object counts as equal to itself. -/
def sameOrEqual (a b : Value) : Eval Bool := if sameValue a b then pure true else go (.eq a b)

def equalItems : List Value → List Value → Eval Bool
  | [], [] => pure true
  | a :: as, b :: bs => do if ← sameOrEqual go a b then equalItems as bs else return false
  | _, _ => pure false

/-- The order of entries does not matter. -/
def equalEntries (other : Entries) : List Entry → Eval Bool
  | [] => pure true
  | e :: es => do
    match other.get? e.key with
    | none => return false
    | some v => if ← sameOrEqual go e.value v then equalEntries other es else return false

def equalNames (other : Names) : Names → Eval Bool
  | [] => pure true
  | (n, v) :: rest => do
    match other.get? n with
    | none => return false
    | some w => if ← sameOrEqual go v w then equalNames other rest else return false

def equalCells (x y : Cell) : Eval Bool := do
  match x, y with
  | .list _ as _, .list _ bs _ =>
    if as.size != bs.size then return false
    equalItems go as.toList bs.toList
  | .dict _ as _, .dict _ bs _ =>
    if as.size != bs.size then return false
    equalEntries go bs as.toList
  | .namespace as, .namespace bs =>
    if as.length != bs.length then return false
    equalNames go bs as
  | .object k as, .object l bs =>
    if k != l then return false
    equalNames go bs as
  | _, _ => return false

def equalValues (a b : Value) : Eval Bool := do
  match a, b with
  | .none, .none | .ellipsis, .ellipsis => return true
  | .str s _, .str t _ => return s == t
  | .tuple xs, .tuple ys =>
    if xs.length != ys.length then return false
    equalItems go xs ys
  | .range a b c, .range x y z => return sameRange a b c x y z
  | .slice a b c, .slice x y z => equalItems go [a, b, c] [x, y, z]
  | .complex a b, .complex x y => return a == x && b == y
  | .cls c, .cls d => return c == d
  | .fn f, .fn g => return f == g
  | .method s n, .method t m => return n == m && sameValue s t
  | .date s, .date t => return s == t
  | .ref x, .ref y =>
    if x == y then return true
    match ← setLike? a, ← setLike? b with
    | some s, some t => return s.size == t.size && includedIn s t
    | _, _ =>
      match ← cellAt x, ← cellAt y with
      | some c, some d => equalCells go c d
      | _, _ => return false
  | _, .complex re im => return (a.asReal?.map fun r => realIsComplex r re im).getD false
  | .complex re im, _ => return (b.asReal?.map fun r => realIsComplex r re im).getD false
  | _, _ =>
    match a.asReal?, b.asReal? with
    | some r, some s => return r.compare? s == some .eq
    | _, _ => return false

def isAmong (v : Value) : List Value → Eval Bool
  | [] => pure false
  | x :: xs => do if ← sameOrEqual go x v then return true else isAmong v xs

/-- The first items that differ decide, or else the lengths. -/
def orderItems (o : Order) : List Value → List Value → Eval Bool
  | a :: as, b :: bs => do if ← sameOrEqual go a b then orderItems o as bs else go (.order o a b)
  | as, bs => pure (o.holds (compare as.length bs.length))

def orderFault {α : Type} (o : Order) (left right : String) : Eval α :=
  typeFault s!"'{o.symbol}' not supported between instances of '{left}' and '{right}'"

/-- The order of two values; of values that have none it fails. -/
def orderValues (o : Order) (a b : Value) : Eval Bool := do
  match a, b with
  | .str s _, .str t _ => return o.holds (compare s t)
  | .tuple xs, .tuple ys => orderItems go o xs ys
  | _, _ =>
    match a.asReal?, b.asReal? with
    | some r, some s => return (r.compare? s).any o.holds
    | _, _ =>
      match ← setLike? a, ← setLike? b with
      | some s, some t => return orderSets o s t
      | _, _ =>
        match ← cellOf a, ← cellOf b with
        | some (.list _ xs _), some (.list _ ys _) => orderItems go o xs.toList ys.toList
        | some (.list true _ _), _ =>
          match b with
          | .str _ true => orderFault o.swap "str" "list"
          | _ => orderFault o "list" (← typeName b)
        | _, some (.list true _ _) =>
          match a with
          | .str _ _ => orderFault o.swap "list" "str"
          | _ => orderFault o.swap "list" (← typeName a)
        | _, _ =>
          match a, b with
          | .str _ true, _ => orderFault o "str" (← typeName b)
          | _, .str _ true => orderFault o.swap "str" (← typeName a)
          | _, _ => orderFault o (← typeName a) (← typeName b)

end AliasTools.Script
