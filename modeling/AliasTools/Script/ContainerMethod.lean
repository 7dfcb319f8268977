import AliasTools.Script.Arith
import AliasTools.Script.Index
import AliasTools.Script.Signature

/-!
# Methods of lists, dictionaries and sets

Guarded containers keep a recorded size, which every method that watches the limits brings up to date;
the others leave it as it is.  Sorting is stable, by a comparison that may fail: the run that stands at
the front is kept, or turned round when it falls, and each further item is put into its place among
those before it.
-/

namespace AliasTools.Script

open Text

/-! ## 1. Sorting -/

structure Ranked where
  rank : Value
  item : Value

variable (less : Value → Value → Eval Bool)

/-- The length of the run from `i` on in which each item is, or is not, less than the one before. -/
def runEnd (xs : Array Ranked) (falling : Bool) (i : Nat) : Nat → Eval Nat
  | 0 => pure i
  | k + 1 => do
    match xs[i]?, xs[i - 1]? with
    | some a, some b => if (← less a.rank b.rank) == falling then runEnd xs falling (i + 1) k else return i
    | _, _ => return i

def insertionPlace (xs : Array Ranked) (v : Value) (lo hi : Nat) : Nat → Eval Nat
  | 0 => pure lo
  | k + 1 => do
    if lo < hi then
      let mid := lo + (hi - lo) / 2
      match xs[mid]? with
      | some m =>
        if ← less v m.rank then insertionPlace xs v lo mid k
        else insertionPlace xs v (mid + 1) hi k
      | none => return lo
    else return lo

variable (kept : Array Ranked → Change)

def insertAll (sorted : Array Ranked) : List Ranked → Eval (Array Ranked)
  | [] => pure sorted
  | x :: rest => do
    let i ← .cleaning (insertionPlace less sorted x.rank 0 sorted.size (sorted.size + 1)) (kept (sorted ++ x :: rest))
    insertAll (sorted.insertIdxIfInBounds i x) rest

def sortRanked (xs : Array Ranked) : Eval (Array Ranked) := do
  match xs[0]?, xs[1]? with
  | some a, some b =>
    let falling ← less b.rank a.rank
    let n ← runEnd less xs falling 2 xs.size
    let run := xs.extract 0 n
    insertAll less kept (if falling then run.reverse else run) (xs.extract n xs.size).toList
  | _, _ => return xs

variable (go : Go) (name : String) (self : Value) (v : Value) (guarded : Bool) (a b : Members)

/-! ## 2. Recorded sizes -/

def alterMeasured (a : Addr) (what : Alteration) : Eval Unit := do
  alter a what
  match ← cellAt a with
  | some (.set true _ none) => fail .attributeError "'SafeSet' object has no attribute '__approx_len__'"
  | _ => pure ()

def refuseGrowth (total : Int) (message : String) : Eval Unit := do
  if total > (← read).limits.maxConstLen then failWaiting .iterableTooLong message

/-! ## 3. Lists -/

def listParams : Option (List Parameter × Bool) :=
  match name with
  | "append" => some ([needed "obj"], false)
  | "extend" => some ([needed "iterable"], false)
  | "pop" => some ([optional "i" (.int (-1))], false)
  | "remove" | "count" => some ([needed "item"], false)
  | "clear" | "copy" | "reverse" => some ([], false)
  | "insert" => some ([needed "i", needed "item"], false)
  | "index" => some ([needed "item"], true)
  | "sort" => some ([], true)
  | _ => none

def listSignature (params : List Parameter) (rest : Bool) : Signature :=
  let owner := if ["append", "extend", "pop", "remove", "clear"].contains name then
    "safe_list.<locals>.SafeList" else "UserList"
  { label := s!"{owner}.{name}", params := needed "self" :: params, rest := rest,
    named := name == "sort" }

def placeOf (v : Value) (i : Nat) : List Value → Eval (Option Nat)
  | [] => pure none
  | x :: xs => do if ← sameOrEqual go x v then return some i else placeOf v (i + 1) xs

def searchRange (bounds : List Value) (size : Nat) : Eval (Nat × Nat) := do
  let bound (v : Value) : Eval Nat := do
    match v.asInt? with
    | some k => return (if k < 0 then max (k + size) 0 else min k size).toNat
    | none => typeFault "slice indices must be integers or have an __index__ method"
  let lo ← match bounds with
    | v :: _ => bound v
    | [] => pure 0
  let hi ← match bounds with
    | _ :: v :: _ => bound v
    | _ => pure size
  return (lo, hi)

def turned {α : Type} (reverse : Bool) (xs : Array α) : Array α := if reverse then xs.reverse else xs

def sortBy (a : Addr) (key : Value) (reverse : Bool) (items : Array Value) : Eval Unit := do
  let ranked ← items.toList.mapM fun v => do
    if key.isNone then return (⟨v, v⟩ : Ranked) else return ⟨← go (.call key [v] []), v⟩
  let arrange (xs : Array Ranked) : Alteration := .arrange (turned reverse (xs.map (·.item)))
  let sorted ← sortRanked (fun x y => go (.order .lt x y)) (fun xs => .alter a (arrange xs))
    (turned reverse ranked.toArray)
  alter a (arrange sorted)

def sortList (a : Addr) (items : Array Value) (args : List Value) (named : Names) : Eval Unit := do
  let s : PlainSignature := { label := "sort", params := ["key", "reverse"], placed := 0 }
  discard <| s.bind args named
  let reverse ← match named.get? "reverse" with
    | some v => do pure ((← toIndex v) != 0)
    | none => pure false
  sortBy go a ((named.get? "key").getD .none) reverse items

def listMethodOn (a : Addr) (guarded : Bool) (b : Bound) : Eval Value := do
  let items := (← listItems? self).getD #[]
  match name with
  | "append" =>
    if guarded then refuseGrowth ((← sizeOf go self) + 1) "This list is too long"
    alter a (.append (b.get "obj"))
    return .none
  | "extend" =>
    let v := b.get "iterable"
    let other ← if guarded then sizeOf go v else pure 0
    if guarded then refuseGrowth ((← sizeOf go self) + other) "This list is too long"
    alter a (.extend (← collect go v) other)
    return .none
  | "pop" =>
    let i ← toIndex (b.get "i")
    if items.isEmpty then fail .indexError "pop from empty list"
    match place i items.size with
    | none => fail .indexError "pop index out of range"
    | some p =>
      alter a (.takeAt p)
      return items.getD p .none
  | "remove" =>
    match ← placeOf go (b.get "item") 0 items.toList with
    | none => valueFault "list.remove(x): x not in list"
    | some p =>
      alter a (.takeAt p)
      return .none
  | "clear" =>
    alter a .clear
    return .none
  | "insert" =>
    let i ← toIndex (b.get "i")
    let n : Int := items.size
    let p := if i < 0 then max (i + n) 0 else min i n
    alter a (.insert p.toNat (b.get "item"))
    return .none
  | "copy" => if guarded then makeList go items else alloc (.list false items none)
  | "count" =>
    let hits ← items.toList.filterM fun x => sameOrEqual go x (b.get "item")
    return .int hits.length
  | "index" =>
    if b.rest.length > 2 then typeFault s!"index expected at most 3 arguments, got {b.rest.length + 1}"
    let (lo, hi) ← searchRange b.rest items.size
    match ← placeOf go (b.get "item") lo (items.extract lo hi).toList with
    | some p => return .int p
    | none => valueFault ((← go (.shown [] (b.get "item"))) ++ " is not in list")
  | "reverse" =>
    alter a (.arrange items.reverse)
    return .none
  | _ =>
    sortList go a items b.rest b.named
    return .none

def plainListBound (args : List Value) (named : Names) : Eval Bound := do
  let label := "list." ++ name
  match name with
  | "append" => return { values := [("obj", ← oneArgument label args named)] }
  | "extend" => return { values := [("iterable", ← oneArgument label args named)] }
  | "remove" | "count" => return { values := [("item", ← oneArgument label args named)] }
  | "pop" =>
    noKeywords label named
    someArguments name 0 1 args
    return { values := [("i", args.getD 0 (.int (-1)))] }
  | "insert" =>
    noKeywords label named
    someArguments name 2 2 args
    return { values := [("i", args.getD 0 .none), ("item", args.getD 1 .none)] }
  | "index" =>
    noKeywords label named
    someArguments name 1 3 args
    return { values := [("item", args.getD 0 .none)], rest := args.drop 1 }
  | "sort" => return { values := [], rest := args, named := named }
  | _ =>
    noArguments label args named
    return { values := [] }

def listMethod (a : Addr) (guarded : Bool) (args : List Value) (named : Names) : Eval Value := do
  match listParams name with
  | none => typeFault s!"'list' object has no attribute '{name}'"
  | some (params, rest) =>
    let b ← if guarded then (listSignature name params rest).bind (self :: args) named
      else plainListBound name args named
    listMethodOn go name self a guarded b

/-! ## 4. Dictionaries -/

def pairOf (i : Nat) : Eval (Value × Value) := do
  let parts ← onFaults [.typeError] (collect go v)
    (typeFault s!"cannot convert dictionary update sequence element #{i} to a sequence")
  match parts.toList with
  | [k, w] => return (k, w)
  | xs => valueFault s!"dictionary update sequence element #{i} has length {xs.length}; 2 is required"

def entriesUntil (i : Nat) (acc : Entries) : List Value → Eval (Entries × Option Fault)
  | [] => pure (acc, none)
  | v :: vs => do
    let entry : Eval (Except Fault Entry) := .onFault
      (do let (k, w) ← pairOf go v i; return .ok (← entryOf k w)) (fun _ => true)
      fun e => pure (.error e)
    match ← entry with
    | .ok e => entriesUntil (i + 1) (acc.push e) vs
    | .error e => return (acc, some e)

/-- The entries that a value stands for, those of a dictionary or of its pairs, up to the first pair
    that is none. -/
def entriesGiven : Eval (Entries × Option Fault) := do
  match ← entries? v with
  | some es => return (es, none)
  | none => entriesUntil go 0 #[] (← collect go v).toList

def entriesFrom : Eval Entries := do
  match ← entriesGiven go v with
  | (es, none) => return es
  | (_, some e) => raise (.fault e)

def pairsOf : Eval (List (Value × Value)) := do return (← entriesFrom go v).toList.map fun e => (e.name, e.value)

def namedPairs (ns : Names) : List (Value × Value) := ns.map fun (n, v) => (.str n false, v)

def mergeInto (a : Addr) (given : Entries × Option Fault) (named : Names) (counted : Int) : Eval Unit := do
  let es := Entries.merge ((← entries? (.ref a)).getD #[]) given.1.toList
  match given.2 with
  | some e =>
    alter a (.merge es 0)
    raise (.fault e)
  | none => alter a (.merge (← entriesOf es (namedPairs named)) counted)

def dictFromKeys (args : List Value) : Eval Value := do
  someArguments "fromkeys" 1 2 args
  let v := args.getD 1 .none
  let d ← if guarded then makeDict go #[] else alloc (.dict false #[] none)
  let keys ← collect go (args.getD 0 .none)
  keys.toList.forM fun k => go (.setItem d k v)
  return d

def dictMethods : List String :=
  ["clear", "copy", "fromkeys", "get", "items", "keys", "pop", "popitem", "setdefault", "update", "values"]

def dictMethod (a : Addr) (guarded : Bool) (args : List Value) (named : Names) : Eval Value := do
  let es := (← entries? self).getD #[]
  let label := (if guarded then "safe_dict.<locals>.SafeDict." else "dict.") ++ name
  match name with
  | "update" =>
    if guarded then
      let s : Signature := { label := label, params := [needed "self", optional "other_dict" .none], named := true }
      let b ← s.bind (self :: args) named
      let other := b.get "other_dict"
      let extra ← alloc (.dict false (← entriesOf #[] (namedPairs b.named)) none)
      let size := (← sizeOf go other) + (← sizeOf go extra)
      refuseGrowth ((← sizeOf go self) + size) "This dict is too large"
      let given ← if other.isNone then pure (#[], none) else entriesGiven go other
      mergeInto a given b.named size
    else
      someArguments name 0 1 args
      let given ← match args with
        | v :: _ => entriesGiven go v
        | [] => pure (#[], none)
      mergeInto a given named 0
    return .none
  | "pop" =>
    let given := args.length > 1 || named.has "default"
    let (k, default) ← if guarded then do
        let s : Signature := { label := label, params := [needed "self", needed "k", optional "default" .ellipsis] }
        let b ← s.bind (self :: args) named
        pure (b.get "k", b.get "default")
      else do
        noKeywords label named
        someArguments name 1 2 args
        pure (args.getD 0 .none, args.getD 1 .none)
    if es.isEmpty then if given then return default else missingKey go k
    let key ← hashKey k
    match es.get? key with
    | some v =>
      alter a (.dropEntry key (if given then 0 else 1))
      return v
    | none => if given then return default else missingKey go k
  | "get" =>
    noKeywords label named
    someArguments "get" 1 2 args
    match es.get? (← hashKey (args.getD 0 .none)) with
    | some v => return v
    | none => return args.getD 1 .none
  | "setdefault" =>
    noKeywords label named
    someArguments "setdefault" 1 2 args
    let k := args.getD 0 .none
    let key ← hashKey k
    match es.get? key with
    | some v => return v
    | none =>
      let v := args.getD 1 .none
      alter a (.setEntry key k v)
      return v
  | "fromkeys" =>
    noKeywords label named
    dictFromKeys go guarded args
  | _ =>
    noArguments label args named
    match name with
    | "keys" => alloc (.view .keys a)
    | "values" => alloc (.view .values a)
    | "items" => alloc (.view .items a)
    | "copy" => alloc (.dict false es none)
    | "clear" =>
      alter a .clear
      return .none
    | _ =>
      match es.back? with
      | none => fail .keyError "'popitem(): dictionary is empty'"
      | some e =>
        alter a .dropLastEntry
        return .tuple [e.name, e.value]

/-! ## 5. Sets -/

def setMethods : List String :=
  ["add", "clear", "copy", "difference", "difference_update", "discard", "intersection",
   "intersection_update", "isdisjoint", "issubset", "issuperset", "pop", "remove",
   "symmetric_difference", "symmetric_difference_update", "union", "update"]

def membersUntil (acc : Members) : List Value → Eval (Members × Option Value)
  | [] => pure (acc, none)
  | v :: vs => do
    match ← hashKey? v with
    | some k => membersUntil (acc.push ⟨k, v⟩) vs
    | none => return (acc, some v)

def membersGiven : Eval (Members × Option Value) := do
  match ← members? v with
  | some ms => return (ms, none)
  | none =>
    match ← entries? v with
    | some es => return (es.map fun e => ⟨e.key, e.name⟩, none)
    | none =>
      let (ms, odd) ← membersUntil #[] (← collect go v).toList
      return (distinct ms.toList, odd)

def refuseMember (v : Option Value) : Eval Unit :=
  match v with
  | some v => discard <| hashKey v
  | none => pure ()

def asMembers : Eval Members := do
  let (ms, odd) ← membersGiven go v
  refuseMember odd
  return ms

def Members.keys (ms : Members) : Std.HashSet Key := ms.foldl (fun s m => s.insert m.key) {}

def heldBy : Members :=
  let known := b.keys
  a.filter fun m => known.contains m.key

def without : Members :=
  let known := b.keys
  a.filter fun m => !known.contains m.key

def unite : Members := a ++ without b a

def intersect : Members := if b.size > a.size then heldBy a b else heldBy b a

def eitherOnly : Members := without a b ++ without b a

def combineAll (f : Members → Members → Members) (ms : Members) (vs : List Value) : Eval Members :=
  vs.foldlM (fun acc v => do return f acc (← asMembers go v)) ms

def combineInto (a : Addr) (f : Members → Members → Members) (ms : Members) : List Value → Eval Members
  | [] => pure ms
  | v :: vs => do
    let (new, odd) ← .cleaning (membersGiven go v) (.alter a (.exchange ms none))
    let ms := f ms new
    .cleaning (refuseMember odd) (.alter a (.exchange ms none))
    combineInto a f ms vs

def intersectAll (ms : Members) (vs : List Value) : Eval Members :=
  vs.foldlM (fun acc v => do
    let other ← asMembers go v
    return if (← members? v).isSome then intersect acc other else heldBy other acc) ms

def refuseLarge (vs : List Value) : Eval Unit :=
  vs.forM fun v => do refuseGrowth (← sizeOf go v) "This set is too large"

def refuseSum (vs : List Value) : Eval Unit := do
  let own ← sizeOf go self
  let other ← sizeOfAll go vs
  refuseGrowth (own + other) "This set is too large"

def setLabel (name : String) : String := (if guarded then "safe_set.<locals>.SafeSet." else "set.") ++ name

def watchedArgument (name parameter : String) (self : Value) (args : List Value) (named : Names) : Eval Value := do
  if !guarded then return ← oneArgument (setLabel false name) args named
  let s : Signature := { label := setLabel true name, params := [needed "self", needed parameter] }
  return (← s.bind (self :: args) named).get parameter

def watchedRest (name : String) (self : Value) (args : List Value) (named : Names) : Eval (List Value) := do
  if !guarded then
    noKeywords name named
    return args
  let s : Signature := { label := setLabel true name, params := [needed "self"], rest := true }
  return (← s.bind (self :: args) named).rest

def watchedNone (name : String) (self : Value) (args : List Value) (named : Names) : Eval Unit := do
  if !guarded then return ← noArguments (setLabel false name) args named
  let s : Signature := { label := setLabel true name, params := [needed "self"] }
  discard <| s.bind (self :: args) named

def soughtKey : Eval (Option Key) := do
  match ← members? v with
  | some _ => return none
  | none => return some (← hashKey v)

def combineMethod (a : Addr) (guarded : Bool) (args : List Value) (named : Names) : Eval Value := do
  let plain (m : Members) : Eval Value := alloc (.set false m none)
  let made (m : Members) : Eval Value := if guarded then makeSet go m else plain m
  -- To measure the others can change the set, whose members are asked for after that.
  let members : Eval Members := do return (← members? self).getD #[]
  match name with
  | "union" =>
    let vs ← watchedRest guarded name self args named
    if guarded then refuseSum go self vs
    made (← combineAll go unite (← members) vs)
  | "intersection" =>
    let vs ← watchedRest guarded name self args named
    if guarded then refuseLarge go vs
    made (← intersectAll go (← members) vs)
  | "symmetric_difference" =>
    let vs ← if guarded then watchedRest guarded name self args named else pure args
    if guarded then refuseSum go self vs
    let v ← oneArgument (setLabel guarded name) vs (if guarded then [] else named)
    made (eitherOnly (← members) (← asMembers go v))
  | "update" =>
    let vs ← watchedRest guarded name self args named
    let other ← if guarded then sizeOfAll go vs else pure 0
    if guarded then refuseGrowth ((← sizeOf go self) + other) "This set is too large"
    alterMeasured a (.unite (← combineInto go a unite (← members) vs) other)
    return .none
  | "intersection_update" =>
    let vs ← watchedRest guarded name self args named
    if guarded then refuseLarge go vs
    alter a (.exchange (← intersectAll go (← members) vs) none)
    if !guarded then return .none
    let own ← match ← cellAt a with
      | some (.set _ _ (some n)) => pure n
      | _ => fail .attributeError "'SafeSet' object has no attribute '__approx_len__'"
    if vs.isEmpty then typeFault "'int' object is not iterable"
    let sizes ← vs.mapM (sizeOf go)
    recordSize a (sizes.foldl min own)
    return .none
  | "symmetric_difference_update" =>
    let v ← watchedArgument guarded name "s" self args named
    let total ← if guarded then do pure ((← sizeOf go self) + (← sizeOf go v)) else pure 0
    if guarded then refuseGrowth total "This set is too large"
    alter a (.exchange (eitherOnly (← members) (← asMembers go v)) (some total))
    return .none
  | "difference" =>
    noKeywords name named
    plain (← combineAll go without (← members) args)
  | _ =>
    noKeywords name named
    alter a (.exchange (← combineInto go a without (← members) args) none)
    return .none

def setMethod (a : Addr) (guarded : Bool) (args : List Value) (named : Names) : Eval Value := do
  let ms := (← members? self).getD #[]
  let label := setLabel guarded name
  match name with
  | "add" =>
    let v ← watchedArgument guarded name "element" self args named
    if guarded then refuseGrowth ((← sizeOf go self) + 1) "This set is too large"
    let k ← hashKey v
    alterMeasured a (.addMember k v)
    return .none
  | "remove" =>
    let v ← watchedArgument guarded name "element" self args named
    let found := match ← soughtKey v with
      | some k => if ms.has k then some k else none
      | none => none
    match found with
    | some k =>
      alterMeasured a (.dropMember k 1)
      return .none
    | none => missingKey go v
  | "discard" =>
    let v ← oneArgument label args named
    match ← soughtKey v with
    | some k => alter a (.dropMember k 0)
    | none => pure ()
    return .none
  | "pop" =>
    watchedNone guarded name self args named
    match ms.inOrder with
    | [] => fail .keyError "'pop from an empty set'"
    | v :: _ =>
      let k ← hashKey v
      alterMeasured a (.dropMember k 1)
      return v
  | "clear" =>
    watchedNone guarded name self args named
    alter a .clear
    return .none
  | "copy" =>
    noArguments label args named
    alloc (.set guarded ms none)
  | "isdisjoint" =>
    let v ← oneArgument label args named
    return .bool (intersect ms (← asMembers go v)).isEmpty
  | "issubset" =>
    let v ← oneArgument label args named
    return .bool (includedIn ms (← asMembers go v))
  | "issuperset" =>
    let v ← oneArgument label args named
    return .bool (includedIn (← asMembers go v) ms)
  | _ => combineMethod go name self a guarded args named

end AliasTools.Script
