import AliasTools.Script.Compare

/-!
# Going through values

The *size* of a value counts the items of everything it holds, and the characters of texts; what occurs
twice counts once.  A cursor is a place in a value that is being gone through.
-/

namespace AliasTools.Script

/-! ## 1. Sizes -/

def lengthOf? (v : Value) : Eval (Option Int) := do
  match v with
  | .str s _ => return some s.length
  | .tuple xs => return some xs.length
  | .range a b c => return some (rangeLength a b c)
  | .ref a =>
    match ← cellAt a with
    | some (.list _ xs _) => return some xs.size
    | some (.dict _ es _) => return some es.size
    | some (.set _ ms _) => return some ms.size
    | some (.view _ d) => return some ((← entries? (.ref d)).getD #[]).size
    | some (.arguments t _) => return some t.groups.length
    | _ => return none
  | _ => return none

def lengthOf (v : Value) : Eval Int := do
  match ← lengthOf? v with
  | some n => return n
  | none => typeFault s!"object of type '{← typeName v}' has no len()"

def truthOf (v : Value) : Eval Bool := do
  match v with
  | .none => return false
  | .bool b => return b
  | .int n => return n != 0
  | .float x => return x != 0.0
  | .complex a b => return a != 0.0 || b != 0.0
  | _ =>
    match ← lengthOf? v with
    | some n => return n != 0
    | none => return true

/-- What a size is made of: one that is known, or the length and the values inside; a value that can
    only be gone through says so with its cursor. -/
inductive Makeup where
  | known (n : Int)
  | holds (length : Int) (children : List Value)
  | runs (c : Cursor)

def recordSize (a : Addr) (n : Int) : Eval Unit := alter a (.measure n)

def keptSize (guarded : Bool) (n : Option Int) : Option Int := if guarded then n else none

def makeup (v : Value) : Eval Makeup := do
  match v with
  | .str s _ => return .known s.length
  | .tuple xs => return .holds xs.length xs
  | .range a b c => return .known (rangeLength a b c)
  | .ref a =>
    match ← cellAt a with
    | some (.list g xs n) =>
      match keptSize g n with
      | some n => return .known n
      | none => return .holds xs.size xs.toList
    | some (.set g ms n) =>
      match keptSize g n with
      | some n => return .known n
      | none => return .holds ms.size (ms.toList.map (·.value))
    | some (.dict g es n) =>
      match keptSize g n with
      | some n => return .known n
      | none => return .holds es.size (es.toList.map fun e => .tuple [e.name, e.value])
    | some (.view k d) =>
      let es := ((← entries? (.ref d)).getD #[]).toList
      return .holds es.length (es.map fun e =>
        match k with
        | .keys => e.name
        | .values => e.value
        | .items => .tuple [e.name, e.value])
    | some (.arguments t n) =>
      return match n with
        | some n => .known n
        | none => .holds t.groups.length (t.groups.map (·.name))
    | some (.namespace ns) =>
      return match (ns.get? "__approx_len__").bind Value.asInt? with
        | some n => .known n
        | none => .holds 0 []
    | some (.generator _) | some (.counter _ _) => return .runs (.cell a)
    | _ => return .known 0
  | _ => return .known 0

def Value.isSmall : Value → Bool
  | .none | .ellipsis | .bool _ | .int _ | .float _ | .complex _ _ | .cls _ | .fn _ => true
  | _ => false

variable (go : Go) (v : Value) (seen : Visited)

def wasVisited : Eval Bool := do
  match ← hashKey? v with
  | some k => return seen.keys.contains k
  | none => isAmong go v seen.others

def visit : Eval Visited := do
  match ← hashKey? v with
  | some k => return { seen with keys := seen.keys.insert k }
  | none => return { seen with others := v :: seen.others }

def sizeOfChildren (n : Int) (seen : Visited) : List Value → Eval (Int × Visited)
  | [] => pure (n, seen)
  | v :: vs => do
    if v.isSmall then sizeOfChildren n seen vs
    else if ← wasVisited go v seen then sizeOfChildren n seen vs
    else
      let (m, seen) ← go (.size v seen)
      sizeOfChildren (n + m) (← visit v seen) vs

def sizeOfRun (n : Int) (seen : Visited) (c : Cursor) : Nat → Eval (Int × Visited)
  | 0 => raise .outOfFuel
  | k + 1 => do
    match ← go (.next c) with
    | none => return (n, seen)
    | some (v, c) =>
      if v.isSmall then sizeOfRun n seen c k
      else if ← wasVisited go v seen then sizeOfRun n seen c k
      else
        let (m, seen) ← go (.size v seen)
        sizeOfRun (n + m) (← visit v seen) c k

def runLimit : Nat := Number.twoTo 40

def sizeBeside : Eval (Int × Visited) := do
  match ← makeup v with
  | .known n => return (n, seen)
  | .holds n children =>
    let seen ← if seen.keys.isEmpty && seen.others.isEmpty then visit v seen else pure seen
    let (n, seen) ← sizeOfChildren go n seen children
    match v with
    | .ref a => recordSize a n
    | _ => pure ()
    return (n, seen)
  | .runs c => sizeOfRun go 0 seen c runLimit

def sizeOf : Eval Int := do
  if v.isSmall then return 0
  let (n, _) ← go (.size v {})
  return n

def sizeOfPair (k v : Value) : Eval Int := do return (← sizeOf go k) + (← sizeOf go v)

def sizeOfAll (vs : List Value) : Eval Int := vs.foldlM (fun n v => do return n + (← sizeOf go v)) 0

def makeSized (c : Cell) : Eval Value := do
  let r ← alloc c
  match r with
  | .ref a => recordSize a (← sizeOf go r)
  | _ => pure ()
  return r

def makeList (items : Array Value) : Eval Value := makeSized go (.list true items none)

def makeDict (es : Entries) : Eval Value := makeSized go (.dict true es none)

def makeSet (ms : Members) : Eval Value := makeSized go (.set true ms none)

/-- A value as a script gets to see it: plain texts, lists, dictionaries and sets become guarded
    copies. -/
def guardValue : Eval Value := do
  match v with
  | .str s _ => return .str s true
  | .ref a =>
    match ← cellAt a with
    | some (.list false xs _) => makeList go xs
    | some (.dict false es _) => makeDict go es
    | some (.set false ms _) => makeSet go ms
    | _ => return v
  | _ => return v

/-! ## 2. Cursors -/

def characters (s : String) (guarded : Bool) : List Value := s.toList.map fun c => .str c.toString guarded

def beginIter (v : Value) : Eval Cursor := do
  match v with
  | .str s g => return .items (characters s g)
  | .tuple xs => return .items xs
  | .range a b c => return .range a (rangeLength a b c) c
  | .ref a =>
    match ← cellAt a with
    | some (.list _ _ _) => return .list a 0
    | some (.dict _ es _) => return .view .keys a 0 es.size
    | some (.set _ ms _) => return .members a ms.inOrder ms.size
    | some (.view k d) => return .view k d 0 ((← entries? (.ref d)).getD #[]).size
    | some (.generator _) | some (.counter _ _) => return .cell a
    | some (.arguments t _) => return .items (t.groups.map (·.name))
    | _ => typeFault s!"'{← typeName v}' object is not iterable"
  | _ => typeFault s!"'{← typeName v}' object is not iterable"

def viewItem (k : ViewKind) (e : Entry) : Value :=
  match k with
  | .keys => e.name
  | .values => e.value
  | .items => .tuple [e.name, e.value]

variable (go : Go)

def nextValue (c : Cursor) : Eval (Option (Value × Cursor)) := do
  match c with
  | .done => return none
  | .items [] => return none
  | .items (v :: vs) => return some (v, .items vs)
  | .list a i =>
    match ← cellAt a with
    | some (.list _ xs _) => return (xs[i]?).map fun v => (v, .list a (i + 1))
    | _ => return none
  | .range n left step =>
    match left with
    | 0 => return none
    | k + 1 => return some (.int n, .range (n + step) k step)
  | .view k d i size =>
    let es := (← entries? (.ref d)).getD #[]
    if es.size != size then fail .runtime "dictionary changed size during iteration"
    return (es[i]?).map fun e => (viewItem k e, .view k d (i + 1) size)
  | .members s rest size =>
    if ((← members? (.ref s)).getD #[]).size != size then fail .runtime "Set changed size during iteration"
    match rest with
    | [] => return none
    | v :: vs => return some (v, .members s vs size)
  | .numbered v i => onFaults [.indexError] (do return some (← go (.item v (.int i)), .numbered v (i + 1))) (pure none)
  | .cell a =>
    match ← cellAt a with
    | some (.counter inner n) =>
      match ← go (.next inner) with
      | none =>
        .change (.count a .done)
        return none
      | some (v, inner) =>
        .change (.count a inner)
        return some (.tuple [.int n, v], c)
    | _ => return none

def drain (acc : Array Value) (c : Cursor) : Nat → Eval (Array Value)
  | 0 => raise .outOfFuel
  | k + 1 => do
    match ← go (.next c) with
    | none => return acc
    | some (v, c) => drain (acc.push v) c k

def collect (v : Value) : Eval (Array Value) := do
  match v with
  | .tuple xs => return xs.toArray
  | .str s g => return (characters s g).toArray
  | _ =>
    match ← listItems? v with
    | some xs => return xs
    | none => drain go #[] (← go (.iter v)) runLimit

def distinct (ms : List Member) : Members :=
  (ms.foldl (fun (acc : Members × Std.HashSet Key) m =>
    if acc.2.contains m.key then acc else (acc.1.push m, acc.2.insert m.key)) (#[], {})).1

def membersOf (vs : List Value) : Eval Members := do
  return distinct (← vs.mapM fun v => do return (⟨← hashKey v, v⟩ : Member))

def Entries.merge (start : Entries) (others : List Entry) : Entries :=
  let index := start.foldl (fun (m : Std.HashMap Key Nat × Nat) e =>
    (m.1.insert e.key m.2, m.2 + 1)) ({}, 0)
  (others.foldl (fun (acc : Entries × Std.HashMap Key Nat) e =>
    match acc.2[e.key]? with
    | some i => (acc.1.modify i fun f => { f with value := e.value }, acc.2)
    | none => (acc.1.push e, acc.2.insert e.key acc.1.size)) (start, index.1)).1

def entryOf (k v : Value) : Eval Entry := do return ⟨← hashKey k, k, v⟩

def entriesOf (start : Entries) (pairs : List (Value × Value)) : Eval Entries := do
  return start.merge (← pairs.mapM fun (k, v) => entryOf k v)

end AliasTools.Script
