import AliasTools.Script.Iterate
import AliasTools.Script.Show

/-!
# Items

Reading, setting and removing the items of lists, texts, ranges and dictionaries by place, by stretch
or by key.
-/

namespace AliasTools.Script

def sliceBound (v : Value) : Eval (Option Int) := do
  match v with
  | .none => return none
  | _ =>
    match v.asInt? with
    | some n => return some n
    | none => typeFault "slice indices must be integers or None or have an __index__ method"

def clampBound (n : Int) (len : Nat) (low high : Int) : Int := if n < 0 then max (n + len) low else min n high

/-- The places of a slice in so many items. -/
def stretchOf (lower upper step : Value) (len : Nat) : Eval Stretch := do
  let step := (← sliceBound step).getD 1
  if step == 0 then valueFault "slice step cannot be zero"
  let low : Int := if step < 0 then -1 else 0
  let high : Int := if step < 0 then (len : Int) - 1 else len
  let start := match ← sliceBound lower with
    | some n => clampBound n len low high
    | none => if step < 0 then high else low
  let stop := match ← sliceBound upper with
    | some n => clampBound n len low high
    | none => if step < 0 then low else high
  let count : Int := if step < 0 then (if stop < start then (start - stop - 1) / (-step) + 1 else 0)
    else (if start < stop then (stop - start - 1) / step + 1 else 0)
  return ⟨start, stop, step, count.toNat⟩

/-- A negative place counts from the end. -/
def place (n : Int) (len : Nat) : Option Nat :=
  let i := if n < 0 then n + len else n
  if 0 ≤ i && i < len then some i.toNat else none

def badIndex {α : Type} (owner : String) (key : Value) : Eval α := do
  typeFault s!"{owner} indices must be integers or slices, not {← typeName key}"

def itemOf (owner : String) (outside : String) (xs : Array Value) (key : Value)
    (build : Array Value → Eval Value) : Eval Value := do
  match key with
  | .slice a b c => build ((← stretchOf a b c xs.size).pick xs)
  | _ =>
    match key.asInt? with
    | none => badIndex owner key
    | some n =>
      match (place n xs.size).bind (xs[·]?) with
      | some v => return v
      | none => fail .indexError outside

variable (go : Go)

def missingKey {α : Type} (key : Value) : Eval α := do fail .keyError (← go (.shown [] key))

def getItem (container key : Value) : Eval Value := do
  match container with
  | .str s g =>
    let cs := s.toList.toArray
    match key with
    | .slice a b c => return .str (String.ofList ((← stretchOf a b c cs.size).pick cs).toList) g
    | _ =>
      match key.asInt? with
      | none => typeFault s!"string indices must be integers, not '{← typeName key}'"
      | some n =>
        match (place n cs.size).bind (cs[·]?) with
        | some c => return .str c.toString g
        | none => fail .indexError "string index out of range"
  | .tuple xs => itemOf "tuple" "tuple index out of range" xs.toArray key fun ys => pure (.tuple ys.toList)
  | .range a b c =>
    match key with
    | .slice x y z =>
      let s ← stretchOf x y z (rangeLength a b c)
      return .range (a + c * s.start) (a + c * s.stop) (c * s.step)
    | _ =>
      match key.asInt? with
      | none => badIndex "range" key
      | some n =>
        match place n (rangeLength a b c) with
        | some i => return .int (a + c * i)
        | none => fail .indexError "range object index out of range"
  | .ref r =>
    match ← cellAt r with
    | some (.list g xs _) =>
      itemOf "list" "list index out of range" xs key fun ys =>
        if g then makeList go ys else alloc (.list false ys none)
    | some (.dict _ es _) =>
      match es.get? (← hashKey key) with
      | some v => return v
      | none => missingKey go key
    | some (.namespace _) => typeFault "'types.SimpleNamespace' object is not subscriptable"
    | _ => typeFault s!"'{← typeName container}' object is not subscriptable"
  | .cls c => typeFault s!"type '{c.name}' is not subscriptable"
  | _ => typeFault s!"'{← typeName container}' object is not subscriptable"

def setListItem (a : Addr) (xs : Array Value) (key v : Value) : Eval Unit := do
  match key with
  | .slice x y z =>
    let s ← stretchOf x y z xs.size
    let new ← onFaults [.typeError] (collect go v) (typeFault "can only assign an iterable")
    if s.step != 1 && new.size != s.count then
      valueFault s!"attempt to assign sequence of size {new.size} to extended slice of size {s.count}"
    alter a (.splice s new)
  | _ =>
    match key.asInt? with
    | none => badIndex "list" key
    | some n =>
      match place n xs.size with
      | some i => alter a (.setAt i v)
      | none => fail .indexError "list assignment index out of range"

def setItemOf (container key v : Value) : Eval Unit := do
  match container with
  | .ref a =>
    match ← cellAt a with
    | some (.list _ xs _) => setListItem go a xs key v
    | some (.dict g _ _) =>
      if g then
        let other ← sizeOf go v
        let own ← sizeOf go container
        if own + other > (← read).limits.maxConstLen then failWaiting .iterableTooLong "This dict is too large"
        alter a (.charge other)
      let k ← hashKey key
      alter a (.setEntry k key v)
    | some (.namespace _) => typeFault "'types.SimpleNamespace' object does not support item assignment"
    | _ => typeFault s!"'{← typeName container}' object does not support item assignment"
  | _ => typeFault s!"'{← typeName container}' object does not support item assignment"

def amongComing (v : Value) (c : Cursor) : Nat → Eval Bool
  | 0 => raise .outOfFuel
  | k + 1 => do
    match ← go (.next c) with
    | none => return false
    | some (x, c) => if ← sameOrEqual go x v then return true else amongComing v c k

def inRange (n a b c : Int) : Bool :=
  let inside := if c > 0 then a ≤ n && n < b else b < n && n ≤ a
  inside && c != 0 && (n - a) % c == 0

def containsValue (container v : Value) : Eval Bool := do
  match container with
  | .str s _ =>
    match v with
    | .str t _ => return AliasTools.Text.hasPiece s t
    | _ => typeFault s!"'in <string>' requires string as left operand, not {← typeName v}"
  | .tuple xs => isAmong go v xs
  | .range a b c =>
    match v.asInt? with
    | some n => return inRange n a b c
    | none => amongComing go v (← go (.iter container)) runLimit
  | .ref r =>
    match ← cellAt r with
    | some (.list _ xs _) => isAmong go v xs.toList
    | some (.dict _ es _) => return (es.get? (← hashKey v)).isSome
    | some (.set _ ms _) =>
      match ← members? v with
      | some _ => return false
      | none => return ms.has (← hashKey v)
    | some (.view k d) =>
      let es := (← entries? (.ref d)).getD #[]
      match k with
      | .keys => return (es.get? (← hashKey v)).isSome
      | .values => isAmong go v (es.toList.map (·.value))
      | .items => isAmong go v (es.toList.map fun e => .tuple [e.name, e.value])
    | some (.generator _) | some (.counter _ _) => amongComing go v (← go (.iter container)) runLimit
    | some (.arguments t _) =>
      let k ← hashKey v
      return t.groups.any fun g => g.key == k && !g.items.isEmpty
    | _ => typeFault s!"argument of type '{← typeName container}' is not iterable"
  | _ => typeFault s!"argument of type '{← typeName container}' is not iterable"

end AliasTools.Script
