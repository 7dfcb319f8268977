import AliasTools.Script.Arith
import AliasTools.Script.Iterate
import AliasTools.Yaml.Event
import AliasTools.Yaml.Write

/-!
# Documents and values

The nodes of a document become plain values, and values are written as a document.
-/

namespace AliasTools.Script

open Yaml (Graph NodeBody usualTag Content DateParts readDate?)
open Text Number

/-! ## 1. Dates -/

def paddedNumber (width n : Nat) : String :=
  let ds := natText n
  String.ofList (List.replicate (width - ds.length) '0' ++ ds)

def dateProblem? (d : DateParts) : Option String :=
  let (hour, minute, second) := d.time.getD (0, 0, 0)
  if d.year == 0 then some "year 0 is out of range"
  else if !(1 ≤ d.month && d.month ≤ 12) then some "month must be in 1..12"
  else if !(1 ≤ d.day && d.day ≤ monthDays d.year d.month) then
    some "day is out of range for month"
  else if hour > 23 then some "hour must be in 0..23"
  else if minute > 59 then some "minute must be in 0..59"
  else if second > 59 then some "second must be in 0..59"
  else none

def dateText (d : DateParts) : String :=
  let date := s!"{paddedNumber 4 d.year}-{paddedNumber 2 d.month}-{paddedNumber 2 d.day}"
  match d.time with
  | none => date
  | some (h, m, s) =>
    let digits := d.fraction.take 6
    let micros := digitsNat (digits ++ List.replicate (6 - digits.length) '0')
    let fraction := if micros == 0 then "" else "." ++ paddedNumber 6 micros
    let zone := match d.zone with
      | none => ""
      | some z => (if z < 0 then "-" else "+") ++ s!"{paddedNumber 2 (z.natAbs / 60)}:{paddedNumber 2 (z.natAbs % 60)}"
    s!"{date} {paddedNumber 2 h}:{paddedNumber 2 m}:{paddedNumber 2 s}{fraction}{zone}"

/-! ## 2. From a document to a value -/

mutual

/-- A value of a document whose cells lie so much further on. -/
def Value.moved (n : Nat) : Value → Value
  | .ref a => .ref (n + a)
  | .tuple vs => .tuple (Value.movedEach n vs)
  | v => v

def Value.movedEach (n : Nat) : List Value → List Value
  | [] => []
  | v :: vs => v.moved n :: Value.movedEach n vs

end

variable {m n : Nat}

mutual

theorem Value.moved_moved (v : Value) : (v.moved m).moved n = v.moved (n + m) := by
  cases v with
  | ref a => simp [Value.moved, Nat.add_assoc]
  | tuple vs => simp [Value.moved, Value.movedEach_movedEach vs]
  | _ => rfl

theorem Value.movedEach_movedEach (vs : List Value) :
    Value.movedEach n (Value.movedEach m vs) = Value.movedEach (n + m) vs := by
  cases vs with
  | nil => rfl
  | cons v vs => simp [Value.movedEach, Value.moved_moved v, Value.movedEach_movedEach vs]

end

/-- What a document gathers.  Its keys and the members of its sets are scalars. -/
inductive Collection where
  | list (items : Array Value)
  | dict (entries : Entries)
  | set (members : Members)

namespace Collection

def moved (n : Nat) : Collection → Collection
  | .list xs => .list (xs.map (·.moved n))
  | .dict es => .dict (es.map fun e => { e with value := e.value.moved n })
  | .set ms => .set ms

theorem moved_moved (c : Collection) : (c.moved m).moved n = c.moved (n + m) := by
  cases c <;> simp [moved, Value.moved_moved, Function.comp_def]

def cell : Collection → Cell
  | .list xs => .list false xs none
  | .dict es => .dict false es none
  | .set ms => .set false ms none

end Collection

/-- A document that was read: its value, and the collections it refers to by their places here. -/
structure YamlDocument where
  value : Value
  cells : Array Collection := #[]

structure Making where
  text : List Char
  nodes : Array Yaml.Node
  made : Array (Option Value)
  cells : Array Collection := #[]
  waiting : List (Nat × Addr) := []
  found : List (Nat × Addr) := []

abbrev Make := StateT Making (Except Fault)

variable (i : Nat) (text : String)

def nodeAt : Make Yaml.Node := do return (← get).nodes.getD i default

def yamlFail {α : Type} (text : List Char) (f : Yaml.Fault) : Except Fault α :=
  let kind : FaultKind := match f.kind with
    | .character => .yamlReader | .token => .yamlScanner | .event => .yamlParser
    | .node => .yamlComposer | .value => .yamlConstructor
  throw ⟨kind, f.message text⟩

def makeFailIn {α : Type} (context : Option (String × Yaml.Mark)) (problem : String) (m : Yaml.Mark) : Make α := do
  yamlFail (← get).text
    { kind := .value, context := context.map (·.1), contextMark := context.map (·.2)
      problem := problem, problemMark := some m }

def makeFail {α : Type} (problem : String) (m : Yaml.Mark) : Make α := makeFailIn none problem m

def scalarText (i : Nat) : Nat → Make String
  | 0 => makeFail "expected a scalar node" ⟨0, 0, 0⟩
  | k + 1 => do
    let n ← nodeAt i
    match n.body with
    | .scalar t => return t
    | .mapping pairs =>
      let nodes := (← get).nodes
      match pairs.find? fun p => (nodes.getD p.1 default).tag == usualTag "value" with
      | some p => scalarText p.2 k
      | none => makeFail "expected a scalar node, but found mapping" n.start
    | .sequence _ => makeFail "expected a scalar node, but found sequence" n.start

def sixtieths {α : Type} [Add α] [Mul α] (zero one sixty : α) (groups : List α) : α :=
  (groups.reverse.foldl (fun (sum, base) d => (sum + d * base, base * sixty)) (zero, one)).1

def splitSign (s : String) : Except Fault (Bool × String) := do
  match s.toList with
  | [] => throw ⟨.indexError, "string index out of range"⟩
  | c :: cs => if c == '-' || c == '+' then return (c == '-', String.ofList cs) else return (false, s)

def yamlInt : Except Fault Int := do
  let (negative, body) ← splitSign (replaceAll text "_" "")
  let signed (n : Int) : Int := if negative then -n else n
  if body == "0" then return 0
  match body.toList with
  | '0' :: 'b' :: ds => return signed (← intOfText (String.ofList ds) 2)
  | '0' :: 'x' :: ds => return signed (← intOfText (String.ofList ds) 16)
  | '0' :: _ => return signed (← intOfText body 8)
  | [] => throw ⟨.indexError, "string index out of range"⟩
  | cs =>
    if cs.contains ':' then
      let groups ← (cutAtPiece [':'] none cs).mapM fun g => intOfText (String.ofList g) 10
      return signed (sixtieths 0 1 60 groups)
    return signed (← intOfText body 10)

def yamlFloat : Except Fault Float := do
  let (negative, body) ← splitSign (lowerText (replaceAll text "_" ""))
  let sign : Float := if negative then -1.0 else 1.0
  if body == ".inf" then return sign * infinity
  if body == ".nan" then return undefined
  if body.toList.contains ':' then
    let groups ← (cutAtPiece [':'] none body.toList).mapM fun g => floatOfText (String.ofList g)
    return sign * sixtieths 0.0 1.0 60.0 groups
  return sign * (← floatOfText body)

def yamlDate : Except Fault Value := do
  match readDate? false text.toList with
  | none => throw ⟨.attributeError, "'NoneType' object has no attribute 'groupdict'"⟩
  | some d =>
    match dateProblem? d with
    | some p => throw ⟨.valueError, p⟩
    | none => return .date (dateText d)

def yamlScalar (sort : String) (text : String) : Except Fault Value := do
  match sort with
  | "null" => return .none
  | "bool" =>
    match Yaml.boolWords.lookup (lowerText text) with
    | some b => return .bool b
    | none => throw ⟨.keyError, quote (lowerText text)⟩
  | "int" => return .int (← yamlInt text)
  | "float" => return .float (← yamlFloat text)
  | "timestamp" => yamlDate text
  | _ => return .str text false

def scalarKey : Value → Key
  | .bool b => .int (if b then 1 else 0)
  | .int n => .int n
  | .float x => floatKey x
  | .str s _ => .str s
  | .date t => .date t
  | _ => .none

/-- A collection with nothing in it yet, which is to be filled from a node. -/
def newCollection (c : Collection) : Make Value := do
  let a := (← get).cells.size
  modify fun m => { m with cells := m.cells.push c, found := (i, a) :: m.found }
  return .ref a

def valueOfNode : Make Value := do
  match (← get).made.getD i none with
  | some v => return v
  | none =>
    let n ← nodeAt i
    let sort := (n.tag.toList.drop (usualTag "").length : List Char)
    let sort := if n.tag.startsWith (usualTag "") then String.ofList sort else ""
    let v ← match sort with
      | "null" | "bool" | "int" | "float" | "timestamp" | "str" => do
        yamlScalar sort (← scalarText i ((← get).nodes.size + 1))
      | "map" => newCollection i (.dict #[])
      | "set" => newCollection i (.set #[])
      | "seq" | "omap" | "pairs" => newCollection i (.list #[])
      | _ => makeFail s!"could not determine a constructor for the tag {quote n.tag}" n.start
    modify fun m => { m with made := m.made.setIfInBounds i (some v) }
    return v

def NodeBody.pairs : NodeBody → List (Nat × Nat)
  | .mapping ps => ps
  | _ => []

def setPairs (ps : List (Nat × Nat)) : Make Unit :=
  modify fun m => { m with nodes := m.nodes.modify i fun n => { n with body := .mapping ps } }

def mergePairs (k : Nat) (i : Nat) : Make Unit := do
  match k with
  | 0 => pure ()
  | k + 1 =>
    let n ← nodeAt i
    let nodes := (← get).nodes
    let tagOf (j : Nat) : String := (nodes.getD j default).tag
    let (merges, own) := (NodeBody.pairs n.body).partition fun p => tagOf p.1 == usualTag "merge"
    own.forM fun p =>
      if tagOf p.1 == usualTag "value" then
        modify fun m => { m with
          nodes := m.nodes.modify p.1 fun n => { n with tag := usualTag "str" } }
      else pure ()
    if !merges.isEmpty then
      setPairs i own
      let here := some ("while constructing a mapping", n.start)
      let merged (j : Nat) : Make (List (Nat × Nat)) := do
        mergePairs k j
        return NodeBody.pairs (← nodeAt j).body
      let parts ← merges.mapM fun p => do
        let v ← nodeAt p.2
        match v.body with
        | .mapping _ => merged p.2
        | .sequence items =>
          let parts ← items.mapM fun j => do
            let sub ← nodeAt j
            match sub.body with
            | .mapping _ => merged j
            | b => makeFailIn here s!"expected a mapping for merging, but found {b.label}" sub.start
          return parts.reverse.flatten
        | b => makeFailIn here s!"expected a mapping or list of mappings for merging, but found {b.label}" v.start
      setPairs i (parts.flatten ++ own)

def mappingEntries : Make Entries := do
  let n ← nodeAt i
  match n.body with
  | .mapping _ =>
    let bound := (← get).nodes.size + 1
    mergePairs bound i
    (NodeBody.pairs (← nodeAt i).body).foldlM (fun es (p : Nat × Nat) => do
      let key ← valueOfNode p.1
      if let .ref _ := key then
        makeFailIn (some ("while constructing a mapping", n.start)) "found unhashable key" (← nodeAt p.1).start
      let value ← valueOfNode p.2
      return Entries.put es (scalarKey key) key value) #[]
  | b => makeFail s!"expected a mapping node, but found {b.label}" n.start

def pairItems (what : String) (i : Nat) : Make (List Value) := do
  let n ← nodeAt i
  let here := some ("while constructing " ++ what, n.start)
  match n.body with
  | .sequence items =>
    items.mapM fun j => do
      let sub ← nodeAt j
      match sub.body with
      | .mapping [(k, v)] => return .tuple [← valueOfNode k, ← valueOfNode v]
      | .mapping ps =>
        makeFailIn here ("expected a single mapping item, but found " ++
          String.ofList (natText ps.length) ++ " items") sub.start
      | b => makeFailIn here s!"expected a mapping of length 1, but found {b.label}" sub.start
  | b => makeFailIn here s!"expected a sequence, but found {b.label}" n.start

def filledFrom : Collection → Make Collection
  | .dict _ => return .dict (← mappingEntries i)
  | .set _ => return .set ((← mappingEntries i).map fun e => ⟨e.key, e.name⟩)
  | .list _ => do
    let n ← nodeAt i
    let items ← if n.tag == usualTag "omap" then pairItems "an ordered map" i
      else if n.tag == usualTag "pairs" then pairItems "pairs" i
      else match n.body with
        | .sequence items => items.mapM valueOfNode
        | b => makeFail s!"expected a sequence node, but found {b.label}" n.start
    return .list items.toArray

def fillNode (a : Addr) : Make Unit := do
  if let some c := (← get).cells[a]? then
    let filled ← filledFrom i c
    modify fun m => { m with cells := m.cells.setIfInBounds a filled }

def fillAll : Nat → Make Unit
  | 0 => pure ()
  | k + 1 => do
    let m ← get
    match m.waiting, m.found with
    | (i, a) :: rest, _ =>
      set { m with waiting := rest }
      fillNode i a
      fillAll k
    | [], [] => pure ()
    | [], found =>
      set { m with waiting := found.reverse, found := [] }
      fillAll k

namespace YamlDocument

def ofText (s : String) : Except Fault YamlDocument := do
  let text := s.toList
  match Graph.ofText text with
  | .error f => yamlFail text f
  | .ok g =>
    match g.root with
    | none => return ⟨.none, #[]⟩
    | some root =>
      let make : Make Value := do
        let v ← valueOfNode root
        fillAll (4 * g.nodes.size + 4)
        return v
      let start : Making := { text := text, nodes := g.nodes, made := g.nodes.map fun _ => none }
      let (v, m) ← make.run start
      return ⟨v, m.cells⟩

/-- The value of a document whose collections are put behind the cells that there are. -/
def place (d : YamlDocument) : Eval Value := do
  let n := (← read).heap.size
  d.cells.toList.forM fun c => do
    let _ ← alloc (c.moved n).cell
  return d.value.moved n

end YamlDocument

def readYaml (s : String) : Eval Value := do (← orRaise (YamlDocument.ofText s)).place

/-! ## 3. From a value to a document -/

variable (go : Go) (v : Value)

def cannotWrite {α : Type} (v : Value) : Eval α := do
  fail .yamlRepresenter s!"('cannot represent an object', {← go (.shown [] v)})"

def yamlFloatText (x : Float) : String :=
  if x.isNaN then ".nan"
  else if x.isInf then (if x < 0.0 then "-.inf" else ".inf")
  else
    let t := showFloat x
    if t.toList.contains '.' then t else replaceAll t "e" ".0e"

abbrev Listing := StateT (List Addr) Eval

def contentOf (plain : Bool) (v : Value) : Nat → Listing Content
  | 0 => raise .outOfFuel
  | k + 1 => do
    match v with
    | .none => return .scalar "null" "null"
    | .bool b => return .scalar "bool" (if b then "true" else "false")
    | .int n => return .scalar "int" (← intWord n)
    | .float x => return .scalar "float" (yamlFloatText x)
    | .str s false => return .scalar "str" s
    | .date t => return .scalar "timestamp" t
    | .tuple xs => return .sequence (← (read : Eval World)).heap.size (← xs.mapM fun x => contentOf plain x k)
    | .ref a =>
      if (← get).contains a then return .again a
      let cell ← cellAt a
      let guarded := match cell with
        | some (.list g _ _) | some (.dict g _ _) | some (.set g _ _) => g
        | _ => false
      if plain && guarded then cannotWrite go v
      modify (a :: ·)
      match cell with
      | some (.list _ xs _) => return .sequence a (← xs.toList.mapM fun x => contentOf plain x k)
      | some (.dict _ es _) =>
        return .mapping a false (← es.toList.mapM fun e => do
          let key ← contentOf plain e.name k
          return (key, ← contentOf plain e.value k))
      | some (.set true ms _) => return .sequence a (← ms.inOrder.mapM fun x => contentOf plain x k)
      | some (.set false ms _) =>
        return .mapping a true (← ms.inOrder.mapM fun x => do return (← contentOf plain x k, .scalar "null" "null"))
      | _ => cannotWrite go v
    | _ => cannotWrite go v

def writeYaml (step : Nat) : Eval String := do
  let (c, _) ← (contentOf go false v runLimit).run []
  return c.render step

def writePlainYaml : Eval String := do
  let (c, _) ← (contentOf go true v runLimit).run []
  return c.render 2

def indentStep : Eval Nat := do
  match v.asInt? with
  | some n => return if 1 < n && n < 10 then n.toNat else 2
  | none =>
    if !(← go (.truth v)) then return 2
    match v with
    | .float _ => return 2
    | _ => typeFault s!"'<' not supported between instances of 'int' and '{← typeName v}'"

def loadYaml : Eval Value := do
  let isCollection ← match v with
    | .none | .tuple _ => pure true
    | _ =>
      match ← cellOf v with
      | some (.dict _ _ _) | some (.set _ _ _) | some (.list false _ _) => pure true
      | _ => pure false
  if isCollection then return v
  readYaml (← go (.text v))

end AliasTools.Script
