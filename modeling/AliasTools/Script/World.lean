import AliasTools.Json.Read
import AliasTools.Script.Traceback
import AliasTools.Script.Value

/-!
# The world of a running script

The limits a script runs under, the cells it has made, its names, and its counters.

Whatever a script does to the world, it does in changes, each of which happens at once and cannot fail.
The counters that are watched and the frames of calls are not among them: these belong to the evaluator
(`Eval`), which checks them when they move.  Reading a table of arguments is a change: a group that is
asked for is there afterwards, and an argument that is good for so many uses has one less of them once it
has been handed out.
-/

namespace AliasTools.Script

open Syntax

/-! ## 1. The world -/

/-- What scripts may use up, and which attributes they may not see. -/
structure Limits where
  maxConstLen : Int := 200000
  maxLoops : Int := 10000
  maxStatements : Int := 100000
  maxPowerBase : Int := 1000000
  maxPower : Int := 1000
  maxIntSize : Nat := 64
  maxDepth : Int := 50
  hiddenStarts : List String := ["_", "func_"]
  hiddenNames : List String := ["format", "format_map", "mro", "tb_frame", "gi_frame", "ag_frame", "cr_frame", "exec"]

variable (l : Limits)

def Limits.minInt : Int := -(Number.twoTo (l.maxIntSize - 1))

def Limits.maxInt : Int := Number.twoTo (l.maxIntSize - 1) - 1

def Limits.hides (name : String) : Bool :=
  l.hiddenStarts.any (fun p => p.toList.isPrefixOf name.toList) || l.hiddenNames.contains name

/-- What an address outside answers: data, a text, or nothing but a complaint. -/
inductive Answer where
  | data (status : Int) (json : Json)
  | text (status : Int) (body : String)
  | failed (message : String)

structure Request where
  method : String
  url : String
  token : Option String
  body : String

/-- How shared variables and signatures are asked for. -/
structure Service where
  fetches : Bool := false
  silent : Bool := false
  token : Option String := none
  baseUrl : String := "https://api.avrae.io"

/-- Where a script is run: the stores it can read and change, and the outside it can ask. -/
structure Session where
  ctx : Value := .none
  combat : Value := .none
  character : Value := .none
  cvars : Addr := 0
  uvars : Addr := 0
  svars : Addr := 0
  stdout : String := ""
  combatObject : Value := .none
  characterObject : Option Value := none
  verified : Option (String × Except Fault Value) := none
  service : Service := {}
  answers : List (String × Answer) := []
  requests : List Request := []

/-- All that a script reads and changes. -/
structure World where
  limits : Limits := {}
  /-- Only single expressions are evaluated, without counting and guarding. -/
  simple : Bool := false
  heap : Array Cell := #[]
  builtins : Names := []
  /-- All scopes there ever were; the current one is named by its place. -/
  scopes : Array Names := #[[]]
  scope : Nat := 0
  callers : List Nat := []
  layers : Array Names := #[]
  inForce : List Nat := []
  source : String := ""
  statements : Int := 0
  loops : Int := 0
  depth : Int := 1
  suspended : List Addr := []
  dice : Dice.Source := { values := [0] }
  modules : Names := []
  /-- The addresses of the modules that are being imported, the outermost first. -/
  importing : List String := []
  session : Session := {}
  gvars : Option Names := none

def findInLayers (layers : Array Names) (name : String) : List Nat → Option Value
  | [] => none
  | i :: rest =>
    match (layers.getD i []).get? name with
    | some v => some v
    | none => findInLayers layers name rest

namespace World

variable (w : World)

def scopeNames : Names := w.scopes.getD w.scope []

/-- A name is sought in the comprehensions that are in force, in the scope and among the built-in names. -/
def lookup (name : String) : Option Value :=
  match findInLayers w.layers name w.inForce with
  | some v => some v
  | none =>
    match w.scopeNames.get? name with
    | some v => some v
    | none => w.builtins.get? name

def store : Names := w.gvars.getD []

def stores (key : String) : Bool := w.store.has key

def putGvar (key : String) (v : Value) : World := { w with gvars := some (w.store.put key v) }

end World

/-! ## 2. Tables of arguments -/

namespace ArgumentTable

variable (t : ArgumentTable) (k : Key)

def group? : Option (List Argument) := (t.groups.find? fun g => g.key == k).map (·.items)

def items : List Argument := (t.group? k).getD []

def has : Bool := t.groups.any fun g => g.key == k

def updateGroup (f : List Argument → List Argument) : ArgumentTable :=
  { t with groups := t.groups.map fun g => if g.key == k then { g with items := f g.items } else g }

/-- A group that is asked for is there from then on. -/
def touch (name : Value) : ArgumentTable := if t.has k then t else { t with groups := t.groups ++ [⟨k, name, []⟩] }

def setGroup (name : Value) (items : List Argument) : ArgumentTable := (t.touch k name).updateGroup k fun _ => items

def add (a : Argument) : ArgumentTable := (t.touch k a.name).updateGroup k (· ++ [a])

def attach (context : Value) (table : Addr) : ArgumentTable :=
  if t.contexts.any fun c => c.1 == k then
    { t with contexts := t.contexts.map fun c => if c.1 == k then (k, c.2.1, table) else c }
  else { t with contexts := t.contexts ++ [(k, context, table)] }

end ArgumentTable

/-- Whether an argument can be handed out; one that is good for so many uses only when these are asked
    for, and not more often than that. -/
def Argument.isReady (limited : Bool) (a : Argument) : Bool :=
  match a.uses with
  | none => true
  | some n => limited && a.used < n

def Argument.use (a : Argument) : Argument :=
  match uses : a.uses with
  | none => a
  | some n =>
    if more : a.used < n then
      { a with used := a.used + 1, within := fun _ given => Option.some.inj (uses.symm.trans given) ▸ more }
    else a

/-- Whether limited arguments are read, and whether only the last one is. -/
structure Reading where
  limited : Bool
  last : Bool

namespace Reading

variable (r : Reading) (xs : List Argument)

def ready : List (Argument × Nat) := xs.zipIdx.filter fun x => x.1.isReady r.limited

/-- The arguments of a group that are handed out, with their places. -/
def handed : List (Argument × Nat) := if r.last then (r.ready xs).getLast?.toList else r.ready xs

def values : List Value := (r.handed xs).map (·.1.value)

/-- What is handed out is used once more. -/
def rest : List Argument :=
  let places := (r.handed xs).map (·.2)
  xs.mapIdx fun i x => if places.contains i then x.use else x

end Reading

inductive TableChange where
  | touch (k : Key) (name : Value)
  | read (k : Key) (r : Reading)
  | set (k : Key) (name : Value) (items : List Argument)
  | drop (k : Key)
  | enter (context : Value)
  | attach (k : Key) (context : Value) (table : Addr)

def TableChange.apply : TableChange → ArgumentTable → ArgumentTable
  | .touch k name, t => t.touch k name
  | .read k r, t => t.updateGroup k r.rest
  | .set k name items, t => t.setGroup k name items
  | .drop k, t => { t with groups := t.groups.filter fun g => g.key != k }
  | .enter context, t => { t with current := context }
  | .attach k context table, t => t.attach k context table

/-! ## 3. Containers -/

namespace Cell

def recorded? : Cell → Option Int
  | .list _ _ n | .dict _ _ n | .set _ _ n => n
  | _ => none

def count : Cell → Nat
  | .list _ xs _ => xs.size
  | .dict _ es _ => es.size
  | .set _ ms _ => ms.size
  | _ => 0

/-- Nothing is measured of a new cell, and a new generator has not begun. -/
def isFresh : Cell → Bool
  | .list _ _ n | .dict _ _ n | .set _ _ n => n.isNone
  | .generator g => (g.progress matches .notStarted) && g.previous.isEmpty
  | _ => true

def asNew : Cell → Cell
  | .list g xs _ => .list g xs none
  | .dict g es _ => .dict g es none
  | .set g ms _ => .set g ms none
  | .generator g => .generator { g with progress := .notStarted, previous := [] }
  | c => c

theorem isFresh_asNew (c : Cell) : c.asNew.isFresh = true := by cases c <;> rfl

def madeIn (source : String) : Cell → Cell
  | .closure c => .closure { c with source := source }
  | c => c

theorem isFresh_madeIn (source : String) (c : Cell) : (c.madeIn source).isFresh = c.isFresh := by cases c <;> rfl

theorem madeIn_madeIn (source : String) (c : Cell) : (c.madeIn source).madeIn source = c.madeIn source := by
  cases c <;> rfl

end Cell

/-- The places that a slice stands for. -/
structure Stretch where
  start : Int
  stop : Int
  step : Int
  count : Nat

namespace Stretch

def places (s : Stretch) : List Nat := (List.range s.count).map fun (i : Nat) => (s.start + s.step * i).toNat

def pick {α : Type} (s : Stretch) (xs : Array α) : Array α :=
  if s.step == 1 then xs.extract s.start.toNat (s.start.toNat + s.count)
  else (s.places.filterMap fun i => xs[i]?).toArray

def replace {α : Type} (s : Stretch) (xs new : Array α) : Array α :=
  if s.step == 1 then xs.extract 0 s.start.toNat ++ new ++ xs.extract (s.start.toNat + s.count) xs.size
  else (s.places.zip new.toList).foldl (fun ys (i, v) => ys.setIfInBounds i v) xs

end Stretch

inductive Alteration where
  | measure (n : Int)
  | charge (by_ : Int)
  | clear
  | append (v : Value)
  | extend (new : Array Value) (counted : Int)
  | insert (place : Nat) (v : Value)
  | takeAt (place : Nat)
  | setAt (place : Nat) (v : Value)
  | splice (s : Stretch) (new : Array Value)
  | arrange (new : Array Value)
  | setEntry (k : Key) (name v : Value)
  /-- The entries of a dictionary after others were added, which count as so much. -/
  | merge (new : Entries) (counted : Int)
  | dropEntry (k : Key) (counted : Int)
  | dropLastEntry
  | addMember (k : Key) (v : Value)
  /-- The members of a set after others were added, which count as so much. -/
  | unite (new : Members) (counted : Int)
  | dropMember (k : Key) (counted : Int)
  | exchange (new : Members) (n : Option Int)

namespace Alteration

def remeasured (guarded : Bool) (old : Option Int) (n : Int) : Option Int := if guarded then some n else old

def apply : Alteration → Cell → Cell
  | .measure m, .list g xs n => .list g xs (remeasured g n m)
  | .measure m, .dict g es n => .dict g es (remeasured g n m)
  | .measure m, .set g ms n => .set g ms (remeasured g n m)
  | .measure m, .arguments t _ => .arguments t (some m)
  | .measure m, .namespace ns => .namespace (ns.put "__approx_len__" (.int m))
  | .charge k, .list g xs n => .list g xs (n.map (· + k))
  | .charge k, .dict g es n => .dict g es (n.map (· + k))
  | .charge k, .set g ms n => .set g ms (n.map (· + k))
  | .clear, .list g _ n => .list g #[] (remeasured g n 0)
  | .clear, .dict g _ n => .dict g #[] n
  | .clear, .set g _ n => .set g #[] (remeasured g n 0)
  | .append v, .list g xs n => .list g (xs.push v) (n.map (· + 1))
  | .extend new k, .list g xs n => .list g (xs ++ new) (n.map (· + k))
  | .insert i v, .list g xs n => .list g (xs.insertIdxIfInBounds i v) n
  | .takeAt i, .list g xs n => .list g (xs.eraseIdxIfInBounds i) (n.map (· - 1))
  | .setAt i v, .list g xs n => .list g (xs.setIfInBounds i v) n
  | .splice s new, .list g xs n => .list g (s.replace xs new) n
  | .arrange new, .list g _ n => .list g new n
  | .setEntry k name v, .dict g es n => .dict g (es.put k name v) n
  | .merge new k, .dict g _ n => .dict g new (n.map (· + k))
  | .dropEntry key k, .dict g es n => .dict g (es.erase key) (n.map (· - k))
  | .dropLastEntry, .dict g es n => .dict g es.pop n
  | .addMember k v, .set g ms n => .set g (ms.put k v) (n.map (· + 1))
  | .unite new k, .set g _ n => .set g new (n.map (· + k))
  | .dropMember key k, .set g ms n => .set g (ms.erase key) (n.map (· - k))
  | .exchange new (some m), .set g _ n => .set g new (remeasured g n m)
  | .exchange new none, .set g _ n => .set g new n
  | _, c => c

end Alteration

/-! ## 4. Changes -/

/-- Whether a value leads to an address in so many steps. -/
def reaches (w : World) (a : Addr) : Nat → Value → Bool
  | 0, _ => false
  | k + 1, v =>
    match v with
    | .tuple xs => xs.any (reaches w a k)
    | .method self _ => reaches w a k self
    | .ref b =>
      b == a ||
      match w.heap[b]? with
      | some (.list _ xs _) => xs.any (reaches w a k)
      | some (.dict _ es _) => es.any fun e => reaches w a k e.value
      | some (.counter (.cell c) _) => c == a
      | _ => false
    | _ => false

def isHeld (w : World) (a : Addr) : Bool :=
  let held (ns : Names) : Bool := ns.any fun p => reaches w a 6 p.2
  (w.scope :: w.callers).any (fun i => held (w.scopes.getD i [])) ||
    w.inForce.any fun i => held (w.layers.getD i [])

namespace World

def putCell (w : World) (a : Addr) (c : Cell) : World := { w with heap := w.heap.setIfInBounds a c }

def modifyCell (w : World) (a : Addr) (f : Cell → Cell) : World := { w with heap := w.heap.modify a f }

def bindName (w : World) (name : String) (v : Value) : World :=
  { w with scopes := w.scopes.modify w.scope (·.put name v) }

/-- A generator gets a layer of its own, which is in force at once. -/
def beginGenerator (w : World) (a : Addr) (g : Generator) : World :=
  let g := { g with
    layer := w.layers.size, previous := w.inForce, progress := .running [], active := true }
  { w with
    heap := w.heap.setIfInBounds a (.generator g)
    layers := w.layers.push []
    inForce := w.layers.size :: w.inForce
    suspended := a :: w.suspended }

def endGenerator (w : World) (a : Addr) (g : Generator) : World :=
  { w with
    heap := w.heap.setIfInBounds a (.generator { g with progress := .finished, active := false })
    inForce := g.previous
    suspended := w.suspended.filter (· != a) }

def closeGenerator (w : World) (a : Addr) : World :=
  match w.heap[a]? with
  | some (.generator g) =>
    match g.progress with
    | .running _ => w.endGenerator a g
    | .notStarted => w.putCell a (.generator { g with progress := .finished })
    | .finished => w
  | _ => w

/-- End a generator made since an address was free, when it is not at work and neither a name nor
    `result` holds it any more. -/
def closeIfLoose (since : Addr) (result : Value) (w : World) (a : Addr) : World :=
  match w.heap[a]? with
  | some (.generator g) =>
    if since ≤ a && !g.active && !isHeld w a && !reaches w a 6 result then w.closeGenerator a else w
  | _ => w

def closeLoose (w : World) (since : Addr) (result : Value) : World := w.suspended.foldl (closeIfLoose since result) w

end World

inductive Turn where
  | begin
  | wake
  | suspend (runs : List ClauseRun)
  | finish
  | close

inductive Binding where
  | parameter
  | capture
  | variable

inductive Change where
  | alter (a : Addr) (what : Alteration)
  | setField (a : Addr) (name : String) (v : Value)
  | table (a : Addr) (what : TableChange)
  | setRoll (a : Addr) (r : RollRecord)
  /-- A counter goes on, at some place in what it counts; one that is done stays so. -/
  | count (a : Addr) (rest : Cursor)
  /-- Bind a name in the current scope, without asking whether it is built in. -/
  | bind (how : Binding) (name : String) (v : Value)
  | bindLoop (layer : Nat) (name : String) (v : Value)
  | turn (a : Addr) (t : Turn)
  | closeLoose (since : Addr) (result : Value)
  | dice (d : Dice.Source)
  | session (f : Session → Session)
  /-- Put a shared variable into the store, unless it is there already. -/
  | keep (key : String) (v : Value)
  | countPattern

def Binding.isOpen (w : World) : Binding → Bool
  | .parameter => !w.callers.isEmpty
  | .capture | .variable => true

def Turn.apply (t : Turn) (a : Addr) (w : World) : World :=
  match w.heap[a]? with
  | some (.generator g) =>
    match t, g.progress with
    | .begin, .notStarted => w.beginGenerator a g
    | .wake, _ => w.putCell a (.generator { g with active := true })
    | .suspend runs, .running _ => w.putCell a (.generator { g with progress := .running runs, active := false })
    | .finish, .running _ => w.endGenerator a g
    | .close, _ => w.closeGenerator a
    | _, _ => w
  | _ => w

/-- A change whose object is not of its kind does nothing. -/
def Change.apply : Change → World → World
  | .alter a what, w => w.modifyCell a what.apply
  | .setField a name v, w =>
    match w.heap[a]? with
    | some (.object k fields) => w.putCell a (.object k (fields.put name v))
    | _ => w
  | .table a what, w =>
    match w.heap[a]? with
    | some (.arguments t n) => w.putCell a (.arguments (what.apply t) n)
    | _ => w
  | .setRoll a r, w =>
    match w.heap[a]? with
    | some (.roll _) => w.putCell a (.roll r)
    | _ => w
  | .count a rest, w =>
    match w.heap[a]? with
    | some (.counter .done _) => w
    | some (.counter _ n) => w.putCell a (.counter rest (n + 1))
    | _ => w
  | .bind how name v, w => if how.isOpen w then w.bindName name v else w
  | .bindLoop layer name v, w => { w with layers := w.layers.modify layer (·.put name v) }
  | .turn a t, w => t.apply a w
  | .closeLoose since result, w => w.closeLoose since result
  | .dice d, w => { w with dice := d }
  | .session f, w => { w with session := f w.session }
  | .keep key v, w => if w.stores key then w else w.putGvar key v
  | .countPattern, w => { w with statements := w.statements + 1 }

end AliasTools.Script
