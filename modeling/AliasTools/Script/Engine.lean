import AliasTools.Script.Ambient
import AliasTools.Script.Statement

/-!
# The evaluator

Each task has its rule; `run` ties the rules together.  Its number bounds how deep tasks nest, and a
bigger number never changes an answer that a smaller one gave.
-/

namespace AliasTools.Script

open Syntax Sheet

variable (go : Go) (v : Value) (text : String)

def generatorMethod (a : Addr) (g : Generator) (name : String) (args : List Value) : Eval Value := do
  match name with
  | "close" =>
    if g.active then valueFault "generator already executing"
    .change (.turn a .close)
    return .none
  | "send" =>
    match g.progress, args with
    | .notStarted, v :: _ => if !v.isNone then typeFault "can't send non-None value to a just-started generator"
    | _, _ => pure ()
    match ← resume go a g with
    | some v => return v
    | none => fail .stopIteration ""
  | _ => typeFault "exceptions must be classes or instances deriving from BaseException, not str"

/-- Generators, objects and tables of arguments have methods of their own. -/
def callMethodOf (self : Value) (name : String) (args : List Value) (named : Names) : Eval Value := do
  match ← cellOf self, self with
  | some (.generator g), .ref a => generatorMethod go a g name args
  | some (.object k fields), .ref a => objectMethod go self a k fields name args named
  | some (.arguments _ _), .ref a => tableMethod go a self name args named
  | _, _ => callMethod go self name args named

def callValue (f : Value) (args : List Value) (named : Names) : Eval Value := do
  match f with
  | .fn b => callBuiltin go b args named
  | .cls c => construct go c args named
  | .method self name => go (.method self name args named)
  | _ =>
    match ← cellOf f, f with
    | some (.closure c), .ref a => callClosure go a c args named
    | _, _ => typeFault s!"'{← typeName f}' object is not callable"

def nextOf (c : Cursor) : Eval (Option (Value × Cursor)) := do
  match c with
  | .cell a =>
    match ← cellAt a with
    | some (.generator g) => return (← resume go a g).map (·, c)
    | _ => nextValue go c
  | _ => nextValue go c

def iterOf : Eval Cursor := do
  match ← cellOf v with
  | some (.object k fields) => objectIter go v k fields
  | _ => beginIter v

def shownOf (seen : List Addr) (v : Value) : Eval String := do
  match ← cellOf v, v with
  | some (.object k fields), .ref a => objectShown go seen a k fields
  | _, _ => showValue go seen v

def textFor : Eval String := do
  match ← cellOf v, v with
  | some (.object k fields), .ref a => objectText go a k fields
  | _, _ => textOf go v

def skillNumber? : Eval (Option Value) := do
  match ← cellOf v with
  | some (.object .skill fields) => return some (.int (← skillValue go (dataField fields)))
  | _ => return none

def equalFor (a b : Value) : Eval Bool := do
  match ← skillNumber? go a with
  | some n => go (.eq n b)
  | none =>
    match ← skillNumber? go b with
    | some n => go (.eq n a)
    | none => equalValues go a b

def orderFor (o : Order) (a b : Value) : Eval Bool := do
  match ← skillNumber? go a with
  | some n => go (.order o n b)
  | none =>
    match ← skillNumber? go b with
    | some n => go (.order o.swap n a)
    | none => orderValues go o a b

def lengthFor : Eval Int := do
  match ← cellOf v with
  | some (.object k fields) =>
    match ← objectLen? go k fields with
    | some n => return n
    | none => lengthOf v
  | _ => lengthOf v

def truthFor : Eval Bool := do
  match ← cellOf v with
  | some (.object k fields) =>
    match ← objectLen? go k fields with
    | some n => return n != 0
    | none => return true
  | _ => truthOf v

def itemFor (container key : Value) : Eval Value := do
  match ← cellOf container with
  | some (.object k fields) => objectItem go container k fields key
  | _ => getItem go container key

def setItemFor (container key v : Value) : Eval Unit := do
  match ← cellOf container, container with
  | some (.arguments _ _), .ref a => setArguments a key v
  | _, _ => setItemOf go container key v

def containsFor (container v : Value) : Eval Bool := do
  match ← cellOf container with
  | some (.object k fields) => objectContains go container k fields v
  | _ => containsValue go container v

def attrFor (name : String) : Eval (Option Value) := do
  match ← cellOf v with
  | some (.object k fields) => objectAttr go v k fields name
  | _ => getAttr v name

/-- What each task does, by asking for others. -/
def step {α : Type} (task : Task α) : Eval α :=
  match task with
  | .expr e => evalExpr go e
  | .stmt s => execStmt go s
  | .body ss => execBody go ss
  | .call f args named => callValue go f args named
  | .method self name args named => callMethodOf go self name args named
  | .iter v => iterOf go v
  | .next c => nextOf go c
  | .shown seen v => shownOf go seen v
  | .text v => textFor go v
  | .eq a b => equalFor go a b
  | .order o a b => orderFor go o a b
  | .truth v => truthFor go v
  | .len v => lengthFor go v
  | .item container key => itemFor go container key
  | .setItem container key v => setItemFor go container key v
  | .contains container v => containsFor go container v
  | .attr v name => attrFor go v name
  | .size v visited => sizeBeside go v visited
  | .format v spec => formatValue go v spec

/-- A task is done with so many tasks nested in it at most. -/
def run : {α : Type} → Nat → Task α → World → Outcome α
  | _, 0, _, w => .error .outOfFuel w
  | _, n + 1, task, w => (step .ask task).exec (run n) w

def taskDepth : Nat := 100000

def perform {α : Type} (task : Task α) : Eval α := .ask task

def Eval.run {α : Type} (x : Eval α) : Run α := x.exec (Script.run taskDepth)

instance : MonadLift Eval Run where
  monadLift := Eval.run

def World.resetCounters (w : World) : World := { w with statements := 0, loops := 0 }

def resetCounters : Run Unit := modify World.resetCounters

def beginScript : Run (List Stmt) := do
  modify (·.inText text)
  readScript text

def runScript (body : List Stmt) : Eval Value := do
  let flow ← perform (.body body)
  refuseLoopControl flow
  match flow with
  | .ret v _ => return v
  | _ => return .none

/-- A script is run from fresh counts, and gives what it returns. -/
def execute : Run Value := do
  let body ← beginScript text
  resetCounters
  runScript body

def runFirst : List Stmt → Eval Value
  | [] => return .none
  | s :: _ => do
    let flow ← perform (.stmt s)
    refuseLoopControl flow
    match flow with
    | .ret v _ | .value v => return v
    | _ => return .none

/-- The first statement alone is run, and gives its value. -/
def evaluate : Run Value := do
  let body ← beginScript text
  if !(← get).simple then resetCounters
  runFirst body

def parseNodes : Run Value := do
  let body ← beginScript text
  alloc (.list false (body.map fun s => Value.node (stmtNode s)).toArray none)

def defaultNames : Names :=
  [("True", .bool true), ("False", .bool false), ("None", .none), ("bool", .cls .bool),
   ("int", .cls .int), ("float", .cls .float), ("str", .cls (.str true)), ("tuple", .cls .tuple),
   ("dict", .cls (.dict true)), ("list", .cls (.list true)), ("set", .cls (.set true))]

def commonNames : Names :=
  [("len", .fn .len), ("min", .fn .min), ("max", .fn .max), ("sum", .fn .sum), ("any", .fn .any),
   ("all", .fn .all), ("abs", .fn .abs), ("range", .cls .range), ("enumerate", .cls .enumerate),
   ("round", .fn .round), ("ceil", .fn .ceil), ("floor", .fn .floor), ("sqrt", .fn .sqrt),
   ("typeof", .fn .typeof)]

end AliasTools.Script
