import AliasTools.Script.World
import Std.Data.HashSet

/-!
# Computations of a script

A rule of the evaluator is a computation: a tree of what is read, changed, asked and guarded against, in
the order it happens.  `Eval.exec` carries one out, given how the tasks it asks for are answered.  There
is no way to catch a failure but the few below, and no way to move a counter without its check.
-/

namespace AliasTools.Script

open Syntax

/-! ## 1. Tasks -/

/-- How a statement ends: with a value, or by leaving what it stands in. -/
inductive Flow where
  | value (v : Value)
  | ret (v : Value) (sp : Span)
  | brk (sp : Span)
  | cont (sp : Span)

def Flow.leaves : Flow → Bool
  | .value _ => false
  | _ => true

inductive Order where
  | lt | le | gt | ge

def Order.symbol : Order → String
  | .lt => "<" | .le => "<=" | .gt => ">" | .ge => ">="

def Order.swap : Order → Order
  | .lt => .gt | .le => .ge | .gt => .lt | .ge => .le

def Order.holds : Order → Ordering → Bool
  | .lt, o => o == .lt
  | .le, o => o != .gt
  | .gt, o => o == .gt
  | .ge, o => o != .lt

structure Visited where
  keys : Std.HashSet Key := {}
  others : List Value := []

/-- What a computation can ask for, with the type of the answer. -/
inductive Task : Type → Type 1 where
  | expr (e : Expr) : Task Value
  | stmt (s : Stmt) : Task Flow
  | body (ss : List Stmt) : Task Flow
  | call (f : Value) (args : List Value) (named : Names) : Task Value
  | method (self : Value) (name : String) (args : List Value) (named : Names) : Task Value
  | iter (v : Value) : Task Cursor
  | next (c : Cursor) : Task (Option (Value × Cursor))
  | shown (seen : List Addr) (v : Value) : Task String
  | text (v : Value) : Task String
  | eq (a b : Value) : Task Bool
  | order (o : Order) (a b : Value) : Task Bool
  | truth (v : Value) : Task Bool
  | len (v : Value) : Task Int
  | item (container key : Value) : Task Value
  | setItem (container key v : Value) : Task Unit
  | contains (container v : Value) : Task Bool
  | attr (v : Value) (name : String) : Task (Option Value)
  | size (v : Value) (visited : Visited) : Task (Int × Visited)
  | format (v : Value) (spec : String) : Task String

/-! ## 2. Failures that are wrapped on their way -/

def Failure.message : Failure → String
  | .fault f => f.message
  | .waiting _ m => m
  | .script e => e.message
  | .outOfFuel => ""

/-- What is added to an error on its way out. -/
inductive Wrapping where
  | node (span : Span)
  | call (span : Span)
  | context (name : String)
  | module (address : String)

def Wrapping.apply (source : String) : Wrapping → Failure → Failure
  | .node span, .fault f => .script (.annotated f { span := span, source := source })
  | .node span, .waiting k m => .script (.invalid k m { span := span, source := source })
  | .call span, .script e => .script (.nested e.message { span := span, source := source } e)
  | .context name, .script e => .script (e.within name)
  | .module _, .outOfFuel => .outOfFuel
  | .module address, e => .fault ⟨.moduleExecution address, s!"Error in module {address}: {e.message}"⟩
  | _, e => e

/-! ## 3. Computations -/

inductive Rounds where
  | forLoop | whileLoop | comprehension | unwrapping

def Rounds.kind : Rounds → InvalidKind
  | .forLoop | .whileLoop => .tooManyStatements
  | .comprehension | .unwrapping => .iterableTooLong

def Rounds.message : Rounds → String
  | .forLoop => "Too many loops (in for block)"
  | .whileLoop => "Too many loops (in while block)"
  | .comprehension => "Comprehension generates too many elements"
  | .unwrapping => "Unwrapping generates too many elements"

/-- A computation: what it reads, changes and asks for. -/
inductive Eval : Type → Type 1 where
  | pure {α : Type} (v : α) : Eval α
  | bind {α β : Type} (x : Eval α) (f : α → Eval β) : Eval β
  | raise {α : Type} (c : Complaint) : Eval α
  | read : Eval World
  | change (c : Change) : Eval Unit
  | make (c : Cell) (fresh : c.isFresh = true) : Eval Value
  | lookup (name : String) : Eval (Option Value)
  | assign (span : Option Span) (name : String) (v : Value) : Eval Unit
  | node (span : Span) : Eval Unit
  | round (r : Rounds) (span : Span) : Eval Unit
  | ask {α : Type} (t : Task α) : Eval α
  | onFault {α : Type} (x : Eval α) (answers : Fault → Bool) (f : Fault → Eval α) : Eval α
  | wrapped {α : Type} (k : Wrapping) (x : Eval α) : Eval α
  | cleaning {α : Type} (x : Eval α) (c : Change) : Eval α
  /-- Answer an error of the script, unless it is a limit; one that has no answer goes on. -/
  | rescue {α : Type} (x : Eval α) (f : ScriptError → Eval (Option α)) : Eval α
  /-- Carry a last part out whether or not there was an error; how it leaves is how the whole ends. -/
  | lastly (x final : Eval Flow) : Eval Flow
  | fallback {α : Type} (x y : Eval α) : Eval α
  | working {α : Type} (a : Addr) (x : Eval α) : Eval α
  /-- The body of the function at an address, one call deeper and in a scope of its own. -/
  | inBody {α : Type} (f : Addr) (x : Eval α) : Eval α
  /-- The text of a module, one call deeper and in a scope of its own. -/
  | inModule {α : Type} (x : Eval α) : Eval α
  /-- The import of the module at an address, which is loaded unless it is there. -/
  | importing (addr : String) (load : Eval Value) : Eval Value
  | inText {α : Type} (text : String) (x : Eval α) : Eval α

instance : Monad Eval where
  pure := .pure
  bind := .bind

instance : MonadReaderOf World Eval where
  read := .read

/-! ## 4. Carrying out -/

namespace World

variable (w : World)

def countNode : World := { w with statements := w.statements + 1 }

def countRound : World := { w with loops := w.loops + 1 }

def deeper : World := { w with depth := w.depth + 1 }

def functionAt? (f : Addr) : Option Closure :=
  match w.heap[f]? with
  | some (.closure c) => some c
  | _ => none

/-- A call has a scope of its own. -/
def enterBody (c : Closure) : World :=
  { w with
    scopes := w.scopes.push (w.scopes.getD c.scope [])
    scope := w.scopes.size
    callers := w.scope :: w.callers
    source := c.source }

/-- The caller goes on in its scope. -/
def leaveBody (before : World) : World :=
  { w with
    scope := before.scope, callers := before.callers, source := before.source
    depth := w.depth - 1 }

def enterModule : World := { w with scopes := w.scopes.push [], scope := w.scopes.size }

def leaveModule (before : World) : World := { w with scope := before.scope, depth := w.depth - 1 }

def enterImport (addr : String) : World := { w with importing := w.importing ++ [addr] }

def leaveImport : World := { w with importing := w.importing.dropLast }

def keepModule (addr : String) (m : Value) : World := { w with modules := w.modules.put addr m }

def inText (text : String) : World := { w with source := text }

end World

def World.errorAt (w : World) (kind : InvalidKind) (message : String) (span : Span) : Failure :=
  .script (.invalid kind message { span := span, source := w.source })

def World.noShadow (w : World) (span : Option Span) (name : String) : Failure :=
  let message := name ++ " is already builtin (no shadow assignments)."
  match span with
  | some span => w.errorAt .value message span
  | none => .fault ⟨.valueError, message⟩

def World.circularImport (w : World) (addr : String) : Fault :=
  ⟨.importError, "Circular import detected!\n" ++ String.intercalate " imports\n" w.importing ++ " imports\n" ++ addr⟩

abbrev Outcome (α : Type) := EStateM.Result Failure World α

/-- Whatever carries tasks out. -/
abbrev Answering := {α : Type} → Task α → World → Outcome α

/-- How a `try` ends whose body ended in some way, and whose last part in another. -/
def lastOutcome : Outcome Flow → Outcome Flow → Outcome Flow
  | r, .ok last w =>
    if last.leaves then .ok last w
    else match r with
      | .ok flow _ => .ok (if flow.leaves then flow else .value .none) w
      | .error e _ => .error e w
  | _, r => r

/-- Carry a computation out. -/
def Eval.exec (answer : Answering) : {α : Type} → Eval α → World → Outcome α
  | _, .pure v, w => .ok v w
  | _, .bind x f, w =>
    match x.exec answer w with
    | .ok v w => (f v).exec answer w
    | .error e w => .error e w
  | _, .raise c, w => .error (c.failure w.source) w
  | _, .read, w => .ok w w
  | _, .change c, w => .ok () (c.apply w)
  | _, .make c _, w => .ok (.ref w.heap.size) { w with heap := w.heap.push (c.madeIn w.source) }
  | _, .lookup name, w => .ok (w.lookup name) w
  | _, .assign span name v, w =>
    if w.builtins.has name then .error (w.noShadow span name) w else .ok () (w.bindName name v)
  | _, .node span, w =>
    let w := w.countNode
    if w.statements > w.limits.maxStatements then
      .error (w.errorAt .tooManyStatements "You are trying to execute too many statements." span) w
    else .ok () w
  | _, .round r span, w =>
    let w := w.countRound
    if w.loops > w.limits.maxLoops then .error (w.errorAt r.kind r.message span) w else .ok () w
  | _, .ask t, w => answer t w
  | _, .onFault x answers f, w =>
    match x.exec answer w with
    | .error (.fault e) w => if answers e then (f e).exec answer w else .error (.fault e) w
    | r => r
  | _, .wrapped k x, w =>
    match x.exec answer w with
    | .error e w => .error (k.apply w.source e) w
    | r => r
  | _, .cleaning x c, w =>
    match x.exec answer w with
    | .error e w => .error e (c.apply w)
    | r => r
  | _, .rescue x f, w =>
    match x.exec answer w with
    | .error (.script e) w =>
      if e.cause.isLimit then .error (.script e) w
      else
        match (f e).exec answer w with
        | .ok (some v) w => .ok v w
        | .ok none w => .error (.script e) w
        | .error e' w => .error e' w
    | r => r
  | _, .lastly x final, w =>
    match x.exec answer w with
    | .ok flow w => lastOutcome (.ok flow w) (final.exec answer w)
    | .error .outOfFuel w => .error .outOfFuel w
    | .error e w => lastOutcome (.error e w) (final.exec answer w)
  | _, .fallback x y, w =>
    match x.exec answer w with
    | .error .outOfFuel w => .error .outOfFuel w
    | .error _ w => y.exec answer w
    | r => r
  | _, .working a x, w =>
    match x.exec answer w with
    | .error e w => .error e (Turn.finish.apply a w)
    | r => r
  | _, .inBody f x, w =>
    match w.functionAt? f with
    | none => .error (.fault ⟨.typeError, "object is not callable"⟩) w
    | some c =>
      let before := w
      let w := w.deeper
      if w.depth > w.limits.maxDepth then .error (.waiting .tooMuchRecursion "Maximum recursion depth exceeded") w
      else
        match x.exec answer (w.enterBody c) with
        | .ok v w => .ok v (w.leaveBody before)
        | .error e w => .error e (w.leaveBody before)
  | _, .inModule x, w =>
    let before := w
    let w := w.deeper.enterModule
    if w.depth > w.limits.maxDepth then
      .error (.fault ⟨.recursion, "Maximum recursion depth exceeded"⟩) (w.leaveModule before)
    else
      match x.exec answer w with
      | .ok v w => .ok v (w.leaveModule before)
      | .error e w => .error e (w.leaveModule before)
  | _, .importing addr load, w =>
    if w.importing.contains addr then .error (.fault (w.circularImport addr)) w
    else
      match w.modules.get? addr with
      | some m => .ok m w
      | none =>
        match load.exec answer (w.enterImport addr) with
        | .ok m w => .ok m (w.leaveImport.keepModule addr m)
        | .error e w => .error e w.leaveImport
  | _, .inText text x, w =>
    let before := w
    match x.exec answer (w.inText text) with
    | .ok v w => .ok v (w.inText before.source)
    | .error e w => .error e (w.inText before.source)

/-! ## 5. Failing -/

def raise {α : Type} (c : Complaint) : Eval α := .raise c

variable {α : Type} (message : String)

def fail (kind : FaultKind) (message : String) : Eval α := raise (.fault ⟨kind, message⟩)

def typeFault : Eval α := fail .typeError message

def valueFault : Eval α := fail .valueError message

def failWaiting (kind : InvalidKind) (message : String) : Eval α := raise (.waiting kind message)

def failAt (kind : InvalidKind) (message : String) (span : Span) : Eval α :=
  .wrapped (.node span) (failWaiting kind message)

def failForm (span : Span) : Eval α :=
  raise (.form ⟨.form, message, some ⟨span.line, span.col + 1, span.endLine, span.endCol + 1⟩⟩)

def orRaise : Except Fault α → Eval α
  | .ok v => .pure v
  | .error f => raise (.fault f)

/-- Faults of some kinds give way to another computation. -/
def onFaults (kinds : List FaultKind) (x y : Eval α) : Eval α := .onFault x (fun f => kinds.contains f.kind) fun _ => y

/-! ## 6. Cells -/

def updateSession (f : Session → Session) : Eval Unit := .change (.session f)

def cellAt (a : Addr) : Eval (Option Cell) := do return (← read).heap[a]?

def cellOf : Value → Eval (Option Cell)
  | .ref a => cellAt a
  | _ => pure none

/-- A new cell, of which nothing is measured. -/
def alloc (c : Cell) : Eval Value := .make c.asNew c.isFresh_asNew

def alter (a : Addr) (what : Alteration) : Eval Unit := .change (.alter a what)

/-! ## 7. Names -/

def scopeNames : Eval Names := do return (← read).scopeNames

def bindName (how : Binding) (name : String) (v : Value) : Eval Unit := .change (.bind how name v)

/-! ## 8. Tasks, and what is done around scripts -/

abbrev Go := {α : Type} → Task α → Eval α

abbrev Run := EStateM Failure World

end AliasTools.Script
