import AliasTools.Script.Alias

/-!
# Histories of runs

What a run does is told by its *history*: the list of its events, in their order.  `Eval.log` reads the
history off a computation, `history` off a task.  A history is made of a run and is no part of it: the
computations that are carried out keep none.
-/

namespace AliasTools.Script

open Syntax

/-! ## 1. Events -/

def Failure.isLimit : Failure → Bool
  | .waiting k _ => k.isLimit
  | .script e => e.cause.isLimit
  | _ => false

/-- A stretch of a run that has its place in the text of a script for itself. -/
inductive Region where
  /-- The body of the function at an address, which holds a text. -/
  | body (f : Addr) (text : String)
  /-- The work of the generator at an address. -/
  | work (a : Addr)
  | module
  /-- The import of the module at an address. -/
  | import (address : String)
  /-- What belongs to another text. -/
  | text (source : String)
deriving DecidableEq

/-- Where a limit can get lost on its way out. -/
inductive Loss where
  /-- The last part of a `try` left, or failed on its own. -/
  | lastPart
  /-- The import of a module made a fault of it. -/
  | import (address : String)
  /-- A function of the library went on with something else. -/
  | fallback

/-- What happens in a run. -/
inductive Event where
  /-- A node was counted, and is carried out. -/
  | node (span : Span)
  /-- A round of a loop was counted, and is carried out. -/
  | round (r : Rounds)
  /-- A name was looked up in a world. -/
  | read (name : String) (w : World)
  | made (a : Addr)
  /-- A name was bound in a scope, without asking whether it is built in. -/
  | bound (how : Binding) (name : String) (scope : Nat)
  | altered (what : Alteration) (before : Cell)
  /-- Something was done to the table of arguments at an address. -/
  | tabled (a : Addr) (what : TableChange) (before : ArgumentTable)
  /-- A generator began, with a layer of names for itself. -/
  | began (a : Addr) (layer : Nat)
  | ended (a : Addr)
  | entered (r : Region)
  | left (r : Region)
  /-- The module at an address was loaded. -/
  | loaded (address : String) (m : Value)
  /-- A call of the function at an address was too deep. -/
  | refused (f : Addr)
  | raised (e : Failure)
  /-- A failure on its way out was tied to a node. -/
  | tied (span : Span)
  /-- The last part of a `try` begins while a limit is on its way out. -/
  | unwinding
  | unwound
  /-- A limit is on its way no longer. -/
  | swallowed (l : Loss) (e : Failure)
  /-- A limit is on its way in place of an earlier one. -/
  | superseded (e : Failure)
  | completed (s : Stmt)

/-! ## 2. Events of changes -/

def World.closing (w : World) (a : Addr) : List Event :=
  match w.heap[a]? with
  | some (.generator g) =>
    match g.progress with
    | .running _ => [.ended a]
    | _ => []
  | _ => []

def World.closingIfLoose (since : Addr) (result : Value) (w : World) (a : Addr) : List Event :=
  match w.heap[a]? with
  | some (.generator g) => if since ≤ a && !g.active && !isHeld w a && !reaches w a 6 result then w.closing a else []
  | _ => []

def World.closingEach (since : Addr) (result : Value) (w : World) : List Addr → List Event
  | [] => []
  | a :: as => w.closingIfLoose since result a ++ closingEach since result (w.closeIfLoose since result a) as

def Turn.events (t : Turn) (a : Addr) (w : World) : List Event :=
  match w.heap[a]? with
  | some (.generator g) =>
    match t, g.progress with
    | .begin, .notStarted => [.began a w.layers.size]
    | .finish, .running _ => [.ended a]
    | .close, _ => w.closing a
    | _, _ => []
  | _ => []

def Change.events : Change → World → List Event
  | .alter a what, w => (w.heap[a]?.map (Event.altered what)).toList
  | .table a what, w =>
    match w.heap[a]? with
    | some (.arguments t _) => [.tabled a what t]
    | _ => []
  | .bind how name _, w => if how.isOpen w then [.bound how name w.scope] else []
  | .turn a t, w => t.events a w
  | .closeLoose since result, w => w.closingEach since result w.suspended
  | _, _ => []

/-! ## 3. The history of a computation -/

/-- What becomes of a limit after the last part of a `try`. -/
def lossAfter (e : Failure) : Outcome Flow → List Event
  | .ok last _ => if last.leaves then [.swallowed .lastPart e] else []
  | .error e' _ => if e'.isLimit then [.superseded e] else [.swallowed .lastPart e]

/-- A failure that passes a node is tied to it, unless it is tied already, and one that comes out of a call
    is tied to the call in any case. -/
def Wrapping.ties : Wrapping → Failure → List Event
  | .node span, .fault _ | .node span, .waiting _ _ | .call span, .script _ => [.tied span]
  | _, _ => []

/-- What becomes of a failure at a wrapping: the import of a module makes another one of it, and a limit
    gets lost there. -/
def Wrapping.loss (k : Wrapping) (source : String) (e : Failure) : List Event :=
  match k, e with
  | .module _, .outOfFuel => []
  | .module address, e => (if e.isLimit then [.swallowed (.import address) e] else []) ++ [.raised (k.apply source e)]
  | _, _ => []

abbrev Telling := {α : Type} → Task α → World → List Event

def Eval.log (answer : Answering) (told : Telling) : {α : Type} → Eval α → World → List Event
  | _, .pure _, _ => []
  | _, .bind x f, w =>
    x.log answer told w ++
      match x.exec answer w with
      | .ok v w => (f v).log answer told w
      | .error _ _ => []
  | _, .raise c, w => [.raised (c.failure w.source)]
  | _, .read, _ => []
  | _, .change c, w => c.events w
  | _, .make _ _, w => [.made w.heap.size]
  | _, .lookup name, w => [.read name w]
  | _, .assign span name v, w =>
    match (Eval.assign span name v).exec answer w with
    | .ok _ _ => []
    | .error e _ => [.raised e]
  | _, .node span, w =>
    match (Eval.node span).exec answer w with
    | .ok _ _ => [.node span]
    | .error e _ => [.raised e]
  | _, .round r span, w =>
    match (Eval.round r span).exec answer w with
    | .ok _ _ => [.round r]
    | .error e _ => [.raised e]
  | _, .ask t, w => told t w
  | _, .onFault x answers f, w =>
    x.log answer told w ++
      match x.exec answer w with
      | .error (.fault e) w => if answers e then (f e).log answer told w else []
      | _ => []
  | _, .wrapped k x, w =>
    x.log answer told w ++
      match x.exec answer w with
      | .error e w => k.ties e ++ k.loss w.source e
      | _ => []
  | _, .cleaning x c, w =>
    x.log answer told w ++
      match x.exec answer w with
      | .error _ w => c.events w
      | _ => []
  | _, .rescue x f, w =>
    x.log answer told w ++
      match x.exec answer w with
      | .error (.script e) w => if e.cause.isLimit then [] else (f e).log answer told w
      | _ => []
  | _, .lastly x final, w =>
    x.log answer told w ++
      match x.exec answer w with
      | .ok _ w => final.log answer told w
      | .error .outOfFuel _ => []
      | .error e w =>
        if e.isLimit then .unwinding :: final.log answer told w ++ .unwound :: lossAfter e (final.exec answer w)
        else final.log answer told w
  | _, .fallback x y, w =>
    x.log answer told w ++
      match x.exec answer w with
      | .error .outOfFuel _ => []
      | .error e w => (if e.isLimit then [.swallowed .fallback e] else []) ++ y.log answer told w
      | _ => []
  | _, .working a x, w =>
    .entered (.work a) :: x.log answer told w ++
      match x.exec answer w with
      | .error _ w => Turn.finish.events a w ++ [.left (.work a)]
      | _ => [.left (.work a)]
  | _, .inBody f x, w =>
    match w.functionAt? f with
    | none => [.raised (.fault ⟨.typeError, "object is not callable"⟩)]
    | some c =>
      if w.deeper.depth > w.limits.maxDepth then
        [.refused f, .raised (.waiting .tooMuchRecursion "Maximum recursion depth exceeded")]
      else .entered (.body f c.source) :: x.log answer told (w.deeper.enterBody c) ++ [.left (.body f c.source)]
  | _, .inModule x, w =>
    if w.deeper.depth > w.limits.maxDepth then [.raised (.fault ⟨.recursion, "Maximum recursion depth exceeded"⟩)]
    else .entered .module :: x.log answer told w.deeper.enterModule ++ [.left .module]
  | _, .importing addr load, w =>
    if w.importing.contains addr then [.raised (.fault (w.circularImport addr))]
    else
      match w.modules.get? addr with
      | some _ => []
      | none =>
        .entered (.import addr) :: load.log answer told (w.enterImport addr) ++ [.left (.import addr)] ++
            match load.exec answer (w.enterImport addr) with
            | .ok m _ => [.loaded addr m]
            | .error _ _ => []
  | _, .inText text x, w => .entered (.text text) :: x.log answer told (w.inText text) ++ [.left (.text text)]

/-! ## 4. The history of a task -/

def completion {α : Type} : Task α → Outcome α → List Event
  | .stmt s, .ok _ _ => [.completed s]
  | _, _ => []

def history : {α : Type} → Nat → Task α → World → List Event
  | _, 0, _, _ => []
  | _, n + 1, task, w => (step .ask task).log (run n) (history n) w ++ completion task (run (n + 1) task w)

def Eval.history {α : Type} (x : Eval α) (w : World) : List Event :=
  x.log (Script.run taskDepth) (Script.history taskDepth) w

/-! ## 5. The history of a script -/

variable (text : String) (w : World)

def executeHistory : List Event :=
  (readScript text).history (w.inText text) ++
    match beginScript text w with
    | .ok body w => (runScript body).history w.resetCounters
    | .error _ _ => []

/-- The history of evaluating a text, whose counters start anew once it has been read, unless only
    expressions are allowed. -/
def evaluateHistory : List Event :=
  (readScript text).history (w.inText text) ++
    match beginScript text w with
    | .ok body w => (runFirst body).history (if w.simple then w else w.resetCounters)
    | .error _ _ => []

/-- A text, and the way it is to be run. -/
inductive Program where
  | execute (text : String)
  | evaluate (text : String)
  | module (text name : String)

def Program.history : Program → World → List Event
  | .execute text, w => executeHistory text w
  | .evaluate text, w => evaluateHistory text w
  | .module text name, w => (executeModule perform text name).history w

/-- The history of running an alias, whose names and counters start anew once they have been made. -/
def aliasHistory : List Event :=
  makeOpening.history w ++
    match makeOpening.run w with
    | .ok o w => (runText (aliasText text)).history ((w.opened o).inText (aliasText text))
    | .error _ _ => []

end AliasTools.Script
