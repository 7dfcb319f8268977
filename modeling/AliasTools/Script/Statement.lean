import AliasTools.Script.Expression

/-!
# Executing statements

A statement ends with a value, or leaves the function or the loop it stands in.  A call runs in a scope of
its own: the names of the place where the function was written, and the parameters.
-/

namespace AliasTools.Script

open Syntax Text

/-! ## 1. Calling functions of a script -/

structure Supplied where
  args : List Value
  named : Names

/-- A parameter as a call fills it: by its place, by its name, or either way. -/
structure Slot where
  name : String
  byPlace : Bool
  byName : Bool

def slotsOf : Params → List Slot
  | .mk posOnly ordinary _ kwOnly _ _ _ =>
    posOnly.map (⟨·.name, true, false⟩) ++ ordinary.map (⟨·.name, true, true⟩) ++ kwOnly.map (⟨·.name, false, true⟩)

/-- The defaults of all parameters; of those that have a place it is the last ones. -/
def defaultsOf : Params → List (Option Expr)
  | .mk posOnly ordinary _ _ kwDefaults _ defaults =>
    List.replicate (posOnly.length + ordinary.length - defaults.length) none ++ defaults.map some ++ kwDefaults

variable (go : Go)

def bindSlots (label : String) (s : Supplied) : List (Slot × Option Expr) → Eval Supplied
  | [] => pure s
  | (p, default) :: rest => do
    match if p.byPlace then s.args else [], if p.byName then s.named.get? p.name else none with
    | _ :: _, some _ => typeFault s!"{label}() got multiple values for argument {quote p.name}"
    | v :: vs, none =>
      bindName .parameter p.name v
      bindSlots label { s with args := vs } rest
    | [], some v =>
      bindName .parameter p.name v
      bindSlots label { s with named := s.named.drop p.name } rest
    | [], none =>
      match default with
      | some e =>
        bindName .parameter p.name (← go (.expr e))
        bindSlots label s rest
      | none =>
        let way := if p.byPlace then "positional" else "keyword"
        typeFault s!"{label}() missing required {way} argument: {quote p.name}"

def namesDict (ns : Names) : Eval Value :=
  alloc (.dict false (ns.map fun (n, v) => (⟨.str n, .str n false, v⟩ : Entry)).toArray none)

def bindGathered (mark : String) (p : Param) (v : Value) : Eval Unit := do
  if (← sizeOf go v) > (← read).limits.maxConstLen then
    failWaiting .iterableTooLong s!"{mark}{p.name} would be too large"
  bindName .parameter p.name v

def bindRest (vararg : Option Param) (args : List Value) : Eval Unit :=
  match vararg with
  | some p => bindGathered go "*" p (.tuple args)
  | none => pure ()

def bindExtra (label : String) (kwarg : Option Param) (named : Names) : Eval Unit := do
  match kwarg with
  | some p => bindGathered go "**" p (← namesDict named)
  | none =>
    if !named.isEmpty then
      let names ← go (.shown [] (.tuple (named.map fun p => .str p.1 false)))
      typeFault s!"{label}() got unexpected keyword arguments: {names}"

def bindArguments (label : String) (params : Params) (args : List Value) (named : Names) : Eval Unit := do
  let slots := slotsOf params
  let places := slots.countP (·.byPlace)
  if args.length > places && params.vararg.isNone then
    typeFault s!"{label}() takes {places} positional arguments but {args.length} were given"
  let s ← bindSlots go label ⟨args, named⟩ (slots.zip (defaultsOf params))
  bindRest go params.vararg s.args
  bindExtra go label params.kwarg s.named

def bodyResult (flow : Flow) : Eval Value :=
  match flow with
  | .ret v _ => pure v
  | .brk sp | .cont sp => failForm "Loop control outside loop" sp
  | .value _ => pure .none

def runBody (c : Closure) (args : List Value) (named : Names) : Eval Value := do
  bindArguments go c.name c.params args named
  match c.body with
  | .inl body => bodyResult (← go (.body body))
  | .inr e => go (.expr e)

def callClosure (a : Addr) (c : Closure) (args : List Value) (named : Names) : Eval Value := do
  if named.has "self" then
    typeFault ((if c.isLambda then "_Lambda" else "_Function") ++ ".__call__() got multiple values for argument 'self'")
  .wrapped (.context c.name) (.inBody a (runBody go c args named))

/-! ## 2. Statements -/

variable (go : Go)

def execBody : List Stmt → Eval Flow
  | [] => pure (.value .none)
  | s :: rest => do
    let flow ← go (.stmt s)
    if flow.leaves then return flow else execBody rest

def roundEnd : Flow → Option Flow
  | .ret v sp => some (.ret v sp)
  | .brk _ => some (.value .none)
  | _ => none

def forRounds (span : Span) (target : Expr) (body orelse : List Stmt) (c : Cursor) : Nat → Eval Flow
  | 0 => raise .outOfFuel
  | k + 1 => do
    match ← go (.next c) with
    | none => go (.body orelse)
    | some (v, c) =>
      .round .forLoop span
      assign go v target
      match roundEnd (← go (.body body)) with
      | some flow => return flow
      | none => forRounds span target body orelse c k

def whileRounds (span : Span) (test : Expr) (body orelse : List Stmt) : Nat → Eval Flow
  | 0 => raise .outOfFuel
  | k + 1 => do
    let t ← go (.expr test)
    if !(← go (.truth t)) then go (.body orelse)
    else
      .round .whileLoop span
      match roundEnd (← go (.body body)) with
      | some flow => return flow
      | none => whileRounds span test body orelse k

def execFor (span : Span) (target iter : Expr) (body orelse : List Stmt) : Eval Flow := do
  let since := (← read).heap.size
  let loop : Eval Flow := do
    let v ← go (.expr iter)
    let c ← go (.iter v)
    forRounds go span target body orelse c runLimit
  let flow ← .cleaning loop (.closeLoose since .none)
  .change (.closeLoose since (match flow with
    | .ret v _ => v
    | _ => .none))
  return flow

def execCases (subject : Value) : List MatchCase → Eval Flow
  | [] => pure (.value .none)
  | .mk pattern guard body :: rest => do
    match ← matchPattern go patternDepth subject pattern with
    | none => execCases subject rest
    | some captures =>
      captures.forM fun (n, v) => bindName .capture n v
      match guard with
      | none => go (.body body)
      | some g =>
        let t ← go (.expr g)
        if ← go (.truth t) then go (.body body) else execCases subject rest

def isTextLiteral : Expr → Bool
  | .constant _ (.str _ _) => true
  | _ => false

def handlerFits (name : String) (h : Handler) : Eval Bool := do
  match h with
  | .mk sp type _ _ =>
    let refuse : Eval Bool := failAt .featureNotAvailable
      "'except' clause expressions must be string literals or tuple of string literals" sp
    match type with
    | none => return true
    | some (.constant at0 (.str s _)) =>
      let limit := (← read).limits.maxConstLen
      if s.length > limit then
        failAt .iterableTooLong s!"String literal in statement is too long ({s.length} > {limit})" at0
      return s == name
    | some (.tuple _ elts _) =>
      if !elts.all isTextLiteral then refuse
      else
        let vs ← unwrapElements go true 0 #[] elts
        return vs.any fun v => v.asText? == some name
    | some _ => refuse

def findHandler (name : String) : List Handler → Eval (Option Handler)
  | [] => pure none
  | h :: hs => do if ← handlerFits go name h then return some h else findHandler name hs

def execHandler : Handler → Eval Flow
  | .mk sp _ name body => do
    if name.isSome then failAt .featureNotAvailable "'except ... as X' is not available in this interpreter" sp
    go (.body body)

def answerWith : Option Handler → Eval (Option Flow)
  | some h => do return some (← execHandler go h)
  | none => return none

/-- Go on after the body of a `try`: on the left it went well, on the right it was answered. -/
def goOnAfter (orelse : List Stmt) : Flow ⊕ Flow → Eval Flow
  | .inl flow => if flow.leaves then return flow else go (.body orelse)
  | .inr flow => return flow

def execGuarded (body : List Stmt) (handlers : List Handler) (orelse : List Stmt) : Eval Flow := do
  let outcome ← .rescue (.inl <$> go (.body body)) fun e => do
    return (← answerWith go (← findHandler go e.cause.className handlers)).map .inr
  goOnAfter go orelse outcome

/-- A `try`: its last part is always carried out, and when it leaves, that is how the whole ends. -/
def execTry (body : List Stmt) (handlers : List Handler) (orelse final : List Stmt) : Eval Flow :=
  .lastly (execGuarded go body handlers orelse) (go (.body final))

def defineFunction (span : Span) (name : String) (params : Params) (body : List Stmt) : Eval Unit := do
  let w ← read
  let f ← alloc (.closure
    { name := name, isLambda := false, params := params, body := .inl body, scope := w.scope,
      source := w.source })
  .assign (some span) name f

def execNode (s : Stmt) : Eval Flow := do
  let done : Flow := .value .none
  match s with
  | .expr _ e => return .value (← go (.expr e))
  | .pass _ => return done
  | .break sp => return .brk sp
  | .continue sp => return .cont sp
  | .ret sp value =>
    let v ← match value with
      | some e => go (.expr e)
      | none => pure .none
    return .ret v sp
  | .assign _ targets value _ =>
    let v ← go (.expr value)
    targets.forM fun t => assign go v t
    return done
  | .augAssign _ target op value =>
    if op == .matMult then fail .keyError "<class 'ast.MatMult'>"
    let a ← go (.expr target)
    let b ← go (.expr value)
    assign go (← binaryOp go op a b) target
    return done
  | .ifElse _ test body orelse =>
    let t ← go (.expr test)
    if ← go (.truth t) then go (.body body) else go (.body orelse)
  | .whileLoop sp test body orelse => whileRounds go sp test body orelse runLimit
  | .matchOn _ subject cases =>
    let v ← go (.expr subject)
    execCases go v cases
  | .forLoop sp target iter body orelse _ isAsync =>
    if isAsync then notAvailable (stmtNode s) sp else execFor go sp target iter body orelse
  | .functionDef sp name params body _ _ _ isAsync =>
    if isAsync then notAvailable (stmtNode s) sp
    defineFunction sp name params body
    return done
  | .tryExcept sp body handlers orelse final isStar =>
    if isStar then notAvailable (stmtNode s) sp else execTry go body handlers orelse final
  | _ => notAvailable (stmtNode s) s.span

def execStmt (s : Stmt) : Eval Flow := do
  if (← read).simple then
    match s with
    | .expr sp e => tiedTo sp (do return .value (← go (.expr e)))
    | _ => notAvailable (stmtNode s) s.span
  else
    .node s.span
    tiedTo s.span (execNode go s)

end AliasTools.Script
