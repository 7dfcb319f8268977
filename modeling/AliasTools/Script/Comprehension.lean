import AliasTools.Script.Iterate

/-!
# Comprehensions and generators

A comprehension goes through its `for` clauses and emits a value for each way they can be satisfied.
-/

namespace AliasTools.Script

open Syntax

variable (go : Go) (span : Span)

def makeGenerator (emit : Emit) (clauses : List Clause) : Eval Value :=
  alloc (.generator
    { span := span, emit := emit, clauses := clauses, progress := .notStarted, layer := 0,
      previous := [], active := false })

def targetNode : Expr → String
  | .starred _ _ _ => "Starred"
  | .subscript _ _ _ _ => "Subscript"
  | .attribute _ _ _ _ => "Attribute"
  | _ => "Name"

/-- Several targets take as many values as there are. -/
def bindTarget (layer : Nat) (v : Value) : Nat → Expr → Eval Unit
  | 0, _ => raise .outOfFuel
  | k + 1, target => do
    let each (elts : List Expr) : Eval Unit := do
      let vs ← collect go v
      (elts.zip vs.toList).forM fun (t, x) => bindTarget layer x k t
    match target with
    | .name _ id _ => .change (.bindLoop layer id v)
    | .tuple _ elts _ | .list _ elts _ => each elts
    | t => fail .attributeError s!"'{targetNode t}' object has no attribute 'elts'"

def allHold : List Expr → Eval Bool
  | [] => pure true
  | e :: es => do
    let v ← go (.expr e)
    if ← go (.truth v) then allHold es else return false

def emitValue (e : Emit) : Eval (Value × Int) := do
  match e with
  | .item e =>
    let v ← go (.expr e)
    return (v, ← sizeOf go v)
  | .pair k v =>
    let key ← go (.expr k)
    let value ← go (.expr v)
    return (.tuple [key, value], ← sizeOfPair go key value)

/-- The next value of nested clauses, the innermost first. -/
def runClauses (g : Generator) (runs : List ClauseRun) : Nat → Eval (Option (Value × List ClauseRun))
  | 0 => raise .outOfFuel
  | k + 1 => do
    match runs with
    | [] => return none
    | r :: outer =>
      match ← go (.next r.cursor) with
      | none => runClauses g outer k
      | some (v, cursor) =>
        .round .comprehension g.span
        let r : ClauseRun := { r with cursor := cursor }
        match g.clauses[r.index]? with
        | none => return none
        | some (.mk target _ conditions _) =>
          bindTarget go g.layer v 100 target
          if ← allHold go conditions then
            match g.clauses[r.index + 1]? with
            | some (.mk _ iter _ _) =>
              let c ← go (.iter (← go (.expr iter)))
              runClauses g (⟨r.index + 1, c, r.total⟩ :: r :: outer) k
            | none =>
              let (value, size) ← emitValue go g.emit
              let total := r.total + size + 1
              if total > (← read).limits.maxConstLen then
                failAt .iterableTooLong "Comprehension generates too much" g.span
              return some (value, { r with total := total } :: outer)
          else runClauses g (r :: outer) k

def startGenerator (a : Addr) (g : Generator) : Eval (Generator × List ClauseRun) := do
  let g := { g with layer := (← read).layers.size }
  .change (.turn a .begin)
  match g.clauses with
  | [] => return (g, [])
  | .mk _ iter _ _ :: _ =>
    let c ← go (.iter (← go (.expr iter)))
    return (g, [⟨0, c, 0⟩])

def goOn (a : Addr) (g : Generator) (runs : List ClauseRun) : Eval (Option Value) := do
  match ← runClauses go g runs runLimit with
  | some (v, runs) =>
    .change (.turn a (.suspend runs))
    return some v
  | none =>
    .change (.turn a .finish)
    return none

/-- A generator goes on to its next value, unless it is at work. -/
def resume (a : Addr) (g : Generator) : Eval (Option Value) := do
  if g.active then valueFault "generator already executing"
  match g.progress with
  | .finished => return none
  | _ => .working a do
    let (g, runs) ← match g.progress with
      | .running runs => do
        .change (.turn a .wake)
        pure (g, runs)
      | _ => startGenerator go a g
    goOn go a g runs

def emitAll {σ : Type} (a : Addr) (add : σ → Value → Eval σ) (s : σ) : Nat → Eval σ
  | 0 => raise .outOfFuel
  | k + 1 => do
    match ← go (.next (.cell a)) with
    | none => return s
    | some (v, _) => emitAll a add (← .cleaning (add s v) (.turn a .close)) k

/-- A comprehension is a generator that is run to its end. -/
def comprehend {σ : Type} (span : Span) (emit : Emit) (clauses : List Clause)
    (add : σ → Value → Eval σ) (s : σ) : Eval σ := do
  match ← makeGenerator span emit clauses with
  | .ref a => emitAll go a add s runLimit
  | _ => return s

def listComprehension (elt : Expr) (clauses : List Clause) : Eval Value := do
  makeList go (← comprehend go span (.item elt) clauses (fun xs v => pure (xs.push v)) #[])

def setComprehension (elt : Expr) (clauses : List Clause) : Eval Value := do
  let add (s : Members × Std.HashSet Key) (v : Value) : Eval (Members × Std.HashSet Key) := do
    let k ← hashKey v
    if s.2.contains k then return s else return (s.1.push ⟨k, v⟩, s.2.insert k)
  makeSet go (← comprehend go span (.item elt) clauses add (#[], {})).1

def dictComprehension (key value : Expr) (clauses : List Clause) : Eval Value := do
  let add (s : Entries × Std.HashMap Key Nat) (v : Value) : Eval (Entries × Std.HashMap Key Nat) := do
    match v with
    | .tuple [k, x] =>
      let h ← hashKey k
      match s.2[h]? with
      | some i => return (s.1.modify i fun e => { e with value := x }, s.2)
      | none => return (s.1.push ⟨h, k, x⟩, s.2.insert h s.1.size)
    | _ => return s
  makeDict go (← comprehend go span (.pair key value) clauses add (#[], {})).1

end AliasTools.Script
