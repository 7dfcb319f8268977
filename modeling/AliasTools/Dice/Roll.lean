import AliasTools.Dice.Expr

/-!
# Rolling

Rolling an expression takes values from a source, left to right, and gives a tree that remembers every
die with all values it ever showed.
-/

namespace AliasTools.Dice

open Number

/-! ## 1. The rolled tree -/

structure Face where
  value : Num
  before : List Num := []
  exploded : Bool := false

structure Die where
  size : Option Nat
  dropped : List Face
  face : Face
  kept : Bool := true

structure Note where
  label : Option String := none
  kept : Bool := true

inductive Rolled where
  | literal (face : Face) (note : Note)
  | dice (num : Int) (size : Option Nat) (ops : List SetOp) (dice : List Die) (note : Note)
  | paren (e : Rolled) (ops : List SetOp) (note : Note)
  | set (es : List Rolled) (ops : List SetOp) (note : Note)
  | unary (op : String) (e : Rolled) (note : Note)
  | binary (left : Rolled) (op : String) (right : Rolled) (note : Note)

namespace Rolled

def note : Rolled → Note
  | .literal _ n | .dice _ _ _ _ n | .paren _ _ n | .set _ _ n | .unary _ _ n | .binary _ _ _ n => n

def withNote (n : Note) : Rolled → Rolled
  | .literal f _ => .literal f n
  | .dice a b c d _ => .dice a b c d n
  | .paren e o _ => .paren e o n
  | .set es o _ => .set es o n
  | .unary o e _ => .unary o e n
  | .binary l o r _ => .binary l o r n

def withLabel (a : Option String) (r : Rolled) : Rolled := r.withNote { r.note with label := a }

end Rolled

/-! ## 2. Faults -/

inductive Fault where
  | tooManyRolls
  | noSides
  | badSelector (text : String)
  | divisionByZero

def Fault.message : Fault → String
  | .tooManyRolls => "Too many dice rolled."
  | .noSides => "Cannot roll a 0-sided die."
  | .badSelector t => t ++ " is not a valid selector for minimums"
  | .divisionByZero => "Cannot divide by zero."

/-! ## 3. Totals -/

def Die.total (d : Die) : Num := if d.kept then d.face.value else .int 0

def truthNum (b : Bool) : Num := .int (if b then 1 else 0)

def applyBinary (l : Num) (op : String) (r : Num) : Except Fault Num :=
  match op with
  | "+" => .ok (l.add r)
  | "-" => .ok (l.sub r)
  | "*" => .ok (l.mul r)
  | "/" => if r.isZero then .error .divisionByZero else .ok (l.div r)
  | "//" => if r.isZero then .error .divisionByZero else .ok (l.floorDiv r)
  | "%" => if r.isZero then .error .divisionByZero else .ok (l.mod r)
  | "<" => .ok (truthNum (l.compare? r == some .lt))
  | ">" => .ok (truthNum (l.compare? r == some .gt))
  | "==" => .ok (truthNum (l.compare? r == some .eq))
  | "!=" => .ok (truthNum (l.compare? r != some .eq))
  | ">=" => .ok (truthNum (l.compare? r == some .gt || l.compare? r == some .eq))
  | _ => .ok (truthNum (l.compare? r == some .lt || l.compare? r == some .eq))

def Rolled.counted (r : Rolled) (number : Except Fault Num) : Except Fault Num :=
  if r.note.kept then number else .ok (.int 0)

mutual

def Rolled.number : Rolled → Except Fault Num
  | .literal f _ => .ok f.value
  | .dice _ _ _ ds _ => .ok (Num.sum (ds.map Die.total))
  | .paren e _ _ => e.counted e.number
  | .set es _ _ => (totals es).map Num.sum
  | .unary o e _ => (e.counted e.number).map fun n => if o == "-" then n.neg else n
  | .binary l o r _ => do applyBinary (← l.counted l.number) o (← r.counted r.number)

def totals : List Rolled → Except Fault (List Num)
  | [] => .ok []
  | e :: es => do return (← e.counted e.number) :: (← totals es)

end

def Rolled.total (r : Rolled) : Except Fault Num := r.counted r.number

/-! ## 4. Selecting -/

structure Candidate where
  index : Nat
  total : Num

def sortLow (cs : List Candidate) : List Candidate := cs.mergeSort fun a b => a.total.compare? b.total != some .gt

def sortHigh (cs : List Candidate) : List Candidate := cs.mergeSort fun a b => a.total.compare? b.total != some .lt

def Selector.pick (s : Selector) (cs : List Candidate) : List Candidate :=
  let bound : Num := .int s.num
  match s.category with
  | some 'l' => (sortLow cs).take s.num
  | some 'h' => (sortHigh cs).take s.num
  | some '<' => cs.filter fun c => c.total.compare? bound == some .lt
  | some '>' => cs.filter fun c => c.total.compare? bound == some .gt
  | _ => cs.filter fun c => c.total.compare? bound == some .eq

def pickAll (cs : List Candidate) (limit : Option Nat) : List Selector → List Nat → List Nat
  | [], acc => acc
  | s :: rest, acc =>
    match limit with
    | some m =>
      if acc.length == m then acc
      else
        let new := ((s.pick cs).map (·.index)).take (m - acc.length)
        pickAll cs limit rest (acc ++ new.filter (!acc.contains ·))
    | none =>
      let new := (s.pick cs).map (·.index)
      pickAll cs limit rest (acc ++ new.filter (!acc.contains ·))

/-! ## 5. Rolling -/

structure Source where
  values : List Nat
  next : Nat := 0

def Source.draw (s : Source) : Nat × Source :=
  match s.values with
  | [] => (0, s)
  | v :: _ => (s.values.getD (s.next % s.values.length) v, { s with next := s.next + 1 })

structure RollState where
  source : Source
  rolled : Nat := 0

abbrev RollM := EStateM Fault RollState

def maxRolls : Nat := 1000

def rollFace (size : Option Nat) : RollM Face := do
  if size == some 0 then throw .noSides
  modify fun s => { s with rolled := s.rolled + 1 }
  if (← get).rolled > maxRolls then throw .tooManyRolls
  let (v, source) := (← get).source.draw
  modify fun s => { s with source := source }
  match size with
  | none => pure { value := .int (10 * (v % 10 : Nat)) }
  | some n => pure { value := .int (1 + (v % n : Nat)) }

def newDie (size : Option Nat) : RollM Die := do return { size := size, dropped := [], face := ← rollFace size }

def newDice (size : Option Nat) : Nat → RollM (List Die)
  | 0 => pure []
  | n + 1 => do
    let d ← newDie size
    return d :: (← newDice size n)

def diceCandidates (ds : List Die) : List Candidate :=
  (ds.zipIdx.filter fun (d, _) => d.kept).map fun (d, i) => ⟨i, d.total⟩

def changeAt (places : List Nat) (f : Die → Die) (ds : List Die) : List Die :=
  ds.zipIdx.map fun (d, i) => if places.contains i then f d else d

def rerollAt (places : List Nat) : List (Die × Nat) → RollM (List Die)
  | [] => pure []
  | (d, i) :: rest => do
    if places.contains i then
      let f ← rollFace d.size
      return { d with dropped := d.dropped ++ [d.face], face := f } :: (← rerollAt places rest)
    else return d :: (← rerollAt places rest)

def rerollUntil (sels : List Selector) (ds : List Die) : Nat → RollM (List Die)
  | 0 => throw .tooManyRolls
  | k + 1 => do
    match pickAll (diceCandidates ds) none sels [] with
    | [] => pure ds
    | places => rerollUntil sels (← rerollAt places ds.zipIdx) k

def explodeAt (size : Option Nat) (places : List Nat) (ds : List Die) : RollM (List Die) := do
  let marked := changeAt places (fun d => { d with face := { d.face with exploded := true } }) ds
  return marked ++ (← newDice size places.length)

def explodeUntil (size : Option Nat) (sels : List Selector) (ds : List Die) (done : List Nat) : Nat → RollM (List Die)
  | 0 => throw .tooManyRolls
  | k + 1 => do
    match (pickAll (diceCandidates ds) none sels []).filter (!done.contains ·) with
    | [] => pure ds
    | places => explodeUntil size sels (← explodeAt size places ds) (done ++ places) k

def clampDice (bound : Num) (beyond : Num → Bool) (ds : List Die) : List Die :=
  ds.map fun d =>
    if d.kept && beyond d.face.value then
      { d with face := { d.face with value := bound, before := d.face.before ++ [d.face.value] } }
    else d

def applyOp (size : Option Nat) (o : SetOp) (ds : List Die) : RollM (List Die) :=
  let picked := pickAll (diceCandidates ds) none o.selectors []
  match o.kind with
  | .keep => pure (ds.zipIdx.map fun (d, i) =>
      if d.kept && !picked.contains i then { d with kept := false } else d)
  | .drop => pure (changeAt picked (fun d => { d with kept := false }) ds)
  | .rerollAll => rerollUntil o.selectors ds (maxRolls + 2)
  | .rerollOnce => rerollAt picked ds.zipIdx
  | .explodeOnce => explodeAt size (pickAll (diceCandidates ds) (some 1) o.selectors []) ds
  | .explode => explodeUntil size o.selectors ds [] (maxRolls + 2)
  | .atLeast | .atMost =>
    match o.selectors.getLast? with
    | none => pure ds
    | some s =>
      if s.category.isSome then throw (.badSelector s.text)
      else
        let bound : Num := .int s.num
        let side : Ordering := if o.kind == .atLeast then .lt else .gt
        pure (clampDice bound (fun v => v.compare? bound == some side) ds)

def applyOps (size : Option Nat) : List SetOp → List Die → RollM (List Die)
  | [], ds => pure ds
  | o :: os, ds => do applyOps size os (← applyOp size o ds)

def setCandidates : List (Rolled × Nat) → Except Fault (List Candidate)
  | [] => .ok []
  | (e, i) :: rest =>
    if e.note.kept then do return ⟨i, ← e.total⟩ :: (← setCandidates rest) else setCandidates rest

def dropped (o : SetOp) (cs : List Candidate) : List Nat :=
  let picked := pickAll cs none o.selectors []
  if o.kind == .drop then picked
  else (cs.map (·.index)).filter (!picked.contains ·)

/-- Apply keeping or dropping to a bracket's values: a bracket around one value hands the operator
    on to it. -/
def Rolled.applySetOp (o : SetOp) : Rolled → Except Fault Rolled
  | .dice n s ops ds note =>
    let gone := dropped o (diceCandidates ds)
    .ok (.dice n s ops (changeAt gone (fun d => { d with kept := false }) ds) note)
  | .set es ops note =>
    (setCandidates es.zipIdx).map fun cs =>
      let gone := dropped o cs
      .set (es.zipIdx.map fun (e, i) =>
        if gone.contains i then e.withNote { e.note with kept := false } else e) ops note
  | .paren e ops note => (e.applySetOp o).map fun e => .paren e ops note
  | e =>
    if e.note.kept then
      e.total.map fun n =>
        if (dropped o [⟨0, n⟩]).isEmpty then e else e.withNote { e.note with kept := false }
    else .ok e

def Rolled.applySetOps (e : Rolled) : List SetOp → Except Fault Rolled
  | [] => .ok e
  | o :: os => do (← e.applySetOp o).applySetOps os

def liftFault {α : Type} : Except Fault α → RollM α
  | .ok a => pure a
  | .error x => throw x

mutual

def Expr.roll : Expr → RollM Rolled
  | .literal n => pure (.literal { value := n } {})
  | .dice num size ops => do
    let ds ← newDice size num.toNat
    return .dice num size ops (← applyOps size ops ds) {}
  | .paren e ops => do
    let r ← e.roll
    liftFault ((Rolled.paren r ops {}).applySetOps ops)
  | .set es ops => do
    let rs ← rollAll es
    liftFault ((Rolled.set rs ops {}).applySetOps ops)
  | .unary o e => do return .unary o (← e.roll) {}
  | .binary l o r => do
    let a ← l.roll
    return .binary a o (← r.roll) {}
  | .annotated e t => do return (← e.roll).withLabel (some t)

def rollAll : List Expr → RollM (List Rolled)
  | [] => pure []
  | e :: es => do
    let r ← e.roll
    return r :: (← rollAll es)

end

end AliasTools.Dice
