import AliasTools.Dice.Roll

/-!
# The text of a roll

A roll is written with every die and its values; `Rolled.plain` writes only what counts, so that the
text can be rolled again; `Rolled.simplify` reduces a roll to its annotated sums.
-/

namespace AliasTools.Dice

open Number

def Face.text (f : Face) : String :=
  let history := String.intercalate " -> " ((f.before ++ [f.value]).map Num.text)
  if f.exploded then history ++ "!" else history

def Face.isExtreme (size : Option Nat) (f : Face) : Bool :=
  f.value.compare? (.int 1) == some .eq ||
    match size with
    | some n => f.value.compare? (.int n) == some .eq
    | none => false

def faceMarkdown (size : Option Nat) (struck : Bool) (f : Face) : String :=
  let inner := if struck then s!"~~{f.text}~~" else f.text
  if f.isExtreme size then s!"**{inner}**" else inner

def Die.markdown (d : Die) : String :=
  if d.kept then
    String.intercalate ", " (d.dropped.map (faceMarkdown d.size true) ++ [faceMarkdown d.size false d.face])
  else "~~" ++ String.intercalate ", " ((d.dropped ++ [d.face]).map (faceMarkdown d.size false)) ++ "~~"

def opsText (ops : List SetOp) : String := String.join (ops.map SetOp.text)

def sizeText : Option Nat → String
  | some n => String.ofList (natText n)
  | none => "%"

def finishMarkdown (inDropped : Bool) (n : Note) (text : String) : String :=
  let noted := match n.label with
    | some a => s!"{text} {a}"
    | none => text
  if n.kept || inDropped then noted else s!"~~{noted}~~"

mutual

def Rolled.markdown (inDropped : Bool) : Rolled → String
  | .literal f n => finishMarkdown inDropped n f.text
  | .dice num size ops ds n =>
    let values := ds.map fun d =>
      if inDropped || !n.kept then String.intercalate ", " ((d.dropped ++ [d.face]).map (faceMarkdown d.size false))
      else d.markdown
    finishMarkdown inDropped n (s!"{String.ofList (intText num)}d{sizeText size}{opsText ops}" ++
      " (" ++ String.intercalate ", " values ++ ")")
  | .paren e ops n => finishMarkdown inDropped n s!"({e.markdown (inDropped || !n.kept)}){opsText ops}"
  | .set es ops n =>
    let values := markdownAll (inDropped || !n.kept) es
    let comma := if es.length == 1 then "," else ""
    finishMarkdown inDropped n ("(" ++ String.intercalate ", " values ++ s!"{comma}){opsText ops}")
  | .unary o e n => finishMarkdown inDropped n (o ++ e.markdown (inDropped || !n.kept))
  | .binary l o r n =>
    let inside := inDropped || !n.kept
    finishMarkdown inDropped n s!"{l.markdown inside} {o} {r.markdown inside}"

def markdownAll (inDropped : Bool) : List Rolled → List String
  | [] => []
  | e :: es => e.markdown inDropped :: markdownAll inDropped es

end

def withNoteText (n : Note) (text : String) : String :=
  match n.label with
  | some a => s!"{text} {a}"
  | none => text

mutual

def Rolled.plain : Rolled → Except Fault String
  | .literal f n => .ok (if n.kept then withNoteText n f.value.text else "")
  | .dice _ _ _ ds n =>
    if n.kept then
      let values := (ds.filter (·.kept)).map fun d => d.total.text
      let comma := if ds.length == 1 then "," else ""
      .ok (withNoteText n ("(" ++ String.intercalate ", " values ++ comma ++ ")"))
    else .ok ""
  | .paren e _ n => if n.kept then e.plain.map fun t => withNoteText n s!"({t})" else .ok ""
  | .set es _ n =>
    if n.kept then
      (plainAll es).map fun values =>
        let comma := if es.length == 1 then "," else ""
        withNoteText n ("(" ++ String.intercalate ", " values ++ comma ++ ")")
    else .ok ""
  | .unary o e n => if n.kept then e.plain.map fun t => withNoteText n (o ++ t) else .ok ""
  | .binary l o r n => if n.kept then do return withNoteText n s!"{← l.plain} {o} {← r.plain}" else .ok ""

def plainAll : List Rolled → Except Fault (List String)
  | [] => .ok []
  | e :: es => do
    let t ← e.plain
    let ts ← plainAll es
    return if t.isEmpty then ts else t :: ts

end

def addNew (xs ys : List String) : List String := xs ++ ys.filter (!xs.contains ·)

def isScaling (o : String) : Bool := o == "*" || o == "/" || o == "//" || o == "%"

def inherit (kinds : List String) (own : List String) (e : Rolled) : Rolled :=
  if own.isEmpty then e.withLabel kinds.head? else e

/-- A node after its children: one kind of annotation moves up to it, several move down to the
    children without any. -/
def settle (kinds : List String) (build : (List String → Rolled → Rolled) → Rolled) : Rolled × List String :=
  match kinds with
  | [k] => ((build fun _ e => e.withLabel none).withLabel (some k), kinds)
  | [] => (build fun _ e => e, kinds)
  | _ => (build (inherit kinds), kinds)

mutual

def Rolled.bubble : Rolled → Rolled × List String
  | .literal f n => (.literal f n, n.label.toList)
  | .dice a b c d n => (.dice a b c d n, n.label.toList)
  | .paren e ops n =>
    let (e, ks) := e.bubble
    settle (addNew ks n.label.toList) fun f => .paren (f ks e) ops n
  | .set es ops n =>
    let es := bubbleAll es
    let kinds := es.foldl (fun acc p => addNew acc p.2) []
    settle (addNew kinds n.label.toList) fun f => .set (es.map fun (e, ks) => f ks e) ops n
  | .unary o e n =>
    let (e, ks) := e.bubble
    settle (addNew ks n.label.toList) fun f => .unary o (f ks e) n
  | .binary l o r n =>
    let (l, ls) := l.bubble
    let (r, rs) := r.bubble
    let kinds := addNew (addNew ls rs) n.label.toList
    settle kinds fun f =>
      .binary (f ls l) o (if isScaling o && kinds.length > 1 then r else f rs r) n

def bubbleAll : List Rolled → List (Rolled × List String)
  | [] => []
  | e :: es => e.bubble :: bubbleAll es

end

variable (r : Rolled)

def literalOf (label : Option String) : Except Fault Rolled :=
  r.total.map fun n => .literal { value := n } { label := label }

def flatten (anyReplaced : Bool) (p : Rolled × Bool) : Except Fault Rolled :=
  if anyReplaced && !p.2 then literalOf p.1 none else .ok p.1

mutual

def Rolled.condense (r : Rolled) : Except Fault (Rolled × Bool) :=
  match r.note.label with
  | some a => (literalOf r (some a)).map (·, true)
  | none =>
    match r with
    | .literal f n => .ok (.literal f n, false)
    | .dice a b c d n => .ok (.dice a b c d n, false)
    | .paren e ops n => e.condense.map fun (e, x) => (.paren e ops n, x)
    | .unary o e n => e.condense.map fun (e, x) => (.unary o e n, x)
    | .set es ops n => do
      let ps ← condenseAll es
      let any := ps.any (·.2)
      return (.set (← ps.mapM (flatten any)) ops n, any)
    | .binary l o r n => do
      let a ← l.condense
      let b ← r.condense
      let any := a.2 || b.2
      return (.binary (← flatten any a) o (← flatten any b) n, any)

def condenseAll : List Rolled → Except Fault (List (Rolled × Bool))
  | [] => .ok []
  | e :: es => do return (← e.condense) :: (← condenseAll es)

end

def Rolled.simplify : Except Fault Rolled := do
  let p ← r.bubble.1.condense
  flatten true p

def Rolled.totalInt : Except Fault Int := r.total.map Num.truncate

def Rolled.text : Except Fault String :=
  r.totalInt.map fun n =>
    s!"{r.markdown false} = `{String.ofList (intText n)}`"

def Rolled.leftmost : Rolled → Rolled
  | .paren e _ _ => e.leftmost
  | .set (e :: _) _ _ => e.leftmost
  | .unary _ e _ => e.leftmost
  | .binary l _ _ _ => l.leftmost
  | e => e

def Rolled.critical : Int :=
  match r.leftmost with
  | .dice _ (some 20) _ ds n =>
    if (ds.filter (·.kept)).length == 1 && n.kept then
      match Num.sum (ds.map Die.total) with
      | .int 20 => 1
      | .int 1 => 2
      | _ => 0
    else 0
  | _ => 0

end AliasTools.Dice
