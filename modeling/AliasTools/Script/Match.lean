import AliasTools.Script.Index

/-!
# Binding names

Assignment to a name, to an item, and to several targets at once, one of which may take what the others
leave over; and patterns, which fail against a value or give the names they capture.
-/

namespace AliasTools.Script

open Syntax

/-! ## 1. Assignment -/

/-- Share values out to targets: the target at `star` takes all that the others leave over, as one list
    of values, and every other takes exactly one. -/
def zipStar {α β : Type} (targets : List α) (values : List β) (star : Nat) : List (α × (β ⊕ List β)) :=
  let extra := values.length + 1 - targets.length
  let single (p : α × β) : α × (β ⊕ List β) := (p.1, .inl p.2)
  ((targets.take star).zip (values.take star)).map single ++ (match targets[star]? with
      | some t => [(t, .inr ((values.drop star).take extra))]
      | none => []) ++
    ((targets.drop (star + 1)).zip (values.drop (star + extra))).map single

inductive ShareFault where
  | noSuchTarget
  | tooFewValues

def ShareFault.fault : ShareFault → Fault
  | .noSuchTarget => ⟨.indexError, "'star_index' must be a valid index of 'a'"⟩
  | .tooFewValues => ⟨.valueError, "'b' must be no more than 1 shorter than 'a'"⟩

def zipStar? {α β : Type} (targets : List α) (values : List β) (star : Int) :
    Except ShareFault (List (α × (β ⊕ List β))) :=
  if star < 0 || star ≥ targets.length then .error .noSuchTarget
  else if values.length + 1 < targets.length then .error .tooFewValues
  else .ok (zipStar targets values star.toNat)

def exprNode : Expr → String
  | .boolOp _ _ _ => "BoolOp" | .namedExpr _ _ _ => "NamedExpr" | .binOp _ _ _ _ => "BinOp"
  | .unaryOp _ _ _ => "UnaryOp" | .lambda _ _ _ => "Lambda" | .ifExp _ _ _ _ => "IfExp"
  | .dict _ _ _ => "Dict" | .set _ _ => "Set" | .listComp _ _ _ => "ListComp"
  | .setComp _ _ _ => "SetComp" | .dictComp _ _ _ _ => "DictComp"
  | .generatorExp _ _ _ => "GeneratorExp" | .await _ _ => "Await" | .yield _ _ => "Yield"
  | .yieldFrom _ _ => "YieldFrom" | .compare _ _ _ _ => "Compare" | .call _ _ _ _ => "Call"
  | .formattedValue _ _ _ _ => "FormattedValue" | .joinedStr _ _ => "JoinedStr"
  | .constant _ _ => "Constant" | .attribute _ _ _ _ => "Attribute"
  | .subscript _ _ _ _ => "Subscript" | .starred _ _ _ => "Starred" | .name _ _ _ => "Name"
  | .list _ _ _ => "List" | .tuple _ _ _ => "Tuple" | .slice _ _ _ _ => "Slice"

def stmtNode : Stmt → String
  | .functionDef _ _ _ _ _ _ _ a => if a then "AsyncFunctionDef" else "FunctionDef"
  | .classDef _ _ _ _ _ _ => "ClassDef" | .ret _ _ => "Return" | .delete _ _ => "Delete"
  | .assign _ _ _ _ => "Assign" | .augAssign _ _ _ _ => "AugAssign"
  | .annAssign _ _ _ _ _ => "AnnAssign"
  | .forLoop _ _ _ _ _ _ a => if a then "AsyncFor" else "For"
  | .whileLoop _ _ _ _ => "While" | .ifElse _ _ _ _ => "If"
  | .withBlock _ _ _ _ a => if a then "AsyncWith" else "With"
  | .matchOn _ _ _ => "Match" | .raise _ _ _ => "Raise"
  | .tryExcept _ _ _ _ _ s => if s then "TryStar" else "Try"
  | .assert _ _ _ => "Assert" | .importNames _ _ => "Import" | .importFrom _ _ _ _ => "ImportFrom"
  | .global _ _ => "Global" | .nonlocal _ _ => "Nonlocal" | .expr _ _ => "Expr"
  | .pass _ => "Pass" | .break _ => "Break" | .continue _ => "Continue"

def isStarred : Expr → Bool
  | .starred _ _ _ => true
  | _ => false

/-- What a starred target takes: all but one value for each target behind it. -/
def leftOver : List Expr → List Value → List Value
  | [], _ => []
  | t :: ts, vs => if isStarred t then vs.take (vs.length - ts.length) else leftOver ts vs.tail

def dealt (rest : Value) : List Expr → List Value → List Value
  | [], _ => []
  | t :: ts, vs =>
    if isStarred t then rest :: dealt rest ts (vs.drop (vs.length - ts.length))
    else vs.headD .none :: dealt rest ts vs.tail

def dealOut (span : Span) (targets : List Expr) (vs : List Value) : Eval (List (Expr × Value)) := do
  let expected := targets.length
  let got := vs.length
  let counts (least : String) (n : Nat) : String := s!" values to unpack (expected {least}{n}, got {got})"
  match targets.filter isStarred with
  | [] =>
    if expected > got then failAt .value ("not enough" ++ counts "" expected) span
    if expected < got then failAt .value ("too many" ++ counts "" expected) span
    return targets.zip (dealt .none targets vs)
  | _ :: second :: _ => failForm "multiple starred expressions in assignment" second.span
  | [_] =>
    if got < expected - 1 then failAt .value ("not enough" ++ counts "at least " (expected - 1)) span
    let rest ← alloc (.list false (leftOver targets vs).toArray none)
    return targets.zip (dealt rest targets vs)

variable (go : Go)

def unpackValues (span : Span) (v : Value) : Eval (List Value) := do
  let vs ← onFaults [.typeError] (collect go v) do
    failAt .value s!"Cannot unpack non-iterable {← typeName v} object" span
  return vs.toList

def shareOut (span : Span) (targets : List Expr) (v : Value) : Eval (List (Expr × Value)) := do
  dealOut span targets (← unpackValues go span v)

mutual

def assign (v : Value) : Expr → Eval Unit
  | .name sp id _ | .starred _ (.name sp id _) _ => .assign (some sp) id v
  | .tuple sp elts _ | .list sp elts _ => do assignEach ((← shareOut go sp elts v).map (·.2)) elts
  | .subscript _ container key _ => do
    let c ← go (.expr container)
    let k ← go (.expr key)
    go (.setItem c k v)
  | .starred _ e _ => fail .attributeError s!"'{exprNode e}' object has no attribute 'id'"
  | t => failAt .featureNotAvailable s!"Assignment to {exprNode t} is not allowed" t.span

def assignEach : List Value → List Expr → Eval Unit
  | v :: vs, t :: ts => do
    assign v t
    assignEach vs ts
  | _, _ => pure ()

end

open Text

/-! ## 2. Patterns -/

variable (go : Go)

def literalValue : Literal → Value
  | .none => .none
  | .ellipsis => .ellipsis
  | .bool b => .bool b
  | .int n => .int n
  | .float x => .float x
  | .imaginary x => .complex 0.0 x
  | .str s _ => .str s false
  | .bytes _ => .none

def patternNode : Syntax.Pattern → String
  | .value _ _ => "MatchValue" | .singleton _ _ => "MatchSingleton"
  | .sequence _ _ => "MatchSequence" | .mapping _ _ _ _ => "MatchMapping"
  | .cls _ _ _ _ _ => "MatchClass" | .star _ _ => "MatchStar" | .bind _ _ _ => "MatchAs"
  | .or _ _ => "MatchOr"

def isStarPattern : Syntax.Pattern → Bool
  | .star _ _ => true
  | _ => false

def nameList (names : List String) : String := "[" ++ String.intercalate ", " (names.map quote) ++ "]"

def mergeCaptures (span : Span) (what : String) (old new : Names) : Eval Names := do
  let twice := ((new.filter fun p => old.has p.1).map (·.1)).mergeSort fun a b => a ≤ b
  if !twice.isEmpty then failAt .value s!"multiple assignment to names {nameList twice} in {what} pattern" span
  return old.putAll new

/-- What patterns beside each other in a sequence pattern are matched against: all items of the subject,
    those of a stretch of it, or a stretch as one value. -/
inductive Share where
  | whole
  | items (start stop : Option Nat)
  | one (start stop : Option Nat)

def stretchFrom (subject : Value) (start stop : Option Nat) : Eval Value :=
  let bound (n : Option Nat) : Value := n.elim .none fun n => .int n
  go (.item subject (.slice (bound start) (bound stop) .none))

def Share.values (subject : Value) : Share → Eval (List Value)
  | .whole => do return (← collect go subject).toList
  | .items start stop => do return (← collect go (← stretchFrom go subject start stop)).toList
  | .one start stop => do return [← stretchFrom go subject start stop]

def takesLength (items : List Syntax.Pattern) (n : Int) : Bool :=
  if items.any isStarPattern then items.length ≤ n + 1 else items.length == n

/-- The patterns before a starred one, that one, and those after it: the starred one takes what the others leave
    of `n` items. -/
def sharesOf (items : List Syntax.Pattern) (n : Nat) : List (List Syntax.Pattern × Share) :=
  match items.findIdx? isStarPattern with
  | none => [(items, .whole)]
  | some star =>
    let stop := star + (n + 1 - items.length)
    [(items.take star, .items none star), ((items.drop star).take 1, .one star stop),
      (items.drop (star + 1), .items stop none)]

def firstMatch (fits : Syntax.Pattern → Eval (Option Names)) : List Syntax.Pattern → Eval (Option Names)
  | [] => pure none
  | p :: ps => do
    match ← fits p with
    | some ns => return some ns
    | none => firstMatch fits ps

variable (fits : Value → Syntax.Pattern → Eval (Option Names))

def matchBeside (span : Span) (what : String) (acc : Names) (v : Value) (p : Syntax.Pattern) : Eval (Option Names) := do
  match ← fits v p with
  | none => return none
  | some ns => return some (← mergeCaptures span what acc ns)

def matchParts (span : Span) (acc : Names) : List (Syntax.Pattern × Value) → Eval (Option Names)
  | [] => pure (some acc)
  | (p, v) :: rest => do
    match ← matchBeside fits span "sequence" acc v p with
    | none => return none
    | some acc => matchParts span acc rest

def matchShares (span : Span) (subject : Value) (acc : Names) : List (List Syntax.Pattern × Share) → Eval (Option Names)
  | [] => pure (some acc)
  | (ps, share) :: rest => do
    let vs ← share.values go subject
    match ← matchParts fits span acc (ps.zip vs) with
    | none => return none
    | some acc => matchShares span subject acc rest

def restOf (subject : Value) (bound : List Key) : Eval Value := do
  let left := ((← entries? subject).getD #[]).filter fun e => !bound.contains e.key
  alloc (.dict false left none)

def captureRest (span : Span) (subject : Value) (acc : Names) (bound : List Key) (name : String) : Eval Names := do
  if acc.has name then failAt .value s!"multiple assignment to name {quote name} in mapping pattern" span
  return acc.put name (← restOf subject bound)

def matchEntries (span : Span) (subject : Value) (rest : Option String) (acc : Names) (bound : List Key) :
    List (Expr × Syntax.Pattern) → Eval (Option Names)
  | [] =>
    match rest with
    | none => pure (some acc)
    | some name => do return some (← captureRest span subject acc bound name)
  | (k, p) :: more => do
    let key ← hashKey (← go (.expr k))
    match ((← entries? subject).getD #[]).get? key with
    | none => return none
    | some v =>
      match ← matchBeside fits span "mapping" acc v p with
      | none => return none
      | some acc => matchEntries span subject rest acc (key :: bound) more

def isMatchable (v : Value) : Eval Bool := do
  match v with
  | .str _ _ => return false
  | _ => isSequence v

def matchPattern : Nat → Value → Syntax.Pattern → Eval (Option Names)
  | 0, _, _ => raise .outOfFuel
  | n + 1, subject, pattern => do
    let fits := matchPattern n
    let count : Eval Unit := .change .countPattern
    match pattern with
    | .cls sp _ _ _ _ => failAt .featureNotAvailable s!"Matching on {patternNode pattern} is not allowed" sp
    | .value _ e =>
      count
      let v ← go (.expr e)
      return if ← go (.eq subject v) then some [] else none
    | .singleton _ l =>
      count
      return if sameValue subject (literalValue l) then some [] else none
    | .star _ name =>
      count
      return some (name.toList.map (·, subject))
    | .bind _ inner name =>
      count
      match name, inner with
      | none, _ => return some []
      | some x, none => return some [(x, subject)]
      | some x, some p =>
        match ← fits subject p with
        | none => return none
        | some ns => return some (ns.put x subject)
    | .or _ items =>
      count
      firstMatch (fits subject) items
    | .sequence sp items =>
      count
      if !(← isMatchable subject) then return none
      if items.countP isStarPattern > 1 then failAt .value "multiple starred names in sequence pattern" sp
      let n ← go (.len subject)
      if !takesLength items n then return none
      matchShares go fits sp subject [] (sharesOf items n.toNat)
    | .mapping sp keys items rest =>
      count
      if !(← isMapping subject) then return none
      matchEntries go fits sp subject rest [] [] (keys.zip items)

def patternDepth : Nat := 1000

end AliasTools.Script
