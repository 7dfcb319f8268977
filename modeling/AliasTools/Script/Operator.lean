import AliasTools.Script.ContainerMethod
import AliasTools.Script.Percent

/-!
# Operators

What the operators do to values, and the limits around them: whole numbers stay in their range, and
nothing grows beyond the size a script may build.
-/

namespace AliasTools.Script

open Syntax

variable (go : Go) (a b : Value) (op : BinOp) (v : Value)

/-! ## 1. Joining -/

def textThen (s : String) (v : Value) : Eval Value := do return .str (s ++ (← go (.text v))) true

def onlyJoins {α : Type} (kind : String) (v : Value) : Eval α := do
  typeFault s!"can only concatenate {kind} (not \"{← typeName v}\") to {kind}"

/-- A guarded text or list takes what is on its left. -/
def addFromRight (otherwise : Eval Value) : Eval Value := do
  match b with
  | .str t true => return .str ((← go (.text a)) ++ t) true
  | _ =>
    match ← cellOf b with
    | some (.list true ys _) => makeList go ((← collect go a) ++ ys)
    | _ => otherwise

def addValues : Eval Value := do
  match ← numericArith .add a b with
  | some v => return v
  | none =>
    match a, b with
    | .str s true, _ => textThen go s b
    | .str s false, .str t g => return .str (s ++ t) g
    | .str _ false, _ => addFromRight go a b (onlyJoins "str" b)
    | .tuple xs, .tuple ys => return .tuple (xs ++ ys)
    | .tuple _, _ => addFromRight go a b (onlyJoins "tuple" b)
    | _, _ =>
      match ← cellOf a with
      | some (.list true xs _) => makeList go (xs ++ (← collect go b))
      | some (.list false xs _) =>
        match ← cellOf b with
        | some (.list false ys _) => alloc (.list false (xs ++ ys) none)
        | _ => addFromRight go a b (onlyJoins "list" b)
      | _ => addFromRight go a b (unsupported .add a b)

/-! ## 2. Taking away -/

def plainSet (ms : Members) : Eval Value := alloc (.set false ms none)

def isSetView : Eval Bool := do
  match ← cellOf v with
  | some (.view .keys _) | some (.view .items _) => return true
  | _ => return false

def subValues : Eval Value := do
  match ← numericArith .sub a b with
  | some v => return v
  | none =>
    match ← members? a, ← members? b with
    | some x, some y => plainSet (without x y)
    | _, _ =>
      if (← isSetView a) || (← isSetView b) then
        match ← setLike? a with
        | some x => plainSet (without x (← asMembers go b))
        | none => plainSet (without (← asMembers go a) (← asMembers go b))
      else unsupported .sub a b

/-! ## 3. Repeating -/

def repeatItems {α : Type} (xs : Array α) (n : Int) : Array α := (List.replicate n.toNat xs).foldl (· ++ ·) #[]

def badTimes {α : Type} (kind : String) : Eval α := typeFault s!"can't multiply sequence by non-int of type '{kind}'"

def plainTypeName : Eval String := do
  match ← cellOf v with
  | some (.list _ _ _) => return "list"
  | _ => typeName v

def isRepeatable : Eval Bool := do
  match v with
  | .str _ _ | .tuple _ => return true
  | _ => return (← listItems? v).isSome

def repeatValue (n : Int) (fromLeft : Bool) : Eval Value := do
  match v with
  | .str s g => return .str (String.join (List.replicate n.toNat s)) g
  | .tuple xs => return .tuple (repeatItems xs.toArray n).toList
  | _ =>
    match ← cellOf v with
    | some (.list true xs size) =>
      if !fromLeft then return ← makeList go (repeatItems xs n)
      let r ← alloc (.list true (repeatItems xs n) none)
      if let .ref a := r then recordSize a (size.getD 0 * n)
      return r
    | some (.list false xs _) => alloc (.list false (repeatItems xs n) none)
    | _ => return v

def mulValues : Eval Value := do
  match ← numericArith .mult a b with
  | some v => return v
  | none =>
    let left ← isRepeatable a
    let right ← isRepeatable b
    match left, b.asInt?, right, a.asInt? with
    | true, some n, _, _ => repeatValue go a n true
    | _, _, true, some n => repeatValue go b n false
    | true, _, true, _ =>
      match a, b with
      | .tuple _, _ | .str _ _, .tuple _ => badTimes "tuple"
      | .str _ _, _ => badTimes "str"
      | _, .tuple _ => badTimes "tuple"
      | _, _ => badTimes "list"
    | true, _, _, _ => badTimes (← plainTypeName b)
    | _, _, true, _ => badTimes (← plainTypeName a)
    | _, _, _, _ => unsupported .mult a b

/-! ## 4. Bits and sets -/

def setOperation : Members → Members → Members :=
  match op with
  | .bitOr => unite
  | .bitAnd => intersect
  | _ => eitherOnly

def setOperationName : String :=
  match op with
  | .bitOr => "union"
  | .bitAnd => "intersection"
  | _ => "symmetric_difference"

def mergeDicts (guarded : Bool) (xs : Entries) : Eval Value := do
  if guarded then refuseGrowth ((← sizeOf go a) + (← sizeOf go b)) "This dict is too large"
  match ← entries? b with
  | some ys =>
    let es ← entriesOf xs (ys.toList.map fun e => (e.name, e.value))
    if guarded then makeDict go es else alloc (.dict false es none)
  | none =>
    if guarded then typeFault "'NotImplementedType' object is not iterable"
    else unsupported .bitOr a b

def bitValues (a b : Value) : Eval Value := do
  match ← numericArith op a b with
  | some v => return v
  | none =>
    match ← cellOf a with
    | some (.set true _ _) => go (.method a (setOperationName op) [b] [])
    | some (.set false xs _) =>
      match ← setLike? b with
      | some ys => plainSet (setOperation op xs ys)
      | none => unsupported op a b
    | some (.dict g xs _) => if op == .bitOr then mergeDicts go a b g xs else unsupported op a b
    | some (.view _ _) =>
      match ← setLike? a with
      | some xs => plainSet (setOperation op xs (← asMembers go b))
      | none => unsupported op a b
    | _ => unsupported op a b

/-! ## 5. The remaining operators -/

def modValues : Eval Value := do
  match ← numericArith .mod a b with
  | some v => return v
  | none =>
    match a, b with
    | .str s true, _ => percentFormat go s b
    | _, .str _ true => fail .recursion "maximum recursion depth exceeded"
    | .str s false, _ => percentFormat go s b
    | _, _ => unsupported .mod a b

def onlyNumbers (a b : Value) : Eval Value := do
  match ← numericArith op a b with
  | some v => return v
  | none => unsupported op a b

/-! ## 6. Limits -/

/-- Numbers of more bits than scripts may have. -/
def outOfRange (l : Limits) (v : Value) : Bool :=
  match v.asInt? with
  | some n => n < l.minInt || n > l.maxInt
  | none => false

def checkOperands : Eval Unit := do
  let l := (← read).limits
  if outOfRange l a || outOfRange l b then failWaiting .numberTooHigh "This number is too large"

/-- A result may be no larger than its operands may be. -/
def checkResult (verb : String) (v : Value) : Eval Value := do
  if outOfRange (← read).limits v then failWaiting .numberTooHigh s!"{verb} these two would create a number too large"
  return v

def limitedAdd : Eval Value := do
  checkOperands a b
  if (← sizeOf go a) + (← sizeOf go b) > (← read).limits.maxConstLen then
    failWaiting .iterableTooLong "Adding these two would create something too long"
  checkResult "Adding" (← addValues go a b)

def limitedSub : Eval Value := do
  checkOperands a b
  checkResult "Subtracting" (← subValues go a b)

def refuseTimes (times v : Value) : Eval Unit := do
  match times.asInt? with
  | some n =>
    if n * (← sizeOf go v) > (← read).limits.maxConstLen then
      failWaiting .iterableTooLong "Multiplying these two would create something too long"
  | none => pure ()

def limitedMul : Eval Value := do
  checkOperands a b
  refuseTimes go b a
  refuseTimes go a b
  checkResult "Multiplying" (← mulValues go a b)

def limitedPow : Eval Value := do
  let l := (← read).limits
  let size ← absOf a
  let tooHigh : Eval Bool := do
    if ← go (.order .gt size (.int l.maxPowerBase)) then return true
    go (.order .gt (← absOf b) (.int l.maxPower))
  if ← tooHigh then failWaiting .numberTooHigh s!"{← go (.text a)} ** {← go (.text b)} is too large of an exponent"
  let v ← onlyNumbers .pow a b
  if outOfRange l v then failWaiting .numberTooHigh "This exponent would create a number too large"
  return v

def limitedShift : Eval Value := do
  checkOperands a b
  let l := (← read).limits
  match b.asInt? with
  | some n =>
    if n > (l.maxIntSize : Int) - 2 then
      failWaiting .numberTooHigh s!"{← go (.text a)} << {← go (.text b)} is too large of a shift"
  | none => pure ()
  checkResult "Shifting" (← onlyNumbers .lShift a b)

def binaryOp (a b : Value) : Eval Value :=
  match op with
  | .add => limitedAdd go a b
  | .sub => limitedSub go a b
  | .mult => limitedMul go a b
  | .pow => limitedPow go a b
  | .lShift => limitedShift go a b
  | .mod => modValues go a b
  | .bitOr | .bitAnd | .bitXor => bitValues go op a b
  | .div | .floorDiv | .rShift => onlyNumbers op a b
  | .matMult => fail .keyError "<class 'ast.MatMult'>"

def unaryOp (op : UnaryOp) (v : Value) : Eval Value := do
  match op with
  | .not => return .bool (!(← go (.truth v)))
  | op => unaryArith op v

def compareOp (op : CmpOp) (a b : Value) : Eval Value := do
  match op with
  | .eq => return .bool (← go (.eq a b))
  | .notEq => return .bool (!(← go (.eq a b)))
  | .lt => return .bool (← go (.order .lt a b))
  | .ltE => return .bool (← go (.order .le a b))
  | .gt => return .bool (← go (.order .gt a b))
  | .gtE => return .bool (← go (.order .ge a b))
  | .isIn => return .bool (← go (.contains b a))
  | .notIn => return .bool (!(← go (.contains b a)))
  | .is => return .bool (sameValue a b)
  | .isNot => return .bool (!sameValue a b)

end AliasTools.Script
