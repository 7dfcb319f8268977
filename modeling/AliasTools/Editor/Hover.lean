import AliasTools.Editor.Completion
import AliasTools.Editor.Symbols

/-!
# Hovering

What is said about the word at the cursor: an attribute or method with its description, a name with the
value or type it has there, a function, or a variable of the context.
-/

namespace AliasTools.Editor

open Syntax Script Types Text Sheet

/-! ## 1. Values that are known -/

/-- What is known of a name: a value, or bytes. -/
inductive Known where
  | value (v : Value)
  | bytes (data : List Nat)

def Known.loopItem : Known := .value (.node loopItemClass)

abbrev KnownNames := List (String × Known)

def literalKnown? : Literal → Option Known
  | .none => none
  | .ellipsis => some (.value .ellipsis)
  | .bool b => some (.value (.bool b))
  | .int n => some (.value (.int n))
  | .float x => some (.value (.float x))
  | .imaginary x => some (.value (.complex 0 x))
  | .str s _ => some (.value (.str s false))
  | .bytes d => some (.bytes d)

def negated? : Value → Option Value
  | .bool b => some (.int (if b then -1 else 0))
  | .int n => some (.int (-n))
  | .float x => some (.float (-x))
  | .complex a b => some (.complex (-a) (-b))
  | _ => none

def isNumber : Value → Bool
  | .bool _ | .int _ | .float _ | .complex _ _ => true
  | _ => false

mutual

def writtenValue : Expr → Eval (Option Known)
  | .constant _ l => pure (literalKnown? l)
  | .unaryOp _ op e => do
    match op, ← writtenValue e with
    | .uAdd, some (.value v) => return if isNumber v then some (.value v) else none
    | .uSub, some (.value v) => return (negated? v).map .value
    | _, _ => return none
  | .list _ es _ => do
    match ← writtenValues es with
    | some vs => return some (.value (← listOf vs))
    | none => return none
  | .tuple _ es _ => do return (← writtenValues es).map fun vs => .value (.tuple vs)
  | .set _ es => do
    match ← writtenValues es with
    | some vs => return some (.value (← alloc (.set false (← membersOf vs) none)))
    | none => return none
  | .dict _ ks vs => do
    match ← writtenKeys ks, ← writtenValues vs with
    | some ks, some vs => return some (.value (← alloc (.dict false (← entriesOf #[] (ks.zip vs)) none)))
    | _, _ => return none
  | _ => pure none

def writtenValues : List Expr → Eval (Option (List Value))
  | [] => pure (some [])
  | e :: es => do
    match ← writtenValue e with
    | some (.value v) => return (← writtenValues es).map (v :: ·)
    | _ => return none

def writtenKeys : List (Option Expr) → Eval (Option (List Value))
  | [] => pure (some [])
  | none :: _ => pure none
  | some e :: es => do
    match ← writtenValue e with
    | some (.value v) => return (← writtenKeys es).map (v :: ·)
    | _ => return none

end

def orNothing {α : Type} (act : Eval (Option α)) : Eval (Option α) := .fallback act (pure none)

def unlessNone (v : Value) : Option Value := if v.isNone then none else some v

/-- Methods that may be called to show what they give. -/
def isHarmless (base : Value) (method : String) : Eval Bool := do
  match ← cellOf base with
  | some (.object k _) => return (harmlessMethods k).contains method
  | _ => return false

def attrValue? (v : Value) (name : String) : Eval (Option Value) := do return (← perform (.attr v name)).bind unlessNone

mutual

def contextValue (names : KnownNames) : Expr → Eval (Option Value)
  | .attribute _ v attr _ => do
    match ← contextValue names v with
    | some base => attrValue? base attr
    | none => return none
  | .call _ f args ks => do
    match f with
    | .name _ "character" _ => return some (← makeOf perform .character (← read).session.character)
    | .name _ "combat" _ => return some (← makeOf perform .combat (← read).session.combat)
    | .name _ "range" _ =>
      match ← writtenValues args with
      | some vs => orNothing (do return unlessNone (← perform (.call (.cls .range) vs [])))
      | none => return none
    | .attribute _ v method _ =>
      match ← contextValue names v with
      | none => return none
      | some base =>
        if !(← isHarmless base method) then return none
        match ← argumentValues names args, ← keywordValues names ks with
        | some vs, some ns =>
          match ← attrValue? base method with
          | some callee => orNothing (do return unlessNone (← perform (.call callee vs ns)))
          | none => return none
        | _, _ => return none
    | _ => return none
  | .name _ id _ => do
    match names.lookup id with
    | some (.value v) => return unlessNone v
    | some _ => return none
    | none =>
      if id == "ctx" then return some (← makeOf perform .aliasContext (← read).session.ctx)
      else return none
  | _ => pure none

def argumentValue (names : KnownNames) (e : Expr) : Eval (Option Value) := do
  match ← writtenValue e with
  | some (.value v) => return some v
  | _ => contextValue names e

def argumentValues (names : KnownNames) : List Expr → Eval (Option (List Value))
  | [] => pure (some [])
  | e :: es => do
    match ← argumentValue names e with
    | some v => return (← argumentValues names es).map (v :: ·)
    | none => return none

def keywordValues (names : KnownNames) : List Keyword → Eval (Option Names)
  | [] => pure (some [])
  | .mk _ none _ :: _ => pure none
  | .mk _ (some n) e :: ks => do
    match ← argumentValue names e with
    | some v => return (← keywordValues names ks).map ((n, v) :: ·)
    | none => return none

end

variable (names : KnownNames) (code : String)

def knownValue (e : Expr) : Eval (Option Known) := do
  match ← writtenValue e with
  | some k => return some k
  | none => return (← orNothing (contextValue names e)).map .value

def loopKnown (e : Expr) : Eval Known := do
  match ← knownValue names e with
  | some (.value v) =>
    let start : Eval (Option Script.Cursor) :=
      .onFault (do return some (← perform (.iter v))) (·.kind == .typeError) fun _ => pure none
    match ← start with
    | none => return .loopItem
    | some c =>
      match ← perform (.next c) with
      | some (item, _) => return .value item
      | none => return .loopItem
  | some (.bytes (b :: _)) => return .value (.int b)
  | _ => return .loopItem

def KnownNames.bind (targets : List String) (k : Known) : KnownNames :=
  targets.foldl (fun ns n => (n, k) :: ns.filter (·.1 != n)) names

def knownAfter (limit : Nat) (names : KnownNames) : Node → Eval KnownNames
  | .stmt (.assign sp ts v _) => do
    if sp.line > limit then return names
    match ← knownValue names v with
    | some k => return names.bind (ts.flatMap targetNames) k
    | none => return names
  | .stmt (.annAssign sp t _ (some v) _) => do
    if sp.line > limit then return names
    match ← knownValue names v with
    | some k => return names.bind (targetNames t) k
    | none => return names
  | .stmt (.forLoop sp t i _ _ _ _) => do
    if sp.line > limit then return names
    return names.bind (targetNames t) (← loopKnown names i)
  | _ => pure names

/-- The names that are known in a line. -/
def knownAt (line : Nat) : Eval KnownNames := do
  match (parseScript code false).toOption with
  | some body => (readScriptNodes body).foldlM (knownAfter (line + 1)) []
  | none => return []

/-! ## 2. Showing values -/

def shorten (text : String) (most : Nat) : String :=
  if text.length ≤ most then text else String.ofList (text.toList.take (most - 3)) ++ "..."

def shortly (most : Nat) (v : Value) : Eval String := do
  let shown : Eval String := .fallback (perform (.shown [] v)) (typeName v)
  return shorten (← shown) most

def someItems (opening closing : String) (parts : List String) (count : Nat) : String :=
  opening ++ String.intercalate ", " parts ++ (if count > 3 then ", …" else "") ++ closing ++ s!" ({count} items)"

def containerType (name : String) (items : List Value) : Eval String := do
  let types ← (items.filter fun v => !v.isNone).mapM (typeName ·)
  match types.eraseDups with
  | [t] => return s!"{name}[{t}]"
  | _ => return name

def describeValue (v : Value) : Eval (String × String) := do
  let items (name opening closing : String) (vs : List Value) : Eval (String × String) := do
    let parts ← (vs.take 3).mapM (shortly 30)
    return (← containerType name vs, someItems opening closing parts vs.length)
  match v with
  | .tuple vs => items "tuple" "(" ")" vs
  | _ =>
    match ← cellOf v with
    | some (.list _ vs _) => items "list" "[" "]" vs.toList
    | some (.set _ ms _) => items "set" "\x7b" "\x7d" (Members.inOrder ms)
    | some (.dict _ es _) =>
      let parts ← (es.toList.take 3).mapM fun e => do return s!"{← shortly 30 e.name}: {← shortly 30 e.value}"
      return ("dict", someItems "\x7b" "\x7d" parts es.size)
    | _ => return (← typeName v, ← shortly 120 v)

def Known.describe : Known → Eval (String × String)
  | .value v => describeValue v
  | .bytes d => return ("bytes", shorten (bytesLiteral d) 120)

def bindingText (label name : String) (k : Known) : Eval String := do
  let (type, value) ← k.describe
  return s!"**{label}** `{name}`\n\nType: `{type}`\nValue: `{value}`"

/-! ## 3. Hovering -/

def codeText (code doc : String) : String := s!"```avrae\n{code}\n```" ++ (if doc.isEmpty then "" else "\n\n" ++ doc)

def memberText? (line character : Nat) (types : TypeTable) : Option String := do
  let (receiver, name) ← receiverAt? code line character true
  let type := resolveType receiver code types
  let note := typeNote type
  match note.attrs.lookup name with
  | some a => some (codeText s!"{type}().{name}" a.doc)
  | none =>
    let m ← note.methods.lookup name
    some (codeText (if m.signature.isEmpty then name ++ "()" else m.signature) m.doc)

def hover (line character : Nat) (fs : List FunctionHelp) : Eval (Option String) := do
  let types := inferTypes code (some line)
  let names ← knownAt code line
  match memberText? code line character types with
  | some t => return some t
  | none =>
    let word := documentWord code ⟨line, character⟩
    if word.isEmpty then return none
    match names.lookup word with
    | some k => return some (← bindingText "local" word k)
    | none =>
    match types.lookup word with
    | some t => return some s!"`{word}` type: `{typeLabel t}`"
    | none =>
    match findFunction? fs word with
    | some f => return some s!"```avrae\n{f.label}\n```\n\n{f.doc}"
    | none =>
    match (← initialNames).get? word with
    | some v => return some (← bindingText "var" word (.value v))
    | none =>
    match (← storedGvars).get? word with
    | some v => return some (← bindingText "gvar" word (.value v))
    | none => return none

end AliasTools.Editor
