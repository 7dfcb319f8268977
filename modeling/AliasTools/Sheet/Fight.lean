import AliasTools.Sheet.Creature

/-!
# Fights

Combatants with the effects on them, groups of combatants, and the fight as a whole.
-/

namespace AliasTools.Sheet

open Script

variable (go : Go) (data : Value) (name : String) (b : Bound)

def effectProperty : Option (Eval Value) :=
  let either (first second : String) : Eval Value := do
    let v ← orElse go (← entry go data first) (entryOr go data second (.bool false))
    return .bool (← go (.truth v))
  match name with
  | "effect" => some do orElse go (← entry go data "effects") (mapEntry go data "effect")
  | "attacks" | "buttons" => some do listOf (← collect go (← listEntry go data name)).toList
  | "conc" => some (either "conc" "concentration")
  | "ticks_on_end" => some (either "ticks_on_end" "end_on_turn_end")
  | "parent" => some do
    let p ← entry go data "parent"
    if ← go (.truth p) then makeOf go .effect p else return .none
  | _ => none

def effectData (v : Value) : Eval Value := do
  match ← cellOf v with
  | some (.object .effect fields) => return (fields.get? "_data").getD .none
  | _ => typeFault "Parent effect must be a SimpleEffect."

def smallName (v : Value) : Eval String := do
  match ← go (.attr v "name") with
  | some (.str s _) => return Text.lowerText s
  | _ => return ""

def firstNamed (fits : String → Bool) : List Value → Eval (Option Value)
  | [] => pure none
  | v :: vs => do if fits (← smallName go v) then return some v else firstNamed fits vs

def effectNamed (data name : Value) (strict : Bool) : Eval (Option Value) := do
  let sought := Text.lowerText (← go (.text name))
  let effects ← collect go (← eachEntry go data "effects" .effect)
  firstNamed go (fun n => if strict then n == sought else Text.hasPiece n sought) effects.toList

def dropEffect (effects effect : Value) : Eval Unit := do
  let data ← effectData effect
  onFaults [.valueError] (discard <| send go effects "remove" [data]) (pure ())

def addEffect : Eval Value := do
  let duration ← intIfAny go (b.get "duration")
  let desc ← textIfAny go (b.get "desc")
  let name ← textValue go (b.get "name")
  let args ← textIfAny go (b.get "args")
  let conc := Value.bool (← go (.truth (b.get "concentration")))
  let passive ← makeDictOf go false [← orElse go (b.get "passive_effects") emptyMap] []
  let copied (param : String) : Eval Value := do listOf (← collect go (← orElse go (b.get param) emptyList)).toList
  let attacks ← copied "attacks"
  let buttons ← copied "buttons"
  let owner ← textProperty go data "name" "Statblock"
  let made ← mapOf [("name", name), ("duration", duration), ("remaining", duration), ("args", args),
     ("desc", desc), ("concentration", conc), ("conc", conc), ("ticks_on_end", b.get "end"),
     ("effect", passive), ("attacks", attacks), ("buttons", buttons), ("combatant_name", owner)]
  let tick := b.get "tick_on_combatant_id"
  if !tick.isNone then setEntry go made "tick_on_combatant_id" (← textValue go tick)
  let parent := b.get "parent"
  if !parent.isNone then setEntry go made "parent" (← effectData parent)
  let effects ← entryOrPut go data "effects" (← emptyList)
  match ← effectNamed go data (b.get "name") true with
  | some old => dropEffect go effects old
  | none => pure ()
  discard <| send go effects "append" [made]
  makeOf go .effect made

def rollSave (data ability adv : Value) : Eval Value := do
  let saves ← savesObject go data
  let save ← send go saves "get" [ability]
  let dice ← match ← go (.attr save "d20") with
    | some m => go (.text (← go (.call m [] [("base_adv", adv)])))
    | none => pure ""
  rollResult (← rollOrZero dice)

def rollDamage : Eval Value := do
  let text ← go (.text (b.get "dice_str"))
  let crit ← go (.truth (b.get "crit"))
  let text := if crit then s!"({text})*2" else text
  let plus (text : String) (v : Value) : Eval String := do return s!"({text})+(" ++ (← go (.format v "")) ++ ")"
  let text ← if (b.get "d").isNone then pure text else plus text (b.get "d")
  let text ← if (b.get "c").isNone || !crit then pure text else plus text (b.get "c")
  let text ← if ← go (.truth (b.get "critdice")) then do
      pure (s!"({text})+" ++ showInt (← asInt go (b.get "critdice")))
    else pure text
  let r ← rollOrZero text
  let shown ← liftRoll r.text
  let label := if crit then "Damage (CRIT!)" else "Damage"
  let total ← liftRoll r.totalInt
  mapOf [("damage", word s!"**{label}**: {shown}"), ("total", .int total), ("roll", ← rollResult r)]

def combatantMethod : Eval Value := do
  let setInt (key param : String) : Eval Value := do
    setEntry go data key (.int (← asInt go (b.get param)))
    return .none
  match name with
  | "save" => rollSave go data (b.get "ability") (b.get "adv")
  | "damage" => rollDamage go b
  | "set_ac" => setInt "ac" "ac"
  | "set_maxhp" => setInt "max_hp" "maxhp"
  | "set_init" => setInt "init" "init"
  | "set_name" =>
    setEntry go data "name" (← textValue go (b.get "name"))
    return .none
  | "set_group" =>
    setEntry go data "group" (← textIfAny go (b.get "group"))
    textOrNone go data "group"
  | "set_note" =>
    setEntry go data "note" (← textIfAny go (b.get "note"))
    return .none
  | "get_effect" => return (← effectNamed go data (b.get "name") (← go (.truth (b.get "strict")))).getD .none
  | "add_effect" => addEffect go data b
  | _ =>
    match ← effectNamed go data (b.get "name") (← go (.truth (b.get "strict"))) with
    | none => return .none
    | some e =>
      dropEffect go (← entryOrPut go data "effects" (← emptyList)) e
      return .none

/-- Find an object by name: exactly when `strict` is true, by a part when it is false, and when it is
    nothing exactly first and then by a part. -/
def findNamed (items : List Value) (name strict : Value) : Eval Value := do
  let sought := Text.lowerText (← go (.text name))
  let exact (n : String) : Bool := n == sought
  let part (n : String) : Bool := Text.hasPiece n sought
  match strict with
  | .bool true => return (← firstNamed go exact items).getD .none
  | .bool false => return (← firstNamed go part items).getD .none
  | .none =>
    match ← firstNamed go exact items with
    | some v => return v
    | none => return (← firstNamed go part items).getD .none
  | _ => return .none

def memberNamed (key : String) (kind : ObjectKind) : Eval Value := do
  let members ← collect go (← eachEntry go data key kind)
  findNamed go members.toList (b.get "name") (b.get "strict")

def groupMethod : Eval Value := do
  if name == "set_init" then
    setEntry go data "init" (.int (← asInt go (b.get "init")))
    return .none
  memberNamed go data b "combatants" .combatant

def currentOf : Eval Value := do
  let now ← entry go data "current"
  if !(← isMapping now) then return .none
  let copy ← makeDictOf go false [now] []
  let kind ← entry go now "type"
  if ← go (.eq kind (word "group")) then makeOf go .group copy else makeOf go .combatant copy

def notesOf : Eval Value := do entryOrPut go data "metadata" (← emptyMap)

def maxNotesSize : Nat := 100000

def setNote (data key v : Value) : Eval Unit := do
  let k ← go (.text key)
  let text ← go (.text v)
  let notes ← pairsOf go (← send go (← notesOf go data) "items" [])
  let others ← notes.filterMapM fun (n, x) => do
    let name ← go (.text n)
    if name == k then return none else return some (name, ← go (.text x))
  let others := others.foldl (fun (acc : List (String × String)) p =>
    p :: acc.filter (·.1 != p.1)) []
  let size := others.foldl (fun n p => n + p.1.length + p.2.length) (k.length + text.length)
  if size > maxNotesSize then valueFault "Combat metadata is too large"
  go (.setItem (← notesOf go data) (word k) (word text))

def combatMethod : Eval Value := do
  match name with
  | "get_combatant" => memberNamed go data b "combatants" .combatant
  | "get_group" => memberNamed go data b "groups" .group
  | "set_metadata" =>
    setNote go data (b.get "k") (b.get "v")
    return .none
  | "get_metadata" => send go (← notesOf go data) "get" [← textValue go (b.get "k"), b.get "default"]
  | "delete_metadata" => send go (← notesOf go data) "pop" [← textValue go (b.get "k"), .none]
  | "set_round" =>
    setEntry go data "round_num" (.int (← asInt go (b.get "round_num")))
    return .none
  | _ =>
    setEntry go data "turn_num" (.int 0)
    setEntry go data "round_num" (.int ((← intProperty go data "round_num" 1) + 1))
    return .none

end AliasTools.Sheet
