import AliasTools.Sheet.Coins
import AliasTools.Sheet.Creature

/-!
# Characters

A character is a creature with actions, coins, counters and variables of its own.  Some variables it has
because its sheet says so: abilities and their bonuses, saves, armor, hit points, levels.
-/

namespace AliasTools.Sheet

open Script

/-! ## 1. Counters and death saves -/

variable (go : Go) (data : Value) (name : String)

def counterTop : Int := Number.twoTo 31 - 1

def counterBottom : Int := -(Number.twoTo 31)

/-- A value beyond the bounds of a counter is cut, or refused where it must fit. -/
def setCounter (data value strict : Value) : Eval Int := do
  let n ← asInt go value
  let top ← intProperty go data "max" counterTop
  let bottom ← intProperty go data "min" counterBottom
  if ← go (.truth strict) then if n > top || n < bottom then valueFault "Counter out of bounds"
  let n := max bottom (min n top)
  setEntry go data "value" (.int n)
  return n

def moveCounter (data by_ strict : Value) : Eval Int := do
  let n ← intProperty go data "value" 0
  setCounter go data (.int (n + (← asInt go by_))) strict

/-- A counter is reset to a value, or else by an amount, or else to its top. -/
def resetTarget : Eval Int := do
  match ← intOrNone go data "reset_to" with
  | .int n => return n
  | _ =>
    match ← textOrNone go data "reset_by" with
    | .none => intProperty go data "max" counterTop
    | t => return (← intProperty go data "value" 0) + (← intOr go t 0)

def counterText : Eval String := do
  let value ← intProperty go data "value" 0
  return s!"{value}/" ++ showInt (← intProperty go data "max" counterTop)

def counterMethod (b : Bound) : Eval Value := do
  match name with
  | "mod" => return .int (← moveCounter go data (b.get "value") (b.get "strict"))
  | "set" => return .int (← setCounter go data (b.get "new_value") (b.get "strict"))
  | "reset" =>
    let target ← resetTarget go data
    let old ← intProperty go data "value" 0
    let new ← setCounter go data (.int target) (.bool false)
    mapOf [("new_value", .int new), ("old_value", .int old), ("target_value", .int target), ("delta", .int (new - old))]
  | _ =>
    let head ← if ← go (.truth (b.get "include_name")) then do
        let n ← go (.text (← textProperty go data "name" "Counter"))
        pure s!"**{n}**\n"
      else pure ""
    let plain ← counterText go data
    match ← textOrNone go data "display_type" with
    | .str s _ => return word (head ++ (if s.isEmpty then plain else s))
    | _ => return word (head ++ plain)

def deathText : Eval String := do
  let good ← intProperty go data "successes" 0
  let bad ← intProperty go data "fails" 0
  return s!"{good} successes / {bad} failures"

/-- Three failures are death. -/
def deathMethod (b : Bound) : Eval Value := do
  let raise (key : String) : Eval Value := do
    let n ← intProperty go data key 0
    setEntry go data key (.int (n + (← asInt go (b.get "num"))))
    return .none
  match name with
  | "succeed" => raise "successes"
  | "fail" => raise "fails"
  | "is_stable" =>
    let good ← intProperty go data "successes" 0
    return .bool (good ≥ 3 && (← intProperty go data "fails" 0) < 3)
  | "is_dead" => return .bool ((← intProperty go data "fails" 0) ≥ 3)
  | _ =>
    setEntry go data "successes" (.int 0)
    setEntry go data "fails" (.int 0)
    return .none

open Text

/-! ## 2. Variables of the sheet -/

variable (go : Go)

/-- A number of a sheet, which may be the `value` of a mapping. -/
def sheetInt? (v : Value) : Eval (Option Int) := do
  let v ← match ← entries? v with
    | some es => pure ((es.get? (.str "value")).getD v)
    | none => pure v
  match v with
  | .bool b => return some (if b then 1 else 0)
  | .int n => return some n
  | .float _ | .str _ _ => .onFault (some <$> asInt go v) (·.kind != .overflow) fun _ => pure none
  | _ => return none

def colourDigits? (v : Value) : Eval (Option String) := do
  if v.isNone then return none
  onFaults [.typeError, .valueError] (do
      let n ← asInt go v
      let ds := String.ofList (Nat.toDigits 16 n.natAbs)
      return some (if n < 0 then "x" ++ ds else ds))
    (pure none)

/-- What is written, or else the attack bonus without the proficiency. -/
def spellBonus? (book : Value) (proficiency : Option Int) : Eval (Option Int) := do
  if ← go (.contains book (word "spell_mod")) then return ← sheetInt? go (← entry go book "spell_mod")
  if ← go (.contains book (word "sab")) then
    match proficiency with
    | some p => return (← sheetInt? go (← entry go book "sab")).map (· - p)
    | none => return none
  return none

def sumOfInts? (v : Value) : Eval (Option Int) :=
  .fallback (do
      let vs ← collect go v
      return some (← vs.foldlM (fun n x => do return n + (← asInt go x)) 0))
    (pure none)

/-- The score, the modifier and the save of an ability, as far as the sheet has them. -/
def abilityCvars (stats saves : Value) (ability save : String) : Eval Names := do
  let score ← sheetInt? go (← send go stats "get" [word ability])
  let bonus ← sheetInt? go (← send go saves "get" [word save])
  let own : Names ← match score with
    | some n => pure [(ability, .int n), (ability ++ "Mod", .int (← abilityBonus n))]
    | none => pure []
  return own ++ match bonus with
    | some n => [(ability ++ "Save", .int n)]
    | none => []

def partOf (data : Value) (name : String) : Eval Value := do orElse go (← send go data "get" [word name]) emptyMap

/-- The variables that are read off a sheet. -/
def sheetCvars (character : Value) : Eval Names := do
  let stats ← partOf go character "stats"
  let saves ← partOf go character "saves"
  let levels ← partOf go character "levels"
  let book ← partOf go character "spellbook"
  let settings ← partOf go character "csettings"
  let number (name : String) (v : Value) : Eval Names := do
    return ((← sheetInt? go v).map fun n => (name, Value.int n)).toList
  let given (name : String) : Eval Names := do
    let v ← send go character "get" [word name]
    return if v.isNone then [] else [(name, v)]
  let abilities ← (abilities.zip abilityShorts).mapM fun (a, s) => abilityCvars go stats saves a s
  let armor ← number "armor" (← send go character "get" [word "ac"])
  let description ← given "description"
  let image ← given "image"
  let name ← given "name"
  let hp ← number "hp" (← send go character "get" [word "max_hp"])
  let colour ← colourDigits? go (← send go settings "get" [word "color"])
  let proficiency ← sheetInt? go (← send go stats "get" [word "prof_bonus"])
  let spell ← spellBonus? go book proficiency
  let total ← sumOfInts? go (← send go levels "values" [])
  let items ← collect go (← send go levels "items" [])
  let byClass ← items.toList.mapM fun p => do
    match p with
    | .tuple [cls, level] =>
      match ← sheetInt? go level with
      | some n => return [(replaceAll (← go (.text cls)) " " "" ++ "Level", Value.int n)]
      | none => return []
    | _ => return []
  let all := abilities.flatten ++ armor ++ description ++ image ++ name ++ hp ++
    (colour.map fun c => ("color", word c)).toList ++
    (proficiency.map fun n => ("proficiencyBonus", Value.int n)).toList ++
    (spell.map fun n => ("spell", Value.int n)).toList ++
    (total.map fun n => ("level", Value.int n)).toList ++ byClass.flatten
  return Names.putAll [] all

open Number

/-! ## 3. Characters -/

def coinNames : List String := ["pp", "gp", "ep", "sp", "cp"]

def coinTotal (c : Coins) : Eval Float :=
  match c.total? with
  | some x => pure x
  | none => fail .overflow "int too large to convert to float"

variable (go : Go)

def coins (data : Value) (name : String) : Eval Int := intProperty go data name 0

def purseTotal (data : Value) : Eval Float := do
  let coin (name : String) : Eval Int := coins go data name
  coinTotal ⟨← coin "pp", ← coin "gp", ← coin "ep", ← coin "sp", ← coin "cp"⟩

def purseMap (data : Value) : Eval Value := do
  let counts ← coinNames.mapM fun n => do return (n, Value.int (← coins go data n))
  mapOf (counts ++ [("total", .float (← purseTotal go data))])

/-- The coins are written one after the other. -/
def updateCoins (data : Value) (amount : String → Eval Int) : Eval Unit :=
  coinNames.forM fun n => do setEntry go data n (.int (← amount n))

def purseMethod (self data : Value) (name : String) (b : Bound) : Eval Value := do
  match name with
  | "coin_str" =>
    let kind ← go (.text (b.get "cointype"))
    match ← go (.attr self kind) with
    | some v => return word ((← go (.format v "")) ++ " " ++ kind)
    | none => return .none
  | "compact_str" => return word ((← go (.format (.float (← purseTotal go data)) ".2f")) ++ " gp")
  | "modify_coins" =>
    updateCoins go data fun n => do return (← coins go data n) + (← asInt go (b.get n))
    purseMap go data
  | "set_coins" =>
    updateCoins go data fun n => asInt go (b.get n)
    return .none
  | "autoconvert" =>
    let total ← floatToInt ((← purseTotal go data) * 100.0)
    let left := total.fmod 1000
    setEntry go data "pp" (.int (total.fdiv 1000))
    setEntry go data "gp" (.int (left.fdiv 100))
    let left := left.fmod 100
    setEntry go data "ep" (.int (left.fdiv 50))
    let left := left.fmod 50
    setEntry go data "sp" (.int (left.fdiv 10))
    setEntry go data "cp" (.int (left.fmod 10))
    return .none
  | _ => purseMap go data

variable (go : Go) (data : Value)

def actionText : Eval String := do
  let name ← go (.text (← textProperty go data "name" "Action"))
  let long ← go (.text (← textProperty go data "description" ""))
  return s!"**{name}**: {long}"

def actionsOf : Eval Value := do
  let items ← collect go (← listEntry go data "actions")
  listOf (← items.toList.mapM fun a =>
    makeObject .action [("_data", a), ("parent_statblock", data)])

def countersByName (items : List Value) : Eval Entries :=
  items.foldlM (fun es item => do
    let name ← go (.text (← entryOr go item "name" (word s!"cc_{es.size}")))
    let copy ← makeDictOf go false [item] []
    return es.put (.str name) (word name) copy) #[]

/-- Counters that are a list become a mapping by their names. -/
def countersOf : Eval Value := do
  let found ← entryOrPut go data "consumables" (← emptyMap)
  match ← cellOf found with
  | some (.list false items _) =>
    let made ← alloc (.dict false (← countersByName go items.toList) none)
    setEntry go data "consumables" made
    return made
  | _ => return found

def counterNamed (data name : Value) : Eval Value := do
  let counters ← countersOf go data
  makeOf go .customCounter (← go (.item counters (← textValue go name)))

def hasCounter (data name : Value) : Eval Bool := do
  let key ← textValue go name
  go (.contains (← countersOf go data) key)

def presetInt (v : Value) (default : Int) : Eval Value := do
  if v.isNone then return .int default else return .int (← intOr go v default)

/-- A counter of that name is replaced. -/
def createCounter (b : Bound) : Eval Value := do
  let name ← textValue go (b.get "name")
  let bottom ← presetInt go (b.get "minVal") counterBottom
  let top ← presetInt go (b.get "maxVal") counterTop
  let resetTo := b.get "reset_to"
  let resetTo ← if resetTo.isNone then pure Value.none else do pure (.int (← intOr go resetTo 0))
  let value ← presetInt go (b.get "initial_value") 0
  let made ← mapOf [("name", name), ("min", bottom), ("max", top), ("reset_on", b.get "reset"),
     ("display_type", b.get "dispType"), ("reset_to", resetTo), ("reset_by", b.get "reset_by"),
     ("title", b.get "title"), ("desc", b.get "desc"), ("value", value)]
  go (.setItem (← countersOf go data) name made)
  makeOf go .customCounter made

def unsetValue : Value := .node "object"

def isUnset : Value → Bool
  | .node "object" => true
  | _ => false

/-- What is not given stays as it is, and the counter comes to stand last. -/
def editCounter (b : Bound) : Eval Value := do
  let name ← textValue go (b.get "name")
  let counters ← countersOf go data
  let found ← orElse go (← send go counters "get" [name]) (mapOf [("name", name)])
  let counter ← makeDictOf go false [found] []
  [("min", "minVal"), ("max", "maxVal"), ("reset_on", "reset"), ("display_type", "dispType"),
    ("reset_to", "reset_to"), ("reset_by", "reset_by"), ("title", "title"), ("desc", "desc")].forM
    fun (key, param) => do
      let v := b.get param
      if !isUnset v then setEntry go counter key v
  let new := b.get "new_name"
  let final ← if ← go (.truth new) then textValue go new else entryOr go counter "name" name
  setEntry go counter "name" final
  discard <| send go (← countersOf go data) "pop" [name, .none]
  go (.setItem (← countersOf go data) (← go (.item counter (word "name"))) counter)
  makeOf go .customCounter counter

def setCounterParts (b : Bound) : Eval Value := do
  let name ← textValue go (b.get "name")
  let counter ← send go (← countersOf go data) "setdefault" [name, ← mapOf [("name", name)]]
  [("value", "value"), ("max", "maximum"), ("min", "minimum")].forM fun (key, param) => do
    let v := b.get param
    if !v.isNone then setEntry go counter key (.int (← asInt go v))
  return .int (← intProperty go counter "value" 0)

def dataOf (v : Value) : Eval Value := do
  match ← cellOf v with
  | some (.object _ fields) => return (fields.get? "_data").getD .none
  | _ => return .none

def setVariable (data name v : Value) : Eval Value := do
  let text ← textIfAny go v
  let vars ← entryOrPut go data "cvars" (← emptyMap)
  go (.setItem vars (← textValue go name) text)
  return text

/-- A variable of the played character is also stored and bound. -/
def setPlayedVariable (data name v : Value) : Eval Value := do
  let text ← setVariable go data name v
  let key ← go (.text name)
  go (.setItem (.ref (← read).session.cvars) (word key) text)
  bindName .variable key text
  return text

def variableMethod (kind : ObjectKind) (data : Value) (name : String) (b : Bound) : Eval Value := do
  let key := b.get "name"
  match name with
  | "get_cvar" =>
    let vars ← mapEntry go data "cvars"
    let default := b.get "default"
    let v ← send go vars "get" [← textValue go key, default]
    if v.isNone then return default else textValue go v
  | "set_cvar" =>
    if kind == .playedCharacter then setPlayedVariable go data key (b.get "val")
    else setVariable go data key (b.get "val")
  | "set_cvar_nx" =>
    if kind == .playedCharacter then
      let text ← textValue go key
      let store := Value.ref (← read).session.cvars
      if ← go (.contains store text) then go (.item store text)
      else setPlayedVariable go data text (b.get "val")
    else
      let vars ← entryOrPut go data "cvars" (← emptyMap)
      let text ← textIfAny go (b.get "val")
      send go vars "setdefault" [← textValue go key, text]
  | _ =>
    let vars ← entryOrPut go data "cvars" (← emptyMap)
    send go vars "pop" [← textValue go key, .none]

def characterMethod (kind : ObjectKind) (data : Value) (name : String) (b : Bound) : Eval Value := do
  let key := b.get "name"
  let counter : Eval Value := do dataOf (← counterNamed go data key)
  match name with
  | "cc" => counterNamed go data key
  | "get_cc" => return .int (← intProperty go (← counter) "value" 0)
  | "get_cc_max" => return .int (← intProperty go (← counter) "max" counterTop)
  | "get_cc_min" => return .int (← intProperty go (← counter) "min" counterBottom)
  | "set_cc" => setCounterParts go data b
  | "mod_cc" => return .int (← moveCounter go (← counter) (b.get "val") (b.get "strict"))
  | "delete_cc" => send go (← countersOf go data) "pop" [← textValue go key, .none]
  | "create_cc_nx" =>
    if !(← hasCounter go data key) then discard <| createCounter go data b
    counterNamed go data key
  | "create_cc" => createCounter go data b
  | "edit_cc" => editCounter go data b
  | "cc_exists" => return .bool (← hasCounter go data key)
  | "cc_str" => return word (← counterText go (← counter))
  | _ => variableMethod go kind data name b

end AliasTools.Sheet
