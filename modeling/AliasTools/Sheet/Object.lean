import AliasTools.Sheet.Character
import AliasTools.Sheet.Fight

/-!
# Objects as values

What a script can do with an object: ask for attributes and items, go through it, compare it, and call
its methods.
-/

namespace AliasTools.Sheet

open Script

/-! ## 1. Where a script was called -/

variable (go : Go)

def rolesOf (data : Value) : Eval Value := do makeEach go .role (← listEntry go data "roles")

/-- How a property is read from the entry of its name, unless it has a way of its own. -/
inductive FieldForm where
  | own | anyText | anyInt
  | text (default : String)
  | int (default : Int)
  | flag (default : Bool)
  | part (kind : ObjectKind)
  | ifAny (kind : ObjectKind)
  | each (kind : ObjectKind)

def FieldForm.read (data : Value) (name : String) : FieldForm → Option (Eval Value)
  | .own => none
  | .anyText => some (textOrNone go data name)
  | .anyInt => some (intOrNone go data name)
  | .text d => some (textProperty go data name d)
  | .int d => some do return .int (← intProperty go data name d)
  | .flag d => some (flagProperty go data name d)
  | .part k => some do makeOf go k (← mapEntry go data name)
  | .ifAny k => some do makeIfAny go k (← entry go data name)
  | .each k => some (eachEntry go data name k)

def ObjectKind.isCreature : ObjectKind → Bool
  | .statBlock | .character | .playedCharacter | .combatant => true
  | _ => false

def creatureForm : String → FieldForm
  | "name" => .text "Statblock"
  | "resistances" => .part .resistances
  | "ac" | "max_hp" | "hp" => .anyInt
  | "temp_hp" => .int 0
  | "spellbook" => .part .spellbook
  | "creature_type" => .anyText
  | _ => .own

def ObjectKind.form (k : ObjectKind) (name : String) : FieldForm :=
  let placed (default : String) : FieldForm := match name with
    | "name" => .text default
    | "id" => .anyInt
    | _ => .own
  match k with
  | .guild => placed "Guild"
  | .category => placed "Category"
  | .role => placed "Role"
  | .channel => match name with
    | "topic" => .anyText
    | "category" => .ifAny .category
    | "parent" => .ifAny .channel
    | _ => placed "channel"
  | .author => if name == "discriminator" then .text "0000" else placed "User"
  | .aliasContext => match name with
    | "guild" => .ifAny .guild
    | "channel" => .ifAny .channel
    | "author" => .ifAny .author
    | "prefix" | "alias" => .anyText
    | "message_id" => .anyInt
    | _ => .own
  | .baseStats => if abilities.contains name then .int 10 else .own
  | .attack => match name with
    | "name" => .text "Attack"
    | "verb" => .anyText
    | "proper" => .flag false
    | "activation_type" => .anyInt
    | _ => .own
  | .skill => if name == "value" || name == "bonus" then .int 0 else .own
  | .spell => match name with
    | "name" => .text "Spell"
    | "dc" | "sab" | "mod" => .anyInt
    | "prepared" => .flag true
    | _ => .own
  | .spellbook => match name with
    | "dc" => .int 10
    | "sab" | "caster_level" | "spell_mod" => .int 0
    | "pact_slot_level" | "num_pact_slots" | "max_pact_slots" => .anyInt
    | _ => .own
  | .deathSaves => if name == "successes" || name == "fails" then .int 0 else .own
  | .action => match name with
    | "name" => .text "Action"
    | "activation_type" => .anyInt
    | "activation_type_name" => .anyText
    | "description" => .text ""
    | _ => .own
  | .customCounter => match name with
    | "name" => .text "Counter"
    | "title" | "desc" | "reset_on" | "display_type" | "reset_by" => .anyText
    | "value" => .int 0
    | "max" => .int counterTop
    | "min" => .int counterBottom
    | "reset_to" => .anyInt
    | _ => .own
  | .effect => match name with
    | "name" => .text "Effect"
    | "duration" | "remaining" => .anyInt
    | "desc" | "combatant_name" => .anyText
    | "children" => .each .effect
    | _ => .own
  | .group => match name with
    | "combatants" => .each .combatant
    | "type" => .text "group"
    | "init" => .int 0
    | "name" => .text "Group"
    | "id" => .anyText
    | _ => .own
  | .combat => match name with
    | "combatants" => .each .combatant
    | "groups" => .each .group
    | "me" => .ifAny .combatant
    | "name" => .anyText
    | "round_num" | "turn_num" => .int 1
    | _ => .own
  | .statBlock => creatureForm name
  | .character | .playedCharacter => match name with
    | "coinpurse" => .part .coinpurse
    | "death_saves" => .part .deathSaves
    | "race" | "background" | "upstream" | "sheet_type" | "description" | "image" => .anyText
    | "owner" => .anyInt
    | _ => creatureForm name
  | .combatant => match name with
    | "effects" => .each .effect
    | "init" | "initmod" => .int 0
    | "type" => .text "combatant"
    | "note" | "group" | "race" | "monster_name" | "id" => .anyText
    | "controller" => .anyInt
    | "is_hidden" => .flag false
    | _ => creatureForm name
  | .levels | .attackList | .skills | .saves | .resistance | .resistances | .coinpurse => .own

def authorText (data : Value) : Eval String := do
  let name ← go (.text (← entryOr go data "name" (word "User")))
  let number ← go (.text (← entryOr go data "discriminator" (word "0000")))
  return s!"{name}#{number}"

/-! ## 2. What kinds have in common -/

def ObjectKind.isHollow (k : ObjectKind) : Bool := k.isCreature || k == .guild || k == .action || k == .customCounter

def ObjectKind.hasItems : ObjectKind → Bool
  | .levels | .attackList | .skill | .skills | .saves | .resistances | .spellbook | .deathSaves
  | .resistance => false
  | _ => true

def ObjectKind.itemComplaint (k : ObjectKind) : Option String :=
  match k with
  | .guild => some "Guild attributes must be accessed by name (e.g., 'name', 'id')."
  | .action => some "AliasAction attributes must be accessed by name (e.g., 'name', 'activation_type')."
  | .customCounter => some "CustomCounter indices must be strings (e.g., 'value', 'max')."
  | k =>
    if k.isCreature then some "AliasStatBlock attributes must be accessed by name (e.g., 'name', 'stats')."
    else none

def ObjectKind.blocksDigits (k : ObjectKind) : Bool := k.itemComplaint.isSome && k != .guild

def ObjectKind.owner (k : ObjectKind) (name : String) : String :=
  if k.isCreature && creatureMethods.any (·.name == name) then "AliasStatBlock"
  else if k == .playedCharacter && name != "set_cvar" && name != "set_cvar_nx" then "CharacterAPI"
  else k.name

def Preset.value : Preset → Value
  | .none => .none
  | .unset => unsetValue
  | .bool b => .bool b
  | .int n => .int n

def MethodNote.signature (m : MethodNote) (k : ObjectKind) : Signature where
  label := s!"{k.owner m.name}.{m.name}"
  params := needed "self" :: m.params.map fun p =>
    { name := p.name, default := p.preset.map Preset.value }

def commonMethods : List String := ["__str__", "__repr__", "__dir__"]

def ObjectKind.innerMethods (k : ObjectKind) : List String :=
  commonMethods ++ (if k.hasItems then ["__getitem__"] else []) ++
    (if k.isHollow then ["__iter__", "__len__"] else []) ++
    match k with
    | .levels | .skills => ["__iter__", "__getitem__"]
    | .attackList => ["__iter__", "__getitem__", "__len__"]
    | .saves => ["__iter__"]
    | .skill => ["__int__"]
    | .spellbook => ["__contains__"]
    | _ => []

variable (go : Go) (self : Value) (k : ObjectKind) (fields : Names) (name : String)

/-! ## 3. Attributes -/

def dataField (fields : Names) : Value := (fields.get? "_data").getD .none

def creatureProperty (data : Value) : Option (Eval Value) :=
  match name with
  | "stats" => some (statsOf go data)
  | "levels" => some do makeOf go .levels (← levelsEntry go data)
  | "attacks" => some do makeObject .attackList [("attacks", ← listEntry go data "attacks"), ("parent_statblock", data)]
  | "skills" => some (skillsObject go data)
  | "saves" => some (savesObject go data)
  | _ => none

def ownProperty (data : Value) : Option (Eval Value) :=
  match k, name with
  | .author, "display_name" => some do
    let own ← textProperty go data "name" "User"
    textValue go (← entryOr go data "display_name" own)
  | .author, "roles" => some (rolesOf go data)
  | .baseStats, "prof_bonus" => some do
    let given := (fields.get? "prof_bonus_override").getD .none
    if given.isNone then return .int (← intProperty go data "prof_bonus" 2) else return given
  | .levels, "total_level" => some (totalLevel go data)
  | .attack, "raw" => some (attackRaw go data)
  | .skill, "prof" => some (skillProf go data)
  | .skill, "adv" => some do
    let v ← entry go data "adv"
    if v.isNone then return .none else return .bool (← go (.truth v))
  | .resistances, "resist" | .resistances, "vuln" | .resistances, "immune" | .resistances, "neutral" =>
    some do listOf (← resistanceEntries go data name)
  | .spellbook, "spells" => some (spellsOf go self data fields)
  | .coinpurse, "total" => some do return .float (← purseTotal go data)
  | .action, "snippet" => some do
    let long ← textProperty go data "description" ""
    textValue go (← entryOr go data "snippet" long)
  | .effect, name => effectProperty go data name
  | .combat, "current" => some (currentOf go data)
  | .combat, "metadata" => some (notesOf go data)
  | .statBlock, name | .combatant, name => creatureProperty go name data
  | .character, name | .playedCharacter, name =>
    match name with
    | "actions" => some (actionsOf go data)
    | "csettings" => some do entryOr go data "csettings" (← emptyMap)
    | "cvars" => some do makeDictOf go false [← mapEntry go data "cvars"] []
    | "consumables" => some do makeEach go .customCounter (← send go (← countersOf go data) "values" [])
    | name => creatureProperty go name data
  | _, _ => none

def objectProperty : Option (Eval Value) :=
  ((k.form name).read go (dataField fields) name).orElse fun _ => ownProperty go self k fields name (dataField fields)

def otherAttribute : Eval (Option Value) := do
  let data := dataField fields
  match k with
  | .coinpurse =>
    if coinNames.contains name then return some (.int (← coins go data name))
    return some (← entry go data name)
  | .skills => return some (← skillOf go fields name)
  | .aliasContext | .combat => return some (← entry go data name)
  | k => if k.isCreature then return some (← entry go data name) else return none

def classAttribute : Eval (Option Value) := do
  match name with
  | "ATTRS" => return some (← listOf (k.properties.map fun p => word p.name))
  | "METHODS" => return some (← listOf (k.methods.map fun m => word m.name))
  | "ITEM_ACCESS_ERROR" => return if k.hasItems then some ((k.itemComplaint.map word).getD .none) else none
  | "BLOCK_NUMERIC_STRING_INDEX" => return if k.hasItems then some (.bool k.blocksDigits) else none
  | "__class__" => return some (.cls (.object k))
  | "__approx_len__" => return if k == .skills then none else some (.int 0)
  | _ => return none

def objectAttr : Eval (Option Value) := do
  match objectProperty go self k fields name with
  | some property =>
    .onFault (some <$> property) (·.kind == .attributeError) fun f => do
      match ← otherAttribute go k fields name with
      | some v => return some v
      | none => raise (.fault f)
  | none =>
    match fields.get? name with
    | some v => return some v
    | none =>
      if k.methods.any (·.name == name) || k.innerMethods.contains name then return some (.method self name)
      match ← classAttribute k name with
      | some v => return some v
      | none => otherAttribute go k fields name

def objectAttrOrFail : Eval Value := do
  match ← objectAttr go self k fields name with
  | some v => return v
  | none => fail .attributeError s!"'{k.name}' object has no attribute '{name}'"

def objectNames : Eval (List String) := do
  let keys ← match fields.get? "_data" with
    | none => pure []
    | some data =>
      match ← entries? data with
      | some es => pure (es.toList.filterMap (·.name.asText?))
      | none => fail .attributeError s!"'{← typeName data}' object has no attribute 'keys'"
  let all := k.properties.map (·.name) ++ k.methods.map (·.name) ++ keys
  return (all.eraseDups).mergeSort fun a b => a ≤ b

/-! ## 4. Items -/

def isDigits (s : String) : Bool := !s.isEmpty && s.toList.all Text.isDigit

def objectItem (key : Value) : Eval Value := do
  match k with
  | .levels => go (.item (dataField fields) key)
  | .attackList => attackAt go fields key
  | .skills => skillOf go fields (← go (.text key))
  | k =>
    if !k.hasItems then typeFault s!"'{k.name}' object is not subscriptable"
    match k.itemComplaint with
    | some complaint =>
      if key.asInt?.isSome then typeFault complaint
      if k.blocksDigits && (key.asText?.map isDigits).getD false then typeFault complaint
    | none => pure ()
    objectAttrOrFail go self k fields (← go (.text key))

def objectIter : Eval Cursor := do
  let named (ps : List (String × Value)) : Cursor := .items (ps.map fun (n, v) => .tuple [word n, v])
  match k with
  | .levels => go (.iter (← send go (dataField fields) "items" []))
  | .attackList => return .items (← allAttacks go fields)
  | .skills => return named (← allSkills go fields)
  | .saves => return named (← allSaves go fields)
  | k =>
    if k.isHollow then return .done
    if k.hasItems then return .numbered self 0
    typeFault s!"'{k.name}' object is not iterable"

def objectLen? : Eval (Option Int) := do
  if k.isHollow then return some 0
  if k == .attackList then return some (← go (.len ((fields.get? "attacks").getD .none)))
  return none

def objectContains (v : Value) : Eval Bool := do
  if k == .spellbook then return ← hasSpell go self (dataField fields) fields v
  if k.hasItems || [ObjectKind.levels, .attackList, .skills, .saves].contains k then
    return ← amongComing go v (← go (.iter self)) runLimit
  typeFault s!"argument of type '{k.name}' is not iterable"

/-! ## 5. Texts -/

def objectShown (seen : List Addr) (a : Addr) (k : ObjectKind) (fields : Names) : Eval String := do
  if k == .skill then return ← skillShown go (dataField fields)
  if seen.contains a then return "..."
  return s!"{k.name}({commas (← showNames go (a :: seen) fields)})"

def objectText (a : Addr) (k : ObjectKind) (fields : Names) : Eval String := do
  let data := dataField fields
  match k with
  | .author => authorText go data
  | .attack => attackText go data
  | .attackList =>
    let texts ← (← allAttacks go fields).mapM fun x => go (.text x)
    return String.intercalate "\n" texts
  | .skills => skillsText go (← allSkills go fields)
  | .saves => skillsText go (← allSaves go fields)
  | .spell => go (.text (← textProperty go data "name" "Spell"))
  | .deathSaves => deathText go data
  | .action => actionText go data
  | .customCounter => counterText go data
  | k => objectShown go [] a k fields

/-! ## 6. Methods -/

def namedMethod (b : Bound) : Eval Value := do
  let data := dataField fields
  match k with
  | .guild => entry go data "servsettings"
  | .author => rolesOf go data
  | .baseStats => statsMethod go data name b
  | .levels =>
    let v ← send go data "get" [← textValue go (b.get "cls_name")]
    return if v.isNone then b.get "default" else v
  | .skill =>
    return word (← skillDice go data (b.get "base_adv") (b.get "reroll") (b.get "min_val") (b.get "mod_override"))
  | .saves => saveOf go fields (b.get "base_stat")
  | .resistances => resistanceMethod go data name b
  | .spellbook => bookMethod go self data fields name b
  | .coinpurse => purseMethod go self data name b
  | .deathSaves => deathMethod go data name b
  | .customCounter => counterMethod go data name b
  | .effect =>
    setEntry go data "parent" (← effectData (b.get "parent"))
    return .none
  | .group => groupMethod go data name b
  | .combat => combatMethod go data name b
  | k =>
    if creatureMethods.any (·.name == name) then creatureMethod go data name b
    else if k == .combatant then combatantMethod go data name b
    else characterMethod go k data name b

/-- What goes through an object; attacks, skills and saves are made one by one as they are asked for. -/
def objectCursor : Eval Value := do
  match k with
  | .attackList | .skills | .saves => return .node "generator"
  | .levels =>
    discard <| objectIter go self k fields
    return .node "dict_itemiterator"
  | _ => return .node "tuple_iterator"

def innerMethod (a : Addr) (k : ObjectKind) (fields : Names) (name : String) (args : List Value) : Eval Value := do
  match name, args with
  | "__str__", _ => return word (← objectText go a k fields)
  | "__repr__", _ => return word (← objectShown go [] a k fields)
  | "__dir__", _ => listOf ((← objectNames k fields).map word)
  | "__len__", _ => return .int ((← objectLen? go k fields).getD 0)
  | "__getitem__", [key] => objectItem go self k fields key
  | "__contains__", [v] => return .bool (← objectContains go self k fields v)
  | "__iter__", _ => objectCursor go self k fields
  | "__int__", _ =>
    if k == .skill then return .int (← skillValue go (dataField fields))
    typeFault s!"int() argument must be a string, a bytes-like object or a real number, not '{k.name}'"
  | "__float__", _ => typeFault s!"float() argument must be a string or a real number, not '{k.name}'"
  | _, _ => typeFault s!"{k.name}.{name}() missing 1 required positional argument: 'item'"

def objectMethod (a : Addr) (k : ObjectKind) (fields : Names) (name : String)
    (args : List Value) (named : Names) : Eval Value := do
  match k.methods.find? (·.name == name) with
  | some m => namedMethod go self k fields name (← (m.signature k).bind (self :: args) named)
  | none => innerMethod go self a k fields name args

/-! ## 7. Making an object by the name of its class -/

def ObjectKind.furtherParts : ObjectKind → List String
  | .attack | .attackList | .action => ["parent_statblock"]
  | .skills | .saves => ["prof_bonus", "abilities"]
  | .playedCharacter => ["var_store", "interpreter"]
  | _ => []

def otherNames : List (String × ObjectKind) :=
  [("CombatantAPI", .combatant), ("SimpleEffectAPI", .effect), ("SimpleGroupAPI", .group), ("CombatAPI", .combat)]

def ObjectKind.ofName? : Option ObjectKind :=
  (otherNames.lookup name).orElse fun _ =>
  [ObjectKind.guild, .category, .channel, .role, .author, .aliasContext, .baseStats, .levels, .attack,
   .attackList, .skill, .skills, .saves, .resistance, .resistances, .spell, .spellbook, .coinpurse,
   .deathSaves, .action, .customCounter, .statBlock, .character, .effect, .combatant, .group,
   .combat].find? (·.name == name)

def ObjectKind.firstPart : ObjectKind → String
  | .attackList => "attacks"
  | .resistance => "dtype"
  | _ => "_data"

def objectFrom (data : Value) : Eval Value := do
  let s : Signature :=
    { label := k.name ++ ".__init__"
      params := needed "self" :: needed k.firstPart :: k.furtherParts.map needed }
  discard <| s.bind [.none, data] []
  if k == .resistance then
    let nothing : Eval Value := makeSetOf go false [] []
    makeObject k [("dtype", data), ("unless", ← nothing), ("only", ← nothing)]
  else makeOf go k data

end AliasTools.Sheet
