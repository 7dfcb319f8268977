import AliasTools.Sheet.Data

/-!
# Creatures

What a creature is made of: its scores, levels, attacks, skills, saves, resistances, hit points and
spells.  Scores have bonuses, and a skill or save that is not written down is worth the bonus of its
ability.
-/

namespace AliasTools.Sheet

open Script Number

/-! ## 1. Abilities, skills and saves -/

/-- A skill by its name, whatever its case and its gaps. -/
def skillNamed (name : String) : Option String :=
  let plain := (Text.lowerText name).toList.filter fun c => c != ' ' && c != '_'
  (skillAbilities.find? fun p => (Text.lowerText p.1).toList == plain).map (·.1)

variable (go : Go) (data : Value) (fields : Names) (name : String)

def scoreOf (ability : String) : Eval Int := intProperty go data ability 10

def bonusOf (score : Value) : Eval Int := do
  match score with
  | .float x =>
    let y := (x - 10.0) / 2.0
    match floor? y with
    | some n => return n
    | none => floatToInt y
  | _ =>
    match score.asInt? with
    | some n => abilityBonus n
    | none => typeFault s!"unsupported operand type(s) for -: '{← typeName score}' and 'int'"

def abilityNamed (shorts : Bool) : Option String :=
  if abilities.contains name then some name
  else if shorts then ((abilityShorts.zip abilities).find? fun p => p.1 == name).map (·.2)
  else none

def statsMethod (b : Bound) : Eval Value := do
  let asked := Text.lowerText (← go (.text (b.get "stat")))
  let score ← match abilityNamed asked (name == "get_mod") with
    | some a => scoreOf go data a
    | none => pure 10
  if name == "get_mod" then return .int (← abilityBonus score) else return .int score

def skillValue : Eval Int := intProperty go data "value" 0

def skillProf : Eval Value := do
  let raw ← entry go data "prof"
  if raw.isNone then return .int 0
  .fallback (makeFloat go [raw] []) (pure (.int 0))

/-- The dice of a check; the roll is the better or the worse of two if that is asked for. -/
def skillDice (data base reroll least override : Value) : Eval String := do
  let mod ← if override.isNone then do pure (Value.int (← skillValue go data)) else pure override
  let front ← if ← go (.truth base) then pure "2d20kh1"
    else pure (if sameValue base (.bool false) then "2d20kl1" else "1d20")
  let isUp ← go (.order .ge mod (.int 0))
  let shown ← go (.format mod "")
  let dice := front ++ (if isUp then "+" else "") ++ shown
  let dice ← if reroll.isNone then pure dice else do pure (dice ++ " (reroll " ++ (← go (.format reroll "")) ++ ")")
  if least.isNone then return dice
  return dice ++ " (min " ++ (← go (.format least "")) ++ ")"

def skillShown : Eval String := do
  let value ← skillValue go data
  let prof ← go (.text (← skillProf go data))
  let bonus ← intProperty go data "bonus" 0
  let adv ← entry go data "adv"
  let adv ← if adv.isNone then pure "None" else do pure (if ← go (.truth adv) then "True" else "False")
  return s!"<AliasSkill value={value} prof={prof} bonus={bonus} adv={adv}>"

def skillOf : Eval Value := do
  let data := (fields.get? "_data").getD .none
  let normal := (skillNamed name).getD name
  let found ← orElse go (← entry go data normal) (entry go data name)
  if ← go (.truth found) then return ← makeOf go .skill found
  let bonus ← match skillAbilities.lookup normal with
    | none => pure 0
    | some ability => bonusOf (← entryOr go ((fields.get? "abilities").getD .none) ability (.int 10))
  let made ← mapOf [("value", .int bonus), ("prof", .int 0), ("bonus", .int 0), ("adv", .none)]
  makeOf go .skill made

/-- What is written of a save, or else the bonus of the ability. -/
def saveOf (stat : Value) : Eval Value := do
  let data := (fields.get? "_data").getD .none
  let normal ← send go stat "lower" []
  let found ← orElse go (← send go data "get" [normal]) (send go data "get" [stat])
  let found ← match found with
    | .int _ | .bool _ | .float _ => if ← go (.truth found) then mapOf [("value", found)] else pure found
    | _ => pure found
  if ← go (.truth found) then return ← makeOf go .skill found
  let score ← send go ((fields.get? "abilities").getD .none) "get" [normal, .int 10]
  makeOf go .skill (← mapOf [("value", .int (← bonusOf score))])

def allSkills : Eval (List (String × Value)) := skillAbilities.mapM fun (n, _) => do return (n, ← skillOf go fields n)

def allSaves : Eval (List (String × Value)) := abilityShorts.mapM fun n => do return (n, ← saveOf go fields (word n))

def skillsText (skills : List (String × Value)) : Eval String := do
  let parts ← skills.mapM fun (n, s) => do
    match ← go (.attr s "value") with
    | some v => return n ++ ": " ++ (← go (.format v ""))
    | none => return n
  return commas parts

/-! ## 2. Spells, and the slots that casting them uses up -/

variable (go : Go) (data level : Value)

def spellsOf (self : Value) (data : Value) (fields : Names) : Eval Value := do
  let known := (fields.get? "_spells_cache").getD .none
  if ← go (.truth known) then return known
  let made ← makeEach go .spell (← listEntry go data "spells")
  match self with
  | .ref a => .change (.setField a "_spells_cache" made)
  | _ => pure ()
  return made

def slotCount (slots level : Value) : Eval Int := do
  let n ← asInt go level
  intOr go (← send go slots "get" [.int n]) 0

/-- Of level zero there is always a slot. -/
def slotsLeft : Eval Int := do
  let slots ← mapEntry go data "slots"
  if (← asInt go level) == 0 then return 1
  slotCount go slots level

def slotsMost : Eval Int := do slotCount go (← mapEntry go data "max_slots") level

def slotsText : Eval Value := do
  let left ← slotsLeft go data level
  return word s!"{left}/{← slotsMost go data level}"

def setSlots (data level value : Value) : Eval Value := do
  let slots ← entryOrPut go data "slots" (← emptyMap)
  let v := Value.int (← asInt go value)
  let n := Value.int (← asInt go level)
  go (.setItem slots n v)
  go (.item slots (.int (← asInt go level)))

def useSlot : Eval Value := do
  let left ← slotsLeft go data level
  setSlots go data level (.int (max 0 (left - 1)))

def resetSlots (data : Value) : Eval Unit := do
  let slots ← mapEntry go data "slots"
  let most ← mapEntry go data "max_slots"
  (← pairsOf go (← send go most "items" [])).forM fun (level, n) => do
    let v ← intOr go n 0
    go (.setItem slots (.int (← asInt go level)) (.int v))
  setEntry go data "slots" slots

def spellsNamed (self data : Value) (fields : Names) (name : String) : Eval (List Value) := do
  let spells ← collect go (← spellsOf go self data fields)
  spells.toList.filterM fun s => do
    match ← go (.attr s "name") with
    | some (.str n _) => return Text.lowerText n == name
    | _ => return false

/-- Spells are told apart whatever their case. -/
def hasSpell (self data : Value) (fields : Names) (v : Value) : Eval Bool := do
  match v with
  | .str s _ => return !(← spellsNamed go self data fields (Text.lowerText s)).isEmpty
  | _ => return false

def bookMethod (self data : Value) (fields : Names) (name : String) (b : Bound) : Eval Value := do
  let level := b.get "level"
  match name with
  | "find" => listOf (← spellsNamed go self data fields (Text.lowerText (← go (.text (b.get "spell_name")))))
  | "slots_str" | "remaining_casts_of" => slotsText go data level
  | "get_max_slots" => return .int (← slotsMost go data level)
  | "get_slots" => return .int (← slotsLeft go data level)
  | "set_slots" => setSlots go data level (b.get "value")
  | "use_slot" => useSlot go data level
  | "reset_slots" =>
    resetSlots go data
    return .none
  | "reset_pact_slots" =>
    let most ← intOrNone go data "max_pact_slots"
    if !most.isNone then setEntry go data "num_pact_slots" most
    return .none
  | "cast" =>
    discard <| useSlot go data level
    let spell ← go (.format (b.get "spell") "")
    return word (s!"Casted {spell} at level " ++ (← go (.format level "")))
  | _ => return .bool ((← slotsLeft go data level) > 0)

/-! ## 3. Creatures -/

variable (go : Go) (data : Value) (name : String) (fields : Names)

def levelsEntry : Eval Value := do orElse go (← entry go data "levels") (mapEntry go data "class_levels")

/-- What is written, or else by the level. -/
def profBonus : Eval Int := do
  let stats ← mapEntry go data "stats"
  if ← go (.contains stats (word "prof_bonus")) then return ← intProperty go stats "prof_bonus" 2
  let levels ← collect go (← send go (← levelsEntry go data) "values" [])
  let total ← levels.toList.foldlM (fun n v => do return n + (← intOr go v 0)) 0
  let total := if total == 0 then 1 else total
  return max 2 (2 + (← fromQuotient (ceil? (ofRatio (total < 0) total.natAbs 4))))

def statsOf : Eval Value := do
  let stats ← mapEntry go data "stats"
  makeObject .baseStats [("_data", stats), ("prof_bonus_override", .int (← profBonus go data))]

def scoresOf : Eval Names := do
  discard <| profBonus go data
  let stats ← mapEntry go data "stats"
  abilities.mapM fun a => do return (a, Value.int (← scoreOf go stats a))

def skillsObject : Eval Value := do
  let scores ← mapOf (← scoresOf go data)
  let own ← mapEntry go data "skills"
  makeObject .skills [("_data", own), ("prof_bonus", .int (← profBonus go data)), ("abilities", scores)]

def savesObject : Eval Value := do
  let scores ← scoresOf go data
  let shorts := (abilityShorts.zip scores).map fun (s, _, v) => (s, v)
  let all ← mapOf (scores ++ shorts)
  let own ← mapEntry go data "saves"
  makeObject .saves [("_data", own), ("prof_bonus", .int (← profBonus go data)), ("abilities", all)]

def totalLevel : Eval Value := do
  let pairs ← pairsOf go (← send go data "items" [])
  pairs.foldlM (fun total (_, v) =>
    .fallback (addValues go total v) (.fallback (do addValues go total (.int (← asInt go v))) (pure total))) (.int 0)

def attackRaw : Eval Value := entryOr go data "raw" data

def attackText : Eval String := do
  let damage ← entry go (← attackRaw go data) "damage"
  let name ← go (.text (← textProperty go data "name" "Attack"))
  let verb ← match ← textOrNone go data "verb" with
    | .str s _ => pure (if s.isEmpty then "" else " " ++ s)
    | _ => pure ""
  if ← go (.truth damage) then return s!"{name}{verb}: " ++ (← go (.format damage ""))
  return Text.trim (name ++ verb)

def makeAttack (data : Value) : Eval Value :=
  makeObject .attack [("_data", data), ("parent_statblock", (fields.get? "parent_statblock").getD .none)]

def allAttacks : Eval (List Value) := do
  let items ← collect go ((fields.get? "attacks").getD .none)
  items.toList.mapM (makeAttack fields)

def attackAt (key : Value) : Eval Value := do
  let found ← go (.item ((fields.get? "attacks").getD .none) key)
  match key with
  | .slice _ _ _ => makeObject .attackList (fields.put "attacks" found)
  | _ => makeAttack fields found

def resistanceEntries (sort : String) : Eval (List Value) := do
  let items ← collect go (← entryOr go data sort (← emptyList))
  items.toList.mapM fun e => do
    let part (name : String) : Eval Value := do
      let given ← orElse go (← entryOr go e name (← emptyList)) emptyList
      makeSetOf go false [given] []
    let kind ← textProperty go e "dtype" ""
    let unless_ ← part "unless"
    makeObject .resistance [("dtype", kind), ("unless", unless_), ("only", ← part "only")]

/-- Whether a resistance is about a kind of damage. -/
def entryMatches (token : String) (e : Value) : Eval Bool := do
  match ← cellOf e with
  | some (.object _ fields) =>
    let only := (← members? ((fields.get? "only").getD .none)).getD #[]
    let unless_ := (← members? ((fields.get? "unless").getD .none)).getD #[]
    let kind := ((fields.get? "dtype").bind Value.asText?).getD ""
    return (only.isEmpty || only.has (.str token)) &&
      !(!unless_.isEmpty && unless_.has (.str token)) && Text.lowerText kind == token
  | _ => return false

def matchesAny (token : String) (es : List Value) : Eval Bool := do return !(← es.filterM (entryMatches token)).isEmpty

def resistanceMethod (b : Bound) : Eval Value := do
  let token := Text.lowerText (← go (.text (b.get "damage_type")))
  let sort := match name with
    | "is_resistant" => "resist"
    | "is_immune" => "immune"
    | "is_vulnerable" => "vuln"
    | _ => "neutral"
  return .bool (← matchesAny token (← resistanceEntries go data sort))

def hitPoints : Eval Int := do
  match ← intOrNone go data "hp" with
  | .int n => return n
  | _ => return 0

def creatureMethod (b : Bound) : Eval Value := do
  match name with
  | "set_hp" =>
    setEntry go data "hp" (.int (← asInt go (b.get "new_hp")))
    go (.item data (word "hp"))
  | "modify_hp" =>
    let now ← hitPoints go data
    let wanted := now + (← asInt go (b.get "amount"))
    let new ← if ← go (.truth (b.get "overflow")) then pure wanted else match ← intOrNone go data "max_hp" with
        | .int most => pure (max 0 (min wanted most))
        | _ => pure wanted
    setEntry go data "hp" (.int new)
    return .int new
  | "hp_str" =>
    let hp ← go (.text (← intOrNone go data "hp"))
    let most ← go (.text (← intOrNone go data "max_hp"))
    let temp ← intProperty go data "temp_hp" 0
    return word s!"{hp}/{most} (+{temp} temp)"
  | "reset_hp" =>
    let most ← intOrNone go data "max_hp"
    if !most.isNone then setEntry go data "hp" most
    setEntry go data "temp_hp" (.int 0)
    return .int (← hitPoints go data)
  | _ =>
    setEntry go data "temp_hp" (.int (← asInt go (b.get "new_temp")))
    return .int (← intProperty go data "temp_hp" 0)

end AliasTools.Sheet
