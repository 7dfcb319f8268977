import AliasTools.Script.Gvars

/-!
# The sample profile

A character, a fight and a place to try aliases with when a workspace names none of its own.
-/

namespace AliasTools.Workspace

open Script Sheet

instance : Coe String Json := ⟨.str⟩

instance : Coe Bool Json := ⟨.bool⟩

instance (n : Nat) : OfNat Json n := ⟨.int n⟩

def sampleAbilities : Json :=
  .obj [ ("strength", 16), ("dexterity", 14), ("constitution", 15),
    ("intelligence", 10), ("wisdom", 12), ("charisma", 13), ("prof_bonus", 3)]

def sampleProficiencies : List String := ["athletics", "perception", "stealth", "survival"]

def sampleBonus (ability : String) : Int :=
  (abilityBonus? (((sampleAbilities.get? ability).bind Json.int?).getD 10)).getD 0

def sampleProficiency : Int := ((sampleAbilities.get? "prof_bonus").bind Json.int?).getD 0

def sampleSkills : Json :=
  .obj (skillAbilities.map fun (name, ability) =>
    let prof : Int := if sampleProficiencies.contains name then 1 else 0
    (name, .obj [("value", .int (sampleBonus ability + sampleProficiency * prof)),
      ("prof", .int prof), ("bonus", 0), ("adv", .null)]))

def sampleSaves : Json :=
  .obj ((abilityShorts.zip abilities).map fun (short, ability) =>
    (short, .int (sampleBonus ability + if ["str", "con"].contains short then sampleProficiency else 0)))

def sampleAttacks : Json :=
  .arr [ .obj [ ("name", "Longsword"), ("verb", "swings"), ("proper", false), ("activation_type", 1),
      ("raw", .obj [ ("name", "Longsword"), ("bonus", "+7"), ("damage", "1d8+4 slashing")])],
    .obj [ ("name", "Shortbow"), ("verb", "looses"), ("proper", false), ("activation_type", 1), ("raw", .obj [
        ("name", "Shortbow"), ("bonus", "+6"), ("damage", "1d6+3 piercing")])]]

def sampleSpellbook : Json :=
  .obj [ ("dc", 14), ("sab", 6), ("caster_level", 5), ("spell_mod", 3),
    ("pact_slot_level", .null), ("num_pact_slots", .null), ("max_pact_slots", .null),
    ("slots", .null), ("max_slots", .null),
    ("spells", .arr [ .obj [ ("name", "Cure Wounds"), ("dc", .null), ("sab", .null), ("mod", .null),
        ("prepared", true)],
      .obj [ ("name", "Hunter's Mark"), ("dc", .null), ("sab", .null), ("mod", .null), ("prepared", true)],
      .obj [ ("name", "Fire Bolt"), ("dc", .null), ("sab", .null), ("mod", .null), ("prepared", true)]])]

def sampleCounters : Json :=
  .obj [ ("Hit Dice", .obj [ ("name", "Hit Dice"), ("value", 5), ("max", 5), ("min", 0),
      ("reset_on", "long"), ("display_type", .null), ("reset_to", .null),
      ("reset_by", .null), ("title", "d10 hit dice"), ("desc", "Hit dice pool")]),
    ("Bardic Inspiration", .obj [ ("name", "Bardic Inspiration"), ("value", 3), ("max", 3), ("min", 0),
      ("reset_on", "long"), ("display_type", "bubble"), ("reset_to", "max"),
      ("reset_by", .null), ("title", .null), ("desc", .null)])]

def sampleSheet : Json :=
  .obj [ ("name", "Aelar Wyn"), ("race", "Half-Elf"), ("background", "Outlander"),
    ("description", "Scout of the Emerald Enclave."),
    ("image", "https://example.invalid/aelar.png"), ("owner", 1010101010),
    ("upstream", "char_aelar_wyn"), ("sheet_type", "beyond"),
    ("creature_type", "humanoid"), ("stats", sampleAbilities),
    ("levels", .obj [("Fighter", 3), ("Rogue", 2)]), ("attacks", sampleAttacks),
    ("actions", .arr [ .obj [ ("name", "Second Wind"), ("activation_type", 3),
        ("activation_type_name", "BONUS_ACTION"), ("description", "+1d10+5 hp"),
        ("snippet", "+1d10+5 hp")],
      .obj [ ("name", "Action Surge"), ("activation_type", 1), ("activation_type_name", "ACTION"),
        ("description", "Take one additional action."),
        ("snippet", "Take one additional action.")]]),
    ("skills", sampleSkills), ("saves", sampleSaves),
    ("resistances", .obj [ ("resist", .arr [.obj [("dtype", "fire"), ("unless", .arr []), ("only", .arr [])]]),
      ("vuln", .arr []), ("immune", .arr []), ("neutral", .arr [])]),
    ("spellbook", sampleSpellbook), ("consumables", sampleCounters),
    ("cvars", .obj [("favorite_enemy", "goblinoids"), ("fighting_style", "defense")]),
    ("coinpurse", .obj [ ("pp", 1), ("gp", 47), ("ep", 0), ("sp", 12), ("cp", 34)]),
    ("death_saves", .obj [("successes", 0), ("fails", 0)]), ("max_hp", 44),
    ("hp", 38), ("temp_hp", 3), ("ac", 17), ("passive_perception", 15),
    ("speed", 30), ("class_levels", .obj [("Fighter", 3), ("Rogue", 2)]),
    ("csettings", .obj [("compact_coins", false)])]

def sampleFoe : Json :=
  .obj [ ("name", "Goblin Cutter"), ("id", "cmb_gob1"), ("controller", .null),
    ("group", "Goblins"), ("race", .null), ("monster_name", "Goblin"),
    ("is_hidden", false), ("init", 12), ("initmod", 2),
    ("type", "combatant"), ("note", ""), ("effects", .arr []),
    ("stats", .obj [ ("strength", 8), ("dexterity", 14), ("constitution", 10),
      ("intelligence", 8), ("wisdom", 10), ("charisma", 8), ("prof_bonus", 2)]),
    ("levels", .obj []),
    ("skills", .obj [ ("stealth", .obj [("value", 6), ("prof", 1), ("bonus", 0), ("adv", .null)])]),
    ("saves", .obj [("dex", 4)]),
    ("resistances", .obj [ ("resist", .arr []), ("vuln", .arr []), ("immune", .arr []), ("neutral", .arr [])]),
    ("spellbook", .obj [("spells", .arr [])]),
    ("attacks", .arr [ .obj [ ("name", "Scimitar"), ("verb", "slashes"), ("proper", false), ("activation_type", 1),
        ("raw", .obj [ ("name", "Scimitar"), ("bonus", "+4"), ("damage", "1d6+2 slashing")])]]),
    ("max_hp", 11), ("hp", 11), ("temp_hp", 0), ("ac", 15),
    ("creature_type", "humanoid")]

def samplePlace : Json :=
  .obj [ ("guild", .obj [("id", 123456789012345678), ("name", "Fabled Realms")]), ("channel", .obj [
      ("id", 234567890123456789), ("name", "tavern-rp"),
      ("topic", "Adventuring party chat"),
      ("category", .obj [("id", 9876543210), ("name", "Adventures")]),
      ("parent", .null)]),
    ("author", .obj [ ("id", 345678901234567890), ("name", "AelarW"), ("discriminator", "0420"),
      ("display_name", "Aelar Wyn"),
      ("roles", .arr [ .obj [("id", 4567), ("name", "DM")], .obj [("id", 4568), ("name", "Player")]])]),
    ("prefix", "!"), ("alias", "mockalias"), ("message_id", 456789012345678901)]

def sampleSlots : Eval Value := do alloc (.dict false #[⟨.int 1, .int 1, .int 4⟩, ⟨.int 2, .int 2, .int 2⟩] none)

def sampleEntry (data : Value) (name : String) : Eval Value := do
  return (((← entries? data).getD #[]).get? (.str name)).getD .none

def setSampleEntry (data : Value) (name : String) (v : Value) : Eval Unit :=
  match data with
  | .ref a => alter a (.setEntry (.str name) (word name) v)
  | _ => pure ()

def sampleCharacter : Eval Value := do
  let sheet ← valueOfJson sampleSheet
  let book ← sampleEntry sheet "spellbook"
  setSampleEntry book "slots" (← sampleSlots)
  setSampleEntry book "max_slots" (← sampleSlots)
  return sheet

def sampleMember (sheet : Value) : Eval Value := do
  let part := sampleEntry sheet
  let effects ← valueOfJson (.arr [.obj [("name", .str "Hunter's Mark"), ("duration", .int 600),
    ("remaining", .int 540), ("desc", .str "Mark one target; deal +1d6 damage to it."),
    ("concentration", .bool true)]])
  match ← listItems? effects with
  | some es => setSampleEntry (es.getD 0 .none) "combatant_name" (← part "name")
  | none => pure ()
  let own : Names :=
    [("name", ← part "name"), ("id", word "cmb_aelar"), ("controller", ← part "owner"),
     ("group", .none), ("race", ← part "race"), ("monster_name", .none), ("is_hidden", .bool false),
     ("init", .int 18), ("initmod", .int 4), ("type", word "combatant"), ("note", word "On watch"),
     ("effects", effects)]
  let shared ← ["stats", "levels", "skills", "saves", "resistances", "spellbook", "attacks",
    "max_hp", "hp", "temp_hp", "ac", "creature_type"].mapM fun n => do return (n, ← part n)
  mapOf (own ++ shared)

def sampleFight (sheet : Value) : Eval Value := do
  let member ← sampleMember sheet
  let foe ← valueOfJson sampleFoe
  let group ← mapOf [("name", word "Goblins"), ("id", word "grp_goblins"), ("init", .int 12),
    ("type", word "group"), ("combatants", ← listOf [foe])]
  mapOf [("name", word "Goblin Ambush"), ("round_num", .int 2), ("turn_num", .int 15),
    ("combatants", ← listOf [member, foe]), ("groups", ← listOf [group]), ("me", member),
    ("current", group),
    ("metadata", ← mapOf [("scene", word "Forest road"), ("weather", word "light rain")])]

end AliasTools.Workspace
