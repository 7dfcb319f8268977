import AliasTools.Sheet.Kind

/-!
# What objects offer

For every kind of object: its properties and methods, with the words an editor shows for them, and the
parameters of each method, which calls are checked against.
-/

namespace AliasTools.Sheet

/-! ## 1. Notes -/

inductive Hint where
  | other | int | float
  | object (kind : ObjectKind)
  | list (of : Option ObjectKind)

structure PropertyNote where
  name : String
  doc : String
  hint : Hint

inductive Preset where
  | none | unset
  | bool (b : Bool)
  | int (n : Int)

structure ParamNote where
  name : String
  type : String
  preset : Option Preset

/-- A method: its name, parameters, the type of its result as it is written, and what it does. -/
structure MethodNote where
  name : String
  params : List ParamNote
  result : String
  doc : String

/-! ## 2. Properties -/

def creatureWords : List (String × String) :=
  [("name", "Character or statblock name."), ("stats", "Ability scores and proficiency bonus helper."),
   ("levels", "Class levels keyed by class name."), ("attacks", "Attacks available on the statblock."),
   ("skills", "Skill bonuses computed from abilities and prof bonus."),
   ("saves", "Saving throw bonuses computed from abilities and prof bonus."),
   ("resistances", "Damage resistances, immunities, and vulnerabilities."), ("ac", "Armor class."),
   ("max_hp", "Maximum hit points."), ("hp", "Current hit points."), ("temp_hp", "Temporary hit points."),
   ("spellbook", "Known/prepared spells grouped by level."),
   ("creature_type", "Creature type (e.g., humanoid, undead).")]

def abilityWords (words : String) : List (String × String) :=
  abilities.map fun a => (a, a.capitalize ++ words)

def skillWords : String → String
  | "initiative" => "Initiative modifier."
  | "animalHandling" => "Animal Handling skill bonus."
  | "sleightOfHand" => "Sleight of Hand skill bonus."
  | name => name.capitalize ++ " skill bonus."

def ObjectKind.words : ObjectKind → List (String × String)
  | .guild => [("name", "Guild (server) name."), ("id", "Guild (server) id.")]
  | .category => [("name", "Category name."), ("id", "Category id.")]
  | .channel =>
    [("name", "Channel name."), ("id", "Channel id."), ("topic", "Channel topic, if set."),
     ("category", "Parent category for the channel."), ("parent", "Parent channel, if present.")]
  | .role => [("name", "Role name."), ("id", "Role id.")]
  | .author =>
    [("name", "User name for the invoking author."), ("id", "User id for the invoking author."),
     ("discriminator", "User discriminator/tag."), ("display_name", "Display name for the author."),
     ("roles", "Roles held by the author.")]
  | .aliasContext =>
    [("guild", "Guild info for the alias invocation (server context)."),
     ("channel", "Channel where the alias was invoked."), ("author", "User who invoked the alias."),
     ("prefix", "Command prefix that triggered the alias (e.g., `!`)."),
     ("alias", "Alias name that was run."), ("message_id", "Discord message id for the invocation.")]
  | .baseStats => ("prof_bonus", "Proficiency bonus for the character.") :: abilityWords " ability score."
  | .levels => [("total_level", "Sum of all class levels.")]
  | .attack =>
    [("name", "Attack name."), ("verb", "Attack verb or action phrase."),
     ("proper", "Whether the attack name is treated as proper."),
     ("activation_type", "Activation type identifier for this attack."),
     ("raw", "Raw attack payload from the statblock.")]
  | .attackList => []
  | .skill =>
    [("value", "Total modifier for the skill."), ("prof", "Proficiency value applied to the skill."),
     ("bonus", "Base bonus before rolling."),
     ("adv", "Advantage state for the skill roll (True/False/None).")]
  | .skills => namedSkills.map (fun (name, _) => (name, skillWords name)) ++ abilityWords " ability score for this skill block."
  | .saves => []
  | .resistances =>
    [("resist", "Damage types resisted."), ("vuln", "Damage types this target is vulnerable to."),
     ("immune", "Damage types the target is immune to."), ("neutral", "Damage types with no modifiers.")]
  | .spell =>
    [("name", "Spell name."), ("dc", "Save DC for this spell."),
     ("sab", "Spell attack bonus for this spell."), ("mod", "Spellcasting modifier applied to the spell."),
     ("prepared", "Whether the spell is prepared/known.")]
  | .spellbook =>
    [("dc", "Save DC for spells in this spellbook."), ("sab", "Spell attack bonus for this spellbook."),
     ("caster_level", "Caster level used for the spellbook."),
     ("spell_mod", "Spellcasting ability modifier."), ("spells", "Spells grouped by level."),
     ("pact_slot_level", "Level of pact slots, if any."),
     ("num_pact_slots", "Number of pact slots available."),
     ("max_pact_slots", "Maximum pact slots available.")]
  | .coinpurse =>
    [("pp", "Platinum pieces carried."), ("gp", "Gold pieces carried."), ("ep", "Electrum pieces carried."),
     ("sp", "Silver pieces carried."), ("cp", "Copper pieces carried."),
     ("total", "Total value of all coins.")]
  | .deathSaves => [("successes", "Number of successful death saves."), ("fails", "Number of failed death saves.")]
  | .action =>
    [("name", "Action name."), ("activation_type", "Numeric activation type (matches Avrae constants)."),
     ("activation_type_name", "Human-readable activation type (e.g., ACTION, BONUS_ACTION)."),
     ("description", "Long description of the action."),
     ("snippet", "Short snippet shown in the sheet for the action.")]
  | .customCounter =>
    [("name", "Internal name of the counter."), ("title", "Display title for the counter."),
     ("desc", "Description text for the counter."), ("value", "Current counter value."),
     ("max", "Maximum value for the counter."), ("min", "Minimum value for the counter."),
     ("reset_on", "Reset cadence for the counter (e.g., long/short rest)."),
     ("display_type", "Display style for the counter."), ("reset_to", "Value to reset the counter to."),
     ("reset_by", "Increment applied when the counter resets.")]
  | .statBlock => creatureWords
  | .character | .playedCharacter => creatureWords ++
    [("actions", "Actions on the character sheet (mapped from Beyond/custom actions)."),
     ("coinpurse", "Coin totals by denomination."), ("csettings", "Character settings blob."),
     ("race", "Race label."), ("background", "Background name."),
     ("owner", "Discord user id of the owning account."),
     ("upstream", "Upstream character id (e.g., Beyond character slug)."),
     ("sheet_type", "Source sheet provider (beyond, custom, etc.)."),
     ("cvars", "Character variables (string values)."),
     ("consumables", "Custom counters/consumables on the character."),
     ("death_saves", "Death save successes/failures."), ("description", "Character description/biography."),
     ("image", "Avatar or sheet image URL.")]
  | .effect =>
    [("name", "Effect name."), ("duration", "Configured duration for the effect."),
     ("remaining", "Remaining duration for the effect."), ("effect", "Raw effect payload."),
     ("attacks", "Attack data attached to the effect, if any."),
     ("buttons", "Buttons provided by the effect."), ("conc", "Whether the effect requires concentration."),
     ("desc", "Effect description text."), ("ticks_on_end", "Whether the effect ticks when it ends."),
     ("combatant_name", "Name of the owning combatant."), ("parent", "Parent effect, if nested."),
     ("children", "Child effects nested under this effect.")]
  | .combatant => creatureWords ++ [("effects", "Active effects on the combatant."), ("init", "Initiative score."),
     ("initmod", "Initiative modifier."), ("type", "Combatant type (combatant/group)."),
     ("note", "DM note attached to the combatant."),
     ("controller", "Discord id of the controller (if any)."),
     ("group", "Group name the combatant belongs to."), ("race", "Race/creature type label."),
     ("monster_name", "Monster name if this combatant represents a monster."),
     ("is_hidden", "Whether the combatant is hidden in the tracker."), ("id", "Unique combatant id.")]
  | .group =>
    [("combatants", "Members of the group."), ("type", "Group type identifier (always 'group')."),
     ("init", "Initiative score for the group."), ("name", "Group name."), ("id", "Group id.")]
  | .combat =>
    [("combatants", "All combatants in the encounter."), ("groups", "Combatant groups in the encounter."),
     ("me", "The player's combatant if present."), ("current", "Current turn holder (combatant or group)."),
     ("name", "Name of the combat encounter."), ("round_num", "Current round number."),
     ("turn_num", "Current turn number within the round."),
     ("metadata", "Free-form metadata key/value store for the combat.")]
  | .resistance => []

def ObjectKind.hint : ObjectKind → String → Hint
  | .author, "roles" => .list (some .role)
  | .baseStats, _ | .deathSaves, _ | .skill, "value" | .skill, "bonus" => .int
  | .spellbook, "dc" | .spellbook, "sab" | .spellbook, "caster_level" | .spellbook, "spell_mod" => .int
  | .spellbook, "spells" => .list (some .spell)
  | .coinpurse, "total" => .float
  | .customCounter, "value" | .customCounter, "max" | .customCounter, "min" => .int
  | .resistances, _ | .effect, "attacks" | .effect, "buttons" => .list none
  | .effect, "children" | .combatant, "effects" => .list (some .effect)
  | .combatant, "init" | .combatant, "initmod" | .group, "init" => .int
  | .combat, "round_num" | .combat, "turn_num" => .int
  | .group, "combatants" | .combat, "combatants" => .list (some .combatant)
  | .combat, "groups" => .list (some .group)
  | .statBlock, name | .character, name | .playedCharacter, name | .combatant, name =>
    match name with
    | "stats" => .object .baseStats
    | "levels" => .object .levels
    | "attacks" => .object .attackList
    | "skills" => .object .skills
    | "saves" => .object .saves
    | "resistances" => .object .resistances
    | "temp_hp" => .int
    | "spellbook" => .object .spellbook
    | "actions" => .list (some .action)
    | "coinpurse" => .object .coinpurse
    | "consumables" => .list (some .customCounter)
    | "death_saves" => .object .deathSaves
    | _ => .other
  | _, _ => .other

def ObjectKind.properties (k : ObjectKind) : List PropertyNote :=
  k.words.map fun (name, doc) => ⟨name, doc, k.hint name⟩

/-! ## 3. Methods -/

namespace ParamNote

variable (name : String)

def str : ParamNote := ⟨name, "str", none⟩

def int : ParamNote := ⟨name, "int", none⟩

def flag (preset : Bool) : ParamNote := ⟨name, "bool", some (.bool preset)⟩

def count (preset : Int) : ParamNote := ⟨name, "int", some (.int preset)⟩

def any (preset : Preset) : ParamNote := ⟨name, "Any", some preset⟩

def free : ParamNote := ⟨name, "", some .none⟩

def maybe (name type : String) : ParamNote := ⟨name, type ++ " | None", some .none⟩

end ParamNote

def counterFields : List String := ["minVal", "maxVal", "reset", "dispType", "reset_to", "reset_by", "title", "desc"]

def creatureMethods : List MethodNote :=
  [⟨"set_hp", [.int "new_hp"], "int", "Set current hit points."⟩,
   ⟨"modify_hp", [.int "amount", .flag "ignore_temp" false, .flag "overflow" true], "int",
     "Adjust hit points by `amount`, respecting overflow limits when requested."⟩,
   ⟨"hp_str", [], "str", "String summary of HP and temp HP."⟩,
   ⟨"reset_hp", [], "int", "Restore to max HP and clear temp HP."⟩,
   ⟨"set_temp_hp", [.int "new_temp"], "int", "Set temporary hit points."⟩]

def ObjectKind.methods : ObjectKind → List MethodNote
  | .guild => [⟨"servsettings", [], "Mapping[str, Any] | None", ""⟩]
  | .author => [⟨"get_roles", [], "list[RoleAPI]", ""⟩]
  | .baseStats => [⟨"get_mod", [.str "stat"], "int", ""⟩, ⟨"get", [.str "stat"], "int", ""⟩]
  | .levels => [⟨"get", [.str "cls_name", ⟨"default", "int | float", (some (.int 0))⟩], "int | float", ""⟩]
  | .skill => [⟨"d20", [.free "base_adv", .free "reroll", .free "min_val", .free "mod_override"], "str", ""⟩]
  | .saves => [⟨"get", [.str "base_stat"], "AliasSkill", ""⟩]
  | .resistances =>
    ["is_resistant", "is_immune", "is_vulnerable", "is_neutral"].map fun name =>
      ⟨name, [.str "damage_type"], "bool", ""⟩
  | .spellbook =>
    [⟨"find", [.str "spell_name"], "list[AliasSpellbookSpell]", ""⟩,
     ⟨"slots_str", [.int "level"], "str", ""⟩, ⟨"get_max_slots", [.int "level"], "int", ""⟩,
     ⟨"get_slots", [.int "level"], "int", ""⟩,
     ⟨"set_slots", [.int "level", .int "value", .flag "pact" true], "int", ""⟩,
     ⟨"use_slot", [.int "level"], "int", ""⟩, ⟨"reset_slots", [], "None", ""⟩,
     ⟨"reset_pact_slots", [], "None", ""⟩, ⟨"remaining_casts_of", [.str "spell", .int "level"], "str", ""⟩,
     ⟨"cast", [.str "spell", .int "level"], "str", ""⟩,
     ⟨"can_cast", [.str "spell", .int "level"], "bool", ""⟩]
  | .coinpurse =>
    [⟨"coin_str", [.str "cointype"], "str", ""⟩, ⟨"compact_str", [], "str", ""⟩,
     ⟨"modify_coins", [.count "pp" 0, .count "gp" 0, .count "ep" 0, .count "sp" 0, .count "cp" 0,
       .flag "autoconvert" true], "dict[str, Any]", ""⟩,
     ⟨"set_coins", [.int "pp", .int "gp", .int "ep", .int "sp", .int "cp"], "None", ""⟩,
     ⟨"autoconvert", [], "None", ""⟩, ⟨"get_coins", [], "dict[str, Any]", ""⟩]
  | .deathSaves =>
    [⟨"succeed", [.count "num" 1], "None", ""⟩, ⟨"fail", [.count "num" 1], "None", ""⟩,
     ⟨"is_stable", [], "bool", ""⟩, ⟨"is_dead", [], "bool", ""⟩, ⟨"reset", [], "None", ""⟩]
  | .customCounter =>
    [⟨"mod", [.int "value", .flag "strict" false], "int", ""⟩,
     ⟨"set", [.int "new_value", .flag "strict" false], "int", ""⟩, ⟨"reset", [], "dict[str, Any]", ""⟩,
     ⟨"full_str", [.flag "include_name" false], "str", ""⟩]
  | .statBlock => creatureMethods
  | .character | .playedCharacter => creatureMethods ++
    [⟨"cc", [.str "name"], "AliasCustomCounter", "Get (or create placeholder for) a custom counter by name."⟩,
     ⟨"get_cc", [.str "name"], "int", "Current value of a custom counter."⟩,
     ⟨"get_cc_max", [.str "name"], "int", "Maximum value for a custom counter."⟩,
     ⟨"get_cc_min", [.str "name"], "int", "Minimum value for a custom counter."⟩,
     ⟨"set_cc", [.str "name", .maybe "value" "int", .maybe "maximum" "int", .maybe "minimum" "int"], "int",
       "Set value/max/min for a custom counter."⟩,
     ⟨"mod_cc", [.str "name", .int "val", .flag "strict" false], "int",
       "Modify a custom counter by `val` (optionally enforcing bounds)."⟩,
     ⟨"delete_cc", [.str "name"], "Any", "Remove a custom counter and return its payload."⟩,
     ⟨"create_cc_nx", .str "name" :: (counterFields ++ ["initial_value"]).map (.maybe · "str"),
       "AliasCustomCounter", "Create a custom counter if missing, preserving existing ones."⟩,
     ⟨"create_cc", .str "name" :: (counterFields ++ ["initial_value"]).map (.maybe · "str"),
       "AliasCustomCounter", "Create or overwrite a custom counter."⟩,
     ⟨"edit_cc", .str "name" :: counterFields.map (.any · .unset) ++ [.maybe "new_name" "str"],
       "AliasCustomCounter", "Edit fields on an existing custom counter."⟩,
     ⟨"cc_exists", [.str "name"], "bool", "Return True if a custom counter with the name exists."⟩,
     ⟨"cc_str", [.str "name"], "str", "String form of a custom counter."⟩,
     ⟨"get_cvar", [.str "name", .any "default" .none], "Optional[str]",
       "Fetch a character variable, returning `default` if missing."⟩,
     ⟨"set_cvar", [.str "name", .str "val"], "Optional[str]",
       "Sets a character variable. Avrae stores cvars as strings."⟩,
     ⟨"set_cvar_nx", [.str "name", .str "val"], "str", "Set a character variable only if it does not already exist."⟩,
     ⟨"delete_cvar", [.str "name"], "Optional[str]",
       "Delete a character variable and return its old value if present."⟩]
  | .effect => [⟨"set_parent", [⟨"parent", "'SimpleEffect'", none⟩], "None", ""⟩]
  | .combatant => creatureMethods ++ [⟨"save", [.str "ability", .maybe "adv" "bool"], "SimpleRollResult",
       "Roll a saving throw using the combatant's stats."⟩,
     ⟨"damage", [.str "dice_str", .flag "crit" false, .free "d", .free "c", .count "critdice" 0,
       .flag "overheal" false], "dict[str, Any]",
       "Apply damage expression to the combatant and return the roll breakdown."⟩,
     ⟨"set_ac", [.int "ac"], "None", "Set armor class."⟩,
     ⟨"set_maxhp", [.int "maxhp"], "None", "Set maximum HP."⟩,
     ⟨"set_init", [.int "init"], "None", "Set initiative score."⟩,
     ⟨"set_name", [.str "name"], "None", "Rename the combatant."⟩,
     ⟨"set_group", [⟨"group", "str | None", none⟩], "str | None", "Assign the combatant to a group."⟩,
     ⟨"set_note", [.str "note"], "None", "Attach/update a DM note."⟩,
     ⟨"get_effect", [.str "name", .flag "strict" false], "SimpleEffect | None",
       "Find an effect by name (optionally requiring exact match)."⟩,
     ⟨"add_effect", [.str "name", .maybe "args" "str", .maybe "duration" "int", .flag "concentration" false,
       .maybe "parent" "SimpleEffect", .flag "end" false, .maybe "desc" "str",
       .maybe "passive_effects" "dict", .maybe "attacks" "list[dict]", .maybe "buttons" "list[dict]",
       .maybe "tick_on_combatant_id" "str"], "SimpleEffect", "Add a new effect to the combatant."⟩,
     ⟨"remove_effect", [.str "name", .flag "strict" false], "None", "Remove an effect by name."⟩]
  | .group =>
    [⟨"get_combatant", [.str "name", .maybe "strict" "bool"], "SimpleCombatant | None",
       "Find a combatant within the group."⟩, ⟨"set_init", [.int "init"], "None", ""⟩]
  | .combat =>
    [⟨"get_combatant", [.str "name", .maybe "strict" "bool"], "SimpleCombatant | None",
       "Find a combatant by name (strict, substring, or fuzzy)."⟩,
     ⟨"get_group", [.str "name", .maybe "strict" "bool"], "SimpleGroup | None", "Find a combatant group by name."⟩,
     ⟨"set_metadata", [.str "k", .str "v"], "None",
       "Set a metadata key/value pair, enforcing Avrae size limits."⟩, ⟨"get_metadata", [.str "k", .any "default" .none], "Any", ""⟩,
     ⟨"delete_metadata", [.str "k"], "Any", "Delete a metadata key."⟩,
     ⟨"set_round", [.int "round_num"], "None", "Advance combat to the specified round number."⟩,
     ⟨"end_round", [], "None", "Increment round number and reset turn counter."⟩]
  | .category | .channel | .role | .aliasContext | .attack | .attackList | .skills | .spell | .action
  | .resistance => []

end AliasTools.Sheet
