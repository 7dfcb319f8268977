/-!
# Kinds of game objects

The objects a script can ask about: the place it was called from, the character, and the fight.
-/

namespace AliasTools.Sheet

inductive ObjectKind where
  | guild | category | channel | role | author | aliasContext
  | baseStats | levels | attack | attackList | skill | skills | saves | resistance | resistances
  | spell | spellbook | coinpurse | deathSaves | action | customCounter | statBlock | character
  | playedCharacter | effect | combatant | group | combat
deriving DecidableEq, Hashable

def ObjectKind.name : ObjectKind → String
  | .guild => "GuildAPI" | .category => "CategoryAPI" | .channel => "ChannelAPI"
  | .role => "RoleAPI" | .author => "AuthorAPI" | .aliasContext => "AliasContextAPI"
  | .baseStats => "AliasBaseStats" | .levels => "AliasLevels" | .attack => "AliasAttack"
  | .attackList => "AliasAttackList" | .skill => "AliasSkill" | .skills => "AliasSkills"
  | .saves => "AliasSaves" | .resistance => "ResistanceEntry" | .resistances => "AliasResistances"
  | .spell => "AliasSpellbookSpell" | .spellbook => "AliasSpellbook"
  | .coinpurse => "AliasCoinpurse" | .deathSaves => "AliasDeathSaves" | .action => "AliasAction"
  | .customCounter => "AliasCustomCounter" | .statBlock => "AliasStatBlock"
  | .character => "CharacterAPI" | .playedCharacter => "_RuntimeCharacter"
  | .effect => "SimpleEffect" | .combatant => "SimpleCombatant" | .group => "SimpleGroup"
  | .combat => "SimpleCombat"

def abilities : List String := ["strength", "dexterity", "constitution", "intelligence", "wisdom", "charisma"]

def abilityShorts : List String := ["str", "dex", "con", "int", "wis", "cha"]

def namedSkills : List (String × String) :=
  [("acrobatics", "dexterity"), ("animalHandling", "wisdom"), ("arcana", "intelligence"),
   ("athletics", "strength"), ("deception", "charisma"), ("history", "intelligence"),
   ("initiative", "dexterity"), ("insight", "wisdom"), ("intimidation", "charisma"),
   ("investigation", "intelligence"), ("medicine", "wisdom"), ("nature", "intelligence"),
   ("perception", "wisdom"), ("performance", "charisma"), ("persuasion", "charisma"),
   ("religion", "intelligence"), ("sleightOfHand", "dexterity"), ("stealth", "dexterity"),
   ("survival", "wisdom")]

def skillAbilities : List (String × String) := namedSkills ++ abilities.map fun a => (a, a)

end AliasTools.Sheet
