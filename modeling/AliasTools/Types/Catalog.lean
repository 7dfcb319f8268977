import AliasTools.Number
import AliasTools.Sheet.Schema

/-!
# Types an editor knows

The types that names can have, with what an editor says about their attributes and methods.
-/

namespace AliasTools.Types

open Sheet Text Number

inductive TypeForm where
  | object (kind : ObjectKind)
  | rollResult | list | int | float | dict | str | arguments
deriving DecidableEq

structure TypeEntry where
  key : String
  form : TypeForm
  after : List String := []

def typeEntries : List TypeEntry :=
  let fights := ["combat", "SimpleCombat"]
  let groups := fights ++ ["group", "SimpleGroup"]
  let fighters := ["combatant", "SimpleCombatant"]
  [⟨"character", .object .character, []⟩, ⟨"combat", .object .combat, []⟩, ⟨"SimpleCombat", .object .combat, []⟩,
   ⟨"ctx", .object .aliasContext, []⟩, ⟨"SimpleRollResult", .rollResult, []⟩,
   ⟨"stats", .object .baseStats, []⟩, ⟨"levels", .object .levels, ["character"]⟩,
   ⟨"attacks", .object .attackList, ["character"]⟩,
   ⟨"attack", .object .attack, ["attacks", "actions"]⟩,
   ⟨"skills", .object .skills, ["character"]⟩, ⟨"AliasSkills", .object .skills, ["character"]⟩,
   ⟨"skill", .object .skill, ["skills"]⟩, ⟨"AliasSkill", .object .skill, ["skills"]⟩,
   ⟨"saves", .object .saves, ["character"]⟩,
   ⟨"resistances", .object .resistances, ["character"]⟩,
   ⟨"coinpurse", .object .coinpurse, ["character"]⟩,
   ⟨"custom_counter", .object .customCounter, ["character"]⟩,
   ⟨"consumable", .object .customCounter, ["character"]⟩,
   ⟨"death_saves", .object .deathSaves, ["character"]⟩,
   ⟨"action", .object .action, ["actions", "character"]⟩,
   ⟨"spellbook", .object .spellbook, ["character"]⟩, ⟨"spell", .object .spell, ["spellbook"]⟩,
   ⟨"guild", .object .guild, ["ctx"]⟩, ⟨"channel", .object .channel, ["ctx"]⟩,
   ⟨"category", .object .category, ["channel"]⟩, ⟨"author", .object .author, ["ctx"]⟩,
   ⟨"role", .object .role, ["author"]⟩,
   ⟨"combatant", .object .combatant, groups⟩, ⟨"SimpleCombatant", .object .combatant, groups⟩,
   ⟨"group", .object .group, fights⟩, ⟨"SimpleGroup", .object .group, fights⟩,
   ⟨"effect", .object .effect, fighters⟩, ⟨"SimpleEffect", .object .effect, fighters⟩,
   ⟨"list", .list, []⟩, ⟨"int", .int, []⟩, ⟨"float", .float, []⟩, ⟨"dict", .dict, []⟩,
   ⟨"str", .str, []⟩, ⟨"ParsedArguments", .arguments, []⟩]

variable (key : String)

def entryFor? : Option TypeEntry := typeEntries.find? fun e => e.key == key

def typeForm? : Option TypeForm := (entryFor? key).map (·.form)

def knownKey? (after : Option String) : Option String := do
  let e ← entryFor? key
  if e.after.isEmpty then return key
  if e.after.any fun a => after == some a then return key
  none

def keyOfForm? (form : TypeForm) : Option String := (typeEntries.reverse.find? fun e => e.form == form).map (·.key)

def TypeForm.className : TypeForm → String
  | .object k => k.name
  | .rollResult => "SimpleRollResult" | .list => "_BuiltinList" | .int => "int"
  | .float => "float" | .dict => "_BuiltinDict" | .str => "_BuiltinStr"
  | .arguments => "ParsedArguments"

def typeLabel : String :=
  match typeForm? key with
  | none | some .list | some .dict | some .str => key
  | some f => f.className

def harmlessMethods : ObjectKind → List String
  | .character | .playedCharacter => ["get_cvar", "get_cc"]
  | .combat => ["get_combatant", "get_group", "get_metadata"]
  | .levels | .saves => ["get"]
  | .resistances => ["is_resistant", "is_immune", "is_vulnerable", "is_neutral"]
  | .coinpurse => ["get_coins"]
  | .deathSaves => ["is_stable", "is_dead"]
  | .spellbook => ["find", "get_slots", "get_max_slots", "remaining_casts_of", "can_cast"]
  | .combatant => ["get_effect"]
  | .group => ["get_combatant"]
  | _ => []

/-- What is said about an attribute: words, the key of its type, and the key of its items' type. -/
structure AttrNote where
  doc : String := ""
  type : String := ""
  element : String := ""

structure CallNote where
  signature : String := ""
  doc : String := ""

structure TypeNote where
  attrs : List (String × AttrNote) := []
  methods : List (String × CallNote) := []
  element : String := ""

def presetText : Preset → String
  | .none => "None"
  | .unset => "<object object at 0x>"
  | .bool b => if b then "True" else "False"
  | .int n => String.ofList (intText n)

def paramText (p : ParamNote) : String :=
  let typed := if p.type.isEmpty then p.name else s!"{p.name}: {quote p.type}"
  match p.preset with
  | none => typed
  | some v => typed ++ (if p.type.isEmpty then "=" else " = ") ++ presetText v

def signatureText (m : MethodNote) : String :=
  m.name ++ "(" ++ String.intercalate ", " (m.params.map paramText) ++ ")" ++
    (if m.result.isEmpty then "" else " -> " ++ quote m.result)

def elementOf : TypeForm → String
  | .object .attackList => "attack"
  | .object .skills => "AliasSkill"
  | _ => ""

def iterElement : String :=
  match typeForm? key with
  | some (.object .attackList) => "attack"
  | _ => ""

def hintKeys (h : Hint) : String × String :=
  let keyOf (k : ObjectKind) : String := (keyOfForm? (.object k)).getD ""
  match h with
  | .other => ("", "")
  | .int => ("int", "")
  | .float => ("float", "")
  | .object k => (keyOf k, "")
  | .list none => ("list", "")
  | .list (some k) => ("list", keyOf k)

def propertyNote (element : String) (p : PropertyNote) : String × AttrNote :=
  let (type, item) := hintKeys p.hint
  let type := if type.isEmpty then element else type
  let item := if item.isEmpty then iterElement type else item
  (p.name, ⟨p.doc, type, item⟩)

def written (ms : List (String × String)) : List (String × CallNote) := ms.map fun (n, s) => (n, ⟨n ++ s, ""⟩)

def listNotes : List (String × CallNote) :=
  written [("append", "(value: 'Any') -> 'None'"), ("extend", "(iterable: 'Iterable[Any]') -> 'None'"),
    ("insert", "(index: 'int', value: 'Any') -> 'None'"), ("remove", "(value: 'Any') -> 'None'"),
    ("pop", "(index: 'int' = -1) -> 'Any'"), ("clear", "() -> 'None'"),
    ("index", "(value: 'Any', start: 'int' = 0, stop: 'int | None' = None) -> 'int'"),
    ("count", "(value: 'Any') -> 'int'"),
    ("sort", "(*, key=None, reverse: 'bool' = False) -> 'None'"), ("reverse", "() -> 'None'"),
    ("copy", "() -> 'list[Any]'")]

def dictNotes : List (String × CallNote) :=
  written [("get", "(key: 'Any', default: 'Any' = None) -> 'Any'"), ("keys", "() -> 'Any'"),
    ("values", "() -> 'Any'"), ("items", "() -> 'Any'"),
    ("pop", "(key: 'Any', default: 'Any' = None) -> 'Any'"),
    ("popitem", "() -> 'tuple[Any, Any]'"), ("update", "(*args, **kwargs) -> 'None'"),
    ("setdefault", "(key: 'Any', default: 'Any' = None) -> 'Any'"), ("clear", "() -> 'None'"),
    ("copy", "() -> 'dict[Any, Any]'")]

def strNotes : List (String × CallNote) :=
  written [("lower", "() -> 'str'"), ("upper", "() -> 'str'"), ("title", "() -> 'str'"),
    ("split", "(sep: 'str | None' = None, maxsplit: 'int' = -1) -> 'list[str]'"),
    ("join", "(iterable: 'Iterable[str]') -> 'str'"),
    ("replace", "(old: 'str', new: 'str', count: 'int' = -1) -> 'str'"),
    ("strip", "(chars: 'str | None' = None) -> 'str'"),
    ("startswith", "(prefix, start: 'int' = 0, end: 'int | None' = None) -> 'bool'"),
    ("endswith", "(suffix, start: 'int' = 0, end: 'int | None' = None) -> 'bool'"),
    ("format", "(*args, **kwargs) -> 'str'")]

def argumentNotes : List (String × CallNote) :=
  let typed := "(arg, default=None, type_: Callable[[Any], Any] = <class 'str'>, ephem: bool = False)"
  [("get", ⟨"get" ++ typed, "returns all values for the arg cast to the given type."⟩),
   ("last", ⟨"last" ++ typed, "returns the most recent value cast to the given type."⟩),
   ("adv", ⟨"adv(eadv: bool = False, boolwise: bool = False, ephem: bool = False, " ++
      "custom: dict[str, str] | None = None)",
     "returns -1/0/1/2 indicator for dis/normal/adv/elven accuracy."⟩),
   ("join", ⟨"join(arg, connector: str, default=None, ephem=False)",
     "joins all argument values with a separator into a string."⟩),
   ("ignore", ⟨"ignore(arg)", "removes argument values so later reads skip them."⟩),
   ("update", ⟨"update(new)", "replaces values for an argument."⟩),
   ("update_nx", ⟨"update_nx(new)", "sets values only if the argument is missing."⟩),
   ("set_context", ⟨"set_context(context)", "associates a context bucket for nested parsing."⟩),
   ("add_context", ⟨"add_context(context, args)", "appends a context bucket for nested parsing."⟩)]

def rollNotes : List (String × AttrNote) :=
  [("dice", ⟨"Markdown representation of the dice that were rolled.", "", ""⟩),
   ("total", ⟨"Numeric total of the resolved roll.", "", ""⟩),
   ("full", ⟨"Rendered roll result string.", "", ""⟩),
   ("result", ⟨"Underlying d20 RollResult object.", "", ""⟩),
   ("raw", ⟨"Original d20 expression for the roll.", "", ""⟩)]

def TypeForm.note (form : TypeForm) : TypeNote :=
  match form with
  | .object k =>
    { attrs := k.properties.map (propertyNote (elementOf form))
      methods := k.methods.map fun m => (m.name, ⟨signatureText m, m.doc⟩)
      element := elementOf form }
  | .rollResult => { attrs := rollNotes, methods := [("consolidated", ⟨"consolidated() -> 'str'", ""⟩)] }
  | .list => { methods := listNotes }
  | .dict => { methods := dictNotes }
  | .str => { methods := strNotes }
  | .arguments => { methods := argumentNotes }
  | .int | .float => {}

def typeNote : TypeNote := ((typeForm? key).map (·.note)).getD {}

end AliasTools.Types
