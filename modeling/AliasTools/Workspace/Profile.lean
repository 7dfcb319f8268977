import AliasTools.Workspace.Files
import AliasTools.Workspace.Sample

/-!
# Profiles

A profile says who calls an alias: the place, the fight, the character and the variables.
-/

namespace AliasTools.Workspace

open Script Sheet

variable (go : Go)

/-- The stores of variables: of the character, the user, the server, and shared ones. -/
structure Vars where
  cvars : Value
  uvars : Value
  svars : Value
  gvars : Value

def Vars.empty : Eval Vars := do
  return { cvars := ← emptyMap, uvars := ← emptyMap, svars := ← emptyMap, gvars := ← emptyMap }

def mappingOf (v : Value) : Eval Value := do if ← go (.truth v) then makeDictOf go false [v] [] else emptyMap

def Vars.ofData (data : Value) : Eval Vars := do
  let data ← orElse go data emptyMap
  let part (name : String) : Eval Value := do mappingOf go (← send go data "get" [word name])
  return { cvars := ← part "cvars", uvars := ← part "uvars", svars := ← part "svars",
           gvars := ← part "gvars" }

def mergedMap (a b : Value) : Eval Value := do
  let start := (← entries? a).getD #[]
  let later := (← entries? b).getD #[]
  alloc (.dict false (later.foldl (fun es e => es.put e.key e.name e.value) start) none)

def Vars.merge (a b : Vars) : Eval Vars := do
  return { cvars := ← mergedMap a.cvars b.cvars, uvars := ← mergedMap a.uvars b.uvars,
           svars := ← mergedMap a.svars b.svars, gvars := ← mergedMap a.gvars b.gvars }

structure Profile where
  name : String
  ctx : Value
  combat : Value
  character : Value
  vars : Vars
  description : String

def Profile.sample : Eval Profile := do
  let character ← sampleCharacter
  return { name := "default", ctx := ← valueOfJson samplePlace, combat := ← sampleFight character
           character := character, vars := ← Vars.empty
           description := "Built-in Avrae LS mock profile with realistic sample data." }

structure Context where
  ctx : Value
  combat : Value
  character : Value
  vars : Vars

def Context.empty : Eval Context := do
  return { ctx := ← emptyMap, combat := ← emptyMap, character := ← emptyMap, vars := ← Vars.empty }

def addrOf : Value → Addr
  | .ref a => a
  | _ => 0

def Context.enter (c : Context) : Eval Unit :=
  updateSession fun s =>
    { s with
      ctx := c.ctx, combat := c.combat, character := c.character, cvars := addrOf c.vars.cvars,
      uvars := addrOf c.vars.uvars, svars := addrOf c.vars.svars }

def isControlledBy (id member : Value) : Eval Bool := do
  if id.isNone then return false
  .fallback (do
      let controller ← go (.text (← send go member "get" [word "controller"]))
      return controller == (← go (.text id)))
    (pure false)

def memberOfSheet (character id : Value) : Eval Value := do
  let get (name : String) : Eval Value := send go character "get" [word name]
  let orMap (name : String) : Eval Value := do orElse go (← get name) emptyMap
  let name ← send go character "get" [word "name", word "Player"]
  let race ← get "race"
  let stats ← send go character "get" [word "stats", ← emptyMap]
  let init ← send go stats "get" [word "dexterity", .int 10]
  let effects ← emptyList
  let sheetStats ← orMap "stats"
  let levels ← orElse go (← get "levels") (orMap "class_levels")
  let skills ← orMap "skills"
  let saves ← orMap "saves"
  let resistances ← orMap "resistances"
  let book ← orMap "spellbook"
  let attacks ← orElse go (← get "attacks") emptyList
  let hp ← ["max_hp", "hp", "temp_hp", "ac", "creature_type"].mapM fun n => do return (n, ← get n)
  mapOf ([("name", name), ("id", word "cmb_player"), ("controller", id), ("group", .none),
    ("race", race), ("monster_name", .none), ("is_hidden", .bool false), ("init", init),
    ("initmod", .int 0), ("type", word "combatant"), ("note", word "Mock combatant for preview"),
    ("effects", effects), ("stats", sheetStats), ("levels", levels), ("skills", skills),
    ("saves", saves), ("resistances", resistances), ("spellbook", book), ("attacks", attacks)] ++ hp)

def ownMember? (id : Value) : List Value → Eval (Option Value)
  | [] => pure none
  | m :: ms => do if ← isControlledBy go id m then return some m else ownMember? id ms

/-- A fight in which the caller has a part: the member that is named, or one that the caller controls,
    or else the character itself. -/
def withOwnMember (fight character author : Value) : Eval Value := do
  let fight ← mappingOf go fight
  let members := (← collect go (← listEntry go fight "combatants")).toList
  let id ← send go (← orElse go author emptyMap) "get" [word "id"]
  let me ← entry go fight "me"
  let me ← if me.isNone then do pure ((← ownMember? go id members).getD .none) else pure me
  let me ← if me.isNone then do
      if ← go (.truth character) then memberOfSheet go character id else pure .none
    else pure me
  if me.isNone then
    setEntry go fight "combatants" (← listOf members)
    return fight
  setEntry go fight "me" me
  let isThere := members.any (sameValue me)
  let members ← if isThere || (← ownMember? go id members).isSome then pure members else pure (me :: members)
  setEntry go fight "combatants" (← listOf members)
  if (← entry go fight "current").isNone then setEntry go fight "current" me
  return fight

def withSheetVars (character : Value) (vars : Vars) : Eval Vars := do
  let own ← partOf go character "cvars"
  let vars ← if ← go (.truth own) then do
      let none ← Vars.empty
      vars.merge { none with cvars := ← makeDictOf go false [own] [] }
    else pure vars
  let derived ← sheetCvars go character
  if derived.isEmpty then return vars
  let none ← Vars.empty
  vars.merge { none with cvars := ← mapOf derived }

def Profile.build (p : Profile) (beneath : Vars) : Eval Context := do
  let character ← deepCopy p.character
  let combat ← deepCopy p.combat
  let ctx ← deepCopy p.ctx
  let fight ← withOwnMember go combat character (← send go ctx "get" [word "author"])
  let vars ← withSheetVars go character (← beneath.merge p.vars)
  return { ctx := ctx, combat := fight, character := character, vars := vars }

end AliasTools.Workspace
