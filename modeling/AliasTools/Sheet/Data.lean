import AliasTools.Script.Builtin
import AliasTools.Sheet.Schema

/-!
# The data behind objects

An object is a view of a mapping.
-/

namespace AliasTools.Sheet

open Script Number

variable (go : Go) (data : Value) (name : String) (v : Value) (kind : ObjectKind)

def word (s : String) : Value := .str s false

def send (v : Value) (name : String) (args : List Value) : Eval Value := do
  match ← go (.attr v name) with
  | some m => go (.call m args [])
  | none => fail .attributeError s!"'{← typeName v}' object has no attribute '{name}'"

/-- The entry of a mapping, or a default. -/
def entryOr (default : Value) : Eval Value := do
  match ← entries? data with
  | some es => return (es.get? (.str name)).getD default
  | none => send go data "get" [word name, default]

def entry : Eval Value := entryOr go data name .none

def setEntry : Eval Unit := go (.setItem data (word name) v)

def entryOrPut (default : Value) : Eval Value := send go data "setdefault" [word name, default]

def emptyMap : Eval Value := alloc (.dict false #[] none)

def emptyList : Eval Value := alloc (.list false #[] none)

def listOf (vs : List Value) : Eval Value := alloc (.list false vs.toArray none)

def mapOf (ns : Names) : Eval Value :=
  alloc (.dict false (ns.map fun (n, v) => (⟨.str n, word n, v⟩ : Entry)).toArray none)

/-- A value that does not hold gives way. -/
def orElse (other : Eval Value) : Eval Value := do if ← go (.truth v) then return v else other

def mapEntry : Eval Value := do orElse go (← entry go data name) emptyMap

def listEntry : Eval Value := do orElse go (← entry go data name) emptyList

def asInt : Eval Int := do
  match ← makeInt go [v] [] with
  | .int n => return n
  | _ => return 0

/-- What is no number gives way. -/
def intOr (default : Int) : Eval Int := .fallback (asInt go v) (pure default)

def textValue : Eval Value := do return word (← go (.text v))

def textIfAny : Eval Value := if v.isNone then pure .none else textValue go v

def intIfAny : Eval Value := do if v.isNone then return .none else return .int (← asInt go v)

def textProperty (name default : String) : Eval Value := do textValue go (← entryOr go data name (word default))

def textOrNone : Eval Value := do textIfAny go (← entry go data name)

def intOrNone : Eval Value := do intIfAny go (← entry go data name)

/-- A number in a mapping, or a default. -/
def intProperty (default : Int) : Eval Int := do intOr go (← entry go data name) default

def flagProperty (default : Bool) : Eval Value := do
  return .bool (← go (.truth (← entryOr go data name (.bool default))))

/-- Half of what a score is above ten, rounded down. -/
def abilityBonus? (score : Int) : Option Int :=
  let d := score - 10
  floor? (ofRatio (d < 0) d.natAbs 2)

def fromQuotient (n : Option Int) : Eval Int :=
  match n with
  | some n => pure n
  | none => fail .overflow "integer division result too large for a float"

def abilityBonus (score : Int) : Eval Int := fromQuotient (abilityBonus? score)

def makeObject (fields : Names) : Eval Value := alloc (.object kind fields)

/-- An object over its data. -/
def makeOf (data : Value) : Eval Value := do
  match kind with
  | .combatant => discard <| entryOrPut go data "type" (word "combatant")
  | .group => discard <| entryOrPut go data "type" (word "group")
  | _ => pure ()
  let further ← match kind with
    | .baseStats => pure [("prof_bonus_override", Value.none)]
    | .spellbook => do pure [("_spells_cache", ← emptyList)]
    | _ => pure []
  makeObject kind (("_data", data) :: further)

def makeEach (items : Value) : Eval Value := do
  let vs ← collect go items
  listOf (← vs.toList.mapM (makeOf go kind))

def eachEntry : Eval Value := do makeEach go kind (← entryOr go data name (← emptyList))

def makeIfAny (v : Value) : Eval Value := if v.isNone then pure .none else makeOf go kind v

end AliasTools.Sheet
