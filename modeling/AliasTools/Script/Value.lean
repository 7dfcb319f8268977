import AliasTools.Dice.Text
import AliasTools.Sheet.Kind
import AliasTools.Syntax.Tree

/-!
# Values of a script

What a script computes with.  Numbers, texts, tuples and ranges are plain values; everything that can
change, or whose identity a script can see, lives in a cell and is named by its address.

Texts, lists, sets and dictionaries come in two sorts.  The *guarded* ones are those a script makes
and sees: they watch the size limits.  The plain ones come from functions of the library; when a
script gets hold of one it is given a guarded copy.
-/

namespace AliasTools.Script

open Syntax Sheet

/-! ## 1. Functions and classes -/

inductive Builtin where
  | len | min | max | sum | any | all | abs | round | ceil | floor | sqrt | typeof
  | time | roll | vroll | rand | randint | randchoice | randchoices
  | parseCoins | loadJson | dumpJson | loadYaml | dumpYaml
  | print | combat | character | getGvar | getSvar | getUvar | getUvars | setUvar | setUvarNx
  | deleteUvar | uvarExists | argparse | err | exists | get | using | signature | verifySignature
  | argsplit
deriving DecidableEq, Hashable

inductive ClassId where
  | bool | int | float | tuple | range | enumerate
  | str (guarded : Bool) | dict (guarded : Bool) | list (guarded : Bool) | set (guarded : Bool)
  | object (kind : ObjectKind)
  | other (name : String)
deriving DecidableEq, Hashable

def ClassId.name : ClassId → String
  | .bool => "bool" | .int => "int" | .float => "float" | .tuple => "tuple" | .range => "range"
  | .enumerate => "enumerate"
  | .str _ => "str"
  | .dict g => if g then "SafeDict" else "dict"
  | .list g => if g then "SafeList" else "list"
  | .set g => if g then "SafeSet" else "set"
  | .object k => k.name
  | .other n => n

/-! ## 2. Values -/

abbrev Addr := Nat

inductive Value where
  | none
  | ellipsis
  | bool (b : Bool)
  | int (n : Int)
  | float (x : Float)
  | complex (re im : Float)
  | str (text : String) (guarded : Bool)
  | tuple (items : List Value)
  | range (start stop step : Int)
  | slice (lower upper step : Value)
  | ref (addr : Addr)
  | cls (c : ClassId)
  | fn (f : Builtin)
  | method (self : Value) (name : String)
  | date (text : String)
  /-- A node of a parsed script, by its name, or something else that is known by its class only. -/
  | node (name : String)

def loopItemClass : String := "_LoopVarBinding"

/-- What tells two members of a set or two keys of a dictionary apart. -/
inductive Key where
  | none
  | ellipsis
  | int (n : Int)
  | float (bits : UInt64)
  | complex (re im : UInt64)
  | str (s : String)
  | tuple (items : List Key)
  | range (start stop step : Int)
  | ref (addr : Addr)
  | cls (c : ClassId)
  | fn (f : Builtin)
  | method (self : Key) (name : String)
  | date (text : String)
  | node (name : String)
  | frozen (items : List Key)
deriving Hashable

mutual

def Key.same : Key → Key → Bool
  | .none, .none | .ellipsis, .ellipsis => true
  | .int m, .int n => m == n
  | .float x, .float y => x == y
  | .complex a b, .complex x y => a == x && b == y
  | .str s, .str t | .date s, .date t | .node s, .node t => s == t
  | .tuple ks, .tuple ls | .frozen ks, .frozen ls => Key.sameEach ks ls
  | .range a b c, .range x y z => a == x && b == y && c == z
  | .ref a, .ref b => a == b
  | .cls c, .cls d => decide (c = d)
  | .fn f, .fn g => decide (f = g)
  | .method k m, .method l n => Key.same k l && m == n
  | _, _ => false

def Key.sameEach : List Key → List Key → Bool
  | [], [] => true
  | k :: ks, l :: ls => Key.same k l && Key.sameEach ks ls
  | _, _ => false

end

instance : BEq Key := ⟨Key.same⟩

mutual

theorem Key.same_self (k : Key) : k.same k = true := by
  cases k with
  | tuple ks | frozen ks => simp [Key.same, Key.sameEach_self ks]
  | method k m => simp [Key.same, Key.same_self k]
  | _ => simp [Key.same]

theorem Key.sameEach_self (ks : List Key) : Key.sameEach ks ks = true := by
  cases ks with
  | nil => rfl
  | cons k ks => simp [Key.sameEach, Key.same_self k, Key.sameEach_self ks]

end

mutual

theorem Key.eq_of_same (k l : Key) (same : k.same l = true) : k = l := by
  -- the cases are the lines of `Key.same`, with its alternatives apart
  cases k, l using Key.same.fun_cases with
  | case1 | case2 => rfl
  | case9 ks ls | case10 ks ls => rw [Key.eq_of_sameEach ks ls same]
  | case15 k m l n =>
    rw [Key.same, Bool.and_eq_true] at same
    rw [Key.eq_of_same k l same.1, eq_of_beq same.2]
  | _ => simp_all [Key.same]

theorem Key.eq_of_sameEach (ks ls : List Key) (same : Key.sameEach ks ls = true) : ks = ls := by
  cases ks, ls using Key.sameEach.fun_cases with
  | case1 => rfl
  | case2 k ks l ls =>
    rw [Key.sameEach, Bool.and_eq_true] at same
    rw [Key.eq_of_same k l same.1, Key.eq_of_sameEach ks ls same.2]
  | case3 => simp_all [Key.sameEach]

end

instance : LawfulBEq Key where
  rfl := Key.same_self _
  eq_of_beq := Key.eq_of_same _ _

/-! ## 3. Tables -/

abbrev Names := List (String × Value)

namespace Names

def get? (t : Names) (name : String) : Option Value := t.lookup name

def put (t : Names) (name : String) (v : Value) : Names :=
  match t with
  | [] => [(name, v)]
  | (n, w) :: rest => if n == name then (n, v) :: rest else (n, w) :: put rest name v

def has (t : Names) (name : String) : Bool := (t.lookup name).isSome

def drop (t : Names) (name : String) : Names := t.filter fun p => p.1 != name

def putAll (t : Names) : Names → Names
  | [] => t
  | (n, v) :: rest => putAll (t.put n v) rest

end Names

structure Entry where
  key : Key
  name : Value
  value : Value

abbrev Entries := Array Entry

namespace Entries

variable (d : Entries) (k : Key)

def find : Option Nat := d.findIdx? fun e => e.key == k

def get? : Option Value := (d.find? fun e => e.key == k).map (·.value)

def put (name value : Value) : Entries :=
  match find d k with
  | some i => d.modify i fun e => { e with value := value }
  | none => d.push ⟨k, name, value⟩

def erase : Entries := d.filter fun e => e.key != k

end Entries

structure Member where
  key : Key
  value : Value

abbrev Members := Array Member

namespace Members

def has (s : Members) (k : Key) : Bool := s.any fun m => m.key == k

def put (s : Members) (k : Key) (v : Value) : Members := if has s k then s else s.push ⟨k, v⟩

def erase (s : Members) (k : Key) : Members := s.filter fun m => m.key != k

end Members

/-! ## 4. Cells -/

inductive ViewKind where
  | keys | values | items

inductive Cursor where
  | items (rest : List Value)
  | list (addr : Addr) (next : Nat)
  | range (next : Int) (left : Nat) (step : Int)
  | view (kind : ViewKind) (dict : Addr) (next : Nat) (size : Nat)
  | members (set : Addr) (rest : List Value) (size : Nat)
  | cell (addr : Addr)
  | numbered (object : Value) (next : Nat)
  | done

/-- A running `for` clause of a generator: which clause, where it is, and the size emitted so far. -/
structure ClauseRun where
  index : Nat
  cursor : Cursor
  total : Int

inductive Emit where
  | item (e : Expr)
  | pair (key value : Expr)

inductive Progress where
  | notStarted
  | running (clauses : List ClauseRun)
  | finished

/-- A generator expression: its text, and while it runs its own names and the layers of names that
    were in force before it began. -/
structure Generator where
  span : Span
  emit : Emit
  clauses : List Clause
  progress : Progress
  layer : Nat
  previous : List Nat
  active : Bool

structure Closure where
  name : String
  isLambda : Bool
  params : Params
  body : List Stmt ⊕ Expr
  scope : Nat
  source : String

/-- An argument, which may be good for so many uses only. -/
structure Argument where
  name : Value
  value : Value
  pos : Int
  uses : Option Nat := none
  used : Nat := 0
  within : ∀ n ∈ uses, used ≤ n := by exact fun _ _ => Nat.zero_le _

structure ArgumentGroup where
  key : Key
  name : Value
  items : List Argument

/-- The arguments of a command line by name, with further ones that apply in a context. -/
structure ArgumentTable where
  groups : List ArgumentGroup := []
  current : Value := .none
  contexts : List (Key × Value × Addr) := []

structure RollRecord where
  rolled : Dice.Rolled
  dice : String
  total : Int
  full : String

inductive Cell where
  | list (guarded : Bool) (items : Array Value) (size : Option Int)
  | dict (guarded : Bool) (entries : Entries) (size : Option Int)
  | set (guarded : Bool) (members : Members) (size : Option Int)
  | closure (c : Closure)
  | generator (g : Generator)
  | counter (cursor : Cursor) (count : Int)
  | view (kind : ViewKind) (dict : Addr)
  | namespace (names : Names)
  | object (kind : ObjectKind) (fields : Names)
  | roll (r : RollRecord)
  | rollPart (of : Addr) (name : String)
  | arguments (table : ArgumentTable) (size : Option Int)

/-! ## 5. The order of a set -/

def tableSize (least : Nat) (size : Nat) : Nat → Nat
  | 0 => size
  | k + 1 => if size ≤ least then tableSize least (2 * size) k else size

def grownSize (count : Nat) : Nat :=
  (List.range count).foldl (fun size i =>
    let fill := i + 1
    if fill * 5 ≥ (size - 1) * 3 then tableSize (fill * 4) 8 64 else size) 8

def slotNumber (n : Int) (size : Nat) : Nat :=
  let m : Int := if n == -1 then -2 else n
  (m % (size : Int)).toNat

def freeAmong (table : Array (Option Value)) (i : Nat) : Nat → Option Nat
  | 0 => if (table.getD i none).isNone then some i else none
  | k + 1 => if (table.getD i none).isNone then some i else freeAmong table (i + 1) k

def freeSlot (table : Array (Option Value)) (i perturb : Nat) : Nat → Nat
  | 0 => i
  | k + 1 =>
    let near := if i + 9 ≤ table.size - 1 then 9 else 0
    match freeAmong table i near with
    | some j => j
    | none =>
      let p := perturb / 32
      freeSlot table ((i * 5 + 1 + p) % table.size) p k

def placeAll (size : Nat) (ms : List (Int × Value)) : Array (Option Value) :=
  ms.foldl (fun table (n, v) =>
    let h := ((if n == -1 then -2 else n) % (Number.twoTo 64 : Int)).toNat
    table.setIfInBounds (freeSlot table (slotNumber n size) h (4 * size)) (some v))
    (Array.replicate size none)

def wholeMember? (m : Member) : Option (Int × Value) :=
  match m.key with
  | .int n => some (n, m.value)
  | _ => none

def Members.inOrder (s : Members) : List Value :=
  let whole := s.toList.filterMap wholeMember?
  if whole.length == s.size && s.size < 2000 then (placeAll (grownSize s.size) whole).toList.filterMap id
  else s.toList.map (·.value)

end AliasTools.Script
