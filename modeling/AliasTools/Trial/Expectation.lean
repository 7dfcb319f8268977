import AliasTools.Pattern.Read
import AliasTools.Script.Engine

/-!
# What a trial expects

What a trial expects and what it gets are compared as trees: texts, lists and mappings, and values that
are compared as a whole.  An expected text is a literal, or a pattern between slashes, or both in turn.
-/

namespace AliasTools.Trial

open Script

/-! ## 1. Trees -/

/-- A key of a mapping: what tells it from others, the value it is, and how that shows itself. -/
structure Label where
  key : Key
  name : Value
  shown : String

inductive Datum where
  | text (s : String) (guarded : Bool)
  /-- A value that is compared as a whole: what it is equal to, its text, and how it shows itself. -/
  | whole (value : Value) (key : Option Key) (written shown : String)
  | list (source : Option Value) (guarded : Bool) (items : List Datum)
  | map (source : Option Value) (entries : List (Label × Datum))

namespace Datum

def nothing : Datum := .whole .none (some .none) "None" "None"

def isNothing : Datum → Bool
  | .whole .none _ _ _ => true
  | _ => false

def isMap : Datum → Bool
  | .map _ _ => true
  | _ => false

mutual

def shown : Datum → String
  | .text s _ => Text.quote s
  | .whole _ _ _ t => t
  | .list _ _ items => "[" ++ String.intercalate ", " (shownItems items) ++ "]"
  | .map _ entries => "\x7b" ++ String.intercalate ", " (shownEntries entries) ++ "\x7d"

def shownItems : List Datum → List String
  | [] => []
  | d :: ds => shown d :: shownItems ds

def shownEntries : List (Label × Datum) → List String
  | [] => []
  | (l, d) :: rest => s!"{l.shown}: {shown d}" :: shownEntries rest

end

def written : Datum → String
  | .text s _ => s
  | .whole _ _ t _ => t
  | d => d.shown

def find? (k : Key) : List (Label × Datum) → Option Datum
  | [] => none
  | (l, d) :: rest => if l.key == k then some d else find? k rest

mutual

def same : Datum → Datum → Bool
  | .text s _, .text t _ => s == t
  | .whole _ (some k) _ _, .whole _ (some l) _ _ => k == l
  | .list _ _ as, .list _ _ bs => sameItems as bs
  | .map _ as, .map _ bs => as.length == bs.length && sameEntries as bs
  | _, _ => false

def sameItems : List Datum → List Datum → Bool
  | [], [] => true
  | a :: as, b :: bs => same a b && sameItems as bs
  | _, _ => false

def sameEntries : List (Label × Datum) → List (Label × Datum) → Bool
  | [], _ => true
  | (l, a) :: rest, bs =>
    (match find? l.key bs with
      | some b => same a b
      | none => false) && sameEntries rest bs

end

end Datum

def wholeKey (v : Value) : Eval (Option Key) := do
  match v with
  | .float x => if x.isNaN then return none else hashKey? v
  | _ => hashKey? v

def Datum.ofValue (v : Value) (inside : List Addr) : Nat → Eval Datum
  | 0 => raise .outOfFuel
  | fuel + 1 => do
    let whole : Eval Datum := do return .whole v (← wholeKey v) (← perform (.text v)) (← perform (.shown [] v))
    match v with
    | .str s g => return .text s g
    | .ref a =>
      match ← cellAt a with
      | some (.list g items _) =>
        if inside.contains a then return .whole v none "[...]" "[...]"
        return .list (some v) g (← items.toList.mapM fun x => Datum.ofValue x (a :: inside) fuel)
      | some (.dict _ entries _) =>
        if inside.contains a then return .whole v none "\x7b...\x7d" "\x7b...\x7d"
        return .map (some v) (← entries.toList.mapM fun e => do
          let label : Label := ⟨e.key, e.name, ← perform (.shown [] e.name)⟩
          return (label, ← Datum.ofValue e.value (a :: inside) fuel))
      | _ => whole
    | _ => whole

def datumOf (v : Value) : Eval Datum := do Datum.ofValue v [] ((← read).heap.size + 2)

mutual

def Datum.toValue : Datum → Eval Value
  | .text s g => pure (.str s g)
  | .whole v _ _ _ => pure v
  | .list (some v) _ _ => pure v
  | .list none g items => do alloc (.list g (← valuesOfItems items).toArray none)
  | .map (some v) _ => pure v
  | .map none entries => do
    let es ← entriesOfItems entries
    alloc (.dict false es.toArray none)

def valuesOfItems : List Datum → Eval (List Value)
  | [] => pure []
  | d :: ds => do
    let v ← d.toValue
    return v :: (← valuesOfItems ds)

def entriesOfItems : List (Label × Datum) → Eval (List Entry)
  | [] => pure []
  | (l, d) :: rest => do
    let v ← d.toValue
    return ⟨l.key, l.name, v⟩ :: (← entriesOfItems rest)

end

open Text

/-! ## 2. Expectations -/

def closeSlash? (before : Char) (acc : List Char) : List Char → Option (List Char × List Char)
  | [] => none
  | c :: cs =>
    if c == '/' && before != '\\' then some (acc.reverse, cs)
    else if c == '\n' then none
    else closeSlash? c (c :: acc) cs

theorem length_of_closeSlash? (h : closeSlash? before acc cs = some (inside, rest)) : rest.length < cs.length := by
  induction cs generalizing before acc with
  | nil => simp [closeSlash?] at h
  | cons c cs ih =>
    simp only [closeSlash?] at h
    split at h
    · simp only [Option.some.injEq, Prod.mk.injEq] at h
      simp [← h.2]
    · split at h
      · simp at h
      · have := ih h
        simp only [List.length_cons]
        omega

def slashed (before : Char) (acc : List Char) (cs : List Char) : List (List Char) :=
  match cs with
  | [] => [acc.reverse]
  | c :: cs =>
    if c == '/' && before != '\\' then
      match _h : closeSlash? '/' [] cs with
      | some (inside, rest) => acc.reverse :: inside :: slashed '/' [] rest
      | none => slashed c (c :: acc) cs
    else slashed c (c :: acc) cs
termination_by cs.length
decreasing_by
  all_goals simp only [List.length_cons]
  · have := length_of_closeSlash? _h
    omega
  · omega
  · omega

def freeSlashes (cs : List Char) : List Char := replacePiece ['\\', '/'] ['/'] none cs

def isSpecial (c : Char) : Bool := "()[]\x7b\x7d?*+-|^$\\.&~# \t\n\r\x0b\x0c".toList.contains c

def literalPattern (cs : List Char) : List Char := cs.flatMap fun c => if isSpecial c then ['\\', c] else [c]

def weavePattern (literal : Bool) : List (List Char) → List Char
  | [] => []
  | p :: ps =>
    let p := freeSlashes p
    (if literal then literalPattern p else p) ++ weavePattern (!literal) ps

def patternText? (text : String) : Option String :=
  if text.startsWith "re:" then some (String.ofList (text.toList.drop 3))
  else
    match slashed 'a' [] text.toList with
    | [_] => none
    | [[], p, []] => some (String.ofList (freeSlashes p))
    | parts => some (String.ofList ('^' :: weavePattern true parts ++ ['$']))

def expectedPattern? (text : String) : Option (String × Pattern) := do
  let t ← patternText? text
  let p ← Pattern.ofText? t
  return (t, p)

def textFits (expected actual : String) : Bool :=
  if expected.isEmpty then true
  else
    match expectedPattern? expected with
    | some (_, p) => p.foundIn actual
    | none => trim expected == trim actual

def wholeFits (expected actual : Datum) : Bool :=
  match expected with
  | .text s _ => textFits s (if actual.isNothing then "" else actual.written)
  | e => e.same actual

mutual

def fits (expected actual : Datum) : Bool :=
  match expected with
  | .map _ es =>
    match actual with
    | .map _ as => fitsEntries es as
    | _ => false
  | .list _ false es =>
    match actual with
    | .list _ false as => fitsItems es as
    | _ => false
  | e => wholeFits e actual

def fitsEntries (expected actual : List (Label × Datum)) : Bool :=
  match expected with
  | [] => true
  | (l, e) :: rest =>
    (match Datum.find? l.key actual with
      | some a => fits e a
      | none => false) && fitsEntries rest actual

def fitsItems (expected actual : List Datum) : Bool :=
  match expected, actual with
  | [], _ => true
  | e :: es, a :: as => fits e a && fitsItems es as
  | _ :: _, [] => false

end

def missing : Datum := .text "<missing>" false

mutual

def mismatch? (expected actual : Datum) : Option (Datum × Datum) :=
  if fits expected actual then none
  else
    match expected with
    | .map s es =>
      match actual with
      | .map _ as =>
        match mismatchedEntries es as with
        | [] => some (.map s es, actual)
        | ds => some (.map none (ds.map fun (l, e, _) => (l, e)), .map none (ds.map fun (l, _, a) => (l, a)))
      | _ => some (expected, actual)
    | .list s false es =>
      match actual with
      | .list _ false as =>
        match mismatchedItems es as with
        | [] => some (.list s false es, actual)
        | ds => some (.list none false (ds.map (·.1)), .list none false (ds.map (·.2)))
      | _ => some (expected, actual)
    | e => some (e, actual)

def mismatchedEntries (expected actual : List (Label × Datum)) : List (Label × Datum × Datum) :=
  match expected with
  | [] => []
  | (l, e) :: rest =>
    match Datum.find? l.key actual with
    | none => (l, e, missing) :: mismatchedEntries rest actual
    | some a =>
      match mismatch? e a with
      | some d => (l, d) :: mismatchedEntries rest actual
      | none => mismatchedEntries rest actual

def mismatchedItems (expected actual : List Datum) : List (Datum × Datum) :=
  match expected, actual with
  | [], _ => []
  | e :: es, [] => (e, missing) :: mismatchedItems es []
  | e :: es, a :: as =>
    match mismatch? e a with
    | some d => d :: mismatchedItems es as
    | none => mismatchedItems es as

end

end AliasTools.Trial
