import AliasTools.Editor.FunctionHelp
import AliasTools.Script.Alias
import AliasTools.Types.Infer

/-!
# Completion

What can be written at the cursor: behind a point the attributes and methods of the object before it,
elsewhere the parameters and names of the function around it, and whatever the context offers.  Code is
read although the line of the cursor is not finished.
-/

namespace AliasTools.Editor

open Syntax Text Types

/-! ## 1. What stands at the cursor -/

def isNameStart (c : Char) : Bool := isAsciiLetter c || c == '_'

def nameAtEnd (s : List Char) : List Char :=
  let run := (s.reverse.takeWhile isWordPart).reverse
  run.dropWhile (!isNameStart ·)

def isName (s : List Char) : Bool :=
  match s with
  | c :: rest => isNameStart c && rest.all isWordPart
  | [] => false

def nameAfterBlanks (s : List Char) : List Char :=
  match takeName? (s.dropWhile isBlank) with
  | some (n, _) => n.toList
  | none => []

structure OpenBrackets where
  round : Nat := 0
  square : Nat := 0
  curly : Nat := 0

def OpenBrackets.any (b : OpenBrackets) : Bool := b.round > 0 || b.square > 0 || b.curly > 0

def isReceiverPart (c : Char) : Bool := isAlnum c || c == '_' || c == '.' || c == '\'' || c == '"'

/-- How many characters belong to what stands before a point, in a text that is read from the right. -/
def receiverLength (b : OpenBrackets) : List Char → Nat
  | [] => 0
  | c :: rest =>
    if c == ')' then receiverLength { b with round := b.round + 1 } rest + 1
    else if c == ']' then receiverLength { b with square := b.square + 1 } rest + 1
    else if c == '\x7d' then receiverLength { b with curly := b.curly + 1 } rest + 1
    else if c == '(' then
      if b.round > 0 then receiverLength { b with round := b.round - 1 } rest + 1 else 0
    else if c == '[' then
      if b.square > 0 then receiverLength { b with square := b.square - 1 } rest + 1 else 0
    else if c == '\x7b' then
      if b.curly > 0 then receiverLength { b with curly := b.curly - 1 } rest + 1 else 0
    else if b.any || isReceiverPart c then receiverLength b rest + 1
    else 0

def receiverAt? (code : String) (line character : Nat) (whole : Bool) : Option (String × String) := do
  let text ← (lineTexts code)[line]?
  let cs := text.toList
  let left := cs.take character
  let left := if whole then left ++ (cs.drop character).takeWhile isWordPart else left
  let (front, tail) ← splitAtLast? '.' left
  let back := front.reverse.dropWhile isBlank
  let receiver := stripBlank (back.take (receiverLength {} back)).reverse
  if receiver.isEmpty then none
  else some (String.ofList receiver, String.ofList (nameAfterBlanks tail))

def withoutPoint (left : List Char) : List Char :=
  let trimmed := (left.reverse.dropWhile isBlank).reverse
  match trimmed.getLast? with
  | some '.' => trimmed.dropLast
  | _ =>
    match splitAtLast? '.' left with
    | some (front, after) =>
      match after.dropWhile isBlank with
      | c :: _ => if isNameStart c then left else front ++ after
      | [] => front ++ after
    | none => left

def isReadable (text : String) : Bool := (parseScript text false).toOption.isSome

def joinLines (ls : List (List Char)) : String := String.intercalate "\n" (ls.map String.ofList)

def endsWithPoint (l : List Char) : Bool := (l.reverse.dropWhile isBlank).head? == some '.'

def finishedCode (code : String) (line character : Nat) : String :=
  let ls := lines code.toList
  match ls[line]? with
  | none => joinLines ls
  | some l =>
    let own := withoutPoint (l.take character)
    let ls := ls.set line own
    if isReadable (joinLines ls) then joinLines ls
    else
      let plain := ls.mapIdx fun i l => if i != line && endsWithPoint l then "pass".toList else l
      if plain != ls && isReadable (joinLines plain) then joinLines plain
      else
        let indent := own.takeWhile fun c => c == ' ' || c == '\t'
        joinLines (plain.set line (indent ++ "pass".toList))

open Script

/-! ## 2. Completion -/

inductive ItemKind where
  | method | function | field | variable

structure Item where
  label : String
  kind : ItemKind
  detail : String := ""
  doc : String := ""

def plainFunctions : List String := ["min", "max", "range", "int", "str", "time"]

def contextItems : Eval (List Item) := do
  let s := (← read).session
  let named (detail : String) (name : String) : Item := ⟨name, .variable, detail, ""⟩
  let functions := describedFunctions.map fun f => (⟨f.name, .function, f.label, f.doc⟩ : Item)
  let initial := (← initialNames).map fun n => named "var" n.1
  let svars := (← storeNames s.svars).map fun n => named "svar" n.1
  let gvars := (← storedGvars).map fun n => named "gvar" n.1
  let plain := plainFunctions.map fun n => (⟨n, .function, "", ""⟩ : Item)
  return functions ++ initial ++ svars ++ gvars ++ plain ++
    [⟨"character", .function, "Alias character()", ""⟩, ⟨"combat", .function, "Alias combat()", ""⟩,
     ⟨"ctx", .variable, "Alias context", ""⟩]

structure FunctionSite where
  sp : Span
  params : Params
  body : List Stmt

def functionSite? : Node → Option FunctionSite
  | .stmt (.functionDef sp _ ps body _ _ _ _) => some ⟨sp, ps, body⟩
  | _ => none

def functionAt? (body : List Stmt) (line : Nat) : Option FunctionSite :=
  ((walkScript body).filterMap functionSite?).foldl (fun best f =>
    let start := f.sp.line - 1
    if start ≤ line && line ≤ f.sp.endLine - 1 && (best.all fun b => b.sp.line - 1 ≤ start) then some f else best) none

def Params.all : Params → List Param
  | .mk po as va ko _ kw _ => po ++ as ++ va.toList ++ ko ++ kw.toList

/-- The names that a statement of a function binds, those inside it included. -/
def localNames (limit : Nat) (n : Node) : List String :=
  if (n.span?.any fun sp => sp.line > limit) then []
  else
    let own := match n with
      | .stmt (.functionDef _ name _ _ _ _ _ _) | .stmt (.classDef _ name _ _ _ _) => [name]
      | .stmt (.assign _ ts _ _) => ts.flatMap targetNames
      | .stmt (.annAssign _ t _ _ _) | .stmt (.augAssign _ t _ _)
      | .stmt (.forLoop _ t _ _ _ _ _) => targetNames t
      | .stmt (.withBlock _ items _ _ _) => items.flatMap fun i => (i.vars.map targetNames).getD []
      | .handler (.mk _ _ name _) => name.toList
      | _ => []
    match n with
    | .stmt (.functionDef ..) | .stmt (.classDef ..) | .stmt (.assign ..) | .stmt (.annAssign ..)
    | .stmt (.augAssign ..) => own
    | n => own ++ n.children.attach.flatMap fun ⟨c, _⟩ => localNames limit c
termination_by sizeOf n
decreasing_by exact Node.sizeOf_lt_of_mem_children (by assumption)

def FunctionSite.locals (f : FunctionSite) (line : Nat) : List String :=
  let params := (Params.all f.params).map (·.name)
  ((f.body.flatMap fun s => localNames (line + 1) (.stmt s)).filter (!params.contains ·)).eraseDups

def paramHint (ps : List Param) (name : String) : String :=
  (ps.filterMap fun | .mk _ n h _ => if n == name then some (hintLabel h) else none)
    |>.filter (!·.isEmpty) |>.getLast? |>.getD ""

def continues (begun : List Char) (name : String) : Bool := begun.isPrefixOf name.toList

def memberItems (receiver begun code : String) (types : TypeTable) : List Item :=
  let type := resolveType receiver code types
  if isName receiver.toList && (types.lookup receiver).isNone && type == receiver then []
  else
    let note := typeNote type
    let fits (name : String) : Bool := continues begun.toList name
    (note.attrs.filter (fits ·.1)).map (fun (n, a) => ⟨n, .field, type ++ "()", a.doc⟩) ++
      (note.methods.filter (fits ·.1)).map fun (n, m) =>
        ⟨n, .method, if m.signature.isEmpty then n ++ "()" else m.signature, m.doc⟩

def functionItems (code : String) (line : Nat) : List Item :=
  match ((parseScript code false).toOption.bind fun body => functionAt? body line) with
  | none => []
  | some f =>
    let types := inferTypes code (some line)
    let params := Params.all f.params
    let param (p : Param) : Item :=
      let hint := paramHint params p.name
      ⟨p.name, .variable, if hint.isEmpty then "param" else "param: " ++ hint, ""⟩
    let own (name : String) : Item :=
      let detail := match types.lookup name with
        | some t => if t.isEmpty then "local" else "local: " ++ typeLabel t
        | none => "local"
      ⟨name, .variable, detail, ""⟩
    params.map param ++ (f.locals line).map own

def completions (code : String) (line character : Nat) (offered : List Item) : List Item :=
  match receiverAt? code line character false with
  | some (receiver, begun) =>
    let code := finishedCode code line character
    memberItems receiver begun code (inferTypes code (some line))
  | none =>
    let left := (((lineTexts code)[line]?).getD "").toList.take character
    let begun := nameAtEnd left
    let own := (functionItems code line).filter fun i => continues begun i.label
    own ++ offered.filter fun i =>
      !(own.any (·.label == i.label)) && continues begun i.label

end AliasTools.Editor
