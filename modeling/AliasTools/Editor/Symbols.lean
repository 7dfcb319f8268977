import AliasTools.Script.Alias
import AliasTools.Source.Code
import AliasTools.Types.Infer

/-!
# Symbols of a document

The functions, classes and variables that the code of a document defines at its top, and where a name
occurs.
-/

namespace AliasTools.Editor

open Syntax Source Script Text

structure Readable where
  body : List Stmt
  shift : Int

/-- Read a text as a script, or else as the body of a function; what that adds stands one line above
    the text. -/
def readCode (code : String) : Except SyntaxFault Readable :=
  match parseScript code false with
  | .ok body => .ok ⟨body, 0⟩
  | .error fault =>
    match parseScript (wrapAlias code) false with
    | .ok body => .ok ⟨body, -1⟩
    | .error _ => .error fault

def codePieces (view : View) : List (String × Nat × Nat) :=
  if view.blocks.isEmpty then [(view.prepared, 0, 0)]
  else view.blocks.map fun b => (b.code, b.line, b.column)

def collectFromCode {α : Type} (view : View) (move : α → Int → Int → α) (find : List Stmt → List α) : List α :=
  (codePieces view).flatMap fun (code, line, column) =>
    match readCode code with
    | .ok r => (find r.body).map fun a => move a (line + r.shift) column
    | .error _ => []

inductive SymbolKind where
  | function | cls | variable
deriving DecidableEq

structure Symbol where
  name : String
  kind : SymbolKind
  range : Range
deriving DecidableEq

def targetSymbol? : Expr → Option Symbol
  | .name sp id _ => some ⟨id, .variable, nodeRange sp⟩
  | _ => none

def definedSymbol? : Stmt → Option Symbol
  | .functionDef sp name _ _ _ _ _ false => some ⟨name, .function, nodeRange sp⟩
  | .classDef sp name _ _ _ _ => some ⟨name, .cls, nodeRange sp⟩
  | .assign _ (t :: _) _ _ => targetSymbol? t
  | .annAssign _ t _ _ _ => targetSymbol? t
  | _ => none

variable (source : String)

def symbolsOf (isModule : Bool) : List Symbol :=
  collectFromCode (View.of source isModule)
    (fun s lines characters => { s with range := s.range.shift lines characters })
    (·.filterMap definedSymbol?)

def lookupSymbol (symbols : List Symbol) (name : String) : Option Symbol := symbols.reverse.find? (·.name == name)

def occurrences (name : String) (bindings : Bool) (body : List Stmt) : List Range :=
  (readScriptNodes body).filterMap fun
    | .expr (.name sp id use) => if id == name && (bindings || use != .store) then some (nodeRange sp) else none
    | _ => none

/-- Where a document uses a name, each place once: first its definition, if that is asked for, then
    every use. -/
def references (isModule : Bool) (symbols : List Symbol) (name : String) (declaration : Bool) : List Range :=
  let entry := lookupSymbol symbols name
  let first := if declaration then (entry.map (·.range)).toList else []
  (first ++ collectFromCode (View.of source isModule) Range.shift
    (occurrences name (declaration && entry.isNone))).eraseDups

/-- The word at a character of a line, and where it begins: all letters, digits and underscores that
    touch the place. -/
def wordAt (line : List Char) (character : Nat) : Nat × List Char :=
  let before := (line.take character).reverse.takeWhile Types.isWordPart
  let after := (line.drop character).takeWhile Types.isWordPart
  (min character line.length - before.length, before.reverse ++ after)

def documentWord (p : Position) : String :=
  match (lineTexts source)[p.line]? with
  | some line => String.ofList (wordAt line.toList p.character).2
  | none => ""

def wordRange? (p : Position) : Option Range := do
  let line ← (lineTexts source)[p.line]?
  if p.character > line.length then none
  let (start, word) := wordAt line.toList p.character
  if word.isEmpty then none
  else some ⟨⟨p.line, start⟩, ⟨p.line, start + word.length⟩⟩

end AliasTools.Editor
