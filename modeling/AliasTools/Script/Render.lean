import AliasTools.Command.Embed
import AliasTools.Script.Alias
import AliasTools.Source.Code

/-!
# Rendering a command

The pieces of code in the text of an alias are carried out one after another, and their values stand in
their places.
-/

namespace AliasTools.Script

open Source Command

universe u

structure Rendered where
  command : String
  stdout : String
  value : Value := .none
  failure : Option Failure := none
  place : Option (Int × Int) := none

def Failure.place : Failure → Option Int × Option Int
  | .script (.form f _ _) =>
    match f.place with
    | some p =>
      (if p.line > 0 then some (p.line : Int) else none,
       if p.offset > 0 then some (p.offset - 1) else none)
    | none => (none, none)
  | .script (.invalid _ _ s) | .script (.annotated _ s) | .script (.nested _ s _) =>
    (some (s.span.line : Int), some (s.span.col : Int))
  | _ => (none, none)

/-- The place of an error in the whole text, counted from one. -/
def failurePlace (body : List Char) (p : Source.Piece) (skipped : Nat) (e : Failure) : Int × Int :=
  let before := body.take p.codeStart
  let baseLine : Int := countBreaks before
  let baseColumn : Int := columnAfter before
  let (line, column) := e.place
  let column := column.getD 0
  let row := match line with
    | some l => baseLine + (l - 1)
    | none => baseLine + (p.code.takeWhile (· == '\n')).length
  let column := if line.isNone || line == some 1 then baseColumn + column else column
  (row + skipped + 1, column + 1)

def rollTotal (text : String) : Eval Int := do
  match ← rollText text with
  | none => return 0
  | some r => liftRoll r.totalInt

structure Executor (m : Type → Type u) where
  run : String → m (Except Failure Value × String)
  roll : String → m Int
  text : Value → m String

def Rendered.write (out : Rendered) (s : String) : Rendered := { out with command := out.command ++ s }

namespace Executor

variable {m : Type → Type u} [Monad m] (x : Executor m)

def renderPiece (body : List Char) (skipped : Nat) (out : Rendered) : PieceKind × Source.Piece → m Rendered
  | (.roll, p) => do
    let n ← x.roll (String.ofList p.code)
    return { out.write (showInt n) with value := .int n }
  | (_, p) => do
    let (result, written) ← x.run (String.ofList p.code)
    let out := { out with stdout := out.stdout ++ written }
    match result with
    | .error e => return { out with failure := some e, place := some (failurePlace body p skipped e) }
    | .ok v =>
      let shown ← if v.isNone then pure "" else x.text v
      return { out.write shown with value := v }

def renderPieces (body : List Char) (skipped : Nat) (pos : Nat) (out : Rendered) :
    List (PieceKind × Source.Piece) → m Rendered
  | [] => return out.write (String.ofList (body.drop pos))
  | piece :: rest => do
    let copied := out.write (String.ofList ((body.drop pos).take (piece.2.start - pos)))
    let out ← x.renderPiece body skipped copied piece
    if out.failure.isSome then return out
    renderPieces body skipped piece.2.stop out rest

/-- What is not code is copied; the first error ends it. -/
def render (text : String) (args : List String) : m Rendered :=
  let (body, skipped) := splitDefinition text
  let body := (fillPlaceholders body args).toList
  x.renderPieces body skipped 0 { command := "", stdout := "" } (piecesOf [.block, .inline, .roll] body)

end Executor

def Job.executor : Executor Job where
  run code := do
    let result ← (Job.runAlias code).attempt
    return (result, (← read).session.stdout)
  roll text := rollTotal text
  text v := perform (.text v)

def renderAlias (text : String) (args : List String) : Job Rendered := Job.executor.render text args

end AliasTools.Script
