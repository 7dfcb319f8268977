import AliasTools.Number
import AliasTools.Syntax.Tree

/-!
# How a script can fail

A *fault* is what went wrong in a single operation.  An error is shown with the chain of calls that led to
it, each with its line of source and a pointer below it.
-/

namespace AliasTools.Script

open Syntax

/-! ## 1. Faults and errors -/

inductive FaultKind where
  | typeError | valueError | keyError | indexError | zeroDivision | attributeError | overflow
  | runtime | recursion | moduleNotFound | importError | stopIteration | notImplemented
  | unicodeDecode | unicodeEncode
  | aliasException | requiresCharacter
  | moduleExecution (module : String)
  | rollValue
  | jsonDecode | tomlDecode
  | yamlScanner | yamlParser | yamlComposer | yamlConstructor | yamlReader | yamlRepresenter
  | invalidArgument | expectedClosingQuote
  | fileMissing | isFolder | notFolder
  | trialForm
deriving DecidableEq

def FaultKind.name : FaultKind → String
  | .typeError => "TypeError" | .valueError => "ValueError" | .keyError => "KeyError"
  | .indexError => "IndexError" | .zeroDivision => "ZeroDivisionError"
  | .attributeError => "AttributeError" | .overflow => "OverflowError" | .runtime => "RuntimeError"
  | .recursion => "RecursionError" | .moduleNotFound => "ModuleNotFoundError"
  | .importError => "ImportError" | .stopIteration => "StopIteration"
  | .notImplemented => "NotImplementedError"
  | .unicodeDecode => "UnicodeDecodeError" | .unicodeEncode => "UnicodeEncodeError"
  | .aliasException => "AliasException" | .requiresCharacter => "FunctionRequiresCharacter"
  | .moduleExecution _ => "ModuleExecutionError" | .rollValue => "RollValueError"
  | .jsonDecode => "JSONDecodeError" | .tomlDecode => "TOMLDecodeError"
  | .yamlScanner => "ScannerError" | .yamlParser => "ParserError"
  | .yamlComposer => "ComposerError" | .yamlConstructor => "ConstructorError"
  | .yamlReader => "ReaderError" | .yamlRepresenter => "RepresenterError"
  | .invalidArgument => "InvalidArgument" | .expectedClosingQuote => "ExpectedClosingQuoteError"
  | .fileMissing => "FileNotFoundError" | .isFolder => "IsADirectoryError"
  | .notFolder => "NotADirectoryError" | .trialForm => "AliasTestError"

structure Fault where
  kind : FaultKind
  message : String

inductive InvalidKind where
  | notDefined | featureNotAvailable | value
  | numberTooHigh | iterableTooLong | tooManyStatements | tooMuchRecursion
deriving DecidableEq

def InvalidKind.name : InvalidKind → String
  | .notDefined => "NotDefined" | .featureNotAvailable => "FeatureNotAvailable"
  | .value => "DraconicValueError" | .numberTooHigh => "NumberTooHigh"
  | .iterableTooLong => "IterableTooLong" | .tooManyStatements => "TooManyStatements"
  | .tooMuchRecursion => "TooMuchRecursion"

def InvalidKind.isLimit : InvalidKind → Bool
  | .numberTooHigh | .iterableTooLong | .tooManyStatements | .tooMuchRecursion => true
  | _ => false

/-- Where an error arose: the node, the text the node was read from, and the function or module. -/
structure Site where
  span : Span
  source : String
  context : Option String := none

inductive ScriptError where
  | form (fault : SyntaxFault) (source : String) (context : Option String)
  | invalid (kind : InvalidKind) (message : String) (site : Site)
  | annotated (fault : Fault) (site : Site)
  | nested (message : String) (site : Site) (inner : ScriptError)

namespace ScriptError

def message : ScriptError → String
  | .form f _ _ => f.message
  | .invalid _ m _ => m
  | .annotated f _ => f.message
  | .nested m _ _ => m

def className : ScriptError → String
  | .form _ _ _ => "DraconicSyntaxError"
  | .invalid k _ _ => k.name
  | .annotated _ _ => "AnnotatedException"
  | .nested _ _ _ => "NestedException"

def within (name : String) : ScriptError → ScriptError
  | .form f s _ => .form f s (some name)
  | .invalid k m s => .invalid k m { s with context := some name }
  | .annotated f s => .annotated f { s with context := some name }
  | .nested m s i => .nested m { s with context := some name } i

end ScriptError

/-- What is left of an error without its wrappings: an error of its own, or a fault. -/
inductive Cause where
  | fault (f : Fault)
  | error (e : ScriptError)

def Cause.className : Cause → String
  | .fault f => f.kind.name
  | .error e => e.className

def Cause.isLimit : Cause → Bool
  | .error (.invalid k _ _) => k.isLimit
  | _ => false

def ScriptError.cause : ScriptError → Cause
  | .annotated f _ => .fault f
  | .nested _ _ i => i.cause
  | e => .error e

inductive Failure where
  | fault (f : Fault)
  | waiting (kind : InvalidKind) (message : String)
  | script (e : ScriptError)
  | outOfFuel

inductive Complaint where
  | fault (f : Fault)
  | waiting (kind : InvalidKind) (message : String)
  | form (f : SyntaxFault)
  | outOfFuel

def Complaint.failure (source : String) : Complaint → Failure
  | .fault f => .fault f
  | .waiting k m => .waiting k m
  | .form f => .script (.form f source none)
  | .outOfFuel => .outOfFuel

open Text Number

/-! ## 2. Traces -/

structure Mark where
  line : Int
  col : Int
  endLine : Option Int
  endCol : Option Int

def Mark.ofSpan (s : Span) : Mark := ⟨s.line, s.col, some s.endLine, some s.endCol⟩

def lineAt (source : String) (n : Int) : Option (List Char) :=
  let ls := cutAt '\n' source.toList
  if 1 ≤ n then ls[(n - 1).toNat]?
  else
    let i := (ls.length : Int) + n - 1
    if 0 ≤ i then ls[i.toNat]? else none

def pointer (m : Mark) (source : String) : Except FaultKind (List Char) :=
  match lineAt source m.line with
  | none => .error .indexError
  | some line =>
    let blanks := List.replicate m.col.toNat ' '
    if m.endLine.any (· != m.line) then .ok (line ++ '\n' :: blanks ++ ['^', '\n'])
    else
      let carets := match m.endCol with
        | some e => List.replicate (e - m.col).toNat '^'
        | none => ['^']
      .ok (dedent (line ++ '\n' :: blanks ++ carets ++ ['\n']))

def stop (line col : Int) (context : Option String) (m : Mark) (source : String) : Except FaultKind (List Char) :=
  (pointer m source).map fun p =>
    "  Line ".toList ++ intText line ++ ", col ".toList ++ intText col ++ (match context with
        | some c => ", in ".toList ++ c.toList
        | none => []) ++
      '\n' :: indentWith "    ".toList p

def lastLine (name message : String) : List Char := s!"{name}: {message}\n".toList

def traceLines : ScriptError → Except FaultKind (List Char)
  | .nested _ s inner =>
    match stop s.span.line s.span.col s.context (.ofSpan s.span) s.source with
    | .error k => .error k
    | .ok here => (traceLines inner).map (here ++ ·)
  | .invalid k m s => (stop s.span.line s.span.col s.context (.ofSpan s.span) s.source).map (· ++ lastLine k.name m)
  | .annotated f s =>
    (stop s.span.line s.span.col s.context (.ofSpan s.span) s.source).map (· ++ lastLine f.kind.name f.message)
  | .form f source c =>
    match f.place with
    | none => .error .typeError
    | some p =>
      (stop p.line p.offset c ⟨p.line, p.offset - 1, some p.endLine, some (p.endOffset - 1)⟩
        source).map (· ++ lastLine "DraconicSyntaxError" f.message)

def ScriptError.trace (e : ScriptError) : Except FaultKind String :=
  (traceLines e).map fun t => "Traceback (most recent call last):\n" ++ String.ofList t

end AliasTools.Script
