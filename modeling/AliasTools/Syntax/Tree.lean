/-!
# The tree of a script

What a script says, once its text has been read: expressions, statements, patterns and the small
parts they share; and why a text is not a script.  Every node carries the stretch of source text it
was read from, because errors, warnings and editor answers all point back at the text.

Lines count from 1; columns count bytes of the UTF-8 encoding, from 0.
-/

namespace AliasTools.Syntax

/-- A stretch of source text: first line and column, last line and the column just after it. -/
structure Span where
  line : Nat
  col : Nat
  endLine : Nat
  endCol : Nat
deriving DecidableEq, Inhabited

def Span.upTo (a b : Span) : Span := { a with endLine := b.endLine, endCol := b.endCol }

inductive BoolOp where
  | and | or
deriving DecidableEq

inductive BinOp where
  | add | sub | mult | matMult | div | mod | pow | lShift | rShift | bitOr | bitXor | bitAnd
  | floorDiv
deriving DecidableEq

def BinOp.symbol : BinOp → String
  | .add => "+" | .sub => "-" | .mult => "*" | .matMult => "@" | .div => "/" | .mod => "%"
  | .pow => "**" | .lShift => "<<" | .rShift => ">>" | .bitOr => "|" | .bitXor => "^"
  | .bitAnd => "&" | .floorDiv => "//"

inductive UnaryOp where
  | invert | not | uAdd | uSub

inductive CmpOp where
  | eq | notEq | lt | ltE | gt | gtE | is | isNot | isIn | notIn

def CmpOp.symbol : CmpOp → String
  | .eq => "==" | .notEq => "!=" | .lt => "<" | .ltE => "<=" | .gt => ">" | .gtE => ">="
  | .is => "is" | .isNot => "is not" | .isIn => "in" | .notIn => "not in"

/-- What a name in the text is there for: to be read, to be bound, or to be unbound. -/
inductive NameUse where
  | load | store | del
deriving DecidableEq

inductive Literal where
  | none
  | ellipsis
  | bool (b : Bool)
  | int (n : Int)
  | float (x : Float)
  | imaginary (x : Float)
  /-- `marked` holds when the text was written with the `u` letter in front. -/
  | str (s : String) (marked : Bool)
  | bytes (data : List Nat)

mutual

inductive Expr where
  | boolOp (sp : Span) (op : BoolOp) (values : List Expr)
  | namedExpr (sp : Span) (target value : Expr)
  | binOp (sp : Span) (left : Expr) (op : BinOp) (right : Expr)
  | unaryOp (sp : Span) (op : UnaryOp) (operand : Expr)
  | lambda (sp : Span) (params : Params) (body : Expr)
  | ifExp (sp : Span) (test body orelse : Expr)
  | dict (sp : Span) (keys : List (Option Expr)) (values : List Expr)
  | set (sp : Span) (elts : List Expr)
  | listComp (sp : Span) (elt : Expr) (clauses : List Clause)
  | setComp (sp : Span) (elt : Expr) (clauses : List Clause)
  | dictComp (sp : Span) (key value : Expr) (clauses : List Clause)
  | generatorExp (sp : Span) (elt : Expr) (clauses : List Clause)
  | await (sp : Span) (value : Expr)
  | yield (sp : Span) (value : Option Expr)
  | yieldFrom (sp : Span) (value : Expr)
  | compare (sp : Span) (left : Expr) (ops : List CmpOp) (rights : List Expr)
  | call (sp : Span) (func : Expr) (args : List Expr) (keywords : List Keyword)
  | formattedValue (sp : Span) (value : Expr) (conversion : Int) (format : Option Expr)
  | joinedStr (sp : Span) (values : List Expr)
  | constant (sp : Span) (value : Literal)
  | attribute (sp : Span) (value : Expr) (attr : String) (use : NameUse)
  | subscript (sp : Span) (value slice : Expr) (use : NameUse)
  | starred (sp : Span) (value : Expr) (use : NameUse)
  | name (sp : Span) (id : String) (use : NameUse)
  | list (sp : Span) (elts : List Expr) (use : NameUse)
  | tuple (sp : Span) (elts : List Expr) (use : NameUse)
  | slice (sp : Span) (lower upper step : Option Expr)

inductive Clause where
  | mk (target iter : Expr) (conditions : List Expr) (isAsync : Bool)

inductive Keyword where
  | mk (sp : Span) (name : Option String) (value : Expr)

inductive Param where
  | mk (sp : Span) (name : String) (hint : Option Expr) (comment : Option String)

inductive Params where
  | mk (posOnly args : List Param) (vararg : Option Param) (kwOnly : List Param)
      (kwDefaults : List (Option Expr)) (kwarg : Option Param) (defaults : List Expr)

end

inductive Pattern where
  | value (sp : Span) (e : Expr)
  | singleton (sp : Span) (v : Literal)
  | sequence (sp : Span) (items : List Pattern)
  | mapping (sp : Span) (keys : List Expr) (items : List Pattern) (rest : Option String)
  | cls (sp : Span) (cls : Expr) (items : List Pattern) (kwNames : List String) (kwItems : List Pattern)
  | star (sp : Span) (name : Option String)
  | bind (sp : Span) (pattern : Option Pattern) (name : Option String)
  | or (sp : Span) (items : List Pattern)

structure ImportName where
  sp : Span
  name : String
  asName : Option String

structure WithItem where
  context : Expr
  vars : Option Expr

mutual

inductive Stmt where
  | functionDef (sp : Span) (name : String) (params : Params) (body : List Stmt)
      (decorators : List Expr) (returns : Option Expr) (comment : Option String) (isAsync : Bool)
  | classDef (sp : Span) (name : String) (bases : List Expr) (keywords : List Keyword)
      (body : List Stmt) (decorators : List Expr)
  | ret (sp : Span) (value : Option Expr)
  | delete (sp : Span) (targets : List Expr)
  | assign (sp : Span) (targets : List Expr) (value : Expr) (comment : Option String)
  | augAssign (sp : Span) (target : Expr) (op : BinOp) (value : Expr)
  | annAssign (sp : Span) (target hint : Expr) (value : Option Expr) (simple : Bool)
  | forLoop (sp : Span) (target iter : Expr) (body orelse : List Stmt) (comment : Option String) (isAsync : Bool)
  | whileLoop (sp : Span) (test : Expr) (body orelse : List Stmt)
  | ifElse (sp : Span) (test : Expr) (body orelse : List Stmt)
  | withBlock (sp : Span) (items : List WithItem) (body : List Stmt) (comment : Option String) (isAsync : Bool)
  | matchOn (sp : Span) (subject : Expr) (cases : List MatchCase)
  | raise (sp : Span) (exc cause : Option Expr)
  | tryExcept (sp : Span) (body : List Stmt) (handlers : List Handler) (orelse final : List Stmt) (isStar : Bool)
  | assert (sp : Span) (test : Expr) (message : Option Expr)
  | importNames (sp : Span) (names : List ImportName)
  | importFrom (sp : Span) (module : Option String) (names : List ImportName) (level : Nat)
  | global (sp : Span) (names : List String)
  | nonlocal (sp : Span) (names : List String)
  | expr (sp : Span) (value : Expr)
  | pass (sp : Span)
  | break (sp : Span)
  | continue (sp : Span)

inductive Handler where
  | mk (sp : Span) (type : Option Expr) (name : Option String) (body : List Stmt)

inductive MatchCase where
  | mk (pattern : Pattern) (guard : Option Expr) (body : List Stmt)

end

instance : Inhabited Expr := ⟨.constant default .none⟩
instance : Inhabited Params := ⟨.mk [] [] none [] [] none []⟩

def Expr.span : Expr → Span
  | .boolOp s _ _ | .namedExpr s _ _ | .binOp s _ _ _ | .unaryOp s _ _ | .lambda s _ _
  | .ifExp s _ _ _ | .dict s _ _ | .set s _ | .listComp s _ _ | .setComp s _ _
  | .dictComp s _ _ _ | .generatorExp s _ _ | .await s _ | .yield s _ | .yieldFrom s _
  | .compare s _ _ _ | .call s _ _ _ | .formattedValue s _ _ _ | .joinedStr s _ | .constant s _
  | .attribute s _ _ _ | .subscript s _ _ _ | .starred s _ _ | .name s _ _ | .list s _ _
  | .tuple s _ _ | .slice s _ _ _ => s

def Stmt.span : Stmt → Span
  | .functionDef s _ _ _ _ _ _ _ | .classDef s _ _ _ _ _ | .ret s _ | .delete s _
  | .assign s _ _ _ | .augAssign s _ _ _ | .annAssign s _ _ _ _ | .forLoop s _ _ _ _ _ _
  | .whileLoop s _ _ _ | .ifElse s _ _ _ | .withBlock s _ _ _ _ | .matchOn s _ _ | .raise s _ _
  | .tryExcept s _ _ _ _ _ | .assert s _ _ | .importNames s _ | .importFrom s _ _ _
  | .global s _ | .nonlocal s _ | .expr s _ | .pass s | .break s | .continue s => s

def Pattern.span : Pattern → Span
  | .value s _ | .singleton s _ | .sequence s _ | .mapping s _ _ _ | .cls s _ _ _ _ | .star s _
  | .bind s _ _ | .or s _ => s

def Param.name : Param → String
  | .mk _ name _ _ => name

def Params.vararg : Params → Option Param
  | .mk _ _ vararg _ _ _ _ => vararg

def Params.kwarg : Params → Option Param
  | .mk _ _ _ _ _ kwarg _ => kwarg

/-- The sort of a fault: of the form, of the indentation, or of mixed tabs and blanks. -/
inductive FaultKind where
  | form | indentation | tabs

/-- Where a fault is: its line, the first character, the last line and the character after it. -/
structure FaultPlace where
  line : Nat
  offset : Int
  endLine : Nat
  endOffset : Int

structure SyntaxFault where
  kind : FaultKind
  message : String
  place : Option FaultPlace

end AliasTools.Syntax
