import AliasTools.Syntax.Grammar.Statement
import AliasTools.Syntax.Node

/-!
# Functions with help

The functions an alias can call, as an editor describes them: name, parameters, and a few words; which
call the cursor is in, and which of its parameters is being written.
-/

namespace AliasTools.Editor

open Syntax

structure FunctionHelp where
  name : String
  params : List String
  doc : String := ""
deriving DecidableEq

def FunctionHelp.label (f : FunctionHelp) : String := f.name ++ "(" ++ String.intercalate ", " f.params ++ ")"

def describedFunctions : List FunctionHelp :=
  [⟨"len", ["obj"], "Return the number of items in a container."⟩, ⟨"sum", ["iterable", "start"],
    "Return the sum of a 'start' value (default: 0) plus an iterable of numbers\n\nWhen the " ++
    "iterable is empty, return the start value.\nThis function is intended specifically for " ++
    "use with numeric values and may\nreject non-numeric types."⟩,
   ⟨"any", ["iterable"], "Return True if bool(x) is True for any x in the iterable.\n\nIf the iterable is empty, " ++
    "return False."⟩,
   ⟨"all", ["iterable"], "Return True if bool(x) is True for all values x in the iterable.\n\nIf the iterable is " ++
    "empty, return True."⟩,
   ⟨"abs", ["x"], "Return the absolute value of the argument."⟩,
   ⟨"enumerate", ["iterable", "start"],
    "Return an enumerate object.\n\n  iterable\n    an object supporting iteration\n\nThe " ++
    "enumerate object yields pairs containing a count (from start, which\ndefaults to zero) " ++
    "and a value yielded by the iterable argument.\n\nenumerate is useful for obtaining an " ++
    "indexed list:\n    (0, seq[0]), (1, seq[1]), (2, seq[2]), ..."⟩,
   ⟨"float", ["x"], "Convert a string or number to a floating point number, if possible."⟩,
   ⟨"round", ["number", "ndigits"],
    "Round a number to a given precision in decimal digits.\n\nThe return value is an " ++
    "integer if ndigits is omitted or None.  Otherwise\nthe return value has the same type " ++
    "as the number.  ndigits may be negative."⟩,
   ⟨"ceil", ["x"], "Return the ceiling of x as an Integral.\n\nThis is the smallest integer >= x."⟩,
   ⟨"floor", ["x"], "Return the floor of x as an Integral.\n\nThis is the largest integer <= x."⟩,
   ⟨"sqrt", ["x"], "Return the square root of x."⟩,
   ⟨"roll", ["dice"], ""⟩,
   ⟨"vroll", ["dice", "multiply", "add"], ""⟩,
   ⟨"rand", [], "random() -> x in the interval [0, 1)."⟩,
   ⟨"randint", ["start", "stop", "step"],
    "Choose a random item from range(stop) or range(start, stop[, step]).\n\n        " ++
    "Roughly equivalent to ``choice(range(start, stop, step))`` but\n        supports " ++
    "arbitrarily large ranges and is optimized for common cases.\n\n        "⟩,
   ⟨"randchoice", ["seq"], "Choose a random element from a non-empty sequence."⟩,
   ⟨"randchoices", ["population", "weights", "cum_weights", "k"],
    "Return a k sized list of population elements chosen with replacement.\n\n        If " ++
    "the relative weights or cumulative weights are not specified,\n        the selections " ++
    "are made with equal probability.\n\n        "⟩,
   ⟨"typeof", ["inst"], ""⟩,
   ⟨"parse_coins", ["args", "include_total"], ""⟩,
   ⟨"load_json", ["s"], ""⟩,
   ⟨"dump_json", ["obj"], ""⟩,
   ⟨"load_yaml", ["data"], "Parse YAML, accepting JSON."⟩,
   ⟨"dump_yaml", ["obj", "indent"], ""⟩,
   ⟨"get_gvar", ["address"], "Retrieves and returns the value of a global variable (gvar) by address."⟩,
   ⟨"get_svar", ["name", "default=None"], "Gets a server variable by name, returning default if it is not present."⟩,
   ⟨"get_uvar", ["name", "default=None"],
    "Gets a user variable by name as a string, returning default if it is not present."⟩,
   ⟨"get_uvars", [], "Returns the mapping of user variables available to the caller (values are strings)."⟩,
   ⟨"set_uvar", ["name", "value"], "Sets a user variable (stored as a string) and returns the stored value."⟩,
   ⟨"set_uvar_nx", ["name", "value"],
    "Sets a user variable only if it does not already exist; returns the stored string value."⟩,
   ⟨"delete_uvar", ["name"], "Deletes a user variable and returns its previous value or None if missing."⟩,
   ⟨"uvar_exists", ["name"], "Returns whether a user variable is set."⟩,
   ⟨"exists", ["name"], "Returns whether a name is set in the current evaluation context."⟩,
   ⟨"get", ["name", "default=None"],
    "Gets the value of a name using local > cvar > uvar resolution order; returns default " ++
    "if not set."⟩,
   ⟨"using", ["**imports"],
    "Imports one or more gvars as modules into the current namespace with the provided aliases."⟩,
   ⟨"signature", ["data=0"],
    "Generates a signed invocation signature encoding invocation context and optional 5-bit " ++
    "user data."⟩,
   ⟨"verify_signature", ["data"], "Verifies a signature generated by signature(); returns context data or raises " ++
    "ValueError when invalid."⟩,
   ⟨"print", ["*values"], "Writes values to alias output using the configured separator/end (mirrors Python print)."⟩,
   ⟨"character", [], "Returns the active character object for this alias, or raises if none is available."⟩,
   ⟨"combat", [], "Returns the current combat context if one exists, otherwise None."⟩,
   ⟨"argparse", ["args", "character=None", "splitter=argsplit", "parse_ephem=True"],
    "Parses alias arguments using Avrae's argparse helper."⟩]

def findFunction? (fs : List FunctionHelp) (name : String) : Option FunctionHelp := fs.reverse.find? (·.name == name)

abbrev Place := Int × Int

def Place.le (a b : Place) : Bool := a.1 < b.1 || (a.1 == b.1 && a.2 ≤ b.2)

def spanStart (sp : Span) : Place := ((sp.line : Int) - 1, sp.col)

def spanStop (sp : Span) : Place := ((sp.endLine : Int) - 1, sp.endCol)

def Place.within (p : Place) (sp : Span) : Bool := (spanStart sp).le p && p.le (spanStop sp)

structure CallSite where
  sp : Span
  func : Expr
  args : List Expr
  keywords : List Keyword

def callsBelow (depth : Nat) (n : Node) : List (Nat × CallSite) :=
  match n with
  | .expr (.call sp f args ks) =>
    (depth, ⟨sp, f, args, ks⟩) ::
      (Expr.call sp f args ks).children.attach.flatMap fun ⟨c, _⟩ => callsBelow (depth + 1) c
  | n => n.children.attach.flatMap fun ⟨c, _⟩ => callsBelow depth c
termination_by sizeOf n
decreasing_by all_goals exact Node.sizeOf_lt_of_mem_children (by assumption)

def deeper (best : Option (Nat × CallSite)) (c : Nat × CallSite) : Option (Nat × CallSite) :=
  match best with
  | some (d, b) => if c.1 ≥ d then some c else some (d, b)
  | none => some c

def callAt? (body : List Stmt) (p : Place) : Option CallSite :=
  let calls := body.flatMap fun s => callsBelow 0 (.stmt s)
  let here := calls.filter fun c => p.within c.2.sp
  (here.foldl deeper none).map (·.2)

def CallSite.writtenArgs (c : CallSite) : List (Span × Option String) :=
  let all := c.args.map (fun a => (a.span, none)) ++ c.keywords.map fun | .mk sp name _ => (sp, name)
  all.mergeSort fun a b => (spanStart a.1).le (spanStart b.1)

/-- The parameter that is being written at a place. -/
def CallSite.activeParam (c : CallSite) (p : Place) (params : List String) : Nat :=
  let clamp (i : Nat) : Nat := min i (params.length - 1)
  let args := c.writtenArgs
  match args.findIdx? fun a => p.within a.1 with
  | some i =>
    match (args[i]?.bind (·.2)).bind fun n => params.idxOf? n with
    | some k => clamp k
    | none => clamp i
  | none => clamp (args.countP fun a => (spanStart a.1).le p)

def callHelp? (code : String) (line character : Int) (fs : List FunctionHelp) : Option (FunctionHelp × Nat) := do
  let body ← (parseScript code false).toOption
  let call ← callAt? body (line, character)
  match call.func with
  | .name _ id _ =>
    let f ← findFunction? fs id
    some (f, call.activeParam (line, character) f.params)
  | _ => none

end AliasTools.Editor
