import AliasTools.Script.Arith
import AliasTools.Script.Iterate

/-!
# Templates with percent signs

`'%s is %d' % (name, n)`: each percent sign begins a directive that takes the next value, or the value
under a key, and writes it in its own form.
-/

namespace AliasTools.Script

open Text Number

/-! ## 1. Directives -/

def isPercentFlag (c : Char) : Bool := c == '#' || c == '0' || c == '-' || c == ' ' || c == '+'

inductive Amount where
  | star
  | digits (ds : List Char)

structure Directive where
  key : Option (List Char)
  width : Option Amount
  precision : Option Amount
  form : Char

def takeAmount (isDigit : Char → Bool) : List Char → Option Amount × List Char
  | '*' :: rest => (some .star, rest)
  | cs =>
    match cs.takeWhile isDigit with
    | [] => (none, cs)
    | ds => (some (.digits ds), cs.dropWhile isDigit)

def dropLength : List Char → List Char
  | [] => []
  | c :: rest => if c == 'h' || c == 'l' || c == 'L' then rest else c :: rest

def takeSizes (isDigit : Char → Bool) (cs : List Char) : Option Amount × Option (Option Amount) × List Char :=
  let (width, cs) := takeAmount isDigit cs
  match cs with
  | '.' :: rest =>
    let (precision, rest) := takeAmount isDigit rest
    (width, some precision, dropLength rest)
  | _ => (width, none, dropLength cs)

def takeBracket (cs : List Char) : Option (List Char) × List Char :=
  match cs with
  | '(' :: rest =>
    let k := rest.takeWhile (· != ')')
    match rest.drop k.length with
    | ')' :: after => (some k, after)
    | _ => (none, cs)
  | _ => (none, cs)

def directiveForms : List Char := "diouxXeEfFgGcrsa%".toList

def takeDirective (cs : List Char) : Option (Directive × List Char) :=
  let (key, cs) := takeBracket cs
  match takeSizes isDecimal (cs.dropWhile isPercentFlag) with
  | (_, some none, _) | (_, _, []) => none
  | (width, precision, form :: rest) =>
    if directiveForms.contains form then some (⟨key, width, precision.join, form⟩, rest) else none

def directives (acc : List Directive) : Nat → List Char → List Directive
  | 0, _ => acc.reverse
  | _, [] => acc.reverse
  | k + 1, '%' :: rest =>
    match takeDirective rest with
    | some (d, after) => directives (d :: acc) k after
    | none => directives acc k rest
  | k + 1, _ :: rest => directives acc k rest

/-! ## 2. The bound on the result -/

variable (go : Go) (values : Value)

def amountSize : Option Amount → Eval Int
  | none => pure 0
  | some .star => failWaiting .featureNotAvailable "Star precision in printf-style formatting not allowed"
  | some (.digits ds) => pure (digitsValue ds)

def askedSize (sequence mapping : Bool) (i : Nat) (key : Option (List Char)) : Eval Int := do
  match key with
  | some k =>
    if !mapping then typeFault "format requires a mapping"
    sizeOf go (← go (.item values (.str (String.ofList k) false)))
  | none =>
    if sequence then
      let n ← go (.len values)
      if n ≤ i then typeFault "not enough arguments for format string"
      sizeOf go (← go (.item values (.int i)))
    else if i > 0 then typeFault "not enough arguments for format string"
    else sizeOf go values

def checkTemplate (values : Value) (sequence mapping : Bool) (bound : Int) (i : Nat) : List Directive → Eval Unit
  | [] => pure ()
  | d :: rest => do
    let bound := bound + (← amountSize d.width)
    let bound := bound + (← amountSize d.precision)
    let bound := bound + (← askedSize go values sequence mapping i d.key)
    if bound > (← read).limits.maxConstLen then failWaiting .iterableTooLong "This str is too large"
    checkTemplate values sequence mapping bound (if d.form == '%' then i else i + 1) rest

/-! ## 3. Writing -/

structure Field where
  left : Bool := false
  plus : Bool := false
  blank : Bool := false
  alternate : Bool := false
  zero : Bool := false
  width : Nat := 0
  precision : Option Nat := none

def takeFlags (f : Field) : List Char → Field × List Char
  | '-' :: rest => takeFlags { f with left := true } rest
  | '+' :: rest => takeFlags { f with plus := true } rest
  | ' ' :: rest => takeFlags { f with blank := true } rest
  | '#' :: rest => takeFlags { f with alternate := true } rest
  | '0' :: rest => takeFlags { f with zero := true } rest
  | cs => (f, cs)

variable (f : Field) (form : Char)

def Field.sign (negative : Bool) : List Char :=
  if negative then ['-'] else if f.plus then ['+'] else if f.blank then [' '] else []

def Field.number (negative : Bool) (front digits : List Char) : List Char :=
  let sign := f.sign negative
  let body := front ++ digits
  let missing := f.width - (sign.length + body.length)
  if f.left then sign ++ body ++ List.replicate missing ' '
  else if f.zero then sign ++ front ++ List.replicate missing '0' ++ digits
  else List.replicate missing ' ' ++ sign ++ body

def Field.text (s : List Char) : List Char :=
  let s := match f.precision with
    | some p => s.take p
    | none => s
  let missing := f.width - s.length
  if f.left then s ++ List.replicate missing ' ' else List.replicate missing ' ' ++ s

def Field.int (n : Int) : List Char :=
  let ds := digitsFor form n.natAbs
  let ds := List.replicate (f.precision.getD 0 - ds.length) '0' ++ ds
  f.number (n < 0) (if f.alternate then (baseOf form).2.toList else []) ds

def Field.float (x : Float) : List Char :=
  let upper := form == 'E' || form == 'F' || form == 'G'
  if x.isNaN then f.number false [] (if upper then "NAN" else "nan").toList
  else if x.isInf then f.number (isNegative x) [] (if upper then "INF" else "inf").toList
  else
    let l := floatLayout x (some form) (some (f.precision.getD 6)) f.alternate
    let point := if l.fraction.isEmpty && !f.alternate then [] else ['.']
    f.number (isNegative x) [] (l.whole ++ point ++ l.fraction ++ l.exponent)

/-- The values a template still has: all of a tuple, or a single value that may be taken once. -/
structure Supply where
  rest : Option (List Value)
  single : Option Value
  /-- Something that is looked up by key, so that values may be left over. -/
  keyed : Option Value

def Supply.start (keyed : Option Value) : Supply :=
  match values with
  | .tuple vs => ⟨some vs, none, keyed⟩
  | v => ⟨none, some v, keyed⟩

def Supply.take (s : Supply) : Eval (Value × Supply) := do
  match s.rest, s.single with
  | some (v :: vs), _ => return (v, { s with rest := some vs })
  | none, some v => return (v, { s with single := none })
  | _, _ => typeFault "not enough arguments for format string"

def writeInt (v : Value) : Eval (List Char) := do
  let wrong {α : Type} : Eval α := do
    let need := if form == 'o' || form == 'x' || form == 'X' then "an integer" else "a real number"
    typeFault s!"%{form.toString} format: {need} is required, not {← typeName v}"
  let write (n : Int) : Eval (List Char) := do
    if "diu".toList.contains form && !isWritable n then valueFault unwritableText
    return f.int form n
  match v with
  | .int n => write n
  | .bool b => write (if b then 1 else 0)
  | .float x =>
    if form == 'o' || form == 'x' || form == 'X' then wrong
    else write (← floatToInt x)
  | .str s true =>
    if form == 'o' || form == 'x' || form == 'X' then wrong
    else write (← textToInt s 10)
  | _ => wrong

def writeChar (v : Value) : Eval (List Char) := do
  match v with
  | .str s _ =>
    if s.length == 1 then return { f with precision := none }.text s.toList
    else typeFault "%c requires int or char"
  | _ =>
    match v.asInt? with
    | some n =>
      if n < 0 || n ≥ 0x110000 then fail .overflow "%c arg not in range(0x110000)"
      return { f with precision := none }.text [Char.ofNat n.toNat]
    | none => typeFault "%c requires int or char"

def writeForm (place : Nat) (v : Value) : Eval (List Char) := do
  if form == 's' then return f.text (← go (.text v)).toList
  else if form == 'r' then return f.text (← go (.shown [] v)).toList
  else if form == 'a' then
    let t := (← go (.shown [] v)).toList
    return f.text ((t.map fun c => if isAscii c then [c] else escapeByNumber c).flatten)
  else if "diouxX".toList.contains form then writeInt f form v
  else if "eEfFgG".toList.contains form then return f.float form (← toReal v)
  else if form == 'c' then writeChar f v
  else
    let shown := if 31 ≤ form.toNat && form.toNat ≤ 126 then form else '?'
    valueFault (s!"unsupported format character '{shown.toString}' (0x" ++
      s!"{String.ofList (Nat.toDigits 16 form.toNat)}) at index {place}")

def takeKey (depth : Nat) (acc : List Char) : List Char → Option (List Char × List Char)
  | [] => none
  | ')' :: rest =>
    match depth with
    | 0 => some (acc.reverse, rest)
    | d + 1 => takeKey d (')' :: acc) rest
  | '(' :: rest => takeKey (depth + 1) ('(' :: acc) rest
  | c :: rest => takeKey depth (c :: acc) rest

structure Measures where
  flags : Field
  width : Option Amount
  precision : Option Amount

def takeMeasures (cs : List Char) : Measures × List Char :=
  let (flags, cs) := takeFlags {} cs
  let (width, precision, cs) := takeSizes Char.isDigit cs
  (⟨flags, width, precision.map (·.getD (.digits []))⟩, cs)

/-- What an amount comes to, and the values after it; `label` and `kind` name it in complaints, and
    `most` is the highest that it can be. -/
def Amount.read (label kind : String) (most : Nat) (a : Amount) (s : Supply) : Eval (Int × Supply) := do
  match a with
  | .digits ds =>
    if digitsValue ds > most then valueFault s!"{label} too big"
    return (digitsValue ds, s)
  | .star =>
    let (v, s) ← s.take
    match v.asInt? with
    | none => typeFault "* wants int"
    | some n =>
      if n > most || n < -(most : Int) - 1 then fail .overflow s!"Python int too large to convert to C {kind}"
      return (n, s)

def Measures.read (m : Measures) (s : Supply) : Eval (Field × Supply) := do
  let (width, s) ← match m.width with
    | none => pure (0, s)
    | some a => a.read "width" "ssize_t" (twoTo 63 - 1) s
  let f := { m.flags with left := m.flags.left || width < 0, width := width.natAbs }
  match m.precision with
  | none => return (f, s)
  | some a =>
    let (precision, s) ← a.read "precision" "int" (twoTo 31 - 1) s
    return ({ f with precision := some precision.toNat }, s)

def takeKeyed (s : Supply) (cs : List Char) : Eval (Supply × List Char) := do
  match cs with
  | '(' :: rest =>
    match s.keyed with
    | none => typeFault "format requires a mapping"
    | some d =>
      match takeKey 0 [] rest with
      | none => valueFault "incomplete format key"
      | some (key, rest) =>
        let v ← go (.item d (.str (String.ofList key) false))
        return ({ s with rest := none, single := some v }, rest)
  | _ => return (s, cs)

def writeField (total : Nat) (s : Supply) (cs : List Char) : Eval (List Char × Supply × List Char) := do
  let (measures, cs) := takeMeasures cs
  let (f, s) ← measures.read s
  match cs with
  | [] => valueFault "incomplete format"
  | form :: rest =>
    let (v, s) ← s.take
    return (← writeForm go f form (total - rest.length - 1) v, s, rest)

def writeDirective (total : Nat) (s : Supply) (cs : List Char) : Eval (List Char × Supply × List Char) := do
  let (s, cs) ← takeKeyed go s cs
  writeField go total s cs

/-- Write a template; `out` holds the text so far backwards and `total` is the template's length. -/
def writeTemplate (total : Nat) (s : Supply) (out : List Char) : Nat → List Char → Eval (List Char)
  | 0, _ => raise .outOfFuel
  | _, [] => do
    let unused := match s.rest with
      | some rest => !rest.isEmpty
      | none => s.single.isSome
    if unused && s.keyed.isNone then typeFault "not all arguments converted during string formatting"
    return out.reverse
  | k + 1, '%' :: '%' :: cs => writeTemplate total s ('%' :: out) k cs
  | k + 1, '%' :: cs => do
    let (t, s, rest) ← writeDirective go total s cs
    writeTemplate total s (t.reverse ++ out) k rest
  | k + 1, c :: cs => writeTemplate total s (c :: out) k cs

def keyedOperand : Eval (Option Value) := do
  match values with
  | .range _ _ _ => return some values
  | .ref a =>
    match ← cellAt a with
    | some (.list _ _ _) | some (.dict _ _ _) | some (.arguments _ _) | some (.object _ _) => return some values
    | _ => return none
  | _ => return none

def percentFormat (template : String) (values : Value) : Eval Value := do
  let cs := template.toList
  let sequence ← isSequence values
  let mapping ← isMapping values
  checkTemplate go values sequence mapping cs.length 0 (directives [] (cs.length + 1) cs)
  let supply := Supply.start values (← keyedOperand values)
  let out ← writeTemplate go cs.length supply [] (cs.length + 2) cs
  return .str (String.ofList out) false

end AliasTools.Script
