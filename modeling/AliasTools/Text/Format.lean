import AliasTools.Number

/-!
# Formats

A format says how a value is written into a field: how wide, how it is aligned and filled up, which
sign it carries, how its digits are grouped, how precise it is, and in which form.

    [[fill]align][sign][z][#][0][width][group][.precision][form]
-/

namespace AliasTools.Text

open Number

/-! ## 1. Reading a format -/

structure FormatSpec where
  fill : Char
  align : Char
  sign : Option Char
  noNegativeZero : Bool
  alternate : Bool
  width : Nat
  group : Option Char
  precision : Option Nat
  form : Option Char

inductive FormatFault where
  | tooManyDigits
  | missingPrecision
  | invalid (spec kind : String)
  | bothGroups
  | groupWith (group : Char) (form : Char)
  | unknownForm (form : Char) (kind : String)
  | notFor (what kind : String)
  | charRange
  | wordRange
  | unwritable
deriving DecidableEq

variable (c : Char) (spec : List Char) (cs : List Char) (f : FormatSpec) (x : Float)

def byNumber : String := "\\x" ++ String.ofList (Nat.toDigits 16 c.toNat)

def inComplaint : String := if 32 < c.toNat && c.toNat < 128 then c.toString else byNumber c

def FormatFault.message : FormatFault → String
  | .tooManyDigits => "Too many decimal digits in format string"
  | .missingPrecision => "Format specifier missing precision"
  | .invalid spec kind => s!"Invalid format specifier '{spec}' for object of type '{kind}'"
  | .bothGroups => "Cannot specify both ',' and '_'."
  | .groupWith g f => s!"Cannot specify '{g.toString}' with '{inComplaint f}'."
  | .unknownForm f kind => s!"Unknown format code '{inComplaint f}' for object of type '{kind}'"
  | .notFor what kind => s!"{what} not allowed {kind}"
  | .charRange => "%c arg not in range(0x110000)"
  | .wordRange => "Python int too large to convert to C long"
  | .unwritable => unwritableText

def isAlign : Bool := c == '<' || c == '>' || c == '=' || c == '^'

def takeDigits : List Char × List Char := (cs.takeWhile isDecimal, cs.dropWhile isDecimal)

def digitsValue (ds : List Char) : Nat := ds.foldl (fun n c => 10 * n + (decimalValue? c).getD 0) 0

def maxColumns : Nat := twoTo 63 - 1

def takeFlag : List Char → Bool × List Char
  | d :: rest => if d == c then (true, rest) else (false, d :: rest)
  | [] => (false, [])

def takeAlign : Option Char × Option Char × List Char :=
  match spec with
  | f :: a :: rest =>
    if isAlign a then (some f, some a, rest)
    else if isAlign f then (none, some f, a :: rest) else (none, none, spec)
  | [a] => if isAlign a then (none, some a, []) else (none, none, spec)
  | [] => (none, none, [])

def takeSign : List Char → Option Char × List Char
  | c :: rest => if c == ' ' || c == '+' || c == '-' then (some c, rest) else (none, c :: rest)
  | [] => (none, [])

def takeColumns : Except FormatFault (Nat × List Char) :=
  let (ds, cs) := takeDigits cs
  if digitsValue ds > maxColumns then .error .tooManyDigits else .ok (digitsValue ds, cs)

def takeGroup : List Char → Except FormatFault (Option Char × List Char)
  | ',' :: '_' :: _ | '_' :: ',' :: _ => .error .bothGroups
  | c :: cs => if c == ',' || c == '_' then .ok (some c, cs) else .ok (none, c :: cs)
  | [] => .ok (none, [])

def takePrecision : List Char → Except FormatFault (Option Nat × List Char)
  | '.' :: cs => do
    let (n, rest) ← takeColumns cs
    if (takeDigits cs).1.isEmpty then .error .missingPrecision else .ok (some n, rest)
  | cs => .ok (none, cs)

def takeForm (usual : Option Char) (fault : FormatFault) : List Char → Except FormatFault (Option Char)
  | [] => .ok usual
  | [c] => .ok (some c)
  | _ => .error fault

def groupsWith (g : Char) : Option Char → Bool
  | none => true
  | some c => "defgEG%F".toList.contains c || (g == '_' && "boxX".toList.contains c)

def FormatSpec.parse (align : Char) (form : Option Char) (kind : String) : Except FormatFault FormatSpec := do
  let (fill, given, cs) := takeAlign spec
  let (sign, cs) := takeSign cs
  let (z, cs) := takeFlag 'z' cs
  let (alternate, cs) := takeFlag '#' cs
  let (zero, cs) := if fill.isNone then takeFlag '0' cs else (false, cs)
  let (width, cs) ← takeColumns cs
  let (group, cs) ← takeGroup cs
  let (precision, cs) ← takePrecision cs
  let form ← takeForm form (.invalid (String.ofList spec) kind) cs
  match group.filter (!groupsWith · form) with
  | some g => .error (.groupWith g (form.getD ' '))
  | none =>
    .ok ⟨fill.getD (if zero then '0' else ' '), given.getD (if zero && align == '>' then '=' else align),
      sign, z, alternate, width, group, precision, form⟩

/-! ## 2. Filling up -/

def FormatSpec.pad (s : List Char) : List Char :=
  let missing := f.width - s.length
  let many (n : Nat) : List Char := List.replicate n f.fill
  if f.align == '<' then s ++ many missing
  else if f.align == '^' then many (missing / 2) ++ s ++ many (missing - missing / 2)
  else many missing ++ s

def groupDigits (size : Nat) (sep : Char) (least : Int) (acc : List Char) (ds : List Char) : Nat → List Char
  | 0 => acc
  | k + 1 =>
    let len := min size (max (max ds.length least.toNat) 1)
    let part := (ds.take len ++ List.replicate (len - ds.length) '0').reverse
    let rest := ds.drop len
    let least := least - len
    if rest.isEmpty && least ≤ 0 then part ++ acc
    else groupDigits size sep (least - 1) (sep :: part ++ acc) rest k

def FormatSpec.number (negative : Bool) (front digits rest : List Char) : List Char :=
  let sign := if negative then ['-'] else match f.sign with
      | some '+' => ['+']
      | some ' ' => [' ']
      | _ => []
  let least : Int := if f.fill == '0' && f.align == '=' then
      (f.width : Int) - sign.length - front.length - rest.length else 0
  let size := match f.form with
    | some c => if "boxX".toList.contains c then 4 else 3
    | none => 3
  let grouped := match f.group, digits with
    | some g, _ :: _ => groupDigits size g least [] digits.reverse (digits.length + f.width + 2)
    | _, _ => List.replicate (least.toNat - digits.length) '0' ++ digits
  let body := grouped ++ rest
  if f.align == '=' then
    let missing := f.width - (sign.length + front.length + body.length)
    sign ++ front ++ List.replicate missing f.fill ++ body
  else f.pad (sign ++ front ++ body)

/-! ## 3. Texts -/

def formatText (s : List Char) (spec : List Char) : Except FormatFault (List Char) :=
  match FormatSpec.parse spec '<' (some 's') "str" with
  | .error e => .error e
  | .ok f =>
    let within := "in string format specifier"
    if f.form != some 's' then .error (.unknownForm (f.form.getD 's') "str")
    else if f.sign == some ' ' then .error (.notFor "Space" within)
    else if f.sign.isSome then .error (.notFor "Sign" within)
    else if f.noNegativeZero then .error (.notFor "Negative zero coercion (z)" within)
    else if f.alternate then .error (.notFor "Alternate form (#)" within)
    else if f.align == '=' then .error (.notFor "'=' alignment" within)
    else .ok (f.pad (match f.precision with
      | some p => s.take p
      | none => s))

/-! ## 4. Floats -/

/-- How a float is laid out: in front of the point, behind it, and the exponent with its mark. -/
structure Layout where
  whole : List Char
  fraction : List Char
  exponent : List Char := []

def cutZeros (ds : List Char) : List Char := (ds.reverse.dropWhile (· == '0')).reverse

def exponentLayout (num den places : Nat) (mark : Char) : Layout :=
  if num == 0 then ⟨['0'], List.replicate places '0', exponentText mark 0⟩
  else
    let (ds, e) := significant num den (places + 1)
    ⟨ds.take 1, ds.drop 1, exponentText mark e⟩

def Layout.ofDigits (ds : List Char) (point limit : Int) (mark : Char) : Layout :=
  if -4 < point && point ≤ limit then
    let (a, b) := pointed ds point
    ⟨a, b, []⟩
  else ⟨ds.take 1, ds.drop 1, exponentText mark (point - 1)⟩

def generalLayout (num den count : Nat) (mark : Char) (keepZeros : Bool) (limit : Int) : Layout :=
  let (ds, e) : List Char × Int := if num == 0 then (List.replicate count '0', 0) else significant num den count
  let ds := if keepZeros then ds else match cutZeros ds with
    | [] => ['0']
    | t => t
  .ofDigits ds (e + 1) limit mark

def shortestLayout : Layout :=
  let (m, e) := shortest x
  let ds := natText m
  .ofDigits ds (if m == 0 then 1 else ds.length + e) 16 'e'

def floatLayout (form : Option Char) (precision : Option Nat) (alternate : Bool) : Layout :=
  let (num, den) := match decode x with
    | some b => let (n, d) := b.ratio; (n.natAbs, d)
    | none => (0, 1)
  let mark := if form == some 'E' || form == some 'G' then 'E' else 'e'
  match form with
  | some 'e' | some 'E' => exponentLayout num den (precision.getD 6) mark
  | some 'f' | some 'F' | some '%' =>
    let (a, b) := fixedText num den (precision.getD 6)
    ⟨a, b, []⟩
  | some 'g' | some 'n' | some 'G' =>
    let p := max (precision.getD 6) 1
    generalLayout num den p mark alternate p
  | _ =>
    let l := match precision with
      | none => shortestLayout x
      | some p => generalLayout num den (max p 1) mark alternate (max p 1 - 1 : Nat)
    if l.exponent.isEmpty && l.fraction.isEmpty then { l with fraction := ['0'] } else l

def Layout.isZero (l : Layout) : Bool := l.whole.all (· == '0') && l.fraction.all (· == '0')

def FormatSpec.float : List Char :=
  let upper := f.form == some 'E' || f.form == some 'F' || f.form == some 'G'
  let percent := if f.form == some '%' then ['%'] else []
  let x := if f.form == some '%' then x * 100.0 else x
  if x.isNaN then f.number false [] [] ((if upper then "NAN" else "nan").toList ++ percent)
  else if x.isInf then
    f.number (isNegative x) [] [] ((if upper then "INF" else "inf").toList ++ percent)
  else
    let l := floatLayout x f.form f.precision f.alternate
    let negative := isNegative x && !(f.noNegativeZero && l.isZero)
    let point := if l.fraction.isEmpty && !f.alternate then [] else ['.']
    f.number negative [] l.whole (point ++ l.fraction ++ l.exponent ++ percent)

def isFloatForm : Bool := "eEfFgG%".toList.contains c

def formatFloat (spec : List Char) : Except FormatFault (List Char) :=
  match FormatSpec.parse spec '>' none "float" with
  | .error e => .error e
  | .ok f =>
    match f.form with
    | some c => if isFloatForm c || c == 'n' then .ok (f.float x) else .error (.unknownForm c "float")
    | none => .ok (f.float x)

/-! ## 5. Whole numbers -/

def baseOf (form : Char) : Nat × String :=
  match form with
  | 'b' => (2, "0b")
  | 'o' => (8, "0o")
  | 'x' => (16, "0x")
  | 'X' => (16, "0X")
  | _ => (10, "")

def digitsFor (form : Char) (n : Nat) : List Char :=
  let ds := Nat.toDigits (baseOf form).1 n
  if form == 'X' then ds.map Char.toUpper else ds

def formatInt (n : Int) (asFloat : Float) (kind : String) (spec : List Char) : Except FormatFault (List Char) :=
  match FormatSpec.parse spec '>' (some 'd') kind with
  | .error e => .error e
  | .ok f =>
    let form := f.form.getD 'd'
    if isFloatForm form then .ok (f.float asFloat)
    else if !"bcdoxXn".toList.contains form then .error (.unknownForm form kind)
    else if f.precision.isSome then .error (.notFor "Precision" "in integer format specifier")
    else if f.noNegativeZero then
      .error (.notFor "Negative zero coercion (z)" "in integer format specifier")
    else if form == 'c' then
      if f.sign.isSome then .error (.notFor "Sign" "with integer format specifier 'c'")
      else if f.alternate then
        .error (.notFor "Alternate form (#)" "with integer format specifier 'c'")
      else if n.natAbs ≥ twoTo 63 && n != -(twoTo 63 : Nat) then .error .wordRange
      else if n < 0 || n ≥ 0x110000 then .error .charRange
      else .ok ({ f with group := none }.number false [] [] [Char.ofNat n.toNat])
    else
      let (base, front) := baseOf form
      if base == 10 && !isWritable n then .error .unwritable
      else .ok (f.number (n < 0) (if f.alternate then front.toList else []) (digitsFor form n.natAbs) [])

/-! ## 6. The size of a field -/

def skipGroup : List Char → List Char
  | c :: cs => if c == ',' || c == '_' then cs else c :: cs
  | [] => []

def sizeBehindSign : Nat :=
  let cs := (takeFlag '0' (takeFlag '#' cs).2).2
  let (point, precision) := takeFlag '.' (skipGroup (takeDigits cs).2)
  digitsValue (takeDigits cs).1 + if point then digitsValue (takeDigits precision).1 else 0

def fieldSize : Nat :=
  match takeAlign spec with
  | (some '\n', _, _) => sizeBehindSign (takeSign spec).2
  | (_, _, cs) => sizeBehindSign (takeSign cs).2

end AliasTools.Text
