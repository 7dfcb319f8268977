import AliasTools.Text.Search

/-!
# Numbers

A finite `Float` is a sign and a number `mantissa · 2^exponent`.  Its text is the shortest decimal that
reads back as it, or has a fixed number of digits.
-/

namespace AliasTools.Number

/-! ## 1. Binary fractions -/

def twoTo (k : Nat) : Nat := Nat.pow 2 k

def tenTo (k : Nat) : Nat := Nat.pow 10 k

structure Binary where
  negative : Bool
  mantissa : Nat
  exponent : Int

variable (x : Float) (negative : Bool)

def decode : Option Binary :=
  let bits := x.toBits.toNat
  let negative : Bool := bits ≥ twoTo 63
  let expo : Nat := bits / twoTo 52 % twoTo 11
  let frac : Nat := bits % twoTo 52
  if expo == 2047 then none
  else if expo == 0 then some ⟨negative, frac, -1074⟩
  else some ⟨negative, frac + twoTo 52, (expo : Int) - 1075⟩

def isNegative : Bool := x.toBits.toNat ≥ twoTo 63

def roundDiv (num den : Nat) : Nat :=
  let q := num / den
  let r := num % den
  if 2 * r > den || (2 * r == den && q % 2 == 1) then q + 1 else q

def signed (bits : Nat) : Float := Float.ofBits (UInt64.ofNat (if negative then bits + twoTo 63 else bits))

def ofRatio (num den : Nat) : Float :=
  if num == 0 then signed negative 0
  else
    let guess : Int := (Nat.log2 num : Int) - Nat.log2 den - 52
    -- The mantissa at this exponent has 53 bits, or 52 when the guess was one too high.
    let scaled (e : Int) : Nat × Nat := if e ≥ 0 then (num, den * twoTo e.toNat) else (num * twoTo (-e).toNat, den)
    let (n0, d0) := scaled guess
    let e0 : Int := if n0 / d0 < twoTo 52 then guess - 1 else guess
    let e : Int := if e0 < -1074 then -1074 else e0
    let (n, d) := scaled e
    let q := roundDiv n d
    let (q, e) : Nat × Int := if q == twoTo 53 then (twoTo 52, e + 1) else (q, e)
    if e > 971 then signed negative (2047 * twoTo 52)
    else if q < twoTo 52 then signed negative q
    else signed negative ((e + 1075).toNat * twoTo 52 + (q - twoTo 52))

def ofInt (n : Int) : Float := ofRatio (n < 0) n.natAbs 1

def ofDecimal (digits : Nat) (exponent : Int) : Float :=
  if exponent ≥ 0 then ofRatio negative (digits * tenTo exponent.toNat) 1
  else ofRatio negative digits (tenTo (-exponent).toNat)

def infinity : Float := Float.ofBits 0x7ff0000000000000

def undefined : Float := Float.ofBits 0x7ff8000000000000

def Binary.ratio (b : Binary) : Int × Nat :=
  let m : Int := if b.negative then -b.mantissa else b.mantissa
  if b.exponent ≥ 0 then (m * twoTo b.exponent.toNat, 1) else (m, twoTo (-b.exponent).toNat)

def truncate? : Option Int := (decode x).map fun b => let (n, d) := b.ratio; Int.tdiv n d

def floor? : Option Int := (decode x).map fun b => let (n, d) := b.ratio; Int.fdiv n d

def ceil? : Option Int := (decode x).map fun b => let (n, d) := b.ratio; -(Int.fdiv (-n) d)

def round? : Option Int :=
  (decode x).map fun b =>
    let (n, d) := b.ratio
    let q := roundDiv n.natAbs d
    if n < 0 then -(q : Int) else q

def compareInt (n : Int) (x : Float) : Option Ordering :=
  match decode x with
  | some b =>
    let (m, d) := b.ratio
    some (compare (n * d) m)
  | none => if x.isNaN then none else some (if isNegative x then .gt else .lt)

def toInt? : Option Int :=
  match decode x with
  | some b => let (n, d) := b.ratio; if Int.tmod n d == 0 then some (Int.tdiv n d) else none
  | none => none

/-- The remainder of `a / b` with the sign of `a`, exactly; `b` is finite and not zero. -/
def remainder (a b : Float) : Float :=
  match decode a, decode b with
  | some x, some y =>
    let e := min x.exponent y.exponent
    let p := x.mantissa * twoTo (x.exponent - e).toNat
    let q := y.mantissa * twoTo (y.exponent - e).toNat
    let r := p % q
    if e ≥ 0 then ofRatio x.negative (r * twoTo e.toNat) 1
    else ofRatio x.negative r (twoTo (-e).toNat)
  | some _, none => a
  | _, _ => undefined

/-! ## 2. Decimal text -/

def digitLimit : Nat := 4300

def firstUnwritten : Nat := tenTo digitLimit

def isWritable (n : Int) : Bool := n.natAbs < firstUnwritten

def unwritableText : String :=
  "Exceeds the limit (4300 digits) for integer string conversion; use " ++
    "sys.set_int_max_str_digits() to increase the limit"

def natText (n : Nat) : List Char := Nat.toDigits 10 n

def intText (n : Int) : List Char := if n < 0 then '-' :: natText n.natAbs else natText n.natAbs

variable (num den : Nat) (x : Float)

/-- The decimal exponent `p` of a positive quotient: `10^(p-1) ≤ num/den < 10^p`. -/
def decimalPoint : Int :=
  -- Estimate from the binary sizes, then correct: the estimate is off by one at most.
  let bits : Int := (Nat.log2 num : Int) - Nat.log2 den
  let guess : Int := Int.fdiv (bits * 30103) 100000 + 1
  let atLeast (p : Int) : Bool :=
    if p ≥ 0 then decide (num ≥ den * tenTo p.toNat) else decide (num * tenTo (-p).toNat ≥ den)
  let g := if atLeast guess then guess + 1 else guess
  let g := if atLeast g then g + 1 else g
  if atLeast (g - 1) then g else if atLeast (g - 2) then g - 1 else g - 2

def scaleTen (k : Int) : Nat × Nat := if k ≥ 0 then (num * tenTo k.toNat, den) else (num, den * tenTo (-k).toNat)

def dropZeros (digits : Nat) (exponent : Int) : Nat → Nat × Int
  | 0 => (digits, exponent)
  | k + 1 =>
    if digits != 0 && digits % 10 == 0 then dropZeros (digits / 10) (exponent + 1) k
    else (digits, exponent)

/-- The decimal with `count` digits nearest to a float that reads back as it, if there is one. -/
def readsBackWith (num den : Nat) (point : Int) (count : Nat) : Option (Nat × Int) :=
  let k : Int := count - point
  let (n, d) := scaleTen num den k
  let low := n / d
  let r := n % d
  let ok (m : Nat) : Bool := (ofDecimal false m (-k)).toBits == x.abs.toBits
  let (first, second) := if 2 * r > d || (2 * r == d && low % 2 == 1) then (low + 1, low) else (low, low + 1)
  if ok first then some (first, -k) else if ok second then some (second, -k) else none

def shortestFrom (x : Float) (num den : Nat) (point : Int) (count : Nat) : Nat → Nat × Int
  | 0 => (0, 0)
  | k + 1 =>
    match readsBackWith x num den point count with
    | some (m, e) => dropZeros m e 20
    | none => shortestFrom x num den point (count + 1) k

def shortest : Nat × Int :=
  match decode x with
  | none => (0, 0)
  | some b =>
    if b.mantissa == 0 then (0, 0)
    else
      let (n, d) := b.ratio
      shortestFrom x n.natAbs d (decimalPoint n.natAbs d) 1 17

def pointed (digits : List Char) (point : Int) : List Char × List Char :=
  if point ≤ 0 then (['0'], List.replicate (-point).toNat '0' ++ digits)
  else if point.toNat ≥ digits.length then
    (digits ++ List.replicate (point.toNat - digits.length) '0', [])
  else (digits.take point.toNat, digits.drop point.toNat)

def exponentText (mark : Char) (e : Int) : List Char :=
  let ds := natText e.natAbs
  mark :: (if e < 0 then '-' else '+') :: (if ds.length < 2 then '0' :: ds else ds)

/-- The text of a float: the fewest digits that read back. -/
def floatText : List Char :=
  if x.isNaN then "nan".toList
  else
    let sign := if isNegative x then ['-'] else []
    if x.isInf then sign ++ "inf".toList
    else
      let (m, e) := shortest x
      if m == 0 then sign ++ "0.0".toList
      else
        let ds := natText m
        let point : Int := ds.length + e
        if -4 < point && point ≤ 16 then
          let (a, b) := pointed ds point
          sign ++ a ++ ['.'] ++ (if b.isEmpty then ['0'] else b)
        else
          let mantissa := match ds with
            | [d] => [d]
            | d :: rest => d :: '.' :: rest
            | [] => []
          sign ++ mantissa ++ exponentText 'e' (point - 1)

/-- The number of digits to compute when `wanted` are asked for: a denominator `2 ^ k` leaves nothing but
    zeros after `k` digits behind the point. -/
def enoughPlaces (den wanted : Nat) : Nat :=
  let k := den.log2
  if k < wanted && den == twoTo k then k else wanted

/-- Text of `num / den` with `places` digits after the point, rounded to nearest, half to even. -/
def fixedText (num den places : Nat) : List Char × List Char :=
  let kept := enoughPlaces den places
  let q := roundDiv (num * tenTo kept) den
  let ds := natText q
  let ds := List.replicate (kept + 1 - ds.length) '0' ++ ds
  (ds.take (ds.length - kept), ds.drop (ds.length - kept) ++ List.replicate (places - kept) '0')

def significant (count : Nat) : List Char × Int :=
  let point := decimalPoint num den
  let places := (count : Int) - point
  let kept : Int := if 0 < places then (enoughPlaces den places.toNat : Nat) else places
  let (n, d) := scaleTen num den kept
  let ds := natText (roundDiv n d)
  if ds.length > count then (ds.take count, point)
  else (ds ++ List.replicate (places - kept).toNat '0', point - 1)

open Text

/-! ## 3. Reading numbers -/

def digitValue? (c : Char) : Option Nat :=
  match decimalValue? c with
  | some n => some n
  | none =>
    if 'a' ≤ c && c ≤ 'z' then some (c.toNat - 87)
    else if 'A' ≤ c && c ≤ 'Z' then some (c.toNat - 55)
    else none

def readDigits (base : Nat) (acc : Nat) (last : Bool) : List Char → Option Nat
  | [] => if last then some acc else none
  | '_' :: rest => if last then readDigits base acc false rest else none
  | c :: rest =>
    match digitValue? c with
    | some d => if d < base then readDigits base (base * acc + d) true rest else none
    | none => none

variable (base : Nat) (s : List Char)

def baseMark : List Char → Option (Nat × List Char)
  | '0' :: m :: rest =>
    let b := if m == 'x' || m == 'X' then 16 else if m == 'o' || m == 'O' then 8
      else if m == 'b' || m == 'B' then 2 else 0
    if b != 0 && (base == 0 || base == b) then
      some (b, match rest with
        | '_' :: r => r
        | r => r)
    else none
  | _ => none

/-- The number of digits at the front of a text, unless an underscore among them does not stand between two
    of them. -/
def countDigits (base : Nat) (count : Nat) (last : Bool) : List Char → Option Nat
  | [] => if last || count == 0 then some count else none
  | '_' :: rest => if last then countDigits base count false rest else none
  | c :: rest =>
    if (digitValue? c).any (· < base) then countDigits base (count + 1) true rest
    else if last || count == 0 then some count else none

def isBinaryBase : Bool := [2, 4, 8, 16, 32].contains base

inductive IntFault where
  | malformed
  | tooLong (digits : Nat)

/-- The text of the complaint about a text that is no whole number in a base; only the beginning of the
    text is quoted. -/
def IntFault.message (base : Nat) (s : String) : IntFault → String
  | .malformed =>
    s!"invalid literal for int() with base {String.ofList (natText base)}: " ++
      String.ofList ((quote s).toList.take 200)
  | .tooLong digits =>
    "Exceeds the limit (4300 digits) for integer string conversion: value has " ++ String.ofList (natText digits) ++
      " digits; use sys.set_int_max_str_digits() to increase the limit"

def splitMinus : List Char → Bool × List Char
  | '-' :: r => (true, r)
  | '+' :: r => (false, r)
  | r => (false, r)

def readSize? (t : List Char) : Option Nat :=
  match baseMark base t with
  | some (b, ds) => readDigits b 0 false ds
  | none =>
    if base == 0 then
      match readDigits 10 0 false t with
      | some n => if t.head? == some '0' && n != 0 then none else some n
      | none => none
    else readDigits base 0 false t

def excessDigits? (t : List Char) : Option Nat :=
  let (b, ds) := (baseMark base t).getD (if base == 0 then 10 else base, t)
  if isBinaryBase b then none else (countDigits b 0 false ds).filter (digitLimit < ·)

def readInt : Except IntFault Int :=
  let (negative, t) := splitMinus (stripBlank s)
  match excessDigits? base t with
  | some k => .error (.tooLong k)
  | none =>
    match readSize? base t with
    | some n => .ok (if negative then -(n : Int) else n)
    | none => .error .malformed

def readInt? : Option Int := (readInt base s).toOption

def plainDigits (last : Bool) (acc : List Char) : List Char → Option (List Char)
  | [] => if last || acc.isEmpty then some acc.reverse else none
  | '_' :: rest => if last then plainDigits false acc rest else none
  | c :: rest =>
    match decimalValue? c with
    | some d => plainDigits true (Char.ofNat (48 + d) :: acc) rest
    | none => none

def digitsNat (ds : List Char) : Nat := ds.foldl (fun n c => 10 * n + (c.toNat - 48)) 0

def readExponent? (cs : List Char) : Option Int :=
  let (negative, ds) := splitMinus cs
  match plainDigits false [] ds with
  | some [] | none => none
  | some ds => some (if negative then -(digitsNat ds : Int) else digitsNat ds)

def floatOfDecimal (negative : Bool) (ds : List Char) (exponent : Int) : Float :=
  let significant := ds.dropWhile (· == '0')
  let size : Int := significant.length + exponent
  if significant.isEmpty || size < -400 then (if negative then -0.0 else 0.0)
  else if size > 400 then (if negative then -infinity else infinity)
  else ofDecimal negative (digitsNat significant) exponent

def readNumber? : Option Float :=
  let (negative, t) := splitMinus (stripBlank s)
  let small := t.map Char.toLower
  if small == "inf".toList || small == "infinity".toList then some (if negative then -infinity else infinity)
  else if small == "nan".toList then some undefined
  else
    let isMark (c : Char) : Bool := c == 'e' || c == 'E'
    let mantissa := t.takeWhile (!isMark ·)
    let tail := t.dropWhile (!isMark ·)
    let whole := mantissa.takeWhile (· != '.')
    let after := mantissa.dropWhile (· != '.')
    let expo : Option Int := match tail with
      | [] => some 0
      | _ :: e => readExponent? e
    match expo, plainDigits false [] whole, plainDigits false [] (after.drop 1) with
    | some e, some a, some b =>
      if a.isEmpty && b.isEmpty then none
      else some (floatOfDecimal negative (a ++ b) (e - b.length))
    | _, _, _ => none

/-- All that a number may be written with. -/
def isNumberChar (c : Char) : Bool := isBlank c || isDecimal c || "+-._einftyaEINFTYA".toList.contains c

def readFloat? : Option Float := if s.all isNumberChar then readNumber? s else none

def monthDays (year month : Nat) : Nat :=
  if month == 2 then if year % 4 == 0 && (year % 100 != 0 || year % 400 == 0) then 29 else 28
  else if [4, 6, 9, 11].contains month then 30
  else 31

end AliasTools.Number
