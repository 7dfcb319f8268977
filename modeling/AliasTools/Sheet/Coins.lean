import AliasTools.Number

/-!
# Amounts of coins

An amount is written as a number of gold pieces, or as a row of numbers with the names of coins:
`10cp +101gp -2sp`.
-/

namespace AliasTools.Sheet

open Text Number

structure Coins where
  pp : Int := 0
  gp : Int := 0
  ep : Int := 0
  sp : Int := 0
  cp : Int := 0

inductive CoinFault where
  | unbounded
  | notCoins
  | longCount (digits : Nat)

def CoinFault.message : CoinFault → String
  | .unbounded => "cannot convert float infinity to integer"
  | .notCoins => "Coins must be a number or a currency string, e.g. `+101.2` or `10cp +101gp -2sp`."
  | .longCount digits => IntFault.message 10 "" (.tooLong digits)

def countFloat? (n : Int) : Option Float :=
  let x := ofInt n
  if x.isInf then none else some x

def Coins.total? (c : Coins) : Option Float := do
  let gold ← countFloat? (c.pp * 10 + c.gp)
  let electrum ← countFloat? c.ep
  let silver ← countFloat? c.sp
  let copper ← countFloat? c.cp
  return gold + electrum * 0.5 + silver * 0.1 + copper * 0.01

def Coins.ofCopper (negative : Bool) (n : Int) : Coins :=
  if negative then { cp := n }
  else { gp := n / 100, sp := n % 100 / 10, cp := n % 10 }

def Coins.ofGold? (gold : Float) : Option Coins :=
  match decode (gold * 100.0) with
  | none => none
  | some b =>
    let (n, d) := b.ratio
    let rounded := ofRatio b.negative (roundDiv (n.natAbs * 10) d) 10
    (truncate? rounded).map (Coins.ofCopper (gold < 0.0))

def Coins.plus (a b : Coins) : Coins := ⟨a.pp + b.pp, a.gp + b.gp, a.ep + b.ep, a.sp + b.sp, a.cp + b.cp⟩

structure CoinWord where
  coin : Char
  negative : Bool
  digits : List Char

def CoinWord.isLong (w : CoinWord) : Bool := digitLimit < w.digits.length

def CoinWord.worth (w : CoinWord) : Coins :=
  let n : Nat := w.digits.foldl (fun n d => 10 * n + (decimalValue? d).getD 0) 0
  let n : Int := if w.negative then -n else n
  match w.coin with
  | 'p' => { pp := n }
  | 'g' => { gp := n }
  | 'e' => { ep := n }
  | 's' => { sp := n }
  | _ => { cp := n }

/-- The coin that a letter means; the long `ſ` is read as a letter, but means copper. -/
def coinOf? (c : Char) : Option Char := ("pgescPGESCſ".toList.zip "pgescpgescc".toList).lookup c

def isCount (c : Char) : Bool := isDecimal c && (coinOf? c).isNone

def isGap (c : Char) : Bool := isBlank c && !isDecimal c && (coinOf? c).isNone

def oneCoin? (s : List Char) : Option (CoinWord × List Char) :=
  let (negative, s) := splitMinus s
  match (s.dropWhile isCount).dropWhile isGap with
  | letter :: mark :: rest =>
    let ds := s.takeWhile isCount
    match coinOf? letter with
    | some coin =>
      if ds.isEmpty || !(mark == 'p' || mark == 'P') then none else some (⟨coin, negative, ds⟩, rest.dropWhile isGap)
    | none => none
  | _ => none

def coinRow? (s : List Char) : Nat → Option (List CoinWord)
  | 0 => none
  | k + 1 =>
    match oneCoin? s with
    | none => none
    | some (w, rest) => if rest.isEmpty then some [w] else (coinRow? rest k).map (w :: ·)

def Coins.total (ws : List CoinWord) : Coins := ws.foldr (fun w c => w.worth.plus c) {}

def Coins.ofRow (ws : List CoinWord) : Except CoinFault Coins :=
  match ws.find? (·.isLong) with
  | some w => .error (.longCount w.digits.length)
  | none => .ok (total ws)

def Coins.ofChars (s : List Char) : Except CoinFault Coins :=
  let row : Except CoinFault Coins := match coinRow? s (s.length + 1) with
    | some ws => Coins.ofRow ws
    | none => .error .notCoins
  match readFloat? s with
  | none => row
  | some x =>
    if x.isNaN then row
    else
      match Coins.ofGold? x with
      | some c => .ok c
      | none => .error .unbounded

/-- The characters of an amount, in which commas do not count. -/
def amountChars (text : String) : List Char := text.toList.filter (· != ',')

def Coins.parse (text : String) : Except CoinFault Coins := Coins.ofChars (amountChars text)

end AliasTools.Sheet
