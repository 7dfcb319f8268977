import AliasTools.Number

/-!
# Differences of texts

Two texts, line by line, are laid side by side along the longest run of equal lines, and so on in the
parts before and after it.
-/

namespace AliasTools.Text

structure Run where
  left : Nat
  right : Nat
  size : Nat

def commonLines (b : Array String) : List String :=
  if b.size < 200 then []
  else
    let ls := b.toList
    ls.eraseDups.filter fun l => b.size / 100 + 1 < ls.count l

variable (a b : Array String)

def longerRun (common : List String) (blo bhi : Nat) (state : Array Nat × Run) (i : Nat) : Array Nat × Run :=
  let line := a.getD i ""
  if common.contains line then (Array.replicate b.size 0, state.2)
  else
    (List.range' blo (bhi - blo)).foldl (fun (row, best) j =>
      if b.getD j "" == line then
        let k := (if j == 0 then 0 else state.1.getD (j - 1) 0) + 1
        (row.setIfInBounds j k, if best.size < k then ⟨i + 1 - k, j + 1 - k, k⟩ else best)
      else (row, best)) (Array.replicate b.size 0, state.2)

def growBack (a b : Array String) (alo blo : Nat) : Nat → Run → Run
  | 0, r => r
  | fuel + 1, r =>
    if alo < r.left && blo < r.right && a.getD (r.left - 1) "" == b.getD (r.right - 1) "" then
      growBack a b alo blo fuel ⟨r.left - 1, r.right - 1, r.size + 1⟩
    else r

def growOn (a b : Array String) (ahi bhi : Nat) : Nat → Run → Run
  | 0, r => r
  | fuel + 1, r =>
    if r.left + r.size < ahi && r.right + r.size < bhi &&
        a.getD (r.left + r.size) "" == b.getD (r.right + r.size) "" then
      growOn a b ahi bhi fuel { r with size := r.size + 1 }
    else r

def longestRun (common : List String) (alo ahi blo bhi : Nat) : Run :=
  let start : Array Nat × Run := (Array.replicate b.size 0, ⟨alo, blo, 0⟩)
  let (_, best) := (List.range' alo (ahi - alo)).foldl (longerRun a b common blo bhi) start
  growOn a b ahi bhi a.size (growBack a b alo blo a.size best)

def runsWithin (a b : Array String) (common : List String) (alo ahi blo bhi : Nat) : Nat → List Run
  | 0 => []
  | fuel + 1 =>
    let r := longestRun a b common alo ahi blo bhi
    if r.size == 0 then []
    else
      let before := if alo < r.left && blo < r.right then runsWithin a b common alo r.left blo r.right fuel else []
      let i := r.left + r.size
      let j := r.right + r.size
      let after := if i < ahi && j < bhi then runsWithin a b common i ahi j bhi fuel else []
      before ++ r :: after

def joinRuns : List Run → List Run
  | [] => []
  | r :: rs =>
    match joinRuns rs with
    | s :: rest =>
      if r.left + r.size == s.left && r.right + r.size == s.right then { r with size := r.size + s.size } :: rest
      else r :: s :: rest
    | [] => [r]

def runsOf : List Run := joinRuns (runsWithin a b (commonLines b) 0 a.size 0 b.size (a.size + 1))

structure Stretch where
  same : Bool
  left : Nat
  leftEnd : Nat
  right : Nat
  rightEnd : Nat

def stretchesFrom (i j : Nat) (iEnd jEnd : Nat) : List Run → List Stretch
  | [] => if i < iEnd || j < jEnd then [⟨false, i, iEnd, j, jEnd⟩] else []
  | r :: rs =>
    let changed := if i < r.left || j < r.right then [⟨false, i, r.left, j, r.right⟩] else []
    let i' := r.left + r.size
    let j' := r.right + r.size
    changed ++ ⟨true, r.left, i', r.right, j'⟩ :: stretchesFrom i' j' iEnd jEnd rs

def stretches : List Stretch := stretchesFrom 0 0 a.size b.size (runsOf a b)

def around : Nat := 3

def cutFront : List Stretch → List Stretch
  | s :: rest =>
    if s.same then { s with left := max s.left (s.leftEnd - around)
                            right := max s.right (s.rightEnd - around) } :: rest
    else s :: rest
  | [] => []

def Stretch.cutBack (s : Stretch) : Stretch :=
  { s with leftEnd := min s.leftEnd (s.left + around)
           rightEnd := min s.rightEnd (s.right + around) }

def cutLast : List Stretch → List Stretch
  | [s] => if s.same then [s.cutBack] else [s]
  | s :: rest => s :: cutLast rest
  | [] => []

def hunksFrom (acc : List Stretch) : List Stretch → List (List Stretch)
  | [] => [acc.reverse]
  | s :: rest =>
    if s.same && around + around < s.leftEnd - s.left then
      let next := { s with left := max s.left (s.leftEnd - around)
                           right := max s.right (s.rightEnd - around) }
      (s.cutBack :: acc).reverse :: hunksFrom [next] rest
    else hunksFrom (s :: acc) rest

def hunks : List (List Stretch) := (hunksFrom [] (cutLast (cutFront (stretches a b)))).filter fun h => h.any (!·.same)

def shownRange (start stop : Nat) : String :=
  let number (n : Nat) : String := String.ofList (Number.natText n)
  let size := stop - start
  if size == 1 then number (start + 1)
  else number (if size == 0 then start else start + 1) ++ "," ++ number size

def stretchLines (s : Stretch) : List String :=
  let left := (a.extract s.left s.leftEnd).toList
  if s.same then left.map (" " ++ ·)
  else left.map ("-" ++ ·) ++ (b.extract s.right s.rightEnd).toList.map ("+" ++ ·)

def hunkLines (h : List Stretch) : List String :=
  match h.head?, h.getLast? with
  | some first, some last =>
    (s!"@@ -{shownRange first.left last.leftEnd} +{shownRange first.right last.rightEnd}" ++
      " @@") :: h.flatMap (stretchLines a b)
  | _, _ => []

def diffLines (leftName rightName : String) (a b : List String) : List String :=
  let a := a.toArray
  let b := b.toArray
  match hunks a b with
  | [] => []
  | hs => s!"--- {leftName}" :: s!"+++ {rightName}" :: hs.flatMap (hunkLines a b)

end AliasTools.Text
