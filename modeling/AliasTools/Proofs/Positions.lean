import AliasTools.Proofs.Pieces
import AliasTools.Proofs.Traces

/-!
# Places in a text and in its blocks

A character stands at a line and a column of its text (`charAt`), which are those at the end of what comes
before it (`placeOf`).  Where something is put behind another text its places move by the end of that text,
and this is the same move that brings the places in a block to the places in the document.
-/

namespace AliasTools.Source

open Text List Position Option

variable {c : Char} {s text : List Char} {n m : Nat} {kinds : List PieceKind} {x : PieceKind × Piece} (a b : List Char)

/-! ## 1. Lines and columns -/

def placeOf (s : List Char) : Position := ⟨countBreaks s, columnAfter s⟩

def charAt (s : List Char) (p : Position) : Option Char := ((cutAt '\n' s)[p.line]?).bind fun row => row[p.character]?

def Position.Before (p q : Position) : Prop := p.line < q.line ∨ p.line = q.line ∧ p.character < q.character

theorem Position.shift_natCast (p : Position) (lines characters : Nat) : p.shift lines characters =
      ⟨lines + p.line, p.character + if p.line = 0 then characters else 0⟩ := by
  by_cases first : p.line = 0
  · simp [shift, first]; omega
  · simp [shift, first]; omega

theorem countBreaks_append : countBreaks (a ++ b) = countBreaks a + countBreaks b := countP_append

theorem takeWhile_of_unbroken (unbroken : countBreaks s = 0) (rest : List Char) :
    (s.reverse ++ rest).takeWhile (· != '\n') = s.reverse ++ rest.takeWhile (· != '\n') :=
  takeWhile_append_of_pos (by simpa using countP_eq_zero.1 unbroken)

theorem columnAfter_of_unbroken (unbroken : countBreaks s = 0) : columnAfter s = s.length := by
  have whole := takeWhile_of_unbroken unbroken []
  rw [takeWhile_nil, append_nil] at whole
  rw [columnAfter, whole, length_reverse]

theorem columnAfter_append : columnAfter (a ++ b) = columnAfter b + if countBreaks b = 0 then columnAfter a else 0 := by
  split
  · rename_i unbroken
    rw [columnAfter_of_unbroken unbroken, columnAfter, reverse_append,
      takeWhile_of_unbroken unbroken, length_append, length_reverse]
    rfl
  · rename_i broken
    rw [columnAfter, reverse_append, takeWhile_append, if_neg]
    · rfl
    · intro whole
      have front : b.reverse.takeWhile (· != '\n') <+: b.reverse := takeWhile_prefix _
      have same := front.eq_of_length whole
      have all := all_eq_true.1 (same ▸ all_takeWhile : b.reverse.all (· != '\n') = true)
      exact broken (countP_eq_zero.2 (by simpa using all))

theorem placeOf_append : placeOf (a ++ b) = (placeOf b).shift (placeOf a).line (placeOf a).character := by
  rw [shift_natCast]
  simp only [placeOf, countBreaks_append, columnAfter_append]
  rfl

theorem placeOf_break (s : List Char) : placeOf ('\n' :: s) = ⟨(placeOf s).line + 1, (placeOf s).character⟩ := by
  have := placeOf_append ['\n'] s
  rw [shift_natCast, show placeOf ['\n'] = ⟨1, 0⟩ from rfl] at this
  simpa [Nat.add_comm] using this

theorem placeOf_other (other : c ≠ '\n') (s : List Char) : placeOf (c :: s) =
      ⟨(placeOf s).line, (placeOf s).character + if (placeOf s).line = 0 then 1 else 0⟩ := by
  have := placeOf_append [c] s
  have one : placeOf [c] = ⟨0, 1⟩ := by simp [placeOf, countBreaks, columnAfter, other]
  rw [shift_natCast, one] at this
  simpa using this

theorem before_placeOf_append (a : List Char) {b : List Char} (longer : b ≠ []) :
    (placeOf a).Before (placeOf (a ++ b)) := by
  rw [placeOf_append, shift_natCast, Before]
  by_cases broken : (placeOf b).line = 0
  · have column : (placeOf b).character = b.length := columnAfter_of_unbroken broken
    have := length_pos_iff.2 longer
    simp only [broken, if_true]
    omega
  · exact .inl (by dsimp only; omega)

/-! ## 2. What stands at a place -/

@[simp] theorem cutAt_break (s : List Char) : cutAt '\n' ('\n' :: s) = [] :: cutAt '\n' s := rfl

theorem cutAt_other (other : c ≠ '\n') (s : List Char) :
    ∃ line rest, cutAt '\n' s = line :: rest ∧ cutAt '\n' (c :: s) = (c :: line) :: rest := by
  have some_line : cutAt '\n' s ≠ [] := by
    intro none
    have := Script.length_cutAt '\n' s
    simp [none] at this
  obtain ⟨line, rest, cut⟩ := exists_cons_of_ne_nil some_line
  refine ⟨line, rest, cut, ?_⟩
  rw [cutAt] at cut
  rw [cutAt, foldr_cons, if_neg other, cut]

theorem charAt_break (s : List Char) (p : Position) :
    charAt ('\n' :: s) p = if p.line = 0 then none else charAt s ⟨p.line - 1, p.character⟩ := by
  rcases p with ⟨_ | line, column⟩ <;> simp [charAt]

theorem charAt_other (other : c ≠ '\n') (s : List Char) (p : Position) : charAt (c :: s) p =
      if p.line = 0 then if p.character = 0 then some c else charAt s ⟨0, p.character - 1⟩
      else charAt s p := by
  obtain ⟨line, rest, cut, cut'⟩ := cutAt_other other s
  rcases p with ⟨_ | line, _ | column⟩ <;> simp [charAt, cut, cut']

theorem Position.eq_mk_iff {q : Position} : q = ⟨l, n⟩ ↔ q.line = l ∧ q.character = n := by
  cases q
  simp

theorem exists_append_cons {P : List Char → Prop} : (∃ a b, d :: s = a ++ c :: b ∧ P a) ↔
      (d = c ∧ P []) ∨ ∃ a b, s = a ++ c :: b ∧ P (d :: a) := by
  constructor
  · rintro ⟨_ | ⟨_, a⟩, b, same, holds⟩ <;> obtain ⟨rfl, rfl⟩ := cons.inj same
    · exact .inl ⟨rfl, holds⟩
    · exact .inr ⟨a, b, rfl, holds⟩
  · rintro (⟨rfl, holds⟩ | ⟨a, b, rfl, holds⟩)
    · exact ⟨[], s, rfl, holds⟩
    · exact ⟨d :: a, b, rfl, holds⟩

/-- **What stands at a place follows the text that ends there.** -/
theorem charAt_eq_some_iff : charAt s p = some c ↔ c ≠ '\n' ∧ ∃ a b, s = a ++ c :: b ∧ placeOf a = p := by
  induction s generalizing p with
  | nil => rcases p with ⟨_ | line, column⟩ <;> simp [charAt, cutAt]
  | cons d s ih =>
    -- either the text that ends there is empty, or it has the first character too
    rw [exists_append_cons, show placeOf [] = ⟨0, 0⟩ from rfl]
    by_cases broken : d = '\n'
    · rw [broken, charAt_break]
      simp only [placeOf_break]
      rcases p with ⟨_ | line, column⟩ <;> grind [Position.eq_mk_iff]
    · rw [charAt_other broken]
      simp only [placeOf_other broken]
      rcases p with ⟨_ | line, _ | column⟩ <;> grind [Position.eq_mk_iff]

theorem charAt_shift {a b : List Char} (found : charAt s p = some c) :
    charAt (a ++ (s ++ b)) (p.shift (placeOf a).line (placeOf a).character) = some c := by
  obtain ⟨other, front, rest, rfl, rfl⟩ := charAt_eq_some_iff.1 found
  exact charAt_eq_some_iff.2 ⟨other, a ++ front, rest ++ b, by simp, placeOf_append a front⟩

/-! ## 3. Where the code of a piece stands -/

theorem findTag_found (found : findTag tag n s = some m) : ∃ i, m = n + i ∧ beginsWithTag tag (s.drop i) = true := by
  fun_induction findTag tag n s with
  | case1 => cases found
  | case2 n c rest tagged => exact ⟨0, (some.inj found).symm, tagged⟩
  | case3 n c rest _ ih =>
    obtain ⟨i, rfl, tagged⟩ := ih found
    exact ⟨i + 1, by omega, tagged⟩

theorem findFrom_found (found : findFrom mark n s = some m) : ∃ i, m = n + i ∧ mark <+: s.drop i := by
  fun_induction findFrom mark n s with
  | case1 n empty => exact ⟨0, (some.inj found).symm, by simp [isEmpty_iff.1 empty]⟩
  | case2 => cases found
  | case3 n c rest here => exact ⟨0, (some.inj found).symm, isPrefixOf_iff_prefix.1 here⟩
  | case4 n c rest _ ih =>
    obtain ⟨i, rfl, here⟩ := ih found
    exact ⟨i + 1, by omega, here⟩

theorem findSingleClose_found (found : findSingleClose before n s = some m) :
    ∃ i, m = n + i ∧ ['\x7d'] <+: s.drop i := by
  fun_induction findSingleClose before n s with
  | case1 => cases found
  | case2 before n c rest here =>
    simp only [Bool.and_eq_true, beq_iff_eq] at here
    exact ⟨0, (some.inj found).symm, rest, by rw [here.1.1]; rfl⟩
  | case3 before n c rest _ ih =>
    obtain ⟨i, rfl, here⟩ := ih found
    exact ⟨i + 1, by omega, here⟩

theorem beginsFlat_mark (unbroken : countBreaks mark = 0) (here : mark <+: s) : BeginsFlat s mark.length :=
  ⟨here.length_le, by rw [← prefix_iff_eq_take.1 here, unbroken]⟩

theorem PieceKind.beginsFlat_of_closes {k : PieceKind} (closed : k.marks.closes s = some (n, e)) :
    0 < e ∧ BeginsFlat (s.drop n) e := by
  cases k <;>
    obtain ⟨m, found, same⟩ := map_eq_some_iff.1 closed <;>
    obtain ⟨rfl, rfl⟩ := Prod.mk.inj same
  · obtain ⟨i, rfl, tagged⟩ := findTag_found found
    rw [Nat.zero_add]
    exact ⟨by decide, beginsFlat_tag (by decide) tagged⟩
  · obtain ⟨i, rfl, here⟩ := findFrom_found found
    rw [Nat.zero_add]
    exact ⟨by decide, beginsFlat_mark rfl here⟩
  · obtain ⟨i, rfl, here⟩ := findSingleClose_found found
    rw [Nat.zero_add]
    exact ⟨by decide, beginsFlat_mark rfl here⟩

/-- A piece is its code between two marks. -/
theorem Placed.parts (placed : Placed kinds text x) :
    ∃ before opening closing rest, text = before ++ (opening ++ (x.2.code ++ (closing ++ rest))) ∧
      x.2.start = before.length ∧ x.2.codeStart = x.2.start + opening.length ∧
      x.2.stop = x.2.codeStart + x.2.code.length + closing.length ∧ closing ≠ [] ∧
      countBreaks opening = 0 ∧ countBreaks closing = 0 := by
  obtain ⟨before, rest, rfl, found⟩ := placed
  have found := (pieceAt_eq_some_iff.1 found).2
  unfold Marks.pieceAt at found
  split at found
  · cases found
  · rename_i o opened
    obtain ⟨⟨n, e⟩, closed, same⟩ := map_eq_some_iff.1 found
    obtain ⟨some_mark, room, flat⟩ := PieceKind.beginsFlat_of_closes closed
    obtain ⟨-, ⟨room', flat'⟩, -⟩ := PieceKind.opens_cases opened
    simp only [length_drop] at room
    refine ⟨before, rest.take o, ((rest.drop o).drop n).take e, ((rest.drop o).drop n).drop e, ?_⟩
    rw [← same]
    refine ⟨?_, rfl, by simp; omega, by simp; omega, ne_nil_of_length_pos (by simp; omega), flat', flat⟩
    rw [take_append_drop, take_append_drop, take_append_drop]

theorem Placed.code_eq (placed : Placed kinds text x) :
    x.2.start ≤ x.2.codeStart ∧ x.2.codeStart + x.2.code.length < x.2.stop ∧ x.2.stop ≤ text.length ∧
      ∃ b, text = text.take x.2.codeStart ++ (x.2.code ++ b) := by
  obtain ⟨before, opening, closing, rest, rfl, start, code, stop, some_mark, -⟩ := placed.parts
  have := length_pos_iff.2 some_mark
  refine ⟨by omega, by omega, ?_, closing ++ rest, ?_⟩
  · simp only [length_append]
    omega
  · rw [code, start, take_length_add_append, take_left, append_assoc]

/-! ## 4. Blocks -/

def Block.place (b : Block) : Position := ⟨b.line, b.column⟩

def Block.stop (b : Block) : Position := (placeOf b.code.toList).shift b.line b.column

/-- The code of a block is the stretch of a text at an offset, and begins at the place of the block. -/
def Block.StandsAt (text : List Char) (b : Block) (offset : Nat) : Prop :=
  ∃ before rest, text = before ++ (b.code.toList ++ rest) ∧ before.length = offset ∧ placeOf before = b.place

namespace Block.StandsAt

variable {text : List Char} {b : Block} {o : Nat}

theorem charAt_shift (stands : b.StandsAt text o) (found : charAt b.code.toList p = some c) :
    charAt text (p.shift b.line b.column) = some c := by
  obtain ⟨before, rest, rfl, -, place⟩ := stands
  have moved := Source.charAt_shift (a := before) (b := rest) found
  rwa [place] at moved

theorem placeOf_take (stands : b.StandsAt text o) : placeOf (text.take o) = b.place := by
  obtain ⟨before, rest, rfl, rfl, place⟩ := stands
  rw [take_left, place]

theorem placeOf_take_stop (stands : b.StandsAt text o) : placeOf (text.take (o + b.code.toList.length)) = b.stop := by
  obtain ⟨before, rest, rfl, rfl, place⟩ := stands
  rw [take_length_add_append, take_left, placeOf_append, place]
  rfl

end Block.StandsAt

theorem before_of_lt (later : o < o') (inside : o' ≤ text.length) :
    (placeOf (text.take o)).Before (placeOf (text.take o')) := by
  have cut : text.take o' = text.take o ++ (text.take o').drop o := by
    have := take_append_drop o (text.take o')
    rwa [take_take, Nat.min_eq_left (Nat.le_of_lt later), eq_comm] at this
  rw [cut]
  refine before_placeOf_append _ (ne_nil_of_length_pos ?_)
  simp
  omega

theorem placeOf_replicate (n : Nat) : placeOf (replicate n '\n') = ⟨n, 0⟩ := by
  induction n with
  | zero => rfl
  | succ n ih => rw [replicate_succ, placeOf_break, ih]

theorem Placed.standsAt (placed : Placed kinds text x) (inline : Bool) :
    ∃ o, (x.2.block text inline).StandsAt text o ∧ x.2.start ≤ o ∧
      o + (x.2.block text inline).code.toList.length < x.2.stop := by
  obtain ⟨start, stop, room, rest, cut⟩ := placed.code_eq
  -- The empty lines at the top, and the code behind them.
  generalize top : (x.2.code.takeWhile (· == '\n')).length = n
  have blank : x.2.code.takeWhile (· == '\n') = replicate n '\n' := by
    refine eq_replicate_iff.2 ⟨top, fun c inside => ?_⟩
    simpa using all_eq_true.1 all_takeWhile c inside
  have code : x.2.code = replicate n '\n' ++ x.2.code.drop n := by
    have front := takeWhile_prefix (· == '\n') (l := x.2.code)
    have split := prefix_iff_eq_append.1 front
    rw [blank, length_replicate] at split
    exact split.symm
  have block_code : (x.2.block text inline).code.toList = x.2.code.drop n := by
    simp only [Piece.block, top, String.toList_ofList]
  have block_place : (x.2.block text inline).place = placeOf (text.take x.2.codeStart ++ replicate n '\n') := by
    rw [placeOf_append, placeOf_replicate, shift_natCast]
    simp only [Block.place, Piece.block, top, placeOf]
    by_cases none : n = 0 <;> simp [none]
  have offset : (text.take x.2.codeStart).length = x.2.codeStart := by
    rw [length_take]
    omega
  refine ⟨x.2.codeStart + n, ⟨_, rest, ?_, ?_, block_place.symm⟩, by omega, ?_⟩
  · rw [block_code, append_assoc, ← append_assoc _ _ rest, ← code, ← cut]
  · rw [length_append, length_replicate, offset]
  · have := congrArg length code
    simp only [length_append, length_replicate] at this
    rw [block_code]
    omega

theorem lineCount_blocksOf {b : Block} (listed : b ∈ blocksOf source isModule) :
    b.lineCount = countBreaks b.code.toList + 1 := by
  rw [blocksOf] at listed
  split at listed
  · obtain rfl := mem_singleton.1 listed
    rfl
  · obtain ⟨x, found, rfl⟩ := mem_map.1 listed
    simp only [Piece.block, String.toList_ofList]
    rfl

theorem standsAt_blocksOf {b : Block} (listed : b ∈ blocksOf source isModule) : ∃ o, b.StandsAt source.toList o := by
  rw [blocksOf] at listed
  split at listed
  · obtain rfl := mem_singleton.1 listed
    exact ⟨0, [], [], by simp, rfl, rfl⟩
  · obtain ⟨x, found, rfl⟩ := mem_map.1 listed
    have among := ((selects_piecesOf _ _).among x found).1
    obtain ⟨o, stands, -⟩ := (placed_of_found among).standsAt (x.1 == .inline)
    exact ⟨o, stands⟩

theorem pairwise_blocksOf (source : String) (isModule : Bool) :
    (blocksOf source isModule).Pairwise fun b b' => b.place.Before b'.place ∧ b.stop.Before b'.place := by
  rw [blocksOf]
  split
  · exact pairwise_singleton _ _
  · have apart := (selects_piecesOf [.block, .inline] source.toList).apart
    have placed := fun x found =>
      placed_of_found ((selects_piecesOf [.block, .inline] source.toList).among x found).1
    refine pairwise_map.2 (apart.imp_of_mem fun {x y} found found' behind => ?_)
    obtain ⟨o, stands, -, stop⟩ := (placed x found).standsAt (x.1 == .inline)
    obtain ⟨o', stands', start', stop'⟩ := (placed y found').standsAt (y.1 == .inline)
    have room := (placed y found').code_eq.2.2.1
    rw [← stands.placeOf_take, ← stands.placeOf_take_stop, ← stands'.placeOf_take]
    exact ⟨before_of_lt (by omega) (by omega), before_of_lt (by omega) (by omega)⟩

/-- **The blocks of a document stand one behind the other, and each character of a block is the one of the
    document at its place after the move.** -/
theorem blocksOf_positions (source : String) (isModule : Bool) :
    (blocksOf source isModule).Pairwise (fun b b' => b.place.Before b'.place ∧ b.stop.Before b'.place) ∧
    ∀ b ∈ blocksOf source isModule,
      b.lineCount = (cutAt '\n' b.code.toList).length ∧
      ∀ (l c : Nat) (ch : Char) (stop : Position), charAt b.code.toList ⟨l, c⟩ = some ch →
        ((Range.mk ⟨l, c⟩ stop).shift b.line b.column).start =
            ⟨b.line + l, c + if l = 0 then b.column else 0⟩ ∧
          charAt source.toList ((Range.mk ⟨l, c⟩ stop).shift b.line b.column).start = some ch := by
  refine ⟨pairwise_blocksOf source isModule, fun b listed => ⟨?_, fun l c ch stop found => ⟨?_, ?_⟩⟩⟩
  · rw [lineCount_blocksOf listed, Script.length_cutAt]
    rfl
  · exact Position.shift_natCast ⟨l, c⟩ b.line b.column
  · obtain ⟨o, stands⟩ := standsAt_blocksOf listed
    exact stands.charAt_shift found

theorem blocksOf_positions_second_line :
    let source := "echo <drac2>x = 1\ny = x</drac2> \x7b\x7bx + y\x7d\x7d"
    let block : Block := ⟨"x + y", 1, 16, 1, true⟩
    block ∈ blocksOf source false ∧ charAt block.code.toList ⟨0, 2⟩ = some '+' ∧
      charAt source.toList ⟨1, 18⟩ = some '+' := by
  intro source block
  have listed : block ∈ blocksOf source false := by
    rw [blocksOf, piecesOf_of_sorted (by decide +kernel)]
    decide +kernel
  have found : charAt block.code.toList ⟨0, 2⟩ = some '+' := by decide +kernel
  exact ⟨listed, found, (((blocksOf_positions source false).2 block listed).2 0 2 '+' ⟨0, 3⟩ found).2⟩

end AliasTools.Source
