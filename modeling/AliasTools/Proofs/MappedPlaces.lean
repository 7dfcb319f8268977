import AliasTools.Proofs.Placeholders
import AliasTools.Proofs.Positions
import AliasTools.Proofs.Rendering

/-!
# From a document to its blocks and back

A cursor is looked for by its line alone, in the first block that has this line, and its column stays as it
is.
-/

namespace AliasTools.Source

open Text Command List
open Script (beginsPlaceholder)

/-! ## 1. Cursors -/

/-- A place between the first character of a block and the place behind its last one. -/
def Block.Holds (b : Block) (p : Position) : Prop := ¬p.Before b.place ∧ ¬b.stop.Before p

theorem line_stop (listed : b ∈ blocksOf source false) : b.stop.line + 1 = b.line + b.lineCount := by
  rw [lineCount_blocksOf listed, Block.stop, Position.shift_natCast]
  rfl

theorem View.blocks_of {source : String} (free : ∀ t ∈ source.toList.tails, beginsPlaceholder t = false) :
    (View.of source false).blocks = blocksOf source false := by
  have same := Script.fillPlaceholders_eq_self free []
  simp [View.of, same]

/-- **A cursor in a block is brought to the first block with its line: to its own one if no block before it
    ends on that line.  Moved as the block is, it is the cursor again unless this is the line on which the
    block begins, behind other text.** -/
theorem codeAt?_of_cursor {source : String} {b : Block} {p : Position}
    (free : ∀ t ∈ source.toList.tails, beginsPlaceholder t = false)
    (listed : b ∈ blocksOf source false) (inside : b.Holds p) :
    ∃ b' ∈ blocksOf source false,
      (View.of source false).codeAt? p.line p.character =
        some (b'.code, ((p.line - b'.line : Nat) : Int), (p.character : Int)) ∧
      (b' = b ↔ ∀ x ∈ blocksOf source false, x.place.Before b.place → x.stop.line < p.line) ∧
      ((⟨p.line - b'.line, p.character⟩ : Position).shift b'.line b'.column = p ↔
        p.line = b'.line → b'.column = 0) := by
  have reached : ∀ x ∈ blocksOf source false, ((x.line : Int) ≤ p.line &&
      (p.line : Int) ≤ (x.line + x.lineCount : Int) - 1) = true ↔ x.line ≤ p.line ∧ p.line ≤ x.stop.line := by
    intro x among
    have := line_stop among
    simp only [Bool.and_eq_true, decide_eq_true_eq]
    omega
  have own : b.line ≤ p.line ∧ p.line ≤ b.stop.line := by
    simp only [Block.Holds, Position.Before, Block.place] at inside
    omega
  have blocks := View.blocks_of free
  -- The first block with the line, and those before and behind it.
  obtain ⟨b', first⟩ : ∃ b', (View.of source false).blockAt? p.line = some b' := by
    rw [← Option.isSome_iff_exists, View.blockAt?, blocks, List.find?_isSome]
    exact ⟨b, listed, (reached b listed).2 own⟩
  have answer : (View.of source false).codeAt? p.line p.character =
      some (b'.code, (p.line : Int) - b'.line, (p.character : Int)) := by
    rw [View.codeAt?, first, blocks, if_neg]
    · rfl
    · exact fun none => List.ne_nil_of_mem listed (List.isEmpty_iff.1 none)
  rw [View.blockAt?, blocks] at first
  obtain ⟨has, before, behind, all, lacks⟩ := List.find?_eq_some_iff_append.1 first
  have among : b' ∈ blocksOf source false := List.mem_of_find?_eq_some first
  have lines := (reached b' among).1 has
  have missed : ∀ x ∈ before, ¬(x.line ≤ p.line ∧ p.line ≤ x.stop.line) := by
    intro x old lines
    have := lacks x old
    rw [(reached x (all ▸ List.mem_append_left _ old)).2 lines] at this
    cases this
  have order := pairwise_blocksOf source false
  rw [all] at order
  have behind_all := (List.pairwise_cons.1 (List.pairwise_append.1 order).2.1).1
  refine ⟨b', among, ?_, ⟨?_, ?_⟩, ?_⟩
  · rw [answer, Int.ofNat_sub lines.1]
  · rintro rfl x found earlier
    simp only [Position.Before, Block.place] at earlier
    rw [all] at found
    obtain old | rfl | new := (List.mem_append.1 found).imp_right List.mem_cons.1
    · have := missed x old
      omega
    · omega
    · have := (behind_all x new).1
      simp only [Position.Before, Block.place] at this
      omega
  · intro ended
    have found := listed
    rw [all] at found
    obtain old | same | new := (List.mem_append.1 found).imp_right List.mem_cons.1
    · exact absurd own (missed b old)
    · exact same.symm
    · have := ended b' among (behind_all b new).1
      omega
  · obtain ⟨line, character⟩ := p
    simp only [Position.shift_natCast, Position.mk.injEq]
    simp only at lines
    split <;> omega

theorem codeAt?_of_cursor_second_line :
    let source := "<drac2>a = 0</drac2> <drac2>x = 1\ny = a</drac2>"
    (View.of source false).codeAt? 1 4 = some ("x = 1\ny = a", 1, 4) ∧
      (⟨1, 4⟩ : Position).shift 0 28 = ⟨1, 4⟩ := by
  intro source
  let b : Block := ⟨"x = 1\ny = a", 0, 28, 2, false⟩
  have blocks : blocksOf source false = [⟨"a = 0", 0, 7, 1, false⟩, b] := by
    rw [blocksOf, piecesOf_of_sorted (by decide +kernel)]
    decide +kernel
  have listed : b ∈ blocksOf source false := by simp [blocks]
  have inside : b.Holds ⟨1, 4⟩ := by simp [Block.Holds, Position.Before]; decide +kernel
  have free : ∀ t ∈ source.toList.tails, beginsPlaceholder t = false := by decide +kernel
  obtain ⟨b', -, answer, own, back⟩ := codeAt?_of_cursor free listed inside
  obtain rfl := own.2 (by
    rw [blocks]
    intro x among early
    obtain rfl | rfl := by simpa using among
    · decide +kernel
    · simp [Position.Before] at early)
  exact ⟨answer, back.2 (by decide)⟩

theorem codeAt?_of_cursor_behind_text :
    let source := "echo \x7b\x7bfoo\x7d\x7d"
    let b : Block := ⟨"foo", 0, 7, 1, true⟩
    b ∈ blocksOf source false ∧ b.Holds ⟨0, 8⟩ ∧
      (View.of source false).codeAt? 0 8 = some ("foo", 0, 8) ∧
      (⟨0, 8⟩ : Position).shift b.line b.column = ⟨0, 15⟩ := by
  intro source b
  have blocks : blocksOf source false = [b] := by
    rw [blocksOf, piecesOf_of_sorted (by decide +kernel)]
    decide +kernel
  refine ⟨by simp [blocks], ?_, ?_, rfl⟩
  · simp [Block.Holds, Position.Before]; decide +kernel
  · rw [View.codeAt?, View.blockAt?, View.blocks_of (by decide +kernel), blocks]
    decide +kernel

/-! ## 2. Lines of a text with its arguments -/

variable {a s : List Char} {v : Values}

theorem cutAt_append (unbroken : '\n' ∉ a)
    (cut : cutAt '\n' s = line :: rest) : cutAt '\n' (a ++ s) = (a ++ line) :: rest := by
  induction a with
  | nil => exact cut
  | cons c a ih =>
    obtain ⟨other, unbroken⟩ := ne_and_not_mem_of_not_mem_cons unbroken
    obtain ⟨_, _, behind, whole⟩ := cutAt_other (Ne.symm other) (a ++ s)
    obtain ⟨rfl, rfl⟩ := List.cons.inj ((ih unbroken).symm.trans behind)
    exact whole

theorem cutAt_append_break (unbroken : '\n' ∉ a) (s : List Char) : cutAt '\n' (a ++ '\n' :: s) = a :: cutAt '\n' s := by
  rw [cutAt_append unbroken (cutAt_break s), append_nil]

theorem cutAt_of_unbroken (unbroken : '\n' ∉ a) : cutAt '\n' a = [a] := by
  simpa using cutAt_append (s := []) unbroken rfl

theorem cutAt_intercalate (unbroken : ∀ row ∈ rows, '\n' ∉ row) :
    ∀ i, (cutAt '\n' (['\n'].intercalate rows)).getD i [] = rows.getD i [] := by
  induction rows with
  | nil => rintro (_ | i) <;> rfl
  | cons row rows ih =>
    obtain ⟨first, unbroken⟩ := forall_mem_cons.1 unbroken
    cases rows with
    | nil => simp [cutAt_of_unbroken first]
    | cons next rows =>
      rw [intercalate_cons_cons, append_assoc, singleton_append, cutAt_append_break first]
      rintro (_ | i)
      · rfl
      · exact ih unbroken i

theorem mem_substitute (inside : c ∈ substitute find s) : c ∈ s ∨ ∃ t x n, find t = some (x, n) ∧ c ∈ x := by
  unfold substitute at inside
  generalize 0 = skip at inside
  fun_induction substituteFrom find skip s with
  | case1 => cases inside
  | case2 d rest k ih => exact (ih inside).imp_left (mem_cons_of_mem d)
  | case3 d rest new n found ih =>
    rcases mem_append.1 inside with inside | inside
    · exact .inr ⟨_, new, n, found, inside⟩
    · exact (ih inside).imp_left (mem_cons_of_mem d)
  | case4 d rest other ih =>
    rcases mem_cons.1 inside with rfl | inside
    · simp
    · exact (ih inside).imp_left (mem_cons_of_mem d)

theorem not_mem_fill (flat : ∀ p x, v p = some x → '\n' ∉ x) (unbroken : '\n' ∉ s) : '\n' ∉ fill v s := by
  intro inside
  obtain inside | ⟨t, x, n, found, inside⟩ := mem_substitute inside
  · exact unbroken inside
  · obtain ⟨_, _, _, p, -, -, value, -⟩ := finderOf_eq_some_iff.1 found
    exact flat p x value inside

theorem cutAt_fill (flat : ∀ p x, v p = some x → '\n' ∉ x) (s : List Char) :
    cutAt '\n' (fill v s) = (cutAt '\n' s).map (fill v) := by
  by_cases broken : '\n' ∈ s
  · obtain ⟨a, b, cut, unbroken⟩ := eq_append_cons_of_mem broken
    have ih := cutAt_fill flat b
    rw [cut, fill_append rfl _ (Nat.le_refl _),
      fill_cons (placeholder?_eq_none_of_not_isSign rfl b), cutAt_append_break (not_mem_fill flat unbroken),
      cutAt_append_break unbroken, ih, map_cons]
  · rw [cutAt_of_unbroken (not_mem_fill flat broken), cutAt_of_unbroken broken, map_singleton]
termination_by s.length
decreasing_by simp [cut]; omega

theorem ne_break_of_isOwn (c : Char) (own : isOwn c = true) : c ≠ '\n' := by
  rintro rfl
  cases own

theorem cutAt_fillSorts (flat : ∀ w ∈ given, ∀ c ∈ w.toList, c ≠ '\n') (ks : List Nat) :
    ∀ s, cutAt '\n' (fillSorts given ks s) = (cutAt '\n' s).map (fillSorts given ks) := by
  have values : ∀ k p x, valuesOfSort given k p = some x → '\n' ∉ x := by
    intro k p x value inside
    obtain rfl := order_of_valuesOfSort value
    obtain rfl := Option.some.inj ((valuesOfSort_self given p).symm.trans value)
    exact forall_mem_value ne_break_of_isOwn flat p _ inside rfl
  induction ks with
  | nil => intro s; exact (map_id _).symm
  | cons k ks ih =>
    intro s
    show cutAt '\n' (fillSorts given ks (fill (valuesOfSort given k) s)) = _
    rw [ih, cutAt_fill (values k), map_map]
    rfl

theorem mem_dropEnd (inside : c ∈ dropEnd line) : c ∈ line.reverse.tail ∨ isLineEnd c = false := by
  rw [dropEnd] at inside
  split at inside
  · rename_i rest ends
    rw [ends]
    exact .inl (mem_cons_of_mem _ (mem_reverse.1 inside))
  · rename_i d rest _ ends
    rw [ends]
    split at inside
    · exact .inl (mem_reverse.1 inside)
    · rename_i other
      rw [← mem_reverse, ends] at inside
      rcases mem_cons.1 inside with rfl | inside
      · exact .inr (Bool.eq_false_iff.2 other)
      · exact .inl inside
  · cases inside

theorem unbroken_lines : ∀ row ∈ lines s, '\n' ∉ row := by
  suffices ∀ acc, '\n' ∉ acc → ∀ line ∈ linesFrom acc s, '\n' ∉ line.reverse.tail by
    intro row listed broken
    obtain ⟨line, among, rfl⟩ := mem_map.1 listed
    obtain inside | other := mem_dropEnd broken
    · exact this [] (by simp) line among inside
    · cases other
  intro acc unbroken
  fun_induction linesFrom acc s with
  | case1 => simp
  | case2 acc =>
    simp only [mem_singleton, forall_eq, reverse_reverse]
    exact fun inside => unbroken (mem_of_mem_tail inside)
  | case3 acc c rest ends ih =>
    refine forall_mem_cons.2 ⟨?_, ih (by simp)⟩
    rwa [reverse_reverse]
  | case4 acc c rest other ih =>
    refine ih (not_mem_cons_of_ne_of_not_mem ?_ unbroken)
    rintro rfl
    exact other rfl

theorem suffix_words (last : i = done.length + n) (found : (words (some n) done s k)[i]? = some r) : r <:+ s := by
  induction k generalizing n done s with
  | zero => simp [words, last] at found
  | succ k ih =>
    rw [words] at found
    split at found
    · simp [last] at found
    · cases n with
      | zero =>
        simp [last] at found
        exact found ▸ dropWhile_suffix _
      | succ n => exact (ih (by simp; omega) found).trans ((dropWhile_suffix _).trans (dropWhile_suffix _))

end AliasTools.Source

namespace AliasTools.Script

open Source Command Text

/-! ## 3. Failures -/

/-- The lines of a definition end at each line end, those of another text at its line feeds. -/
def rowsOf (text : String) : List (List Char) := if hasHeader text then lines text.toList else cutAt '\n' text.toList

/-- `rest` are the lines from the `n`-th on; a front of the first of them may be gone. -/
def RowsFrom (rows : List (List Char)) (n : Nat) (rest : List (List Char)) : Prop :=
  rest.getD 0 [] <:+ rows.getD n [] ∧ ∀ i, 0 < i → rest.getD i [] = rows.getD (n + i) []

theorem rowsFrom_splitDefinition (text : String) :
    RowsFrom (rowsOf text) (splitDefinition text).2 (cutAt '\n' (splitDefinition text).1.toList) := by
  cases header : hasHeader text with
  | false =>
    rw [splitDefinition_eq_self header, rowsOf, header]
    exact ⟨List.suffix_rfl, fun i _ => by simp⟩
  | true =>
    have unbroken := unbroken_lines (s := text.toList)
    rw [rowsOf, header]
    rw [hasHeader] at header
    rw [splitDefinition]
    cases rows : lines text.toList with
    | nil => simp [rows] at header
    | cons first rest =>
      rw [rows] at header unbroken
      obtain ⟨unbroken_first, unbroken⟩ := List.forall_mem_cons.1 unbroken
      have body := cutAt_intercalate unbroken
      have joined : (String.intercalate "\n" (rest.map String.ofList)).toList = ['\n'].intercalate rest := by
        simp [String.toList_intercalate]
      simp only [List.headD_cons] at header
      simp only [header, if_true]
      split
      · rename_i remainder _ found
        have suffix : remainder <:+ first := (suffix_words rfl (by rw [found]; rfl)).trans (List.dropWhile_suffix _)
        have unbroken_remainder : '\n' ∉ remainder := fun inside => unbroken_first (suffix.subset inside)
        rw [String.toList_append, String.toList_ofList]
        have left : ∀ tail, (∀ i, tail.getD i [] = rest.getD i []) →
            RowsFrom (first :: rest) 0 (remainder :: tail) := by
          refine fun tail same => ⟨suffix, ?_⟩
          rintro (_ | i) later
          · cases later
          · rw [Nat.zero_add, List.getD_cons_succ, List.getD_cons_succ, same]
        split
        · rename_i empty
          rw [String.toList_empty, List.append_nil, cutAt_of_unbroken unbroken_remainder]
          refine left [] fun i => ?_
          rw [← body, ← joined, String.isEmpty_iff.1 empty]
          cases i <;> rfl
        · rw [String.toList_append, joined]
          exact (cutAt_append_break unbroken_remainder _).symm ▸ left _ body
      · rw [joined]
        refine ⟨?_, fun i _ => ?_⟩
        · rw [body]
          exact List.suffix_rfl
        · rw [body, Nat.add_comm, List.getD_cons_succ]

theorem countBreaks_placed (placed : Placed kinds text p) :
    countBreaks (text.take p.2.codeStart) = countBreaks (text.take p.2.start) ∧
      countBreaks (text.take p.2.stop) = countBreaks (text.take p.2.start) + countBreaks p.2.code := by
  obtain ⟨before, opening, closing, rest, rfl, start, code, stop, -, flat, flat'⟩ := placed.parts
  have upto : ∀ {a b : List Char} {n}, before ++ (opening ++ (p.2.code ++ (closing ++ rest))) = a ++ b →
      n = a.length → (before ++ (opening ++ (p.2.code ++ (closing ++ rest)))).take n = a := by
    rintro a b n cut rfl
    rw [cut, List.take_left]
  rw [upto rfl start, upto (a := before ++ opening) (by simp; rfl) (by simp; omega),
    upto (a := before ++ opening ++ p.2.code ++ closing) (by simp; rfl) (by simp; omega)]
  simp only [countBreaks_append]
  omega

/-- **A failure is told on the line on which its piece of code begins, moved as the failure says.  So the
    line is one of those of the piece if and only if the failure has none, or one that the code has.** -/
theorem render_place {m : Type → Type u} [Monad m] [LawfulMonad m] (x : Executor m) (text : String)
    (args : List String) (flat : ∀ a ∈ args, ∀ c ∈ a.toList, c ≠ '\n') :
    let body := (splitDefinition text).1
    let skipped := (splitDefinition text).2
    let filled := (fillPlaceholders body args).toList
    (∃ rows, RowsFrom (rowsOf text) skipped rows ∧
      cutAt '\n' filled = rows.map (fillSorts (givenFor body args) [0, 1, 2, 3, 4])) ∧
    SatisfiesM (fun r => ∀ line column, r.1.place = some (line, column) →
        ∃ before p after e, piecesOf everyKind filled = before ++ p :: after ∧ p.1 ≠ .roll ∧
          r.2 = codesOf (before ++ [p]) ∧ r.1.failure = some e ∧
          let first : Int := skipped + countBreaks (filled.take p.2.start) + 1
          let last : Int := skipped + countBreaks (filled.take p.2.stop) + 1
          (∀ l : Int, e.place.1 = some l → line = first + (l - 1)) ∧
          (first ≤ line ∧ line ≤ last ↔ ∀ l : Int, e.place.1 = some l → 1 ≤ l ∧ l ≤ countBreaks p.2.code + 1))
      ((x.recording.render text args).run []) := by
  intro body skipped filled
  refine ⟨⟨cutAt '\n' body.toList, rowsFrom_splitDefinition text, ?_⟩, ?_⟩
  · rw [show filled = _ from toList_fillPlaceholders body args]
    exact cutAt_fillSorts (forall_mem_filledTo ne_break_of_isOwn _ flat) _ _
  · refine (recorded_renderPieces x filled skipped _ 0 _ [] (by rfl)).imp fun ⟨_, told⟩ line column place => ?_
    obtain none | ⟨before, p, after, pieces, codes, code, e, failure, told⟩ := told
    · rw [none] at place
      cases place
    · refine ⟨before, p, after, e, pieces, code, codes, failure, ?_⟩
      have among : p ∈ piecesOf everyKind filled := pieces ▸ List.mem_append_right _ List.mem_cons_self
      have placed := placed_of_found ((selects_piecesOf everyKind filled).among p among).1
      obtain ⟨code_line, last_line⟩ := countBreaks_placed placed
      have leading : (p.2.code.takeWhile (· == '\n')).length ≤ countBreaks p.2.code := by
        have all : (p.2.code.takeWhile (· == '\n')).length = countBreaks (p.2.code.takeWhile (· == '\n')) :=
          (List.countP_eq_length.2 (List.all_eq_true.1 List.all_takeWhile)).symm
        exact all ▸ (List.takeWhile_sublist _).countP_le
      rw [told] at place
      have line_eq := congrArg Prod.fst (Option.some.inj place)
      simp only [failurePlace, code_line] at line_eq
      rw [last_line, ← line_eq]
      cases e.place.1 with
      | none => simp; omega
      | some l => simp; omega

theorem render_place_third_line :
    let e : Failure := .script (.invalid .notDefined "x is not defined" ⟨⟨2, 0, 2, 1⟩, "\nx", none⟩)
    let x : Executor Id := ⟨fun _ => (.error e, ""), fun _ => 0, fun _ => ""⟩
    let filled := "\x7b\x7b\nx\x7d\x7d".toList
    let r : Rendered × List String := (x.recording.render "!alias a\n\x7b\x7b\n%1%\x7d\x7d" ["x"]).run []
    r.1.place = some (3, 1) ∧ ∃ p ∈ piecesOf everyKind filled, r.2 = codesOf [p] ∧
      1 + countBreaks (filled.take p.2.start) + 1 ≤ 3 ∧ 3 ≤ 1 + countBreaks (filled.take p.2.stop) + 1 := by
  intro e x filled r
  have split : splitDefinition "!alias a\n\x7b\x7b\n%1%\x7d\x7d" = ("\x7b\x7b\n%1%\x7d\x7d", 1) := by
    decide +kernel
  have fills : (fillPlaceholders "\x7b\x7b\n%1%\x7d\x7d" ["x"]).toList = filled := by decide +kernel
  have one : piecesOf everyKind filled = [(.inline, ⟨0, 6, 2, "\nx".toList⟩)] := by
    rw [piecesOf_of_sorted (by decide +kernel)]
    decide +kernel
  have ran : r = (x.recording.renderPieces filled 1 0 ⟨"", "", .none, none, none⟩
      (piecesOf everyKind filled)).run [] := by
    simp only [r, Executor.render, split, fills]
  have told := SatisfiesM_Id_eq.1 (render_place x "!alias a\n\x7b\x7b\n%1%\x7d\x7d" ["x"] (by simp)).2
  simp only [split, fills] at told
  have place : r.1.place = some (3, 1) := by
    rw [ran, one]
    decide +kernel
  have failure : r.1.failure = some e := by
    rw [ran, one]
    rfl
  obtain ⟨before, p, after, e', pieces, -, codes, failure', -, inside⟩ := told 3 1 place
  obtain rfl := Option.some.inj (failure.symm.trans failure')
  rw [one] at pieces
  obtain ⟨rfl, rest⟩ | ⟨-, never⟩ := List.singleton_eq_append_iff.1 pieces
  · obtain ⟨rfl, rfl⟩ := List.cons.inj rest
    exact ⟨place, _, by simp [one], codes, mod_cast inside.2 (by rintro _ ⟨⟩; decide)⟩
  · cases never

theorem render_place_behind_piece :
    let text := "echo \x7b\x7b1 +\x7d\x7d"
    ((Job.ended (renderAlias text []).alone {}).1.toOption.bind (·.place)) = some (2, 8) ∧
      countBreaks text.toList = 0 := by
  intro text
  have plain : fillPlaceholders (splitDefinition text).1 [] = text := by decide +kernel
  rw [renderAlias, render_of_plain _ plain, piecesOf_of_sorted (by decide +kernel)]
  exact ⟨by decide +kernel, by decide +kernel⟩

end AliasTools.Script
