import AliasTools.Proofs.Substitution

/-!
# Words that are written on a line and read back

A word is written between quotes when it holds a blank of ASCII, and as it is otherwise.  Which words are
read back (`readsBack`) follows from what reading a word drops: quotes that open or close a part, and
backslashes in front of quotes.
-/

namespace AliasTools.Command

open Text List Quoting

variable {c : Char} {done ws : List (List Char)} {w acc rest after s x : List Char} {k : Nat} {q : Quoting}

/-! ## 1. How words are written -/

def escaped (w : List Char) : List Char := w.flatMap fun c => if c = '"' then ['\\', '"'] else [c]

theorem escaped_nil : escaped [] = [] := rfl

theorem escaped_cons (c : Char) (w : List Char) :
    escaped (c :: w) = (if c = '"' then ['\\', '"'] else [c]) ++ escaped w := flatMap_cons

def written (w : List Char) : List Char := if w.any cutsWord then '"' :: escaped w ++ ['"'] else w

theorem toList_quoteWord (w : String) : (quoteWord w).toList = written w.toList := by
  have each (s : List Char) : substitute (pieceFinder ['"'] ['\\', '"']) s = escaped s := by
    induction s with
    | nil => rfl
    | cons c rest ih =>
      by_cases quote : c = '"'
      · have found : pieceFinder ['"'] ['\\', '"'] (c :: rest) = some (['\\', '"'], 1) := by
          simp [pieceFinder, quote]
        rw [substitute_found found]
        simpa [escaped, quote] using ih
      · rw [substitute_other (by simpa [pieceFinder] using Ne.symm quote), ih]
        simp [escaped, quote]
  unfold quoteWord written
  split
  · simp [replaceAll, replacePiece_eq_substitute, each]
  · rfl

def behind (ws : List (List Char)) : List Char := ws.flatMap fun w => ' ' :: written w

theorem behind_cons (w : List Char) (ws : List (List Char)) : behind (w :: ws) = ' ' :: (written w ++ behind ws) := rfl

theorem toList_line (w : String) (ws : List String) : (" ".intercalate ((w :: ws).map quoteWord)).toList =
      written w.toList ++ behind (ws.map String.toList) := by
  rw [String.toList_intercalate]
  induction ws generalizing w with
  | nil => simp [behind, toList_quoteWord]
  | cons v ws ih =>
    simp only [map_cons, intercalate_cons_cons, toList_quoteWord] at ih ⊢
    rw [ih]
    simp [behind]

theorem head_behind (first : (behind ws).head? = some c) : c = ' ' := by
  cases ws with
  | nil => cases first
  | cons w ws => exact (Option.some.inj first).symm

/-- Inside a word without quotes: no blank, no quote but apostrophes, and no backslash in front of a
    quote. -/
def plainInside : List Char → Bool
  | [] => true
  | c :: rest =>
    !isBlank c && (!isQuote c || isApostrophe c) && !(c == '\\' && rest.head?.any isQuote) && plainInside rest

/-- Is a word read back from how it is written?  Between quotes it must not end with a backslash, which
    would hide the quote behind it; without quotes it must not begin with a blank or a quote that opens. -/
def readsBack (w : List Char) : Bool :=
  if w.any cutsWord then w.getLast? != some '\\'
  else
    match w with
    | [] => false
    | c :: rest => !isBlank c && (closingOf c).isNone && plainInside rest

/-! ## 2. Reading a word -/

def Quoting.Sound (q : Quoting) : Prop := ∀ o, q ≠ .inside o (some ' ')

theorem Quoting.sound_outside : outside.Sound := nofun

theorem Quoting.sound_inside (c : Char) : (inside c (closingOf c)).Sound := by
  intro o at_o
  obtain ⟨rfl, closed⟩ := inside.inj at_o
  have : ∀ p ∈ quotePairs, p.2 ≠ ' ' := by decide
  obtain ⟨before, after, pairs, -⟩ := lookup_eq_some_iff.1 closed
  exact this (c, ' ') (by simp [pairs]) rfl

theorem prefix_readWord (read : readWord q acc s = .ok (w, after)) : acc.reverse <+: w := by
  fun_induction readWord q acc s with
  | case1 | case7 | case9 | case10 => exact ⟨[], by simp_all⟩
  | case2 => cases read
  | case3 _ _ _ _ ih | case4 _ _ _ _ _ _ _ ih | case5 _ _ _ _ _ _ _ ih | case8 _ _ _ _ _ _ ih
  | case12 _ _ _ _ _ _ _ ih => exact .trans (by simp) (ih read)
  | case6 _ _ _ _ _ ih | case11 _ _ _ _ _ _ _ _ _ ih => exact ih read

theorem count_readWord (a : Char) (read : readWord q acc s = .ok (w, after)) :
    w.count a + after.count a ≤ acc.count a + s.count a := by
  fun_induction readWord q acc s with
  | _ => grind

theorem readWord_end (q : Quoting) (acc : List Char) : readWord q acc [] = match q with
      | .outside => .ok (acc.reverse, [])
      | .inside _ close => .error ⟨close⟩ := by
  exact (readWord.eq_def q acc []).trans rfl

theorem readWord_slash (q : Quoting) (acc rest : List Char) : readWord q acc ('\\' :: rest) =
      match rest with
      | [] => readWord q ('\\' :: acc) []
      | n :: after => if q.escapes n then readWord q (n :: acc) after else readWord q ('\\' :: acc) rest := by
  rw [readWord.eq_def]
  cases rest <;> rfl

theorem readWord_outside (other : c ≠ '\\') (acc rest : List Char) : readWord .outside acc (c :: rest) =
      if isQuote c && !isApostrophe c then readWord (.inside c (closingOf c)) acc rest
      else if isBlank c then .ok (acc.reverse, c :: rest)
      else readWord .outside (c :: acc) rest := by
  rw [readWord.eq_def]
  simp [other]

theorem readWord_inside (other : c ≠ '\\') (o : Char) (close : Option Char) (acc rest : List Char) :
    readWord (.inside o close) acc (c :: rest) =
      if close = some c then
        match rest with
        | [] => .ok (acc.reverse, [])
        | n :: _ => if isBlank n then .ok (acc.reverse, rest) else readWord .outside acc rest
      else readWord (.inside o close) (c :: acc) rest := by
  rw [readWord.eq_def]
  cases rest <;> simp [other]

theorem readWord_plain (ends : ∀ c, rest.head? = some c → c = ' ') (acc : List Char)
    (plain : plainInside w = true) : readWord .outside acc (w ++ rest) = .ok (acc.reverse ++ w, rest) := by
  induction w generalizing acc with
  | nil =>
    cases rest with
    | nil => simp [readWord_end]
    | cons c rest =>
      obtain rfl := ends c rfl
      rw [nil_append, readWord_outside (by decide), if_neg (by decide), if_pos (by decide), append_nil]
  | cons c w ih =>
    simp only [plainInside, Bool.and_eq_true, Bool.not_eq_true'] at plain
    obtain ⟨⟨⟨black, quote⟩, escape⟩, plain⟩ := plain
    have ih := ih (c :: acc) plain
    rw [reverse_cons, append_assoc, singleton_append] at ih
    by_cases slash : c = '\\'
    · subst slash
      rw [cons_append, readWord_slash, ← ih]
      split
      · rename_i none_left
        rw [none_left]
      · rename_i n after next
        have : isQuote n = false := by
          cases w with
          | nil =>
            obtain rfl := ends n (by rw [← nil_append rest, next]; rfl)
            decide
          | cons m w =>
            obtain ⟨rfl, -⟩ := cons_eq_cons.1 next
            simpa using escape
        rw [escapes, this, if_neg Bool.false_ne_true]
    · have : (isQuote c && !isApostrophe c) = false := by
        revert quote
        cases isQuote c <;> cases isApostrophe c <;> simp
      rw [cons_append, readWord_outside slash, this, black, ← ih]
      simp

theorem readWord_escaped_cons (inner : c = '\\' → w ≠ []) (acc rest : List Char) :
    readWord (.inside '"' (some '"')) acc (escaped (c :: w) ++ '"' :: rest) =
      readWord (.inside '"' (some '"')) (c :: acc) (escaped w ++ '"' :: rest) := by
  rw [escaped_cons, append_assoc]
  split
  · rename_i quote
    subst quote
    rw [cons_append, readWord_slash]
    rfl
  · rename_i quote
    rw [singleton_append]
    by_cases slash : c = '\\'
    · subst slash
      rw [readWord_slash]
      -- behind the backslash comes no quote: the next character of the word, or its own backslash
      cases w with
      | nil => exact absurd rfl (inner rfl)
      | cons d w =>
        rw [escaped_cons]
        by_cases other : d = '"'
        · rw [if_pos other]
          rfl
        · simp [Quoting.escapes, other, Ne.symm other]
    · rw [readWord_inside slash, if_neg (by simpa using Ne.symm quote)]

theorem readWord_escaped (ends : ∀ c, rest.head? = some c → c = ' ') (acc : List Char) (last : w.getLast? ≠ some '\\') :
    readWord (.inside '"' (some '"')) acc (escaped w ++ '"' :: rest) = .ok (acc.reverse ++ w, rest) := by
  induction w generalizing acc with
  | nil =>
    rw [escaped_nil, nil_append, readWord_inside (by decide), append_nil]
    cases rest with
    | nil => rfl
    | cons c rest =>
      obtain rfl := ends c rfl
      rfl
  | cons c w ih =>
    rw [readWord_escaped_cons (by rintro rfl rfl; exact last rfl), ih _ (by cases w <;> simp_all)]
    simp

theorem prefix_readWord_slash
    (read : readWord (.inside '"' (some '"')) acc (escaped (w ++ ['\\']) ++ '"' :: rest) = .ok (v, after)) :
    acc.reverse ++ w ++ ['"'] <+: v := by
  induction w generalizing acc with
  | nil =>
    rw [nil_append, escaped_cons, escaped_nil, if_neg (by decide), append_nil, singleton_append, readWord_slash] at read
    simpa using prefix_readWord read
  | cons c w ih =>
    rw [cons_append, readWord_escaped_cons (by simp)] at read
    simpa using ih read

theorem length_readWord (read : readWord q acc s = .ok (w, after)) :
    w.length + after.length ≤ acc.length + s.length := by
  fun_induction readWord q acc s with
  | _ => grind

theorem suffix_of_readWord (read : readWord q acc s = .ok (w, after)) : after <:+ s := by
  fun_induction readWord q acc s with
  | case4 q acc c slash n rest escapes ih => exact (ih read).trans ⟨[c, n], rfl⟩
  | _ => grind

/-- No space is lost in reading: it is neither a quote nor a backslash. -/
theorem spaces_readWord (sound : q.Sound) (read : readWord q acc s = .ok (w, after)) :
    w.count ' ' + after.count ' ' = acc.count ' ' + s.count ' ' := by
  fun_induction readWord q acc s with
  | case6 acc c rest slash opens ih =>
    have other : c ≠ ' ' := by rintro rfl; exact absurd opens (by decide)
    rw [ih (sound_inside c) read, count_cons_of_ne other]
  | case11 acc c slash o close closed n rest blank ih =>
    have other : c ≠ ' ' := fun same => sound o (congrArg _ (same ▸ eq_of_beq closed))
    rw [ih sound_outside read, count_cons_of_ne other]
  | case9 acc c slash o close closed => grind [Quoting.Sound]
  | case10 acc c slash o close closed n rest blank => grind [Quoting.Sound]
  | _ => grind

theorem readWord_spends (sound : q.Sound) (ends : ∀ c, rest.head? = some c → c = ' ')
    (read : readWord q acc (x ++ rest) = .ok (w, after)) :
    ∃ v, w = acc.reverse ++ v ∧ (v.length ≤ x.length ∨ ' ' ∈ v) := by
  obtain ⟨v, rfl⟩ := prefix_readWord read
  obtain ⟨spent, cut⟩ := suffix_of_readWord read
  have short := length_readWord read
  have spaces := spaces_readWord sound read
  refine ⟨v, rfl, ?_⟩
  rcases append_eq_append_iff.1 cut with ⟨more, rfl, rfl⟩ | ⟨_ | ⟨c, more⟩, rfl, rfl⟩
  · simp at short ⊢
    omega
  · simp at short ⊢
    omega
  · -- the space behind `x` was read, and stands in the word
    obtain rfl := ends c rfl
    simp at spaces
    exact .inr (count_pos_iff.1 (by omega))

theorem plain_of_readWord (ends : ∀ c, rest.head? = some c → c = ' ') (whole : ' ' ∉ x)
    (read : readWord .outside acc (x ++ rest) = .ok (acc.reverse ++ x, after)) : plainInside x = true := by
  induction x generalizing acc with
  | nil => rfl
  | cons c x ih =>
    have whole' : ' ' ∉ x := fun space => whole (.tail _ space)
    have go_on (read : readWord .outside (c :: acc) (x ++ rest) = .ok (acc.reverse ++ c :: x, after)) :
        plainInside x = true := @ih (c :: acc) whole' (by simpa using read)
    rw [cons_append] at read
    by_cases slash : c = '\\'
    · subst slash
      rw [readWord_slash] at read
      cases x with
      | nil => decide
      | cons n x =>
        dsimp only [cons_append] at read
        split at read
        · rename_i quote
          -- the backslash is dropped, so the word would have to go on with the quote
          obtain ⟨v, same⟩ := prefix_readWord read
          have : n = '\\' := by simpa using (cons_eq_cons.1 (append_cancel_left
            (show acc.reverse ++ (n :: v) = acc.reverse ++ _ by simpa using same))).1
          rw [this] at quote
          exact absurd quote (by decide)
        · rename_i plain
          have plain : isQuote n = false := by simpa [escapes] using plain
          rw [plainInside, go_on read]
          simp [plain, show isBlank '\\' = false by decide, show isQuote '\\' = false by decide]
    · rw [readWord_outside slash] at read
      split at read
      · obtain ⟨v, same, short | space⟩ := readWord_spends (sound_inside c) ends read
        · have := congrArg List.length (append_cancel_left same)
          simp at this
          omega
        · rw [append_cancel_left same] at whole
          exact absurd space whole
      · split at read
        · simp at read
        · rename_i quote blank
          have : (!isQuote c || isApostrophe c) = true := by
            revert quote
            cases isQuote c <;> cases isApostrophe c <;> simp
          simp [plainInside, go_on read, slash, blank, this]

/-! ## 3. Reading a line -/

theorem wordsFrom_space (done : List (List Char)) (s : List Char) (k : Nat) :
    wordsFrom done (' ' :: s) k = wordsFrom done s k := by
  cases k with
  | zero => rfl
  | succ k => rw [wordsFrom, wordsFrom, dropWhile_cons_of_pos (by decide)]

theorem wordsFrom_word (black : isBlank c = false) (k : Nat) : wordsFrom done (c :: rest) (k + 1) =
      match match closingOf c with
        | some close => readWord (.inside c (some close)) [] rest
        | none => readWord .outside [c] rest with
      | .error u => .error u
      | .ok (w, after) => wordsFrom (w :: done) after k := by
  rw [wordsFrom, dropWhile_cons_of_neg (by simp [black])] <;> rfl

theorem prefix_wordsFrom (read : wordsFrom done s k = .ok ws) : done.reverse <+: ws := by
  induction k generalizing done s with
  | zero => exact ⟨[], by simp_all [wordsFrom]⟩
  | succ k ih =>
    rw [wordsFrom] at read
    split at read
    · exact ⟨[], by simp_all⟩
    · dsimp only at read
      split at read
      · cases read
      · exact .trans (by simp) (ih read)

theorem count_wordsFrom (a : Char) (read : wordsFrom done s k = .ok ws) :
    ws.flatten.count a ≤ done.reverse.flatten.count a + s.count a := by
  induction k generalizing done s with
  | zero =>
    obtain rfl := Except.ok.inj read
    omega
  | succ k ih =>
    have fewer : (s.dropWhile isBlank).count a ≤ s.count a := (dropWhile_sublist _).count_le a
    rw [wordsFrom] at read
    split at read
    · obtain rfl := Except.ok.inj read
      omega
    · rename_i c rest first
      rw [first] at fewer
      dsimp only at read
      split at read
      · cases read
      · rename_i w after word
        have := ih read
        have : w.count a + after.count a ≤ [c].count a + rest.count a := by
          split at word
          · have := count_readWord a word
            simp at this ⊢
            omega
          · exact count_readWord a word
        simp [count_cons] at *
        omega

theorem wordsFrom_written (ends : ∀ c, rest.head? = some c → c = ' ') (good : readsBack w = true)
    (done : List (List Char)) (k : Nat) :
    wordsFrom done (written w ++ rest) (k + 1) = wordsFrom (w :: done) rest k := by
  unfold readsBack at good
  unfold written
  split at good
  · rename_i cut
    rw [if_pos cut, cons_append, cons_append, wordsFrom_word (by decide), show closingOf '"' = some '"' by decide]
    dsimp only
    rw [append_assoc, singleton_append, readWord_escaped ends [] (by simpa using good)]
    rfl
  · rename_i whole
    rw [if_neg whole]
    split at good
    · cases good
    · rename_i c w
      simp only [Bool.and_eq_true, Bool.not_eq_true', Option.isNone_iff_eq_none] at good
      rw [cons_append, wordsFrom_word good.1.1, good.1.2]
      rw [readWord_plain ends [c] good.2]
      rfl

theorem eq_of_wordsFrom (read : wordsFrom (v :: done) s k = .ok (done.reverse ++ w :: ws)) : v = w := by
  obtain ⟨more, same⟩ := prefix_wordsFrom read
  rw [reverse_cons, append_assoc, append_cancel_left_eq] at same
  exact (cons_eq_cons.1 same).1

theorem count_written (quote : a ≠ '"') (slash : a ≠ '\\') (w : List Char) : (written w).count a = w.count a := by
  have each : (escaped w).count a = w.count a := by
    induction w with
    | nil => rfl
    | cons c w ih =>
      rw [escaped_cons, count_append, ih]
      split
      · rename_i same
        simp [same, Ne.symm quote, Ne.symm slash]
      · simp [count_cons, Nat.add_comm]
  unfold written
  split
  · simp [each, Ne.symm quote]
  · rfl

theorem count_behind (black : a ≠ ' ') (quote : a ≠ '"') (slash : a ≠ '\\')
    (ws : List (List Char)) : (behind ws).count a = ws.flatten.count a := by
  induction ws with
  | nil => rfl
  | cons w ws ih =>
    simp only [behind, flatMap_cons, count_append] at ih ⊢
    rw [ih, count_cons, count_written quote slash]
    simp [Ne.symm black]

theorem readsBack_of_wordsFrom (full : w ≠ [])
    (read : wordsFrom done (written w ++ behind ws) (k + 1) = .ok (done.reverse ++ w :: ws)) : readsBack w = true := by
  have ends : ∀ c, (behind ws).head? = some c → c = ' ' := fun _ => head_behind
  unfold readsBack
  unfold written at read
  split
  · rename_i cut
    rw [if_pos cut, cons_append, cons_append, wordsFrom_word (by decide),
      show closingOf '"' = some '"' by decide, append_assoc, singleton_append] at read
    split at read
    · cases read
    · rename_i v after word
      obtain rfl := eq_of_wordsFrom read
      refine bne_iff_ne.2 fun last => ?_
      obtain ⟨x, rfl⟩ := getLast?_eq_some_iff.1 last
      have : x ++ ['"'] <+: x ++ ['\\'] := by simpa using prefix_readWord_slash word
      simp at this
  · rename_i whole
    rw [if_neg whole] at read
    have whole : ' ' ∉ w := fun space => whole (any_eq_true.2 ⟨' ', space, by decide⟩)
    rw [wordsFrom, dropWhile_append] at read
    -- reading begins behind the blanks at the front of the word
    have parts := takeWhile_append_dropWhile (p := isBlank) (l := w)
    cases begins : w.dropWhile isBlank with
    | nil =>
      -- such a word is not read at all, and nothing else can make up for its characters
      obtain ⟨c, x, rfl⟩ := exists_cons_of_ne_nil full
      have read : wordsFrom done (behind ws) (k + 1) = .ok (done.reverse ++ (c :: x) :: ws) := by
        rw [wordsFrom]
        simpa [begins] using read
      have counted := count_wordsFrom c read
      have other : ∀ d, isBlank d = false → c ≠ d := by rintro d black rfl; simp_all
      rw [count_behind (fun same => whole (same ▸ .head _)) (other _ (by decide)) (other _ (by decide))] at counted
      simp at counted <;> omega
    | cons d x =>
      have black : isBlank d = false := by
        have := head?_dropWhile_not isBlank w
        simpa [begins] using this
      rw [begins] at read parts
      simp only [isEmpty_cons, Bool.false_eq_true, if_false, cons_append] at read
      split at read
      · cases read
      · rename_i v after word
        obtain rfl := eq_of_wordsFrom read
        split at word
        · rename_i close opened
          have sound : (Quoting.inside d (some close)).Sound := by
            rw [← opened]
            exact sound_inside d
          obtain ⟨_, rfl, short | space⟩ := readWord_spends sound ends word
          · have := congrArg List.length parts
            simp at this short
            omega
          · exact absurd (by simpa using space) whole
        · rename_i closed
          obtain ⟨_, rfl⟩ := prefix_readWord word
          simp only [reverse_singleton, singleton_append] at parts word whole ⊢
          rw [takeWhile_cons_of_neg (by simp [black])] at parts
          rw [← (cons_eq_cons.1 parts).2] at word whole ⊢
          have plain := plain_of_readWord ends (fun space => whole (.tail _ space)) word
          simp [black, closed, plain]

theorem splitWords_eq_ok_iff (line : String) (ws : List String) : splitWords line = .ok ws ↔
      wordsFrom [] line.toList (line.toList.length + 1) = .ok (ws.map String.toList) := by
  unfold splitWords
  dsimp only
  cases wordsFrom [] line.toList (line.toList.length + 1) with
  | error u => simp [Except.map]
  | ok vs =>
    simp only [Except.map, Except.ok.injEq]
    constructor <;> rintro rfl <;> simp

theorem wordsFrom_behind_iff (ws done : List (List Char)) (full : ∀ w ∈ ws, w ≠ []) (enough : (behind ws).length ≤ k) :
    wordsFrom done (behind ws) k = .ok (done.reverse ++ ws) ↔ ∀ w ∈ ws, readsBack w = true := by
  induction ws generalizing done k with
  | nil => cases k <;> simp [behind, wordsFrom]
  | cons w ws ih =>
    have ends : ∀ c, (behind ws).head? = some c → c = ' ' := fun _ => head_behind
    rw [behind_cons] at enough ⊢
    rw [wordsFrom_space, forall_mem_cons]
    simp only [length_cons, length_append] at enough
    obtain ⟨k, rfl⟩ : ∃ n, k = n + 1 := ⟨k - 1, by omega⟩
    have rest := ih (k := k) (w :: done) (fun v listed => full v (.tail _ listed)) (by omega)
    rw [reverse_cons, append_assoc] at rest
    constructor
    · intro read
      have good := readsBack_of_wordsFrom (full w (.head _)) read
      rw [wordsFrom_written ends good] at read
      exact ⟨good, rest.1 read⟩
    · rintro ⟨good, more⟩
      rw [wordsFrom_written ends good]
      exact rest.2 more

/-- **Words that are written on a line are read from it again** exactly when each of them is read back. -/
theorem splitWords_quoteWord_iff {ws : List String} (full : ∀ w ∈ ws, w ≠ "") :
    splitWords (" ".intercalate (ws.map quoteWord)) = .ok ws ↔ ∀ w ∈ ws, readsBack w.toList = true := by
  rw [splitWords_eq_ok_iff]
  cases ws with
  | nil => simp [wordsFrom]
  | cons w ws =>
    have all := wordsFrom_behind_iff ((w :: ws).map String.toList) [] (by simpa using full)
      (Nat.le_refl _)
    rw [List.map_cons, behind_cons, wordsFrom_space, List.length_cons] at all
    rw [toList_line]
    simpa using all

/-- Two words with blanks, one of them with quotes and a backslash inside, and one with an apostrophe. -/
theorem splitWords_quoteWord_iff_title :
    (∀ w ∈ ["-title", "the \"old\\\" inn", "Ada's", "x y"], w ≠ "") ∧
    splitWords (" ".intercalate (["-title", "the \"old\\\" inn", "Ada's", "x y"].map quoteWord)) =
      .ok ["-title", "the \"old\\\" inn", "Ada's", "x y"] := by
  have full : ∀ w ∈ ["-title", "the \"old\\\" inn", "Ada's", "x y"], w ≠ "" := by decide
  exact ⟨full, (splitWords_quoteWord_iff full).2 (by decide +kernel)⟩

theorem quoted_word_loses_quotes :
    splitWords (" ".intercalate (["\"hi\""].map quoteWord)) = .ok ["hi"] ∧ "hi" ≠ "\"hi\"" := by
  refine ⟨?_, by decide⟩
  have read : (splitWords (" ".intercalate (["\"hi\""].map quoteWord))).toOption = some ["hi"] := by
    decide +kernel
  cases words : splitWords (" ".intercalate (["\"hi\""].map quoteWord)) with
  | ok ws => rw [words] at read; exact congrArg Except.ok (Option.some.inj read)
  | error e => rw [words] at read; cases read

end AliasTools.Command
