import AliasTools.Proofs.GuardedGrowth

/-!
# Arguments of a command line

Words are read one by one, but what they give is said by looking at a word and the one behind it.  A name that
ends in digits gives an argument so many uses: on a command line by all the digits, in a table that is set by
the last one.  A name that a table is asked for is there afterwards, if only with no arguments.
-/

namespace AliasTools.Script

open Command Text Number List

/-! ## 1. What words are, and what they give -/

/-- A name, with digits behind it. -/
structure Numbered (n ds : List Char) : Prop where
  letter : n.head?.any isAsciiLetter = true
  base : n.getLast?.any isDecimal = false
  black : (n ++ ds).any isBlank = false
  decimal : ds.all isDecimal = true

/-- What a word is: a flag that stands for itself, a flag with dashes in front of its name, or else a value, which may
    be a name. -/
inductive IsWord : String → Word → Prop where
  | lone (listed : c ∈ ['i', 'h', 'v']) : IsWord (.ofList ['-', c]) (.lone (.ofList [c]))
  | flag (k : Nat) (numbered : Numbered n ds) (other : k = 0 → ∀ c ∈ ['i', 'h', 'v'], n ++ ds ≠ [c]) :
    IsWord (.ofList ('-' :: (replicate k '-' ++ (n ++ ds)))) (.flag ⟨.ofList n, .ofList ds⟩)
  | single (numbered : Numbered n ds) : IsWord (.ofList (n ++ ds)) (.value (some ⟨.ofList n, .ofList ds⟩))
  | junk (nameless : ∀ n ds k, Numbered n ds → s.toList ≠ replicate k '-' ++ (n ++ ds)) : IsWord s (.value none)

/-- What a flag or a name gives at a place: digits behind it are the uses, or part of the name.  A number of too many
    digits is not read. -/
inductive Named : Bool → FlagName → Value → Nat → Argument → Prop where
  | plain (unnumbered : n.uses = "" ∨ limited = false) :
    Named limited n v pos { name := .str (n.name ++ n.uses) false, value := v, pos := pos }
  | limited (numbered : n.uses ≠ "") (fits : n.uses.toList.length ≤ digitLimit) :
    Named true n v pos
      { name := .str n.name false, value := v, pos := pos, uses := some (digitsValue n.uses.toList) }

/-- The arguments that words give, the first of which stands at a place, by a word and the one behind it. -/
inductive ReadAs (limited : Bool) : Nat → List (String × Bool) → List Argument → Prop where
  | nil : ReadAs limited pos [] []
  | lone (word : IsWord s (.lone name)) (more : ReadAs limited (pos + 1) ws xs) :
    ReadAs limited pos ((s, g) :: ws) ({ name := .str name g, value := .bool true, pos := pos } :: xs)
  | valued (word : IsWord s (.flag n)) (behind : IsWord v (.value m)) (named : Named limited n (.str v h) pos x)
    (more : ReadAs limited (pos + 2) ws xs) : ReadAs limited pos ((s, g) :: (v, h) :: ws) (x :: xs)
  | alone (word : IsWord s (.flag n)) (behind : ∀ v ∈ ws.head?, ∀ m, ¬ IsWord v.1 (.value m))
    (named : Named limited n (.bool true) pos x) (more : ReadAs limited (pos + 1) ws xs) :
    ReadAs limited pos ((s, g) :: ws) (x :: xs)
  | single (word : IsWord s (.value (some n))) (named : Named limited n (.bool true) pos x)
    (more : ReadAs limited (pos + 1) ws xs) : ReadAs limited pos ((s, g) :: ws) (x :: xs)
  | junk (word : IsWord s (.value none)) (more : ReadAs limited (pos + 1) ws xs) :
    ReadAs limited pos ((s, g) :: ws) xs

open Word Argument TableChange ArgumentTable Reading
open String (ofList toList_ofList ofList_toList toList_inj)

variable {limited g guarded : Bool} {answer : Answering} {w : World} {a l : Addr} {t : ArgumentTable}
  {m size : Option Int} {v : Value} {n ds cs : List Char} {c d : Char} {s : String}

/-! ## 2. Words -/

theorem not_isDecimal_of_letter (letter : isAsciiLetter c = true) : isDecimal c = false := by
  simp [isAsciiLetter, Char.le_def, UInt32.le_iff_toNat_le] at letter
  have ascii : c.toNat < 128 := by omega
  simp [isDecimal, isAscii, ascii, isAsciiDigit, Char.le_def, UInt32.le_iff_toNat_le]
  omega

theorem decimalValue?_of_isDecimal (decimal : isDecimal c = true) : ∃ d, decimalValue? c = some d ∧ d < 10 := by
  unfold isDecimal at decimal
  unfold decimalValue?
  split
  · next ascii =>
    rw [if_pos ascii] at decimal
    refine ⟨_, if_pos decimal, ?_⟩
    simp [isAsciiDigit, Char.le_def, UInt32.le_iff_toNat_le] at decimal
    simp
    omega
  · next ascii =>
    rw [if_neg ascii, CharSet.contains] at decimal
    obtain ⟨r, found⟩ := Option.isSome_iff_exists.1 decimal
    exact ⟨_, by rw [found]; rfl, Nat.mod_lt _ (by decide)⟩

theorem Numbered.ofText? (numbered : Numbered n ds) : FlagName.ofText? (n ++ ds) = some ⟨ofList n, ofList ds⟩ := by
  obtain ⟨letter, base, black, decimal⟩ := numbered
  have fits : (n ++ ds).head?.any isAsciiLetter && (n ++ ds).all (!isBlank ·) := by cases n <;> simp_all
  have all : ∀ c ∈ ds.reverse, isDecimal c = true := by simpa using decimal
  have stop : n.reverse.takeWhile isDecimal = [] ∧ n.reverse.dropWhile isDecimal = n.reverse := by
    rw [← head?_reverse] at base
    revert base
    cases n.reverse <;> simp +contextual
  rw [FlagName.ofText?, if_pos fits, reverse_append, takeWhile_append_of_pos all,
    dropWhile_append_of_pos all, stop.1, stop.2]
  simp

theorem numbered_of_ofText? {f : FlagName} (read : FlagName.ofText? cs = some f) :
    ∃ n ds, cs = n ++ ds ∧ Numbered n ds ∧ f = ⟨ofList n, ofList ds⟩ := by
  unfold FlagName.ofText? at read
  obtain ⟨fits, ⟨⟩⟩ := Option.ite_none_right_eq_some.1 read
  rw [Bool.and_eq_true] at fits
  obtain ⟨letter, black⟩ := fits
  have whole : cs = (cs.reverse.dropWhile isDecimal).reverse ++ (cs.reverse.takeWhile isDecimal).reverse := by
    rw [← reverse_append, takeWhile_append_dropWhile, reverse_reverse]
  have stops := head?_dropWhile_not isDecimal cs.reverse
  have decimal : (cs.reverse.takeWhile isDecimal).reverse.all isDecimal = true := by simp
  revert whole stops decimal
  generalize cs.reverse.dropWhile isDecimal = n
  generalize (cs.reverse.takeWhile isDecimal).reverse = ds
  rintro rfl stops decimal
  refine ⟨_, _, rfl, ⟨?_, ?_, by simpa using black, decimal⟩, rfl⟩
  · -- the first character is a letter, so that it is none of the digits
    cases front : n.reverse with
    | cons c rest => simpa [front] using letter
    | nil =>
      rw [front, nil_append] at letter
      cases ds with
      | nil => cases letter
      | cons d ds =>
        rw [head?_cons, Option.any_some] at letter
        simp [not_isDecimal_of_letter letter] at decimal
  · rw [getLast?_reverse]
    cases h : n.head? with
    | none => rfl
    | some c => simpa [h] using stops

theorem Numbered.first (numbered : Numbered n ds) : ∃ c rest, n ++ ds = c :: rest ∧ c ≠ '-' := by
  obtain ⟨c, first, letter⟩ := (Option.any_eq_true _ _).1 numbered.letter
  obtain ⟨rest, rfl⟩ := head?_eq_some_iff.1 first
  exact ⟨c, rest ++ ds, rfl, by rintro rfl; cases letter⟩

theorem Numbered.dropDashes (numbered : Numbered n ds) (k : Nat) :
    (replicate k '-' ++ (n ++ ds)).dropWhile (· == '-') = n ++ ds := by
  obtain ⟨c, rest, is, other⟩ := numbered.first
  rw [dropWhile_append_of_pos (by simp), is]
  simp [other]

theorem numbered_letter (listed : c ∈ ['i', 'h', 'v']) : Numbered [c] [] := by
  simp only [mem_cons, not_mem_nil, or_false] at listed
  rcases listed with rfl | rfl | rfl <;> exact ⟨by decide, by decide, by decide, by decide⟩

theorem contains_loneFlags : loneFlags.contains s = true ↔ ∃ c ∈ ['i', 'h', 'v'], s.toList = ['-', c] := by
  simp [loneFlags, ← toList_inj]

theorem ofFlag?_eq_some {f : FlagName} : FlagName.ofFlag? cs = some f ↔
    ∃ n ds k, cs = '-' :: (replicate k '-' ++ (n ++ ds)) ∧ Numbered n ds ∧ f = ⟨ofList n, ofList ds⟩ := by
  constructor
  · intro read
    unfold FlagName.ofFlag? at read
    split at read
    · next rest =>
      obtain ⟨n, ds, is, numbered, rfl⟩ := numbered_of_ofText? read
      have dashes : rest.takeWhile (· == '-') = replicate (rest.takeWhile (· == '-')).length '-' :=
        eq_replicate_iff.2 ⟨rfl, fun c inside => by simpa using all_eq_true.1 all_takeWhile c inside⟩
      exact ⟨n, ds, _, by rw [← dashes, ← is, takeWhile_append_dropWhile], numbered, rfl⟩
    · cases read
  · rintro ⟨n, ds, k, rfl, numbered, rfl⟩
    rw [FlagName.ofFlag?, numbered.dropDashes, numbered.ofText?]

theorem IsWord.ofText {word : Word} (is : IsWord s word) : Word.ofText s = word := by
  cases is with
  | lone listed =>
    simp only [mem_cons, not_mem_nil, or_false] at listed
    rcases listed with rfl | rfl | rfl <;> rfl
  | @flag n ds k numbered other =>
    have long : ¬ loneFlags.contains (ofList ('-' :: (replicate k '-' ++ (n ++ ds)))) = true := by
      rw [contains_loneFlags, toList_ofList]
      rintro ⟨c, listed, same⟩
      obtain ⟨d, rest, is, dash⟩ := numbered.first
      cases k with
      | zero => exact other rfl c listed (by simpa using same)
      | succ k => simp [replicate_succ, is] at same
    rw [Word.ofText, if_neg long, ofFlag?_eq_some.2 ⟨n, ds, k, toList_ofList, numbered, rfl⟩]
  | @single n ds numbered =>
    obtain ⟨d, rest, is, dash⟩ := numbered.first
    have long : ¬ loneFlags.contains (ofList (n ++ ds)) = true := by
      rw [contains_loneFlags, toList_ofList, is]
      simp [dash]
    have flagless : FlagName.ofFlag? (ofList (n ++ ds)).toList = none := by
      rw [toList_ofList, is]
      simp [FlagName.ofFlag?, dash]
    rw [Word.ofText, if_neg long, flagless, toList_ofList, numbered.ofText?]
  | junk nameless =>
    have long : ¬ loneFlags.contains s = true := by
      rw [contains_loneFlags]
      rintro ⟨c, listed, same⟩
      exact nameless [c] [] 1 (numbered_letter listed) same
    have flagless : FlagName.ofFlag? s.toList = none := by
      rw [Option.eq_none_iff_forall_ne_some]
      intro f read
      obtain ⟨n, ds, k, is, numbered, -⟩ := ofFlag?_eq_some.1 read
      exact nameless n ds (k + 1) numbered is
    have unnamed : FlagName.ofText? s.toList = none := by
      rw [Option.eq_none_iff_forall_ne_some]
      intro f read
      obtain ⟨n, ds, is, numbered, -⟩ := numbered_of_ofText? read
      exact nameless n ds 0 numbered is
    rw [Word.ofText, if_neg long, flagless, unnamed]

theorem isWord_ofText (s : String) : IsWord s (Word.ofText s) := by
  unfold Word.ofText
  split
  · next long =>
    obtain ⟨c, listed, is⟩ := contains_loneFlags.1 long
    have same : s = ofList ['-', c] := by rw [← is, ofList_toList]
    obtain ⟨d, rest, first, dash⟩ := (numbered_letter listed).first
    cases first
    rw [is]
    simpa [dash, same] using IsWord.lone listed
  · next long =>
    rw [contains_loneFlags] at long
    split
    · next f read =>
      obtain ⟨n, ds, k, is, numbered, rfl⟩ := ofFlag?_eq_some.1 read
      rw [← ofList_toList (s := s), is]
      refine .flag k numbered fun zero c listed same => long ⟨c, listed, ?_⟩
      rw [is, zero, same]
      rfl
    · next flagless =>
      cases read : FlagName.ofText? s.toList with
      | some f =>
        obtain ⟨n, ds, is, numbered, rfl⟩ := numbered_of_ofText? read
        rw [← ofList_toList (s := s), is]
        exact .single numbered
      | none =>
        refine .junk fun n ds k numbered is => ?_
        cases k with
        | zero =>
          rw [is] at read
          cases numbered.ofText?.symm.trans read
        | succ k => cases (ofFlag?_eq_some.2 ⟨n, ds, k, is, numbered, rfl⟩).symm.trans flagless

/-! ## 3. Arguments -/

theorem readDigits_decimal (acc : Nat) (last : Bool) (decimal : ∀ c ∈ ds, isDecimal c = true) :
    readDigits 10 acc last ds = if last || !ds.isEmpty
      then some (ds.foldl (fun n c => 10 * n + (decimalValue? c).getD 0) acc) else none := by
  induction ds generalizing acc last with
  | nil => cases last <;> rfl
  | cons c ds ih =>
    obtain ⟨d, value, small⟩ := decimalValue?_of_isDecimal (decimal c mem_cons_self)
    have other : c ≠ '_' := by rintro rfl; cases value
    rw [readDigits, digitValue?, value]
    · simp [small, ih _ true fun c inside => decimal c (mem_cons_of_mem _ inside), value]
    · exact other

theorem countDigits_decimal (count : Nat) (last : Bool) (decimal : ∀ c ∈ ds, isDecimal c = true)
    (begun : last = true ∨ count = 0) : countDigits 10 count last ds = some (count + ds.length) := by
  induction ds generalizing count last with
  | nil => rcases begun with rfl | rfl <;> simp [countDigits]
  | cons c ds ih =>
    obtain ⟨d, value, small⟩ := decimalValue?_of_isDecimal (decimal c mem_cons_self)
    have other : c ≠ '_' := by rintro rfl; cases value
    rw [countDigits, digitValue?, value]
    · simp [small, ih _ true (fun c inside => decimal c (mem_cons_of_mem _ inside)) (.inl rfl)]
      omega
    · exact other

theorem Numbered.readInt (numbered : Numbered n ds) (full : ds ≠ []) : readInt 10 ds =
    if digitLimit < ds.length then .error (.tooLong ds.length) else .ok (digitsValue ds) := by
  have decimal : ∀ c ∈ ds, isDecimal c = true := by simpa using numbered.decimal
  have black : ∀ c ∈ ds, isBlank c = false := by
    have := numbered.black
    simp_all
  have strip : stripBlank ds = ds := by
    have none (l : List Char) (black : ∀ c ∈ l, isBlank c = false) : l.dropWhile isBlank = l := by
      cases l with
      | nil => rfl
      | cons c l => simp [black c mem_cons_self]
    rw [stripBlank, none ds black, none _ (by simpa using black), reverse_reverse]
  have sign : splitMinus ds = (false, ds) := by
    cases ds with
    | nil => rfl
    | cons c ds =>
      have first := decimal c mem_cons_self
      unfold splitMinus
      split
      · next same => cases same; cases first
      · next same => cases same; cases first
      · rfl
  have unmarked : baseMark 10 ds = none := by
    unfold baseMark
    split <;> grind
  have nonempty : ds.isEmpty = false := by simpa using full
  rw [Number.readInt, strip, sign]
  dsimp only
  rw [excessDigits?, readSize?, unmarked]
  have counted := countDigits_decimal 0 false decimal (.inr rfl)
  have read := readDigits_decimal 0 false decimal
  by_cases long : digitLimit < ds.length <;> simp [counted, read, nonempty, long, isBinaryBase, digitsValue, Option.filter]

/-- A word that names an argument and gives it a number that is not read. -/
def IsLong (s : String) : Prop :=
  ∃ n, (IsWord s (.flag n) ∨ IsWord s (.value (some n))) ∧ digitLimit < n.uses.toList.length

theorem IsWord.numbered {n : FlagName} (word : IsWord s (.flag n) ∨ IsWord s (.value (some n))) :
    Numbered n.name.toList n.uses.toList := by
  rcases word with word | word <;> cases word <;> simpa only [toList_ofList]

section

variable {n : FlagName} {v : Value} {pos : Nat} {x : Argument}

theorem Named.ofGiven? (named : Named limited n v pos x) (numbered : Numbered n.name.toList n.uses.toList) :
    Argument.ofGiven? (.ofFlag limited n v pos) = .ok x := by
  cases named with
  | plain unnumbered =>
    rcases unnumbered with none | rfl
    · simp [Given.ofFlag, Argument.ofGiven?, Argument.ofGiven, none]
    · by_cases none : n.uses = "" <;> simp [Given.ofFlag, Argument.ofGiven?, Argument.ofGiven, none]
  | limited some_uses fits =>
    have read := numbered.readInt (by simpa using some_uses)
    rw [if_neg (Nat.not_lt.2 fits)] at read
    simp [Given.ofFlag, Argument.ofGiven?, Argument.ofGiven, some_uses, read]

theorem named_or_long (limited : Bool) (numbered : Numbered n.name.toList n.uses.toList) (v : Value) (pos : Nat) :
    (∃ x, Named limited n v pos x) ∨ (limited = true ∧ digitLimit < n.uses.toList.length ∧
      ∃ m, Argument.ofGiven? (.ofFlag limited n v pos) = .error ⟨.valueError, m⟩) := by
  by_cases none : n.uses = "" ∨ limited = false
  · exact .inl ⟨_, .plain none⟩
  · simp only [not_or, Bool.not_eq_false] at none
    obtain ⟨some_uses, rfl⟩ := none
    by_cases fits : n.uses.toList.length ≤ digitLimit
    · exact .inl ⟨_, .limited some_uses fits⟩
    · have read := numbered.readInt (by simpa using some_uses)
      rw [if_pos (Nat.lt_of_not_le fits)] at read
      refine .inr ⟨rfl, Nat.lt_of_not_le fits, IntFault.message 10 n.uses (.tooLong n.uses.toList.length), ?_⟩
      simp [Given.ofFlag, Argument.ofGiven?, some_uses, read]

end

/-- What words give, the first of which stands at `pos`. -/
def given (limited : Bool) (pos : Nat) : List (String × Bool) → List Given
  | [] => []
  | (s, guarded) :: ws =>
    match ofText s with
    | .lone name => ⟨.str name guarded, .bool true, pos, none⟩ :: given limited (pos + 1) ws
    | .value name => (name.map (.ofFlag limited · (.bool true) pos)).toList ++ given limited (pos + 1) ws
    | .flag n =>
      match ws with
      | [] => [.ofFlag limited n (.bool true) pos]
      | (v, guarded) :: rest =>
        match ofText v with
        | .value _ => .ofFlag limited n (.str v guarded) pos :: given limited (pos + 2) rest
        | _ => .ofFlag limited n (.bool true) pos :: given limited (pos + 1) ((v, guarded) :: rest)

theorem exec_argumentsOf_bind (later : x.exec answer w = (argumentsOf hs).exec answer w) (gs : List Given) :
    (Eval.bind (argumentsOf gs) fun first => .bind x fun more => .pure (first ++ more)).exec answer w =
      (argumentsOf (gs ++ hs)).exec answer w := by
  unfold argumentsOf at later ⊢
  rw [mapM_append]
  cases gs.mapM ofGiven? with
  | error f => rfl
  | ok first =>
    change (Eval.bind x fun more => .pure (first ++ more)).exec answer w = _
    rw [Eval.exec, later]
    cases hs.mapM ofGiven? <;> rfl

/-- Also a flag that waits for its value gives what the flag gives in front of the words. -/
theorem exec_readWords (ws : List (String × Bool)) (pos : Nat) :
    let words := ws.map fun p => Value.str p.1 p.2
    (readWords limited none pos words).exec answer w = (argumentsOf (given limited pos ws)).exec answer w ∧
      ∀ s guarded n, ofText s = .flag n → (readWords limited (some n) (pos + 1) words).exec answer w =
          (argumentsOf (given limited pos ((s, guarded) :: ws))).exec answer w := by
  induction ws generalizing pos with
  | nil =>
    refine ⟨rfl, fun s guarded n flag => ?_⟩
    rw [given, flag]
    rfl
  | cons v ws ih =>
    obtain ⟨v, guarded⟩ := v
    refine ⟨?_, fun s _ n flag => ?_⟩
    · rw [map_cons, readWords, takeWord.eq_def]
      cases word : ofText v with
      | lone name | value name =>
        rw [given, word]
        exact exec_argumentsOf_bind (ih (pos + 1)).1 _
      | flag n => exact exec_argumentsOf_bind ((ih pos).2 v guarded n word) []
    · rw [given, flag, map_cons, readWords, takeWord.eq_def]
      dsimp only
      cases word : ofText v with
      | lone name =>
        rw [given, word]
        exact exec_argumentsOf_bind (ih (pos + 2)).1 [_, _]
      | value name => exact exec_argumentsOf_bind (ih (pos + 2)).1 [_]
      | flag m => exact exec_argumentsOf_bind ((ih (pos + 1)).2 v guarded m word) [_]

theorem ReadAs.mapM_given {pos : Nat} {ws : List (String × Bool)} {xs : List Argument}
    (read : ReadAs limited pos ws xs) : (given limited pos ws).mapM Argument.ofGiven? = .ok xs := by
  have cons {g : Given} {gs : List Given} {x : Argument} {xs : List Argument} (first : Argument.ofGiven? g = .ok x)
      (more : gs.mapM Argument.ofGiven? = .ok xs) : (g :: gs).mapM Argument.ofGiven? = .ok (x :: xs) := by
    rw [mapM_cons, first, more]
    rfl
  induction read with
  | nil => rfl
  | lone word more ih =>
    rw [given, word.ofText]
    exact cons rfl ih
  | valued word behind named more ih =>
    rw [given, word.ofText]
    dsimp only
    rw [behind.ofText]
    exact cons (named.ofGiven? (IsWord.numbered (.inl word))) ih
  | @alone _ _ _ _ ws _ _ word behind named more ih =>
    have first := named.ofGiven? (IsWord.numbered (.inl word))
    rw [given, word.ofText]
    dsimp only
    cases ws with
    | nil =>
      cases more
      exact cons first rfl
    | cons v ws =>
      dsimp only
      cases is : Word.ofText v.1 with
      | value m => exact absurd (is ▸ isWord_ofText v.1) (behind v rfl m)
      | _ => exact cons first ih
  | single word named more ih =>
    rw [given, word.ofText]
    exact cons (named.ofGiven? (IsWord.numbered (.inr word))) ih
  | junk word more ih =>
    rw [given, word.ofText]
    exact ih

theorem ReadAs.pos {pos : Nat} {ws : List (String × Bool)} {xs : List Argument}
    (read : ReadAs limited pos ws xs) : xs.Pairwise (·.pos < ·.pos) ∧ ∀ x ∈ xs, pos ≤ x.pos := by
  have cons {p q : Nat} {x : Argument} {xs : List Argument} (here : x.pos = p) (later : p < q)
      (more : xs.Pairwise (·.pos < ·.pos) ∧ ∀ x ∈ xs, (q : Int) ≤ x.pos) :
      (x :: xs).Pairwise (·.pos < ·.pos) ∧ ∀ y ∈ x :: xs, (p : Int) ≤ y.pos := by
    have behind (y) (inside : y ∈ xs) : x.pos < y.pos := by
      have := more.2 y inside
      omega
    refine ⟨pairwise_cons.2 ⟨behind, more.1⟩, fun y inside => ?_⟩
    rcases mem_cons.1 inside with rfl | inside
    · omega
    · have := behind y inside
      omega
  have placed {n v pos x} (named : Named limited n v pos x) : x.pos = pos := by cases named <;> rfl
  induction read with
  | nil => simp
  | lone _ _ ih => exact cons rfl (Nat.lt_succ_self _) ih
  | valued _ _ named _ ih => exact cons (placed named) (by omega) ih
  | alone _ _ named _ ih | single _ named _ ih => exact cons (placed named) (Nat.lt_succ_self _) ih
  | junk _ _ ih =>
    refine ⟨ih.1, fun x inside => ?_⟩
    have := ih.2 x inside
    omega

/-- Words are read, or one of them has a number that is not. -/
def Settled (limited : Bool) (pos : Nat) (ws : List (String × Bool)) (gs : List Given) : Prop :=
  (∃ xs, ReadAs limited pos ws xs) ∨
    (limited = true ∧ (∃ p ∈ ws, IsLong p.1) ∧ ∃ m, gs.mapM Argument.ofGiven? = .error ⟨.valueError, m⟩)

theorem Settled.cons {n : FlagName} {v : Value} {pos q : Nat} {ws all : List (String × Bool)} {gs : List Given}
    (word : IsWord s (.flag n) ∨ IsWord s (.value (some n))) (first : (s, g) ∈ all) (others : ws ⊆ all)
    (build : ∀ x xs, Named limited n v pos x → ReadAs limited q ws xs → ReadAs limited pos all (x :: xs))
    (more : Settled limited q ws gs) : Settled limited pos all (.ofFlag limited n v pos :: gs) := by
  rcases named_or_long limited (IsWord.numbered word) v pos with ⟨x, named⟩ | ⟨is, long, m, failed⟩
  · rcases more with ⟨xs, read⟩ | ⟨is, ⟨p, inside, long⟩, m, failed⟩
    · exact .inl ⟨_, build x xs named read⟩
    · refine .inr ⟨is, ⟨p, others inside, long⟩, m, ?_⟩
      rw [mapM_cons, named.ofGiven? (IsWord.numbered word), failed]
      rfl
  · refine .inr ⟨is, ⟨_, first, n, word, long⟩, m, ?_⟩
    rw [mapM_cons, failed]
    rfl

theorem settled_given (limited : Bool) (pos : Nat) (ws : List (String × Bool)) :
    Settled limited pos ws (given limited pos ws) := by
  have is_word {s : String} {word : Word} (is : Word.ofText s = word) : IsWord s word := is ▸ isWord_ofText s
  fun_induction given limited pos ws with
  | case1 => exact .inl ⟨_, .nil⟩
  | case2 pos s guarded ws name is ih =>
    rcases ih with ⟨xs, read⟩ | ⟨limits, ⟨p, inside, long⟩, m, failed⟩
    · exact .inl ⟨_, .lone (is_word is) read⟩
    · refine .inr ⟨limits, ⟨p, mem_cons_of_mem _ inside, long⟩, m, ?_⟩
      rw [mapM_cons, failed]
      rfl
  | case3 pos s guarded ws name is ih =>
    cases name with
    | some n =>
      exact ih.cons (.inr (is_word is)) mem_cons_self (subset_cons_self _ _) fun x xs named more => .single (is_word is) named more
    | none =>
      exact ih.imp (fun ⟨xs, as⟩ => ⟨xs, .junk (is_word is) as⟩)
        fun ⟨limits, ⟨p, inside, long⟩, failed⟩ => ⟨limits, ⟨p, mem_cons_of_mem _ inside, long⟩, failed⟩
  | case4 pos s guarded n is =>
    have nothing : Settled limited (pos + 1) [] [] := .inl ⟨_, .nil⟩
    exact nothing.cons (.inl (is_word is)) mem_cons_self (nil_subset _) fun x xs named more =>
      .alone (is_word is) (by simp) named more
  | case5 pos s guarded n is v g rest m behind ih =>
    exact ih.cons (.inl (is_word is)) mem_cons_self (by simp) fun x xs named more =>
      .valued (is_word is) (is_word behind) named more
  | case6 pos s guarded n is v g rest behind ih =>
    refine ih.cons (.inl (is_word is)) mem_cons_self (subset_cons_self _ _) fun x xs named more =>
      .alone (is_word is) (fun u first m value => ?_) named more
    cases first
    exact behind m value.ofText

/-- **Words give what a word and the one behind it say**, in their order, unless one of them has a number of too many
    digits. -/
theorem readWords_iff (limited : Bool) (ws : List (String × Bool)) (answer : Answering) (w : World) :
    let read := (readWords limited none 0 (ws.map fun p => .str p.1 p.2)).exec answer w
    (∀ xs, read = .ok xs w ↔ ReadAs limited 0 ws xs) ∧
      (∀ xs, ReadAs limited 0 ws xs → xs.Pairwise (·.pos < ·.pos)) ∧
      ((∃ xs, ReadAs limited 0 ws xs) ∨ (limited = true ∧ (∃ p ∈ ws, IsLong p.1) ∧
        ∃ m, read = .error (.fault ⟨.valueError, m⟩) w)) := by
  intro read
  have ran : read = (argumentsOf (given limited 0 ws)).exec answer w := (exec_readWords ws 0).1
  have ends {xs} (as : ReadAs limited 0 ws xs) : read = .ok xs w := by
    rw [ran, argumentsOf, as.mapM_given]
    rfl
  have settled : (∃ xs, ReadAs limited 0 ws xs) ∨ (limited = true ∧ (∃ p ∈ ws, IsLong p.1) ∧
        ∃ m, read = .error (.fault ⟨.valueError, m⟩) w) := by
    refine (settled_given limited 0 ws).imp_right fun ⟨limits, long, m, failed⟩ => ⟨limits, long, m, ?_⟩
    rw [ran, argumentsOf, failed]
    rfl
  refine ⟨fun xs => ⟨fun ok => ?_, ends⟩, fun xs as => as.pos.1, settled⟩
  rcases settled with ⟨xs', as⟩ | ⟨-, -, m, failed⟩
  · cases ok.symm.trans (ends as)
    exact as
  · cases ok.symm.trans failed

theorem Numbered.ofText (numbered : Numbered n ds) (some_uses : ds ≠ []) :
    ofText ("-" ++ ofList (n ++ ds)) = .flag ⟨ofList n, ofList ds⟩ := by
  have word : IsWord (ofList ('-' :: (n ++ ds))) (.flag ⟨ofList n, ofList ds⟩) := by
    refine .flag 0 numbered fun _ c _ one => ?_
    have letter := numbered.letter
    cases n <;> simp_all
  simpa [← toList_inj] using word.ofText

theorem readWords_ones (k : Nat) (long : digitLimit < k) :
    let word := "-" ++ ofList (['d'] ++ replicate k '1')
    ∃ m, (readWords true none 0 [.str word false]).exec (run 0) {} = .error (.fault ⟨.valueError, m⟩) {} := by
  intro word
  have some_uses : k ≠ 0 := Nat.ne_of_gt (Nat.lt_of_le_of_lt (Nat.zero_le _) long)
  have black : isBlank '1' = false := by decide
  have decimal : isDecimal '1' = true := by decide
  have numbered : Numbered ['d'] (replicate k '1') :=
    ⟨by decide, by decide, by simp [black]; decide, by simp [decimal]⟩
  have full : replicate k '1' ≠ [] := by simpa using some_uses
  have read := numbered.readInt full
  rw [if_pos (by rwa [length_replicate])] at read
  refine ⟨IntFault.message 10 (ofList (replicate k '1')) (.tooLong k), (exec_readWords [(word, false)] 0).1.trans ?_⟩
  rw [given, numbered.ofText full, argumentsOf]
  simp [Given.ofFlag, ofGiven?, read, some_uses]
  rfl

/-- A number of one digit too many is not read. -/
theorem long_number_fails :
    let word := "-" ++ ofList (['d'] ++ replicate 4301 '1')
    ∃ m, (readWords true none 0 [.str word false]).exec (run 0) {} = .error (.fault ⟨.valueError, m⟩) {} :=
  readWords_ones 4301 (by decide)

/-- **A table that is set takes the last digit of a name for the uses, a command line all of them.** -/
theorem uses_by_digits (n ds : List Char) (d : Char) (v : String) (g h guarded : Bool) (answer : Answering)
    (w : World) (a l : Addr) (t : ArgumentTable) (m size : Option Int) (numbered : Numbered n (ds ++ [d]))
    (value : ∃ name, Word.ofText v = .value name) (table : w.heap[a]? = some (.arguments t m))
    (listed : w.heap[l]? = some (.list guarded #[.str v h] size)) :
    let full := String.ofList (n ++ (ds ++ [d]))
    let short := String.ofList (n ++ ds)
    let plain : Argument := { name := .str full g, value := .str v h, pos := 0 }
    let limited : Argument :=
      { name := .str short false, value := .str v h, pos := 0, uses := some ((decimalValue? d).getD 0) }
    (readWords true none 0 [.str ("-" ++ full) g, .str v h]).exec answer w =
        (argumentsOf [⟨.str (String.ofList n) false, .str v h, 0, some (String.ofList (ds ++ [d]))⟩]).exec answer w ∧
      ∃ w', (setArguments a plain.name (.ref l)).exec answer w = .ok () w' ∧ w'.heap[a]? = some (.arguments
        ((t.setGroup (.str full) plain.name [plain]).setGroup (.str short) limited.name [limited]) m) := by
  intro full short plain limited
  constructor
  · obtain ⟨name, value⟩ := value
    refine (exec_readWords [("-" ++ full, g), (v, h)] 0).1.trans ?_
    rw [given, numbered.ofText (by simp)]
    dsimp only
    rw [value]
    simp [given, Given.ofFlag]
  · have limits : limitedName? full.toList = some (short, (decimalValue? d).getD 0) := by
      obtain ⟨letter, _, black, decimal⟩ := numbered
      rw [String.toList_ofList, ← List.append_assoc, limitedName?, List.getLast?_concat, Option.bind_some,
        List.dropLast_concat, if_pos]
      cases n <;> simp_all
    have change {w : World} {t} (table : w.heap[a]? = some (.arguments t m)) (what : TableChange) :
        (changeTable a what).exec answer w = .ok () (w.putCell a (.arguments (what.apply t) m)) := by
      rw [changeTable, Eval.exec, Change.apply, table]
    have set : (w.putCell a (.arguments (t.setGroup (.str full) plain.name [plain]) m)).heap[a]? = _ :=
      World.heap_putCell table
    refine ⟨_, (exec_bind_ok (exec_found _ listed) _).trans ?_, World.heap_putCell set⟩
    refine (exec_bind_ok (change table _) _).trans ?_
    dsimp only [plain]
    rw [limits]
    exact change set _

/-- A table without arguments, and a list with one text. -/
def bareTable : World := { heap := #[.arguments {} none, .list false #[.str "v" false] none] }

theorem uses_by_digits_twelve :
    (readWords true none 0 [.str "-d12" false, .str "v" false]).exec (run 0) bareTable =
        .ok [{ name := .str "d" false, value := .str "v" false, pos := 0, uses := some 12 }] bareTable ∧
      ∃ w t, (setArguments 0 (.str "d12" false) (.ref 1)).exec (run 0) bareTable = .ok () w ∧
        w.heap[0]? = some (.arguments t none) ∧
        t.items (.str "d1") = [{ name := .str "d1" false, value := .str "v" false, pos := 0, uses := some 2 }] := by
  obtain ⟨read, w, set, table⟩ := uses_by_digits ['d'] ['1'] '2' "v" false false false (run 0) bareTable 0 1 {} none
    none ⟨by decide, by decide, by decide, by decide⟩ ⟨_, rfl⟩ rfl rfl
  exact ⟨read, w, _, set, table, rfl⟩

/-- Twelve uses are not to be had by setting a table. -/
theorem twelve_uses_missing :
    ∃ w t, (setArguments 0 (.str "d12" false) (.ref 1)).exec (run 0) bareTable = .ok () w ∧
      w.heap[0]? = some (.arguments t none) ∧ t.items (.str "d") = [] :=
  ⟨_, _, rfl, rfl, rfl⟩

/-! ## 4. Calls that read -/

/-- Said of computations: it holds of those that only look, and of one behind another. -/
structure Composes (C : {α : Type} → Eval α → Prop) : Prop where
  looks : ∀ {α : Type} {x : Eval α}, x.Looks → C x
  bind : ∀ {α β : Type} {x : Eval α} {f : α → Eval β}, C x → (∀ v, C (f v)) → C (.bind x f)

theorem looks_tableAt (a : Addr) : (tableAt a).Looks := .bind .read fun _ => .pure _

namespace Composes

variable {C : {α : Type} → Eval α → Prop} (composes : Composes C) {name : Value} (a : Addr)

include composes

theorem pure {α : Type} (v : α) : C (Eval.pure v) := composes.looks (.pure v)

theorem openGroups (touch : ∀ k a, C (changeTable a (.touch k name))) : C (openGroups a name) := by
  have context : (contextTable a).Looks := .bind (looks_tableAt a) fun _ => .bind (looks_hashKey _) fun _ => .pure _
  refine composes.bind (composes.looks (looks_hashKey name)) fun k => composes.bind (touch k a) fun _ =>
    composes.bind (composes.looks context) fun found => composes.bind ?_ fun _ => composes.pure _
  cases found with
  | none => exact composes.pure _
  | some c => exact touch k c

variable (read : ∀ last k a, C (changeTable a (.read k ⟨limited, last⟩)))

include read

theorem readGroup (last : Bool) (k : Key) (a : Addr) : C (readGroup ⟨limited, last⟩ k a) :=
  composes.bind (composes.looks (looks_tableAt a)) fun _ =>
    composes.bind (read last k a) fun _ => composes.pure _

theorem inContext (last : Bool) (k : Key) (c : Option Addr) :
    C (c.elim (.pure []) (Script.readGroup ⟨limited, last⟩ k)) := by
  cases c with
  | none => exact composes.pure _
  | some c => exact composes.readGroup read last k c

variable (touch : ∀ k a, C (changeTable a (.touch k name)))

include touch

theorem argumentValues : C (argumentValues a name limited) :=
  composes.bind (composes.openGroups a touch) fun found => composes.bind (composes.readGroup read false found.1 a) fun _ =>
    composes.bind (composes.inContext read false _ _) fun _ => composes.pure _

theorem lastArgument : C (lastArgument a name limited) := by
  refine composes.bind (composes.openGroups a touch) fun found =>
    composes.bind (composes.inContext read true _ _) fun vs => ?_
  cases vs with
  | nil => exact composes.bind (composes.readGroup read true found.1 a) fun _ => composes.pure _
  | cons v vs => exact composes.pure _

end Composes

/-- A table after it was asked for names: some of them may have come behind the others, with no arguments. -/
structure Touched (names : List Value) (t t' : ArgumentTable) : Prop where
  groups : ∃ new, t'.groups = t.groups ++ new ∧ ∀ g ∈ new, g.name ∈ names
  items : ∀ k, t'.items k = t.items k
  contexts : t'.current = t.current ∧ t'.contexts = t.contexts

/-- Tables are only asked for names. -/
def Asks (names : List Value) (answer : Answering) (x : Eval α) : Prop :=
  ∀ w b, Touched names (w.argumentsAt b) ((worldOf (x.exec answer w)).argumentsAt b)

section

variable {α β : Type} {names : List Value} {x : Eval α} {f : α → Eval β} {name : Value} {k : Key} {what : TableChange}

theorem Touched.refl (t : ArgumentTable) : Touched names t t := ⟨⟨[], by simp⟩, fun _ => rfl, rfl, rfl⟩

theorem touched_touch (asked : name ∈ names) (t : ArgumentTable) : Touched names t (apply (.touch k name) t) := by
  rw [apply, ArgumentTable.touch]
  split
  · exact .refl t
  · refine ⟨⟨_, rfl, by simpa using asked⟩, fun l => ?_, rfl, rfl⟩
    simp only [items, group?, find?_append]
    cases t.groups.find? fun g => g.key == l with
    | some g => rfl
    | none => by_cases here : (k == l) = true <;> simp [here]

theorem Reading.mem_handed {r : Reading} (given : (y, i) ∈ r.handed xs) :
    xs[i]? = some y ∧ y.isReady r.limited = true := by
  have ready : (y, i) ∈ r.ready xs := by
    unfold Reading.handed at given
    grind
  obtain ⟨placed, isReady⟩ := mem_filter.1 ready
  exact ⟨mk_mem_zipIdx_iff_getElem?.1 placed, isReady⟩

/-- An argument that is good for so many uses is not ready, and another one does not change. -/
theorem Reading.rest_unlimited (last : Bool) (xs : List Argument) : rest ⟨false, last⟩ xs = xs := by
  refine ext_getElem? fun i => ?_
  rw [rest, getElem?_mapIdx]
  cases there : xs[i]? with
  | none => rfl
  | some x =>
    rw [Option.map_some, ite_eq_right_iff.2 fun handed => ?_]
    obtain ⟨⟨y, j⟩, given, rfl⟩ := mem_map.1 (contains_iff_mem.1 handed)
    obtain ⟨placed, isReady⟩ := mem_handed given
    cases there.symm.trans placed
    unfold Argument.isReady at isReady
    unfold use
    split <;> simp_all

theorem Asks.bind (first : Asks names answer x) (rest : ∀ v, Asks names answer (f v)) : Asks names answer (.bind x f) := by
  intro w b
  have here := first w b
  rw [Eval.exec]
  cases out : x.exec answer w with
  | error => rwa [out] at here
  | ok v w' =>
    rw [out] at here
    have more := rest v w' b
    obtain ⟨new, came, asked⟩ := here.groups
    obtain ⟨new', came', asked'⟩ := more.groups
    refine ⟨⟨new ++ new', ?_, forall_mem_append.2 ⟨asked, asked'⟩⟩, fun k => (more.items k).trans (here.items k),
      more.contexts.1.trans here.contexts.1, more.contexts.2.trans here.contexts.2⟩
    rw [came', ← List.append_assoc]
    exact congrArg (· ++ new') came

theorem Eval.Looks.asks (looks : x.Looks) : Asks names answer x := fun w b => by
  rw [looks.worldOf_exec]
  exact .refl _

theorem asks_pure (v : α) : Asks names answer (.pure v) := (Eval.Looks.pure v).asks

theorem World.argumentsAt_table (w : World) (a b : Addr) (what : TableChange) :
    ((Change.table a what).apply w).argumentsAt b = w.argumentsAt b ∧ (a = b → w.argumentsAt b = {}) ∨
      a = b ∧ ((Change.table a what).apply w).argumentsAt b = what.apply (w.argumentsAt b) := by
  rw [Change.apply]
  split
  · next t n found =>
    by_cases here : a = b
    · subst here
      simp only [World.argumentsAt, World.heap_putCell found, found]
      exact .inr ⟨trivial, trivial⟩
    · simp only [World.argumentsAt, World.putCell, Array.getElem?_setIfInBounds_ne here]
      exact .inl ⟨trivial, fun same => absurd same here⟩
  · next other =>
    refine .inl ⟨rfl, ?_⟩
    rintro rfl
    unfold World.argumentsAt
    split
    · next t n found => exact (other t n found).elim
    · rfl

theorem asks_changeTable (touches : ∀ t, Touched names t (what.apply t)) (a : Addr) :
    Asks names answer (changeTable a what) := by
  intro w b
  rw [changeTable, Eval.exec, worldOf_ok]
  rcases w.argumentsAt_table a b what with ⟨same, -⟩ | ⟨-, same⟩ <;> rw [same]
  · exact .refl _
  · exact touches _

theorem asks_readChange (last : Bool) (k : Key) (a : Addr) :
    Asks names answer (changeTable a (.read k ⟨false, last⟩)) := by
  refine asks_changeTable (fun t => ?_) a
  have same : apply (.read k ⟨false, last⟩) t = t := by simp [apply, updateGroup, rest_unlimited]
  rw [same]
  exact .refl t

theorem asks_composes : Composes fun {α : Type} (x : Eval α) => Asks names answer x :=
  ⟨fun looks => looks.asks, fun first rest => first.bind rest⟩

end

/-- **Calls that read only ask for names**, in their table and in those that apply in its contexts. -/
theorem reading_asks (calls : List (Addr × Value × Bool)) (answer : Answering) :
    Asks (calls.map (·.2.1)) answer (calls.forM fun (a, name, last) =>
      if last then discard (lastArgument a name false) else discard (argumentValues a name false)) := by
  have all : ∀ c ∈ calls, c.2.1 ∈ calls.map (·.2.1) := fun _ there => List.mem_map_of_mem there
  generalize calls.map (·.2.1) = names at all
  induction calls with
  | nil => exact asks_pure _
  | cons c calls ih =>
    obtain ⟨a, name, last⟩ := c
    obtain ⟨asked, others⟩ := List.forall_mem_cons.1 all
    have touch (k : Key) (a : Addr) : Asks names answer (changeTable a (.touch k name)) :=
      asks_changeTable (touched_touch asked) a
    refine Asks.bind ?_ fun _ => ih others
    cases last with
    | false => exact .bind (asks_composes.argumentValues a asks_readChange touch) fun _ => asks_pure _
    | true => exact .bind (asks_composes.lastArgument a asks_readChange touch) fun _ => asks_pure _

/-- A name that is asked for comes, in a table that had none. -/
theorem asked_name_comes : (bareTable.argumentsAt 0).groups.length = 0 ∧
    ((worldOf ((argumentValues 0 (.str "x" false) false).exec (run 0) bareTable)).argumentsAt 0).groups.length = 1 := by
  decide

end AliasTools.Script
