import Mathlib
import AliasTools.Proofs.Pieces
import AliasTools.Script.Render

/-!
# What rendering does with a text

Rendering looks for each kind of piece by itself and leaves out what overlaps.  It is compared with a
reading from left to right that knows nothing of this (`Executor.readFrom`), and with the blocks that
an editor finds in the same text.
-/

namespace AliasTools.Script

open Source Command Text List Rendered

universe u

abbrev everyKind : List PieceKind := [.block, .inline, .roll]

/-! ## 1. Reading from left to right -/

namespace Executor

variable {m : Type → Type u} [Monad m] (x : Executor m)

/-- Render the rest of a text, read from left to right: a character is copied where no piece begins, and
    a piece is carried out where it begins; `skip` counts its characters still to be passed. -/
def readFrom (body : List Char) (skipped : Nat) (before : Option Char) (i skip : Nat) (out : Rendered) :
    List Char → m Rendered
  | [] => return out
  | c :: rest =>
    match skip with
    | n + 1 => readFrom body skipped (some c) (i + 1) n out rest
    | 0 =>
      match pieceAt everyKind before i (c :: rest) with
      | none => readFrom body skipped (some c) (i + 1) 0 (out.write (String.singleton c)) rest
      | some p => do
        let out ← x.renderPiece body skipped out p
        if out.failure.isSome then return out
        readFrom body skipped (some c) (i + 1) (p.2.stop - i - 1) out rest

def read (body : List Char) (skipped : Nat) : m Rendered :=
  x.readFrom body skipped none 0 0 { command := "", stdout := "" } body

end Executor

@[simp] theorem Rendered.write_empty (out : Rendered) : out.write "" = out := by simp [write]

@[simp] theorem Rendered.write_write (out : Rendered) (s t : String) : (out.write s).write t = out.write (s ++ t) := by
  simp [write, String.append_assoc]

theorem ofList_cons_eq (c : Char) (s : List Char) : String.ofList (c :: s) = String.singleton c ++ String.ofList s := by
  rw [String.singleton_eq_ofList, ← String.ofList_append]
  rfl

section Reading

variable {m : Type → Type u} [Monad m] (x : Executor m) (body : List Char) (skipped : Nat)

theorem renderPieces_copy (here : body.drop pos = c :: rest)
    (pieces : List (PieceKind × Source.Piece)) (later : ∀ p ∈ pieces, pos + 1 ≤ p.2.start) (out : Rendered) :
    x.renderPieces body skipped pos out pieces =
      x.renderPieces body skipped (pos + 1) (out.write (String.singleton c)) pieces := by
  have behind : body.drop (pos + 1) = rest := by rw [← drop_drop, here]; rfl
  cases pieces with
  | nil => simp only [Executor.renderPieces, here, behind, write_write, ofList_cons_eq]
  | cons p pieces =>
    have taken : p.2.start - pos = (p.2.start - (pos + 1)) + 1 := by
      have := later p (.head _)
      omega
    simp only [Executor.renderPieces, here, behind, taken, take_succ_cons, write_write, ofList_cons_eq]

theorem renderPieces_scanFrom (before rest : List Char) (skip : Nat) (out : Rendered) (whole : before ++ rest = body) :
    x.renderPieces body skipped (before.length + skip) out
        (scanFrom everyKind before.getLast? before.length skip rest) =
      x.readFrom body skipped before.getLast? before.length skip out rest := by
  induction rest generalizing before skip out with
  | nil =>
    have passed : body.drop (before.length + skip) = [] := by simp [← whole]
    rw [scanFrom, Executor.renderPieces, passed, write_empty]
    rfl
  | cons c rest ih =>
    have step := fun skip out => ih (before ++ [c]) skip out (by simp [whole])
    simp only [getLast?_append, getLast?_singleton, Option.some_or, length_append, length_singleton] at step
    cases skip with
    | succ n =>
      rw [show before.length + (n + 1) = before.length + 1 + n by omega]
      exact step n out
    | zero =>
      rw [scanFrom, Executor.readFrom]
      cases found : pieceAt everyKind before.getLast? before.length (c :: rest) with
      | none =>
        have later := fun p listed => ((selects_scanFrom everyKind (before ++ [c]) rest 0).among p listed).2
        simp only [getLast?_append, getLast?_singleton, Option.some_or, length_append, length_singleton] at later
        have here : body.drop before.length = c :: rest := by simp [← whole]
        rw [Nat.add_zero, renderPieces_copy x body skipped here _ later]
        exact step 0 _
      | some p =>
        obtain ⟨start, stop⟩ := start_pieceAt found
        have none_before : p.2.start - (before.length + 0) = 0 := by omega
        simp only [Executor.renderPieces, none_before, take_zero, String.ofList_nil, write_empty, ← step,
          show before.length + 1 + (p.2.stop - before.length - 1) = p.2.stop by omega]

end Reading

/-- No piece that is read from left to right begins inside a piece that is found when its own kind is
    read alone. -/
def Untangled (body : List Char) : Prop :=
  ∀ p ∈ scan everyKind body, ∀ q ∈ scan [p.1] body, ¬(q.2.start < p.2.start ∧ p.2.start < q.2.stop)

instance (body : List Char) : Decidable (Untangled body) := inferInstanceAs (Decidable (∀ p ∈ _, ∀ q ∈ _, _))

/-- **Rendering reads from left to right** wherever a text is untangled: every piece that lies outside the
    others is carried out, and its value stands in its place.  A text that is not untangled has other pieces
    for rendering. -/
theorem render_eq_read {m : Type → Type u} [Monad m] (x : Executor m) (text : String)
    (args : List String) :
    let body := (fillPlaceholders (splitDefinition text).1 args).toList
    (Untangled body →
      x.render text args = x.read body (splitDefinition text).2 ∧
      ∀ p, Placed everyKind body p →
        (∀ q ∈ piecesOf everyKind body, q = p ∨ q.2.stop ≤ p.2.start ∨ p.2.stop ≤ q.2.start) →
        p ∈ piecesOf everyKind body) ∧
    (¬Untangled body → piecesOf everyKind body ≠ scan everyKind body) := by
  rw [Executor.render]
  obtain ⟨stripped, skipped⟩ := splitDefinition text
  dsimp only
  generalize (fillPlaceholders stripped args).toList = body
  have same_iff := piecesOf_eq_scan_iff everyKind body
  refine ⟨fun untangled => ⟨?_, fun p placed outside => ?_⟩, fun tangled same => tangled (same_iff.1 same)⟩
  · rw [same_iff.2 untangled]
    exact renderPieces_scanFrom x body _ [] body 0 _ rfl
  · rw [same_iff.2 untangled] at outside ⊢
    obtain ⟨q, taken, low, high⟩ := (selects_scan everyKind body).covers p placed (Nat.zero_le _)
    have := placed.start_lt_stop
    rcases outside q taken with rfl | low | high
    · exact taken
    · omega
    · omega

def Executor.silent : Executor Id where
  run _ := (.ok .none, "")
  roll _ := 0
  text _ := ""

theorem render_eq_read_behind_block :
    let text := "<drac2>'\x7b\x7b\x7d\x7d'</drac2> \x7b\x7b1\x7d\x7d"
    Untangled text.toList ∧ Executor.silent.render text [] = Executor.silent.read text.toList 0 := by
  intro text
  have untangled : Untangled text.toList := by decide +kernel
  have plain : fillPlaceholders (splitDefinition text).1 [] = text := by decide +kernel
  have headless : (splitDefinition text).2 = 0 := by decide +kernel
  have same := (render_eq_read Executor.silent text []).1
  rw [plain, headless] at same
  exact ⟨untangled, (same untangled).1⟩

theorem render_of_plain {m : Type → Type u} [Monad m] (x : Executor m)
    (plain : fillPlaceholders (splitDefinition text).1 args = text) :
    x.render text args = x.renderPieces text.toList (splitDefinition text).2 0
      { command := "", stdout := "" } (piecesOf everyKind text.toList) := by
  rw [Executor.render]
  dsimp only
  rw [plain]

theorem expression_swallowed_behind_block :
    let text := "<drac2>'\x7b\x7b'</drac2> \x7b\x7b1\x7d\x7d"
    (Executor.silent.read text.toList 0).command = " " ∧
      (Executor.silent.render text []).command = " \x7b\x7b1\x7d\x7d" := by
  intro text
  have plain : fillPlaceholders (splitDefinition text).1 [] = text := by decide +kernel
  refine ⟨by decide +kernel, ?_⟩
  rw [render_of_plain _ plain, piecesOf_of_sorted (by decide +kernel)]
  decide +kernel

/-! ## 2. What is run -/

def Executor.recording {m : Type → Type u} [Monad m] (x : Executor m) : Executor (StateT (List String) m) where
  run code := do
    modify (· ++ [code])
    x.run code
  roll text := x.roll text
  text v := x.text v

def codesOf (pieces : List (PieceKind × Source.Piece)) : List String :=
  (pieces.filter (·.1 ≠ .roll)).map fun p => String.ofList p.2.code

section Recording

variable {m : Type → Type u} [Monad m] [LawfulMonad m] (x : Executor m) (body : List Char) (skipped : Nat)

omit body skipped in
theorem recorded_lift {α : Type} (a : m α) (codes : List String) :
    SatisfiesM (fun r => r.2 = codes) ((liftM a : StateT (List String) m α).run codes) := by
  exact SatisfiesM.trivial.bind fun _ _ => .pure rfl

omit body skipped in
theorem recorded_run (code : String) (codes : List String) :
    SatisfiesM (fun r => r.2 = codes ++ [code]) ((x.recording.run code).run codes) := by
  simp only [Executor.recording, StateT.run_bind, StateT.run_modify, pure_bind]
  exact recorded_lift (x.run code) _

/-- A piece of code has failed, and its place is told. -/
def Rendered.FailedAt (out : Rendered) (p : PieceKind × Source.Piece) : Prop :=
  p.1 ≠ .roll ∧ ∃ e, out.failure = some e ∧ out.place = some (failurePlace body p.2 skipped e)

theorem recorded_renderPiece (out : Rendered) (p : PieceKind × Source.Piece) (codes : List String)
    (fine : out.place = none) :
    SatisfiesM (fun r => r.2 = codes ++ codesOf [p] ∧ (r.1.place = none ∨ r.1.FailedAt body skipped p))
      ((x.recording.renderPiece body skipped out p).run codes) := by
  obtain ⟨k, p⟩ := p
  by_cases rolled : k = .roll
  · subst rolled
    refine (recorded_lift (x.roll _) codes).bind fun r kept => .pure ⟨?_, .inl fine⟩
    simpa [codesOf] using kept
  · have codes_eq : codes ++ codesOf [(k, p)] = codes ++ [String.ofList p.code] := by
      simp [codesOf, rolled]
    rw [Executor.renderPiece.eq_2 _ _ _ _ _ _ rolled, StateT.run_bind, codes_eq]
    refine (recorded_run x _ codes).bind fun r noted => ?_
    dsimp only
    split
    · exact .pure ⟨noted, .inr ⟨rolled, _, rfl, rfl⟩⟩
    · rename_i v _
      split
      · rw [pure_bind]
        exact .pure ⟨noted, .inl fine⟩
      · rw [noted]
        exact (recorded_lift (x.text v) _).bind fun _ kept => .pure ⟨kept, .inl fine⟩

omit body skipped in
theorem codesOf_append (pieces pieces' : List (PieceKind × Source.Piece)) :
    codesOf (pieces ++ pieces') = codesOf pieces ++ codesOf pieces' := by
  rw [codesOf, filter_append, map_append]
  rfl

theorem recorded_renderPieces (pieces : List (PieceKind × Source.Piece)) (pos : Nat) (out : Rendered)
    (codes : List String) (fine : out.place = none) :
    SatisfiesM (fun r => (r.1.failure = none → r.2 = codes ++ codesOf pieces) ∧
        (r.1.place = none ∨ ∃ before p after, pieces = before ++ p :: after ∧
          r.2 = codes ++ codesOf (before ++ [p]) ∧ r.1.FailedAt body skipped p))
      ((x.recording.renderPieces body skipped pos out pieces).run codes) := by
  induction pieces generalizing pos out codes with
  | nil => exact .pure ⟨fun _ => by simp [codesOf], .inl fine⟩
  | cons p pieces ih =>
    rw [Executor.renderPieces, StateT.run_bind]
    refine (recorded_renderPiece x body skipped _ p codes (by exact fine)).bind fun r ⟨noted, told⟩ => ?_
    split
    · rename_i failed
      refine .pure ⟨fun none_failed => ?_, told.imp_right fun here => ⟨[], p, pieces, rfl, noted, here⟩⟩
      rw [none_failed] at failed
      cases failed
    · rename_i none_failed
      have fine : r.1.place = none :=
        told.resolve_right fun ⟨_, _, failed, _⟩ => none_failed (Option.isSome_of_mem failed)
      rw [noted]
      refine (ih p.2.stop r.1 _ fine).imp fun ⟨all, told⟩ => ⟨fun none_failed => ?_, told.imp_right ?_⟩
      · rw [all none_failed, append_assoc, ← codesOf_append]
        rfl
      · rintro ⟨before, q, after, rfl, codes_eq, here⟩
        refine ⟨p :: before, q, after, rfl, ?_, here⟩
        rw [codes_eq, append_assoc, ← codesOf_append]
        rfl

end Recording

/-! ## 3. Texts without arguments -/

def beginsPlaceholder (s : List Char) : Bool :=
  ['%', '&'].any (fun c => s.head? == some c && (numberedMark? c s.tail).isSome) ||
    ["%*%", "&*&", "&ARGS&"].any (·.toList.isPrefixOf s)

def hasHeader (text : String) : Bool := "!alias".toList.isPrefixOf (((lines text.toList).headD []).dropWhile isBlank)

theorem fillNumbered_eq_self (f : Nat → List Char) (acc : List Char)
    (free : ∀ t ∈ s.tails, t.head? = some c → numberedMark? c t.tail = none) :
    fillNumbered c f acc 0 s = acc.reverse ++ s := by
  induction s generalizing acc with
  | nil => simp [fillNumbered]
  | cons d rest ih =>
    have ih := fun acc => ih acc fun t listed => free t (by simp_all)
    rw [fillNumbered]
    split
    · simp_all
    · simp [ih]

theorem replacePiece_eq_self (new : List Char) (some_old : old ≠ [])
    (free : ∀ t ∈ s.tails, old.isPrefixOf t = false) : replacePiece old new none s = s := by
  have cut : ∀ acc, cutFrom old none 0 [] acc s = [acc.reverse ++ s] := by
    induction s with
    | nil => simp [cutFrom]
    | cons c rest ih =>
      have ih := ih fun t listed => free t (by simp_all)
      have here := free (c :: rest) (by simp)
      intro acc
      rw [cutFrom]
      simp [here, ih]
  simp [replacePiece, some_old, cutAtPiece, cut]

theorem fillPlaceholders_eq_self (free : ∀ t ∈ text.toList.tails, beginsPlaceholder t = false) (args : List String) :
    fillPlaceholders text args = text := by
  have numbered : ∀ c ∈ ['%', '&'], ∀ t ∈ text.toList.tails, t.head? = some c → numberedMark? c t.tail = none := by
    intro c listed t part first
    have := any_eq_false.1 (Bool.or_eq_false_iff.1 (free t part)).1 c listed
    simpa [first] using this
  have replaced : ∀ old ∈ ["%*%", "&*&", "&ARGS&"], ∀ new,
      replacePiece old.toList new none text.toList = text.toList := by
    intro old listed new
    have some_old : old.toList ≠ [] := by revert old; decide
    refine replacePiece_eq_self new some_old fun t part => Bool.eq_false_iff.2 ?_
    exact any_eq_false.1 (Bool.or_eq_false_iff.1 (free t part)).2 old listed
  simp only [fillPlaceholders, fillNumbered_eq_self _ _ (numbered '%' (by decide)),
    fillNumbered_eq_self _ _ (numbered '&' (by decide)), reverse_nil, nil_append,
    replaced "%*%" (by decide), replaced "&*&" (by decide), replaced "&ARGS&" (by decide),
    String.ofList_toList]

theorem splitDefinition_eq_self (none_there : hasHeader text = false) : splitDefinition text = (text, 0) := by
  unfold splitDefinition hasHeader at *
  split <;> simp_all

/-! ## 4. Blocks and what is run -/

def RollsApart (text : List Char) : Prop :=
  ∀ r ∈ piecesOf everyKind text, r.1 = .roll → ∀ p ∈ foundAlone [.block, .inline] text,
    ¬(r.2.start < p.2.start ∧ p.2.start < r.2.stop)

def withoutBreaks (code : String) : String := String.ofList (code.toList.dropWhile (· == '\n'))

theorem code_block (text : List Char) (inline : Bool) (p : Source.Piece) :
    (p.block text inline).code = withoutBreaks (String.ofList p.code) := by
  have cut := takeWhile_append_dropWhile (p := (· == '\n')) (l := p.code)
  simp only [Source.Piece.block, withoutBreaks, String.toList_ofList]
  nth_rewrite 2 [← cut]
  rw [drop_left]

theorem codes_blocksOf (text : String) : (blocksOf text false).map (·.code) =
      (piecesOf [.block, .inline] text.toList).map fun p => withoutBreaks (String.ofList p.2.code) := by
  simp [blocksOf, code_block]

/-- **An editor looks at the code that rendering runs**, in a text without a header and without
    placeholders and as long as no block fails: unless a roll hides the beginning of a piece of code.  Then
    the editor has other pieces. -/
theorem blocks_eq_codes_run {m : Type → Type u} [Monad m] [LawfulMonad m] (x : Executor m)
    (text : String) (args : List String) (headless : hasHeader text = false)
    (free : ∀ t ∈ text.toList.tails, beginsPlaceholder t = false) :
    SatisfiesM (fun r => r.1.failure = none →
        r.2 = codesOf (piecesOf everyKind text.toList) ∧
        (RollsApart text.toList → (blocksOf text false).map (·.code) = r.2.map withoutBreaks))
      ((x.recording.render text args).run []) ∧
    (¬RollsApart text.toList →
      piecesOf [.block, .inline] text.toList ≠ (piecesOf everyKind text.toList).filter (·.1 ≠ .roll)) := by
  have same_iff : _ ↔ RollsApart text.toList := piecesOf_without_iff everyKind .roll text.toList
  refine ⟨?_, fun hidden same => hidden (same_iff.1 same.symm)⟩
  have plain : fillPlaceholders (splitDefinition text).1 args = text := by
    rw [splitDefinition_eq_self headless, fillPlaceholders_eq_self free]
  rw [render_of_plain _ plain]
  refine (recorded_renderPieces x _ _ _ 0 _ [] (by rfl)).imp fun ⟨all, _⟩ none_failed => ⟨all none_failed, fun apart => ?_⟩
  have taken : piecesOf [.block, .inline] text.toList = _ := (same_iff.2 apart).symm
  rw [all none_failed, codes_blocksOf, taken, codesOf, List.nil_append, List.map_map]
  rfl

instance : LawfulMonad Job := by
  refine LawfulMonad.mk' Job (fun job => ?_) (fun _ _ => rfl) (fun job f g => ?_)
  all_goals
    induction job with
    | finished r => cases r <;> rfl
    | now x next ih => exact congrArg (Job.now x) (funext ih)
    | anew vars next ih => exact congrArg (Job.anew vars) (funext ih)
    | ready o text next ih => exact congrArg (Job.ready o text) ih
    | carry body next ih => exact congrArg (Job.carry body) (funext ih)
    | fetch keys next ih => exact congrArg (Job.fetch keys) (funext ih)
    | rounds next ih => exact congrArg Job.rounds (funext ih)

theorem blocks_eq_codes_run_before_roll :
    let text := "<drac2>\nx</drac2> \x7b\x7by\x7d\x7d \x7b2\x7d"
    RollsApart text.toList ∧
    SatisfiesM (fun r => r.1.failure = none → r.2 = codesOf (piecesOf everyKind text.toList) ∧
        (RollsApart text.toList → (blocksOf text false).map (·.code) = r.2.map withoutBreaks))
      ((Job.executor.recording.render text []).run []) := by
  intro text
  refine ⟨?_, (blocks_eq_codes_run Job.executor text [] (by decide +kernel) (by decide +kernel)).1⟩
  rw [RollsApart, piecesOf_of_sorted (by decide +kernel)]
  decide +kernel

theorem block_inside_roll_not_run :
    let text := "\x7b \x7b\x7b1\x7d\x7d \x7d"
    let rendered : Rendered × List String := (Executor.silent.recording.render text []).run []
    (blocksOf text false).map (·.code) = ["1"] ∧ rendered.2 = [] ∧ rendered.1.failure = none := by
  intro text rendered
  have plain : fillPlaceholders (splitDefinition text).1 [] = text := by decide +kernel
  have roll : piecesOf everyKind text.toList = [(.roll, ⟨0, 9, 1, " \x7b\x7b1\x7d\x7d ".toList⟩)] :=
    (selects_piecesOf _ _).unique_found ⟨by decide +kernel, by decide +kernel, by decide +kernel⟩
  have ran : rendered = _ := congrArg (·.run []) (render_of_plain Executor.silent.recording plain)
  rw [roll] at ran
  refine ⟨?_, ?_, ?_⟩
  · rw [codes_blocksOf, piecesOf_of_sorted (by decide +kernel)]
    decide +kernel
  · rw [ran]
    decide +kernel
  · rw [ran]
    rfl

end AliasTools.Script
