import AliasTools.Proofs.Outcomes

/-!
# The size of a field

A format is read twice: once to add up its width and its precision, and once to write a value with it.  The
first reading knows neither the mark `z` nor a line break that fills a field up, and finds no columns behind
them.
-/

namespace AliasTools.Text

variable {cs rest : List Char} {spec : List Char}

theorem takeFlag_ne (other : d ≠ c) (cs : List Char) : takeFlag c (d :: cs) = (false, d :: cs) := by
  rw [takeFlag, if_neg (by simpa using other)]

theorem takeFlag_cases (c : Char) (cs : List Char) :
    takeFlag c cs = (false, cs) ∨ ∃ rest, cs = c :: rest ∧ takeFlag c cs = (true, rest) := by
  cases cs with
  | nil => exact .inl rfl
  | cons d cs =>
    by_cases same : d = c
    · exact .inr ⟨cs, by rw [same], by rw [takeFlag, if_pos (by simpa using same)]⟩
    · exact .inl (takeFlag_ne same cs)

theorem takeColumns_eq_ok (read : takeColumns cs = .ok (width, rest)) :
    width = digitsValue (takeDigits cs).1 ∧ rest = (takeDigits cs).2 := by
  unfold takeColumns at read
  dsimp only at read
  split at read <;> cases read
  exact ⟨rfl, rfl⟩

theorem takeGroup_eq_ok (read : takeGroup cs = .ok (group, rest)) : rest = skipGroup cs := by
  unfold takeGroup at read
  split at read
  · cases read
  · cases read
  · rw [skipGroup]
    split at read <;> cases read
    · rw [if_pos ‹_›]
    · rw [if_neg ‹_›]
  · cases read; rfl

theorem takePrecision_eq_ok (read : takePrecision cs = .ok (precision, rest)) :
    precision.getD 0 = if (takeFlag '.' cs).1 then digitsValue (takeDigits (takeFlag '.' cs).2).1 else 0 := by
  unfold takePrecision at read
  split at read
  · next cs =>
    cases columns : takeColumns cs with
    | error e => rw [columns] at read; cases read
    | ok r =>
      rw [columns] at read
      split at read <;> cases read
      exact (takeColumns_eq_ok columns).1
  · next other =>
    cases read
    cases cs with
    | nil => rfl
    | cons c cs => rw [takeFlag_ne fun same => other cs (by rw [same])]; rfl

theorem takeDigits_takeFlag (cs : List Char) :
    digitsValue (takeDigits (takeFlag '0' cs).2).1 = digitsValue (takeDigits cs).1 ∧
      (takeDigits (takeFlag '0' cs).2).2 = (takeDigits cs).2 := by
  cases cs with
  | nil => exact ⟨rfl, rfl⟩
  | cons c cs =>
    by_cases zero : c = '0'
    · subst zero
      have decimal : isDecimal '0' = true := by decide
      have value : (decimalValue? '0').getD 0 = 0 := by decide
      rw [show takeFlag '0' ('0' :: cs) = (true, cs) from rfl]
      simp only [takeDigits, List.takeWhile_cons, List.dropWhile_cons, decimal, if_true, digitsValue, List.foldl_cons,
        value, and_self]
    · rw [takeFlag_ne zero]
      exact ⟨rfl, rfl⟩

theorem sizeBehindSign_of_read (marks : cs₁ = (takeFlag '#' cs).2 ∨ cs₁ = (takeFlag '0' (takeFlag '#' cs).2).2)
    (wide : takeColumns cs₁ = .ok (width, cs₂)) (grouped : takeGroup cs₂ = .ok (group, cs₃))
    (precise : takePrecision cs₃ = .ok (precision, cs₄)) : sizeBehindSign cs = width + precision.getD 0 := by
  obtain ⟨rfl, rfl⟩ := takeColumns_eq_ok wide
  rw [takePrecision_eq_ok precise, takeGroup_eq_ok grouped]
  rcases marks with rfl | rfl
  · obtain ⟨same, behind⟩ := takeDigits_takeFlag (takeFlag '#' cs).2
    rw [← same, ← behind]
    rfl
  · rfl

theorem isSome_of_takeAlign (taken : takeAlign spec = (some c, align, rest)) :
    ∃ a, isAlign a = true ∧ spec = c :: a :: rest := by
  unfold takeAlign at taken
  split at taken
  · split at taken
    · cases taken; exact ⟨_, ‹_›, rfl⟩
    · split at taken <;> cases taken
  · split at taken <;> cases taken
  · cases taken

theorem Except.of_bind_eq_ok {ε α β : Type} {x : Except ε α} {f : α → Except ε β} {r : β}
    (ran : x >>= f = .ok r) : ∃ a, x = .ok a ∧ f a = .ok r := by
  cases x with
  | error e => cases ran
  | ok a => exact ⟨a, rfl, ran⟩

theorem FormatSpec.of_parse {align : Char} {form : Option Char} {kind : String} {f : FormatSpec}
    (read : parse spec align form kind = .ok f) :
    let cs := (takeSign (takeAlign spec).2.2).2
    f.noNegativeZero = (takeFlag 'z' cs).1 ∧ (f.fill = '\n' ↔ (takeAlign spec).1 = some '\n') ∧
      sizeBehindSign (takeFlag 'z' cs).2 = f.width + f.precision.getD 0 := by
  unfold parse at read
  dsimp only at read
  generalize zeroed : (if (takeAlign spec).1.isNone = true then _ else _ : Bool × List Char) = marks at read
  obtain ⟨⟨width, cs₁⟩, wide, read⟩ := Except.of_bind_eq_ok read
  obtain ⟨⟨group, cs₂⟩, grouped, read⟩ := Except.of_bind_eq_ok read
  obtain ⟨⟨precision, cs₃⟩, precise, read⟩ := Except.of_bind_eq_ok read
  obtain ⟨form, -, read⟩ := Except.of_bind_eq_ok read
  split at read <;> cases read
  refine ⟨rfl, ?_, sizeBehindSign_of_read ?_ wide grouped precise⟩
  · cases (takeAlign spec).1 with
    | some c => simp only [Option.getD_some, Option.some.injEq]
    | none =>
      change (if marks.1 = true then '0' else ' ') = '\n' ↔ none = some '\n'
      cases marks.1 <;> decide
  · subst zeroed
    split
    · exact .inr rfl
    · exact .inl rfl

theorem fieldSize_of_parse (read : FormatSpec.parse spec align form kind = .ok f) :
    fieldSize spec = if f.noNegativeZero = true ∨ f.fill = '\n' then 0 else f.width + f.precision.getD 0 := by
  obtain ⟨marked, filled, size⟩ := FormatSpec.of_parse read
  simp only [marked, filled, ← size]
  unfold fieldSize
  rcases taken : takeAlign spec with ⟨fill, given, cs⟩
  split
  · next same =>
    cases same
    obtain ⟨a, -, rfl⟩ := isSome_of_takeAlign taken
    rw [if_pos (.inr rfl)]
    rfl
  · next other same =>
    cases same
    rcases takeFlag_cases 'z' (takeSign cs).2 with plain | ⟨rest, marked, taken⟩
    · rw [plain, if_neg (by simpa using other)]
    · rw [marked]
      rfl

end AliasTools.Text

namespace AliasTools.Script

open Text FormatSpec

variable {k : Nat} {w w' : World} {v : Value} {spec text : String} {f : FormatSpec}

/-- The format that a value is written with. -/
def formatFor (v : Value) (cs : List Char) : Except FormatFault FormatSpec :=
  match v with
  | .int _ => parse cs '>' (some 'd') "int"
  | .bool _ => parse cs '>' (some 'd') "bool"
  | .float _ => parse cs '>' none "float"
  | _ => parse cs '<' (some 's') "str"

theorem fieldSize_of_formatFor (read : formatFor v spec.toList = .ok f) : fieldSize spec.toList =
    if f.noNegativeZero = true ∨ f.fill = '\n' then 0 else f.width + f.precision.getD 0 := by
  unfold formatFor at read
  split at read <;> exact fieldSize_of_parse read

theorem gives_liftFormat (holds : ∀ cs, x = .ok cs → p) : Gives k w (liftFormat x) fun _ _ => p := by
  cases x with
  | error e => exact gives_raise _
  | ok cs => exact fun _ _ _ => holds cs rfl

theorem gives_formatWhole (n : Int) (kind : String) (cs : List Char) :
    Gives k w (formatWhole n kind cs) fun _ _ => ∃ f, parse cs '>' (some 'd') kind = .ok f := by
  have read (x : Float) (done : List Char) (done_eq : formatInt n x kind cs = .ok done) :
      ∃ f, parse cs '>' (some 'd') kind = .ok f := by
    unfold formatInt at done_eq
    split at done_eq
    · cases done_eq
    · exact ⟨_, ‹_›⟩
  unfold formatWhole
  split
  · exact .whatever fun x _ => gives_liftFormat (read x)
  · exact .pure_bind (gives_liftFormat (read 0.0))

theorem reads_of_formatValue (v : Value) (spec : String) :
    Gives k w (formatValue .ask v spec) fun _ _ => ∃ f, formatFor v spec.toList = .ok f := by
  have plain (align : Char) (form : Option Char) (kind : String) (none : spec.toList.isEmpty = true) :
      ∃ f, parse spec.toList align form kind = .ok f := by
    rw [List.isEmpty_iff.mp none]
    exact ⟨_, rfl⟩
  cases v with
  | str s safe =>
    refine gives_liftFormat fun _ done => ?_
    unfold formatText at done
    split at done
    · cases done
    · exact ⟨_, ‹_›⟩
  | int n => exact gives_formatWhole n "int" _
  | float x =>
    refine gives_liftFormat fun _ done => ?_
    unfold formatFloat at done
    split at done
    · cases done
    · exact ⟨_, ‹_›⟩
  | bool b =>
    unfold formatValue
    dsimp only
    split
    · next none => exact fun _ _ _ => plain _ _ _ none
    · exact gives_formatWhole _ "bool" _
  | _ =>
    unfold formatValue
    dsimp only
    split
    · next none => exact fun _ _ _ => plain _ _ _ none
    · exact .whatever fun _ _ => gives_raise _

/-- **Formats that are let through are within the limit, but for two that are not read to the end**: with the mark
    `z`, and with a line break to fill up with, any number of columns is. -/
theorem checkFormat_iff_within (written : (formatValue .ask v spec).exec (run k) w = .ok text w') :
    ∃ f, formatFor v spec.toList = .ok f ∧ ((checkFormat spec).exec (run k) w = .ok () w ↔
      ((if f.noNegativeZero = true ∨ f.fill = '\n' then 0 else f.width + f.precision.getD 0 : Nat) : Int) ≤
        w.limits.maxConstLen) := by
  obtain ⟨f, read⟩ := reads_of_formatValue v spec text w' written
  refine ⟨f, read, ?_⟩
  rw [← fieldSize_of_formatFor read]
  have checked : (checkFormat spec).exec (run k) w = if (fieldSize spec.toList : Int) > w.limits.maxConstLen then
      .error (.waiting .iterableTooLong "This str is too large") w else .ok () w := by
    refine (exec_read_bind _ _ w).trans ?_
    split <;> rfl
  rw [checked]
  split
  · next large => exact iff_of_false nofun (Int.not_le.mpr large)
  · next small => exact iff_of_true rfl (Int.not_lt.mp small)

/-- Eight columns and two letters are more than nine. -/
theorem checkFormat_iff_within_nine :
    let w : World := { limits := { maxConstLen := 9 } }
    ((formatValue .ask (.str "abc" false) "*>8.2").exec (run 1) w = .ok "******ab" w) ∧
      (checkFormat "*>8.2").exec (run 1) w ≠ .ok () w := by
  intro w
  have written : (formatValue .ask (.str "abc" false) "*>8.2").exec (run 1) w = .ok "******ab" w := rfl
  obtain ⟨f, read, passes⟩ := checkFormat_iff_within written
  refine ⟨written, fun passed => ?_⟩
  have wide := passes.mp passed
  cases read
  exact absurd wide (by decide)

/-- `z30f` and a field of twenty columns that a line break fills up pass where ten are the limit. -/
theorem unread_columns_pass :
    let w : World := { limits := { maxConstLen := 10 } }
    let passes (spec : String) : Bool := (failureOf ((checkFormat spec).exec (run 1) w)).isNone
    passes "z30f" = true ∧ ((formatFor (.int 1) "z30f".toList).toOption.map (·.width)) = some 30 ∧
      passes "\n>20" = true ∧
        (formatText "a".toList "\n>20".toList).toOption = some (List.replicate 19 '\n' ++ ['a']) := by
  decide +kernel

end AliasTools.Script
