import AliasTools.Proofs.Substitution

/-!
# Placeholders and the passes that fill them in

A placeholder is a name between two signs (`placeholder?`).  They are filled in by five passes over the
text, one for each sort of them, and a later pass also reads what the earlier ones have put in: what an
argument holds can be taken for a placeholder, and it can make one with the signs around it.
-/

namespace AliasTools.Command

open Text Number List Option

variable {quoted : Bool} {sign c : Char} {name s x : List Char} {n : Nat} {p : Placeholder} {v : Values}
  {args : List String} {free : Placeholder → Bool} {rest : List Char}

/-! ## 1. What a placeholder is -/

/-- A placeholder for one argument, for all arguments, as they are written or inside a quoted text, or for
    the list of all arguments. -/
inductive Placeholder where
  | one (quoted : Bool) (n : Nat)
  | all (quoted : Bool)
  | list
deriving DecidableEq

open Placeholder

def Placeholder.order : Placeholder → Nat
  | .one false _ => 0
  | .all false => 1
  | .one true _ => 2
  | .all true => 3
  | .list => 4

def Placeholder.value (args : List String) : Placeholder → List Char
  | .one quoted n =>
    let arg := if n == 0 then [] else (args.getD (n - 1) "").toList
    if quoted then escapeQuotes arg else if arg.contains ' ' then '"' :: arg ++ ['"'] else arg
  | .all quoted =>
    let all := (String.intercalate " " args).toList
    if quoted then escapeQuotes all else all
  | .list => ("[" ++ String.intercalate ", " (args.map quote) ++ "]").toList

def isSign (c : Char) : Bool := c == '%' || c == '&'

def isNameChar (c : Char) : Bool := isDecimal c || c == '*' || "ARGS".toList.contains c

def placeholderNamed? (sign : Char) (name : List Char) : Option Placeholder :=
  if !isSign sign then none
  else if name == ['*'] then some (.all (sign == '&'))
  else if name == "ARGS".toList then if sign == '&' then some .list else none
  else if !name.isEmpty && name.all isDecimal then
    some (.one (sign == '&') ((readInt? 10 name).getD 0).toNat)
  else none

def placeholder? : List Char → Option (Placeholder × Nat)
  | [] => none
  | sign :: rest =>
    let name := rest.takeWhile isNameChar
    if (rest.dropWhile isNameChar).head? == some sign then
      (placeholderNamed? sign name).map fun p => (p, name.length + 2)
    else none

theorem isNameChar_of_isSign (sign : isSign c = true) : isNameChar c = false := by
  rcases (by simpa [isSign] using sign : c = '%' ∨ c = '&') with rfl | rfl <;> decide

/-- The three sorts of names between two signs. -/
theorem named_iff : placeholderNamed? sign name = some p ↔ isSign sign = true ∧
    (name = ['*'] ∧ p = .all (sign == '&') ∨ name = "ARGS".toList ∧ sign = '&' ∧ p = .list ∨
      (name ≠ [] ∧ ∀ c ∈ name, isDecimal c = true) ∧ p = .one (sign == '&') ((readInt? 10 name).getD 0).toNat) := by
  have star : ¬ isDecimal '*' = true := by decide
  have letter : ¬ isDecimal 'A' = true := by decide
  unfold placeholderNamed?
  grind

section

variable (named : placeholderNamed? sign name = some p)

include named

theorem isSign_of_named : isSign sign = true := (named_iff.1 named).1

theorem ne_nil_of_named : name ≠ [] := by
  rintro rfl
  simp [placeholderNamed?] at named

theorem isNameChar_of_named : ∀ c ∈ name, isNameChar c = true := by
  intro c inside
  rcases (named_iff.1 named).2 with ⟨rfl, -⟩ | ⟨rfl, -⟩ | ⟨⟨-, digits⟩, -⟩
  · simp [mem_singleton.1 inside, isNameChar]
  · rw [isNameChar, contains_iff_mem.2 inside, Bool.or_true]
  · simp [isNameChar, digits c inside]

theorem takeWhile_of_named (rest : List Char) : (name ++ sign :: rest).takeWhile isNameChar = name ∧
      (name ++ sign :: rest).dropWhile isNameChar = sign :: rest := by
  have ends := isNameChar_of_isSign (isSign_of_named named)
  have inside := isNameChar_of_named named
  rw [takeWhile_append_of_pos inside, dropWhile_append_of_pos inside]
  simp [ends]

end

theorem placeholder?_eq_some_iff : placeholder? s = some (p, n) ↔ ∃ sign name rest, s = sign :: (name ++ sign :: rest) ∧
        placeholderNamed? sign name = some p ∧ n = name.length + 2 := by
  constructor
  · intro found
    match s, found with
    | sign :: rest, found =>
      simp only [placeholder?] at found
      split at found
      · rename_i ends
        obtain ⟨q, named, same⟩ := map_eq_some_iff.1 found
        obtain ⟨rfl, rfl⟩ := Prod.mk.inj same
        obtain ⟨after, cut⟩ := head?_eq_some_iff.1 (eq_of_beq ends)
        refine ⟨sign, _, after, ?_, named, rfl⟩
        rw [← cut, takeWhile_append_dropWhile]
      · simp at found
  · rintro ⟨sign, name, rest, rfl, named, rfl⟩
    obtain ⟨taken, dropped⟩ := takeWhile_of_named named rest
    simp [placeholder?, taken, dropped, named]

theorem placeholder?_of_named (named : placeholderNamed? sign name = some p) (rest : List Char) :
    placeholder? (sign :: (name ++ sign :: rest)) = some (p, name.length + 2) :=
  placeholder?_eq_some_iff.2 ⟨sign, name, rest, rfl, named, rfl⟩

theorem placeholder?_eq_none_of_not_isSign (other : isSign c = false) (rest : List Char) :
    placeholder? (c :: rest) = none := by
  cases h : placeholder? (c :: rest) with
  | none => rfl
  | some found =>
    obtain ⟨sign, name, after, same, named, -⟩ := placeholder?_eq_some_iff.1 h
    obtain ⟨rfl, -⟩ := cons.inj same
    simp [isSign_of_named named] at other

/-! ## 2. One pass -/

abbrev Values := Placeholder → Option (List Char)

def finderOf (v : Values) : Finder := fun s =>
  (placeholder? s).bind fun (p, n) => (v p).map fun x => (x, n)

def fill (v : Values) (s : List Char) : List Char := substitute (finderOf v) s

@[simp] theorem fill_nil (v : Values) : fill v [] = [] := rfl

theorem finderOf_eq_some_iff : finderOf v s = some (x, n) ↔ ∃ sign name rest p, s = sign :: (name ++ sign :: rest) ∧
        placeholderNamed? sign name = some p ∧ v p = some x ∧ n = name.length + 2 := by
  simp only [finderOf, bind_eq_some_iff, map_eq_some_iff, Prod.exists,
    placeholder?_eq_some_iff, Prod.mk.injEq]
  constructor
  · rintro ⟨p, _, ⟨sign, name, rest, cut, named, rfl⟩, _, value, rfl, rfl⟩
    exact ⟨sign, name, rest, p, cut, named, value, rfl⟩
  · rintro ⟨sign, name, rest, p, cut, named, value, rfl⟩
    exact ⟨p, _, ⟨sign, name, rest, cut, named, rfl⟩, x, value, rfl, rfl⟩

theorem fill_value (named : placeholderNamed? sign name = some p) (value : v p = some x)
    (rest : List Char) : fill v (sign :: (name ++ sign :: rest)) = x ++ fill v rest := by
  rw [fill, substitute_found (finderOf_eq_some_iff.2 ⟨sign, name, rest, p, rfl, named, value, rfl⟩)]
  simp [fill]

theorem fill_cons (none : placeholder? (c :: rest) = none) : fill v (c :: rest) = c :: fill v rest :=
  substitute_other (by simp [finderOf, none])

theorem fill_append_of_plain (plain : ∀ c ∈ x, isSign c = false) (rest : List Char) :
    fill v (x ++ rest) = x ++ fill v rest := by
  induction x with
  | nil => rfl
  | cons c x ih =>
    rw [cons_append, fill_cons (placeholder?_eq_none_of_not_isSign (plain c (by simp)) _),
      ih fun d inside => plain d (mem_cons_of_mem _ inside), cons_append]

theorem fill_of_plain (plain : ∀ c ∈ x, isSign c = false) : fill v x = x := by simpa using fill_append_of_plain plain []

/-! ## 3. Texts that open nothing -/

def stopped (s : List Char) : Bool := (s.dropWhile isNameChar).head?.all fun c => !isSign c

def Silent (s : List Char) : Prop := ∀ c, isSign c = true → placeholder? (c :: s) = none

theorem not_stopped (ends : isSign sign = true) (inside : ∀ c ∈ name, isNameChar c = true)
    (rest : List Char) : stopped (name ++ sign :: rest) = false := by
  rw [stopped, dropWhile_append_of_pos inside]
  simp [isNameChar_of_isSign ends, ends]

theorem silent_of_stopped (stop : stopped s = true) : Silent s := by
  intro c _
  cases h : placeholder? (c :: s) with
  | none => rfl
  | some found =>
    obtain ⟨sign, name, rest, same, named, -⟩ := placeholder?_eq_some_iff.1 h
    obtain ⟨-, rfl⟩ := cons.inj same
    rw [not_stopped (isSign_of_named named) (isNameChar_of_named named)] at stop
    cases stop

theorem silent_of_sign (sign : isSign c = true) (s : List Char) : Silent (c :: s) := by
  intro d _
  cases h : placeholder? (d :: c :: s) with
  | none => rfl
  | some found =>
    obtain ⟨_, name, rest, same, named, -⟩ := placeholder?_eq_some_iff.1 h
    obtain ⟨-, same⟩ := cons.inj same
    obtain ⟨first, name', rfl⟩ := exists_cons_of_ne_nil (ne_nil_of_named named)
    obtain ⟨rfl, -⟩ := cons.inj same
    have := isNameChar_of_named named c (by simp)
    simp [isNameChar_of_isSign sign] at this

theorem stopped_fill (v : Values) (stop : stopped s = true) : stopped (fill v s) = true := by
  induction s with
  | nil => exact stop
  | cons c rest ih =>
    by_cases inside : isNameChar c = true
    · have other : isSign c = false := by
        cases h : isSign c with
        | false => rfl
        | true => simp [isNameChar_of_isSign h] at inside
      rw [fill_cons (placeholder?_eq_none_of_not_isSign other _)]
      simp only [stopped, dropWhile_cons, inside] at stop ⊢
      exact ih stop
    · have other : isSign c = false := by simpa [stopped, inside] using stop
      rw [fill_cons (placeholder?_eq_none_of_not_isSign other _)]
      simp [stopped, inside, other]

theorem fill_keep (named : placeholderNamed? sign name = some p) (keep : v p = none) (silent : Silent rest) :
    fill v (sign :: (name ++ sign :: rest)) = sign :: (name ++ sign :: fill v rest) := by
  have plain : ∀ c ∈ name, isSign c = false := by
    intro c inside
    cases h : isSign c with
    | false => rfl
    | true => simpa [isNameChar_of_isSign h] using isNameChar_of_named named c inside
  have other : finderOf v (sign :: (name ++ sign :: rest)) = none := by
    simp [finderOf, placeholder?_of_named named, keep]
  rw [fill, substitute_other other, ← fill, fill_append_of_plain plain, fill_cons (silent sign (isSign_of_named named))]

theorem fill_append (stop : stopped s = true) :
    ∀ (n : Nat) {x : List Char}, x.length ≤ n → fill v (x ++ s) = fill v x ++ fill v s := by
  intro n
  induction n with
  | zero => intro x size; simp [eq_nil_of_length_eq_zero (Nat.le_zero.1 size)]
  | succ n ih =>
    rintro (_ | ⟨c, x⟩) size
    · rfl
    · have size : x.length ≤ n := Nat.le_of_succ_le_succ size
      cases h : placeholder? (c :: x) with
      | some found =>
        obtain ⟨sign, name, rest, same, named, -⟩ := placeholder?_eq_some_iff.1 h
        obtain ⟨rfl, rfl⟩ := cons.inj same
        have shorter : rest.length ≤ n := by simp at size; omega
        cases value : v found.1 with
        | some y =>
          rw [cons_append, append_assoc, cons_append, fill_value named value,
            fill_value named value, ih shorter, append_assoc]
        | none =>
          have other (t : List Char) : fill v (c :: (name ++ c :: t)) = c :: fill v (name ++ c :: t) :=
            substitute_other (by simp [finderOf, placeholder?_of_named named, value])
          have := ih size
          rw [append_assoc, cons_append] at this
          rw [cons_append, append_assoc, cons_append, other, other, this, cons_append]
      | none =>
        have still : placeholder? (c :: (x ++ s)) = none := by
          cases more : placeholder? (c :: (x ++ s)) with
          | none => rfl
          | some found =>
            obtain ⟨sign, name, rest, same, named, -⟩ := placeholder?_eq_some_iff.1 more
            obtain ⟨rfl, same⟩ := cons.inj same
            -- The closing sign stands in `x`, or `s` closes the placeholder.
            rcases append_eq_append_iff.1 same with ⟨mid, rfl, cut⟩ | ⟨mid, rfl, cut⟩
            · have ends := isSign_of_named named
              have inside := isNameChar_of_named named
              rw [cut, not_stopped ends fun d at_mid => inside d (by simp [at_mid])] at stop
              cases stop
            · cases mid with
              | nil =>
                have closes : stopped (c :: rest) = false := @not_stopped c [] (isSign_of_named named) (by simp) rest
                rw [← (show c :: rest = s from cut), closes] at stop
                cases stop
              | cons d mid =>
                obtain ⟨rfl, -⟩ := cons.inj cut
                rw [placeholder?_of_named named] at h
                cases h
        rw [cons_append, fill_cons still, fill_cons h, ih size, cons_append]

/-! ## 4. Two passes are one -/

def followed (v w : Values) : Values := fun p =>
  match v p with
  | some x => some (fill w x)
  | none => w p

/-- A pass for some sorts of placeholders, in which the values of `free` placeholders hold no sign. -/
structure Pass (free : Placeholder → Bool) (v : Values) : Prop where
  sorts : ∀ {p q}, p.order = q.order → v p = none → v q = none
  plain : ∀ {p x}, free p = true → v p = some x → ∀ c ∈ x, isSign c = false

theorem Pass.followed {v w : Values} (first : Pass free v) (second : Pass free w) : Pass free (followed v w) where
  sorts := by
    intro p q same none
    cases h : v p with
    | some x => simp [Command.followed, h] at none
    | none =>
      simp only [Command.followed, h] at none
      simp only [Command.followed, first.sorts same h, second.sorts same none]
  plain := by
    intro p x is_free value
    cases h : v p with
    | some y =>
      have plain := first.plain is_free h
      simp only [Command.followed, h, fill_of_plain plain, some.injEq] at value
      exact value ▸ plain
    | none =>
      simp only [Command.followed, h] at value
      exact second.plain is_free value

/-- The signs of a text stand apart: what follows a placeholder or another sign closes nothing.  Behind a
    `free` placeholder one of its own sort may stand.  `skip` counts characters of the last placeholder
    that are still to be passed. -/
def apartFrom (free : Placeholder → Bool) (skip : Nat) : List Char → Bool
  | [] => true
  | c :: rest =>
    match skip with
    | k + 1 => apartFrom free k rest
    | 0 =>
      match placeholder? (c :: rest) with
      | some (p, n) =>
        let behind := rest.drop (n - 1)
        (stopped behind || free p && (placeholder? behind).any fun (q, _) => q.order == p.order) &&
          apartFrom free (n - 1) rest
      | none => (!isSign c || stopped rest) && apartFrom free 0 rest

def apart (free : Placeholder → Bool) (s : List Char) : Bool := apartFrom free 0 s

theorem apartFrom_eq (free : Placeholder → Bool) (skip : Nat) (s : List Char) :
    apartFrom free skip s = apart free (s.drop skip) := by
  induction s generalizing skip with
  | nil => simp [apart, apartFrom]
  | cons c rest ih =>
    cases skip with
    | zero => rfl
    | succ k => rw [apartFrom, ih, drop_succ_cons]

theorem apart_named (named : placeholderNamed? sign name = some p)
    (signs : apart free (sign :: (name ++ sign :: rest)) = true) :
    (stopped rest = true ∨ free p = true ∧ ∃ sign' name' rest' q, rest = sign' :: (name' ++ sign' :: rest') ∧
        placeholderNamed? sign' name' = some q ∧ q.order = p.order) ∧ apart free rest = true := by
  have behind : (name ++ sign :: rest).drop (name.length + 2 - 1) = rest := by simp
  rw [apart, apartFrom] at signs
  simp only [placeholder?_of_named named, apartFrom_eq, behind, Bool.and_eq_true, Bool.or_eq_true] at signs
  refine ⟨signs.1.imp_right fun ⟨is_free, next⟩ => ⟨is_free, ?_⟩, signs.2⟩
  cases found : placeholder? rest with
  | none => simp [found] at next
  | some next_found =>
    obtain ⟨sign', name', rest', same, named', -⟩ := placeholder?_eq_some_iff.1 found
    exact ⟨sign', name', rest', _, same, named', by simpa [found] using next⟩

theorem apart_cons (none : placeholder? (c :: rest) = none) (signs : apart free (c :: rest) = true) :
    (isSign c = true → stopped rest = true) ∧ apart free rest = true := by
  rw [apart, apartFrom] at signs
  simp only [none, Bool.and_eq_true, Bool.or_eq_true] at signs
  refine ⟨fun sign => signs.1.resolve_left ?_, signs.2⟩
  simp [sign]

theorem silent_behind (pass : Pass free v) (keep : v p = none) (behind : stopped rest = true ∨
      free p = true ∧ ∃ sign name rest' q, rest = sign :: (name ++ sign :: rest') ∧
        placeholderNamed? sign name = some q ∧ q.order = p.order) : Silent rest ∧ Silent (fill v rest) := by
  rcases behind with stop | ⟨-, sign, name, rest', q, rfl, named, same⟩
  · exact ⟨silent_of_stopped stop, silent_of_stopped (stopped_fill v stop)⟩
  · have other : finderOf v (sign :: (name ++ sign :: rest')) = none := by
      simp [finderOf, placeholder?_of_named named, pass.sorts same.symm keep]
    rw [fill, substitute_other other]
    exact ⟨silent_of_sign (isSign_of_named named) _, silent_of_sign (isSign_of_named named) _⟩

/-- **Two passes over a text whose signs stand apart are one pass.** -/
theorem fill_fill (pass : Pass free v) : ∀ (n : Nat) {s : List Char}, s.length ≤ n → apart free s = true →
      fill w (fill v s) = fill (followed v w) s := by
  intro n
  induction n with
  | zero =>
    intro s size _
    simp [eq_nil_of_length_eq_zero (Nat.le_zero.1 size)]
  | succ n ih =>
    rintro (_ | ⟨c, rest⟩) size signs
    · rfl
    · cases h : placeholder? (c :: rest) with
      | none =>
        obtain ⟨stop, signs⟩ := apart_cons h signs
        have still : placeholder? (c :: fill v rest) = none := by
          cases sign : isSign c with
          | false => exact placeholder?_eq_none_of_not_isSign sign _
          | true => exact silent_of_stopped (stopped_fill v (stop sign)) c sign
        rw [fill_cons h, fill_cons still, fill_cons h, ih (Nat.le_of_succ_le_succ size) signs]
      | some found =>
        obtain ⟨sign, name, behind, same, named, -⟩ := placeholder?_eq_some_iff.1 h
        obtain ⟨rfl, rfl⟩ := cons.inj same
        obtain ⟨next, signs⟩ := apart_named named signs
        have ih := ih (by simp at size; omega) signs
        cases value : v found.1 with
        | some x =>
          have both : followed v w found.1 = some (fill w x) := by simp [followed, value]
          rw [fill_value named value, fill_value named both, ← ih]
          rcases next with stop | ⟨is_free, -⟩
          · exact fill_append (stopped_fill v stop) _ (Nat.le_refl _)
          · have plain := pass.plain is_free value
            rw [fill_append_of_plain plain, fill_of_plain plain]
        | none =>
          have both : followed v w found.1 = w found.1 := by simp [followed, value]
          obtain ⟨silent, silent'⟩ := silent_behind pass value next
          rw [fill_keep named value silent]
          cases value' : w found.1 with
          | some y => rw [fill_value named value', fill_value named (both.trans value'), ih]
          | none => rw [fill_keep named value' silent', fill_keep named (both.trans value') silent, ih]

/-! ## 5. The five passes -/

def valuesOfSort (args : List String) (k : Nat) : Values := fun p =>
  if p.order = k then some (p.value args) else none

def fillSorts (args : List String) (ks : List Nat) (s : List Char) : List Char :=
  ks.foldl (fun t k => fill (valuesOfSort args k) t) s

theorem digits_of_named (named : placeholderNamed? sign name = some (.one quoted n)) :
    name ≠ [] ∧ ∀ c ∈ name, isDecimal c = true := by
  obtain ⟨-, same⟩ | ⟨-, -, same⟩ | ⟨digits, -⟩ := (named_iff.1 named).2
  · cases same
  · cases same
  · exact digits

theorem named_digits (is_sign : isSign sign = true) (digits : name ≠ [] ∧ ∀ c ∈ name, isDecimal c = true) :
    placeholderNamed? sign name = some (.one (sign == '&') ((readInt? 10 name).getD 0).toNat) :=
  named_iff.2 ⟨is_sign, .inr (.inr ⟨digits, rfl⟩)⟩

theorem numberedMark?_eq_some_iff (is_sign : isSign sign = true) {after : List Char} :
    numberedMark? sign s = some (n, after) ↔
      ∃ name, s = name ++ sign :: after ∧ (name ≠ [] ∧ ∀ c ∈ name, isDecimal c = true) ∧
        n = ((readInt? 10 name).getD 0).toNat := by
  have ends : isDecimal sign = false := by
    have := isNameChar_of_isSign is_sign
    simp only [isNameChar, Bool.or_eq_false_iff] at this
    exact this.1.1
  constructor
  · intro found
    have cut := takeWhile_append_dropWhile (p := isDecimal) (l := s)
    simp only [numberedMark?] at found
    split at found
    · rename_i mark rest dropped
      split at found
      · rename_i closed
        simp only [Bool.and_eq_true, beq_iff_eq, Bool.not_eq_true', isEmpty_eq_false_iff] at closed
        obtain ⟨rfl, rfl⟩ := Prod.mk.inj (some.inj found)
        refine ⟨_, by rw [← closed.1, ← dropped, cut], ⟨closed.2, ?_⟩, rfl⟩
        exact all_eq_true.1 all_takeWhile
      · simp at found
    · simp at found
  · rintro ⟨name, rfl, ⟨some_name, digits⟩, rfl⟩
    rw [numberedMark?, takeWhile_append_of_pos digits, dropWhile_append_of_pos digits]
    simp [ends, some_name]

theorem sign_unique (sign : isSign a = true) (sign' : isSign b = true) (same : (a == '&') = (b == '&')) : a = b := by
  rcases (by simpa [isSign] using sign : a = '%' ∨ a = '&') with rfl | rfl <;>
    rcases (by simpa [isSign] using sign' : b = '%' ∨ b = '&') with rfl | rfl <;>
    first | rfl | (exact absurd same (by decide))

theorem numberFinder_eq_finderOf (is_sign : isSign sign = true) (own : ∀ n, v (.one (sign == '&') n) = some (f n))
    (only : ∀ {p x}, v p = some x → ∃ n, p = .one (sign == '&') n) : numberFinder sign f = finderOf v := by
  funext s
  refine ext fun ⟨x, size⟩ => ?_
  rw [finderOf_eq_some_iff]
  constructor
  · intro found
    match s, found with
    | c :: rest, found =>
      simp only [numberFinder] at found
      split at found
      · rename_i here
        obtain rfl := eq_of_beq here
        obtain ⟨⟨n, after⟩, numbered, same⟩ := map_eq_some_iff.1 found
        obtain ⟨name, rfl, digits, rfl⟩ := (numberedMark?_eq_some_iff is_sign).1 numbered
        obtain ⟨rfl, rfl⟩ := Prod.mk.inj same
        refine ⟨c, name, after, _, rfl, named_digits is_sign digits, own _, ?_⟩
        simp; omega
      · simp at found
  · rintro ⟨sign', name, rest, p, rfl, named, value, rfl⟩
    obtain ⟨n, rfl⟩ := only value
    have digits := digits_of_named named
    have same := named.symm.trans (named_digits (isSign_of_named named) digits)
    simp only [some.injEq, one.injEq] at same
    obtain rfl := sign_unique is_sign (isSign_of_named named) same.1
    have numbered : numberedMark? sign (name ++ sign :: rest) = some (n, rest) :=
      (numberedMark?_eq_some_iff is_sign).2 ⟨name, rfl, digits, same.2⟩
    obtain rfl := some.inj ((own n).symm.trans value)
    simp only [numberFinder, numbered]
    simp; omega

theorem pieceFinder_eq_finderOf (named : placeholderNamed? sign name = some p) (own : v p = some new)
    (only : ∀ {sign' name' q x}, placeholderNamed? sign' name' = some q → v q = some x → sign' = sign ∧ name' = name) :
    pieceFinder (sign :: (name ++ [sign])) new = finderOf v := by
  funext s
  refine ext fun ⟨x, size⟩ => ?_
  rw [finderOf_eq_some_iff, pieceFinder]
  constructor
  · intro found
    split at found
    · rename_i here
      obtain ⟨rest, rfl⟩ := isPrefixOf_iff_prefix.1 here
      obtain ⟨rfl, rfl⟩ := Prod.mk.inj (some.inj found)
      exact ⟨sign, name, rest, p, by simp, named, own, by simp⟩
    · simp at found
  · rintro ⟨sign', name', rest, q, rfl, named', value, rfl⟩
    obtain ⟨rfl, rfl⟩ := only named' value
    obtain rfl := some.inj (named'.symm.trans named)
    obtain rfl := some.inj (own.symm.trans value)
    simp

theorem star_of_named (named : placeholderNamed? sign name = some (.all quoted)) :
    name = ['*'] ∧ (sign == '&') = quoted := by
  obtain ⟨star, same⟩ | ⟨-, -, same⟩ | ⟨-, same⟩ := (named_iff.1 named).2
  · exact ⟨star, (all.inj same).symm⟩
  · cases same
  · cases same

theorem list_of_named (named : placeholderNamed? sign name = some .list) : name = "ARGS".toList ∧ sign = '&' := by
  obtain ⟨-, same⟩ | ⟨list, amp, -⟩ | ⟨-, same⟩ := (named_iff.1 named).2
  · cases same
  · exact ⟨list, amp⟩
  · cases same

theorem order_of_valuesOfSort (value : valuesOfSort args k p = some x) : p.order = k := by
  by_cases same : p.order = k
  · exact same
  · simp [valuesOfSort, same] at value

theorem valuesOfSort_self (args : List String) (p : Placeholder) :
    valuesOfSort args p.order p = some (p.value args) := by
  simp [valuesOfSort]

theorem eq_one_of_order (sort : p.order = (one quoted 0).order) : ∃ n, p = .one quoted n := by
  rcases p with ⟨_ | _, n⟩ | ⟨_ | _⟩ | _ <;> cases quoted <;> simp_all [order]

theorem eq_all_of_order (sort : p.order = (all quoted).order) : p = .all quoted := by
  rcases p with ⟨_ | _, n⟩ | ⟨_ | _⟩ | _ <;> cases quoted <;> simp_all [order]

theorem eq_list_of_order (sort : p.order = list.order) : p = .list := by
  rcases p with ⟨_ | _, n⟩ | ⟨_ | _⟩ | _ <;> simp_all [order]

theorem fillNumbered_eq_fill (sign : Char) (quoted : Bool) (is_sign : isSign sign = true)
    (amp : (sign == '&') = quoted) (args : List String) (s : List Char) :
    fillNumbered sign (fun n => (one quoted n).value args) [] 0 s =
      fill (valuesOfSort args (one quoted 0).order) s := by
  subst amp
  have own (n : Nat) : valuesOfSort args (one (sign == '&') 0).order (.one (sign == '&') n) =
      some ((one (sign == '&') n).value args) := by
    rw [show (one (sign == '&') 0).order = (one (sign == '&') n).order by
      cases sign == '&' <;> rfl]
    exact valuesOfSort_self args _
  rw [fillNumbered_eq_substitute, fill, ← numberFinder_eq_finderOf is_sign own fun value =>
    eq_one_of_order (order_of_valuesOfSort value)]
  rfl

theorem replacePiece_eq_fill (sign : Char) (name : List Char) (named : placeholderNamed? sign name = some p)
    (only : ∀ {sign' name' q}, placeholderNamed? sign' name' = some q → q.order = p.order →
      sign' = sign ∧ name' = name) (args : List String) (s : List Char) :
    replacePiece (sign :: (name ++ [sign])) (p.value args) none s = fill (valuesOfSort args p.order) s := by
  rw [replacePiece_eq_substitute _ (by simp), fill, ← pieceFinder_eq_finderOf named
    (valuesOfSort_self args p) fun named' value => only named' (order_of_valuesOfSort value)]

theorem replacePiece_all (sign : Char) (quoted : Bool) (is_sign : isSign sign = true)
    (amp : (sign == '&') = quoted) (args : List String) (s : List Char) :
    replacePiece [sign, '*', sign] ((all quoted).value args) none s =
      fill (valuesOfSort args (all quoted).order) s := by
  refine replacePiece_eq_fill sign ['*'] (by simp [placeholderNamed?, is_sign, amp]) ?_ args s
  intro sign' name' q named sort
  obtain rfl := eq_all_of_order sort
  obtain ⟨rfl, same⟩ := star_of_named named
  exact ⟨sign_unique (isSign_of_named named) is_sign (same.trans amp.symm), rfl⟩

theorem replacePiece_list (args : List String) (s : List Char) : replacePiece "&ARGS&".toList (list.value args) none s =
      fill (valuesOfSort args list.order) s := by
  refine replacePiece_eq_fill '&' "ARGS".toList (by decide) ?_ args s
  intro sign' name' q named sort
  obtain rfl := eq_list_of_order sort
  exact (list_of_named named).symm

/-- **The text is filled in by one pass for each sort of placeholders.** -/
theorem toList_fillPlaceholders (text : String) (args : List String) : (fillPlaceholders text args).toList =
      fillSorts (filledTo (highestFrom 0 0 text.toList) args) [0, 1, 2, 3, 4] text.toList := by
  rw [fillPlaceholders, String.toList_ofList]
  generalize filledTo (highestFrom 0 0 text.toList) args = given
  have written := fillNumbered_eq_fill '%' false rfl rfl given text.toList
  have all := replacePiece_all '%' false rfl rfl given
  have quoted := fillNumbered_eq_fill '&' true rfl rfl given
  have all_quoted := replacePiece_all '&' true rfl rfl given
  change _ = fill (valuesOfSort given Placeholder.list.order) (fill (valuesOfSort given (Placeholder.all true).order)
      (fill (valuesOfSort given (Placeholder.one true 0).order) (fill (valuesOfSort given (Placeholder.all false).order)
          (fill (valuesOfSort given (Placeholder.one false 0).order) text.toList))))
  rw [← written, ← all, ← quoted, ← all_quoted, ← replacePiece_list]
  rfl

def isFree (args : List String) (p : Placeholder) : Bool := (p.value args).all fun c => !isSign c

theorem pass_valuesOfSort (args : List String) (k : Nat) : Pass (isFree args) (valuesOfSort args k) where
  sorts := by
    intro p q same none
    simpa [valuesOfSort, same] using none
  plain := by
    intro p x is_free value c inside
    obtain rfl := order_of_valuesOfSort value
    obtain rfl := some.inj ((valuesOfSort_self args p).symm.trans value)
    simpa using all_eq_true.1 is_free c inside

theorem fillSorts_fill (signs : apart (isFree args) s = true) (ks : List Nat) (pass : Pass (isFree args) v) :
    fillSorts args ks (fill v s) = fill (ks.foldl (fun v k => followed v (valuesOfSort args k)) v) s := by
  induction ks generalizing v with
  | nil => rfl
  | cons k ks ih =>
    have two := fill_fill (w := valuesOfSort args k) pass s.length (Nat.le_refl _) signs
    rw [fillSorts, foldl_cons, two, ← fillSorts, ih (pass.followed (pass_valuesOfSort args k))]
    rfl

/-! ## 6. Each placeholder replaced once -/

def fillOnce (value : Placeholder → List Char) (s : List Char) : List Char := fill (fun p => some (value p)) s

def Placeholder.settled (args : List String) (p : Placeholder) : List Char :=
  fillSorts args (range' (p.order + 1) (4 - p.order)) (p.value args)

theorem fillSorts_of_plain (args : List String) (ks : List Nat) (plain : ∀ c ∈ x, isSign c = false) :
    fillSorts args ks x = x := by
  induction ks with
  | nil => rfl
  | cons k ks ih => rw [fillSorts, foldl_cons, fill_of_plain plain, ← fillSorts, ih]

theorem fillSorts_of_apart (signs : apart (isFree args) s = true) :
    fillSorts args [0, 1, 2, 3, 4] s = fillOnce (settled args) s := by
  have one := fillSorts_fill signs [1, 2, 3, 4] (pass_valuesOfSort args 0)
  rw [show fillSorts args [0, 1, 2, 3, 4] s = fillSorts args [1, 2, 3, 4] (fill (valuesOfSort args 0) s)
    from rfl, one, fillOnce]
  congr 1
  funext p
  rcases p with ⟨_ | _, n⟩ | ⟨_ | _⟩ | _ <;> rfl

/-- The characters that are written besides those of the arguments. -/
def isOwn (c : Char) : Bool := c.isDigit || " \\\"',[]argnrtxuUbcdef".toList.contains c

section

variable {P : Char → Prop} (own : ∀ c, isOwn c = true → P c)

theorem forall_mem_intercalate (sep : String) (between : ∀ c ∈ sep.toList, P c)
    (plain : ∀ w ∈ ws, ∀ c ∈ w.toList, P c) : ∀ c ∈ (String.intercalate sep ws).toList, P c := by
  rw [String.toList_intercalate]
  induction ws with
  | nil => simp
  | cons w ws ih =>
    cases ws with
    | nil => simpa using plain
    | cons w' ws =>
      intro c inside
      simp only [map_cons, intercalate_cons_cons, mem_append] at inside
      rcases inside with (inside | inside) | inside
      · exact plain w (by simp) c inside
      · exact between c inside
      · exact ih (fun u h => plain u (mem_cons_of_mem _ h)) c (by simpa using inside)

include own

theorem forall_mem_escapeQuotes (plain : ∀ c ∈ s, P c) : ∀ c ∈ escapeQuotes s, P c := by
  intro c inside
  obtain ⟨d, at_d, inside⟩ := mem_flatMap.1 inside
  split at inside
  · rcases (by simpa using inside : c = '\\' ∨ c = d) with rfl | rfl
    · exact own _ rfl
    · exact plain c at_d
  · obtain rfl := mem_singleton.1 inside
    exact plain c at_d

theorem forall_mem_hexText (width n : Nat) : ∀ c ∈ hexText width n, P c := by
  induction width generalizing n with
  | zero => simp [hexText]
  | succ width ih =>
    intro c inside
    rcases mem_append.1 inside with inside | inside
    · exact ih _ c inside
    · obtain rfl := mem_singleton.1 inside
      exact own _ ((by decide : ∀ d < 16, isOwn (hexChar d) = true) _ (Nat.mod_lt n (by decide)))

theorem forall_mem_quotedChar (plain : P c) : ∀ d ∈ quotedChar isPrintable mark c, P d := by
  have escape {kind : Char} {rest : List Char} (plain_kind : P kind) (plain_rest : ∀ d ∈ rest, P d) :
      ∀ d ∈ '\\' :: kind :: rest, P d :=
    forall_mem_cons.2 ⟨own _ rfl, forall_mem_cons.2 ⟨plain_kind, plain_rest⟩⟩
  have letter {kind : Char} (plain_kind : P kind) : ∀ d ∈ ['\\', kind], P d := escape plain_kind (forall_mem_nil _)
  have number {kind : Char} (is_own : isOwn kind = true) (width : Nat) :
      ∀ d ∈ '\\' :: kind :: hexText width c.toNat, P d :=
    escape (own _ is_own) (forall_mem_hexText own width _)
  simp only [quotedChar, escapeByNumber]
  repeat' split
  · exact letter plain
  · exact letter (own _ rfl)
  · exact letter (own _ rfl)
  · exact letter (own _ rfl)
  · exact forall_mem_singleton.2 plain
  · exact number rfl 2
  · exact number rfl 4
  · exact number rfl 8

theorem forall_mem_quote (plain : ∀ c ∈ w.toList, P c) : ∀ c ∈ (quote w).toList, P c := by
  intro c inside
  simp only [quote, quoted, quotedWhere, String.toList_ofList, cons_append, mem_cons, mem_append,
    mem_flatten, List.mem_map, not_mem_nil, or_false] at inside
  have mark (b : Bool) : P (if b = true then '"' else '\'') := by cases b <;> exact own _ rfl
  rcases inside with rfl | ⟨_, ⟨d, at_d, rfl⟩, inside⟩ | rfl
  · exact mark _
  · exact forall_mem_quotedChar own (plain d at_d) c inside
  · exact mark _

theorem forall_mem_filledTo (count : Nat) (plain : ∀ a ∈ args, ∀ c ∈ a.toList, P c) :
    ∀ a ∈ filledTo count args, ∀ c ∈ a.toList, P c := by
  intro a given c inside
  rcases mem_append.1 given with given | given
  · exact plain a given c inside
  · obtain ⟨i, -, rfl⟩ := mem_map.1 given
    rw [String.toList_append, mem_append] at inside
    rcases inside with inside | inside
    · rcases (by simpa using inside : c = 'a' ∨ c = 'r' ∨ c = 'g') with rfl | rfl | rfl <;> exact own _ rfl
    · rw [String.toList_ofList] at inside
      have digit : c.isDigit = true := Nat.isDigit_of_mem_toDigits (by decide) (Nat.le_refl 10) inside
      exact own c (by rw [isOwn, digit]; rfl)

theorem forall_mem_value (plain : ∀ a ∈ args, ∀ c ∈ a.toList, P c) (p : Placeholder) : ∀ c ∈ p.value args, P c := by
  cases p with
  | one quoted n =>
    have arg : ∀ c ∈ (if n == 0 then [] else (args.getD (n - 1) "").toList), P c := by
      split
      · simp
      · rw [getD_eq_getElem?_getD]
        cases given : args[n - 1]? with
        | none => simp
        | some a => exact plain a (mem_of_getElem? given)
    simp only [value]
    generalize (if n == 0 then [] else (args.getD (n - 1) "").toList) = a at arg ⊢
    split
    · exact forall_mem_escapeQuotes own arg
    · split
      · simpa [or_imp, forall_and, own '"' rfl] using arg
      · exact arg
  | all quoted =>
    have all := forall_mem_intercalate " " (by simpa using own ' ' rfl) plain
    simp only [value]
    split
    · exact forall_mem_escapeQuotes own all
    · exact all
  | list =>
    have all : ∀ w ∈ args.map quote, ∀ c ∈ w.toList, P c :=
      forall_mem_map.2 fun a given => forall_mem_quote own (plain a given)
    have all := forall_mem_intercalate ", " (by simp [own ',' rfl, own ' ' rfl]) all
    simpa [value, or_imp, forall_and, own '[' rfl, own ']' rfl] using all

end

theorem isSign_of_isOwn (own : isOwn c = true) : isSign c = false := by
  rw [← Bool.not_eq_true]
  intro sign
  rcases (by simpa [isSign] using sign : c = '%' ∨ c = '&') with rfl | rfl <;> cases own

/-- The arguments that a text is filled in with: those that were given, and one for each further number. -/
def givenFor (text : String) (args : List String) : List String := filledTo (highestFrom 0 0 text.toList) args

/-- **In a text whose signs stand apart each placeholder is replaced once, by its value as the passes after
    its own leave it; and by its value, if no argument holds a sign.** -/
theorem fillPlaceholders_of_apart {text : String} {args : List String}
    (signs : apart (isFree (givenFor text args)) text.toList = true) :
    (fillPlaceholders text args).toList =
        fillOnce (Placeholder.settled (givenFor text args)) text.toList ∧
      ((∀ a ∈ args, ∀ c ∈ a.toList, isSign c = false) →
        (fillPlaceholders text args).toList =
          fillOnce (Placeholder.value (givenFor text args)) text.toList) := by
  have settled : (fillPlaceholders text args).toList =
      fillOnce (Placeholder.settled (givenFor text args)) text.toList :=
    (toList_fillPlaceholders text args).trans (fillSorts_of_apart signs)
  refine ⟨settled, fun plain => ?_⟩
  have same : Placeholder.settled (givenFor text args) = Placeholder.value (givenFor text args) :=
    funext fun p => fillSorts_of_plain _ _ (forall_mem_value (fun _ => isSign_of_isOwn)
      (forall_mem_filledTo (fun _ => isSign_of_isOwn) _ plain) p)
  rw [settled, same]

theorem fillPlaceholders_of_apart_attack :
    let text := "%1%%2% to &*&, 5% of \"&1&\" or %3%: &ARGS&"
    let args := ["a b", "it's"]
    apart (isFree (givenFor text args)) text.toList = true ∧
      (∀ a ∈ args, ∀ c ∈ a.toList, isSign c = false) ∧
      (fillPlaceholders text args).toList =
        fillOnce (Placeholder.value (givenFor text args)) text.toList := by
  intro text args
  have signs : apart (isFree (givenFor text args)) text.toList = true := by decide +kernel
  have all : (args.all fun a => a.toList.all fun c => !isSign c) = true := by decide +kernel
  have plain : ∀ a ∈ args, ∀ c ∈ a.toList, isSign c = false := fun a given c inside => by
    simpa using List.all_eq_true.1 (List.all_eq_true.1 all a given) c inside
  exact ⟨signs, plain, (fillPlaceholders_of_apart signs).2 plain⟩

/-- An argument inside a quoted text is read as a placeholder, and what that stands for ends the text. -/
theorem argument_read_as_placeholder :
    (fillPlaceholders "return \"&1&\"" ["&ARGS&", "it's"]).toList =
        "return \"['&ARGS&', \"it's\"]\"".toList ∧
      fillOnce (Placeholder.value ["&ARGS&", "it's"]) "return \"&1&\"".toList =
        "return \"&ARGS&\"".toList := by
  constructor <;> decide +kernel

end AliasTools.Command
