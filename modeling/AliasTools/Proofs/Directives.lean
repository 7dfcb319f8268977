import AliasTools.Script.Percent

/-!
# Directives of templates

A template is read twice: first for what its directives ask for, then to be written.  The two readings are
not the same.  The first takes the digits of any script for digits, ends a key at the first bracket that
closes, and passes over what is no directive.
-/

namespace AliasTools.Script

open Text Number List

variable {d : Directive} {after key : List Char} {cs : List Char} {p : Char → Bool} {precision : Option (Option Amount)}

/-! ## 1. Widths and precisions -/

theorem takeAmount_snd (noStar : cs.head? ≠ some '*') : (takeAmount p cs).2 = cs.dropWhile p := by
  unfold takeAmount
  split
  · exact absurd rfl noStar
  · split
    · next none =>
      cases cs with
      | nil => rfl
      | cons c cs =>
        rw [takeWhile_cons] at none
        split at none
        · cases none
        · next other => rw [dropWhile_cons, if_neg other]
    · rfl

theorem takeAmount_eq_or (sub : ∀ c, p c = true → q c = true) (cs : List Char) :
    takeAmount p cs = takeAmount q cs ∨ ∃ c rest, (takeAmount p cs).2 = c :: rest ∧ q c = true := by
  have ends : (cs.takeWhile p = cs.takeWhile q ∧ cs.dropWhile p = cs.dropWhile q) ∨
      ∃ c rest, cs.dropWhile p = c :: rest ∧ q c = true := by
    induction cs with
    | nil => exact .inl ⟨rfl, rfl⟩
    | cons c cs ih =>
      simp only [takeWhile_cons, dropWhile_cons]
      cases small : p c with
      | true =>
        rw [sub c small]
        simpa using ih
      | false =>
        cases great : q c with
        | true => exact .inr ⟨c, cs, rfl, great⟩
        | false => exact .inl ⟨rfl, rfl⟩
  by_cases star : cs.head? = some '*'
  · obtain ⟨rest, rfl⟩ := head?_eq_some_iff.mp star
    exact .inl rfl
  · rw [takeAmount_snd star]
    refine ends.imp_left fun ⟨digits, behind⟩ => ?_
    unfold takeAmount
    split
    · rfl
    · rw [digits, behind]

theorem takeSizes_eq_or (sub : ∀ c, p c = true → q c = true)
    (plain : ∀ c ∈ ['.', 'h', 'l', 'L'], q c = false) (cs : List Char) :
    takeSizes p cs = takeSizes q cs ∨ ∃ c rest, (takeSizes p cs).2.2 = c :: rest ∧ q c = true := by
  have stays {c : Char} (digit : q c = true) (rest : List Char) : c ≠ '.' ∧ dropLength (c :: rest) = c :: rest := by
    refine ⟨?_, ?_⟩
    · rintro rfl
      exact absurd ((plain '.' (by simp)).symm.trans digit) Bool.false_ne_true
    · rw [dropLength, if_neg]
      intro mark
      simp only [Bool.or_eq_true, beq_iff_eq] at mark
      have known : q c = false := by
        refine plain c ?_
        rcases mark with (rfl | rfl) | rfl <;> simp
      exact absurd (known.symm.trans digit) Bool.false_ne_true
  rcases takeAmount_eq_or sub cs with same | ⟨c, rest, behind, digit⟩
  · unfold takeSizes
    rw [same]
    obtain ⟨width, behind⟩ := takeAmount q cs
    dsimp only
    split
    · next rest =>
      rcases takeAmount_eq_or sub rest with same' | ⟨c, more, behind', digit⟩
      · exact .inl (by rw [same'])
      · exact .inr ⟨c, more, (congrArg dropLength behind').trans (stays digit more).2, digit⟩
    · exact .inl rfl
  · refine .inr ⟨c, rest, ?_, digit⟩
    unfold takeSizes
    dsimp only
    rw [behind]
    split
    · next heq => exact absurd (List.cons.inj heq).1 (stays digit rest).1
    · exact (stays digit rest).2

theorem length_takeAmount_le (p : Char → Bool) (cs : List Char) : (takeAmount p cs).2.length ≤ cs.length := by
  unfold takeAmount
  split
  · simp
  · split
    · exact Nat.le_refl _
    · exact (dropWhile_sublist p).length_le

theorem length_dropLength_le (cs : List Char) : (dropLength cs).length ≤ cs.length := by
  cases cs with
  | nil => exact Nat.le_refl _
  | cons c cs =>
    rw [dropLength]
    split
    · exact Nat.le_succ _
    · exact Nat.le_refl _

theorem length_takeSizes_le (p : Char → Bool) (cs : List Char) : (takeSizes p cs).2.2.length ≤ cs.length := by
  have first := length_takeAmount_le p cs
  unfold takeSizes
  split
  next width behind heq =>
  rw [heq] at first
  split
  · next rest =>
    have second := length_takeAmount_le p rest
    have third := length_dropLength_le (takeAmount p rest).2
    simp only [length_cons] at first
    exact Nat.le_trans third (by omega)
  · exact Nat.le_trans (length_dropLength_le _) first

/-! ## 2. Keys -/

theorem takeBracket_snd_of_none : (takeBracket cs).1 = none → (takeBracket cs).2 = cs := by
  unfold takeBracket
  split
  · dsimp only
    split
    · exact fun key => by cases key
    · exact fun _ => rfl
  · exact fun _ => rfl

theorem takeBracket_of_some :
    (takeBracket cs).1 = some key → cs = '(' :: (key ++ ')' :: (takeBracket cs).2) ∧ ')' ∉ key := by
  unfold takeBracket
  split
  · next rest =>
    dsimp only
    split
    · next after dropped =>
      rintro ⟨⟩
      obtain ⟨more, whole⟩ := takeWhile_prefix (· != ')')
      have behind := congrArg (List.drop (rest.takeWhile (· != ')')).length) whole
      rw [drop_left] at behind
      refine ⟨?_, fun closes => ?_⟩
      · rw [← dropped, ← behind, whole]
      · have := all_eq_true.mp all_takeWhile ')' closes
        cases this
    · exact fun key => by cases key
  · exact fun key => by cases key

theorem takeKey_of_flat (flat : '(' ∉ key) (closed : ')' ∉ key) (acc behind : List Char) :
    takeKey 0 acc (key ++ ')' :: behind) = some (acc.reverse ++ key, behind) := by
  induction key generalizing acc with
  | nil => simp [takeKey]
  | cons c key ih =>
    rw [mem_cons, not_or] at flat closed
    rw [cons_append, takeKey]
    · rw [ih flat.2 closed.2, reverse_cons, append_assoc]
      rfl
    · exact fun same => closed.1 same.symm
    · exact fun same => flat.1 same.symm

/-! ## 3. Directives -/

/-- What the first reading finds behind a key, or where no key is. -/
structure Found (behind : List Char) (d : Directive) (after : List Char)
    (precision : Option (Option Amount)) : Prop where
  sizes : takeSizes isDecimal (behind.dropWhile isPercentFlag) = (d.width, precision, d.form :: after)
  precise : precision.map (·.getD (.digits [])) = d.precision

section

variable (taken : takeDirective cs = some (d, after))

include taken

theorem found_takeDirective : (takeBracket cs).1 = d.key ∧ directiveForms.contains d.form = true ∧
      ∃ precision, Found (takeBracket cs).2 d after precision := by
  unfold takeDirective at taken
  split at taken
  next key behind heq =>
  rw [heq]
  split at taken
  · cases taken
  · cases taken
  · next width precision form rest amount sizes =>
    split at taken
    · next listed =>
      cases taken
      refine ⟨rfl, listed, precision, sizes, ?_⟩
      match precision with
      | none => rfl
      | some (some a) => rfl
    · cases taken

theorem found_of_keyless (keyless : d.key = none) : cs.head? ≠ some '(' ∧ ∃ precision, Found cs d after precision := by
  obtain ⟨bracket, listed, precision, found⟩ := found_takeDirective taken
  rw [takeBracket_snd_of_none (bracket.trans keyless)] at found
  refine ⟨fun opens => ?_, precision, found⟩
  obtain ⟨rest, rfl⟩ := head?_eq_some_iff.mp opens
  have unread : takeSizes isDecimal (('(' :: rest).dropWhile isPercentFlag) = (none, none, '(' :: rest) := rfl
  have form : d.form = '(' := (List.cons.inj (congrArg (·.2.2) (found.sizes.symm.trans unread))).1
  rw [form] at listed
  exact absurd listed (by decide)

theorem found_of_key (named : d.key = some key) :
    ∃ behind precision, cs = '(' :: (key ++ ')' :: behind) ∧ ')' ∉ key ∧ Found behind d after precision := by
  obtain ⟨bracket, -, precision, found⟩ := found_takeDirective taken
  obtain ⟨same, closed⟩ := takeBracket_of_some (bracket.trans named)
  exact ⟨_, precision, same, closed, found⟩

end

theorem Found.length (found : Found behind d after precision) : after.length < behind.length := by
  have first := length_takeSizes_le isDecimal (behind.dropWhile isPercentFlag)
  rw [found.sizes] at first
  exact Nat.lt_of_lt_of_le first (dropWhile_sublist _).length_le

theorem length_takeDirective_lt (taken : takeDirective cs = some (d, after)) : after.length < cs.length := by
  cases key : d.key with
  | none =>
    obtain ⟨-, precision, found⟩ := found_of_keyless taken key
    exact found.length
  | some name =>
    obtain ⟨behind, precision, rfl, -, found⟩ := found_of_key taken key
    have := found.length
    simp only [length_cons, length_append]
    omega

theorem takeDirective_percent (cs : List Char) : takeDirective ('%' :: cs) = some (⟨none, none, none, '%'⟩, cs) := rfl

theorem directives_append (acc : List Directive) (n : Nat) (cs : List Char) :
    directives acc n cs = acc.reverse ++ directives [] n cs := by
  induction n generalizing acc cs with
  | zero => simp [directives]
  | succ n ih =>
    match cs with
    | [] => simp [directives]
    | c :: cs =>
      by_cases percent : c = '%'
      · subst percent
        rw [directives, directives]
        split
        · next d after _ => rw [ih (d :: acc), ih [d], reverse_cons, append_assoc]; rfl
        · exact ih acc cs
      · rw [directives, directives]
        · exact ih acc cs
        all_goals exact percent

theorem directives_taken (taken : takeDirective cs = some (d, after)) (n : Nat) :
    directives [] (n + 1) ('%' :: cs) = d :: directives [] n after := by
  rw [directives, taken]
  exact directives_append [d] n after

/-! ## 4. The second reading -/

theorem takeFlags_precision (f : Field) (cs : List Char) : (takeFlags f cs).1.precision = f.precision := by
  fun_induction takeFlags f cs with
  | case1 f rest ih | case2 f rest ih | case3 f rest ih | case4 f rest ih | case5 f rest ih => exact ih
  | case6 => rfl

theorem takeFlags_snd (f : Field) (cs : List Char) : (takeFlags f cs).2 = cs.dropWhile isPercentFlag := by
  fun_induction takeFlags f cs with
  | case1 f rest ih | case2 f rest ih | case3 f rest ih | case4 f rest ih | case5 f rest ih => exact ih
  | case6 f cs left plus blank alternate zero =>
    cases cs with
    | nil => rfl
    | cons c cs =>
      have other : isPercentFlag c = false := by
        simp only [isPercentFlag, Bool.or_eq_false_iff, beq_eq_false_iff_ne]
        exact ⟨⟨⟨⟨fun h => alternate cs (h ▸ rfl), fun h => zero cs (h ▸ rfl)⟩, fun h => left cs (h ▸ rfl)⟩,
          fun h => blank cs (h ▸ rfl)⟩, fun h => plus cs (h ▸ rfl)⟩
      rw [dropWhile_cons, other]
      rfl

theorem Found.measures (found : Found cs d after precision) :
    (∃ flags, takeMeasures cs = (⟨flags, d.width, d.precision⟩, d.form :: after) ∧ flags.precision = none) ∨
      ∃ m c rest, takeMeasures cs = (m, c :: rest) ∧ isDecimal c = true := by
  have sub (c : Char) (digit : c.isDigit = true) : isDecimal c = true := by
    obtain ⟨low, high⟩ : '0' ≤ c ∧ c ≤ '9' := by simpa [Char.isDigit, Char.le_def] using digit
    have ascii : isAscii c = true := by
      have : c.toNat ≤ 57 := high
      exact decide_eq_true (by omega)
    rw [isDecimal, if_pos ascii, isAsciiDigit, decide_eq_true low, decide_eq_true high]
    rfl
  have same : takeMeasures cs = (⟨(takeFlags {} cs).1, (takeSizes Char.isDigit (cs.dropWhile isPercentFlag)).1,
      (takeSizes Char.isDigit (cs.dropWhile isPercentFlag)).2.1.map (·.getD (.digits []))⟩,
      (takeSizes Char.isDigit (cs.dropWhile isPercentFlag)).2.2) := by
    rw [← takeFlags_snd {} cs]
    rfl
  rw [same]
  have marks : ['.', 'h', 'l', 'L'].all (! isDecimal ·) = true := by decide
  have plain (c : Char) (member : c ∈ ['.', 'h', 'l', 'L']) : isDecimal c = false :=
    (Bool.not_eq_true' _).mp (all_eq_true.mp marks c member)
  rcases takeSizes_eq_or sub plain (cs.dropWhile isPercentFlag) with equal | ⟨c, rest, ends, digit⟩
  · left
    rw [equal, found.sizes, ← found.precise]
    exact ⟨_, rfl, takeFlags_precision {} cs⟩
  · right
    rw [ends]
    exact ⟨_, c, rest, rfl, digit⟩

end AliasTools.Script
