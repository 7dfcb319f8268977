import AliasTools.Proofs.Outcomes
import Mathlib.Tactic.Linarith

/-!
# Whole numbers in their range

Operators on whole numbers look at their results, or are taken to stay in the range of their operands.  The
least number has no opposite in the range, and two of the operators that are not watched reach it.
-/

namespace AliasTools.Script

open Number Syntax Int

variable {k j : Nat} {w : World} {a b n : Int} {x y : Value} {op : BinOp} (l : Limits)

/-- Whole numbers of `j` binary digits and a sign. -/
def Ranged (j : Nat) (n : Int) : Prop := -((twoTo j : Nat) : Int) ≤ n ∧ n < (twoTo j : Nat)

def Limits.digits : Nat := l.maxIntSize - 1

theorem outOfRange_iff (given : v.asInt? = some n) : outOfRange l v = true ↔ ¬ Ranged l.digits n := by
  have most : l.maxInt = ((twoTo l.digits : Nat) : Int) - 1 := rfl
  have least : l.minInt = -((twoTo l.digits : Nat) : Int) := rfl
  rw [outOfRange, given, Ranged]
  simp only [Bool.or_eq_true, decide_eq_true_eq]
  omega

/-! ## 1. Bits -/

theorem combined_ranged {f : Nat → Nat → Nat} (narrow : ∀ {u v i}, u < 2 ^ i → v < 2 ^ i → f u v < 2 ^ i)
    (digits : j ≠ 0) {m n : Nat} (p q sign : Bool) (small : m < 2 ^ j) (small' : n < 2 ^ j) :
    let all := twoTo (max m.log2 n.log2 + 1) - 1
    let r := f (if p = true then all - m else m) (if q = true then all - n else n)
    Ranged j (if sign = true then -((all - r : Nat) : Int) - 1 else r) := by
  dsimp only
  have most {m : Nat} (small : m < 2 ^ j) : m.log2 < j := by
    by_cases zero : m = 0
    · rw [zero, Nat.log2_zero]
      omega
    · exact (Nat.log2_lt zero).mpr small
  have within : 2 ^ (max m.log2 n.log2 + 1) ≤ 2 ^ j :=
    Nat.pow_le_pow_right (by decide) (Nat.max_lt.mpr ⟨most small, most small'⟩)
  generalize width_eq : max m.log2 n.log2 + 1 = width at within ⊢
  have flipped {m : Nat} (p : Bool) (short : m.log2 < width) :
      (if p = true then twoTo width - 1 - m else m) < 2 ^ width := by
    have short : m < 2 ^ width := Nat.lt_log2_self.trans_le (Nat.pow_le_pow_right (by decide) short)
    have power : twoTo width = 2 ^ width := rfl
    split <;> omega
  have combined := narrow (flipped (m := m) p (by omega)) (flipped (m := n) q (by omega))
  have power : ((twoTo j : Nat) : Int) = ((2 ^ j : Nat) : Int) := rfl
  have power' : twoTo width = 2 ^ width := rfl
  unfold Ranged
  split <;> omega

theorem bitCombine_ranged (narrow : ∀ {u v i}, u < 2 ^ i → v < 2 ^ i → f u v < 2 ^ i)
    (single : ∀ a ∈ [0, -1], ∀ b ∈ [0, -1], bitCombine f fb a b ∈ [0, -1])
    (left : Ranged j a) (right : Ranged j b) : Ranged j (bitCombine f fb a b) := by
  have power : ((2 ^ j : Nat) : Int) = (twoTo j : Nat) := rfl
  by_cases digits : j = 0
  · have bit {c : Int} : Ranged j c ↔ c ∈ [0, -1] := by
      simp only [List.mem_cons, List.not_mem_nil, or_false]
      subst digits
      unfold Ranged
      omega
    exact bit.mpr (single a (bit.mp left) b (bit.mp right))
  have bare {c : Int} (ranged : Ranged j c) : (0 ≤ c → c.toNat < 2 ^ j) ∧ (c < 0 → (-c - 1).toNat < 2 ^ j) := by
    unfold Ranged at ranged
    omega
  have combined {m n : Nat} := combined_ranged (m := m) (n := n) narrow digits
  unfold bitCombine
  by_cases negative : a < 0 <;> by_cases negative' : b < 0 <;> simp only [negative, negative']
  · exact combined true true _ ((bare left).2 negative) ((bare right).2 negative')
  · exact combined true false _ ((bare left).2 negative) ((bare right).1 (Int.not_lt.mp negative'))
  · exact combined false true _ ((bare left).1 (Int.not_lt.mp negative)) ((bare right).2 negative')
  · exact combined false false _ ((bare left).1 (Int.not_lt.mp negative)) ((bare right).1 (Int.not_lt.mp negative'))

/-! ## 2. Division -/

theorem fmod_of_neg (negative : b < 0) (a : Int) : b < a.fmod b ∧ a.fmod b ≤ 0 := by
  have least := Int.fmod_nonneg_of_pos (-a) (Int.neg_pos_of_neg negative)
  have most := Int.fmod_lt_of_pos (-a) (Int.neg_pos_of_neg negative)
  rw [Int.neg_fmod_neg] at least most
  omega

theorem fmod_ranged (some : b ≠ 0) (a : Int) (right : Ranged j b) : Ranged j (Int.fmod a b) := by
  unfold Ranged at *
  rcases Int.lt_or_gt_of_ne some with negative | positive
  · have := fmod_of_neg negative a
    omega
  · have least := fmod_nonneg_of_pos a positive
    have most := fmod_lt_of_pos a positive
    omega

theorem fdiv_ranged_of_pos (positive : 0 < b) (left : Ranged j a) : Ranged j (fdiv a b) := by
  have whole := mul_fdiv_add_fmod a b
  have least := fmod_nonneg_of_pos a positive
  have most := fmod_lt_of_pos a positive
  unfold Ranged at *
  exact ⟨by nlinarith, by nlinarith⟩

theorem fdiv_ranged (some : b ≠ 0) (left : Ranged j a) (right : Ranged j b) :
    ¬ Ranged j (fdiv a b) ↔ a = -((twoTo j : Nat) : Int) ∧ b = -1 := by
  rcases lt_or_gt_of_ne some with negative | positive
  · have whole := mul_fdiv_add_fmod a b
    obtain ⟨below, above⟩ := fmod_of_neg negative a
    unfold Ranged at *
    constructor
    · intro out
      by_contra other
      rcases lt_or_eq_of_le (le_sub_one_of_lt negative) with far | rfl
      · exact out ⟨by nlinarith, by nlinarith⟩
      · omega
    · rintro ⟨rfl, rfl⟩
      omega
  · exact iff_of_false (not_not_intro (fdiv_ranged_of_pos positive left)) (by omega)

/-! ## 3. Operators -/

/-- The operators whose results are looked at. -/
def isWatched : BinOp → Bool
  | .add | .sub | .mult | .pow | .lShift => true
  | _ => false

/-- A result is in the range, unless it is the opposite of the least number. -/
def Stays (op : BinOp) (a b : Int) (v : Value) : Prop :=
  ∀ n, v.asInt? = some n → (¬ Ranged l.digits n ↔ op = .floorDiv ∧ a = -((twoTo l.digits : Nat) : Int) ∧ b = -1)

theorem stays_of_ranged {l : Limits} (other : op ≠ .floorDiv) (ranged : Ranged l.digits n) :
    Stays l op a b (.int n) := by
  rintro m same
  cases same
  exact iff_of_false (not_not_intro ranged) fun exception => other exception.1

theorem gives_intArith (bare : isWatched op = false) (left : Ranged w.limits.digits a)
    (right : Ranged w.limits.digits b) :
    Gives k w (intArith op a b) fun r _ => ∀ v, r = some v → Stays w.limits op a b v := by
  have whole {n : Int} (stays : Stays w.limits op a b (.int n)) :
      Gives k w (.pure (some (.int n))) fun r _ => ∀ v, r = some v → Stays w.limits op a b v :=
    gives_pure fun v same => Option.some.inj same ▸ stays
  cases op with
  | add | sub | mult | pow | lShift => cases bare
  | matMult => exact gives_pure nofun
  | div =>
    have float : Gives k w (divideInts a b) fun v _ => v.asInt? = none := by
      unfold divideInts
      exact gives_unless fun _ => gives_unless fun _ => gives_pure rfl
    refine float.bind fun u _ float => gives_pure fun v same n given => ?_
    obtain rfl := Option.some.inj same
    cases float.symm.trans given
  | floorDiv =>
    unfold intArith
    refine gives_unless fun some => whole ?_
    rintro n same
    cases same
    rw [fdiv_ranged (by simpa using some) left right]
    exact ⟨fun exception => ⟨rfl, exception⟩, And.right⟩
  | mod =>
    unfold intArith
    refine gives_unless fun some => whole (stays_of_ranged nofun ?_)
    exact fmod_ranged (by simpa using some) a right
  | rShift =>
    unfold intArith
    refine gives_unless fun _ => ?_
    have power : (0 : Int) < (twoTo b.toNat : Nat) := natCast_pos.mpr (Nat.two_pow_pos _)
    split
    · refine whole (stays_of_ranged nofun ?_)
      unfold Ranged at *
      split <;> omega
    · exact whole (stays_of_ranged nofun (fdiv_ranged_of_pos power left))
  | bitAnd =>
    have within : Ranged _ (bitAnd a b) :=
      bitCombine_ranged (fun _ => Nat.and_lt_two_pow _) (by decide +kernel) left right
    exact whole (stays_of_ranged nofun within)
  | bitOr => exact whole (stays_of_ranged nofun (bitCombine_ranged Nat.or_lt_two_pow (by decide +kernel) left right))
  | bitXor => exact whole (stays_of_ranged nofun (bitCombine_ranged Nat.xor_lt_two_pow (by decide +kernel) left right))

theorem gives_unsupported {α : Type} {p : α → World → Prop} (op : BinOp) (x y : Value) :
    Gives k w (unsupported op x y) p :=
  .whatever fun _ _ => .whatever fun _ _ => gives_raise _

theorem gives_bare (bare : isWatched op = false) (left : Ranged w.limits.digits a) (right : Ranged w.limits.digits b) :
    Gives k w (binaryOp .ask op (.int a) (.int b)) fun v _ => Stays w.limits op a b v := by
  have numbers : Gives k w (numericArith op (.int a) (.int b)) fun r _ =>
      ∀ v, r = some v → Stays w.limits op a b v := gives_intArith bare left right
  cases op with
  | add | sub | mult | pow | lShift => cases bare
  | matMult => exact gives_raise _
  | _ =>
    refine numbers.bind fun r _ stays => ?_
    cases r with
    | some v => exact gives_pure (stays v rfl)
    | none => exact gives_unsupported _ _ _

theorem gives_watched (watched : isWatched op = true) (x y : Value) :
    Gives k w (binaryOp .ask op x y) fun v _ => ¬ outOfRange w.limits v = true := by
  have last {z : Eval Value} {w₁ : World} (lasts : w.Lasts w₁) (verb : String) :
      Gives k w₁ (.bind z (checkResult verb)) fun v _ => ¬ outOfRange w.limits v = true := by
    refine .bind (gives_lasts z) fun v _ lasts' => .reading ?_
    rw [(lasts.trans lasts').limits]
    exact gives_unless fun inside => gives_pure inside
  cases op with
  | add =>
    refine .past (.refl w) fun _ w₁ lasts => .past lasts fun _ w₂ lasts => .past lasts fun _ w₃ lasts => ?_
    exact .reading (gives_unless fun _ => last lasts _)
  | sub => exact .past (.refl w) fun _ w₁ lasts => last lasts _
  | mult =>
    exact .past (.refl w) fun _ w₁ lasts => .past lasts fun _ w₂ lasts => .past lasts fun _ w₃ lasts => last lasts _
  | pow =>
    refine .reading (.whatever fun _ _ => .whatever fun high _ => ?_)
    split
    · refine .whatever fun _ _ => .whatever fun _ _ => ?_
      exact gives_raise_bind
    · exact .whatever fun v _ => gives_unless fun inside => gives_pure inside
  | lShift =>
    refine .past (.refl w) fun _ w₁ lasts => .reading ?_
    dsimp only
    split
    · split
      · refine .whatever fun _ _ => .whatever fun _ _ => ?_
        exact gives_raise_bind
      · exact last lasts _
    · exact last lasts _
  | _ => cases watched

theorem gives_unary {op : UnaryOp} (sign : op ≠ .not) (left : Ranged w.limits.digits a) :
    Gives k w (unaryOp .ask op (.int a)) fun v _ => ∀ n, v.asInt? = some n →
      (¬ Ranged w.limits.digits n ↔ op = .uSub ∧ a = -((twoTo w.limits.digits : Nat) : Int)) := by
  cases op with
  | not => exact absurd rfl sign
  | uSub | uAdd | invert =>
    refine gives_pure fun n same => ?_
    cases same
    unfold Ranged at *
    simp only [reduceCtorEq, true_and, false_and, iff_false]
    omega

/-- **Whole numbers stay in their range, but for the opposite of the least one**: it is out of the range, and both
    the minus sign and division by -1 give it. -/
theorem arithmetic_leaves_range_iff (left : ¬ outOfRange w.limits (.int a) = true)
    (right : ¬ outOfRange w.limits (.int b) = true) (k : Nat) :
    (∀ op v w' n, (binaryOp .ask op (.int a) (.int b)).exec (run k) w = .ok v w' → v.asInt? = some n →
      (outOfRange w.limits v = true ↔ op = .floorDiv ∧ a = w.limits.minInt ∧ b = -1)) ∧
    ∀ op v w' n, op ≠ .not → (unaryOp .ask op (.int a)).exec (run k) w = .ok v w' → v.asInt? = some n →
      (outOfRange w.limits v = true ↔ op = .uSub ∧ a = w.limits.minInt) := by
  rw [outOfRange_iff _ rfl, not_not] at left right
  refine ⟨fun op v w' n ran given => ?_, fun op v w' n sign ran given => ?_⟩
  · cases watched : isWatched op with
    | true =>
      refine iff_of_false (gives_watched watched _ _ v w' ran) ?_
      rintro ⟨rfl, -⟩
      cases watched
    | false => exact (outOfRange_iff _ given).trans (gives_bare watched left right v w' ran n given)
  · exact (outOfRange_iff _ given).trans (gives_unary sign left v w' ran n given)

/-- With four binary digits, the sum of the greatest number and one is refused, and -8 has no opposite. -/
theorem arithmetic_leaves_range_iff_four :
    let w : World := { limits := { maxIntSize := 4 } }
    (∃ v w', (binaryOp .ask .bitXor (.int (-8)) (.int 7)).exec (run 3) w = .ok v w' ∧
      ¬ outOfRange w.limits v = true) ∧
    (failureOf ((binaryOp .ask .add (.int 7) (.int 1)).exec (run 3) w)).isSome = true := by
  intro w
  refine ⟨⟨.int (-1), w, rfl, ?_⟩, by decide +kernel⟩
  have leaves := (arithmetic_leaves_range_iff (w := w) (a := -8) (b := 7) (by decide) (by decide) 3).1
  exact fun out => absurd ((leaves .bitXor _ w _ rfl rfl).mp out).1 nofun

/-- `-(-8)` and `-8 // -1` with four binary digits. -/
theorem least_number_has_no_opposite :
    let w : World := { limits := { maxIntSize := 4 } }
    let number (r : Outcome Value) : Option Int := match r with
      | .ok v _ => v.asInt?
      | .error _ _ => none
    outOfRange w.limits (.int (-8)) = false ∧ outOfRange w.limits (.int 8) = true ∧
      number ((unaryOp .ask .uSub (.int (-8))).exec (run 3) w) = some 8 ∧
      number ((binaryOp .ask .floorDiv (.int (-8)) (.int (-1))).exec (run 3) w) = some 8 := by
  decide +kernel

end AliasTools.Script
