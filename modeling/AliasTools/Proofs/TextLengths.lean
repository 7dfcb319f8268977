import AliasTools.Script.TextMethod

/-!
# How long texts become

The lengths of texts that are cut, joined, filled up and replaced in, in terms of what they are made from.
-/

namespace AliasTools

open List Nat

namespace Text

def charCount (parts : List (List Char)) : Nat := parts.flatten.length

theorem length_intercalate (sep part : List Char) (parts : List (List Char)) :
    (sep.intercalate (part :: parts)).length = charCount (part :: parts) + parts.length * sep.length := by
  induction parts generalizing part with
  | nil => simp [charCount]
  | cons next parts ih =>
    rw [intercalate_cons_cons, length_append, ih]
    simp only [charCount, flatten_cons, length_append, length_cons, succ_mul]
    omega

/-- A text that is cut so many times has one part more, and has lost a piece each time. -/
structure Cut (piece : List Char) (limit : Option Nat) (done parts : List (List Char)) (total : Nat)
    (times : Nat) : Prop where
  count : parts.length = done.length + 1 + times
  chars : charCount parts + times * piece.length = charCount done + total
  allowed : ∀ n, limit = some n → times ≤ n

theorem cut_cutFrom (some : piece ≠ []) (limit : Option Nat) (skip : Nat)
    (done : List (List Char)) (acc : List Char) (behind : skip ≤ s.length) :
    ∃ times, Cut piece limit done (cutFrom piece limit skip done acc s) (acc.length + (s.length - skip)) times := by
  have long : 0 < piece.length := length_pos_iff.mpr some
  induction s generalizing limit skip done acc with
  | nil =>
    refine ⟨0, ?_, ?_, fun _ _ => zero_le _⟩
    · simp [cutFrom]
    · simp [cutFrom, charCount]
  | cons c rest ih =>
    rw [length_cons] at behind
    cases skip with
    | succ k =>
      obtain ⟨times, cut⟩ := ih limit k done acc (by omega)
      rw [cutFrom]
      refine ⟨times, cut.count, ?_, cut.allowed⟩
      rw [cut.chars, length_cons]
      omega
    | zero =>
      rw [cutFrom]
      split
      · next here =>
        obtain ⟨more, starts⟩ := Bool.and_eq_true_iff.mp here
        have fits : piece.length ≤ rest.length + 1 := (List.isPrefixOf_iff_prefix.mp starts).length_le
        obtain ⟨times, cut⟩ := ih (limit.map (· - 1)) (piece.length - 1) (acc.reverse :: done) [] (by omega)
        refine ⟨times + 1, ?_, ?_, fun n given => ?_⟩
        · rw [cut.count, length_cons]
          omega
        · have chars := cut.chars
          simp only [charCount, flatten_cons, length_append, length_reverse, length_nil,
            length_cons, succ_mul] at chars ⊢
          omega
        · subst given
          have positive : n ≠ 0 := by rintro rfl; exact absurd more Bool.false_ne_true
          have fewer := cut.allowed (n - 1) rfl
          omega
      · obtain ⟨times, cut⟩ := ih limit 0 done (c :: acc) (zero_le _)
        refine ⟨times, cut.count, ?_, cut.allowed⟩
        rw [cut.chars, length_cons, length_cons]
        omega

/-- A text in which a piece is replaced so many times: each time it grows by as much as the new piece is
    longer. -/
structure Replaced (old new s out : List Char) (limit : Option Nat) (times : Nat) : Prop where
  length : (out.length : Int) = s.length + times * ((new.length : Int) - old.length)
  allowed : ∀ n, limit = some n → times ≤ n
  every : limit = none → times = countPiece old s

theorem replaced_weave (new : List Char) (limit : Option Nat) (s : List Char) :
    ∃ times, Replaced [] new s (weave new limit s) limit times := by
  have woven (t : List Char) : (t.map fun c => new ++ [c]).flatten.length = t.length * (new.length + 1) := by
    rw [length_flatten, map_map]
    have each : List.length ∘ (fun c => new ++ [c]) = fun _ => new.length + 1 := by
      funext c
      simp
    rw [each, map_const', sum_replicate_nat]
  cases limit with
  | none =>
    refine ⟨s.length + 1, ?_, nofun, fun _ => by simp [countPiece]⟩
    rw [weave, length_append, woven]
    grind
  | some n =>
    refine ⟨min n (s.length + 1), ?_, fun m given => ?_, nofun⟩
    · rw [weave, length_append, woven, length_take]
      split
      · next short =>
        rw [Nat.min_eq_right (Nat.le_of_lt short), Nat.min_eq_right short]
        grind
      · next long =>
        grind
    · cases given
      exact Nat.min_le_left _ _

theorem replaced_replacePiece (old new : List Char) (limit : Option Nat) (s : List Char) :
    ∃ times, Replaced old new s (replacePiece old new limit s) limit times := by
  rw [replacePiece]
  split
  · next empty =>
    rw [isEmpty_iff.mp empty]
    exact replaced_weave new limit s
  · next some =>
    have some : old ≠ [] := fun empty => some (isEmpty_iff.mpr empty)
    obtain ⟨times, cut⟩ := cut_cutFrom some limit 0 [] [] (zero_le s.length)
    have count : (cutAtPiece old limit s).length = times + 1 := by
      rw [cutAtPiece, cut.count, length_nil]
      omega
    have chars : charCount (cutAtPiece old limit s) + times * old.length = s.length := by
      rw [cutAtPiece, cut.chars]
      simp [charCount]
    refine ⟨times, ?_, cut.allowed, fun all => ?_⟩
    · obtain ⟨part, parts, same⟩ := exists_cons_of_length_eq_add_one count
      rw [same] at count chars ⊢
      rw [length_intercalate, ← chars]
      grind
    · subst all
      rw [countPiece, if_neg (fun empty => some (isEmpty_iff.mp empty)), count]
      rfl

end Text

namespace Script

theorem length_alignText (name : String) (s : List Char) (width : Int) (fill : Char) :
    (alignText name s width fill).length = s.length + (width - s.length).toNat := by
  rw [alignText]
  split
  · rw [length_append, length_replicate]
  · split
    · rw [length_append, length_replicate, Nat.add_comm]
    · split <;> grind

theorem length_zeroFill (s : List Char) (width : Int) :
    (zeroFill s width).length = s.length + (width - s.length).toNat := by
  unfold zeroFill
  split <;> simp only [length_append, length_cons, length_replicate] <;> omega

theorem length_expandFrom_le (tab col : Int) (acc s : List Char) :
    (expandFrom tab col acc s).length + s.count '\t' ≤ acc.length + s.length + s.count '\t' * tab.toNat := by
  fun_induction expandFrom tab col acc s with
  | case1 col acc => simp
  | case2 col acc rest wide n ih =>
    have stop : n ≤ tab.toNat := by
      have := Int.emod_nonneg col (Int.ne_of_gt wide)
      omega
    simp only [length_append, length_replicate, length_cons, count_cons_self, succ_mul] at ih ⊢
    omega
  | case3 col acc rest none ih =>
    simp only [length_cons, count_cons_self, succ_mul]
    omega
  | case4 col acc c rest other ih =>
    rw [count_cons_of_ne other]
    simp only [length_cons] at ih ⊢
    omega

end Script

end AliasTools
