import AliasTools.Proofs.Outcomes
import Mathlib.Data.List.Perm.Basic
import Mathlib.Data.List.TakeWhile

/-!
# Rows of coins

A text is a row of coins just when it is one coin word after the other, so that rows can be put together, and nothing
but a row or a number is an amount.
-/

namespace AliasTools.Sheet

open Script Text Number List Coins

/-! ## 1. The grammar -/

def IsSign (s : List Char) : Prop := s = [] ∨ s = ['+'] ∨ s = ['-']

/-- A number of coins: a sign, digits, the two letters of the coin, and gaps. -/
inductive Spells : List Char → CoinWord → Prop where
  | word (sign ds gap after : List Char) (letter mark coin : Char) (signed : IsSign sign) (filled : ds ≠ [])
    (count : ∀ d ∈ ds, isCount d = true) (gaps : ∀ g ∈ gap ++ after, isGap g = true)
    (means : coinOf? letter = some coin) (piece : mark = 'p' ∨ mark = 'P') :
    Spells (sign ++ (ds ++ (gap ++ letter :: mark :: after))) ⟨coin, sign == ['-'], ds⟩

inductive IsRow : List Char → List CoinWord → Prop where
  | last (spells : Spells s w) : IsRow s [w]
  | more (spells : Spells s w) (others : IsRow t ws) : IsRow (s ++ t) (w :: ws)

variable {s t r : List Char} {w : CoinWord} {ws us : List CoinWord}

theorem IsRow.append (first : IsRow s ws) (second : IsRow t us) : IsRow (s ++ t) (ws ++ us) := by
  induction first with
  | last spells => exact .more spells second
  | more spells _ ih =>
    rw [append_assoc]
    exact .more spells ih

theorem not_count_of_gap (gap : isGap c = true) : isCount c = false := by
  simp only [isGap, Bool.and_eq_true, Bool.not_eq_true'] at gap
  simp [isCount, gap]

/-- A coin word begins with a sign or a digit, and is no number. -/
theorem Spells.chars (spells : Spells s w) :
    (∃ c, s.head? = some c ∧ isGap c = false) ∧ ∃ c ∈ s, isNumberChar c = false := by
  cases spells with
  | word sign ds gap after letter mark coin signed filled count gaps means piece =>
    refine ⟨?_, mark, by simp, by rcases piece with rfl | rfl <;> decide⟩
    obtain ⟨d, ds, rfl⟩ := exists_cons_of_ne_nil filled
    rcases signed with rfl | rfl | rfl
    · exact ⟨d, rfl, Bool.eq_false_iff.mpr fun gap => by simp [not_count_of_gap gap] at count⟩
    · exact ⟨'+', rfl, rfl⟩
    · exact ⟨'-', rfl, rfl⟩

theorem IsRow.chars (row : IsRow s ws) :
    (∃ c, s.head? = some c ∧ isGap c = false) ∧ ∃ c ∈ s, isNumberChar c = false := by
  cases row with
  | last spells => exact spells.chars
  | more spells _ =>
    obtain ⟨⟨c, first, free⟩, d, member, other⟩ := spells.chars
    exact ⟨⟨c, by simp [first], free⟩, d, mem_append_left _ member, other⟩

/-! ## 2. Reading rows -/

theorem span_append {p : Char → Bool} (all : ∀ c ∈ s, p c = true) (ends : ∀ c ∈ t.head?, p c = false) :
    (s ++ t).takeWhile p = s ∧ (s ++ t).dropWhile p = t := by
  rw [takeWhile_append_of_pos all, dropWhile_append_of_pos all]
  cases t with
  | nil => simp
  | cons c t => simp [ends c rfl]

theorem splitMinus_append (signed : IsSign sign) (filled : t ≠ []) (count : ∀ d ∈ t, isCount d = true) :
    splitMinus (sign ++ (t ++ s)) = (sign == ['-'], t ++ s) := by
  obtain ⟨d, t, rfl⟩ := exists_cons_of_ne_nil filled
  have first := count d mem_cons_self
  have plus : d ≠ '+' := by rintro rfl; cases first
  have minus : d ≠ '-' := by rintro rfl; cases first
  rcases signed with rfl | rfl | rfl
  · simp [splitMinus, plus, minus]
  · rfl
  · rfl

theorem oneCoin?_of_spells (spells : Spells s w) (ends : ∀ c ∈ r.head?, isGap c = false) :
    oneCoin? (s ++ r) = some (w, r) := by
  cases spells with
  | word sign ds gap after letter mark coin signed filled count gaps means piece =>
    have before := span_append (t := letter :: mark :: (after ++ r)) (p := isGap)
      (fun g member => gaps g (mem_append_left _ member)) (by simp [isGap, means])
    have behind := span_append (fun g member => gaps g (mem_append_right _ member)) ends
    have counted := span_append (t := gap ++ letter :: mark :: (after ++ r)) count (by
      cases gap with
      | nil => simp [isCount, means]
      | cons g gap => simp [not_count_of_gap (gaps g mem_cons_self)])
    rcases piece with rfl | rfl <;>
      simp [oneCoin?, splitMinus_append signed filled count, counted, before, behind, means, filled]

theorem spells_of_oneCoin? (read : oneCoin? s = some (w, r)) : ∃ t, Spells t w ∧ s = t ++ r := by
  obtain ⟨sign, u, signed, rfl, cut⟩ : ∃ sign u, IsSign sign ∧ s = sign ++ u ∧ splitMinus s = (sign == ['-'], u) := by
    unfold splitMinus IsSign
    split
    · next u => exact ⟨['-'], u, by simp⟩
    · next u => exact ⟨['+'], u, by simp⟩
    · exact ⟨[], s, by simp⟩
  simp only [oneCoin?, cut] at read
  split at read
  · next letter mark behind found =>
    split at read
    · next coin means =>
      split at read
      · cases read
      · next good =>
        cases read
        refine ⟨_, .word sign (u.takeWhile isCount) ((u.dropWhile isCount).takeWhile isGap) (behind.takeWhile isGap)
          letter mark coin signed (by simp_all) (fun _ => mem_takeWhile_imp) ?_ means (by grind), ?_⟩
        · exact fun g member => (mem_append.mp member).elim mem_takeWhile_imp mem_takeWhile_imp
        · simp only [append_assoc, cons_append, takeWhile_append_dropWhile, ← found]
    · cases read
  · cases read

theorem coinRow?_iff (k : Nat) (enough : s.length < k) : coinRow? s k = some ws ↔ IsRow s ws := by
  induction k generalizing s ws with
  | zero => cases enough
  | succ k ih =>
    have shorter {s t : List Char} {w : CoinWord} (spells : Spells s w) (within : (s ++ t).length < k + 1) :
        t.length < k := by
      obtain ⟨⟨c, first, -⟩, -⟩ := spells.chars
      cases s with
      | nil => cases first
      | cons => simp at within; omega
    rw [coinRow?]
    constructor
    · intro read
      split at read
      · cases read
      · next w rest one =>
        obtain ⟨t, spells, rfl⟩ := spells_of_oneCoin? one
        split at read
        · next done =>
          cases read
          rw [isEmpty_iff.mp done, append_nil]
          exact .last spells
        · obtain ⟨ws, others, rfl⟩ := Option.map_eq_some_iff.mp read
          exact .more spells ((ih (shorter spells enough)).mp others)
    · intro row
      cases row with
      | last spells =>
        have one := oneCoin?_of_spells (r := []) spells (by simp)
        rw [append_nil] at one
        simp [one]
      | more spells others =>
        obtain ⟨⟨c, first, free⟩, -⟩ := others.chars
        have one := oneCoin?_of_spells spells (fun _ there => Option.some.inj (first.symm.trans there) ▸ free)
        have filled := ne_nil_of_mem (mem_of_head? first)
        simp [one, filled, (ih (shorter spells enough)).mpr others]

/-! ## 3. Amounts -/

theorem IsRow.ofChars (row : IsRow s ws) : ofChars s = ofRow ws := by
  obtain ⟨-, c, member, other⟩ := row.chars
  have number : readFloat? s = none := by
    rw [readFloat?, if_neg]
    intro all
    simp [all_eq_true.mp all c member] at other
  rw [Coins.ofChars]
  simp only [number, (coinRow?_iff _ (Nat.lt_succ_self _)).mpr row]

theorem exec_coinsOf (text : String) (g total : Bool) (k : Nat) (w : World) :
    (coinsOf .ask (.str text g) (.bool total)).exec (run (k + 1)) w =
      (match parse text with
      | .error f => fail (coinFaultKind f) f.message
      | .ok c => coinMap c total).exec (run (k + 1)) w := by
  show (match parse text with
    | .error f => fail (coinFaultKind f) f.message
    | .ok c => do coinMap c (← Eval.ask (.truth (.bool total)))).exec (run (k + 1)) w = _
  cases parse text <;> rfl

/-- **A text is no amount just when it is neither a number nor a row of coins.**  A number fails where it is infinite,
    and a row where one of its counts is too long. -/
theorem parse_fails_iff (text : String) :
    let s := amountChars text
    (Coins.parse text = .error .notCoins ↔ (∀ x, readFloat? s = some x → x.isNaN = true) ∧ ∀ ws, ¬ IsRow s ws) ∧
      (∀ x, readFloat? s = some x → x.isNaN = false →
        Coins.parse text = (Coins.ofGold? x).elim (.error .unbounded) .ok) ∧
      (∀ ws, IsRow s ws → Coins.parse text = Coins.ofRow ws) ∧
      ∀ g total k w, (coinsOf .ask (.str text g) (.bool total)).exec (run (k + 1)) w =
        (match Coins.parse text with
        | .error f => fail (coinFaultKind f) f.message
        | .ok c => coinMap c total).exec (run (k + 1)) w := by
  have number (x : Float) (read : readFloat? (amountChars text) = some x) (real : x.isNaN = false) :
      Coins.parse text = (Coins.ofGold? x).elim (.error .unbounded) .ok := by
    simp only [Coins.parse, Coins.ofChars, read, real]
    cases Coins.ofGold? x <;> rfl
  refine ⟨⟨fun failed => ⟨fun x read => ?_, fun ws row => ?_⟩, fun ⟨noNumber, noRow⟩ => ?_⟩, number,
    fun ws row => row.ofChars, exec_coinsOf text⟩
  · by_contra real
    rw [number x read (by simpa using real)] at failed
    cases gold : Coins.ofGold? x <;> rw [gold] at failed <;> cases failed
  · rw [Coins.parse, row.ofChars, Coins.ofRow] at failed
    split at failed <;> cases failed
  · have unread : coinRow? (amountChars text) ((amountChars text).length + 1) = none := by
      rw [Option.eq_none_iff_forall_ne_some]
      exact fun ws read => noRow ws ((coinRow?_iff _ (Nat.lt_succ_self _)).mp read)
    simp only [Coins.parse, Coins.ofChars, unread]
    split
    · rfl
    · next x read => rw [if_pos (noNumber x read)]

theorem IsRow.total (row : IsRow s ws) (short : ∀ w ∈ ws, w.isLong = false) : Coins.ofChars s = .ok (total ws) := by
  rw [row.ofChars, ofRow, find?_eq_none.mpr (by simpa using short)]

theorem total_append (ws us : List CoinWord) : total (ws ++ us) = (total ws).plus (total us) := by
  induction ws with
  | nil => simp [total, plus]
  | cons w ws ih =>
    have assoc (a b c : Coins) : a.plus (b.plus c) = (a.plus b).plus c := by simp [plus, Int.add_assoc]
    exact (congrArg w.worth.plus ih).trans (assoc _ _ _)

theorem total_perm (same : ws.Perm us) : total ws = total us := by
  have swap (v w : CoinWord) (c : Coins) : v.worth.plus (w.worth.plus c) = w.worth.plus (v.worth.plus c) := by
    simp [plus, Int.add_left_comm]
  exact same.foldr_eq' (fun v _ w _ c => swap w v c) _

/-- **Rows that are put together add up, in whatever order their words stand.** -/
theorem parse_append {s t : String} (first : IsRow (amountChars s) ws) (second : IsRow (amountChars t) us)
    (short : ∀ w ∈ ws ++ us, w.isLong = false) :
    Coins.parse s = .ok (Coins.total ws) ∧ Coins.parse t = .ok (Coins.total us) ∧
      Coins.parse (s ++ t) = .ok ((Coins.total ws).plus (Coins.total us)) ∧
      (∀ v vs, IsRow (amountChars v) vs → vs.Perm (ws ++ us) → Coins.parse v = Coins.parse (s ++ t)) ∧
      ∀ g total k w, (coinsOf .ask (.str (s ++ t) g) (.bool total)).exec (run (k + 1)) w =
        (coinMap ((Coins.total ws).plus (Coins.total us)) total).exec (run (k + 1)) w := by
  have both : amountChars (s ++ t) = amountChars s ++ amountChars t := by simp [amountChars]
  have sum : Coins.parse (s ++ t) = .ok (Coins.total (ws ++ us)) := by
    rw [Coins.parse, both]
    exact (first.append second).total short
  rw [← total_append]
  refine ⟨first.total fun w member => short w (mem_append_left _ member),
    second.total fun w member => short w (mem_append_right _ member), sum, fun v vs row same => ?_, fun g total k w => ?_⟩
  · exact (row.total fun w member => short w (same.mem_iff.mp member)).trans (total_perm same ▸ sum.symm)
  · rw [exec_coinsOf, sum]

theorem parse_append_gold : Coins.parse ("10cp " ++ "-2 GP") = .ok (Coins.plus { cp := 10 } { gp := -2 }) := by
  have first : IsRow (amountChars "10cp ") [⟨'c', false, ['1', '0']⟩] :=
    .last (.word [] ['1', '0'] [] [' '] 'c' 'p' 'c' (.inl rfl) (by simp) (all_eq_true.mp rfl) (all_eq_true.mp rfl)
      rfl (.inl rfl))
  have second : IsRow (amountChars "-2 GP") [⟨'g', true, ['2']⟩] :=
    .last (.word ['-'] ['2'] [' '] [] 'G' 'P' 'g' (.inr (.inr rfl)) (by simp) (all_eq_true.mp rfl) (all_eq_true.mp rfl)
      rfl (.inr rfl))
  exact (parse_append first second (by decide +kernel)).2.2.1

end AliasTools.Sheet
