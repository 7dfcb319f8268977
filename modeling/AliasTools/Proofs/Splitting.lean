import Mathlib
import AliasTools.Proofs.Quoting

/-!
# Cutting a line into words

A line without quotes is cut at its blanks.  Any other line is cut unless a quote stays open: one that no
quote closes behind it, or a closing quote inside a word, which no quote can close.
-/

namespace AliasTools.Command

open Text List

variable {c : Char} {q : Quoting} {acc s t w after : List Char} {done ws : List (List Char)} {u : Unclosed}
  {close : Option Char}

theorem readWord_of_quoteless (plain : ∀ c ∈ s, isQuote c = false) (acc : List Char) :
    readWord .outside acc s = .ok (acc.reverse ++ s.takeWhile (!isBlank ·), s.dropWhile (!isBlank ·)) := by
  induction s generalizing acc with
  | nil => simp [readWord_end]
  | cons c s ih =>
    rw [forall_mem_cons] at plain
    have ih := ih plain.2 (c :: acc)
    by_cases slash : c = '\\'
    · subst slash
      have kept : readWord .outside acc ('\\' :: s) = readWord .outside ('\\' :: acc) s := by
        rw [readWord_slash]
        cases s with
        | nil => rfl
        | cons n s => simp [Quoting.escapes, plain.2 n (.head _)]
      rw [kept, ih]
      simp [show isBlank '\\' = false by decide]
    · rw [readWord_outside slash, plain.1]
      cases blank : isBlank c <;> simp [blank, ih]

theorem closingOf_of_quoteless (plain : isQuote c = false) : closingOf c = none := by
  rw [closingOf, lookup_eq_none_iff]
  intro p listed
  have other := any_eq_false.1 plain p listed
  rw [Bool.or_eq_true, not_or] at other
  exact bne_iff_ne.2 fun same => other.1 (beq_iff_eq.2 same.symm)

theorem dropWhile_blank (first : s.dropWhile isBlank = c :: t) :
    isBlank c = false ∧ ∃ blanks, s = blanks ++ c :: t := by
  have black := head?_dropWhile_not isBlank s
  rw [first] at black
  exact ⟨by simpa using black, _, first ▸ (takeWhile_append_dropWhile).symm⟩

theorem wordsFrom_of_quoteless (plain : ∀ c ∈ s, isQuote c = false) (done : List (List Char)) (k : Nat) :
    wordsFrom done s k = .ok (words none done s k) := by
  induction k generalizing done s with
  | zero => rfl
  | succ k ih =>
    rw [wordsFrom, words]
    cases first : s.dropWhile isBlank with
    | nil => rfl
    | cons c t =>
      obtain ⟨black, blanks, rfl⟩ := dropWhile_blank first
      rw [forall_mem_append, forall_mem_cons] at plain
      simp only [closingOf_of_quoteless plain.2.1, readWord_of_quoteless plain.2.2]
      rw [ih fun d listed => plain.2.2 d ((dropWhile_sublist _).subset listed)]
      simp [black]

/-- **A line without quotes is cut at its blanks**, as a text that is split without a separator. -/
theorem splitWords_of_quoteless (line : String) (plain : line.toList.any isQuote = false) :
    splitWords line =
      .ok ((words none [] line.toList (line.toList.length + 1)).map String.ofList) := by
  rw [splitWords, wordsFrom_of_quoteless fun c listed => Bool.eq_false_iff.2 (List.any_eq_false.1 plain c listed)]
  rfl

theorem splitWords_of_quoteless_slash :
    " -t a\\　b\\ ".toList.any isQuote = false ∧ splitWords " -t a\\　b\\ " = .ok ["-t", "a\\", "b\\"] := by
  have plain : " -t a\\　b\\ ".toList.any isQuote = false := by decide +kernel
  exact ⟨plain, (splitWords_of_quoteless _ plain).trans (congrArg _ (by decide +kernel))⟩

/-- Every closing quote in `s` stands directly behind a backslash, where `p` stands in front of `s`. -/
def unanswered (close : Option Char) (p : Char) : List Char → Bool
  | [] => true
  | c :: s => (p == '\\' || c == '\\' || close != some c) && unanswered close c s

/-- A quote that a text leaves open: one with a closing quote, or inside a word any but an apostrophe. -/
def LeavesOpen (close : Option Char) (s : List Char) : Prop :=
  ∃ x o y, s = x ++ o :: y ∧ close = closingOf o ∧ (close = none → isQuote o && !isApostrophe o) ∧ unanswered close o y

theorem LeavesOpen.behind (x : List Char) (later : LeavesOpen close s) : LeavesOpen close (x ++ s) := by
  obtain ⟨x', o, y, rfl, rest⟩ := later
  exact ⟨x ++ x', o, y, by simp, rest⟩

theorem leavesOpen_of_readWord (failed : readWord q acc s = .error u) :
    (∃ o, q = .inside o u.closing ∧ ∀ p, unanswered u.closing p s) ∨ LeavesOpen u.closing s := by
  fun_induction readWord q acc s with
  | case1 | case7 | case9 | case10 => cases failed
  | case2 =>
    cases failed
    exact .inl ⟨_, rfl, fun _ => rfl⟩
  | case3 q acc c slash ih | case12 acc c rest slash o close closed ih =>
    refine (ih failed).imp ?_ (.behind [c])
    rintro ⟨o, at_o, _⟩
    exact ⟨o, at_o, by simp_all [unanswered]⟩
  | case4 q acc c slash n after escapes ih =>
    refine (ih failed).imp ?_ (.behind [c, n])
    rintro ⟨o, at_o, _⟩
    exact ⟨o, at_o, by simp_all [unanswered]⟩
  | case5 q acc c slash n after escapes ih =>
    refine (ih failed).imp ?_ (.behind [c])
    rintro ⟨o, at_o, later⟩
    exact ⟨o, at_o, fun p => by rw [unanswered, later c, slash]; simp⟩
  | case6 acc c rest slash opens ih =>
    obtain ⟨o, at_o, later⟩ | later := ih failed
    · obtain ⟨rfl, same⟩ := Quoting.inside.inj at_o
      exact .inr ⟨[], c, rest, rfl, same.symm, fun _ => opens, later c⟩
    · exact .inr (later.behind [c])
  | case8 acc c rest slash opens blank ih | case11 acc c slash o close closed n after blank ih =>
    exact (ih failed).imp (by simp) (.behind [c])

theorem leavesOpen_of_wordsFrom (failed : wordsFrom done s k = .error u) : LeavesOpen u.closing s := by
  induction k generalizing done s with
  | zero => cases failed
  | succ k ih =>
    rw [wordsFrom] at failed
    cases first : s.dropWhile isBlank with
    | nil => simp [first] at failed
    | cons c t =>
      obtain ⟨-, blanks, rfl⟩ := dropWhile_blank first
      rw [first] at failed
      refine .behind blanks ?_
      dsimp only at failed
      split at failed
      · next word =>
        cases failed
        split at word
        · next close opened =>
          obtain ⟨o, at_o, later⟩ | later := leavesOpen_of_readWord word
          · obtain ⟨rfl, same⟩ := Quoting.inside.inj at_o
            exact ⟨[], c, t, rfl, same ▸ opened.symm, by simp [← same], later c⟩
          · exact later.behind [c]
        · exact ((leavesOpen_of_readWord word).resolve_left (by simp)).behind [c]
      · next after word =>
        obtain ⟨used, rfl⟩ : after <:+ t := by split at word <;> exact suffix_of_readWord word
        exact (ih failed).behind (c :: used)

/-- **A line is cut into words unless it leaves a quote open**, which is then the one that is missed. -/
theorem splitWords_error_leavesOpen (line : String) (u : Unclosed) (failed : splitWords line = .error u) :
    LeavesOpen u.closing line.toList := by
  rw [splitWords] at failed
  cases words : wordsFrom [] line.toList (line.toList.length + 1) with
  | ok ws => rw [words] at failed; cases failed
  | error u' =>
    rw [words] at failed
    cases failed
    exact leavesOpen_of_wordsFrom words

theorem splitWords_error_leavesOpen_escaped :
    splitWords "x„y\\‟ z" = .error ⟨some '‟'⟩ ∧ LeavesOpen (some '‟') "x„y\\‟ z".toList := by
  have failed : splitWords "x„y\\‟ z" = .error ⟨some '‟'⟩ := by cbv
  exact ⟨failed, splitWords_error_leavesOpen _ _ failed⟩

/-- A closing quote inside a word is missed although no quote opens anything. -/
theorem closing_quote_opens :
    splitWords "a”b" = .error ⟨none⟩ ∧ "a”b".toList.all fun c => (closingOf c).isNone :=
  ⟨by cbv, by decide +kernel⟩

end AliasTools.Command
