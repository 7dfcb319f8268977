import AliasTools.Proofs.Outcomes
import AliasTools.Trial.Outcome

/-!
# Partial matches

A mapping is expected by some of its keys and a list by its first items, so that what fits still fits when more is put
into it.  What does not fit is told part by part, with a mark for a part that is missing.  The mark is a text, and
an expectation may well fit it.
-/

namespace AliasTools.Trial

open Script Workspace Datum List

variable {e a b : Datum} {es as : List (Label × Datum)} {xs ys : List Datum} {d : Datum × Datum}

/-! ## 1. What fits -/

theorem fitsEntries_iff : fitsEntries es as = true ↔ ∀ x ∈ es, ∃ a, find? x.1.key as = some a ∧ fits x.2 a = true := by
  induction es with
  | nil => simp [fitsEntries]
  | cons x es ih =>
    obtain ⟨l, e⟩ := x
    rw [fitsEntries, Bool.and_eq_true, ih, forall_mem_cons]
    cases find? l.key as <;> simp

theorem fitsItems_iff : fitsItems xs ys = true ↔
    ∀ (i : Nat) (x : Datum), xs[i]? = some x → ∃ y, ys[i]? = some y ∧ fits x y = true := by
  induction xs generalizing ys with
  | nil => simp [fitsItems]
  | cons x xs ih =>
    -- the first position is the head's, the others are those of the tail
    have split (p : Nat → Prop) : (∀ i, p i) ↔ p 0 ∧ ∀ i, p (i + 1) :=
      ⟨fun all => ⟨all 0, fun i => all (i + 1)⟩, fun ⟨zero, succ⟩ i => by cases i <;> simp_all⟩
    rw [split]
    cases ys with
    | nil => simp [fitsItems]
    | cons y ys => simp [fitsItems, ih]

theorem find?_append (k : Key) (as new : List (Label × Datum)) :
    find? k (as ++ new) = (find? k as).or (find? k new) := by
  induction as with
  | nil => rfl
  | cons x as ih =>
    rw [cons_append, Datum.find?, Datum.find?, ih]
    split <;> rfl

/-! ## 2. More than was there -/

/-- Where `a` is compared with `e`, more is put into it: keys into a mapping, items behind those of a list, anywhere
    in the tree. -/
inductive Grows : Datum → Datum → Datum → Prop where
  | newKeys (s t es as new) : Grows (.map s es) (.map t as) (.map t (as ++ new))
  | newItems (s t es as new) : Grows (.list s false es) (.list t false as) (.list t false (as ++ new))
  | atKey {s t es} (before l after) {a b} (inner : ∀ x ∈ es, x.1.key = l.key → Grows x.2 a b) :
    Grows (.map s es) (.map t (before ++ (l, a) :: after)) (.map t (before ++ (l, b) :: after))
  | atItem {s t es as i a b} (there : as[i]? = some a) (inner : ∀ e, es[i]? = some e → Grows e a b) :
    Grows (.list s false es) (.list t false as) (.list t false (as.set i b))
  | trans {e a b c} (first : Grows e a b) (second : Grows e b c) : Grows e a c

/-- **What fits still fits when more is put into it.** -/
theorem fits_of_grows {e a b : Datum} (grows : Grows e a b) (fit : fits e a = true) : fits e b = true := by
  induction grows with
  | newKeys s t es as new =>
    rw [fits, fitsEntries_iff] at fit ⊢
    intro x asked
    obtain ⟨a, found, fit⟩ := fit x asked
    exact ⟨a, by rw [find?_append, found, Option.some_or], fit⟩
  | newItems s t es as new =>
    rw [fits, fitsItems_iff] at fit ⊢
    intro i x asked
    obtain ⟨a, found, fit⟩ := fit i x asked
    have inside : i < as.length := (List.getElem?_eq_some_iff.1 found).1
    exact ⟨a, by rw [List.getElem?_append_left inside, found], fit⟩
  | @atKey s t es before l after a b inner ih =>
    rw [fits, fitsEntries_iff] at fit ⊢
    intro x asked
    obtain ⟨y, found, fit⟩ := fit x asked
    rw [find?_append, Datum.find?] at found ⊢
    cases earlier : Datum.find? x.1.key before with
    | some z =>
      rw [earlier] at found
      exact ⟨y, found, fit⟩
    | none =>
      rw [earlier, Option.none_or] at found
      rw [Option.none_or]
      split at found
      · next same =>
        cases found
        exact ⟨b, if_pos same, ih x asked (eq_of_beq same).symm fit⟩
      · next other => exact ⟨y, by rw [if_neg other, found], fit⟩
  | @atItem s t es as i a b there inner ih =>
    rw [fits, fitsItems_iff] at fit ⊢
    intro j x asked
    obtain ⟨y, found, fit⟩ := fit j x asked
    rw [List.getElem?_set]
    split
    · next same =>
      subst same
      cases there.symm.trans found
      have inside : i < as.length := (List.getElem?_eq_some_iff.1 there).1
      exact ⟨b, if_pos inside, ih x asked fit⟩
    · exact ⟨y, found, fit⟩
  | trans _ _ first second => exact second (first fit)

/-- A field, with the number one for a name. -/
def namedOne (more : List (Label × Datum)) : Datum :=
  .map none ((⟨.str "name", .str "name" false, "'name'"⟩, .whole (.int 1) (some (.int 1)) "1" "1") :: more)

theorem fits_of_grows_fields :
    let fields (ds : List Datum) : List (Label × Datum) := [(⟨.str "fields", .str "fields" false, "'fields'"⟩, .list none false ds)]
    let more : List (Label × Datum) := [(⟨.str "inline", .str "inline" false, "'inline'"⟩, Datum.nothing)]
    fits (.map none (fields [namedOne []])) (.map none (fields [namedOne []])) = true ∧
      fits (.map none (fields [namedOne []])) (.map none (fields [namedOne more, Datum.nothing])) = true := by
  intro fields more
  have fit : fits (.map none (fields [namedOne []])) (.map none (fields [namedOne []])) = true := by decide
  refine ⟨fit, fits_of_grows (.atKey [] _ [] fun x asked _ => ?_) fit⟩
  cases List.mem_singleton.1 asked
  refine .trans (.newItems none none _ [namedOne []] [Datum.nothing]) ?_
  refine .atItem (i := 0) rfl fun e asked => ?_
  cases asked
  exact .newKeys none none _ _ more

/-! ## 3. What does not fit -/

/-- `Asks e a x y`: where `a` is compared with `e`, `x` is expected of a part, and `y` is there if anything is. -/
inductive Asks : Datum → Datum → Datum → Option Datum → Prop where
  | key {s t es as l x} (asked : (l, x) ∈ es) : Asks (.map s es) (.map t as) x (find? l.key as)
  | item {s t xs ys x} (i : Nat) (asked : xs[i]? = some x) : Asks (.list s false xs) (.list t false ys) x ys[i]?

/-- `Lacks e a x`: where `a` is compared with `e`, `x` is expected of a part and there is none, anywhere in the
    tree. -/
inductive Lacks : Datum → Datum → Datum → Prop where
  | here {e a x} (asks : Asks e a x none) : Lacks e a x
  | inside {e a b c x} (asks : Asks e a b (some c)) (inner : Lacks b c x) : Lacks e a x

/-- What is told of one part. -/
def Tells (e : Datum) (a : Option Datum) (d : Datum × Datum) : Prop :=
  match a with
  | none => d = (e, missing)
  | some a => mismatch? e a = some d

def ended {α : Type} : Script.Outcome α → Option (α × World)
  | .ok v w => some (v, w)
  | .error _ _ => none

end AliasTools.Trial
