import AliasTools.Workspace.Config
import AliasTools.Proofs.SharedVariables
import Mathlib.Data.List.TakeWhile

/-!
# Loading a configuration

References to the environment are expanded in one pass over each text, and the names that are missing are told.
-/

namespace AliasTools.Workspace

open Script Sheet Text List

/-- What a text begins with, up to the rest: a dollar sign, and a name as far as it goes or one in braces. -/
inductive Refers : List Char → List Char → List Char → Prop where
  | plain (full : name ≠ []) (inside : ∀ c ∈ name, isNameChar c = true)
    (ends : ∀ c ∈ rest.head?, isNameChar c = false) : Refers ('$' :: (name ++ rest)) name rest
  | braced (full : name ≠ []) (inside : ∀ c ∈ name, (c != '\x7d') = true) :
    Refers ('$' :: '\x7b' :: (name ++ '\x7d' :: rest)) name rest

/-- What a text becomes, and the names in it that are missing: a character stays where no reference begins. -/
inductive Reads (env : List (String × String)) : List Char → List Char → List String → Prop where
  | nil : Reads env [] [] []
  | found (refers : Refers s name rest) (value : env.lookup (.ofList name) = some v)
    (more : Reads env rest out ms) : Reads env s (v.toList ++ out) ms
  | missing (refers : Refers s name rest) (value : env.lookup (.ofList name) = none)
    (more : Reads env rest out ms) : Reads env s out (.ofList name :: ms)
  | char (none : ∀ name rest, ¬ Refers (c :: s) name rest) (more : Reads env s out ms) :
    Reads env (c :: s) (c :: out) ms

variable {s name rest : List Char} {n : Nat} {c : Char}

theorem split_takeWhile (p : Char → Bool) (s : List Char) : ∃ name rest, s = name ++ rest ∧
    s.takeWhile p = name ∧ (∀ c ∈ name, p c = true) ∧ ∀ c ∈ rest.head?, p c = false := by
  refine ⟨_, s.dropWhile p, takeWhile_append_dropWhile.symm, rfl, fun c => mem_takeWhile_imp,
    fun c first => ?_⟩
  have stops := head?_dropWhile_not p s
  rw [first] at stops
  exact stops

theorem refers_of_reference? (found : reference? (c :: s) = some (name, n)) : Refers (c :: s) name (s.drop n) := by
  unfold reference? at found
  split at found
  · next r whole =>
    cases whole
    obtain ⟨name, rest, rfl, taken, inside, ends⟩ := split_takeWhile (· != '\x7d') r
    rw [taken] at found
    obtain ⟨full, ⟨⟩⟩ := Option.ite_none_left_eq_some.1 found
    cases rest with
    | nil => simp at full
    | cons d rest =>
      obtain rfl : d = '\x7d' := by simpa using ends
      have braced : Refers ('$' :: '\x7b' :: (name ++ '\x7d' :: rest)) name rest := .braced (by simp_all) inside
      simpa using braced
  · next whole =>
    cases whole
    obtain ⟨name, rest, rfl, taken, inside, ends⟩ := split_takeWhile isNameChar s
    rw [taken] at found
    obtain ⟨full, ⟨⟩⟩ := Option.ite_none_left_eq_some.1 found
    rw [drop_left]
    exact .plain (by simpa using full) inside ends
  · cases found

theorem Refers.reference_ne_none (refers : Refers s name rest) : reference? s ≠ none := by
  cases refers with
  | plain full inside ends =>
    cases name with
    | nil => exact absurd rfl full
    | cons c name =>
      have first : isNameChar c = true := inside c (by simp)
      have other : c ≠ '\x7b' := by
        rintro rfl
        cases first
      simp [reference?, other, first]
  | braced full inside => simp [reference?, takeWhile_append_of_pos inside, full]

theorem reads_expandText (env : List (String × String)) (s : List Char) :
    Reads env s (expandText env s).1 (expandText env s).2 := by
  fun_induction expandText env s with
  | case1 => exact .nil
  | case2 c s name n found out missing more v value ih =>
    rw [more] at ih
    exact .found (refers_of_reference? found) value ih
  | case3 c s name n found out missing more value ih =>
    rw [more] at ih
    exact .missing (refers_of_reference? found) value ih
  | case4 c s none out missing more ih =>
    rw [more] at ih
    exact .char (fun _ _ refers => refers.reference_ne_none none) ih

/-- A value with its texts expanded, and the names that were missing. -/
inductive Expanded (env : List (String × String)) : Json → Json → List String → Prop where
  | text {s : String} (reads : Reads env s.toList out ms) : Expanded env (.str s) (.str (.ofList out)) ms
  | other (leaf : j.text? = none ∧ j.items = [] ∧ j.fields = []) : Expanded env j j []
  | item (first : Expanded env x x' m) (more : Expanded env (.arr xs) (.arr xs') ms) :
    Expanded env (.arr (x :: xs)) (.arr (x' :: xs')) (m ++ ms)
  | field (n : String) (first : Expanded env x x' m) (more : Expanded env (.obj fs) (.obj fs') ms) :
    Expanded env (.obj ((n, x) :: fs)) (.obj ((n, x') :: fs')) (m ++ ms)

section

variable (env : List (String × String))

mutual

theorem expanded_env (j : Json) : Expanded env j (expandEnv env j).1 (expandEnv env j).2 := by
  cases j with
  | str s => exact .text (reads_expandText env s.toList)
  | arr xs => exact expanded_items xs
  | obj fs => exact expanded_fields fs
  | _ => exact .other ⟨rfl, rfl, rfl⟩

theorem expanded_items (xs : List Json) :
    Expanded env (.arr xs) (.arr (expandItems env xs).1) (expandItems env xs).2 := by
  cases xs with
  | nil => exact .other ⟨rfl, rfl, rfl⟩
  | cons x xs => exact .item (expanded_env x) (expanded_items xs)

theorem expanded_fields (fs : List (String × Json)) :
    Expanded env (.obj fs) (.obj (expandFields env fs).1) (expandFields env fs).2 := by
  cases fs with
  | nil => exact .other ⟨rfl, rfl, rfl⟩
  | cons f fs => exact .field f.1 (expanded_env f.2) (expanded_fields fs)

end

end

variable {files : Files} {root : Path} {text : String}

end AliasTools.Workspace
