import AliasTools.Command.Placeholder

/-!
# Putting texts in the place of others

A text is read from left to right; where something begins that is to be replaced, something else is put in
its place and reading goes on behind it (`substitute`).  Replacing a piece and filling in numbered
placeholders are both of this form, so that what is known of one is known of the other.
-/

namespace AliasTools.Text

/-- What is to be replaced at the front of a text: what to put in its place, and how long it is. -/
abbrev Finder := List Char → Option (List Char × Nat)

/-- Replace all that is found from left to right; `skip` counts characters of what was found last that are
    still to be passed. -/
def substituteFrom (find : Finder) (skip : Nat) : List Char → List Char
  | [] => []
  | c :: rest =>
    match skip with
    | k + 1 => substituteFrom find k rest
    | 0 =>
      match find (c :: rest) with
      | some (new, n) => new ++ substituteFrom find (n - 1) rest
      | none => c :: substituteFrom find 0 rest

def substitute (find : Finder) (s : List Char) : List Char := substituteFrom find 0 s

variable {find : Finder}

theorem substituteFrom_eq (find : Finder) (skip : Nat) (s : List Char) :
    substituteFrom find skip s = substitute find (s.drop skip) := by
  induction s generalizing skip with
  | nil => simp [substitute, substituteFrom]
  | cons c rest ih =>
    cases skip with
    | zero => rfl
    | succ k => rw [substituteFrom, ih, List.drop_succ_cons]

theorem substitute_found (found : find (c :: rest) = some (new, n)) :
    substitute find (c :: rest) = new ++ substitute find (rest.drop (n - 1)) := by
  rw [substitute, substituteFrom]
  simp only [found, substituteFrom_eq]

theorem substitute_other (other : find (c :: rest) = none) :
    substitute find (c :: rest) = c :: substitute find rest := by
  rw [substitute, substituteFrom]
  simp only [other, substitute]

def pieceFinder (old new : List Char) : Finder := fun s =>
  if old.isPrefixOf s then some (new, old.length) else none

theorem cutFrom_ne_nil (piece : List Char) (limit : Option Nat) (skip : Nat) (done : List (List Char))
    (acc s : List Char) : cutFrom piece limit skip done acc s ≠ [] := by
  fun_induction cutFrom piece limit skip done acc s <;> simp_all

theorem cutFrom_done (piece : List Char) (skip : Nat) (done : List (List Char)) (acc s : List Char) :
    cutFrom piece none skip done acc s = done.reverse ++ cutFrom piece none skip [] acc s := by
  induction s generalizing skip done acc with
  | nil => simp [cutFrom]
  | cons c rest ih =>
    cases skip with
    | succ k => exact ih k done acc
    | zero =>
      simp only [cutFrom]
      split
      · rw [Option.map_none, ih _ (acc.reverse :: done), ih _ [acc.reverse]]
        simp
      · exact ih 0 done (c :: acc)

theorem intercalate_cutFrom (piece new : List Char) (skip : Nat) (acc s : List Char) :
    new.intercalate (cutFrom piece none skip [] acc s) =
      acc.reverse ++ substituteFrom (pieceFinder piece new) skip s := by
  induction s generalizing skip acc with
  | nil => simp [cutFrom, substituteFrom]
  | cons c rest ih =>
    cases skip with
    | succ k => exact ih k acc
    | zero =>
      rw [cutFrom, substituteFrom]
      by_cases here : piece.isPrefixOf (c :: rest)
      · have more := List.exists_cons_of_ne_nil (cutFrom_ne_nil piece none (piece.length - 1) [] [] rest)
        obtain ⟨part, parts, cut⟩ := more
        have := ih (piece.length - 1) []
        rw [cut] at this
        rw [if_pos (by simp [here]), Option.map_none, cutFrom_done, cut]
        simp only [List.reverse_singleton, List.singleton_append, List.intercalate_cons_cons, this]
        simp [pieceFinder, here]
      · rw [if_neg (by simp [here]), ih]
        simp [pieceFinder, here]

theorem replacePiece_eq_substitute (new : List Char) (some_old : old ≠ [])
    (s : List Char) : replacePiece old new none s = substitute (pieceFinder old new) s := by
  rw [replacePiece, if_neg (by simpa using some_old), cutAtPiece, intercalate_cutFrom]
  rfl

end AliasTools.Text

namespace AliasTools.Command

open Text

def numberFinder (mark : Char) (f : Nat → List Char) : Finder
  | [] => none
  | c :: rest =>
    if c == mark then (numberedMark? mark rest).map fun (n, after) => (f n, rest.length - after.length + 1)
    else none

theorem fillNumbered_eq_substitute (mark : Char) (f : Nat → List Char) (acc : List Char) (skip : Nat) (s : List Char) :
    fillNumbered mark f acc skip s = acc.reverse ++ substituteFrom (numberFinder mark f) skip s := by
  induction s generalizing acc skip with
  | nil => simp [fillNumbered, substituteFrom]
  | cons c rest ih =>
    cases skip with
    | succ k => exact ih acc k
    | zero =>
      rw [fillNumbered, substituteFrom]
      by_cases here : c == mark
      · cases numbered : numberedMark? mark rest with
        | none => simp [numberFinder, numbered, ih]
        | some found => simp [numberFinder, here, numbered, ih]
      · simp [numberFinder, here, ih]

end AliasTools.Command
