import AliasTools.Editor.Review

/-!
# Which calls are reported

A call is reported by the number of its positional arguments alone.  Of the calls that fit a signature it
reports those that give a needed argument by its name.
-/

namespace AliasTools.Script

/-- The parameters that can be given by their place. -/
def Signature.placed (s : Signature) : List Parameter := s.params.filter (·.kind != .keyword)

/-- A call with so many positional arguments, and others under names, fits a signature. -/
structure Signature.Accepts (s : Signature) (given : Nat) (names : List String) : Prop where
  distinct : names.Nodup
  room : s.rest = true ∨ given ≤ s.placed.length
  known : ∀ n ∈ names, s.named = true ∨ ∃ p ∈ s.params, p.name = n ∧ p.kind ≠ .positional
  once : ∀ p ∈ s.placed.take given, p.kind ≠ .positional → p.name ∉ names
  filled : ∀ p ∈ s.placed.drop given, p.default = none → p.kind ≠ .positional ∧ p.name ∈ names
  filledByName : ∀ p ∈ s.params, p.kind = .keyword → p.default = none → p.name ∈ names

end AliasTools.Script

namespace AliasTools.Editor

open Script

variable {s : Signature} {given : Nat} {names : List String}

def neededCount (s : Signature) : Nat := (s.placed.filter (·.default.isNone)).length

theorem callForms_needed_first : ∀ s ∈ callForms, (∀ p ∈ s.placed.take (neededCount s), p.default.isNone = true) ∧
      ∀ p ∈ s.placed.drop (neededCount s), p.default.isSome = true := by
  decide +kernel

/-- **A call that fits a signature is reported just if it gives a needed argument by its name.** -/
theorem fitsCount_iff_by_place (listed : s ∈ callForms) (accepted : s.Accepts given names) :
    fitsCount s given = true ↔
      ∀ p ∈ s.placed, p.default = none → p.kind ≠ .positional → p.name ∉ names := by
  obtain ⟨needed, optional⟩ := callForms_needed_first s listed
  have counted : fitsCount s given = true ↔ neededCount s ≤ given := by
    rw [fitsCount, Bool.and_eq_true, Bool.or_eq_true, decide_eq_true_eq, decide_eq_true_eq]
    exact and_iff_left accepted.room
  rw [counted]
  constructor
  · intro enough p placed default named
    rw [← List.take_append_drop given s.placed, List.mem_append] at placed
    rcases placed with first | later
    · exact accepted.once p first named
    · have := optional p ((List.drop_sublist_drop_left _ enough).subset later)
      simp [default] at this
  · intro unnamed
    refine Nat.le_of_not_lt fun few => ?_
    have inside : given < s.placed.length := by
      have : neededCount s ≤ s.placed.length := List.length_filter_le _ _
      omega
    have default := needed s.placed[given] (List.mem_take_iff_getElem.2 ⟨given, by omega, rfl⟩)
    obtain ⟨named, here⟩ := accepted.filled s.placed[given] (List.mem_drop_iff_getElem.2 ⟨0, by omega, rfl⟩)
      (Option.isNone_iff_eq_none.1 default)
    exact unnamed _ (List.getElem_mem inside) (Option.isNone_iff_eq_none.1 default) named here

/-- `vroll('1d6', add=2)` -/
theorem fitsCount_iff_by_place_roll :
    let s : Signature := ⟨"vroll", [needed "dice", optional "multiply" (.int 1), optional "add" (.int 0)], false, false⟩
    s ∈ callForms ∧ s.Accepts 1 ["add"] ∧
      (fitsCount s 1 = true ↔ ∀ p ∈ s.placed, p.default = none → p.kind ≠ .positional → p.name ∉ ["add"]) := by
  intro s
  have listed : s ∈ callForms := List.mem_of_getElem? (i := 12) rfl
  have accepted : s.Accepts 1 ["add"] := by constructor <;> decide
  exact ⟨listed, accepted, fitsCount_iff_by_place listed accepted⟩

/-- `get_svar(name='x')` fits its signature and is reported. -/
theorem argument_by_name_reported :
    ∃ s ∈ callForms, s.label = "get_svar" ∧ s.Accepts 0 ["name"] ∧ fitsCount s 0 = false := by
  refine ⟨_, List.mem_of_getElem? (i := 24) rfl, rfl, ?_, rfl⟩
  constructor <;> decide

end AliasTools.Editor
