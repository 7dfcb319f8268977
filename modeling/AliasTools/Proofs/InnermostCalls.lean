import AliasTools.Editor.FunctionHelp
import Mathlib.Logic.Relation

/-!
# The call that help is given for

Of the calls around the cursor, help is given for one that no other of them stands in.
-/

namespace AliasTools.Editor

open Syntax Relation

variable {d e : Nat} {n : Node} {c : CallSite} {p : Place} {body : List Stmt}

def CallSite.node (c : CallSite) : Node := .expr (.call c.sp c.func c.args c.keywords)

def IsChild (m n : Node) : Prop := m ∈ n.children

/-- How many calls stand around what is directly below a node. -/
def depthBelow (d : Nat) : Node → Nat
  | .expr (.call _ _ _ _) => d + 1
  | _ => d

theorem mem_callsBelow : (e, c) ∈ callsBelow d n ↔
      e = d ∧ n = c.node ∨ ∃ m, IsChild m n ∧ (e, c) ∈ callsBelow (depthBelow d n) m := by
  rw [callsBelow.eq_def]
  split
  · next sp f args ks =>
    have here : c = ⟨sp, f, args, ks⟩ ↔ Node.expr (.call sp f args ks) = c.node := by
      cases c
      simp [CallSite.node, eq_comm]
    simp [here, IsChild, depthBelow, Node.children]
  · next other =>
    have elsewhere : n ≠ c.node := other _ _ _ _
    simp [elsewhere, IsChild, depthBelow]

theorem exists_mem_callsBelow (inside : ReflTransGen IsChild c.node n) (d : Nat) :
    ∃ e ≥ d, (e, c) ∈ callsBelow d n := by
  induction inside generalizing d with
  | refl => exact ⟨d, Nat.le_refl d, mem_callsBelow.2 (.inl ⟨rfl, rfl⟩)⟩
  | @tail m n _ child ih =>
    obtain ⟨e, deep, found⟩ := ih (depthBelow d n)
    have deeper : d ≤ depthBelow d n := by unfold depthBelow; split <;> omega
    exact ⟨e, Nat.le_trans deeper deep, mem_callsBelow.2 (.inr ⟨m, child, found⟩)⟩

/-- What is found stands inside, and what stands inside it is found deeper. -/
theorem nested_of_mem_callsBelow {d : Nat} {n : Node} (found : (e, c) ∈ callsBelow d n) :
    ReflTransGen IsChild c.node n ∧
      ∀ c' : CallSite, TransGen IsChild c'.node c.node → ∃ e' > e, (e', c') ∈ callsBelow d n := by
  rcases mem_callsBelow.1 found with ⟨rfl, rfl⟩ | ⟨m, child, found⟩
  · refine ⟨.refl, fun c' nested => ?_⟩
    obtain ⟨m, inside, child⟩ := TransGen.tail'_iff.1 nested
    obtain ⟨e', deep, found⟩ := exists_mem_callsBelow inside (e + 1)
    exact ⟨e', deep, mem_callsBelow.2 (.inr ⟨m, child, found⟩)⟩
  · obtain ⟨inside, deeper⟩ := nested_of_mem_callsBelow found
    refine ⟨inside.tail child, fun c' nested => ?_⟩
    obtain ⟨e', deep, found⟩ := deeper c' nested
    exact ⟨e', deep, mem_callsBelow.2 (.inr ⟨m, child, found⟩)⟩
termination_by sizeOf n
decreasing_by exact Node.sizeOf_lt_of_mem_children child

theorem callAt?_eq_some (found : callAt? body p = some c) :
    (∃ s ∈ body, ReflTransGen IsChild c.node (.stmt s)) ∧ p.within c.sp = true ∧
      ∀ c' : CallSite, TransGen IsChild c'.node c.node → p.within c'.sp = false := by
  have deepest (l : List (Nat × CallSite)) (best b) (last : l.foldl deeper best = some b) :
      (b ∈ l ∨ best = some b) ∧ (∀ x ∈ l, x.1 ≤ b.1) ∧ ∀ x, best = some x → x.1 ≤ b.1 := by
    induction l generalizing best with
    | nil => simp_all
    | cons x l ih => rcases best with _ | ⟨d, b'⟩ <;> grind [deeper]
  obtain ⟨⟨e, c⟩, last, rfl⟩ := Option.map_eq_some_iff.1 found
  obtain ⟨listed, most, -⟩ := deepest _ none _ last
  obtain ⟨listed, within⟩ := List.mem_filter.1 (listed.resolve_right (by simp))
  obtain ⟨s, member, listed⟩ := List.mem_flatMap.1 listed
  obtain ⟨inside, below⟩ := nested_of_mem_callsBelow listed
  refine ⟨⟨s, member, inside⟩, within, fun c' nested => Bool.eq_false_iff.2 fun around => ?_⟩
  obtain ⟨e', deep, listed⟩ := below c' nested
  have : e' ≤ e := most (e', c') (List.mem_filter.2 ⟨List.mem_flatMap.2 ⟨s, member, listed⟩, around⟩)
  omega

theorem CallSite.activeParam_lt (c : CallSite) (p : Place) (params : List String) :
    c.activeParam p params < max 1 params.length := by
  unfold activeParam
  grind

/-- **Help is given for an innermost call around the cursor**, one of a bare name; the parameter is one of the
    function, if it has any. -/
theorem callHelp?_innermost {code : String} {line character : Int} {fs : List FunctionHelp} {f : FunctionHelp}
    {i : Nat} (given : callHelp? code line character fs = some (f, i)) :
    ∃ (body : List Stmt) (s : Stmt) (c : CallSite) (sp : Span) (use : NameUse),
      (parseScript code false).toOption = some body ∧ s ∈ body ∧ ReflTransGen IsChild c.node (.stmt s) ∧ f ∈ fs ∧
      c.func = .name sp f.name use ∧ Place.within (line, character) c.sp = true ∧
      (∀ c' : CallSite, TransGen IsChild c'.node c.node → Place.within (line, character) c'.sp = false) ∧
      i < max 1 f.params.length := by
  obtain ⟨body, read, given⟩ := Option.bind_eq_some_iff.1 given
  obtain ⟨c, found, given⟩ := Option.bind_eq_some_iff.1 given
  obtain ⟨⟨s, member, inside⟩, within, innermost⟩ := callAt?_eq_some found
  split at given
  · next sp name use func =>
    obtain ⟨_, listed, given⟩ := Option.bind_eq_some_iff.1 given
    cases given
    have named : f.name = name := by simpa using List.find?_some listed
    exact ⟨body, s, c, sp, use, read, member, inside, List.mem_reverse.1 (List.mem_of_find?_eq_some listed),
      named ▸ func, within, innermost, c.activeParam_lt ..⟩
  · cases given

theorem callHelp?_innermost_nested :
    callHelp? "len(abs(x))" 0 8 [⟨"len", ["obj"], ""⟩, ⟨"abs", ["x"], ""⟩] = some (⟨"abs", ["x"], ""⟩, 0) ∧
      ∃ c : CallSite, Place.within (0, 8) c.sp = true ∧
        ∀ c' : CallSite, TransGen IsChild c'.node c.node → Place.within (0, 8) c'.sp = false := by
  have given : callHelp? "len(abs(x))" 0 8 [⟨"len", ["obj"], ""⟩, ⟨"abs", ["x"], ""⟩] =
      some (⟨"abs", ["x"], ""⟩, 0) := by decide +kernel
  obtain ⟨_, _, c, _, _, -, -, -, -, -, within, innermost, -⟩ := callHelp?_innermost given
  exact ⟨given, c, within, innermost⟩

end AliasTools.Editor
