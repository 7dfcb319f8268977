import AliasTools.Proofs.CallDepth
import Mathlib.Data.List.Induction

/-!
# The budget of a run

A run carries out no more nodes, no more rounds of loops and no more calls at a time than its limits
allow.  The counters run ahead of what they count, since a refusal is counted too; hence the bound is
carried along with the counters, and not read off them.
-/

namespace AliasTools.Script

open Syntax Event Eval

variable {w w' : World} {h : List Event} {e : Event}

/-! ## 1. What is counted -/

def Event.isNode : Event → Bool
  | .node _ => true
  | _ => false

def Event.isRound : Event → Bool
  | .round _ => true
  | _ => false

def Event.bodies : Event → Int
  | .entered (.body _ _) => 1
  | .left (.body _ _) => -1
  | _ => 0

def nodes (h : List Event) : Nat := h.countP isNode

def rounds (h : List Event) : Nat := h.countP isRound

def activeBodies (h : List Event) : Int := h.foldr (fun e n => e.bodies + n) 0

@[simp] theorem activeBodies_nil : activeBodies [] = 0 := rfl

@[simp] theorem activeBodies_cons (e : Event) (h : List Event) : activeBodies (e :: h) = e.bodies + activeBodies h :=
  rfl

@[simp] theorem activeBodies_append (h h' : List Event) :
    activeBodies (h ++ h') = activeBodies h + activeBodies h' := by
  induction h with
  | nil => exact (Int.zero_add _).symm
  | cons e h ih => exact (congrArg (e.bodies + ·) ih).trans (Int.add_assoc _ _ _).symm

/-! ## 2. What a run does to its counters -/

/-- A counter goes up with what it counts, and that fits between it and its limit. -/
structure Counts (counted : Event → Bool) (counter : World → Int) (most : Limits → Int) (w : World)
    (h : List Event) (w' : World) : Prop where
  grows : counter w + h.countP counted ≤ counter w'
  fits : h.countP counted = 0 ∨ counter w + h.countP counted ≤ most w.limits

structure Spends (w : World) (h : List Event) (w' : World) : Prop where
  limits : w'.limits = w.limits
  nodes : Counts isNode World.statements Limits.maxStatements w h w'
  rounds : Counts isRound World.loops Limits.maxLoops w h w'

section

variable {counted : Event → Bool} {counter : World → Int} {most : Limits → Int} {w'' : World} {h' : List Event}

theorem Counts.none (free : h.countP counted = 0) (grows : counter w ≤ counter w') :
    Counts counted counter most w h w' :=
  ⟨by rw [free]; simpa using grows, .inl free⟩

theorem Counts.append (first : Counts counted counter most w h w') (limits : w'.limits = w.limits)
    (second : Counts counted counter most w' h' w'') : Counts counted counter most w (h ++ h') w'' := by
  obtain ⟨grows, fits⟩ := first
  obtain ⟨grows', fits'⟩ := second
  rw [limits] at fits'
  constructor <;> rw [List.countP_append] <;> omega

theorem Spends.append (first : Spends w h w') (second : Spends w' h' w'') : Spends w (h ++ h') w'' :=
  ⟨second.limits.trans first.limits, first.nodes.append first.limits second.nodes,
    first.rounds.append first.limits second.rounds⟩

theorem Spends.around (inner : Spends v h v') (before : Spends w [first] v)
    (after : Spends v' [last] w') : Spends w (first :: h ++ [last]) w' :=
  (before.append inner).append after

theorem Spends.idle (free : h.countP isNode = 0 ∧ h.countP isRound = 0)
    (limits : w'.limits = w.limits) (statements : w.statements ≤ w'.statements) (loops : w.loops ≤ w'.loops) :
    Spends w h w' :=
  ⟨limits, .none free.1 statements, .none free.2 loops⟩

end

/-- At no time are there more bodies than calls. -/
def Nested (h : List Event) : Prop := ∀ p, p <+: h → activeBodies p ≤ openCalls p

theorem Nested.nil : Nested [] := by
  intro p part
  rw [List.prefix_nil.mp part]
  exact Int.le_refl _

theorem Nested.cons (few : e.bodies ≤ e.calls) (rest : Nested h) : Nested (e :: h) := by
  intro p part
  rcases List.prefix_cons_iff.mp part with rfl | ⟨q, rfl, inside⟩
  · exact Int.le_refl _
  · have := rest q inside
    rw [activeBodies_cons, openCalls_cons]
    omega

theorem Nested.append (first : Nested h) (second : Nested h') : Nested (h ++ h') := by
  intro p part
  rcases prefix_append_cases part with inFirst | ⟨q, inSecond, rfl⟩
  · exact first p inFirst
  · have := first h List.prefix_rfl
    have := second q inSecond
    rw [activeBodies_append, openCalls_append]
    omega

theorem Nested.within (inner : Nested h) (r : Region) : Nested (.entered r :: h ++ [.left r]) := by
  intro p part
  rcases List.prefix_concat_iff.mp part with rfl | inside
  · -- what was entered is left
    have := inner h List.prefix_rfl
    cases r <;> simp [bodies, calls] <;> omega
  · exact inner.cons (by cases r <;> simp [bodies, calls]) p inside

theorem Moves.nested (moves : Moves w h w') : Nested h := by
  induction moves with
  | remark w e remark => cases remark <;> exact Nested.nil.cons (Int.le_refl _)
  | alter | tabled | make | began | ended | bound | read | node | round | noBody | loaded =>
    exact Nested.nil.cons (Int.le_refl _)
  | append _ _ first second => exact first.append second
  | within _ _ inner => exact inner.within _
  | _ => exact .nil

end AliasTools.Script
