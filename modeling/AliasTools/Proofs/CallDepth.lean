import AliasTools.Proofs.Runs

/-!
# The depth of calls

A call goes one deeper, and comes back up however it ends.  A call that is refused as too deep goes one
deeper as well, and does not come back up.  So the depth after any number of programs is what it was,
and one more for each call that any of them was refused.
-/

namespace AliasTools.Script

open Syntax Event

variable {e : Event}

def Event.isRefusal : Event → Bool
  | .refused _ => true
  | _ => false

def Event.calls : Event → Int
  | .entered (.body _ _) | .entered .module => 1
  | .left (.body _ _) | .left .module => -1
  | _ => 0

def refusals (h : List Event) : Nat := h.countP isRefusal

def openCalls (h : List Event) : Int := h.foldr (fun e n => e.calls + n) 0

def Event.Obeys (l : Limits) (depth : Int) : Event → Prop
  | .entered (.body _ _) => depth < l.maxDepth
  | .refused _ => l.maxDepth ≤ depth
  | _ => True

section

variable (h h' : List Event) (e : Event)

@[simp] theorem refusals_nil : refusals [] = 0 := rfl

@[simp] theorem openCalls_nil : openCalls [] = 0 := rfl

@[simp] theorem refusals_append : refusals (h ++ h') = refusals h + refusals h' := List.countP_append

@[simp] theorem refusals_cons : refusals (e :: h) = refusals h + if e.isRefusal then 1 else 0 := List.countP_cons

@[simp] theorem openCalls_cons : openCalls (e :: h) = e.calls + openCalls h := rfl

@[simp] theorem openCalls_append : openCalls (h ++ h') = openCalls h + openCalls h' := by
  induction h with
  | nil => simp
  | cons e h ih =>
    rw [List.cons_append, openCalls_cons, openCalls_cons]
    omega

end

theorem refusals_eq_zero_iff : refusals h = 0 ↔ ∀ f, refused f ∉ h := by
  rw [refusals, List.countP_eq_zero]
  constructor
  · intro none f member
    exact none _ member rfl
  · intro none e member refusal
    cases e with
    | refused f => exact none f member
    | _ => cases refusal

/-- The depth goes by the calls that are being carried out and those that were refused, and so does what
    becomes of the next call. -/
structure Deepens (w : World) (h : List Event) (w' : World) : Prop where
  limits : w'.limits = w.limits
  depth : w'.depth = w.depth + openCalls h + refusals h
  calls : ∀ p e q, h = p ++ e :: q → e.Obeys w.limits (w.depth + openCalls p + refusals p)

section

variable {w w' w'' : World} {h h' : List Event}

theorem Deepens.nothing (limits : w'.limits = w.limits) (depth : w'.depth = w.depth) : Deepens w [] w' := by
  refine ⟨limits, ?_, fun p e q same => ?_⟩
  · rw [openCalls_nil, refusals_nil]
    omega
  · cases p <;> cases same

theorem Deepens.one (limits : w'.limits = w.limits)
    (depth : w'.depth = w.depth + e.calls + if e.isRefusal then 1 else 0)
    (obeys : e.Obeys w.limits w.depth) : Deepens w [e] w' := by
  refine ⟨limits, ?_, fun p e' q same => ?_⟩
  · rw [depth, refusals_cons]
    split <;> simp
  · obtain ⟨rfl, rfl⟩ := event_singleton same
    simpa using obeys

theorem Deepens.call (noRefusal : e.isRefusal = false) (limits : w'.limits = w.limits)
    (depth : w'.depth = w.depth + e.calls) (obeys : e.Obeys w.limits w.depth) : Deepens w [e] w' :=
  .one limits (by simp [depth, noRefusal]) obeys

def Event.isLevel (e : Event) : Prop := e.calls = 0 ∧ e.isRefusal = false

theorem Deepens.level (level : e.isLevel) (limits : w'.limits = w.limits) (depth : w'.depth = w.depth) :
    Deepens w [e] w' := by
  obtain ⟨noCall, noRefusal⟩ := level
  refine .call noRefusal limits ?_ ?_
  · rw [depth, noCall, Int.add_zero]
  · cases e with
    | entered r => cases r with
      | body => cases noCall
      | _ => trivial
    | _ => trivial

theorem Deepens.append (first : Deepens w h w') (second : Deepens w' h' w'') : Deepens w (h ++ h') w'' := by
  have limits := first.limits
  have depth := first.depth
  refine ⟨second.limits.trans limits, ?_, fun p e q same => ?_⟩
  · have depth' := second.depth
    rw [openCalls_append, refusals_append]
    omega
  · rcases event_append_cases same with ⟨r, inFirst⟩ | ⟨r, rfl, inSecond⟩
    · exact first.calls p e r inFirst
    · -- the second history begins as deep as the first one ended
      have obeys := second.calls r e q inSecond
      have here : w.depth + openCalls (h ++ r) + refusals (h ++ r) = w'.depth + openCalls r + refusals r := by
        rw [openCalls_append, refusals_append]
        omega
      rwa [limits, ← here] at obeys

theorem Deepens.around (inner : Deepens v h v') (before : Deepens w [first] v)
    (after : Deepens v' [last] w') : Deepens w (first :: h ++ [last]) w' :=
  (before.append inner).append after

theorem Deepens.of_same (deepens : Deepens v h v') (limits : v.limits = w.limits)
    (depth : v.depth = w.depth) (limits' : w'.limits = v'.limits) (depth' : w'.depth = v'.depth) : Deepens w h w' := by
  have entering : Deepens w [] v := .nothing limits depth
  have leaving : Deepens v' [] w' := .nothing limits' depth'
  simpa using (entering.append deepens).append leaving

/-- **Whatever a run does, its depth goes by its calls and refusals.** -/
theorem Moves.deepens (moves : Moves w h w') : Deepens w h w' := by
  induction moves with
  | remark w e remark => cases remark <;> exact .level ⟨rfl, rfl⟩ rfl rfl
  | alter | tabled | make | began | ended | bound | read | node | round | loaded => exact .level ⟨rfl, rfl⟩ rfl rfl
  | append _ _ first second => exact first.append second
  | within enters _ inner =>
    cases enters with
    | body f c _ within => exact inner.around (.call rfl rfl rfl within) (.call rfl rfl rfl trivial)
    | module => exact inner.around (.call rfl rfl rfl trivial) (.call rfl rfl rfl trivial)
    | work | importing | text => exact inner.around (.level ⟨rfl, rfl⟩ rfl rfl) (.level ⟨rfl, rfl⟩ rfl rfl)
  | noBody w f beyond =>
    have full : w.limits.maxDepth ≤ w.depth := Int.lt_add_one_iff.mp beyond
    exact .one rfl (by simp [World.deeper, calls, isRefusal]) full
  | noModule w => exact .nothing rfl (Int.add_sub_cancel w.depth 1)
  | _ => exact .nothing rfl rfl

theorem Moves.openCalls_eq_zero (moves : Moves w h w') : openCalls h = 0 := by
  induction moves with
  | remark w e remark => cases remark <;> rfl
  | append _ _ first second => rw [openCalls_append, first, second]; rfl
  | @within _ w' h r _ _ _ _ inner => cases r <;> simp [calls, inner]
  | _ => rfl

end

def historyOfAll : List Program → World → List Event
  | [], _ => []
  | p :: ps, w => p.history w ++ historyOfAll ps (p.after w)

def afterAll (ps : List Program) (w : World) : World := ps.foldl (fun w p => p.after w) w

theorem Program.deepens (p : Program) (w : World) :
    Deepens w (p.history w) (p.after w) ∧ openCalls (p.history w) = 0 := by
  obtain ⟨text, n, m, moves⟩ := p.moves w
  exact ⟨moves.deepens.of_same rfl rfl rfl rfl, moves.openCalls_eq_zero⟩

theorem deepens_historyOfAll (ps : List Program) (w : World) :
    Deepens w (historyOfAll ps w) (afterAll ps w) ∧ openCalls (historyOfAll ps w) = 0 := by
  induction ps generalizing w with
  | nil => exact ⟨.nothing rfl rfl, rfl⟩
  | cons p ps ih =>
    obtain ⟨first, closed⟩ := p.deepens w
    obtain ⟨rest, closed'⟩ := ih (p.after w)
    refine ⟨first.append rest, ?_⟩
    rw [historyOfAll, openCalls_append, closed, closed']
    rfl

/-- **The depth counts the calls that were refused.**  After programs that end in any way the depth is what
    it was, and one more for every call that was refused as too deep; and a call is refused by the calls
    that are being carried out together with all those that were refused before it. -/
theorem depth_counts_refusals (ps : List Program) (w : World) :
    (afterAll ps w).depth = w.depth + refusals (historyOfAll ps w) ∧
    ((afterAll ps w).depth = w.depth ↔ ∀ f, Event.refused f ∉ historyOfAll ps w) ∧
    (∀ p f text q, historyOfAll ps w = p ++ .entered (.body f text) :: q →
      w.depth + openCalls p + refusals p < w.limits.maxDepth) ∧
    ∀ p f q, historyOfAll ps w = p ++ .refused f :: q →
      w.limits.maxDepth ≤ w.depth + openCalls p + refusals p := by
  obtain ⟨deepens, closed⟩ := deepens_historyOfAll ps w
  have depth := deepens.depth
  rw [closed, Int.add_zero] at depth
  refine ⟨depth, ?_, fun p f text q => deepens.calls p _ q, fun p f q => deepens.calls p _ q⟩
  rw [← refusals_eq_zero_iff]
  omega

def refusalOf {α : Type} (r : Outcome α) : Option InvalidKind :=
  match failureOf r with
  | some (.script e) =>
    match e.cause with
    | .error (.invalid k _ _) => some k
    | _ => none
  | _ => none

/-- Two calls deep are one too many here, one is not.  After a try at two, one is too many as well. -/
theorem refused_call_stays_deep :
    let sp : Span := ⟨1, 0, 1, 0⟩
    let called (e : Expr) : Expr := .call sp (.lambda sp (.mk [] [] none [] [] none []) e) [] []
    let once : Expr := called (.constant sp (.int 1))
    let w : World := { limits := { maxDepth := 2 } }
    let w' := worldOf (run 20 (.expr (called once)) w)
    w.depth = 1 ∧ refusalOf (run 20 (.expr once) w) = none ∧
      refusalOf (run 20 (.expr (called once)) w) = some .tooMuchRecursion ∧ w'.depth = 2 ∧
      refusalOf (run 20 (.expr once) w') = some .tooMuchRecursion := by
  decide +kernel

end AliasTools.Script
