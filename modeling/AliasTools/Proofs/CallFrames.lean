import AliasTools.Proofs.CallDepth
import AliasTools.Proofs.Outcomes
import AliasTools.Proofs.Scoping

/-!
# Frames of calls

* `World.Framed` — what every run leaves of the scopes that it began with: the current one is current
  again, and all the others are as they were;
* `World.Resumed` — a caller goes on where it was, with its names and its text;
* `calls_resume_callers` — so it does after every call of a function of a script, however the call ends, but
  for the calls that were refused meanwhile and the generators that began or ended meanwhile.
-/

namespace AliasTools.Script

open Syntax

variable {w w' : World}

namespace World

/-- A run ends in the scope that it began in, for the same callers.  Scopes are added behind those that
    there were, and of these only the current one changes. -/
structure Framed (w w' : World) : Prop where
  scope : w'.scope = w.scope
  callers : w'.callers = w.callers
  builtins : w'.builtins = w.builtins
  size : w.scopes.size ≤ w'.scopes.size
  others : ∀ i, i < w.scopes.size → i ≠ w.scope → w'.scopes[i]? = w.scopes[i]?

theorem Framed.of_scopes (scope : w'.scope = w.scope) (callers : w'.callers = w.callers)
    (builtins : w'.builtins = w.builtins) (same : w'.scopes = w.scopes) : w.Framed w' :=
  ⟨scope, callers, builtins, Nat.le_of_eq (by rw [same]), fun _ _ _ => by rw [same]⟩

theorem Framed.refl (w : World) : w.Framed w := .of_scopes rfl rfl rfl rfl

theorem Framed.trans {w w' w'' : World} (first : w.Framed w') (second : w'.Framed w'') : w.Framed w'' where
  scope := second.scope.trans first.scope
  callers := second.callers.trans first.callers
  builtins := second.builtins.trans first.builtins
  size := Nat.le_trans first.size second.size
  others i inside other := by
    have inside' : i < w'.scopes.size := Nat.lt_of_lt_of_le inside first.size
    rw [second.others i inside' (first.scope ▸ other), first.others i inside other]

theorem Framed.inText (inner : (w.inText text).Framed w') (text' : String) : w.Framed (w'.inText text') :=
  ⟨inner.scope, inner.callers, inner.builtins, inner.size, inner.others⟩

theorem Framed.import (inner : (w.enterImport addr).Framed w') : w.Framed w'.leaveImport :=
  ⟨inner.scope, inner.callers, inner.builtins, inner.size, inner.others⟩

theorem framed_bindName (w : World) (name : String) (v : Value) : w.Framed (w.bindName name v) where
  scope := rfl
  callers := rfl
  builtins := rfl
  size := Nat.le_of_eq Array.size_modify.symm
  others i _ other := by rw [bindName, Array.getElem?_modify, if_neg (Ne.symm other)]

theorem Framed.behind {new : World} (inner : new.Framed w')
    (scopes : new.scopes = w.scopes.push names) (scope : new.scope = w.scopes.size) :
    w.scopes.size ≤ w'.scopes.size ∧ ∀ i, i < w.scopes.size → w'.scopes[i]? = w.scopes[i]? := by
  have grown : new.scopes.size = w.scopes.size + 1 := by rw [scopes, Array.size_push]
  refine ⟨by have := inner.size; omega, fun i inside => ?_⟩
  rw [inner.others i (by omega) (by omega), scopes, Array.getElem?_push, if_neg (by omega)]

theorem scopeNames_of_same (scope : w'.scope = w.scope)
    (scopes : ∀ i, i < w.scopes.size → w'.scopes[i]? = w.scopes[i]?) (valid : w.scope < w.scopes.size) :
    w'.scopeNames = w.scopeNames := by
  rw [scopeNames, scopeNames, scope, Array.getD_eq_getD_getElem?, Array.getD_eq_getD_getElem?, scopes _ valid]

end World

/-- **Whatever a run does, it does in its own scope and in new ones.** -/
theorem Moves.framed (moves : Moves w h w') : w.Framed w' := by
  induction moves with
  | assigned w name v free | bound w how name v isOpen => exact w.framed_bindName name v
  | append _ _ first second => exact first.trans second
  | within enters _ inner =>
    cases enters with
    | work => exact inner
    | body =>
      obtain ⟨size, same⟩ := inner.behind rfl rfl
      exact ⟨rfl, rfl, inner.builtins, size, fun i inside _ => same i inside⟩
    | module =>
      obtain ⟨size, same⟩ := inner.behind rfl rfl
      exact ⟨rfl, inner.callers, inner.builtins, size, fun i inside _ => same i inside⟩
    | importing => exact inner.import
    | text => exact inner.inText _
  | noModule w =>
    have entered : w.deeper.enterModule.Framed w.deeper.enterModule := .refl _
    obtain ⟨size, same⟩ := entered.behind rfl rfl
    exact ⟨rfl, rfl, rfl, size, fun i inside _ => same i inside⟩
  | _ => exact .of_scopes rfl rfl rfl rfl

/-- A caller goes on as it was: in its scope, with the names that it had there, and in its text.  No scope
    that there was has changed, and the objects that it shares have stayed of their sort. -/
structure World.Resumed (w w' : World) : Prop where
  scope : w'.scope = w.scope
  size : w.scopes.size ≤ w'.scopes.size
  scopes : ∀ i, i < w.scopes.size → w'.scopes[i]? = w.scopes[i]?
  names : w.scope < w.scopes.size → w'.scopeNames = w.scopeNames
  callers : w'.callers = w.callers
  builtins : w'.builtins = w.builtins
  source : w'.source = w.source
  lasts : w.Lasts w'

theorem World.Framed.resumed (framed : w.Framed w')
    (scopes : ∀ i, i < w.scopes.size → w'.scopes[i]? = w.scopes[i]?) (source : w'.source = w.source)
    (lasts : w.Lasts w') : w.Resumed w' where
  scope := framed.scope
  size := framed.size
  scopes := scopes
  names := World.scopeNames_of_same framed.scope scopes
  callers := framed.callers
  builtins := framed.builtins
  source := source
  lasts := lasts

theorem World.Resumed.refl (w : World) : w.Resumed w := (World.Framed.refl w).resumed (fun _ _ => rfl) rfl (.refl w)

section

variable (n : Nat) (w : World)

theorem resumed_inBody {α : Type} (f : Addr) (x : Eval α) : w.Resumed (worldOf ((Eval.inBody f x).exec (run n) w)) := by
  rw [Eval.exec]
  split
  · exact .refl w
  dsimp only
  split
  · -- one call too deep: nothing but the depth has changed
    exact World.Framed.resumed (.of_scopes rfl rfl rfl rfl) (fun _ _ => rfl) rfl (.of_heap rfl rfl)
  · next c _ _ =>
    have moves := (x.runs_log n (w.deeper.enterBody c)).moves
    have framed := moves.framed
    have entered : w.Lasts (w.deeper.enterBody c) := .of_heap rfl rfl
    have lasts := entered.trans moves.lasts
    obtain ⟨size, same⟩ := framed.behind rfl rfl
    cases out : x.exec (run n) (w.deeper.enterBody c) with
    | ok v w' | error e w' =>
      rw [out] at framed lasts size same
      have back : w.Framed (w'.leaveBody w) := ⟨rfl, rfl, framed.builtins, size, fun i inside _ => same i inside⟩
      exact back.resumed same rfl ⟨lasts.limits, lasts.cells⟩

theorem resumed_callClosure (a : Addr) (c : Closure) (args : List Value) (named : Names) :
    w.Resumed (worldOf ((callClosure .ask a c args named).exec (run n) w)) := by
  unfold callClosure
  split
  · exact .refl w
  · have body := resumed_inBody n w a (runBody .ask c args named)
    rw [Eval.exec]
    cases out : (Eval.inBody a (runBody .ask c args named)).exec (run n) w with
    | ok v w' | error e w' =>
      rw [out] at body
      exact body

theorem resumed_call {a : Addr} {c : Closure} (found : w.heap[a]? = some (.closure c)) (args : List Value)
    (named : Names) : w.Resumed (worldOf (run n (.call (.ref a) args named) w)) := by
  cases n with
  | zero => exact .refl w
  | succ n =>
    have looked : (cellAt a).exec (run n) w = .ok (some (.closure c)) w :=
      congrArg (EStateM.Result.ok · w) found
    have rule : run (n + 1) (.call (.ref a) args named) w =
        (callClosure .ask a c args named).exec (run n) w := by
      show (Eval.bind (cellAt a) _).exec (run n) w = _
      rw [Eval.exec, looked]
    rw [rule]
    exact resumed_callClosure n w a c args named

end

/-- What a caller finds besides, after a call with a history: it is as deep as it was, but for the calls that were
    refused, and the generators in force are those of before, but for those that began or ended.  A name is found
    as it was, unless it is a variable of a generator in force. -/
structure World.ResumedAfter (w : World) (h : List Event) (w' : World) : Prop extends w.Resumed w' where
  depth : w'.depth = w.depth + refusals h
  inForce : ∀ s, Staged s w → w'.inForce = (h.foldl Scene.step s).inForce.map (·.layer)
  reads : w.scope < w.scopes.size → ∀ name, findInLayers w.layers name w.inForce = none →
    findInLayers w'.layers name w'.inForce = none → w'.lookup name = w.lookup name

/-- **Calls leave their callers as they were**, in their scope, with their names and in their text, whatever
    is called and however the call ends.  Only refusals and generators are left behind. -/
theorem calls_resume_callers (n : Nat) (w : World) {a : Addr} {c : Closure}
    (found : w.heap[a]? = some (.closure c)) (args : List Value) (named : Names) :
    let call : Task Value := .call (.ref a) args named
    w.ResumedAfter (history n call w) (worldOf (run n call w)) := by
  intro call
  have resumed := resumed_call n w found args named
  have moves : Moves w (history n call w) (worldOf (run n call w)) := ((Eval.ask call).runs_log n w).moves
  refine ⟨resumed, ?_, fun s staged => (moves.stages staged).staged.inForce, fun valid name none none' => ?_⟩
  · have depth := moves.deepens.depth
    rwa [moves.openCalls_eq_zero, Int.add_zero] at depth
  · rw [World.lookup, World.lookup, none, none', resumed.names valid, resumed.builtins]

theorem calls_resume_callers_failing :
    let sp : Span := ⟨1, 0, 1, 0⟩
    let c : Closure :=
      { name := "f", isLambda := false, scope := 0, source := "def f(x): ..."
        params := .mk [] [.mk sp "x" none none] none [] [] none []
        body := .inl [.assign sp [.name sp "x" .store] (.constant sp (.int 2)) none,
          .ret sp (some (.name sp "missing" .load))] }
    let w : World := { heap := #[.closure c], scopes := #[[("x", .int 1)]], source := "f(5)" }
    let out := run 10 (.call (.ref 0) [.int 5] []) w
    w.heap[0]? = some (.closure c) ∧ (failureOf out).isSome = true ∧
      (worldOf out).scope = 0 ∧ (worldOf out).scopeNames = [("x", .int 1)] ∧
      (worldOf out).source = "f(5)" := by
  intro sp c w out
  have resumed : w.Resumed (worldOf out) := (calls_resume_callers 10 w (c := c) rfl [.int 5] []).toResumed
  exact ⟨rfl, by decide +kernel, resumed.scope, resumed.names (by decide), resumed.source⟩

/-- A call goes through a generator half-way, and then the caller finds the variable of that generator where it has
    bound the name to something else. -/
theorem name_hidden_after_call :
    let text := "x = 10\ng = (x for x in [1, 2])\ndef f():\n    any(g)\nf()\nreturn x"
    (match execute text { builtins := [("any", .fn .any)] } with
      | .ok v w => (v.asInt?, (w.scopeNames.get? "x").bind Value.asInt?)
      | .error _ _ => (none, none)) = (some 1, some 10) := by
  decide +kernel

end AliasTools.Script
