import AliasTools.Proofs.Handlers

/-!
# The parts of a `try`

A `try` has a body, handlers, a part for when the body went well, and a last part.  Which of them are
carried out is told by rules, one for each way in which the parts can end.
-/

namespace AliasTools.Script

open Syntax Eval List

variable {flow : Flow} {h : List Event}

/-! ## 1. How bodies end -/

def Failure.isTied : Failure → Bool
  | .script _ | .outOfFuel => true
  | .fault _ | .waiting _ _ => false

section

variable {n : Nat} {w w' : World} {e : Failure}

theorem isTied_of_tiedTo {α : Type} {x : Eval α}
    (fails : (tiedTo sp x).exec (run n) w = .error e w') : e.isTied = true := by
  rw [tiedTo, exec] at fails
  split at fails
  · next e _ _ =>
    cases fails
    cases e <;> rfl
  · next other => exact absurd fails (other _ _)

theorem isTied_of_stmt (fails : run n (.stmt s) w = .error e w') : e.isTied = true := by
  cases n with
  | zero =>
    cases fails
    rfl
  | succ n =>
    have rule : step .ask (.stmt s) = Eval.bind .read fun w : World =>
        if w.simple = true then _
        else Eval.bind (.node s.span) fun _ => tiedTo s.span (execNode .ask s) := rfl
    rw [run, rule, exec_read_bind] at fails
    split at fails
    · split at fails <;> exact isTied_of_tiedTo fails
    · rw [exec_node_bind] at fails
      split at fails
      · exact isTied_of_tiedTo fails
      · cases fails
        rfl

end

/-- How a body can end: it leaves, or ends with nothing, or with an error that is tied to a node. -/
def BodyEnds : Outcome Flow → Prop
  | .ok flow _ => flow.leaves = false → flow = .value .none
  | .error e _ => e.isTied = true

theorem run_body_ends (n : Nat) (ss : List Stmt) (w : World) : BodyEnds (run n (.body ss) w) := by
  cases n with
  | zero => rfl
  | succ n =>
    show BodyEnds ((execBody .ask ss).exec (run n) w)
    induction ss generalizing w with
    | nil => exact fun _ => rfl
    | cons s ss ih =>
      have rule : execBody .ask (s :: ss) = Eval.bind (.ask (.stmt s)) fun flow =>
        if flow.leaves = true then .pure flow else execBody .ask ss := rfl
      rw [rule, exec, exec]
      cases out : run n (.stmt s) w with
      | error e w' => exact isTied_of_stmt out
      | ok flow w' =>
        dsimp only
        split
        · next leaves => exact fun stays => absurd (stays.symm.trans leaves) Bool.false_ne_true
        · exact ih w'

/-! ## 2. The rules -/

def refuseName (sp : Span) : Eval Flow :=
  failAt .featureNotAvailable "'except ... as X' is not available in this interpreter" sp

def searchFor (hs : List Handler) (e : ScriptError) : Eval (Option Handler) := findHandler .ask e.origin.className hs

section

variable (n : Nat) (told : Telling) (body : List Stmt) (hs : List Handler) (orelse final : List Stmt)

/-- How an error of the body is answered, and what is carried out for that.  `told` says what is told of a
    part that is carried out, whatever that is. -/
inductive Answered (e : ScriptError) (w : World) : List Event → Outcome Flow → Prop
  /-- The first handler that takes the class is carried out. -/
  | handled {w₁ sp type block} (first : hs.find? (takesClass e.origin.className) = some (.mk sp type none block))
      (search : (searchFor hs e).exec (run n) w = .ok (some (.mk sp type none block)) w₁) :
      Answered e w ((searchFor hs e).log (run n) told w ++ told (.body block) w₁) (run n (.body block) w₁)
  /-- A handler cannot name the error. -/
  | named {w₁ sp type name block}
      (first : hs.find? (takesClass e.origin.className) = some (.mk sp type (some name) block))
      (search : (searchFor hs e).exec (run n) w = .ok (some (.mk sp type (some name) block)) w₁) :
      Answered e w ((searchFor hs e).log (run n) told w ++ (refuseName sp).log (run n) told w₁)
        ((refuseName sp).exec (run n) w₁)
  /-- No handler takes the class. -/
  | unhandled {w₁} (passed : hs.find? (takesClass e.origin.className) = none)
      (search : (searchFor hs e).exec (run n) w = .ok none w₁) :
      Answered e w ((searchFor hs e).log (run n) told w) (.error (.script e) w₁)
  /-- A clause cannot be read, which is an error in place of the first one. -/
  | unreadable {w₁ e'} (search : (searchFor hs e).exec (run n) w = .error e' w₁) :
      Answered e w ((searchFor hs e).log (run n) told w) (.error e' w₁)

/-- What is carried out of a `try` before its last part, and how that ends. -/
inductive Guarded (w : World) : List Event → Outcome Flow → Prop
  | leaves {flow w₁} (ends : run n (.body body) w = .ok flow w₁) (left : flow.leaves = true) :
      Guarded w (told (.body body) w) (.ok flow w₁)
  /-- The body goes well.  However the part for that ends, no handler is asked. -/
  | wentWell {w₁} (ends : run n (.body body) w = .ok (.value .none) w₁) :
      Guarded w (told (.body body) w ++ told (.body orelse) w₁) (run n (.body orelse) w₁)
  /-- A limit passes all handlers. -/
  | limit {e w₁} (fails : run n (.body body) w = .error (.script e) w₁) (isLimit : e.cause.isLimit = true) :
      Guarded w (told (.body body) w) (.error (.script e) w₁)
  | answered {e w₁ h r} (fails : run n (.body body) w = .error (.script e) w₁)
      (isError : e.cause.isLimit = false) (answer : Answered n told hs e w₁ h r) :
      Guarded w (told (.body body) w ++ h) r
  | cutOff {w₁} (fails : run n (.body body) w = .error .outOfFuel w₁) :
      Guarded w (told (.body body) w) (.error .outOfFuel w₁)

/-- What is told of a last part, which stands in a frame of its own while a limit is on its way. -/
def lastEvents : Outcome Flow → List Event
  | .ok _ w => told (.body final) w
  | .error e w =>
    if e.isLimit then .unwinding :: told (.body final) w ++ .unwound :: lossAfter e (run n (.body final) w)
    else told (.body final) w

def pending (w : World) : Outcome Flow → Outcome Flow
  | .ok flow _ => .ok flow w
  | .error e _ => .error e w

/-- What is carried out of a `try`, and how it ends. -/
inductive TryEnds (w : World) : List Event → Outcome Flow → Prop
  /-- The last part leaves, and that is how the whole ends. -/
  | leaves {h r flow w'} (guarded : Guarded n told body hs orelse w h r) (whole : failureOf r ≠ some .outOfFuel)
      (last : run n (.body final) (worldOf r) = .ok flow w') (left : flow.leaves = true) :
      TryEnds w (h ++ lastEvents n told final r) (.ok flow w')
  /-- The last part fails, and that is how the whole ends. -/
  | fails {h r e w'} (guarded : Guarded n told body hs orelse w h r)
      (whole : failureOf r ≠ some .outOfFuel) (last : run n (.body final) (worldOf r) = .error e w') :
      TryEnds w (h ++ lastEvents n told final r) (.error e w')
  /-- The last part goes well, and the whole ends as what came before it. -/
  | pends {h r w'} (guarded : Guarded n told body hs orelse w h r) (whole : failureOf r ≠ some .outOfFuel)
      (last : run n (.body final) (worldOf r) = .ok (.value .none) w') :
      TryEnds w (h ++ lastEvents n told final r) (pending w' r)
  | cutOff {h w₁} (guarded : Guarded n told body hs orelse w h (.error .outOfFuel w₁)) :
      TryEnds w h (.error .outOfFuel w₁)

end

/-! ## 3. What a `try` does -/

section

variable {n : Nat} {body orelse : List Stmt} {hs : List Handler} {w w₁ : World} (told : Telling) (e : ScriptError)

theorem iff_of_only {α β : Type} {rules : α → β → Prop} {a : α} {b : β}
    (only : ∀ {x y}, rules x y → x = a ∧ y = b) (some_rule : ∃ x y, rules x y) {x : α} {y : β} :
    rules x y ↔ x = a ∧ y = b := by
  refine ⟨only, ?_⟩
  rintro ⟨rfl, rfl⟩
  obtain ⟨x, y, rule⟩ := some_rule
  obtain ⟨rfl, rfl⟩ := only rule
  exact rule

theorem log_attempt : (attempt body).log (run n) told w = told (.body body) w := by
  rw [attempt, log]
  cases (ask (.body body)).exec (run n) w <;> exact append_nil _

section

variable (ends : run n (.body body) w = .ok flow w₁)

include ends

theorem exec_attempt_ok : (attempt body).exec (run n) w = .ok (.inl flow) w₁ := by
  rw [attempt, exec, exec, ends]
  rfl

theorem exec_execGuarded_of_ends :
    (execGuarded .ask body hs orelse).exec (run n) w = (goOnAfter .ask orelse (.inl flow)).exec (run n) w₁ := by
  rw [execGuarded_eq, exec, exec, exec_attempt_ok ends]

theorem log_execGuarded_of_ends : (execGuarded .ask body hs orelse).log (run n) told w =
      told (.body body) w ++ (goOnAfter .ask orelse (.inl flow)).log (run n) told w₁ := by
  rw [execGuarded_eq, log, log, exec, exec_attempt_ok ends, log_attempt, append_nil]

end

def answerEvents (n : Nat) (told : Telling) (hs : List Handler) (e : ScriptError) (w : World) : List Event :=
  (searchFor hs e).log (run n) told w ++
    match (searchFor hs e).exec (run n) w with
    | .ok (some h) w => (execHandler .ask h).log (run n) told w
    | _ => []

theorem log_answerTo : (answerTo hs e).log (run n) told w = answerEvents n told hs e w := by
  rw [answerTo, log, answerEvents, searchFor, e.className_cause]
  cases (findHandler .ask e.origin.className hs).exec (run n) w with
  | error => rfl
  | ok found w =>
    cases found with
    | none => rfl
    | some h =>
      have handled : answerWith .ask (some h) = Eval.bind (execHandler .ask h) fun flow => .pure (some flow) := rfl
      dsimp only
      rw [handled, log, log, exec]
      cases (execHandler .ask h).exec (run n) w <;> simp [log, exec]

theorem gives_answerTo : Gives n w (answerTo hs e) fun v _ => ∀ outcome ∈ v, ∃ flow, outcome = .inr flow := by
  refine .whatever fun _ _ => .whatever fun flow _ => gives_pure ?_
  intro outcome is
  obtain ⟨flow, _, rfl⟩ := Option.map_eq_some_iff.mp is
  exact ⟨flow, rfl⟩

theorem log_execGuarded_of_fails {e : ScriptError} (fails : run n (.body body) w = .error (.script e) w₁) :
    (execGuarded .ask body hs orelse).log (run n) told w =
      told (.body body) w ++ if e.cause.isLimit then [] else answerEvents n told hs e w₁ := by
  rw [execGuarded_eq, log, log, exec, exec_attempt_error fails, log_attempt]
  dsimp only
  rw [log_answerTo, append_assoc]
  congr 1
  split
  · rfl
  · -- what a handler answers is how the whole ends, and nothing is told after it
    have answered : Gives n w₁ (answerTo hs e) _ := gives_answerTo e
    refine (congrArg _ ?_).trans (append_nil _)
    cases out : (answerTo hs e).exec (run n) w₁ with
    | error => rfl
    | ok v w' =>
      cases v with
      | none => rfl
      | some outcome =>
        obtain ⟨flow, rfl⟩ := answered _ _ out outcome rfl
        rfl

theorem answered_iff : Answered n told hs e w h r ↔ h = answerEvents n told hs e w ∧ r = answered n hs e w := by
  have only {h : List Event} {r : Outcome Flow} (rule : Answered n told hs e w h r) :
      h = answerEvents n told hs e w ∧ r = answered n hs e w := by
    rw [answerEvents, answered, e.className_cause, ← searchFor]
    cases rule with
    | handled first search =>
      rw [search]
      exact ⟨rfl, rfl⟩
    | named first search =>
      rw [search]
      exact ⟨congrArg _ (append_nil _).symm, rfl⟩
    | unhandled passed search | unreadable search =>
      rw [search]
      exact ⟨(append_nil _).symm, rfl⟩
  have some_rule : ∃ h r, Answered n told hs e w h r := by
    cases search : (searchFor hs e).exec (run n) w with
    | error => exact ⟨_, _, .unreadable search⟩
    | ok found w₁ =>
      have first : found = hs.find? (takesClass e.origin.className) := gives_findHandler _ hs found w₁ search
      cases found with
      | none => exact ⟨_, _, .unhandled first.symm search⟩
      | some handler =>
        obtain ⟨sp, type, name, block⟩ := handler
        cases name with
        | none => exact ⟨_, _, .handled first.symm search⟩
        | some => exact ⟨_, _, .named first.symm search⟩
  exact iff_of_only only some_rule

theorem guarded_iff : Guarded n told body hs orelse w h r ↔ h = (execGuarded .ask body hs orelse).log (run n) told w ∧
        r = (execGuarded .ask body hs orelse).exec (run n) w := by
  have only {h : List Event} {r : Outcome Flow} (rule : Guarded n told body hs orelse w h r) :
      h = (execGuarded .ask body hs orelse).log (run n) told w ∧
        r = (execGuarded .ask body hs orelse).exec (run n) w := by
    cases rule with
    | leaves ends left =>
      rw [log_execGuarded_of_ends told ends, exec_execGuarded_of_ends ends, goOnAfter, if_pos left]
      exact ⟨(append_nil _).symm, rfl⟩
    | wentWell ends =>
      rw [log_execGuarded_of_ends told ends, exec_execGuarded_of_ends ends]
      exact ⟨rfl, rfl⟩
    | limit fails isLimit =>
      rw [log_execGuarded_of_fails told fails, exec_execGuarded_of_fails fails, if_pos isLimit, if_pos isLimit]
      exact ⟨(append_nil _).symm, rfl⟩
    | answered fails isError answer =>
      rw [log_execGuarded_of_fails told fails, exec_execGuarded_of_fails fails, isError]
      obtain ⟨rfl, rfl⟩ := (answered_iff told _).mp answer
      exact ⟨rfl, rfl⟩
    | cutOff fails =>
      rw [execGuarded_eq, log, log, exec, exec, exec_attempt_error fails, log_attempt]
      simp
  have some_rule : ∃ h r, Guarded n told body hs orelse w h r := by
    have ends := run_body_ends n body w
    cases out : run n (.body body) w with
    | ok flow w₁ =>
      cases left : flow.leaves with
      | true => exact ⟨_, _, .leaves out left⟩
      | false =>
        rw [out] at ends
        obtain rfl := ends left
        exact ⟨_, _, .wentWell out⟩
    | error e w₁ =>
      rw [out] at ends
      cases e with
      | script e =>
        cases limit : e.cause.isLimit with
        | true => exact ⟨_, _, .limit out limit⟩
        | false => exact ⟨_, _, .answered out limit ((answered_iff told e).mpr ⟨rfl, rfl⟩)⟩
      | outOfFuel => exact ⟨_, _, .cutOff out⟩
      | fault | waiting => cases ends
  exact iff_of_only only some_rule

theorem Guarded.ends {told : Telling} (guarded : Guarded n told body hs orelse w h (.ok flow w₁))
    (stays : flow.leaves = false) : flow = .value .none := by
  have body_ends {ss : List Stmt} {w : World} (ends : .ok flow w₁ = run n (.body ss) w) : flow = .value .none := by
    have whole := run_body_ends n ss w
    rw [← ends] at whole
    exact whole stays
  generalize out : EStateM.Result.ok flow w₁ = r at guarded
  cases guarded with
  | leaves _ left =>
    cases out
    exact absurd (stays.symm.trans left) Bool.false_ne_true
  | wentWell => exact body_ends out
  | answered _ _ answer =>
    cases answer with
    | handled => exact body_ends out
    | named | unhandled | unreadable => cases out
  | limit | cutOff => cases out

variable {r : Outcome Flow} {final : List Stmt}

theorem Guarded.lastly (guarded : Guarded n told body hs orelse w h r) (whole : failureOf r ≠ some .outOfFuel) :
    h ++ lastEvents n told final r = (lastly (execGuarded .ask body hs orelse) (.ask (.body final))).log (run n) told w ∧
      lastOutcome r (run n (.body final) (worldOf r)) =
        (lastly (execGuarded .ask body hs orelse) (.ask (.body final))).exec (run n) w := by
  obtain ⟨rfl, ends⟩ := (guarded_iff told).mp guarded
  rw [log, exec, ← ends]
  cases r with
  | ok => exact ⟨rfl, rfl⟩
  | error e =>
    cases e with
    | outOfFuel => exact absurd rfl whole
    | fault | waiting | script => exact ⟨rfl, rfl⟩

theorem lastOutcome_pending {told : Telling} (guarded : Guarded n told body hs orelse w h r) :
    lastOutcome r (.ok (.value .none) w₁) = pending w₁ r := by
  cases r with
  | error => rfl
  | ok flow =>
    cases left : flow.leaves with
    | true => exact congrArg (EStateM.Result.ok · w₁) (if_pos left)
    | false =>
      obtain rfl := guarded.ends left
      rfl

end

/-- The last part of a `try` is carried out once, whatever became of the others; the part for a body that
    went well then and only then; and of the handlers only the first that takes the class of the error, and
    none after a limit. -/
theorem execTry_iff_tryEnds (n : Nat) (told : Telling) (sp : Span) (body : List Stmt) (hs : List Handler)
    (orelse final : List Stmt) (w : World) (h : List Event) (r : Outcome Flow) :
    TryEnds n told body hs orelse final w h r ↔
      h = (execNode .ask (.tryExcept sp body hs orelse final false)).log (run n) told w ∧
        r = (execNode .ask (.tryExcept sp body hs orelse final false)).exec (run n) w := by
  have whole : execNode .ask (.tryExcept sp body hs orelse final false) =
    .lastly (execGuarded .ask body hs orelse) (.ask (.body final)) := rfl
  rw [whole]
  refine iff_of_only (fun rule => ?_) ?_
  · cases rule with
    | leaves guarded whole last left =>
      obtain ⟨tells, ends⟩ := guarded.lastly told whole
      rw [← ends, last]
      exact ⟨tells, (if_pos left).symm⟩
    | fails guarded whole last =>
      obtain ⟨tells, ends⟩ := guarded.lastly told whole
      rw [← ends, last]
      exact ⟨tells, rfl⟩
    | pends guarded whole last =>
      obtain ⟨tells, ends⟩ := guarded.lastly told whole
      rw [← ends, last, lastOutcome_pending guarded]
      exact ⟨tells, rfl⟩
    | cutOff guarded =>
      obtain ⟨rfl, ends⟩ := (guarded_iff told).mp guarded
      rw [Eval.exec, Eval.log, ← ends]
      exact ⟨(List.append_nil _).symm, rfl⟩
  · have guarded : Guarded n told body hs orelse w _ _ := (guarded_iff told).mpr ⟨rfl, rfl⟩
    generalize (execGuarded .ask body hs orelse).exec (run n) w = r at guarded
    by_cases whole : failureOf r = some .outOfFuel
    · cases r with
      | ok => cases whole
      | error e w₁ =>
        cases whole
        exact ⟨_, _, .cutOff guarded⟩
    · have ends := run_body_ends n final (worldOf r)
      cases last : run n (.body final) (worldOf r) with
      | error e w' => exact ⟨_, _, .fails guarded whole last⟩
      | ok flow w' =>
        cases left : flow.leaves with
        | true => exact ⟨_, _, .leaves guarded whole last left⟩
        | false =>
          rw [last] at ends
          obtain rfl := ends left
          exact ⟨_, _, .pends guarded whole last⟩

end AliasTools.Script
