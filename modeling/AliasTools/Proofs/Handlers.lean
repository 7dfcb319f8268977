import AliasTools.Proofs.HiddenNames

/-!
# What handlers see of an error

An error that comes out of a call is wrapped once more, and so is one that was raised as a fault.  A
handler does not see the wrappings: it goes by the innermost cause, which no number of calls changes.
-/

namespace AliasTools.Script

open Syntax List Eval

/-! ## 1. Causes -/

namespace ScriptError

def wraps : ScriptError → Bool
  | .annotated _ _ | .nested _ _ _ => true
  | .form _ _ _ | .invalid _ _ _ => false

/-- What a wrapping keeps of what it is around.  It is told at once, from the next one inside: what that
    keeps, if it is a wrapping itself, and else that one. -/
def original : ScriptError → Option Cause
  | .annotated f _ => some (.fault f)
  | .nested _ _ inner => some (inner.original.getD (.error inner))
  | .form _ _ _ | .invalid _ _ _ => none

theorem original_getD (e : ScriptError) : e.original.getD (.error e) = e.cause := by
  induction e with
  | nested _ _ inner ih => exact ih
  | form | invalid | annotated => rfl

theorem original_of_wraps {e : ScriptError} (wraps : e.wraps = true) : e.original = some e.cause := by
  have whole := e.original_getD
  cases e with
  | nested _ _ inner => exact congrArg some whole
  | annotated => rfl
  | form | invalid => cases wraps

end ScriptError

def Cause.wraps : Cause → Bool
  | .fault _ => false
  | .error e => e.wraps

variable (e : ScriptError) (name : String)

theorem ScriptError.wraps_cause : e.cause.wraps = false := by
  induction e with
  | nested _ _ inner ih => exact ih
  | form | invalid | annotated => rfl

def Cause.unnoted : Cause → Cause
  | .error (.form f source _) => .error (.form f source none)
  | .error (.invalid k m s) => .error (.invalid k m { s with context := none })
  | c => c

theorem Cause.className_unnoted (c : Cause) : c.unnoted.className = c.className := by
  cases c with
  | fault f => rfl
  | error e => cases e <;> rfl

theorem Cause.isLimit_unnoted (c : Cause) : c.unnoted.isLimit = c.isLimit := by
  cases c with
  | fault f => rfl
  | error e => cases e <;> rfl

/-! ## 2. Out of calls -/

/-- A call that an error comes out of: what was called, and where. -/
structure CallSite where
  function : String
  site : Site

def ScriptError.outOf (c : CallSite) : ScriptError := .nested e.message c.site (e.within c.function)

def ScriptError.outOfAll (cs : List CallSite) : ScriptError := cs.foldl outOf e

theorem ScriptError.unnoted_cause_outOf (c : CallSite) : (e.outOf c).cause.unnoted = e.cause.unnoted := by
  cases e <;> rfl

theorem ScriptError.unnoted_cause_outOfAll (cs : List CallSite) : (e.outOfAll cs).cause.unnoted = e.cause.unnoted := by
  induction cs generalizing e with
  | nil => rfl
  | cons c cs ih =>
    show ((e.outOf c).outOfAll cs).cause.unnoted = _
    rw [ih, unnoted_cause_outOf]

theorem ScriptError.wraps_outOfAll (some : cs ≠ []) : (e.outOfAll cs).wraps = true := by
  obtain ⟨front, last, rfl⟩ : ∃ front last, cs = front ++ [last] :=
    ⟨cs.dropLast, cs.getLast some, (dropLast_concat_getLast some).symm⟩
  rw [outOfAll, foldl_append]
  rfl

section

variable {m : Nat} {w w₁ w₂ : World} {e : ScriptError}

theorem run_call_of_body_fails (found : w.heap[a]? = some (.closure c)) (noSelf : named.has "self" = false)
    (room : w.depth < w.limits.maxDepth)
    (fails : (runBody .ask c args named).exec (run m) (w.deeper.enterBody c) = .error (.script e) w₂) :
    run (m + 1) (.call (.ref a) args named) w = .error (.script (e.within c.name)) (w₂.leaveBody w) := by
  have inside : ¬ w.deeper.depth > w.deeper.limits.maxDepth := Int.not_lt.mpr room
  have body : (inBody a (runBody .ask c args named)).exec (run m) w = .error (.script e) (w₂.leaveBody w) := by
    rw [exec, World.functionAt?_eq_some.mpr found]
    simp only [if_neg inside, fails]
  have called : callClosure .ask a c args named =
      .wrapped (.context c.name) (.inBody a (runBody .ask c args named)) := by
    unfold callClosure
    rw [noSelf]
    rfl
  show (Eval.bind (cellAt a) _).exec (run m) w = _
  rw [exec_found _ found]
  show (callClosure .ask a c args named).exec (run m) w = _
  rw [called, exec, body]
  rfl

theorem exec_evalCall_of_fails {keywords : List Keyword}
    (operands : (evalOperands .ask func args keywords).exec (run m) w = .ok o w₁)
    (fails : run m (.call o.function o.args o.named) w₁ = .error (.script e) w₂) (sp : Span) :
    (evalCall .ask sp func args keywords).exec (run m) w =
      .error (.script (.nested e.message { span := sp, source := w₂.source } e)) w₂ := by
  have called : (wrapped (.call sp) (.ask (.call o.function o.args o.named))).exec (run m) w₁ =
      .error (.script (.nested e.message { span := sp, source := w₂.source } e)) w₂ := by
    rw [exec, exec, fails]
    rfl
  have rule : evalCall .ask sp func args keywords = Eval.bind .read fun w : World =>
      Eval.bind (evalOperands .ask func args keywords) fun o =>
        Eval.bind (.wrapped (.call sp) (.ask (.call o.function o.args o.named))) fun r =>
          Eval.bind (.change (.closeLoose w.heap.size r)) fun _ => .pure r := rfl
  rw [rule, exec_read_bind, exec, operands]
  dsimp only
  rw [exec, called]

end

/-- A call of a function of a script, in a world: from the operands to the error that ends the body. -/
structure FailingCall (m : Nat) (w : World) where
  span : Span
  func : Expr
  args : List Expr
  keywords : List Keyword
  operands : Operands
  /-- The world in which the function is called. -/
  caller : World
  address : Addr
  closure : Closure
  error : ScriptError
  /-- The world in which the body fails. -/
  callee : World
  full : w.simple = false
  room : w.HasRoom
  evaluated : (evalOperands .ask func args keywords).exec (run (m + 1)) w.countNode = .ok operands caller
  function : operands.function = .ref address
  found : caller.heap[address]? = some (.closure closure)
  noSelf : operands.named.has "self" = false
  depth : caller.depth < caller.limits.maxDepth
  fails : (runBody .ask closure operands.args operands.named).exec (run m)
    (caller.deeper.enterBody closure) = .error (.script error) callee

namespace FailingCall

variable {m : Nat} {w : World} (c : FailingCall m w)

def expr : Expr := .call c.span c.func c.args c.keywords

def site : CallSite := ⟨c.closure.name, { span := c.span, source := c.caller.source }⟩

/-- **One call more.**  A call whose function fails with an error fails with that error out of this
    call. -/
theorem run_expr : run (m + 2) (.expr c.expr) w =
    .error (.script (c.error.outOf c.site)) (c.callee.leaveBody c.caller) := by
  have called : run (m + 1) (.call c.operands.function c.operands.args c.operands.named) c.caller =
      .error (.script (c.error.within c.closure.name)) (c.callee.leaveBody c.caller) := by
    rw [c.function]
    exact run_call_of_body_fails c.found c.noSelf c.depth c.fails
  have message : (c.error.within c.closure.name).message = c.error.message := by cases c.error <;> rfl
  have node : evalNode .ask c.expr = evalCall .ask c.span c.func c.args c.keywords := rfl
  rw [run_expr_full c.full, if_pos c.room, exec, tiedTo, exec, node,
    exec_evalCall_of_fails c.evaluated called c.span, message]
  rfl

end FailingCall

/-! ## 3. Every error was raised -/

/-- What went wrong, apart from where. -/
inductive Origin where
  | fault (f : Fault)
  | invalid (kind : InvalidKind) (message : String)
  | form (f : SyntaxFault)

def Origin.className : Origin → String
  | .fault f => f.kind.name
  | .invalid k _ => k.name
  | .form _ => "DraconicSyntaxError"

def ScriptError.origin : ScriptError → Origin
  | .form f _ _ => .form f
  | .invalid k m _ => .invalid k m
  | .annotated f _ => .fault f
  | .nested _ _ inner => inner.origin

def Failure.origin : Failure → Option Origin
  | .fault f => some (.fault f)
  | .waiting k m => some (.invalid k m)
  | .script e => some e.origin
  | .outOfFuel => none

theorem ScriptError.className_cause : e.cause.className = e.origin.className := by
  induction e with
  | nested _ _ inner ih => exact ih
  | form | invalid | annotated => rfl

theorem Wrapping.origin_apply (k : Wrapping) (source : String) (e : Failure)
    (lossless : k.loss source e = []) : (k.apply source e).origin = e.origin := by
  cases k with
  | node span => cases e <;> rfl
  | call span => cases e <;> rfl
  | context name =>
    cases e with
    | script e => cases e <;> rfl
    | fault _ | waiting _ _ | outOfFuel => rfl
  | module address =>
    rw [eq_outOfFuel_of_module lossless]
    rfl

def RaisedIn (h : List Event) (o : Origin) : Prop := ∃ e, .raised e ∈ h ∧ e.origin = some o

theorem RaisedIn.mono (raised : RaisedIn h o) (part : h ⊆ h') : RaisedIn h' o := by
  obtain ⟨e, member, same⟩ := raised
  exact ⟨e, part member, same⟩

/-- **What a run ends with was raised in it.** -/
theorem Runs.origin (runs : Runs w h w' r)
    {e : Failure} (ends : r = some e) (wrong : e.origin = some o) : RaisedIn h o := by
  induction runs generalizing e with
  | outOfFuel w =>
    cases ends
    cases wrong
  | raise | noNode | noRound | noModule =>
    cases ends
    exact ⟨_, mem_cons_self, wrong⟩
  | noBody w f beyond k m =>
    cases ends
    exact ⟨_, mem_cons_of_mem _ mem_cons_self, wrong⟩
  | wrap _ k lossless first =>
    cases ends
    rw [k.origin_apply _ _ lossless] at wrong
    exact (first rfl wrong).mono (subset_append_left _ _)
  | seq _ _ first second | answer _ _ _ first second => exact (second ends wrong).mono (subset_append_right _ _)
  | goOn _ _ _ first second =>
    cases ends
    exact (first rfl wrong).mono (subset_append_left _ _)
  | clean _ c first => exact (first ends wrong).mono (subset_append_left _ _)
  | swallow l _ _ _ first second => exact (second ends wrong).mono (by simp)
  | unwind _ _ _ first second =>
    cases ends
    exact (first rfl wrong).mono (by simp)
  | lose _ _ _ _ first second | supersede _ _ _ _ first second =>
    exact (second ends wrong).mono fun _ member => by simp [member]
  | within _ _ inner => exact (inner ends wrong).mono (by simp)
  | _ => cases ends

/-! ## 4. Handlers -/

def textLiteral? : Expr → Option String
  | .constant _ (.str s _) => some s
  | _ => none

def takesClass : Handler → Bool
  | .mk _ none _ _ => true
  | .mk _ (some (.tuple _ elts _)) _ _ => elts.any fun e => textLiteral? e == some name
  | .mk _ (some type) _ _ => textLiteral? type == some name

section

variable {k : Nat} {w : World}

theorem gives_textLiteral (sp : Span) (s : String) (u : Bool) :
    Gives k w (.ask (.expr (.constant sp (.str s u)))) fun v _ => v.asText? = some s := by
  have literal (n : Nat) (w : World) : Gives n w (evalNode .ask (.constant sp (.str s u)))
      fun v _ => v = .str s false := by
    refine .reading ?_
    exact .whatever fun _ _ => gives_pure rfl
  refine gives_ask _ fun n => .reading ?_
  split
  · refine .wrapped _ fun v w' ran => ?_
    rw [literal n w v w' ran]
    rfl
  · refine .whatever fun _ w₁ => .bind ((literal n w₁).wrapped _) ?_
    rintro _ w₂ rfl
    exact gives_pure rfl

theorem eq_of_isTextLiteral {e : Expr} (text : isTextLiteral e = true) : ∃ sp s u, e = .constant sp (.str s u) := by
  unfold isTextLiteral at text
  split at text
  · exact ⟨_, _, _, rfl⟩
  · cases text

theorem gives_unwrapElements_texts (texts : elts.all isTextLiteral = true) (total : Int) (acc : Array Value) :
    Gives k w (unwrapElements .ask true total acc elts) fun vs _ =>
      vs.toList.map Value.asText? = acc.toList.map Value.asText? ++ elts.map textLiteral? := by
  induction elts generalizing w total acc with
  | nil => exact gives_pure (by simp)
  | cons e elts ih =>
    rw [all_cons, Bool.and_eq_true] at texts
    obtain ⟨text, texts⟩ := texts
    obtain ⟨sp, s, u, rfl⟩ := eq_of_isTextLiteral text
    rw [unwrapElements]
    · refine .bind (gives_textLiteral sp s u) fun v w₁ isText => ?_
      refine .whatever fun n w₂ => ?_
      intro vs w₃ ran
      rw [ih texts _ _ vs w₃ ran]
      simp [isText, textLiteral?]
    · exact fun _ _ _ other => nomatch other

theorem gives_handlerFits (h : Handler) :
    Gives k w (handlerFits .ask name h) fun fits _ => fits = takesClass name h := by
  have refused {p : Bool → World → Prop} (w : World) (kind : InvalidKind) (message : String) (sp : Span) :
      Gives k w (failAt kind message sp) p := (gives_raise _).wrapped _
  cases h with
  | mk sp type _ _ =>
    cases type with
    | none => exact gives_pure rfl
    | some type =>
      cases type with
      | constant at0 l =>
        cases l with
        | str s u =>
          refine .reading (gives_unless_failAt fun _ => gives_pure ?_)
          simp [takesClass, textLiteral?]
        | _ => exact refused w _ _ _
      | tuple _ elts _ =>
        dsimp only [handlerFits]
        split
        · exact refused w _ _ _
        · next texts =>
          have texts : elts.all isTextLiteral = true := by simpa using texts
          refine .bind (gives_unwrapElements_texts texts 0 #[]) fun vs w' same => gives_pure ?_
          have both : (vs.toList.map Value.asText?).any (· == some name) =
              (elts.map textLiteral?).any (· == some name) := by
            rw [same]
            rfl
          rw [any_map, any_map] at both
          rw [← Array.any_toList]
          exact both
      | _ => exact refused w _ _ _

theorem gives_findHandler (hs : List Handler) :
    Gives k w (findHandler .ask name hs) fun found _ => found = hs.find? (takesClass name) := by
  induction hs generalizing w with
  | nil => exact gives_pure rfl
  | cons h hs ih =>
    refine .bind (gives_handlerFits name h) fun fits w' same => ?_
    cases fits with
    | true => exact gives_pure (by rw [find?_cons_of_pos same.symm])
    | false =>
      rw [find?_cons_of_neg (by rw [← same]; decide)]
      exact ih

def answered (n : Nat) (hs : List Handler) (e : ScriptError) (w : World) : Outcome Flow :=
  match (findHandler .ask e.cause.className hs).exec (run n) w with
  | .ok (some h) w => (execHandler .ask h).exec (run n) w
  | .ok none w => .error (.script e) w
  | .error e w => .error e w

/-- The body of a `try`, marked as such. -/
def attempt (body : List Stmt) : Eval (Flow ⊕ Flow) := .bind (.ask (.body body)) fun flow => .pure (.inl flow)

/-- The search for a handler, and what it does. -/
def answerTo (hs : List Handler) (e : ScriptError) : Eval (Option (Flow ⊕ Flow)) :=
  .bind (findHandler .ask e.cause.className hs) fun found =>
    .bind (answerWith .ask found) fun flow => .pure (flow.map .inr)

theorem execGuarded_eq (body orelse : List Stmt) (hs : List Handler) :
    execGuarded .ask body hs orelse = Eval.bind (.rescue (attempt body) (answerTo hs))
      fun outcome => goOnAfter .ask orelse outcome := rfl

theorem exec_attempt_error {e : Failure} (fails : run n (.body body) w = .error e w₁) :
    (attempt body).exec (run n) w = .error e w₁ := by
  rw [attempt, exec, exec, fails]

theorem exec_execGuarded_of_fails {e : ScriptError}
    (fails : run n (.body body) w = .error (.script e) w') (hs : List Handler) (orelse : List Stmt) :
    (execGuarded .ask body hs orelse).exec (run n) w =
      if e.cause.isLimit then .error (.script e) w' else answered n hs e w' := by
  rw [execGuarded_eq, exec, exec, exec_attempt_error fails]
  dsimp only
  cases e.cause.isLimit with
  | true => rfl
  | false =>
    simp only [answered]
    rw [answerTo, exec]
    cases (findHandler .ask e.cause.className hs).exec (run n) w' with
    | error e w => rfl
    | ok found w =>
      dsimp only
      rw [exec]
      cases found with
      | none => rfl
      | some h =>
        have handled : answerWith .ask (some h) = Eval.bind (execHandler .ask h) fun flow => .pure (some flow) := rfl
        rw [handled, exec]
        dsimp only
        cases (execHandler .ask h).exec (run n) w <;> rfl

end

/-! ## 5. The search ends -/

def elements : Handler → List Expr
  | .mk _ (some (.tuple _ elts _)) _ _ => elts
  | _ => []

def namesTexts : Handler → Bool
  | .mk _ none _ _ => true
  | .mk _ (some (.tuple _ elts _)) _ _ => elts.all isTextLiteral
  | .mk _ (some type) _ _ => isTextLiteral type

def spread (elts : List Expr) : Int := elts.foldr (fun e n => ((textLiteral? e).elim 0 String.length + 1 : Nat) + n) 0

def IsShort (most : Int) : Handler → Prop
  | .mk _ (some (.constant _ (.str s _))) _ _ => (s.length : Int) ≤ most
  | h => spread (elements h) ≤ most

section

variable {n : Nat} {w : World}

theorem run_textLiteral (full : w.simple = false) (room : w.HasRoom)
    (short : (s.length : Int) ≤ w.limits.maxConstLen) (sp : Span) (u : Bool) :
    run (n + 1) (.expr (.constant sp (.str s u))) w = .ok (.str s true) w.countNode := by
  have literal : (evalNode .ask (.constant sp (.str s u))).exec (run n) w.countNode =
      .ok (.str s false) w.countNode := by
    have inside : ¬ (s.length : Int) > w.countNode.limits.maxConstLen := Int.not_lt.mpr short
    show (bind (if (s.length : Int) > w.countNode.limits.maxConstLen then _ else .pure ())
      fun _ : Unit => .pure (Value.str s false)).exec (run n) w.countNode = _
    rw [if_neg inside]
    rfl
  rw [run_expr_full full, if_pos room, exec, tiedTo, exec, literal]
  rfl

def World.countNodes (w : World) (k : Nat) : World := { w with statements := w.statements + k }

theorem World.countNodes_zero (w : World) : w.countNodes 0 = w := by
  have same : w.statements + (0 : Nat) = w.statements := Int.add_zero _
  rw [countNodes, same]

theorem World.countNodes_countNode (w : World) (k : Nat) : w.countNode.countNodes k = w.countNodes (k + 1) := by
  have same : w.statements + 1 + (k : Int) = w.statements + (k + 1 : Nat) := by omega
  show { w with statements := w.statements + 1 + (k : Int) } = w.countNodes (k + 1)
  rw [same]
  rfl

theorem spread_nonneg (elts : List Expr) : 0 ≤ spread elts := by
  induction elts with
  | nil => exact Int.le_refl 0
  | cons e elts ih =>
    have here : spread (e :: elts) = ((textLiteral? e).elim 0 String.length + 1 : Nat) + spread elts := rfl
    omega

theorem exec_unwrapElements_text (full : w.simple = false) (room : w.HasRoom)
    (start : 0 ≤ total) (short : total + s.length + 1 ≤ w.limits.maxConstLen) :
    (unwrapElements .ask true total acc (.constant sp (.str s u) :: elts)).exec (run (n + 1)) w =
      (unwrapElements .ask true (total + s.length + 1) (acc.push (.str s true)) elts).exec (run (n + 1))
        w.countNode := by
  have value := run_textLiteral (n := n) full room (s := s) (by omega) sp u
  have enough : ¬ total + (s.length : Int) + 1 > w.countNode.limits.maxConstLen := Int.not_lt.mpr short
  have watched : (watchSize true sp total (sizeOf .ask (.str s true))).exec (run (n + 1)) w.countNode =
      .ok (total + s.length + 1) w.countNode := by
    show (bind .read fun w : World => if total + (s.length : Int) + 1 > w.limits.maxConstLen then _
      else _).exec _ _ = _
    rw [exec_read_bind, if_neg enough]
    rfl
  show (bind (.ask (.expr (.constant sp (.str s u)))) _).exec _ _ = _
  rw [exec, exec, value]
  exact exec_bind_ok watched _

theorem exec_unwrapElements_texts (texts : elts.all isTextLiteral = true)
    (full : w.simple = false) (room : w.statements + elts.length ≤ w.limits.maxStatements)
    (start : 0 ≤ total) (short : total + spread elts ≤ w.limits.maxConstLen) (acc : Array Value) :
    ∃ vs, (unwrapElements .ask true total acc elts).exec (run (n + 1)) w = .ok vs (w.countNodes elts.length) := by
  induction elts generalizing w total acc with
  | nil => exact ⟨acc, congrArg (EStateM.Result.ok acc) (w.countNodes_zero).symm⟩
  | cons e elts ih =>
    rw [all_cons, Bool.and_eq_true] at texts
    obtain ⟨text, texts⟩ := texts
    obtain ⟨sp, s, u, rfl⟩ := eq_of_isTextLiteral text
    have here : spread (.constant sp (.str s u) :: elts) = (s.length + 1 : Nat) + spread elts := rfl
    have rest := spread_nonneg elts
    rw [length_cons] at room
    have counted : w.countNode.statements + elts.length ≤ w.countNode.limits.maxStatements := by
      show w.statements + 1 + elts.length ≤ w.limits.maxStatements
      omega
    have short' : total + s.length + 1 + spread elts ≤ w.countNode.limits.maxConstLen := by
      show total + s.length + 1 + spread elts ≤ w.limits.maxConstLen
      omega
    obtain ⟨vs, ran⟩ := ih (w := w.countNode) texts full counted (by omega) short' (acc.push (.str s true))
    refine ⟨vs, ?_⟩
    rw [exec_unwrapElements_text full (by unfold World.HasRoom; omega) start (by omega), ran,
      World.countNodes_countNode]
    rfl

theorem exec_handlerFits (texts : namesTexts h = true) (full : w.simple = false)
    (room : w.statements + (elements h).length ≤ w.limits.maxStatements)
    (short : IsShort w.limits.maxConstLen h) (name : String) :
    (handlerFits .ask name h).exec (run (n + 1)) w = .ok (takesClass name h) (w.countNodes (elements h).length) := by
  -- that it answers at all is enough, since the answer is known
  suffices ends : ∃ fits, (handlerFits .ask name h).exec (run (n + 1)) w =
      .ok fits (w.countNodes (elements h).length) by
    obtain ⟨fits, ran⟩ := ends
    rw [ran, gives_handlerFits name h fits _ ran]
  cases h with
  | mk sp type _ _ =>
    cases type with
    | none => exact ⟨true, congrArg (EStateM.Result.ok true) w.countNodes_zero.symm⟩
    | some type =>
      cases type with
      | constant at0 l =>
        cases l with
        | str s u =>
          have inside : ¬ (s.length : Int) > w.limits.maxConstLen := Int.not_lt.mpr short
          refine ⟨s == name, ?_⟩
          show (Eval.bind .read fun w : World =>
            if (s.length : Int) > w.limits.maxConstLen then Eval.bind (failAt _ _ _) fun _ => _
            else .pure (s == name)).exec (run (n + 1)) w = _
          rw [exec_read_bind, if_neg inside]
          exact congrArg (EStateM.Result.ok _) w.countNodes_zero.symm
        | _ => cases texts
      | tuple _ elts _ =>
        have texts : elts.all isTextLiteral = true := texts
        obtain ⟨vs, ran⟩ := exec_unwrapElements_texts texts full room (Int.le_refl 0)
          ((Int.zero_add _).symm ▸ short) #[]
        refine ⟨vs.any fun v => v.asText? == some name, ?_⟩
        dsimp only [handlerFits]
        rw [texts]
        show (Eval.bind (unwrapElements .ask true 0 #[] elts) fun vs =>
          .pure (vs.any fun v => v.asText? == some name)).exec (run (n + 1)) w = _
        rw [exec, ran]
        rfl
      | _ => cases texts

/-- There is room to ask handlers, all of which name texts. -/
structure Legible (w : World) (hs : List Handler) : Prop where
  full : w.simple = false
  texts : ∀ h ∈ hs, namesTexts h = true
  short : ∀ h ∈ hs, IsShort w.limits.maxConstLen h
  room : w.statements + (hs.flatMap elements).length ≤ w.limits.maxStatements

theorem Legible.exec_findHandler (legible : Legible w hs) (name : String) :
    ∃ w', (findHandler .ask name hs).exec (run (n + 1)) w = .ok (hs.find? (takesClass name)) w' := by
  induction hs generalizing w with
  | nil => exact ⟨w, rfl⟩
  | cons h hs ih =>
    have room := legible.room
    rw [flatMap_cons, length_append] at room
    have answer := exec_handlerFits (n := n) (legible.texts h mem_cons_self) legible.full
      (by omega) (legible.short h mem_cons_self) name
    have rule : findHandler .ask name (h :: hs) = Eval.bind (handlerFits .ask name h) fun fits =>
      if fits = true then .pure (some h) else findHandler .ask name hs := rfl
    rw [rule, exec, answer]
    cases takes : takesClass name h with
    | true => exact ⟨_, by rw [find?_cons_of_pos takes]; rfl⟩
    | false =>
      have rest : Legible (w.countNodes (elements h).length) hs := by
        refine ⟨legible.full, fun g member => legible.texts g (mem_cons_of_mem h member),
          fun g member => legible.short g (mem_cons_of_mem h member), ?_⟩
        show w.statements + ((elements h).length : Int) + _ ≤ w.limits.maxStatements
        omega
      rw [find?_cons_of_neg (Bool.eq_false_iff.mp takes)]
      exact ih rest

end

/-! ## 6. Errors out of calls, and their handlers -/

/-- **Handlers see the innermost cause, out of however many calls.**  An error keeps the cause that it began
    with on its way out of calls, and was raised in the run that it ends.  A `try` leaves a limit alone, and
    answers any other error with the first handler that names the class of that cause. -/
theorem handlers_see_innermost_cause (n : Nat) (w : World) (e : ScriptError) :
    (∀ cs : List CallSite, cs ≠ [] →
      ∃ cause, (e.outOfAll cs).original = some cause ∧ cause.wraps = false ∧
        cause.unnoted = e.cause.unnoted) ∧
    (∀ call : FailingCall n w, run (n + 2) (.expr call.expr) w =
      .error (.script (call.error.outOf call.site)) (call.callee.leaveBody call.caller)) ∧
    (∀ (α : Type) (t : Task α) (w' : World), run n t w = .error (.script e) w' →
      RaisedIn (history n t w) e.origin) ∧
    (∀ (body orelse : List Stmt) (hs : List Handler) (w' : World),
      run n (.body body) w = .error (.script e) w' →
      (execGuarded .ask body hs orelse).exec (run n) w =
        if e.cause.isLimit then .error (.script e) w' else answered n hs e w') ∧
    ∀ (cs : List CallSite) (hs : List Handler),
      (e.outOfAll cs).cause.isLimit = e.cause.isLimit ∧
      (∀ found w', (findHandler .ask (e.outOfAll cs).cause.className hs).exec (run n) w = .ok found w' →
        found = hs.find? (takesClass e.origin.className)) ∧
      (0 < n → Legible w hs →
        ∃ w', (findHandler .ask (e.outOfAll cs).cause.className hs).exec (run n) w =
          .ok (hs.find? (takesClass e.origin.className)) w') := by
  refine ⟨fun cs some => ?_, fun call => call.run_expr, fun α t w' ran => ?_, fun body orelse hs w' => ?_,
    fun cs hs => ?_⟩
  · refine ⟨(e.outOfAll cs).cause, ?_, (e.outOfAll cs).wraps_cause, e.unnoted_cause_outOfAll cs⟩
    exact ScriptError.original_of_wraps (e.wraps_outOfAll some)
  · have runs := runs_history n t w
    rw [ran] at runs
    exact runs.origin rfl rfl
  · exact fun fails => exec_execGuarded_of_fails fails hs orelse
  · have same := e.unnoted_cause_outOfAll cs
    have className : (e.outOfAll cs).cause.className = e.origin.className := by
      rw [← e.className_cause, ← Cause.className_unnoted, same, Cause.className_unnoted]
    have isLimit : (e.outOfAll cs).cause.isLimit = e.cause.isLimit := by
      rw [← Cause.isLimit_unnoted, same, Cause.isLimit_unnoted]
    refine ⟨isLimit, ?_, fun positive legible => ?_⟩
    · rw [className]
      exact fun found w' ran => gives_findHandler _ hs found w' ran
    · obtain ⟨m, rfl⟩ := Nat.exists_eq_succ_of_ne_zero (Nat.ne_of_gt positive)
      rw [className]
      exact legible.exec_findHandler _

/-- Does a run end with an error of a script, of which something holds in the world at its end? -/
def failsAs {α : Type} (holds : ScriptError → World → Bool) : Outcome α → Bool
  | .error (.script e) w => holds e w
  | _ => false

theorem exists_of_failsAs {α : Type} {r : Outcome α}
    (fails : failsAs holds r = true) : ∃ e w, r = .error (.script e) w ∧ holds e w = true := by
  cases r with
  | ok v w => cases fails
  | error e w =>
    cases e with
    | script e => exact ⟨e, w, rfl, fails⟩
    | fault | waiting | outOfFuel => cases fails

theorem handlers_see_innermost_cause_two_deep :
    let sp : Span := ⟨1, 0, 1, 0⟩
    let called (e : Expr) : Expr := .call sp (.lambda sp (.mk [] [] none [] [] none []) e) [] []
    let text (s : String) : Expr := .constant sp (.str s false)
    let body : List Stmt := [.expr sp (called (called (.name sp "missing" .load)))]
    let first : Handler := .mk sp (some (text "ValueError")) none [.pass sp]
    let second : Handler := .mk sp (some (.tuple sp [text "KeyError", text "NotDefined"] .load)) none []
    let w : World := {}
    ∃ e w' w'', run 20 (.body body) w = .error (.script e) w' ∧ e.wraps = true ∧
      RaisedIn (history 20 (.body body) w) e.origin ∧
      (execGuarded .ask body [first, second] []).exec (run 20) w = answered 20 [first, second] e w' ∧
      (findHandler .ask e.cause.className [first, second]).exec (run 20) w' = .ok (some second) w'' := by
  intro sp called text body first second w
  have fails : failsAs (fun e w' => e.wraps && !e.cause.isLimit && e.origin.className == "NotDefined" &&
      !w'.simple && decide (w'.statements + 2 ≤ w'.limits.maxStatements) &&
      decide (20 ≤ w'.limits.maxConstLen)) (run 20 (.body body) w) = true := by decide +kernel
  obtain ⟨e, w', ran, holds⟩ := exists_of_failsAs fails
  simp only [Bool.and_eq_true, Bool.not_eq_true', beq_iff_eq, decide_eq_true_eq] at holds
  obtain ⟨⟨⟨⟨⟨wraps, noLimit⟩, className⟩, full⟩, room⟩, long⟩ := holds
  have legible : Legible w' [first, second] := by
    refine ⟨full, by decide, fun h member => ?_, room⟩
    simp only [List.mem_cons, List.not_mem_nil, or_false] at member
    rcases member with rfl | rfl
    · exact Int.le_trans (by decide) long
    · exact Int.le_trans (by decide) long
  obtain ⟨-, -, raised, handled, -⟩ := handlers_see_innermost_cause 20 w e
  obtain ⟨-, -, -, -, search⟩ := handlers_see_innermost_cause 20 w' e
  obtain ⟨w'', found⟩ := (search [] [first, second]).2.2 (by decide) legible
  have answer := handled body [] [first, second] w' ran
  rw [noLimit, if_neg Bool.false_ne_true] at answer
  rw [className] at found
  exact ⟨e, w', w'', ran, wraps, raised _ _ w' ran, answer, found⟩

end AliasTools.Script
