import AliasTools.Proofs.History

/-!
# What runs can do

* `Runs` — all that a run can do to the world, to its history and to its ending, as rules;
* `runs_history` — every run follows the rules, so that a property of all runs is proved by an induction
  on them;
* `Moves` — the same without the endings, for properties that do not ask how a run ends.
-/

namespace AliasTools.Script

open Syntax List Wrapping Change Names Entries Eval

/-! ## 1. What a run can do -/

def worldOf {α : Type} : Outcome α → World
  | .ok _ w | .error _ w => w

def failureOf {α : Type} : Outcome α → Option Failure
  | .ok _ _ => none
  | .error e _ => some e

section

variable {α : Type} (v : α) (e : Failure) (w : World)

@[simp] theorem worldOf_ok : worldOf (.ok v w : Outcome α) = w := rfl

@[simp] theorem worldOf_error : worldOf (.error e w : Outcome α) = w := rfl

@[simp] theorem failureOf_ok : failureOf (.ok v w : Outcome α) = none := rfl

@[simp] theorem failureOf_error : failureOf (.error e w : Outcome α) = some e := rfl

end

def ScriptError.texts : ScriptError → List String
  | .form _ source _ => [source]
  | .invalid _ _ s | .annotated _ s => [s.source]
  | .nested _ s inner => s.source :: inner.texts

def Failure.texts : Failure → List String
  | .script e => e.texts
  | _ => []

/-- `w.Enters r inner back`: a region is entered from the world `w` in the world `inner`, and left by `back`.
    A module is imported that is neither there nor being imported. -/
inductive World.Enters (w : World) : Region → World → (World → World) → Prop where
  | work (a : Addr) : w.Enters (.work a) w id
  | body (f : Addr) (c : Closure) (found : w.heap[f]? = some (.closure c))
    (within : w.deeper.depth ≤ w.limits.maxDepth) :
    w.Enters (.body f c.source) (w.deeper.enterBody c) (·.leaveBody w)
  | module (within : w.deeper.depth ≤ w.limits.maxDepth) : w.Enters .module w.deeper.enterModule (·.leaveModule w)
  | importing (addr : String) (new : addr ∉ w.importing) (missing : w.modules.get? addr = none) :
    w.Enters (.import addr) (w.enterImport addr) World.leaveImport
  | text (source : String) : w.Enters (.text source) (w.inText source) (·.inText w.source)

/-- `Runs w h w' r`: from the world `w`, with the history `h`, to the world `w'`, where it ends well or
    with a failure.  A rule for each thing that a computation can do. -/
inductive Runs : World → List Event → World → Option Failure → Prop where
  | done (w : World) : Runs w [] w none
  | outOfFuel (w : World) : Runs w [] w (some .outOfFuel)
  /-- A failure arises, and holds no text but the one that is being run. -/
  | raise (w : World) (e : Failure) (here : ∀ t ∈ e.texts, t = w.source) : Runs w [.raised e] w (some e)
  | change (w : World) (c : Change) : Runs w (c.events w) (c.apply w) none
  /-- A cell is made, in the text that is being run. -/
  | make (w : World) (c : Cell) (fresh : c.isFresh = true) (here : c.madeIn w.source = c) :
    Runs w [.made w.heap.size] { w with heap := w.heap.push c } none
  | read (w : World) (name : String) : Runs w [.read name w] w none
  /-- A name that is not built in is bound. -/
  | assign (w : World) (name : String) (v : Value) (free : w.builtins.has name = false) :
    Runs w [] (w.bindName name v) none
  | node (w : World) (span : Span) (within : w.countNode.statements ≤ w.limits.maxStatements) :
    Runs w [.node span] w.countNode none
  | noNode (w : World) (e : Failure) (here : ∀ t ∈ e.texts, t = w.source) : Runs w [.raised e] w.countNode (some e)
  | round (w : World) (r : Rounds) (within : w.countRound.loops ≤ w.limits.maxLoops) :
    Runs w [.round r] w.countRound none
  | noRound (w : World) (e : Failure) (here : ∀ t ∈ e.texts, t = w.source) : Runs w [.raised e] w.countRound (some e)
  | seq (first : Runs w h w' none) (second : Runs w' h' w'' r) : Runs w (h ++ h') w'' r
  /-- A failure that is no limit is answered. -/
  | answer (first : Runs w h w' (some e)) (noLimit : e.isLimit = false) (second : Runs w' h' w'' r) :
    Runs w (h ++ h') w'' r
  /-- A failure goes on after something was done that went well. -/
  | goOn (first : Runs w h w' (some e)) (noLimit : e.isLimit = false) (second : Runs w' h' w'' none) :
    Runs w (h ++ h') w'' (some e)
  /-- A failure passes something on its way, without a limit getting lost. -/
  | wrap (first : Runs w h w' (some e)) (k : Wrapping) (lossless : k.loss w'.source e = []) :
    Runs w (h ++ k.ties e) w' (some (k.apply w'.source e))
  | clean (first : Runs w h w' (some e)) (c : Change) : Runs w (h ++ c.events w') (c.apply w') (some e)
  /-- A limit gets lost, and the run goes on in some way. -/
  | swallow (l : Loss) (first : Runs w h w' (some e)) (limit : e.isLimit = true) (second : Runs w' h' w'' r) :
    Runs w (h ++ .swallowed l e :: h') w'' r
  /-- A limit goes on after the last part of a `try` went well. -/
  | unwind (first : Runs w h w' (some e)) (limit : e.isLimit = true) (second : Runs w' h' w'' none) :
    Runs w (h ++ .unwinding :: h' ++ [.unwound]) w'' (some e)
  /-- A limit gets lost in the last part of a `try`, which leaves or fails with what is no limit. -/
  | lose (first : Runs w h w' (some e)) (limit : e.isLimit = true) (second : Runs w' h' w'' r)
    (noLimit : ∀ e' ∈ r, e'.isLimit = false) :
    Runs w (h ++ .unwinding :: h' ++ [.unwound, .swallowed .lastPart e]) w'' r
  /-- The last part of a `try` ends with a limit of its own. -/
  | supersede (first : Runs w h w' (some e)) (limit : e.isLimit = true) (second : Runs w' h' w'' (some e'))
    (later : e'.isLimit = true) :
    Runs w (h ++ .unwinding :: h' ++ [.unwound, .superseded e]) w'' (some e')
  | within {r : Region} {inner : World} {back : World → World} (enters : w.Enters r inner back)
    (first : Runs inner h w' f) : Runs w (.entered r :: h ++ [.left r]) (back w') f
  | noBody (w : World) (f : Addr) (beyond : w.limits.maxDepth < w.deeper.depth) (k : InvalidKind)
    (m : String) : Runs w [.refused f, .raised (.waiting k m)] w.deeper (some (.waiting k m))
  | noModule (w : World) (f : Fault) :
    Runs w [.raised (.fault f)] (w.deeper.enterModule.leaveModule w) (some (.fault f))
  | imported (addr : String) (m : Value) (new : addr ∉ w.importing) (missing : w.modules.get? addr = none)
    (first : Runs (w.enterImport addr) h w' none) :
    Runs w (.entered (.import addr) :: h ++ [.left (.import addr)] ++ [.loaded addr m])
      (w'.leaveImport.keepModule addr m) none
  | complete (first : Runs w h w' none) (s : Stmt) : Runs w (h ++ [.completed s]) w' none

/-- An event at which nothing is done to the world. -/
inductive Event.Remark : Event → Prop where
  | raised (e : Failure) : Remark (.raised e)
  | tied (span : Span) : Remark (.tied span)
  | unwinding : Remark .unwinding
  | unwound : Remark .unwound
  | swallowed (l : Loss) (e : Failure) : Remark (.swallowed l e)
  | superseded (e : Failure) : Remark (.superseded e)
  | completed (s : Stmt) : Remark (.completed s)

/-- One generator is another, at another point of its way. -/
structure Generator.Goes (g g' : Generator) : Prop where
  layer : g'.layer = g.layer
  previous : g'.previous = g.previous
  begun : g'.progress = .notStarted → g.progress = .notStarted
  running : ∀ runs, g'.progress = .running runs → ∃ runs, g.progress = .running runs
  text : g'.emit = g.emit ∧ g'.clauses = g.clauses

/-- What another cell can be put in the place of, outside of containers and generators: one of its sort.
    A counter that is done stays. -/
inductive Cell.Renewed : Cell → Cell → Prop where
  | object (k : Sheet.ObjectKind) (fields fields' : Names) : Renewed (.object k fields) (.object k fields')
  | roll (r r' : RollRecord) : Renewed (.roll r) (.roll r')
  | counter {c : Cursor} (going : c ≠ .done) (n : Int) (c' : Cursor) (n' : Int) :
    Renewed (.counter c n) (.counter c' n')

/-- `Moves w h w'`: from the world `w`, with the history `h`, to the world `w'`. -/
inductive Moves : World → List Event → World → Prop where
  | done (w : World) : Moves w [] w
  | remark (w : World) (e : Event) (remark : e.Remark) : Moves w [e] w
  | alter (w : World) (a : Addr) (what : Alteration) (c : Cell) (found : w.heap[a]? = some c) :
    Moves w [.altered what c] (w.putCell a (what.apply c))
  | put (w : World) (a : Addr) (c c' : Cell) (found : w.heap[a]? = some c) (renewed : c.Renewed c') :
    Moves w [] (w.putCell a c')
  | tabled (w : World) (a : Addr) (what : TableChange) (t : ArgumentTable) (n : Option Int)
    (found : w.heap[a]? = some (.arguments t n)) :
    Moves w [.tabled a what t] (w.putCell a (.arguments (what.apply t) n))
  | make (w : World) (c : Cell) (fresh : c.isFresh = true) (here : c.madeIn w.source = c) :
    Moves w [.made w.heap.size] { w with heap := w.heap.push c }
  /-- A generator goes on, without beginning or ending. -/
  | go (w : World) (a : Addr) (g g' : Generator) (found : w.heap[a]? = some (.generator g))
    (goes : g.Goes g') : Moves w [] (w.putCell a (.generator g'))
  | began (w : World) (a : Addr) (g : Generator) (found : w.heap[a]? = some (.generator g))
    (new : g.progress = .notStarted) : Moves w [.began a w.layers.size] (w.beginGenerator a g)
  | ended (w : World) (a : Addr) (g : Generator) (found : w.heap[a]? = some (.generator g))
    (running : ∃ runs, g.progress = .running runs) : Moves w [.ended a] (w.endGenerator a g)
  | bindLoop (w : World) (layer : Nat) (name : String) (v : Value) :
    Moves w [] { w with layers := w.layers.modify layer (·.put name v) }
  | assigned (w : World) (name : String) (v : Value) (free : w.builtins.has name = false) :
    Moves w [] (w.bindName name v)
  | bound (w : World) (how : Binding) (name : String) (v : Value) (isOpen : how.isOpen w = true) :
    Moves w [.bound how name w.scope] (w.bindName name v)
  /-- What no counter, cell, scope or layer is touched by. -/
  | elsewhere (w : World) (dice : Dice.Source) (session : Session) :
    Moves w [] { w with dice := dice, session := session }
  /-- A shared variable is kept that was not there. -/
  | kept (w : World) (key : String) (v : Value) (new : w.stores key = false) :
    Moves w [] { w with gvars := some (w.store.put key v) }
  | read (w : World) (name : String) : Moves w [.read name w] w
  | node (w : World) (span : Span) (within : w.countNode.statements ≤ w.limits.maxStatements) :
    Moves w [.node span] w.countNode
  /-- A node was counted and refused, or a pattern was counted. -/
  | noNode (w : World) : Moves w [] w.countNode
  | round (w : World) (r : Rounds) (within : w.countRound.loops ≤ w.limits.maxLoops) : Moves w [.round r] w.countRound
  | noRound (w : World) : Moves w [] w.countRound
  | append (first : Moves w h w') (second : Moves w' h' w'') : Moves w (h ++ h') w''
  | within {r : Region} {inner : World} {back : World → World} (enters : w.Enters r inner back)
    (first : Moves inner h w') : Moves w (.entered r :: h ++ [.left r]) (back w')
  | noBody (w : World) (f : Addr) (beyond : w.limits.maxDepth < w.deeper.depth) : Moves w [.refused f] w.deeper
  | noModule (w : World) : Moves w [] (w.deeper.enterModule.leaveModule w)
  | loaded (w : World) (addr : String) (m : Value) (new : addr ∉ w.importing)
    (missing : w.modules.get? addr = none) : Moves w [.loaded addr m] (w.keepModule addr m)

variable {α : Type} {x : Eval α} {w w' : World} {h : List Event} (k : Wrapping)

/-! ## 2. Every run follows the rules -/

theorem Wrapping.eq_outOfFuel_of_module (lossless : (module address).loss source e = []) : e = .outOfFuel := by
  cases e with
  | outOfFuel => rfl
  | fault _ | waiting _ _ | script _ => exact absurd lossless (append_ne_nil_of_right_ne_nil _ (cons_ne_nil _ _))

theorem Wrapping.isLimit_apply (source : String) (e : Failure) (lossless : k.loss source e = []) :
    (k.apply source e).isLimit = e.isLimit := by
  cases k with
  | node span | call span => cases e <;> rfl
  | context name =>
    cases e with
    | script e => cases e <;> rfl
    | fault _ | waiting _ _ | outOfFuel => rfl
  | module address =>
    rw [eq_outOfFuel_of_module lossless]
    rfl

section

variable (w : World) (source : String)

theorem Complaint.texts_failure (c : Complaint) : ∀ t ∈ (c.failure source).texts, t = source := by
  cases c with
  | form f => exact fun t member => mem_singleton.mp member
  | fault _ | waiting _ _ | outOfFuel => exact nofun

theorem World.texts_errorAt (kind : InvalidKind) (message : String) (span : Span) :
    ∀ t ∈ (w.errorAt kind message span).texts, t = w.source :=
  fun _ member => mem_singleton.mp member

theorem World.texts_noShadow (span : Option Span) (name : String) :
    ∀ t ∈ (w.noShadow span name).texts, t = w.source := by
  cases span with
  | some span => exact w.texts_errorAt _ _ span
  | none => exact nofun

end

section

variable {answer : Answering} {told : Telling} {β : Type}

-- Their equations are needed by every rule below, so they are set up once.
attribute [local simp] log exec

def Follows (answer : Answering) (told : Telling) (x : Eval α) : Prop :=
  ∀ w, Runs w (x.log answer told w) (worldOf (x.exec answer w)) (failureOf (x.exec answer w))

theorem Follows.ends (hx : Follows answer told x) (w : World) :
    (∃ v w', x.exec answer w = .ok v w' ∧ Runs w (x.log answer told w) w' none) ∨
      ∃ e w', x.exec answer w = .error e w' ∧ Runs w (x.log answer told w) w' (some e) := by
  have runs := hx w
  cases out : x.exec answer w with
  | ok v w' => exact .inl ⟨v, w', rfl, by rwa [out] at runs⟩
  | error e w' => exact .inr ⟨e, w', rfl, by rwa [out] at runs⟩

theorem follows_bind {f : α → Eval β} (hx : Follows answer told x)
    (hf : ∀ v, Follows answer told (f v)) : Follows answer told (x.bind f) := by
  intro w
  rcases hx.ends w with ⟨v, w', out, first⟩ | ⟨e, w', out, first⟩ <;> rw [log, exec, out]
  · exact first.seq (hf v w')
  · simpa using first

theorem follows_assign (span : Option Span) (name : String) (v : Value) :
    Follows answer told (.assign span name v) := by
  intro w
  rw [log, exec]
  cases free : w.builtins.has name with
  | true => exact .raise w _ (w.texts_noShadow span name)
  | false => exact .assign w name v free

theorem follows_node (span : Span) : Follows answer told (.node span) := by
  intro w
  rw [log, exec]
  by_cases beyond : w.countNode.statements > w.countNode.limits.maxStatements
  · simp only [beyond]
    exact .noNode w _ (w.countNode.texts_errorAt _ _ span)
  · simp only [beyond]
    exact .node w span (Int.not_lt.mp beyond)

theorem follows_round (r : Rounds) (span : Span) : Follows answer told (.round r span) := by
  intro w
  rw [log, exec]
  by_cases beyond : w.countRound.loops > w.countRound.limits.maxLoops
  · simp only [beyond]
    exact .noRound w _ (w.countRound.texts_errorAt _ _ span)
  · simp only [beyond]
    exact .round w r (Int.not_lt.mp beyond)

theorem follows_onFault (hx : Follows answer told x) (hf : ∀ e, Follows answer told (f e)) :
    Follows answer told (x.onFault answers f) := by
  intro w
  rcases hx.ends w with ⟨v, w', out, first⟩ | ⟨e, w', out, first⟩ <;> rw [log, exec, out]
  · simpa using first
  · cases e with
    | fault e =>
      by_cases answered : answers e
      · simp only [answered]
        exact first.answer rfl (hf e w')
      · simpa [answered] using first
    | waiting _ _ | script _ | outOfFuel => simpa using first

theorem follows_wrapped (hx : Follows answer told x) : Follows answer told (x.wrapped k) := by
  intro w
  rcases hx.ends w with ⟨v, w', out, first⟩ | ⟨e, w', out, first⟩ <;> rw [log, exec, out]
  · simpa using first
  by_cases lossless : k.loss w'.source e = []
  · simp only [lossless, append_nil]
    exact first.wrap k lossless
  · -- a module was being imported, and a fault is raised in the place of `e`
    cases k with
    | module address =>
      have here : ∀ t ∈ ((module address).apply w'.source e).texts, t = w'.source := by cases e <;> exact nofun
      have second := Runs.raise w' _ here
      have loss : (module address).loss w'.source e =
          (if e.isLimit then [.swallowed (.import address) e] else []) ++
            [.raised ((module address).apply w'.source e)] := by
        cases e with
        | outOfFuel => exact absurd rfl lossless
        | fault _ | waiting _ _ | script _ => rfl
      simp only [loss]
      cases limit : e.isLimit with
      | true => exact first.swallow _ limit second
      | false => exact first.answer limit second
    | node _ | call _ | context _ => exact absurd (by cases e <;> rfl) lossless

theorem follows_cleaning (c : Change) (hx : Follows answer told x) : Follows answer told (x.cleaning c) := by
  intro w
  rcases hx.ends w with ⟨v, w', out, first⟩ | ⟨e, w', out, first⟩ <;> rw [log, exec, out]
  · simpa using first
  · exact first.clean c

theorem follows_rescue (hx : Follows answer told x)
    (hf : ∀ e, Follows answer told (f e)) : Follows answer told (x.rescue f) := by
  intro w
  rcases hx.ends w with ⟨v, w', out, first⟩ | ⟨e, w', out, first⟩ <;> rw [log, exec, out]
  · simpa using first
  cases e with
  | script e =>
    cases limit : e.cause.isLimit with
    | true => simpa [limit] using first
    | false =>
      rcases (hf e).ends w' with ⟨v, w'', answered, second⟩ | ⟨e', w'', answered, second⟩ <;>
        simp only [limit, answered]
      · cases v with
        | some v => exact first.answer limit second
        | none => exact first.goOn limit second
      · exact first.answer limit second
  | fault _ | waiting _ _ | outOfFuel => simpa using first

section

variable {w w' : World} {h : List Event} {e : Failure} {final : Eval Flow}

theorem runs_lastly_limit (first : Runs w h w' (some e)) (limit : e.isLimit = true)
    (hfinal : Follows answer told final) :
    Runs w (h ++ .unwinding :: final.log answer told w' ++ .unwound :: lossAfter e (final.exec answer w'))
      (worldOf (lastOutcome (.error e w') (final.exec answer w')))
      (failureOf (lastOutcome (.error e w') (final.exec answer w'))) := by
  rcases hfinal.ends w' with ⟨last, w'', out, second⟩ | ⟨e', w'', out, second⟩ <;> rw [out]
  · by_cases leaves : last.leaves
    · simp only [lossAfter, lastOutcome, leaves]
      exact first.lose limit second (by simp)
    · simp only [lossAfter, lastOutcome, leaves]
      exact first.unwind limit second
  · cases later : e'.isLimit with
    | true =>
      simp only [lossAfter, later]
      exact first.supersede limit second later
    | false =>
      simp only [lossAfter, lastOutcome, later]
      exact first.lose limit second (by simpa using later)

theorem runs_lastly_error (first : Runs w h w' (some e)) (noLimit : e.isLimit = false)
    (hfinal : Follows answer told final) :
    Runs w (h ++ final.log answer told w') (worldOf (lastOutcome (.error e w') (final.exec answer w')))
      (failureOf (lastOutcome (.error e w') (final.exec answer w'))) := by
  rcases hfinal.ends w' with ⟨last, w'', out, second⟩ | ⟨e', w'', out, second⟩ <;> rw [out]
  · by_cases leaves : last.leaves
    · simp only [lastOutcome, leaves]
      exact first.answer noLimit second
    · simp only [lastOutcome, leaves]
      exact first.goOn noLimit second
  · exact first.answer noLimit second

end

theorem follows_lastly {x : Eval Flow} (hx : Follows answer told x)
    (hfinal : Follows answer told final) : Follows answer told (x.lastly final) := by
  intro w
  rcases hx.ends w with ⟨v, w', out, first⟩ | ⟨e, w', out, first⟩ <;> rw [log, exec, out]
  · dsimp only
    rcases hfinal.ends w' with ⟨last, w'', out, second⟩ | ⟨e', w'', out, second⟩ <;> rw [out]
    · by_cases leaves : last.leaves <;> simp only [lastOutcome, leaves] <;> exact first.seq second
    · exact first.seq second
  cases e with
  | outOfFuel => simpa using first
  | fault _ | waiting _ _ | script _ =>
    dsimp only
    split
    · next limit => simpa using runs_lastly_limit first limit hfinal
    · next other => exact runs_lastly_error first (Bool.eq_false_iff.mpr other) hfinal

theorem follows_fallback (hx : Follows answer told x) (hy : Follows answer told y) :
    Follows answer told (x.fallback y) := by
  intro w
  rcases hx.ends w with ⟨v, w', out, first⟩ | ⟨e, w', out, first⟩ <;> rw [log, exec, out]
  · simpa using first
  cases e with
  | outOfFuel => simpa using first
  | fault _ | waiting _ _ | script _ =>
    dsimp only
    split
    · next limit => simpa using first.swallow .fallback limit (hy w')
    · next other => exact first.answer (Bool.eq_false_iff.mpr other) (hy w')

theorem Follows.within (hx : Follows answer told x) {inner : World} (enters : w.Enters r inner back)
    (same : out = match x.exec answer inner with
      | .ok v w' => .ok v (back w')
      | .error e w' => .error e (back w')) :
    Runs w (.entered r :: x.log answer told inner ++ [.left r]) (worldOf out) (failureOf out) := by
  rcases hx.ends inner with ⟨v, w', out, first⟩ | ⟨e, w', out, first⟩ <;> rw [same, out]
  · exact first.within enters
  · exact first.within enters

theorem follows_working (a : Addr) (hx : Follows answer told x) : Follows answer told (x.working a) := by
  intro w
  rcases hx.ends w with ⟨v, w', out, first⟩ | ⟨e, w', out, first⟩ <;> rw [log, exec, out]
  · exact first.within (.work a)
  · -- a generator whose work fails ends, still inside of its region
    have ended := (first.clean (.turn a .finish)).within (.work a)
    simpa [events, Change.apply] using ended

theorem World.functionAt?_eq_some : w.functionAt? f = some c ↔ w.heap[f]? = some (.closure c) := by
  unfold World.functionAt?
  split
  · next found => rw [found, Option.some.injEq, Option.some.injEq, Cell.closure.injEq]
  · next other => exact ⟨nofun, fun found => absurd found (other c)⟩

theorem follows_inBody (f : Addr) (hx : Follows answer told x) : Follows answer told (x.inBody f) := by
  intro w
  rw [log, exec]
  cases found : w.functionAt? f with
  | none => exact .raise w _ nofun
  | some c =>
    by_cases beyond : w.deeper.depth > w.deeper.limits.maxDepth
    · -- the limits of `w.deeper` are those of `w`; the history asks in the words of `w`
      have beyond' : w.deeper.depth > w.limits.maxDepth := beyond
      simp only [beyond, beyond']
      exact .noBody w f beyond' _ _
    · have beyond' : ¬ w.deeper.depth > w.limits.maxDepth := beyond
      simp only [beyond, beyond']
      exact hx.within (.body f c (World.functionAt?_eq_some.mp found) (Int.not_lt.mp beyond')) rfl

theorem follows_inModule (hx : Follows answer told x) : Follows answer told x.inModule := by
  intro w
  rw [log, exec]
  by_cases beyond : w.deeper.enterModule.depth > w.deeper.enterModule.limits.maxDepth
  · have beyond' : w.deeper.depth > w.limits.maxDepth := beyond
    simp only [beyond, beyond']
    exact .noModule w _
  · have beyond' : ¬ w.deeper.depth > w.limits.maxDepth := beyond
    simp only [beyond, beyond']
    exact hx.within (.module (Int.not_lt.mp beyond')) rfl

theorem follows_importing (addr : String) (hload : Follows answer told load) :
    Follows answer told (.importing addr load) := by
  intro w
  have first := hload (w.enterImport addr)
  rw [log, exec]
  by_cases busy : w.importing.contains addr
  · simp only [busy]
    exact .raise w _ nofun
  · have new : addr ∉ w.importing := fun member => busy (contains_iff_mem.mpr member)
    simp only [busy]
    cases missing : w.modules.get? addr with
    | some m => exact .done w
    | none =>
      cases out : load.exec answer (w.enterImport addr) with
      | ok m w' =>
        rw [out] at first
        exact first.imported addr m new missing
      | error e w' =>
        rw [out] at first
        simpa using first.within (.importing addr new missing)

theorem Eval.follows (tasks : ∀ {β : Type} (t : Task β), Follows answer told (.ask t)) (x : Eval α) :
    Follows answer told x := by
  induction x with
  | pure v => exact fun w => .done w
  | bind x f hx hf => exact follows_bind hx hf
  | raise c => exact fun w => .raise w _ (c.texts_failure w.source)
  | read => exact fun w => .done w
  | change c => exact fun w => .change w c
  | make c fresh => exact fun w => .make w _ (c.isFresh_madeIn w.source ▸ fresh) (c.madeIn_madeIn _)
  | lookup name => exact fun w => .read w name
  | assign span name v => exact follows_assign span name v
  | node span => exact follows_node span
  | round r span => exact follows_round r span
  | ask t => exact tasks t
  | onFault x answers f hx hf => exact follows_onFault hx hf
  | wrapped k x hx => exact follows_wrapped k hx
  | cleaning x c hx => exact follows_cleaning c hx
  | rescue x f hx hf => exact follows_rescue hx hf
  | lastly x final hx hfinal => exact follows_lastly hx hfinal
  | fallback x y hx hy => exact follows_fallback hx hy
  | working a x hx => exact follows_working a hx
  | inBody f x hx => exact follows_inBody f hx
  | inModule x hx => exact follows_inModule hx
  | importing addr load hload => exact follows_importing addr hload
  | inText text x hx => exact fun w => hx.within (.text text) rfl

end

/-- **Every run follows the rules.** -/
theorem runs_history (n : Nat) (task : Task α) (w : World) :
    Runs w (history n task w) (worldOf (run n task w)) (failureOf (run n task w)) := by
  -- the tasks that a task asks for are nested one less deep, and follow the rules by induction
  induction n generalizing α task w with
  | zero => exact .outOfFuel w
  | succ n ih =>
    have rule := follows (fun t w => ih t w) (step .ask task) w
    rw [history]
    cases task with
    | stmt s =>
      cases out : run (n + 1) (.stmt s) w with
      | ok flow w' =>
        rw [run] at out
        rw [out] at rule
        exact rule.complete s
      | error e w' =>
        rw [run] at out
        rw [out] at rule
        simpa [completion] using rule
    | _ => simpa [completion, run] using rule

theorem Eval.runs_log (n : Nat) (x : Eval α) (w : World) :
    Runs w (x.log (Script.run n) (Script.history n) w) (worldOf (x.exec (Script.run n) w))
      (failureOf (x.exec (Script.run n) w)) :=
  follows (fun t w => Script.runs_history n t w) x w

theorem Eval.runs_history (x : Eval α) (w : World) : Runs w (x.history w) (worldOf (x.run w)) (failureOf (x.run w)) :=
  x.runs_log taskDepth w

/-! ## 3. Moves -/

theorem prefix_append_cases (part : p <+: h ++ h') : p <+: h ∨ ∃ q, q <+: h' ∧ p = h ++ q := by
  obtain ⟨rest, same⟩ := part
  rcases append_eq_append_iff.mp same with ⟨more, front, back⟩ | ⟨more, front, back⟩
  · exact .inl ⟨more, front.symm⟩
  · exact .inr ⟨more, ⟨rest, back.symm⟩, front⟩

theorem event_append_cases (same : h ++ h' = p ++ e :: q) :
    (∃ r, h = p ++ e :: r) ∨ ∃ r, p = h ++ r ∧ h' = r ++ e :: q := by
  rcases append_eq_append_iff.mp same with ⟨r, front, back⟩ | ⟨r, front, back⟩
  · exact .inr ⟨r, front, back⟩
  · cases r with
    | nil => exact .inr ⟨[], by simpa using front.symm, back.symm⟩
    | cons x r =>
      rw [cons_append, cons.injEq] at back
      exact .inl ⟨r, back.1 ▸ front⟩

theorem event_singleton {d : Event} (same : [d] = p ++ e :: q) : p = [] ∧ e = d := by
  rcases singleton_eq_append_iff.mp same with ⟨rfl, rest⟩ | ⟨-, never⟩
  · exact ⟨rfl, (cons.inj rest).1⟩
  · cases never

theorem moves_closeGenerator (w : World) (a : Addr) : Moves w (w.closing a) (w.closeGenerator a) := by
  unfold World.closing World.closeGenerator
  cases found : w.heap[a]? with
  | none => exact .done w
  | some c =>
    cases c with
    | generator g =>
      dsimp only
      cases stage : g.progress with
      | notStarted => exact .go w a g _ found ⟨rfl, rfl, nofun, nofun, rfl, rfl⟩
      | running runs => exact .ended w a g found ⟨runs, stage⟩
      | finished => exact .done w
    | _ => exact .done w

theorem moves_closeIfLoose (since : Addr) (result : Value) (w : World) (a : Addr) :
    Moves w (w.closingIfLoose since result a) (w.closeIfLoose since result a) := by
  unfold World.closingIfLoose World.closeIfLoose
  cases w.heap[a]? with
  | none => exact .done w
  | some c =>
    cases c with
    | generator g =>
      dsimp only
      split
      · exact moves_closeGenerator w a
      · exact .done w
    | _ => exact .done w

theorem moves_closeEach (since : Addr) (result : Value) (w : World) (as : List Addr) :
    Moves w (w.closingEach since result as) (as.foldl (World.closeIfLoose since result) w) := by
  induction as generalizing w with
  | nil => exact .done w
  | cons a as ih => exact (moves_closeIfLoose since result w a).append (ih _)

theorem moves_turn (t : Turn) (a : Addr) (w : World) : Moves w (t.events a w) (t.apply a w) := by
  unfold Turn.events Turn.apply
  cases found : w.heap[a]? with
  | none => exact .done w
  | some c =>
    cases c with
    | generator g =>
      cases t with
      | begin =>
        dsimp only
        cases stage : g.progress with
        | notStarted => exact .began w a g found stage
        | running _ | finished => exact .done w
      | wake => exact .go w a g _ found ⟨rfl, rfl, id, fun runs same => ⟨runs, same⟩, rfl, rfl⟩
      | suspend runs =>
        dsimp only
        cases stage : g.progress with
        | running old => exact .go w a g _ found ⟨rfl, rfl, nofun, fun _ _ => ⟨old, stage⟩, rfl, rfl⟩
        | notStarted | finished => exact .done w
      | finish =>
        dsimp only
        cases stage : g.progress with
        | running old => exact .ended w a g found ⟨old, stage⟩
        | notStarted | finished => exact .done w
      | close => exact moves_closeGenerator w a
    | _ => exact .done w

theorem modifyCell_of_some (found : w.heap[a]? = some c) (f : Cell → Cell) : w.modifyCell a f = w.putCell a (f c) := by
  have same : w.heap.modify a f = w.heap.setIfInBounds a (f c) := by
    apply Array.ext_getElem?
    intro b
    rw [Array.getElem?_modify]
    by_cases here : a = b
    · subst here
      obtain ⟨inside, same⟩ := Array.getElem?_eq_some_iff.mp found
      simp [inside, same]
    · simp [here]
  rw [World.modifyCell, World.putCell, same]

theorem modifyCell_of_none (missing : w.heap[a]? = none) (f : Cell → Cell) : w.modifyCell a f = w := by
  have same : w.heap.modify a f = w.heap := by
    apply Array.ext_getElem?
    intro b
    rw [Array.getElem?_modify]
    by_cases here : a = b
    · subst here
      simp [missing]
    · simp [here]
  rw [World.modifyCell, same]

theorem moves_change (c : Change) (w : World) : Moves w (c.events w) (c.apply w) := by
  cases c with
  | alter a what =>
    rw [events, Change.apply]
    cases found : w.heap[a]? with
    | none =>
      rw [modifyCell_of_none found]
      exact .done w
    | some c =>
      rw [modifyCell_of_some found]
      exact .alter w a what c found
  | setField a name v =>
    rw [Change.apply]
    split
    · exact .put w a _ _ ‹_› (.object _ _ _)
    · exact .done w
  | table a what =>
    rw [events, Change.apply]
    cases found : w.heap[a]? with
    | none => exact .done w
    | some c =>
      cases c with
      | arguments t n => exact .tabled w a what t n found
      | _ => exact .done w
  | setRoll a r =>
    rw [Change.apply]
    split
    · exact .put w a _ _ ‹_› (.roll _ _)
    · exact .done w
  | count a rest =>
    rw [Change.apply]
    split
    · exact .done w
    · next going found => exact .put w a _ _ found (.counter going _ _ _)
    · exact .done w
  | bind how name v =>
    rw [events, Change.apply]
    cases isOpen : how.isOpen w with
    | true => exact .bound w how name v isOpen
    | false => exact .done w
  | bindLoop layer name v => exact .bindLoop w layer name v
  | turn a t => exact moves_turn t a w
  | closeLoose since result => exact moves_closeEach since result w w.suspended
  | dice d => exact .elsewhere w d w.session
  | session f => exact .elsewhere w w.dice (f w.session)
  | keep key v =>
    rw [Change.apply]
    split
    · exact .done w
    · next new => exact .kept w key v (Bool.eq_false_iff.mpr new)
  | countPattern => exact .noNode w

theorem Moves.raised (refused : Moves w h w') (e : Failure) : Moves w (h ++ [.raised e]) w' :=
  refused.append (.remark w' _ (.raised e))

theorem Wrapping.moves_ties (e : Failure) (w : World) : Moves w (k.ties e) w := by
  unfold ties
  split
  · exact .remark w _ (.tied _)
  · exact .remark w _ (.tied _)
  · exact .remark w _ (.tied _)
  · exact .done w

theorem Moves.lastPart {after : List Event} (first : Moves w h w')
    (second : Moves w' h' w'') (remarks : Moves w'' after w'') : Moves w (h ++ .unwinding :: h' ++ after) w'' := by
  have part := (Moves.remark w' _ .unwinding).append (second.append remarks)
  simpa using first.append part

theorem Names.get?_cons (m : String) (u : Value) (t : Names) (n : String) :
    get? ((m, u) :: t) n = if n = m then some u else t.get? n := by
  rw [get?, lookup_cons]
  by_cases same : n = m
  · rw [if_pos same, beq_iff_eq.mpr same]
  · rw [if_neg same, beq_eq_false_iff_ne.mpr same]
    rfl

theorem Names.get?_put (t : Names) (x : String) (v : Value) (n : String) :
    (t.put x v).get? n = if n = x then some v else t.get? n := by
  induction t with
  | nil => rw [put, get?_cons]
  | cons p t ih =>
    obtain ⟨m, u⟩ := p
    rw [put]
    split
    · next here =>
      obtain rfl := eq_of_beq here
      rw [get?_cons, get?_cons]
      by_cases same : n = m <;> simp [same]
    · next other =>
      have other : m ≠ x := fun same => other (beq_iff_eq.mpr same)
      rw [get?_cons, get?_cons, ih]
      by_cases same : n = m
      · rw [if_pos same, if_pos same, if_neg (same ▸ other)]
      · rw [if_neg same, if_neg same]

theorem find?_modify_value (v : Value) {k : Key} (l : Key) {es : List Entry}
    (first : es.findIdx? (fun e => e.key == k) = some i) :
    ((es.modify i fun e => { e with value := v }).find? fun e => e.key == l).map (·.value) =
      if l == k then some v else (es.find? fun e => e.key == l).map (·.value) := by
  induction es generalizing i with
  | nil => cases first
  | cons e es ih =>
    rw [findIdx?_cons] at first
    split at first
    · next here =>
      obtain rfl := Option.some.inj first
      obtain rfl := eq_of_beq here
      by_cases same : l = e.key
      · subst same
        simp
      · have apart : (e.key == l) = false := beq_false_of_ne (Ne.symm same)
        have apart' : (l == e.key) = false := beq_false_of_ne same
        simp [apart, apart']
    · next elsewhere =>
      obtain ⟨j, later, rfl⟩ := Option.map_eq_some_iff.1 first
      have other : e.key ≠ k := fun same => elsewhere (beq_iff_eq.2 same)
      rw [modify_succ_cons, find?_cons, find?_cons]
      by_cases here : e.key = l
      · subst here
        simp [beq_false_of_ne other]
      · rw [beq_false_of_ne here]
        exact ih later

theorem Entries.get?_put (es : Entries) (k l : Key) (name v : Value) :
    (es.put k name v).get? l = if l == k then some v else es.get? l := by
  unfold put
  cases first : find es k with
  | some i =>
    have first : es.toList.findIdx? (fun e => e.key == k) = some i := by rwa [← findIdx?_toArray]
    dsimp only [get?]
    rw [← Array.find?_toList, ← Array.find?_toList, Array.toList_modify]
    exact find?_modify_value v l first
  | none =>
    dsimp only [get?]
    rw [Array.find?_push]
    by_cases same : l = k
    · subst same
      rw [find] at first
      have absent : es.find? (fun e => e.key == l) = none := by simpa using first
      simp [absent]
    · simp [beq_false_of_ne same, beq_false_of_ne (Ne.symm same)]

theorem World.importing_leaveImport (chain : w'.importing = (w.enterImport addr).importing) :
    w'.leaveImport.importing = w.importing := by
  rw [World.leaveImport, chain]
  exact dropLast_concat

/-- Imports that are under way stay so, and lead to no module. -/
theorem Moves.bars (moves : Moves w h w') :
    w'.importing = w.importing ∧ ∀ a ∈ w.importing, w'.modules.get? a = w.modules.get? a := by
  induction moves with
  | append _ _ first second =>
    exact ⟨second.1.trans first.1, fun a under =>
      (second.2 a (first.1 ▸ under)).trans (first.2 a under)⟩
  | within enters _ inner =>
    cases enters with
    | importing addr => exact ⟨World.importing_leaveImport inner.1, fun a under => inner.2 a (mem_append_left _ under)⟩
    | _ => exact inner
  | loaded w addr m new =>
    refine ⟨rfl, fun a under => ?_⟩
    rw [World.keepModule, Names.get?_put, if_neg]
    rintro rfl
    exact new under
  | _ => exact ⟨rfl, fun _ _ => rfl⟩

theorem Runs.moves (run : Runs w h w' r) : Moves w h w' := by
  induction run with
  | done w | outOfFuel w => exact .done w
  | raise w e here => exact .remark w _ (.raised e)
  | change w c => exact moves_change c w
  | make w c fresh here => exact .make w c fresh here
  | read w name => exact .read w name
  | assign w name v free => exact .assigned w name v free
  | node w span within => exact .node w span within
  | noNode w e here => exact (Moves.noNode w).raised e
  | round w r within => exact .round w r within
  | noRound w e here => exact (Moves.noRound w).raised e
  | seq _ _ first second | answer _ _ _ first second | goOn _ _ _ first second => exact first.append second
  | wrap _ k lossless first => exact first.append (k.moves_ties _ _)
  | clean _ c first => exact first.append (moves_change c _)
  | swallow l _ _ _ first second => exact first.append ((Moves.remark _ _ (.swallowed l _)).append second)
  | unwind _ _ _ first second => exact first.lastPart second (.remark _ _ .unwound)
  | lose _ _ _ _ first second =>
    exact first.lastPart second ((Moves.remark _ _ .unwound).append (.remark _ _ (.swallowed _ _)))
  | supersede _ _ _ _ first second =>
    exact first.lastPart second ((Moves.remark _ _ .unwound).append (.remark _ _ (.superseded _)))
  | within enters _ first => exact first.within enters
  | noBody w f beyond k m => exact (Moves.noBody w f beyond).raised _
  | noModule w f => exact (Moves.noModule w).raised _
  | imported addr m new missing _ first =>
    obtain ⟨chain, stays⟩ := first.bars
    have left := World.importing_leaveImport chain
    refine (first.within (.importing addr new missing)).append (.loaded _ addr m (left ▸ new) ?_)
    exact (stays addr (mem_append_right _ mem_cons_self)).trans missing
  | complete _ s first => exact first.append (.remark _ _ (.completed s))

/-! ## 4. Executing a text -/

def World.ready (w : World) (text : String) : World := { w with source := text }.resetCounters

theorem readScript_cases (text : String) :
    (∃ f, parseScript text false = .error f ∧ readScript text = raise (.form f)) ∨
      ∃ body, parseScript text false = .ok body ∧ readScript text = pure body := by
  unfold readScript
  cases parseScript text false with
  | error f => exact .inl ⟨f, rfl, rfl⟩
  | ok body => exact .inr ⟨body, rfl, rfl⟩

theorem execute_cases (text : String) (w : World) : (∃ f, parseScript text false = .error f ∧
      execute text w = .error (.script (.form f text none)) { w with source := text } ∧
      executeHistory text w = [.raised (.script (.form f text none))]) ∨
    (∃ body, parseScript text false = .ok body ∧ execute text w = (runScript body).run (w.ready text) ∧
      executeHistory text w = (runScript body).history (w.ready text)) := by
  unfold execute executeHistory beginScript
  rcases readScript_cases text with ⟨f, parsed, read⟩ | ⟨body, parsed, read⟩ <;> rw [read]
  · exact .inl ⟨f, parsed, rfl, rfl⟩
  · exact .inr ⟨body, parsed, rfl, rfl⟩

theorem runs_noScript (w : World) (f : SyntaxFault) :
    Runs w [.raised (.script (.form f w.source none))] w (some (.script (.form f w.source none))) :=
  .raise w _ fun _ member => mem_singleton.mp member

theorem execute_runs (text : String) (w : World) :
    ∃ n m, Runs { w with source := text, statements := n, loops := m } (executeHistory text w)
      (worldOf (execute text w)) (failureOf (execute text w)) := by
  rcases execute_cases text w with ⟨f, -, failed, told⟩ | ⟨body, -, ran, told⟩
  · rw [failed, told]
    exact ⟨w.statements, w.loops, runs_noScript { w with source := text } f⟩
  · rw [ran, told]
    exact ⟨0, 0, (runScript body).runs_history (w.ready text)⟩

theorem execute_moves (text : String) (w : World) :
    ∃ n m, Moves { w with source := text, statements := n, loops := m } (executeHistory text w)
      (worldOf (execute text w)) := by
  obtain ⟨n, m, runs⟩ := execute_runs text w
  exact ⟨n, m, runs.moves⟩

theorem evaluate_runs (text : String) (w : World) :
    ∃ n m, Runs { w with source := text, statements := n, loops := m } (evaluateHistory text w)
      (worldOf (evaluate text w)) (failureOf (evaluate text w)) := by
  unfold evaluate evaluateHistory beginScript
  rcases readScript_cases text with ⟨f, -, read⟩ | ⟨body, -, read⟩ <;> rw [read]
  · exact ⟨w.statements, w.loops, runs_noScript { w with source := text } f⟩
  · -- the counters start anew unless only expressions are allowed
    cases w with
    | mk limits simple => cases simple <;> exact ⟨_, _, (runFirst body).runs_history _⟩

def Program.after : Program → World → World
  | .execute text, w => worldOf (Script.execute text w)
  | .evaluate text, w => worldOf (Script.evaluate text w)
  | .module text name, w => worldOf ((executeModule perform text name).run w)

def Program.failure : Program → World → Option Failure
  | .execute text, w => failureOf (Script.execute text w)
  | .evaluate text, w => failureOf (Script.evaluate text w)
  | .module text name, w => failureOf ((executeModule perform text name).run w)

/-- The text in which a program begins.  A module enters its own from the one that is being run. -/
def Program.text : Program → World → String
  | .execute text, _ | .evaluate text, _ => text
  | .module _ _, w => w.source

theorem Program.runs (p : Program) (w : World) :
    ∃ n m, Runs { w with source := p.text w, statements := n, loops := m } (p.history w) (p.after w) (p.failure w) := by
  cases p with
  | execute text => exact execute_runs text w
  | evaluate text => exact evaluate_runs text w
  | module text name => exact ⟨w.statements, w.loops, (executeModule perform text name).runs_history w⟩

theorem Program.moves (p : Program) (w : World) :
    ∃ text n m, Moves { w with source := text, statements := n, loops := m } (p.history w) (p.after w) := by
  obtain ⟨n, m, runs⟩ := p.runs w
  exact ⟨p.text w, n, m, runs.moves⟩

theorem alias_cases (text : String) (w : World) :
    (∃ e w', makeOpening.run w = .error e w' ∧ runAlias text w = .error e w' ∧
      aliasHistory text w = makeOpening.history w) ∨ (∃ o w', makeOpening.run w = .ok o w' ∧ runAlias text w =
        (runText (aliasText text)).run ((w'.opened o).inText (aliasText text)) ∧
      aliasHistory text w = makeOpening.history w ++
        (runText (aliasText text)).history ((w'.opened o).inText (aliasText text))) := by
  cases made : makeOpening.run w with
  | ok o w' =>
    refine .inr ⟨o, w', rfl, ?_, ?_⟩
    · show EStateM.bind makeOpening.run _ w = _
      rw [EStateM.bind, made]
      rfl
    · rw [aliasHistory, made]
  | error e w' =>
    refine .inl ⟨e, w', rfl, ?_, ?_⟩
    · show EStateM.bind makeOpening.run _ w = _
      rw [EStateM.bind, made]
    · rw [aliasHistory, made, append_nil]

end AliasTools.Script
