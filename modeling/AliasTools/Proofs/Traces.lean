import AliasTools.Proofs.CallDepth
import AliasTools.Proofs.Outcomes

/-!
# Traces of errors

An error holds a line and a text for every call that it came out of, and its trace looks each line up in
its text.  The text is the one that was being run when the error passed the node, and not one that came
with the node.  So the two belong together as long as what is carried out belongs to the text that is being
run.  A function takes care of that: it keeps the text that it was made by, and its body is run in that
text.  A generator does not, and works in whatever text it is asked from.
-/

namespace AliasTools.Script

open Syntax Text List Option ScriptError

variable {c : Cell} {e : Event} {h : List Event}

/-! ## 1. Lines and stops -/

def lineEnds (text : String) : Nat := text.toList.count '\n'

theorem length_cutAt (sep : Char) (s : List Char) : (cutAt sep s).length = s.count sep + 1 := by
  induction s with
  | nil => rfl
  | cons c s ih =>
    rw [cutAt] at ih
    rw [cutAt, foldr_cons, count_cons]
    generalize List.foldr _ [[]] s = parts at ih ⊢
    by_cases same : c = sep
    · rw [if_pos same, length_cons, ih, if_pos (beq_iff_eq.mpr same)]
    · rw [if_neg same, if_neg (by simpa using same), ← ih]
      cases parts with
      | nil => cases ih
      | cons w ws => rfl

theorem isSome_lineAt (text : String) (n : Nat) : (lineAt text n).isSome = true ↔ n ≤ lineEnds text + 1 := by
  have count : (cutAt '\n' text.toList).length = lineEnds text + 1 := length_cutAt _ _
  unfold lineAt
  by_cases first : 1 ≤ (n : Int)
  · rw [if_pos first, isSome_iff_ne_none, Ne, getElem?_eq_none_iff]
    omega
  · rw [if_neg first, if_pos (by omega), isSome_iff_ne_none, Ne, getElem?_eq_none_iff]
    omega

/-- Where the trace of an error stops: at a line, if there is one, of a text. -/
structure Stop where
  line : Option Nat
  text : String

def Stop.OnLine (s : Stop) : Prop := ∃ n, s.line = some n ∧ n ≤ lineEnds s.text + 1

def Site.stop (s : Site) : Stop := ⟨some s.span.line, s.source⟩

def ScriptError.stops : ScriptError → List Stop
  | .form f source _ => [⟨f.place.map (·.line), source⟩]
  | .invalid _ _ s | .annotated _ s => [s.stop]
  | .nested _ s inner => s.stop :: inner.stops

theorem ScriptError.texts_eq (e : ScriptError) : e.texts = e.stops.map (·.text) := by
  induction e with
  | form | invalid | annotated => rfl
  | nested m s inner ih => rw [texts, ih]; rfl

section

variable {α β ε : Type}

theorem isOk_map (x : Except ε α) (f : α → β) : (x.map f).isOk = x.isOk := by cases x <;> rfl

theorem isOk_stop (line col : Int) (context : Option String) (m : Mark) (source : String) :
    (stop line col context m source).isOk = (lineAt source m.line).isSome := by
  unfold stop pointer
  rw [isOk_map]
  cases lineAt source m.line with
  | none => rfl
  | some l => dsimp only; split <;> rfl

theorem onLine_some : (⟨some n, text⟩ : Stop).OnLine ↔ (lineAt text n).isSome = true := by
  rw [isSome_lineAt]
  exact ⟨fun ⟨_, same, within⟩ => some.inj same ▸ within, fun within => ⟨n, rfl, within⟩⟩

theorem isOk_traceLines (e : ScriptError) : (traceLines e).isOk = true ↔ ∀ s ∈ e.stops, s.OnLine := by
  have one (s : Stop) : (∀ t ∈ [s], t.OnLine) ↔ s.OnLine :=
    ⟨fun all => all s mem_cons_self, fun here t member => mem_singleton.mp member ▸ here⟩
  induction e with
  | form f source c =>
    rw [stops, one, traceLines]
    cases f.place with
    | none => exact ⟨nofun, fun ⟨_, same, _⟩ => nomatch same⟩
    | some p => rw [isOk_map, isOk_stop]; exact onLine_some.symm
  | invalid k m s | annotated f s =>
    rw [stops, one, traceLines, isOk_map, isOk_stop]
    exact onLine_some.symm
  | nested m s inner ih =>
    have here : s.stop.OnLine ↔ (stop s.span.line s.span.col s.context (.ofSpan s.span) s.source).isOk = true := by
      rw [isOk_stop]
      exact onLine_some
    rw [stops, forall_mem_cons, traceLines, here]
    cases stop s.span.line s.span.col s.context (.ofSpan s.span) s.source with
    | error k =>
      have hidden : ¬ false = true := Bool.false_ne_true
      exact ⟨fun shown => absurd shown hidden, fun both => absurd both.1 hidden⟩
    | ok t =>
      rw [isOk_map]
      exact ⟨fun shown => ⟨rfl, ih.mp shown⟩, fun both => ih.mpr both.2⟩

/-- **The trace of an error can be shown just when each of its stops is on a line of its text.** -/
theorem ScriptError.trace_eq_ok_iff (e : ScriptError) : (∃ t, e.trace = .ok t) ↔ ∀ s ∈ e.stops, s.OnLine := by
  rw [← isOk_traceLines, trace]
  cases traceLines e with
  | error k => exact ⟨fun ⟨_, same⟩ => (by cases same), fun shown => absurd shown Bool.false_ne_true⟩
  | ok t => exact ⟨fun _ => rfl, fun _ => ⟨_, rfl⟩⟩

end

/-! ## 2. The texts at a point of a run -/

/-- Which text is being run at a point of a run, and which one it should be. -/
structure Page where
  /-- The text that is being run, which errors are tied to. -/
  noted : String
  /-- The text that what is being carried out is a part of. -/
  own : String
  /-- The text that the function at an address keeps. -/
  kept : Addr → String
  /-- The text that what is at an address was made by. -/
  home : Addr → String
  /-- The first two, for each place from which the present one was entered. -/
  outer : List (String × String) := []

namespace Page

variable (p : Page)

/-- In a region, which is run in some text and is a part of some text.  The body of a function is run in
    the text that the function keeps; a generator works in the text that is being run. -/
def inside : Region → String × String
  | .body f _ => (p.kept f, p.home f)
  | .work a => (p.noted, p.home a)
  | .module | .import _ => (p.noted, p.own)
  | .text source => (source, source)

def back : Page :=
  match p.outer with
  | [] => p
  | t :: outer => { p with noted := t.1, own := t.2, outer := outer }

def step : Event → Page
  | .made a =>
    { p with
      kept := fun b => if b = a then p.noted else p.kept b
      home := fun b => if b = a then p.own else p.home b }
  | .entered r =>
    { p with
      noted := (p.inside r).1, own := (p.inside r).2, outer := (p.noted, p.own) :: p.outer }
  | .left _ => p.back
  | _ => p

def after (h : List Event) : Page := h.foldl step p

@[simp] theorem after_cons (e : Event) (h : List Event) : p.after (e :: h) = (p.step e).after h := rfl

@[simp] theorem after_append (h h' : List Event) : p.after (h ++ h') = (p.after h).after h' := foldl_append

/-- Is all that is carried out, and all that will be returned to, carried out in its own text?  And do the
    functions keep the texts that they were made by? -/
structure Settled : Prop where
  here : p.noted = p.own
  functions : ∀ a, p.kept a = p.home a
  outer : ∀ t ∈ p.outer, t.1 = t.2

def Allows : Event → Prop
  | .entered (.work a) => p.noted = p.home a
  | _ => True

def Calm (p : Page) : List Event → Prop
  | [] => True
  | e :: h => p.Allows e ∧ Calm (p.step e) h

variable {p}

theorem Settled.back (settled : p.Settled) : p.back.Settled := by
  unfold Page.back
  split
  · exact settled
  · next t rest above =>
    have outer := settled.outer
    rw [above] at outer
    obtain ⟨first, others⟩ := forall_mem_cons.mp outer
    exact ⟨first, settled.functions, others⟩

/-- **What is settled stays so, if generators work in their own texts.**  Calls, imports and the making of
    functions never unsettle it. -/
theorem Settled.step (settled : p.Settled) (allows : p.Allows e) : (p.step e).Settled := by
  cases e with
  | made a =>
    refine ⟨settled.here, fun b => ?_, settled.outer⟩
    show (if b = a then p.noted else p.kept b) = if b = a then p.own else p.home b
    rw [settled.here, settled.functions]
  | entered r =>
    refine ⟨?_, settled.functions, forall_mem_cons.mpr ⟨settled.here, settled.outer⟩⟩
    cases r with
    | body f text => exact settled.functions f
    | work a => exact allows
    | module | «import» _ => exact settled.here
    | text source => rfl
  | left r => exact settled.back
  | _ => exact settled

theorem Settled.after (settled : p.Settled) (calm : p.Calm h) : (p.after h).Settled := by
  induction h generalizing p with
  | nil => exact settled
  | cons e h ih => exact ih (settled.step calm.1) calm.2

theorem Calm.of_prefix (calm : p.Calm h) (part : q <+: h) : p.Calm q := by
  induction q generalizing p h with
  | nil => trivial
  | cons e q ih =>
    obtain ⟨rest, rfl⟩ := part
    exact ⟨calm.1, ih calm.2 (prefix_append q rest)⟩

/-- **Everything is run in its own text just when generators work in theirs.** -/
theorem Settled.calm_iff (settled : p.Settled) : p.Calm h ↔ ∀ q, q <+: h → (p.after q).noted = (p.after q).own := by
  constructor
  · intro calm q part
    exact (settled.after (calm.of_prefix part)).here
  · intro all
    induction h generalizing p with
    | nil => trivial
    | cons e h ih =>
      have first : (p.step e).noted = (p.step e).own := all [e] ⟨h, rfl⟩
      have allows : p.Allows e := by
        cases e with
        | entered r =>
          cases r with
          | _ => trivial
        | _ => trivial
      refine ⟨allows, ih (settled.step allows) fun q part => ?_⟩
      exact all (e :: q) (cons_prefix_cons.mpr ⟨rfl, part⟩)

end Page

/-! ## 3. Pages and worlds -/

def Page.Keeps (p : Page) (w : World) : Prop := ∀ f c, w.heap[f]? = some (.closure c) → c.source = p.kept f

/-- And the text that is being run is the noted one. -/
structure Filed (p : Page) (w : World) : Prop where
  source : w.source = p.noted
  functions : p.Keeps w

/-- After a history the world is filed, and back where it was on the page. -/
structure Files (p : Page) (h : List Event) (w' : World) : Prop where
  filed : Filed (p.after h) w'
  noted : (p.after h).noted = p.noted
  own : (p.after h).own = p.own
  outer : (p.after h).outer = p.outer

section

variable {p : Page} {w w' w'' : World} {h h' : List Event}

section

variable (filed : Filed p w)

include filed

theorem Filed.of_same (source : w'.source = w.source) (heap : w'.heap = w.heap) : Filed p w' :=
  ⟨source.trans filed.source, fun f c there => filed.functions f c (heap ▸ there)⟩

theorem Filed.enters (enters : w.Enters r w' back) : Filed (p.step (.entered r)) w' := by
  cases enters with
  | body f c found => exact ⟨filed.functions f c found, filed.functions⟩
  | text => exact ⟨rfl, filed.functions⟩
  | _ => exact ⟨filed.source, filed.functions⟩

theorem Filed.put (a : Addr)
    (cell : ∀ d, c = .closure d → w.heap[a]? = some (.closure d)) : Filed p (w.putCell a c) := by
  refine ⟨filed.source, fun f d there => ?_⟩
  rw [World.putCell, Array.getElem?_setIfInBounds] at there
  split at there
  · next here =>
    split at there
    · exact filed.functions f d (here ▸ cell d (some.inj there))
    · cases there
  · exact filed.functions f d there

theorem Filed.replace (found : w.heap[a]? = some c) (lasts : c.Lasts c') : Filed p (w.putCell a c') := by
  refine filed.put a fun d same => ?_
  rw [same] at lasts
  cases lasts
  exact found

theorem Filed.push (here : c.madeIn w.source = c) :
    Filed (p.step (.made w.heap.size)) { w with heap := w.heap.push c } := by
  refine ⟨filed.source, fun f d there => ?_⟩
  show d.source = if f = w.heap.size then p.noted else p.kept f
  rw [Array.getElem?_push] at there
  by_cases new : f = w.heap.size
  · rw [if_pos new] at there ⊢
    rw [some.inj there, Cell.madeIn, Cell.closure.injEq] at here
    rw [← here, filed.source]
  · rw [if_neg new] at there ⊢
    exact filed.functions f d there

end

theorem Files.quiet (same : p.after h = p) (filed : Filed p w') : Files p h w' := by
  exact ⟨same.symm ▸ filed, by rw [same], by rw [same], by rw [same]⟩

theorem Files.append (first : Files p h w') (second : Files (p.after h) h' w'') : Files p (h ++ h') w'' := by
  refine ⟨?_, ?_, ?_, ?_⟩
  · rw [Page.after_append]
    exact second.filed
  · rw [Page.after_append, second.noted, first.noted]
  · rw [Page.after_append, second.own, first.own]
  · rw [Page.after_append, second.outer, first.outer]

theorem Files.source (files : Files p h w') : w'.source = p.noted := files.filed.source.trans files.noted

theorem Files.within (inner : Files (p.step (.entered r)) h w') (source : w''.source = p.noted)
    (heap : w''.heap = w'.heap) : Files p (.entered r :: h ++ [.left r]) w'' := by
  have outer : ((p.step (.entered r)).after h).outer = (p.noted, p.own) :: p.outer := inner.outer
  have left : p.after (.entered r :: h ++ [.left r]) =
      { (p.step (.entered r)).after h with noted := p.noted, own := p.own, outer := p.outer } := by
    rw [cons_append, Page.after_cons, Page.after_append]
    show ((p.step (.entered r)).after h).back = _
    rw [Page.back, outer]
  constructor
  · rw [left]
    exact ⟨source, fun f c there => inner.filed.functions f c (heap ▸ there)⟩
  all_goals rw [left]

/-- **The text that is being run is the one that the history tells.** -/
theorem Moves.files (moves : Moves w h w') (filed : Filed p w) : Files p h w' := by
  induction moves generalizing p with
  | remark w e remark => cases remark <;> exact .quiet rfl filed
  | alter w a what c found => exact .quiet rfl (filed.replace found (c.lasts_apply what))
  | put w a c c' found renewed => exact .quiet rfl (filed.replace found renewed.lasts)
  | tabled w a what t n found => exact .quiet rfl (filed.replace found (.arguments t _ n n))
  | make w c fresh here => exact ⟨filed.push here, rfl, rfl, rfl⟩
  | go w a g g' found goes => exact .quiet rfl (filed.put a nofun)
  | began w a g | ended w a g => exact .quiet rfl ((filed.put a (c := .generator _) nofun).of_same rfl rfl)
  | append _ _ first second => exact (first filed).append (second (first filed).filed)
  | within enters _ inner =>
    have inside := inner (filed.enters enters)
    cases enters with
    | body | text => exact inside.within filed.source rfl
    | _ => exact inside.within inside.source rfl
  | _ => exact .quiet rfl (filed.of_same rfl rfl)

end

/-! ## 4. The stops of a failure -/

def Failure.stops : Failure → List Stop
  | .script e => e.stops
  | _ => []

theorem Failure.texts_eq (e : Failure) : e.texts = e.stops.map (·.text) := by
  cases e with
  | script e => exact e.texts_eq
  | fault | waiting | outOfFuel => rfl

theorem Wrapping.stops_apply (k : Wrapping) (source : String) (e : Failure) (member : s ∈ (k.apply source e).stops) :
    s ∈ e.stops ∨ ∃ span, k.ties e = [.tied span] ∧ s = ⟨some span.line, source⟩ := by
  cases k with
  | node span =>
    cases e with
    | fault | waiting => exact .inr ⟨span, rfl, mem_singleton.mp member⟩
    | script | outOfFuel => exact .inl member
  | call span =>
    cases e with
    | script e =>
      rcases mem_cons.mp member with here | inside
      · exact .inr ⟨span, rfl, here⟩
      · exact .inl inside
    | fault | waiting | outOfFuel => exact .inl member
  | context name =>
    cases e with
    | script e => cases e <;> exact .inl member
    | fault | waiting | outOfFuel => exact .inl member
  | module address => cases e <;> cases member

def Event.Ties (s : Stop) : Event → Prop
  | .tied span => s.line = some span.line
  | .raised e => s ∈ e.stops
  | _ => False

def Page.Tied (p : Page) (h : List Event) (s : Stop) : Prop :=
  ∃ q x rest, h = q ++ x :: rest ∧ x.Ties s ∧ s.text = (p.after q).noted

section

variable {p : Page} {w w' : World} {h h' : List Event} {s : Stop}

theorem Page.Tied.left (tied : p.Tied h s) (h' : List Event) : p.Tied (h ++ h') s := by
  obtain ⟨q, x, rest, rfl, ties, text⟩ := tied
  exact ⟨q, x, rest ++ h', by simp, ties, text⟩

theorem Page.Tied.right (tied : (p.after h).Tied h' s) : p.Tied (h ++ h') s := by
  obtain ⟨q, x, rest, rfl, ties, text⟩ := tied
  exact ⟨h ++ q, x, rest, by simp, ties, by rwa [after_append]⟩

theorem Page.Tied.cons (tied : (p.step x).Tied h s) : p.Tied (x :: h) s := Page.Tied.right (h := [x]) tied

theorem tied_raised {e : Failure} (here : ∀ t ∈ e.texts, t = w.source) (filed : Filed p w)
    (member : s ∈ e.stops) : p.Tied [.raised e] s := by
  have held : s.text ∈ e.texts := e.texts_eq ▸ mem_map_of_mem member
  exact ⟨[], _, [], rfl, member, (here _ held).trans filed.source⟩

/-- **A run's failure was tied at each of its stops, when the stop's text was being run.** -/
theorem Runs.tied (runs : Runs w h w' r) (filed : Filed p w) {e : Failure}
    (ends : r = some e) (member : s ∈ e.stops) : p.Tied h s := by
  induction runs generalizing p e with
  | raise w e here | noNode w e here | noRound w e here =>
    cases ends
    exact tied_raised here filed member
  | outOfFuel w | noBody w f beyond k m | noModule w f =>
    cases ends
    cases member
  | wrap first k lossless tied =>
    cases ends
    rcases k.stops_apply _ _ member with before | ⟨span, ties, rfl⟩
    · exact (tied filed rfl before).left _
    · rw [ties]
      exact ⟨_, _, [], rfl, rfl, (first.moves.files filed).filed.source⟩
  | seq first _ _ tied | answer first _ _ _ tied => exact (tied (first.moves.files filed).filed ends member).right
  | goOn _ _ _ tied _ =>
    cases ends
    exact (tied filed rfl member).left _
  | clean _ c tied => exact (tied filed ends member).left _
  | swallow l first _ _ _ tied =>
    have after := tied (first.moves.files filed).filed ends member
    exact (after.cons (x := .swallowed l _)).right
  | unwind _ _ _ tied _ =>
    cases ends
    exact ((tied filed rfl member).left _).left _
  | lose first _ _ _ _ tied | supersede first _ _ _ _ tied =>
    have after := tied (first.moves.files filed).filed ends member
    exact (after.cons (x := .unwinding)).right.left _
  | within enters _ tied => exact (tied (filed.enters enters) ends member).cons.left _
  | _ => cases ends

end

/-! ## 5. Programs -/

def Program.session (p : Program) (w : World) : List Event :=
  .entered (.text (p.text w)) :: p.history w ++ [.left (.text (p.text w))]

/-- What is done when programs are run one after the other, each in the world that the ones before it
    left. -/
def sessionHistory : List Program → World → List Event
  | [], _ => []
  | p :: ps, w => p.session w ++ sessionHistory ps (p.after w)

def Page.before (home : Addr → String) : Page := { noted := "", own := "", kept := home, home := home }

theorem Page.settled_before (home : Addr → String) : (Page.before home).Settled :=
  ⟨rfl, fun _ => rfl, nofun⟩

section

variable {page : Page} {w : World}

variable (keeps : page.Keeps w)

include keeps

theorem Page.Keeps.filed (p : Program) (n m : Int) :
    Filed (page.step (.entered (.text (p.text w)))) { w with source := p.text w, statements := n, loops := m } :=
  ⟨rfl, keeps⟩

theorem Page.Keeps.program (p : Program) : (page.after (p.session w)).Keeps (p.after w) := by
  obtain ⟨n, m, runs⟩ := p.runs w
  have inside := runs.moves.files (keeps.filed p n m)
  have left : Files page (p.session w) ((p.after w).inText page.noted) := inside.within rfl rfl
  exact left.filed.functions

theorem Page.Keeps.programs (ps : List Program) : (page.after (sessionHistory ps w)).Keeps (afterAll ps w) := by
  induction ps generalizing page w with
  | nil => exact keeps
  | cons p ps ih =>
    rw [sessionHistory, Page.after_append]
    exact ih (keeps.program p)

theorem Page.Keeps.tied (p : Program) {e : Failure} (fails : p.failure w = some e) (member : s ∈ e.stops) :
    (page.step (.entered (.text (p.text w)))).Tied (p.history w) s := by
  obtain ⟨n, m, runs⟩ := p.runs w
  exact runs.tied (keeps.filed p n m) fails member

end

/-- **Errors are tied to the text that is being run.**  The trace of an error can be shown just when each of
    its stops is on a line of the text that the error holds for it, which is the one that was being run
    there; and that is the text of what was being carried out, if every generator went to work in the text
    that it was made by. -/
theorem errors_hold_running_texts (home : Addr → String) (w : World)
    (kept : ∀ f c, w.heap[f]? = some (.closure c) → c.source = home f) (ps : List Program) (p : Program)
    (e : ScriptError) (fails : p.failure (afterAll ps w) = some (.script e)) :
    ((∃ t, e.trace = .ok t) ↔ ∀ s ∈ e.stops, s.OnLine) ∧
    (∀ s ∈ e.stops, ∃ q x rest, p.history (afterAll ps w) = q ++ x :: rest ∧ x.Ties s ∧
      let past := sessionHistory ps w ++ .entered (.text (p.text (afterAll ps w))) :: q
      s.text = ((Page.before home).after past).noted ∧
        ((Page.before home).Calm past → s.text = ((Page.before home).after past).own)) ∧
    ((Page.before home).Calm (sessionHistory (ps ++ [p]) w) ↔
      ∀ q, q <+: sessionHistory (ps ++ [p]) w →
        ((Page.before home).after q).noted = ((Page.before home).after q).own) := by
  refine ⟨e.trace_eq_ok_iff, fun s member => ?_, (Page.settled_before home).calm_iff⟩
  have keeps : (Page.before home).Keeps w := kept
  obtain ⟨q, x, rest, told, ties, text⟩ := (keeps.programs ps).tied p fails member
  have noted : s.text = ((Page.before home).after
      (sessionHistory ps w ++ .entered (.text (p.text (afterAll ps w))) :: q)).noted := by
    rw [Page.after_append]
    exact text
  refine ⟨q, x, rest, told, ties, noted, fun calm => ?_⟩
  rw [noted, ((Page.settled_before home).after calm).here]

/-- A text with a character that no script has, after other programs: the error has no line, and so no
    trace. -/
theorem errors_hold_running_texts_null :
    let ps : List Program := [.execute "f = lambda: missing", .execute "f()"]
    let p : Program := .execute "x = 1\x00"
    ∃ e, p.failure (afterAll ps {}) = some (.script e) ∧ e.stops = [⟨none, "x = 1\x00"⟩] ∧
      ¬ ∃ t, e.trace = .ok t := by
  intro ps p
  let fault : SyntaxFault := ⟨.form, "source code string cannot contain null bytes", none⟩
  have noScript : parseScript "x = 1\x00" false = .error fault := by
    unfold parseScript
    rw [if_pos (by decide)]
  have fails : p.failure (afterAll ps {}) = some (.script (.form fault "x = 1\x00" none)) := by
    rcases execute_cases "x = 1\x00" (afterAll ps {}) with ⟨f, noScript', failed, -⟩ | ⟨body, script, -⟩
    · cases noScript'
      rfl
    · cases script
  have held := errors_hold_running_texts (fun _ => "") {} (fun f c there => by cases there) ps p _ fails
  refine ⟨_, fails, rfl, fun shown => ?_⟩
  obtain ⟨n, same, -⟩ := held.1.mp shown _ List.mem_cons_self
  cases same

/-- The fault that keeps the trace of an outcome's error from being shown, and the stops of the error. -/
def traceFault {α : Type} (r : Outcome α) : Option (FaultKind × List (Option Nat × String)) :=
  match failureOf r with
  | some (.script e) =>
    match e.trace with
    | .error k => some (k, e.stops.map fun s => (s.line, s.text))
    | .ok _ => none
  | _ => none

/-- A generator that is made by the fourth line of a text and asked from another text: its error is tied
    to the other text, which has no fourth line. -/
theorem trace_of_stray_generator :
    let at4 : Span := ⟨4, 5, 4, 12⟩
    let at1 : Span := ⟨1, 9, 1, 10⟩
    let one : Expr := .list at4 [.constant at4 (.int 1)] .load
    let missing : Expr :=
      .generatorExp at4 (.name at4 "missing" .load) [.mk (.name at4 "x" .store) one [] false]
    let made : Stmt := .assign at4 [.name at4 "g" .store] missing none
    let asked : Stmt := .forLoop at1 (.name at1 "y" .store) (.name at1 "g" .load) [.pass at1] [] none
      false
    let w : World := { source := "\n\n\ng = (missing for x in [1])" }
    let w' : World := worldOf (run 20 (.stmt made) w)
    traceFault (run 20 (.stmt asked) (w'.inText "for y in g: pass")) =
      some (.indexError, [(some 4, "for y in g: pass")]) := by
  decide +kernel

end AliasTools.Script
