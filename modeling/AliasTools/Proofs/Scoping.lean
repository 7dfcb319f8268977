import AliasTools.Proofs.Runs

/-!
# The scope of loop variables

The loop variables of a comprehension live in a layer of names, which is in force from the time that its
generator begins until it ends.  A name is looked for in the layers in force before anywhere else,
whatever text it stands in.  Hence a name can be looked for among the variables of a comprehension that
does not enclose it: in the body of a function that is called meanwhile, in another generator that is
worked on meanwhile, or anywhere after the generator was left half-way.
-/

namespace AliasTools.Script

open Syntax List World Event

variable {h : List Event} {w : World} {e : Event} {s : Scene} {c : Cell} {g : Generator}

/-! ## 1. Scenes -/

/-- A generator with its layer. -/
structure InForce where
  generator : Addr
  layer : Nat
deriving DecidableEq

/-- A point of a run. -/
structure Scene where
  /-- The generators in force, the one that began last in front. -/
  inForce : List InForce := []
  /-- Those that were in force when a generator began. -/
  before : Addr → List InForce := fun _ => []
  /-- The comprehensions that enclose the text that is being carried out, the innermost in front. -/
  around : List Addr := []
  /-- Those that enclose the text by which a cell was made. -/
  origin : Addr → List Addr := fun _ => []
  /-- Those that enclose the texts from which the present one was entered. -/
  outer : List (List Addr) := []

namespace Scene

/-- The comprehensions that enclose the text of a region: for the body of a function those where it was
    made, and for the work of a generator also its own.  Nothing encloses a text as a whole. -/
def enclosing (s : Scene) : Region → List Addr
  | .body f _ => s.origin f
  | .work a => a :: s.origin a
  | .import _ => s.around
  | .module | .text _ => []

/-- The scene after an event.  A generator that ends brings back what was in force when it began,
    whatever has begun or ended since. -/
def step (s : Scene) : Event → Scene
  | .began a layer =>
    { s with
      inForce := ⟨a, layer⟩ :: s.inForce
      before := fun b => if b = a then s.inForce else s.before b }
  | .ended a => { s with inForce := s.before a }
  | .made a => { s with origin := fun b => if b = a then s.around else s.origin b }
  | .entered r => { s with around := s.enclosing r, outer := s.around :: s.outer }
  | .left _ => { s with around := s.outer.headD [], outer := s.outer.tail }
  | _ => s

def after (h : List Event) : Scene := h.foldl step {}

end Scene

/-! ## 2. Scenes and worlds -/

/-- The layers in force are those of the generators in force, and each generator remembers those that
    were in force when it began. -/
structure Staged (s : Scene) (w : World) : Prop where
  inForce : w.inForce = s.inForce.map (·.layer)
  previous : ∀ (a : Addr) (g : Generator), w.heap[a]? = some (.generator g) → g.previous = (s.before a).map (·.layer)
  fresh : ∀ a, w.heap.size ≤ a → s.before a = []

def Event.isRead : Event → Bool
  | .read _ _ => true
  | _ => false

/-- In what a run does from a scene on, every name is looked for in a world that is staged. -/
structure Stages (s : Scene) (h : List Event) (w' : World) : Prop where
  staged : Staged (h.foldl Scene.step s) w'
  reads : ∀ p name v q, h = p ++ .read name v :: q → Staged (p.foldl Scene.step s) v

section

variable {s s' : Scene} {w w' w'' : World} {h h' : List Event}

section

variable (staged : Staged s w)

include staged

theorem Staged.of_same (heap : w'.heap = w.heap) (inForce : w'.inForce = w.inForce)
    (sameInForce : s'.inForce = s.inForce) (before : s'.before = s.before) : Staged s' w' := by
  refine ⟨?_, ?_, ?_⟩
  · rw [inForce, sameInForce, staged.inForce]
  · rw [heap, before]
    exact staged.previous
  · rw [heap, before]
    exact staged.fresh

theorem Staged.put (a : Addr) (cell : ∀ g, c = .generator g → g.previous = (s.before a).map (·.layer)) :
    Staged s (w.putCell a c) := by
  refine ⟨staged.inForce, fun b g found => ?_, fun b outside => ?_⟩
  · rw [putCell, Array.getElem?_setIfInBounds] at found
    split at found
    · next here =>
      split at found
      · exact here ▸ cell g (Option.some.inj found)
      · cases found
    · exact staged.previous b g found
  · rw [putCell, Array.size_setIfInBounds] at outside
    exact staged.fresh b outside

theorem Staged.push (fresh : c.isFresh = true) : Staged s { w with heap := w.heap.push c } := by
  refine ⟨staged.inForce, fun b g found => ?_, fun b outside => ?_⟩
  · rw [Array.getElem?_push] at found
    split at found
    · next here =>
      -- the new cell is a generator: it remembers nothing, and no generator was at its address before
      rw [Option.some.inj found, Cell.isFresh, Bool.and_eq_true, List.isEmpty_iff] at fresh
      rw [fresh.2, staged.fresh b (Nat.le_of_eq here.symm)]
      rfl
    · exact staged.previous b g found
  · rw [Array.size_push] at outside
    exact staged.fresh b (Nat.le_of_succ_le outside)

theorem Staged.began (found : w.heap[a]? = some (.generator g)) :
    Staged (s.step (.began a w.layers.size)) (w.beginGenerator a g) := by
  obtain ⟨inside, -⟩ := Array.getElem?_eq_some_iff.mp found
  refine ⟨?_, fun b g' there => ?_, fun b outside => ?_⟩
  · show w.layers.size :: w.inForce = _
    rw [staged.inForce]
    rfl
  · show g'.previous = (if b = a then s.inForce else s.before b).map (·.layer)
    rw [beginGenerator, Array.getElem?_setIfInBounds] at there
    split at there
    · next here =>
      cases there
      rw [if_pos here.symm]
      exact staged.inForce
    · next elsewhere =>
      rw [if_neg (Ne.symm elsewhere)]
      exact staged.previous b g' there
  · rw [beginGenerator, Array.size_setIfInBounds] at outside
    show (if b = a then s.inForce else s.before b) = []
    rw [if_neg (by omega)]
    exact staged.fresh b outside

theorem Staged.ended (found : w.heap[a]? = some (.generator g)) : Staged (s.step (.ended a)) (w.endGenerator a g) := by
  have kept : Staged s (w.putCell a (.generator { g with progress := .finished, active := false })) :=
    staged.put a fun g' same => by cases same; exact staged.previous a g found
  exact ⟨staged.previous a g found, kept.previous, kept.fresh⟩

end

/-! ## 3. Runs -/

theorem Stages.quiet (staged : Staged (h.foldl Scene.step s) w') (noRead : h.any isRead = false) : Stages s h w' := by
  refine ⟨staged, ?_⟩
  rintro p name v q rfl
  simp [isRead] at noRead

theorem stages_read (staged : Staged s w) (name : String) : Stages s [.read name w] w := by
  refine ⟨staged, fun p name' v q same => ?_⟩
  obtain ⟨rfl, here⟩ := event_singleton same
  cases here
  exact staged

theorem Stages.append (first : Stages s h w') (second : Stages (h.foldl Scene.step s) h' w'') :
    Stages s (h ++ h') w'' := by
  refine ⟨?_, fun p name v q same => ?_⟩
  · rw [foldl_append]
    exact second.staged
  · rcases event_append_cases same with ⟨r, inFirst⟩ | ⟨r, rfl, inSecond⟩
    · exact first.reads p name v r inFirst
    · rw [foldl_append]
      exact second.reads r name v q inSecond

theorem Stages.within (r : Region) (inner : ∀ s', Staged s' w → Stages s' h w')
    (staged : Staged s w) (heap : w''.heap = w'.heap)
    (inForce : w''.inForce = w'.inForce) : Stages s (.entered r :: h ++ [.left r]) w'' := by
  have entering : Stages s [.entered r] w := .quiet (staged.of_same rfl rfl rfl rfl) rfl
  have inside := entering.append (inner _ entering.staged)
  exact inside.append (.quiet (inside.staged.of_same heap inForce rfl rfl) rfl)

end

def Cell.generator? : Cell → Option Generator
  | .generator g => some g
  | _ => none

theorem Alteration.generator?_apply (what : Alteration) (c : Cell) : (what.apply c).generator? = c.generator? := by
  cases what with
  | exchange new n => cases n <;> cases c <;> rfl
  | _ => cases c <;> rfl

theorem eq_generator_of_apply {what : Alteration} (altered : what.apply c = .generator g) : c = .generator g := by
  have same := what.generator?_apply c
  rw [altered] at same
  cases c with
  | generator g' =>
    cases same
    rfl
  | _ => cases same

/-- **Whatever a run does, the layers in force are those of the generators in force.** -/
theorem Moves.stages (moves : Moves w h w') (staged : Staged s w) : Stages s h w' := by
  induction moves generalizing s with
  | remark w e remark => cases remark <;> exact .quiet staged rfl
  | alter w a what c found =>
    refine .quiet (staged.put a fun g made => ?_) rfl
    exact staged.previous a g (eq_generator_of_apply made ▸ found)
  | put w a c c' found renewed =>
    refine .quiet (staged.put a fun g same => ?_) rfl
    rw [same] at renewed
    cases renewed
  | tabled w a what t n found => exact .quiet (staged.put a nofun) rfl
  | make w c fresh here => exact .quiet ((staged.push fresh).of_same rfl rfl rfl rfl) rfl
  | go w a g g' found goes =>
    refine .quiet (staged.put a fun g'' same => ?_) rfl
    cases same
    rw [goes.previous, staged.previous a g found]
  | began w a g found new => exact .quiet (staged.began found) rfl
  | ended w a g found running => exact .quiet (staged.ended found) rfl
  | read w name => exact stages_read staged name
  | append _ _ first second => exact (first staged).append (second (first staged).staged)
  | within enters _ inner =>
    -- the layers in force stay so inside, which is what the scene must not forget
    cases enters <;> exact .within _ (fun _ => inner) (staged.of_same rfl rfl rfl rfl) (by rfl) (by rfl)
  | _ => exact .quiet (staged.of_same rfl rfl rfl rfl) rfl

/-! ## 4. Layers belong to one generator each -/

/-- A run only adds layers, and gives each of them to one generator. -/
structure Allots (w : World) (h : List Event) (w' : World) : Prop where
  grows : w.layers.size ≤ w'.layers.size
  new : ∀ a l, began a l ∈ h → w.layers.size ≤ l ∧ l < w'.layers.size
  unique : ∀ a b l, began a l ∈ h → began b l ∈ h → a = b

section

variable {w w' w'' : World} {h h' : List Event}

def Event.isBegin : Event → Bool
  | .began _ _ => true
  | _ => false

theorem Allots.none (noBegin : h.any isBegin = false) (same : w'.layers.size = w.layers.size) : Allots w h w' := by
  have never (a : Addr) (l : Nat) : began a l ∉ h := fun member =>
    any_eq_false.mp noBegin _ member rfl
  exact ⟨Nat.le_of_eq same.symm, fun a l member => absurd member (never a l),
    fun a _ l member => absurd member (never a l)⟩

theorem allots_began (w : World) (a : Addr) (g : Generator) :
    Allots w [.began a w.layers.size] (w.beginGenerator a g) := by
  have size : (w.beginGenerator a g).layers.size = w.layers.size + 1 := Array.size_push _
  refine ⟨by omega, fun b l member => ?_, fun b c l first second => ?_⟩
  · cases mem_singleton.mp member
    omega
  · cases mem_singleton.mp first
    cases mem_singleton.mp second
    rfl

theorem Allots.append (first : Allots w h w') (second : Allots w' h' w'') : Allots w (h ++ h') w'' := by
  have grows := first.grows
  have grows' := second.grows
  refine ⟨by omega, fun a l member => ?_, fun a b l hereA hereB => ?_⟩
  · rcases mem_append.mp member with inFirst | inSecond
    · have bounds := first.new a l inFirst
      omega
    · have bounds := second.new a l inSecond
      omega
  · rcases mem_append.mp hereA with firstA | secondA <;>
      rcases mem_append.mp hereB with firstB | secondB
    · exact first.unique a b l firstA firstB
    · -- a layer from the first part is older than any from the second
      have old := first.new a l firstA
      have new := second.new b l secondB
      omega
    · have old := first.new b l firstB
      have new := second.new a l secondA
      omega
    · exact second.unique a b l secondA secondB

theorem Allots.within (r : Region) (inner : Allots v h v')
    (enter : v.layers.size = w.layers.size) (leave : w'.layers.size = v'.layers.size) :
    Allots w (.entered r :: h ++ [.left r]) w' := by
  have entering : Allots w [.entered r] v := .none rfl enter
  exact (entering.append inner).append (.none rfl leave)

end

theorem Moves.allots (moves : Moves w h w') : Allots w h w' := by
  induction moves with
  | remark w e remark => cases remark <;> exact .none rfl rfl
  | began w a g => exact allots_began w a g
  | bindLoop w layer name v => exact .none rfl Array.size_modify
  | append _ _ first second => exact first.append second
  | within enters _ inner => cases enters <;> exact .within _ inner (by rfl) (by rfl)
  | _ => exact .none rfl rfl

/-- Has every generator of a scene begun in a history? -/
structure Scene.Told (s : Scene) (h : List Event) : Prop where
  inForce : ∀ g ∈ s.inForce, began g.generator g.layer ∈ h
  before : ∀ a, ∀ g ∈ s.before a, began g.generator g.layer ∈ h

theorem Scene.Told.step (told : s.Told h) (e : Event) : (s.step e).Told (h ++ [e]) := by
  have inForce : ∀ g ∈ s.inForce, began g.generator g.layer ∈ h ++ [e] :=
    fun g member => mem_append_left _ (told.inForce g member)
  have before : ∀ a, ∀ g ∈ s.before a, began g.generator g.layer ∈ h ++ [e] :=
    fun a g member => mem_append_left _ (told.before a g member)
  cases e with
  | began a l =>
    refine ⟨fun g member => ?_, fun b g member => ?_⟩
    · rcases mem_cons.mp member with rfl | old
      · exact mem_append_right h mem_cons_self
      · exact inForce g old
    · change g ∈ (if b = a then s.inForce else s.before b) at member
      split at member
      · exact inForce g member
      · exact before b g member
  | ended a => exact ⟨before a, before⟩
  | _ => exact ⟨inForce, before⟩

theorem Scene.told_foldl (told : s.Told h) (h' : List Event) : (h'.foldl Scene.step s).Told (h ++ h') := by
  induction h' generalizing s h with
  | nil =>
    rw [append_nil]
    exact told
  | cons e h' ih =>
    have next := ih (told.step e)
    rwa [append_assoc] at next

theorem Scene.told_after (h : List Event) : (Scene.after h).Told h :=
  Scene.told_foldl (s := {}) (h := []) ⟨nofun, nofun⟩ h

/-! ## 5. Looking for names -/

theorem findInLayers_eq (layers : Array Names) (name : String) (is : List Nat) :
    findInLayers layers name is = is.findSome? fun i => (layers.getD i []).get? name := by
  induction is with
  | nil => rfl
  | cons i is ih =>
    rw [findInLayers, findSome?_cons, ih]
    cases (layers.getD i []).get? name <;> rfl

/-- Where a name is looked for: among the variables of the generators in force, then in the scope, then
    among the names that are built in. -/
def Scene.find (s : Scene) (w : World) (name : String) : Option Value :=
  (s.inForce.findSome? fun g => (w.layers.getD g.layer []).get? name).or
    ((w.scopeNames.get? name).or (w.builtins.get? name))

theorem Staged.lookup_eq (staged : Staged s w) (name : String) : w.lookup name = s.find w name := by
  have found : findInLayers w.layers name w.inForce =
      s.inForce.findSome? fun g => (w.layers.getD g.layer []).get? name := by
    rw [findInLayers_eq, staged.inForce, findSome?_map]
    rfl
  unfold World.lookup Scene.find
  rw [found]
  cases s.inForce.findSome? fun g => (w.layers.getD g.layer []).get? name with
  | some v => rfl
  | none => cases w.scopeNames.get? name <;> rfl

/-- Is a name that is read after a history looked for only in layers of comprehensions that enclose
    it? -/
def ReadsLexically (h : List Event) (w : World) : Prop :=
  ∀ l ∈ w.inForce, ∃ a ∈ (Scene.after h).around, began a l ∈ h

theorem readsLexically_iff (staged : Staged (Scene.after h) w)
    (unique : ∀ a b l, began a l ∈ h → began b l ∈ h → a = b) :
    ReadsLexically h w ↔ ∀ g ∈ (Scene.after h).inForce, g.generator ∈ (Scene.after h).around := by
  unfold ReadsLexically
  rw [staged.inForce]
  constructor
  · intro lexical g member
    obtain ⟨a, around, began⟩ := lexical g.layer (mem_map_of_mem member)
    rwa [unique g.generator a g.layer ((Scene.told_after h).inForce g member) began]
  · intro enclosed l member
    obtain ⟨g, here, rfl⟩ := mem_map.mp member
    exact ⟨g.generator, enclosed g here, (Scene.told_after h).inForce g here⟩

theorem exec_name (answer : Answering) (sp : Span) (name : String) (use : NameUse) (w : World) :
    (evalNode .ask (.name sp name use)).exec answer w =
      match w.lookup name with
      | some v => .ok v w
      | none => .error (w.errorAt .notDefined (name ++ " is not defined") sp) w := by
  show (Eval.bind (.lookup name) _).exec answer w = _
  rw [Eval.exec, Eval.exec]
  cases w.lookup name <;> rfl

/-! ## 6. Executions -/

/-- A world that was reached with a history, from one without layers. -/
structure Reached (h : List Event) (w : World) : Prop where
  staged : Staged (Scene.after h) w
  allots : Allots {} h w

theorem reached_nil (inForce : w.inForce = [])
    (previous : ∀ (a : Addr) (g : Generator), w.heap[a]? = some (.generator g) → g.previous = []) : Reached [] w :=
  ⟨⟨inForce, previous, fun _ _ => rfl⟩, ⟨Nat.zero_le _, nofun,
      nofun⟩⟩

/-- **Names are looked for lexically just when every generator in force encloses them.**  A name that is
    read is found among the variables of the generators in force before anywhere else, function bodies and
    modules or not. -/
theorem reads_lexical_iff (text : String) (h : List Event) (w : World) (reached : Reached h w) :
    (∀ p name v q, executeHistory text w = p ++ .read name v :: q →
      (ReadsLexically (h ++ p) v ↔
        ∀ g ∈ (Scene.after (h ++ p)).inForce, g.generator ∈ (Scene.after (h ++ p)).around) ∧
      ∀ (answer : Answering) (sp : Span) (use : NameUse),
        (evalNode .ask (.name sp name use)).exec answer v =
          match (Scene.after (h ++ p)).find v name with
          | some u => .ok u v
          | none => .error (v.errorAt .notDefined (name ++ " is not defined") sp) v) ∧
    Reached (h ++ executeHistory text w) (worldOf (execute text w)) := by
  obtain ⟨n, m, moves⟩ := execute_moves text w
  have stages := moves.stages (reached.staged.of_same rfl rfl rfl rfl)
  have start : Allots {} h { w with source := text, statements := n, loops := m } :=
    ⟨reached.allots.grows, reached.allots.new, reached.allots.unique⟩
  have allots := start.append moves.allots
  refine ⟨fun p name v q told => ?_, ?_⟩
  · have staged : Staged (Scene.after (h ++ p)) v := by
      rw [Scene.after, List.foldl_append]
      exact stages.reads p name v q told
    have unique (a b : Addr) (l : Nat) (first : Event.began a l ∈ h ++ p)
        (second : Event.began b l ∈ h ++ p) : a = b := by
      -- layers are told apart by the whole history, of which this is a part
      have part : h ++ p ⊆ h ++ executeHistory text w := by
        rw [told, ← List.append_assoc]
        exact List.subset_append_left _ _
      exact allots.unique a b l (part first) (part second)
    refine ⟨readsLexically_iff staged unique, fun answer sp use => ?_⟩
    rw [exec_name, staged.lookup_eq]
  · refine ⟨?_, allots⟩
    rw [Scene.after, List.foldl_append]
    exact stages.staged

/-- A function is called in a comprehension whose variable is named like its parameter, and then a
    generator is left half-way. -/
theorem reads_lexical_iff_half_way :
    let w : World := {}
    let text := "y = [(lambda x: x)(5) for x in [1]]\ng = (z for z in y)\nfor u in g:\n    break\nz"
    Reached [] w ∧ Reached ([] ++ executeHistory text w) (worldOf (execute text w)) := by
  intro w text
  have reached : Reached [] w := reached_nil rfl fun a g found => by
    cases found
  exact ⟨reached, (reads_lexical_iff text [] w reached).2⟩

def wholeNumbers? (w : World) : Value → Option (List Int)
  | .ref a =>
    match w.heap[a]? with
    | some (.list _ xs _) => xs.toList.mapM Value.asInt?
    | _ => none
  | _ => none

/-- `[(lambda x: x)(5) for x in [1]]` is `[1]`: the variable of the comprehension is found before the
    parameter of the function that is called in it. -/
theorem loop_variable_hides_parameter :
    let sp : Span := ⟨1, 0, 1, 0⟩
    let identity : Expr :=
      .lambda sp (.mk [] [.mk sp "x" none none] none [] [] none []) (.name sp "x" .load)
    let comprehension : Expr :=
      .listComp sp (.call sp identity [.constant sp (.int 5)] [])
        [.mk (.name sp "x" .store) (.list sp [.constant sp (.int 1)] .load) [] false]
    (match run 10 (.expr comprehension) {} with
      | .ok v w => wholeNumbers? w v
      | .error _ _ => none) = some [1] := by
  decide +kernel

end AliasTools.Script
