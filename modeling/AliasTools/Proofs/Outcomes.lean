import AliasTools.Proofs.Runs

/-!
# How computations end

* `World.Lasts` — what every run leaves of the world that it began in: each cell is of its sort, and what
  it has come to it does not go back on;
* `Eval.Looks` — computations that leave the world as it is;
* `Gives` — what holds when a computation ends well, with a rule for each way to put computations
  together.
-/

namespace AliasTools.Script

open Eval Cell Option

/-! ## 1. Cells that last -/

/-- What can become of a cell: one of its sort.  A container that has a record keeps one, a generator that
    has begun or ended stays so, and so does a counter that is done. -/
inductive Cell.Lasts : Cell → Cell → Prop where
  | list (g : Bool) (xs xs' : Array Value) {n n' : Option Int}
    (kept : n.isSome = true → n'.isSome = true) : Lasts (.list g xs n) (.list g xs' n')
  | dict (g : Bool) (es es' : Entries) {n n' : Option Int}
    (kept : n.isSome = true → n'.isSome = true) : Lasts (.dict g es n) (.dict g es' n')
  | set (g : Bool) (ms ms' : Members) {n n' : Option Int}
    (kept : n.isSome = true → n'.isSome = true) : Lasts (.set g ms n) (.set g ms' n')
  | closure (c : Closure) : Lasts (.closure c) (.closure c)
  | generator {g g' : Generator} (begun : g'.progress = .notStarted → g.progress = .notStarted)
    (ended : g.progress = .finished → g'.progress = .finished)
    (text : g'.emit = g.emit ∧ g'.clauses = g.clauses) : Lasts (.generator g) (.generator g')
  | counter {c c' : Cursor} (n n' : Int) (done : c = .done → c' = .done) :
    Lasts (.counter c n) (.counter c' n')
  | view (k : ViewKind) (d : Addr) : Lasts (.view k d) (.view k d)
  | namespace (ns ns' : Names) : Lasts (.namespace ns) (.namespace ns')
  | object (k : Sheet.ObjectKind) (fields fields' : Names) : Lasts (.object k fields) (.object k fields')
  | roll (r r' : RollRecord) : Lasts (.roll r) (.roll r')
  | rollPart (a : Addr) (name : String) : Lasts (.rollPart a name) (.rollPart a name)
  | arguments (t t' : ArgumentTable) (n n' : Option Int) : Lasts (.arguments t n) (.arguments t' n')

namespace Cell

theorem Lasts.refl (c : Cell) : c.Lasts c := by
  cases c with
  | list g xs n => exact .list g xs xs id
  | dict g es n => exact .dict g es es id
  | set g ms n => exact .set g ms ms id
  | closure c => exact .closure c
  | generator g => exact .generator id id ⟨rfl, rfl⟩
  | counter c n => exact .counter n n id
  | view k d => exact .view k d
  | «namespace» ns => exact .namespace ns ns
  | object k fields => exact .object k fields fields
  | roll r => exact .roll r r
  | rollPart a name => exact .rollPart a name
  | arguments t n => exact .arguments t t n n

theorem Lasts.trans {c : Cell} (first : c.Lasts c') (second : c'.Lasts c'') : c.Lasts c'' := by
  cases first with
  | list g xs _ kept => cases second with | list _ _ ys kept' => exact .list g xs ys (kept' ∘ kept)
  | dict g es _ kept => cases second with | dict _ _ fs kept' => exact .dict g es fs (kept' ∘ kept)
  | set g ms _ kept => cases second with | set _ _ ns kept' => exact .set g ms ns (kept' ∘ kept)
  | closure c => exact second
  | generator begun ended text =>
    cases second with
    | generator begun' ended' text' =>
      exact .generator (begun ∘ begun') (ended' ∘ ended) ⟨text'.1.trans text.1, text'.2.trans text.2⟩
  | counter n _ done => cases second with | counter _ m done' => exact .counter n m (done' ∘ done)
  | view k d => exact second
  | «namespace» ns _ => cases second with | «namespace» _ ms => exact .namespace ns ms
  | object k fields _ => cases second with | object _ _ others => exact .object k fields others
  | roll r _ => cases second with | roll _ s => exact .roll r s
  | rollPart a name => exact second
  | arguments t _ n _ => cases second with | arguments _ u _ m => exact .arguments t u n m

theorem lasts_apply (what : Alteration) (c : Cell) : c.Lasts (what.apply c) := by
  -- the two ways in which a record changes leave one where there was one
  have moved {n : Option Int} (k : Int) (some : n.isSome = true) : (n.map (· + k)).isSome = true := by
    rwa [isSome_map]
  have measured {n : Option Int} (g : Bool) (m : Int) (some : n.isSome = true) :
      (Alteration.remeasured g n m).isSome = true := by
    cases g
    · exact some
    · rfl
  cases c with
  | list g xs n =>
    cases what with
    | measure m => exact .list g xs xs (measured g m)
    | charge k => exact .list g xs xs (moved k)
    | clear => exact .list g xs #[] (measured g 0)
    | append v => exact .list g xs _ (moved 1)
    | extend new k => exact .list g xs _ (moved k)
    | takeAt i => exact .list g xs _ (moved (-1))
    | insert | setAt | splice | arrange => exact .list g xs _ id
    | exchange new m => cases m <;> exact .list g xs xs id
    | _ => exact .list g xs xs id
  | dict g es n =>
    cases what with
    | measure m => exact .dict g es es (measured g m)
    | charge k => exact .dict g es es (moved k)
    | merge new k => exact .dict g es new (moved k)
    | dropEntry key k => exact .dict g es _ (moved (-k))
    | clear | setEntry | dropLastEntry => exact .dict g es _ id
    | exchange new m => cases m <;> exact .dict g es es id
    | _ => exact .dict g es es id
  | set g ms n =>
    cases what with
    | measure m => exact .set g ms ms (measured g m)
    | charge k => exact .set g ms ms (moved k)
    | clear => exact .set g ms #[] (measured g 0)
    | addMember k v => exact .set g ms _ (moved 1)
    | unite new k => exact .set g ms new (moved k)
    | dropMember key k => exact .set g ms _ (moved (-k))
    | exchange new m =>
      cases m with
      | none => exact .set g ms new id
      | some m => exact .set g ms new (measured g m)
    | _ => exact .set g ms ms id
  | arguments t n =>
    cases what with
    | exchange new m => cases m <;> exact .refl _
    | _ => exact .arguments t t n _
  | «namespace» ns =>
    cases what with
    | exchange new m => cases m <;> exact .namespace ns ns
    | _ => exact .namespace ns _
  | _ =>
    cases what with
    | exchange new m => cases m <;> exact .refl _
    | _ => exact .refl _

theorem Renewed.lasts {c : Cell} (renewed : c.Renewed c') : c.Lasts c' := by
  cases renewed with
  | object k fields fields' => exact .object k fields fields'
  | roll r r' => exact .roll r r'
  | counter going n c' n' => exact .counter n n' fun done => absurd done going

end Cell

theorem Generator.Goes.lasts (goes : g.Goes g') : (generator g).Lasts (.generator g') := by
  refine .generator goes.begun (fun ended => ?_) goes.text
  cases stage : g'.progress with
  | notStarted => rw [goes.begun stage] at ended; cases ended
  | running runs => obtain ⟨old, going⟩ := goes.running runs stage; rw [going] at ended; cases ended
  | finished => rfl

/-- What can become of a world: its limits stay, and all its cells last. -/
structure World.Lasts (w w' : World) : Prop where
  limits : w'.limits = w.limits
  cells : ∀ (a : Addr) (c : Cell), w.heap[a]? = some c → ∃ c', w'.heap[a]? = some c' ∧ c.Lasts c'

namespace World

theorem Lasts.of_heap {w : World} (limits : w'.limits = w.limits) (same : w'.heap = w.heap) : w.Lasts w' :=
  ⟨limits, fun _ c found => ⟨c, same ▸ found, .refl c⟩⟩

theorem Lasts.refl (w : World) : w.Lasts w := .of_heap rfl rfl

theorem Lasts.trans {w : World} (first : w.Lasts w') (second : w'.Lasts w'') : w.Lasts w'' := by
  refine ⟨second.limits.trans first.limits, fun a c found => ?_⟩
  obtain ⟨c', found', lasts⟩ := first.cells a c found
  obtain ⟨c'', found'', lasts'⟩ := second.cells a c' found'
  exact ⟨c'', found'', lasts.trans lasts'⟩

theorem lasts_put {w : World} (found : w.heap[a]? = some c) (lasts : c.Lasts c') : w.Lasts (w.putCell a c') := by
  refine ⟨rfl, fun b d there => ?_⟩
  rw [putCell, Array.getElem?_setIfInBounds]
  by_cases here : a = b
  · subst here
    obtain ⟨inside, -⟩ := Array.getElem?_eq_some_iff.mp found
    rw [found] at there
    exact ⟨c', by rw [if_pos rfl, if_pos inside], some.inj there ▸ lasts⟩
  · exact ⟨d, by rw [if_neg here, there], .refl d⟩

theorem lasts_push (w : World) (c : Cell) : w.Lasts { w with heap := w.heap.push c } := by
  refine ⟨rfl, fun b d there => ⟨d, ?_, .refl d⟩⟩
  obtain ⟨inside, -⟩ := Array.getElem?_eq_some_iff.mp there
  rw [Array.getElem?_push, if_neg (Nat.ne_of_lt inside), there]

end World

/-- **Whatever a run does, the cells last.** -/
theorem Moves.lasts (moves : Moves w h w') : w.Lasts w' := by
  induction moves with
  | done | remark | read => exact .refl _
  | alter w a what c found => exact World.lasts_put found (c.lasts_apply what)
  | put w a c c' found renewed => exact World.lasts_put found renewed.lasts
  | tabled w a what t n found => exact World.lasts_put found (.arguments t _ n n)
  | make w c fresh here => exact w.lasts_push c
  | go w a g g' found goes => exact World.lasts_put found goes.lasts
  | began w a g found new =>
    have lasts : (generator g).Lasts (.generator { g with
        layer := w.layers.size, previous := w.inForce, progress := .running [], active := true }) :=
      .generator nofun (fun ended => by rw [new] at ended; cases ended) ⟨rfl, rfl⟩
    exact (World.lasts_put found lasts).trans (.of_heap rfl rfl)
  | ended w a g found running =>
    have lasts : (generator g).Lasts (.generator { g with progress := .finished, active := false }) :=
      .generator nofun (fun _ => rfl) ⟨rfl, rfl⟩
    exact (World.lasts_put found lasts).trans (.of_heap rfl rfl)
  | bindLoop | assigned | bound | elsewhere | kept | node | noNode | round | noRound | noBody | noModule
  | loaded => exact .of_heap rfl rfl
  | append _ _ first second => exact first.trans second
  | within enters _ inner => cases enters <;> exact ⟨inner.limits, inner.cells⟩

/-! ## 2. Computations that only look -/

/-- A computation that leaves the world as it is. -/
inductive Eval.Looks : {α : Type} → Eval α → Prop where
  | pure {α : Type} (v : α) : Looks (.pure v)
  | raise {α : Type} (c : Complaint) : Looks (.raise c : Eval α)
  | read : Looks .read
  | bind {α β : Type} {x : Eval α} {f : α → Eval β} (first : Looks x) (rest : ∀ v, Looks (f v)) : Looks (.bind x f)
  | onFault {α : Type} {x : Eval α} (answers : Fault → Bool) {f : Fault → Eval α} (first : Looks x)
    (rest : ∀ e, Looks (f e)) : Looks (.onFault x answers f)

theorem Eval.Looks.worldOf_exec {α : Type} {x : Eval α} (looks : x.Looks) (answer : Answering) (w : World) :
    worldOf (x.exec answer w) = w := by
  induction looks generalizing w with
  | pure | raise | read => rfl
  | @bind _ _ x f _ _ first rest =>
    have same := first w
    rw [exec]
    cases out : x.exec answer w with
    | ok v w' =>
      rw [out] at same
      exact (rest v w').trans same
    | error e w' =>
      rw [out] at same
      exact same
  | @onFault _ x answers f _ _ first rest =>
    have same := first w
    rw [exec]
    cases out : x.exec answer w with
    | ok v w' =>
      rw [out] at same
      exact same
    | error e w' =>
      rw [out] at same
      cases e with
      | fault e =>
        dsimp only
        split
        · exact (rest e w').trans same
        · exact same
      | _ => exact same

theorem Eval.Looks.exec_ok {α : Type} {x : Eval α} (looks : x.Looks) {answer : Answering}
    {v : α} (ran : x.exec answer w = .ok v w') : w' = w := by
  have same := looks.worldOf_exec answer w
  rwa [ran] at same

theorem looks_cellAt (a : Addr) : (cellAt a).Looks := .bind .read fun _ => .pure _

variable (v : Value)

theorem looks_cellOf : (cellOf v).Looks := by
  cases v with
  | ref a => exact looks_cellAt a
  | _ => exact .pure _

theorem looks_typeName : (typeName v).Looks := .bind .read fun _ => .pure _

theorem looks_listItems? : (listItems? v).Looks := by
  refine .bind (looks_cellOf v) fun c => ?_
  split <;> exact .pure _

theorem looks_entries? : (entries? v).Looks := by
  refine .bind (looks_cellOf v) fun c => ?_
  split <;> exact .pure _

theorem looks_members? : (members? v).Looks := by
  refine .bind (looks_cellOf v) fun c => ?_
  split <;> exact .pure _

theorem looks_isSequence : (isSequence v).Looks := by
  unfold isSequence
  split
  · exact .pure _
  · exact .pure _
  · exact .pure _
  · exact .bind (looks_listItems? v) fun _ => .pure _

theorem looks_checkOperands (a b : Value) : (checkOperands a b).Looks := by
  refine .bind .read fun w => ?_
  dsimp only
  split
  · exact .raise _
  · exact .pure _

theorem looks_isMapping : (isMapping v).Looks := .bind (looks_entries? v) fun _ => .pure _

mutual

theorem looks_hashKey (v : Value) : (hashKey v).Looks := by
  cases v with
  | ref a =>
    refine .bind (looks_cellAt a) fun c => ?_
    split
    · exact .raise _
    · exact .pure _
  | tuple items => exact .bind (looks_hashKeys items) fun _ => .pure _
  | method self name => exact .bind (looks_hashKey self) fun _ => .pure _
  | slice => exact .raise _
  | _ => exact .pure _

theorem looks_hashKeys (vs : List Value) : (hashKeys vs).Looks := by
  cases vs with
  | nil => exact .pure _
  | cons v vs => exact .bind (looks_hashKey v) fun _ => .bind (looks_hashKeys vs) fun _ => .pure _

end

theorem looks_hashKey? : (hashKey? v).Looks := .onFault _ (.bind (looks_hashKey v) fun _ => .pure _) fun _ => .pure _

theorem looks_visit (seen : Visited) : (visit v seen).Looks := by
  refine .bind (looks_hashKey? v) fun key => ?_
  cases key <;> exact .pure _

theorem looks_mapM {α β : Type} {f : α → Eval β} (each : ∀ v, (f v).Looks) (vs : List α) : (vs.mapM f).Looks := by
  have loop (done : List β) : (List.mapM.loop f vs done).Looks := by
    induction vs generalizing done with
    | nil => exact .pure _
    | cons v vs ih => exact .bind (each v) fun u => ih (u :: done)
  exact loop []

theorem looks_unless [Decidable p] {α : Type} {rest : Unit → Eval α}
    (looks : ∀ u, (rest u).Looks) : (if p then Eval.bind (.raise c) rest else rest ()).Looks := by
  split
  · exact .bind (.raise c) looks
  · exact looks ()

/-! ## 3. Computations that end well -/

section

variable {α β : Type} {answer : Answering} {w w₁ : World} {a : Addr}

theorem exec_read_bind (answer : Answering) (f : World → Eval α) (w : World) :
    (Eval.bind .read f).exec answer w = (f w).exec answer w := rfl

theorem exec_bind_ok {v : α} (ran : x.exec answer w = .ok v w₁) (f : α → Eval β) :
    (Eval.bind x f).exec answer w = (f v).exec answer w₁ := by
  rw [Eval.exec, ran]

theorem Run.bind_eq_ok {x : Run α} {f : α → Run β} {b : β} (ran : (x >>= f) w = .ok b w₁) :
    ∃ a w', x w = .ok a w' ∧ f a w' = .ok b w₁ := by
  change EStateM.bind x f w = _ at ran
  unfold EStateM.bind at ran
  split at ran
  · next a w' first => exact ⟨a, w', first, ran⟩
  · cases ran

theorem exec_bind_assoc {γ : Type} (answer : Answering) (x : Eval α) (f : α → Eval β)
    (g : β → Eval γ) (w : World) : (Eval.bind (.bind x f) g).exec answer w =
      (Eval.bind x fun v => .bind (f v) g).exec answer w := by
  rw [Eval.exec, Eval.exec, Eval.exec]
  cases x.exec answer w with
  | ok v w' =>
    dsimp only
    rw [Eval.exec]
  | error e w' => rfl

theorem exec_cellAt_bind (answer : Answering) (w : World) (a : Addr) (f : Option Cell → Eval α) :
    (Eval.bind (cellAt a) f).exec answer w = (f w.heap[a]?).exec answer w := rfl

theorem exec_found (f : Option Cell → Eval α) (found : w.heap[a]? = some c) :
    (Eval.bind (cellAt a) f).exec answer w = (f (some c)).exec answer w := by
  rw [exec_cellAt_bind, found]

end

/-- Whenever a computation ends well, its value and the world after it are as `p` says. -/
def Gives {α : Type} (k : Nat) (w : World) (x : Eval α) (p : α → World → Prop) : Prop :=
  ∀ v w', x.exec (run k) w = .ok v w' → p v w'

section

variable {α β : Type} {k : Nat} {w : World} {p : α → World → Prop} {q : β → World → Prop} {x : Eval α} {f : α → Eval β}

theorem Gives.bind (first : Gives k w x p) (rest : ∀ v w', p v w' → Gives k w' (f v) q) : Gives k w (.bind x f) q := by
  intro u w'' ran
  rw [exec] at ran
  split at ran
  · next v w' out => exact rest v w' (first v w' out) u w'' ran
  · cases ran

theorem gives_lasts (x : Eval α) : Gives k w x fun _ w' => w.Lasts w' := by
  intro v w' ran
  have runs := x.runs_log k w
  rw [ran] at runs
  exact runs.moves.lasts

/-- Whatever is done, and whatever it gives, what was there at an earlier point lasts. -/
theorem Gives.on {w₀ : World} (earlier : w₀.Lasts w) (first : Gives k w x p)
    (rest : ∀ v w', w₀.Lasts w' → p v w' → Gives k w' (f v) q) : Gives k w (.bind x f) q := by
  intro u w'' ran
  refine Gives.bind (p := fun v w' => w.Lasts w' ∧ p v w')
    (fun v w' out => ⟨gives_lasts x v w' out, first v w' out⟩) ?_ u w'' ran
  exact fun v w' ⟨lasts, holds⟩ => rest v w' (earlier.trans lasts) holds

theorem Gives.past {w₀ : World} (earlier : w₀.Lasts w) (rest : ∀ v w', w₀.Lasts w' → Gives k w' (f v) q) :
    Gives k w (.bind x f) q :=
  .on earlier (gives_lasts x) fun v w' lasts _ => rest v w' lasts

theorem Gives.whatever (rest : ∀ v w', Gives k w' (f v) q) : Gives k w (.bind x f) q :=
  (gives_lasts x).bind fun v w' _ => rest v w'

theorem gives_of_looks (looks : x.Looks) : Gives k w x fun _ w' => w' = w := fun _ _ ran => looks.exec_ok ran

theorem Gives.and (first : Gives k w x p) (second : Gives k w x p') : Gives k w x fun v w' => p v w' ∧ p' v w' :=
  fun v w' ran => ⟨first v w' ran, second v w' ran⟩

theorem Gives.looking (holds : Gives k w x p) (looks : x.Looks) : Gives k w x fun v w' => p v w' ∧ w' = w :=
  fun v w' ran => ⟨holds v w' ran, looks.exec_ok ran⟩

theorem Gives.knowing {P : α → Prop} (holds : Gives k w x fun v w' => P v ∧ w' = w)
    (rest : ∀ v, P v → Gives k w (f v) q) : Gives k w (.bind x f) q :=
  holds.bind fun v _ ⟨known, same⟩ => same ▸ rest v known

theorem Gives.value {u : α} (known : Gives k w x fun v w' => v = u ∧ w' = w) (rest : Gives k w (f u) q) :
    Gives k w (.bind x f) q := known.knowing fun _ same => same ▸ rest

theorem Gives.still (same : Gives k w x fun _ w' => w' = w) (rest : ∀ v, Gives k w (f v) q) : Gives k w (.bind x f) q :=
  same.bind fun v _ same => same ▸ rest v

theorem Gives.after (looks : x.Looks) (rest : ∀ v, Gives k w (f v) q) : Gives k w (.bind x f) q :=
  .still (gives_of_looks looks) rest

theorem gives_pure {v : α} (holds : p v w) : Gives k w (.pure v) p := by
  intro u w' ran
  cases ran
  exact holds

theorem Gives.pure_bind {v : α} (rest : Gives k w (f v) q) : Gives k w (.bind (.pure v) f) q := by
  refine .knowing (gives_pure ⟨rfl, rfl⟩) ?_
  rintro _ rfl
  exact rest

theorem Gives.returning {P : World → Prop} (holds : Gives k w x fun _ w' => P w') (v : β) :
    Gives k w (.bind x fun _ => .pure v) fun _ w' => P w' :=
  holds.bind fun _ _ known => gives_pure known

theorem gives_raise (c : Complaint) : Gives k w (.raise c) p := by
  intro v w' ran
  cases ran

theorem gives_raise_bind : Gives k w (.bind (.raise e) f) q := by
  intro v w' ran
  cases ran

theorem gives_unless [Decidable c] {f : Unit → Eval α}
    (rest : ¬ c → Gives k w (f ()) p) : Gives k w (if c then Eval.bind (.raise e) f else f ()) p := by
  split
  · exact gives_raise_bind
  · exact rest ‹¬ c›

theorem Gives.reading {f : World → Eval β} (rest : Gives k w (f w) q) : Gives k w (.bind .read f) q := by
  intro u w' ran
  exact rest u w' ran

theorem gives_change {p : Unit → World → Prop} (c : Change) (holds : p () (c.apply w)) : Gives k w (.change c) p := by
  intro v w' ran
  cases ran
  exact holds

theorem Gives.changing {f : Unit → Eval β} (rest : Gives k (c.apply w) (f ()) q) :
    Gives k w (.bind (.change c) f) q := by
  intro u w' ran
  exact rest u w' ran

theorem Gives.working (a : Addr) (holds : Gives k w x p) : Gives k w (.working a x) p := by
  intro v w' ran
  rw [exec] at ran
  split at ran
  · cases ran
  · exact holds v w' ran

theorem Gives.cleaning (c : Change) (holds : Gives k w x p) : Gives k w (.cleaning x c) p := by
  intro v w' ran
  rw [exec] at ran
  split at ran
  · cases ran
  · exact holds v w' ran

theorem Gives.wrapped (c : Wrapping) (holds : Gives k w x p) : Gives k w (.wrapped c x) p := by
  intro v w' ran
  rw [exec] at ran
  split at ran
  · cases ran
  · exact holds v w' ran

theorem Gives.onFault (answers : Fault → Bool) {f : Fault → Eval α} (holds : Gives k w x p)
    (rest : ∀ e w', Gives k w' (f e) p) : Gives k w (.onFault x answers f) p := by
  intro v w' ran
  rw [exec] at ran
  split at ran
  · next e w'' _ =>
    split at ran
    · exact rest e w'' v w' ran
    · cases ran
  · exact holds v w' ran

theorem gives_ask (t : Task α) (rule : ∀ n, Gives n w (step .ask t) p) : Gives k w (.ask t) p := by
  intro v w' ran
  rw [exec] at ran
  cases k with
  | zero => cases ran
  | succ n => exact rule n v w' ran

theorem gives_text_of_text (s : String) (g : Bool) : Gives k w (.ask (.text (.str s g))) fun t w' => t = s ∧ w' = w :=
  gives_ask _ fun _ => .pure_bind (gives_pure ⟨rfl, rfl⟩)

theorem Gives.cell {f : Option Cell → Eval β} (rest : Gives k w (f w.heap[a]?) q) :
    Gives k w (.bind (cellAt a) f) q := by
  have here : Gives k w (cellAt a) fun c w' => c = w.heap[a]? ∧ w' = w := .reading (gives_pure ⟨rfl, rfl⟩)
  exact here.value rest

theorem Gives.found (found : w.heap[a]? = some c) {f : Option Cell → Eval β}
    (rest : Gives k w (f (some c)) q) : Gives k w (.bind (cellAt a) f) q :=
  .cell (found ▸ rest)

theorem gives_failAt_bind : Gives k w (.bind (failAt kind message sp) f) q := by
  intro v w' ran
  cases ran

theorem gives_unless_failAt [Decidable c] {f : Unit → Eval α} (rest : ¬ c → Gives k w (f ()) p) :
    Gives k w (if c then Eval.bind (failAt kind message sp) f else f ()) p := by
  split
  · exact gives_failAt_bind
  · exact rest ‹¬ c›

theorem gives_mapM {γ : Type} (before : α → γ) (after : β → γ)
    (each : ∀ w x, Gives k w (f x) fun y _ => after y = before x) (w : World) (xs : List α) :
    Gives k w (xs.mapM f) fun ys _ => ys.map after = xs.map before := by
  have loop (done : List β) (w : World) : Gives k w (List.mapM.loop f xs done)
      fun ys _ => ys.map after = (done.map after).reverse ++ xs.map before := by
    induction xs generalizing done w with
    | nil => exact gives_pure (by simp)
    | cons x xs ih =>
      refine .bind (each w x) fun y w' same => ?_
      simpa [same] using ih (y :: done) w'
  exact loop [] w

end

end AliasTools.Script
