import AliasTools.Proofs.CallDepth
import AliasTools.Proofs.SharedVariables

/-!
# Imports of modules

* `Loading`, `Loading.Admitted` — the imports that are under way and the modules that are there, as a
  history tells them; nothing is imported that is under way or there;
* `LoadsOnce` — so no module is loaded twice, and no import leads back to itself;
* `NameAfter` — what becomes of a name of the scope that modules are imported into;
* `Restores` — what a call of `using` leaves as it was;
* `imports_load_once_and_restore` — all of this for every computation and every call.
-/

namespace AliasTools.Script

open Syntax List Names Eval

variable {name a : String} {v m : Value} {l : Loading} {h : List Event} {e : Event}

/-! ## 1. Imports in a history -/

/-- The addresses that are being imported, and the modules that have been loaded. -/
structure Loading where
  chain : List String
  modules : Names

def World.loading (w : World) : Loading := ⟨w.importing, w.modules⟩

namespace Loading

def after (l : Loading) : Event → Loading
  | .entered (.import a) => { l with chain := l.chain ++ [a] }
  | .left (.import _) => { l with chain := l.chain.dropLast }
  | .loaded a m => { l with modules := l.modules.put a m }
  | _ => l

def afterAll (l : Loading) (h : List Event) : Loading := h.foldl after l

def Lacks (l : Loading) (a : String) : Prop := a ∉ l.chain ∧ l.modules.get? a = none

def Admits (l : Loading) : Event → Prop
  | .entered (.import a) | .loaded a _ => l.Lacks a
  | _ => True

def Admitted : Loading → List Event → Prop
  | _, [] => True
  | l, e :: h => l.Admits e ∧ (l.after e).Admitted h

theorem afterAll_append (l : Loading) (h h' : List Event) : l.afterAll (h ++ h') = (l.afterAll h).afterAll h' :=
  foldl_append

theorem admitted_append : l.Admitted (h ++ h') ↔ l.Admitted h ∧ (l.afterAll h).Admitted h' := by
  induction h generalizing l with
  | nil => exact (true_and _).symm.to_iff
  | cons e h ih => rw [cons_append, Admitted, Admitted, ih, and_assoc]; rfl

theorem grows_after (admits : l.Admits e) : l.modules.Grows (l.after e).modules := by
  unfold after
  split
  · exact .refl _
  · exact .refl _
  · exact grows_put (has_eq_false_iff.mpr admits.2) _
  · exact .refl _

theorem Admitted.grows (admitted : l.Admitted h) : l.modules.Grows (l.afterAll h).modules := by
  induction h generalizing l with
  | nil => exact .refl _
  | cons e h ih => exact (grows_after admitted.1).trans (ih admitted.2)

theorem Admitted.not_lacks (admitted : l.Admitted h) (there : l.modules.get? a = some m) (member : e ∈ h) :
    e ≠ .entered (.import a) ∧ ∀ m', e ≠ .loaded a m' := by
  obtain ⟨p, q, rfl⟩ := append_of_mem member
  obtain ⟨early, here, -⟩ := admitted_append.mp admitted
  have still := early.grows a m there
  constructor
  · rintro rfl
    rw [here.2] at still
    cases still
  · rintro m' rfl
    rw [here.2] at still
    cases still

theorem Admitted.nodup (admitted : l.Admitted h) (nodup : l.chain.Nodup) : (l.afterAll h).chain.Nodup := by
  induction h generalizing l with
  | nil => exact nodup
  | cons e h ih =>
    refine ih admitted.2 ?_
    have here := admitted.1
    unfold after
    split
    · exact nodup_append.mpr ⟨nodup, pairwise_singleton _ _, fun a member b last same =>
        here.1 (mem_singleton.mp last ▸ same ▸ member)⟩
    · exact nodup.sublist (dropLast_sublist _)
    · exact nodup
    · exact nodup

end Loading

/-- What a history tells of imports is so, and all its imports are admitted. -/
structure Imports (w : World) (h : List Event) (w' : World) : Prop where
  told : w.loading.afterAll h = w'.loading
  admitted : w.loading.Admitted h

section

variable {w w' w'' : World} {h h' : List Event}

def Idle (h : List Event) : Prop := ∀ l : Loading, l.afterAll h = l ∧ l.Admitted h

theorem Imports.of_idle (idle : Idle h) (same : w'.loading = w.loading) : Imports w h w' where
  told := (idle _).1.trans same.symm
  admitted := (idle _).2

theorem Imports.append (first : Imports w h w') (second : Imports w' h' w'') : Imports w (h ++ h') w'' where
  told := by rw [Loading.afterAll_append, first.told, second.told]
  admitted := by
    refine Loading.admitted_append.mpr ⟨first.admitted, ?_⟩
    rw [first.told]
    exact second.admitted

theorem Imports.within (inner : Imports new h old) (before : new.loading = w.loading)
    (after : w'.loading = old.loading) (enters : Idle [.entered r])
    (leaves : Idle [.left r]) : Imports w (.entered r :: h ++ [.left r]) w' := by
  have entering : Imports w [.entered r] new := .of_idle enters before
  exact (entering.append inner).append (.of_idle leaves after)

theorem Imports.import (new : a ∉ w.importing) (missing : w.modules.get? a = none)
    (inner : Imports (w.enterImport a) h w') :
    Imports w (.entered (.import a) :: h ++ [.left (.import a)]) w'.leaveImport := by
  have told : (w.loading.after (.entered (.import a))).afterAll h = w'.loading := inner.told
  refine ⟨?_, ?_⟩
  · rw [Loading.afterAll_append]
    show ((w.loading.after (.entered (.import a))).afterAll h).after (.left (.import a)) = _
    rw [told]
    rfl
  · exact Loading.admitted_append.mpr ⟨⟨⟨new, missing⟩, inner.admitted⟩, trivial, trivial⟩

/-- **Whatever a run does, its history tells its imports, and all of them are admitted.** -/
theorem Moves.imports (moves : Moves w h w') : Imports w h w' := by
  induction moves with
  | remark w e remark => cases remark <;> exact .of_idle (fun _ => ⟨rfl, by trivial⟩) rfl
  | append _ _ first second => exact first.append second
  | within enters _ inner =>
    cases enters with
    | importing a new missing => exact inner.import new missing
    | _ => exact inner.within (by rfl) (by rfl) (fun _ => ⟨rfl, by trivial⟩) (fun _ => ⟨rfl, by trivial⟩)
  | loaded w a m new missing => exact ⟨rfl, ⟨new, missing⟩, trivial⟩
  | _ => exact .of_idle (fun _ => ⟨rfl, by trivial⟩) rfl

theorem Moves.source (moves : Moves w h w') : w'.source = w.source := by
  induction moves with
  | append _ _ first second => exact second.trans first
  | within enters _ inner =>
    cases enters with
    | body | text => rfl
    | _ => exact inner
  | _ => rfl

end

/-- Modules are loaded once.  After a module has been loaded it is not loaded again, no import of it
    begins, and it is the module at its address to the end.  An import begins only where it is neither
    under way nor has led to a module, so that those under way are all different. -/
structure LoadsOnce (w : World) (h : List Event) (w' : World) : Prop where
  once : ∀ p a m q, h = p ++ .loaded a m :: q →
    (∀ m', .loaded a m' ∉ p ++ q) ∧ .entered (.import a) ∉ q ∧ w'.modules.get? a = some m
  apart : ∀ p a q, h = p ++ .entered (.import a) :: q → (w.loading.afterAll p).Lacks a
  distinct : w.importing.Nodup → ∀ p, p <+: h → (w.loading.afterAll p).chain.Nodup

theorem Loading.Admitted.once (admitted : l.Admitted (p ++ .loaded a m :: q)) :
    (∀ m', .loaded a m' ∉ q) ∧ .entered (.import a) ∉ q ∧
      (l.afterAll (p ++ .loaded a m :: q)).modules.get? a = some m := by
  obtain ⟨-, -, later⟩ := admitted_append.mp admitted
  have there : ((l.afterAll p).after (.loaded a m)).modules.get? a = some m :=
    (get?_put _ _ _ _).trans (if_pos rfl)
  refine ⟨fun m' member => (later.not_lacks there member).2 m' rfl,
    fun member => (later.not_lacks there member).1 rfl, ?_⟩
  rw [afterAll_append]
  exact later.grows a m there

theorem Imports.loadsOnce {w w' : World} (imports : Imports w h w') : LoadsOnce w h w' where
  once p a m q same := by
    subst same
    obtain ⟨later, closed, found⟩ := imports.admitted.once
    refine ⟨fun m' member => ?_, closed, ?_⟩
    · rcases mem_append.mp member with before | behind
      · -- the one that was loaded before would be the one that is not loaded again
        obtain ⟨p₁, p₂, rfl⟩ := append_of_mem before
        have admitted := imports.admitted
        rw [append_assoc] at admitted
        exact admitted.once.1 m (mem_append_right _ mem_cons_self)
      · exact later m' behind
    · rw [imports.told] at found
      exact found
  apart p a q same := by
    subst same
    exact (Loading.admitted_append.mp imports.admitted).2.1
  distinct nodup p part := by
    obtain ⟨q, rfl⟩ := part
    exact (Loading.admitted_append.mp imports.admitted).1.nodup nodup

/-! ## 2. What imports leave of scopes -/

/-- The current scope is current again, and no scope that there was has changed. -/
structure World.Still (w w' : World) : Prop where
  scope : w'.scope = w.scope
  scopes : ∀ i, i < w.scopes.size → w'.scopes[i]? = w.scopes[i]?

namespace World.Still

variable {w w' w'' : World}

theorem of_scopes (scope : w'.scope = w.scope) (same : w'.scopes = w.scopes) : w.Still w' :=
  ⟨scope, fun _ _ => by rw [same]⟩

theorem size (still : w.Still w') : w.scopes.size ≤ w'.scopes.size := by
  refine Nat.le_of_not_lt fun shrunk => ?_
  have last := still.scopes w'.scopes.size shrunk
  rw [Array.getElem?_eq_none (Nat.le_refl _), Array.getElem?_eq_getElem shrunk] at last
  cases last

theorem trans (first : w.Still w') (second : w'.Still w'') : w.Still w'' where
  scope := second.scope.trans first.scope
  scopes i inside := by rw [second.scopes i (Nat.lt_of_lt_of_le inside first.size), first.scopes i inside]

end World.Still

def Eval.Spares {α : Type} (x : Eval α) : Prop :=
  ∀ (answer : Answering) (w : World), w.Still (worldOf (x.exec answer w))

section

variable {α β : Type}

theorem spares_of_looks {x : Eval α} (looks : x.Looks) : x.Spares := fun answer w =>
  .of_scopes (by rw [looks.worldOf_exec]) (by rw [looks.worldOf_exec])

theorem Eval.Spares.bind {f : α → Eval β} (first : x.Spares) (rest : ∀ v, (f v).Spares) : (bind x f).Spares := by
  intro answer w
  have still := first answer w
  rw [exec]
  cases out : x.exec answer w with
  | ok v w' =>
    rw [out] at still
    exact still.trans (rest v answer w')
  | error e w' =>
    rw [out] at still
    exact still

theorem spares_ensureGvar (key : String) : (ensureGvar key).Spares := by
  intro answer w
  obtain ⟨s, ran, -⟩ := ensures_ensureGvar answer key w
  rw [ran]
  exact .of_scopes rfl rfl

theorem looks_gvarValue (key : String) : (gvarValue key).Looks := .bind (.bind .read fun _ => .pure _) fun _ => .pure _

theorem spares_moduleContents (addr : String) : (moduleContents addr).Spares := by
  have absent (rest : Unit → Eval Value) : (Eval.bind (noSuchModule addr) rest).Spares := fun _ _ => .of_scopes rfl rfl
  have read := spares_of_looks (looks_gvarValue addr)
  refine .bind (spares_of_looks .read) fun w => ?_
  split
  · exact absent _
  refine .bind (.bind read fun v => ?_) fun v => ?_
  · split
    · exact .bind (.bind (spares_ensureGvar addr) fun _ => spares_of_looks (.pure _)) fun _ => read
    · exact spares_of_looks (.pure _)
  · split
    · exact absent _
    · exact spares_of_looks (.pure _)

theorem gives_moduleContents (k : Nat) (w : World) (addr : String) :
    Gives k w (moduleContents addr) fun v w' => w'.store.get? addr = some v := by
  have read (w : World) : Gives k w (gvarValue addr) fun v w' =>
      v.isNone = false → w'.store.get? addr = some v := by
    refine .bind (.reading (gives_pure (p := fun ns w' => ns = w'.store) rfl)) ?_
    rintro _ w' rfl
    refine gives_pure fun some => ?_
    cases found : w'.store.get? addr with
    | none => rw [found] at some; cases some
    | some v => rfl
  refine .reading (gives_unless fun _ => ?_)
  have obtained : Gives k w (obtainGvar addr) fun v w' =>
      v.isNone = false → w'.store.get? addr = some v := by
    refine .bind (read w) fun v w' there => ?_
    split
    · exact .bind (fun _ _ _ => trivial) fun _ w' _ => read w'
    · exact gives_pure there
  refine obtained.bind fun v w' there => gives_unless fun some => ?_
  exact gives_pure (there (Bool.eq_false_iff.mpr some))

theorem still_inModule (k : Nat) (w : World) (x : Eval α) : w.Still (worldOf ((inModule x).exec (run k) w)) := by
  rw [exec]
  split
  · obtain ⟨-, same⟩ := (World.Framed.refl w.deeper.enterModule).behind rfl rfl
    exact ⟨rfl, same⟩
  · have framed := (x.runs_log k w.deeper.enterModule).moves.framed
    obtain ⟨-, same⟩ := framed.behind rfl rfl
    cases out : x.exec (run k) w.deeper.enterModule with
    | ok v w' | error e w' =>
      rw [out] at same
      exact ⟨rfl, same⟩

end

/-! ## 3. Names that are bound by imports -/

/-- What has become of a name of a scope, which had the names `before` and has the names `after`, while
    modules were imported under the names in `given`: it is as it was; or it is one of these, and bound to
    the module at its address; or it was bound while an address, or what the store has, was written out,
    which was no text.  `last` is the world when the imports are over. -/
inductive NameAfter (k : Nat) (given : Names) (last : World) (scope : Nat) (name : String)
    (before after : Names) : Prop where
  | kept (same : after.get? name = before.get? name)
  | bound {v : Value} {addr : String} {m : Value} {u u' : World} (member : (name, v) ∈ given)
    (text : run k (.text v) u = .ok addr u') (loaded : last.modules.get? addr = some m)
    (found : after.get? name = some m)
  | written {v : Value} {u : World} (origin : (∃ n, (n, v) ∈ given) ∨ ∃ addr, last.store.get? addr = some v)
    (noText : ∀ s guarded, v ≠ .str s guarded) (here : u.scope = scope)
    (other : (worldOf (run k (.text v) u)).scopeNames.get? name ≠ u.scopeNames.get? name)

/-- What a world has loaded and stored, another one has too. -/
structure World.Ahead (w last : World) : Prop where
  modules : w.modules.Grows last.modules
  store : w.store.Grows last.store

section

variable {α β : Type} {k : Nat} {given : Names} {last w w' : World}

theorem NameAfter.trans {a : Names} (first : NameAfter k given last scope name a b)
    (second : NameAfter k given last scope name b c) : NameAfter k given last scope name a c := by
  cases second with
  | kept same =>
    cases first with
    | kept same' => exact .kept (same.trans same')
    | bound member text loaded found => exact .bound member text loaded (same.trans found)
    | written origin noText here other => exact .written origin noText here other
  | bound member text loaded found => exact .bound member text loaded found
  | written origin noText here other => exact .written origin noText here other

theorem ahead_exec (x : Eval α) (w : World) : w.Ahead (worldOf (x.exec (run k) w)) := by
  have moves := (x.runs_log k w).moves
  refine ⟨?_, moves.grows⟩
  have grows := moves.imports.admitted.grows
  rwa [moves.imports.told] at grows

theorem World.Ahead.trans (first : w.Ahead w') (second : w'.Ahead last) : w.Ahead last :=
  ⟨first.modules.trans second.modules, first.store.trans second.store⟩

def Renames (k : Nat) (given : Names) (last : World) (x : Eval α) (w : World) : Prop :=
  w.scope < w.scopes.size → (worldOf (x.exec (run k) w)).Ahead last →
    ∀ name, NameAfter k given last w.scope name w.scopeNames (worldOf (x.exec (run k) w)).scopeNames

theorem Renames.bind {f : α → Eval β} (first : Renames k given last x w)
    (rest : ∀ v w', x.exec (run k) w = .ok v w' → Renames k given last (f v) w') :
    Renames k given last (.bind x f) w := by
  intro valid ahead name
  have framed := (x.runs_log k w).moves.framed
  rw [exec] at ahead ⊢
  cases out : x.exec (run k) w with
  | ok v w' =>
    rw [Renames, out] at first
    rw [out] at ahead framed
    have scope : w'.scope = w.scope := framed.scope
    have valid' : w'.scope < w'.scopes.size := scope ▸ Nat.lt_of_lt_of_le valid framed.size
    have later := rest v w' out valid' ahead name
    rw [scope] at later
    exact (first valid ((ahead_exec (f v) w').trans ahead) name).trans later
  | error e w' =>
    rw [Renames, out] at first
    rw [out] at ahead
    exact first valid ahead name

theorem renames_of_still {x : Eval α} (still : w.Still (worldOf (x.exec (run k) w))) : Renames k given last x w :=
  fun valid _ _ => .kept (by rw [World.scopeNames_of_same still.scope still.scopes valid])

theorem renames_text (origin : (∃ n, (n, v) ∈ given) ∨ ∃ addr, w.store.get? addr = some v) :
    Renames k given last (.ask (.text v)) w := by
  intro valid ahead name
  by_cases same : (worldOf (run k (.text v) w)).scopeNames.get? name = w.scopeNames.get? name
  · exact .kept same
  · refine .written (origin.imp_right ?_) ?_ rfl same
    · rintro ⟨addr, found⟩
      exact ⟨addr, ((ahead_exec (.ask (.text v)) w).trans ahead).store _ _ found⟩
    · rintro s guarded rfl
      exact same (by cases k <;> rfl)

theorem renames_loadModule (addr : String) : Renames k given last (loadModule .ask addr) w := by
  refine .bind (.bind (renames_of_still (spares_moduleContents addr _ w)) fun v w' ran => ?_) fun text w' _ => ?_
  · exact renames_text (.inr ⟨addr, gives_moduleContents k w addr v w' ran⟩)
  · exact .bind (renames_of_still (still_inModule k w' _)) fun names w' _ =>
      renames_of_still (.of_scopes rfl rfl)

theorem gives_importing (addr : String) (load : Eval Value) :
    Gives k w (.importing addr load) fun m w' => w'.modules.get? addr = some m := by
  intro m w' ran
  rw [exec] at ran
  split at ran
  · cases ran
  · split at ran
    · next found =>
      cases ran
      exact found
    · split at ran
      · cases ran
        exact (get?_put _ _ _ _).trans (if_pos rfl)
      · cases ran

theorem renames_importing (addr : String) : Renames k given last (.importing addr (loadModule .ask addr)) w := by
  intro valid ahead name
  rw [exec] at ahead ⊢
  split
  · exact .kept rfl
  · next new =>
    rw [if_neg new] at ahead
    cases found : w.modules.get? addr with
    | some m => exact .kept rfl
    | none =>
      rw [found] at ahead
      have barred := ((loadModule .ask addr).runs_log k (w.enterImport addr)).moves.bars.2 addr
        (mem_append_right _ mem_cons_self)
      have loads : Renames k given last (loadModule .ask addr) (w.enterImport addr) := renames_loadModule addr
      rw [Renames] at loads
      cases out : (loadModule .ask addr).exec (run k) (w.enterImport addr) with
      | ok m w' =>
        rw [out] at loads ahead barred
        have new : w'.modules.has addr = false := has_eq_false_iff.mpr (barred.trans found)
        have there : w'.Ahead last := ⟨(grows_put new m).trans ahead.modules, ahead.store⟩
        exact loads valid there name
      | error e w' =>
        rw [out] at loads ahead
        exact loads valid ⟨ahead.modules, ahead.store⟩ name

theorem renames_assign (member : (name, v) ∈ given)
    (text : run k (.text v) u = .ok addr u') (loaded : w.modules.get? addr = some m) :
    Renames k given last (.assign none name m) w := by
  intro valid ahead other
  have there := ((ahead_exec (.assign none name m) w).trans ahead).modules _ _ loaded
  rw [exec]
  split
  · exact .kept rfl
  · have names : (w.bindName name m).scopeNames.get? other =
        if other = name then some m else w.scopeNames.get? other := by
      rw [World.scopeNames_bindName valid, get?_put]
    by_cases here : other = name
    · subst here
      exact .bound member text there (names.trans (if_pos rfl))
    · exact .kept (names.trans (if_neg here))

theorem renames_importAs (member : (name, v) ∈ given) : Renames k given last (importAs .ask name v) w := by
  refine .bind (renames_text (.inl ⟨name, member⟩)) fun addr w₁ ran => ?_
  refine .bind (renames_importing addr) fun m w₂ ran' => ?_
  exact renames_assign member ran (gives_importing addr _ m w₂ ran')

def importAll (named : Names) : Eval Value := do
  named.forM fun (n, v) => importAs .ask n v
  return .none

theorem renames_importAll (members : ∀ p ∈ named, p ∈ given) : Renames k given last (importAll named) w := by
  refine .bind ?_ fun _ w' _ => renames_of_still (.of_scopes rfl rfl)
  induction named generalizing w with
  | nil => exact renames_of_still (.of_scopes rfl rfl)
  | cons p named ih =>
    obtain ⟨here, later⟩ := forall_mem_cons.mp members
    exact .bind (renames_importAs here) fun _ w' _ => ih later

end

/-! ## 4. Calls of `using` -/

theorem Names.mem_put {t : Names} (member : p ∈ t.put name v) : p ∈ t ∨ p = (name, v) := by
  induction t with
  | nil => exact .inr (mem_singleton.mp member)
  | cons q t ih =>
    rw [put] at member
    split at member
    · next same =>
      rw [eq_of_beq same] at member
      rcases mem_cons.mp member with here | there
      · exact .inr here
      · exact .inl (mem_cons_of_mem _ there)
    · rcases mem_cons.mp member with rfl | there
      · exact .inl mem_cons_self
      · exact (ih there).imp_left (mem_cons_of_mem _)

theorem Names.mem_putAll {t : Names} (member : p ∈ t.putAll named) : p ∈ t ∨ p ∈ named := by
  induction named generalizing t with
  | nil => exact .inl member
  | cons q named ih =>
    rcases ih member with early | late
    · refine (mem_put early).imp_right ?_
      rintro rfl
      exact mem_cons_self
    · exact .inr (mem_cons_of_mem _ late)

section

variable (answer : Answering) (named : Names) (w : World)

theorem exec_matchNamed_using (b : Bound) : (Builtin.using.parameters.matchNamed b named).exec answer w =
      .ok { b with named := b.named.putAll named } w := by
  induction named generalizing b with
  | nil => rfl
  | cons p named ih => exact ih { b with named := b.named.put p.1 p.2 }

theorem exec_bind_using : (Builtin.using.parameters.bind [] named).exec answer w =
      .ok { values := [], named := putAll [] named } w :=
  exec_bind_ok (exec_matchNamed_using answer named w { values := [] }) _

theorem exec_bind_using_cons (v : Value) (args : List Value) :
    ∃ e, (Builtin.using.parameters.bind (v :: args) named).exec answer w = .error e w :=
  ⟨_, exec_bind_ok (exec_matchNamed_using answer named w { values := [], rest := v :: args }) _⟩

theorem run_using (n : Nat) :
    run (n + 1) (.call (.fn .using) [] named) w = (importAll (putAll [] named)).exec (run n) w :=
  exec_bind_ok (exec_bind_using (run n) named w) _

theorem renames_using (n : Nat) (last : World) (args : List Value) :
    Renames n named last (step .ask (.call (.fn .using) args named)) w := by
  cases args with
  | nil =>
    have matched := exec_bind_using (run n) named w
    refine .bind (renames_of_still (by rw [matched]; exact .of_scopes rfl rfl)) fun b w' ran => ?_
    rw [matched] at ran
    cases ran
    exact renames_importAll fun p member => (mem_putAll member).resolve_left not_mem_nil
  | cons v args =>
    obtain ⟨e, failed⟩ := exec_bind_using_cons (run n) named w v args
    refine .bind (renames_of_still (by rw [failed]; exact .of_scopes rfl rfl)) fun b w' ran => ?_
    rw [failed] at ran
    cases ran

end

/-- A call of `using` has come to the import under a name: the modules before it have been imported, and
    its address is a text. -/
def Reaches (n : Nat) (w : World) (named : Names) (name addr : String) (post : Names) (u : World) : Prop :=
  ∃ pre v w₁, putAll [] named = pre ++ (name, v) :: post ∧
    (importAll pre).exec (run n) w = .ok .none w₁ ∧ run n (.text v) w₁ = .ok addr u

section

variable {n : Nat} {w u : World} {named post : Names} {name addr : String}

theorem exec_importAll_cons (p : String × Value) (rest : Names) (w : World) : (importAll (p :: rest)).exec (run n) w =
      (Eval.bind (importAs .ask p.1 p.2) fun _ => importAll rest).exec (run n) w :=
  exec_bind_assoc _ _ _ _ w

theorem exec_importAll_append (post : Names) (ran : (importAll pre).exec (run n) w = .ok v u) :
    (importAll (pre ++ post)).exec (run n) w = (importAll post).exec (run n) u := by
  induction pre generalizing w with
  | nil =>
    cases ran
    rfl
  | cons p pre ih =>
    rw [cons_append, exec_importAll_cons, exec]
    rw [exec_importAll_cons, exec] at ran
    cases out : (importAs .ask p.1 p.2).exec (run n) w with
    | ok _ w' =>
      rw [out] at ran
      exact ih ran
    | error e w' =>
      rw [out] at ran
      cases ran

variable (reaches : Reaches n w named name addr post u)

include reaches

theorem Reaches.run_using :
    run (n + 1) (.call (.fn .using) [] named) w = (Eval.bind (.importing addr (loadModule .ask addr)) fun m =>
        .bind (.assign none name m) fun _ => importAll post).exec (run n) u := by
  obtain ⟨pre, v, w₁, given, before, text⟩ := reaches
  rw [AliasTools.Script.run_using, given, exec_importAll_append _ before, exec_importAll_cons]
  have text : (ask (.text v)).exec (run n) w₁ = .ok addr u := text
  refine (exec_bind_assoc _ _ _ _ w₁).trans ((exec_bind_ok text _).trans ?_)
  exact exec_bind_assoc _ _ _ _ u

theorem Reaches.same : u.importing = w.importing ∧ u.builtins = w.builtins := by
  obtain ⟨pre, v, w₁, -, before, text⟩ := reaches
  have first := ((importAll pre).runs_log n w).moves
  have second := (runs_history n (.text v) w₁).moves
  rw [before] at first
  rw [text] at second
  exact ⟨second.bars.1.trans first.bars.1, second.framed.builtins.trans first.framed.builtins⟩

theorem Reaches.again (there : u.modules.get? addr = some m)
    (apart : addr ∉ w.importing) (free : w.builtins.has name = false) :
    run (n + 1) (.call (.fn .using) [] named) w = (importAll post).exec (run n) (u.bindName name m) := by
  have found : (importing addr (loadModule .ask addr)).exec (run n) u = .ok m u := by
    rw [exec, if_neg, there]
    rwa [contains_iff_mem, reaches.same.1]
  have bound : (Eval.assign none name m).exec (run n) u = .ok () (u.bindName name m) := by
    rw [exec, reaches.same.2, free]
    rfl
  rw [reaches.run_using, exec_bind_ok found, exec_bind_ok bound]

theorem Reaches.circular (going : addr ∈ w.importing) :
    run (n + 1) (.call (.fn .using) [] named) w = .error (.fault (u.circularImport addr)) u := by
  have refused : (importing addr (loadModule .ask addr)).exec (run n) u =
      .error (.fault (u.circularImport addr)) u := by
    rw [exec, if_pos]
    rwa [contains_iff_mem, reaches.same.1]
  rw [reaches.run_using, exec, refused]

end

/-- What a call of `using` leaves of the world, whose history is `h`: the same imports are under way, the
    same text is being run, in the same scope, and the other scopes are as they were.  In this scope only
    the given names are bound, to the modules at their addresses.  The depth is what it was but for the
    calls that were refused as too deep. -/
structure Restores (n : Nat) (named : Names) (w : World) (h : List Event) (w' : World) : Prop where
  chain : w'.importing = w.importing
  source : w'.source = w.source
  framed : w.Framed w'
  names : w.scope < w.scopes.size → ∀ name, NameAfter n named w' w.scope name w.scopeNames w'.scopeNames
  depth : w'.depth = w.depth + refusals h

theorem restores_using (n : Nat) (args : List Value) (named : Names) (w : World) :
    Restores n named w (history (n + 1) (.call (.fn .using) args named) w)
      (worldOf (run (n + 1) (.call (.fn .using) args named) w)) := by
  have moves := (runs_history (n + 1) (.call (.fn .using) args named) w).moves
  refine ⟨moves.bars.1, moves.source, moves.framed, fun valid => ?_, ?_⟩
  · exact renames_using named w n _ args valid ⟨.refl _, .refl _⟩
  · rw [moves.deepens.depth, moves.openCalls_eq_zero, Int.add_zero]

/-- **Modules are loaded once, never within themselves, and leave their importers as they were**: after
    every call of `using` the imports under way, the text and the scope of the caller are the same, and only
    the given names are bound anew. -/
theorem imports_load_once_and_restore {α : Type} (x : Eval α) (n : Nat) (w : World) (args : List Value)
    (named : Names) :
    let out := run (n + 1) (.call (.fn .using) args named) w
    let h := history (n + 1) (.call (.fn .using) args named) w
    LoadsOnce w (x.history w) (worldOf (x.run w)) ∧
    (∀ name addr post u, Reaches n w named name addr post u →
      (addr ∈ w.importing → run (n + 1) (.call (.fn .using) [] named) w =
        .error (.fault (u.circularImport addr)) u) ∧
      ∀ m, addr ∉ w.importing → u.modules.get? addr = some m → w.builtins.has name = false →
        run (n + 1) (.call (.fn .using) [] named) w =
          (importAll post).exec (run n) (u.bindName name m)) ∧
    Restores n named w h (worldOf out) ∧ ((worldOf out).depth = w.depth ↔ ∀ f, .refused f ∉ h) := by
  intro out h
  have restores : Restores n named w h (worldOf out) := restores_using n args named w
  refine ⟨(x.runs_history w).moves.imports.loadsOnce, ?_, restores, ?_⟩
  · intro name addr post u reaches
    exact ⟨reaches.circular, fun m apart there free => reaches.again there apart free⟩
  · rw [← refusals_eq_zero_iff, restores.depth]
    omega

/-- Of two modules that import each other, the one that is being imported is refused, also within the other;
    a third one, which is there, is bound. -/
theorem imports_load_once_and_restore_cycle :
    let w : World :=
      { builtins := [("using", .fn .using)], importing := ["a"], modules := [("c", .int 7)]
        gvars := some [("a", .str "using(m='b')" false), ("b", .str "using(n='a')" false)] }
    let imports (addr : String) := run 20 (.call (.fn .using) [] [("x", .str addr false)]) w
    imports "a" = .error (.fault (w.circularImport "a")) w ∧
      imports "c" = .ok .none (w.bindName "x" (.int 7)) ∧
      (failureOf (imports "b")).isSome = true ∧ (worldOf (imports "b")).importing = ["a"] ∧
      (worldOf (imports "b")).modules.get? "b" = none ∧ (worldOf (imports "b")).depth = 1 ∧
      ∀ f, .refused f ∉ history 20 (.call (.fn .using) [] [("x", .str "b" false)]) w := by
  intro w imports
  have reaches (addr : String) : Reaches 19 w [("x", .str addr false)] "x" addr [] w :=
    ⟨[], .str addr false, w, rfl, rfl, rfl⟩
  have load (addr : String) := imports_load_once_and_restore (Eval.pure ()) 19 w [] [("x", .str addr false)]
  obtain ⟨-, -, restores, level⟩ := load "b"
  refine ⟨((load "a").2.1 _ _ _ _ (reaches "a")).1 (by decide),
    ((load "c").2.1 _ _ _ _ (reaches "c")).2 (.int 7) (by decide) rfl rfl, ?_, restores.chain, ?_, ?_, ?_⟩
  · decide +kernel
  · decide +kernel
  · decide +kernel
  · exact level.mp (by decide +kernel)

/-- Two deep is deep enough to import a module, but not for a call in it.  After a try at that, no module
    can be imported any more. -/
theorem refused_call_in_module_stays_deep :
    let w : World :=
      { limits := { maxDepth := 2 }
        gvars := some [("a", .str "(lambda: 0)()" false), ("b", .str "0" false)] }
    let imports (addr : String) := run 20 (.call (.fn .using) [] [("x", .str addr false)])
    let w' := worldOf (imports "a" w)
    w.depth = 1 ∧ failureOf (imports "b" w) = none ∧ w'.depth = 2 ∧
      (failureOf (imports "b" w')).isSome = true := by
  decide +kernel

end AliasTools.Script
