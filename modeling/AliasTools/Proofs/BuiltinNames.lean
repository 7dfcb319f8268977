import AliasTools.Proofs.CallFrames

/-!
# Names that are built in

* `Rebound` — what can hide a built-in name at the level of a module, as a history tells it;
* `Moves.tracks` — nothing else does: a built-in name is bound in the scope of a module just when a
  pattern or a variable of the character has bound it there;
* `Rebinds` — the forms that ask whether a name is built in, none of which ends well when it is.
-/

namespace AliasTools.Script

open Syntax List Names

variable {name : String} {w : World} {e : Event}

/-! ## 1. Names and where they are bound -/

theorem Names.has_cons (p : String × Value) (t : Names) (n : String) : has (p :: t) n = (n == p.1 || t.has n) := by
  show (List.lookup n ((p.1, p.2) :: t)).isSome = _
  rw [lookup_cons]
  cases n == p.1 <;> rfl

theorem Names.has_put (t : Names) (name : String) (v : Value) (n : String) :
    (t.put name v).has n = (n == name || t.has n) := by
  have found := congrArg Option.isSome (t.get?_put name v n)
  by_cases same : n = name <;> simp_all [has, get?]

theorem World.scopeNames_bindName (valid : w.scope < w.scopes.size) (name : String) (v : Value) :
    (w.bindName name v).scopeNames = w.scopeNames.put name v := by
  rw [World.scopeNames, World.scopeNames, World.bindName, Array.getD_eq_getD_getElem?,
    Array.getD_eq_getD_getElem?, Array.getElem?_modify, if_pos rfl, Array.getElem?_eq_getElem valid]
  rfl

theorem World.has_bindName (valid : w.scope < w.scopes.size) (name : String) (v : Value) (n : String) :
    (w.bindName name v).scopeNames.has n = (n == name || w.scopeNames.has n) := by
  rw [World.scopeNames_bindName valid, has_put]

def Rebound (h : List Event) (name : String) (scope : Nat) : Prop := ∃ how, how ≠ .parameter ∧ .bound how name scope ∈ h

theorem rebound_append : Rebound (h ++ h') name scope ↔ Rebound h name scope ∨ Rebound h' name scope := by
  simp only [Rebound, mem_append, and_or_left, exists_or]

/-- What a history tells of the worlds on the way: names are bound in the scope that a run began in, or
    in new ones, and are read for the callers that there were, if not for more. -/
structure Tells (w : World) (h : List Event) (w' : World) : Prop where
  bounds : ∀ how name i, .bound how name i ∈ h →
    (i = w.scope ∨ w.scopes.size ≤ i) ∧ (w.scope < w.scopes.size → i < w'.scopes.size)
  reads : ∀ name v, .read name v ∈ h → w.callers <:+ v.callers ∧ v.builtins = w.builtins ∧
      (w.scope < w.scopes.size → v.scope < v.scopes.size)

section

variable {w w' w'' : World} {h h' : List Event}

def Event.isQuiet : Event → Bool
  | .bound _ _ _ | .read _ _ => false
  | _ => true

theorem Tells.of_quiet (quiet : h.all Event.isQuiet = true) : Tells w h w' := by
  rw [all_eq_true] at quiet
  exact ⟨fun _ _ _ member => absurd (quiet _ member) nofun, fun _ _ member => absurd (quiet _ member) nofun⟩

theorem Tells.append (first : Tells w h w') (framed : w.Framed w') (second : Tells w' h' w'')
    (framed' : w'.Framed w'') : Tells w (h ++ h') w'' := by
  constructor
  · intro how name i member
    rcases mem_append.mp member with before | after
    · obtain ⟨place, inside⟩ := first.bounds how name i before
      exact ⟨place, fun valid => Nat.lt_of_lt_of_le (inside valid) framed'.size⟩
    · obtain ⟨place, inside⟩ := second.bounds how name i after
      have size := framed.size
      rw [framed.scope] at place inside
      exact ⟨place.imp_right (Nat.le_trans size), fun valid => inside (Nat.lt_of_lt_of_le valid size)⟩
  · intro name v member
    rcases mem_append.mp member with before | after
    · exact first.reads name v before
    · obtain ⟨callers, builtins, valid'⟩ := second.reads name v after
      rw [framed.callers, framed.builtins, framed.scope] at *
      exact ⟨callers, builtins, fun valid => valid' (Nat.lt_of_lt_of_le valid framed.size)⟩

theorem Tells.within (inner : Tells new h w') (r : Region)
    (entering : new.scope = w.scope ∧ new.scopes.size = w.scopes.size ∨
      new.scope = w.scopes.size ∧ new.scopes.size = w.scopes.size + 1)
    (callers : w.callers <:+ new.callers) (builtins : new.builtins = w.builtins)
    (back : w''.scopes = w'.scopes) : Tells w (.entered r :: h ++ [.left r]) w'' := by
  have inside {e : Event} (member : e ∈ .entered r :: h ++ [.left r]) (loud : e.isQuiet = false) : e ∈ h := by
    simp only [cons_append, mem_cons, mem_append, not_mem_nil, or_false] at member
    rcases member with rfl | member | rfl
    · cases loud
    · exact member
    · cases loud
  constructor
  · intro how name i member
    obtain ⟨place, known⟩ := inner.bounds how name i (inside member rfl)
    exact ⟨by omega, fun _ => back ▸ known (by omega)⟩
  · intro name v member
    obtain ⟨above, same, valid⟩ := inner.reads name v (inside member rfl)
    exact ⟨callers.trans above, same.trans builtins, fun _ => valid (by omega)⟩

theorem Moves.tells (moves : Moves w h w') : Tells w h w' := by
  induction moves with
  | remark w e remark => cases remark <;> exact .of_quiet rfl
  | bound w how name v isOpen =>
    refine ⟨fun how' name' i member => ?_, fun _ _ member => ?_⟩
    · cases mem_singleton.mp member
      exact ⟨.inl rfl, fun valid => by rwa [World.bindName, Array.size_modify]⟩
    · cases mem_singleton.mp member
  | read w name =>
    refine ⟨fun _ _ _ member => ?_, fun name' v member => ?_⟩
    · cases mem_singleton.mp member
    · cases mem_singleton.mp member
      exact ⟨suffix_rfl, rfl, id⟩
  | append first second tells tells' => exact tells.append first.framed tells' second.framed
  | within enters _ tells =>
    cases enters with
    | body => exact tells.within _ (.inr ⟨rfl, Array.size_push _⟩) (suffix_cons _ _) rfl rfl
    | module => exact tells.within _ (.inr ⟨rfl, Array.size_push _⟩) suffix_rfl rfl rfl
    | _ => exact tells.within _ (.inl ⟨rfl, rfl⟩) suffix_rfl rfl rfl
  | _ => exact .of_quiet rfl

end

/-! ## 2. Built-in names at the level of a module -/

/-- Of the names that are built in, the current scope has just those that a history tells to have been
    bound there. -/
def Shadowed (past : List Event) (w : World) : Prop :=
  ∀ name, w.builtins.has name = true → (w.scopeNames.has name = true ↔ Rebound past name w.scope)

/-- A world at the level of a module, outside of all bodies, as a history has made it. -/
structure AtTop (past : List Event) (w : World) : Prop where
  top : w.callers = []
  valid : w.scope < w.scopes.size
  told : ∀ how name i, .bound how name i ∈ past → i < w.scopes.size
  shadowed : Shadowed past w

/-- After a history, and wherever a name is read outside of all bodies, the names are as told. -/
structure Tracks (past h : List Event) (w' : World) : Prop where
  now : Shadowed (past ++ h) w'
  reads : ∀ p name v q, h = p ++ .read name v :: q → v.callers = [] → Shadowed (past ++ p) v

section

variable {w w' w'' : World} {past h h' : List Event}

theorem AtTop.after (start : AtTop past w) (moves : Moves w h w') (now : Shadowed (past ++ h) w') :
    AtTop (past ++ h) w' where
  top := moves.framed.callers.trans start.top
  valid := by
    rw [moves.framed.scope]
    exact Nat.lt_of_lt_of_le start.valid moves.framed.size
  told how name i member := by
    rcases mem_append.mp member with before | after
    · exact Nat.lt_of_lt_of_le (start.told how name i before) moves.framed.size
    · exact (moves.tells.bounds how name i after).2 start.valid
  shadowed := now

theorem Tracks.append (first : Tracks past h w') (second : Tracks (past ++ h) h' w'') : Tracks past (h ++ h') w'' := by
  refine ⟨append_assoc .. ▸ second.now, fun p name v q same top => ?_⟩
  rcases event_append_cases same with ⟨r, inFirst⟩ | ⟨r, rfl, inSecond⟩
  · exact first.reads p name v r inFirst top
  · exact append_assoc .. ▸ second.reads r name v q inSecond top

theorem Shadowed.of_names (shadowed : Shadowed past w) (names : w'.scopeNames = w.scopeNames)
    (scope : w'.scope = w.scope) (builtins : w'.builtins = w.builtins)
    (none : ∀ name, ¬ Rebound h name w.scope) : Shadowed (past ++ h) w' := by
  intro name builtin
  rw [builtins] at builtin
  rw [names, scope, rebound_append, or_iff_left (none name)]
  exact shadowed name builtin

theorem Tracks.of_quiet (shadowed : Shadowed past w) (quiet : h.all Event.isQuiet = true)
    (names : w'.scopeNames = w.scopeNames) (scope : w'.scope = w.scope)
    (builtins : w'.builtins = w.builtins) : Tracks past h w' := by
  rw [all_eq_true] at quiet
  refine ⟨shadowed.of_names names scope builtins ?_, ?_⟩
  · rintro name ⟨how, -, member⟩
    exact absurd (quiet _ member) nofun
  · rintro p name v q rfl -
    exact absurd (quiet _ (mem_append_right p mem_cons_self)) nofun

theorem tracks_read (shadowed : Shadowed past w) (name : String) : Tracks past [.read name w] w := by
  constructor
  · refine shadowed.of_names rfl rfl rfl ?_
    rintro _ ⟨how, -, member⟩
    cases mem_singleton.mp member
  · intro p name' v q same _
    obtain ⟨rfl, here⟩ := event_singleton same
    cases here
    rwa [append_nil]

theorem AtTop.assigned (start : AtTop past w) (v : Value) (free : w.builtins.has name = false) :
    Tracks past [] (w.bindName name v) := by
  refine ⟨fun n builtin => ?_, fun p name v q same _ => ?_⟩
  · have other : (n == name) = false := beq_false_of_ne fun same => by
      rw [same] at builtin
      exact Bool.false_ne_true (free.symm.trans builtin)
    rw [World.has_bindName start.valid, other, append_nil]
    exact start.shadowed n builtin
  · exact absurd same.symm (append_ne_nil_of_right_ne_nil p nofun)

theorem AtTop.bound (start : AtTop past w) (name : String) (v : Value) (isOpen : how.isOpen w = true) :
    Tracks past [.bound how name w.scope] (w.bindName name v) := by
  have noParameter : how ≠ .parameter := by
    rintro rfl
    simp [Binding.isOpen, start.top] at isOpen
  refine ⟨fun n builtin => ?_, fun p name' u q same _ => ?_⟩
  · have last : Rebound [.bound how name w.scope] n w.scope ↔ n = name := by
      constructor
      · rintro ⟨how', -, member⟩
        cases mem_singleton.mp member
        rfl
      · rintro rfl
        exact ⟨how, noParameter, mem_singleton_self _⟩
    rw [World.has_bindName start.valid, Bool.or_eq_true, beq_iff_eq, start.shadowed n builtin, or_comm]
    exact (rebound_append.trans (or_congr_right last)).symm
  · cases (event_singleton same).2

theorem AtTop.back (start : AtTop past w) (r : Region)
    (scopes : new.scopes = w.scopes.push names) (scope : new.scope = w.scopes.size)
    (inner : Moves new h w') (back : w''.scopes = w'.scopes) (same : w''.scope = w.scope)
    (builtins : w''.builtins = w.builtins) : Shadowed (past ++ [.entered r] ++ h ++ [.left r]) w'' := by
  obtain ⟨-, kept⟩ := inner.framed.behind scopes scope
  rw [append_assoc, append_assoc]
  refine start.shadowed.of_names (World.scopeNames_of_same same (back ▸ kept) start.valid) same builtins ?_
  rintro name ⟨how, -, member⟩
  simp only [mem_cons, mem_append, not_mem_nil, or_false, reduceCtorEq, false_or] at member
  have valid := start.valid
  have grown : new.scopes.size = w.scopes.size + 1 := by rw [scopes, Array.size_push]
  have place := (inner.tells.bounds how name _ member).1
  omega

theorem Tracks.within (now : Shadowed (past ++ [.entered r] ++ h ++ [.left r]) w')
    (reads : ∀ p name v q, h = p ++ .read name v :: q → v.callers = [] →
      Shadowed (past ++ [.entered r] ++ p) v) : Tracks past (.entered r :: h ++ [.left r]) w' := by
  refine ⟨by simpa using now, fun p name v q same top => ?_⟩
  rcases event_append_cases same with ⟨rest, inFront⟩ | ⟨rest, -, atEnd⟩
  · rcases event_append_cases (h := [.entered r]) inFront with ⟨_, entering⟩ | ⟨p, rfl, inside⟩
    · cases (event_singleton entering).2
    · exact append_assoc .. ▸ reads p name v rest inside top
  · cases (event_singleton atEnd).2

theorem AtTop.entering (start : AtTop past w) (r : Region) : AtTop (past ++ [.entered r]) w where
  top := start.top
  valid := start.valid
  told how name i member := by
    simp only [mem_append, mem_singleton, reduceCtorEq, or_false] at member
    exact start.told how name i member
  shadowed := (Tracks.of_quiet start.shadowed rfl rfl rfl rfl).now

theorem AtTop.enterModule (start : AtTop past w) : AtTop past w.deeper.enterModule where
  top := start.top
  valid := by
    show w.scopes.size < (w.scopes.push []).size
    rw [Array.size_push]
    exact Nat.lt_succ_self _
  told how name i member := by
    show i < (w.scopes.push []).size
    rw [Array.size_push]
    exact Nat.lt_succ_of_lt (start.told how name i member)
  shadowed name builtin := by
    have names : w.deeper.enterModule.scopeNames = [] := by
      show (w.scopes.push []).getD w.scopes.size [] = []
      simp
    rw [names]
    refine ⟨nofun, fun ⟨how, _, member⟩ => ?_⟩
    exact absurd (start.told how name _ member) (Nat.lt_irrefl _)

/-- **At the level of a module, built-in names are bound by patterns and variables only.** -/
theorem Moves.tracks (moves : Moves w h w') (start : AtTop past w) : Tracks past h w' := by
  induction moves generalizing past with
  | remark w e remark => cases remark <;> exact .of_quiet start.shadowed rfl rfl rfl rfl
  | assigned w name v free => exact start.assigned v free
  | bound w how name v isOpen => exact start.bound name v isOpen
  | read w name => exact tracks_read start.shadowed name
  | append first second tracks tracks' =>
    have middle := tracks start
    exact middle.append (tracks' (start.after first middle.now))
  | @within _ _ _ r _ _ enters inner tracks =>
    have entered := start.entering r
    cases enters with
    | body =>
      refine .within (start.back _ rfl rfl inner rfl rfl inner.framed.builtins) ?_
      -- whatever is read in a body is read for a caller
      rintro p name v q rfl top
      obtain ⟨callers, -⟩ := inner.tells.reads name v (mem_append_right p mem_cons_self)
      rw [top, suffix_nil] at callers
      cases callers
    | module =>
      have middle := tracks entered.enterModule
      exact .within (start.back _ rfl rfl inner rfl rfl inner.framed.builtins) middle.reads
    | work | importing | text =>
      have middle := tracks ⟨entered.top, entered.valid, entered.told, entered.shadowed⟩
      exact .within (Tracks.of_quiet middle.now rfl rfl rfl rfl).now middle.reads
  | noModule w =>
    have entered : w.deeper.enterModule.Framed w.deeper.enterModule := .refl _
    obtain ⟨-, same⟩ := entered.behind rfl rfl
    exact .of_quiet start.shadowed rfl (World.scopeNames_of_same rfl same start.valid) rfl rfl
  | _ => exact .of_quiet start.shadowed rfl rfl rfl rfl

end

/-! ## 3. Forms that ask -/

def Refuses (name : String) {α : Type} (x : Eval α) : Prop :=
  ∀ k w, w.builtins.has name = true → Gives k w x fun _ _ => False

section

variable {name : String} {α β : Type}

theorem gives_framed (k : Nat) (w : World) (x : Eval α) : Gives k w x fun _ w' => w.Framed w' := by
  intro v w' ran
  have runs := x.runs_log k w
  rw [ran] at runs
  exact runs.moves.framed

theorem refuses_raise (c : Complaint) : Refuses name (.raise c : Eval α) := fun _ _ _ => gives_raise c

theorem refuses_assign (span : Option Span) (v : Value) : Refuses name (.assign span name v) := by
  intro k w builtin u w' ran
  rw [Eval.exec, if_pos builtin] at ran
  cases ran

theorem Refuses.bind (refuses : Refuses name x) (f : α → Eval β) : Refuses name (.bind x f) :=
  fun k w builtin => (refuses k w builtin).bind fun _ _ never => never.elim

theorem Refuses.after (x : Eval α) {f : α → Eval β} (refuses : ∀ v, Refuses name (f v)) : Refuses name (.bind x f) := by
  intro k w builtin
  refine .bind (gives_framed k w x) fun v w' framed => refuses v k w' ?_
  rwa [framed.builtins]

theorem Refuses.wrapped {x : Eval α} (refuses : Refuses name x) (c : Wrapping) : Refuses name (.wrapped c x) :=
  fun k w builtin => (refuses k w builtin).wrapped c

theorem refuses_failAt (kind : InvalidKind) (message : String) (span : Span) :
    Refuses name (failAt kind message span : Eval α) :=
  (refuses_raise _).wrapped _

theorem refuses_forM {xs : List α} (member : x ∈ xs) (refuses : Refuses name (f x)) : Refuses name (xs.forM f) := by
  induction xs with
  | nil => exact absurd member not_mem_nil
  | cons y ys ih =>
    rcases mem_cons.mp member with rfl | later
    · exact refuses.bind _
    · exact .after _ fun _ => ih later

end

/-! ### Targets -/

/-- A name among the targets of an assignment. -/
inductive TargetOf (name : String) : Expr → Prop where
  | name (sp : Span) (use : NameUse) : TargetOf name (.name sp name use)
  | tuple (sp : Span) {elts : List Expr} {e : Expr} (use : NameUse) (member : e ∈ elts)
    (inner : TargetOf name e) : TargetOf name (.tuple sp elts use)
  | list (sp : Span) {elts : List Expr} {e : Expr} (use : NameUse) (member : e ∈ elts)
    (inner : TargetOf name e) : TargetOf name (.list sp elts use)
  | starred (sp : Span) {e : Expr} (use : NameUse) (inner : TargetOf name e) : TargetOf name (.starred sp e use)

theorem length_dealt (rest : Value) (targets : List Expr) (vs : List Value) :
    (dealt rest targets vs).length = targets.length := by
  induction targets generalizing vs with
  | nil => rfl
  | cons t targets ih =>
    rw [dealt]
    split <;> exact congrArg (· + 1) (ih _)

theorem gives_shareOut (k : Nat) (w : World) (sp : Span) (targets : List Expr) (v : Value) :
    Gives k w (shareOut .ask sp targets v) fun pairs _ => pairs.map Prod.fst = targets := by
  refine .whatever fun vs w' => ?_
  have firsts (rest : Value) : (targets.zip (dealt rest targets vs)).map Prod.fst = targets :=
    map_fst_zip (Nat.le_of_eq (length_dealt rest targets vs).symm)
  dsimp only [dealOut]
  split
  · exact gives_unless_failAt fun _ => gives_unless_failAt fun _ => gives_pure (firsts _)
  · exact gives_raise _
  · refine gives_unless_failAt fun _ => .whatever fun rest _ => gives_pure (firsts rest)

theorem refuses_assignEach {e : Expr} (member : e ∈ elts)
    (refuses : ∀ v, Refuses name (assign .ask v e)) (same : vs.length = elts.length) :
    Refuses name (assignEach .ask vs elts) := by
  induction elts generalizing vs with
  | nil => exact absurd member not_mem_nil
  | cons t elts ih =>
    cases vs with
    | nil => cases same
    | cons v vs =>
      rcases mem_cons.mp member with rfl | later
      · exact (refuses v).bind _
      · exact .after _ fun _ => ih later (Nat.succ.inj same)

/-- **No target takes a name that is built in.** -/
theorem refuses_target (isTarget : TargetOf name target) (v : Value) : Refuses name (assign .ask v target) := by
  have each {sp : Span} {elts : List Expr} {e : Expr} (member : e ∈ elts)
      (ih : ∀ v : Value, Refuses name (assign .ask v e)) (v : Value) :
      Refuses name (.bind (shareOut .ask sp elts v) fun pairs =>
        assignEach .ask (pairs.map (·.2)) elts) := by
    intro k w builtin
    refine .bind ((gives_shareOut k w sp elts v).and (gives_framed k w _)) ?_
    rintro pairs w' ⟨shared, framed⟩
    refine refuses_assignEach member ih ?_ k w' (by rwa [framed.builtins])
    rw [← shared, length_map, length_map]
  induction isTarget generalizing v with
  | name sp use => exact refuses_assign _ v
  | tuple sp use member inner ih | list sp use member inner ih => exact each member ih v
  | starred sp use inner ih =>
    cases inner with
    | name sp use => exact refuses_assign _ v
    | _ =>
      rw [assign]
      · exact refuses_raise _
      · exact nofun

/-! ### Statements, expressions and calls -/

/-- A task that binds a name, and asks whether it is built in. -/
inductive Rebinds (name : String) : {α : Type} → Task α → Prop where
  | assign (sp : Span) {targets : List Expr} {t : Expr} (value : Expr) (remark : Option String)
    (member : t ∈ targets) (isTarget : TargetOf name t) :
    Rebinds name (.stmt (.assign sp targets value remark))
  | augmented (sp : Span) {t : Expr} (op : BinOp) (value : Expr) (isTarget : TargetOf name t) :
    Rebinds name (.stmt (.augAssign sp t op value))
  | named (sp : Span) {t : Expr} (value : Expr) (isTarget : TargetOf name t) :
    Rebinds name (.expr (.namedExpr sp t value))
  | define (sp : Span) (params : Params) (body : List Stmt) (decorators : List Expr)
    (result : Option Expr) (remark : Option String) (isAsync : Bool) :
    Rebinds name (.stmt (.functionDef sp name params body decorators result remark isAsync))
  | imports (args : List Value) {named : Names} (given : named.has name = true) :
    Rebinds name (.call (.fn .using) args named)

section

variable {name : String}

theorem refuses_stmt (noExpr : ∀ sp e, s ≠ .expr sp e)
    (refuses : Refuses name (execNode .ask s)) : Refuses name (execStmt .ask s) := by
  intro k w builtin
  refine .reading ?_
  split
  · split
    · next sp e => exact absurd rfl (noExpr sp e)
    · exact refuses_failAt _ _ _ k w builtin
  · exact Refuses.after (.node s.span) (fun _ => refuses.wrapped _) k w builtin

theorem gives_matchNamed_free {s : Signature} (free : s.params = []) (takes : s.named = true) (k : Nat)
    (w : World) (given : b.named.has name = true ∨ named.has name = true) :
    Gives k w (s.matchNamed b named) fun b _ => b.named.has name = true := by
  induction named generalizing b with
  | nil => exact gives_pure (given.resolve_right nofun)
  | cons p named ih =>
    have unknown : s.params.find? (fun q => q.name == p.1 && q.kind != .positional) = none := by
      rw [free]
      rfl
    rw [Signature.matchNamed, unknown]
    simp only [takes]
    refine ih ?_
    rw [has_put]
    rcases given with before | now
    · exact .inl (by rw [before, Bool.or_true])
    · cases here : name == p.1 with
      | true => exact .inl (by rw [Bool.true_or])
      | false =>
        rw [has_cons, here] at now
        exact .inr now

theorem gives_bindUsing (k : Nat) (w : World) (args : List Value) (given : named.has name = true) :
    Gives k w (Builtin.using.parameters.bind args named) fun b _ => b.named.has name = true := by
  refine .bind (gives_matchNamed_free rfl rfl k w (.inr given)) fun b w' kept => ?_
  refine gives_unless fun _ => gives_unless fun _ => gives_unless fun _ => gives_pure ?_
  exact kept

theorem refuses_importAs (address : Value) : Refuses name (importAs .ask name address) :=
  .after _ fun _ => .after _ fun m => refuses_assign none m

theorem Rebinds.refuses {α : Type} {t : Task α} (rebinds : Rebinds name t) : Refuses name (step .ask t) := by
  cases rebinds with
  | assign sp value remark member isTarget =>
    refine refuses_stmt nofun (.after _ fun v => .bind ?_ _)
    exact refuses_forM member (refuses_target isTarget v)
  | augmented sp op value isTarget =>
    refine refuses_stmt nofun ?_
    rw [execNode]
    split
    · exact (refuses_raise _).bind _
    · refine .after _ fun a => .after _ fun b => .after _ fun v => ?_
      exact (refuses_target isTarget v).bind _
  | named sp value isTarget =>
    intro k w builtin
    refine .reading ?_
    split
    · exact (refuses_failAt _ _ _).bind _ k w builtin
    · refine Refuses.after (.node _) (fun _ => Refuses.bind (.wrapped ?_ _) _) k w builtin
      exact .after _ fun v => (refuses_target isTarget v).bind _
  | define sp params body decorators result remark isAsync =>
    refine refuses_stmt nofun ?_
    rw [execNode]
    split
    · exact (refuses_failAt _ _ _).bind _
    · refine Refuses.bind (.after .read fun w => .after _ fun f => ?_) _
      exact refuses_assign (some sp) f
  | imports args given =>
    intro k w builtin
    refine .bind ((gives_bindUsing k w args given).and (gives_framed k w _)) ?_
    rintro b w' ⟨kept, framed⟩
    obtain ⟨p, member, same⟩ := lookup_isSome_iff.mp kept
    refine Refuses.bind (refuses_forM member ?_) _ k w' (by rwa [framed.builtins])
    rw [eq_of_beq same]
    exact refuses_importAs p.2

theorem forRounds_refuses (isTarget : TargetOf name target) (n : Nat) (builtin : w.builtins.has name = true)
    (next : run n (.next c) w = .ok (some (u, c')) w') (sp : Span) (body orelse : List Stmt) (k : Nat) :
    Gives n w (forRounds .ask sp target body orelse c k) fun _ _ => False := by
  cases k with
  | zero => exact gives_raise _
  | succ k =>
    have item : Gives n w (.ask (.next c)) fun r _ => r = some (u, c') := by
      intro r w'' ran
      rw [Eval.exec, next] at ran
      cases ran
      rfl
    refine .bind (item.and (gives_framed n w _)) ?_
    rintro r w'' ⟨rfl, framed⟩
    have refuses (rest : Unit → Eval Flow) : Refuses name (.bind (.round .forLoop sp) fun _ =>
        .bind (assign .ask u target) rest) :=
      .after _ fun _ => (refuses_target isTarget u).bind _
    exact refuses _ n w'' (by rwa [framed.builtins])

end

/-! ## 4. Executions -/

/-- In a world at the level of a module, a built-in name is bound just when a history tells so; when it is
    not, its value is the one that it is built in with, unless a comprehension has a variable of the
    name. -/
def BuiltinsStand (builtins : Names) (past : List Event) (v : World) : Prop :=
  ∀ name, builtins.has name = true → (v.scopeNames.has name = true ↔ Rebound past name v.scope) ∧
    (¬ Rebound past name v.scope → v.lookup name = (findInLayers v.layers name v.inForce).or (builtins.get? name))

theorem Shadowed.builtinsStand (shadowed : Shadowed past v)
    (builtins : v.builtins = w.builtins) : BuiltinsStand w.builtins past v := by
  intro name builtin
  rw [← builtins] at builtin ⊢
  refine ⟨shadowed name builtin, fun free => ?_⟩
  have missing : v.scopeNames.get? name = none := by
    rw [← shadowed name builtin, Bool.not_eq_true, has, Option.isSome_eq_false_iff,
      Option.isNone_iff_eq_none] at free
    exact free
  unfold World.lookup
  rw [missing]
  cases findInLayers v.layers name v.inForce <;> rfl

/-- **Built-in names are hidden by patterns and variables of the character, and by nothing else.**  Wherever
    a name is read at the level of a module, and in the end, a built-in name is bound just when one of the
    two has bound it there; no other form that binds a built-in name ends well. -/
theorem builtins_rebound_iff (text : String) (w : World) (top : w.callers = [])
    (valid : w.scope < w.scopes.size)
    (disjoint : ∀ name, w.builtins.has name = true → w.scopeNames.has name = false) :
    (∀ p name v q, executeHistory text w = p ++ .read name v :: q → v.callers = [] →
      BuiltinsStand w.builtins p v) ∧
    BuiltinsStand w.builtins (executeHistory text w) (worldOf (execute text w)) ∧
    ∀ (n : Nat) (name : String) (v : World), v.builtins.has name = true →
      (∀ (α : Type) (t : Task α) (u : α) (v' : World), Rebinds name t → run n t v ≠ .ok u v') ∧
      ∀ (sp : Span) (target : Expr) (body orelse : List Stmt) (c c' : Cursor) (u : Value)
        (v' v'' : World) (k : Nat) (flow : Flow), TargetOf name target →
        run n (.next c) v = .ok (some (u, c')) v' →
        (forRounds .ask sp target body orelse c k).exec (run n) v ≠ .ok flow v'' := by
  obtain ⟨n, m, moves⟩ := execute_moves text w
  have start : AtTop [] { w with source := text, statements := n, loops := m } := by
    refine ⟨top, valid, fun _ _ _ member => absurd member List.not_mem_nil, fun name builtin => ?_⟩
    refine ⟨fun bound => ?_, fun ⟨_, _, member⟩ => absurd member List.not_mem_nil⟩
    exact absurd ((disjoint name builtin).symm.trans bound) nofun
  have tracks := moves.tracks start
  refine ⟨fun p name v q told here => ?_, ?_, fun n name v builtin => ⟨?_, ?_⟩⟩
  · have read : Event.read name v ∈ executeHistory text w :=
      told ▸ List.mem_append_right p List.mem_cons_self
    have builtins := (moves.tells.reads name v read).2.1
    exact (tracks.reads p name v q told here).builtinsStand builtins
  · exact Shadowed.builtinsStand tracks.now moves.framed.builtins
  · intro α t u v' rebinds ran
    exact gives_ask (k := n) t (fun n => rebinds.refuses n v builtin) u v' ran
  · intro sp target body orelse c c' u v' v'' k flow isTarget next ran
    exact forRounds_refuses isTarget n builtin next sp body orelse k flow v'' ran

/-- A script that captures a built-in name, and reads it afterwards; and an assignment to the name. -/
theorem builtins_rebound_iff_captured :
    let w : World := { builtins := [("len", .fn .len)] }
    let text := "match 5:\n    case len:\n        pass\nlen"
    let sp : Span := ⟨1, 0, 1, 0⟩
    let s : Stmt := .assign sp [.name sp "len" .store] (.constant sp (.int 5)) none
    w.callers = [] ∧ w.scope < w.scopes.size ∧ w.scopeNames.has "len" = false ∧
      BuiltinsStand w.builtins (executeHistory text w) (worldOf (execute text w)) ∧
      ∀ u v', run 10 (.stmt s) w ≠ .ok u v' := by
  intro w text sp s
  have disjoint (name : String) (_ : w.builtins.has name = true) : w.scopeNames.has name = false := rfl
  obtain ⟨-, stand, refuse⟩ := builtins_rebound_iff text w rfl (by decide) disjoint
  refine ⟨rfl, by decide, rfl, stand, fun u v' => ?_⟩
  exact (refuse 10 "len" w rfl).1 Flow _ u v'
    (.assign sp _ none (List.mem_singleton_self _) (.name sp .store))

/-- After `match 5: case len: pass`, the name `len` stands for 5. -/
theorem capture_hides_builtin :
    let sp : Span := ⟨1, 0, 1, 0⟩
    let s : Stmt :=
      .matchOn sp (.constant sp (.int 5)) [.mk (.bind sp none (some "len")) none [.pass sp]]
    let w : World := { builtins := [("len", .fn .len)] }
    (match run 10 (.stmt s) w with
      | .ok _ w' => (w'.lookup "len").bind Value.asInt?
      | .error _ _ => none) = some 5 := by
  decide +kernel

end AliasTools.Script
