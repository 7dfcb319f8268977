import AliasTools.Proofs.BuiltinNames
import AliasTools.Proofs.GuardedGrowth
import AliasTools.Proofs.HiddenNames
import AliasTools.Proofs.Scoping
import Mathlib.Data.List.Nodup

/-!
# Objects that names share

A script is never given a plain list, dictionary or set.  Whenever a name that is bound to one is read, a
guarded copy is made, so that what is done to the copy does not show the next time the name is read.
-/

namespace AliasTools.Script

open Syntax List World Eval

variable {a b : Addr} {g : Bool} {c : Cell} {target : Expr} {targets : List Expr} {α β : Type}
  {xs : List α} {w w' : World} {u v : Value} {x : String} {m : Option Int} {ps : List (String × Value)}

/-! ## 1. Plain containers -/

namespace Cell

def isPlain : Cell → Bool
  | .list false _ _ | .dict false _ _ | .set false _ _ => true
  | _ => false

def copy : Cell → Cell
  | .list _ xs _ => .list true xs none
  | .dict _ es _ => .dict true es none
  | .set _ ms _ => .set true ms none
  | c => c

theorem Lasts.isPlain_eq (lasts : c.Lasts c') : c'.isPlain = c.isPlain := by
  cases lasts with
  | list g | dict g | set g => cases g <;> rfl
  | _ => rfl

theorem isPlain_madeIn (source : String) (c : Cell) : (c.madeIn source).isPlain = c.isPlain := by cases c <;> rfl

theorem isPlain_copy (plain : c.isPlain = true) : c.copy.isPlain = false := by
  cases c with
  | list | dict | set => rfl
  | _ => cases plain

end Cell

def World.Plain (w : World) (v : Value) : Prop := ∃ a c, v = .ref a ∧ w.heap[a]? = some c ∧ c.isPlain = true

theorem World.plain_ref_iff (found : w.heap[a]? = some c) : w.Plain (.ref a) ↔ c.isPlain = true := by
  constructor
  · rintro ⟨b, d, same, found', plain⟩
    cases same
    rw [found] at found'
    cases found'
    exact plain
  · exact fun plain => ⟨a, c, rfl, found, plain⟩

theorem World.plain_congr (same : w'.heap = w.heap) (v : Value) : w'.Plain v ↔ w.Plain v := by
  rw [Plain, Plain, same]

def measuring (b : Addr) : Eval Value :=
  .bind (sizeOf .ask (.ref b)) fun n => .bind (recordSize b n) fun _ => .pure (.ref b)

theorem gives_measuring (k : Nat) (w : World) (b : Addr) :
    Gives k w (measuring b) fun u w' => u = .ref b ∧ w.Lasts w' := by
  refine .and ?_ (gives_lasts _)
  exact .whatever fun n w₁ => .whatever fun _ w₂ => gives_pure rfl

def Value.guarded : Value → Value
  | .str s _ => .str s true
  | v => v

section

variable {w : World}

theorem exec_guardValue_of_not_plain (answer : Answering) (shared : ¬ w.Plain v) :
    (guardValue .ask v).exec answer w = .ok v.guarded w := by
  cases v with
  | ref a =>
    refine (exec_cellAt_bind answer w a _).trans ?_
    cases found : w.heap[a]? with
    | none => rfl
    | some c =>
      rw [plain_ref_iff found, Bool.not_eq_true] at shared
      cases c with
      | list g | dict g | set g =>
        cases g
        · cases shared
        · rfl
      | _ => rfl
  | _ => rfl

theorem exec_guardValue_of_plain (answer : Answering) (found : w.heap[a]? = some c) (plain : c.isPlain = true) :
    (guardValue .ask (.ref a)).exec answer w =
      (measuring w.heap.size).exec answer { w with heap := w.heap.push c.copy } := by
  refine (exec_found _ found).trans ?_
  cases c with
  | list g | dict g | set g =>
    cases g
    · rfl
    · cases plain
  | _ => cases plain

theorem World.Plain.of_guarded (plain : w.Plain v.guarded) : w.Plain v := by
  obtain ⟨a, c, same, rest⟩ := plain
  cases v with
  | str => cases same
  | _ => exact ⟨a, c, same, rest⟩

/-- **A script is never given a plain container.** -/
theorem gives_guardValue (k : Nat) (v : Value) : Gives k w (guardValue .ask v) fun u w' => ¬ w'.Plain u := by
  intro u w' ran
  by_cases plain : w.Plain v
  · obtain ⟨a, c, rfl, found, plain⟩ := plain
    rw [exec_guardValue_of_plain _ found plain] at ran
    obtain ⟨rfl, lasts⟩ := gives_measuring k _ _ u w' ran
    obtain ⟨c', found', became⟩ := lasts.cells w.heap.size c.copy Array.getElem?_push_size
    rw [plain_ref_iff found', became.isPlain_eq, Cell.isPlain_copy plain]
    exact Bool.false_ne_true
  · rw [exec_guardValue_of_not_plain _ plain] at ran
    cases ran
    exact plain ∘ Plain.of_guarded

end

/-! ## 2. Readings -/

def reading (sp : Span) (x : String) (use : NameUse) : Eval Value :=
  .bind (tiedTo sp (evalNode .ask (.name sp x use))) fun v => guardValue .ask v

/-- In a world, a name is bound to the object at an address, which is a cell. -/
structure Denotes (w : World) (x : String) (a : Addr) (c : Cell) : Prop where
  bound : w.lookup x = some (.ref a)
  cell : w.heap[a]? = some c

section

variable {w : World} {x : String} {a : Addr} {c : Cell}

theorem exec_reading (answer : Answering) (sp : Span) (use : NameUse) (denotes : Denotes w x a c) :
    (reading sp x use).exec answer w = (guardValue .ask (.ref a)).exec answer w := by
  rw [reading, exec, tiedTo, exec, exec_name, denotes.bound]

theorem Denotes.exec_of_not_plain (denotes : Denotes w x a c) (shared : c.isPlain = false)
    (answer : Answering) (sp : Span) (use : NameUse) : (reading sp x use).exec answer w = .ok (.ref a) w := by
  have shared : ¬ w.Plain (.ref a) := by rwa [plain_ref_iff denotes.cell, Bool.not_eq_true]
  exact (exec_reading answer sp use denotes).trans (exec_guardValue_of_not_plain answer shared)

theorem Denotes.exec_of_plain (denotes : Denotes w x a c) (plain : c.isPlain = true)
    (answer : Answering) (sp : Span) (use : NameUse) :
    (reading sp x use).exec answer w = (measuring w.heap.size).exec answer { w with heap := w.heap.push c.copy } :=
  (exec_reading answer sp use denotes).trans (exec_guardValue_of_plain answer denotes.cell plain)

theorem Denotes.lt_size (denotes : Denotes w x a c) : a < w.heap.size := (Array.getElem?_eq_some_iff.mp denotes.cell).1

end

theorem heap_alter_other (other : b ≠ a) (what : Alteration) :
    ((Change.alter b what).apply w).heap[a]? = w.heap[a]? := by
  show (w.heap.modify b what.apply)[a]? = _
  rw [Array.getElem?_modify, if_neg other]

theorem Denotes.altered (denotes : Denotes w x a c) (ran : (reading sp x use).exec (run n) w = .ok u w') :
    ∃ b, u = .ref b ∧ ∀ what : Alteration,
      (c.isPlain = false → ((Change.alter b what).apply w').heap[a]? = some (what.apply c)) ∧
      (c.isPlain = true → ((Change.alter b what).apply w').heap[a]? = w'.heap[a]?) := by
  cases plain : c.isPlain with
  | false =>
    rw [denotes.exec_of_not_plain plain] at ran
    cases ran
    exact ⟨a, rfl, fun what => ⟨fun _ => heap_alter denotes.cell what, nofun⟩⟩
  | true =>
    rw [denotes.exec_of_plain plain] at ran
    obtain ⟨rfl, -⟩ := gives_measuring n _ _ u w' ran
    refine ⟨w.heap.size, rfl, fun what => ⟨nofun, fun _ => heap_alter_other ?_ what⟩⟩
    exact Nat.ne_of_gt denotes.lt_size

/-! ## 3. From one reading to the next -/

def worldsRead (h : List Event) : List World :=
  h.filterMap fun e =>
    match e with
    | .read _ v => some v
    | _ => none

theorem worldsRead_append (h h' : List Event) : worldsRead (h ++ h') = worldsRead h ++ worldsRead h' := filterMap_append

theorem worldsRead_read (x : String) (v : World) (h : List Event) :
    worldsRead (.read x v :: h) = v :: worldsRead h := rfl

/-- On the way of a run, `R` holds from the beginning to each reading, from one reading to the next, and
    from each of them to the end. -/
structure Along (R : World → World → Prop) (w : World) (h : List Event) (w' : World) : Prop where
  reads : ∀ v ∈ worldsRead h, R w v ∧ R v w'
  order : (worldsRead h).Pairwise R

section

variable {R : World → World → Prop} {w w' : World} {h : List Event}

theorem Along.between {v : World} {between after : List Event}
    (along : Along R w (before ++ .read x v :: (between ++ .read y v' :: after)) w') : R v v' := by
  have order := along.order
  rw [worldsRead_append, worldsRead_read, worldsRead_append] at order
  refine rel_of_pairwise_cons (pairwise_append.mp order).2.1 ?_
  exact mem_append_right _ mem_cons_self

/-- What holds from the beginning to the end of every run holds along it. -/
theorem Moves.along (whole : ∀ {w h w'}, Moves w h w' → R w w') (trans : ∀ {u v w}, R u v → R v w → R u w)
    (around : ∀ {w r new back}, w.Enters r new back → R w new ∧ ∀ old, R old (back old))
    (moves : Moves w h w') : Along R w h w' := by
  induction moves with
  | read w name =>
    refine ⟨fun v member => ?_, pairwise_singleton _ _⟩
    obtain rfl := mem_singleton.mp member
    exact ⟨whole (.done v), whole (.done v)⟩
  | append one two first second =>
    refine ⟨fun v member => ?_, ?_⟩
    · rw [worldsRead_append] at member
      rcases mem_append.mp member with early | late
      · exact ⟨(first.reads v early).1, trans (first.reads v early).2 (whole two)⟩
      · exact ⟨trans (whole one) (second.reads v late).1, (second.reads v late).2⟩
    · rw [worldsRead_append, pairwise_append]
      refine ⟨first.order, second.order, fun u early v late => ?_⟩
      exact trans (first.reads u early).2 (second.reads v late).1
  | @within h _ _ r _ _ enters _ inner =>
    have same : worldsRead (.entered r :: h ++ [.left r]) = worldsRead h := by
      rw [worldsRead_append]
      exact append_nil _
    obtain ⟨before, after⟩ := around enters
    refine ⟨?_, by rw [same]; exact inner.order⟩
    rw [same]
    exact fun v member => ⟨trans before (inner.reads v member).1, trans (inner.reads v member).2 (after _)⟩
  | remark _ _ remark => cases remark <;> exact ⟨fun _ member => absurd member not_mem_nil, .nil⟩
  | _ => exact ⟨fun _ member => absurd member not_mem_nil, .nil⟩

end

/-! ## 4. Binding names -/

theorem World.get?_bindName (valid : w.scope < w.scopes.size) (x : String) (v : Value) (n : String) :
    (w.bindName x v).scopeNames.get? n = if n = x then some v else w.scopeNames.get? n := by
  rw [scopeNames_bindName valid, Names.get?_put]

def World.bindAll (w : World) : List (String × Value) → World
  | [] => w
  | (x, v) :: rest => (w.bindName x v).bindAll rest

theorem World.heap_bindAll (w : World) (ps : List (String × Value)) : (w.bindAll ps).heap = w.heap := by
  induction ps generalizing w with
  | nil => rfl
  | cons p ps ih => exact ih _

theorem World.Framed.valid (framed : w.Framed w') (valid : w.scope < w.scopes.size) : w'.scope < w'.scopes.size := by
  rw [framed.scope]
  exact Nat.lt_of_lt_of_le valid framed.size

theorem World.get?_bindAll_of_not_mem (valid : w.scope < w.scopes.size) (absent : n ∉ ps.map Prod.fst) :
    (w.bindAll ps).scopeNames.get? n = w.scopeNames.get? n := by
  induction ps generalizing w with
  | nil => rfl
  | cons p ps ih =>
    rw [map_cons, mem_cons, not_or] at absent
    exact (ih ((w.framed_bindName _ _).valid valid) absent.2).trans (by rw [get?_bindName valid, if_neg absent.1])

theorem World.get?_bindAll (valid : w.scope < w.scopes.size) (agree : ∀ p ∈ ps, ∀ q ∈ ps, p.1 = q.1 → p.2 = q.2)
    (member : p ∈ ps) : (w.bindAll ps).scopeNames.get? p.1 = some p.2 := by
  induction ps generalizing w p with
  | nil => exact absurd member not_mem_nil
  | cons q ps ih =>
    have valid' := (w.framed_bindName q.1 q.2).valid valid
    have later {r : String × Value} (there : r ∈ ps) : (w.bindAll (q :: ps)).scopeNames.get? r.1 = some r.2 := by
      refine ih valid' (fun p here r there => ?_) there
      exact agree p (mem_cons_of_mem q here) r (mem_cons_of_mem q there)
    rcases mem_cons.mp member with rfl | behind
    · by_cases again : p.1 ∈ ps.map Prod.fst
      · -- the name is bound again, to the same value
        obtain ⟨r, there, same⟩ := mem_map.mp again
        rw [← same, later there, agree p mem_cons_self r (mem_cons_of_mem p there) same.symm]
      · refine (get?_bindAll_of_not_mem valid' again).trans ?_
        rw [get?_bindName valid, if_pos rfl]
    · exact later behind

def boundName? : Expr → Option String
  | .name _ x _ => some x
  | .starred _ (.name _ x _) _ => some x
  | _ => none

section

variable {k : Nat} {w : World}

theorem gives_assign (span : Option Span) (x : String) (v : Value) :
    Gives k w (.assign span x v) fun _ w' => w' = w.bindName x v := by
  intro u w' ran
  rw [exec] at ran
  split at ran
  · cases ran
  · cases ran
    rfl

theorem gives_assignTarget (names : boundName? target = some x) (v : Value) :
    Gives k w (assign .ask v target) fun _ w' => w' = w.bindName x v := by
  unfold boundName? at names
  split at names <;> cases names <;> rw [assign] <;> exact gives_assign _ _ v

theorem gives_assignEach {xs : List String} (names : targets.map boundName? = xs.map some) (vs : List Value) :
    Gives k w (assignEach .ask vs targets) fun _ w' => w' = w.bindAll (xs.zip vs) := by
  induction targets generalizing w xs vs with
  | nil =>
    obtain rfl := map_eq_nil_iff.mp names.symm
    cases vs <;> exact gives_pure rfl
  | cons t targets ih =>
    obtain ⟨x, xs, rfl, name, names⟩ := map_eq_cons_iff.mp names.symm
    cases vs with
    | nil => exact gives_pure rfl
    | cons v vs =>
      refine .bind (gives_assignTarget name.symm v) ?_
      rintro - _ rfl
      exact ih names.symm vs

theorem gives_bindEach (each : ∀ x ∈ xs, ∀ w, Gives k w (f x) fun _ w' => w' = w.bindName (pair x).1 (pair x).2) :
    Gives k w (xs.forM f) fun _ w' => w' = w.bindAll (xs.map pair) := by
  induction xs generalizing w with
  | nil => exact gives_pure rfl
  | cons x xs ih =>
    refine .bind (each x mem_cons_self w) ?_
    rintro - _ rfl
    exact ih fun y member => each y (mem_cons_of_mem x member)

end

/-! ## 5. What is bound -/

def World.MadePlain (w : World) (u : Value) (w' : World) : Prop :=
  ∃ a c, u = .ref a ∧ w.heap.size ≤ a ∧ w'.heap[a]? = some c ∧ c.isPlain = true

section

variable {k : Nat} {w w₁ w' : World}

theorem World.MadePlain.plain (made : w.MadePlain u w') : w'.Plain u := by
  obtain ⟨a, c, same, -, found, plain⟩ := made
  exact ⟨a, c, same, found, plain⟩

theorem World.MadePlain.lasts (made : w.MadePlain u w₁) (lasts : w₁.Lasts w') : w.MadePlain u w' := by
  obtain ⟨a, c, same, new, found, plain⟩ := made
  obtain ⟨c', found', became⟩ := lasts.cells a c found
  exact ⟨a, c', same, new, found', became.isPlain_eq.trans plain⟩

theorem World.MadePlain.earlier (made : w₁.MadePlain u w') (lasts : w.Lasts w₁) : w.MadePlain u w' := by
  obtain ⟨a, c, same, new, found, plain⟩ := made
  exact ⟨a, c, same, Nat.le_trans lasts.size_le new, found, plain⟩

theorem gives_allocPlain (plain : c.asNew.isPlain = true) : Gives k w (alloc c) (w.MadePlain) := by
  intro u w' ran
  cases ran
  exact ⟨w.heap.size, _, rfl, Nat.le_refl _, Array.getElem?_push_size, (Cell.isPlain_madeIn _ _).trans plain⟩

theorem gives_node (sp : Span) : Gives k w (.node sp) fun _ w' => w' = w.countNode := by
  intro u w' ran
  rw [exec] at ran
  split at ran
  · cases ran
  · cases ran
    rfl

section

variable (full : w.simple = false)

include full

theorem gives_execStmt {P : World → Prop} (node : Gives k w.countNode (execNode .ask s) fun _ w' => P w') :
    Gives k w (execStmt .ask s) fun _ w' => P w' := by
  refine .reading ?_
  rw [if_neg (Bool.eq_false_iff.mp full)]
  refine .bind (gives_node s.span) ?_
  rintro - _ rfl
  exact node.wrapped _

theorem gives_stmt {P : World → Prop} (node : ∀ k, Gives k w.countNode (execNode .ask s) fun _ w' => P w') :
    Gives k w (.ask (.stmt s)) fun _ w' => P w' :=
  gives_ask _ fun k => gives_execStmt full (node k)

theorem gives_expr (node : ∀ k, Gives k w.countNode (evalNode .ask e) fun v w' => Gives k w' (guardValue .ask v) p) :
    Gives k w (.ask (.expr e)) p := by
  refine gives_ask _ fun k => .reading ?_
  rw [if_neg (Bool.eq_false_iff.mp full)]
  refine .bind (gives_node e.span) ?_
  rintro - _ rfl
  exact .bind ((node k).wrapped _) fun v w' guarded => guarded

/-- **The value of an expression is never plain.** -/
theorem gives_notPlain (e : Expr) : Gives k w (.ask (.expr e)) fun v w' => ¬ w'.Plain v :=
  gives_expr full fun k v _ _ => gives_guardValue k v

/-! ### Values of expressions -/

/-- `x = y = e`: every name is bound to what the expression gives. -/
theorem gives_assigned (valid : w.scope < w.scopes.size) (sp : Span)
    (targets : List Expr) (e : Expr) (remark : Option String) (names : ∀ t ∈ targets, (boundName? t).isSome = true) :
    Gives k w (.ask (.stmt (.assign sp targets e remark))) fun _ w' =>
      ∃ v, ¬ w'.Plain v ∧ ∀ t ∈ targets, ∀ x, boundName? t = some x → w'.scopeNames.get? x = some v := by
  refine gives_stmt full fun k => ?_
  have value := (gives_notPlain (w := w.countNode) full e).and (gives_framed k _ _)
  refine value.bind ?_
  rintro v w₁ ⟨shared, framed⟩
  let pair (t : Expr) : String × Value := ((boundName? t).getD "", v)
  have each (t : Expr) (member : t ∈ targets) (w : World) : Gives k w (assign .ask v t)
      fun _ w' => w' = w.bindName (pair t).1 (pair t).2 := by
    obtain ⟨x, found⟩ := Option.isSome_iff_exists.mp (names t member)
    show Gives k w _ fun _ w' => w' = w.bindName ((boundName? t).getD "") v
    rw [found]
    exact gives_assignTarget found v
  have agree : ∀ p ∈ targets.map pair, ∀ q ∈ targets.map pair, p.1 = q.1 → p.2 = q.2 := by
    intro p here q there _
    obtain ⟨t, -, rfl⟩ := mem_map.mp here
    obtain ⟨t', -, rfl⟩ := mem_map.mp there
    rfl
  refine .bind (gives_bindEach each) ?_
  rintro - _ rfl
  refine gives_pure ⟨v, ?_, fun t member x found => ?_⟩
  · rwa [plain_congr (w₁.heap_bindAll _)]
  · have bound := get?_bindAll (framed.valid valid) agree (mem_map_of_mem member)
    simpa only [pair, found, Option.getD_some] using bound

theorem gives_named (valid : w.scope < w.scopes.size) (sp : Span)
    (target : Expr) (x : String) (e : Expr) (name : boundName? target = some x) :
    Gives k w (.ask (.expr (.namedExpr sp target e))) fun _ w' =>
      ∃ v, ¬ w'.Plain v ∧ w'.scopeNames.get? x = some v := by
  refine gives_expr full fun k => ?_
  have value := (gives_notPlain (w := w.countNode) full e).and (gives_framed k _ _)
  refine value.bind ?_
  rintro v w₁ ⟨shared, framed⟩
  refine .bind (gives_assignTarget name v) ?_
  rintro - _ rfl
  have shared : ¬ (w₁.bindName x v).Plain v := by rwa [plain_congr rfl]
  refine gives_pure fun u w' ran => ?_
  rw [exec_guardValue_of_not_plain _ shared] at ran
  cases ran
  refine ⟨v, shared, ?_⟩
  rw [get?_bindName (framed.valid valid), if_pos rfl]

end

/-! ### Targets that take several values -/

theorem mem_zip_dealt (enough : (targets.filter (!isStarred ·)).length ≤ vs.length)
    (member : p ∈ targets.zip (dealt u targets vs)) :
    (isStarred p.1 = true → p.2 = u) ∧ (isStarred p.1 = false → p.2 ∈ vs) := by
  induction targets generalizing vs with
  | nil => cases member
  | cons t ts ih =>
    rw [dealt] at member
    cases star : isStarred t with
    | true =>
      rw [star] at member
      rw [filter_cons_of_neg (by rw [star]; exact Bool.false_ne_true)] at enough
      rcases mem_cons.mp member with rfl | behind
      · exact ⟨fun _ => rfl, fun other => absurd (other.symm.trans star) Bool.false_ne_true⟩
      · have fewer := length_filter_le (!isStarred ·) ts
        obtain ⟨starred, other⟩ := ih (by rw [length_drop]; omega) behind
        exact ⟨starred, fun plain => mem_of_mem_drop (other plain)⟩
    | false =>
      rw [star] at member
      rw [filter_cons_of_pos (by rw [star]; rfl)] at enough
      cases vs with
      | nil => cases enough
      | cons v vs =>
        rcases mem_cons.mp member with rfl | behind
        · exact ⟨fun other => absurd (star.symm.trans other) Bool.false_ne_true, fun _ => mem_cons_self⟩
        · obtain ⟨starred, other⟩ := ih (Nat.le_of_succ_le_succ enough) behind
          exact ⟨starred, fun plain => mem_cons_of_mem v (other plain)⟩

theorem gives_shares (sp : Span) (targets : List Expr) (v : Value) :
    Gives k w (shareOut .ask sp targets v) fun shares w' => ∀ p ∈ shares, (isStarred p.1 = true → w.MadePlain p.2 w') ∧
      (isStarred p.1 = false → ∃ vs w₁, (unpackValues .ask sp v).exec (run k) w = .ok vs w₁ ∧ p.2 ∈ vs) := by
  have values : Gives k w (unpackValues .ask sp v) fun vs w₁ =>
      w.Lasts w₁ ∧ (unpackValues .ask sp v).exec (run k) w = .ok vs w₁ :=
    fun vs w₁ ran => ⟨gives_lasts _ vs w₁ ran, ran⟩
  refine values.bind ?_
  rintro vs w₁ ⟨lasts, unpacked⟩
  have all := length_eq_length_filter_add (l := targets) isStarred
  dsimp only [dealOut]
  split
  · next none =>
    refine gives_unless_failAt fun _ => gives_unless_failAt fun _ => gives_pure fun p member => ?_
    have plain : ¬ isStarred p.1 = true := filter_eq_nil_iff.mp none _ (of_mem_zip member).1
    obtain ⟨-, other⟩ := mem_zip_dealt (by omega) member
    exact ⟨fun star => absurd star plain, fun plain => ⟨vs, w₁, unpacked, other plain⟩⟩
  · exact gives_raise _
  · next single =>
    rw [single, length_singleton] at all
    refine gives_unless_failAt fun _ => .bind (gives_allocPlain rfl) fun rest w₂ made => ?_
    refine gives_pure fun p member => ?_
    obtain ⟨star, other⟩ := mem_zip_dealt (by omega) member
    exact ⟨fun here => star here ▸ made.earlier lasts, fun plain => ⟨vs, w₁, unpacked, other plain⟩⟩

theorem gives_assignShares (valid : w.scope < w.scopes.size) (sp : Span) {xs : List String}
    (names : targets.map boundName? = xs.map some) (distinct : xs.Nodup) (use : NameUse) (v : Value) :
    Gives k w (assign .ask v (.tuple sp targets use)) fun _ w' =>
      ∀ t ∈ targets, isStarred t = true → ∀ x, boundName? t = some x →
        ∃ u, w'.scopeNames.get? x = some u ∧ w.MadePlain u w' := by
  refine .bind ((gives_shares sp targets v).and ((gives_shareOut k w sp targets v).and (gives_framed k w _))) ?_
  rintro shares w₁ ⟨made, all, framed⟩
  let pair (p : Expr × Value) : String × Value := ((boundName? p.1).getD "", p.2)
  have named : (shares.map pair).map Prod.fst = xs := by
    calc (shares.map pair).map Prod.fst = ((shares.map Prod.fst).map boundName?).map (Option.getD · "") := by
          simp only [map_map]
          rfl
      _ = xs := by rw [all, names, map_map]; exact map_id xs
  have zipped : xs.zip (shares.map (·.2)) = shares.map pair := by
    rw [← named, map_map, zip_map']
    rfl
  refine fun u w' ran t member star x found => ?_
  obtain rfl := gives_assignEach names _ u w' ran
  obtain ⟨p, share, rfl⟩ := mem_map.mp (all ▸ member)
  have bound := get?_bindAll (framed.valid valid)
    (fun p here q there same => congrArg Prod.snd (inj_on_of_nodup_map (named ▸ distinct) here there same))
    (mem_map_of_mem share)
  simp only [pair, found] at bound
  rw [zipped] at ran ⊢
  exact ⟨p.2, bound, ((made p share).1 star).lasts (gives_lasts _ u _ ran)⟩

theorem gives_starred (full : w.simple = false) (valid : w.scope < w.scopes.size) (sp tsp : Span)
    (targets : List Expr) (xs : List String) (use : NameUse) (e : Expr) (remark : Option String)
    (names : targets.map boundName? = xs.map some) (distinct : xs.Nodup) :
    Gives k w (.ask (.stmt (.assign sp [.tuple tsp targets use] e remark))) fun _ w' =>
      ∀ t ∈ targets, isStarred t = true → ∀ x, boundName? t = some x →
        ∃ u, w'.scopeNames.get? x = some u ∧ w.MadePlain u w' := by
  refine gives_stmt full fun k => ?_
  refine .bind ((gives_lasts _).and (gives_framed k _ _)) ?_
  rintro v w₁ ⟨lasts, framed⟩
  have lasts : w.Lasts w₁ := ⟨lasts.limits, lasts.cells⟩
  have shares := gives_assignShares (k := k) (framed.valid valid) tsp names distinct use v
  refine .bind (shares.returning ()) ?_
  intro _ w' holds
  refine gives_pure fun t member star x found => ?_
  obtain ⟨u, bound, made⟩ := holds t member star x found
  exact ⟨u, bound, made.earlier lasts⟩

/-! ### Items as they are -/

theorem exec_forRounds (sp tsp : Span) (x : String) (use : NameUse) (body orelse : List Stmt)
    (c c' : Cursor) (v : Value) (w₁ : World) (m : Nat) (next : run n (.next c) w = .ok (some (v, c')) w₁)
    (within : w₁.loops + 1 ≤ w₁.limits.maxLoops) (free : w₁.builtins.has x = false) :
    ∃ rest, (forRounds .ask sp (.name tsp x use) body orelse c (m + 1)).exec (run n) w =
      (Eval.bind (.ask (.body body)) rest).exec (run n) (w₁.countRound.bindName x v) := by
  have counted : (round .forLoop sp).exec (run n) w₁ = .ok () w₁.countRound := by
    exact if_neg (Int.not_lt.mpr within)
  have assigned : (assign .ask v (.name tsp x use)).exec (run n) w₁.countRound =
      .ok () (w₁.countRound.bindName x v) := by
    exact if_neg (by show ¬ w₁.builtins.has x = true; rw [free]; exact Bool.false_ne_true)
  have begins : (ask (.next c)).exec (run n) w = .ok (some (v, c')) w₁ := next
  apply Exists.intro
  exact (exec_bind_ok begins _).trans ((exec_bind_ok counted _).trans ((exec_bind_ok assigned _).trans rfl))

/-! ### Arguments -/

theorem gives_parameter (inBody : w.callers ≠ []) (x : String) (v : Value) :
    Gives k w (bindName .parameter x v) fun _ w' => w' = w.bindName x v := by
  have isOpen : Binding.isOpen w .parameter = true := by
    cases callers : w.callers with
    | nil => exact absurd callers inBody
    | cons => rw [Binding.isOpen, callers]; rfl
  exact gives_change _ (if_pos isOpen)

theorem get?_drop {t : Names} {x y : String} (other : x ≠ y) : (t.drop y).get? x = t.get? x := by
  induction t with
  | nil => rfl
  | cons p t ih => grind [Names.drop, Names.get?]

theorem gives_bindSlots_named (label : String) (inBody : w.callers ≠ []) {named : Names} {value : String → Value}
    {slots : List (Slot × Option Expr)} (apart : (slots.map (·.1.name)).Nodup)
    (given : ∀ p ∈ slots, p.1.byName = true ∧ named.get? p.1.name = some (value p.1.name)) :
    Gives k w (bindSlots .ask label ⟨[], named⟩ slots) fun _ w' =>
      w' = w.bindAll (slots.map fun p => (p.1.name, value p.1.name)) := by
  induction slots generalizing named w with
  | nil => exact gives_pure rfl
  | cons p slots ih =>
    obtain ⟨byName, found⟩ := given p mem_cons_self
    obtain ⟨new, apart⟩ := nodup_cons.1 apart
    rw [bindSlots.eq_def]
    simp only [byName, if_true, found, ite_self]
    refine .bind (gives_parameter inBody p.1.name (value p.1.name)) ?_
    rintro - _ rfl
    refine ih (w := w.bindName p.1.name (value p.1.name)) inBody apart fun q member => ?_
    have later := given q (mem_cons_of_mem _ member)
    have differs : q.1.name ≠ p.1.name := fun same => new (mem_map.2 ⟨q, member, same⟩)
    exact ⟨later.1, (get?_drop differs).trans later.2⟩

theorem gives_bindSlots (label : String) (inBody : w.callers ≠ []) {named : Names} {value : String → Value}
    {first rest : List (Slot × Option Expr)} (places : ∀ p ∈ first, p.1.byPlace = true)
    (apart : (rest.map (·.1.name)).Nodup)
    (given : ∀ p ∈ rest, p.1.byName = true ∧ named.get? p.1.name = some (value p.1.name)) :
    Gives k w (bindSlots .ask label ⟨first.map fun p => value p.1.name, named⟩ (first ++ rest)) fun _ w' =>
      w' = w.bindAll ((first ++ rest).map fun p => (p.1.name, value p.1.name)) := by
  induction first generalizing w with
  | nil => exact gives_bindSlots_named label inBody apart given
  | cons p first ih =>
    rw [cons_append, bindSlots.eq_def]
    simp only [places p mem_cons_self, if_true, map_cons]
    cases (if p.1.byName = true then Names.get? named p.1.name else none) with
    | some u => exact gives_raise _
    | none =>
      refine .bind (gives_parameter inBody p.1.name (value p.1.name)) ?_
      rintro - _ rfl
      exact ih (w := w.bindName p.1.name (value p.1.name)) inBody fun q member => places q (mem_cons_of_mem _ member)

theorem gives_bindExtra_none (label : String) (named : Names) :
    Gives k w (bindExtra .ask label none named) fun _ w' => w' = w := by
  unfold bindExtra
  dsimp only
  split
  · exact .whatever fun _ _ => gives_raise _
  · exact gives_pure rfl

section

variable (posOnly ordinary kwOnly : List Param) (kwDefaults : List (Option Expr)) (defaults : List Expr) (n : Nat)

/-- What a function asks for that gathers nothing. -/
def plainParams : Params := .mk posOnly ordinary none kwOnly kwDefaults none defaults

theorem names_slotsOf : (slotsOf (plainParams posOnly ordinary kwOnly kwDefaults defaults)).map Slot.name =
    (posOnly ++ ordinary ++ kwOnly).map Param.name := by
  simp [plainParams, slotsOf, Function.comp_def]

theorem fst_zip_defaultsOf (keys : kwDefaults.length = kwOnly.length) :
    let params := plainParams posOnly ordinary kwOnly kwDefaults defaults
    ((slotsOf params).zip (defaultsOf params)).map Prod.fst = slotsOf params := by
  refine map_fst_zip ?_
  simp only [plainParams, slotsOf, defaultsOf, length_append, length_replicate, length_map]
  omega

variable {posOnly ordinary kwOnly kwDefaults defaults n}

theorem byPlace_of_mem_take (all : n ≤ posOnly.length + ordinary.length) {s : Slot}
    (member : s ∈ (slotsOf (plainParams posOnly ordinary kwOnly kwDefaults defaults)).take n) : s.byPlace = true := by
  rw [plainParams, slotsOf, take_append_of_le_length (by simpa using all)] at member
  have member := mem_of_mem_take member
  rw [mem_append, mem_map, mem_map] at member
  rcases member with ⟨_, _, rfl⟩ | ⟨_, _, rfl⟩ <;> rfl

theorem byName_of_mem_drop (placed : posOnly.length ≤ n) {s : Slot}
    (member : s ∈ (slotsOf (plainParams posOnly ordinary kwOnly kwDefaults defaults)).drop n) : s.byName = true := by
  rw [plainParams, slotsOf, append_assoc, drop_append, drop_eq_nil_of_le (by simpa using placed), nil_append] at member
  have member := mem_of_mem_drop member
  rw [mem_append, mem_map, mem_map] at member
  rcases member with ⟨_, _, rfl⟩ | ⟨_, _, rfl⟩ <;> rfl

end

theorem gives_bindArguments (valid : w.scope < w.scopes.size) (inBody : w.callers ≠ []) (label : String)
    (posOnly ordinary kwOnly : List Param) (kwDefaults : List (Option Expr)) (defaults : List Expr) (named : Names)
    (value : String → Value) (n : Nat) (distinct : ((posOnly ++ ordinary ++ kwOnly).map Param.name).Nodup)
    (placed : posOnly.length ≤ n) (all : n ≤ posOnly.length + ordinary.length) (keys : kwDefaults.length = kwOnly.length)
    (given : ∀ p ∈ (posOnly ++ ordinary ++ kwOnly).drop n, named.get? p.name = some (value p.name)) :
    Gives k w (bindArguments .ask label (plainParams posOnly ordinary kwOnly kwDefaults defaults)
      (((posOnly ++ ordinary).take n).map fun p => value p.name) named) fun _ w' => w'.heap = w.heap ∧
        ∀ p ∈ posOnly ++ ordinary ++ kwOnly, w'.scopeNames.get? p.name = some (value p.name) := by
  unfold bindArguments
  refine gives_unless fun _ => ?_
  have firsts := fst_zip_defaultsOf posOnly ordinary kwOnly kwDefaults defaults keys
  dsimp only at firsts
  generalize List.zip (slotsOf _) (defaultsOf _) = filled at firsts ⊢
  have names : filled.map (·.1.name) = (posOnly ++ ordinary ++ kwOnly).map Param.name := by
    rw [← names_slotsOf posOnly ordinary kwOnly kwDefaults defaults, ← firsts, map_map]
    rfl
  have args : ((posOnly ++ ordinary).take n).map (fun p => value p.name) =
      (filled.take n).map fun p => value p.1.name := by
    have taken := congrArg (fun ns => (ns.take n).map value) names
    simp only [← map_take, map_map] at taken
    rw [take_append_of_le_length (by rw [length_append]; exact all)] at taken
    exact taken.symm
  have places : ∀ p ∈ filled.take n, p.1.byPlace = true := by
    intro p member
    have slot := mem_map_of_mem (f := Prod.fst) member
    rw [map_take, firsts] at slot
    exact byPlace_of_mem_take all slot
  have rest : ∀ p ∈ filled.drop n, p.1.byName = true ∧ named.get? p.1.name = some (value p.1.name) := by
    intro p member
    have name : p.1.name ∈ ((posOnly ++ ordinary ++ kwOnly).drop n).map Param.name := by
      rw [map_drop, ← names, ← map_drop]
      exact mem_map_of_mem (f := fun p => p.1.name) member
    obtain ⟨q, among, same⟩ := mem_map.1 name
    have slot := mem_map_of_mem (f := Prod.fst) member
    rw [map_drop, firsts] at slot
    exact ⟨byName_of_mem_drop placed slot, same ▸ given q among⟩
  have apart : ((filled.drop n).map (·.1.name)).Nodup := by
    rw [map_drop, names]
    exact distinct.sublist (drop_sublist _ _)
  have bound := gives_bindSlots (k := k) label inBody places apart rest
  rw [take_append_drop, ← args] at bound
  refine .bind bound ?_
  rintro s _ rfl u w' ran
  obtain rfl := gives_bindExtra_none label _ u w' ran
  have pairs : filled.map (fun p => (p.1.name, value p.1.name)) =
      ((posOnly ++ ordinary ++ kwOnly).map Param.name).map fun x => (x, value x) := by
    rw [← names, map_map]
    rfl
  rw [pairs]
  refine ⟨w.heap_bindAll _, fun p member => get?_bindAll (p := (p.name, value p.name)) valid ?_ ?_⟩
  · intro p here q there same
    obtain ⟨_, _, rfl⟩ := mem_map.1 here
    obtain ⟨_, _, rfl⟩ := mem_map.1 there
    exact congrArg value same
  · exact mem_map_of_mem (mem_map_of_mem member)

/-! ### What is left over -/

theorem gives_captureRest (sp : Span) (v : Value) (acc : Names) (bound : List Key) (x : String) :
    Gives k w (captureRest sp v acc bound x) fun ns w' => ∃ u, ns.get? x = some u ∧ w.MadePlain u w' := by
  unfold captureRest
  have rest : Gives k w (restOf v bound) fun u w' => w.MadePlain u w' :=
    .bind (gives_lasts _) fun es w₁ lasts u w' ran => (gives_allocPlain rfl u w' ran).earlier lasts
  refine gives_unless_failAt fun _ => rest.bind fun u w' made => gives_pure ⟨u, ?_, made⟩
  rw [Names.get?_put, if_pos rfl]

theorem gives_matchEntries (sp : Span) (v : Value)
    (x : String) (acc : Names) (bound : List Key) (parts : List (Expr × Syntax.Pattern)) :
    Gives k w (matchEntries .ask fits sp v (some x) acc bound parts) fun found w' =>
      ∀ ns, found = some ns → ∃ u, ns.get? x = some u ∧ w.MadePlain u w' := by
  induction parts generalizing w acc bound with
  | nil =>
    refine .bind (gives_captureRest sp v acc bound x) ?_
    rintro ns w' ⟨u, found, made⟩
    refine gives_pure fun _ same => ?_
    obtain rfl := Option.some.inj same
    exact ⟨u, found, made⟩
  | cons part parts ih =>
    refine .past (.refl w) fun key w₁ lasts => .past lasts fun key w₂ lasts => .past lasts fun es w₃ lasts => ?_
    split
    · exact gives_pure (by rintro _ ⟨⟩)
    · refine .past lasts fun fit w₄ lasts => ?_
      cases fit with
      | none => exact gives_pure (by rintro _ ⟨⟩)
      | some acc =>
        refine fun found w' ran ns same => ?_
        obtain ⟨u, found, made⟩ := ih acc (key :: bound) found w' ran ns same
        exact ⟨u, found, made.earlier lasts⟩

/-- `case {…, **x}`: the entries that are left over are captured as a plain dictionary. -/
theorem gives_rest (m : Nat) (v : Value) (sp : Span) (keys : List Expr) (items : List Syntax.Pattern) (x : String) :
    Gives k w (matchPattern .ask m v (.mapping sp keys items (some x))) fun found w' =>
      ∀ ns, found = some ns → ∃ u, ns.get? x = some u ∧ w.MadePlain u w' := by
  cases m with
  | zero => exact gives_raise _
  | succ m =>
    refine .past (.refl w) fun _ w₁ lasts => .past lasts fun mapping w₂ lasts => ?_
    split
    · exact gives_pure (by rintro _ ⟨⟩)
    · refine fun found w' ran ns same => ?_
      obtain ⟨u, found, made⟩ := gives_matchEntries sp v x [] [] (keys.zip items) found w' ran ns same
      exact ⟨u, found, made.earlier lasts⟩

/-- `def f(…, **x)`: the named arguments that are left over are bound as a plain dictionary. -/
theorem gives_gathered (valid : w.scope < w.scopes.size) (inBody : w.callers ≠ []) (label : String)
    (posOnly ordinary : List Param) (vararg : Option Param) (kwOnly : List Param)
    (kwDefaults : List (Option Expr)) (p : Param) (defaults : List Expr) (args : List Value) (named : Names) :
    Gives k w (bindArguments .ask label
      (.mk posOnly ordinary vararg kwOnly kwDefaults (some p) defaults) args named) fun _ w' =>
        ∃ u, w'.scopeNames.get? p.name = some u ∧ w.MadePlain u w' := by
  unfold bindArguments
  refine gives_unless fun _ => ?_
  have going {α : Type} (x : Eval α) (w : World) : Gives k w x fun _ w' => w.Lasts w' ∧ w.Framed w' :=
    (gives_lasts x).and (gives_framed k w x)
  refine .bind (going _ w) ?_
  rintro s w₁ ⟨lasts₁, framed₁⟩
  refine .bind (going _ w₁) ?_
  rintro _ w₂ ⟨lasts₂, framed₂⟩
  refine .bind ((gives_allocPlain rfl).and (going _ w₂)) ?_
  rintro u w₃ ⟨made, -, framed₃⟩
  refine .bind (going _ w₃) ?_
  rintro n w₄ ⟨lasts₄, framed₄⟩
  refine .reading (gives_unless fun _ => ?_)
  have framed := ((framed₁.trans framed₂).trans framed₃).trans framed₄
  have inBody' : w₄.callers ≠ [] := by rwa [framed.callers]
  intro _ w' ran
  obtain rfl := gives_parameter inBody' p.name u _ w' ran
  refine ⟨u, ?_, (made.earlier (lasts₁.trans lasts₂)).lasts (lasts₄.trans (gives_lasts _ _ _ ran))⟩
  rw [get?_bindName (framed.valid valid), if_pos rfl]

/-! ### Differences -/

theorem gives_members? (found : w.heap[a]? = some (.set g ms m)) :
    Gives k w (members? (.ref a)) fun r w' => r = some ms ∧ w' = w :=
  .found found (gives_pure ⟨rfl, rfl⟩)

theorem gives_difference {xs : Members}
    (left : w.heap[a]? = some (.set g xs m)) (right : w.heap[b]? = some (.set g' ys m')) :
    Gives k w (binaryOp .ask .sub (.ref a) (.ref b)) w.MadePlain := by
  have made : Gives k w (subValues .ask (.ref a) (.ref b)) w.MadePlain := by
    exact .pure_bind ((gives_members? left).value ((gives_members? right).value (gives_allocPlain rfl)))
  refine .after (looks_checkOperands _ _) fun _ => made.bind fun u w' made => ?_
  exact .reading (gives_unless fun _ => gives_pure made)

theorem gives_lessened (full : w.simple = false) (valid : w.scope < w.scopes.size) (sp : Span) {xs : Members}
    (name : boundName? target = some x) (left : run k (.expr target) w.countNode = .ok (.ref a) w₁)
    (right : run k (.expr e) w₁ = .ok (.ref b) w₂)
    (set : w₂.heap[a]? = some (.set g xs m)) (other : w₂.heap[b]? = some (.set g' ys m')) :
    Gives (k + 1) w (.ask (.stmt (.augAssign sp target .sub e))) fun _ w' =>
      ∃ u, w'.scopeNames.get? x = some u ∧ w.MadePlain u w' := by
  have operand {w w' : World} {t : Expr} {v : Value} (ran : run k (.expr t) w = .ok v w') :
      Gives k w (.ask (.expr t)) fun u w'' => (u = v ∧ w'' = w') ∧ w.Lasts w'' ∧ w.Framed w'' := by
    refine .and (fun u w'' ran' => ?_) ((gives_lasts _).and (gives_framed k _ _))
    rw [exec, ran] at ran'
    cases ran'
    exact ⟨rfl, rfl⟩
  have node : Gives k w (execStmt .ask (.augAssign sp target .sub e)) fun _ w' =>
      ∃ u, w'.scopeNames.get? x = some u ∧ w.MadePlain u w' := by
    refine gives_execStmt full (.bind (operand left) ?_)
    rintro _ _ ⟨⟨rfl, rfl⟩, lasts₁, framed₁⟩
    refine .bind (operand right) ?_
    rintro _ _ ⟨⟨rfl, rfl⟩, lasts₂, framed₂⟩
    refine .bind ((gives_difference set other).and (gives_framed k _ _)) ?_
    rintro u w₃ ⟨made, framed₃⟩
    refine .bind (gives_assignTarget name u) ?_
    rintro - _ rfl
    have lasts : w.Lasts _ := ⟨lasts₁.limits, lasts₁.cells⟩
    refine gives_pure ⟨u, ?_, (made.earlier (lasts.trans lasts₂)).lasts (.of_heap rfl rfl)⟩
    rw [get?_bindName (((framed₁.trans framed₂).trans framed₃).valid valid), if_pos rfl]
  intro u w' ran
  exact node u w' ran

end

/-! ## 6. All programs -/

/-- What the forms of binding bind, in a world with tasks nested so deep. -/
structure BindingForms (n : Nat) (w : World) : Prop where
  /-- The subject of a `match`, an argument, a default: what an expression gives is never plain. -/
  value : ∀ e, Gives n w (.ask (.expr e)) fun v w' => ¬ w'.Plain v
  /-- `x = e`: never plain. -/
  assigned : ∀ sp (targets : List Expr) e remark, (∀ t ∈ targets, (boundName? t).isSome = true) →
    Gives n w (.ask (.stmt (.assign sp targets e remark))) fun _ w' =>
      ∃ v, ¬ w'.Plain v ∧ ∀ t ∈ targets, ∀ x, boundName? t = some x → w'.scopeNames.get? x = some v
  /-- `(x := e)`: never plain. -/
  named : ∀ sp target x e, boundName? target = some x → Gives n w (.ask (.expr (.namedExpr sp target e))) fun _ w' =>
      ∃ v, ¬ w'.Plain v ∧ w'.scopeNames.get? x = some v
  /-- Several targets for one value: a starred one gets a plain list, and every other an item as it is. -/
  shared : ∀ sp targets v, Gives n w (shareOut .ask sp targets v) fun shares w' => ∀ p ∈ shares,
    (isStarred p.1 = true → w.MadePlain p.2 w') ∧
    (isStarred p.1 = false → ∃ vs w₁, (unpackValues .ask sp v).exec (run n) w = .ok vs w₁ ∧ p.2 ∈ vs)
  /-- `x, *y = e`: the starred name is always plain. -/
  starred : ∀ sp tsp (targets : List Expr) (xs : List String) use e remark,
    targets.map boundName? = xs.map some → xs.Nodup →
    Gives n w (.ask (.stmt (.assign sp [.tuple tsp targets use] e remark))) fun _ w' =>
      ∀ t ∈ targets, isStarred t = true → ∀ x, boundName? t = some x →
        ∃ u, w'.scopeNames.get? x = some u ∧ w.MadePlain u w'
  /-- `for x in e`: the item as it is. -/
  looped : ∀ sp tsp x use body orelse c c' v w₁ m, run n (.next c) w = .ok (some (v, c')) w₁ →
    w₁.loops + 1 ≤ w₁.limits.maxLoops → w₁.builtins.has x = false →
    ∃ rest, (forRounds .ask sp (.name tsp x use) body orelse c (m + 1)).exec (run n) w =
      (Eval.bind (.ask (.body body)) rest).exec (run n) (w₁.countRound.bindName x v)
  /-- `case x`: the subject, or a part of it, as it is. -/
  captured : ∀ sp x v m, (matchPattern .ask (m + 1) v (.bind sp none (some x))).exec (run n) w =
    .ok (some [(x, v)]) w.countNode
  /-- `case {…, **x}`: always plain. -/
  rest : ∀ m v sp keys items x, Gives n w (matchPattern .ask m v (.mapping sp keys items (some x))) fun found w' =>
      ∀ ns, found = some ns → ∃ u, ns.get? x = some u ∧ w.MadePlain u w'
  /-- `def f(x)`: the argument as it is, by its place or by its name. -/
  placed : w.callers ≠ [] → ∀ label (posOnly ordinary kwOnly : List Param) kwDefaults defaults named
    (value : String → Value) m, ((posOnly ++ ordinary ++ kwOnly).map Param.name).Nodup →
    posOnly.length ≤ m → m ≤ posOnly.length + ordinary.length → kwDefaults.length = kwOnly.length →
    (∀ p ∈ (posOnly ++ ordinary ++ kwOnly).drop m, named.get? p.name = some (value p.name)) →
    Gives n w (bindArguments .ask label (plainParams posOnly ordinary kwOnly kwDefaults defaults)
      (((posOnly ++ ordinary).take m).map fun p => value p.name) named) fun _ w' => w'.heap = w.heap ∧
        ∀ p ∈ posOnly ++ ordinary ++ kwOnly, w'.scopeNames.get? p.name = some (value p.name)
  /-- `def f(**x)`: always plain. -/
  gathered : w.callers ≠ [] → ∀ label posOnly ordinary vararg kwOnly kwDefaults (p : Param) defaults args named,
    Gives n w (bindArguments .ask label
      (.mk posOnly ordinary vararg kwOnly kwDefaults (some p) defaults) args named) fun _ w' =>
        ∃ u, w'.scopeNames.get? p.name = some u ∧ w.MadePlain u w'
  /-- `x -= e`: of two sets, always plain. -/
  lessened : ∀ sp target e x a b w₁ w₂ g g' xs ys m m', boundName? target = some x →
    run n (.expr target) w.countNode = .ok (.ref a) w₁ → run n (.expr e) w₁ = .ok (.ref b) w₂ →
    w₂.heap[a]? = some (.set g xs m) → w₂.heap[b]? = some (.set g' ys m') →
    Gives (n + 1) w (.ask (.stmt (.augAssign sp target .sub e))) fun _ w' =>
      ∃ u, w'.scopeNames.get? x = some u ∧ w.MadePlain u w'

theorem bindingForms (full : w.simple = false) (valid : w.scope < w.scopes.size) (n : Nat) : BindingForms n w where
  value := gives_notPlain full
  assigned := gives_assigned full valid
  named := gives_named full valid
  shared := gives_shares
  starred := gives_starred full valid
  looped := exec_forRounds
  captured _ _ _ _ := rfl
  rest := gives_rest
  placed := gives_bindArguments valid
  gathered := gives_gathered valid
  lessened sp _ _ _ _ _ _ _ _ _ _ _ _ _ := gives_lessened full valid sp

/-- **Names share their objects, unless these are plain.**  A name that is read at two points while it is
    bound to one object gives that object both times, with all that was done to it; of a plain container
    every reading makes a copy.  Which of the two a name is bound to is up to the form of the binding. -/
theorem names_share_unless_plain (p : Program) (w : World) (full : w.simple = false)
    (valid : w.scope < w.scopes.size) :
    (∀ x before v between v' after a c,
      p.history w = before ++ .read x v :: (between ++ .read x v' :: after) →
      Denotes v x a c → v'.lookup x = some (.ref a) →
      ∃ c', Denotes v' x a c' ∧ c'.isPlain = c.isPlain ∧ ∀ n sp use,
        (c.isPlain = false →
          (reading sp x use).exec (run n) v = .ok (.ref a) v ∧
          (reading sp x use).exec (run n) v' = .ok (.ref a) v') ∧
        (c.isPlain = true →
          (reading sp x use).exec (run n) v' =
            (measuring v'.heap.size).exec (run n) { v' with heap := v'.heap.push c'.copy }) ∧
        ∀ u w₁, (reading sp x use).exec (run n) v = .ok u w₁ → ∃ b, u = .ref b ∧ ∀ what : Alteration,
          (c.isPlain = false → ((Change.alter b what).apply w₁).heap[a]? = some (what.apply c)) ∧
          (c.isPlain = true → ((Change.alter b what).apply w₁).heap[a]? = w₁.heap[a]?)) ∧
    ∀ n, BindingForms n w := by
  refine ⟨?_, bindingForms full valid⟩
  intro x before v between v' after a c told denotes bound
  obtain ⟨text, n, m, moves⟩ := p.moves w
  have lasts : v.Lasts v' := by
    refine (told ▸ moves.along Moves.lasts World.Lasts.trans fun enters => ?_).between
    cases enters <;> exact ⟨.of_heap rfl rfl, fun _ => .of_heap rfl rfl⟩
  obtain ⟨c', found, became⟩ := lasts.cells a c denotes.cell
  have later : Denotes v' x a c' := ⟨bound, found⟩
  refine ⟨c', later, became.isPlain_eq, fun n sp use => ⟨fun shared => ?_, fun plain => ?_, ?_⟩⟩
  · exact ⟨denotes.exec_of_not_plain shared _ sp use,
      later.exec_of_not_plain (became.isPlain_eq.trans shared) _ sp use⟩
  · exact later.exec_of_plain (became.isPlain_eq.trans plain) _ sp use
  · exact fun u w₁ ran => denotes.altered ran

def endsWell {α : Type} : Outcome α → Bool
  | .ok _ _ => true
  | .error _ _ => false

theorem exists_of_endsWell {r : Outcome α} (ends : endsWell r = true) : ∃ v w, r = .ok v w := by
  cases r with
  | ok v w => exact ⟨v, w, rfl⟩
  | error => cases ends

/-- `a, *b = [1, 2, 3]` ends well, with `b` bound to a plain list. -/
theorem names_share_unless_plain_starred :
    let sp : Span := ⟨1, 0, 1, 0⟩
    let number (n : Int) : Expr := .constant sp (.int n)
    let targets : List Expr := [.name sp "a" .store, .starred sp (.name sp "b" .store) .store]
    let s : Stmt := .assign sp [.tuple sp targets .store] (.list sp [number 1, number 2, number 3] .load) none
    let w : World := {}
    w.simple = false ∧ w.scope < w.scopes.size ∧
      ∃ flow w' u, run 10 (.stmt s) w = .ok flow w' ∧ w'.scopeNames.get? "b" = some u ∧ w'.Plain u := by
  intro sp number targets s w
  have valid : w.scope < w.scopes.size := by decide
  have forms := (names_share_unless_plain (.execute "") w rfl valid).2 10
  have ends : endsWell (run 10 (.stmt s) w) = true := by decide +kernel
  obtain ⟨flow, w', ran⟩ := exists_of_endsWell ends
  have starred := forms.starred sp sp targets ["a", "b"] .store _ none rfl (by decide) flow w'
    (by rw [Eval.exec]; exact ran) _ (List.mem_cons_of_mem _ List.mem_cons_self) rfl "b" rfl
  obtain ⟨u, bound, made⟩ := starred
  exact ⟨rfl, valid, flow, w', u, ran, bound, made.plain⟩

/-- After `a, *b = [1, 2, 3]` and `b.append(4)`, a script reads `[2, 3]` for `b`. -/
theorem append_to_starred_name_lost :
    let sp : Span := ⟨1, 0, 1, 0⟩
    let number (n : Int) : Expr := .constant sp (.int n)
    let targets : List Expr := [.name sp "a" .store, .starred sp (.name sp "b" .store) .store]
    let append : Expr := .attribute sp (.name sp "b" .load) "append" .load
    (match run 20 (.body
        [.assign sp [.tuple sp targets .store] (.list sp [number 1, number 2, number 3] .load) none,
          .expr sp (.call sp append [number 4] []),
          .ret sp (some (.name sp "b" .load))]) {} with
      | .ok (.ret v _) w => wholeNumbers? w v
      | _ => none) = some [2, 3] := by
  decide +kernel

end AliasTools.Script
