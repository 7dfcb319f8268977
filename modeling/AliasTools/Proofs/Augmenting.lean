import AliasTools.Proofs.SharedObjects

/-!
# Assignments that work on what is there

`c[i] += e` has the parts `c` and `i` evaluated twice, once to read the item and once more to store the sum.
-/

namespace AliasTools.Script

open Syntax

variable {k n : Nat} {w w' w₁ : World} {v : Value} {e container index value : Expr} {op : BinOp}

theorem Moves.simple_eq (moves : Moves w h w') : w'.simple = w.simple := by
  induction moves with
  | append _ _ first second => exact second.trans first
  | within enters _ inner => cases enters <;> exact inner
  | _ => rfl

/-- The cells last, and the mode is the same. -/
structure World.Continues (w w' : World) : Prop where
  lasts : w.Lasts w'
  mode : w'.simple = w.simple

theorem World.Continues.trans (first : w.Continues w₁) (second : w₁.Continues w') : w.Continues w' :=
  ⟨first.lasts.trans second.lasts, second.mode.trans first.mode⟩

theorem gives_continues {α : Type} (x : Eval α) : Gives k w x fun _ w' => w.Continues w' := by
  intro v w' ran
  have runs := x.runs_log k w
  rw [ran] at runs
  exact ⟨runs.moves.lasts, runs.moves.simple_eq⟩

/-- A value that is given as it is, and not as a copy. -/
def World.Shares (w : World) (v : Value) : Prop := ∀ a, v = .ref a → ∃ c, w.heap[a]? = some c ∧ c.isPlain = false

theorem World.Shares.not_plain (shares : w.Shares v) : ¬ w.Plain v := by
  rintro ⟨a, c, rfl, found, plain⟩
  obtain ⟨d, found', guarded⟩ := shares a rfl
  cases found.symm.trans found'
  rw [plain] at guarded
  cases guarded

theorem World.Shares.lasts (shares : w.Shares v) (lasts : w.Lasts w') : w'.Shares v := by
  intro a same
  obtain ⟨c, found, guarded⟩ := shares a same
  obtain ⟨c', found', became⟩ := lasts.cells a c found
  exact ⟨c', found', became.isPlain_eq.trans guarded⟩

/-- What a name or a constant stands for. -/
inductive Stands (w : World) : Expr → Value → Prop where
  | name (sp : Span) (use : NameUse) {x : String} {u : Value} (bound : w.lookup x = some u) (shares : w.Shares u) :
    Stands w (.name sp x use) u.guarded
  | constant (sp : Span) (l : Literal) : Stands w (.constant sp l) (literalValue l).guarded

theorem Stands.lasts (stands : Stands w e v) (lasts : w.Lasts w') (names : ∀ x, w'.lookup x = w.lookup x) :
    Stands w' e v := by
  cases stands with
  | name sp use bound shares => exact .name sp use ((names _).trans bound) (shares.lasts lasts)
  | constant sp l => exact .constant sp l

theorem Stands.counted (stands : Stands w e v) : Stands w.countNode e v := stands.lasts (.of_heap rfl rfl) fun _ => rfl

theorem gives_evalLiteral (sp : Span) (l : Literal) :
    Gives k w (evalLiteral sp l) fun v w' => v = literalValue l ∧ w' = w := by
  refine .reading ?_
  have last : Gives k w (.pure (literalValue l)) fun v w' => v = literalValue l ∧ w' = w := gives_pure ⟨rfl, rfl⟩
  have short {large : Prop} [Decidable large] {message : String} :
      Gives k w (if large then failAt .iterableTooLong message sp else .pure ()) fun _ w' => w' = w := by
    split
    · exact (gives_raise _).wrapped _
    · exact gives_pure rfl
  cases l with
  | str s => exact short.still fun _ => last
  | bytes bs => exact short.still fun _ => gives_failAt_bind
  | _ => exact .pure_bind last

theorem gives_guardValue_of_shares (shares : w.Shares u) :
    Gives k w (guardValue .ask u) fun v w' => v = u.guarded ∧ w' = w := by
  intro v w' ran
  rw [exec_guardValue_of_not_plain _ shares.not_plain] at ran
  cases ran
  exact ⟨rfl, rfl⟩

/-- What stands for a value has it, whenever it is evaluated. -/
theorem Stands.found (stands : Stands w e v) (full : w.simple = false) :
    Gives k w (.ask (.expr e)) fun u w' => u = v ∧ w' = w.countNode := by
  refine gives_expr full fun k => ?_
  cases stands with
  | name sp use bound shares =>
    intro u w₁ ran
    rw [exec_name, show w.countNode.lookup _ = some _ from bound] at ran
    cases ran
    exact gives_guardValue_of_shares shares
  | constant sp l =>
    rintro u w₁ ran
    obtain ⟨rfl, rfl⟩ := gives_evalLiteral sp l u w₁ ran
    exact gives_guardValue_of_shares fun a same => by cases l <;> cases same

/-- A container and an index, evaluated one after the other. -/
def FindsPlace (n : Nat) (w : World) (container index : Expr) (place : Value × Value) (w' : World) : Prop :=
  ∃ w₁, run n (.expr container) w = .ok place.1 w₁ ∧ run n (.expr index) w₁ = .ok place.2 w'

theorem Stands.place {place : Value × Value} (finds : FindsPlace n w container index place w')
    (full : w.simple = false) (first : Stands w container c) (second : Stands w index i) : place = (c, i) := by
  obtain ⟨w₁, ran, ran'⟩ := finds
  obtain ⟨same, rfl⟩ := first.found full _ w₁ ran
  exact Prod.ext same (second.counted.found full _ w' ran').1

theorem gives_place {α : Type} {f : Value → Value → Eval α} {p : α → World → Prop}
    (rest : ∀ place w', FindsPlace n w container index place w' → Gives n w' (f place.1 place.2) p) :
    Gives n w (.bind (.ask (.expr container)) fun c => .bind (.ask (.expr index)) fun i => f c i) p :=
  .bind (fun _ _ ran => ran) fun c w₁ (ran : run n _ _ = _) =>
    .bind (fun _ _ ran => ran) fun i w' (ran' : run n _ _ = _) => rest (c, i) w' ⟨w₁, ran, ran'⟩

/-- The result of an operator, between what was there and the value of an expression. -/
def Combines (n : Nat) (w : World) (there : Value) (op : BinOp) (value : Expr) (result : Value) (w' : World) : Prop :=
  ∃ v w₁, run n (.expr value) w = .ok v w₁ ∧ (binaryOp .ask op there v).exec (run n) w₁ = .ok result w'

theorem gives_augmented {p : World → Prop} (reads : Gives n w (.ask (.expr target)) there)
    (stores : ∀ a w₁ r w₂, there a w₁ → Combines n w₁ a op value r w₂ → w.Continues w₂ →
      Gives n w₂ (assign .ask r target) fun _ w' => p w') :
    Gives n w (execNode .ask (.augAssign sp target op value)) fun _ w' => p w' := by
  unfold execNode
  refine gives_unless fun _ => (reads.and (gives_continues _)).bind fun a w₁ ⟨found, on⟩ => ?_
  have valued : Gives n w₁ (.ask (.expr value)) fun b w₃ => run n (.expr value) w₁ = .ok b w₃ ∧ w₁.Continues w₃ :=
    fun b w₃ ran => ⟨ran, gives_continues _ b w₃ ran⟩
  refine valued.bind fun b w₃ ⟨ran, on'⟩ => ?_
  have combined : Gives n w₃ (binaryOp .ask op a b) fun r w₂ => Combines n w₁ a op value r w₂ ∧ w₃.Continues w₂ :=
    fun r w₂ ran' => ⟨⟨b, w₃, ran, ran'⟩, gives_continues _ r w₂ ran'⟩
  refine combined.bind fun r w₂ ⟨combines, on''⟩ => ?_
  exact (stores a w₁ r w₂ found combines ((on.trans on').trans on'')).returning _

theorem gives_subscript (full : w.simple = false) (sp : Span) (use : NameUse) :
    Gives k w (.ask (.expr (.subscript sp container index use))) fun a w₃ => ∃ n place u w₁ w₂, k = n + 1 ∧
      FindsPlace n w.countNode container index place w₁ ∧ run n (.item place.1 place.2) w₁ = .ok u w₂ ∧
        Seen n u w₂ a w₃ := by
  intro a w₃ (ran : run k _ _ = _)
  cases k with
  | zero => cases ran
  | succ n =>
    rw [run_expr_full full] at ran
    split at ran
    · have node : Gives n w.countNode (evalNode .ask (.subscript sp container index use)) fun u w₂ => ∃ place w₁,
          FindsPlace n w.countNode container index place w₁ ∧ run n (.item place.1 place.2) w₁ = .ok u w₂ :=
        gives_place fun place w₁ finds u w₂ item => ⟨place, w₁, finds, item⟩
      have seen : Gives n w.countNode (.bind (tiedTo sp (evalNode .ask (.subscript sp container index use)))
          (guardValue .ask)) fun a w₃ => ∃ place u w₁ w₂, FindsPlace n w.countNode container index place w₁ ∧
            run n (.item place.1 place.2) w₁ = .ok u w₂ ∧ Seen n u w₂ a w₃ :=
        (node.wrapped _).bind fun u w₂ ⟨place, w₁, finds, item⟩ a w₃ seen => ⟨place, u, w₁, w₂, finds, item, seen⟩
      obtain ⟨place, u, w₁, w₂, found⟩ := seen a w₃ ran
      exact ⟨n, place, u, w₁, w₂, rfl, found⟩
    · cases ran

/-- **`container[index] op= value` looks for its place twice**, before the value is worked out and after the operator
    was; a name is read once, and bound.  The two places are the same where the parts are names or constants, and
    all names are bound as they were. -/
theorem augmented_place_is_found_twice (full : w.simple = false) (k : Nat) (sp tsp : Span) (op : BinOp) (value : Expr)
    (use : NameUse) :
    (∀ x, Gives k w (.ask (.stmt (.augAssign sp (.name tsp x use) op value))) fun _ w' =>
      ∃ n a w₁ r before, run n (.expr (.name tsp x use)) w.countNode = .ok a w₁ ∧
        Combines n w₁ a op value r before ∧ w' = before.bindName x r) ∧
    ∀ container index, Gives k w (.ask (.stmt (.augAssign sp (.subscript tsp container index use) op value)))
      fun _ w' => ∃ n place u a r before place' w₁ w₂ w₃ w₄,
        (FindsPlace n w.countNode.countNode container index place w₁ ∧ run n (.item place.1 place.2) w₁ = .ok u w₂ ∧
          Seen n u w₂ a w₃) ∧
        Combines (n + 1) w₃ a op value r before ∧
        (FindsPlace (n + 1) before container index place' w₄ ∧
          run (n + 1) (.setItem place'.1 place'.2 r) w₄ = .ok () w') ∧
        ∀ c i, Stands w container c → Stands w index i → (∀ x, before.lookup x = w.lookup x) →
          place = (c, i) ∧ place' = (c, i) := by
  refine ⟨fun x => ?_, fun container index => ?_⟩
  · refine gives_stmt full fun n => ?_
    have reads : Gives n w.countNode (.ask (.expr (.name tsp x use))) fun a w₁ =>
        run n (.expr (.name tsp x use)) w.countNode = .ok a w₁ := fun _ _ ran => ran
    refine gives_augmented reads fun a w₁ r before reads combines _ _ w' ran => ?_
    exact ⟨n, a, w₁, r, before, reads, combines, gives_assignTarget rfl r _ w' ran⟩
  · refine gives_stmt full fun n => ?_
    refine gives_augmented (gives_subscript (w := w.countNode) full tsp use) ?_
    rintro a w₃ r before ⟨n, place, u, w₁, w₂, rfl, finds, item, seen⟩ combines on
    refine gives_place fun place' w₄ finds' _ w' stores => ?_
    refine ⟨n, place, u, a, r, before, place', w₁, w₂, w₃, w₄, ⟨finds, item, seen⟩, combines, ⟨finds', stores⟩, ?_⟩
    intro c i first second names
    have lasts : w.Lasts before := ⟨on.lasts.limits, on.lasts.cells⟩
    exact ⟨first.counted.counted.place finds full second.counted.counted,
      (first.lasts lasts names).place finds' (on.mode.trans full) (second.lasts lasts names)⟩

/-- `l[0] += 1`, where `l` is bound to a list that a script has made. -/
theorem augmented_place_is_found_twice_name :
    let sp : Span := ⟨1, 0, 1, 0⟩
    let l : Expr := .name sp "l" .load
    let zero : Expr := .constant sp (.int 0)
    let w : World := { heap := #[.list true #[.int 1, .int 5] (some 2)], scopes := #[[("l", .ref 0)]] }
    w.simple = false ∧ ∃ flow w' n before place w₁ r,
      run 10 (.stmt (.augAssign sp (.subscript sp l zero .store) .add (.constant sp (.int 1)))) w = .ok flow w' ∧
      run n (.setItem place.1 place.2 r) w₁ = .ok () w' ∧
      ((∀ x, World.lookup before x = w.lookup x) → place = (.ref 0, .int 0)) := by
  intro sp l zero w
  have ends : endsWell (run 10 (.stmt (.augAssign sp (.subscript sp l zero .store) .add (.constant sp (.int 1)))) w) =
      true := by decide +kernel
  obtain ⟨flow, w', ran⟩ := exists_of_endsWell ends
  obtain ⟨n, _, _, _, r, before, place, _, _, _, w₄, -, -, ⟨-, stores⟩, same⟩ :=
    (augmented_place_is_found_twice (w := w) rfl 10 sp sp .add (.constant sp (.int 1)) .store).2 l zero flow w' ran
  have list : Stands w l (.ref 0) :=
    .name sp .load (u := .ref 0) rfl fun a here => by cases here; exact ⟨_, rfl, rfl⟩
  exact ⟨rfl, flow, w', n + 1, before, place, w₄, r, ran, stores, fun names =>
    (same _ _ list (.constant sp (.int 0)) names).2⟩

/-- With `l = [1, 5]` and `q = [1, 0]`, `l[q.pop()] += 100` takes both numbers from `q`: it reads the first item of `l`
    and stores the sum as its second. -/
theorem sum_stored_elsewhere :
    let sp : Span := ⟨1, 0, 1, 0⟩
    let number (n : Int) : Expr := .constant sp (.int n)
    let make (x : String) (m n : Int) : Stmt := .assign sp [.name sp x .store] (.list sp [number m, number n] .load) none
    let pop : Expr := .call sp (.attribute sp (.name sp "q" .load) "pop" .load) [] []
    let after : Outcome Flow := run 20 (.body [make "l" 1 5, make "q" 1 0,
      .augAssign sp (.subscript sp (.name sp "l" .load) pop .store) .add (number 100)]) {}
    ["l", "q"].map (fun x => ((worldOf after).lookup x).bind (wholeNumbers? (worldOf after))) =
      [some [1, 101], some []] := by
  decide +kernel

end AliasTools.Script
