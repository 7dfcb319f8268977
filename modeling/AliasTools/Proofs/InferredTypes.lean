import AliasTools.Types.Infer

/-!
# The types of names

The two branches of an `if` start from one table, and what they leave is merged name by name.  The tables
of definitions are kept in the order in which the definitions end, the last in front.  So a definition
stands behind the one that it is in.
-/

namespace AliasTools.Types

open Syntax List

/-! ## 1. Tables -/

variable {s : Inference} {t base left right : TypeTable} {x : String}

namespace TypeTable

/-- No name stands twice in a table. -/
def Distinct (t : TypeTable) : Prop := (t.map Prod.fst).Nodup

theorem lookup_put (t : TypeTable) (name type x : String) :
    (t.put name type).lookup x = if x = name then some type else t.lookup x := by
  induction t with
  | nil => grind [put]
  | cons p t ih => grind [put]

theorem mem_put (t : TypeTable) (name type n : String) :
    n ∈ (t.put name type).map Prod.fst ↔ n = name ∨ n ∈ t.map Prod.fst := by
  induction t with
  | nil => simp [put]
  | cons p t ih => grind [put]

theorem Distinct.put (distinct : t.Distinct) (name type : String) : (t.put name type).Distinct := by
  induction t with
  | nil => exact nodup_cons.2 ⟨not_mem_nil, nodup_nil⟩
  | cons p t ih => grind [Distinct, TypeTable.put, mem_put]

theorem Distinct.update (distinct : t.Distinct) (more : TypeTable) : (t.update more).Distinct :=
  foldlRecOn _ _ distinct fun _ distinct p _ => distinct.put p.1 p.2

theorem lookup_update (t : TypeTable) {more : TypeTable} (distinct : more.Distinct) (x : String) :
    (t.update more).lookup x = (more.lookup x <|> t.lookup x) := by
  induction more generalizing t with
  | nil => rfl
  | cons p more ih =>
    obtain ⟨new, distinct⟩ := nodup_cons.1 distinct
    rw [update, foldl_cons, ← update, ih _ distinct, lookup_put]
    grind

end TypeTable

/-- What is put under a name behind two branches. -/
def mergedType (base left right : TypeTable) (name : String) : Option String :=
  match left.lookup name, right.lookup name with
  | some l, some r => if l == r then some l else base.lookup name
  | some l, none => base.lookup name <|> some l
  | none, some r => base.lookup name <|> some r
  | none, none => none

def putMerged (base left right merged : TypeTable) (name : String) : TypeTable :=
  match mergedType base left right name with
  | some type => merged.put name type
  | none => merged

theorem mergeBranches_eq (base left right : TypeTable) :
    mergeBranches base left right = ((left ++ right).map (·.1)).foldl (putMerged base left right) base := rfl

theorem lookup_foldl_putMerged (merged : TypeTable) (names : List String) (x : String) :
    (names.foldl (putMerged base left right) merged).lookup x =
      if x ∈ names then (mergedType base left right x <|> merged.lookup x) else merged.lookup x := by
  induction names generalizing merged with
  | nil => rfl
  | cons name names ih =>
    rw [foldl_cons, ih, putMerged]
    cases found : mergedType base left right name <;> grind [TypeTable.lookup_put]

theorem lookup_mergeBranches (base left right : TypeTable) (x : String) :
    (mergeBranches base left right).lookup x = (mergedType base left right x <|> base.lookup x) := by
  rw [mergeBranches_eq, lookup_foldl_putMerged]
  split
  · rfl
  · have none : mergedType base left right x = none := by grind [mergedType]
    rw [none]
    rfl

theorem distinct_mergeBranches (distinct : base.Distinct) (left right : TypeTable) :
    (mergeBranches base left right).Distinct := by
  rw [mergeBranches_eq]
  refine foldlRecOn _ _ distinct fun merged distinct name _ => ?_
  unfold putMerged
  split
  · exact distinct.put _ _
  · exact distinct

/-! ## 2. What binding a name keeps -/

/-- What holds of an inference, and still holds when a name is given a type. -/
def KeptByPut (P : Inference → Prop) : Prop := ∀ s name type, P s → P (s.put name type)

variable {P : Inference → Prop}

theorem keep_putKeys (put : KeptByPut P) (holds : P s) (name : String) (ks : List (Option Expr)) (vs : List Expr) :
    P (s.putKeys name ks vs) := by
  fun_induction s.putKeys name ks vs with
  | case1 s k ks v vs s' ih =>
    refine ih ?_
    unfold s'
    split
    · exact holds
    · exact put _ _ _ (put _ _ _ holds)
  | case2 => exact holds

mutual

theorem keep_bindTarget (put : KeptByPut P) (s : Inference) (guess : Guess) (source : Option Expr) (t : Expr)
    (holds : P s) : P (bindTarget s guess source t) := by
  cases t with
  | name _ id _ =>
    have bound : P ((s.put id guess.1).put (elementKey id) guess.2) := put _ _ _ (put _ _ _ holds)
    unfold bindTarget
    dsimp only
    split
    · exact keep_putKeys put bound _ _ _
    · exact bound
  | tuple _ ts _ | list _ ts _ =>
    unfold bindTarget
    split
    · split
      · exact keep_bindEach put s _ ts holds
      · exact keep_bindSame put s guess source ts holds
    · exact keep_bindSame put s guess source ts holds
  | _ => exact holds

theorem keep_bindEach (put : KeptByPut P) (s : Inference) (vs ts : List Expr) (holds : P s) :
    P (bindEach s vs ts) := by
  cases ts with
  | nil => cases vs <;> exact holds
  | cons t ts =>
    cases vs with
    | nil => exact holds
    | cons v vs => exact keep_bindEach put _ vs ts (keep_bindTarget put s _ _ t holds)

theorem keep_bindSame (put : KeptByPut P) (s : Inference) (guess : Guess) (source : Option Expr) (ts : List Expr)
    (holds : P s) : P (bindSame s guess source ts) := by
  cases ts with
  | nil => exact holds
  | cons t ts => exact keep_bindSame put _ guess source ts (keep_bindTarget put s guess source t holds)

end

theorem keep_bindParams (put : KeptByPut P) (ps : Params) (holds : P s) : P (bindParams s ps) := by
  cases ps
  refine foldlRecOn _ _ holds fun s holds p _ => ?_
  cases p
  exact put _ _ _ (put _ _ _ holds)

/-- The types of the scope that a statement stands in. -/
def Inference.top (s : Inference) : TypeTable := s.scopes.headD []

/-- No name stands twice in a table of a scope. -/
def Inference.Distinct (s : Inference) : Prop := ∀ t ∈ s.scopes, t.Distinct

namespace Inference

theorem Distinct.top (distinct : s.Distinct) : s.top.Distinct := by
  obtain ⟨_ | ⟨t, scopes⟩, closed⟩ := s
  · exact nodup_nil
  · exact distinct t mem_cons_self

theorem distinct_one (distinct : t.Distinct) (closed) : Distinct ⟨[t], closed⟩ := forall_mem_singleton.2 distinct

theorem Distinct.push (distinct : s.Distinct) : Distinct { s with scopes := [] :: s.scopes } :=
  forall_mem_cons.2 ⟨nodup_nil, distinct⟩

theorem Distinct.leave (distinct : s.Distinct) (sp : Span) : (s.leave sp).Distinct :=
  fun t mem => distinct t (mem_of_mem_tail mem)

theorem distinct_put : KeptByPut Distinct := by
  intro s name type distinct
  unfold Inference.put
  split
  · next scopes =>
    rw [Distinct, scopes, forall_mem_cons] at distinct
    exact forall_mem_cons.2 ⟨distinct.1.put _ _, distinct.2⟩
  · exact distinct

end Inference

open Inference

mutual

/-- **No statement lets a name stand twice in a table.** -/
theorem distinct_inferStmt {s : Inference} (distinct : s.Distinct) : ∀ x : Stmt, (inferStmt s x).Distinct
  | .functionDef _ _ ps b _ _ _ _ =>
    (distinct_inferAll (keep_bindParams distinct_put ps distinct.push) b).leave _
  | .classDef _ _ _ _ b _ => (distinct_inferAll distinct.push b).leave _
  | .forLoop _ t _ b o _ _ =>
    distinct_inferAll (distinct_inferAll (keep_bindTarget distinct_put s _ _ t distinct) b) o
  | .whileLoop _ _ b o => distinct_inferAll (distinct_inferAll distinct b) o
  | .ifElse .. => forall_mem_cons.2 ⟨distinct.top.update _, fun t mem => distinct t (mem_of_mem_tail mem)⟩
  | .withBlock _ _ b _ _ => distinct_inferAll distinct b
  | .matchOn _ _ cs => distinct_inferCases distinct cs
  | .tryExcept _ b hs o f _ =>
    distinct_inferAll (distinct_inferAll (distinct_inferHandlers (distinct_inferAll distinct b) hs) o) f
  | .assign _ _ _ _ => foldlRecOn _ _ distinct fun _ kept t _ => keep_bindTarget distinct_put _ _ _ t kept
  | .annAssign _ t .. | .augAssign _ t .. => keep_bindTarget distinct_put s _ _ t distinct
  | .ret .. | .delete .. | .raise .. | .assert .. | .importNames .. | .importFrom .. | .global ..
  | .nonlocal .. | .expr .. | .pass .. | .break .. | .continue .. => distinct

theorem distinct_inferAll {s : Inference} (distinct : s.Distinct) : ∀ xs : List Stmt, (inferAll s xs).Distinct
  | [] => distinct
  | x :: xs => distinct_inferAll (distinct_inferStmt distinct x) xs

theorem distinct_inferCases {s : Inference} (distinct : s.Distinct) :
    ∀ cs : List MatchCase, (inferCases s cs).Distinct
  | [] => distinct
  | .mk _ _ b :: cs => distinct_inferCases (distinct_inferAll distinct b) cs

theorem distinct_inferHandlers {s : Inference} (distinct : s.Distinct) :
    ∀ hs : List Handler, (inferHandlers s hs).Distinct
  | [] => distinct
  | .mk _ _ _ b :: hs => distinct_inferHandlers (distinct_inferAll distinct b) hs

end

theorem distinct_of_script (body : List Stmt) : (inferAll {} body).top.Distinct :=
  (distinct_inferAll (distinct_one (t := []) nodup_nil []) body).top

/-! ## 3. Behind branches -/

/-- **The type of a name behind an `if`**: that of both branches if they agree, or else the one it had before,
    or else that of the branch that has one.  So it is the type of a branch unless the branches leave the name
    with types of their own.  The tables in and behind the branches hold each name once, as the one before
    does. -/
theorem types_behind_if (distinct : s.top.Distinct) (sp : Span) (test : Expr) (b o : List Stmt) (x : String) :
    let left := inferAll ⟨[s.top], s.closed⟩ b
    let right := inferAll ⟨[s.top], left.closed⟩ o
    let after := (inferStmt s (.ifElse sp test b o)).top.lookup x
    after = (mergedType s.top left.top right.top x <|> s.top.lookup x) ∧
    ((∀ t, after = some t → left.top.lookup x = some t ∨ right.top.lookup x = some t) ↔
      left.top.lookup x = right.top.lookup x ∧ left.top.lookup x ≠ none ∨
      ∀ t, s.top.lookup x = some t → left.top.lookup x = some t ∨ right.top.lookup x = some t) ∧
    left.top.Distinct ∧ right.top.Distinct ∧ (inferStmt s (.ifElse sp test b o)).top.Distinct := by
  intro left right after
  have branch (closed) (xs : List Stmt) : (inferAll ⟨[s.top], closed⟩ xs).top.Distinct :=
    (distinct_inferAll (distinct_one distinct closed) xs).top
  have law : after = (mergedType s.top left.top right.top x <|> s.top.lookup x) := by
    have merged := TypeTable.lookup_update s.top (distinct_mergeBranches distinct left.top right.top) x
    rw [lookup_mergeBranches] at merged
    have stated : after = (s.top.update (mergeBranches s.top left.top right.top)).lookup x := by
      rfl
    rw [stated, merged]
    cases s.top.lookup x <;> cases mergedType s.top left.top right.top x <;> rfl
  refine ⟨law, ?_, branch _ b, branch _ o, distinct.update _⟩
  rw [law, mergedType]
  generalize left.top.lookup x = l, right.top.lookup x = r, s.top.lookup x = before
  rcases l with _ | l <;> rcases r with _ | r <;> rcases before with _ | before <;> simp
  by_cases same : l = r <;> simp [same]

theorem types_behind_if_empty_branch :
    let s : Inference := ⟨[[("x", "list")]], []⟩
    let sp : Span := ⟨1, 0, 1, 0⟩
    let b : List Stmt := [.assign sp [.name sp "x" .store] (.dict sp [] []) none]
    s.top.Distinct ∧ (inferStmt s (.ifElse sp (.name sp "a" .load) b [])).top.lookup "x" = some "list" := by
  intro s sp b
  have distinct : s.top.Distinct := distinct_of_script [.assign sp [.name sp "x" .store] (.list sp [] .load) none]
  exact ⟨distinct, (types_behind_if distinct sp _ b [] "x").1.trans (by decide +kernel)⟩

/-- A list becomes a dictionary in one branch and a text in the other, and is said to be a list. -/
theorem type_of_neither_branch :
    inferTypes "x = []\nx = \x7b\x7d" none = [("x", "dict")] ∧
      inferTypes "x = []\nx = 'a'" none = [("x", "str")] ∧
      inferTypes "x = []\nif a:\n    x = \x7b\x7d\nelse:\n    x = 'a'" none = [("x", "list")] := by
  decide +kernel

/-! ## 4. At a line -/

theorem closed_put (s' : Inference) (name : String) (type : Option String) (same : s'.closed = s.closed) :
    (s'.put name type).closed = s.closed := by
  unfold Inference.put
  split <;> exact same

theorem closed_bindTarget (s : Inference) (guess : Guess) (source : Option Expr) (t : Expr) :
    (bindTarget s guess source t).closed = s.closed :=
  keep_bindTarget (P := fun s' => s'.closed = s.closed) closed_put s guess source t rfl

theorem closed_bindParams (s : Inference) (ps : Params) : (bindParams s ps).closed = s.closed :=
  keep_bindParams (P := fun s' => s'.closed = s.closed) closed_put ps rfl

mutual

theorem closed_inferStmt (s : Inference) : ∀ x : Stmt, s.closed <:+ (inferStmt s x).closed
  | .functionDef sp _ ps b _ _ _ _ =>
    .trans ⟨[], (closed_bindParams ⟨[] :: s.scopes, s.closed⟩ ps).symm⟩ ((closed_inferAll _ b).trans (suffix_cons _ _))
  | .classDef sp _ _ _ b _ => (closed_inferAll ⟨[] :: s.scopes, s.closed⟩ b).trans (suffix_cons _ _)
  | .forLoop _ t i b o _ _ => .trans ⟨[], (closed_bindTarget ..).symm⟩ ((closed_inferAll _ b).trans (closed_inferAll _ o))
  | .whileLoop _ _ b o => (closed_inferAll s b).trans (closed_inferAll _ o)
  | .ifElse _ _ b o => (closed_inferAll ⟨[s.top], s.closed⟩ b).trans (closed_inferAll ⟨[s.top], _⟩ o)
  | .withBlock _ _ b _ _ => closed_inferAll s b
  | .matchOn _ _ cs => closed_inferCases s cs
  | .tryExcept _ b hs o f _ =>
    (((closed_inferAll s b).trans (closed_inferHandlers _ hs)).trans (closed_inferAll _ o)).trans (closed_inferAll _ f)
  | .assign _ ts v _ => by
    refine ⟨[], .symm (foldlRecOn (motive := fun s' : Inference => s'.closed = s.closed) _ _ rfl ?_)⟩
    intro _ same t _
    rw [closed_bindTarget, same]
  | .annAssign .. | .augAssign .. => ⟨[], (closed_bindTarget ..).symm⟩
  | .ret .. | .delete .. | .raise .. | .assert .. | .importNames .. | .importFrom .. | .global ..
  | .nonlocal .. | .expr .. | .pass .. | .break .. | .continue .. => suffix_rfl

theorem closed_inferAll (s : Inference) : ∀ xs : List Stmt, s.closed <:+ (inferAll s xs).closed
  | [] => suffix_rfl
  | x :: xs => (closed_inferStmt s x).trans (closed_inferAll _ xs)

theorem closed_inferCases (s : Inference) : ∀ cs : List MatchCase, s.closed <:+ (inferCases s cs).closed
  | [] => suffix_rfl
  | .mk _ _ b :: cs => (closed_inferAll s b).trans (closed_inferCases _ cs)

theorem closed_inferHandlers (s : Inference) : ∀ hs : List Handler, s.closed <:+ (inferHandlers s hs).closed
  | [] => suffix_rfl
  | .mk _ _ _ b :: hs => (closed_inferAll s b).trans (closed_inferHandlers _ hs)

end

/-- Blocks that are gone through one after the other, each with what is known where it starts. -/
def inOrder (s : Inference) : List (List Stmt) → List (Inference × List Stmt)
  | [] => []
  | b :: bs => (s, b) :: inOrder (inferAll s b) bs

def handlerBlock : Handler → List Stmt
  | .mk _ _ _ b => b

def caseBlock : MatchCase → List Stmt
  | .mk _ _ b => b

/-- The blocks of a statement that is no definition, each with what is known where it starts. -/
def blocks (s : Inference) : Stmt → List (Inference × List Stmt)
  | .ifElse _ _ b o => [(⟨[s.top], s.closed⟩, b), (⟨[s.top], (inferAll ⟨[s.top], s.closed⟩ b).closed⟩, o)]
  -- a loop without blocks only binds its target
  | .forLoop sp t i b o r l => inOrder (inferStmt s (.forLoop sp t i [] [] r l)) [b, o]
  | .whileLoop _ _ b o => inOrder s [b, o]
  | .withBlock _ _ b _ _ => inOrder s [b]
  | .matchOn _ _ cs => inOrder s (cs.map caseBlock)
  | .tryExcept _ b hs o f _ => inOrder s (b :: hs.map handlerBlock ++ [o, f])
  | _ => []

/-- A statement that is gone through, in a list of statements or in a block of one of them. -/
inductive Reached : Inference → List Stmt → Inference → Stmt → Prop
  | here {s x xs} : Reached s (x :: xs) s x
  | later {s x xs s' d} : Reached (inferStmt s x) xs s' d → Reached s (x :: xs) s' d
  | inside {s x xs block s' d} : block ∈ blocks s x → Reached block.1 block.2 s' d → Reached s (x :: xs) s' d

theorem inferCases_eq (s : Inference) : ∀ cs, inferCases s cs = (cs.map caseBlock).foldl inferAll s
  | [] => rfl
  | .mk _ _ b :: cs => inferCases_eq (inferAll s b) cs

theorem inferHandlers_eq (s : Inference) : ∀ hs, inferHandlers s hs = (hs.map handlerBlock).foldl inferAll s
  | [] => rfl
  | .mk _ _ _ b :: hs => inferHandlers_eq (inferAll s b) hs

theorem closed_foldl (s : Inference) (bs : List (List Stmt)) : s.closed <:+ (bs.foldl inferAll s).closed := by
  induction bs generalizing s with
  | nil => exact suffix_rfl
  | cons b bs ih => exact (closed_inferAll s b).trans (ih _)

theorem closed_inOrder {s : Inference} {bs : List (List Stmt)} {block : Inference × List Stmt}
    (mem : block ∈ inOrder s bs) : (inferAll block.1 block.2).closed <:+ (bs.foldl inferAll s).closed := by
  fun_induction inOrder s bs with
  | case1 => cases mem
  | case2 s b bs ih =>
    obtain rfl | mem := mem_cons.1 mem
    · exact closed_foldl _ bs
    · exact ih mem

theorem closed_blocks {s : Inference} {x : Stmt} {block : Inference × List Stmt} (mem : block ∈ blocks s x) :
    (inferAll block.1 block.2).closed <:+ (inferStmt s x).closed := by
  cases x with
  | ifElse _ _ b o =>
    obtain rfl | mem := mem_cons.1 mem
    · exact closed_inferAll ⟨[s.top], (inferAll ⟨[s.top], s.closed⟩ b).closed⟩ o
    · cases mem_singleton.1 mem
      exact suffix_rfl
  | forLoop | whileLoop | withBlock => exact closed_inOrder mem
  | matchOn _ _ cs =>
    rw [inferStmt, inferCases_eq]
    exact closed_inOrder mem
  | tryExcept _ b hs o f =>
    rw [inferStmt, inferHandlers_eq]
    have within := closed_inOrder mem
    rwa [foldl_append] at within
  | _ => cases mem

theorem Reached.closed {s s' : Inference} {xs : List Stmt} {d : Stmt} (reached : Reached s xs s' d) :
    (inferStmt s' d).closed <:+ (inferAll s xs).closed := by
  induction reached with
  | here => exact closed_inferAll _ _
  | later _ ih => exact ih
  | inside mem _ ih => exact (ih.trans (closed_blocks mem)).trans (closed_inferAll _ _)

abbrev Lines := Nat × Nat

def linesOf (sp : Span) : Lines := (sp.line - 1, max (sp.endLine - 1) (sp.line - 1))

def Lines.around (lines : Lines) (l : Int) : Bool := lines.1 ≤ l && l ≤ lines.2

/-- The lines of a definition and the types of the names that it binds itself. -/
def definition? (s : Inference) : Stmt → Option (Lines × TypeTable)
  | .functionDef sp _ ps b _ _ _ _ =>
    some (linesOf sp, (inferAll (bindParams { s with scopes := [] :: s.scopes } ps) b).top)
  | .classDef sp _ _ _ b _ => some (linesOf sp, (inferAll { s with scopes := [] :: s.scopes } b).top)
  | _ => none

/-- **The types at a line are those of the outermost definition around it**, whatever definitions stand in that
    one and whatever branches and loops it stands in, and those of the whole script for the names that it does
    not bind. -/
theorem types_from_outermost_definition {body : List Stmt} {s : Inference} {d : Stmt} {lines : Lines}
    {table : TypeTable} {l : Int} (reached : Reached {} body s d) (defines : definition? s d = some (lines, table))
    (around : lines.around l = true)
    (last : ∀ later, (inferAll {} body).closed = later ++ (inferStmt s d).closed →
      ∀ c ∈ later, Lines.around c.1 l = false) :
    let all := inferAll {} body
    all.typesAt (some l) = (all.typesAt none).update table := by
  intro all
  obtain ⟨rest, closed⟩ : ∃ rest, (inferStmt s d).closed = (lines, table) :: rest := by
    cases d <;> cases defines <;> exact ⟨_, rfl⟩
  obtain ⟨later, ends⟩ := reached.closed
  have found : all.closed.find? (fun c => Lines.around c.1 l) = some (lines, table) := by
    rw [← ends, closed, List.find?_append, List.find?_eq_none.2 (by simpa using last later ends.symm)]
    simp [around]
  simp only [Lines.around] at found
  simp only [Inference.typesAt, found]

theorem types_from_outermost_definition_nested :
    let sp : Span := ⟨1, 0, 2, 0⟩
    let bind (v : Expr) : Stmt := .assign sp [.name sp "x" .store] v none
    let define (b : List Stmt) : Stmt := .functionDef sp "f" (.mk [] [] none [] [] none []) b [] none none false
    (inferAll {} [define [bind (.list sp [] .load), define [bind (.dict sp [] [])]]]).typesAt (some 1) =
      [("x", "list")] := by
  exact @types_from_outermost_definition _ {} _ (0, 1) [("x", "list")] 1 .here rfl rfl
    fun later same => by simp [show later = [] from List.self_eq_append_left.1 same]

/-- The inner function makes `x` a dictionary, and at its lines `x` is said to be a list. -/
theorem outer_type_in_inner_function :
    inferTypes "def g():\n    x = \x7b\x7d\n    return x" (some 2) = [("x", "dict")] ∧
      inferTypes "def f():\n    x = []\n    def g():\n        x = \x7b\x7d\n        return x\n    return x" (some 4) =
        [("x", "list")] := by
  decide +kernel

end AliasTools.Types
