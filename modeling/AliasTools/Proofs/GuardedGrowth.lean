import AliasTools.Proofs.Outcomes

/-!
# Growth that is refused

The methods that let a guarded container grow look at its recorded size first, and refuse to let it grow
beyond the limit.  What they promise is about the record and not about the elements: when such a method
ends well, the record is within the limit.

To measure an operand can carry out anything, for a generator is measured by running it.  But it is then
spent, so that nothing more happens when it is gone through.
-/

namespace AliasTools.Script

open List Change World Option

variable {a : Addr} {xs : Array Value} {es : Entries} {g : Generator} {args vs : List Value}
  {ms : Members} {named : Names} {v : Value} {w w' : World} {c : Cell} {b : Bound} (s : Signature)

/-! ## 1. Values that are spent -/

def Cell.Spent : Cell → Prop
  | .generator g => g.progress = .finished
  | .counter c _ => c = .done
  | .object _ _ => False
  | _ => True

def Cell.isObject : Cell → Bool
  | .object _ _ => true
  | _ => false

def Cell.isGuarded : Cell → Bool
  | .list g _ _ | .dict g _ _ | .set g _ _ => g
  | _ => false

/-- A guarded container with a record. -/
structure Cell.Records (c : Cell) (n : Int) : Prop where
  guarded : c.isGuarded = true
  recorded : c.recorded? = some n

namespace World

def Spent (w : World) : Value → Prop
  | .ref a => ∃ c, w.heap[a]? = some c ∧ c.Spent
  | _ => True

def Native (w : World) : Value → Prop
  | .ref a => ∃ c, w.heap[a]? = some c ∧ c.isObject = false
  | _ => True

def Begun (w : World) (a : Addr) : Prop := ∃ g, w.heap[a]? = some (.generator g) ∧ g.progress ≠ .notStarted

theorem Lasts.spent (lasts : w.Lasts w') (spent : w.Spent v) : w'.Spent v := by
  cases v with
  | ref a =>
    obtain ⟨c, found, spent⟩ := spent
    obtain ⟨c', found', became⟩ := lasts.cells a c found
    refine ⟨c', found', ?_⟩
    cases became with
    | generator _ ended _ => exact ended spent
    | counter _ _ done => exact done spent
    | _ => trivial
  | _ => trivial

theorem Lasts.native (lasts : w.Lasts w') (native : w.Native v) : w'.Native v := by
  cases v with
  | ref a =>
    obtain ⟨c, found, native⟩ := native
    obtain ⟨c', found', became⟩ := lasts.cells a c found
    refine ⟨c', found', ?_⟩
    cases became with
    | object => exact native
    | _ => rfl
  | _ => trivial

theorem Lasts.begun (lasts : w.Lasts w') (begun : w.Begun a) : w'.Begun a := by
  obtain ⟨g, found, started⟩ := begun
  obtain ⟨c', found', became⟩ := lasts.cells a _ found
  cases became with
  | generator back _ _ => exact ⟨_, found', started ∘ back⟩

theorem heap_putCell (found : w.heap[a]? = some c) : (w.putCell a c').heap[a]? = some c' := by
  obtain ⟨inside, -⟩ := Array.getElem?_eq_some_iff.mp found
  rw [putCell, Array.getElem?_setIfInBounds, if_pos rfl, if_pos inside]

theorem begun_of_begin (found : w.heap[a]? = some (.generator g)) (new : g.progress = .notStarted) :
    ((turn a .begin).apply w).Begun a := by
  rw [apply, Turn.apply, found]
  dsimp only
  rw [new]
  exact ⟨_, heap_putCell found, fun stage => by cases stage⟩

theorem spent_of_finish (begun : w.Begun a) : ((turn a .finish).apply w).Spent (.ref a) := by
  obtain ⟨g, found, started⟩ := begun
  rw [apply, Turn.apply, found]
  dsimp only
  cases stage : g.progress with
  | notStarted => exact absurd stage started
  | running runs => exact ⟨_, heap_putCell found, rfl⟩
  | finished => exact ⟨_, found, stage⟩

theorem spent_of_count {c : Cursor} (found : w.heap[a]? = some (.counter c n)) :
    ((count a .done).apply w).Spent (.ref a) := by
  rw [apply, found]
  split
  · next same => exact ⟨_, found, by cases same; rfl⟩
  · next same _ => exact ⟨_, heap_putCell found, rfl⟩
  · next other => exact (other c n rfl).elim

end World

/-! ## 2. Measuring -/

section

variable {k : Nat} {w : World} {a : Addr}

theorem gives_startGenerator (found : w.heap[a]? = some (.generator g)) (new : g.progress = .notStarted) :
    Gives k w (startGenerator .ask a g) fun _ w' => w'.Begun a := by
  refine .reading (.changing ?_)
  exact fun v w' ran => (gives_lasts _ v w' ran).begun (begun_of_begin found new)

theorem gives_resume (found : w.heap[a]? = some (.generator g)) :
    Gives k w (resume .ask a g) fun v w' => v = none → w'.Spent (.ref a) := by
  have going {w : World} (g : Generator) (runs : List ClauseRun) (begun : w.Begun a) :
      Gives k w (goOn .ask a g runs) fun v w' => v = none → w'.Spent (.ref a) := by
    refine .bind (gives_lasts _) fun r w' lasts => ?_
    cases r with
    | some r => exact .whatever fun _ _ => gives_pure fun given => by cases given
    | none => exact .changing (gives_pure fun _ => spent_of_finish (lasts.begun begun))
  unfold resume
  refine gives_unless fun _ => ?_
  cases stage : g.progress with
  | finished => exact gives_pure fun _ => ⟨_, found, stage⟩
  | running runs =>
    have awake : ((turn a .wake).apply w).Begun a := by
      rw [apply, Turn.apply, found]
      exact ⟨_, heap_putCell found, fun new => by cases stage.symm.trans new⟩
    exact .working a (.changing (.pure_bind (going _ _ awake)))
  | notStarted => exact .working a (.bind (gives_startGenerator found stage) fun p _ begun => going p.1 p.2 begun)

theorem gives_nextOf_cell (native : w.Native (.ref a)) : Gives k w (nextOf .ask (.cell a)) fun next w' =>
      (next = none → w'.Spent (.ref a)) ∧ ∀ p ∈ next, p.2 = .cell a := by
  obtain ⟨c, found, noObject⟩ := native
  refine .found found ?_
  cases c with
  | generator g =>
    refine .bind (gives_resume found) fun v w' spent => ?_
    refine gives_pure ⟨fun none => spent (map_eq_none_iff.mp none), fun p member => ?_⟩
    obtain ⟨u, -, rfl⟩ := map_eq_some_iff.mp member
    rfl
  | counter inner n =>
    refine .found found ?_
    refine .bind (gives_lasts _) fun next w'' lasts => ?_
    obtain ⟨_, found', became⟩ := lasts.cells a _ found
    cases next with
    | some p => exact .whatever fun _ _ => gives_pure ⟨nofun, by rintro q ⟨⟩; rfl⟩
    | none =>
      cases became with
      | counter => exact .changing (gives_pure ⟨fun _ => spent_of_count found', nofun⟩)
  | object => cases noObject
  | _ => exact .found found (gives_pure ⟨fun _ => ⟨_, found, trivial⟩, nofun⟩)

theorem gives_sizeOfRun (native : w.Native (.ref a)) (n : Int) (seen : Visited) (fuel : Nat) :
    Gives k w (sizeOfRun .ask n seen (.cell a) fuel) fun _ w' => w'.Spent (.ref a) := by
  induction fuel generalizing w n seen with
  | zero => exact gives_raise _
  | succ fuel ih =>
    -- the address names no object of the library, now or after anything else was done
    have on {w' : World} (lasts : w.Lasts w') (n : Int) (seen : Visited) :
        Gives k w' (sizeOfRun .ask n seen (.cell a) fuel) fun _ w'' => w''.Spent (.ref a) :=
      ih (lasts.native native) n seen
    refine .bind (gives_ask _ fun k => (gives_nextOf_cell native).and (gives_lasts _)) ?_
    rintro (_ | ⟨v, c⟩) w₁ ⟨⟨spent, place⟩, lasts₁⟩
    · exact gives_pure (spent rfl)
    · obtain rfl : c = .cell a := place _ rfl
      dsimp only
      split
      · exact on lasts₁ _ _
      · refine .past lasts₁ fun visited w₂ lasts => ?_
        cases visited with
        | true => exact on lasts _ _
        | false => exact .past lasts fun m w₃ lasts => .after (looks_visit _ _) fun _ => on lasts _ _

theorem gives_measured (native : w.Native v) : Gives k w (sizeOf .ask v) fun _ w' => w.Lasts w' ∧ w'.Spent v := by
  refine (gives_lasts _).and ?_
  cases v with
  | ref a =>
    obtain ⟨c, found, noObject⟩ := native
    -- what runs is run to its end; anything else was spent from the start
    have running (runs : ∀ k, Gives k w (makeup (.ref a)) fun m w' => m = .runs (.cell a) ∧ w' = w) :
        Gives k w (sizeOf .ask (.ref a)) fun _ w' => w'.Spent (.ref a) := by
      refine .bind (gives_ask _ fun k => ?_) fun m w' spent => gives_pure spent
      exact (runs k).value (gives_sizeOfRun ⟨c, found, noObject⟩ 0 _ _)
    have still (spent : c.Spent) : Gives k w (sizeOf .ask (.ref a)) fun _ w' => w'.Spent (.ref a) :=
      fun m w' ran => (gives_lasts _ m w' ran).spent ⟨c, found, spent⟩
    cases c with
    | generator | counter => exact running fun k => .found found (gives_pure ⟨rfl, rfl⟩)
    | object => cases noObject
    | _ => exact still trivial
  | _ => exact fun _ _ _ => trivial

theorem gives_measuredAll (native : ∀ v ∈ vs, w.Native v) :
    Gives k w (sizeOfAll .ask vs) fun _ w' => w.Lasts w' ∧ ∀ v ∈ vs, w'.Spent v := by
  suffices from_ : ∀ n : Int, Gives k w (vs.foldlM (fun n v => do return n + (← sizeOf .ask v)) n)
      fun _ w' => w.Lasts w' ∧ ∀ v ∈ vs, w'.Spent v from from_ 0
  induction vs generalizing w with
  | nil =>
    intro n
    exact gives_pure ⟨.refl w, nofun⟩
  | cons v vs ih =>
    intro n
    have first : Gives k w (do return n + (← sizeOf .ask v)) fun _ w' => w.Lasts w' ∧ w'.Spent v :=
      .bind (gives_measured (native v mem_cons_self)) fun _ _ holds => gives_pure holds
    refine first.bind fun m w₁ ⟨lasts₁, spent⟩ => ?_
    have native₁ (u : Value) (member : u ∈ vs) : w₁.Native u := lasts₁.native (native u (mem_cons_of_mem v member))
    intro total w₂ ran
    obtain ⟨lasts₂, others⟩ := ih native₁ m total w₂ ran
    refine ⟨lasts₁.trans lasts₂, fun u member => ?_⟩
    rcases mem_cons.mp member with rfl | later
    · exact lasts₂.spent spent
    · exact others u later

theorem Gives.recorded (found : w.heap[a]? = some c) (records : c.Records n) {β : Type}
    {f : Int → Eval β} {q : β → World → Prop} (rest : Gives k w (f n) q) :
    Gives k w (.bind (sizeOf .ask (.ref a)) f) q := by
  have known (k : Nat) : Gives k w (makeup (.ref a)) fun m w' => m = .known n ∧ w' = w := by
    refine .found found ?_
    obtain ⟨guarded, recorded⟩ := records
    cases c with
    | list g _ m | dict g _ m | set g _ m =>
      obtain rfl : g = true := guarded
      obtain rfl : m = some n := recorded
      exact gives_pure ⟨rfl, rfl⟩
    | _ => cases guarded
  have size : Gives k w (sizeOf .ask (.ref a)) fun m w' => m = n ∧ w' = w := by
    refine .bind (gives_ask _ fun k => ?_) fun m w' holds =>
      gives_pure holds
    exact (known k).value (gives_pure ⟨rfl, rfl⟩)
  exact size.value rest

end

/-! ## 3. Going through what is spent -/

def Cursor.Idle (w : World) : Cursor → Prop
  | .cell a => w.Spent (.ref a)
  | .numbered _ _ => False
  | _ => True

section

variable {k : Nat} {w : World}

theorem gives_nextOf_spent (spent : w.Spent (.ref a)) :
    Gives k w (nextOf .ask (.cell a)) fun next w' => w' = w ∧ next = none := by
  obtain ⟨c, found, spent⟩ := spent
  refine .found found ?_
  cases c with
  | generator g =>
    have ended : g.progress = .finished := spent
    have nothing : Gives k w (resume .ask a g) fun v w' => v = none ∧ w' = w := by
      unfold resume
      refine gives_unless fun _ => ?_
      rw [ended]
      exact gives_pure ⟨rfl, rfl⟩
    exact nothing.value (gives_pure ⟨rfl, rfl⟩)
  | counter inner n =>
    obtain rfl : inner = .done := spent
    have nothing : Gives k w (.ask (.next .done)) fun next w' => next = none ∧ w' = w :=
      gives_ask _ fun k => gives_pure ⟨rfl, rfl⟩
    have same : (count a .done).apply w = w := by rw [apply, found]
    exact .found found (nothing.value (.changing (gives_pure ⟨same, rfl⟩)))
  | _ => exact .found found (gives_pure ⟨rfl, rfl⟩)

theorem gives_nextOf {c : Cursor} (idle : c.Idle w) :
    Gives k w (nextOf .ask c) fun next w' => w' = w ∧ ∀ p ∈ next, p.2.Idle w := by
  cases c with
  | done => exact gives_pure ⟨rfl, nofun⟩
  | items vs =>
    cases vs with
    | nil => exact gives_pure ⟨rfl, nofun⟩
    | cons v vs => exact gives_pure ⟨rfl, by rintro p ⟨⟩; trivial⟩
  | list a i =>
    refine .after (looks_cellAt a) fun c => ?_
    split
    · exact gives_pure ⟨rfl, by simp [Cursor.Idle]⟩
    · exact gives_pure ⟨rfl, nofun⟩
  | range n left step =>
    cases left with
    | zero => exact gives_pure ⟨rfl, nofun⟩
    | succ left => exact gives_pure ⟨rfl, by rintro p ⟨⟩; trivial⟩
  | view kind d i size =>
    refine .after (looks_entries? _) fun es => gives_unless fun _ => ?_
    exact gives_pure ⟨rfl, by simp [Cursor.Idle]⟩
  | members a rest size =>
    refine .after (looks_members? _) fun ms => gives_unless fun _ => ?_
    cases rest with
    | nil => exact gives_pure ⟨rfl, nofun⟩
    | cons v vs => exact gives_pure ⟨rfl, by rintro p ⟨⟩; trivial⟩
  | cell a =>
    intro next w' ran
    obtain ⟨same, rfl⟩ := gives_nextOf_spent idle next w' ran
    exact ⟨same, nofun⟩
  | numbered v i => exact idle.elim

theorem gives_drain {c : Cursor} (idle : c.Idle w) (acc : Array Value) (fuel : Nat) :
    Gives k w (drain .ask acc c fuel) fun _ w' => w' = w := by
  induction fuel generalizing acc c with
  | zero => exact gives_raise _
  | succ fuel ih =>
    refine .bind (gives_ask _ fun _ => gives_nextOf idle) ?_
    rintro next w' ⟨rfl, stays⟩
    cases next with
    | none => exact gives_pure rfl
    | some p => exact ih (stays p rfl) _

theorem gives_iterOf (spent : w.Spent v) : Gives k w (iterOf .ask v) fun c w' => w' = w ∧ c.Idle w := by
  cases v with
  | ref a =>
    obtain ⟨c, found, spent⟩ := spent
    refine .found found ?_
    cases c with
    | object => exact spent.elim
    | view kind d =>
      refine .found found ?_
      exact .after (looks_entries? _) fun _ => gives_pure ⟨rfl, trivial⟩
    | generator | counter =>
      refine .found found ?_
      exact gives_pure ⟨rfl, _, found, spent⟩
    | list | dict | set | arguments =>
      refine .found found ?_
      exact gives_pure ⟨rfl, trivial⟩
    | _ =>
      refine .found found ?_
      exact .after (looks_typeName _) fun _ => gives_raise _
  | str | tuple | range => exact .pure_bind (gives_pure ⟨rfl, trivial⟩)
  | _ => exact .pure_bind (.after (looks_typeName _) fun _ => gives_raise _)

theorem gives_collect (spent : w.Spent v) : Gives k w (collect .ask v) fun _ w' => w' = w := by
  have going : Gives k w (do drain .ask #[] (← .ask (.iter v)) runLimit) fun _ w' => w' = w := by
    refine .bind (gives_ask _ fun _ => gives_iterOf spent) ?_
    rintro c w' ⟨rfl, idle⟩
    exact gives_drain idle _ _
  unfold collect
  split
  · exact gives_pure rfl
  · exact gives_pure rfl
  · refine .after (looks_listItems? _) fun xs => ?_
    cases xs with
    | none => exact going
    | some xs => exact gives_pure rfl

end

/-! ## 4. Arguments -/

/-- All arguments that were matched with a parameter, and all further ones, are as `P` says. -/
structure Bound.All (P : Value → Prop) (b : Bound) : Prop where
  values : ∀ p ∈ b.values, P p.2
  rest : ∀ v ∈ b.rest, P v

theorem Bound.All.get (all : b.All P) (none : P .none) (name : String) : P (b.get name) := by
  unfold Bound.get
  cases given : b.values.get? name with
  | none => exact none
  | some v =>
    obtain ⟨front, back, same, -⟩ := lookup_eq_some_iff.mp given
    exact all.values (name, v) (same ▸ mem_append_right front mem_cons_self)

theorem looks_matchNamed (b : Bound) (named : Names) : (s.matchNamed b named).Looks := by
  induction named generalizing b with
  | nil => exact .pure _
  | cons p named ih =>
    rw [Signature.matchNamed]
    split
    · exact looks_unless fun _ => ih _
    · split
      · exact ih _
      · split <;> exact .raise _

theorem looks_bind (args : List Value) (named : Names) : (s.bind args named).Looks :=
  .bind (looks_matchNamed s _ named) fun _ =>
    looks_unless fun _ => looks_unless fun _ => looks_unless fun _ => .pure _

section

variable {P : Value → Prop} {k : Nat} {w : World}

theorem all_matchPositional (ps : List Parameter) (all : ∀ v ∈ vs, P v) :
    (∀ p ∈ (matchPositional ps vs).1, P p.2) ∧ ∀ v ∈ (matchPositional ps vs).2, P v := by
  induction ps generalizing vs with
  | nil => exact ⟨nofun, by cases vs <;> exact all⟩
  | cons p ps ih =>
    cases vs with
    | nil => exact ⟨nofun, nofun⟩
    | cons v vs =>
      obtain ⟨given, extra⟩ := ih fun u member => all u (mem_cons_of_mem v member)
      refine ⟨fun q member => ?_, extra⟩
      rcases mem_cons.mp member with rfl | later
      · exact all v mem_cons_self
      · exact given q later

def Signature.takes (name : String) : Bool := s.params.any (·.name == name)

theorem gives_matchNamed (all : b.All P) (given : ∀ p ∈ named, s.takes p.1 = true → P p.2) :
    Gives k w (s.matchNamed b named) fun b' _ => b'.All P := by
  induction named generalizing b with
  | nil => exact gives_pure all
  | cons p named ih =>
    have rest (q : String × Value) (member : q ∈ named) : s.takes q.1 = true → P q.2 :=
      given q (mem_cons_of_mem p member)
    rw [Signature.matchNamed]
    split
    · next param found =>
      have taken : s.takes p.1 = true := by
        have fits := find?_some found
        rw [Bool.and_eq_true] at fits
        exact any_eq_true.mpr ⟨param, mem_of_find?_eq_some found, fits.1⟩
      refine gives_unless fun _ => ih ⟨fun q member => ?_, all.rest⟩ rest
      rcases mem_append.mp member with before | here
      · exact all.values q before
      · rw [mem_singleton.mp here]
        exact given p mem_cons_self taken
    · split
      · exact ih ⟨all.values, all.rest⟩ rest
      · split <;> exact gives_raise _

theorem gives_bind (all : ∀ v ∈ args, P v) (given : ∀ p ∈ named, s.takes p.1 = true → P p.2)
    (defaults : ∀ p ∈ s.params, ∀ v ∈ p.default, P v) : Gives k w (s.bind args named) fun b w' => b.All P ∧ w' = w := by
  refine .looking ?_ (looks_bind s args named)
  obtain ⟨values, extra⟩ := all_matchPositional (s.params.filter (·.kind != .keyword)) all
  refine .bind (gives_matchNamed s ⟨values, extra⟩ given) fun b w' all => ?_
  refine gives_unless fun _ => gives_unless fun _ => gives_unless fun _ => gives_pure ?_
  refine ⟨fun q member => ?_, all.rest⟩
  rcases mem_append.mp member with before | added
  · exact all.values q before
  · obtain ⟨p, param, kept⟩ := mem_filterMap.mp added
    split at kept
    · cases kept
    · obtain ⟨v, default, rfl⟩ := map_eq_some_iff.mp kept
      exact defaults p param v default

end

/-! ## 5. Containers that grow -/

namespace World

def RecordedWithin (w : World) (a : Addr) : Prop :=
  ∃ c n, w.heap[a]? = some c ∧ c.recorded? = some n ∧ n ≤ w.limits.maxConstLen

/-- Arguments that are all native. -/
structure Natives (w : World) (args : List Value) (named : Names) : Prop where
  args : ∀ v ∈ args, w.Native v
  named : ∀ p ∈ named, w.Native p.2

def Mapping (w : World) : Value → Prop
  | .none => True
  | .ref a => ∃ g es n, w.heap[a]? = some (.dict g es n)
  | _ => False

variable {w w' : World} {a : Addr} {n : Int}

theorem Lasts.list (lasts : w.Lasts w') (found : w.heap[a]? = some (.list true xs (some n))) :
    ∃ xs n, w'.heap[a]? = some (.list true xs (some n)) := by
  obtain ⟨c, found', became⟩ := lasts.cells a _ found
  cases became with
  | list _ _ xs' kept =>
    obtain ⟨m, rfl⟩ := isSome_iff_exists.mp (kept rfl)
    exact ⟨xs', m, found'⟩

theorem Lasts.dict (lasts : w.Lasts w') (found : w.heap[a]? = some (.dict true es (some n))) :
    ∃ es n, w'.heap[a]? = some (.dict true es (some n)) := by
  obtain ⟨c, found', became⟩ := lasts.cells a _ found
  cases became with
  | dict _ _ es' kept =>
    obtain ⟨m, rfl⟩ := isSome_iff_exists.mp (kept rfl)
    exact ⟨es', m, found'⟩

theorem Lasts.set (lasts : w.Lasts w') (found : w.heap[a]? = some (.set true ms (some n))) :
    ∃ ms n, w'.heap[a]? = some (.set true ms (some n)) := by
  obtain ⟨c, found', became⟩ := lasts.cells a _ found
  cases became with
  | set _ _ ms' kept =>
    obtain ⟨m, rfl⟩ := isSome_iff_exists.mp (kept rfl)
    exact ⟨ms', m, found'⟩

theorem Lasts.mapping (lasts : w.Lasts w') (mapping : w.Mapping v) : w'.Mapping v := by
  cases v with
  | ref a =>
    obtain ⟨g, es, n, found⟩ := mapping
    obtain ⟨c, found', became⟩ := lasts.cells a _ found
    cases became with
    | dict => exact ⟨_, _, _, found'⟩
  | _ => exact mapping

end World

section

variable {k : Nat} {w : World} {a : Addr} {n : Int}

theorem Gives.refusing {β : Type} {f : Unit → Eval β}
    {q : β → World → Prop} (rest : total ≤ w.limits.maxConstLen → Gives k w (f ()) q) :
    Gives k w (.bind (refuseGrowth total message) f) q := by
  have allowed : Gives k w (refuseGrowth total message) fun _ w' => total ≤ w.limits.maxConstLen ∧ w' = w := by
    refine .reading ?_
    split
    · exact gives_raise _
    · exact gives_pure ⟨by omega, rfl⟩
  exact allowed.knowing fun _ within => rest within

section

variable (found : w.heap[a]? = some c)

include found

theorem heap_alter (what : Alteration) : ((Change.alter a what).apply w).heap[a]? = some (what.apply c) := by
  rw [apply, modifyCell, Array.getElem?_modify, found]
  simp

theorem gives_alter (recorded : (what.apply c).recorded? = some n) (within : n ≤ w.limits.maxConstLen) :
    Gives k w (alter a what) fun _ w' => w'.RecordedWithin a :=
  gives_change _ ⟨what.apply c, n, heap_alter found what, recorded, within⟩

theorem gives_alterMeasured (recorded : (what.apply c).recorded? = some n) (within : n ≤ w.limits.maxConstLen) :
    Gives k w (alterMeasured a what) fun _ w' => w'.RecordedWithin a := by
  refine .bind (gives_alter found recorded within) fun _ w' holds => ?_
  refine .after (looks_cellAt a) fun c => ?_
  split
  · exact gives_raise _
  · exact gives_pure holds

theorem gives_bindNative {s : Signature} (noObject : c.isObject = false)
    (native : w.Natives args named) (noDefaults : ∀ p ∈ s.params, p.default = none) :
    Gives k w (s.bind (.ref a :: args) named) fun b w' => b.All w.Native ∧ w' = w := by
  have self : w.Native (.ref a) := ⟨c, found, noObject⟩
  refine gives_bind s (forall_mem_cons.mpr ⟨self, native.args⟩)
    (fun p member _ => native.named p member) fun p member v default => ?_
  rw [noDefaults p member] at default
  cases default

end

/-! ### Lists -/

theorem gives_append (found : w.heap[a]? = some (.list true xs (some n))) (b : Bound) :
    Gives k w (listMethodOn .ask "append" (.ref a) a true b) fun _ w' => w'.RecordedWithin a := by
  refine .after (looks_listItems? _) fun _ => ?_
  refine .recorded found ⟨rfl, rfl⟩ (.refusing fun within => ?_)
  exact .returning (gives_alter found rfl within) _

theorem gives_extend (found : w.heap[a]? = some (.list true xs (some n))) (native : w.Native (b.get "iterable")) :
    Gives k w (listMethodOn .ask "extend" (.ref a) a true b) fun _ w' => w'.RecordedWithin a := by
  refine .after (looks_listItems? _) fun _ => ?_
  refine .bind (gives_measured native) fun other w₁ ⟨lasts, spent⟩ => ?_
  -- the list as it is after that, with a record that may be another one
  obtain ⟨xs', m, found'⟩ := lasts.list found
  refine .recorded found' ⟨rfl, rfl⟩ (.refusing fun within => ?_)
  refine .still (gives_collect spent) fun new => ?_
  exact .returning (gives_alter found' rfl within) _

/-! ### Dictionaries -/

theorem gives_setItem (found : w.heap[a]? = some (.dict true es (some n))) (key v : Value) :
    Gives k w (setItemOf .ask (.ref a) key v) fun _ w' => w'.RecordedWithin a := by
  refine .found found ?_
  refine .bind (gives_lasts _) fun other w₁ lasts => ?_
  obtain ⟨es', m, found'⟩ := lasts.dict found
  refine .recorded found' ⟨rfl, rfl⟩ (.reading (gives_unless fun within => ?_))
  refine .changing (.after (looks_hashKey key) fun h => ?_)
  exact gives_alter (heap_alter found' (.charge other)) rfl (Int.not_lt.mp within)

theorem looks_entryOf (key v : Value) : (entryOf key v).Looks := .bind (looks_hashKey key) fun _ => .pure _

theorem looks_entriesOf (start : Entries) (pairs : List (Value × Value)) : (entriesOf start pairs).Looks :=
  .bind (looks_mapM (fun p => looks_entryOf p.1 p.2) pairs) fun _ => .pure _

theorem gives_entriesGiven (mapping : w.Mapping v) (some : ¬ v.isNone = true) :
    Gives k w (entriesGiven .ask v) fun _ w' => w' = w := by
  cases v with
  | none => exact absurd rfl some
  | ref o =>
    obtain ⟨g, es, m, found⟩ := mapping
    have entries : Gives k w (entries? (.ref o)) fun given w' => given = es ∧ w' = w :=
      .found found (gives_pure ⟨rfl, rfl⟩)
    exact entries.value (gives_pure rfl)
  | _ => exact mapping.elim

theorem gives_mergeInto (found : w.heap[a]? = some (.dict true es (some n)))
    (given : Entries × Option Fault) (named : Names) (within : n + m ≤ w.limits.maxConstLen) :
    Gives k w (mergeInto a given named m) fun _ w' => w'.RecordedWithin a := by
  refine .after (looks_entries? _) fun old => ?_
  split
  · exact .whatever fun _ _ => gives_raise _
  · exact .after (looks_entriesOf _ _) fun _ => gives_alter found rfl within

theorem gives_dictUpdate (found : w.heap[a]? = some (.dict true es (some n)))
    (mappings : ∀ v ∈ args, w.Mapping v) (given : ∀ p ∈ named, p.1 ∈ ["self", "other_dict"] → w.Mapping p.2) :
    Gives k w (dictMethod .ask "update" (.ref a) a true args named) fun _ w' => w'.RecordedWithin a := by
  have self : w.Mapping (.ref a) := ⟨true, es, some n, found⟩
  refine .after (looks_entries? _) fun old => ?_
  refine .bind (gives_bind _ (forall_mem_cons.mpr ⟨self, mappings⟩) ?_ ?_) ?_
  · intro p member taken
    refine given p member ?_
    simp only [Signature.takes, needed, optional, any_cons, any_nil, Bool.or_false,
      Bool.or_eq_true, beq_iff_eq] at taken
    rcases taken with same | same <;> simp [← same]
  · simp [needed, optional, Mapping]
  · rintro b _ ⟨all, rfl⟩
    have mapping := all.get trivial "other_dict"
    refine .past (.refl _) fun fresh w₁ lasts => .past lasts fun extra w₂ lasts => ?_
    refine .past lasts fun other w₃ lasts => .past lasts fun more w₄ lasts => ?_
    obtain ⟨es', m, found'⟩ := lasts.dict found
    refine .recorded found' ⟨rfl, rfl⟩ (.refusing fun within => ?_)
    have merging (taken : Entries × Option Fault) :
        Gives k w₄ (do mergeInto a taken b.named (other + more); return Value.none) fun _ w' => w'.RecordedWithin a :=
      .returning (gives_mergeInto found' taken b.named within) _
    split
    · exact .pure_bind (merging _)
    · next some => exact .still (gives_entriesGiven (lasts.mapping mapping) some) merging

/-! ### Sets -/

theorem looks_membersUntil (acc : Members) (vs : List Value) : (membersUntil acc vs).Looks := by
  induction vs generalizing acc with
  | nil => exact .pure _
  | cons v vs ih =>
    refine .bind (looks_hashKey? v) fun key => ?_
    cases key with
    | some key => exact ih _
    | none => exact .pure _

theorem looks_refuseMember (odd : Option Value) : (refuseMember odd).Looks := by
  cases odd with
  | none => exact .pure _
  | some v => exact .bind (looks_hashKey v) fun _ => .pure _

theorem gives_membersGiven (spent : w.Spent v) : Gives k w (membersGiven .ask v) fun _ w' => w' = w := by
  refine .after (looks_members? v) fun ms => ?_
  cases ms with
  | some ms => exact gives_pure rfl
  | none =>
    refine .after (looks_entries? v) fun es => ?_
    cases es with
    | some es => exact gives_pure rfl
    | none =>
      refine .still (gives_collect spent) fun items => ?_
      exact .after (looks_membersUntil _ _) fun _ => gives_pure rfl

theorem gives_asMembers (spent : w.Spent v) : Gives k w (asMembers .ask v) fun _ w' => w' = w := by
  refine .still (gives_membersGiven spent) fun given => ?_
  exact .after (looks_refuseMember _) fun _ => gives_pure rfl

theorem gives_combineInto (f : Members → Members → Members) (ms : Members) (spent : ∀ v ∈ vs, w.Spent v) :
    Gives k w (combineInto .ask a f ms vs) fun _ w' => w' = w := by
  induction vs generalizing ms with
  | nil => exact gives_pure rfl
  | cons v vs ih =>
    refine .still (.cleaning _ (gives_membersGiven (spent v mem_cons_self))) fun given => ?_
    refine .still (.cleaning _ (gives_of_looks (looks_refuseMember _))) fun _ => ?_
    exact ih _ fun u member => spent u (mem_cons_of_mem v member)

variable (found : w.heap[a]? = some (.set true ms (some n)))

include found

theorem gives_add (args : List Value) (named : Names) :
    Gives k w (setMethod .ask "add" (.ref a) a true args named) fun _ w' => w'.RecordedWithin a := by
  refine .after (looks_members? _) fun _ => .after (.bind (looks_bind _ _ _) fun _ => .pure _) fun v => ?_
  refine .recorded found ⟨rfl, rfl⟩ (.refusing fun within => ?_)
  refine .after (looks_hashKey v) fun key => ?_
  exact .returning (gives_alterMeasured found rfl within) _

theorem gives_update (native : w.Natives args named) :
    Gives k w (setMethod .ask "update" (.ref a) a true args named) fun _ w' => w'.RecordedWithin a := by
  have others : Gives k w (watchedRest true "update" (.ref a) args named)
      fun vs w' => (∀ v ∈ vs, w.Native v) ∧ w' = w :=
    (gives_bindNative found rfl native (by simp [needed])).knowing fun b all =>
      gives_pure ⟨all.rest, rfl⟩
  refine .after (looks_members? _) fun _ => others.knowing fun vs native => ?_
  refine .bind (gives_measuredAll native) fun other w' ⟨lasts, spent⟩ => ?_
  obtain ⟨ms', m, found'⟩ := lasts.set found
  refine .recorded found' ⟨rfl, rfl⟩ (.refusing fun within => ?_)
  refine .after (.bind (looks_members? _) fun _ => .pure _) fun old => ?_
  refine .still (gives_combineInto _ _ spent) fun new => ?_
  exact .returning (gives_alterMeasured found' rfl within) _

theorem gives_symmetricUpdate (native : w.Natives args named) :
    Gives k w (setMethod .ask "symmetric_difference_update" (.ref a) a true args named)
      fun _ w' => w'.RecordedWithin a := by
  have operand : Gives k w (watchedArgument true "symmetric_difference_update" "s" (.ref a) args named)
      fun v w' => w.Native v ∧ w' = w :=
    (gives_bindNative found rfl native (by simp [needed])).knowing fun b all =>
      gives_pure ⟨all.get trivial "s", rfl⟩
  refine .after (looks_members? _) fun _ => operand.knowing fun v native => ?_
  refine .recorded found ⟨rfl, rfl⟩ ?_
  refine .bind (gives_measured native) fun other w' ⟨lasts, spent⟩ => ?_
  obtain ⟨ms', m, found'⟩ := lasts.set found
  refine .pure_bind (.refusing fun within => ?_)
  refine .after (.bind (looks_members? _) fun _ => .pure _) fun old => ?_
  refine .still (gives_asMembers spent) fun new => ?_
  exact .returning (gives_alter found' rfl within) _

end

/-! ## 6. Growing -/

/-- `Growth w a t`: in the world `w`, the task `t` lets the guarded container at `a` grow, which has a
    record.  Operands that are gone through are no objects of the library, and a dictionary takes entries
    from dictionaries. -/
inductive Growth (w : World) (a : Addr) : {α : Type} → Task α → Prop where
  | append {xs : Array Value} {n : Int} (found : w.heap[a]? = some (.list true xs (some n)))
    (args : List Value) (named : Names) : Growth w a (.method (.ref a) "append" args named)
  | extend {xs : Array Value} {n : Int} (found : w.heap[a]? = some (.list true xs (some n)))
    {args : List Value} {named : Names} (native : w.Natives args named) :
    Growth w a (.method (.ref a) "extend" args named)
  | setItem {es : Entries} {n : Int} (found : w.heap[a]? = some (.dict true es (some n)))
    (key v : Value) : Growth w a (.setItem (.ref a) key v)
  | dictUpdate {es : Entries} {n : Int} (found : w.heap[a]? = some (.dict true es (some n)))
    {args : List Value} (mappings : ∀ v ∈ args, w.Mapping v) {named : Names}
    (given : ∀ p ∈ named, p.1 ∈ ["self", "other_dict"] → w.Mapping p.2) :
    Growth w a (.method (.ref a) "update" args named)
  | add {ms : Members} {n : Int} (found : w.heap[a]? = some (.set true ms (some n)))
    (args : List Value) (named : Names) : Growth w a (.method (.ref a) "add" args named)
  | setUpdate {ms : Members} {n : Int} (found : w.heap[a]? = some (.set true ms (some n)))
    {args : List Value} {named : Names} (native : w.Natives args named) :
    Growth w a (.method (.ref a) "update" args named)
  | symmetricUpdate {ms : Members} {n : Int} (found : w.heap[a]? = some (.set true ms (some n)))
    {args : List Value} {named : Names} (native : w.Natives args named) :
    Growth w a (.method (.ref a) "symmetric_difference_update" args named)

theorem gives_method {k : Nat} (found : w.heap[a]? = some c) {name : String} {p : Value → World → Prop}
    (holds : match c with
      | .list g _ _ => Gives k w (listMethod .ask name (.ref a) a g args named) p
      | .dict g _ _ => Gives k w (dictMethod .ask name (.ref a) a g args named) p
      | .set g _ _ => Gives k w (setMethod .ask name (.ref a) a g args named) p
      | _ => False) :
    Gives k w (callMethodOf .ask (.ref a) name args named) p := by
  refine .found found ?_
  cases c with
  | list | dict | set =>
    refine .found found ?_
    exact holds
  | _ => exact holds.elim

/-- **A growth that ends well leaves a record within the limit.** -/
theorem Growth.within {α : Type} {t : Task α} (growth : Growth w a t) {v : α}
    (ran : run k t w = .ok v w') : w'.RecordedWithin a := by
  refine gives_ask (p := fun _ w' => w'.RecordedWithin a) t (fun n => ?_) v w' ran
  cases growth with
  | append found args named => exact gives_method found (.after (looks_bind _ _ _) fun b => gives_append found b)
  | extend found native =>
    have arguments := gives_bindNative (k := n) (s := listSignature "extend" [needed "iterable"] false)
      found rfl native (by simp [needed, listSignature])
    exact gives_method found (arguments.knowing fun b all =>
      gives_extend found (all.get trivial "iterable"))
  | setItem found key u => exact .found found (gives_setItem found key u)
  | dictUpdate found mappings given => exact gives_method found (gives_dictUpdate found mappings given)
  | add found args named => exact gives_method found (gives_add found args named)
  | setUpdate found native => exact gives_method found (gives_update found native)
  | symmetricUpdate found native => exact gives_method found (gives_symmetricUpdate found native)

end AliasTools.Script
