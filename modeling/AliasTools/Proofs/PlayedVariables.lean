import AliasTools.Proofs.Views

/-!
# The variables of a played character

The variables of a character that is being played are kept twice: in the data of the character, and in the session.
They are read from the data; but a variable counts as set when the session has it, and deleting one leaves it there.
-/

namespace AliasTools.Sheet

open Script Eval Function

variable {k : Nat} {w w' : World} {a b c e : Addr} {d : Option Addr} {m : Variables} {es : Entries}

/-! ## 1. Two stores -/

abbrev Variables := String → Option String

structure Store where
  own : Variables
  session : Variables

inductive Call where
  | get (name : String) (default : Option String)
  | set (name v : String)
  | setNew (name v : String)
  | delete (name : String)

namespace Call

/-- What one map would answer, and what would be left of it. -/
def ofMap (m : Variables) : Call → Option String × Variables
  | get name default => ((m name).or default, m)
  | set name v => (some v, update m name (some v))
  | setNew name v => match m name with
    | some u => (some u, m)
    | none => (some v, update m name (some v))
  | delete name => (m name, update m name none)

def answer (s : Store) : Call → Option String
  | get name default => (s.own name).or default
  | set _ v => some v
  | setNew name v => (s.session name).or (some v)
  | delete name => s.own name

def after (s : Store) : Call → Store
  | get _ _ => s
  | set name v => ⟨update s.own name (some v), update s.session name (some v)⟩
  | setNew name v => match s.session name with
    | some _ => s
    | none => ⟨update s.own name (some v), update s.session name (some v)⟩
  | delete name => { s with own := update s.own name none }

end Call

/-! ## 2. Dictionaries -/

def heard : Option String → Value
  | none => .none
  | some t => word t

/-- A dictionary has the variables, and nothing else by name. -/
def Held (es : Entries) (m : Variables) : Prop := ∀ x, es.get? (.str x) = (m x).map word

theorem Held.put (held : Held es m) (x v : String) :
    Held (es.put (.str x) (word x) (word v)) (update m x (some v)) := by
  intro y
  rw [Entries.get?_put, held]
  by_cases same : y = x
  · subst same
    simp
  · simp [same]

theorem Held.erase (held : Held es m) (x : String) : Held (es.erase (.str x)) (update m x none) := by
  intro y
  have kept := held y
  unfold Entries.get? Entries.erase at *
  rw [Array.find?_filter]
  by_cases same : y = x
  · subst same
    simp
  · rw [update_of_ne same, ← kept]
    congr 2
    funext e
    by_cases here : e.key = .str y
    · simp [here, same]
    · simp [here]

section

variable {es : Entries} {n : Option Int} (found : w.heap[a]? = some (.dict false es n)) (x : String) (g : Bool)

include found

theorem exec_setItem (v : Value) : (ask (.setItem (.ref a) (.str x g) v)).exec (run (k + 1)) w =
    .ok () (w.putCell a (.dict false (es.put (.str x) (.str x g) v) n)) := by
  have changed := modifyCell_of_some found (Alteration.setEntry (.str x) (.str x g) v).apply
  exact (exec_found _ found).trans ((exec_found _ found).trans (congrArg _ changed))

theorem exec_contains : (ask (.contains (.ref a) (.str x g))).exec (run (k + 1)) w = .ok (es.get? (.str x)).isSome w :=
  (exec_found _ found).trans (exec_found _ found)

theorem exec_item (there : es.get? (.str x) = some v) :
    (ask (.item (.ref a) (.str x g))).exec (run (k + 1)) w = .ok v w := by
  refine (exec_found _ found).trans ((exec_found _ found).trans ((exec_bind_ok rfl _).trans ?_))
  rw [there]
  rfl

theorem exec_get (default : Value) : (send .ask (.ref a) "get" [.str x g, default]).exec (run (k + 3)) w =
    .ok ((es.get? (.str x)).getD default) w := by
  refine (exec_send found rfl _).trans ((exec_bind_ok (exec_found _ found) _).trans ?_)
  show exec _ (Eval.bind (.pure (Key.str x)) _) w = _
  rw [exec, exec]
  dsimp only
  rw [show (some es).getD #[] = es from rfl]
  cases es.get? (.str x) <;> rfl

theorem exec_pop : ∃ w', (send .ask (.ref a) "pop" [.str x g, .none]).exec (run (k + 3)) w =
    .ok ((es.get? (.str x)).getD .none) w' ∧
      (w' = w ∧ es.get? (.str x) = none ∨ ∃ n', w' = w.putCell a (.dict false (es.erase (.str x)) n')) := by
  have method : dictMethods.contains "pop" = true := rfl
  have rule := (exec_send (n := k) found method [.str x g, .none]).trans (exec_bind_ok (exec_found _ found) _)
  cases there : es.get? (.str x) with
  | none =>
    refine ⟨w, rule.trans ?_, .inl ⟨rfl, rfl⟩⟩
    show exec _ (if es.isEmpty = true then Eval.pure Value.none else .bind (.pure (Key.str x)) _) w = _
    split
    · rfl
    · rw [exec, exec]
      dsimp only
      rw [show (some es).getD #[] = es from rfl, there]
      rfl
  | some v =>
    have changed := modifyCell_of_some found (Alteration.dropEntry (.str x) 0).apply
    have filled : ¬ es.isEmpty = true := by
      intro empty
      rw [Array.isEmpty_iff.mp empty] at there
      cases there
    refine ⟨w.putCell a ((Alteration.dropEntry (.str x) 0).apply (.dict false es n)), rule.trans ?_, .inr ⟨_, rfl⟩⟩
    show exec _ (if es.isEmpty = true then Eval.pure Value.none else .bind (.pure (Key.str x)) _) w = _
    rw [if_neg filled, exec, exec]
    dsimp only
    rw [show (some es).getD #[] = es from rfl, there]
    exact congrArg (EStateM.Result.ok v) changed

end

/-! ## 3. Worlds with a character -/

/-- A character is being played, whose data are at `a` and its variables at `d`, if the data have a section of them. -/
structure Plays (c a : Addr) (d : Option Addr) (s : Store) (w : World) : Prop where
  object : ∃ fields, w.heap[c]? = some (.object .playedCharacter fields) ∧ dataField fields = .ref a
  data : ∃ es n, w.heap[a]? = some (.dict false es n) ∧ es.get? (.str "cvars") = d.map .ref
  own : ∀ e ∈ d, ∃ es n, w.heap[e]? = some (.dict false es n) ∧ Held es s.own
  unset : d = none → Held #[] s.own
  session : ∃ es n, w.heap[w.session.cvars]? = some (.dict false es n) ∧ Held es s.session
  apart : a ≠ w.session.cvars ∧ ∀ e ∈ d, e ≠ a ∧ e ≠ w.session.cvars

theorem heap_putCell_of_ne {c : Cell} (other : a ≠ b) : (w.putCell a c).heap[b]? = w.heap[b]? :=
  Array.getElem?_setIfInBounds_ne other

namespace Plays

variable {s : Store}

theorem put_own (plays : Plays c a (some e) s w) (n : Option Int) (held : Held es m) :
    Plays c a (some e) { s with own := m } (w.putCell e (.dict false es n)) := by
  obtain ⟨⟨fields, object, data⟩, ⟨es₁, n₁, sheet, there⟩, own, -, ⟨es₃, n₃, store, held'⟩, apart⟩ := plays
  obtain ⟨es₂, n₂, own, -⟩ := own e rfl
  have other : e ≠ c := by
    rintro rfl
    cases own.symm.trans object
  refine ⟨⟨fields, (heap_putCell_of_ne other).trans object, data⟩,
    ⟨es₁, n₁, (heap_putCell_of_ne (apart.2 e rfl).1).trans sheet, there⟩, ?_, nofun,
    ⟨es₃, n₃, (heap_putCell_of_ne (apart.2 e rfl).2).trans store, held'⟩, apart⟩
  rintro _ ⟨⟩
  exact ⟨es, n, World.heap_putCell own, held⟩

/-- The section is made, where there was none. -/
theorem put_section (plays : Plays c a none s w) {n : Option Int} (sheet : w.heap[a]? = some (.dict false es n))
    (made : w.heap[e]? = some (.dict false #[] none)) (new : e ≠ a ∧ e ≠ w.session.cvars) :
    Plays c a (some e) s (w.putCell a (.dict false (es.put (.str "cvars") (word "cvars") (.ref e)) n)) := by
  obtain ⟨⟨fields, object, data⟩, -, -, unset, ⟨_, _, store, held⟩, apart⟩ := plays
  have other : a ≠ c := by
    rintro rfl
    cases sheet.symm.trans object
  refine ⟨⟨fields, (heap_putCell_of_ne other).trans object, data⟩,
    ⟨_, _, World.heap_putCell sheet, by simp [Entries.get?_put]⟩, ?_, nofun,
    ⟨_, _, (heap_putCell_of_ne apart.1).trans store, held⟩, apart.1, ?_⟩ <;> rintro _ ⟨⟩
  · exact ⟨#[], none, (heap_putCell_of_ne (Ne.symm new.1)).trans made, unset rfl⟩
  · exact new

variable (plays : Plays c a d s w)

include plays

theorem congr (session : w'.session = w.session)
    (cells : ∀ (b : Addr) (cell : Cell), w.heap[b]? = some cell → w'.heap[b]? = some cell) : Plays c a d s w' := by
  obtain ⟨⟨fields, object, data⟩, ⟨es, n, sheet, there⟩, own, unset, ⟨_, _, store, held⟩, apart⟩ := plays
  refine ⟨⟨fields, cells _ _ object, data⟩, ⟨es, n, cells _ _ sheet, there⟩, fun e at_ => ?_, unset,
    ⟨_, _, session ▸ cells _ _ store, held⟩, session ▸ apart⟩
  obtain ⟨es, n, own, held⟩ := own e at_
  exact ⟨es, n, cells _ _ own, held⟩

theorem put_session (n : Option Int) (held : Held es m) :
    Plays c a d { s with session := m } (w.putCell w.session.cvars (.dict false es n)) := by
  obtain ⟨⟨fields, object, data⟩, ⟨es₁, n₁, sheet, there⟩, own, unset, ⟨es₃, n₃, store, -⟩, apart⟩ := plays
  have other : w.session.cvars ≠ c := by
    rintro same
    cases (same ▸ store).symm.trans object
  refine ⟨⟨fields, (heap_putCell_of_ne other).trans object, data⟩,
    ⟨es₁, n₁, (heap_putCell_of_ne (Ne.symm apart.1)).trans sheet, there⟩, fun e at_ => ?_, unset,
    ⟨es, n, World.heap_putCell store, held⟩, apart⟩
  rw [heap_putCell_of_ne (Ne.symm (apart.2 e at_).2)]
  exact own e at_

theorem push (cell : Cell) : Plays c a d s { w with heap := w.heap.push cell } :=
  plays.congr rfl fun _ _ => (extends_push w cell).cell

theorem bound (x : String) (v : Value) : Plays c a d s (w.bindName x v) :=
  plays.congr rfl fun _ _ there => there

theorem exec_section : ∃ e w₁, Plays c a (some e) s w₁ ∧ (∀ x ∈ d, x ∈ some e) ∧ ∀ {α : Type} (f : Value → Eval α),
    (Eval.bind emptyMap fun u => .bind (entryOrPut .ask (.ref a) "cvars" u) f).exec (run (k + 3)) w =
      (f (.ref e)).exec (run (k + 3)) w₁ := by
  have plays₁ := plays.push (.dict false #[] none)
  obtain ⟨es, n, sheet, there⟩ := plays₁.data
  have put := exec_entryOrPut (n := k) sheet "cvars" (.ref w.heap.size)
  rw [there] at put
  cases d with
  | some e => exact ⟨e, _, plays₁, fun _ => id, exec_bind_ok put⟩
  | none =>
    have before {b : Addr} {cell : Cell} (found : w.heap[b]? = some cell) : w.heap.size ≠ b :=
      Nat.ne_of_gt (Array.getElem?_eq_some_iff.1 found).1
    obtain ⟨_, _, old, -⟩ := plays.data
    obtain ⟨_, _, store, -⟩ := plays.session
    exact ⟨_, _, plays₁.put_section sheet Array.getElem?_push_size ⟨before old, before store⟩, nofun, exec_bind_ok put⟩

theorem exec_set (x v : String) (g g' : Bool) : ∃ w' d',
    (setPlayedVariable .ask (.ref a) (.str x g) (.str v g')).exec (run (k + 3)) w = .ok (word v) w' ∧
      Plays c a d' ⟨update s.own x (some v), update s.session x (some v)⟩ w' ∧ ∀ e ∈ d, e ∈ d' := by
  obtain ⟨e, w₁, plays₁, stays, section_⟩ := plays.exec_section
  obtain ⟨es, n, own, held⟩ := plays₁.own e rfl
  have plays₂ := plays₁.put_own n (held.put x v)
  obtain ⟨es', n', store, held'⟩ := plays₂.session
  have plays₃ := (plays₂.put_session n' (held'.put x v)).bound x (word v)
  refine ⟨_, _, ?_, plays₃, stays⟩
  have key : (textValue .ask (.str x g)).exec (run (k + 3)) w₁ = .ok (word x) w₁ := rfl
  have variable_ : (setVariable .ask (.ref a) (.str x g) (.str v g')).exec (run (k + 3)) w = .ok (word v) _ :=
    (section_ _).trans ((exec_bind_ok key _).trans (exec_bind_ok (exec_setItem own x false (word v)) _))
  refine (exec_bind_ok variable_ _).trans ?_
  exact exec_bind_ok (exec_setItem store x false (word v)) _

theorem exec_vars : ∃ w₁ r es n, (mapEntry .ask (.ref a) "cvars").exec (run (k + 1)) w =
    .ok (.ref r) w₁ ∧ Plays c a d s w₁ ∧ w₁.heap[r]? = some (.dict false es n) ∧ Held es s.own := by
  obtain ⟨es, n, sheet, there⟩ := plays.data
  cases d with
  | none =>
    exact ⟨_, _, #[], none, exec_mapEntry_anew (mappingAt_of_cell sheet) (by rw [there]; rfl) (.inl rfl) k,
      plays.push _, Array.getElem?_push_size, plays.unset rfl⟩
  | some e =>
    obtain ⟨fs, m, own, held⟩ := plays.own e rfl
    have listed : (es.get? (.str "cvars")).getD .none = .ref e := by rw [there]; rfl
    by_cases empty : fs.size = 0
    · obtain rfl := Array.size_eq_zero_iff.mp empty
      exact ⟨_, _, #[], none, exec_mapEntry_anew (mappingAt_of_cell sheet) listed (.inr (mappingAt_of_cell own)) k,
        plays.push _, Array.getElem?_push_size, held⟩
    · exact ⟨w, e, fs, m, exec_mapEntry (mappingAt_of_cell sheet) listed (mappingAt_of_cell own) empty k, plays, own,
        held⟩

end Plays

/-! ## 4. Calls -/

/-- A text as a script has it. -/
def said : Option String → Value
  | none => .none
  | some t => .str t true

def Call.task (c : Addr) : Call → Script.Task Value
  | get name default => .method (.ref c) "get_cvar" [said name, said default] []
  | set name v => .method (.ref c) "set_cvar" [said name, said v] []
  | setNew name v => .method (.ref c) "set_cvar_nx" [said name, said v] []
  | delete name => .method (.ref c) "delete_cvar" [said name] []

theorem Plays.call (plays : Plays c a d s w) (call : Call) : ∃ w' d',
    run (k + 4) (call.task c) w = .ok (heard (call.answer s)) w' ∧ Plays c a d' (call.after s) w' ∧
      ∀ e ∈ d, e ∈ d' := by
  obtain ⟨fields, object, data⟩ := plays.object
  cases call with
  | get name default =>
    obtain ⟨w₁, r, es, n, vars, plays₁, found, held⟩ := plays.exec_vars
    have rule : run (k + 4) (Call.task c (.get name default)) w =
        (Eval.bind (mapEntry .ask (dataField fields) "cvars") fun vars => .bind (textValue .ask (said name)) fun key =>
          .bind (send .ask vars "get" [key, said default]) fun v =>
            if v.isNone then .pure (said default) else textValue .ask v).exec (run (k + 3)) w :=
      (exec_found _ object).trans rfl
    have key : (textValue .ask (said name)).exec (run (k + 3)) w₁ = .ok (word name) w₁ := rfl
    refine ⟨w₁, d, ?_, plays₁, fun _ => id⟩
    rw [rule, data]
    refine (exec_bind_ok vars _).trans ((exec_bind_ok key _).trans ?_)
    refine (exec_bind_ok (exec_get found name false (said default)) _).trans ?_
    rw [held name, Call.answer]
    cases s.own name <;> cases default <;> rfl
  | set name v =>
    have rule : run (k + 4) (Call.task c (.set name v)) w =
        (setPlayedVariable .ask (dataField fields) (said name) (said v)).exec (run (k + 3)) w :=
      (exec_found _ object).trans rfl
    rw [rule, data]
    exact plays.exec_set name v true true
  | setNew name v =>
    obtain ⟨es, n, store, held⟩ := plays.session
    have rule : run (k + 4) (Call.task c (.setNew name v)) w =
        (Eval.bind (.ask (.contains (.ref w.session.cvars) (word name))) fun there =>
          if there then .ask (.item (.ref w.session.cvars) (word name))
          else setPlayedVariable .ask (dataField fields) (word name) (said v)).exec (run (k + 3)) w :=
      (exec_found _ object).trans rfl
    have counts : (ask (.contains (.ref w.session.cvars) (word name))).exec (run (k + 3)) w = .ok _ w :=
      exec_contains store name false
    rw [rule, data, exec_bind_ok counts, held name, Call.answer, Call.after]
    cases there : s.session name with
    | some u => exact ⟨w, d, exec_item store name false (by rw [held, there]; rfl), plays, fun _ => id⟩
    | none => exact plays.exec_set name v false true
  | delete name =>
    obtain ⟨e, w₁, plays₁, stays, section_⟩ := plays.exec_section
    obtain ⟨es, n, own, held⟩ := plays₁.own e rfl
    have rule : run (k + 4) (Call.task c (.delete name)) w =
        (Eval.bind emptyMap fun e => .bind (entryOrPut .ask (dataField fields) "cvars" e) fun vars =>
          .bind (textValue .ask (said name)) fun key => send .ask vars "pop" [key, .none]).exec (run (k + 3)) w :=
      (exec_found _ object).trans rfl
    have key : (textValue .ask (said name)).exec (run (k + 3)) w₁ = .ok (word name) w₁ := rfl
    obtain ⟨w', popped, left⟩ := exec_pop own name false
    rw [rule, data, section_]
    refine ⟨w', some e, ((exec_bind_ok key _).trans popped).trans ?_, ?_, stays⟩
    · rw [held name, Call.answer]
      cases s.own name <;> rfl
    · rcases left with ⟨rfl, missing⟩ | ⟨n', rfl⟩
      · have none : s.own name = none := by rwa [held name, Option.map_eq_none_iff] at missing
        rwa [Call.after, ← none, update_eq_self]
      · exact plays₁.put_own n' (held.erase name)

/-! ## 5. Calls one after the other -/

def answers (s : Store) : List Call → List (Option String)
  | [] => []
  | call :: calls => call.answer s :: answers (call.after s) calls

def afterAll (s : Store) (calls : List Call) : Store := calls.foldl Call.after s

/-- The same calls on one map. -/
def mapAnswers (m : Variables) : List Call → List (Option String)
  | [] => []
  | call :: calls => (call.ofMap m).1 :: mapAnswers (call.ofMap m).2 calls

/-- A world in which calls have been made one after the other, with their answers. -/
inductive Made (k : Nat) (c : Addr) : World → List Call → List (Option String) → World → Prop where
  | none (w : World) : Made k c w [] [] w
  | next {w w₁ w' : World} {call : Call} {calls : List Call} {r : Option String} {rs : List (Option String)}
    (first : run k (call.task c) w = .ok (heard r) w₁) (rest : Made k c w₁ calls rs w') :
    Made k c w (call :: calls) (r :: rs) w'

theorem Plays.calls (plays : Plays c a d s w) (calls : List Call) :
    ∃ w' d', Made (k + 4) c w calls (answers s calls) w' ∧ Plays c a d' (afterAll s calls) w' ∧ ∀ e ∈ d, e ∈ d' := by
  induction calls generalizing s w d with
  | nil => exact ⟨w, d, .none w, plays, fun _ => id⟩
  | cons call calls ih =>
    obtain ⟨w₁, d₁, first, plays₁, stays⟩ := plays.call call
    obtain ⟨w', d', rest, plays', stays'⟩ := ih plays₁
    exact ⟨w', d', .next first rest, plays', fun e at_ => stays' e (stays e at_)⟩

def Call.deletes : Call → Bool
  | delete _ => true
  | _ => false

theorem Call.agree (call : Call) (kept : call.deletes = false) :
    call.answer ⟨m, m⟩ = (call.ofMap m).1 ∧ call.after ⟨m, m⟩ = ⟨(call.ofMap m).2, (call.ofMap m).2⟩ := by
  cases call with
  | get | set => exact ⟨rfl, rfl⟩
  | setNew name v =>
    dsimp only [answer, after, ofMap]
    cases m name <;> exact ⟨rfl, rfl⟩
  | delete => cases kept

theorem answers_of_agree (m : Variables) (kept : ∀ call ∈ calls, call.deletes = false) :
    answers ⟨m, m⟩ calls = mapAnswers m calls := by
  induction calls generalizing m with
  | nil => rfl
  | cons call calls ih =>
    obtain ⟨first, rest⟩ := List.forall_mem_cons.mp kept
    obtain ⟨same, left⟩ := call.agree first
    rw [answers, mapAnswers, same, left, ih _ rest]

/-- **The variables of a played character, under calls in any order.**  What is read is what was written
    last and not deleted since, but whether a variable is new is seen by what the session has.  Without
    deletions, and where both had the same, the answers are those of one map. -/
theorem variables_kept_twice {s : Store} (plays : Plays c a d s w) (k : Nat) (calls : List Call) :
    (∃ w' d', Made (k + 4) c w calls (answers s calls) w' ∧ Plays c a d' (afterAll s calls) w' ∧ ∀ e ∈ d, e ∈ d') ∧
    (s.own = s.session → (∀ call ∈ calls, call.deletes = false) → answers s calls = mapAnswers s.own calls) := by
  refine ⟨plays.calls calls, fun same kept => ?_⟩
  obtain ⟨own, session⟩ := s
  obtain rfl : own = session := same
  exact answers_of_agree own kept

/-- A character without data, in a session without variables. -/
def playing : World :=
  { heap := #[.dict false #[] none, .dict false #[] none, .dict false #[] none,
      .object .playedCharacter [("_data", .ref 2)]] }

theorem plays_playing : Plays 3 2 none ⟨fun _ => none, fun _ => none⟩ playing where
  object := ⟨_, rfl, rfl⟩
  data := ⟨_, _, rfl, rfl⟩
  own := nofun
  unset _ := fun _ => rfl
  session := ⟨_, _, rfl, fun _ => rfl⟩
  apart := ⟨by decide, nofun⟩

theorem variables_kept_twice_playing : Plays 3 2 none ⟨fun _ => none, fun _ => none⟩ playing ∧
    ∃ w', Made 4 3 playing [.set "hp" "7", .setNew "hp" "9", .get "hp" none] [some "7", some "7", some "7"] w' := by
  obtain ⟨w', -, made, -⟩ := (variables_kept_twice plays_playing 0 [.set "hp" "7", .setNew "hp" "9", .get "hp" none]).1
  exact ⟨plays_playing, w', made⟩

/-- A variable that has been deleted is not set anew. -/
theorem deleted_variable_is_not_new :
    let calls : List Call := [.set "hp" "7", .delete "hp", .setNew "hp" "9", .get "hp" none]
    ∃ w', Made 4 3 playing calls [some "7", some "7", some "7", none] w' ∧
      mapAnswers (fun _ => none) calls = [some "7", some "7", some "9", some "9"] := by
  intro calls
  obtain ⟨w', -, made, -⟩ := plays_playing.calls (k := 0) calls
  exact ⟨w', made, by decide⟩

end AliasTools.Sheet
