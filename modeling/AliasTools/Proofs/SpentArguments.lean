import AliasTools.Proofs.GivenArguments
import AliasTools.Proofs.Runs

/-!
# Arguments that are used up

An argument that is good for so many uses is handed out so often and no more, whatever a script does with the
tables that lead to it, as long as it only reads them.
-/

namespace AliasTools.Script

open List ArgumentTable

/-- An argument that is handed out, and where it stands. -/
structure Handed where
  table : Addr
  key : Key
  place : Nat
  argument : Argument

def Event.handed : Event → List Handed
  | .tabled a (.read k r) t => (r.handed (t.items k)).map fun (x, i) => ⟨a, k, i, x⟩
  | _ => []

def handedIn (h : List Event) : List Handed := h.flatMap Event.handed

/-- How often the argument at a place is handed out in a history. -/
def times (a : Addr) (k : Key) (i : Nat) (h : List Event) : Nat :=
  (handedIn h).countP fun g => g.table == a && g.key == k && g.place == i

/-- No arguments are set or dropped. -/
def TableChange.reads : TableChange → Bool
  | .set _ _ _ | .drop _ => false
  | _ => true

/-- An argument after it was handed out some times. -/
structure Argument.Spent (x : Argument) (times : Nat) (x' : Argument) : Prop where
  value : x'.value = x.value
  uses : x'.uses = x.uses
  used : x'.used = x.used + times

def World.argument? (w : World) (a : Addr) (k : Key) (i : Nat) : Option Argument := ((w.argumentsAt a).items k)[i]?

variable {a b : Addr} {k l : Key} {i n : Nat} {x : Argument} {r : Reading} {xs : List Argument}
  {answer : Answering} {w w' : World} {h : List Event} {c d : Cell}

/-! ## 1. One reading -/

theorem Reading.nodup_handed (r : Reading) (xs : List Argument) : ((r.handed xs).map (·.2)).Nodup := by
  have ready : ((r.ready xs).map (·.2)).Nodup := by
    refine (filter_sublist.map _).nodup ?_
    rw [zipIdx_map_snd]
    exact nodup_range' ..
  unfold Reading.handed
  split
  · cases (r.ready xs).getLast? <;> simp
  · exact ready

theorem Reading.spent_rest (there : xs[i]? = some x) (limited : x.uses = some n) :
    ∃ x', (r.rest xs)[i]? = some x' ∧ x.Spent (((r.handed xs).map (·.2)).count i) x' := by
  refine ⟨_, by rw [rest, getElem?_mapIdx, there]; rfl, ?_⟩
  rw [(r.nodup_handed xs).count]
  split
  · next handed =>
    obtain ⟨⟨y, j⟩, given, rfl⟩ := mem_map.1 handed
    obtain ⟨placed, ready⟩ := mem_handed given
    obtain rfl := Option.some.inj (there.symm.trans placed)
    unfold Argument.isReady at ready
    unfold Argument.use
    grind [Argument.Spent]
  · next other =>
    dsimp only
    rw [if_neg (mt contains_iff_mem.1 other)]
    exact ⟨rfl, rfl, rfl⟩

theorem ArgumentTable.items_updateGroup (t : ArgumentTable) (f : List Argument → List Argument) (empty : f [] = []) :
    (t.updateGroup k f).items l = if k == l then f (t.items l) else t.items l := by
  obtain ⟨groups⟩ := t
  simp only [items, group?, updateGroup]
  induction groups with
  | nil => simp [empty]
  | cons g groups ih =>
    simp only [map_cons, find?_cons]
    grind

theorem times_append (a : Addr) (k : Key) (i : Nat) (h h' : List Event) :
    times a k i (h ++ h') = times a k i h + times a k i h' := by
  simp [times, handedIn]

theorem TableChange.spent (what : TableChange) (reads : what.reads = true) (t : ArgumentTable)
    (there : (t.items l)[i]? = some x) (limited : x.uses = some n) (a : Addr) :
    ∃ x', ((what.apply t).items l)[i]? = some x' ∧ x.Spent (times a l i [.tabled a what t]) x' := by
  cases what with
  | touch k name => exact ⟨x, by rwa [(touched_touch (mem_singleton_self name) t).items], rfl, rfl, rfl⟩
  | read k r =>
    rw [apply, items_updateGroup _ _ rfl]
    cases here : k == l with
    | true =>
      obtain rfl := eq_of_beq here
      simpa [times, handedIn, Event.handed, count_eq_countP, countP_map, Function.comp_def] using
        r.spent_rest there limited
    | false => exact ⟨x, there, rfl, rfl, by simp [times, handedIn, Event.handed, Function.comp_def, here]⟩
  | enter context => exact ⟨x, there, rfl, rfl, rfl⟩
  | attach k context table =>
    refine ⟨x, ?_, rfl, rfl, rfl⟩
    rw [apply, ArgumentTable.attach]
    split <;> exact there
  | set | drop => cases reads

/-! ## 2. Whole runs -/

theorem World.table_of_argument? (there : w.argument? b l i = some x) : ∃ t m, w.heap[b]? = some (.arguments t m) := by
  unfold World.argument? World.argumentsAt at there
  split at there
  · next t m found => exact ⟨t, m, found⟩
  · cases there

theorem World.argument?_putCell (found : w.heap[a]? = some c)
    (same : ∀ t m, c = .arguments t m → ∃ m', d = .arguments t m') (there : w.argument? b l i = some x) :
    (w.putCell a d).argument? b l i = some x := by
  obtain ⟨t, m, table⟩ := table_of_argument? there
  rw [← there]
  unfold World.argument? World.argumentsAt
  by_cases here : a = b
  · subst here
    obtain ⟨m', rfl⟩ := same t m (Option.some.inj (found.symm.trans table))
    rw [heap_putCell found, table]
  · rw [World.putCell, Array.getElem?_setIfInBounds_ne here]

theorem Moves.spent (moves : Moves w h w') (reads : ∀ a what t, .tabled a what t ∈ h → what.reads = true)
    (there : w.argument? b l i = some x) (limited : x.uses = some n) :
    ∃ x', w'.argument? b l i = some x' ∧ x.Spent (times b l i h) x' := by
  induction moves generalizing x with
  | remark w e remark => cases remark <;> exact ⟨x, there, rfl, rfl, rfl⟩
  | alter w a what c found =>
    refine ⟨x, World.argument?_putCell found (fun t m is => ?_) there, rfl, rfl, rfl⟩
    subst is
    cases what with
    | exchange new n => cases n <;> exact ⟨_, rfl⟩
    | _ => exact ⟨_, rfl⟩
  | put w a c c' found renewed =>
    exact ⟨x, World.argument?_putCell found (fun t m is => by subst is; cases renewed) there, rfl, rfl, rfl⟩
  | go w a g g' found | began w a g found | ended w a g found =>
    exact ⟨x, World.argument?_putCell (d := .generator _) found nofun there, rfl, rfl, rfl⟩
  | make w c =>
    obtain ⟨t, m, table⟩ := World.table_of_argument? there
    obtain ⟨inside, -⟩ := Array.getElem?_eq_some_iff.1 table
    refine ⟨x, ?_, rfl, rfl, rfl⟩
    rwa [World.argument?, World.argumentsAt, Array.getElem?_push, if_neg (Nat.ne_of_lt inside)]
  | tabled w a what t m found =>
    by_cases here : a = b
    · subst here
      rw [World.argument?, World.argumentsAt, found] at there
      rw [World.argument?, World.argumentsAt, World.heap_putCell found]
      exact what.spent (reads _ _ _ (mem_singleton_self _)) t there limited a
    · have other : times b l i [.tabled a what t] = 0 := by
        cases what <;> simp [times, handedIn, Event.handed, here]
      refine ⟨x, ?_, rfl, rfl, by rw [other]; rfl⟩
      rwa [World.argument?, World.argumentsAt, World.putCell, Array.getElem?_setIfInBounds_ne here]
  | append _ _ first second =>
    obtain ⟨x', there', spent⟩ := first (fun a what t told => reads a what t (mem_append_left _ told)) there limited
    obtain ⟨x'', there'', spent'⟩ := second (fun a what t told => reads a what t (mem_append_right _ told)) there'
      (spent.uses.trans limited)
    refine ⟨x'', there'', spent'.value.trans spent.value, spent'.uses.trans spent.uses, ?_⟩
    rw [times_append, spent'.used, spent.used, Nat.add_assoc]
  | within enters _ inner =>
    have inside := @inner x (fun a what t told => reads a what t (by simp [told]))
    have told (r : Region) (h : List Event) : times b l i (.entered r :: h ++ [.left r]) = times b l i h := by
      simp [times, handedIn, Event.handed]
    rw [told]
    cases enters <;> exact inside there limited
  | _ => exact ⟨x, there, rfl, rfl, rfl⟩

/-! ## 3. Calls -/

/-- What a computation does to tables, other than what it asks for, is as `p` says. -/
def Tables {α : Type} (answer : Answering) (p : TableChange → Prop) (x : Eval α) : Prop :=
  ∀ w a what t, .tabled a what t ∈ x.log answer (fun _ _ => []) w → p what

section

variable {α β : Type} {p : TableChange → Prop} {y : Eval α} {f : α → Eval β}

theorem Tables.bind (first : Tables answer p y)
    (rest : ∀ v w w', y.exec answer w = .ok v w' → Tables answer p (f v)) : Tables answer p (.bind y f) := by
  intro w a what t told
  rw [Eval.log, mem_append] at told
  rcases told with told | told
  · exact first w a what t told
  · split at told
    · next v w' ran => exact rest v w w' ran w' a what t told
    · cases told

theorem Tables.then (first : Tables answer p y) (rest : ∀ v, Tables answer p (f v)) : Tables answer p (.bind y f) :=
  first.bind fun v _ _ _ => rest v

theorem Tables.onFault {answers : Fault → Bool} {f : Fault → Eval α} (first : Tables answer p y)
    (rest : ∀ e, Tables answer p (f e)) : Tables answer p (.onFault y answers f) := by
  intro w a what t told
  rw [Eval.log, mem_append] at told
  rcases told with told | told
  · exact first w a what t told
  · split at told
    · split at told
      · exact rest _ _ a what t told
      · cases told
    · cases told

end

section

variable (ephem : Value) (a : Addr) (name : Value)

end

/-! ## 4. What calls hand out -/

section

variable {α β : Type} {y : Eval α}

end

end AliasTools.Script
