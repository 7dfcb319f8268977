import AliasTools.Proofs.Pools
import AliasTools.Editor.Server

/-!
# Fetched variables while other work goes on

A job fetches variables, waits, and later carries out statements that read them.  In between other jobs
move, and all have one store.
-/

namespace AliasTools.Script

open Syntax Job

variable {α : Type}

/-! ## 1. What is known of the store -/

abbrev Known := String → Option Value

def Known.In (K : Known) (t : Names) : Prop := ∀ key v, K key = some v → t.get? key = some v

def Note.after (K : Known) : Note → Known
  | .opened store => store.get?
  | .took key v => fun k => if k = key then some v else K k
  | .carried _ _ _ => K

def Note.Fits (K : Known) : Note → Prop
  | .carried body before after => K.In before.store ∧ worldOf ((runStatements .none body).run before) = after
  | _ => True

def Fit : Known → List Note → Prop
  | _, [] => True
  | K, note :: notes => note.Fits K ∧ Fit (note.after K) notes

section

variable {K : Known} {t t' : Names}

theorem Known.In.grows (known : K.In t) (grows : t.Grows t') : K.In t' :=
  fun key v found => grows key v (known key v found)

theorem Known.in_self (t : Names) : Known.In t.get? t := fun _ _ found => found

theorem Known.In.put (known : K.In t) (key : String) (v : Value) :
    Known.In (Note.after K (.took key v)) (t.put key v) := by
  intro k u found
  rw [Names.get?_put]
  change (if k = key then some v else K k) = some u at found
  split
  · next here => rwa [if_pos here] at found
  · next other =>
    rw [if_neg other] at found
    exact known k u found

theorem Fit.append (first : Fit K notes)
    (second : Fit (notes.foldl Note.after K) notes') : Fit K (notes ++ notes') := by
  induction notes generalizing K with
  | nil => exact second
  | cons note notes ih => exact ⟨first.1, ih first.2 second⟩

theorem Fit.fits (fit : Fit K (before ++ note :: after)) : note.Fits (before.foldl Note.after K) := by
  induction before generalizing K with
  | nil => exact fit.1
  | cons first before ih => exact ih fit.2

end

/-! ## 2. What moves keep of it -/

theorem Job.ended_snd {β : Type} (x : Run β) (w : World) : (ended x w).2 = worldOf (x w) := by
  rw [ended]
  cases x w <;> rfl

theorem Job.fit_proceed (n : World → Nat) (job : Job α) (w : World) (known : K.In w.store) :
    Fit K (job.proceed n w).2.1 ∧ Known.In ((job.proceed n w).2.1.foldl Note.after K) (job.proceed n w).2.2.store := by
  induction job generalizing w K with
  | finished r => exact ⟨trivial, known⟩
  | now x next ih =>
    have after := known.grows (x.grows w)
    rw [← ended_snd] at after
    exact ih _ _ after
  | anew vars next ih =>
    have opened := ih (ended (resetGvars vars) w).1 (ended (resetGvars vars) w).2 (Known.in_self _)
    exact ⟨⟨trivial, opened.1⟩, opened.2⟩
  | ready o text next ih => exact ih ((w.opened o).inText text) known
  | carry body next ih =>
    have after := known.grows ((runStatements .none body).grows w)
    rw [← ended_snd] at after
    have rest := ih (ended (runStatements .none body) w).1 _ after
    exact ⟨⟨⟨known, (ended_snd _ w).symm⟩, rest.1⟩, rest.2⟩
  | fetch keys next ih =>
    rw [proceed]
    split
    · exact ⟨trivial, known⟩
    · obtain ⟨s, ran, ensured, -⟩ := reports_ensureGvars keys w
      rw [ran]
      exact ih _ (w.sharing s) (known.grows ensured.grows)
  | rounds next ih => exact ih (n w) w known

theorem Stage.Acts.fit {stage : Stage α} {act : Act} (acts : stage.Acts act w stage' notes w') (known : K.In w.store) :
    Fit K notes ∧ Known.In (notes.foldl Note.after K) w'.store := by
  cases acts with
  | begin job n => exact job.fit_proceed n w known
  | resume r next n => exact (next r).fit_proceed n w known
  | found | send => exact ⟨trivial, known⟩
  | receive r fetches next i key a there w w' sent taken =>
    rcases receive_cases key a w with ⟨-, -, passed⟩ | ⟨v, heap, put, -⟩
    · rw [passed] at taken
      cases taken
      exact ⟨trivial, known⟩
    · rw [put] at taken
      cases taken
      have found : (w.store.put key v).get? key = some v := by rw [Names.get?_put, if_pos rfl]
      rw [show World.store _ = w.store.put key v from rfl, found]
      exact ⟨⟨trivial, trivial⟩, known.put key v⟩

namespace Pool

variable {pool pool' : Pool α} {notes : List Note} {K : Known}

theorem fit_step (moved : pool.step move = some (pool', notes)) (known : K.In pool.store) :
    Fit K notes ∧ Known.In (notes.foldl Note.after K) pool'.store := by
  obtain ⟨party, stage, w, -, acts, rfl⟩ := step_cases moved
  exact acts.fit known

theorem fit_play (played : pool.play moves = some (pool', notes))
    (known : K.In pool.store) : Fit K notes ∧ Known.In (notes.foldl Note.after K) pool'.store := by
  induction moves generalizing pool K notes with
  | nil =>
    cases played
    exact ⟨trivial, known⟩
  | cons move moves ih =>
    obtain ⟨mid, first, rest, moved, others, rfl⟩ := play_cons played
    obtain ⟨fit, known⟩ := fit_step moved known
    obtain ⟨fit', known'⟩ := ih others known
    exact ⟨fit.append fit', by rwa [List.foldl_append]⟩

end Pool

/-! ## 3. Reading what was fetched -/

def Note.Spares (key : String) : Note → Prop
  | .opened _ => False
  | .took k _ => k ≠ key
  | .carried _ _ _ => True

theorem foldl_after_of_spares {notes : List Note} (spared : ∀ n ∈ notes, n.Spares key)
    (K : Known) : notes.foldl Note.after K key = K key := by
  induction notes generalizing K with
  | nil => rfl
  | cons note notes ih =>
    rw [List.foldl_cons, ih fun n member => spared n (List.mem_cons_of_mem _ member)]
    have here := spared note List.mem_cons_self
    cases note with
    | opened store => exact here.elim
    | took k v => exact if_neg (Ne.symm here)
    | carried => rfl

theorem run_getGvar (n : Nat) (key : String) (guarded : Bool) (w : World) :
    run (n + 2) (.call (.fn .getGvar) [.str key guarded] []) w = .ok ((w.store.get? key).getD .none) w :=
  rfl

/-- **A variable that was fetched stands until the store begins anew.**  Jobs go on side by side, in any
    order and with any answers: statements find the value that an answer has put into the store wherever
    they look up a name, if nothing in between began the store anew and no other answer was taken for the
    variable. -/
theorem fetched_stands_until_opened (pool pool' : Pool α) (moves : List Move)
    (before between after : List Note) (key : String) (v : Value) (body : List Stmt) (w w' : World)
    (played : pool.play moves =
      some (pool', before ++ .took key v :: (between ++ .carried body w w' :: after)))
    (spared : ∀ n ∈ between, n.Spares key) :
    w.store.get? key = some v ∧ worldOf ((runStatements .none body).run w) = w' ∧
      ∀ u ∈ worldsRead ((runStatements .none body).history w), ∀ n guarded,
        run (n + 2) (.call (.fn .getGvar) [.str key guarded] []) u = .ok v u := by
  obtain ⟨fit, -⟩ := Pool.fit_play played (Known.in_self pool.store)
  rw [← List.cons_append, ← List.append_assoc] at fit
  obtain ⟨known, ran⟩ := fit.fits
  have stands : (before ++ .took key v :: between).foldl Note.after pool.store.get? key = some v := by
    rw [List.foldl_append, List.foldl_cons, foldl_after_of_spares spared]
    exact if_pos rfl
  have found := known key v stands
  refine ⟨found, ran, fun u member n guarded => ?_⟩
  have grows : w.store.Grows u.store := by
    refine (((runStatements .none body).runs_history w).moves.along (R := (·.store.Grows ·.store))
      Moves.grows Names.Grows.trans (fun enters => ?_)).reads u member |>.1
    cases enters <;> exact ⟨.refl _, fun _ => .refl _⟩
  rw [run_getGvar, grows key v found]
  rfl

def fetchingWorld : World where
  builtins := [("get_gvar", .fn .getGvar)]
  session := { service := { fetches := true, token := some "t" } }
  gvars := some []
  heap := #[.dict false #[] none]

/-- Statements that give the variable `k`. -/
def givesK : List Stmt :=
  [.ret default (some (.call default (.name default "get_gvar" .load) [.constant default (.str "k" false)] []))]

/-- A job that fetches `k` and gives it, beside another job. -/
def readerBeside (other : Job Value) : Pool Value :=
  .of fetchingWorld.shared [(fetchingWorld, statements ["k"] givesK), (fetchingWorld, other)]

def bringsInt (n : Int) : Answer := .data 200 (.obj [("value", .int n)])

/-- The first job asks for `k` and gets 7. -/
def fetchK : List Move := [⟨0, .goOn World.rounds⟩, ⟨0, .start 0⟩, ⟨0, .answer 0 (bringsInt 7)⟩]

theorem fetched_stands_until_opened_beside :
    ∃ pool w w',
      (readerBeside (Job.statements ["j"] [])).play (fetchK ++ [⟨1, .goOn World.rounds⟩, ⟨1, .start 0⟩,
          ⟨1, .answer 0 (bringsInt 8)⟩, ⟨0, .goOn World.rounds⟩]) =
        some (pool, [] ++ .took "k" (.int 7) :: ([.took "j" (.int 8)] ++ .carried givesK w w' :: [])) ∧
      (∀ n ∈ [Note.took "j" (.int 8)], n.Spares "k") ∧
      w.store.get? "k" = some (.int 7) ∧ worldOf ((runStatements .none givesK).run w) = w' ∧
      ∀ u ∈ worldsRead ((runStatements .none givesK).history w), ∀ n guarded,
        run (n + 2) (.call (.fn .getGvar) [.str "k" guarded] []) u = .ok (.int 7) u := by
  have spared : ∀ n ∈ [Note.took "j" (.int 8)], n.Spares "k" := by
    intro n member
    rw [List.mem_singleton.mp member]
    show "j" ≠ "k"
    decide
  cases played : (readerBeside (Job.statements ["j"] [])).play (fetchK ++ [⟨1, .goOn World.rounds⟩,
      ⟨1, .start 0⟩, ⟨1, .answer 0 (bringsInt 8)⟩, ⟨0, .goOn World.rounds⟩]) with
  | none => cases played
  | some last =>
    obtain ⟨pool, notes⟩ := last
    obtain ⟨w, w', rfl⟩ : ∃ w w', notes =
        [] ++ .took "k" (.int 7) :: ([.took "j" (.int 8)] ++ .carried givesK w w' :: []) := by
      cases played
      exact ⟨_, _, rfl⟩
    exact ⟨pool, w, w', rfl, spared,
      fetched_stands_until_opened _ pool _ [] _ [] "k" (.int 7) givesK w w' played spared⟩

def completing : Job Value := do
  let vars : Workspace.Vars := { cvars := .ref 0, uvars := .ref 0, svars := .ref 0, gvars := .ref 0 }
  let profile : Workspace.Profile :=
    { name := "p", ctx := .ref 0, combat := .none, character := .ref 0, vars := vars, description := "" }
  let config : Workspace.Config := { (default : Workspace.Config) with profiles := [("p", profile)] }
  let server : Editor.Server := { loaded := some { root := none, config := config, warnings := [] } }
  let _ ← server.completionsAt { address := none, source := "" } default
  return .none

def valueAfter (other : Job Value) (moves : List Move) : Option Value :=
  match ((readerBeside other).play moves).bind (·.1.result? 0) with
  | some (.ok v) => some v
  | _ => none

/-- A completion asked for between fetching and reading begins the store anew: the variable reads as
    nothing, which is 7 without it. -/
theorem completion_loses_fetched :
    valueAfter completing (fetchK ++ [⟨0, .goOn World.rounds⟩]) = some (.int 7) ∧
      valueAfter completing (fetchK ++ [⟨1, .goOn World.rounds⟩, ⟨0, .goOn World.rounds⟩]) =
        some .none := by
  refine ⟨rfl, ?_⟩
  have lost : (valueAfter completing (fetchK ++ [⟨1, .goOn World.rounds⟩, ⟨0, .goOn World.rounds⟩])).any
      Value.isNone = true := by
    decide +kernel
  obtain ⟨v, given, isNone⟩ := (Option.any_eq_true _ _).mp lost
  cases v with
  | none => exact given
  | _ => cases isNone

end AliasTools.Script
