import AliasTools.Proofs.SharedVariables

/-!
# What jobs side by side can do

* `Stage.Acts` — all that a job can do when it is its turn, as rules, and `acts_of_act`;
* `Pool.step_cases`, `Pool.play_cons` — a pool moves on by such acts, one after the other;
* `World.hosts` — the pool of one job.
-/

namespace AliasTools.Script

variable {notes : List Note} {move : Move}

variable {α : Type}

/-- `Acts stage act w stage' notes w'`: in the world `w` a job at `stage` can do `act`, which leads to
    `stage'` in the world `w'`, and `notes` tell of it. -/
inductive Stage.Acts : Stage α → Act → World → Stage α → List Note → World → Prop where
  | begin (job : Job α) (n : World → Nat) (w : World) :
    Acts (.going job) (.goOn n) w (job.proceed n w).1 (job.proceed n w).2.1 (job.proceed n w).2.2
  | resume (r : Report) (next : Report → Job α) (n : World → Nat) (w : World) :
    Acts (.waiting r [] next) (.goOn n) w ((next r).proceed n w).1 ((next r).proceed n w).2.1 ((next r).proceed n w).2.2
  | found (r : Report) (fetches : List Fetch) (next : Report → Job α) (i : Nat) (key : String) (w : World)
    (due : fetches[i]? = some ⟨key, false⟩) (there : w.stores key = true) :
    Acts (.waiting r fetches next) (.start i) w (.waiting (r.note key true) (fetches.eraseIdx i) next) [] w
  | send (r : Report) (fetches : List Fetch) (next : Report → Job α) (i : Nat) (key : String) (w : World)
    (due : fetches[i]? = some ⟨key, false⟩) (missing : w.stores key = false) :
    Acts (.waiting r fetches next) (.start i) w (.waiting r (fetches.set i ⟨key, true⟩) next) []
      { w with session := w.session.sent (w.session.service.gvarRequest key) }
  | receive (r : Report) (fetches : List Fetch) (next : Report → Job α) (i : Nat) (key : String)
    (a : Answer) (there : Bool) (w w' : World) (sent : fetches[i]? = some ⟨key, true⟩)
    (taken : Script.receive key a w = .ok there w') :
    Acts (.waiting r fetches next) (.answer i a) w (.waiting (r.note key there) (fetches.eraseIdx i) next)
      (if there then ((w'.store.get? key).map (Note.took key)).toList else []) w'

theorem Stage.acts_of_act {stage : Stage α} {act : Act}
    (acted : stage.act act w = some (stage', notes, w')) : stage.Acts act w stage' notes w' := by
  cases stage with
  | going job =>
    cases act with
    | goOn n =>
      have rule := Stage.Acts.begin job n w
      rw [Option.some.inj acted] at rule
      exact rule
    | start i | answer i a => cases acted
  | waiting r fetches next =>
    cases act with
    | goOn n =>
      cases fetches with
      | nil =>
        have rule := Stage.Acts.resume r next n w
        rw [Option.some.inj acted] at rule
        exact rule
      | cons f fetches => cases acted
    | start i =>
      simp only [Stage.act] at acted
      split at acted
      · next key due =>
        split at acted
        · next there =>
          cases acted
          exact .found r fetches next i key w due there
        · next missing =>
          cases acted
          exact .send r fetches next i key w due (Bool.eq_false_iff.mpr missing)
      · cases acted
    | answer i a =>
      simp only [Stage.act] at acted
      split at acted
      · next key sent =>
        split at acted
        · next there w' taken =>
          cases acted
          exact .receive r fetches next i key a there w _ sent taken
        · cases acted
      · cases acted
  | finished r => cases act <;> cases acted

namespace Pool

theorem step_cases {pool : Pool α} (moved : pool.step move = some (pool', notes)) :
    ∃ party stage w, pool.parties[move.place]? = some party ∧
      party.stage.Acts move.act (party.own.sharing pool.shared) stage notes w ∧
      pool' = { shared := w.shared
                parties := pool.parties.set move.place { own := w, stage := stage } } := by
  unfold Pool.step at moved
  cases found : pool.parties[move.place]? with
  | none =>
    rw [found] at moved
    cases moved
  | some party =>
    rw [found] at moved
    cases acted : party.stage.act move.act (party.own.sharing pool.shared) with
    | none => simp [acted] at moved
    | some end' =>
      obtain ⟨stage, told, w⟩ := end'
      simp [acted] at moved
      obtain ⟨rfl, rfl⟩ := moved
      exact ⟨party, stage, w, rfl, Stage.acts_of_act acted, rfl⟩

theorem play_cons {pool : Pool α} (played : pool.play (move :: moves) = some (pool', notes)) :
    ∃ mid first rest, pool.step move = some (mid, first) ∧ mid.play moves = some (pool', rest) ∧
      notes = first ++ rest := by
  rw [Pool.play] at played
  cases moved : pool.step move with
  | none =>
    rw [moved] at played
    cases played
  | some mid =>
    obtain ⟨mid, first⟩ := mid
    cases rest : mid.play moves with
    | none => simp [moved, rest] at played
    | some last =>
      obtain ⟨last, more⟩ := last
      simp [moved, rest] at played
      obtain ⟨rfl, rfl⟩ := played
      exact ⟨mid, first, more, rfl, rest, rfl⟩

end Pool

def World.hosts (w : World) (stage : Stage α) : Pool α where
  shared := w.shared
  parties := [{ own := w, stage := stage }]

theorem World.step_hosts {stage : Stage α} (moved : (w.hosts stage).step move = some (pool, notes)) :
    ∃ stage' w', stage.Acts move.act w stage' notes w' ∧ pool = w'.hosts stage' := by
  obtain ⟨party, stage', w', found, acts, rfl⟩ := Pool.step_cases moved
  rw [World.hosts, List.getElem?_singleton] at found
  split at found
  · next here =>
    cases found
    exact ⟨stage', w', acts, by rw [here]; rfl⟩
  · cases found

end AliasTools.Script
