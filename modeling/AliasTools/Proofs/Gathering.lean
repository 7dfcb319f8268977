import AliasTools.Proofs.Pools

/-!
# Several variables at once

A job that makes sure of several variables looks for each of them by itself, and the answers come in any
order.
-/

namespace AliasTools.Script

open List World List.Sublist

variable {fetches : List Fetch} {i : Nat} {key : String}

/-! ## 1. What is left to fetch -/

def dueKeys (fetches : List Fetch) : List String := (fetches.filter (!·.sent)).map (·.key)

def movesLeft : List Fetch → Nat
  | [] => 0
  | f :: fetches => (if f.sent then 1 else 2) + movesLeft fetches

theorem movesLeft_append (fs gs : List Fetch) : movesLeft (fs ++ gs) = movesLeft fs + movesLeft gs := by
  induction fs with
  | nil => simp [movesLeft]
  | cons f fs ih => simp [movesLeft, ih, Nat.add_assoc]

theorem movesLeft_due (keys : List String) : movesLeft (keys.map fun key => { key := key }) = 2 * keys.length := by
  induction keys with
  | nil => rfl
  | cons key keys ih =>
    simp only [map_cons, movesLeft]
    simp
    omega

theorem dueKeys_due (keys : List String) : dueKeys (keys.map fun key => { key := key }) = keys := by
  induction keys with
  | nil => rfl
  | cons key keys ih => simpa [dueKeys] using ih

theorem split_at {β : Type} {l : List β} {x : β} (found : l[i]? = some x) :
    ∃ front back, l = front ++ x :: back ∧ l.eraseIdx i = front ++ back ∧ ∀ y, l.set i y = front ++ y :: back := by
  obtain ⟨inside, same⟩ := List.getElem?_eq_some_iff.mp found
  refine ⟨l.take i, l.drop (i + 1), ?_, eraseIdx_eq_take_drop_succ l i, fun y => ?_⟩
  · rw [← same, getElem_cons_drop, take_append_drop]
  · rw [set_eq_take_append_cons_drop, if_pos inside]

/-! ## 2. The states of the job -/

def World.sentFor (w : World) (key : String) : Request := (w.session.service.gvarRequest key).encoded

def World.wanted (w : World) (keys : List String) : List String :=
  if w.session.service.canFetch then w.missing keys else []

/-- What is shared while a job that began in the world `w` waits for its fetches. -/
structure World.Awaits (w : World) (keys : List String) (fetches : List Fetch) (s : Shared) : Prop where
  grows : w.store.Grows s.store
  distinct : (fetches.map (·.key)).Nodup
  missing : ∀ f ∈ fetches, s.store.has f.key = false
  /-- What was asked for and what is due make up what is wanted. -/
  asked : ∃ asked, s.requests = asked.map w.sentFor ++ w.session.requests ∧
    (asked ++ dueKeys fetches).Perm (w.wanted keys)

/-- The states of a job that makes sure of `keys` and began in the world `w`, with the number of moves it
    has left at most. -/
inductive Gathers (w : World) (keys : List String) : Nat → Pool Report → Prop where
  | begun : Gathers w keys (2 * (w.missing keys).length + 2) (w.hosts (.going (Fetching.ensureMany keys)))
  | waiting {fetches : List Fetch} {s : Shared} (awaits : w.Awaits keys fetches s) :
    Gathers w keys (movesLeft fetches + 1) ((w.sharing s).hosts (.waiting ((w.sharing s).report keys) fetches pure))
  | finished {s : Shared} (awaits : w.Awaits keys [] s) :
    Gathers w keys 0 ((w.sharing s).hosts (.finished (.ok ((w.sharing s).report keys))))

section

variable {w : World} {keys : List String} {s : Shared}

theorem proceed_ensureMany (n : World → Nat) (w : World) (keys : List String) :
    (w.waitsFor keys = true ∧ (Fetching.ensureMany keys : Job Report).proceed n w =
      (.waiting (w.report keys) ((w.missing keys).map fun key => { key := key }) pure, [], w)) ∨
    (w.waitsFor keys = false ∧ ∃ s, (Fetching.ensureMany keys : Job Report).proceed n w =
      (.finished (.ok ((w.sharing s).report keys)), [], w.sharing s) ∧ w.Ensures keys s ∧ w.Quiet keys s) := by
  show (_ ∧ (Job.fetch keys pure).proceed n w = _) ∨ (_ ∧ ∃ s, (Job.fetch keys pure).proceed n w = _ ∧ _)
  rw [Job.proceed]
  cases waits : w.waitsFor keys with
  | true => exact .inl ⟨rfl, rfl⟩
  | false =>
    obtain ⟨s, ran, ensured, quiet⟩ := reports_ensureGvars keys w
    refine .inr ⟨rfl, s, ?_, ensured, quiet⟩
    rw [ran]
    rfl

theorem World.mem_missing : k ∈ w.missing keys ↔ k ∈ keys ∧ w.stores k = false := by
  rw [missing, mem_filter, Bool.not_eq_true']

theorem World.awaits_of_quiet (waits : w.waitsFor keys = false) (ensured : w.Ensures keys s)
    (quiet : w.Quiet keys s) : w.Awaits keys [] s := by
  have still : (∀ k ∈ keys, w.stores k = true) ∨ w.session.service.canFetch = false := by
    rw [waitsFor, Bool.and_eq_false_iff] at waits
    refine waits.symm.imp_left fun none k member => ?_
    rw [Bool.not_eq_false', List.isEmpty_iff] at none
    refine eq_true_of_ne_false fun missing => ?_
    have listed : k ∈ w.missing keys := mem_missing.mpr ⟨member, missing⟩
    rw [none] at listed
    exact absurd listed not_mem_nil
  have nothing : w.wanted keys = [] := by
    rw [wanted]
    rcases still with all | cannot
    · have none : w.missing keys = [] := filter_eq_nil_iff.mpr fun k member => by simp [all k member]
      rw [none, ite_self]
    · rw [cannot]
      rfl
  refine ⟨ensured.grows, nodup_nil, nofun, [], quiet still, ?_⟩
  rw [nothing]
  exact .refl _

theorem World.awaits_begun (distinct : keys.Nodup) (waits : w.waitsFor keys = true) :
    w.Awaits keys ((w.missing keys).map fun key => { key := key }) w.shared where
  grows := .refl _
  distinct := by
    rw [map_map]
    exact (map_id _).symm ▸ distinct.filter _
  missing f member := by
    obtain ⟨key, listed, rfl⟩ := mem_map.mp member
    exact (mem_missing.mp listed).2
  asked := by
    rw [waitsFor, Bool.and_eq_true] at waits
    refine ⟨[], rfl, ?_⟩
    rw [dueKeys_due, wanted, if_pos waits.1]
    exact .refl _

theorem World.Awaits.send (awaits : w.Awaits keys fetches s) (due : fetches[i]? = some ⟨key, false⟩) :
    w.Awaits keys (fetches.set i ⟨key, true⟩) { s with requests := w.sentFor key :: s.requests } ∧
      movesLeft (fetches.set i ⟨key, true⟩) < movesLeft fetches := by
  obtain ⟨front, back, rfl, -, exchanged⟩ := split_at due
  obtain ⟨asked, requests, wanted⟩ := awaits.asked
  rw [exchanged]
  refine ⟨⟨awaits.grows, ?_, ?_, key :: asked, ?_, ?_⟩, ?_⟩
  · simpa using awaits.distinct
  · intro f member
    have missing := awaits.missing
    rcases mem_append.mp member with early | late
    · exact missing f (mem_append_left _ early)
    · rcases mem_cons.mp late with rfl | late
      · exact missing ⟨key, false⟩ (mem_append_right _ mem_cons_self)
      · exact missing f (mem_append_right _ (mem_cons_of_mem _ late))
  · rw [requests]
    rfl
  · refine List.Perm.trans ?_ wanted
    have now : dueKeys (front ++ ⟨key, true⟩ :: back) = dueKeys front ++ dueKeys back := by simp [dueKeys]
    have before : dueKeys (front ++ ⟨key, false⟩ :: back) = dueKeys front ++ key :: dueKeys back := by simp [dueKeys]
    rw [now, before, ← append_assoc, ← append_assoc]
    exact perm_middle.symm
  · simp [movesLeft_append, movesLeft]

theorem World.Awaits.receive (awaits : w.Awaits keys fetches s) (sent : fetches[i]? = some ⟨key, true⟩)
    (s' : Shared) (grows : s.store.Grows s'.store) (others : ∀ k, k ≠ key → s'.store.has k = s.store.has k)
    (requests : s'.requests = s.requests) :
    w.Awaits keys (fetches.eraseIdx i) s' ∧ movesLeft (fetches.eraseIdx i) < movesLeft fetches := by
  obtain ⟨front, back, rfl, erased, -⟩ := split_at sent
  obtain ⟨asked, before, wanted⟩ := awaits.asked
  rw [erased]
  have apart : ∀ f ∈ front ++ back, f.key ≠ key := by
    have distinct := awaits.distinct
    rw [map_append] at distinct
    have apart := perm_middle.nodup_iff.mp distinct
    rw [nodup_cons, ← map_append] at apart
    rintro f member rfl
    exact apart.1 (mem_map.mpr ⟨f, member, rfl⟩)
  refine ⟨⟨awaits.grows.trans grows, ?_, fun f member => ?_, asked, requests.trans before, ?_⟩, ?_⟩
  · refine awaits.distinct.sublist (List.Sublist.map _ ?_)
    exact (refl front).append (sublist_cons_self _ _)
  · rw [others f.key (apart f member)]
    refine awaits.missing f ?_
    exact ((refl front).append (sublist_cons_self _ _)).mem member
  · have same : dueKeys (front ++ ⟨key, true⟩ :: back) = dueKeys (front ++ back) := by
      simp [dueKeys]
    rw [← same]
    exact wanted
  · simp [movesLeft_append, movesLeft]

theorem receive_changes (missing : s.store.has key = false) (taken : receive key a (w.sharing s) = .ok there w') :
    ∃ s' : Shared, w' = w.sharing s' ∧ s.store.Grows s'.store ∧
      (∀ k, k ≠ key → s'.store.has k = s.store.has k) ∧ s'.store.has key = there ∧ s'.requests = s.requests := by
  rcases receive_cases key a (w.sharing s) with ⟨-, -, passed⟩ | ⟨v, heap, put, -⟩
  · rw [passed] at taken
    cases taken
    exact ⟨s, rfl, .refl _, fun _ _ => rfl, missing, rfl⟩
  · rw [put] at taken
    cases taken
    refine ⟨{ s with heap := heap, gvars := some (s.store.put key v) }, rfl, Names.grows_put missing v,
      fun k other => (Names.has_put s.store key v k).trans ?_,
      (Names.has_put s.store key v key).trans ?_, rfl⟩
    · rw [beq_eq_false_iff_ne.mpr other, Bool.false_or]
    · rw [beq_self_eq_true, Bool.true_or]

theorem World.report_note (s' : Shared)
    (others : ∀ k, k ≠ key → s'.store.has k = s.store.has k) (here : s'.store.has key = there) :
    ((w.sharing s).report keys).note key there = (w.sharing s').report keys := by
  rw [Report.note, report, map_map]
  refine map_congr_left fun k _ => ?_
  by_cases same : k = key
  · simp [same, here]
  · simp [same, others k same]

/-- **One move** brings the job nearer to its end. -/
theorem Gathers.step (distinct : keys.Nodup) (gathers : Gathers w keys n pool)
    (moved : pool.step move = some (pool', notes)) : ∃ n' < n, Gathers w keys n' pool' := by
  obtain ⟨place, act⟩ := move
  cases gathers with
  | begun =>
    obtain ⟨stage, w', acts, rfl⟩ := step_hosts moved
    cases acts with
    | begin job m =>
      rcases proceed_ensureMany m w keys with ⟨waits, goes⟩ | ⟨waits, s, goes, ensured, quiet⟩
      · rw [goes]
        have begun := awaits_begun distinct waits
        exact ⟨_, by rw [movesLeft_due]; omega, .waiting begun⟩
      · rw [goes]
        exact ⟨0, by omega, .finished (awaits_of_quiet waits ensured quiet)⟩
  | @waiting fetches s awaits =>
    obtain ⟨stage, w', acts, rfl⟩ := step_hosts moved
    cases acts with
    | resume => exact ⟨0, Nat.succ_pos _, .finished awaits⟩
    | found r fetches next i key w due there =>
      have missing := awaits.missing ⟨key, false⟩ (mem_of_getElem? due)
      rw [stores_sharing, missing] at there
      cases there
    | send r fetches next i key w due missing =>
      obtain ⟨sent, fewer⟩ := awaits.send due
      exact ⟨_, Nat.succ_lt_succ fewer, .waiting sent⟩
    | receive r fetches next i key a there w w' sent taken =>
      have missing : s.store.has key = false := awaits.missing ⟨key, true⟩ (mem_of_getElem? sent)
      obtain ⟨s', rfl, grows, others, here, requests⟩ := receive_changes missing taken
      obtain ⟨received, fewer⟩ := awaits.receive sent s' grows others requests
      refine ⟨_, Nat.succ_lt_succ fewer, ?_⟩
      rw [report_note s' others here]
      exact .waiting received
  | finished =>
    obtain ⟨stage, w', acts, rfl⟩ := step_hosts moved
    cases acts

theorem Gathers.play (distinct : keys.Nodup) (gathers : Gathers w keys n pool)
    (played : pool.play moves = some (pool', notes)) : ∃ n', n' + moves.length ≤ n ∧ Gathers w keys n' pool' := by
  induction moves generalizing n pool notes with
  | nil =>
    cases played
    exact ⟨n, Nat.le_refl _, gathers⟩
  | cons move moves ih =>
    obtain ⟨mid, first, rest, moved, played, -⟩ := Pool.play_cons played
    obtain ⟨m, fewer, gathers⟩ := gathers.step distinct moved
    obtain ⟨n', few, gathers⟩ := ih gathers played
    exact ⟨n', by rw [length_cons]; omega, gathers⟩

theorem World.Awaits.step_isSome (awaits : w.Awaits keys fetches s) (r : Report) :
    ∃ move, (((w.sharing s).hosts (.waiting r fetches pure)).step move).isSome = true := by
  cases fetches with
  | nil => exact ⟨⟨0, .goOn rounds⟩, rfl⟩
  | cons f fetches =>
    obtain ⟨key, sent⟩ := f
    cases sent with
    | false =>
      refine ⟨⟨0, .start 0⟩, ?_⟩
      have missing : s.store.has key = false := awaits.missing ⟨key, false⟩ mem_cons_self
      simp [Pool.step, hosts, Stage.act, missing]
    | true =>
      refine ⟨⟨0, .answer 0 (.failed "")⟩, ?_⟩
      rcases receive_cases key (.failed "") (w.sharing s) with ⟨-, -, taken⟩ | ⟨v, heap, taken, -⟩
      · simp [Pool.step, hosts, Stage.act, taken]
      · simp [Pool.step, hosts, Stage.act, taken]

theorem World.mem_wanted : k ∈ w.wanted keys ↔ w.session.service.canFetch = true ∧ k ∈ keys ∧ w.stores k = false := by
  rw [wanted]
  split
  · next able => simp [able, mem_missing]
  · next unable => simp [unable]

theorem World.Awaits.asked_once (distinct : keys.Nodup) (awaits : w.Awaits keys fetches s) :
    ∃ asked : List String, s.requests = asked.map w.sentFor ++ w.session.requests ∧ asked.Nodup ∧
      (∀ k ∈ asked, k ∈ keys ∧ w.stores k = false) ∧ (asked ++ dueKeys fetches).Perm (w.wanted keys) := by
  obtain ⟨asked, requests, wanted⟩ := awaits.asked
  have once : (w.wanted keys).Nodup := by
    rw [World.wanted]
    split
    · exact distinct.filter _
    · exact nodup_nil
  refine ⟨asked, requests, ?_, fun k member => ?_, wanted⟩
  · exact (nodup_append.mp (wanted.nodup_iff.mpr once)).1
  · exact (mem_wanted.mp (wanted.mem_iff.mp (mem_append_left _ member))).2

end

theorem eraseDups_of_nodup {l : List String} (distinct : l.Nodup) : l.eraseDups = l := by
  induction l with
  | nil => rfl
  | cons k l ih =>
    obtain ⟨fresh, distinct⟩ := nodup_cons.mp distinct
    have others : (l.filter fun x => !x == k) = l :=
      filter_eq_self.mpr fun x member => by
        rw [Bool.not_eq_true', beq_eq_false_iff_ne]
        exact fun same => fresh (same ▸ member)
    rw [eraseDups_cons, others, ih distinct]

/-- **Making sure of several variables tells what the store has.**  Whatever is answered, a job with
    distinct keys ends after no more than two moves for each key that was missing, and two; its report says
    of each key whether the store has it, and each variable that was missing is asked for once. -/
theorem ensureMany_tells_store (w : World) (keys : List String) (distinct : keys.Nodup)
    (moves : List Move) (pool : Pool Report) (notes : List Note)
    (played : (Pool.of w.shared [(w, Fetching.ensureMany keys)]).play moves = some (pool, notes)) :
    moves.length ≤ 2 * (w.missing keys).length + 2 ∧ w.store.Grows pool.store ∧
      ∃ asked : List String, pool.shared.requests = asked.map w.sentFor ++ w.session.requests ∧
        asked.Nodup ∧ (∀ k ∈ asked, k ∈ keys ∧ w.stores k = false) ∧
        ((∃ move, (pool.step move).isSome = true) ∨
          ∃ report, pool.result? 0 = some (.ok report) ∧ report.map (·.1) = keys ∧
            (∀ k there, (k, there) ∈ report → there = pool.store.has k) ∧
            (w.session.service.canFetch = true → ∀ k ∈ keys, w.stores k = false → k ∈ asked)) := by
  have start : Gathers w keys (2 * (w.missing keys).length + 2)
      (Pool.of w.shared [(w, Fetching.ensureMany keys)]) := .begun
  obtain ⟨n, few, gathers⟩ := start.play distinct played
  refine ⟨by omega, ?_⟩
  cases gathers with
  | begun =>
    exact ⟨.refl _, [], rfl, List.nodup_nil, fun _ member => absurd member List.not_mem_nil,
      .inl ⟨⟨0, .goOn World.rounds⟩, rfl⟩⟩
  | waiting awaits =>
    obtain ⟨asked, requests, once, missing, -⟩ := awaits.asked_once distinct
    exact ⟨awaits.grows, asked, requests, once, missing, .inl (awaits.step_isSome _)⟩
  | @finished s awaits =>
    obtain ⟨asked, requests, once, missing, all⟩ := awaits.asked_once distinct
    refine ⟨awaits.grows, asked, requests, once, missing, .inr ⟨_, rfl, ?_, fun k there member => ?_,
      fun able k listed missing => ?_⟩⟩
    · rw [World.report, List.map_map, eraseDups_of_nodup distinct]
      exact List.map_id _
    · obtain ⟨k', -, same⟩ := List.mem_map.mp member
      cases same
      rfl
    · have wanted := all.mem_iff.mpr (World.mem_wanted.mpr ⟨able, listed, missing⟩)
      rwa [show dueKeys [] = [] from rfl, List.append_nil] at wanted

theorem ensureMany_tells_store_crossed :
    let w : World :=
      { session := { service := { fetches := true, token := some "t" } }, gvars := some [("c", .int 1)] }
    let moves : List Move :=
      [⟨0, .goOn World.rounds⟩, ⟨0, .start 0⟩, ⟨0, .start 1⟩,
       ⟨0, .answer 1 (.data 200 (.obj [("value", .int 7)]))⟩, ⟨0, .answer 0 (.failed "timeout")⟩,
       ⟨0, .goOn World.rounds⟩]
    ["a", "b", "c"].Nodup ∧ ∃ pool notes,
      (Pool.of w.shared [(w, Fetching.ensureMany ["a", "b", "c"])]).play moves = some (pool, notes) ∧
      pool.result? 0 = some (.ok [("a", false), ("b", true), ("c", true)]) ∧
      moves.length ≤ 2 * (w.missing ["a", "b", "c"]).length + 2 ∧ w.store.Grows pool.store ∧
      ∃ asked : List String, pool.shared.requests = asked.map w.sentFor ++ w.session.requests ∧
        asked.Nodup ∧ ∀ k ∈ asked, k ∈ ["a", "b", "c"] ∧ w.stores k = false := by
  intro w moves
  have distinct : ["a", "b", "c"].Nodup := by decide
  cases played : (Pool.of w.shared [(w, Fetching.ensureMany ["a", "b", "c"])]).play moves with
  | none => cases played
  | some last =>
    obtain ⟨pool, notes⟩ := last
    obtain ⟨few, grows, asked, requests, once, missing, -⟩ :=
      ensureMany_tells_store w ["a", "b", "c"] distinct moves pool notes played
    refine ⟨distinct, pool, notes, rfl, ?_, few, grows, asked, requests, once, missing⟩
    cases played
    rfl

end AliasTools.Script
