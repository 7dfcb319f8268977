import AliasTools.Proofs.SharedObjects

/-!
# The store of shared variables

* `Names.Grows`, `Moves.grows` — whatever a script does, no variable leaves the store or gets another
  value there;
* `ensures_ensureGvar` — what becomes of the store and of the requests when a variable is made sure of;
* `reports_ensureGvars` — the same for several variables, one after the other.
-/

namespace AliasTools.Script

open Syntax List Names World

variable {key : String} {t : Names} {w : World}

/-! ## 1. Stores that grow -/

def Names.Grows (t t' : Names) : Prop := ∀ key v, t.get? key = some v → t'.get? key = some v

theorem Names.Grows.refl (t : Names) : t.Grows t := fun _ _ found => found

theorem Names.Grows.trans (first : t.Grows t') (second : t'.Grows t'') : t.Grows t'' :=
  fun key v found => second key v (first key v found)

theorem Names.has_iff : t.has key = true ↔ ∃ v, t.get? key = some v := Option.isSome_iff_exists

theorem Names.has_eq_false_iff : t.has key = false ↔ t.get? key = none :=
  Option.isSome_eq_false_iff.trans Option.isNone_iff_eq_none

theorem Names.Grows.has (grows : t.Grows t') (there : t.has key = true) : t'.has key = true := by
  obtain ⟨v, found⟩ := has_iff.mp there
  exact has_iff.mpr ⟨v, grows key v found⟩

theorem Names.grows_put (new : t.has key = false) (v : Value) : t.Grows (t.put key v) := by
  intro k u found
  rw [get?_put, if_neg, found]
  rintro rfl
  rw [has_eq_false_iff.mp new] at found
  cases found

theorem Names.put_of_new (new : t.has key = false) (v : Value) : t.put key v = t ++ [(key, v)] := by
  induction t with
  | nil => rfl
  | cons p t ih =>
    rw [has_cons, Bool.or_eq_false_iff] at new
    have other : (p.1 == key) = false := by rw [BEq.comm]; exact new.1
    rw [put, other, ih new.2]
    rfl

/-- **Whatever a script does, the store grows.** -/
theorem Moves.grows (moves : Moves w h w') : w.store.Grows w'.store := by
  induction moves with
  | kept w key v new => exact grows_put new v
  | append _ _ first second => exact first.trans second
  | within enters _ inner => cases enters <;> exact inner
  | _ => exact .refl _

theorem Eval.grows {α : Type} (x : Eval α) (w : World) : w.store.Grows (worldOf (x.run w)).store :=
  (x.runs_history w).moves.grows

/-! ## 2. Values of data -/

/-- A value is a text just when data is, and then the same. -/
structure Value.Writes (v : Value) (j : Json) : Prop where
  text : ∀ t guarded, v = .str t guarded → j = .str t
  written : ∀ t, j = .str t → v = .str t false

mutual

theorem exec_valueOfJson (j : Json) (w : World) :
    ∃ v heap, (∀ answer, (valueOfJson j).exec answer w = .ok v { w with heap := heap }) ∧
      (v = .none → j = .null) ∧ v.Writes j := by
  cases j with
  | null => exact ⟨.none, w.heap, fun _ => rfl, fun _ => rfl, nofun, nofun⟩
  | bool b => exact ⟨.bool b, w.heap, fun _ => rfl, nofun, nofun, nofun⟩
  | int n => exact ⟨.int n, w.heap, fun _ => rfl, nofun, nofun, nofun⟩
  | float x => exact ⟨.float x, w.heap, fun _ => rfl, nofun, nofun, nofun⟩
  | str s =>
    refine ⟨.str s false, w.heap, fun _ => rfl, nofun, fun t guarded same => ?_, fun t same => ?_⟩
    · cases same
      rfl
    · cases same
      rfl
  | arr xs =>
    obtain ⟨vs, heap, made⟩ := exec_valuesOfJson #[] xs w
    exact ⟨_, _, fun answer => exec_bind_ok (made answer) _, nofun, nofun, nofun⟩
  | obj fs =>
    obtain ⟨es, heap, made⟩ := exec_entriesOfJson #[] fs w
    exact ⟨_, _, fun answer => exec_bind_ok (made answer) _, nofun, nofun, nofun⟩

theorem exec_valuesOfJson (acc : Array Value) (js : List Json) (w : World) :
    ∃ vs heap, ∀ answer, (valuesOfJson acc js).exec answer w = .ok vs { w with heap := heap } := by
  cases js with
  | nil => exact ⟨acc, w.heap, fun _ => rfl⟩
  | cons j js =>
    obtain ⟨v, heap, made, -⟩ := exec_valueOfJson j w
    obtain ⟨vs, heap', rest⟩ := exec_valuesOfJson (acc.push v) js { w with heap := heap }
    exact ⟨vs, heap', fun answer => (exec_bind_ok (made answer) _).trans (rest answer)⟩

theorem exec_entriesOfJson (acc : Entries) (fs : List (String × Json)) (w : World) :
    ∃ es heap, ∀ answer, (entriesOfJson acc fs).exec answer w = .ok es { w with heap := heap } := by
  cases fs with
  | nil => exact ⟨acc, w.heap, fun _ => rfl⟩
  | cons f fs =>
    obtain ⟨n, j⟩ := f
    obtain ⟨v, heap, made, -⟩ := exec_valueOfJson j w
    obtain ⟨es, heap', rest⟩ := exec_entriesOfJson (acc.push ⟨.str n, .str n false, v⟩) fs { w with heap := heap }
    exact ⟨es, heap', fun answer => (exec_bind_ok (made answer) _).trans (rest answer)⟩

end

/-! ## 3. Making sure of a variable -/

theorem Answer.gvar?_ne_null (a : Answer) : a.gvar? ≠ some .null := by
  unfold Answer.gvar?
  split
  · split <;> simp_all
  · nofun

theorem receive_cases (key : String) (a : Answer) (w : World) :
    (a.gvar? = none ∧ w.session.service.silent = false ∧ receive key a w = .ok false w) ∨
    ∃ v heap, receive key a w = .ok true ({ w with heap := heap }.putGvar key v) ∧
      (a.gvar? = none ∧ w.session.service.silent = true ∧ v = .none ∨
        ∃ j, a.gvar? = some j ∧ v ≠ .none ∧ v.Writes j) := by
  cases brought : a.gvar? with
  | none =>
    cases silent : w.session.service.silent with
    | false => exact .inl ⟨rfl, rfl, by rw [receive, brought, silent]; rfl⟩
    | true => refine .inr ⟨.none, w.heap, by rw [receive, brought, silent]; rfl, .inl ⟨rfl, rfl, rfl⟩⟩
  | some j =>
    obtain ⟨v, heap, made, isNone, writes⟩ := exec_valueOfJson j w
    have made : (valueOfJson j).run w = .ok v { w with heap := heap } := made _
    refine .inr ⟨v, heap, by rw [receive, brought]; dsimp only; rw [made], .inr ⟨j, rfl, ?_, writes⟩⟩
    intro none
    exact a.gvar?_ne_null (isNone none ▸ brought)

/-- The answer that is taken when a variable is made sure of; where none is asked for there is none. -/
def World.answerFor (w : World) (key : String) : Answer :=
  if w.session.service.canFetch then w.session.answerTo (w.session.service.gvarRequest key)
  else .failed ""

def World.brings? (w : World) (key : String) : Option Json := (w.answerFor key).gvar?

def World.asks (w : World) (key : String) : List Request :=
  if w.session.service.canFetch then [(w.session.service.gvarRequest key).encoded] else []

def World.asking (w : World) (key : String) : World :=
  { w with session := { w.session with requests := w.asks key ++ w.session.requests } }

theorem exec_missGvar (new : w.stores key = false) (nothing : a.gvar? = none) (answer : Answering) :
    (missGvar key).exec answer w = receive key a w := by
  rw [receive, nothing]
  refine (exec_read_bind _ _ w).trans ?_
  split
  · show EStateM.Result.ok true (Change.apply (.keep key .none) w) = _
    rw [Change.apply, if_neg (Bool.eq_false_iff.mp new)]
  · rfl

theorem exec_takeGvar (new : w.stores key = false) (a : Answer) (answer : Answering) :
    (takeGvar key a).exec answer w = receive key a w := by
  cases brought : a.gvar? with
  | none =>
    rw [takeGvar, brought]
    exact exec_missGvar new brought answer
  | some j =>
    obtain ⟨v, heap, made, -⟩ := exec_valueOfJson j w
    rw [takeGvar, receive, brought]
    dsimp only
    rw [show (valueOfJson j).run w = _ from made _]
    refine (exec_bind_ok (made answer) _).trans ?_
    show EStateM.Result.ok true (Change.apply (.keep key v) { w with heap := heap }) = _
    have new : stores { w with heap := heap } key = false := new
    rw [Change.apply, if_neg (Bool.eq_false_iff.mp new)]

theorem exec_ensureGvar_of_stores (there : w.stores key = true) (answer : Answering) :
    (ensureGvar key).exec answer w = .ok true w := by
  refine (exec_read_bind _ _ w).trans ?_
  rw [if_pos there]
  rfl

theorem exec_ensureGvar (new : w.stores key = false) (answer : Answering) :
    (ensureGvar key).exec answer w = receive key (w.answerFor key) (w.asking key) := by
  refine (exec_read_bind _ _ w).trans ?_
  rw [if_neg (Bool.eq_false_iff.mp new)]
  refine (exec_read_bind _ _ w).trans ?_
  dsimp only
  unfold answerFor asking asks
  cases w.session.service.canFetch with
  | false => exact exec_missGvar new rfl answer
  | true =>
    exact exec_takeGvar (w := { w with session := w.session.sent (w.session.service.gvarRequest key) }) new _ answer

def Shared.store (s : Shared) : Names := s.gvars.getD []

section

variable (w : World)

@[simp] theorem World.stores_sharing (s : Shared) (key : String) : (w.sharing s).stores key = s.store.has key := rfl

@[simp] theorem World.sharing_shared : w.sharing w.shared = w := rfl

@[simp] theorem World.sharing_sharing (s s' : Shared) : (w.sharing s).sharing s' = w.sharing s' := rfl

def World.obtains (key : String) : Bool := (w.brings? key).isSome || w.session.service.silent

@[simp] theorem World.obtains_sharing (s : Shared) (key : String) : (w.sharing s).obtains key = w.obtains key := rfl

/-- What is shared after variables were made sure of. -/
structure World.Ensures (keys : List String) (s : Shared) : Prop where
  grows : w.store.Grows s.store
  there : ∀ k, s.store.has k = true ↔ w.stores k = true ∨ k ∈ keys ∧ w.obtains k = true
  keeps : ∀ p ∈ w.store, p ∈ s.store
  new : ∀ p ∈ s.store, p ∈ w.store ∨ w.stores p.1 = false ∧ s.store.get? p.1 = some p.2
  /-- What is new and is brought as a text is that text, and no other text is new. -/
  text : ∀ k v, w.stores k = false → s.store.get? k = some v → ∀ t,
    ((∃ guarded, v = .str t guarded) ↔ w.brings? k = some (.str t))

def World.Quiet (keys : List String) (s : Shared) : Prop :=
  (∀ k ∈ keys, w.stores k = true) ∨ w.session.service.canFetch = false → s.requests = w.session.requests

end

namespace World

variable {w : World} {s s' : Shared}

theorem ensures_of_same {keys : List String} (same : s.store = w.store)
    (none : ∀ k ∈ keys, w.stores k = false → w.obtains k = false) : w.Ensures keys s where
  grows := same ▸ .refl _
  there k := by
    rw [same]
    refine ⟨.inl, fun found => found.elim id fun ⟨member, obtained⟩ => ?_⟩
    cases missing : w.stores k with
    | true => exact missing
    | false =>
      rw [none k member missing] at obtained
      cases obtained
  keeps _ member := same ▸ member
  new _ member := .inl (same ▸ member)
  text k v missing found := by
    rw [same, has_eq_false_iff.mp missing] at found
    cases found

theorem ensures_nil (w : World) : w.Ensures [] w.shared := ensures_of_same rfl nofun

theorem Ensures.append {ks ks' : List String} (first : w.Ensures ks s)
    (rest : (w.sharing s).Ensures ks' s') : w.Ensures (ks ++ ks') s' where
  grows := first.grows.trans rest.grows
  there k := by
    have atFirst := first.there k
    have after : s'.store.has k = true ↔ s.store.has k = true ∨ k ∈ ks' ∧ w.obtains k = true := rest.there k
    rw [after, atFirst, mem_append, or_and_right, or_assoc]
  keeps p member := rest.keeps p (first.keeps p member)
  new p member := by
    rcases rest.new p member with early | ⟨missing, found⟩
    · exact (first.new p early).imp_right fun ⟨missing, found⟩ => ⟨missing, rest.grows _ _ found⟩
    · refine .inr ⟨Bool.eq_false_iff.mpr fun there => ?_, found⟩
      rw [show (w.sharing s).stores p.1 = true from first.grows.has there] at missing
      cases missing
  text k v missing found := by
    cases mid : s.store.get? k with
    | none => exact rest.text k v (has_eq_false_iff.mpr mid) found
    | some u =>
      have same := rest.grows k u mid
      rw [found, Option.some.injEq] at same
      exact same ▸ first.text k u missing mid

theorem Quiet.append (grows : w.store.Grows s.store) (first : w.Quiet ks s)
    (rest : (w.sharing s).Quiet ks' s') : w.Quiet (ks ++ ks') s' := by
  intro still
  have quietFirst : s.requests = w.session.requests :=
    first (still.imp_left fun all k member => all k (mem_append_left _ member))
  refine Eq.trans (rest (still.imp_left fun all k member => ?_)) quietFirst
  exact grows.has (all k (mem_append_right _ member))

theorem quiet_asking (missing : w.stores key = false) (same : s.requests = (w.asking key).session.requests) :
    w.Quiet [key] s := by
  rintro (all | cannot)
  · rw [all key mem_cons_self] at missing
    cases missing
  · rw [same, asking, asks, cannot]
    rfl

theorem ensures_of_put (v : Value) (heap : Array Cell) (missing : w.stores key = false)
    (obtained : w.obtains key = true) (text : ∀ t, (∃ guarded, v = .str t guarded) ↔ w.brings? key = some (.str t)) :
    w.Ensures [key] ({ w.asking key with heap := heap }.putGvar key v).shared where
  grows := grows_put missing v
  there k := by
    show (w.store.put key v).has k = true ↔ w.store.has k = true ∨ _
    rw [has_put, Bool.or_eq_true, beq_iff_eq, mem_singleton, or_comm]
    exact or_congr_right ⟨fun here => ⟨here, here ▸ obtained⟩, And.left⟩
  keeps p member := by
    show p ∈ w.store.put key v
    rw [put_of_new missing]
    exact mem_append_left _ member
  new p member := by
    change p ∈ w.store.put key v at member
    rw [put_of_new missing, mem_append, mem_singleton] at member
    refine member.imp_right ?_
    rintro rfl
    exact ⟨missing, (get?_put _ _ _ _).trans (if_pos rfl)⟩
  text k u fresh found := by
    rw [show Shared.store _ = w.store.put key v from rfl, get?_put] at found
    split at found
    · next here =>
      subst here
      rw [← Option.some.inj found]
      exact text
    · rw [has_eq_false_iff.mp fresh] at found
      cases found

end World

theorem ensures_ensureGvar (answer : Answering) (key : String) (w : World) : ∃ s,
    (ensureGvar key).exec answer w = .ok (s.store.has key) (w.sharing s) ∧ w.Ensures [key] s ∧ w.Quiet [key] s := by
  cases there : w.stores key with
  | true =>
    refine ⟨w.shared, ?_, ensures_of_same rfl ?_, fun _ => rfl⟩
    · rw [exec_ensureGvar_of_stores there, ← there]
      rfl
    · intro k member missing
      rw [mem_singleton.mp member, there] at missing
      cases missing
  | false =>
    rw [exec_ensureGvar there]
    rcases receive_cases key (w.answerFor key) (w.asking key) with
      ⟨nothing, loud, taken⟩ | ⟨v, heap, taken, how⟩
    · have missed : w.obtains key = false := by
        rw [obtains, brings?, nothing, show w.session.service.silent = false from loud]
        rfl
      refine ⟨(w.asking key).shared, ?_, ensures_of_same rfl ?_, quiet_asking there rfl⟩
      · rw [taken, ← there]
        rfl
      · exact fun k member _ => mem_singleton.mp member ▸ missed
    · refine ⟨_, ?_, ensures_of_put v heap there ?_ fun t => ?_, quiet_asking there rfl⟩
      · rw [taken]
        congr 1
        exact ((has_put w.store key v key).trans (by simp)).symm
      · rcases how with ⟨-, silent, -⟩ | ⟨j, brought, -⟩
        · rw [obtains, show w.session.service.silent = true from silent, Bool.or_true]
        · rw [obtains, brings?, brought]
          rfl
      · rw [brings?]
        rcases how with ⟨nothing, -, rfl⟩ | ⟨j, brought, -, writes⟩
        · rw [nothing]
          exact ⟨nofun, nofun⟩
        · rw [brought, Option.some.injEq]
          exact ⟨fun ⟨guarded, same⟩ => writes.text t guarded same, fun same => ⟨false, writes.written t same⟩⟩

theorem foldl_note (ks : List String) (f : String → Bool) (r : Report) :
    ks.foldl (fun r k => r.note k (f k)) r = r.map fun p => if p.1 ∈ ks then (p.1, f p.1) else p := by
  induction ks generalizing r with
  | nil => simp
  | cons k ks ih =>
    rw [foldl_cons, ih, Report.note, map_map]
    refine map_congr_left fun p _ => ?_
    by_cases here : p.1 = k
    · by_cases again : k ∈ ks <;> simp [here]
    · by_cases again : p.1 ∈ ks <;> simp [here]

theorem run_ensures_cons (ran : (ensureGvar k).run w = .ok there w') (ks : List String) (r : Report) :
    Eval.run ((k :: ks).foldlM (fun r key => do return r.note key (← ensureGvar key)) r) w =
      Eval.run (ks.foldlM (fun r key => do return r.note key (← ensureGvar key)) (r.note k there)) w' := by
  have noted : (Eval.bind (ensureGvar k) fun there => .pure (r.note k there)).exec (run taskDepth) w =
      .ok (r.note k there) w' :=
    exec_bind_ok ran _
  exact exec_bind_ok noted _

theorem ensures_foldlM (ks : List String) (r : Report) (w : World) :
    ∃ s, Eval.run (ks.foldlM (fun r key => do return r.note key (← ensureGvar key)) r) w =
        .ok (ks.foldl (fun r k => r.note k (s.store.has k)) r) (w.sharing s) ∧ w.Ensures ks s ∧ w.Quiet ks s := by
  induction ks generalizing r w with
  | nil => exact ⟨w.shared, rfl, w.ensures_nil, fun _ => rfl⟩
  | cons k ks ih =>
    obtain ⟨s, ran, first, quietFirst⟩ := ensures_ensureGvar (run taskDepth) k w
    obtain ⟨s', rest, ensured, quiet⟩ := ih (r.note k (s.store.has k)) (w.sharing s)
    refine ⟨s', ?_, first.append ensured, quietFirst.append first.grows quiet⟩
    -- what was noted of the key holds at the end too, if the key comes again or not
    have same : s.store.has k = s'.store.has k := by
      have atFirst := first.there k
      have atLast : s'.store.has k = true ↔ s.store.has k = true ∨ k ∈ ks ∧ w.obtains k = true := ensured.there k
      grind
    rw [run_ensures_cons ran, foldl_cons, ← same]
    exact rest

theorem reports_ensureGvars (keys : List String) (w : World) :
    ∃ s, (ensureGvars keys).run w = .ok ((w.sharing s).report keys) (w.sharing s) ∧
      w.Ensures keys s ∧ w.Quiet keys s := by
  obtain ⟨s, ran, ensured, quiet⟩ := ensures_foldlM (w.missing keys) (w.report keys) w
  have mem_missing (k : String) : k ∈ w.missing keys ↔ k ∈ keys ∧ w.stores k = false := by
    rw [missing, mem_filter, Bool.not_eq_true']
  refine ⟨s, ?_, ⟨ensured.grows, fun k => ?_, ensured.keeps, ensured.new, ensured.text⟩, fun still => quiet ?_⟩
  · show (Eval.bind .read _).exec _ w = _
    refine ran.trans ?_
    congr 1
    rw [foldl_note, report, map_map]
    refine map_congr_left fun k member => ?_
    dsimp only [Function.comp]
    split
    · rfl
    · next there =>
      rw [mem_missing, not_and, Bool.not_eq_false] at there
      have there := there (mem_eraseDups.mp member)
      rw [there, show (w.sharing s).stores k = true from ensured.grows.has there]
  · rw [ensured.there k, mem_missing]
    cases w.stores k <;> simp
  · refine still.imp_left fun all k member => all k ((mem_missing k).mp member).1

end AliasTools.Script
