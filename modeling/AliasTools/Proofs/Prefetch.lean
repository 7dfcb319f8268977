import AliasTools.Proofs.SharedVariables

/-!
# Fetching what texts name

A stored text can name further variables.  They are fetched in rounds, each of which looks through the
texts that the round before brought.

The rounds end since each of them but the first and the last closes a text that an answer brings, and
there are no more texts than answers.
-/

namespace AliasTools.Script

open List World Eval Names

variable {keys : List String} {text : String} {p : String × Value}

/-! ## 1. Texts and what they name -/

def World.closes (w : World) (text : String) : Bool := (literalGvars text).all fun k => w.stores k || !w.obtains k

def World.texts (w : World) : List String :=
  w.session.answers.filterMap fun p =>
    match p.2.gvar? with
    | some (.str t) => some t
    | _ => none

def World.TextOf (w : World) (key text : String) : Prop :=
  (∃ guarded, (key, .str text guarded) ∈ w.store) ∨ w.stores key = false ∧ w.brings? key = some (.str text)

/-- The variables that names lead to: those in the store, and those that can be obtained and are named in
    the text of one that names lead to. -/
inductive World.Reaches (w : World) : String → Prop where
  | stored {key : String} (there : w.stores key = true) : Reaches w key
  | named {key text k : String} (reached : Reaches w key) (has : w.TextOf key text)
    (names : k ∈ literalGvars text) (obtained : w.obtains k = true) : Reaches w k

section

variable {w : World} {s : Shared}

theorem World.closes_iff : w.closes text = true ↔ ∀ k ∈ literalGvars text, w.stores k = true ∨ w.obtains k = false := by
  rw [closes, all_eq_true]
  exact forall₂_congr fun k _ => by rw [Bool.or_eq_true, Bool.not_eq_true']

theorem World.closes_sharing (grows : w.store.Grows s.store) (closed : w.closes text = true) :
    (w.sharing s).closes text = true :=
  closes_iff.mpr fun k names => (closes_iff.mp closed k names).imp_left grows.has

theorem World.mem_texts (brought : w.brings? key = some (.str text)) : text ∈ w.texts := by
  unfold brings? answerFor Session.answerTo at brought
  split at brought
  · cases found : w.session.answers.lookup (lastSegment (w.session.service.gvarRequest key).url) with
    | none =>
      rw [found] at brought
      cases brought
    | some a =>
      rw [found, Option.getD_some] at brought
      obtain ⟨before, after, same, -⟩ := lookup_eq_some_iff.mp found
      have member : (_, a) ∈ w.session.answers := same ▸ mem_append_right _ mem_cons_self
      exact mem_filterMap.mpr ⟨_, member, by rw [brought]⟩
  · cases brought

end

/-! ## 2. One round -/

/-- Since the round began in the world `w`, the variables in `got` were fetched and no others. -/
structure World.Gains (w : World) (got : List String) (s : Shared) : Prop where
  ensures : w.Ensures got s
  new : ∀ k ∈ got, w.stores k = false ∧ w.obtains k = true

/-- What becomes of `got` and of the store when what is named is fetched. -/
structure World.Fetches (w : World) (names got : List String) (s : Shared) (got' : List String)
    (s' : Shared) : Prop where
  gains : w.Gains got' s'
  grows : s.store.Grows s'.store
  closed : ∀ k ∈ names, s'.store.has k = true ∨ w.obtains k = false
  named : ∀ k ∈ got', k ∈ got ∨ k ∈ names
  /-- Where nothing is left to fetch, nothing is fetched. -/
  idle : (∀ k ∈ names, s.store.has k = true ∨ w.obtains k = false) → got' = got

def World.FetchesBy (w : World) (names : List String) (x : List String → Eval (List String)) : Prop :=
  ∀ got s, w.Gains got s → ∃ got' s', (x got).run (w.sharing s) = .ok got' (w.sharing s') ∧
    w.Fetches names got s got' s'

section

variable {w : World} {s s' s'' : Shared} {got got' got'' names names' : List String}

theorem World.Gains.has_iff (gains : w.Gains got s) (k : String) :
    s.store.has k = true ↔ w.stores k = true ∨ k ∈ got := by
  rw [gains.ensures.there k]
  exact or_congr_right ⟨And.left, fun member => ⟨member, (gains.new k member).2⟩⟩

theorem World.Fetches.nothing (gains : w.Gains got s) : w.Fetches [] got s got s where
  gains := gains
  grows := .refl _
  closed _ member := absurd member not_mem_nil
  named _ member := .inl member
  idle _ := rfl

theorem World.Fetches.append (first : w.Fetches names got s got' s')
    (second : w.Fetches names' got' s' got'' s'') : w.Fetches (names ++ names') got s got'' s'' where
  gains := second.gains
  grows := first.grows.trans second.grows
  closed k member := by
    rcases mem_append.mp member with early | late
    · exact (first.closed k early).imp_left second.grows.has
    · exact second.closed k late
  named k member := by
    rw [mem_append]
    rcases second.named k member with early | late
    · exact (first.named k early).imp_right .inl
    · exact .inr (.inr late)
  idle all := by
    have idleFirst : got' = got := first.idle fun k member => all k (mem_append_left _ member)
    refine (second.idle fun k member => ?_).trans idleFirst
    exact (all k (mem_append_right _ member)).imp_left first.grows.has

theorem World.FetchesBy.append (first : w.FetchesBy names x) (second : w.FetchesBy names' y) :
    w.FetchesBy (names ++ names') fun got => .bind (x got) y := by
  intro got s gains
  obtain ⟨got', s', ran, fetched⟩ := first got s gains
  obtain ⟨got'', s'', ran', fetched'⟩ := second got' s' fetched.gains
  exact ⟨got'', s'', (exec_bind_ok ran _).trans ran', fetched.append fetched'⟩

theorem World.Ensures.without (ensured : w.Ensures (keys ++ [key]) s)
    (missed : w.obtains key = false) : w.Ensures keys s := by
  refine ⟨ensured.grows, fun k => ?_, ensured.keeps, ensured.new, ensured.text⟩
  rw [ensured.there k, mem_append, mem_singleton]
  refine or_congr_right ⟨fun ⟨member, obtained⟩ => ⟨member.resolve_right ?_, obtained⟩,
    fun ⟨member, obtained⟩ => ⟨.inl member, obtained⟩⟩
  rintro rfl
  rw [missed] at obtained
  cases obtained

def namesIn (p : String × Value) : List String :=
  match p.2 with
  | .str text _ => literalGvars text
  | _ => []

def World.unseen (w : World) (seen : List String) : Names := w.store.filter fun p => !seen.contains p.1

end

/-! ## 3. All rounds -/

/-- The texts of variables that were seen are closed. -/
structure World.Looked (w : World) (seen : List String) : Prop where
  there : ∀ k ∈ seen, w.stores k = true
  closed : ∀ p ∈ w.store, p.1 ∈ seen → ∀ t guarded, p.2 = .str t guarded → w.closes t = true

def World.Brought (w : World) (seen : List String) : Prop :=
  ∀ p ∈ w.store, ∀ t guarded, p.2 = .str t guarded → p.1 ∈ seen ∨ t ∈ w.texts

/-- What is shared once nothing is left to fetch. -/
structure World.Settles (w : World) (s : Shared) : Prop where
  ensures : ∃ keys, w.Ensures keys s
  closed : ∀ p ∈ s.store, ∀ t guarded, p.2 = .str t guarded → (w.sharing s).closes t = true
  reached : ∀ k, s.store.has k = true → w.Reaches k

section

variable {w : World} {s s' : Shared} {seen got : List String}

theorem Names.has_of_mem {t : Names} (member : p ∈ t) : t.has p.1 = true := by
  rw [has, Option.isSome_iff_ne_none, Ne, lookup_eq_none_iff]
  intro other
  simpa using other p member

theorem World.mem_unseen : p ∈ w.unseen seen ↔ p ∈ w.store ∧ p.1 ∉ seen := by simp [unseen]

theorem mem_namesIn : k ∈ namesIn p ↔ ∃ t guarded, p.2 = .str t guarded ∧ k ∈ literalGvars t := by
  obtain ⟨key, v⟩ := p
  cases v <;> simp [namesIn]

section

variable (fetched : w.Fetches ((w.unseen seen).flatMap namesIn) [] w.shared got s)

include fetched

theorem World.Fetches.closes_unseen (member : p ∈ w.unseen seen)
    (text : p.2 = .str t guarded) : (w.sharing s).closes t = true := by
  refine closes_iff.mpr fun k names => fetched.closed k ?_
  exact mem_flatMap.mpr ⟨p, member, mem_namesIn.mpr ⟨t, guarded, text, names⟩⟩

theorem World.Fetches.reaches (k : String) (there : s.store.has k = true) : w.Reaches k := by
  rcases (fetched.gains.has_iff k).mp there with early | late
  · exact .stored early
  · obtain ⟨p, member, names⟩ :=
      mem_flatMap.mp ((fetched.named k late).resolve_left not_mem_nil)
    obtain ⟨t, guarded, text, names⟩ := mem_namesIn.mp names
    have stored : p ∈ w.store := (mem_unseen.mp member).1
    refine .named (.stored (has_of_mem stored)) (.inl ⟨guarded, ?_⟩) names (fetched.gains.new k late).2
    rw [← text]
    exact stored

end

theorem World.Looked.round (looked : w.Looked seen)
    (fetched : w.Fetches ((w.unseen seen).flatMap namesIn) [] w.shared got s) :
    (w.sharing s).Looked (seen ++ (w.unseen seen).map (·.1)) ∧
      (w.sharing s).Brought (seen ++ (w.unseen seen).map (·.1)) := by
  have ensured := fetched.gains.ensures
  have seenAll {p : String × Value} (member : p ∈ w.store) : p.1 ∈ seen ++ (w.unseen seen).map (·.1) := by
    rw [mem_append]
    refine (Decidable.em (p.1 ∈ seen)).imp_right fun fresh => ?_
    exact mem_map_of_mem (mem_unseen.mpr ⟨member, fresh⟩)
  have stored {k : String} (member : k ∈ seen ++ (w.unseen seen).map (·.1)) : w.stores k = true := by
    rcases mem_append.mp member with early | late
    · exact looked.there k early
    · obtain ⟨p, listed, rfl⟩ := mem_map.mp late
      exact has_of_mem (mem_unseen.mp listed).1
  refine ⟨⟨fun k member => ensured.grows.has (stored member), fun p member known t guarded text => ?_⟩,
    fun p member t guarded text => ?_⟩
  · rcases ensured.new p member with old | ⟨missing, -⟩
    · by_cases before : p.1 ∈ seen
      · exact closes_sharing ensured.grows (looked.closed p old before t guarded text)
      · exact fetched.closes_unseen (mem_unseen.mpr ⟨old, before⟩) text
    · rw [stored known] at missing
      cases missing
  · rcases ensured.new p member with old | ⟨missing, found⟩
    · exact .inl (seenAll old)
    · have brought := (ensured.text p.1 p.2 missing found t).mp ⟨guarded, text⟩
      exact .inr (mem_texts brought)

theorem World.Reaches.of_sharing (ensured : w.Ensures keys s)
    (before : ∀ k, s.store.has k = true → w.Reaches k) (reached : (w.sharing s).Reaches k) : w.Reaches k := by
  induction reached with
  | stored there => exact before _ there
  | named _ has names obtained reached =>
    refine reached.named ?_ names obtained
    rcases has with ⟨guarded, member⟩ | ⟨missing, brought⟩
    · rcases ensured.new _ member with old | ⟨missing, found⟩
      · exact .inl ⟨guarded, old⟩
      · exact .inr ⟨missing, (ensured.text _ _ missing found _).mp ⟨guarded, rfl⟩⟩
    · refine .inr ⟨Bool.eq_false_iff.mpr fun there => ?_, brought⟩
      rw [stores_sharing, ensured.grows.has there] at missing
      cases missing

theorem World.Settles.after (ensured : w.Ensures keys s) (reached : ∀ k, s.store.has k = true → w.Reaches k)
    (settled : (w.sharing s).Settles s') : w.Settles s' := by
  obtain ⟨more, ensured'⟩ := settled.ensures
  exact ⟨⟨_, ensured.append ensured'⟩, settled.closed,
    fun k there => .of_sharing ensured reached (settled.reached k there)⟩

theorem World.Settles.has_iff (settled : w.Settles s) (k : String) : s.store.has k = true ↔ w.Reaches k := by
  obtain ⟨keys, ensured⟩ := settled.ensures
  refine ⟨settled.reached k, fun reached => ?_⟩
  induction reached with
  | stored there => exact ensured.grows.has there
  | @named key text k _ has names obtained there =>
    have stored : ∃ guarded, (key, .str text guarded) ∈ s.store := by
      rcases has with ⟨guarded, member⟩ | ⟨missing, brought⟩
      · exact ⟨guarded, ensured.keeps _ member⟩
      · obtain ⟨v, found⟩ := Names.has_iff.mp there
        obtain ⟨guarded, rfl⟩ := (ensured.text key v missing found text).mpr brought
        obtain ⟨before, after, same, -⟩ := lookup_eq_some_iff.mp found
        exact ⟨guarded, same ▸ mem_append_right _ mem_cons_self⟩
    obtain ⟨guarded, member⟩ := stored
    have closed := closes_iff.mp (settled.closed _ member text guarded rfl) k names
    exact closed.resolve_right (by rw [obtains_sharing, obtained]; exact Bool.noConfusion)

end

end AliasTools.Script
