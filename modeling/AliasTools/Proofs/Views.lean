import AliasTools.Proofs.SharedObjects

/-!
# Views that are obtained again

A property of a character or a fight makes an object, which is a view of a mapping.  Whether what is
written through the view is read by one that is obtained later depends on the mapping that the property
takes: the one that is there, one of its own where there is none or an empty one, or a copy.
-/

namespace AliasTools.Sheet

open Script Option Eval Array

variable {s : Addr} {g : Bool} {es : Entries} {k : ObjectKind} {d v : Value} {w w' : World} {acc : Accessor}

/-! ## 1. Mappings and views -/

def mappingAt (w : World) : Value → Option Entries
  | .ref s =>
    match w.heap[s]? with
    | some (.dict _ es _) => some es
    | _ => none
  | _ => none

def behind (w : World) : Value → Option Value
  | .ref a =>
    match w.heap[a]? with
    | some (.object _ fields) => fields.get? "_data"
    | _ => none
  | _ => none

def entryIn (w : World) (d : Value) (key : String) : Option Value := (mappingAt w d).bind (·.get? (.str key))

theorem mappingAt_eq_some (found : mappingAt w d = some es) :
    ∃ s g n, d = .ref s ∧ w.heap[s]? = some (.dict g es n) := by
  cases d with
  | ref s =>
    unfold mappingAt at found
    dsimp only at found
    split at found
    · next g es' n cell =>
      obtain rfl := some.inj found
      exact ⟨s, g, n, rfl, cell⟩
    · cases found
  | _ => cases found

theorem mappingAt_of_cell (found : w.heap[s]? = some (.dict g es n)) : mappingAt w (.ref s) = some es := by
  simp only [mappingAt, found]

theorem mappingAt_of_lasts (lasts : w.Lasts w') (found : (mappingAt w d).isSome = true) :
    (mappingAt w' d).isSome = true := by
  obtain ⟨es, same⟩ := isSome_iff_exists.1 found
  obtain ⟨s, g, n, rfl, cell⟩ := mappingAt_eq_some same
  obtain ⟨c, cell', became⟩ := lasts.cells s _ cell
  cases became with
  | dict _ _ es' _ => rw [mappingAt_of_cell cell']; rfl

/-- A world in which cells were made, and none of those that were there has changed. -/
structure Extends (w w' : World) : Prop where
  size : w.heap.size ≤ w'.heap.size
  cells : ∀ a, a < w.heap.size → w'.heap[a]? = w.heap[a]?

theorem Extends.trans (first : Extends w w') (second : Extends w' w'') : Extends w w'' :=
  ⟨Nat.le_trans first.size second.size, fun a inside =>
    (second.cells a (Nat.lt_of_lt_of_le inside first.size)).trans (first.cells a inside)⟩

theorem extends_push (w : World) (c : Cell) : Extends w { w with heap := w.heap.push c } := by
  refine ⟨by simp, fun a inside => ?_⟩
  rw [Array.getElem?_push, if_neg (Nat.ne_of_lt inside)]

theorem Extends.cell (extended : Extends w w') (found : w.heap[s]? = some c) : w'.heap[s]? = some c :=
  (extended.cells s (Array.getElem?_eq_some_iff.1 found).1).trans found

theorem Extends.mappingAt (extended : Extends w w') (found : mappingAt w d = some es) : mappingAt w' d = some es := by
  obtain ⟨s, g, n, rfl, cell⟩ := mappingAt_eq_some found
  exact mappingAt_of_cell (extended.cell cell)

/-! ## 2. Steps -/

section

variable {answer : Answering} {w : World}

section

variable (found : mappingAt w d = some es)

include found

theorem exec_mapping : (entries? d).exec answer w = .ok (some es) w := by
  obtain ⟨s, g, n, rfl, cell⟩ := mappingAt_eq_some found
  exact exec_found _ cell

theorem exec_entry (name : String) : (entry .ask d name).exec answer w = .ok ((es.get? (.str name)).getD .none) w :=
  exec_bind_ok (exec_mapping found) _

theorem run_truth (n : Nat) : run (n + 1) (.truth d) w = .ok (es.size != 0) w := by
  obtain ⟨s, g, m, rfl, cell⟩ := mappingAt_eq_some found
  have length : (lengthOf? (.ref s)).exec (run n) w = .ok (some (es.size : Int)) w := exec_found _ cell
  have truth : (truthOf (.ref s)).exec (run n) w = .ok ((es.size : Int) != 0) w := exec_bind_ok length _
  have same : ((es.size : Int) != 0) = (es.size != 0) := by
    rw [Bool.eq_iff_iff]
    simp
  rw [← same]
  exact (exec_found (fun _ => _) cell).trans truth

theorem exec_mapEntry
    (listed : (es.get? (.str name)).getD .none = v) (same : mappingAt w v = some fs) (full : fs.size ≠ 0)
    (n : Nat) : (mapEntry .ask d name).exec (run (n + 1)) w = .ok v w := by
  refine (exec_bind_ok (exec_entry found name) _).trans ?_
  have truth : (ask (.truth v)).exec (run (n + 1)) w = .ok true w := by
    rw [exec, run_truth same]
    simp [full]
  rw [listed]
  exact exec_bind_ok truth _

theorem exec_mapEntry_anew
    (listed : (es.get? (.str name)).getD .none = v) (missing : v = .none ∨ mappingAt w v = some #[]) (n : Nat) :
    (mapEntry .ask d name).exec (run (n + 1)) w =
      .ok (.ref w.heap.size) { w with heap := w.heap.push (.dict false #[] none) } := by
  refine (exec_bind_ok (exec_entry found name) _).trans ?_
  have truth : (ask (.truth v)).exec (run (n + 1)) w = .ok false w := by
    rcases missing with rfl | empty
    · rfl
    · exact run_truth empty n
  rw [listed]
  exact exec_bind_ok truth _

end

variable (found : w.heap[s]? = some (.dict g es m))

include found

theorem exec_send (own : dictMethods.contains name = true) (args : List Value) :
    (send .ask (.ref s) name args).exec (run (n + 3)) w =
      (dictMethod .ask name (.ref s) s g args []).exec (run (n + 1)) w := by
  have attr : (ask (.attr (.ref s) name)).exec (run (n + 3)) w = .ok (some (.method (.ref s) name)) w := by
    refine (exec_found _ found).trans ((exec_found _ found).trans ?_)
    dsimp only
    rw [if_pos own]
    rfl
  refine (exec_bind_ok attr _).trans ?_
  exact (exec_found _ found).trans (exec_found _ found)

theorem exec_entryOrPut (name : String) (u : Value) : (entryOrPut .ask (.ref s) name u).exec (run (n + 3)) w =
    (match es.get? (.str name) with
    | some v => .ok v w
    | none => .ok u (w.putCell s (.dict g (es.put (.str name) (word name) u) m))) := by
  refine (exec_send found rfl _).trans ((exec_bind_ok (exec_found _ found) _).trans ?_)
  show exec _ (Eval.bind (.pure (Key.str name)) _) w = _
  rw [exec, exec]
  dsimp only
  rw [show (some es).getD #[] = es from rfl]
  cases es.get? (.str name) with
  | some v => rfl
  | none =>
    exact congrArg (EStateM.Result.ok u) (modifyCell_of_some found (Alteration.setEntry (.str name) (word name) u).apply)

end

/-! ## 3. Properties -/

/-- A property that makes a view of a section. -/
inductive Accessor where
  | coinpurse | deathSaves | spellbook | me | current
deriving DecidableEq

namespace Accessor

def name : Accessor → String
  | .coinpurse => "coinpurse"
  | .deathSaves => "death_saves"
  | .spellbook => "spellbook"
  | .me => "me"
  | .current => "current"

def isOf : Accessor → ObjectKind → Bool
  | .coinpurse, k | .deathSaves, k => k == .character || k == .playedCharacter
  | .spellbook, k => k.isCreature
  | .me, k | .current, k => k == .combat

def hasDefault : Accessor → Bool
  | .coinpurse | .deathSaves | .spellbook => true
  | .me | .current => false

def value (go : Go) (data : Value) : Accessor → Eval Value
  | .coinpurse => do makeOf go .coinpurse (← mapEntry go data "coinpurse")
  | .deathSaves => do makeOf go .deathSaves (← mapEntry go data "death_saves")
  | .spellbook => do makeOf go .spellbook (← mapEntry go data "spellbook")
  | .me => do makeIfAny go .combatant (← entry go data "me")
  | .current => currentOf go data

theorem objectProperty_eq (has : acc.isOf k = true) (go : Go) (self : Value) (fields : Names) :
    objectProperty go self k fields acc.name = some (acc.value go (dataField fields)) := by
  cases acc <;> cases k <;> first | rfl | cases has

end Accessor

/-- An object has a property whose section is a value. -/
structure Offers (w : World) (acc : Accessor) (o : Addr) (v : Value) : Prop where
  owner : ∃ k fields es, acc.isOf k = true ∧ w.heap[o]? = some (.object k fields) ∧
    mappingAt w (dataField fields) = some es ∧ (es.get? (.str acc.name)).getD .none = v

/-- What the section of a property can be: a mapping, or nothing where there is a default.  That of a
    fight whose turn it is says by a text what it is. -/
structure Accessor.Fits (acc : Accessor) (w : World) (v : Value) : Prop where
  mapping : v = .none ∧ acc.hasDefault = true ∨ (mappingAt w v).isSome = true
  kind : acc = .current → ∃ t : Option String, entryIn w v "type" = t.map word

def Accessor.Keeps (acc : Accessor) (w : World) (v : Value) : Prop :=
  match acc with
  | .me => True
  | .current => False
  | _ => ∃ es, mappingAt w v = some es ∧ es.size ≠ 0

/-- What a property gives: a view of its section, or of a mapping that was made for it. -/
structure Obtained (acc : Accessor) (w : World) (v x : Value) (w' : World) : Prop where
  size : w.heap.size ≤ w'.heap.size
  kept : acc.Keeps w v → behind w' x = some v ∧ ∀ key, key ≠ "type" → entryIn w' v key = entryIn w v key
  anew : ¬ acc.Keeps w v → ∃ s, w.heap.size ≤ s ∧ s < w'.heap.size ∧ behind w' x = some (.ref s) ∧
    (acc.hasDefault = true → mappingAt w' (.ref s) = some #[])

section

variable {w : World}

theorem behind_push (w : World) (k : ObjectKind) (fields : Names) :
    behind { w with heap := w.heap.push (.object k fields) } (.ref w.heap.size) = fields.get? "_data" := by
  simp [behind]

theorem exec_makeOf (shown : k = .coinpurse ∨ k = .deathSaves ∨ k = .spellbook) (answer : Answering) (d : Value) :
    ∃ x w', (makeOf .ask k d).exec answer w = .ok x w' ∧ Extends w w' ∧ behind w' x = some d := by
  rcases shown with rfl | rfl | rfl
  · exact ⟨_, _, rfl, extends_push w _, behind_push w _ _⟩
  · exact ⟨_, _, rfl, extends_push w _, behind_push w _ _⟩
  · exact ⟨_, _, rfl, (extends_push w _).trans (extends_push _ _), behind_push _ _ _⟩

/-- A mapping has certain entries, its type aside. -/
def Holds (w : World) (s : Addr) (es : Entries) : Prop :=
  ∃ fs, mappingAt w (.ref s) = some fs ∧ ∀ key, key ≠ "type" → fs.get? (.str key) = es.get? (.str key)

theorem exec_type (cell : w.heap[s]? = some (.dict g es m)) (u : Value) (n : Nat) :
    ∃ v w', (entryOrPut .ask (.ref s) "type" u).exec (run (n + 3)) w = .ok v w' ∧ w'.heap.size = w.heap.size ∧
      Holds w' s es := by
  rw [exec_entryOrPut cell]
  cases at_type : es.get? (.str "type") with
  | some v => exact ⟨v, w, rfl, rfl, es, mappingAt_of_cell cell, fun _ _ => rfl⟩
  | none =>
    refine ⟨u, _, rfl, by simp [World.putCell], _, mappingAt_of_cell (World.heap_putCell cell), fun key other => ?_⟩
    simp [Entries.get?_put, other]

theorem exec_makeOf_member (member : k = .combatant ∨ k = .group) (cell : w.heap[s]? = some (.dict g es m)) (n : Nat) :
    ∃ x w', (makeOf .ask k (.ref s)).exec (run (n + 3)) w = .ok x w' ∧ w.heap.size ≤ w'.heap.size ∧
      behind w' x = some (.ref s) ∧ Holds w' s es := by
  let type := word (if k = .group then "group" else "combatant")
  obtain ⟨v, w', ran, size, fs, found, same⟩ := exec_type cell type n
  have done : (discard (entryOrPut .ask (.ref s) "type" type)).exec (run (n + 3)) w = .ok () w' := exec_bind_ok ran _
  have made : (makeOf .ask k (.ref s)).exec (run (n + 3)) w =
      (makeObject k [("_data", .ref s)]).exec (run (n + 3)) w' := by
    rcases member with rfl | rfl <;> exact exec_bind_ok done _
  refine ⟨_, _, made, ?_, behind_push w' k _, fs,
    (extends_push w' _).mappingAt found, same⟩
  rw [← size]
  exact (extends_push w' _).size

theorem obtained_section (shown : k = .coinpurse ∨ k = .deathSaves ∨ k = .spellbook)
    (default : acc.hasDefault = true) (found : mappingAt w d = some es)
    (listed : (es.get? (.str acc.name)).getD .none = v) (fits : v = .none ∨ (mappingAt w v).isSome = true) (n : Nat) :
    ∃ x w', (Eval.bind (mapEntry .ask d acc.name) (makeOf .ask k)).exec (run (n + 1)) w = .ok x w' ∧
      Obtained acc w v x w' := by
  have keeps : acc.Keeps w v ↔ ∃ fs, mappingAt w v = some fs ∧ fs.size ≠ 0 := by
    cases acc <;> first | exact Iff.rfl | cases default
  by_cases kept : acc.Keeps w v
  · obtain ⟨fs, same, full⟩ := keeps.1 kept
    obtain ⟨x, w', made, extended, back⟩ := exec_makeOf shown (run (n + 1)) v
    refine ⟨x, w', (exec_bind_ok (exec_mapEntry found listed same full n) _).trans made, extended.size,
      fun _ => ⟨back, fun key _ => ?_⟩, fun other => absurd kept other⟩
    rw [entryIn, entryIn, same, extended.mappingAt same]
  · have missing : v = .none ∨ mappingAt w v = some #[] := by
      refine fits.imp_right fun there => ?_
      obtain ⟨fs, same⟩ := isSome_iff_exists.1 there
      have empty : fs.size = 0 := Decidable.byContradiction fun full => kept (keeps.2 ⟨fs, same, full⟩)
      rw [same, size_eq_zero_iff.1 empty]
    obtain ⟨x, w', made, extended, back⟩ := exec_makeOf shown (run (n + 1)) (.ref w.heap.size)
    refine ⟨x, w', (exec_bind_ok (exec_mapEntry_anew found listed missing n) _).trans made,
      ((extends_push w _).trans extended).size, fun keeps => absurd keeps kept,
      fun _ => ⟨_, Nat.le_refl _, ?_, back, fun _ => extended.mappingAt (mappingAt_of_cell getElem?_push_size)⟩⟩
    have size := extended.size
    rw [size_push] at size
    exact size

theorem obtained_me (found : mappingAt w d = some es) (listed : (es.get? (.str "me")).getD .none = v)
    (fits : (mappingAt w v).isSome = true) (n : Nat) :
    ∃ x w', (Accessor.me.value .ask d).exec (run (n + 3)) w = .ok x w' ∧ Obtained .me w v x w' := by
  obtain ⟨fs, same⟩ := isSome_iff_exists.1 fits
  obtain ⟨s, g, m, rfl, cell⟩ := mappingAt_eq_some same
  obtain ⟨x, w', made, size, back, gs, found', entries⟩ := exec_makeOf_member (.inl rfl) cell n
  refine ⟨x, w', (exec_bind_ok (exec_entry found "me") _).trans ?_, size,
    fun _ => ⟨back, fun key other => ?_⟩, fun never => absurd trivial never⟩
  · rw [listed]
    exact made
  · rw [entryIn, entryIn, same, found']
    exact entries key other

theorem exec_makeDictOf (found : mappingAt w v = some fs) (answer : Answering) :
    ∃ gs, (makeDictOf .ask false [v] []).exec answer w =
      .ok (.ref w.heap.size) { w with heap := w.heap.push (.dict false gs none) } := by
  have looked : (entriesGiven .ask v).exec answer w = .ok (fs, none) w := exec_bind_ok (exec_mapping found) _
  have given : (entriesFrom .ask v).exec answer w = .ok fs w := exec_bind_ok looked _
  have counted : (someArguments "dict" 0 1 [v]).exec answer w = .ok () w := rfl
  exact ⟨_, (exec_bind_ok counted _).trans (exec_bind_ok given _)⟩

theorem obtained_current (found : mappingAt w d = some es)
    (listed : (es.get? (.str "current")).getD .none = v) (fits : (mappingAt w v).isSome = true)
    (kind : ∃ t : Option String, entryIn w v "type" = t.map word) (n : Nat) :
    ∃ x w', (Accessor.current.value .ask d).exec (run (n + 3)) w = .ok x w' ∧ Obtained .current w v x w' := by
  obtain ⟨fs, same⟩ := isSome_iff_exists.1 fits
  obtain ⟨t, told⟩ := kind
  rw [entryIn, same] at told
  have told : fs.get? (.str "type") = t.map word := told
  have mapping : (isMapping v).exec (run (n + 3)) w = .ok true w := exec_bind_ok (exec_mapping same) _
  obtain ⟨gs, w₁, copied, extended, cell⟩ : ∃ gs w₁, (makeDictOf .ask false [v] []).exec (run (n + 3)) w =
      .ok (.ref w.heap.size) w₁ ∧ Extends w w₁ ∧ w₁.heap[w.heap.size]? = some (.dict false gs none) := by
    obtain ⟨gs, copied⟩ := exec_makeDictOf same (run (n + 3))
    exact ⟨gs, _, copied, extends_push w _, getElem?_push_size⟩
  have typed : (entry .ask v "type").exec (run (n + 3)) w₁ = .ok ((t.map word).getD .none) w₁ := by
    rw [exec_entry (extended.mappingAt same) "type", told]
  obtain ⟨b, compared⟩ : ∃ b, (ask (.eq ((t.map word).getD .none) (word "group"))).exec (run (n + 3)) w₁ =
      .ok b w₁ := by
    cases t with
    | none => exact ⟨_, rfl⟩
    | some t => exact ⟨_, rfl⟩
  obtain ⟨k, sort, upto⟩ : ∃ k : ObjectKind, (k = .combatant ∨ k = .group) ∧
      (Accessor.current.value .ask d).exec (run (n + 3)) w =
        (makeOf .ask k (.ref w.heap.size)).exec (run (n + 3)) w₁ := by
    have upto : (Accessor.current.value .ask d).exec (run (n + 3)) w =
        (if b = true then makeOf .ask .group (.ref w.heap.size)
          else makeOf .ask .combatant (.ref w.heap.size)).exec (run (n + 3)) w₁ := by
      refine (exec_bind_ok (exec_entry found "current") _).trans ?_
      rw [listed]
      refine (exec_bind_ok mapping _).trans ((exec_bind_ok copied _).trans ?_)
      exact (exec_bind_ok typed _).trans (exec_bind_ok compared _)
    cases b with
    | true => exact ⟨.group, .inr rfl, upto⟩
    | false => exact ⟨.combatant, .inl rfl, upto⟩
  obtain ⟨x, w', made, size, back, -⟩ := exec_makeOf_member sort cell n
  obtain ⟨inside, -⟩ := Array.getElem?_eq_some_iff.1 cell
  exact ⟨x, w', upto.trans made, Nat.le_trans extended.size size, False.elim,
    fun _ => ⟨_, Nat.le_refl _, Nat.lt_of_lt_of_le inside size, back, fun default => by cases default⟩⟩

/-- **What a property gives**: a view of its section, or of a mapping that was made for it. -/
theorem run_accessor (offers : Offers w acc o v) (fits : acc.Fits w v) (n : Nat) :
    ∃ x w', run (n + 4) (.attr (.ref o) acc.name) w = .ok (some x) w' ∧ Obtained acc w v x w' := by
  obtain ⟨k, fields, es, has, cell, found, listed⟩ := offers.owner
  have given : ∃ x w', (acc.value .ask (dataField fields)).exec (run (n + 3)) w = .ok x w' ∧ Obtained acc w v x w' := by
    have either : v = .none ∨ (mappingAt w v).isSome = true := fits.mapping.imp_left (·.1)
    have there (plain : acc.hasDefault = false) : (mappingAt w v).isSome = true :=
      fits.mapping.resolve_left fun ⟨_, default⟩ => by rw [plain] at default; cases default
    cases acc with
    | coinpurse => exact obtained_section (.inl rfl) rfl found listed either (n + 2)
    | deathSaves => exact obtained_section (.inr (.inl rfl)) rfl found listed either (n + 2)
    | spellbook => exact obtained_section (.inr (.inr rfl)) rfl found listed either (n + 2)
    | me => exact obtained_me found listed (there rfl) n
    | current => exact obtained_current found listed (there rfl) (fits.kind rfl) n
  obtain ⟨x, w', ran, obtained⟩ := given
  have mapped : (some <$> acc.value .ask (dataField fields)).exec (run (n + 3)) w = .ok (some x) w' :=
    exec_bind_ok ran _
  refine ⟨x, w', ?_, obtained⟩
  rw [run_attr cell, objectAttr]
  simp only [Accessor.objectProperty_eq has]
  rw [exec, mapped]

end

/-! ## 4. The same property again -/

theorem Accessor.Fits.lasts (fits : acc.Fits w v) (lasts : w.Lasts w')
    (kind : acc = .current → ∃ t : Option String, entryIn w' v "type" = t.map word) : acc.Fits w' v :=
  ⟨fits.mapping.imp_right (mappingAt_of_lasts lasts), kind⟩

theorem Accessor.Fits.lt_size (fits : acc.Fits w v) (same : v = .ref s) : s < w.heap.size := by
  subst same
  have there := fits.mapping.resolve_left fun ⟨missing, _⟩ => by cases missing
  obtain ⟨es, found⟩ := isSome_iff_exists.1 there
  obtain ⟨s', g, n, same, cell⟩ := mappingAt_eq_some found
  cases same
  exact (Array.getElem?_eq_some_iff.1 cell).1

/-- **A view that is obtained again is one of the same mapping exactly when** the section is what views are
    made of: one that is not empty, and that of the player's combatant, but never that of whose turn it is.
    Then all that is written through the first view is shown by the second. -/
theorem view_shared_iff {w : World} {acc : Accessor} {o : Addr} {v : Value} (offers : Offers w acc o v)
    (fits : acc.Fits w v) (n : Nat) :
    ∃ x w₁ d, run (n + 4) (.attr (.ref o) acc.name) w = .ok (some x) w₁ ∧ behind w₁ x = some d ∧
      ∀ w₂, w₁.Lasts w₂ → Offers w₂ acc o v →
        (acc = .current → ∃ t : Option String, entryIn w₂ v "type" = t.map word) → ∀ m,
        ∃ x' w₃, run (m + 4) (.attr (.ref o) acc.name) w₂ = .ok (some x') w₃ ∧
          (behind w₃ x' = some d ↔ acc.Keeps w v ∧ acc.Keeps w₂ v) ∧
          (acc.Keeps w v ∧ acc.Keeps w₂ v → ∀ key, key ≠ "type" → entryIn w₃ d key = entryIn w₂ d key) ∧
          (acc.hasDefault = true → ¬ acc.Keeps w₂ v →
            ∃ d', behind w₃ x' = some d' ∧ ∀ key, entryIn w₃ d' key = none) := by
  obtain ⟨x, w₁, ran, first⟩ := run_accessor offers fits n
  have lasts₁ : w.Lasts w₁ := gives_lasts (.ask (.attr (.ref o) acc.name)) (some x) w₁
    (show (Eval.ask _).exec (run (n + 4)) w = _ by rw [Eval.exec, ran])
  obtain ⟨d, back, taken, made⟩ : ∃ d, behind w₁ x = some d ∧ (acc.Keeps w v → d = v) ∧
      (¬ acc.Keeps w v → ∃ s, w.heap.size ≤ s ∧ s < w₁.heap.size ∧ d = .ref s) := by
    by_cases kept : acc.Keeps w v
    · exact ⟨v, (first.kept kept).1, fun _ => rfl, fun other => absurd kept other⟩
    · obtain ⟨s, new, inside, back, -⟩ := first.anew kept
      exact ⟨_, back, fun keeps => absurd keeps kept, fun _ => ⟨s, new, inside, rfl⟩⟩
  refine ⟨x, w₁, d, ran, back, fun w₂ lasts₂ offers₂ kind m => ?_⟩
  obtain ⟨x', w₃, ran', second⟩ := run_accessor offers₂ (fits.lasts (lasts₁.trans lasts₂) kind) m
  refine ⟨x', w₃, ran', ?_, fun ⟨kept, kept₂⟩ key other => ?_, fun default unkept => ?_⟩
  · by_cases kept₂ : acc.Keeps w₂ v
    · rw [(second.kept kept₂).1, Option.some.injEq, and_iff_left kept₂]
      refine ⟨fun same => Classical.byContradiction fun unkept => ?_, fun kept => (taken kept).symm⟩
      -- the mapping that was made for the first view is not the section
      obtain ⟨s, new, -, rfl⟩ := made unkept
      exact absurd (fits.lt_size same) (Nat.not_lt.2 new)
    · refine iff_of_false (fun same => ?_) fun both => kept₂ both.2
      obtain ⟨s', new', -, back', -⟩ := second.anew kept₂
      rw [back', Option.some.injEq] at same
      -- nor is the one that was made for the second view any that was there
      have inside : s' < w₁.heap.size := by
        by_cases kept : acc.Keeps w v
        · exact Nat.lt_of_lt_of_le (fits.lt_size (same.trans (taken kept)).symm) first.size
        · obtain ⟨s, -, inside, rfl⟩ := made kept
          cases same
          exact inside
      exact absurd (Nat.lt_of_lt_of_le inside lasts₂.size_le) (Nat.not_lt.2 new')
  · rw [taken kept]
    exact (second.kept kept₂).2 key other
  · obtain ⟨s', -, -, back', empty⟩ := second.anew unkept
    refine ⟨_, back', fun key => ?_⟩
    rw [entryIn, empty default]
    rfl

theorem view_shared_iff_coins :
    let purse : Entries := #[⟨.str "gp", word "gp", .int 5⟩]
    let sheet : Entries := #[⟨.str "coinpurse", word "coinpurse", .ref 2⟩]
    let w : World :=
      { heap := #[.object .playedCharacter [("_data", .ref 1)], .dict false sheet none, .dict false purse none] }
    Offers w .coinpurse 0 (.ref 2) ∧ Accessor.coinpurse.Fits w (.ref 2) ∧ Accessor.coinpurse.Keeps w (.ref 2) ∧
      ∃ x w', run 4 (.attr (.ref 0) "coinpurse") w = .ok (some x) w' := by
  intro purse sheet w
  have offers : Offers w .coinpurse 0 (.ref 2) := ⟨.playedCharacter, _, sheet, rfl, rfl, rfl, rfl⟩
  have fits : Accessor.coinpurse.Fits w (.ref 2) := ⟨.inr rfl, fun never => by cases never⟩
  obtain ⟨x, w₁, -, ran, -⟩ := view_shared_iff offers fits 0
  exact ⟨offers, fits, ⟨purse, rfl, by decide⟩, x, w₁, ran⟩

/-- The coins that a character without any is given are not there when they are asked for again. -/
theorem coins_lost_without_purse :
    let sp : Syntax.Span := ⟨1, 0, 1, 0⟩
    let number (n : Int) : Syntax.Expr := .constant sp (.int n)
    let purse : Syntax.Expr := .attribute sp (.name sp "hero" .load) "coinpurse" .load
    let w : World :=
      { heap := #[.object .playedCharacter [("_data", .ref 1)], .dict false #[] none], builtins := [("hero", .ref 0)] }
    (match run 20 (.body
        [.expr sp (.call sp (.attribute sp purse "set_coins" .load)
            ([1, 2, 3, 4, 5].map number) []),
          .ret sp (some (.attribute sp purse "gp" .load))]) w with
      | .ok (.ret v _) _ => v.asInt?
      | _ => none) = some 0 := by
  decide +kernel

end AliasTools.Sheet
