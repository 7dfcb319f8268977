import AliasTools.Proofs.Outcomes

/-!
# Names that are out of reach

A limit hides some attributes from scripts.  Its check stands at one place, where an expression asks for
an attribute with a dot.
-/

namespace AliasTools

variable {a : Addr} {k : ObjectKind} {name : String} {α : Type} {w : World} {fields : Names}

def Sheet.ObjectKind.opens (k : ObjectKind) (name : String) : Bool := k.hasItems && !(k.blocksDigits && isDigits name)

namespace Script

open Syntax Sheet Eval List

/-! ## 1. Expressions -/

def World.noNode (w : World) (sp : Span) : Failure :=
  w.errorAt .tooManyStatements "You are trying to execute too many statements." sp

def World.HasRoom (w : World) : Prop := w.statements + 1 ≤ w.limits.maxStatements

instance (w : World) : Decidable w.HasRoom := inferInstanceAs (Decidable (_ ≤ _))

theorem exec_node_bind (answer : Answering) (sp : Span) (f : Unit → Eval α) (w : World) :
    (bind (.node sp) f).exec answer w =
      if w.HasRoom then (f ()).exec answer w.countNode
      else .error (w.countNode.noNode sp) w.countNode := by
  rw [exec, exec]
  by_cases room : w.HasRoom
  · have inside : ¬ w.countNode.statements > w.countNode.limits.maxStatements := Int.not_lt.mpr room
    rw [if_pos room, if_neg inside]
  · have beyond : w.countNode.statements > w.countNode.limits.maxStatements := Int.not_le.mp room
    rw [if_neg room, if_pos beyond]
    rfl

theorem run_expr_full (full : w.simple = false) (n : Nat) (e : Expr) : run (n + 1) (.expr e) w = if w.HasRoom then
        (Eval.bind (tiedTo e.span (evalNode .ask e)) fun v => guardValue .ask v).exec (run n) w.countNode
      else .error (w.countNode.noNode e.span) w.countNode := by
  have rule : step .ask (.expr e) = Eval.bind .read fun w : World =>
      if w.simple = true then evalPlain .ask e
      else Eval.bind (.node e.span) fun _ =>
        Eval.bind (tiedTo e.span (evalNode .ask e)) fun v => guardValue .ask v := rfl
  rw [run, rule, exec_read_bind, if_neg (Bool.eq_false_iff.mp full), exec_node_bind]

/-! ## 2. With a dot -/

def World.refusal (w : World) (name : String) (sp : Span) : Failure :=
  w.errorAt .featureNotAvailable ("Access to the " ++ name ++ " attribute is not allowed") sp

theorem exec_evalAttribute_of_hides (hidden : w.limits.hides name = true) (answer : Answering) (sp : Span)
    (e : Expr) : (evalAttribute .ask sp e name).exec answer w = .error (w.refusal name sp) w := by
  have rule : evalAttribute .ask sp e name = Eval.bind .read fun w : World =>
      if w.limits.hides name = true then
        Eval.bind (failAt .featureNotAvailable ("Access to the " ++ name ++ " attribute is not allowed") sp) _
      else _ := rfl
  rw [rule, exec_read_bind, if_pos hidden]
  rfl

theorem run_attribute_of_hides (full : w.simple = false) (hidden : w.limits.hides name = true) (n : Nat)
    (sp : Span) (e : Expr) (use : NameUse) : run (n + 1) (.expr (.attribute sp e name use)) w =
      .error (if w.HasRoom then w.countNode.refusal name sp else w.countNode.noNode sp) w.countNode := by
  rw [run_expr_full full]
  split
  · have refused : (evalNode .ask (.attribute sp e name use)).exec (run n) w.countNode =
        .error (w.countNode.refusal name sp) w.countNode :=
      exec_evalAttribute_of_hides (w := w.countNode) hidden (run n) sp e
    rw [exec, tiedTo, exec, refused]
    rfl
  · rfl

/-! ## 3. As an item -/

def demanded (k : ObjectKind) (name : String) : Outcome (Option Value) → Outcome Value
  | .ok (some v) w => .ok v w
  | .ok none w => .error (.fault ⟨.attributeError, "'" ++ k.name ++ "' object has no attribute '" ++ name ++ "'"⟩) w
  | .error e w => .error e w

theorem demanded_eq_ok_iff : demanded k name r = .ok u w ↔ r = .ok (some u) w := by
  rcases r with ⟨_ | v, w'⟩ | ⟨e, w'⟩ <;> simp [demanded]

theorem exec_objectAttrOrFail (answer : Answering) (self : Value) (k : ObjectKind) (fields : Names)
    (name : String) (w : World) : (objectAttrOrFail .ask self k fields name).exec answer w =
      demanded k name ((objectAttr .ask self k fields name).exec answer w) := by
  show exec answer (.bind _ _) w = _
  rw [exec]
  split
  · next v w' out =>
    rw [out]
    cases v <;> rfl
  · next e w' out =>
    rw [out]
    rfl

theorem objectItem_of_opens (opens : k.opens name = true) (self : Value) (fields : Names) (g : Bool) :
    objectItem .ask self k fields (.str name g) =
      .bind (.ask (.text (.str name g))) fun text => objectAttrOrFail .ask self k fields text := by
  obtain ⟨items, free⟩ := Bool.and_eq_true_iff.mp opens
  have free : ¬ (k.blocksDigits && isDigits name) = true := by rwa [Bool.not_eq_true', ← Bool.not_eq_true] at free
  unfold objectItem
  split
  · exact absurd items Bool.false_ne_true
  · exact absurd items Bool.false_ne_true
  · exact absurd items Bool.false_ne_true
  · rw [if_neg (by rw [items]; exact Bool.false_ne_true)]
    split
    · exact if_neg free
    · rfl

section

variable (found : w.heap[a]? = some (.object k fields))

include found

theorem run_item (n : Nat) (key : Value) :
    run (n + 1) (.item (.ref a) key) w = (objectItem .ask (.ref a) k fields key).exec (run n) w := by
  exact exec_found (fun c => _) found

theorem run_attr (n : Nat) (name : String) :
    run (n + 1) (.attr (.ref a) name) w = (objectAttr .ask (.ref a) k fields name).exec (run n) w := by
  exact exec_found (fun c => _) found

theorem run_item_of_opens (opens : k.opens name = true) (n : Nat) (g : Bool) :
    run (n + 2) (.item (.ref a) (.str name g)) w = demanded k name (run (n + 2) (.attr (.ref a) name) w) := by
  rw [run_item found, run_attr found, objectItem_of_opens opens]
  exact exec_objectAttrOrFail (run (n + 1)) (.ref a) k fields name w

theorem run_attr_data (has : fields.get? "_data" = some d) (n : Nat) :
    run (n + 1) (.attr (.ref a) "_data") w = .ok (some d) w := by
  have property : objectProperty .ask (.ref a) k fields "_data" = none := by cases k <;> rfl
  rw [run_attr found, objectAttr]
  simp only [property, has]
  rfl

end

def World.Made (w : World) (k : ObjectKind) (u : Value) (w' : World) : Prop :=
  ∃ b fields, u = .ref b ∧ w.heap.size ≤ b ∧ w'.heap[b]? = some (.object k fields)

theorem World.Lasts.size_le (lasts : w.Lasts w') : w.heap.size ≤ w'.heap.size := by
  refine Nat.le_of_not_lt fun shorter => ?_
  obtain ⟨_, found, -⟩ := lasts.cells w'.heap.size _ (Array.getElem?_eq_getElem shorter)
  rw [Array.getElem?_eq_none (Nat.le_refl _)] at found
  cases found

theorem gives_made {k : Nat} (lasts : w.Lasts w') (kind : ObjectKind) (fields : Names) :
    Gives k w' (makeObject kind fields) (w.Made kind) := by
  intro u w'' ran
  cases ran
  exact ⟨w'.heap.size, fields, rfl, lasts.size_le, Array.getElem?_push_size⟩

/-- What the item of an object is when the object keeps its attributes to itself: an entry of its mapping,
    an attack, or a skill. -/
def KeptItem (n : Nat) (w : World) (fields : Names) (key : Value) : ObjectKind → Value → World → Prop
  | .levels, u, w' => run n (.item (dataField fields) key) w = .ok u w'
  | .attackList, u, w' => w.Made .attack u w'
  | .skills, u, w' => w.Made .skill u w'
  | _, _, _ => False

theorem gives_skillOf (k : Nat) (w : World) (fields : Names) (name : String) :
    Gives k w (skillOf .ask fields name) (w.Made .skill) := by
  have made {w' : World} (lasts : w.Lasts w') (data : Value) :
      Gives k w' (makeOf .ask .skill data) (w.Made .skill) :=
    .pure_bind (gives_made lasts .skill _)
  refine .past (.refl w) fun entry w₁ lasts => .past lasts fun found w₂ lasts => .past lasts fun holds w₃ lasts => ?_
  split
  · exact made lasts found
  · have fromBonus (bonus : Int) {w₄ : World} (lasts : w.Lasts w₄) :
        Gives k w₄ (.bind (mapOf [("value", .int bonus), ("prof", .int 0), ("bonus", .int 0),
          ("adv", .none)]) fun data => makeOf .ask .skill data) (w.Made .skill) :=
      .past lasts fun data _ lasts => made lasts data
    split
    · exact .pure_bind (fromBonus 0 lasts)
    · exact .past lasts fun score _ lasts => .past lasts fun bonus _ lasts => fromBonus bonus lasts

theorem gives_objectItem_of_not_opens (kept : ¬ k.opens name = true) (n : Nat) (w : World) (self : Value)
    (fields : Names) (g : Bool) :
    Gives n w (objectItem .ask self k fields (.str name g)) (KeptItem n w fields (.str name g) k) := by
  unfold objectItem
  split
  · exact fun u w' ran => ran
  · exact .bind (gives_lasts _) fun found w' lasts => gives_made lasts .attack _
  · refine .bind (gives_lasts _) fun text w' lasts => ?_
    intro u w'' ran
    obtain ⟨b, fields, rfl, size, there⟩ := gives_skillOf n w' fields text u w'' ran
    exact ⟨b, fields, rfl, Nat.le_trans lasts.size_le size, there⟩
  · refine gives_unless fun items => ?_
    have items : k.hasItems = true := by rwa [Bool.not_eq_true, Bool.not_eq_false'] at items
    have blocked : (k.blocksDigits && isDigits name) = true := by
      rwa [ObjectKind.opens, items, Bool.true_and, Bool.not_eq_true, Bool.not_eq_false'] at kept
    split
    · exact gives_unless fun _ => gives_unless fun free => absurd blocked free
    · next silent =>
      have none : k.blocksDigits = false := by rw [ObjectKind.blocksDigits, silent]; rfl
      rw [none] at blocked
      exact absurd blocked Bool.false_ne_true

/-! ## 4. Subscripts -/

/-- The parts of a subscript give an object and a text. -/
structure Indexed (n : Nat) (w : World) (container key : Expr) (a : Addr) (text : Value) (w' : World) :
    Prop where
  room : w.HasRoom
  parts : ∃ v, run n (.expr container) w.countNode = .ok (.ref a) v ∧ run n (.expr key) v = .ok text w'

def Seen (n : Nat) (u : Value) (w : World) (v : Value) (w' : World) : Prop :=
  (guardValue .ask u).exec (run n) w = .ok v w'

theorem run_subscript_iff (full : w.simple = false)
    (indexed : Indexed n w container key a text w₁) (sp : Span) (use : NameUse) (v : Value) (w' : World) :
    run (n + 1) (.expr (.subscript sp container key use)) w = .ok v w' ↔
      ∃ u w₂, run n (.item (.ref a) text) w₁ = .ok u w₂ ∧ Seen n u w₂ v w' := by
  obtain ⟨middle, first, second⟩ := indexed.parts
  have node : (evalNode .ask (.subscript sp container key use)).exec (run n) w.countNode =
      run n (.item (.ref a) text) w₁ := by
    show (bind (.ask (.expr container)) fun c => Eval.bind (.ask (.expr key)) fun k =>
      ask (.item c k)).exec (run n) w.countNode = _
    rw [exec, exec, first]
    dsimp only
    rw [exec, exec, second]
    rfl
  rw [run_expr_full full, if_pos indexed.room, exec, tiedTo, exec, node]
  cases run n (.item (.ref a) text) w₁ with
  | ok u w₂ => exact ⟨fun ran => ⟨u, w₂, rfl, ran⟩, fun ⟨_, _, same, ran⟩ => by cases same; exact ran⟩
  | error e w₂ => exact ⟨nofun, fun ⟨_, _, same, _⟩ => by cases same⟩

theorem opens_of_hides (hidden : ({} : Limits).hides name = true) (k : ObjectKind) : k.opens name = k.hasItems := by
  have notDigits {c : Char} {cs : List Char} (starts : name.toList = c :: cs)
      (other : Text.isDigit c = false) : isDigits name = false := by
    rw [isDigits, starts, all_cons, other, Bool.false_and, Bool.and_false]
  have digits : isDigits name = false := by
    rcases Bool.or_eq_true_iff.mp hidden with start | listed
    · obtain ⟨p, member, starts⟩ := any_eq_true.mp start
      obtain ⟨rest, same⟩ := isPrefixOf_iff_prefix.mp starts
      simp only [mem_cons, not_mem_nil, or_false] at member
      rcases member with rfl | rfl
      · exact notDigits same.symm rfl
      · exact notDigits same.symm rfl
    · have member := contains_iff_mem.mp listed
      simp only [mem_cons, not_mem_nil, or_false] at member
      rcases member with rfl | rfl | rfl | rfl | rfl | rfl | rfl | rfl <;> rfl
  rw [ObjectKind.opens, digits, Bool.and_false, Bool.not_false, Bool.and_true]

/-- **Hidden attributes are within reach as items.**  After a dot a hidden name is refused, and what stands
    before it is not even evaluated.  In brackets, an object that opens gives just what it would give as an
    attribute, and its whole mapping under the name `_data`; no other object does. -/
theorem hidden_attributes_reached_as_items {w : World} (full : w.simple = false) {name : String}
    (hidden : w.limits.hides name = true) :
    (∀ (n : Nat) (sp : Span) (e : Expr) (use : NameUse),
      run (n + 1) (.expr (.attribute sp e name use)) w =
        .error (if w.HasRoom then w.countNode.refusal name sp else w.countNode.noNode sp) w.countNode) ∧
    (∀ (n : Nat) (sp : Span) (container key : Expr) (use : NameUse) (a : Addr) (g : Bool) (w₁ : World)
      (k : ObjectKind) (fields : Names), Indexed (n + 2) w container key a (.str name g) w₁ →
      w₁.heap[a]? = some (.object k fields) →
      (k.opens name = true → ∀ v w',
        run (n + 3) (.expr (.subscript sp container key use)) w = .ok v w' ↔
          ∃ u w₂, run (n + 2) (.attr (.ref a) name) w₁ = .ok (some u) w₂ ∧ Seen (n + 2) u w₂ v w') ∧
      (¬ k.opens name = true → ∀ v w',
        run (n + 3) (.expr (.subscript sp container key use)) w = .ok v w' →
          ∃ u w₂, KeptItem (n + 1) w₁ fields (.str name g) k u w₂ ∧ Seen (n + 2) u w₂ v w') ∧
      ∀ d, fields.get? "_data" = some d → run (n + 2) (.attr (.ref a) "_data") w₁ = .ok (some d) w₁) ∧
    (w.limits = {} → ∀ k : ObjectKind, k.opens name = k.hasItems) := by
  refine ⟨run_attribute_of_hides full hidden, ?_, fun usual => opens_of_hides (usual ▸ hidden)⟩
  intro n sp container key use a g w₁ k fields indexed found
  refine ⟨fun opens v w' => ?_, fun kept v w' ran => ?_, fun d has => run_attr_data found has (n + 1)⟩
  · rw [run_subscript_iff full indexed, run_item_of_opens found opens]
    simp only [demanded_eq_ok_iff]
  · obtain ⟨u, w₂, item, seen⟩ := (run_subscript_iff full indexed sp use v w').mp ran
    rw [run_item found] at item
    exact ⟨u, w₂, gives_objectItem_of_not_opens kept (n + 1) w₁ (.ref a) fields g u w₂ item, seen⟩

/-- The mapping of `ctx`, asked for after a dot and in brackets. -/
theorem hidden_attributes_reached_as_items_context :
    let sp : Span := ⟨1, 0, 1, 0⟩
    let ctx : Expr := .name sp "ctx" .load
    let fields : Names := [("_data", .ref 1)]
    let w : World :=
      { heap := #[.object .aliasContext fields, .dict true #[] none], scopes := #[[("ctx", .ref 0)]] }
    w.simple = false ∧ w.limits.hides "_data" = true ∧ ObjectKind.aliasContext.opens "_data" = true ∧
      (∃ f w', run 4 (.expr (.attribute sp ctx "_data" .load)) w = .error f w') ∧
      ∃ w', run 4 (.expr (.subscript sp ctx (.constant sp (.str "_data" false)) .load)) w =
        .ok (.ref 1) w' := by
  intro sp ctx fields w
  have hidden : w.limits.hides "_data" = true := by decide +kernel
  obtain ⟨dot, item, -⟩ := hidden_attributes_reached_as_items (w := w) rfl hidden
  refine ⟨rfl, hidden, rfl, ⟨_, _, dot 3 sp ctx .load⟩, ?_⟩
  obtain ⟨opened, -, mapping⟩ := item 1 sp ctx (.constant sp (.str "_data" false)) .load 0 true
    w.countNode.countNode.countNode .aliasContext fields ⟨by decide, _, rfl, rfl⟩ rfl
  exact ⟨_, (opened rfl (.ref 1) _).mpr ⟨.ref 1, _, mapping (.ref 1) rfl, rfl⟩⟩

/-- A script reads what is in the mapping behind `ctx` as `ctx["_data"]`. -/
theorem item_gives_hidden_mapping :
    let sp : Span := ⟨1, 0, 1, 0⟩
    let key : Expr := .constant sp (.str "_data" false)
    let w : World :=
      { heap := #[.object .aliasContext [("_data", .ref 1)],
          .dict true #[⟨.int 1, .int 1, .int 7⟩] none]
        builtins := [("ctx", .ref 0)] }
    w.limits.hides "_data" = true ∧
      (match run 10 (.expr (.subscript sp (.name sp "ctx" .load) key .load)) w with
        | .ok (.ref b) w' =>
          match w'.heap[b]? with
          | some (.dict _ es _) => es.toList.map (·.value.asInt?)
          | _ => []
        | _ => []) = [some 7] := by
  decide +kernel

end Script

end AliasTools
