import AliasTools.Proofs.Augmenting
import AliasTools.Proofs.FieldSizes

/-!
# Texts with fields

A text with fields is put together from its parts in their order: what is written between the fields, and for each
field the text of its value, under a format that is itself such a text.  What kind of text is asked for, by `!r` or
`!a`, is not looked at.
-/

namespace AliasTools.Script

open Syntax Text String

mutual

/-- What a text with fields consists of. -/
def isPart : Expr → Bool
  | .constant _ (.str _ _) | .formattedValue _ _ _ none => true
  | .formattedValue _ _ _ (some format) => hasParts format
  | _ => false

def hasParts : Expr → Bool
  | .joinedStr _ parts => areParts parts
  | _ => false

def areParts : List Expr → Bool
  | [] => true
  | e :: es => isPart e && areParts es

end

def Answers {α : Type} (t : Task α) (w : World) (v : α) (w' : World) : Prop := ∃ n, run n t w = .ok v w'

mutual

/-- The text of a part, evaluated in a world.  The format of a field is worked out before its value. -/
inductive PartText : World → Expr → String → World → Prop where
  | written (w : World) (sp : Span) (s : String) (marked : Bool) :
    PartText w (.constant sp (.str s marked)) s w.countNode
  | value {w w₁ w' : World} {e : Expr} {v : Value} {t : String} (sp : Span) (conversion : Int)
    (valued : Answers (.expr e) w.countNode v w₁) (text : Answers (.text v) w₁ t w') :
    PartText w (.formattedValue sp e conversion none) t w'
  | formatted {w w₁ w₂ w' : World} {e : Expr} {parts : List Expr} {v : Value} {format t : String} (sp fsp : Span)
    (conversion : Int) (read : PartsText w.countNode.countNode parts format w₁)
    (small : (fieldSize format.toList : Int) ≤ w₁.limits.maxConstLen) (valued : Answers (.expr e) w₁ v w₂)
    (text : Answers (.format v format) w₂ t w') :
    PartText w (.formattedValue sp e conversion (some (.joinedStr fsp parts))) t w'

/-- The texts of parts, one after the other. -/
inductive PartsText : World → List Expr → String → World → Prop where
  | nil (w : World) : PartsText w [] "" w
  | cons {w w₁ w' : World} {e : Expr} {es : List Expr} {t ts : String} (first : PartText w e t w₁)
    (rest : PartsText w₁ es ts w') : PartsText w (e :: es) (t ++ ts) w'

end

section

variable {k : Nat} {w : World} {α β γ : Type} {p : γ → World → Prop}

theorem Gives.assoc {f : α → Eval β} (holds : Gives k w (.bind (.bind x f) g) p) :
    Gives k w (.bind x fun v => .bind (f v) g) p := by
  intro u w' ran
  rw [← exec_bind_assoc] at ran
  exact holds u w' ran

theorem gives_answers (t : Task α) : Gives k w (.ask t) fun v w' => Answers t w v w' := fun _ _ ran => ⟨k, ran⟩

theorem gives_checkFormat (spec : String) :
    Gives k w (checkFormat spec) fun _ w' => (fieldSize spec.toList : Int) ≤ w.limits.maxConstLen ∧ w' = w := by
  refine .reading ?_
  split
  · exact gives_raise _
  · next small => exact gives_pure ⟨Int.not_lt.mp small, rfl⟩

theorem Value.guarded_guarded (v : Value) : v.guarded.guarded = v.guarded := by cases v <;> rfl

theorem gives_guarded (full : w.simple = false) (e : Expr) : Gives k w (.ask (.expr e)) fun v w' =>
    ∀ n, (guardValue .ask v).exec (run n) w' = .ok v w' := by
  refine gives_expr full fun k v w₁ _ u w' ran n => ?_
  have shared := gives_guardValue k v u w' ran
  rw [exec_guardValue_of_not_plain _ shared]
  by_cases plain : w₁.Plain v
  · obtain ⟨a, c, rfl, found, plain⟩ := plain
    rw [exec_guardValue_of_plain _ found plain] at ran
    obtain ⟨rfl, -⟩ := gives_measuring k _ _ u w' ran
    rfl
  · rw [exec_guardValue_of_not_plain _ plain] at ran
    cases ran
    rw [Value.guarded_guarded]

end

def partText (e : Expr) : Eval String := .bind (.ask (.expr e)) fun v => .ask (.text v)

theorem gives_partText (full : w.simple = false)
    (node : ∀ k, Gives k w.countNode (evalNode .ask e) fun v w' => ∃ s g, v = .str s g ∧ p s w') :
    Gives k w (partText e) p := by
  have valued : Gives k w (.ask (.expr e)) fun v w' => ∃ s g, v = .str s g ∧ p s w' := by
    refine gives_expr full fun k v w' ran => ?_
    obtain ⟨s, g, rfl, holds⟩ := node k v w' ran
    exact gives_pure ⟨s, true, rfl, holds⟩
  refine valued.bind ?_
  rintro _ w₁ ⟨s, g, rfl, holds⟩ t w' ran
  obtain ⟨rfl, rfl⟩ := gives_text_of_text s g t w' ran
  exact holds

theorem gives_joined (full : w.simple = false)
    (texts : ∀ k, Gives k w.countNode (evalJoined .ask sp 0 [] parts) fun v w' =>
      ∃ t, p t w' ∧ v = .str (join [] ++ t) false) : Gives k w (partText (.joinedStr sp parts)) p := by
  refine gives_partText full fun k v w' ran => ?_
  obtain ⟨t, holds, rfl⟩ := texts k v w' ran
  exact ⟨t, false, by rw [join_nil, empty_append], holds⟩

mutual

theorem gives_part (full : w.simple = false) (e : Expr) (part : isPart e = true) :
    Gives k w (partText e) fun t w' => PartText w e t w' := by
  match e, part with
  | .constant sp (.str s marked), _ =>
    refine gives_partText full fun k v w' ran => ?_
    obtain ⟨rfl, rfl⟩ := gives_evalLiteral sp (.str s marked) v w' ran
    exact ⟨s, false, rfl, .written w sp s marked⟩
  | .formattedValue sp e conversion none, _ =>
    have valued : Gives k w (.ask (.expr (.formattedValue sp e conversion none))) fun v w' =>
        Answers (.expr e) w.countNode v w' := by
      refine gives_expr full fun k v w₁ ran u w' ran' => ?_
      rw [gives_guarded (w := w.countNode) full e v w₁ ran] at ran'
      cases ran'
      exact ⟨k, ran⟩
    exact valued.bind fun v w₁ valued t w' ran => .value sp conversion valued ⟨k, ran⟩
  | .formattedValue sp e conversion (some (.joinedStr fsp parts)), part =>
    refine gives_partText full fun k => ?_
    have format := (gives_joined (k := k) (w := w.countNode) full fun k =>
      gives_parts (w := w.countNode.countNode) full fsp 0 [] parts part).and (gives_continues _)
    refine .assoc (format.bind fun format w₁ ⟨read, on⟩ => ?_)
    refine (gives_checkFormat format).knowing fun _ small => ?_
    refine (gives_answers _).bind fun v w₂ valued => ?_
    refine (gives_answers _).bind fun t w' text => ?_
    exact gives_pure ⟨t, true, rfl, .formatted sp fsp conversion read small valued text⟩
termination_by SizeOf.sizeOf e

theorem gives_parts (full : w.simple = false) (sp : Span) (n : Int) (done : List String)
    (parts : List Expr) (all : areParts parts = true) : Gives k w (evalJoined .ask sp n done parts) fun v w' =>
      ∃ t, PartsText w parts t w' ∧ v = .str (join done.reverse ++ t) false := by
  match parts, all with
  | [], _ => exact gives_pure ⟨"", .nil w, by rw [append_empty]⟩
  | e :: es, all =>
    obtain ⟨part, rest⟩ := Bool.and_eq_true_iff.mp all
    refine .assoc (((gives_part full e part).and (gives_continues _)).bind fun t w₁ ⟨first, on⟩ => ?_)
    refine .reading (gives_unless_failAt fun _ v w' ran => ?_)
    obtain ⟨ts, texts, rfl⟩ := gives_parts (on.mode.trans full) sp _ (t :: done) es rest v w' ran
    refine ⟨t ++ ts, .cons first texts, ?_⟩
    rw [List.reverse_cons, join_append, join_cons, join_nil, append_empty,
      append_assoc]
termination_by SizeOf.sizeOf parts

end

/-- **A text with fields is the texts of its parts, in their order**: for a field the text of its value, or the value
    under the format that is worked out for it.  No conversion makes a difference. -/
theorem formatted_text_joins_parts {w : World} (full : w.simple = false) (sp : Span) {parts : List Expr}
    (fields : areParts parts = true) (k : Nat) :
    (Gives k w (.ask (.expr (.joinedStr sp parts))) fun v w' =>
      ∃ t, v = .str t true ∧ PartsText w.countNode parts t w') ∧
    ∀ e conversion conversion' format t w', PartText w (.formattedValue sp e conversion format) t w' →
      PartText w (.formattedValue sp e conversion' format) t w' := by
  constructor
  · refine gives_expr full fun k v w₁ ran u w' ran' => ?_
    obtain ⟨t, texts, rfl⟩ := gives_parts (w := w.countNode) full sp 0 [] parts fields v w₁ ran
    cases ran'
    exact ⟨_, rfl, by rwa [List.reverse_nil, String.join_nil, String.empty_append]⟩
  · intro e conversion conversion' format t w' text
    cases text with
    | value _ _ valued text => exact .value sp conversion' valued text
    | formatted _ fsp _ read small valued text => exact .formatted sp fsp conversion' read small valued text

def textGiven (r : Outcome Value) : Option String :=
  match r with
  | .ok (.str s _) _ => some s
  | _ => none

theorem exists_of_textGiven (given : textGiven r = some s) : ∃ g w, r = .ok (.str s g) w := by
  unfold textGiven at given
  split at given <;> cases given
  exact ⟨_, _, rfl⟩

/-- `f"{'a':>{n}}!"`, where `n` is 3. -/
theorem formatted_text_joins_parts_nested :
    let sp : Span := ⟨1, 0, 1, 0⟩
    let text (s : String) : Expr := .constant sp (.str s false)
    let width : Expr := .formattedValue sp (.name sp "n" .load) (-1) none
    let parts : List Expr := [.formattedValue sp (text "a") (-1) (some (.joinedStr sp [text ">", width])), text "!"]
    let w : World := { scopes := #[[("n", .int 3)]] }
    w.simple = false ∧ areParts parts = true ∧ ∃ w', PartsText w.countNode parts "  a!" w' := by
  intro sp text width parts w
  have fields : areParts parts = true := by decide
  have given : textGiven (run 20 (.expr (.joinedStr sp parts)) w) = some "  a!" := by decide +kernel
  obtain ⟨g, w', ran⟩ := exists_of_textGiven given
  have joins := (formatted_text_joins_parts (w := w) rfl sp fields 20).1 (.str "  a!" g) w'
  obtain ⟨t, same, texts⟩ := joins (by rw [Eval.exec]; exact ran)
  cases same
  exact ⟨rfl, fields, w', texts⟩

/-- `f"{'a'!r}"` gives the letter alone, and not as a script would write it. -/
theorem conversion_without_effect :
    let sp : Span := ⟨1, 0, 1, 0⟩
    let letter : Expr := .constant sp (.str "a" false)
    textGiven (run 10 (.expr (.joinedStr sp [.formattedValue sp letter 114 none])) {}) = some "a" ∧
      (match run 10 (.shown [] (.str "a" true)) {} with
        | .ok s _ => some s
        | .error _ _ => none) = some "'a'" := by
  decide +kernel

end AliasTools.Script
