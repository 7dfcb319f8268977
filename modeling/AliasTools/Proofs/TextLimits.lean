import AliasTools.Proofs.GuardedGrowth
import AliasTools.Proofs.Templates
import AliasTools.Proofs.TextLengths

/-!
# Texts within the limit

Whatever makes a text from a guarded one works out beforehand how long the result can become, and refuses
when that is beyond the limit.  Some of these estimates leave something out.
-/

namespace AliasTools.Script

open Text Syntax List

variable {most n : Int} {excess : Nat} {s : String} {v : Value}

def TextWithin (most : Int) (v : Value) : Prop := ∃ t g, v = .str t g ∧ (t.length : Int) ≤ most

section

variable {k : Nat} {w : World}

/-! ## 1. Sums and products -/

/-- The text of a value, asked for after the value was measured, is longer than its size by no more than
    an excess. -/
def Covers (k : Nat) (w : World) (v : Value) (excess : Nat) : Prop :=
  Gives k w (sizeOf .ask v) fun n w' => Gives k w' (.ask (.text v)) fun t _ => (t.length : Int) ≤ n + excess

theorem covers_text (s : String) (g : Bool) : Covers k w (.str s g) 0 := by
  rintro n w' ran
  obtain ⟨rfl, rfl⟩ := gives_size_of_text s g n w' ran
  rintro t w'' ran
  obtain ⟨rfl, -⟩ := gives_text_of_text s g t w'' ran
  exact Int.le_refl _

def World.NoGuardedList (w : World) : Value → Prop
  | .ref a => ∃ c, w.heap[a]? = some c ∧ ∀ xs n, c ≠ .list true xs n
  | _ => True

theorem World.Lasts.noGuardedList (lasts : w.Lasts w') (apart : w.NoGuardedList v) : w'.NoGuardedList v := by
  cases v with
  | ref a =>
    obtain ⟨c, found, other⟩ := apart
    obtain ⟨c', found', became⟩ := lasts.cells a c found
    refine ⟨c', found', ?_⟩
    rintro ys m rfl
    cases became with
    | list _ xs _ _ => exact other xs _ rfl
  | _ => trivial

theorem numericArith_text_right (op : BinOp) (v : Value) (s : String) (g : Bool) :
    numericArith op v (.str s g) = .pure none := by
  cases v <;> rfl

theorem gives_checkResult (verb : String) (within : TextWithin most v) :
    Gives k w (checkResult verb v) fun u _ => TextWithin most u := by
  obtain ⟨t, g, rfl, short⟩ := within
  exact .reading (gives_unless fun _ => gives_pure ⟨t, g, rfl, short⟩)

theorem gives_addValues_left (within : s.length + n ≤ most)
    (covered : Gives k w (.ask (.text v)) fun t _ => (t.length : Int) ≤ n) :
    Gives k w (addValues .ask (.str s true) v) fun u _ => TextWithin most u := by
  refine .pure_bind (.bind covered fun t _ short => gives_pure ⟨_, _, rfl, ?_⟩)
  rw [String.length_append]
  omega

theorem gives_addValues_right (within : n + s.length ≤ most)
    (covered : Gives k w (.ask (.text v)) fun t _ => (t.length : Int) ≤ n)
    (plain : ∀ t g, v = .str t g → (t.length : Int) ≤ n) (apart : w.NoGuardedList v) :
    Gives k w (addValues .ask v (.str s true)) fun u _ => TextWithin most u := by
  have front (otherwise : Eval Value) :
      Gives k w (addFromRight .ask v (.str s true) otherwise) fun u _ => TextWithin most u := by
    refine .bind covered fun t _ short => gives_pure ⟨_, _, rfl, ?_⟩
    rw [String.length_append]
    omega
  unfold addValues
  rw [numericArith_text_right]
  refine .pure_bind ?_
  cases v with
  | str t g =>
    have short := plain t g rfl
    cases g with
    | true =>
      refine .bind (gives_text_of_text s true) ?_
      rintro _ _ ⟨rfl, -⟩
      refine gives_pure ⟨_, _, rfl, ?_⟩
      rw [String.length_append]
      omega
    | false =>
      refine gives_pure ⟨_, _, rfl, ?_⟩
      rw [String.length_append]
      omega
  | tuple => exact front _
  | ref a =>
    obtain ⟨c, found, other⟩ := apart
    refine .found found ?_
    cases c with
    | list g xs n =>
      cases g with
      | true => exact absurd rfl (other xs n)
      | false => exact .pure_bind (front _)
    | _ => exact front _
  | _ => exact .pure_bind (front _)

theorem gives_sum_left (covered : Covers k w v excess) : Gives k w (binaryOp .ask .add (.str s true) v) fun u _ =>
      TextWithin (w.limits.maxConstLen + excess) u := by
  refine .after (looks_checkOperands _ _) fun _ => ?_
  refine (gives_size_of_text s true).value ?_
  refine .on (.refl w) covered fun n w' lasts text => .reading ?_
  rw [lasts.limits]
  refine gives_unless fun within => ?_
  have within' : s.length + (n + excess) ≤ w.limits.maxConstLen + excess := by omega
  exact .bind (gives_addValues_left within' text) fun _ _ short => gives_checkResult _ short

theorem gives_sum_right (covered : Covers k w v excess) (apart : w.NoGuardedList v) :
    Gives k w (binaryOp .ask .add v (.str s true)) fun u _ => TextWithin (w.limits.maxConstLen + excess) u := by
  refine .after (looks_checkOperands _ _) fun _ => ?_
  have measured : Gives k w (sizeOf .ask v) fun n _ =>
      ∀ t g, v = .str t g → (t.length : Int) ≤ n + excess := by
    rintro n w' ran t g rfl
    rw [(gives_size_of_text t g n w' ran).1]
    omega
  refine .on (.refl w) (covered.and measured) fun n w' lasts ⟨text, plain⟩ => ?_
  refine (gives_size_of_text s true).value ?_
  refine .reading ?_
  rw [lasts.limits]
  refine gives_unless fun within => ?_
  have within' : n + excess + s.length ≤ w.limits.maxConstLen + excess := by omega
  refine .bind ?_ fun _ _ short => gives_checkResult _ short
  exact gives_addValues_right within' text plain (lasts.noGuardedList apart)

theorem textWithin_repeated (short : s.length ≤ most) (within : n * s.length ≤ most) (g : Bool) :
    TextWithin most (.str (String.join (List.replicate n.toNat s)) g) := by
  refine ⟨_, g, rfl, ?_⟩
  rw [String.length_join, map_replicate, sum_replicate_nat]
  by_cases negative : n < 0
  · rw [Int.toNat_of_nonpos (Int.le_of_lt negative)]
    omega
  · rw [Int.natCast_mul, Int.toNat_of_nonneg (Int.not_lt.mp negative)]
    exact within

theorem looks_isRepeatable (v : Value) : (isRepeatable v).Looks := by
  cases v with
  | str | tuple => exact .pure _
  | _ => exact .bind (looks_listItems? _) fun _ => .pure _

theorem looks_plainTypeName (v : Value) : (plainTypeName v).Looks := by
  refine .bind (looks_cellOf v) fun c => ?_
  split
  · exact .pure _
  · exact looks_typeName v

theorem gives_mulValues_left (s : String) (v : Value) : Gives k w (mulValues .ask (.str s true) v) fun u _ =>
      ∃ n, v.asInt? = some n ∧ u = .str (String.join (List.replicate n.toNat s)) true := by
  refine .pure_bind (.pure_bind (.after (looks_isRepeatable v) fun right => ?_))
  cases given : v.asInt? with
  | some n => exact gives_pure ⟨n, rfl, rfl⟩
  | none =>
    cases right with
    | true => cases v <;> exact gives_raise _
    | false => exact .after (looks_plainTypeName v) fun _ => gives_raise _

theorem gives_mulValues_right (v : Value) (s : String) : Gives k w (mulValues .ask v (.str s true)) fun u _ =>
      ∃ n, v.asInt? = some n ∧ u = .str (String.join (List.replicate n.toNat s)) true := by
  unfold mulValues
  rw [numericArith_text_right]
  refine .pure_bind (.after (looks_isRepeatable v) fun left => .pure_bind ?_)
  cases given : v.asInt? with
  | some n => cases left <;> exact gives_pure ⟨n, rfl, rfl⟩
  | none =>
    cases left with
    | true => cases v <;> exact gives_raise _
    | false => exact .after (looks_plainTypeName v) fun _ => gives_raise _

theorem gives_refuseTimes (times : Value) (s : String) (g : Bool) :
    Gives k w (refuseTimes .ask times (.str s g)) fun _ w' =>
      (∀ n, times.asInt? = some n → n * s.length ≤ w.limits.maxConstLen) ∧ w' = w := by
  unfold refuseTimes
  split
  · next n given =>
    refine (gives_size_of_text s g).value ?_
    refine .reading ?_
    split
    · exact gives_raise _
    · next within =>
      refine gives_pure ⟨fun m same => ?_, rfl⟩
      obtain rfl := Option.some.inj (given.symm.trans same)
      exact Int.not_lt.mp within
  · next none =>
    refine gives_pure ⟨fun n some => ?_, rfl⟩
    cases none.symm.trans some

theorem gives_product_left (short : s.length ≤ w.limits.maxConstLen) (v : Value) :
    Gives k w (binaryOp .ask .mult (.str s true) v) fun u _ => TextWithin w.limits.maxConstLen u := by
  refine .after (looks_checkOperands _ _) fun _ => ?_
  refine (gives_refuseTimes v s true).knowing fun _ within => .pure_bind ?_
  refine .bind (gives_mulValues_left s v) ?_
  rintro _ _ ⟨n, given, rfl⟩
  exact gives_checkResult _ (textWithin_repeated short (within n given) true)

theorem gives_product_right (short : s.length ≤ w.limits.maxConstLen) (v : Value) :
    Gives k w (binaryOp .ask .mult v (.str s true)) fun u _ => TextWithin w.limits.maxConstLen u := by
  refine .after (looks_checkOperands _ _) fun _ => ?_
  refine .pure_bind ((gives_refuseTimes v s true).knowing fun _ within => ?_)
  refine .bind (gives_mulValues_right v s) ?_
  rintro _ _ ⟨n, given, rfl⟩
  exact gives_checkResult _ (textWithin_repeated short (within n given) true)

/-! ## 2. Templates and formatted texts -/

theorem gives_filled (measured : Measured k w values 0 (directives [] (s.length + 1) s.toList) asked)
    (written : (∀ d ∈ directives [] (s.length + 1) s.toList, d.Steady) →
      ∃ n ≤ s.length + asked + excess, Written k w values values.inTurn n s.toList)
    (short : s.length ≤ w.limits.maxConstLen) : Gives k w (binaryOp .ask .mod (.str s true) values) fun u _ =>
      TextWithin (w.limits.maxConstLen + excess) u := by
  exact .pure_bind (gives_percentFormat measured written short)

theorem gives_evalJoined (sp : Span) (es : List Expr) (limits : w.limits.maxConstLen = most)
    (within : n ≤ most) (acc : List String) (total : n = (String.join acc.reverse).length) :
    Gives k w (evalJoined .ask sp n acc es) fun u _ => TextWithin most u := by
  induction es generalizing w n acc with
  | nil => exact gives_pure ⟨_, _, rfl, total ▸ within⟩
  | cons e es ih =>
    refine .past (.refl w) fun v w₁ lasts => .past lasts fun t w₂ lasts => .reading ?_
    have limits' : w₂.limits.maxConstLen = most := by rw [lasts.limits, limits]
    refine gives_unless_failAt fun short => ih limits' (limits' ▸ Int.not_lt.mp short) _ ?_
    rw [reverse_cons, String.join_append, String.length_append, String.join_cons, String.join_nil, String.append_empty]
    omega

/-! ## 3. Methods -/

theorem looks_textArguments (name : String) (self : Value) (args : List Value) (named : Names) :
    (textArguments name self args named).Looks := by
  unfold textArguments
  split
  · exact .raise _
  · exact looks_bind _ _ _

theorem gives_textMethod {q : Bound → Prop}
    (matched : Gives k w (textArguments name (.str s true) args named) fun b _ => q b)
    (on : ∀ b, q b → Gives k w (textMethodOn .ask name s.toList true b) p) :
    Gives k w (step .ask (.method (.str s true) name args named)) p :=
  .pure_bind ((matched.looking (looks_textArguments _ _ _ _)).knowing on)

theorem gives_order_of_int (given : v.asInt? = some n) (m : Int) :
    Gives k w (.ask (.order .gt v (.int m))) fun b w' => (b = true ↔ m < n) ∧ w' = w := by
  have compared : (Dice.Num.compare? (.int n) (.int m)).any Order.gt.holds = true ↔ m < n := by
    rw [← Int.compare_eq_gt]
    show Order.gt.holds (compare n m) = true ↔ _
    cases compare n m <;> decide
  refine gives_ask _ fun _ b w' ran => ?_
  cases v with
  | int i =>
    obtain rfl : i = n := Option.some.inj given
    cases ran
    exact ⟨compared, rfl⟩
  | bool i =>
    cases ran
    obtain rfl := Option.some.inj given
    exact ⟨compared, rfl⟩
  | _ => cases given

theorem gives_toIndex (v : Value) : Gives k w (toIndex v) fun n w' => v.asInt? = some n ∧ w' = w := by
  unfold toIndex
  split
  · next n given => exact gives_pure ⟨given, rfl⟩
  · exact .after (looks_typeName v) fun _ => gives_raise _

theorem gives_checkedWidth (v : Value) : Gives k w (checkedWidth .ask v) fun n _ => n ≤ w.limits.maxConstLen := by
  refine .reading ?_
  cases given : v.asInt? with
  | some n =>
    refine (gives_order_of_int given _).knowing fun refused known => gives_unless fun kept => ?_
    intro m w' ran
    obtain ⟨same, -⟩ := gives_toIndex v m w' ran
    obtain rfl := Option.some.inj (given.symm.trans same)
    exact Int.not_lt.mp (mt known.mpr kept)
  | none =>
    refine .whatever fun refused w₁ => gives_unless fun _ => ?_
    intro m w' ran
    obtain ⟨same, -⟩ := gives_toIndex v m w' ran
    cases given.symm.trans same

theorem textWithin_filled {s : List Char} (short : s.length ≤ most) (within : width ≤ most)
    (length : t.length = s.length + (width - s.length).toNat) (g : Bool) :
    TextWithin most (.str (String.ofList t) g) := by
  refine ⟨_, g, rfl, ?_⟩
  rw [String.length_ofList]
  omega

theorem gives_aligned (aligns : name ∈ ["center", "ljust", "rjust"]) {s : List Char}
    (short : s.length ≤ w.limits.maxConstLen) (b : Bound) :
    Gives k w (textMethodOn .ask name s true b) fun u _ => TextWithin w.limits.maxConstLen u := by
  have aligned : Gives k w (do
      let width ← checkedWidth .ask (b.get "width")
      return Value.str (String.ofList (alignText name s width (← fillChar name b.rest))) true)
      fun u _ => TextWithin w.limits.maxConstLen u := by
    refine .bind (gives_checkedWidth _) fun width _ within => .whatever fun fill _ => ?_
    exact gives_pure (textWithin_filled short within (length_alignText name s width fill) true)
  simp only [mem_cons, not_mem_nil, or_false] at aligns
  rcases aligns with rfl | rfl | rfl <;> exact aligned

theorem gives_zeroFilled {s : List Char} (short : s.length ≤ w.limits.maxConstLen) (b : Bound) :
    Gives k w (textMethodOn .ask "zfill" s true b) fun u _ => TextWithin w.limits.maxConstLen u := by
  refine .bind (gives_checkedWidth _) fun width _ within => ?_
  exact gives_pure (textWithin_filled short within (length_zeroFill s width) true)

/-! ### Replacing -/

theorem gives_len (v : Value) : Gives k w (.ask (.len v)) fun n _ => ∀ t g, v = .str t g → n = t.length := by
  rintro n w' ran t g rfl
  exact (gives_len_of_text t g n w' ran).1

theorem gives_needText (v : Value) : Gives k w (needText v) fun cs _ => ∃ t g, v = .str t g ∧ cs = t.toList := by
  cases v with
  | str t g => exact gives_pure ⟨t, g, rfl, rfl⟩
  | _ => exact .after (looks_typeName _) fun _ => gives_raise _

theorem gives_replaceTimes (s : List Char) (old limit : Value) :
    Gives k w (replaceTimes .ask s old limit) fun times _ => ∀ o g m, old = .str o g →
      limit.asInt? = some m → times = if 0 < m then m else countPiece o.toList s := by
  have ordered : Gives k w (.ask (.order .gt limit (.int 0))) fun positive _ =>
      ∀ m, limit.asInt? = some m → (positive = true ↔ 0 < m) := fun positive w' ran m given =>
    (gives_order_of_int given 0 positive w' ran).1
  refine .bind ordered fun positive _ known => ?_
  split
  · next yes =>
    intro times w' ran o g m _ given
    obtain ⟨same, -⟩ := gives_toIndex limit times w' ran
    rw [if_pos ((known m given).mp yes)]
    exact Option.some.inj (same.symm.trans given)
  · next no =>
    refine .bind (gives_needText old) ?_
    rintro _ _ ⟨t, g, rfl, rfl⟩
    refine gives_pure fun o g' m same given => ?_
    cases same
    rw [if_neg (mt (known m given).mpr no)]

theorem length_replacePiece_le {s : List Char} {m : Int} (short : s.length ≤ most)
    (within : (if 0 < m then m else countPiece old s) * ((new.length : Int) - old.length) + s.length ≤ most) :
    ((replacePiece old new (if m < 0 then none else some m.toNat) s).length : Int) ≤ most := by
  obtain ⟨times, replaced⟩ := replaced_replacePiece old new (if m < 0 then none else some m.toNat) s
  rw [replaced.length]
  by_cases shrinks : (new.length : Int) - old.length < 0
  · have : (times : Int) * ((new.length : Int) - old.length) ≤ 0 :=
      Int.mul_nonpos_of_nonneg_of_nonpos (Int.natCast_nonneg times) (Int.le_of_lt shrinks)
    omega
  · have reckoned : (times : Int) ≤ if 0 < m then m else countPiece old s := by
      split
      · next positive =>
        rw [if_neg (Int.not_lt.mpr (Int.le_of_lt positive))] at replaced
        have := replaced.allowed m.toNat rfl
        omega
      · next other =>
        by_cases negative : m < 0
        · rw [if_pos negative] at replaced
          have := replaced.every rfl
          omega
        · rw [if_neg negative] at replaced
          have := replaced.allowed m.toNat rfl
          omega
    have := Int.mul_le_mul_of_nonneg_right reckoned (Int.not_lt.mp shrinks)
    omega

theorem gives_replaceIn {s : List Char} (short : s.length ≤ w.limits.maxConstLen) (b : Bound) :
    Gives k w (replaceIn .ask s b) fun t _ => (t.length : Int) ≤ w.limits.maxConstLen := by
  unfold replaceIn
  generalize b.get "old" = old
  generalize b.get "new" = new
  generalize b.get "maxsplit" = limit
  refine .on (.refl w) (gives_replaceTimes s old limit) fun times w₁ lasts counted => ?_
  refine .on lasts (gives_len new) fun n w₂ lasts newLength => ?_
  refine .on lasts (gives_len old) fun o w₃ lasts oldLength => .reading ?_
  rw [lasts.limits]
  refine gives_unless fun within => ?_
  split
  · next o' g n' g' =>
    refine .bind (gives_toIndex limit) fun m _ ⟨given, _⟩ => gives_pure ?_
    refine length_replacePiece_le short ?_
    rw [← counted o' g m rfl given, String.length_toList, String.length_toList, ← newLength n' g' rfl,
      ← oldLength o' g rfl]
    exact Int.not_lt.mp within
  · exact .after (looks_typeName _) fun _ => gives_raise _
  · exact .after (looks_typeName _) fun _ => gives_raise _

theorem gives_replaced {s : List Char} (short : s.length ≤ w.limits.maxConstLen) (b : Bound) :
    Gives k w (textMethodOn .ask "replace" s true b) fun u _ => TextWithin w.limits.maxConstLen u := by
  refine .bind (gives_replaceIn short b) fun t _ within => gives_pure ⟨_, true, rfl, ?_⟩
  rwa [String.length_ofList]

/-! ### Tabs -/

theorem gives_tabWidth (s : List Char) (tab : Value) :
    Gives k w (tabWidth .ask s tab) fun n _ => s.count '\t' * n ≤ w.limits.maxConstLen := by
  have index (w' : World) (known : ∀ n, tab.asInt? = some n → s.count '\t' * n ≤ w.limits.maxConstLen) :
      Gives k w' (toIndex tab) fun n _ => s.count '\t' * n ≤ w.limits.maxConstLen := fun n w'' ran =>
    known n (gives_toIndex tab n w'' ran).1
  refine .reading ?_
  cases tab with
  | float x => exact gives_unless fun _ => index w nofun
  | str | tuple | complex => exact .whatever fun _ w' => index w' nofun
  | int n | bool n =>
    refine gives_unless fun within => index w ?_
    rintro m same
    cases same
    exact Int.not_lt.mp within
  | _ =>
    refine .after (looks_listItems? _) fun items => ?_
    split
    · exact .whatever fun _ w' => index w' nofun
    · exact .whatever fun _ w' => index w' nofun

theorem gives_expanded {s : List Char} (short : s.length ≤ w.limits.maxConstLen) (b : Bound) :
    Gives k w (textMethodOn .ask "expandtabs" s true b) fun u _ =>
      TextWithin (w.limits.maxConstLen + (s.length - s.count '\t' : Nat)) u := by
  refine .bind (gives_tabWidth s _) fun n _ within => gives_pure ⟨_, true, rfl, ?_⟩
  have expanded := length_expandFrom_le n 0 [] s
  rw [String.length_ofList]
  rw [length_nil] at expanded
  by_cases negative : n < 0
  · rw [Int.toNat_of_nonpos (Int.le_of_lt negative)] at expanded
    omega
  · obtain ⟨m, rfl⟩ := Int.eq_ofNat_of_zero_le (Int.not_lt.mp negative)
    rw [Int.toNat_natCast] at expanded
    omega

/-! ### Joining -/

/-- The characters of texts, where equal ones count once; `seen` came before. -/
def lengthOnce (seen : List String) : List String → Nat
  | [] => 0
  | t :: ts => if t ∈ seen then lengthOnce seen ts else t.length + lengthOnce (t :: seen) ts

theorem exists_text (text : v.asText?.isSome = true) : ∃ s g, v = .str s g := by
  cases v with
  | str s g => exact ⟨s, g, rfl⟩
  | _ => cases text

theorem gives_hashKey?_text (t : String) (g : Bool) :
    Gives k w (hashKey? (.str t g)) fun key w' => key = some (.str t) ∧ w' = w := by
  rintro key w' ran
  cases ran
  exact ⟨rfl, rfl⟩

theorem gives_hashKey?_ref (a : Addr) : Gives k w (hashKey? (.ref a)) fun key _ => ∀ t, key ≠ some (.str t) := by
  refine .onFault _ ?_ fun _ _ => gives_pure (by rintro _ ⟨⟩)
  refine .bind (p := fun key _ => ∀ t, key ≠ .str t) ?_ fun key _ other =>
    gives_pure fun t same => other t (Option.some.inj same)
  refine .after (looks_cellAt a) fun c => ?_
  split
  · exact gives_raise _
  · exact gives_pure (by rintro _ ⟨⟩)

theorem gives_sizeOfChildren_of_texts (texts : ∀ v ∈ vs, v.asText?.isSome = true) (n : Int)
    (known : ∀ t, visited.keys.contains (.str t) = true ↔ t ∈ seen) :
    Gives k w (sizeOfChildren .ask n visited vs) fun r _ => r.1 = n + lengthOnce seen (vs.filterMap Value.asText?) := by
  induction vs generalizing n visited seen with
  | nil => exact gives_pure (by simp [lengthOnce])
  | cons v vs ih =>
    obtain ⟨t, g, rfl⟩ := exists_text (texts v mem_cons_self)
    have texts' (u : Value) (member : u ∈ vs) := texts u (mem_cons_of_mem _ member)
    have next : ((Value.str t g) :: vs).filterMap Value.asText? = t :: vs.filterMap Value.asText? := rfl
    have before : Gives k w (wasVisited .ask (.str t g) visited) fun b w' =>
        (b = true ↔ t ∈ seen) ∧ w' = w := by
      exact (gives_hashKey?_text t g).value (gives_pure ⟨known t, rfl⟩)
    have measured : Gives k w (.ask (.size (.str t g) visited)) fun r w' =>
        r = ((t.length : Int), visited) ∧ w' = w :=
      gives_ask _ fun _ => .pure_bind (gives_pure ⟨rfl, rfl⟩)
    have visiting : Gives k w (visit (.str t g) visited) fun later w' =>
        (∀ u, later.keys.contains (.str u) = true ↔ u ∈ t :: seen) ∧ w' = w := by
      refine (gives_hashKey?_text t g).value ?_
      refine gives_pure ⟨fun u => ?_, rfl⟩
      rw [Std.HashSet.contains_insert, Bool.or_eq_true, beq_iff_eq, known u]
      simp [eq_comm]
    rw [next, lengthOnce]
    refine before.knowing fun b here => ?_
    split
    · next yes =>
      rw [if_pos (here.mp yes)]
      exact ih texts' n known
    · next no =>
      rw [if_neg (mt here.mpr no)]
      refine measured.value ?_
      refine visiting.knowing fun later known' => ?_
      intro r w' ran
      rw [ih texts' _ known' r w' ran]
      omega

theorem gives_size_of_texts (found : w.heap[a]? = some (.list false xs none))
    (texts : ∀ v ∈ xs.toList, v.asText?.isSome = true) : Gives k w (sizeOf .ask (.ref a)) fun n _ =>
      n = xs.size + lengthOnce [] (xs.toList.filterMap Value.asText?) := by
  have made (k : Nat) : Gives k w (makeup (.ref a)) fun m w' => m = .holds xs.size xs.toList ∧ w' = w :=
    .found found (gives_pure ⟨rfl, rfl⟩)
  have started (k : Nat) : Gives k w (visit (.ref a) {}) fun visited _ =>
      ∀ t, visited.keys.contains (.str t) = true ↔ t ∈ ([] : List String) := by
    refine .bind (gives_hashKey?_ref a) fun key _ other => ?_
    cases key with
    | none => exact gives_pure fun t => by simp
    | some key =>
      refine gives_pure fun t => ?_
      rw [Std.HashSet.contains_insert, Std.HashSet.contains_empty, Bool.or_false, beq_iff_eq]
      exact ⟨fun same => absurd (congrArg some same) (other t), nofun⟩
  refine .bind (gives_ask _ fun k => ?_) fun r _ known => gives_pure known
  refine (made k).value ?_
  refine .bind (started k) fun visited _ known => ?_
  refine .bind (gives_sizeOfChildren_of_texts texts _ known) fun r _ measured => ?_
  exact .changing (gives_pure measured)

theorem length_intercalate_le (sep : String) (parts : List String) :
    (sep.intercalate parts).length ≤ (String.join parts).length + parts.length * sep.length := by
  have chars (ts : List String) : charCount (ts.map String.toList) = (String.join ts).length := by
    rw [charCount, ← flatMap_def, ← String.toList_join, String.length_toList]
  rw [← String.length_toList, String.toList_intercalate]
  cases parts with
  | nil => exact Nat.zero_le _
  | cons part parts =>
    rw [map_cons, length_intercalate, ← map_cons, chars, length_map, String.length_toList, length_cons, Nat.succ_mul]
    omega

/-- The texts that come again, which the size of a list leaves out, are no longer than an excess. -/
def RepeatedWithin (excess : Nat) (ts : List String) : Prop :=
  (String.join ts).length ≤ ts.length + lengthOnce [] ts + excess

theorem gives_joinedTexts (items : List Value) : Gives k w (items.zipIdx.mapM joinedText) fun parts _ =>
      parts = items.filterMap Value.asText? ∧ ∀ v ∈ items, v.asText?.isSome = true := by
  have each (w : World) (p : Value × Nat) : Gives k w (joinedText p) fun s _ => some s = p.1.asText? := by
    obtain ⟨v, i⟩ := p
    cases v with
    | str s g => exact gives_pure rfl
    | _ => exact .after (looks_typeName _) fun _ => gives_raise _
  intro parts w' ran
  have texts : parts.map some = items.map Value.asText? := by
    rw [gives_mapM (Value.asText? ∘ Prod.fst) some each w items.zipIdx parts w' ran, ← map_map, zipIdx_map_fst]
  refine ⟨?_, fun v member => ?_⟩
  · have same := congrArg (List.filterMap id) texts
    rwa [filterMap_map, filterMap_map, Function.id_comp, Function.id_comp, filterMap_some] at same
  · obtain ⟨t, -, found⟩ := mem_map.mp (texts ▸ mem_map_of_mem member)
    rw [← found]
    rfl

theorem gives_joinTexts (repeats : Gives k w (collect .ask seq) fun items _ =>
      RepeatedWithin excess (items.toList.filterMap Value.asText?)) :
    Gives k w (joinTexts .ask sep seq) fun u _ => TextWithin (w.limits.maxConstLen + excess) u := by
  refine .on (.refl w) repeats fun items w₁ lasts repeated => ?_
  have made : Gives k w₁ (alloc (.list false items none)) fun v w' =>
      ∃ a, v = .ref a ∧ w'.heap[a]? = some (.list false items none) := by
    intro v w' ran
    cases ran
    exact ⟨w₁.heap.size, rfl, Array.getElem?_push_size⟩
  refine .on lasts made ?_
  rintro _ w₂ lasts ⟨a, rfl, found⟩
  have measured : Gives k w₂ (sizeOf .ask (.ref a)) fun n _ =>
      (∀ v ∈ items.toList, v.asText?.isSome = true) →
        n = items.size + lengthOnce [] (items.toList.filterMap Value.asText?) := fun n w' ran texts =>
    gives_size_of_texts found texts n w' ran
  refine .on lasts measured fun n w₃ lasts size => .reading ?_
  rw [lasts.limits]
  refine gives_unless fun within => ?_
  refine .bind (gives_joinedTexts items.toList) ?_
  rintro _ _ ⟨rfl, texts⟩
  refine gives_pure ⟨_, _, rfl, ?_⟩
  have joined := length_intercalate_le (String.ofList sep) (items.toList.filterMap Value.asText?)
  have count : (items.toList.filterMap Value.asText?).length = items.size := filterMap_length_eq_length.mpr texts
  rw [String.length_ofList] at joined
  rw [size texts] at within
  unfold RepeatedWithin at repeated
  rw [count] at joined repeated
  omega

/-! ### Translating -/

theorem length_flatten_le {most : Nat} {parts : List (List Char)}
    (short : ∀ part ∈ parts, part.length ≤ most) : parts.flatten.length ≤ parts.length * most := by
  induction parts with
  | nil => exact Nat.zero_le _
  | cons part parts ih =>
    obtain ⟨here, later⟩ := forall_mem_cons.mp short
    have := ih later
    rw [flatten_cons, length_append, length_cons, Nat.succ_mul]
    omega

/-- What a table makes of the characters of a text, after the table was measured: nothing is longer than
    the table's size, or than a single character, by more than an excess. -/
def CoversParts (k : Nat) (w : World) (table : Value) (s : List Char) (excess : Nat) : Prop :=
  Gives k w (sizeOf .ask table) fun n w' => Gives k w' (s.mapM (translateChar .ask table)) fun parts _ =>
    ∀ part ∈ parts, (part.length : Int) ≤ max n 1 + excess

theorem gives_translated {s : List Char} (short : s.length ≤ w.limits.maxConstLen)
    (covered : CoversParts k w (b.get "table") s excess) : Gives k w (textMethodOn .ask "translate" s true b) fun u _ =>
      TextWithin (w.limits.maxConstLen + (s.length * excess : Nat)) u := by
  refine .on (.refl w) covered fun n w' lasts parts => .reading ?_
  rw [lasts.limits]
  refine gives_unless fun within => ?_
  have each : Gives k w' (s.mapM (translateChar .ask (b.get "table"))) fun parts _ =>
      parts.map (fun _ => ()) = s.map fun _ => () :=
    gives_mapM _ _ (fun _ _ _ _ _ => rfl) w' s
  refine .bind (parts.and each) ?_
  rintro parts _ ⟨covered, same⟩
  refine gives_pure ⟨_, true, rfl, ?_⟩
  have count : parts.length = s.length := by simpa using congrArg List.length same
  have flat : parts.flatten.length ≤ s.length * ((max n 1).toNat + excess) := by
    rw [← count]
    refine length_flatten_le fun part member => ?_
    have := covered part member
    omega
  have table : (s.length : Int) * max n 1 ≤ w.limits.maxConstLen := by
    by_cases one : n ≤ 1
    · rw [Int.max_eq_right one, Int.mul_one]
      exact short
    · rw [Int.max_eq_left (by omega), Int.mul_comm]
      exact Int.not_lt.mp within
  have nonneg : ((max n 1).toNat : Int) = max n 1 := Int.toNat_of_nonneg (by omega)
  rw [← nonneg] at table
  rw [Nat.mul_add] at flat
  rw [String.length_ofList]
  omega

/-! ## 4. All producers -/

/-- The ways to make a text from a guarded one, and by how much the result may be longer than the limit: by
    what the estimate leaves out. -/
inductive Produces (k : Nat) (w : World) (s : String) : Nat → Eval Value → Prop where
  /-- The other operand of a sum is measured by its size, and written as a text. -/
  | sum {v : Value} {excess : Nat} (covered : Covers k w v excess) :
    Produces k w s excess (binaryOp .ask .add (.str s true) v)
  | sumRight {v : Value} {excess : Nat} (covered : Covers k w v excess) (apart : w.NoGuardedList v) :
    Produces k w s excess (binaryOp .ask .add v (.str s true))
  | product (v : Value) : Produces k w s 0 (binaryOp .ask .mult (.str s true) v)
  | productRight (v : Value) : Produces k w s 0 (binaryOp .ask .mult v (.str s true))
  /-- A template is written in another reading than it was measured in. -/
  | filled {values : Value} {asked written excess : Nat}
    (measured : Measured k w values 0 (directives [] (s.length + 1) s.toList) asked)
    (writes : Written k w values values.inTurn written s.toList)
    (more : written ≤ s.length + asked + excess) :
    Produces k w s excess (binaryOp .ask .mod (.str s true) values)
  /-- Where the two readings agree, widths and precisions are measured, and the values by their sizes: a text
      that stands alone behind the template by its characters one by one, and a number not at all. -/
  | filledInFull {values : Value} {asked excess : Nat}
    (fills : Fills k w values 0 values.inTurn asked excess s.toList) :
    Produces k w s excess (binaryOp .ask .mod (.str s true) values)
  | formatted (sp : Span) (values : List Expr) : Produces k w s 0 (evalNode .ask (.joinedStr sp values))
  | padded {name : String} (pads : name ∈ ["center", "ljust", "rjust", "zfill"]) (args : List Value)
    (named : Names) : Produces k w s 0 (step .ask (.method (.str s true) name args named))
  | replaced (args : List Value) (named : Names) :
    Produces k w s 0 (step .ask (.method (.str s true) "replace" args named))
  /-- Only the tabs are measured. -/
  | expanded (args : List Value) (named : Names) : Produces k w s (s.length - s.toList.count '\t')
      (step .ask (.method (.str s true) "expandtabs" args named))
  /-- Equal texts are measured once. -/
  | joined {args : List Value} {named : Names} {excess : Nat}
    (repeats : Gives k w (textArguments "join" (.str s true) args named) fun b _ =>
      Gives k w (collect .ask (b.get "seq")) fun items _ =>
        RepeatedWithin excess (items.toList.filterMap Value.asText?)) :
    Produces k w s excess (step .ask (.method (.str s true) "join" args named))
  /-- A table is measured by its size, which may be recorded. -/
  | translated {args : List Value} {named : Names} {excess : Nat}
    (covered : Gives k w (textArguments "translate" (.str s true) args named) fun b _ =>
      CoversParts k w (b.get "table") s.toList excess) :
    Produces k w s (s.length * excess) (step .ask (.method (.str s true) "translate" args named))

/-- **A text that is made from a guarded one is within the limit, but for what the estimate leaves out.** -/
theorem produced_texts_within_limit {s : String} {excess : Nat} {x : Eval Value}
    (made : Produces k w s excess x) (short : s.length ≤ w.limits.maxConstLen) :
    Gives k w x fun u _ => TextWithin (w.limits.maxConstLen + excess) u := by
  have short' : (s.toList.length : Int) ≤ w.limits.maxConstLen := by rwa [String.length_toList]
  have exactly {y : Eval Value} (within : Gives k w y fun u _ => TextWithin w.limits.maxConstLen u) :
      Gives k w y fun u _ => TextWithin (w.limits.maxConstLen + (0 : Nat)) u := by
    rwa [Int.natCast_zero, Int.add_zero]
  have taken (name : String) (args : List Value) (named : Names) :
      Gives k w (textArguments name (.str s true) args named) fun _ _ => True := fun _ _ _ => trivial
  cases made with
  | sum covered => exact gives_sum_left covered
  | sumRight covered apart => exact gives_sum_right covered apart
  | product v => exact exactly (gives_product_left short v)
  | productRight v => exact exactly (gives_product_right short v)
  | filled measured writes more => exact gives_filled measured (fun _ => ⟨_, more, writes⟩) short
  | filledInFull fills =>
    have enough : s.toList.length < s.length + 1 := by
      exact Nat.lt_succ_self _
    obtain ⟨measured, written⟩ := fills.read enough
    exact gives_filled measured written short
  | formatted sp values =>
    have nonneg : 0 ≤ w.limits.maxConstLen := Int.le_trans (Int.natCast_nonneg _) short
    exact exactly (gives_evalJoined sp values rfl nonneg [] rfl)
  | padded pads args named =>
    refine exactly (gives_textMethod (taken _ args named) fun b _ => ?_)
    rcases List.mem_append.mp (show _ ∈ ["center", "ljust", "rjust"] ++ ["zfill"] from pads) with
      aligns | fills
    · exact gives_aligned aligns short' b
    · obtain rfl := List.mem_singleton.mp fills
      exact gives_zeroFilled short' b
  | replaced args named =>
    exact exactly (gives_textMethod (taken _ args named) fun b _ => gives_replaced short' b)
  | expanded args named =>
    exact gives_textMethod (taken _ args named) fun b _ => gives_expanded short' b
  | joined repeats => exact gives_textMethod repeats fun b known => gives_joinTexts known
  | translated covered =>
    exact gives_textMethod covered fun b known => gives_translated short' known

end

/-- A name and a number in a template: the number adds nothing to the estimate, and up to three characters
    to the text. -/
theorem produced_texts_within_limit_filled :
    let names : Cell := .dict false #[⟨.str "who", .str "who" false, .str "Ann" false⟩] none
    let w : World := { heap := #[names], limits := { maxConstLen := 9 } }
    let listed := binaryOp .ask .mod (.str "%s: %d" true) (.tuple [.str "Ann" false, .int 12])
    let alone := binaryOp .ask .mod (.str "ab%s" true) (.str "abcde" true)
    let keyed := binaryOp .ask .mod (.str "%(who)s" true) (.ref 0)
    let pointed := binaryOp .ask .mod (.str "%9.s" true) (.tuple [.str "a" false])
    let sum := binaryOp .ask .add (.str "Ann" true) (.str " speaks" false)
    (Produces 3 w "%s: %d" 3 listed ∧ ∃ u w', listed.exec (run 3) w = .ok u w' ∧ TextWithin (9 + 3) u) ∧
      (Produces 3 w "ab%s" 4 alone ∧ Gives 3 w alone fun u _ => TextWithin (9 + 4) u) ∧
      (Produces 3 w "%(who)s" 0 keyed ∧ Gives 3 w keyed fun u _ => TextWithin (9 + 0) u) ∧
      (Produces 3 w "%9.s" 6 pointed ∧ Gives 3 w pointed fun u _ => TextWithin (9 + 6) u) ∧
      Produces 3 w "Ann" 0 sum ∧ Gives 3 w sum fun u _ => TextWithin (9 + 0) u := by
  intro names w listed alone keyed pointed sum
  have madeListed : Produces 3 w "%s: %d" 3 listed := by
    have template : "%s: %d".toList = ['%', 's', ':', ' ', '%', 'd'] := by decide
    have number : Fills 3 w (.tuple [.str "Ann" false, .int 12]) 1 [.int 12] _ (3 + 0) ['%', 'd'] :=
      .directive rfl (by decide) (asked_tuple rfl rfl) (.next _ _) (writes_int (by decide) 12) .nil
    have fills : Fills 3 w _ 0 _ _ (0 + (3 + 0)) ['%', 's', ':', ' ', '%', 'd'] :=
      .directive rfl (by decide) (asked_tuple rfl rfl) (.next _ _) (writes_text (.inl rfl) "Ann" false)
        (.char (by decide) (.char (by decide) number))
    exact .filledInFull (template ▸ fills)
  have madeAlone : Produces 3 w "ab%s" 4 alone := by
    have template : "ab%s".toList = ['a', 'b', '%', 's'] := by decide
    have fills : Fills 3 w (.str "abcde" true) 0 [.str "abcde" true] _ (4 + 0) ['a', 'b', '%', 's'] :=
      .char (by decide) (.char (by decide) (.directive rfl (by decide) (asked_text "abcde" true 0) (.next _ _)
        (writes_text (.inl rfl) "abcde" true) .nil))
    exact .filledInFull (template ▸ fills)
  have madeKeyed : Produces 3 w "%(who)s" 0 keyed := by
    have template : "%(who)s".toList = ['%', '(', 'w', 'h', 'o', ')', 's'] := by decide
    have item : Gives 3 w (.ask (.item (.ref 0) (.str (String.ofList ['w', 'h', 'o']) false)))
        fun u w' => u = .str "Ann" false ∧ w' = w := by
      intro u w' ran
      cases ran
      exact ⟨rfl, rfl⟩
    have fills : Fills 3 w (.ref 0) 0 [.ref 0] _ (0 + 0) ['%', '(', 'w', 'h', 'o', ')', 's'] :=
      .directive rfl (by decide) (asked_key rfl item) (.keyed _ (by decide) item)
        (writes_text (.inl rfl) "Ann" false) .nil
    exact .filledInFull (template ▸ fills)
  have madePointed : Produces 3 w "%9.s" 6 pointed := by
    have template : "%9.s".toList = ['%', '9', '.', 's'] := by decide
    have unseen : directives [] ("%9.s".length + 1) "%9.s".toList = [] := by
      rfl
    have field : takeMeasures ['9', '.', 's'] = (⟨{}, some (.digits ['9']), some (.digits [])⟩, ['s']) := rfl
    have piece : Piece 3 w (.tuple [.str "a" false]) [.str "a" false] ['9', '.', 's'] (9 + 0 + 1) [] [] :=
      piece_of_measures (by decide) field (fun star => by cases star) (fun star => by cases star) rfl
        (writes_text (.inl rfl) "a" false)
    have measured : Measured 3 w (.tuple [.str "a" false]) 0
        (directives [] ("%9.s".length + 1) "%9.s".toList) 0 := by
      exact .nil
    have writes : Written 3 w (.tuple [.str "a" false]) _ _ ['%', '9', '.', 's'] :=
      .piece (by decide) piece .nil
    exact .filled measured (template ▸ writes) (by decide)
  have madeSum : Produces 3 w "Ann" 0 sum := .sum (covers_text " speaks" false)
  have ends : (failureOf (listed.exec (run 3) w)).isNone = true := by decide +kernel
  refine ⟨⟨madeListed, ?_⟩, ⟨madeAlone, produced_texts_within_limit madeAlone (by decide)⟩,
    ⟨madeKeyed, produced_texts_within_limit madeKeyed (by decide)⟩,
    ⟨madePointed, produced_texts_within_limit madePointed (by decide)⟩, madeSum,
    produced_texts_within_limit madeSum (by decide)⟩
  cases ran : listed.exec (run 3) w with
  | ok u w' => exact ⟨u, w', rfl, produced_texts_within_limit madeListed (by decide) u w' ran⟩
  | error e w' =>
    rw [ran] at ends
    cases ends

/-- Texts of 7, 7, 9 and 9 characters where the limit is 3, 5, 5 and 5: a number behind a text is not
    measured, a text behind a template only in its first character, of a directive with a point alone not even
    the width, and with tabs nothing but the tabs. -/
theorem text_outgrows_limit :
    let limited (most : Int) : World := { limits := { maxConstLen := most } }
    let length (r : Outcome Value) : Option Nat := match r with
      | .ok (.str t _) _ => some t.length
      | _ => none
    length ((binaryOp .ask .add (.str "ab" true) (.int 12345)).exec (run 5) (limited 3)) = some 7 ∧
      length ((binaryOp .ask .mod (.str "ab%s" true) (.str "abcde" true)).exec (run 5) (limited 5)) =
        some 7 ∧
      length ((binaryOp .ask .mod (.str "%9.s" true) (.tuple [.str "a" true])).exec (run 5) (limited 5)) =
        some 9 ∧
      length ((step .ask (.method (.str "\taaaa" true) "expandtabs" [.int 5] [])).exec (run 5)
        (limited 5)) = some 9 := by
  decide +kernel

end AliasTools.Script
