import AliasTools.Proofs.Directives
import AliasTools.Proofs.Outcomes

/-!
# Templates with percent signs

Before a template is filled, what its directives ask for is added up; then it is read once more, and written.
-/

namespace AliasTools.Script

open Text Number List

variable {cs after : List Char} {v : Value} {i asked n amount excess : Nat} {d : Directive} {form : Char}
  {keyed : Option Value} {s : Supply} {m : Measures} {vs' : List Value}

section

variable {k : Nat} {w : World} {values : Value} {vs : List Value} (f : Field)

/-! ## 1. Texts and tuples as values -/

theorem gives_size_of_text (s : String) (g : Bool) :
    Gives k w (sizeOf .ask (.str s g)) fun n w' => n = s.length ∧ w' = w := by
  refine .bind (gives_ask _ fun _ => ?_) fun r w' holds => gives_pure holds
  exact .pure_bind (gives_pure ⟨rfl, rfl⟩)

def Value.isBare (v : Value) : Bool := v.isSmall || v.asText?.isSome

def Value.textSize (v : Value) : Nat := v.asText?.elim 0 String.length

theorem gives_size_of_bare (bare : v.isBare = true) :
    Gives k w (sizeOf .ask v) fun n w' => n = v.textSize ∧ w' = w := by
  cases v with
  | str s g => exact gives_size_of_text s g
  | none | ellipsis | bool | int | float | complex | cls | fn => exact gives_pure ⟨rfl, rfl⟩
  | _ => cases bare

theorem gives_len_of_tuple (vs : List Value) : Gives k w (.ask (.len (.tuple vs))) fun n w' => n = vs.length ∧ w' = w :=
  gives_ask _ fun _ => .pure_bind (.pure_bind (gives_pure ⟨rfl, rfl⟩))

theorem gives_item_of_tuple (vs : List Value) (i : Nat) :
    Gives k w (.ask (.item (.tuple vs) (.int i))) fun v w' => vs[i]? = some v ∧ w' = w := by
  refine gives_ask _ fun _ => .pure_bind ?_
  dsimp only [getItem, itemOf, Value.asInt?]
  split
  · next v found =>
    obtain ⟨j, here, there⟩ := Option.bind_eq_some_iff.mp found
    rw [place, if_neg (Int.not_lt.mpr (Int.natCast_nonneg i))] at here
    split at here
    · obtain rfl : i = j := by simpa using here
      exact gives_pure ⟨by simpa using there, rfl⟩
    · cases here
  · exact gives_raise _

theorem gives_len_of_text (s : String) (g : Bool) :
    Gives k w (.ask (.len (.str s g))) fun n w' => n = s.length ∧ w' = w :=
  gives_ask _ fun _ => .pure_bind (.pure_bind (gives_pure ⟨rfl, rfl⟩))

theorem gives_item_of_text (s : String) (g : Bool) (i : Nat) : Gives k w (.ask (.item (.str s g) (.int i))) fun v w' =>
      (∃ c : Char, v = .str c.toString g) ∧ w' = w := by
  refine gives_ask _ fun _ => .pure_bind ?_
  dsimp only [getItem, Value.asInt?]
  split
  · next c _ => exact gives_pure ⟨⟨c, rfl⟩, rfl⟩
  · exact gives_raise _

/-! ## 2. The first reading -/

def columns : Option Amount → Nat
  | some (.digits ds) => digitsValue ds
  | _ => 0

theorem gives_amountSize (a : Option Amount) :
    Gives k w (amountSize a) fun n w' => (n = columns a ∧ a ≠ some .star) ∧ w' = w := by
  cases a with
  | none => exact gives_pure ⟨⟨rfl, nofun⟩, rfl⟩
  | some a =>
    cases a with
    | star => exact gives_raise _
    | digits ds => exact gives_pure ⟨⟨rfl, nofun⟩, rfl⟩

/-- The value that a directive asks for is measured as no less than an amount, and nothing is changed. -/
def Asked (k : Nat) (w : World) (values : Value) (i : Nat) (key : Option (List Char)) (n : Nat) : Prop :=
  Gives k w (isSequence values) fun sequence _ => Gives k w (isMapping values) fun mapping _ =>
    Gives k w (askedSize .ask values sequence mapping i key) fun m w' => (n : Int) ≤ m ∧ w' = w

theorem asked_tuple (found : vs[i]? = some v) (bare : v.isBare = true) : Asked k w (.tuple vs) i none v.textSize := by
  intro sequence _ ran mapping _ _
  cases ran
  refine (gives_len_of_tuple vs).knowing fun n length => gives_unless fun inside => ?_
  refine (gives_item_of_tuple vs i).knowing fun u found' => ?_
  obtain rfl := Option.some.inj (found.symm.trans found')
  intro m w' ran
  obtain ⟨rfl, rfl⟩ := gives_size_of_bare bare m w' ran
  exact ⟨Int.le_refl _, rfl⟩

theorem asked_text (s : String) (g : Bool) (i : Nat) : Asked k w (.str s g) i none 1 := by
  intro sequence _ ran mapping _ _
  cases ran
  refine (gives_len_of_text s g).knowing fun n length => gives_unless fun inside => ?_
  refine (gives_item_of_text s g i).knowing ?_
  rintro _ ⟨c, rfl⟩ m w' ran
  obtain ⟨rfl, rfl⟩ := gives_size_of_text c.toString g m w' ran
  exact ⟨Int.le_of_eq (congrArg Int.ofNat String.length_singleton.symm), rfl⟩

theorem asked_key (bare : v.isBare = true)
    (item : Gives k w (.ask (.item values (.str (String.ofList key) false))) fun u w' => u = v ∧ w' = w) :
    Asked k w values i (some key) v.textSize := by
  intro sequence _ _ mapping _ _
  unfold askedSize
  refine gives_unless fun _ => ?_
  refine item.knowing ?_
  rintro _ rfl m w' ran
  obtain ⟨rfl, rfl⟩ := gives_size_of_bare bare m w' ran
  exact ⟨Int.le_refl _, rfl⟩

/-- A directive that says itself how wide it is. -/
structure Directive.Steady (d : Directive) : Prop where
  width : d.width ≠ some .star
  precision : d.precision ≠ some .star

/-- Directives that were not refused: they say themselves how wide they are, and what they ask for is added
    to a bound that stays within a limit. -/
structure Passed (most bound : Int) (asked : Nat) (ds : List Directive) : Prop where
  steady : ∀ d ∈ ds, d.Steady
  within : bound ≤ most → bound + asked ≤ most

theorem gives_checkDirective {sequence : Bool}
    (measured : Gives k w (askedSize .ask values sequence mapping i d.key) fun m w' => (n : Int) ≤ m ∧ w' = w)
    (rest : ∀ bound, Gives k w
      (checkTemplate .ask values sequence mapping bound (if d.form == '%' then i else i + 1) ds)
      fun _ w' => Passed w.limits.maxConstLen bound asked ds ∧ w' = w) (bound : Int) :
    Gives k w (checkTemplate .ask values sequence mapping bound i (d :: ds)) fun _ w' =>
      Passed w.limits.maxConstLen bound (columns d.width + columns d.precision + n + asked) (d :: ds) ∧ w' = w := by
  refine (gives_amountSize d.width).knowing fun width wide => ?_
  refine (gives_amountSize d.precision).knowing fun precision precise => ?_
  refine measured.knowing fun m least => .reading (gives_unless fun within => ?_)
  intro u w' ran
  obtain ⟨later, same⟩ := rest _ u w' ran
  refine ⟨⟨forall_mem_cons.mpr ⟨⟨wide.2, precise.2⟩, later.steady⟩, fun _ => ?_⟩, same⟩
  have := later.within (Int.not_lt.mp within)
  omega

/-- What directives ask for in all, from some place on. -/
inductive Measured (k : Nat) (w : World) (values : Value) : Nat → List Directive → Nat → Prop where
  | nil {i : Nat} : Measured k w values i [] 0
  | cons {i n asked : Nat} {d : Directive} {ds : List Directive} (measured : Asked k w values i d.key n)
    (rest : Measured k w values (if d.form == '%' then i else i + 1) ds asked) :
    Measured k w values i (d :: ds) (columns d.width + columns d.precision + n + asked)

theorem gives_checkTemplate {sequence : Bool} (measured : Measured k w values i ds asked)
    (ordered : (isSequence values).exec (run k) w = .ok sequence w)
    (mapped : (isMapping values).exec (run k) w = .ok mapping w) (bound : Int) :
    Gives k w (checkTemplate .ask values sequence mapping bound i ds) fun _ w' =>
      Passed w.limits.maxConstLen bound asked ds ∧ w' = w := by
  induction measured generalizing bound with
  | nil => exact gives_pure ⟨⟨forall_mem_nil _, fun within => by simpa using within⟩, rfl⟩
  | cons here _ ih => exact gives_checkDirective (here _ _ ordered _ _ mapped) ih bound

/-! ## 3. One value in its field -/

theorem gives_amountRead (steady : a ≠ .star) (label kind : String) (most : Nat) (s : Supply) :
    Gives k w (a.read label kind most s) fun r w' => r = ((columns (some a) : Int), s) ∧ w' = w := by
  cases a with
  | star => exact absurd rfl steady
  | digits ds => exact gives_unless (f := fun _ => .pure ((digitsValue ds : Int), s)) fun _ => gives_pure ⟨rfl, rfl⟩

/-- A field is as wide and as precise as the first reading says. -/
structure Field.Fits (f : Field) (width precision : Option Amount) : Prop where
  width : f.width = columns width
  precision : f.precision.getD 0 = columns precision

theorem gives_measuresRead (width : m.width ≠ some .star) (precision : m.precision ≠ some .star)
    (unset : m.flags.precision = none) (s : Supply) :
    Gives k w (m.read s) fun r w' => (r.1.Fits m.width m.precision ∧ r.2 = s) ∧ w' = w := by
  obtain ⟨flags, wide, precise⟩ := m
  have imprecise : flags.precision.getD 0 = 0 := congrArg (Option.getD · 0) unset
  have read {a : Amount} (given : some a ≠ some .star) (label kind : String) (most : Nat) :=
    gives_amountRead (k := k) (w := w) (fun star => given (congrArg some star)) label kind most s
  match wide, precise with
  | none, none => exact .pure_bind (gives_pure ⟨⟨⟨rfl, imprecise⟩, rfl⟩, rfl⟩)
  | none, some p =>
    exact .pure_bind ((read precision _ _ _).value (gives_pure ⟨⟨⟨rfl, Int.toNat_natCast _⟩, rfl⟩, rfl⟩))
  | some a, none =>
    exact (read width _ _ _).value (gives_pure ⟨⟨⟨Int.natAbs_natCast _, imprecise⟩, rfl⟩, rfl⟩)
  | some a, some p =>
    exact (read width _ _ _).value ((read precision _ _ _).value (gives_pure ⟨⟨⟨Int.natAbs_natCast _, Int.toNat_natCast _⟩, rfl⟩, rfl⟩))

/-- What is still to be written: the values of a tuple, or a single value. -/
inductive Supply.Offers (keyed : Option Value) : Supply → List Value → Prop where
  | many (vs : List Value) : Offers keyed ⟨some vs, none, keyed⟩ vs
  | single (v : Value) : Offers keyed ⟨none, some v, keyed⟩ [v]
  | spent : Offers keyed ⟨none, none, keyed⟩ []

def Value.inTurn : Value → List Value
  | .tuple vs => vs
  | v => [v]

theorem offers_start (values : Value) (keyed : Option Value) :
    (Supply.start values keyed).Offers keyed values.inTurn := by
  cases values with
  | tuple vs => exact .many vs
  | _ => exact .single _

theorem gives_take (offers : s.Offers keyed (v :: vs)) :
    Gives k w s.take fun r w' => (r.1 = v ∧ r.2.Offers keyed vs) ∧ w' = w := by
  cases offers with
  | many => exact gives_pure ⟨⟨rfl, .many vs⟩, rfl⟩
  | single => exact gives_pure ⟨⟨rfl, .spent⟩, rfl⟩

theorem length_fieldText_le (t : List Char) : (f.text t).length ≤ f.width + t.length := by
  obtain ⟨left, plus, blank, alternate, zero, width, precision⟩ := f
  cases precision <;> simp only [Field.text] <;> split <;>
    simp only [length_append, length_replicate, length_take] <;> omega

/-- What is written of a value in a form is longer than its field comes to by no more than an amount, and
    nothing is changed. -/
def Writes (k : Nat) (w : World) (form : Char) (v : Value) (amount : Nat) : Prop :=
  ∀ f place, Gives k w (writeForm .ask f form place v) fun t w' =>
    t.length ≤ f.width + f.precision.getD 0 + amount ∧ w' = w

theorem writes_text (writes : form = 's' ∨ form = 'c') (s : String) (g : Bool) :
    Writes k w form (.str s g) s.length := by
  intro f place
  have fits (f' : Field) (same : f'.width = f.width) :
      (f'.text s.toList).length ≤ f.width + f.precision.getD 0 + s.length := by
    have := length_fieldText_le f' s.toList
    rw [String.length_toList] at this
    omega
  rcases writes with rfl | rfl
  · exact (gives_text_of_text s g).value (gives_pure ⟨fits f rfl, rfl⟩)
  · show Gives k w (if s.length == 1 then Eval.pure _ else typeFault "%c requires int or char") _
    split
    · exact gives_pure ⟨fits { f with precision := none } rfl, rfl⟩
    · exact gives_raise _

theorem length_fieldSign_le (negative : Bool) : (f.sign negative).length ≤ 1 := by
  unfold Field.sign
  cases negative <;> cases f.plus <;> cases f.blank <;> simp

theorem length_fieldNumber_le (negative : Bool) (front digits : List Char) :
    (f.number negative front digits).length ≤ f.width + (1 + front.length + digits.length) := by
  have sign := length_fieldSign_le f negative
  unfold Field.number
  split
  · simp only [length_append, length_replicate]
    omega
  · split <;> simp only [length_append, length_replicate] <;> omega

theorem length_fieldInt_le (decimal : form ∈ ['d', 'i', 'u']) (n : Int) :
    (f.int form n).length ≤ f.width + f.precision.getD 0 + (1 + (Nat.toDigits 10 n.natAbs).length) := by
  have written : f.int form n = f.number (n < 0) (if f.alternate then [] else [])
      (List.replicate (f.precision.getD 0 - (Nat.toDigits 10 n.natAbs).length) '0' ++ Nat.toDigits 10 n.natAbs) := by
    simp only [mem_cons, not_mem_nil, or_false] at decimal
    rcases decimal with rfl | rfl | rfl <;> rfl
  rw [written, ite_self]
  refine Nat.le_trans (length_fieldNumber_le f _ _ _) ?_
  simp only [length_nil, length_append, length_replicate]
  omega

theorem writes_int (decimal : form ∈ ['d', 'i', 'u']) (n : Int) :
    Writes k w form (.int n) (1 + (Nat.toDigits 10 n.natAbs).length) := by
  intro f place
  obtain ⟨noText, noShown, noAscii, whole⟩ : ¬ (form == 's') = true ∧ ¬ (form == 'r') = true ∧
      ¬ (form == 'a') = true ∧ "diouxX".toList.contains form = true := by
    simp only [mem_cons, not_mem_nil, or_false] at decimal
    rcases decimal with rfl | rfl | rfl <;> decide
  unfold writeForm
  rw [if_neg noText, if_neg noShown, if_neg noAscii, if_pos whole]
  unfold writeInt
  exact gives_unless fun _ => gives_pure ⟨length_fieldInt_le f decimal n, rfl⟩

theorem gives_writeForm_other (other : form = '%' ∨ isDecimal form = true) (place : Nat) (v : Value) :
    Gives k w (writeForm .ask f form place v) fun _ _ => False := by
  have known : "sradiouxXeEfFgGc".toList.all (fun c => c != '%' && !isDecimal c) = true := by decide
  have absent {c : Char} (listed : "sradiouxXeEfFgGc".toList.contains c = true) : form ≠ c := by
    rintro rfl
    have := all_eq_true.mp known form (contains_iff_mem.mp listed)
    obtain ⟨noPercent, noDigit⟩ := Bool.and_eq_true_iff.mp this
    rcases other with percent | digit
    · exact bne_iff_ne.mp noPercent percent
    · rw [digit] at noDigit
      cases noDigit
  have noneOf {cs : List Char} (listed : cs.all ("sradiouxXeEfFgGc".toList.contains ·) = true) :
      ¬ cs.contains form = true := fun has =>
    absent (all_eq_true.mp listed form (contains_iff_mem.mp has)) rfl
  unfold writeForm
  rw [if_neg (by simpa using absent (by decide)), if_neg (by simpa using absent (by decide)),
    if_neg (by simpa using absent (by decide)), if_neg (noneOf (by decide)), if_neg (noneOf (by decide)),
    if_neg (by simpa using absent (by decide))]
  exact gives_raise _

theorem gives_writeField (measures : takeMeasures cs = (m, form :: after)) (width : m.width ≠ some .star)
    (precision : m.precision ≠ some .star) (unset : m.flags.precision = none)
    (offers : s.Offers keyed (v :: vs)) (written : Writes k w form v amount) (total : Nat) :
    Gives k w (writeField .ask total s cs) fun r w' =>
      (r.1.length ≤ columns m.width + columns m.precision + amount ∧ r.2.1.Offers keyed vs ∧ r.2.2 = after) ∧
        w' = w := by
  unfold writeField
  rw [measures]
  refine (gives_measuresRead width precision unset s).knowing ?_
  rintro ⟨f, _⟩ ⟨fits, rfl⟩
  refine (gives_take offers).knowing ?_
  rintro ⟨_, s'⟩ ⟨rfl, later⟩
  refine (written f _).knowing fun t short => gives_pure ⟨⟨?_, later, rfl⟩, rfl⟩
  rwa [← fits.width, ← fits.precision]

theorem gives_writeField_other
    (measures : takeMeasures cs = (m, c :: rest)) (other : c = '%' ∨ isDecimal c = true) (total : Nat)
    (s : Supply) : Gives k w (writeField .ask total s cs) fun _ _ => False := by
  unfold writeField
  rw [measures]
  refine .whatever fun r _ => .whatever fun q _ => ?_
  exact .bind (gives_writeForm_other r.1 other _ _) fun _ _ never => never.elim

/-! ## 4. The second reading -/

/-- Behind a percent sign no more than an amount is written; then other values are still to come, and the
    template goes on elsewhere. -/
def Piece (k : Nat) (w : World) (values : Value) (vs : List Value) (cs : List Char) (amount : Nat)
    (vs' : List Value) (after : List Char) : Prop :=
  ∀ (total : Nat) (keyed : Option Value) (s : Supply), keyed = none ∨ keyed = some values →
    s.Offers keyed vs → Gives k w (writeDirective .ask total s cs) fun r w' =>
      (r.1.length ≤ amount ∧ r.2.1.Offers keyed vs' ∧ r.2.2 = after) ∧ w' = w

theorem takeKeyed_none (noKey : cs.head? ≠ some '(') : takeKeyed .ask s cs = .pure (s, cs) := by
  unfold takeKeyed
  split
  · exact absurd rfl noKey
  · rfl

theorem piece_of_measures (noKey : cs.head? ≠ some '(')
    (measures : takeMeasures cs = (m, form :: after)) (width : m.width ≠ some .star)
    (precision : m.precision ≠ some .star) (unset : m.flags.precision = none) (written : Writes k w form v amount) :
    Piece k w values (v :: vs) cs (columns m.width + columns m.precision + amount) vs after := by
  intro total keyed s _ offers
  unfold writeDirective
  rw [takeKeyed_none noKey]
  exact .pure_bind (gives_writeField measures width precision unset offers written total)

/-- How long the text of a template can become when some values are still to come. -/
inductive Written (k : Nat) (w : World) (values : Value) : List Value → Nat → List Char → Prop where
  | nil {vs : List Value} : Written k w values vs 0 []
  | char {vs : List Value} {n : Nat} {c : Char} {cs : List Char} (other : c ≠ '%')
    (rest : Written k w values vs n cs) : Written k w values vs (n + 1) (c :: cs)
  | twice {vs : List Value} {n : Nat} {cs : List Char} (rest : Written k w values vs n cs) :
    Written k w values vs (n + 1) ('%' :: '%' :: cs)
  | piece {vs vs' : List Value} {m n : Nat} {cs after : List Char} (single : cs.head? ≠ some '%')
    (piece : Piece k w values vs cs m vs' after) (rest : Written k w values vs' n after) :
    Written k w values vs (m + n) ('%' :: cs)

theorem gives_writeTemplate (written : Written k w values vs n cs)
    (own : keyed = none ∨ keyed = some values) (offers : s.Offers keyed vs) (total : Nat)
    (out : List Char) (fuel : Nat) :
    Gives k w (writeTemplate .ask total s out fuel cs) fun t _ => t.length ≤ out.length + n := by
  induction written generalizing s out fuel with
  | nil =>
    obtain _ | fuel := fuel
    · exact gives_raise _
    rw [writeTemplate]
    · refine gives_unless fun _ => gives_pure ?_
      rw [length_reverse]
      omega
    · simp
  | @char vs n c cs other _ ih =>
    obtain _ | fuel := fuel
    · exact gives_raise _
    rw [writeTemplate]
    · intro t w' ran
      have := ih offers (c :: out) fuel t w' ran
      rw [length_cons] at this
      omega
    · exact fun _ same => absurd same other
    · exact other
  | twice _ ih =>
    obtain _ | fuel := fuel
    · exact gives_raise _
    intro t w' ran
    have := ih offers ('%' :: out) fuel t w' ran
    rw [length_cons] at this
    omega
  | piece single piece _ ih =>
    obtain _ | fuel := fuel
    · exact gives_raise _
    rw [writeTemplate]
    · refine (piece total keyed s own offers).knowing ?_
      rintro ⟨text, s', _⟩ ⟨short, later, rfl⟩ t w' ran
      have := ih later (text.reverse ++ out) fuel t w' ran
      rw [length_append, length_reverse] at this
      dsimp only at short
      omega
    · rintro rest rfl
      exact single rfl

theorem gives_keyedOperand (values : Value) :
    Gives k w (keyedOperand values) fun keyed w' => (keyed = none ∨ keyed = some values) ∧ w' = w := by
  unfold keyedOperand
  split
  · exact gives_pure ⟨.inr rfl, rfl⟩
  · refine .after (looks_cellAt _) fun c => ?_
    split
    · exact gives_pure ⟨.inr rfl, rfl⟩
    · exact gives_pure ⟨.inr rfl, rfl⟩
    · exact gives_pure ⟨.inr rfl, rfl⟩
    · exact gives_pure ⟨.inr rfl, rfl⟩
    · exact gives_pure ⟨.inl rfl, rfl⟩
  · exact gives_pure ⟨.inl rfl, rfl⟩

/-- **A text that is written from a template is within the limit, but for what is written and was not added
    up.**  Where nothing was refused, all directives say themselves how wide they are. -/
theorem gives_percentFormat
    (measured : Measured k w values 0 (directives [] (template.length + 1) template.toList) asked)
    (written : (∀ d ∈ directives [] (template.length + 1) template.toList, d.Steady) →
      ∃ n ≤ template.length + asked + excess, Written k w values values.inTurn n template.toList)
    (short : template.length ≤ w.limits.maxConstLen) : Gives k w (percentFormat .ask template values) fun v _ =>
      ∃ t g, v = .str t g ∧ (t.length : Int) ≤ w.limits.maxConstLen + excess := by
  have itself {α : Type} (x : Eval α) : Gives k w x fun v w' => x.exec (run k) w = .ok v w' := fun _ _ ran => ran
  refine ((itself _).looking (looks_isSequence values)).bind ?_
  rintro sequence _ ⟨ordered, rfl⟩
  refine ((itself _).looking (looks_isMapping values)).bind ?_
  rintro mapping _ ⟨mapped, rfl⟩
  rw [String.length_toList]
  refine (gives_checkTemplate measured ordered mapped _).knowing fun _ passed => ?_
  obtain ⟨n, most, writes⟩ := written passed.steady
  refine (gives_keyedOperand values).knowing fun keyed own => ?_
  refine .bind (gives_writeTemplate writes own (offers_start values keyed) _ [] _) fun out _ fits => ?_
  refine gives_pure ⟨String.ofList out, false, rfl, ?_⟩
  have := passed.within short
  rw [String.length_ofList]
  rw [length_nil] at fits
  omega

/-! ## 5. Directives that are written in full -/

/-- Where a directive has its value from: it is the next one, or it stands under a key without brackets, and
    then no other comes after it. -/
inductive Draws (k : Nat) (w : World) (values : Value) :
    Option (List Char) → List Value → Value → List Value → Prop where
  | next (v : Value) (vs : List Value) : Draws k w values none (v :: vs) v vs
  | keyed {key : List Char} {v : Value} (vs : List Value) (flat : '(' ∉ key)
    (item : Gives k w (.ask (.item values (.str (String.ofList key) false))) fun u w' => u = v ∧ w' = w) :
    Draws k w values (some key) vs v []

section

variable (taken : takeDirective cs = some (d, after))

include taken

theorem gives_takeKeyed (draws : Draws k w values d.key vs v vs') (own : keyed = none ∨ keyed = some values)
    (offers : s.Offers keyed vs) : ∃ behind precision, Found behind d after precision ∧
      Gives k w (takeKeyed .ask s cs) fun r w' => (r.1.Offers keyed (v :: vs') ∧ r.2 = behind) ∧ w' = w := by
  generalize named : d.key = key at draws
  cases draws with
  | next =>
    obtain ⟨noKey, precision, found⟩ := found_of_keyless taken named
    refine ⟨cs, precision, found, ?_⟩
    rw [takeKeyed_none noKey]
    exact gives_pure ⟨⟨offers, rfl⟩, rfl⟩
  | keyed _ flat item =>
    obtain ⟨behind, precision, rfl, closed, found⟩ := found_of_key taken named
    refine ⟨behind, precision, found, ?_⟩
    have same : s.keyed = keyed := by cases offers <;> rfl
    have read := takeKey_of_flat flat closed [] behind
    unfold takeKeyed
    split
    · next rest heq =>
      cases heq
      rw [same]
      rcases own with rfl | rfl
      · exact gives_raise _
      · rw [read]
        exact item.value (gives_pure ⟨⟨.single _, rfl⟩, rfl⟩)
    · next other => exact absurd rfl (other _)

theorem piece_of_draws (steady : d.Steady)
    (draws : Draws k w values d.key vs v vs') (written : Writes k w d.form v amount) :
    Piece k w values vs cs (columns d.width + columns d.precision + amount) vs' after := by
  intro total keyed s own offers
  obtain ⟨behind, precision, found, next⟩ := gives_takeKeyed taken draws own offers
  refine next.knowing ?_
  rintro ⟨s', _⟩ ⟨offers', rfl⟩
  rcases found.measures with ⟨flags, measures, unset⟩ | ⟨m, c, rest, measures, digit⟩
  · exact gives_writeField measures steady.width steady.precision unset offers' written total
  · exact fun r w' ran => (gives_writeField_other measures (.inr digit) total s' r w' ran).elim

theorem piece_of_percent (keyless : d.key = none) (form : d.form = '%') : Piece k w values vs cs amount vs' after := by
  intro total keyed s own offers
  obtain ⟨noKey, precision, found⟩ := found_of_keyless taken keyless
  unfold writeDirective
  rw [takeKeyed_none noKey]
  refine .pure_bind fun r w' ran => ?_
  rcases found.measures with ⟨flags, measures, -⟩ | ⟨m, c, rest, measures, digit⟩
  · exact (gives_writeField_other measures (.inl form) total s r w' ran).elim
  · exact (gives_writeField_other measures (.inr digit) total s r w' ran).elim

end

/-- A template is filled from some place on: `vs` are the values still to come, `asked` is what its directives
    ask for, and what is written of the values is more than that by an excess.  Every percent sign begins a
    directive that draws a value, or stands before another percent sign. -/
inductive Fills (k : Nat) (w : World) (values : Value) :
    (i : Nat) → (vs : List Value) → (asked excess : Nat) → List Char → Prop where
  | nil {i : Nat} {vs : List Value} : Fills k w values i vs 0 0 []
  | char {i : Nat} {vs : List Value} {asked excess : Nat} {c : Char} {cs : List Char} (other : c ≠ '%')
    (rest : Fills k w values i vs asked excess cs) : Fills k w values i vs asked excess (c :: cs)
  | percent {i n : Nat} {vs : List Value} {asked excess : Nat} {cs after : List Char} {d : Directive}
    (taken : takeDirective cs = some (d, after)) (keyless : d.key = none) (form : d.form = '%')
    (measured : Asked k w values i d.key n) (rest : Fills k w values i vs asked excess after) :
    Fills k w values i vs (columns d.width + columns d.precision + n + asked) excess ('%' :: cs)
  | directive {i n : Nat} {v : Value} {vs vs' : List Value} {asked here excess : Nat} {cs after : List Char}
    {d : Directive} (taken : takeDirective cs = some (d, after)) (form : d.form ≠ '%')
    (measured : Asked k w values i d.key n) (draws : Draws k w values d.key vs v vs')
    (written : Writes k w d.form v (n + here)) (rest : Fills k w values (i + 1) vs' asked excess after) :
    Fills k w values i vs (columns d.width + columns d.precision + n + asked) (here + excess) ('%' :: cs)

theorem head_ne_percent (taken : takeDirective cs = some (d, after)) (form : d.form ≠ '%') : cs.head? ≠ some '%' := by
  intro twice
  obtain ⟨rest, rfl⟩ := head?_eq_some_iff.mp twice
  cases (takeDirective_percent rest).symm.trans taken
  exact form rfl

/-- A template that is filled is added up by the first reading, and written by the second. -/
theorem Fills.read (fills : Fills k w values i vs asked excess cs) (enough : cs.length < n) :
    Measured k w values i (directives [] n cs) asked ∧
      ((∀ d ∈ directives [] n cs, d.Steady) → ∃ m ≤ cs.length + asked + excess, Written k w values vs m cs) := by
  obtain ⟨n, rfl⟩ : ∃ m, n = m + 1 := ⟨n - 1, by omega⟩
  induction fills generalizing n with
  | nil =>
    refine ⟨?_, fun _ => ⟨0, Nat.zero_le _, .nil⟩⟩
    rw [directives]
    · exact .nil
    · simp
  | char other _ ih =>
    rw [length_cons] at enough
    obtain ⟨n, rfl⟩ : ∃ m, n = m + 1 := ⟨n - 1, by omega⟩
    obtain ⟨measured, written⟩ := ih n (by omega)
    rw [directives]
    · refine ⟨measured, fun steady => ?_⟩
      obtain ⟨m, most, writes⟩ := written steady
      exact ⟨m + 1, by rw [length_cons]; omega, .char other writes⟩
    · exact other
  | @percent i _ vs asked excess cs after d taken keyless form here _ ih =>
    have shorter := length_takeDirective_lt taken
    rw [length_cons] at enough
    obtain ⟨n, rfl⟩ : ∃ m, n = m + 1 := ⟨n - 1, by omega⟩
    obtain ⟨measured, written⟩ := ih n (by omega)
    rw [directives_taken taken, forall_mem_cons]
    refine ⟨.cons here (by rwa [if_pos (beq_iff_eq.mpr form)]), fun steady => ?_⟩
    obtain ⟨m, most, writes⟩ := written steady.2
    by_cases twice : cs.head? = some '%'
    · -- the second reading takes both percent signs at once
      obtain ⟨rest, rfl⟩ := head?_eq_some_iff.mp twice
      cases (takeDirective_percent rest).symm.trans taken
      exact ⟨m + 1, by simp only [length_cons]; omega, .twice writes⟩
    · refine ⟨0 + m, ?_, .piece twice (piece_of_percent taken keyless form) writes⟩
      rw [length_cons]
      omega
  | directive taken form here draws written _ ih =>
    have shorter := length_takeDirective_lt taken
    rw [length_cons] at enough
    obtain ⟨n, rfl⟩ : ∃ m, n = m + 1 := ⟨n - 1, by omega⟩
    obtain ⟨measured, later⟩ := ih n (by omega)
    rw [directives_taken taken, forall_mem_cons]
    refine ⟨.cons here (by rwa [if_neg (mt beq_iff_eq.mp form)]), fun steady => ?_⟩
    obtain ⟨m, most, writes⟩ := later steady.2
    have piece := piece_of_draws taken steady.1 draws written
    refine ⟨_, ?_, .piece (head_ne_percent taken form) piece writes⟩
    rw [length_cons]
    omega

end

end AliasTools.Script
