import AliasTools.Command.Embed

/-!
# How the flags of an embed are checked and read

The words of an embed are walked through twice, once to check them and once to read them.  Each walk is
the list of flags that it takes for flags, with the words that it takes for their values (`walk`).
-/

namespace AliasTools.Command

open Text Number EmbedFlag List Option

variable {f : EmbedFlag} {ws : List String} {w : String} {takes : EmbedFlag → Option String → Nat}

/-! ## 1. Walks -/

/-- A flag in use: the word it is written as, and the word that it takes for its value. -/
structure FlagUse where
  word : String
  flag : EmbedFlag
  value : Option String
deriving DecidableEq

/-- The flags of words; `takes` says how many words belong to a flag in front of a word, and `skip` counts
    those of the last flag. -/
def walk (takes : EmbedFlag → Option String → Nat) (skip : Nat) : List String → List FlagUse
  | [] => []
  | w :: ws =>
    match skip with
    | k + 1 => walk takes k ws
    | 0 =>
      match if w.startsWith "-" then ofWord? w else none with
      | none => walk takes 0 ws
      | some f => ⟨w, f, if takes f ws.head? = 0 then none else ws.head?⟩ :: walk takes (takes f ws.head?) ws

def checkedFlags (ws : List String) : List FlagUse := walk (fun f next => ((f.check next).toOption).getD 0) 0 ws

def readFlags (ws : List String) : List FlagUse := walk (fun _ _ => 1) 0 ws

def swallow : List FlagUse → List FlagUse
  | u :: u' :: rest =>
    if u.value = none then { u with value := some u'.word } :: swallow rest else u :: swallow (u' :: rest)
  | uses => uses

variable {u : FlagUse}

theorem swallow_eq_self_iff (uses : List FlagUse) : swallow uses = uses ↔ ∀ u ∈ uses.dropLast, u.value ≠ none := by
  fun_induction swallow uses with
  | case1 u u' rest bare ih =>
    refine iff_of_false (fun same => ?_) (fun given => given u (by simp) bare)
    rw [← (cons.inj same).1] at bare
    cases bare
  | case2 u u' rest given ih => simpa [given] using ih
  | case3 uses short =>
    match uses, short with
    | [], _ => simp
    | [u], _ => simp
    | u :: u' :: rest, short => exact absurd rfl (short u u' rest)

theorem mem_swallow (listed : u ∈ swallow uses) :
    u ∈ uses ∨ ∃ v ∈ uses, v.value = none ∧ u.flag = v.flag ∧ u.value ≠ none := by
  fun_induction swallow uses with
  | case1 v v' rest bare ih =>
    rcases mem_cons.1 listed with rfl | listed
    · exact .inr ⟨v, by simp, bare, rfl, nofun⟩
    · rcases ih listed with there | ⟨w, there, more⟩
      · exact .inl (by simp [there])
      · exact .inr ⟨w, by simp [there], more⟩
  | case2 v v' rest given ih =>
    rcases mem_cons.1 listed with rfl | listed
    · exact .inl (by simp)
    · rcases ih listed with there | ⟨w, there, more⟩
      · exact .inl (.tail _ there)
      · exact .inr ⟨w, .tail _ there, more⟩
  | case3 uses _ => exact .inl listed

/-! ## 2. What passes the check -/

theorem EmbedFlag.check_cases {next : Option String} (passed : f.check next = .ok n) :
    (n = 1 ∧ ∃ v, next = some v ∧ v.startsWith "-" = false) ∨
      (n = 0 ∧ f = .color ∧ ∀ v, next = some v → v.startsWith "-" = true) := by
  unfold check at passed
  cases given : next.filter fun v => !v.startsWith "-" with
  | none =>
    have dashed : ∀ v, next = some v → v.startsWith "-" = true := by simpa [filter_eq_none_iff] using given
    rw [given] at passed
    cases f <;> first | exact .inr ⟨(Except.ok.inj passed).symm, rfl, dashed⟩ | cases passed
  | some v =>
    obtain ⟨there, plain⟩ := filter_eq_some_iff.1 given
    refine .inl ⟨?_, v, there, by simpa using plain⟩
    rw [given] at passed
    cases f <;> grind

theorem checkWords_flag (dashed : w.startsWith "-" = true) (passed : checkWords 0 (w :: ws) = none) :
    ∃ f n, ofWord? w = some f ∧ f.check ws.head? = .ok n ∧ checkWords n ws = none := by
  rw [checkWords] at passed
  simp only [dashed, Bool.not_true, Bool.false_eq_true, if_false] at passed
  split at passed
  · cases passed
  · split at passed
    · cases passed
    · exact ⟨_, _, ‹_›, ‹_›, passed⟩

/-- Words that pass the check, with their flags: a flag has a value that is no flag, or is a colour in
    front of a flag or at the end. -/
inductive Accepted : List String → List FlagUse → Prop
  | nil : Accepted [] []
  | word {w ws uses} (plain : w.startsWith "-" = false) (rest : Accepted ws uses) : Accepted (w :: ws) uses
  | valued {w f v ws uses} (dashed : w.startsWith "-" = true) (known : ofWord? w = some f)
      (plain : v.startsWith "-" = false) (passed : f.check (some v) = .ok 1) (rest : Accepted ws uses) :
      Accepted (w :: v :: ws) (⟨w, f, some v⟩ :: uses)
  | bare {w ws uses} (dashed : w.startsWith "-" = true) (known : ofWord? w = some .color)
      (next : ∀ v, ws.head? = some v → v.startsWith "-" = true) (rest : Accepted ws uses) :
      Accepted (w :: ws) (⟨w, .color, none⟩ :: uses)

theorem walk_word (plain : w.startsWith "-" = false) (ws : List String) : walk takes 0 (w :: ws) = walk takes 0 ws := by
  simp [walk, plain]

theorem walk_flag (dashed : w.startsWith "-" = true) (known : ofWord? w = some f) (ws : List String) :
    walk takes 0 (w :: ws) =
      ⟨w, f, if takes f ws.head? = 0 then none else ws.head?⟩ :: walk takes (takes f ws.head?) ws := by
  simp [walk, dashed, known]

theorem accepted_of_check : (ws : List String) → checkWords 0 ws = none → Accepted ws (checkedFlags ws)
  | [], _ => .nil
  | w :: ws, passed => by
    cases dashed : w.startsWith "-" with
    | false =>
      rw [checkedFlags, walk_word dashed]
      exact .word dashed (accepted_of_check ws (by simpa [checkWords, dashed] using passed))
    | true =>
      obtain ⟨f, n, known, ok, rest⟩ := checkWords_flag dashed passed
      rw [checkedFlags, walk_flag dashed known, ok]
      rcases check_cases ok with ⟨rfl, v, first, plain⟩ | ⟨rfl, rfl, next⟩
      · cases ws with
        | nil => cases first
        | cons v' ws =>
          cases first
          exact .valued dashed known plain ok (accepted_of_check ws rest)
      · exact .bare dashed known next (accepted_of_check ws rest)
termination_by ws => ws.length

theorem Accepted.check (accepted : Accepted ws uses) :
    ∀ u ∈ uses, u.flag.check u.value = .ok u.value.toList.length := by
  induction accepted with
  | nil => nofun
  | word _ _ ih => exact ih
  | valued _ _ _ passed _ ih => exact forall_mem_cons.2 ⟨passed, ih⟩
  | bare _ _ _ _ ih => exact forall_mem_cons.2 ⟨rfl, ih⟩

theorem Accepted.readFlags (accepted : Accepted ws uses) :
    readFlags ws = swallow uses ∧ ∀ w ws', ws = w :: ws' → w.startsWith "-" = true →
      ∃ u rest, uses = u :: rest ∧ u.word = w ∧ Command.readFlags ws' = swallow rest := by
  induction accepted with
  | nil => exact ⟨rfl, nofun⟩
  | word plain _ ih =>
    refine ⟨(walk_word plain _).trans ih.1, fun _ _ same dashed => ?_⟩
    cases same
    rw [plain] at dashed
    cases dashed
  | @valued w f v ws uses dashed known plain passed _ ih =>
    constructor
    · rw [Command.readFlags, walk_flag dashed known]
      show _ :: Command.readFlags ws = _
      rw [ih.1]
      cases uses <;> rfl
    · rintro _ _ ⟨⟩ _
      exact ⟨_, _, rfl, rfl, (walk_word plain ws).trans ih.1⟩
  | @bare w ws uses dashed known next rest ih =>
    refine ⟨?_, ?_⟩
    · rw [Command.readFlags, walk_flag dashed known]
      cases ws with
      | nil =>
        cases rest
        rfl
      | cons w' ws' =>
        obtain ⟨u, rest, rfl, rfl, behind⟩ := ih.2 w' ws' rfl (next w' rfl)
        show _ :: Command.readFlags ws' = _
        rw [behind]
        rfl
    · rintro _ _ ⟨⟩ _
      exact ⟨_, _, rfl, rfl, ih.1⟩

/-! ## 3. What is read -/

def lastValue (f : EmbedFlag) (uses : List FlagUse) : Option (Option String) :=
  (uses.reverse.find? (·.flag = f)).map (·.value)

def Embed.ofFlags (uses : List FlagUse) : Embed where
  title := (lastValue .title uses).map (·.getD "")
  description := (lastValue .desc uses).map (·.getD "")
  footer := (lastValue .footer uses).map (·.getD "")
  thumbnail := (lastValue .thumb uses).map (·.getD "")
  image := (lastValue .image uses).map (·.getD "")
  color := (lastValue .color uses).bind shownColor
  timeout := (lastValue .timeout uses).bind fun value => value.bind fun v => readInt? 10 v.toList
  fields := (uses.filter (·.flag = .field)).filterMap fun u => u.value.bind EmbedField.ofText?

theorem Embed.ofFlags_concat (uses : List FlagUse) (u : FlagUse) :
    ofFlags (uses ++ [u]) = (ofFlags uses).set u.flag u.value := by
  obtain ⟨w, f, value⟩ := u
  cases f <;> simp [ofFlags, lastValue, Embed.set, filterMap_cons]
  cases value.bind EmbedField.ofText? <;> rfl

theorem Embed.addWords_eq (e : Embed) (skip : Nat) (ws : List String) : e.addWords skip ws =
      (walk (fun _ _ => 1) skip ws).foldl (fun e u => e.set u.flag u.value) e := by
  induction ws generalizing e skip with
  | nil => simp [addWords, walk]
  | cons w ws ih =>
    cases skip with
    | succ k => exact ih e k
    | zero =>
      rw [addWords, walk]
      cases if w.startsWith "-" then ofWord? w else none with
      | none => exact ih e 0
      | some f => exact ih (e.set f ws.head?) 1

theorem Embed.foldl_set (before uses : List FlagUse) :
    uses.foldl (fun e u => e.set u.flag u.value) (ofFlags before) = ofFlags (before ++ uses) := by
  induction uses generalizing before with
  | nil => rw [append_nil]; rfl
  | cons u uses ih => rw [foldl_cons, ← ofFlags_concat, ih, append_assoc]; rfl

def ColorText (c : String) : Prop :=
  c = "<color>" ∨ ∃ ds, c = "#" ++ String.ofList ds ∧ ds.length = 6 ∧ ∀ d ∈ ds, isHexDigit d

theorem map_some_filterMap {α β : Type} {f : α → Option β} {l : List α} (all : ∀ a ∈ l, (f a).isSome) :
    (l.filterMap f).map some = l.map f := by
  induction l with
  | nil => rfl
  | cons a l ih =>
    obtain ⟨b, found⟩ := isSome_iff_exists.1 (all a (.head _))
    rw [filterMap_cons_some found, map_cons, map_cons, found, ih fun a listed => all a (.tail _ listed)]

theorem lastValue_mem (last : lastValue f uses = some value) : ∃ u ∈ uses, u.flag = f ∧ u.value = value := by
  obtain ⟨u, found, rfl⟩ := map_eq_some_iff.1 last
  have same := find?_some found
  exact ⟨u, mem_reverse.1 (mem_of_find?_eq_some found), of_decide_eq_true same, rfl⟩

theorem colorDigits?_cases (found : colorDigits? v = some ds) :
    ∃ cs, ds = String.ofList cs ∧ cs.length = 6 ∧ ∀ c ∈ cs, isHexDigit c := by
  unfold colorDigits? at found
  dsimp only at found
  split at found <;>
    · simp only [ite_none_right_eq_some, Bool.and_eq_true, beq_iff_eq, List.all_eq_true,
        some.injEq] at found
      exact ⟨_, found.2.symm, found.1⟩

section Passed

variable {v : String} (plain : v.startsWith "-" = false)
include plain

theorem filter_dashed : (some v).filter (fun v => !v.startsWith "-") = some v := by simp [plain]

theorem colorText_of_check (passed : color.check (some v) = .ok 1)
    (shown : shownColor (some v) = some c) : ColorText c := by
  unfold check at passed
  simp only [filter_dashed plain] at passed
  unfold shownColor at shown
  split at shown
  · cases shown
  · cases shown
  · rename_i v' _ same
    split at shown
    · exact .inl (some.inj shown).symm
    · split at shown
      · rename_i found
        obtain ⟨cs, rfl, digits⟩ := colorDigits?_cases found
        exact .inr ⟨cs, (some.inj shown).symm, digits⟩
      · simp_all

theorem timeout_of_check (passed : timeout.check (some v) = .ok 1)
    (read : readInt? 10 v.toList = some t) : 0 ≤ t ∧ t ≤ 600 := by
  unfold check at passed
  simp only [filter_dashed plain] at passed
  grind

theorem field_of_check (passed : field.check (some v) = .ok 1) : (EmbedField.ofText? v).isSome := by
  unfold check at passed
  simp only [filter_dashed plain] at passed
  unfold EmbedField.ofText?
  split at passed
  · rfl
  · cases passed

end Passed

theorem FlagUse.passed_cases (passed : u.flag.check u.value = .ok u.value.toList.length) :
    (u.value = none ∧ u.flag = .color) ∨
      ∃ v, u.value = some v ∧ v.startsWith "-" = false ∧ u.flag.check (some v) = .ok 1 := by
  rcases check_cases passed with ⟨one, v, given, plain⟩ | ⟨zero, color, _⟩
  · exact .inr ⟨v, given, plain, by rw [← given, passed, one]⟩
  · exact .inl ⟨by simpa using zero, color⟩

theorem passed_of_mem_swallow
    (checked : ∀ u ∈ uses, u.flag.check u.value = .ok u.value.toList.length) (listed : u ∈ swallow uses)
    (other : u.flag ≠ .color) : ∃ v, u.value = some v ∧ v.startsWith "-" = false ∧ u.flag.check (some v) = .ok 1 := by
  rcases mem_swallow listed with there | ⟨bare, there, none_given, same, _⟩
  · exact (FlagUse.passed_cases (checked u there)).resolve_left fun color => other color.2
  · rcases FlagUse.passed_cases (checked bare there) with color | ⟨_, given, _⟩
    · exact absurd (same.trans color.2) other
    · rw [none_given] at given
      cases given

/-- **What is read from words that pass the check.**  Reading succeeds, and reads the flags that were
    checked, with the same values, exactly when no colour without a value stands in front of another flag;
    otherwise a flag is swallowed. -/
theorem parse_of_accepted {payload : String} (accepted : embedFault? payload = none) :
    ∃ ws e, splitWords (trim payload) = .ok ws ∧ Embed.parse payload = .ok e ∧
      (∀ u ∈ checkedFlags ws, u.flag.check u.value = .ok u.value.toList.length) ∧
      readFlags ws = swallow (checkedFlags ws) ∧
      (readFlags ws = checkedFlags ws ↔ ∀ u ∈ (checkedFlags ws).dropLast, u.value ≠ none) ∧
      e = Embed.ofFlags (readFlags ws) ∧
      e.fields.map some =
        ((readFlags ws).filter (·.flag = .field)).map (fun u => u.value.bind EmbedField.ofText?) ∧
      (∀ t, e.timeout = some t → 0 ≤ t ∧ t ≤ 600) ∧
      (readFlags ws = checkedFlags ws → ∀ c, e.color = some c → ColorText c) := by
  obtain ⟨ws, split, passed⟩ : ∃ ws, splitWords (trim payload) = .ok ws ∧ checkWords 0 ws = none := by
    unfold embedFault? at accepted
    dsimp only at accepted
    split at accepted
    · cases accepted
    · split at accepted
      · cases accepted
      · next ws split => exact ⟨ws, split, accepted⟩
  have walked := accepted_of_check ws passed
  have checked := walked.check
  have swallowed := walked.readFlags.1
  refine ⟨ws, _, split, ?_, checked, swallowed, ?_, rfl, ?_, ?_, ?_⟩
  · rw [Embed.parse, split]
    exact congrArg Except.ok ((Embed.addWords_eq {} 0 ws).trans (Embed.foldl_set [] _))
  · rw [swallowed]
    exact swallow_eq_self_iff _
  · refine map_some_filterMap fun u listed => ?_
    obtain ⟨listed, field⟩ := List.mem_filter.1 listed
    have field := of_decide_eq_true field
    rw [swallowed] at listed
    obtain ⟨v, given, plain, passed⟩ := passed_of_mem_swallow checked listed (by rw [field]; decide)
    rw [given]
    exact field_of_check plain (field ▸ passed)
  · intro t timed
    obtain ⟨value, last, read⟩ := Option.bind_eq_some_iff.1 timed
    obtain ⟨u, listed, flag, rfl⟩ := lastValue_mem last
    rw [swallowed] at listed
    obtain ⟨v, given, plain, passed⟩ := passed_of_mem_swallow checked listed (by rw [flag]; decide)
    rw [given] at read
    exact timeout_of_check plain (flag ▸ passed) read
  · intro same c shown
    obtain ⟨value, last, read⟩ := Option.bind_eq_some_iff.1 shown
    obtain ⟨u, listed, flag, rfl⟩ := lastValue_mem last
    rw [same] at listed
    rcases FlagUse.passed_cases (checked u listed) with ⟨none_given, _⟩ | ⟨v, given, plain, passed⟩
    · rw [none_given] at read
      cases read
    · rw [given] at read
      exact colorText_of_check plain (flag ▸ passed) read

theorem parse_of_accepted_flags :
    embedFault? "-t 30 -title A -color #ff00ff -title B" = none ∧
    ∃ e, Embed.parse "-t 30 -title A -color #ff00ff -title B" = .ok e ∧
      ∀ t, e.timeout = some t → 0 ≤ t ∧ t ≤ 600 := by
  have accepted : embedFault? "-t 30 -title A -color #ff00ff -title B" = none := by decide +kernel
  obtain ⟨_, e, _, parsed, _, _, _, _, _, timed, _⟩ := parse_of_accepted accepted
  exact ⟨accepted, e, parsed, timed⟩

theorem title_swallowed_by_color :
    embedFault? "-color -title Foo" = none ∧
    checkedFlags ["-color", "-title", "Foo"] =
      [⟨"-color", .color, none⟩, ⟨"-title", .title, some "Foo"⟩] ∧
    (Embed.parse "-color -title Foo").toOption = some { color := some "-title" } := by
  refine ⟨by decide +kernel, by decide +kernel, by decide +kernel⟩

end AliasTools.Command
