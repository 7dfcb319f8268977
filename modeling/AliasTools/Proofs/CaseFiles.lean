import Mathlib
import AliasTools.Proofs.Outcomes
import AliasTools.Trial.Case

/-!
# Files of cases, one behind the other

Reading a case stops where the next one starts, and so does the end of a file.  What is read is the same in
every world, but for where its collections lie.
-/

/-! ## 1. Documents, wherever they are put -/

namespace AliasTools.Script

/-- The world with the collections of documents put behind its cells. -/
def World.holding (w : World) (cells : Array Collection) : World :=
  { w with heap := w.heap ++ cells.map fun c => (c.moved w.heap.size).cell }

namespace World

variable (w : World) (cells more : Array Collection)

theorem holding_nil : w.holding #[] = w := by simp [holding]

theorem size_heap_holding : (w.holding cells).heap.size = w.heap.size + cells.size := by simp [holding]

theorem holding_holding :
    (w.holding cells).holding more = w.holding (cells ++ more.map (·.moved cells.size)) := by
  simp [holding, Collection.moved_moved, Function.comp_def]

end World

/-- A computation that comes after some collections were put in place does the same in every world: it fails,
    or what it gives refers to collections behind the cells that there are. -/
def Steady {α : Type} (move : Nat → α → α) (cells : Array Collection) (f : Nat → Eval α) : Prop :=
  (∃ v more, ∀ (answer : Answering) (w : World),
    (f w.heap.size).exec answer (w.holding cells) = .ok (move w.heap.size v) (w.holding more)) ∨
  ∀ (answer : Answering) (w : World), ∃ e w', (f w.heap.size).exec answer (w.holding cells) = .error e w'

variable {α β : Type} {move : Nat → α → α} {move' : Nat → β → β} {cells : Array Collection}

theorem Steady.bind {f : Nat → Eval α} {g : Nat → α → Eval β} (first : Steady move cells f)
    (next : ∀ v more, Steady move' more fun n => g n (move n v)) :
    Steady move' cells fun n => .bind (f n) (g n) := by
  rcases first with ⟨v, more, gives⟩ | fails
  · simp only [Steady, exec_bind_ok (gives _ _)]
    exact next v more
  · refine .inr fun answer w => ?_
    obtain ⟨e, w', failed⟩ := fails answer w
    exact ⟨e, w', by rw [Eval.exec, failed]⟩

theorem Steady.pure (v : α) : Steady move cells fun n => .pure (move n v) := .inl ⟨v, cells, fun _ _ => rfl⟩

theorem steady_fail (kind : FaultKind) (message : String) : Steady move cells fun _ => fail kind message :=
  .inr fun _ _ => ⟨_, _, rfl⟩

/-- A document is put behind all that is there, whatever it is. -/
theorem exec_place (d : YamlDocument) (answer : Answering) (w : World) :
    d.place.exec answer w = .ok (d.value.moved w.heap.size) (w.holding d.cells) := by
  have placed (n : Nat) (cs : List Collection) (w : World) :
      (cs.forM fun c => (do let _ ← alloc (c.moved n).cell : Eval PUnit)).exec answer w =
        .ok ⟨⟩ { w with heap := w.heap ++ (cs.map fun c => (c.moved n).cell).toArray } := by
    induction cs generalizing w with
    | nil => simp; rfl
    | cons c cs ih =>
      have fresh : (c.moved n).cell.asNew.madeIn w.source = (c.moved n).cell := by cases c <;> rfl
      have made : (alloc (c.moved n).cell).exec answer w =
          .ok (.ref w.heap.size) { w with heap := w.heap.push (c.moved n).cell } := by
        rw [alloc, Eval.exec, fresh]
      refine (exec_bind_ok (exec_bind_ok made _) _).trans ((ih _).trans ?_)
      simp
  refine (exec_read_bind answer _ w).trans ((exec_bind_ok (placed _ _ _) _).trans ?_)
  simp only [World.holding, ← List.map_toArray]
  rfl

theorem steady_readYaml (s : String) : Steady Value.moved cells fun _ => readYaml s := by
  cases read : YamlDocument.ofText s with
  | error f => exact .inr fun _ _ => ⟨_, _, by simp only [readYaml, read]; rfl⟩
  | ok d =>
    refine .inl ⟨d.value.moved cells.size, cells ++ d.cells.map (·.moved cells.size), fun answer w => ?_⟩
    simp only [readYaml, read]
    refine (exec_place d answer _).trans ?_
    rw [World.size_heap_holding, World.holding_holding, Value.moved_moved]

/-- The entries that a value of a document refers to. -/
def entriesAmong (cells : Array Collection) : Value → Option Entries
  | .ref a =>
    match cells[a]? with
    | some (.dict es) => some es
    | _ => none
  | _ => none

def Entries.moved (n : Nat) (es : Entries) : Entries := es.map fun e => { e with value := e.value.moved n }

theorem Entries.get?_moved (n : Nat) (es : Entries) (k : Key) :
    (es.moved n).get? k = (es.get? k).map (·.moved n) := by
  simp [moved, get?, Array.find?_map, Function.comp_def]

theorem steady_entries? (v : Value) :
    Steady (fun n => Option.map (Entries.moved n)) cells fun n => entries? (v.moved n) := by
  refine .inl ⟨entriesAmong cells v, cells, fun answer w => ?_⟩
  cases v with
  | ref a =>
    refine (exec_cellAt_bind answer _ _ _).trans ?_
    have found : (w.holding cells).heap[w.heap.size + a]? =
        cells[a]?.map fun c => (c.moved w.heap.size).cell := by
      simp [World.holding, Array.getElem?_append_right]
    rw [found]
    cases at_ : cells[a]? with
    | none => simp [entriesAmong, at_]; rfl
    | some c => cases c <;> simp [entriesAmong, at_] <;> rfl
  | _ => rfl

end AliasTools.Script

namespace AliasTools.Trial

open Command Script Text Workspace List Eval

/-! ## 2. Lines and sections -/

variable {line : String} {as bs : List String}

theorem linesFrom_break (acc x y : List Char) :
    linesFrom acc (x ++ '\n' :: y) = linesFrom acc (x ++ ['\n']) ++ linesFrom [] y := by
  induction x generalizing acc with
  | nil => rfl
  | cons c x ih =>
    have next : (x ++ '\n' :: y).head? = (x ++ ['\n']).head? := by cases x <;> rfl
    rw [cons_append, cons_append, linesFrom, linesFrom, next, ih, ih]
    split <;> rfl

theorem lineTexts_append (ends : a.toList.getLast? = some '\n') (b : String) :
    lineTexts (a ++ b) = lineTexts a ++ lineTexts b := by
  obtain ⟨x, is⟩ := getLast?_eq_some_iff.1 ends
  simp only [lineTexts, lines, linesWithEnds, String.toList_append, is, append_assoc, singleton_append]
  rw [linesFrom_break, map_append, map_append]

theorem not_isDivider (starts : startsCase line = true) : isDivider line = false := by
  refine beq_false_of_ne fun same => ?_
  simp [startsCase, same] at starts

theorem not_isEmptyLine (starts : startsCase line = true) : isEmptyLine line = false := by
  rw [isEmptyLine, Bool.eq_false_iff, Ne, String.isEmpty_iff]
  intro same
  simp [startsCase, same] at starts

theorem span_append (stops : as.dropWhile p = [] → p line = false) (bs : List String) :
    (as ++ line :: bs).takeWhile p = as.takeWhile p ∧
      (as ++ line :: bs).dropWhile p = as.dropWhile p ++ line :: bs := by
  induction as with
  | nil => simp [stops rfl]
  | cons a as ih => cases h : p a <;> simp_all

theorem takeAbout_append (starts : startsCase line = true) (as bs : List String) :
    takeAbout (as ++ line :: bs) = ((takeAbout as).1, (takeAbout as).2 ++ line :: bs) := by
  cases as with
  | nil => simp [takeAbout, not_isDivider starts]
  | cons a as =>
    have stop := @span_append line as (!startsCase ·) (by simp [starts]) bs
    cases divides : isDivider a <;> simp [takeAbout, divides, stop]

theorem sectionsOf_congr (same : as.dropWhile isEmptyLine = bs.dropWhile isEmptyLine) :
    sectionsOf as = sectionsOf bs := by
  rw [sectionsOf.eq_def as, sectionsOf.eq_def bs, same]

theorem sectionsOf_divided {d : String} {command rest : List String} (full : command.isEmpty = false)
    (named : (as.dropWhile isEmptyLine).takeWhile (!isDivider ·) = command)
    (divided : (as.dropWhile isEmptyLine).dropWhile (!isDivider ·) = d :: rest) :
    sectionsOf as =
      let more := takeAbout (rest.dropWhile isExpectedLine)
      (⟨command, rest.takeWhile isExpectedLine, more.1⟩ :: (sectionsOf more.2).1, (sectionsOf more.2).2) := by
  rw [sectionsOf.eq_def as]
  split
  · simp_all
  · split <;> simp_all

theorem sectionsOf_append (starts : startsCase line = true) (as bs : List String)
    (complete : (sectionsOf as).2 = none) : sectionsOf (as ++ line :: bs) =
      ((sectionsOf as).1 ++ (sectionsOf (line :: bs)).1, (sectionsOf (line :: bs)).2) := by
  have skip (as : List String) := (@span_append line as _ (fun _ => not_isEmptyLine starts) bs).2
  fun_induction sectionsOf as with
  | case1 as none_left => exact sectionsOf_congr (by rw [skip, none_left]; exact (skip []).symm)
  | case2 | case3 => cases complete
  | case4 as d rest expected more sections fault later _ command full divided ih =>
    have stop := @span_append line _ (!isDivider ·) (fun none_left => by rw [divided] at none_left; cases none_left) bs
    rw [← skip, divided, cons_append] at stop
    have expects := @span_append line rest isExpectedLine (by simp [isExpectedLine, starts]) bs
    rw [sectionsOf_divided (Bool.eq_false_iff.2 full) stop.1 stop.2, expects.1, expects.2, takeAbout_append starts]
    dsimp only
    rw [ih (later ▸ complete), later]
    rfl

variable {files : Files} {path : Path} {answer : Answering} {w w₁ : World} {fault : Option SectionFault}
  {ss : List Section} {cs : List Case}

theorem exec_casesOf_append (accepted : (casesOf files path fault ss).exec answer w = .ok cs w₁)
    (fault' : Option SectionFault) (ts : List Section) :
    fault = none ∧ (casesOf files path fault' (ss ++ ts)).exec answer w =
      (Eval.bind (casesOf files path fault' ts) fun more => .pure (cs ++ more)).exec answer w₁ := by
  induction ss generalizing w cs with
  | nil =>
    cases fault <;> cases accepted
    refine ⟨rfl, ?_⟩
    rw [nil_append, exec]
    cases (casesOf files path fault' ts).exec answer w₁ <;> rfl
  | cons s ss ih =>
    change (Eval.bind (caseOf files path s) fun c => .bind (casesOf files path _ ss) _).exec answer w = _ at accepted
    change _ ∧ (Eval.bind (caseOf files path s) fun c => .bind (casesOf files path _ (ss ++ ts)) _).exec answer w = _
    rw [exec] at accepted ⊢
    cases out : (caseOf files path s).exec answer w with
    | error e w' => rw [out] at accepted; cases accepted
    | ok c w' =>
      rw [out] at accepted
      dsimp only at accepted ⊢
      rw [exec] at accepted ⊢
      split at accepted
      · next cs' w'' later =>
        cases accepted
        obtain ⟨complete, same⟩ := ih later
        rw [same, exec, exec]
        cases (casesOf files path fault' ts).exec answer w₁ <;> exact ⟨complete, rfl⟩
      · cases accepted

/-! ## 3. Cases -/

def Case.moved (n : Nat) (c : Case) : Case :=
  { c with
    name := c.name.moved n, expected := c.expected.moved n
    vars := c.vars.map (·.moved n), character := c.character.map (·.moved n) }

theorem Case.moved_moved {m n : Nat} (c : Case) : (c.moved m).moved n = c.moved (n + m) := by
  simp [Case.moved, Value.moved_moved, Function.comp_def]

variable {cells : Array Collection}

theorem steady_readLines (lines : List String) :
    Steady (fun n => Option.map (Value.moved n)) cells fun _ => readLines lines := by
  unfold readLines
  dsimp only
  split
  · exact .pure none
  · exact (steady_readYaml _).bind fun v _ => .pure (some v)

theorem steady_readAbout (lines : List String) :
    Steady Entries.moved cells fun _ => readAbout path lines := by
  refine (steady_readLines lines).bind fun v cells => ?_
  have nothing : Steady Entries.moved cells fun _ => .pure #[] := .inl ⟨#[], cells, fun _ _ => by
    simp only [Entries.moved, Array.map_empty, Eval.exec]⟩
  rcases v with - | v
  · exact nothing
  · cases v with
    | none => exact nothing
    | _ =>
      refine (steady_entries? _).bind fun es cells => ?_
      cases es with
      | some es => exact .pure es
      | none => exact steady_fail _ _

theorem steady_mappingAt (about : Entries) (name : String) :
    Steady (fun n => Option.map (Value.moved n)) cells fun n => mappingAt (about.moved n) name := by
  have found (n : Nat) : ((about.moved n).get? (.str name)).getD .none =
      ((about.get? (.str name)).getD .none).moved n := by
    rw [Entries.get?_moved]
    cases about.get? (.str name) <;> rfl
  simp only [mappingAt, found]
  refine (steady_entries? _).bind fun es cells => ?_
  cases es with
  | none => exact .pure none
  | some es => exact .pure (some _)

theorem steady_caseFor (aliasPath : Path) (command : String × List String) (s : Section) :
    Steady Case.moved cells fun _ => caseFor path aliasPath command s := by
  refine (steady_readLines _).bind fun expected _ => (steady_readAbout _).bind fun about _ => ?_
  refine (steady_mappingAt about "vars").bind fun vars _ => ?_
  refine (steady_mappingAt about "character").bind fun character cells => .inl ⟨{
    path := path, aliasPath := aliasPath, aliasName := command.1
    name := (about.get? (.str "name")).getD .none, args := command.2
    expectedText := String.intercalate "\n" s.expected, expected := expected.getD (.str "" false)
    vars := vars, character := character }, cells, fun answer w => ?_⟩
  simp only [Entries.get?_moved]
  cases about.get? (.str "name") <;> cases expected <;> rfl

theorem steady_caseOf (s : Section) : Steady Case.moved cells fun _ => caseOf files path s := by
  have named : Steady (fun _ command => command) cells fun _ => commandOf path s := by
    unfold commandOf
    split
    · exact steady_fail _ _
    · exact steady_fail _ _
    · exact .pure _
  refine named.bind fun command _ => ?_
  cases aliasFile? files path command.1 with
  | some aliasPath => exact steady_caseFor aliasPath command s
  | none => exact steady_fail _ _

theorem steady_casesOf (fault : Option SectionFault) (ss : List Section) :
    Steady (fun n => List.map (Case.moved n)) cells fun _ => casesOf files path fault ss := by
  induction ss generalizing cells with
  | nil =>
    cases fault with
    | some f => exact steady_fail _ _
    | none => exact .pure []
  | cons s ss ih => exact (steady_caseOf s).bind fun c _ => ih.bind fun cs _ => .pure (c :: cs)

/-- In every world these cases are read, and these collections are put behind the cells that there are. -/
def Gathers (x : Eval (List Case)) (cs : List Case) (cells : Array Collection) : Prop :=
  ∀ (answer : Answering) (w : World), x.exec answer w = .ok (cs.map (·.moved w.heap.size)) (w.holding cells)

/-- There is a world in which cases are read. -/
def Accepted (x : Eval (List Case)) : Prop :=
  ∃ (answer : Answering) (w w' : World) (cs : List Case), x.exec answer w = .ok cs w'

theorem gathers_of_accepted {text : String} (accepted : Accepted (casesIn files path text)) :
    ∃ cs cells, Gathers (casesIn files path text) cs cells := by
  obtain ⟨answer, w, w', cs, read⟩ := accepted
  have steady := @steady_casesOf files path #[] (sectionsOf (lineTexts text)).2 (sectionsOf (lineTexts text)).1
  simp only [Steady, World.holding_nil] at steady
  rcases steady with gathers | fails
  · exact gathers
  · obtain ⟨e, w'', failed⟩ := fails answer w
    cases read.symm.trans failed

/-- **Files of cases can be put together**: of two files that are accepted, the first ending its last line
    and the second starting a case, the whole is accepted, in every world, and has the cases of the first
    and then those of the second, whose collections lie behind those of the first. -/
theorem casesIn_append (files : Files) (path : Path) (a b : String) (ends : a.toList.getLast? = some '\n')
    (starts : ∃ line, (lineTexts b).head? = some line ∧ startsCase line = true)
    (first : Accepted (casesIn files path a)) (second : Accepted (casesIn files path b)) :
    ∃ cs cs' cells cells', Gathers (casesIn files path a) cs cells ∧ Gathers (casesIn files path b) cs' cells' ∧
      Gathers (casesIn files path (a ++ b)) (cs ++ cs'.map (·.moved cells.size))
        (cells ++ cells'.map (·.moved cells.size)) := by
  obtain ⟨line, begins, starts⟩ := starts
  obtain ⟨bs, lines⟩ := List.head?_eq_some_iff.1 begins
  obtain ⟨cs, cells, gathers⟩ := gathers_of_accepted first
  obtain ⟨cs', cells', gathers'⟩ := gathers_of_accepted second
  refine ⟨cs, cs', cells, cells', gathers, gathers', fun answer w => ?_⟩
  have joined := exec_casesOf_append (gathers answer w)
  have whole : casesIn files path (a ++ b) = casesOf files path (sectionsOf (line :: bs)).2
      ((sectionsOf (lineTexts a)).1 ++ (sectionsOf (line :: bs)).1) := by
    rw [casesIn, lineTexts_append ends, lines, sectionsOf_append starts _ _ (joined none []).1]
  have later := gathers' answer (w.holding cells)
  rw [casesIn, lines] at later
  rw [whole, (joined _ _).2, exec_bind_ok later, exec, World.size_heap_holding, World.holding_holding]
  simp only [map_append, map_map, Function.comp_def, Case.moved_moved]

theorem casesIn_append_two : ∃ files path cs cs' cells cells',
    Gathers (casesIn files path "!m\n---\n") cs cells ∧ Gathers (casesIn files path " !m x\n---\n") cs' cells' ∧
      Gathers (casesIn files path ("!m\n---\n" ++ " !m x\n---\n")) (cs ++ cs'.map (·.moved cells.size))
        (cells ++ cells'.map (·.moved cells.size)) := by
  let files : Files := ⟨[(["m"], "")], []⟩
  have there : aliasFile? files ⟨"", ["m"]⟩ "m" = some ⟨"", ["m"]⟩ := by decide +kernel
  have accepted (text command : String) (words : List String)
      (named : splitWords (trim (String.intercalate "\n" [command])) = .ok ("!m" :: words))
      (sections : sectionsOf (lineTexts text) = ([⟨[command], [], []⟩], none)) :
      Accepted (casesIn files ⟨"", ["m"]⟩ text) := by
    have told : commandOf ⟨"", ["m"]⟩ ⟨[command], [], []⟩ = .pure ("m", words) := by
      simp only [commandOf, named]
      rfl
    have found : (caseOf files ⟨"", ["m"]⟩ ⟨[command], [], []⟩).exec (run 0) {} =
        (caseFor ⟨"", ["m"]⟩ ⟨"", ["m"]⟩ ("m", words) ⟨[command], [], []⟩).exec (run 0) {} := by
      simp only [caseOf, told]
      refine (exec_bind_ok rfl _).trans ?_
      simp only [there]
    have read : ∃ c, (caseOf files ⟨"", ["m"]⟩ ⟨[command], [], []⟩).exec (run 0) {} = .ok c {} := ⟨_, found.trans rfl⟩
    obtain ⟨c, read⟩ := read
    refine ⟨run 0, {}, {}, [c], ?_⟩
    rw [casesIn, sections]
    exact (exec_bind_ok read _).trans rfl
  refine ⟨files, ⟨"", ["m"]⟩, casesIn_append _ _ _ _ (by decide) ⟨" !m x", by decide +kernel, by decide +kernel⟩
    (accepted _ "!m" [] (by cbv) ?_) (accepted _ " !m x" ["x"] (by cbv) ?_)⟩
  · rw [@sectionsOf_divided _ "---" ["!m"] [] rfl (by decide +kernel) (by decide +kernel)]
    simp [takeAbout, sectionsOf.eq_def ([] : List String)]
  · rw [@sectionsOf_divided _ "---" [" !m x"] [] rfl (by decide +kernel) (by decide +kernel)]
    simp [takeAbout, sectionsOf.eq_def ([] : List String)]

end AliasTools.Trial
