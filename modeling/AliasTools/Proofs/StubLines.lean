import AliasTools.Editor.Action
import AliasTools.Proofs.Outcomes

/-!
# The lines that quick fixes put in

A stub is put in behind the indentation of a line, with that indentation in front of it once more.
-/

namespace AliasTools.Editor

open Source Script Text List

variable {source : String} {l : List Char} {blocks : List Block} {d : Diagnostic} {a : Action} {w w' : World}

/-- The lines of a text above one of them. -/
def textAbove (source : String) (line : Nat) : List Char := ((linesWithEnds source.toList).take line).flatten

def textBefore (source : String) (p : Position) : List Char :=
  textAbove source p.line ++ ((linesWithEnds source.toList)[p.line]?.getD []).take p.character

def Edit.apply (e : Edit) (source : String) : List Char :=
  textBefore source e.range.start ++ e.text.toList ++ source.toList.drop (textBefore source e.range.stop).length

theorem flatten_linesFrom (acc s : List Char) : (linesFrom acc s).flatten = acc.reverse ++ s := by
  induction s generalizing acc with
  | nil => cases acc <;> simp [linesFrom]
  | cons c s ih => simp only [linesFrom]; split <;> simp [ih]

theorem dropEnd_front (l : List Char) : dropEnd l <+: l := by
  unfold dropEnd
  split
  · next rest same => exact ⟨['\r', '\n'], by simpa using (congrArg reverse same).symm⟩
  · next c rest _ same =>
    split
    · exact ⟨[c], by simpa using (congrArg reverse same).symm⟩
    · exact prefix_rfl
  · exact nil_prefix

theorem apply_insertLine {line : Nat} (there : (lines source.toList)[line]? = some l) (stub : String) :
    let indent := l.takeWhile isBlank
    ∃ rest, source.toList = textAbove source line ++ (indent ++ rest) ∧
      (insertLine line indent.length stub).apply source =
        textAbove source line ++ (indent ++ (replicate indent.length ' ' ++ (stub.toList ++ '\n' :: rest))) := by
  rw [lines, getElem?_map] at there
  obtain ⟨full, found, rfl⟩ := Option.map_eq_some_iff.1 there
  have front := takeWhile_prefix isBlank (l := dropEnd full)
  obtain ⟨rest, cut⟩ := front.trans (dropEnd_front full)
  generalize (dropEnd full).takeWhile isBlank = indent at *
  have before : textBefore source ⟨line, indent.length⟩ = textAbove source line ++ indent := by
    simp [textBefore, found, ← cut]
  obtain ⟨tail, whole⟩ : ∃ tail, source.toList = textAbove source line ++ indent ++ tail := by
    obtain ⟨short, rfl⟩ := List.getElem?_eq_some_iff.1 found
    refine ⟨rest ++ ((linesWithEnds source.toList).drop (line + 1)).flatten, ?_⟩
    rw [append_assoc, ← append_assoc indent, cut, ← flatten_cons, getElem_cons_drop, textAbove,
      ← flatten_append, take_append_drop, linesWithEnds, flatten_linesFrom, reverse_nil, nil_append]
  refine ⟨tail, by rw [whole, append_assoc], ?_⟩
  rw [Edit.apply, insertLine, before, whole, drop_left]
  simp

/-- What is put in for a name that nothing defines, or for a shared variable. -/
def IsStub (stub : String) : Prop :=
  (∃ name : String, stub = s!"{name} = None") ∨ ∃ key, stub = s!"using({asName key}=\"{key}\")"

theorem insertLine_of_fixFor? (offered : fixFor? source blocks d w = .ok (some a) w')
    (stubbed : d.code = some Fixable.undefinedName.code ∨ d.code = some Fixable.missingGvar.code) :
    ∃ stub, IsStub stub ∧ a.edit = insertLine (insertionAt source blocks d.range.start.line).1
      (insertionAt source blocks d.range.start.line).2 stub := by
  unfold fixFor? at offered
  rcases stubbed with code | code <;> simp only [code] at offered <;>
    obtain ⟨text, w₁, -, given⟩ := Run.bind_eq_ok offered <;> cases text <;> cases given
  · exact ⟨_, .inl ⟨_, rfl⟩, rfl⟩
  · exact ⟨_, .inr ⟨_, rfl⟩, rfl⟩

theorem indent_insertionAt (there : (lines source.toList)[(insertionAt source blocks line).1]? = some l) :
    (insertionAt source blocks line).2 = (l.takeWhile isBlank).length := by
  unfold insertionAt at *
  split at there <;> simp_all [indentAt]

/-- **A stub comes behind the indentation of the first line of its block**, with as many blanks once more, and
    the rest of that line goes without: it is a line of its own just where there is no indentation. -/
theorem stub_behind_indentation (offered : fixFor? source blocks d w = .ok (some a) w')
    (stubbed : d.code = some Fixable.undefinedName.code ∨ d.code = some Fixable.missingGvar.code)
    (there : (lines source.toList)[(insertionAt source blocks d.range.start.line).1]? = some l) :
    let above := textAbove source (insertionAt source blocks d.range.start.line).1
    let indent := l.takeWhile isBlank
    ∃ stub rest, IsStub stub ∧ source.toList = above ++ (indent ++ rest) ∧
      a.edit.apply source =
        above ++ (indent ++ (List.replicate indent.length ' ' ++ (stub.toList ++ '\n' :: rest))) ∧
      ((∀ c ∈ stub.toList.head?, isBlank c = false) →
        (a.edit.apply source = above ++ (indent ++ (stub.toList ++ '\n' :: (indent ++ rest))) ↔ indent = [])) := by
  intro above indent
  obtain ⟨stub, is_stub, edit⟩ := insertLine_of_fixFor? offered stubbed
  rw [indent_insertionAt there] at edit
  obtain ⟨rest, whole, result⟩ := apply_insertLine there stub
  rw [← edit] at result
  refine ⟨stub, rest, is_stub, whole, result, fun apart => ?_⟩
  rw [result, List.append_cancel_left_eq, List.append_cancel_left_eq]
  refine ⟨fun same => ?_, fun none => by simp [indent, none]⟩
  cases blanks : indent.length with
  | zero => exact List.length_eq_zero_iff.1 blanks
  | succ n =>
    have first := congrArg List.head? (blanks ▸ same)
    cases head : stub.toList.head? with
    | none => simp [List.replicate_succ, List.head?_eq_none_iff.1 head] at first
    | some c =>
      obtain rfl : ' ' = c := by simpa [List.replicate_succ, head] using first
      exact absurd (apart ' ' head) (by decide)

def indentedCall : String := "<drac2>\n    foo()\n</drac2>"

def fooUndefined : Diagnostic where
  message := "'foo' may be undefined in this scope"
  range := ⟨⟨1, 4⟩, ⟨1, 6⟩⟩
  severity := .warning
  code := some Fixable.undefinedName.code
  data := .obj [("name", .str "foo")]

theorem stub_behind_indentation_of_call :
    ∃ a w, fixFor? indentedCall [⟨"    foo()\n", 1, 0, 2, false⟩] fooUndefined {} = .ok (some a) w ∧
      ∃ stub rest, IsStub stub ∧ a.edit.apply indentedCall =
        "<drac2>\n    ".toList ++ (List.replicate 4 ' ' ++ (stub.toList ++ '\n' :: rest)) := by
  obtain ⟨stub, rest, is_stub, -, result, -⟩ := @stub_behind_indentation indentedCall "    foo()".toList
    [⟨"    foo()\n", 1, 0, 2, false⟩] fooUndefined _ {} _ rfl (.inl rfl) (by decide +kernel)
  exact ⟨_, _, rfl, stub, rest, is_stub, result⟩

/-- The new line has its indentation twice, and the old one has none left. -/
theorem stub_takes_indentation :
    ∃ a w, fixFor? indentedCall [⟨"    foo()\n", 1, 0, 2, false⟩] fooUndefined {} = .ok (some a) w ∧
      a.edit.apply indentedCall = "<drac2>\n        foo = None\nfoo()\n</drac2>".toList :=
  ⟨_, _, rfl, by decide +kernel⟩

end AliasTools.Editor
