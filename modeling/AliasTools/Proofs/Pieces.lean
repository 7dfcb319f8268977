import Mathlib.Data.List.Pairwise
import Mathlib.Tactic.Tauto
import AliasTools.Source.Code

/-!
# Which pieces of code a text has

A piece stands in a text where its marks do (`Placed`).  Pieces overlap, and what is done with a text
rests on a selection of them: pieces one behind the other, such that every other piece begins inside
one that was taken (`Selects`).  There is only one such selection (`Selects.unique`), so that ways to
find pieces are compared by what they select from.
-/

namespace AliasTools.Source

open List Marks Option

variable {s : List Char} {i : Nat} {before : Option Char} {k : PieceKind}

/-! ## 1. Pieces in a text -/

/-- A mark of some length stands at the front of a text, without a line feed in it. -/
def BeginsFlat (s : List Char) (size : Nat) : Prop := size ≤ s.length ∧ countBreaks (s.take size) = 0

theorem beginsFlat_tag (unbroken : '\n' ∉ tag.toList) (tagged : beginsWithTag tag s = true) :
    BeginsFlat s tag.length := by
  have short : ((s.take tag.length).map Char.toLower).length ≤ tag.toList.length := by
    rw [length_map, length_take, String.length_toList]
    omega
  have same := (List.isPrefixOf_iff_prefix.1 tagged).eq_of_length_le short
  refine ⟨?_, countP_eq_zero.2 fun c inside broken => unbroken ?_⟩
  · have := congrArg List.length same
    rw [length_map, length_take, String.length_toList] at this
    omega
  · obtain rfl := eq_of_beq broken
    rw [same]
    exact mem_map_of_mem inside

theorem Marks.pieceAt_cases {m : Marks} (found : m.pieceAt before i s = some p) :
    ∃ o, m.opens before s = some o ∧ p.start = i ∧ i + o ≤ p.stop := by
  unfold pieceAt at found
  split at found
  · cases found
  · rename_i o opened
    obtain ⟨⟨n, e⟩, _, rfl⟩ := map_eq_some_iff.1 found
    exact ⟨o, opened, rfl, by dsimp only; omega⟩

theorem PieceKind.opens_cases (opened : k.marks.opens before s = some o) :
    0 < o ∧ BeginsFlat s o ∧ ∃ c rest, s = c :: rest ∧ match k with
      | .block => c.toLower = '<'
      | .inline => c = '\x7b' ∧ rest.head? = some '\x7b'
      | .roll => c = '\x7b' ∧ rest.head? ≠ some '\x7b' := by
  cases k with
  | block =>
    simp only [marks, blockMarks, ite_none_right_eq_some, some.injEq] at opened
    obtain ⟨tagged, rfl⟩ := opened
    cases s with
    | nil => simp [beginsWithTag] at tagged
    | cons c rest =>
      have := (List.isPrefixOf_iff_prefix.1 tagged).getElem (i := 0) (by decide)
      exact ⟨by decide, beginsFlat_tag (by decide) tagged, c, rest, rfl, this.symm⟩
  | inline =>
    simp only [marks, inlineMarks, ite_none_right_eq_some, some.injEq] at opened
    obtain ⟨doubled, rfl⟩ := opened
    rcases s with _ | ⟨c, _ | ⟨d, rest⟩⟩ <;> simp at doubled
    obtain ⟨rfl, rfl⟩ := doubled
    exact ⟨by decide, ⟨by simp, rfl⟩, _, _, rfl, rfl, rfl⟩
  | roll =>
    simp only [marks, rollMarks] at opened
    split at opened
    · rename_i rest
      simp only [ite_none_left_eq_some, some.injEq] at opened
      obtain ⟨single, rfl⟩ := opened
      exact ⟨by decide, ⟨by simp, rfl⟩, _, rest, rfl, rfl, by simp_all⟩
    · cases opened

theorem PieceKind.eq_of_opens (opened : k.marks.opens before s = some o)
    (opened' : k'.marks.opens before s = some o') : k = k' := by
  obtain ⟨_, _, c, rest, rfl, first⟩ := opens_cases opened
  obtain ⟨_, _, _, _, same, second⟩ := opens_cases opened'
  obtain ⟨rfl, rfl⟩ := cons_eq_cons.1 same
  cases k <;> cases k' <;> simp_all

theorem pieceAt_eq_some_iff :
    pieceAt kinds before i s = some x ↔ x.1 ∈ kinds ∧ x.1.marks.pieceAt before i s = some x.2 := by
  have sound : ∀ {x}, pieceAt kinds before i s = some x → x.1 ∈ kinds ∧ x.1.marks.pieceAt before i s = some x.2 := by
    intro x found
    obtain ⟨k, listed, mapped⟩ := exists_of_findSome?_eq_some found
    obtain ⟨p, alone, rfl⟩ := map_eq_some_iff.1 mapped
    exact ⟨listed, alone⟩
  refine ⟨sound, fun ⟨listed, found⟩ => ?_⟩
  have some_found : (pieceAt kinds before i s).isSome := by
    rw [pieceAt, findSome?_isSome_iff]
    exact ⟨x.1, listed, by simp [found]⟩
  obtain ⟨y, found'⟩ := isSome_iff_exists.1 some_found
  -- marks of another kind before it in the list would open at the same place
  obtain ⟨_, opened, _⟩ := pieceAt_cases found
  obtain ⟨_, opened', _⟩ := pieceAt_cases (sound found').2
  have kind := PieceKind.eq_of_opens opened opened'
  rw [kind] at found
  rw [found', Prod.ext kind (some.inj (found.symm.trans (sound found').2))]

def Placed (kinds : List PieceKind) (text : List Char) (x : PieceKind × Piece) : Prop :=
  ∃ before rest, before ++ rest = text ∧ pieceAt kinds before.getLast? before.length rest = some x

variable {kinds : List PieceKind} {text : List Char} {x y : PieceKind × Piece}

theorem placed_iff : Placed kinds text x ↔ x.1 ∈ kinds ∧ Placed [x.1] text x := by
  simp only [Placed, pieceAt_eq_some_iff, mem_singleton, true_and]
  exact ⟨fun ⟨b, r, e, listed, found⟩ => ⟨listed, b, r, e, found⟩,
    fun ⟨listed, b, r, e, found⟩ => ⟨b, r, e, listed, found⟩⟩

theorem start_pieceAt (found : pieceAt kinds before i s = some x) : x.2.start = i ∧ i < x.2.stop := by
  obtain ⟨o, opened, start, stop⟩ := pieceAt_cases (pieceAt_eq_some_iff.1 found).2
  have := (PieceKind.opens_cases opened).1
  exact ⟨start, by omega⟩

theorem Placed.start_lt_stop (placed : Placed kinds text x) : x.2.start < x.2.stop := by
  obtain ⟨_, _, _, found⟩ := placed
  have := start_pieceAt found
  omega

theorem Placed.eq_of_start (first : Placed kinds text x) (second : Placed kinds text y)
    (same : x.2.start = y.2.start) : x = y := by
  obtain ⟨b, r, rfl, found⟩ := first
  obtain ⟨b', r', joined, found'⟩ := second
  rw [(start_pieceAt found).1, (start_pieceAt found').1] at same
  obtain ⟨rfl, rfl⟩ := append_inj joined same.symm
  exact some.inj (found.symm.trans found')

/-! ## 2. Selections -/

/-- From the pieces with a property that begin at a place or behind it, some are taken: they stand one
    behind the other, and every piece begins inside one of them. -/
structure Selects (all : PieceKind × Piece → Prop) (place : Nat) (taken : List (PieceKind × Piece)) :
    Prop where
  among : ∀ x ∈ taken, all x ∧ place ≤ x.2.start
  apart : taken.Pairwise fun x y => x.2.stop ≤ y.2.start
  covers : ∀ x, all x → place ≤ x.2.start → ∃ y ∈ taken, y.2.start ≤ x.2.start ∧ x.2.start < y.2.stop

namespace Selects

variable {all : PieceKind × Piece → Prop} {place : Nat} {taken taken' : List (PieceKind × Piece)}

theorem congr {all' : PieceKind × Piece → Prop} {place' : Nat} (h : Selects all place taken)
    (same : ∀ x, all x ∧ place ≤ x.2.start ↔ all' x ∧ place' ≤ x.2.start) : Selects all' place' taken where
  among x listed := (same x).1 (h.among x listed)
  apart := h.apart
  covers x held behind := h.covers x ((same x).2 ⟨held, behind⟩).1 ((same x).2 ⟨held, behind⟩).2

theorem cons (held : all x) (behind : place ≤ x.2.start) (sized : x.2.start < x.2.stop)
    (first : ∀ y, all y → place ≤ y.2.start → x.2.start ≤ y.2.start)
    (rest : Selects all x.2.stop taken) : Selects all place (x :: taken) where
  among y listed := by
    cases listed with
    | head => exact ⟨held, behind⟩
    | tail _ listed =>
      have := rest.among y listed
      exact ⟨this.1, by omega⟩
  apart := .cons (fun y listed => (rest.among y listed).2) rest.apart
  covers y held' behind' := by
    by_cases inside : y.2.start < x.2.stop
    · exact ⟨x, .head _, first y held' behind', inside⟩
    · obtain ⟨z, listed, covered⟩ := rest.covers y held' (by omega)
      exact ⟨z, .tail _ listed, covered⟩

theorem tail (h : Selects all place (x :: taken)) (sized : ∀ x, all x → x.2.start < x.2.stop) :
    Selects all x.2.stop taken where
  among y listed := ⟨(h.among y (.tail _ listed)).1, rel_of_pairwise_cons h.apart listed⟩
  apart := h.apart.tail
  covers y held behind := by
    have := sized x (h.among x (.head _)).1
    have := (h.among x (.head _)).2
    obtain ⟨z, listed, low, high⟩ := h.covers y held (by omega)
    cases listed with
    | head => omega
    | tail _ listed => exact ⟨z, listed, low, high⟩

theorem start_head_le (h : Selects all place (x :: taken)) (sized : ∀ x, all x → x.2.start < x.2.stop)
    (held : all y) (behind : place ≤ y.2.start) : x.2.start ≤ y.2.start := by
  obtain ⟨z, listed, low, _⟩ := h.covers y held behind
  cases listed with
  | head => exact low
  | tail _ listed =>
    have := rel_of_pairwise_cons h.apart listed
    have := sized x (h.among x (.head _)).1
    omega

theorem unique (sized : ∀ x, all x → x.2.start < x.2.stop)
    (told : ∀ x y, all x → all y → x.2.start = y.2.start → x = y) (h : Selects all place taken)
    (h' : Selects all place taken') : taken = taken' := by
  induction taken generalizing place taken' with
  | nil =>
    cases taken' with
    | nil => rfl
    | cons y _ =>
      obtain ⟨held, behind⟩ := h'.among y (.head _)
      obtain ⟨_, listed, _⟩ := h.covers y held behind
      cases listed
  | cons x rest ih =>
    obtain ⟨held, behind⟩ := h.among x (.head _)
    cases taken' with
    | nil =>
      obtain ⟨_, listed, _⟩ := h'.covers x held behind
      cases listed
    | cons y rest' =>
      obtain ⟨held', behind'⟩ := h'.among y (.head _)
      -- the first piece of either selection begins first of all
      have := h.start_head_le sized held' behind'
      have := h'.start_head_le sized held behind
      obtain rfl := told x y held held' (by omega)
      rw [ih (h.tail sized) (h'.tail sized)]

theorem disjoint (h : Selects all place taken) (first : x ∈ taken) (second : y ∈ taken) :
    x = y ∨ x.2.stop ≤ y.2.start ∨ y.2.stop ≤ x.2.start :=
  List.Pairwise.forall_of_forall_of_flip (R := fun x y : PieceKind × Piece =>
      x = y ∨ x.2.stop ≤ y.2.start ∨ y.2.stop ≤ x.2.start)
    (fun _ _ => .inl rfl) (h.apart.imp fun low => .inr (.inl low))
    (h.apart.imp fun low => .inr (.inr low)) first second

end Selects

/-! ## 3. Reading from left to right -/

theorem selects_scanFrom (kinds : List PieceKind) (before rest : List Char) (skip : Nat) :
    Selects (Placed kinds (before ++ rest)) (before.length + skip)
      (scanFrom kinds before.getLast? before.length skip rest) := by
  induction rest generalizing before skip with
  | nil =>
    refine ⟨by simp [scanFrom], .nil, ?_⟩
    rintro x ⟨b, r, joined, found⟩ behind
    have length := congrArg List.length joined
    simp only [length_append, length_nil] at length
    -- no mark opens at the end of the text
    obtain ⟨_, opened, _⟩ := pieceAt_cases (pieceAt_eq_some_iff.1 found).2
    obtain ⟨_, _, c, r', rfl, _⟩ := PieceKind.opens_cases opened
    simp only [length_cons] at length
    omega
  | cons c rest ih =>
    have step := fun skip => ih (before ++ [c]) skip
    simp only [append_assoc, getLast?_append, length_append, length_singleton] at step
    have here : ∀ x, Placed kinds (before ++ c :: rest) x → x.2.start = before.length →
        pieceAt kinds before.getLast? before.length (c :: rest) = some x := by
      rintro x ⟨b, r, joined, found⟩ start
      rw [(start_pieceAt found).1] at start
      obtain ⟨rfl, rfl⟩ := append_inj joined start
      exact found
    cases skip with
    | succ n =>
      have shifted : before.length + (n + 1) = before.length + 1 + n := by omega
      rw [shifted]
      exact step n
    | zero =>
      rw [scanFrom]
      split
      · rename_i none_here
        refine (step 0).congr fun x => and_congr_right fun placed => ?_
        have : x.2.start ≠ before.length := fun same => by cases none_here.symm.trans (here x placed same)
        omega
      · rename_i y found
        obtain ⟨start, stop⟩ := start_pieceAt found
        have behind := step (y.2.stop - before.length - 1)
        rw [show before.length + 1 + (y.2.stop - before.length - 1) = y.2.stop by omega] at behind
        exact .cons ⟨_, _, rfl, found⟩ (by omega) (by omega) (fun _ _ _ => by omega) behind

theorem selects_scan (kinds : List PieceKind) (text : List Char) : Selects (Placed kinds text) 0 (scan kinds text) :=
  selects_scanFrom kinds [] text 0

theorem kind_of_mem_scan (listed : x ∈ scan [k] text) : x.1 = k ∧ Placed [x.1] text x := by
  have placed := ((selects_scan _ _).among x listed).1
  exact ⟨mem_singleton.1 (placed_iff.1 placed).1, (placed_iff.1 placed).2⟩

/-! ## 4. Each kind by itself -/

theorem selects_apartFrom (place : Nat) (sized : ∀ x ∈ found, x.2.start < x.2.stop)
    (sorted : found.Pairwise fun x y => x.2.start ≤ y.2.start) : Selects (· ∈ found) place (apartFrom place found) := by
  induction found generalizing place with
  | nil => exact ⟨by simp [apartFrom], .nil, by simp⟩
  | cons x rest ih =>
    have ih := fun place => ih place (fun y listed => sized y (.tail _ listed)) sorted.tail
    rw [apartFrom]
    split
    · refine (ih place).congr fun y => ?_
      simp only [mem_cons]
      refine ⟨fun ⟨listed, behind⟩ => ⟨.inr listed, behind⟩, fun ⟨listed, behind⟩ => ⟨?_, behind⟩⟩
      rcases listed with rfl | listed
      · omega
      · exact listed
    · have := sized x (.head _)
      have behind : Selects (· ∈ x :: rest) x.2.stop (apartFrom x.2.stop rest) := (ih x.2.stop).congr fun y => by grind
      refine .cons (.head _) (by omega) this (fun y listed _ => ?_) behind
      cases listed with
      | head => omega
      | tail _ listed => exact rel_of_pairwise_cons sorted listed

theorem mem_foundAlone : x ∈ foundAlone kinds text ↔ x.1 ∈ kinds ∧ x ∈ scan [x.1] text := by
  rw [foundAlone, mem_flatMap]
  constructor
  · rintro ⟨k, listed, found⟩
    obtain ⟨rfl, _⟩ := kind_of_mem_scan found
    exact ⟨listed, found⟩
  · exact fun ⟨listed, found⟩ => ⟨x.1, listed, found⟩

theorem placed_of_found (found : x ∈ foundAlone kinds text) : Placed kinds text x :=
  placed_iff.2 ⟨(mem_foundAlone.1 found).1, (kind_of_mem_scan (mem_foundAlone.1 found).2).2⟩

theorem Selects.unique_found (h : Selects (· ∈ foundAlone kinds text) place taken)
    (h' : Selects (· ∈ foundAlone kinds text) place taken') : taken = taken' :=
  h.unique (fun _ found => (placed_of_found found).start_lt_stop)
    (fun _ _ found found' => (placed_of_found found).eq_of_start (placed_of_found found')) h'

theorem selects_piecesOf (kinds : List PieceKind) (text : List Char) :
    Selects (· ∈ foundAlone kinds text) 0 (piecesOf kinds text) := by
  have sorted : List.Pairwise _ ((foundAlone kinds text).mergeSort fun x y => decide (x.2.start ≤ y.2.start)) :=
    pairwise_mergeSort (by simp; omega) (by simp; omega) _
  have selected := selects_apartFrom 0 (fun x listed => (placed_of_found (mem_mergeSort.1 listed)).start_lt_stop)
    (sorted.imp of_decide_eq_true)
  exact selected.congr fun x => by rw [mem_mergeSort]

theorem piecesOf_of_sorted (sorted : (foundAlone kinds text).Pairwise fun x y => x.2.start ≤ y.2.start) :
    piecesOf kinds text = apartFrom 0 (foundAlone kinds text) := by
  rw [piecesOf, mergeSort_of_pairwise (sorted.imp decide_eq_true)]

/-! ## 5. What the two ways have in common -/

/-- Both ways find the same pieces exactly when none that is found from left to right begins inside one
    that is found when its kind is read alone. -/
theorem piecesOf_eq_scan_iff (kinds : List PieceKind) (text : List Char) : piecesOf kinds text = scan kinds text ↔
      ∀ x ∈ scan kinds text, ∀ y ∈ scan [x.1] text, ¬(y.2.start < x.2.start ∧ x.2.start < y.2.stop) := by
  have reading := selects_scan kinds text
  constructor
  · intro same x taken y found
    rw [← same] at taken
    have found' := (mem_foundAlone.1 ((selects_piecesOf kinds text).among x taken).1).2
    have := ((selects_scan [x.1] text).among x found').1.start_lt_stop
    rcases (selects_scan [x.1] text).disjoint found found' with rfl | low | high <;> omega
  · intro free
    -- a piece that is found from left to right is found alone: nothing else covers its beginning
    have alone : ∀ x ∈ scan kinds text, x ∈ foundAlone kinds text := by
      intro x taken
      obtain ⟨listed, placed⟩ := placed_iff.1 (reading.among x taken).1
      obtain ⟨y, found, low, high⟩ := (selects_scan [x.1] text).covers x placed (Nat.zero_le _)
      have := free x taken y found
      obtain rfl := ((selects_scan [x.1] text).among y found).1.eq_of_start placed (by omega)
      exact mem_foundAlone.2 ⟨listed, found⟩
    exact (selects_piecesOf kinds text).unique_found ⟨fun x taken => ⟨alone x taken, Nat.zero_le _⟩,
      reading.apart, fun x found => reading.covers x (placed_of_found found)⟩

/-- Leaving pieces of a kind out at the end comes to the same as never looking for them exactly when
    none that was taken hides the beginning of a piece of another kind. -/
theorem piecesOf_without_iff (kinds : List PieceKind) (k : PieceKind) (text : List Char) :
    (piecesOf kinds text).filter (·.1 ≠ k) = piecesOf (kinds.filter (· ≠ k)) text ↔
      ∀ r ∈ piecesOf kinds text, r.1 = k → ∀ x ∈ foundAlone (kinds.filter (· ≠ k)) text,
        ¬(r.2.start < x.2.start ∧ x.2.start < r.2.stop) := by
  have all := selects_piecesOf kinds text
  have others := selects_piecesOf (kinds.filter (· ≠ k)) text
  have other_iff : ∀ x, x ∈ foundAlone (kinds.filter (· ≠ k)) text ↔ x ∈ foundAlone kinds text ∧ x.1 ≠ k := by
    simp only [mem_foundAlone, mem_filter, decide_eq_true_eq]
    tauto
  constructor
  · intro same r taken hides x found covered
    obtain ⟨y, taken', low, high⟩ := others.covers x found (Nat.zero_le _)
    rw [← same, mem_filter] at taken'
    rcases all.disjoint taken taken'.1 with rfl | low | high
    · exact of_decide_eq_true taken'.2 hides
    · omega
    · omega
  · intro free
    refine Selects.unique_found ⟨fun x taken => ?_, all.apart.filter _, fun x found _ => ?_⟩ others
    · obtain ⟨taken, other⟩ := mem_filter.1 taken
      exact ⟨(other_iff x).2 ⟨(all.among x taken).1, of_decide_eq_true other⟩, Nat.zero_le _⟩
    · obtain ⟨found', other⟩ := (other_iff x).1 found
      obtain ⟨y, taken, low, high⟩ := all.covers x found' (Nat.zero_le _)
      refine ⟨y, mem_filter.2 ⟨taken, decide_eq_true fun hides => ?_⟩, low, high⟩
      have := free y taken hides x found
      have same := (placed_of_found (all.among y taken).1).eq_of_start (placed_of_found found') (by omega)
      exact other (same ▸ hides)

end AliasTools.Source
