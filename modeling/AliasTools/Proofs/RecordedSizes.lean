import AliasTools.Proofs.GuardedGrowth

/-!
# Recorded sizes

A guarded container is refused its growth by its recorded size, and not by the number of its elements.
Hence the limit means something only as long as the record is no less than that number.  Some alterations
see to that themselves; the others need room in the record, and nothing makes sure that it is there.
-/

namespace AliasTools.Script

open Cell Entries Option

variable {g : Bool} {c c' : Cell} {k : Int} {n : Option Int} {w' w : World} {h h' : List Event}

/-! ## 1. Containers and their records -/

namespace Cell

def Fits (c : Cell) : Prop := ∀ n ∈ c.recorded?, (c.count : Int) ≤ n

def HasRoom (c : Cell) (k : Int) : Prop := ∀ n ∈ c.recorded?, (c.count : Int) + k ≤ n

instance (c : Cell) : Decidable c.Fits := inferInstanceAs (Decidable (∀ n ∈ c.recorded?, _))

theorem fits_of_isFresh (fresh : c.isFresh = true) : c.Fits := by
  intro n recorded
  cases c with
  | list g xs m | dict g es m | set g ms m =>
    rw [isFresh, isNone_iff_eq_none] at fresh
    rw [fresh] at recorded
    exact absurd recorded (not_mem_none n)
  | _ => exact absurd recorded (not_mem_none n)

theorem Renewed.fits (renewed : c.Renewed c') : c'.Fits := by cases renewed <;> exact nofun

end Cell

/-! ## 2. Sizes after an alteration -/

theorem Entries.size_put (es : Entries) (k : Key) (name v : Value) :
    (put es k name v).size = es.size + if (find es k).isSome then 0 else 1 := by
  unfold put
  cases find es k with
  | some i => exact Array.size_modify
  | none => exact Array.size_push _

theorem Members.size_put_le (ms : Members) (k : Key) (v : Value) : (Members.put ms k v).size ≤ ms.size + 1 := by
  unfold Members.put
  split
  · exact Nat.le_succ ms.size
  · exact Nat.le_of_eq (Array.size_push _)

theorem Stretch.size_replace_of_gaps {α : Type} (s : Stretch) (gaps : s.step ≠ 1) (xs new : Array α) :
    (s.replace xs new).size = xs.size := by
  have filled (ps : List (Nat × α)) (ys : Array α) :
      (ps.foldl (fun ys p => ys.setIfInBounds p.1 p.2) ys).size = ys.size := by
    induction ps generalizing ys with
    | nil => rfl
    | cons p ps ih => exact (ih _).trans Array.size_setIfInBounds
  rw [Stretch.replace, if_neg (by simpa using gaps)]
  exact filled _ xs

def Stretch.within (s : Stretch) (size : Nat) : Nat := min (s.start.toNat + s.count) size - min s.start.toNat size

theorem Stretch.size_replace {α : Type} (s : Stretch) (noGaps : s.step = 1) (xs new : Array α) :
    (s.replace xs new).size + s.within xs.size = xs.size + new.size := by
  rw [Stretch.replace, if_pos (by simpa using noGaps), Stretch.within]
  simp only [Array.size_append, Array.size_extract]
  omega

/-! ## 3. Alterations that keep a record above the elements -/

namespace Alteration

/-- Does an alteration leave a container that fits its record as one that does?  What is not named here
    always does: putting an item at the end, adding a member, setting an item, and emptying. -/
def Covers : Alteration → Cell → Prop
  | .measure n, c => c.isGuarded = true → (c.count : Int) ≤ n
  | .charge k, c => c.HasRoom (-k)
  | .extend new k, c@(.list _ _ _) => c.HasRoom (new.size - k)
  | .insert i _, c@(.list _ xs _) => i ≤ xs.size → c.HasRoom 1
  | .takeAt i, c@(.list _ xs _) => xs.size ≤ i → c.HasRoom 1
  | .splice s new, c@(.list _ xs _) => s.step = 1 → c.HasRoom (new.size - s.within xs.size)
  | .arrange new, c@(.list _ xs _) => c.HasRoom (new.size - xs.size)
  | .setEntry k _ _, c@(.dict _ es _) => find es k = none → c.HasRoom 1
  | .merge new k, c@(.dict _ es _) => c.HasRoom (new.size - es.size - k)
  | .dropEntry key k, c@(.dict _ es _) => c.HasRoom (k - (es.size - (erase es key).size))
  | .unite new k, c@(.set _ ms _) => c.HasRoom (new.size - ms.size - k)
  | .dropMember key k, c@(.set _ ms _) => c.HasRoom (k - (ms.size - (Members.erase ms key).size))
  | .exchange new (some n), .set true _ _ => (new.size : Int) ≤ n
  | .exchange new _, c@(.set _ ms _) => c.HasRoom (new.size - ms.size)
  | _, _ => True

theorem fits_iff_of_moved (moved : c'.recorded? = c.recorded?.map (· + k))
    (grown : (c'.count : Int) = c.count + m + k) : c'.Fits ↔ c.HasRoom m := by
  unfold Cell.Fits Cell.HasRoom
  rw [moved]
  cases c.recorded? with
  | none => simp
  | some n =>
    simp only [map_some, mem_def, some.injEq, forall_eq']
    omega

theorem fits_iff_of_same (same : c'.recorded? = c.recorded?)
    (grown : (c'.count : Int) = c.count + m) : c'.Fits ↔ c.HasRoom m :=
  fits_iff_of_moved (k := 0) (by simp [same]) (by omega)

theorem hasRoom_of_nonpos (fits : c.Fits) (small : k ≤ 0) : c.HasRoom k := by
  intro n recorded
  have fit := fits n recorded
  omega

theorem fits_of_moved (fits : c.Fits) (moved : c'.recorded? = c.recorded?.map (· + k))
    (grown : (c'.count : Int) ≤ c.count + k) : c'.Fits :=
  (fits_iff_of_moved (m := c'.count - c.count - k) moved (by omega)).mpr (hasRoom_of_nonpos fits (by omega))

theorem fits_of_same (fits : c.Fits) (same : c'.recorded? = c.recorded?) (grown : c'.count ≤ c.count) : c'.Fits :=
  fits_of_moved (k := 0) fits (by simp [same]) (by omega)

theorem fits_measure_iff (m : Int) (fits : c.Fits) : ((measure m).apply c).Fits ↔ (measure m).Covers c := by
  cases c with
  | list g xs n | dict g es n | set g ms n =>
    cases g with
    | false => exact iff_of_true fits fun guarded => by cases guarded
    | true => simp [apply, remeasured, Covers, Cell.Fits, recorded?, isGuarded, count]
  | _ => exact iff_of_true (fun _ record => by cases record) fun guarded => by cases guarded

theorem fits_clear (fits : c.Fits) : (clear.apply c).Fits := by
  cases c with
  | list g | set g =>
    cases g with
    | false => exact fits_of_same fits rfl (Nat.zero_le _)
    | true =>
      rintro m ⟨⟩
      exact Int.le_refl 0
  | dict => exact fits_of_same fits rfl (Nat.zero_le _)
  | _ => exact fits

variable (what : Alteration)

theorem fits_list_iff (fits : (list g xs n).Fits) : (what.apply (.list g xs n)).Fits ↔ what.Covers (.list g xs n) := by
  cases what with
  | measure m => exact fits_measure_iff m fits
  | charge k => exact fits_iff_of_moved rfl (by simp only [apply, count]; omega)
  | clear => exact iff_of_true (fits_clear fits) trivial
  | append v => exact iff_of_true (fits_of_moved fits rfl (by simp [apply, count])) trivial
  | extend new k => exact fits_iff_of_moved rfl (by simp [apply, count]; omega)
  | insert i v =>
    -- beyond the end nothing is inserted, and nothing is asked for
    by_cases inside : i ≤ xs.size
    · have grown : (Array.insertIdxIfInBounds xs i v).size = xs.size + 1 := by
        simp [Array.insertIdxIfInBounds, inside]
      rw [Covers, imp_iff_right inside]
      exact fits_iff_of_same rfl (by simp only [apply, count]; omega)
    · have same : Array.insertIdxIfInBounds xs i v = xs := by
        simp [Array.insertIdxIfInBounds, inside]
      rw [apply, same]
      exact iff_of_true fits fun h => absurd h inside
  | takeAt i =>
    by_cases outside : xs.size ≤ i
    · have same : xs.eraseIdxIfInBounds i = xs := by
        simp [Array.eraseIdxIfInBounds, Nat.not_lt.mpr outside]
      rw [Covers, imp_iff_right outside, apply, same]
      exact fits_iff_of_moved rfl (by simp only [count]; omega)
    · have shrunk : (xs.eraseIdxIfInBounds i).size = xs.size - 1 := by
        simp [Array.eraseIdxIfInBounds, Nat.not_le.mp outside]
      refine iff_of_true (fits_of_moved fits rfl ?_) fun h => absurd h outside
      simp only [apply, count]
      omega
  | setAt i v => exact iff_of_true (fits_of_same fits rfl (by simp [apply, count])) trivial
  | splice s new =>
    by_cases noGaps : s.step = 1
    · have size := s.size_replace noGaps xs new
      rw [Covers, imp_iff_right noGaps]
      exact fits_iff_of_same rfl (by simp only [apply, count]; omega)
    · have size := s.size_replace_of_gaps noGaps xs new
      refine iff_of_true (fits_of_same fits rfl ?_) fun h => absurd h noGaps
      exact Nat.le_of_eq size
  | arrange new => exact fits_iff_of_same rfl (by simp only [apply, count]; omega)
  | exchange new n => cases n <;> exact iff_of_true fits trivial
  | _ => exact iff_of_true fits trivial

theorem fits_dict_iff (fits : (dict g es n).Fits) : (what.apply (.dict g es n)).Fits ↔ what.Covers (.dict g es n) := by
  cases what with
  | measure m => exact fits_measure_iff m fits
  | charge k | merge new k | dropEntry key k => exact fits_iff_of_moved rfl (by simp only [apply, count]; omega)
  | clear => exact iff_of_true (fits_clear fits) trivial
  | setEntry k name v =>
    have size := size_put es k name v
    cases found : find es k with
    | none =>
      rw [found] at size
      rw [Covers, imp_iff_right found]
      exact fits_iff_of_same rfl (by simp only [apply, count, size]; rfl)
    | some i =>
      rw [found] at size
      refine iff_of_true (fits_of_same fits rfl (Nat.le_of_eq size)) ?_
      simp [Covers, found]
  | dropLastEntry => exact iff_of_true (fits_of_same fits rfl (by simp [apply, count])) trivial
  | exchange new n => cases n <;> exact iff_of_true fits trivial
  | _ => exact iff_of_true fits trivial

theorem fits_set_iff (fits : (set g ms n).Fits) : (what.apply (.set g ms n)).Fits ↔ what.Covers (.set g ms n) := by
  cases what with
  | measure m => exact fits_measure_iff m fits
  | charge k | unite new k | dropMember key k => exact fits_iff_of_moved rfl (by simp only [apply, count]; omega)
  | clear => exact iff_of_true (fits_clear fits) trivial
  | addMember k v =>
    have size := Members.size_put_le ms k v
    refine iff_of_true (fits_of_moved fits rfl ?_) trivial
    simp only [apply, count]
    omega
  | exchange new m =>
    cases m with
    | none => exact fits_iff_of_same rfl (by simp only [apply, count]; omega)
    | some m =>
      cases g with
      | false => exact fits_iff_of_same rfl (by simp only [apply, count]; omega)
      | true => simp [apply, remeasured, Covers, Cell.Fits, recorded?, count]
  | _ => exact iff_of_true fits trivial

theorem fits_apply_iff (fits : c.Fits) : (what.apply c).Fits ↔ what.Covers c := by
  cases c with
  | list g xs n => exact fits_list_iff what fits
  | dict g es n => exact fits_dict_iff what fits
  | set g ms n => exact fits_set_iff what fits
  | _ =>
    -- What is no container is none afterwards, and has no record.
    cases what with
    | measure m => exact fits_measure_iff m fits
    | charge k => exact iff_of_true nofun nofun
    | exchange new n => cases n <;> exact iff_of_true nofun trivial
    | _ => exact iff_of_true nofun trivial

end Alteration

/-! ## 4. Runs -/

def World.Fits (w : World) : Prop := ∀ (a : Addr) (c : Cell), w.heap[a]? = some c → c.Fits

theorem World.fits_iff_forall_mem (w : World) : w.Fits ↔ ∀ c ∈ w.heap, c.Fits := by
  constructor
  · intro fits c member
    obtain ⟨a, found⟩ := Array.getElem?_of_mem member
    exact fits a c found
  · intro all a c found
    exact all c (Array.mem_of_getElem? found)

instance (w : World) : Decidable w.Fits := decidable_of_iff' _ w.fits_iff_forall_mem

def Careful (h : List Event) : Prop := ∀ what c, Event.altered what c ∈ h → what.Covers c

def Event.SeesFit : Event → Prop
  | .altered _ c => c.Fits
  | .read _ w => w.Fits
  | _ => True

theorem Careful.left (careful : Careful (h ++ h')) : Careful h :=
  fun what c member => careful what c (List.mem_append_left h' member)

theorem Careful.right (careful : Careful (h ++ h')) : Careful h' :=
  fun what c member => careful what c (List.mem_append_right h member)

/-- What a run does to the records of a world that fits: careful alterations leave one that fits, and
    as long as they are careful, whatever is altered or read does. -/
structure Keeps (h : List Event) (w' : World) : Prop where
  fits : Careful h → w'.Fits
  sees : ∀ p e q, h = p ++ e :: q → Careful p → e.SeesFit

theorem World.Fits.put (fits : w.Fits) (a : Addr) (cell : c.Fits) : (w.putCell a c).Fits := by
  intro b d found
  rw [World.putCell, Array.getElem?_setIfInBounds] at found
  split at found
  · split at found
    · exact some.inj found ▸ cell
    · cases found
  · exact fits b d found

theorem World.Fits.of_heap (fits : w.Fits) (same : w'.heap = w.heap) : w'.Fits := by
  intro a c found
  rw [same] at found
  exact fits a c found

theorem World.Fits.push (fits : w.Fits) (cell : c.Fits) : { w with heap := w.heap.push c : World }.Fits := by
  intro b d found
  rw [Array.getElem?_push] at found
  split at found
  · exact some.inj found ▸ cell
  · exact fits b d found

theorem Keeps.of_fits (fits : w'.Fits) (sees : ∀ e ∈ h, e.SeesFit) : Keeps h w' := by
  refine ⟨fun _ => fits, ?_⟩
  rintro p e q rfl -
  exact sees e (List.mem_append_right p List.mem_cons_self)

theorem Keeps.nothing (fits : w'.Fits) : Keeps [] w' := .of_fits fits fun _ member => absurd member List.not_mem_nil

theorem Keeps.one (fits : w'.Fits) (sees : e.SeesFit) : Keeps [e] w' := by
  refine .of_fits fits fun x member => ?_
  rwa [List.mem_singleton.mp member]

theorem keeps_alter (fits : w.Fits) (what : Alteration) (found : w.heap[a]? = some c) :
    Keeps [.altered what c] (w.putCell a (what.apply c)) := by
  have before : c.Fits := fits a c found
  refine ⟨fun careful => fits.put a ?_, fun p e q same _ => ?_⟩
  · exact (what.fits_apply_iff before).mpr (careful what c List.mem_cons_self)
  · obtain ⟨-, rfl⟩ := event_singleton same
    exact before

theorem Keeps.append (first : Keeps h w') (second : w'.Fits → Keeps h' w'') : Keeps (h ++ h') w'' := by
  refine ⟨fun careful => (second (first.fits careful.left)).fits careful.right, ?_⟩
  intro p e q same careful
  rcases event_append_cases same with ⟨r, inFirst⟩ | ⟨r, rfl, inSecond⟩
  · exact first.sees p e r inFirst careful
  · exact (second (first.fits careful.left)).sees r e q inSecond careful.right

theorem Keeps.within (fits : w.Fits) (inner : Keeps h w') (same : w''.heap = w'.heap)
    (r : Region) : Keeps (.entered r :: h ++ [.left r]) w'' := by
  have entering : Keeps [.entered r] w := .one fits trivial
  exact (entering.append fun _ => inner).append fun after => .one (after.of_heap same) trivial

/-- **What a run does to the records of a world that fits them.** -/
theorem Moves.keeps (moves : Moves w h w') (fits : w.Fits) : Keeps h w' := by
  induction moves with
  | done w => exact .nothing fits
  | remark w e remark => cases remark <;> exact .one fits trivial
  | alter w a what c found => exact keeps_alter fits what found
  | put w a c c' found renewed => exact .nothing (fits.put a renewed.fits)
  | tabled w a what t n found => exact .one (fits.put a nofun) trivial
  | make w c fresh here => exact .one (fits.push (fits_of_isFresh fresh)) trivial
  | go w a g g' found goes => exact .nothing (fits.put a nofun)
  | began w a g | ended w a g => exact .one ((fits.put a (c := .generator _) nofun).of_heap rfl) trivial
  | read w name => exact .one fits fits
  | bindLoop | assigned | elsewhere | kept | noNode | noRound | noModule => exact .nothing (fits.of_heap rfl)
  | bound | node | round | noBody | loaded => exact .one (fits.of_heap rfl) trivial
  | append _ _ first second => exact (first fits).append second
  | within enters _ inner => cases enters <;> exact .within fits (inner (fits.of_heap rfl)) (by rfl) _

/-! ## 5. Executions -/

/-- **Records cover elements just as far as alterations do.**  Every container that is altered is covered as
    long as the alterations before covered what they did, and after the next one just when that one does,
    too.  As long as its record covers it, a container that grew under the limit has no more elements than
    the limit allows. -/
theorem records_cover_elements (text : String) (w : World) (fits : w.Fits) :
    (∀ p what c q, executeHistory text w = p ++ .altered what c :: q → Careful p →
      c.Fits ∧ ((what.apply c).Fits ↔ what.Covers c)) ∧
    (∀ p name v q, executeHistory text w = p ++ .read name v :: q → Careful p → v.Fits) ∧
    (Careful (executeHistory text w) → (worldOf (execute text w)).Fits) ∧
    ∀ (k : Nat) (v v' : World) (a : Addr) (α : Type) (t : Task α) (u : α), Growth v a t →
      run k t v = .ok u v' →
      ∃ c n, v'.heap[a]? = some c ∧ c.recorded? = some n ∧ n ≤ v'.limits.maxConstLen ∧
        (c.Fits → (c.count : Int) ≤ v'.limits.maxConstLen) := by
  obtain ⟨n, m, moves⟩ := execute_moves text w
  have keeps := moves.keeps (fits.of_heap rfl)
  refine ⟨fun p what c q told careful => ?_, fun p name v q told careful => ?_, keeps.fits, ?_⟩
  · have before : c.Fits := keeps.sees p _ q told careful
    exact ⟨before, what.fits_apply_iff before⟩
  · exact keeps.sees p _ q told careful
  · intro k v v' a α t u growth ran
    obtain ⟨c, n, found, recorded, within⟩ := growth.within ran
    refine ⟨c, n, found, recorded, within, fun fit => ?_⟩
    exact Int.le_trans (fit n recorded) within

/-- An execution that inserts into a list, and an item that is put at the end of another one, in a world
    with a list that fits its record. -/
theorem records_cover_elements_grown :
    let w : World := { heap := #[.list true #[.int 1, .int 2] (some 2)] }
    let text := "x = []\nx.insert(0, 1)"
    let t : Task Value := .method (.ref 0) "append" [.int 3] []
    w.Fits ∧ (Careful (executeHistory text w) → (worldOf (execute text w)).Fits) ∧
      ∃ u w', run 5 t w = .ok u w' ∧
        ∃ c, w'.heap[0]? = some c ∧ (c.Fits → (c.count : Int) ≤ w'.limits.maxConstLen) := by
  intro w text t
  have fits : w.Fits := by decide
  have ends : (failureOf (run 5 t w)).isNone = true := by decide +kernel
  obtain ⟨-, -, careful, grown⟩ := records_cover_elements text w fits
  refine ⟨fits, careful, ?_⟩
  cases ran : run 5 t w with
  | ok u w' =>
    obtain ⟨c, n, found, -, -, small⟩ := grown 5 w w' 0 Value t u (.append rfl _ _) ran
    exact ⟨u, w', rfl, c, found, small⟩
  | error e w' =>
    rw [ran] at ends
    cases ends

theorem insert_outgrows_record :
    let w : World := { heap := #[.list true #[] (some 0)] }
    let w' : World := { heap := #[.list true #[.int 1] (some 0)] }
    let b : Bound := { values := [("i", .int 0), ("item", .int 1)] }
    w.Fits ∧ (listMethodOn .ask "insert" (.ref 0) 0 true b).exec (run 0) w = .ok .none w' ∧
      ¬ w'.Fits := by
  intro w w' b
  have inserted : (#[] : Array Value).insertIdxIfInBounds 0 (.int 1) = #[.int 1] := by
    simp
  refine ⟨by decide, ?_, by decide⟩
  show EStateM.Result.ok Value.none (w.modifyCell 0 (Alteration.apply (.insert 0 (.int 1)))) = _
  rw [modifyCell_of_some (c := .list true #[] (some 0)) rfl, Alteration.apply, inserted]
  rfl

end AliasTools.Script
