import AliasTools.Proofs.PlayedVariables

/-!
# Coins that are changed

The coins of a purse are read and written one after the other, so that an argument which is no number leaves those in
front of it written.
-/

namespace AliasTools.Sheet

open Script

variable {k : Nat} {w : World} {a : Addr} {m : Option Int} {es : Entries} {n : String} {amount : String → Eval Int}
  {r : String → Except Failure Int}

def finish {α : Type} : Except Failure α → World → Outcome α
  | .ok v, w => .ok v w
  | .error f, w => .error f w

/-- A number is read, or fails to be, in the same way whatever the other coins of the purse are. -/
def Amounts (k : Nat) (w : World) (a : Addr) (m : Option Int) (es : Entries) (n : String) (x : Eval Int)
    (r : Except Failure Int) : Prop :=
  ∀ es' : Entries, es'.get? (.str n) = es.get? (.str n) →
    x.exec (run k) (w.putCell a (.dict false es' m)) = finish r (w.putCell a (.dict false es' m))

/-- What coins are given as: nothing, a number or a text. -/
inductive Given : Value → Prop
  | none : Given .none
  | int (n : Int) : Given (.int n)
  | bool (b : Bool) : Given (.bool b)
  | float (x : Float) : Given (.float x)
  | text (s : String) (guarded : Bool) : Given (.str s guarded)

theorem exec_toInt {v : Value} (given : Given v) :
    ∃ r, r ≠ .error .outOfFuel ∧ ∀ w, (toInt v).exec (run k) w = finish r w := by
  cases given with
  | none =>
    exact ⟨.error (.fault ⟨.typeError, "int() argument must be a string, a bytes-like object or a real number, " ++
      "not 'NoneType'"⟩), nofun, fun _ => rfl⟩
  | int n => exact ⟨.ok n, nofun, fun _ => rfl⟩
  | bool b => exact ⟨.ok (if b then 1 else 0), nofun, fun _ => rfl⟩
  | float x =>
    show ∃ r, _ ∧ ∀ w, (floatToInt x).exec (run k) w = _
    unfold floatToInt
    split
    · exact ⟨.ok _, nofun, fun _ => rfl⟩
    · split <;> exact ⟨.error (.fault _), nofun, fun _ => rfl⟩
  | text s =>
    show ∃ r, _ ∧ ∀ w, (orRaise (intOfText s 10)).exec (run k) w = _
    cases intOfText s 10 with
    | ok n => exact ⟨.ok n, nofun, fun _ => rfl⟩
    | error f => exact ⟨.error (.fault f), nofun, fun _ => rfl⟩

/-- A number or a text is read in the same way in every world. -/
theorem exec_asInt {v : Value} (given : Given v) :
    ∃ r, r ≠ .error .outOfFuel ∧ ∀ w, (asInt .ask v).exec (run k) w = finish r w := by
  obtain ⟨r, fueled, read⟩ := exec_toInt (k := k) given
  refine ⟨r, fueled, fun w => ?_⟩
  have made : (makeInt .ask [v] []).exec (run k) w = (Eval.bind (toInt v) fun n => .pure (.int n)).exec (run k) w := by
    cases given <;> rfl
  show (Eval.bind (makeInt .ask [v] []) _).exec (run k) w = _
  rw [Eval.exec, made, Eval.exec, read]
  cases r <;> rfl

theorem amounts_coins (purse : w.heap[a]? = some (.dict false es m))
    (given : Given ((es.get? (.str n)).getD .none)) :
    ∃ c, Amounts (k + 1) w a m es n (coins .ask (.ref a) n) (.ok c) := by
  obtain ⟨r, fueled, read⟩ := exec_asInt (k := k + 1) given
  refine ⟨r.toOption.getD 0, fun es' same => ?_⟩
  refine (exec_bind_ok (exec_entry (mappingAt_of_cell (World.heap_putCell purse)) n) _).trans ?_
  rw [same]
  show (Eval.fallback (asInt .ask _) _).exec _ _ = _
  rw [Eval.exec, read]
  match r with
  | .ok _ => rfl
  | .error .outOfFuel => exact absurd rfl fueled
  | .error (.fault _) | .error (.waiting ..) | .error (.script _) => rfl

/-- The first amount that is no number fails. -/
def firstFailure (r : String → Except Failure Int) : List String → Except Failure Unit
  | [] => .ok ()
  | n :: ns => match r n with
    | .ok _ => firstFailure r ns
    | .error f => .error f

/-- The coins in front of the first amount that is no number are written, and the others are as they were. -/
def Paid (r : String → Except Failure Int) (ns : List String) (es es' : Entries) : Prop :=
  ∀ n, es'.get? (.str n) =
    if n ∈ ns.takeWhile fun n => (r n).isOk then (r n).toOption.map .int else es.get? (.str n)

theorem putCell_same {c : Cell} (there : w.heap[a]? = some c) : w.putCell a c = w := by
  obtain ⟨inside, rfl⟩ := Array.getElem?_eq_some_iff.mp there
  rw [World.putCell, Array.setIfInBounds, dif_pos inside, Array.set_getElem_self]

theorem putCell_putCell (c c' : Cell) : (w.putCell a c).putCell a c' = w.putCell a c' := by
  rw [World.putCell, World.putCell, Array.setIfInBounds_setIfInBounds]
  rfl

theorem exec_updateEach (inside : w.heap[a]? = some cell) (apart : ns.Nodup)
    (amounts : ∀ n ∈ ns, Amounts (k + 1) w a m es n (amount n) (r n)) : ∃ es', Paid r ns es es' ∧
      (ns.forM fun n => do setEntry .ask (.ref a) n (.int (← amount n)) : Eval Unit).exec (run (k + 1))
        (w.putCell a (.dict false es m)) = finish (firstFailure r ns) (w.putCell a (.dict false es' m)) := by
  induction ns generalizing es with
  | nil => exact ⟨es, fun _ => rfl, rfl⟩
  | cons n ns ih =>
    obtain ⟨other, apart⟩ := List.nodup_cons.mp apart
    have first := amounts n List.mem_cons_self es rfl
    rw [firstFailure]
    cases read : r n with
    | error f =>
      rw [read] at first
      refine ⟨es, fun n' => by simp [read, Except.isOk, Except.toBool], ?_⟩
      show (Eval.bind (.bind (amount n) _) _).exec _ _ = _
      rw [Eval.exec, Eval.exec, first]
      rfl
    | ok v =>
      rw [read] at first
      have there : (w.putCell a (.dict false es m)).heap[a]? = some (.dict false es m) := World.heap_putCell inside
      have put := exec_setItem (k := k) there n false (.int v)
      rw [putCell_putCell] at put
      obtain ⟨es', paid, rest⟩ := @ih (es.put (.str n) (word n) (.int v)) apart fun n' member es' same =>
        amounts n' (List.mem_cons_of_mem n member) es' (same.trans (by
          have differs : n' ≠ n := fun here => other (here ▸ member)
          simp [Entries.get?_put, differs]))
      refine ⟨es', fun n' => ?_, ?_⟩
      · rw [paid n', Entries.get?_put, List.takeWhile_cons_of_pos (by simp [read, Except.isOk, Except.toBool])]
        by_cases here : n' = n
        · subst here
          simp [read, Except.toOption]
        · simp [here]
      · show (Eval.bind (.bind (amount n) _) _).exec _ _ = _
        rw [exec_bind_ok ((exec_bind_ok first _).trans put)]
        exact rest

theorem exec_updateCoins (purse : w.heap[a]? = some (.dict false es m))
    (amounts : ∀ n ∈ coinNames, Amounts (k + 1) w a m es n (amount n) (r n)) : ∃ es', Paid r coinNames es es' ∧
      (updateCoins .ask (.ref a) amount).exec (run (k + 1)) w =
        finish (firstFailure r coinNames) (w.putCell a (.dict false es' m)) := by
  have out := exec_updateEach purse (by decide) amounts
  rwa [putCell_same purse] at out

/-- **Coins are changed up to the first argument that is no number.**  All or nothing is changed just when none or the
    first one is no number. -/
theorem coins_changed_in_order {b : Bound} {c : String → Int} (purse : w.heap[a]? = some (.dict false es m))
    (held : ∀ n ∈ coinNames, Amounts (k + 1) w a m es n (coins .ask (.ref a) n) (.ok (c n)))
    (given : ∀ n ∈ coinNames, Amounts (k + 1) w a m es n (asInt .ask (b.get n)) (r n)) (self : Value) :
    (∃ es', Paid r coinNames es es' ∧ (purseMethod .ask self (.ref a) "set_coins" b).exec (run (k + 1)) w =
      finish ((firstFailure r coinNames).map fun _ => .none) (w.putCell a (.dict false es' m))) ∧
    ∃ es', Paid (fun n => (r n).map (c n + ·)) coinNames es es' ∧
      (purseMethod .ask self (.ref a) "modify_coins" b).exec (run (k + 1)) w =
        match firstFailure (fun n => (r n).map (c n + ·)) coinNames with
        | .ok _ => (purseMap .ask (.ref a)).exec (run (k + 1)) (w.putCell a (.dict false es' m))
        | .error f => .error f (w.putCell a (.dict false es' m)) := by
  have sums : ∀ n ∈ coinNames, Amounts (k + 1) w a m es n
      (do return (← coins .ask (.ref a) n) + (← asInt .ask (b.get n))) ((r n).map (c n + ·)) := by
    intro n member es' same
    refine (exec_bind_ok (held n member es' same) _).trans ?_
    have read := given n member es' same
    cases found : r n <;> rw [found] at read
    · show (Eval.bind (asInt .ask (b.get n)) _).exec _ _ = _
      rw [Eval.exec, read]
      rfl
    · exact exec_bind_ok read _
  obtain ⟨es₁, paid₁, set⟩ := exec_updateCoins purse given
  obtain ⟨es₂, paid₂, changed⟩ := exec_updateCoins purse sums
  refine ⟨⟨es₁, paid₁, ?_⟩, es₂, paid₂, ?_⟩
  · show (Eval.bind (updateCoins .ask (.ref a) _) _).exec _ _ = _
    rw [Eval.exec, set]
    cases firstFailure r coinNames <;> rfl
  · show (Eval.bind (updateCoins .ask (.ref a) _) _).exec _ _ = _
    rw [Eval.exec, changed]
    cases firstFailure (fun n => (r n).map (c n + ·)) coinNames <;> rfl

/-- Two coins of five, in a purse that was empty. -/
theorem coins_changed_in_order_half : ∃ es' w' f,
    (purseMethod .ask .none (.ref 0) "set_coins" { values := [("pp", .int 5), ("gp", .int 6), ("ep", word "x"),
      ("sp", .int 7), ("cp", .int 8)] }).exec (run 1) { heap := #[.dict false #[] none] } = .error f w' ∧
    w'.heap[0]? = some (.dict false es' none) ∧ es'.get? (.str "gp") = some (.int 6) ∧ es'.get? (.str "cp") = none := by
  let r : String → Except Failure Int
    | "pp" => .ok 5
    | "gp" => .ok 6
    | "ep" => .error (.fault ⟨.valueError, "invalid literal for int() with base 10: 'x'"⟩)
    | "sp" => .ok 7
    | _ => .ok 8
  have held (n : String) := amounts_coins (k := 0) (w := { heap := #[.dict false #[] none] }) (a := 0) (n := n) rfl .none
  choose c held using held
  obtain ⟨⟨es', paid, set⟩, -⟩ := coins_changed_in_order (k := 0) (r := r) (c := c) (a := 0)
    (w := { heap := #[.dict false #[] none] }) (b := { values := [("pp", .int 5), ("gp", .int 6), ("ep", word "x"),
      ("sp", .int 7), ("cp", .int 8)] }) rfl (fun n _ => held n)
    (by simp only [coinNames, List.forall_mem_cons]; exact ⟨fun _ _ => rfl, fun _ _ => rfl, fun _ _ => rfl,
      fun _ _ => rfl, fun _ _ => rfl, nofun⟩) .none
  exact ⟨es', _, _, set, World.heap_putCell rfl, paid "gp", paid "cp"⟩

end AliasTools.Sheet
