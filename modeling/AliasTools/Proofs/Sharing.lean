import AliasTools.Script.Match

/-!
# Values shared out to targets

One target takes what the others leave over, and every other takes one value.
-/

namespace AliasTools.Script

variable {α β : Type}

def alone (p : α × β) : α × (β ⊕ List β) := (p.1, .inl p.2)

/-- The values that a target takes. -/
def taken (p : α × (β ⊕ List β)) : List β := p.2.elim ([·]) id

theorem map_fst_alone {ts : List α} {vs : List β} (same : ts.length = vs.length) :
    ((ts.zip vs).map alone).map Prod.fst = ts := by
  rw [List.map_map]
  exact List.map_fst_zip (Nat.le_of_eq same)

theorem flatMap_alone {ts : List α} {vs : List β} (same : ts.length = vs.length) :
    ((ts.zip vs).map alone).flatMap taken = vs := by
  rw [List.flatMap_map]
  exact List.map_eq_flatMap.symm.trans (List.map_snd_zip (Nat.le_of_eq same.symm))

/-- **The star takes what is left over**, and what the targets take is the values. -/
theorem zipStar?_tiles (targets : List α) (values : List β) (star : Int) :
    let valid := 0 ≤ star ∧ star < targets.length
    let extra := (values.length : Int) - targets.length + 1
    ((∃ f, zipStar? targets values star = .error f ∧ f.fault.kind = .indexError) ↔ ¬ valid) ∧
      ((∃ f, zipStar? targets values star = .error f ∧ f.fault.kind = .valueError) ↔ valid ∧ extra < 0) ∧
      (valid ∧ 0 ≤ extra → ∃ (before after : List (α × β)) (t : α) (slice : List β),
        let shares := before.map alone ++ (t, .inr slice) :: after.map alone
        zipStar? targets values star = .ok shares ∧ before.length = star ∧ slice.length = extra ∧
          shares.map Prod.fst = targets ∧ shares.flatMap taken = values) := by
  intro valid extra
  unfold zipStar?
  refine ⟨by grind [ShareFault.fault], by grind [ShareFault.fault], ?_⟩
  rintro ⟨⟨nonneg, inside⟩, enough⟩
  obtain ⟨n, rfl⟩ := Int.eq_ofNat_of_zero_le nonneg
  have there : n < targets.length := Int.ofNat_lt.mp inside
  let m := values.length + 1 - targets.length
  refine ⟨(targets.take n).zip (values.take n), (targets.drop (n + 1)).zip (values.drop (n + m)), targets[n],
    (values.drop n).take m, ?_, by grind, by grind, ?_, ?_⟩
  · rw [if_neg (by grind), if_neg (by grind)]
    simp [zipStar, there, m]
    rfl
  · rw [List.map_append, List.map_cons, map_fst_alone (by grind), map_fst_alone (by grind)]
    simp
  · rw [List.flatMap_append, List.flatMap_cons, flatMap_alone (by grind), flatMap_alone (by grind)]
    simp [taken, ← List.drop_drop]

end AliasTools.Script
