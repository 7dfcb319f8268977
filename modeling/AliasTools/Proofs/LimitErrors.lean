import AliasTools.Proofs.Runs

/-!
# Limits on their way out

A limit that was raised is meant to end the run: no handler takes it, and nothing completes any more but
in the last parts of the `try`s it passes.  It does end the run, unless it gets lost on its way: in a
last part that leaves or fails, at the import of a module, or in a function of the library that goes on
with something else.
-/

namespace AliasTools.Script

open Syntax List Event

variable {limit : Bool} {r : Option Failure} {w : World} {h h' : List Event} {e : Event}

/-! ## 1. What becomes of limits -/

def Event.isAlarm : Event → Bool
  | .raised e => e.isLimit
  | _ => false

def Event.isLoss : Event → Bool
  | .swallowed _ _ => true
  | _ => false

def Event.isSuperseding : Event → Bool
  | .superseded _ => true
  | _ => false

def alarms (h : List Event) : Nat := h.countP isAlarm

def losses (h : List Event) : Nat := h.countP isLoss

def supersedings (h : List Event) : Nat := h.countP isSuperseding

def endsWithLimit : Option Failure → Bool
  | some e => e.isLimit
  | none => false

/-- Keeps watch over a run: the number of last parts of `try`s that began since the latest limit and are
    going on, once there was a limit. -/
def watch : Option Nat → Event → Option Nat
  | parts, .raised e => if e.isLimit then some 0 else parts
  | some parts, .unwinding => some (parts + 1)
  | some parts, .unwound => some (parts - 1)
  | parts, _ => parts

/-- May an event happen with so many last parts going on?  Once there was a limit, statements complete
    only in last parts that began after it. -/
def Event.isInPart (parts : Option Nat) : Event → Bool
  | .completed _ => parts != some 0
  | _ => true

/-- Do all statements complete in last parts that began after the latest limit, once there was one? -/
def completesInParts : Option Nat → List Event → Bool
  | _, [] => true
  | parts, e :: h => e.isInPart parts && completesInParts (watch parts e) h

/-- What becomes of the limits that were raised: each ends the run, or its place is taken by a later one,
    or it gets lost; and if none gets lost, a limit ends the run, and after it nothing completes but in
    last parts. -/
structure Accounts (h : List Event) (r : Option Failure) : Prop where
  fate : alarms h = losses h + supersedings h + if endsWithLimit r then 1 else 0
  ends : losses h = 0 → 0 < alarms h → endsWithLimit r = true
  completes : losses h = 0 → completesInParts none h = true

section

variable (h h' : List Event) (e : Event)

@[simp] theorem alarms_nil : alarms [] = 0 := rfl

@[simp] theorem losses_nil : losses [] = 0 := rfl

@[simp] theorem supersedings_nil : supersedings [] = 0 := rfl

@[simp] theorem alarms_append : alarms (h ++ h') = alarms h + alarms h' := countP_append

@[simp] theorem losses_append : losses (h ++ h') = losses h + losses h' := countP_append

@[simp] theorem supersedings_append : supersedings (h ++ h') = supersedings h + supersedings h' := countP_append

@[simp] theorem alarms_cons : alarms (e :: h) = alarms h + if e.isAlarm then 1 else 0 := countP_cons

@[simp] theorem losses_cons : losses (e :: h) = losses h + if e.isLoss then 1 else 0 := countP_cons

@[simp] theorem supersedings_cons : supersedings (e :: h) = supersedings h + if e.isSuperseding then 1 else 0 :=
  countP_cons

end

/-! ## 2. Watching a run -/

theorem completesInParts_append (parts : Option Nat) (h h' : List Event) : completesInParts parts (h ++ h') =
      (completesInParts parts h && completesInParts (h.foldl watch parts) h') := by
  induction h generalizing parts with
  | nil => rfl
  | cons e h ih => rw [cons_append, completesInParts, ih, completesInParts, foldl_cons, Bool.and_assoc]

/-- An event that does not bear on limits. -/
structure Event.IsAside (e : Event) : Prop where
  alarm : e.isAlarm = false
  loss : e.isLoss = false
  superseding : e.isSuperseding = false
  watched : ∀ parts, watch parts e = parts
  inPart : ∀ parts, e.isInPart parts = true

/-- A history that does not bear on limits. -/
structure Aside (h : List Event) : Prop where
  alarms : alarms h = 0
  losses : losses h = 0
  supersedings : supersedings h = 0
  watched : ∀ parts, h.foldl watch parts = parts
  completes : ∀ parts, completesInParts parts h = true

theorem aside_of_forall (all : ∀ e ∈ h, e.IsAside) : Aside h := by
  induction h with
  | nil => exact ⟨rfl, rfl, rfl, fun _ => rfl, fun _ => rfl⟩
  | cons e h ih =>
    have here := all e mem_cons_self
    have rest := ih fun x member => all x (mem_cons_of_mem e member)
    refine ⟨?_, ?_, ?_, fun parts => ?_, fun parts => ?_⟩
    · simp [rest.alarms, here.alarm]
    · simp [rest.losses, here.loss]
    · simp [rest.supersedings, here.superseding]
    · rw [foldl_cons, here.watched, rest.watched]
    · rw [completesInParts, here.inPart, rest.completes]
      rfl

theorem isAside_of_not_remark (noRemark : ¬ e.Remark) : e.IsAside := by
  cases e with
  | raised _ | tied _ | unwinding | unwound | swallowed _ _ | superseded _ | completed _ =>
    exact absurd (by constructor) noRemark
  | _ => exact ⟨rfl, rfl, rfl, fun parts => by cases parts <;> rfl, fun _ => rfl⟩

theorem aside_single (noRemark : ¬ e.Remark) : Aside [e] :=
  aside_of_forall fun _ member => mem_singleton.mp member ▸ isAside_of_not_remark noRemark

theorem aside_ties (k : Wrapping) (e : Failure) : Aside (k.ties e) := by
  unfold Wrapping.ties
  split <;> exact ⟨rfl, rfl, rfl, fun parts => by cases parts <;> rfl, fun parts => by cases parts <;> rfl⟩

/-- The tally of limits in a history, with so many on their way before and after it: their fate, and, when none
    got lost, what a watch over it sees.  As long as a limit is on its way no last part is going on but those that
    began after it. -/
structure Tally (h : List Event) (before after : Nat) : Prop where
  fate : alarms h + before = losses h + supersedings h + after
  quiet : losses h = 0 → after = 0 → before = 0 ∧ alarms h = 0
  watched : losses h = 0 → ∀ parts, (0 < before → parts = some 0) →
    h.foldl watch parts = if after = 0 then parts else some 0
  completes : losses h = 0 → ∀ parts, (parts = some 0 ↔ 0 < before) → completesInParts parts h = true

theorem Aside.tally (aside : Aside h) (n : Nat) : Tally h n n where
  fate := by rw [aside.alarms, aside.losses, aside.supersedings]
  quiet _ none := ⟨none, aside.alarms⟩
  watched _ parts waits := by
    rw [aside.watched]
    split
    · rfl
    · exact waits (by omega)
  completes _ parts _ := aside.completes parts

theorem Tally.append (first : Tally h l m) (second : Tally h' m n) : Tally (h ++ h') l n := by
  have lossless (none : losses (h ++ h') = 0) : losses h = 0 ∧ losses h' = 0 := by
    rw [losses_append] at none
    omega
  refine ⟨?_, fun none calm => ?_, fun none parts waits => ?_, fun none parts waits => ?_⟩
  · have fate := first.fate
    have fate' := second.fate
    simp only [alarms_append, losses_append, supersedings_append]
    omega
  · obtain ⟨calm, quiet⟩ := second.quiet (lossless none).2 calm
    rw [alarms_append, quiet]
    exact first.quiet (lossless none).1 calm
  · rw [foldl_append, first.watched (lossless none).1 parts waits, second.watched (lossless none).2]
    · split
      · next calm => rw [if_pos (second.quiet (lossless none).2 calm).1]
      · rfl
    · exact fun some => if_neg (by omega)
  · rw [completesInParts_append, first.completes (lossless none).1 parts waits,
      first.watched (lossless none).1 parts waits.2, Bool.true_and]
    refine second.completes (lossless none).2 _ ?_
    split
    · next calm => rw [waits, (first.quiet (lossless none).1 calm).1, calm]
    · simp
      omega

theorem tally_raised (e : Failure) : Tally [.raised e] 0 e.isLimit.toNat := by
  cases limit : e.isLimit <;>
    constructor <;> simp [isAlarm, isLoss, isSuperseding, completesInParts, watch, isInPart, limit]

theorem tally_swallowed (l : Loss) (e : Failure) : Tally [.swallowed l e] 1 0 where
  fate := rfl
  quiet := nofun
  watched := nofun
  completes := nofun

theorem tally_superseded (e : Failure) : Tally [.superseded e] 2 1 where
  fate := rfl
  quiet := nofun
  watched _ parts waits := by rw [waits (by decide)]; rfl
  completes _ _ _ := rfl

theorem tally_completed (s : Stmt) : Tally [.completed s] 0 0 where
  fate := rfl
  quiet _ _ := ⟨rfl, rfl⟩
  watched _ parts _ := by cases parts <;> rfl
  completes _ parts free := by simp [completesInParts, isInPart, free]

/-- The last part of a `try`, carried out while a limit waits.  It may end with a limit of its own. -/
theorem Tally.part (inner : Tally h 0 n) : Tally (.unwinding :: h ++ [.unwound]) 1 (n + 1) := by
  have sameLosses : losses (.unwinding :: h ++ [.unwound]) = losses h := by simp [isLoss]
  refine ⟨?_, nofun, fun none parts waits => ?_, fun none parts waits => ?_⟩
  · have fate := inner.fate
    rw [sameLosses]
    simp [isAlarm, isSuperseding]
    omega
  · -- one part is going on in `h`, unless a limit of its own starts the watch again
    have after := inner.watched (sameLosses ▸ none) (some 1) nofun
    rw [waits (by decide), cons_append, foldl_cons, foldl_append]
    show [unwound].foldl watch (h.foldl watch (some 1)) = some 0
    rw [after]
    split <;> rfl
  · have within : completesInParts (some 1) h = true := inner.completes (sameLosses ▸ none) _ (by decide)
    rw [waits.2 (by decide), cons_append, completesInParts, completesInParts_append]
    show (completesInParts (some 1) h && completesInParts (h.foldl watch (some 1)) [.unwound]) = true
    rw [within]
    rfl

/-! ## 3. All runs -/

theorem not_remark_of_mem_closing (member : e ∈ w.closing a) : ¬ e.Remark := by
  unfold World.closing at member
  grind [Remark]

theorem not_remark_of_mem_closingEach (member : e ∈ w.closingEach since result as) : ¬ e.Remark := by
  induction as generalizing w with
  | nil => exact absurd member not_mem_nil
  | cons a as ih =>
    rw [World.closingEach, mem_append] at member
    rcases member with here | later
    · unfold World.closingIfLoose at here
      grind [not_remark_of_mem_closing]
    · exact ih later

theorem aside_events (c : Change) (w : World) : Aside (c.events w) := by
  refine aside_of_forall fun e member => isAside_of_not_remark ?_
  cases c with
  | turn a t => grind [Change.events, Turn.events, not_remark_of_mem_closing, Remark]
  | closeLoose since result => exact not_remark_of_mem_closingEach member
  | _ => grind [Change.events, Remark]

theorem Tally.within (inner : Tally h 0 n) (r : Region) : Tally (.entered r :: h ++ [.left r]) 0 n :=
  (((aside_single (by rintro ⟨⟩)).tally 0).append inner).append ((aside_single (by rintro ⟨⟩)).tally n)

theorem endsWithLimit_eq_false (none : ∀ e ∈ r, e.isLimit = false) : endsWithLimit r = false := by
  cases r with
  | none => rfl
  | some e => exact none e rfl

/-- **The limits of every run can be accounted for.** -/
theorem Runs.tally (run : Runs w h w' r) : Tally h 0 (endsWithLimit r).toNat := by
  have nothing : Aside [] := ⟨rfl, rfl, rfl, fun _ => rfl, fun _ => rfl⟩
  induction run with
  | done | outOfFuel | assign => exact nothing.tally 0
  | raise w e | noNode w e | noRound w e => exact tally_raised e
  | change w c => exact (aside_events c w).tally 0
  | make | read | node | round => exact (aside_single (by rintro ⟨⟩)).tally 0
  | seq _ _ first second => exact first.append second
  | answer _ noLimit _ first second =>
    rw [endsWithLimit, noLimit] at first
    exact first.append second
  | goOn _ noLimit _ first second =>
    rw [endsWithLimit, noLimit] at first
    rw [endsWithLimit, noLimit]
    exact first.append second
  | wrap _ k lossless first =>
    rw [endsWithLimit] at first ⊢
    rw [k.isLimit_apply _ _ lossless]
    exact first.append ((aside_ties k _).tally _)
  | clean _ c first => exact first.append ((aside_events c _).tally _)
  | swallow l _ limit _ first second =>
    rw [endsWithLimit, limit] at first
    exact first.append ((tally_swallowed l _).append second)
  | unwind _ limit _ first second =>
    rw [endsWithLimit, limit] at first ⊢
    simpa [endsWithLimit] using first.append second.part
  | lose _ limit _ noLimit first second =>
    rw [endsWithLimit, limit] at first
    rw [endsWithLimit_eq_false noLimit] at second ⊢
    simpa using first.append (second.part.append (tally_swallowed _ _))
  | supersede _ limit _ later first second =>
    rw [endsWithLimit, limit] at first
    rw [endsWithLimit, later] at second ⊢
    simpa using first.append (second.part.append (tally_superseded _))
  | @within _ _ _ _ r _ _ _ _ inner => exact inner.within r
  | noBody w f beyond k m =>
    have refused : Aside [.refused f] := aside_single (by rintro ⟨⟩)
    exact (refused.tally 0).append (tally_raised (.waiting k m))
  | noModule w f => exact tally_raised (.fault f)
  | imported addr m _ _ _ inner => exact (inner.within (.import addr)).append ((aside_single (by rintro ⟨⟩)).tally _)
  | complete _ s inner => exact inner.append (tally_completed s)

theorem Tally.accounts (tally : Tally h 0 (endsWithLimit r).toNat) : Accounts h r := by
  have fate := tally.fate
  have quiet := tally.quiet
  refine ⟨?_, fun none raised => ?_, fun none => tally.completes none _ (by simp)⟩
  · cases limit : endsWithLimit r <;> simpa [limit] using fate
  · cases limit : endsWithLimit r with
    | true => rfl
    | false =>
      -- without a limit at the end none was raised
      have calm := (quiet none (by rw [limit]; rfl)).2
      omega

/-- **Limits end runs unless they get lost.**  Every limit that is raised is what the run ends with, or its
    place is taken by a later one, or it gets lost; when none does, statements complete after it only in the
    last parts of `try`s. -/
theorem limits_end_runs_unless_lost (text : String) (w : World) :
    Accounts (executeHistory text w) (failureOf (execute text w)) ∧
      Accounts (aliasHistory text w) (failureOf (runAlias text w)) := by
  constructor
  · rcases execute_cases text w with ⟨f, -, failed, told⟩ | ⟨body, -, ran, told⟩
    · rw [failed, told]
      exact (tally_raised _).accounts
    · rw [ran, told]
      exact ((runScript body).runs_history (w.ready text)).tally.accounts
  · have opening := (makeOpening.runs_history w).tally
    rcases alias_cases text w with ⟨e, w', failed, ran, told⟩ | ⟨o, w', made, ran, told⟩
    · rw [failed] at opening
      rw [ran, told]
      exact opening.accounts
    · rw [made] at opening
      rw [ran, told]
      exact (opening.append ((runText (aliasText text)).runs_history _).tally).accounts

/-- An endless loop in a `try` whose last part returns: the limit that ends the loop gets lost, and the
    statement gives what the last part returns. -/
theorem limit_lost_in_last_part :
    let sp : Span := ⟨1, 0, 1, 0⟩
    let endless : Stmt := .whileLoop sp (.constant sp (.bool true)) [.pass sp] []
    let s : Stmt :=
      .tryExcept sp [endless] [] [] [.ret sp (some (.constant sp (.int 1)))] false
    let w : World := { limits := { maxLoops := 3 } }
    (match run 10 (.stmt s) w with
      | .ok (.ret (.int 1) _) _ => true
      | _ => false) = true ∧
    alarms (history 10 (.stmt s) w) = 1 ∧ losses (history 10 (.stmt s) w) = 1 := by
  decide +kernel

end AliasTools.Script
