import Sluice.Calendar.Readers
import Sluice.Proofs.Control.Built
import Sluice.Proofs.Control.Footprint

/-!
# What controllers remember

A PID controller computes its next setting from the error of the step at hand and those of two
earlier ones. Which ones is not a matter of what became of the setting: a controller that loses
its link to another action has its memory moved on all the same, and a controller whose rule takes
the other branch, or one of whose operands has no value, is left alone. So after any run

> **the memory of a controller are the last two errors of the control steps that selected its
> branch and at which both of its operands had a value** (`rules_run_recall`),

and nothing else of the rules has changed. What happens between the steps, and what the other
actions of a step compute, plays no part.
-/

set_option autoImplicit false

namespace Sluice

variable {α : Type} [Scalar α]

/-! ## 1. Controllers -/

namespace Controller

/-- The error of a controller, if both of its operands have a value. -/
def error? (s : State α) (r : Reading α) (c : Controller α) : Option α :=
  match c.controlled.resolve s r, c.setpoint.resolve s r with
  | .ok (some controlled), .ok (some setpoint) => some (setpoint - controlled)
  | _, _ => none

/-- The controller with the last two of some errors as its memory, zero for missing ones. -/
def recalling (errors : List α) (c : Controller α) : Controller α :=
  { c with e1 := errors.reverse.getD 0 Scalar.zero, e2 := errors.reverse.getD 1 Scalar.zero }

theorem advance_recalling (errors : List α) (error : α) (c : Controller α) :
    (c.recalling errors).advance error = c.recalling (errors ++ [error]) := by
  simp [recalling, advance]

/-- Computing moves the memory on by the error of the step, if there is one. -/
theorem compute_recalling {n : Network α} {r : Reading α} {link : Nat} {c : Controller α}
    (errors : List α) (dt : α) (hlink : link < n.count .link)
    (hcontrolled : c.controlled.Fits n.count) (hsetpoint : c.setpoint.Fits n.count) :
    ∃ x, (c.recalling errors).compute n.state r dt link =
      .ok (x, c.recalling (errors ++ (c.error? n.state r).toList)) := by
  obtain ⟨current, hcurrent⟩ := State.target_ok hlink
  have htype := State.linkType_eq_ok (List.getElem?_eq_getElem hlink)
  obtain ⟨x, hx⟩ := Variable.resolve_ok (r := r) hcontrolled
  obtain ⟨y, hy⟩ := Operand.resolve_ok (r := r) hsetpoint
  -- the memory is not an operand
  have hx' : (c.recalling errors).controlled.resolve n.state r = .ok x := hx
  have hy' : (c.recalling errors).setpoint.resolve n.state r = .ok y := hy
  unfold compute error?
  rw [hcurrent, hx, hy, hx', hy', htype]
  have hsame : c.recalling (errors ++ (none : Option α).toList) = c.recalling errors := by
    rw [Option.toList_none, List.append_nil]
  cases x with
  | none =>
    rw [hsame]
    exact ⟨current, rfl⟩
  | some x =>
    cases y with
    | none =>
      rw [hsame]
      exact ⟨current, rfl⟩
    | some y =>
      rw [Option.toList_some, ← advance_recalling]
      exact ⟨_, rfl⟩

end Controller

/-- The action with its memory recalled from the errors of its controller. -/
def Action.recalling (errors : Controller α → List α) (a : Action α) : Action α :=
  match a.mode with
  | .pid c => { a with mode := .pid (c.recalling (errors c)) }
  | _ => a

theorem Action.recalling_nil {a : Action α} (h : a.mode.IsFresh) :
    a.recalling (fun _ => []) = a := by
  obtain ⟨link, linkId, attr, mode⟩ := a
  cases mode with
  | pid c =>
    obtain ⟨controlled, setpoint, kp, ki, kd, e1, e2⟩ := c
    obtain ⟨rfl, rfl⟩ : e1 = Scalar.zero ∧ e2 = Scalar.zero := h
    rfl
  | _ => rfl

/-- A step that selects an action adds the error of its controller to what it recalls. -/
theorem Action.after_recalling {n : Network α} {r : Reading α} {a : Action α}
    {errors : Controller α → List α} (h : (a.recalling errors).Fits n.count) (dt : α) :
    (a.recalling errors).after n r dt =
      a.recalling fun c => errors c ++ (c.error? n.state r).toList := by
  obtain ⟨link, linkId, attr, mode⟩ := a
  cases mode with
  | pid c =>
    obtain ⟨-, hlink, hcontrolled, hsetpoint⟩ := h
    obtain ⟨x, hx⟩ : ∃ x, (c.recalling (errors c)).compute n.state r dt link =
        .ok (x, c.recalling (errors c ++ (c.error? n.state r).toList)) :=
      Controller.compute_recalling (errors c) dt hlink hcontrolled hsetpoint
    show (Action.mk link linkId attr (.pid (c.recalling (errors c)))).after n r dt = _
    unfold after compute
    dsimp only
    rw [hx]
    rfl
  | _ => exact after_eq_self rfl n r dt

theorem map_after_recalling {n : Network α} {r : Reading α} {as : List (Action α)}
    {errors : Controller α → List α}
    (h : ∀ a ∈ as.map (Action.recalling errors), a.Fits n.count) (dt : α) :
    (as.map (Action.recalling errors)).map (Action.after n r dt) =
      as.map (Action.recalling fun c => errors c ++ (c.error? n.state r).toList) := by
  rw [List.map_map]
  exact List.map_congr_left fun a ha => Action.after_recalling (h _ (List.mem_map_of_mem ha)) dt

/-! ## 2. Histories -/

namespace System

/-- The error of a controller at a control step, if the premises select its branch and both of its
operands have a value. Other moves have none. -/
def error? (premises : List (Premise α)) (holds : Bool) (c : Controller α) (s : System α) :
    Move α → Option α
  | .evaluate _ =>
    match s.engine.clock.reading with
    | .ok r =>
      if condition s.network.state r premises = .ok holds then c.error? s.network.state r else none
    | .error _ => none
  | _ => none

theorem error?_eq_none (premises : List (Premise α)) (holds : Bool) (c : Controller α)
    {s : System α} {move : Move α}
    (h : ∀ step r, move = .evaluate step → s.engine.clock.reading ≠ .ok r) :
    s.error? premises holds c move = none := by
  cases move with
  | evaluate step =>
    unfold error?
    dsimp only
    split
    · rename_i r hr
      exact absurd hr (h step r rfl)
    · rfl
  | _ => rfl

/-- The errors of a controller in a run, in order. -/
def errors (premises : List (Premise α)) (holds : Bool) (c : Controller α) :
    System α → List (Move α) → List α
  | _, [] => []
  | s, move :: rest =>
    (s.error? premises holds c move).toList ++ errors premises holds c (s.perform move) rest

theorem errors_concat (premises : List (Premise α)) (holds : Bool) (c : Controller α)
    (s : System α) (moves : List (Move α)) (move : Move α) :
    errors premises holds c s (moves ++ [move]) =
      errors premises holds c s moves ++ ((s.run moves).error? premises holds c move).toList := by
  induction moves generalizing s with
  | nil => simp [errors, run]
  | cons first rest ih => simp only [List.cons_append, errors, ih, run_cons, List.append_assoc]

end System

/-- The rule with the memories of its actions recalled from a run. -/
def Rule.recalling (s : System α) (moves : List (Move α)) (rule : Rule α) : Rule α :=
  { rule with
    thenActions := rule.thenActions.map
      (Action.recalling fun c => s.errors rule.premises true c moves)
    elseActions := rule.elseActions.map
      (Action.recalling fun c => s.errors rule.premises false c moves) }

namespace Rule

variable {s : System α} {moves : List (Move α)} {rule : Rule α}

theorem recalling_nil (h : ∀ a ∈ rule.actions, a.mode.IsFresh) : rule.recalling s [] = rule := by
  have hsame : ∀ as : List (Action α), (∀ a ∈ as, a ∈ rule.actions) →
      as.map (Action.recalling fun _ => []) = as := by
    intro as has
    exact (List.map_congr_left fun a ha => Action.recalling_nil (h a (has a ha))).trans
      (List.map_id' as)
  unfold recalling System.errors
  rw [hsame _ fun a => List.mem_append_left _, hsame _ fun a => List.mem_append_right _]

theorem recalling_concat_eq_self {move : Move α}
    (h : ∀ holds c, (s.run moves).error? rule.premises holds c move = none) :
    rule.recalling s (moves ++ [move]) = rule.recalling s moves := by
  simp [recalling, System.errors_concat, h]

/-- A control step moves on what the rule recalls. -/
theorem after_recalling {r : Reading α} (hr : (s.run moves).engine.clock.reading = .ok r)
    (hfits : (rule.recalling s moves).Fits (s.run moves).network.count) (step : α) :
    (rule.recalling s moves).after (s.run moves).network r (Engine.minutes step) =
      rule.recalling s (moves ++ [.evaluate step]) := by
  have herrors : ∀ holds c, s.errors rule.premises holds c (moves ++ [.evaluate step]) =
      s.errors rule.premises holds c moves ++
        (if condition (s.run moves).network.state r rule.premises = .ok holds then
          c.error? (s.run moves).network.state r else none).toList := by
    intro holds c
    rw [System.errors_concat, System.error?, hr]
  obtain ⟨holds, hholds⟩ := condition_ok (r := r) hfits.premises
  have hpremises : condition (s.run moves).network.state r rule.premises = .ok holds := hholds
  unfold after
  rw [hholds]
  dsimp only
  unfold withBranch branch
  cases holds with
  | true =>
    rw [if_pos rfl, if_pos rfl]
    unfold recalling
    simp only [herrors, hpremises]
    rw [map_after_recalling hfits.thenActions]
    simp
  | false =>
    rw [if_neg Bool.false_ne_true, if_neg Bool.false_ne_true]
    unfold recalling
    simp only [herrors, hpremises]
    rw [map_after_recalling hfits.elseActions]
    simp

end Rule

/-! ## 3. Runs -/

namespace System

/-- After a run every rule is as it was but for what its controllers recall. -/
theorem FitTogether.rules_run {s : System α} (hfit : s.FitTogether)
    (hfresh : ∀ rule ∈ s.engine.rules, ∀ a ∈ rule.actions, a.mode.IsFresh)
    (moves : List (Move α)) :
    (s.run moves).engine.rules = s.engine.rules.map (Rule.recalling s moves) := by
  induction moves using List.reverseRecOn with
  | nil =>
    refine Eq.symm ((List.map_congr_left fun rule hrule => ?_).trans (List.map_id' _))
    exact Rule.recalling_nil (hfresh rule hrule)
  | append_singleton moves move ih =>
    rw [run_concat]
    rcases (s.run moves).rules_perform move with ⟨step, r, rfl, hr, hrules⟩ | ⟨hnone, hrules⟩
    · rw [hrules, ih, List.map_map]
      refine List.map_congr_left fun rule hrule => Rule.after_recalling hr ?_ step
      refine hfit.run moves _ ?_
      rw [ih]
      exact List.mem_map_of_mem hrule
    · rw [hrules, ih]
      refine List.map_congr_left fun rule _ => (Rule.recalling_concat_eq_self ?_).symm
      intro holds c
      exact error?_eq_none rule.premises holds c hnone

end System

/-- **Controllers that were built remember the errors of their last two steps.** -/
theorem rules_run_recall [TimeReader α] {data : Json} {origin : Origin α} {n : Network α}
    {e : Engine α} (hload : Dataset.load data origin = .ok n) (hbuilt : e.IsBuilt n)
    (moves : List (Move α)) :
    (System.run ⟨e, n⟩ moves).engine.rules = e.rules.map (Rule.recalling ⟨e, n⟩ moves) := by
  have hfit : System.FitTogether ⟨e, n⟩ := hbuilt.fitTogether (Dataset.indexed_of_load hload)
  refine hfit.rules_run ?_ moves
  intro rule hrule a ha
  exact (hbuilt.isRead rule hrule a ha).isFresh

/-- The depth is off its setpoint twice, and in between it is on it, so the controller is not
asked. -/
def swaying : List (Move Rat) :=
  [.writeNode 0 .depth 3, .evaluate 60, .writeNode 0 .depth 2, .setClock 60, .evaluate 60,
    .writeNode 0 .depth 1, .applyTargets 120, .evaluate 60]

open scoped Readers in
theorem rules_run_recall_swaying : ∃ (n : Network Rat) (e : Engine Rat),
    Dataset.load pumpData .epoch = .ok n ∧ e.IsBuilt n ∧ e.memories = [(0, 0)] ∧
    (System.run ⟨e, n⟩ swaying).engine.rules = e.rules.map (Rule.recalling ⟨e, n⟩ swaying) ∧
    (System.run ⟨e, n⟩ swaying).engine.memories = [(1, -1)] := by
  let clock : Clock Rat := Clock.start (Timeline.anchored 0)
  have hmemories : (match Dataset.load pumpData (.epoch : Origin Rat) with
      | .ok n =>
        let e := ((Engine.ofClock clock).buildRules n true pumpText).1
        decide (e.memories = [(0, 0)] ∧
          (System.run ⟨e, n⟩ swaying).engine.memories = [(1, -1)])
      | .error _ => false) = true := by decide +kernel
  split at hmemories
  · rename_i n hload
    have hbuilt : ((Engine.ofClock clock).buildRules n true pumpText).1.IsBuilt n :=
      .buildRules (.ofClock clock) true pumpText
    obtain ⟨hbefore, hafter⟩ := of_decide_eq_true hmemories
    exact ⟨n, _, hload, hbuilt, hbefore, rules_run_recall hload hbuilt swaying, hafter⟩
  · cases hmemories

end Sluice
