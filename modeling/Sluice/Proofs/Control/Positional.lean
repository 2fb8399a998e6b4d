import Mathlib.Tactic.FieldSimp
import Sluice.Calendar.Readers
import Sluice.Proofs.Control.Changes
import Sluice.Proofs.Control.Memory
import Sluice.Proofs.Number.Exact

/-!
# The law of a controller

A controller adds to the target of its link at every step, and what it adds is made of the error
of the step and the two errors that it remembers. The law that is known from the literature says
instead what the target is. The two agree as long as nothing comes between them:

> **if a controller drives a link at every step, its target is where it was before the first
> step, plus a multiple of the last error, of the sum of all errors and of the last difference
> between two errors** (`driven_target`).

Three things add up to this. The memory moves on by one error at each step, the target that is
read is the one that was written, and the change is the difference of two values of the law
(`change_recalling`). The first two are about the run and hold with any gains. The third one is
arithmetic, so this file is about `Rat`.
-/

set_option autoImplicit false

namespace Sluice

/-! ## 1. The two laws -/

namespace Controller

/-- What a controller has added up after some errors, `dt` minutes apart. -/
def positional (c : Controller Rat) (dt : Rat) (errors : List Rat) : Rat :=
  c.kp * errors.reverse.getD 0 0 + c.ki * dt * errors.sum +
    c.kd * (errors.reverse.getD 0 0 - errors.reverse.getD 1 0) / dt

theorem positional_nil (c : Controller Rat) (dt : Rat) : c.positional dt [] = 0 := by
  simp [positional]

theorem positional_concat (c : Controller Rat) (dt : Rat) (earlier : List Rat) (error : Rat) :
    c.positional dt (earlier ++ [error]) =
      c.kp * error + c.ki * dt * (earlier ++ [error]).sum +
        c.kd * (error - earlier.getLastD 0) / dt := by
  have hlast : earlier.reverse.getD 0 0 = earlier.getLastD 0 := by
    cases earlier using List.reverseRecOn with
    | nil => rfl
    | append_singleton earlier last => simp
  unfold positional
  simp only [List.reverse_append, List.reverse_singleton, List.singleton_append,
    List.getD_cons_zero, List.getD_cons_succ, hlast]

/-- A change is the difference that its error makes to the law. -/
theorem change_recalling (c : Controller Rat) {dt : Rat} (hdt : 0 < dt) (errors : List Rat)
    (error : Rat) :
    (c.recalling errors).change error dt =
      c.positional dt (errors ++ [error]) - c.positional dt errors := by
  have hne : dt ≠ 0 := hdt.ne'
  simp only [change, recalling, positional, Scalar.zero_rat, Scalar.ofInt_rat, if_pos hdt,
    List.reverse_append, List.reverse_singleton, List.singleton_append, List.getD_cons_zero,
    List.getD_cons_succ, List.sum_append, List.sum_singleton, Int.cast_ofNat]
  field_simp
  ring

end Controller

/-- A value that clipping leaves alone. -/
def LinkType.Admits (type : LinkType) (x : Rat) : Prop := 0 ≤ x ∧ (type ≠ .pump → x ≤ 1)

instance (type : LinkType) (x : Rat) : Decidable (type.Admits x) :=
  inferInstanceAs (Decidable (0 ≤ x ∧ (type ≠ .pump → x ≤ 1)))

theorem Controller.clip_eq_self {type : LinkType} {x : Rat} (h : type.Admits x) :
    clip type x = x := by
  obtain ⟨hpositive, hone⟩ := h
  unfold clip
  rw [Scalar.atLeast_rat, Scalar.zero_rat, max_eq_left hpositive]
  by_cases hpump : type = .pump
  · rw [if_pos hpump]
  · rw [if_neg hpump, Scalar.atMost_rat, Scalar.one_rat, min_eq_left (hone hpump)]

/-! ## 2. Steps that drive a link -/

section

variable {α : Type} [Scalar α]

/-- Where an action stands: its rule, the outcome of the condition that selects it, and its place
among the actions for this outcome. -/
structure Place where
  rule : Nat
  holds : Bool
  index : Nat

/-- The rule and the action at a place. -/
def Engine.at? (e : Engine α) (p : Place) : Option (Rule α × Action α) :=
  (e.rules[p.rule]?).bind fun rule => ((rule.branch p.holds)[p.index]?).map fun a => (rule, a)

omit [Scalar α] in
theorem Engine.at?_eq_some {e : Engine α} {p : Place} {rule : Rule α} {a : Action α} :
    e.at? p = some (rule, a) ↔
      e.rules[p.rule]? = some rule ∧ (rule.branch p.holds)[p.index]? = some a := by
  unfold at?
  rw [Option.bind_eq_some_iff]
  constructor
  · rintro ⟨rule, hrule, h⟩
    obtain ⟨a, ha, heq⟩ := Option.map_eq_some_iff.mp h
    cases heq
    exact ⟨hrule, ha⟩
  · rintro ⟨hrule, ha⟩
    exact ⟨rule, hrule, by rw [ha]; rfl⟩

omit [Scalar α] in
theorem Action.controller?_eq_some {a : Action α} {c : Controller α} :
    a.controller? = some c ↔ a.mode = .pid c := by
  unfold controller?
  cases a.mode <;> simp

namespace System

/-- The setting that an action computes in a step, if the clock has a reading. -/
def value? (s : System α) (step : α) (a : Action α) : Option α :=
  match s.engine.clock.reading with
  | .ok r => a.value? s.network r (Engine.minutes step)
  | .error _ => none

/-- A step commits a setting to a link. -/
def Commits (s : System α) (step : α) (i : Nat) (x : α) : Prop :=
  ∃ k ∈ (s.engine.evaluate s.network step).committed, k.link = i ∧ k.value = x

end System

instance (s : System Rat) (step : Rat) (i : Nat) (x : Rat) : Decidable (s.Commits step i x) :=
  inferInstanceAs (Decidable (∃ k ∈ (s.engine.evaluate s.network step).committed,
    k.link = i ∧ k.value = x))

/-- A move between two steps that does not write the target of link number `i`. -/
def Move.Spares (i : Nat) : Move α → Prop
  | .setClock _ | .advanceClock _ | .applyTargets _ | .writeNode _ _ _ => True
  | .writeLink j c _ => j ≠ i ∨ c ≠ .targetSetting
  | .evaluate _ => False

end

/-- The controller at a place drives link `i` in a step, from an error: the step selects it, both
of its operands have a value, and what it computes is committed and has not been clipped. -/
inductive System.Drives (p : Place) (i : Nat) (s : System Rat) (step error : Rat) : Prop
  | intro {rule : Rule Rat} {a : Action Rat} {c : Controller Rat} {l : Link Rat} {x : Rat}
    (hat : s.engine.at? p = some (rule, a)) (hmode : a.mode = .pid c) (hlink : a.link = i)
    (herror : s.error? rule.premises p.holds c (.evaluate step) = some error)
    (hl : s.link? i = some l)
    (hadmits : l.type.Admits (l.targetSetting + c.change error (Engine.minutes step)))
    (hvalue : s.value? step a = some x) (hcommits : s.Commits step i x)

instance (p : Place) (i : Nat) (s : System Rat) (step error : Rat) :
    Decidable (s.Drives p i step error) :=
  decidable_of_iff (∃ x ∈ s.engine.at? p, ∃ c ∈ x.2.controller?, ∃ l ∈ (s.link? i),
      ∃ y ∈ s.value? step x.2, x.2.link = i ∧
        s.error? x.1.premises p.holds c (.evaluate step) = some error ∧
        l.type.Admits (l.targetSetting + c.change error (Engine.minutes step)) ∧
        s.Commits step i y) <| by
    constructor
    · rintro ⟨x, hat, c, hc, l, hl, y, hvalue, hlink, herror, hadmits, hcommits⟩
      exact .intro hat (Action.controller?_eq_some.mp hc) hlink herror hl hadmits hvalue hcommits
    · rintro ⟨hat, hmode, hlink, herror, hl, hadmits, hvalue, hcommits⟩
      exact ⟨_, hat, _, Action.controller?_eq_some.mpr hmode, _, hl, _, hvalue, hlink, herror,
        hadmits, hcommits⟩

/-- A run in which a controller drives a link at every step, from these errors, and in which nothing
else writes the target of the link. -/
inductive DrivenRun (p : Place) (i : Nat) (step : Rat) :
    System Rat → List (Move Rat) → List Rat → Prop
  | nil (s : System Rat) : DrivenRun p i step s [] []
  | spared {s : System Rat} {move : Move Rat} {moves : List (Move Rat)} {errors : List Rat}
    (h : move.Spares i) (hrest : DrivenRun p i step (s.perform move) moves errors) :
    DrivenRun p i step s (move :: moves) errors
  | driven {s : System Rat} {error : Rat} {moves : List (Move Rat)} {errors : List Rat}
    (h : s.Drives p i step error)
    (hrest : DrivenRun p i step (s.perform (.evaluate step)) moves errors) :
    DrivenRun p i step s (.evaluate step :: moves) (error :: errors)

/-- What is true of a system whose link a controller has driven with some errors: the controller
remembers them, and they are what the target is made of. -/
structure System.IsDriven (p : Place) (i : Nat) (dt : Rat) (c : Controller Rat) (start : Rat)
    (errors : List Rat) (s : System Rat) : Prop where
  memory : ∃ rule a, s.engine.at? p = some (rule, a) ∧ a.mode = .pid (c.recalling errors)
  target : ∃ l, s.link? i = some l ∧ l.targetSetting = start + c.positional dt errors

theorem Move.Spares.targetSetting_eq {move : Move Rat} {i : Nat} (h : move.Spares i)
    {l l' : Link Rat} (heffect : move.Effect i l l') : l'.targetSetting = l.targetSetting := by
  cases heffect with
  | evaluate => cases h
  | writeLink c value =>
    cases c with
    | targetSetting => simp [Spares] at h
    | _ => rfl
  | _ => rfl

/-- Computing a controller that has an error. -/
theorem Action.compute_of_error? {n : Network Rat} {r : Reading Rat} {a : Action Rat}
    {c : Controller Rat} {error : Rat} {l : Link Rat} (hmode : a.mode = .pid c)
    (hl : n.state.links[a.link]? = some l) (herror : c.error? n.state r = some error) (dt : Rat) :
    a.compute n r dt = .ok (Controller.clip l.type (l.targetSetting + c.change error dt),
      { a with mode := .pid (c.advance error) }) := by
  unfold Controller.error? at herror
  split at herror
  · rename_i controlled setpoint hcontrolled hsetpoint
    cases herror
    unfold compute Controller.compute
    rw [hmode]
    dsimp only
    rw [State.target_eq_ok hl, hcontrolled, hsetpoint, State.linkType_eq_ok hl]
    rfl
  · cases herror

/-! ## 3. Runs -/

namespace System

variable {p : Place} {i : Nat} {step dt start : Rat} {c : Controller Rat} {s : System Rat}
  {errors : List Rat}

theorem IsDriven.spared (h : s.IsDriven p i dt c start errors) {move : Move Rat}
    (hmove : move.Spares i) : (s.perform move).IsDriven p i dt c start errors := by
  obtain ⟨⟨rule, a, hat, hmode⟩, l, hl, htarget⟩ := h
  have hrules : (s.perform move).engine.rules = s.engine.rules := by
    rcases s.rules_perform move with ⟨step, r, rfl, -, -⟩ | ⟨-, hrules⟩
    · cases hmove
    · exact hrules
  obtain ⟨l', hl', heffect⟩ := link?_perform hl move
  refine ⟨⟨rule, a, ?_, hmode⟩, l', hl', ?_⟩
  · unfold Engine.at? at hat ⊢
    rw [hrules]
    exact hat
  · rw [hmove.targetSetting_eq heffect, htarget]

theorem error?_eq_some {premises : List (Premise Rat)} {holds : Bool} {error : Rat}
    (h : s.error? premises holds c (.evaluate step) = some error) :
    ∃ r, s.engine.clock.reading = .ok r ∧ condition s.network.state r premises = .ok holds ∧
      c.error? s.network.state r = some error := by
  unfold error? at h
  dsimp only at h
  split at h
  · rename_i r hr
    split at h
    · rename_i hcond
      exact ⟨r, hr, hcond, h⟩
    · cases h
  · cases h

theorem Commits.link?_perform {x : Rat} {r : Reading Rat} (h : s.Commits step i x)
    (hr : s.engine.clock.reading = .ok r) {l : Link Rat} (hl : s.link? i = some l) :
    (s.perform (.evaluate step)).link? i = some { l with targetSetting := x } := by
  obtain ⟨k, hk, rfl, rfl⟩ := h
  unfold StepResult.committed at hk
  split at hk
  · rename_i committed hout
    exact Engine.link_of_committed hr hout hk hl
  · cases hk

theorem IsDriven.driven (h : s.IsDriven p i (Engine.minutes step) c start errors)
    (hstep : 0 < Engine.minutes step) {error : Rat} (hdrives : s.Drives p i step error) :
    (s.perform (.evaluate step)).IsDriven p i (Engine.minutes step) c start
      (errors ++ [error]) := by
  obtain ⟨⟨rule, a, hat, hmode⟩, l, hl, htarget⟩ := h
  cases hdrives with
  | intro hat' hmode' hlink herror hl' hadmits hvalue hcommits =>
    cases hat.symm.trans hat'
    cases hmode.symm.trans hmode'
    cases hl.symm.trans hl'
    obtain ⟨r, hr, hcond, herror⟩ := error?_eq_some herror
    subst hlink
    have hcompute := Action.compute_of_error? hmode hl herror (Engine.minutes step)
    constructor
    · refine ⟨rule.after s.network r (Engine.minutes step),
        a.after s.network r (Engine.minutes step), ?_, ?_⟩
      · rw [Engine.at?_eq_some] at hat ⊢
        have hrules : (s.perform (.evaluate step)).engine.rules = _ :=
          (Engine.evaluate_touches hr s.network step).rules
        constructor
        · rw [hrules, List.getElem?_map, hat.1]
          rfl
        · rw [Rule.after_of_ok hcond, Rule.branch_withBranch, List.getElem?_map, hat.2]
          rfl
      · rw [Action.after, hcompute, Controller.advance_recalling]
    · refine ⟨_, hcommits.link?_perform hr hl, ?_⟩
      simp only [value?, hr, Action.value?, hcompute, Controller.clip_eq_self hadmits,
        Option.some.injEq] at hvalue
      rw [← hvalue, htarget, c.change_recalling hstep]
      ring

theorem IsDriven.run (hstep : 0 < Engine.minutes step) {moves : List (Move Rat)}
    {later : List Rat} (hrun : DrivenRun p i step s moves later)
    (h : s.IsDriven p i (Engine.minutes step) c start errors) :
    (s.run moves).IsDriven p i (Engine.minutes step) c start (errors ++ later) := by
  induction hrun generalizing errors with
  | nil s =>
    rw [List.append_nil]
    exact h
  | spared hmove _ ih => exact ih (h.spared hmove)
  | @driven s error moves later hdrives _ ih =>
    have hnext := ih (h.driven hstep hdrives)
    rwa [List.append_assoc, List.singleton_append] at hnext

end System

/-! ## 4. The target of a controlled link -/

/-- **A controller that drives a link is the positional controller of its gains.** Its memory is
empty before the first step, steps have a positive length, and `earlier` are the errors of all steps
but the last. -/
theorem driven_target {p : Place} {i : Nat} {step : Rat} {s : System Rat} {moves : List (Move Rat)}
    {rule : Rule Rat} {a : Action Rat} {c : Controller Rat} {l : Link Rat} {earlier : List Rat}
    {error : Rat} (hat : s.engine.at? p = some (rule, a)) (hmode : a.mode = .pid c)
    (hfresh : c.e1 = 0 ∧ c.e2 = 0) (hl : s.link? i = some l) (hstep : 0 < Engine.minutes step)
    (hrun : DrivenRun p i step s moves (earlier ++ [error])) :
    ∃ l', (s.run moves).link? i = some l' ∧ l'.targetSetting =
      l.targetSetting + c.kp * error + c.ki * Engine.minutes step * (earlier ++ [error]).sum +
        c.kd * (error - earlier.getLastD 0) / Engine.minutes step := by
  have hrecalling : c.recalling [] = c := by
    obtain ⟨controlled, setpoint, kp, ki, kd, e1, e2⟩ := c
    obtain ⟨rfl, rfl⟩ : e1 = 0 ∧ e2 = 0 := hfresh
    simp [Controller.recalling]
  have hstart : s.IsDriven p i (Engine.minutes step) c l.targetSetting [] := by
    refine ⟨⟨rule, a, hat, ?_⟩, l, hl, ?_⟩
    · rw [hmode, hrecalling]
    · rw [c.positional_nil, add_zero]
  obtain ⟨-, l', hl', htarget⟩ := hstart.run hstep hrun
  refine ⟨l', hl', ?_⟩
  rw [htarget, List.nil_append, c.positional_concat]
  ring

/-- A rule that drives the pump towards a depth of two. -/
def levelText : List String :=
  ["RULE LEVEL", "IF NODE N1 DEPTH <> 2", "THEN PUMP P1 SETTING = PID 1 0.5 0.25"]

/-- Two steps, before each of which the depth is written. -/
def rising : List (Move Rat) :=
  [.writeNode 0 .depth 1, .evaluate 60, .applyTargets 60, .writeNode 0 .depth (3 / 2),
    .evaluate 60]

open scoped Readers in
theorem driven_target_rising : ∃ (n : Network Rat) (e : Engine Rat) (l' : Link Rat),
    Dataset.load pumpData .epoch = .ok n ∧ e.IsBuilt n ∧
    DrivenRun ⟨0, true, 0⟩ 0 60 ⟨e, n⟩ rising ([1] ++ [1 / 2]) ∧
    (System.run ⟨e, n⟩ rising).link? 0 = some l' ∧ l'.targetSetting = 17 / 8 := by
  let clock : Clock Rat := Clock.start (Timeline.anchored 0)
  have hdata : (match Dataset.load pumpData (.epoch : Origin Rat) with
      | .ok n =>
        let s : System Rat := ⟨((Engine.ofClock clock).buildRules n true levelText).1, n⟩
        decide ((∃ x ∈ s.engine.at? ⟨0, true, 0⟩, ∃ c ∈ x.2.controller?, ∃ l ∈ s.link? 0,
            (c.e1 = 0 ∧ c.e2 = 0) ∧ c.kp = 1 ∧ c.ki = 1 / 2 ∧ c.kd = 1 / 4 ∧
              l.targetSetting = 1) ∧
          (s.run (rising.take 1)).Drives ⟨0, true, 0⟩ 0 60 1 ∧
          (s.run (rising.take 4)).Drives ⟨0, true, 0⟩ 0 60 (1 / 2))
      | .error _ => false) = true := by decide +kernel
  split at hdata
  · rename_i n hload
    have hbuilt : ((Engine.ofClock clock).buildRules n true levelText).1.IsBuilt n :=
      .buildRules (.ofClock clock) true levelText
    generalize ((Engine.ofClock clock).buildRules n true levelText).1 = e at hdata hbuilt
    obtain ⟨⟨x, hat, c, hc, l, hl, hfresh, hkp, hki, hkd, htarget⟩, hfirst, hsecond⟩ :=
      of_decide_eq_true hdata
    have hrun : DrivenRun ⟨0, true, 0⟩ 0 60 ⟨e, n⟩ rising ([1] ++ [1 / 2]) :=
      .spared trivial (.driven hfirst (.spared trivial (.spared trivial (.driven hsecond
        (.nil _)))))
    obtain ⟨l', hl', hlaw⟩ := driven_target hat (Action.controller?_eq_some.mp hc) hfresh hl
      (by decide +kernel) hrun
    refine ⟨n, e, l', hload, hbuilt, hrun, hl', ?_⟩
    rw [hlaw, hkp, hki, hkd, htarget]
    decide +kernel
  · cases hdata

end Sluice
