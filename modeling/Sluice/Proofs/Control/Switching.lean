import Mathlib.Tactic.NormNum
import Sluice.Proofs.Control.Footprint
import Sluice.Proofs.Control.Step
import Sluice.Proofs.Number.Exact

/-!
# Since when a link is open or closed

A link remembers when it last opened or closed, and rules ask how long ago that was. What it
remembers is written in one place only: where the targets are taken over, for the links that open
or close by it. Targets that were written and taken back again, settings that change without
passing zero, control steps and the movements of the clock in between leave it as it is. So at
the start of every control step

> **a link has been in its state for the time that has elapsed since settings were last taken
> over by which it opened or closed** (`time_in_state`),

and for no time at all in the other state. The second half needs no law of arithmetic.
-/

set_option autoImplicit false

namespace Sluice

/-! ## 1. The two times -/

section

variable {α : Type} [Scalar α]

/-- Of the two times of a link only the one of its present state has a value, whatever object
type it is asked by. -/
def State.HasOneTime (s : State α) (r : Reading α) (i : Nat) (l : Link α) (hours : α) : Prop :=
  ∀ o : ObjectType, o.isLink = true →
    Variable.resolve s r ⟨o, some i, .timeOpen⟩ =
      .ok (if l.setting > Scalar.zero then some hours else none) ∧
    Variable.resolve s r ⟨o, some i, .timeClosed⟩ =
      .ok (if l.setting > Scalar.zero then none else some hours)

/-- The hours between the last switch of a link and what the clock shows. -/
def Link.hoursSinceSet (r : Reading α) (l : Link α) : α :=
  r.elapsedHours - l.timeLastSet / TimeLiteral.secondsPerHour

theorem Source.find_of_isLink {s : State α} {o : ObjectType} (ho : o.isLink = true) (i : Nat)
    (a : Attribute) : Source.find s ⟨o, some i, a⟩ = (Source.ofLink s o i a).mapError .state := by
  cases o with
  | node => cases ho
  | simulation => cases ho
  | anyLink => rfl
  | link t => rfl

theorem Source.value_hoursInState (r : Reading α) (l : Link α) (isOpen : Bool) :
    (Source.hoursInState l isOpen).value r =
      if l.isOpen = isOpen then some (l.hoursSinceSet r) else none := by
  unfold Source.hoursInState
  by_cases h : l.isOpen = isOpen
  · simp [h, Source.value, Link.hoursSinceSet]
  · simp [h, Source.value]

theorem State.hasOneTime {s : State α} (r : Reading α) {i : Nat} {l : Link α}
    (hl : s.links[i]? = some l) : s.HasOneTime r i l (l.hoursSinceSet r) := by
  intro o ho
  have hresolve : ∀ a isOpen, Source.ofLink s o i a =
      (s.link? i).map (fun l => Source.hoursInState l isOpen) →
      Variable.resolve s r ⟨o, some i, a⟩ =
        .ok (if l.isOpen = isOpen then some (l.hoursSinceSet r) else none) := by
    intro a isOpen hsource
    unfold Variable.resolve
    rw [Source.find_of_isLink ho, hsource, State.link?_eq_ok hl]
    exact congrArg Except.ok (Source.value_hoursInState r l isOpen)
  rw [hresolve .timeOpen true rfl, hresolve .timeClosed false rfl]
  simp [Link.isOpen]

end

/-! ## 2. Runs in time -/

/-- A move by which elapsed time does not decrease. Settings are taken over at the present time,
and nobody else writes when they were switched. -/
def Move.IsTimely (s : System Rat) : Move Rat → Prop
  | .setClock timestamp => s.engine.clock.elapsedSeconds ≤
      (s.perform (.setClock timestamp)).engine.clock.elapsedSeconds
  | .advanceClock seconds => s.engine.clock.elapsedSeconds ≤
      (s.perform (.advanceClock seconds)).engine.clock.elapsedSeconds
  | .applyTargets elapsed => elapsed = s.engine.clock.elapsedSeconds
  | .writeLink _ c _ => c ≠ .timeLastSet
  | .evaluate _ => True
  | .writeNode _ _ _ => True

namespace System

variable {s : System Rat} {moves : List (Move Rat)} {i : Nat}

def IsTimely (s : System Rat) : List (Move Rat) → Prop
  | [] => True
  | move :: rest => move.IsTimely s ∧ (s.perform move).IsTimely rest

theorem isTimely_concat {move : Move Rat} :
    s.IsTimely (moves ++ [move]) ↔ s.IsTimely moves ∧ move.IsTimely (s.run moves) := by
  induction moves generalizing s with
  | nil => simp [IsTimely, run]
  | cons first rest ih => simp only [List.cons_append, IsTimely, ih, run_cons, and_assoc]

/-- Link number `i` opens or closes when settings are taken over now. -/
def Switches (s : System Rat) (i : Nat) (elapsed : Rat) : Prop :=
  ∃ l l', s.link? i = some l ∧ (s.perform (.applyTargets elapsed)).link? i = some l' ∧
    l.isOpen ≠ l'.isOpen

/-- Link number `i` neither opens nor closes where settings are taken over in a run. -/
def IsQuiet (s : System Rat) (i : Nat) (moves : List (Move Rat)) : Prop :=
  ∀ before elapsed after, moves = before ++ .applyTargets elapsed :: after →
    ¬ (s.run before).Switches i elapsed

/-- The elapsed seconds when link number `i` last opened or closed in a run. If it never did,
they are what the link remembered before the run. -/
inductive LastSwitch (s : System Rat) (i : Nat) (moves : List (Move Rat)) : Rat → Prop
  | never (l : Link Rat) (hl : s.link? i = some l) (hquiet : s.IsQuiet i moves) :
      LastSwitch s i moves l.timeLastSet
  | switched (before : List (Move Rat)) (elapsed : Rat) (after : List (Move Rat))
      (hmoves : moves = before ++ .applyTargets elapsed :: after)
      (hswitch : (s.run before).Switches i elapsed)
      (hquiet : (s.run (before ++ [.applyTargets elapsed])).IsQuiet i after) :
      LastSwitch s i moves (s.run before).engine.clock.elapsedSeconds

theorem isQuiet_nil : s.IsQuiet i [] := by
  intro before elapsed after h
  simp at h

theorem IsQuiet.concat (h : s.IsQuiet i moves) {move : Move Rat}
    (hmove : ∀ elapsed, move = .applyTargets elapsed → ¬ (s.run moves).Switches i elapsed) :
    s.IsQuiet i (moves ++ [move]) := by
  intro before elapsed after hsplit
  -- the settings are taken over by the last move, or before it
  rcases List.eq_nil_or_concat after with rfl | ⟨after, last, rfl⟩
  · obtain ⟨rfl, hlast⟩ := List.append_inj' hsplit rfl
    exact hmove elapsed (List.head_eq_of_cons_eq hlast)
  · rw [List.concat_eq_append, ← List.cons_append, ← List.append_assoc] at hsplit
    exact h before elapsed after (List.append_inj' hsplit rfl).1

theorem LastSwitch.concat {t : Rat} (h : s.LastSwitch i moves t) {move : Move Rat}
    (hmove : ∀ elapsed, move = .applyTargets elapsed → ¬ (s.run moves).Switches i elapsed) :
    s.LastSwitch i (moves ++ [move]) t := by
  cases h with
  | never l hl hquiet => exact .never l hl (hquiet.concat hmove)
  | switched before elapsed after hmoves hswitch hquiet =>
    subst hmoves
    refine .switched before elapsed (after ++ [move]) (by simp) hswitch (hquiet.concat ?_)
    simpa [run, List.foldl_append] using hmove

theorem LastSwitch.of_switches {elapsed : Rat} (h : (s.run moves).Switches i elapsed) :
    s.LastSwitch i (moves ++ [.applyTargets elapsed])
      (s.run moves).engine.clock.elapsedSeconds :=
  .switched moves elapsed [] rfl h isQuiet_nil

/-! ## 3. What a link remembers -/

theorem switches_iff {l : Link Rat} (hl : s.link? i = some l) (elapsed : Rat) :
    s.Switches i elapsed ↔ l.isOpen ≠ l.targetIsOpen := by
  obtain ⟨l', hl', heffect⟩ := link?_perform hl (.applyTargets elapsed)
  cases heffect
  constructor
  · rintro ⟨m, m', hm, hm', hne⟩
    rw [hl] at hm
    rw [hl'] at hm'
    cases hm
    cases hm'
    exact hne
  · intro hne
    exact ⟨l, _, hl, hl', hne⟩

/-- After a run, link number `i` remembers when it last opened or closed. -/
def Remembers (s : System Rat) (i : Nat) (moves : List (Move Rat)) : Prop :=
  ∃ l, (s.run moves).link? i = some l ∧ s.LastSwitch i moves l.timeLastSet ∧
    l.timeLastSet ≤ (s.run moves).engine.clock.elapsedSeconds

theorem elapsed_le_perform {move : Move Rat} (h : move.IsTimely s) :
    s.engine.clock.elapsedSeconds ≤ (s.perform move).engine.clock.elapsedSeconds := by
  cases move with
  | setClock timestamp => exact h
  | advanceClock seconds => exact h
  | evaluate step => exact (congrArg Clock.elapsedSeconds (s.engine.clock_evaluateMinutes _ _)).ge
  | applyTargets elapsed => exact le_rfl
  | writeNode j c value => exact le_rfl
  | writeLink j c value => exact le_rfl

theorem Remembers.concat (h : s.Remembers i moves) {move : Move Rat}
    (hmove : move.IsTimely (s.run moves)) : s.Remembers i (moves ++ [move]) := by
  obtain ⟨l, hl, hlast, hpast⟩ := h
  obtain ⟨l', hl', heffect⟩ := link?_perform hl move
  have htime := elapsed_le_perform hmove
  unfold Remembers
  rw [run_concat]
  refine ⟨l', hl', ?_⟩
  cases heffect with
  | applyTargets elapsed =>
    obtain rfl : elapsed = (s.run moves).engine.clock.elapsedSeconds := hmove
    unfold Link.applyTarget
    by_cases hswitch : l.isOpen = l.targetIsOpen
    · simp only [hswitch, bne_self_eq_false, Bool.false_eq_true, if_false]
      refine ⟨hlast.concat ?_, hpast⟩
      intro elapsed' _ hswitches
      exact (switches_iff hl elapsed').mp hswitches hswitch
    · simp only [bne_iff_ne, ne_eq, hswitch, not_false_eq_true, if_true]
      exact ⟨.of_switches ((switches_iff hl _).mpr hswitch), htime⟩
  | writeLink c value =>
    have hsame : (c.set value l).timeLastSet = l.timeLastSet := by
      cases c with
      | timeLastSet => exact absurd rfl hmove
      | _ => rfl
    rw [hsame]
    exact ⟨hlast.concat nofun, hpast.trans htime⟩
  | _ => exact ⟨hlast.concat nofun, hpast.trans htime⟩

theorem remembers_run (hpast : ∀ l ∈ s.network.state.links, l.timeLastSet ≤
      s.engine.clock.elapsedSeconds) (hi : i < s.network.state.links.length)
    (htimely : s.IsTimely moves) : s.Remembers i moves := by
  induction moves using List.reverseRecOn with
  | nil =>
    have hl : s.link? i = some s.network.state.links[i] := List.getElem?_eq_getElem hi
    exact ⟨_, hl, .never _ hl isQuiet_nil, hpast _ (List.getElem_mem hi)⟩
  | append_singleton moves move ih =>
    obtain ⟨hmoves, hmove⟩ := isTimely_concat.mp htimely
    exact (ih hmoves).concat hmove

end System

/-! ## 4. The time in a state -/

theorem Link.hoursSinceSet_eq {c : Clock Rat} {r : Reading Rat} (h : c.reading = .ok r)
    (l : Link Rat) : l.hoursSinceSet r = (c.elapsedSeconds - l.timeLastSet) / 3600 := by
  unfold Clock.reading at h
  obtain ⟨t, -, rfl⟩ := map_eq_ok.mp h
  simp only [hoursSinceSet, TimeLiteral.secondsPerHour, Scalar.ofInt_rat]
  exact (sub_div _ _ _).symm

/-- **A link has been in its state since it last opened or closed.** -/
theorem time_in_state :
    (∀ {α : Type} [Scalar α] (s : State α) (r : Reading α) (i : Nat) (l : Link α),
      s.links[i]? = some l → ∃ hours, s.HasOneTime r i l hours) ∧
    ∀ (s : System Rat) (moves : List (Move Rat)), s.engine.clock.elapsedSeconds = 0 →
      (∀ l ∈ s.network.state.links, l.timeLastSet ≤ 0) → s.IsTimely moves →
      ∀ r, (s.run moves).engine.clock.reading = .ok r →
      ∀ i l, (s.run moves).link? i = some l → ∃ hours t,
        (s.run moves).network.state.HasOneTime r i l hours ∧
        s.LastSwitch i moves t ∧
        hours * 3600 = (s.run moves).engine.clock.elapsedSeconds - t ∧ 0 ≤ hours := by
  constructor
  · intro α _ s r i l hl
    exact ⟨_, State.hasOneTime r hl⟩
  · intro s moves hfresh hpast htimely r hr i l hl
    have hi : i < s.network.state.links.length := by
      rw [← System.length_links_run s moves]
      exact (List.getElem?_eq_some_iff.mp hl).1
    rw [← hfresh] at hpast
    obtain ⟨l', hl', hlast, hbefore⟩ := System.remembers_run hpast hi htimely
    rw [hl] at hl'
    cases hl'
    refine ⟨_, _, State.hasOneTime r hl, hlast, ?_, ?_⟩
    · rw [Link.hoursSinceSet_eq hr, div_mul_cancel₀ _ (by norm_num)]
    · rw [Link.hoursSinceSet_eq hr]
      exact div_nonneg (sub_nonneg.mpr hbefore) (by norm_num)

/-- Two hours after which a pump is idle. It slows down at the start and stops after an hour. -/
def stopping : List (Move Rat) :=
  [.evaluate 60, .applyTargets 0, .setClock 3600, .writeLink 0 .targetSetting 0,
    .applyTargets 3600, .setClock 7200, .applyTargets 7200]

theorem time_in_state_stopping :
    ∃ r l hours t, (System.run ⟨pumpEngine, twoPumps⟩ stopping).engine.clock.reading = .ok r ∧
      (System.run ⟨pumpEngine, twoPumps⟩ stopping).link? 0 = some l ∧ l.setting = 0 ∧
      (System.run ⟨pumpEngine, twoPumps⟩ stopping).network.state.HasOneTime r 0 l hours ∧
      System.LastSwitch ⟨pumpEngine, twoPumps⟩ 0 stopping t ∧
      hours * 3600 =
        (System.run ⟨pumpEngine, twoPumps⟩ stopping).engine.clock.elapsedSeconds - t ∧
      0 ≤ hours := by
  obtain ⟨r, hr⟩ := exists_ok_of_isOk
    (x := (System.run ⟨pumpEngine, twoPumps⟩ stopping).engine.clock.reading) (by decide +kernel)
  have hlink : ((System.run ⟨pumpEngine, twoPumps⟩ stopping).link? 0).map Link.setting =
      some 0 := by decide +kernel
  obtain ⟨l, hl, hsetting⟩ := Option.map_eq_some_iff.mp hlink
  have htimely : System.IsTimely ⟨pumpEngine, twoPumps⟩ stopping := by
    simp only [stopping, System.IsTimely, Move.IsTimely]
    decide +kernel
  obtain ⟨hours, t, h⟩ := time_in_state.2 ⟨pumpEngine, twoPumps⟩ stopping (by decide +kernel)
    (by decide +kernel) htimely r hr 0 l hl
  exact ⟨r, l, hours, t, hr, hl, hsetting, h⟩

end Sluice
