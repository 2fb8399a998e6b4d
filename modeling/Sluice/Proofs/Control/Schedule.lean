import Sluice.Calendar.Readers
import Sluice.Control.Model
import Sluice.Proofs.Control.Footprint
import Sluice.Proofs.Time.Conversion

/-!
# The schedule of updates

Each update of a model names the moment of the next one: the control step is added to the seconds
of the moment at hand, and the sum is rounded to a whole time unit. The next update starts from
the rounded moment. So what is rounded off is never made up for, and the question is what comes
of it over many updates. In exact arithmetic the answer is as simple as it could be:

> **from the first update on the moments are equally far apart, and their distance is the
> control step rounded to whole time units** (`Paced.moments`).

If the control step is a whole number of time units, this is the schedule that one expects
(`Paced.kept`). If it is not, the moments run away from the schedule by the difference at every
update (`Paced.drift`), and a control step of at most half a time unit does not move them at all
(`Paced.forward`).

Half way between two timestamps the even one is taken, so it can matter once whether a moment
is even. It matters only at the first update: in that case all moments after it are even.
-/

set_option autoImplicit false

namespace Sluice

/-! ## 1. Moments that follow each other -/

/-- The timestamp after `t`, a step of `x` time units later. -/
def nextTimestamp (x : Rat) (t : Int) : Int := ratRoundEven (t + x)

section

variable {x : Rat} {times : Nat → Int} {count : Nat}

theorem abs_nextTimestamp (x : Rat) (t : Int) :
    |t + x - nextTimestamp x t| = |x - ratRoundEven x| := abs_int_add_sub_ratRoundEven x t

/-- The timestamp that a step leads to is at a whole number of periods from all later ones, for it
is even or the parity plays no part. -/
theorem nextTimestamp_nextTimestamp (x : Rat) (t m : Int) (hm : ∃ k : Nat, m = k * ratRoundEven x) :
    nextTimestamp x (nextTimestamp x t + m) = nextTimestamp x t + m + ratRoundEven x := by
  rcases (abs_sub_ratRoundEven_le x).lt_or_eq with hlt | hhalf
  · exact ratRoundEven_int_add hlt _
  · apply ratRoundEven_even_add
    obtain ⟨k, rfl⟩ := hm
    have hfirst : Even (nextTimestamp x t) :=
      even_ratRoundEven ((abs_nextTimestamp x t).trans hhalf)
    exact hfirst.add ((even_ratRoundEven hhalf).mul_left _)

theorem times_eq (h : ∀ k < count, times (k + 1) = nextTimestamp x (times k)) :
    ∀ k < count, times (k + 1) = nextTimestamp x (times 0) + k * ratRoundEven x := by
  intro k
  induction k with
  | zero =>
    intro hk
    simp [h 0 hk]
  | succ k ih =>
    intro hk
    rw [h (k + 1) hk, ih (Nat.lt_of_succ_lt hk), nextTimestamp_nextTimestamp x _ _ ⟨k, rfl⟩]
    push_cast
    ring

/-- How far the moments are from the schedule, in time units. -/
theorem drift_eq (h : ∀ k < count, times (k + 1) = nextTimestamp x (times k)) (k : Nat)
    (hk : k < count) : (times (k + 1) : Rat) - (times 0 + (k + 1) * x) =
      k * (ratRoundEven x - x) - (times 0 + x - nextTimestamp x (times 0)) := by
  rw [times_eq h k hk]
  push_cast
  ring

theorem drift_le (h : ∀ k < count, times (k + 1) = nextTimestamp x (times k)) (k : Nat)
    (hk : k ≤ count) : |(times k : Rat) - (times 0 + k * x)| ≤ k * |ratRoundEven x - x| := by
  cases k with
  | zero => simp
  | succ k =>
    push_cast
    rw [drift_eq h k hk]
    calc |k * (ratRoundEven x - x) - (times 0 + x - nextTimestamp x (times 0))|
        ≤ |k * (ratRoundEven x - x)| + |times 0 + x - nextTimestamp x (times 0)| := abs_sub _ _
      _ = (k + 1) * |ratRoundEven x - x| := by
        rw [abs_nextTimestamp, abs_sub_comm x, abs_mul, Nat.abs_cast]
        ring

theorem le_drift (h : ∀ k < count, times (k + 1) = nextTimestamp x (times k)) (k : Nat)
    (hk : k ≤ count) :
    ((k : Rat) - 2) * |ratRoundEven x - x| ≤ |(times k : Rat) - (times 0 + k * x)| := by
  cases k with
  | zero =>
    simp
  | succ k =>
    push_cast
    rw [drift_eq h k hk]
    calc ((k : Rat) + 1 - 2) * |ratRoundEven x - x|
        = |k * (ratRoundEven x - x)| - |times 0 + x - nextTimestamp x (times 0)| := by
          rw [abs_nextTimestamp, abs_sub_comm x, abs_mul, Nat.abs_cast]
          ring
      _ ≤ |k * (ratRoundEven x - x) - (times 0 + x - nextTimestamp x (times 0))| :=
        abs_sub_abs_le_abs_sub _ _

/-- A step of more than half a unit goes on, and no other one does. -/
theorem ratRoundEven_pos_iff (hx : 0 < x) : 0 < ratRoundEven x ↔ 1 / 2 < x := by
  constructor
  · intro hround
    by_contra hle
    have hnear : |x - (0 : Int)| ≤ 1 / 2 := by
      simpa [abs_of_pos hx] using hle
    rw [ratRoundEven_eq_of_even hnear ⟨0, rfl⟩] at hround
    exact absurd hround (lt_irrefl 0)
  · intro hhalf
    have hround := (abs_le.mp (abs_sub_ratRoundEven_le x)).2
    have hpos : (0 : Rat) < ratRoundEven x := by linarith
    exact_mod_cast hpos

theorem lt_nextTimestamp (hx : 1 / 2 < x) (t : Int) : t < nextTimestamp x t := by
  have hround := (abs_le.mp (abs_sub_ratRoundEven_le (t + x))).2
  have hlt : (t : Rat) < nextTimestamp x t := by
    unfold nextTimestamp
    linarith
  exact_mod_cast hlt

theorem forward_iff (hx : 0 < x) (h : ∀ k < count, times (k + 1) = nextTimestamp x (times k))
    (hcount : 2 ≤ count) : (∀ k < count, times k < times (k + 1)) ↔ 1 / 2 < x := by
  constructor
  · intro hforward
    rw [← ratRoundEven_pos_iff hx]
    -- from the first update on a step is the period
    have h1 := times_eq h 0 (by omega)
    have h2 := times_eq h 1 (by omega)
    have hlt := hforward 1 (by omega)
    rw [h1, h2] at hlt
    simpa using hlt
  · intro hhalf k hk
    rw [h k hk]
    exact lt_nextTimestamp hhalf (times k)

end

/-! ## 2. Updates of a model -/

namespace Model

/-- The model has an engine, whose clock is on this timeline. -/
def IsOn {α : Type} (m : Model α) (timeline : Timeline α) : Prop :=
  ∃ e, m.engine = some e ∧ e.clock.timeline = timeline

/-- Updates one after the other, each at the moment that the one before it named. The network may
be another one each time. -/
structure Updates (networks : Nat → Network Rat) (models : Nat → Model Rat) (times : Nat → Int)
    (count : Nat) : Prop where
  outcome : ∀ k < count, ∃ committed,
    ((models k).update (networks k) (times k)).outcome = .ok (committed, times (k + 1))
  model : ∀ k < count, ((models k).update (networks k) (times k)).model = models (k + 1)

theorem timeline_startClock {α : Type} [Scalar α] {s : Settings α} {clock : Clock α}
    (h : startClock s = .ok clock) : clock.timeline = s.timeline := by
  obtain ⟨timestamp, -, rfl⟩ := map_eq_ok.mp h
  rfl

theorem isOn_of_setup {α : Type} [Scalar α] [TimeReader α] {m m' : Model α} {n : Network α}
    {s : Settings α} {readFile : String → Option String} {log : List LogEntry} {faults : List Fault}
    (h : m.setup n s readFile = (m', log, .ok faults)) : m'.IsOn s.timeline := by
  unfold setup at h
  dsimp only at h
  split at h
  · cases h
  · rename_i clock hclock
    split at h
    · cases h
    · split at h
      · cases h
      · rename_i lines _ e log faults hbuilt
        cases h
        have he : clock.timeline = e.clock.timeline :=
          congrArg (fun p => p.1.clock.timeline) hbuilt
        exact ⟨e, rfl, he.symm.trans (timeline_startClock hclock)⟩

theorem clock_evaluate {α : Type} [Scalar α] (e : Engine α) (n : Network α) (step : Amount α) :
    (evaluate e n step).engine.clock = e.clock := by
  unfold evaluate
  split
  · exact e.clock_evaluateMinutes n _
  · exact e.clock_judgeOnly n _

theorem update_isOn {α : Type} [Scalar α] {m : Model α} {timeline : Timeline α}
    (h : m.IsOn timeline) (n : Network α) (t : Int) :
    (m.update n t).model.IsOn timeline ∧ (m.update n t).model.controlStep = m.controlStep := by
  obtain ⟨e, he, rfl⟩ := h
  unfold update
  rw [he]
  dsimp only
  split
  · exact ⟨⟨_, rfl, rfl⟩, rfl⟩
  · refine ⟨⟨_, rfl, ?_⟩, rfl⟩
    rw [clock_evaluate]
    rfl

theorem next_of_update {m : Model Rat} {timeline : Timeline Rat} (h : m.IsOn timeline)
    (hunit : 0 < timeline.timeScale) {n : Network Rat} {t next : Int}
    {committed : List (Committed Rat)}
    (hout : (m.update n t).outcome = .ok (committed, next)) :
    next = nextTimestamp (m.stepSeconds / timeline.timeScale) t := by
  obtain ⟨e, he, rfl⟩ := h
  unfold update at hout
  rw [he] at hout
  dsimp only at hout
  split at hout
  · cases hout
  · dsimp only at hout
    split at hout
    · cases hout
    · split at hout
      · cases hout
      · rename_i next' hnext
        cases hout
        have hscale : (e.clock.set t).moment.timeline.timeScale ≠ 0 := hunit.ne'
        rw [Moment.addSeconds_rat hscale] at hnext
        obtain rfl := Except.ok.inj hnext
        rfl

variable {networks : Nat → Network Rat} {models : Nat → Model Rat} {times : Nat → Int}
  {count : Nat}

theorem Updates.isOn (h : Updates networks models times count) {timeline : Timeline Rat}
    (hon : (models 0).IsOn timeline) :
    ∀ k ≤ count, (models k).IsOn timeline ∧ (models k).controlStep = (models 0).controlStep := by
  intro k
  induction k with
  | zero => exact fun _ => ⟨hon, rfl⟩
  | succ k ih =>
    intro hk
    obtain ⟨hk', hstep⟩ := ih (Nat.le_of_succ_le hk)
    rw [← h.model k hk, ← hstep]
    exact update_isOn hk' _ _

theorem Updates.next (h : Updates networks models times count) {timeline : Timeline Rat}
    (hon : (models 0).IsOn timeline) (hunit : 0 < timeline.timeScale) :
    ∀ k < count,
      times (k + 1) = nextTimestamp ((models 0).stepSeconds / timeline.timeScale) (times k) := by
  intro k hk
  obtain ⟨hk', hstep⟩ := h.isOn hon k hk.le
  obtain ⟨committed, hout⟩ := h.outcome k hk
  have hseconds : (models k).stepSeconds = (models 0).stepSeconds := by
    rw [stepSeconds, hstep, stepSeconds]
  rw [← hseconds]
  exact next_of_update hk' hunit hout

end Model

/-! ## 3. The period -/

/-- The moments go on, and none is further than half a time unit from where the schedule has it. -/
structure KeepsSchedule (timeline : Timeline Rat) (step : Rat) (times : Nat → Int)
    (count : Nat) : Prop where
  forward : ∀ k < count,
    (⟨times k, timeline⟩ : Moment Rat).seconds < (⟨times (k + 1), timeline⟩ : Moment Rat).seconds
  near : ∀ k ≤ count, |(⟨times k, timeline⟩ : Moment Rat).seconds -
    ((⟨times 0, timeline⟩ : Moment Rat).seconds + k * step)| ≤ timeline.timeScale / 2

/-- Moments that are a number of time units apart, the one nearest to a step. -/
structure Paced (timeline : Timeline Rat) (step : Rat) (times : Nat → Int) (count : Nat) :
    Prop where
  moments : ∀ k < count, times (k + 1) =
    Scalar.roundEven (times 0 + step / timeline.timeScale) +
      k * Scalar.roundEven (step / timeline.timeScale)
  /-- By how much the schedule is missed. -/
  drift : ∀ k ≤ count,
    ((k : Rat) - 2) * |timeline.timeScale * Scalar.roundEven (step / timeline.timeScale) - step| ≤
        |(⟨times k, timeline⟩ : Moment Rat).seconds -
          ((⟨times 0, timeline⟩ : Moment Rat).seconds + k * step)| ∧
      |(⟨times k, timeline⟩ : Moment Rat).seconds -
          ((⟨times 0, timeline⟩ : Moment Rat).seconds + k * step)| ≤
        k * |timeline.timeScale * Scalar.roundEven (step / timeline.timeScale) - step|
  forward : 2 ≤ count → ((∀ k < count, (⟨times k, timeline⟩ : Moment Rat).seconds <
    (⟨times (k + 1), timeline⟩ : Moment Rat).seconds) ↔ timeline.timeScale < 2 * step)
  kept : (∃ c : Int, step = timeline.timeScale * c) → KeepsSchedule timeline step times count

theorem seconds_lt_iff {timeline : Timeline Rat} (hunit : 0 < timeline.timeScale) (t t' : Int) :
    (⟨t, timeline⟩ : Moment Rat).seconds < (⟨t', timeline⟩ : Moment Rat).seconds ↔ t < t' := by
  rw [Moment.seconds_rat, Moment.seconds_rat, mul_lt_mul_iff_right₀ hunit, Int.cast_lt]

theorem paced_of_next {timeline : Timeline Rat} (hunit : 0 < timeline.timeScale) {step : Rat}
    (hstep : 0 < step) {times : Nat → Int} {count : Nat}
    (h : ∀ k < count, times (k + 1) = nextTimestamp (step / timeline.timeScale) (times k)) :
    Paced timeline step times count := by
  obtain ⟨unit, hu⟩ : ∃ unit, timeline.timeScale = unit := ⟨_, rfl⟩
  rw [hu] at h hunit
  have hx : 0 < step / unit := div_pos hstep hunit
  have hscale : unit * (step / unit) = step := mul_div_cancel₀ step hunit.ne'
  -- distances in seconds are distances in time units, times the length of the unit
  have hperiod : |unit * ratRoundEven (step / unit) - step| =
      unit * |ratRoundEven (step / unit) - step / unit| := by
    rw [← abs_of_pos hunit, ← abs_mul, abs_of_pos hunit, mul_sub, hscale]
  have hdist : ∀ k, |(⟨times k, timeline⟩ : Moment Rat).seconds -
      ((⟨times 0, timeline⟩ : Moment Rat).seconds + k * step)| =
      unit * |(times k : Rat) - (times 0 + k * (step / unit))| := by
    intro k
    rw [Moment.seconds_rat, Moment.seconds_rat, hu, ← abs_of_pos hunit, ← abs_mul,
      abs_of_pos hunit]
    congr 1
    rw [mul_sub, mul_add, mul_left_comm, hscale]
  have hforward : (∀ k < count, (⟨times k, timeline⟩ : Moment Rat).seconds <
      (⟨times (k + 1), timeline⟩ : Moment Rat).seconds) ↔ ∀ k < count, times k < times (k + 1) :=
    forall₂_congr fun k _ => seconds_lt_iff (hu ▸ hunit) _ _
  refine ⟨?_, ?_, ?_, ?_⟩
  · rw [hu]
    exact times_eq h
  · intro k hk
    rw [hdist, hu]
    show _ * |unit * (ratRoundEven (step / unit) : Rat) - step| ≤ _ ∧
      _ ≤ _ * |unit * (ratRoundEven (step / unit) : Rat) - step|
    rw [hperiod, mul_left_comm, mul_left_comm (k : Rat)]
    exact ⟨mul_le_mul_of_nonneg_left (le_drift h k hk) hunit.le,
      mul_le_mul_of_nonneg_left (drift_le h k hk) hunit.le⟩
  · intro hcount
    rw [hforward, forward_iff hx h hcount, hu, lt_div_iff₀ hunit]
    constructor
    · intro hlt
      linarith
    · intro hlt
      linarith
  · rintro ⟨c, hc⟩
    have hquot : step / unit = c := by rw [hc, hu, mul_div_cancel_left₀ _ hunit.ne']
    have hzero : |(ratRoundEven (step / unit) : Rat) - step / unit| = 0 := by
      rw [hquot, ratRoundEven_intCast, sub_self, abs_zero]
    refine ⟨hforward.mpr ?_, ?_⟩
    · intro k hk
      rw [h k hk]
      apply lt_nextTimestamp
      -- a whole number of units that is positive is at least one
      have hpos : 0 < c := by
        rw [hquot] at hx
        exact_mod_cast hx
      have hone : (1 : Rat) ≤ c := by exact_mod_cast hpos
      rw [hquot]
      linarith
    · intro k hk
      have hnone := drift_le h k hk
      rw [hzero, mul_zero] at hnone
      rw [hdist, hnone.antisymm (abs_nonneg _), mul_zero, hu]
      exact (half_pos hunit).le

/-- **A model that was set up updates at a steady period, the control step rounded to whole time
units.** -/
theorem update_paced [TimeReader ℚ] {m₀ : Model Rat} {n : Network Rat} {s : Settings Rat}
    {readFile : String → Option String} {log : List LogEntry} {faults : List Fault}
    {networks : Nat → Network Rat} {models : Nat → Model Rat} {times : Nat → Int} {count : Nat}
    (hsetup : m₀.setup n s readFile = (models 0, log, .ok faults))
    (hstep : 0 < (models 0).stepSeconds) (hunit : 0 < s.timeline.timeScale)
    (hupdates : Model.Updates networks models times count) :
    Paced s.timeline (models 0).stepSeconds times count :=
  paced_of_next hunit hstep (hupdates.next (Model.isOn_of_setup hsetup) hunit)

/-! ## 4. A step of 28 seconds, in units of 20 -/

/-- Settings with a time unit of 20 seconds. -/
def coarseSettings : Settings Rat :=
  ⟨"controls", "INFO", "", .whole 0, .whole 20, .whole 0, .whole 0, .whole 60, .array []⟩

/-- A model without rules, to be updated every 28 seconds. -/
def unevenModel : Model Rat :=
  .ofConfig ⟨.lines [], some (.int 28), false,
    .object [("rules", .array []), ("control_step", .int 28)]⟩

def bareNetwork : Network Rat := ⟨⟨[], []⟩, [], [], .empty, .empty, .empty, .empty⟩

open scoped Readers in
/-- The model after its setup, and after updates one time unit apart. -/
def unevenModels : Nat → Model Rat
  | 0 => (unevenModel.setup bareNetwork coarseSettings fun _ => none).1
  | k + 1 => ((unevenModels k).update bareNetwork k).model

open scoped Readers in
theorem unevenModels_setup : ∃ log faults,
    unevenModel.setup bareNetwork coarseSettings (fun _ => none) =
      (unevenModels 0, log, .ok faults) := by
  obtain ⟨faults, h⟩ := exists_ok_of_isOk
    (x := (unevenModel.setup bareNetwork coarseSettings fun _ => none).2.2) (by decide +kernel)
  exact ⟨_, faults, Prod.ext rfl (Prod.ext rfl h)⟩

theorem unevenModels_updates :
    Model.Updates (fun _ => bareNetwork) unevenModels (fun k => (k : Int)) 2 := by
  have hnext : ∀ k < 2, ((unevenModels k).update bareNetwork k).outcome.toOption.map Prod.snd =
      some ((k + 1 : Nat) : Int) := by decide +kernel
  refine ⟨?_, fun _ _ => rfl⟩
  intro k hk
  obtain ⟨⟨committed, next⟩, hout, hsnd⟩ := Option.map_eq_some_iff.mp (hnext k hk)
  obtain rfl : next = ((k + 1 : Nat) : Int) := hsnd
  exact ⟨committed, toOption_eq_some.mp hout⟩

open scoped Readers in
theorem update_paced_uneven : ∃ log faults,
    unevenModel.setup bareNetwork coarseSettings (fun _ => none) =
      (unevenModels 0, log, .ok faults) ∧
    Paced coarseSettings.timeline (unevenModels 0).stepSeconds (fun k => (k : Int)) 2 := by
  obtain ⟨log, faults, hsetup⟩ := unevenModels_setup
  exact ⟨log, faults, hsetup, update_paced hsetup (by decide +kernel) (by decide +kernel)
    unevenModels_updates⟩

open scoped Readers in
/-- After two updates the model is at 40 seconds and the schedule at 56, nearer to 60. -/
theorem not_keepsSchedule_uneven : ∃ log faults,
    unevenModel.setup bareNetwork coarseSettings (fun _ => none) =
      (unevenModels 0, log, .ok faults) ∧
    0 < (unevenModels 0).stepSeconds ∧ 0 < coarseSettings.timeline.timeScale ∧
    Model.Updates (fun _ => bareNetwork) unevenModels (fun k => (k : Int)) 2 ∧
    ¬ KeepsSchedule coarseSettings.timeline (unevenModels 0).stepSeconds
      (fun k => (k : Int)) 2 := by
  obtain ⟨log, faults, hsetup⟩ := unevenModels_setup
  refine ⟨log, faults, hsetup, by decide +kernel, by decide +kernel, unevenModels_updates, ?_⟩
  intro h
  exact absurd (h.near 2 le_rfl) (by decide +kernel)

end Sluice
