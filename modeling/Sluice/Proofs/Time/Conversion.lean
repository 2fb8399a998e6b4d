import Sluice.Proofs.Outcome
import Sluice.Proofs.Time.Instants
import Sluice.Time.Timeline

/-!
# From timestamps to time and back

A timestamp is a number of seconds, a unix time and an instant, and each of these leads back to a
timestamp by rounding. In exact arithmetic the seconds and the unix time of a timestamp are a whole
number of time units, of which nothing is rounded off. An instant is another matter, because it has
been rounded to microseconds on the way there. That moves it by half a microsecond at most, which
is less than half a time unit as long as **a time unit is longer than a microsecond**; so the way
back leads to the timestamp again (`Timeline.timestamps_return`).

Other seconds lead to the nearest timestamp, at half a time unit at most, and later ones never to an
earlier timestamp.
-/

set_option autoImplicit false

namespace Sluice

/-! ## 1. Seconds -/

theorem Moment.seconds_rat (timeline : Timeline Rat) (t : Int) :
    (⟨t, timeline⟩ : Moment Rat).seconds = timeline.timeScale * t := by
  rw [Moment.seconds, Timeline.toSeconds, Scalar.ofInt_rat]

theorem Moment.worldTime_rat (m : Moment Rat) :
    m.worldTime = m.timeline.reference + m.timeline.timeScale * m.timestamp := by
  rw [Moment.worldTime, Timeline.toUnix, Timeline.toSeconds, Scalar.ofInt_rat]

namespace Timeline

variable {t : Timeline Rat}

theorem ofSeconds_rat (hscale : t.timeScale ≠ 0) (seconds : Rat) :
    t.ofSeconds seconds = .ok (ratRoundEven (seconds / t.timeScale)) := by
  unfold ofSeconds
  rw [if_neg (by simpa using hscale)]
  rfl

/-- Seconds that are nearer to a timestamp than half a time unit lead to it. -/
theorem ofSeconds_of_near (hscale : 0 < t.timeScale) {seconds : Rat} {n : Int}
    (hnear : |seconds - t.timeScale * n| < t.timeScale / 2) : t.ofSeconds seconds = .ok n := by
  rw [ofSeconds_rat hscale.ne', ratRoundEven_eq]
  have hunits : seconds / t.timeScale - n = (seconds - t.timeScale * n) / t.timeScale := by
    rw [sub_div, mul_div_cancel_left₀ _ hscale.ne']
  rw [hunits, abs_div, abs_of_pos hscale, div_lt_iff₀ hscale]
  linarith

theorem ofSeconds_toSeconds (hscale : 0 < t.timeScale) (n : Int) :
    t.ofSeconds (t.toSeconds (Scalar.ofInt n)) = .ok n := by
  apply ofSeconds_of_near hscale
  rw [toSeconds, Scalar.ofInt_rat, sub_self, abs_zero]
  exact half_pos hscale

theorem ofUnix_toUnix (hscale : 0 < t.timeScale) (n : Int) :
    t.ofUnix (t.toUnix (Scalar.ofInt n)) = .ok n := by
  rw [ofUnix, toUnix, add_sub_cancel_left]
  exact ofSeconds_toSeconds hscale n

end Timeline

namespace Moment

variable {t : Timeline Rat}

theorem ofSeconds_rat (hscale : t.timeScale ≠ 0) (seconds : Rat) :
    ofSeconds seconds t = .ok ⟨ratRoundEven (seconds / t.timeScale), t⟩ := by
  unfold ofSeconds
  rw [Timeline.ofSeconds_rat hscale]
  rfl

/-- Going on is rounded in time units. -/
theorem addSeconds_rat {m : Moment Rat} (hscale : m.timeline.timeScale ≠ 0) (seconds : Rat) :
    m.addSeconds seconds =
      .ok ⟨ratRoundEven (m.timestamp + seconds / m.timeline.timeScale), m.timeline⟩ := by
  rw [addSeconds, ofSeconds_rat hscale, seconds_rat, add_div, mul_div_cancel_left₀ _ hscale]

/-- The moment of some seconds is at half a time unit from them at most. -/
theorem abs_seconds_sub_le (hscale : 0 < t.timeScale) (seconds : Rat) :
    |(⟨ratRoundEven (seconds / t.timeScale), t⟩ : Moment Rat).seconds - seconds| ≤
      t.timeScale / 2 := by
  have hround := abs_sub_ratRoundEven_le (seconds / t.timeScale)
  have hunits : t.timeScale * ratRoundEven (seconds / t.timeScale) - seconds =
      t.timeScale * (ratRoundEven (seconds / t.timeScale) - seconds / t.timeScale) := by
    rw [mul_sub, mul_div_cancel₀ _ hscale.ne']
  rw [seconds_rat, hunits, abs_mul, abs_of_pos hscale, abs_sub_comm]
  linarith [mul_le_mul_of_nonneg_left hround hscale.le]

/-! ## 2. Instants -/

/-- The instant of a moment leads back to it. -/
theorem exists_ofDateTime (hscale : 1 / 1000000 < t.timeScale) {n : Int}
    (h : InCalendar (⟨n, t⟩ : Moment Rat).worldTime) :
    ∃ i, (⟨n, t⟩ : Moment Rat).dateTime = .ok i ∧ ofDateTime i t = .ok ⟨n, t⟩ := by
  obtain ⟨i, hinstant, hmicro, -⟩ := DateTime.exists_instant h
  have hround := abs_le.mp (abs_sub_ratRoundEven_le ((⟨n, t⟩ : Moment Rat).worldTime * 1000000))
  have hback : t.ofUnix i.unixTime = .ok n := by
    apply Timeline.ofSeconds_of_near (by linarith)
    rw [DateTime.unixTime_rat, hmicro, DateTime.microsecondsFrom]
    rw [worldTime_rat] at hround ⊢
    dsimp only at hround ⊢
    rw [abs_lt]
    constructor
    · linarith
    · linarith
  refine ⟨i, hinstant, ?_⟩
  unfold ofDateTime Timeline.ofDateTime
  rw [hback]
  rfl

end Moment

/-! ## 3. There and back -/

/-- **A timestamp comes back from its seconds, its unix time and its instant, if a time unit is
longer than a microsecond; and seconds lead to the nearest timestamp, in their order.** -/
theorem Timeline.timestamps_return {t : Timeline Rat} (hscale : 1 / 1000000 < t.timeScale) :
    (∀ n : Int, InCalendar (⟨n, t⟩ : Moment Rat).worldTime →
      ∃ i, (⟨n, t⟩ : Moment Rat).dateTime = .ok i ∧ Moment.ofDateTime i t = .ok ⟨n, t⟩) ∧
    (∀ n : Int, t.ofUnix (t.toUnix (Scalar.ofInt n)) = .ok n ∧
      t.ofSeconds (t.toSeconds (Scalar.ofInt n)) = .ok n) ∧
    ∀ s s' : Rat, s ≤ s' → ∃ m m' : Moment Rat,
      Moment.ofSeconds s t = .ok m ∧ Moment.ofSeconds s' t = .ok m' ∧
      m.timestamp ≤ m'.timestamp ∧ m.seconds ≤ m'.seconds ∧ |m.seconds - s| ≤ t.timeScale / 2 := by
  have hpos : 0 < t.timeScale := by linarith
  refine ⟨fun n => Moment.exists_ofDateTime hscale,
    fun n => ⟨ofUnix_toUnix hpos n, ofSeconds_toSeconds hpos n⟩, ?_⟩
  intro s s' hs
  have hle : ratRoundEven (s / t.timeScale) ≤ ratRoundEven (s' / t.timeScale) :=
    ratRoundEven_mono (div_le_div_of_nonneg_right hs hpos.le)
  refine ⟨_, _, Moment.ofSeconds_rat hpos.ne' s, Moment.ofSeconds_rat hpos.ne' s', hle, ?_,
    Moment.abs_seconds_sub_le hpos s⟩
  rw [Moment.seconds_rat, Moment.seconds_rat]
  exact mul_le_mul_of_nonneg_left (by exact_mod_cast hle) hpos.le

/-- Time units of a third of a second, from a seventh of a second after the beginning of 1970. -/
def Timeline.thirds : Timeline Rat := ⟨1 / 7, 1 / 3, .whole 0, .whole 0⟩

/-- Five units before the reference; and half a unit, which is rounded to none. -/
theorem Timeline.timestamps_return_thirds :
    (∃ i, (⟨-5, thirds⟩ : Moment Rat).dateTime = .ok i ∧
      Moment.ofDateTime i thirds = .ok ⟨-5, thirds⟩) ∧
    thirds.ofUnix (thirds.toUnix (Scalar.ofInt (-5))) = .ok (-5) ∧
    thirds.ofSeconds (thirds.toSeconds (Scalar.ofInt (-5))) = .ok (-5) ∧
    ∃ m m' : Moment Rat, Moment.ofSeconds (1 / 6) thirds = .ok m ∧
      Moment.ofSeconds (1 / 2) thirds = .ok m' ∧ m.timestamp = 0 ∧ m.timestamp ≤ m'.timestamp := by
  obtain ⟨hinstant, hseconds, hnearest⟩ :=
    timestamps_return (t := thirds) (by norm_num [thirds])
  have hrange : InCalendar (⟨-5, thirds⟩ : Moment Rat).worldTime := by
    rw [DateTime.inCalendar_iff, Moment.worldTime_rat]
    norm_num [thirds]
  obtain ⟨m, m', hm, hm', hle, -, -⟩ := hnearest (1 / 6) (1 / 2) (by norm_num)
  have hzero : m = ⟨0, thirds⟩ := by
    have heven : ratRoundEven (1 / 6 / (1 / 3)) = 0 :=
      ratRoundEven_eq_of_even (by norm_num) ⟨0, rfl⟩
    rw [Moment.ofSeconds_rat (by norm_num [thirds])] at hm
    rw [← Except.ok.inj hm]
    exact congrArg (Moment.mk · thirds) heven
  exact ⟨hinstant (-5) hrange, (hseconds (-5)).1, (hseconds (-5)).2, m, m', hm, hm',
    congrArg Moment.timestamp hzero, hle⟩

end Sluice
