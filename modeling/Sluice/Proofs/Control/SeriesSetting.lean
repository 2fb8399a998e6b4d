import Sluice.Calendar.Readers
import Sluice.Proofs.Control.Bids
import Sluice.Proofs.Network.Lookup
import Sluice.Proofs.Time.Readings

/-!
# Settings that follow a time series

The time of an entry of a time series can be a number of seconds, which counts from the reference of
the timeline, or an instant. The table that is made of the entries knows unix times only, and so
does the clock when an action asks it. Between them stand three conversions, of which each could
lose the reference, or a fraction of a second. In exact arithmetic, and for whole microseconds, none
of them does:

> **numbers and instants make the same table, and what an action finds in it at a moment is what the
> entries say of the seconds of this moment** (`Engine.follows_series`).

What the entries say is `IsScheduled`. It knows of seconds only; the reference does not occur in it.
-/

set_option autoImplicit false

namespace Sluice

/-! ## 1. Entries -/

section

variable {α : Type} [Scalar α]

namespace Dataset

/-- The unix time of an entry. -/
def timeOf [TimeReader α] (origin : Origin α) (t : When α) : Except DatasetError α :=
  (t.unixTime origin).mapError .time

/-- A time series of times, written in any way, and values. -/
def seriesOf [TimeReader α] (origin : Origin α) (name : String) (entries : List (When α × α)) :
    Except DatasetError (Table α) := do
  let times ← (entries.map Prod.fst).mapM (timeOf origin)
  (Table.make? name times (entries.map Prod.snd)).mapError .table

/-- A row of a dataset gives the time and the value of an entry. -/
inductive IsEntry : Json → When α × α → Prop
  | row {time value : Json} {t : When α} {x : α} (htime : whenOf time = .ok t)
      (hvalue : Grid.cell value = .ok x) : IsEntry (.array [time, value]) (t, x)

/-- The time and the value of a row of a dataset. -/
def timedValue [TimeReader α] (origin : Origin α) (row : Json) :
    Except DatasetError (α × Json) := do
  let (time, value) ← pair row
  return (← timeOf origin (← whenOf time), value)

/-- Rows fail where the times of their entries do. -/
theorem exists_timedValues [TimeReader α] {rows : List Json} {entries : List (When α × α)}
    (origin : Origin α) (h : List.Forall₂ IsEntry rows entries) : ∃ values : List Json,
    values.mapM Grid.cell = .ok (entries.map Prod.snd) ∧ rows.mapM (timedValue origin) =
      ((entries.map Prod.fst).mapM (timeOf origin)).map fun times => times.zip values := by
  induction h with
  | nil => exact ⟨[], rfl, rfl⟩
  | @cons row entry rows entries hentry _ ih =>
    obtain ⟨values, hvalues, hrows⟩ := ih
    cases hentry with
    | @row time value t x htime hvalue =>
      refine ⟨value :: values, ?_, ?_⟩
      · rw [List.mapM_cons, hvalue, hvalues]
        rfl
      · have hrow : timedValue origin (.array [time, value]) =
            timeOf origin t >>= fun u => pure (u, value) := by
          show (whenOf time >>= fun t => timeOf origin t >>= fun u => pure (u, value)) = _
          rw [htime]
          rfl
        rw [List.mapM_cons, List.map_cons, List.mapM_cons, hrow, hrows]
        -- both sides stop at the first time that is missing
        cases timeOf origin t with
        | error e => rfl
        | ok u =>
          cases (entries.map Prod.fst).mapM (timeOf origin) with
          | error e => rfl
          | ok us => rfl

/-- What is read from a dataset is the series of its entries. -/
theorem timeSeries_eq [TimeReader α] {rows : List Json} {entries : List (When α × α)}
    (origin : Origin α) (name : String) (h : List.Forall₂ IsEntry rows entries) :
    timeSeries origin name (.array rows) = seriesOf origin name entries := by
  obtain ⟨values, hvalues, hrows⟩ := exists_timedValues origin h
  have hopen : timeSeries origin name (.array rows) = rows.mapM (timedValue origin) >>=
      fun pairs => timedTable name (pairs.map Prod.fst) (.array (pairs.map Prod.snd)) := rfl
  have hsize : values.length = entries.length := by
    rw [← List.length_map Prod.snd, (forall₂_of_mapM hvalues).length_eq]
  rw [hopen, hrows, seriesOf]
  cases htimes : (entries.map Prod.fst).mapM (timeOf origin) with
  | error e => rfl
  | ok times =>
    have hlength : times.length = values.length := by
      rw [hsize, ← List.length_map Prod.fst, (forall₂_of_mapM htimes).length_eq]
    show timedTable name ((times.zip values).map Prod.fst)
      (.array ((times.zip values).map Prod.snd)) = _
    rw [List.map_fst_zip hlength.le, List.map_snd_zip hlength.ge]
    unfold timedTable
    rw [ofJson_of_cells hvalues]
    rfl

end Dataset

end

/-! ## 2. One table -/

/-- A number of seconds has no fraction of a microsecond. -/
def IsMicroseconds (u : Rat) : Prop := ∃ n : Int, u * 1000000 = n

theorem IsMicroseconds.add {u v : Rat} (hu : IsMicroseconds u) (hv : IsMicroseconds v) :
    IsMicroseconds (u + v) := by
  obtain ⟨m, hm⟩ := hu
  obtain ⟨n, hn⟩ := hv
  exact ⟨m + n, by rw [add_mul, hm, hn, Int.cast_add]⟩

/-- Nothing of whole microseconds is lost in an instant. -/
theorem IsMicroseconds.exists_instant {u : Rat} (hu : IsMicroseconds u) (h : InCalendar u) :
    ∃ i : DateTime, DateTime.ofUnixTime u = .ok i ∧ i.offset = none ∧ i.unixTime = u := by
  obtain ⟨n, hn⟩ := hu
  obtain ⟨i, hi, hmicro, hoffset⟩ := DateTime.exists_instant h
  refine ⟨i, hi, hoffset, ?_⟩
  rw [DateTime.unixTime_rat, hmicro, DateTime.microsecondsFrom, hn, ratRoundEven_intCast, ← hn]
  exact mul_div_cancel_right₀ u (by norm_num)

/-- Times of whole microseconds are instants without loss. -/
theorem exists_instants {reference : Rat} {points : List (Point Rat)}
    (hmicro : ∀ p ∈ points, IsMicroseconds (reference + p.x))
    (hrange : ∀ p ∈ points, InCalendar (reference + p.x)) : ∃ instants : List DateTime,
    List.Forall₂ (fun p i => DateTime.ofUnixTime (reference + p.x) = .ok i ∧ i.offset = none ∧
      i.unixTime = reference + p.x) points instants := by
  have hall : ∀ p ∈ points, ∃ i, DateTime.ofUnixTime (reference + p.x) = .ok i := by
    intro p hp
    obtain ⟨i, hi, -⟩ := (hmicro p hp).exists_instant (hrange p hp)
    exact ⟨i, hi⟩
  obtain ⟨instants, hinstants⟩ := exists_mapM_ok hall
  refine ⟨instants, ?_⟩
  have hmembers := List.forall₂_and_left _ _ |>.mpr
    ⟨fun p hp => And.intro (hmicro p hp) (hrange p hp), forall₂_of_mapM hinstants⟩
  refine hmembers.imp ?_
  rintro p i ⟨⟨hp, hpr⟩, hi⟩
  obtain ⟨i', hi', hoffset, hunix⟩ := hp.exists_instant hpr
  rw [hi] at hi'
  obtain rfl := Except.ok.inj hi'
  exact ⟨hi, hoffset, hunix⟩

/-- Entries whose times are numbers. -/
def numbered (entries : List (Point Rat)) : List (When Rat × Rat) :=
  entries.map fun p => (.number p.x, p.y)

/-- Entries whose times are instants. -/
def dated (entries : List (Point Rat)) (instants : List DateTime) : List (When Rat × Rat) :=
  List.zipWith (fun p i => (.instant i, p.y)) entries instants

namespace Dataset

/-- Entries that give the times and the values of points make the table of these points. -/
theorem seriesOf_eq [TimeReader ℚ] {origin : Origin Rat} {reference : Rat}
    {points : List (Point Rat)} {entries : List (When Rat × Rat)} (name : String)
    (hinc : Table.IsIncreasing points)
    (h : List.Forall₂ (fun e p => timeOf origin e.1 = .ok (reference + p.x) ∧ e.2 = p.y)
      entries points) :
    seriesOf origin name entries = .ok ⟨name, Table.moved reference points⟩ := by
  have htimes : (entries.map Prod.fst).mapM (timeOf origin) =
      .ok ((Table.moved reference points).map Point.x) := by
    apply mapM_of_forall₂
    rw [List.forall₂_map_left_iff, List.forall₂_map_right_iff, Table.moved,
      List.forall₂_map_right_iff]
    exact h.imp fun _ _ hentry => hentry.1
  have hvalues : entries.map Prod.snd = (Table.moved reference points).map Point.y := by
    rw [← List.forall₂_eq_eq_eq, List.forall₂_map_left_iff, List.forall₂_map_right_iff,
      Table.moved, List.forall₂_map_right_iff]
    exact h.imp fun _ _ hentry => hentry.2
  unfold seriesOf
  rw [htimes, hvalues]
  show (Table.make? name _ _).mapError DatasetError.table = _
  rw [Table.make?_of_isIncreasing name (hinc.moved reference)]
  rfl

theorem seriesOf_numbered [TimeReader ℚ] (T : Timeline Rat) {points : List (Point Rat)}
    (name : String) (hinc : Table.IsIncreasing points) :
    seriesOf T.origin name (numbered points) = .ok ⟨name, Table.moved T.reference points⟩ := by
  refine seriesOf_eq name hinc ?_
  rw [numbered, List.forall₂_map_left_iff, List.forall₂_same]
  exact fun p _ => ⟨rfl, rfl⟩

theorem seriesOf_dated [TimeReader ℚ] (origin : Origin Rat) {reference : Rat}
    {points : List (Point Rat)} {instants : List DateTime} (name : String)
    (hinc : Table.IsIncreasing points)
    (h : List.Forall₂ (fun p i => i.unixTime = reference + p.x) points instants) :
    seriesOf origin name (dated points instants) = .ok ⟨name, Table.moved reference points⟩ := by
  refine seriesOf_eq name hinc ?_
  clear hinc
  induction h with
  | nil => exact .nil
  | cons hinstant _ ih => exact .cons ⟨congrArg Except.ok hinstant, rfl⟩ ih

end Dataset

/-! ## 3. Following the series -/

/-- What entries in order say of a setting, some seconds after the reference. -/
structure IsScheduled (entries : List (Point Rat)) (seconds setting : Rat) : Prop where
  at_entry : ∀ p ∈ entries, seconds = p.x → setting = p.y
  between : ∀ i p q, entries[i]? = some p → entries[i + 1]? = some q →
    p.x ≤ seconds → seconds ≤ q.x → min p.y q.y ≤ setting ∧ setting ≤ max p.y q.y
  before : ∀ p, entries.head? = some p → seconds ≤ p.x → setting = p.y
  behind : ∀ p, entries.getLast? = some p → p.x ≤ seconds → setting = p.y

theorem Table.Interpolates.isScheduled {points : List (Point Rat)} {x y : Rat}
    (h : Interpolates points x y) (hinc : IsIncreasing points) : IsScheduled points x y where
  at_entry p hp hx := by
    obtain ⟨i, hi⟩ := List.getElem?_of_mem hp
    exact h.eq_point hinc hi hx
  between i p q hp hq hleft hright := h.mem_segment hinc hp hq hleft hright
  before p hp hx := h.eq_first hinc hp hx
  behind p hp hx := h.eq_last hinc hp hx

/-- In the table that was moved to the reference, the seconds are found behind the reference. -/
theorem Table.lookup_moved_isScheduled {points : List (Point Rat)} (hinc : IsIncreasing points)
    (name : String) (reference seconds : Rat) :
    IsScheduled points seconds ((⟨name, moved reference points⟩ : Table Rat).lookup
      (reference + seconds)) := by
  by_cases hne : points = []
  · subst hne
    exact ⟨nofun, nofun, nofun, nofun⟩
  · have hmoved : moved reference points ≠ [] := by
      unfold moved
      exact mt List.map_eq_nil_iff.mp hne
    have hline := lookup_interpolates (t := ⟨name, moved reference points⟩)
      (hinc.moved reference) hmoved (reference + seconds)
    exact hline.of_moved.isScheduled hinc

/-- A setting that follows a series is looked up at the unix time of the reading. -/
theorem Action.compute_timeSeries {a : Action Rat} {n : Network Rat} {k : Nat} {t : Table Rat}
    (ha : a.mode = .timeSeries k) (hk : n.series[k]? = some t) (r : Reading Rat) (dt : Rat) :
    a.compute n r dt = .ok (t.lookup r.worldTime, a) := by
  rw [compute, ha]
  show (lookupAt n.series k r.worldTime).map _ = _
  rw [lookupAt, hk]
  rfl

theorem InCalendar.of_between {u v w : Rat} (hu : InCalendar u) (hw : InCalendar w) (huv : u ≤ v)
    (hvw : v ≤ w) : InCalendar v :=
  ⟨hu.1.trans huv, hvw.trans hw.2⟩

/-- **Entries of whole microseconds make the same table with numbers as with instants, and an action
that follows it has the settings that the entries give for the seconds of the moment.** -/
theorem Engine.follows_series [TimeReader ℚ] {T : Timeline Rat} {entries : List (Point Rat)}
    (name : String) (hreference : IsMicroseconds T.reference)
    (hentries : ∀ p ∈ entries, IsMicroseconds p.x) (hinc : Table.IsIncreasing entries)
    (hrange : ∀ p ∈ entries, InCalendar (T.reference + p.x)) :
    ∃ (instants : List DateTime) (t : Table Rat),
      List.Forall₂ (fun p i => DateTime.ofUnixTime (T.reference + p.x) = .ok i ∧ i.offset = none)
        entries instants ∧
      Dataset.seriesOf T.origin name (numbered entries) = .ok t ∧
      (∀ rows, List.Forall₂ Dataset.IsEntry rows (numbered entries) →
        Dataset.timeSeries T.origin name (.array rows) = .ok t) ∧
      (∀ origin, Dataset.seriesOf origin name (dated entries instants) = .ok t) ∧
      ∀ (n : Network Rat) (k : Nat) (e : Engine Rat), n.series[k]? = some t →
        e.clock.timeline = T →
        ((∃ p ∈ entries, ∃ q ∈ entries, p.x ≤ e.clock.moment.seconds ∧
            e.clock.moment.seconds ≤ q.x) → InCalendar e.clock.moment.worldTime) ∧
        (InCalendar e.clock.moment.worldTime → ∃ e' r, e.takeReading = .ok (e', r) ∧
          ∀ (a : Action Rat) (dt : Rat), a.mode = .timeSeries k →
            ∃ v, a.compute n r dt = .ok (v, a) ∧ IsScheduled entries e.clock.moment.seconds v) := by
  obtain ⟨instants, hinstants⟩ :=
    exists_instants (fun p hp => hreference.add (hentries p hp)) hrange
  have hnumbered := Dataset.seriesOf_numbered T name hinc
  refine ⟨instants, ⟨name, Table.moved T.reference entries⟩,
    hinstants.imp fun _ _ h => ⟨h.1, h.2.1⟩, hnumbered,
    fun rows hrows => (Dataset.timeSeries_eq T.origin name hrows).trans hnumbered,
    fun origin => Dataset.seriesOf_dated origin name hinc (hinstants.imp fun _ _ h => h.2.2), ?_⟩
  intro n k e hk hT
  have hworld : e.clock.moment.worldTime = T.reference + e.clock.moment.seconds := by
    rw [← hT]
    rfl
  constructor
  · rintro ⟨p, hp, q, hq, hleft, hright⟩
    rw [hworld]
    exact (hrange p hp).of_between (hrange q hq) (add_le_add_right hleft _)
      (add_le_add_right hright _)
  · intro hcalendar
    obtain ⟨r, hr, hrworld⟩ := e.clock.exists_reading_of_inCalendar hcalendar
    refine ⟨_, r, takeReading_eq hr, ?_⟩
    intro a dt ha
    refine ⟨_, a.compute_timeSeries ha hk r dt, ?_⟩
    rw [hrworld, hworld]
    exact Table.lookup_moved_isScheduled hinc name T.reference e.clock.moment.seconds

/-- A timeline of thirds of a second, from an hour before the leap day of the year 2000. -/
def leapEvening : Timeline Rat := ⟨951778800, 1 / 3, .whole 0, .whole 0⟩

/-- A gate is closed to the half, from half a second before the reference until midnight. -/
def closing : List (Point Rat) := [⟨-1 / 2, 1⟩, ⟨3600, 1 / 2⟩]

def closingAction : Action Rat := ⟨0, "gate", .setting, .timeSeries 0⟩

/-- A network with a time series alone. -/
def scheduledNetwork (t : Table Rat) : Network Rat :=
  ⟨⟨[], []⟩, [], [t], .empty, .empty, .empty, ⟨["closing"], [("closing", 0)]⟩⟩

open scoped Readers in
/-- At midnight it is closed to the half. -/
theorem Engine.follows_series_closing : ∃ (instants : List DateTime) (t : Table Rat),
    Dataset.seriesOf leapEvening.origin "closing" (numbered closing) = .ok t ∧
    Dataset.seriesOf .missing "closing" (dated closing instants) = .ok t ∧
    ∃ e' r, (ofClock ⟨leapEvening, 10800⟩).takeReading = .ok (e', r) ∧
      closingAction.compute (scheduledNetwork t) r 5 = .ok (1 / 2, closingAction) := by
  have hentries : ∀ p ∈ closing, IsMicroseconds p.x := by
    refine List.forall_mem_cons.mpr ⟨⟨-500000, by norm_num⟩, List.forall_mem_singleton.mpr ?_⟩
    exact ⟨3600000000, by norm_num⟩
  have hinc : Table.IsIncreasing closing := by
    refine List.pairwise_pair.mpr ?_
    norm_num
  have hrange : ∀ p ∈ closing, InCalendar (leapEvening.reference + p.x) := by
    refine List.forall_mem_cons.mpr ⟨?_, List.forall_mem_singleton.mpr ?_⟩
    · norm_num [DateTime.inCalendar_iff, leapEvening]
    · norm_num [DateTime.inCalendar_iff, leapEvening]
  obtain ⟨instants, t, -, hnumbered, -, hdated, hsettings⟩ :=
    follows_series "closing" ⟨951778800000000, by norm_num [leapEvening]⟩ hentries hinc hrange
  have hseconds : (ofClock ⟨leapEvening, 10800⟩ : Engine Rat).clock.moment.seconds = 3600 := by
    unfold ofClock Clock.moment
    rw [Moment.seconds_rat]
    norm_num [leapEvening]
  obtain ⟨hbetween, hsettings⟩ := hsettings
    (scheduledNetwork t) 0 (ofClock ⟨leapEvening, 10800⟩) rfl rfl
  rw [hseconds] at hbetween hsettings
  obtain ⟨e', r, hreading, hcompute⟩ := hsettings
    (hbetween ⟨⟨-1 / 2, 1⟩, by simp [closing], ⟨3600, 1 / 2⟩, by simp [closing], by norm_num⟩)
  obtain ⟨v, hv, hscheduled⟩ := hcompute closingAction 5 rfl
  have hmidnight : v = 1 / 2 := hscheduled.behind ⟨3600, 1 / 2⟩ rfl le_rfl
  rw [hmidnight] at hv
  exact ⟨instants, t, hnumbered, hdated .missing, e', r, hreading, hv⟩

end Sluice
