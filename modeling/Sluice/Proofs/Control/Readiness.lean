import Sluice.Calendar.Readers
import Sluice.Control.Model
import Sluice.Proofs.Config.Acceptance
import Sluice.Proofs.Control.Footprint

/-!
# When a model is ready

A model is asked to set up, to update and to shut down, in whatever order its caller likes.
Whether an update evaluates rules depends on one of these calls only: the last setup that came as
far as making an engine, unless the model was shut down since (`inCharge`). If there is none the
update is refused and changes nothing. If there is one, **the update evaluates the rules of that
setup**, the memories of their controllers moved on by the updates since (`update_after_calls`);
only where a scenario has put something else in the place of a number of the timeline, it ends
when it reads the clock.

This is so whether or not the setup returned. All that an engine needs is a first moment, and
settings that were not spoilt have one. From there on the engine is in place, and a setup that
fails later does not take it away again: in strict mode it holds the rules up to the one with the
first fault, and without the file of rules none at all. So a model whose setup failed is not
refused as one that *has not been set up* (`not_refused_halfGood`).

The length of the control step is another matter. A setup takes it over before it looks for a
first moment, so it comes from the last setup of all (`lastSetup`), and an update may evaluate the
rules of one setup with the step of a later one.
-/

set_option autoImplicit false

namespace Sluice

variable {α : Type} [Scalar α]

/-! ## 1. Memories and rules -/

theorem Action.reset_after (n : Network α) (r : Reading α) (dt : α) (a : Action α) :
    (a.after n r dt).reset = a.reset := by
  unfold after
  split
  · rename_i x a' h
    rcases compute_eq_ok h with rfl | ⟨c, e1, e2, hmode, rfl⟩
    · rfl
    · unfold reset
      rw [hmode]
      rfl
  · rfl

theorem Rule.reset_after (n : Network α) (r : Reading α) (dt : α) (rule : Rule α) :
    (rule.after n r dt).mapActions Action.reset = rule.mapActions Action.reset := by
  have hactions : ∀ as : List (Action α),
      (as.map (Action.after n r dt)).map Action.reset = as.map Action.reset := by
    intro as
    rw [List.map_map]
    exact List.map_congr_left fun a _ => a.reset_after n r dt
  unfold after
  split
  · rename_i holds _
    cases holds with
    | true => simp only [withBranch, branch, mapActions, hactions, if_true]
    | false => simp only [withBranch, branch, mapActions, hactions, Bool.false_eq_true, if_false]
  · rfl

/-- An engine has the rules of another one and its timeline, and remembers what it likes. -/
structure Engine.Continues (e built : Engine α) : Prop where
  timeline : e.clock.timeline = built.clock.timeline
  rules : e.rules.map (Rule.mapActions Action.reset) =
    built.rules.map (Rule.mapActions Action.reset)

theorem Engine.Continues.evaluateMinutes {e built : Engine α} (h : e.Continues built)
    (n : Network α) (dt : α) : (e.evaluateMinutes n dt).engine.Continues built := by
  refine ⟨(congrArg Clock.timeline (e.clock_evaluateMinutes n dt)).trans h.timeline, ?_⟩
  cases hr : e.clock.reading with
  | error cause =>
    rw [evaluateMinutes_unread hr]
    exact h.rules
  | ok r =>
    rw [rules_evaluateMinutes hr, List.map_map, ← h.rules]
    apply List.map_congr_left
    intro rule _
    exact rule.reset_after n r dt

theorem Engine.Continues.judgeOnly {e built : Engine α} (h : e.Continues built)
    (n : Network α) (cause : LengthError) : (e.judgeOnly n cause).engine.Continues built := by
  cases hr : e.clock.reading with
  | error cause' =>
    rw [judgeOnly_unread hr]
    exact h
  | ok r =>
    obtain ⟨events, heq⟩ := judgeOnly_eq hr n cause
    rw [heq]
    exact ⟨h.timeline, h.rules⟩

namespace Model

/-- However long a step is said to be, it only moves memories on. -/
theorem continues_evaluate {e built : Engine α} (h : e.Continues built) (n : Network α)
    (step : Amount α) : (evaluate e n step).engine.Continues built := by
  unfold evaluate
  split
  · exact h.evaluateMinutes n _
  · exact h.judgeOnly n _

/-! ## 2. Calls -/

/-- What a model is set up with. -/
structure Setup (α : Type) where
  network : Network α
  settings : Settings α
  readFile : String → Option String

inductive Call (α : Type) where
  | setup (s : Setup α)
  | update (n : Network α) (timestamp : Int)
  | shutdown

def call [TimeReader α] (m : Model α) : Call α → Model α
  | .setup s => (m.setup s.network s.settings s.readFile).1
  | .update n timestamp => (m.update n timestamp).model
  | .shutdown => m.shutdown

def calls [TimeReader α] (m : Model α) (cs : List (Call α)) : Model α := cs.foldl call m

/-- The last setup after a call. -/
def Call.lastSetup (current : Option (Setup α)) : Call α → Option (Setup α)
  | .setup s => some s
  | .update _ _ => current
  | .shutdown => none

/-- The last setup, unless there was a shutdown after it. -/
def lastSetup (cs : List (Call α)) : Option (Setup α) := cs.foldl Call.lastSetup none

/-- A setup comes as far as making an engine: its settings have a first moment. -/
def Setup.Starts (s : Setup α) : Prop := ∃ clock, startClock s.settings = .ok clock

instance (s : Setup α) : Decidable s.Starts :=
  decidable_of_iff ((startClock s.settings).isOk = true) <| by
    refine ⟨exists_ok_of_isOk, ?_⟩
    rintro ⟨clock, h⟩
    rw [h]
    rfl

/-- The setup whose engine there is after a call. -/
def Call.inCharge (current : Option (Setup α)) : Call α → Option (Setup α)
  | .setup s => if s.Starts then some s else current
  | .update _ _ => current
  | .shutdown => none

/-- The last setup that made an engine, unless there was a shutdown after it. -/
def inCharge (cs : List (Call α)) : Option (Setup α) := cs.foldl Call.inCharge none

/-! ## 3. Setups -/

namespace Setup

variable (config : ControlsConfig) (s : Setup α)

/-- The control step of the config, or else that of the settings. -/
def step : Amount α := (config.controlStep.map Amount.ofJson).getD s.settings.controlStep

/-- The engine that a setup makes, with as many rules as it comes to build. -/
def engine [TimeReader α] (clock : Clock α) : Engine α :=
  let fresh : Engine α := Engine.ofClock clock
  match ruleLines config s.readFile with
  | .error _ => fresh
  | .ok lines => (fresh.buildRules s.network config.strict lines).1

/-- An engine with the rules that a setup came to build, and its timeline. -/
def Drives [TimeReader α] (e : Engine α) : Prop :=
  ∃ clock, startClock s.settings = .ok clock ∧ e.Continues (s.engine config clock)

/-- The setup of a model with a config returns. -/
def Returns [TimeReader α] : Prop :=
  ∃ faults, ((ofConfig config).setup s.network s.settings s.readFile).2.2 = .ok faults

end Setup

/-- A setup with a first moment leaves its engine behind, however it ends. -/
theorem setup_eq [TimeReader α] (m : Model α) {s : Setup α} {clock : Clock α}
    (h : startClock s.settings = .ok clock) : (m.setup s.network s.settings s.readFile).1 =
    ⟨m.config, s.step m.config, some (s.engine m.config clock), s.settings.problem?⟩ := by
  unfold setup Setup.engine Setup.step
  rw [h]
  dsimp only
  cases ruleLines m.config s.readFile with
  | error e => rfl
  | ok lines =>
    dsimp only
    generalize (Engine.ofClock clock).buildRules s.network m.config.strict lines = built
    obtain ⟨e, log, failure | faults⟩ := built
    · rfl
    · rfl

/-- Without a first moment a setup takes over the length of a step and nothing else. -/
theorem setup_eq_of_error [TimeReader α] (m : Model α) {s : Setup α} {e : StartError}
    (h : startClock s.settings = .error e) : m.setup s.network s.settings s.readFile =
    (⟨m.config, s.step m.config, m.engine, m.problem?⟩, [], .error (.start e)) := by
  unfold setup Setup.step
  rw [h]

/-! ## 4. Models after some calls -/

/-- What a model is like, given its last setup and the one that made its engine. -/
structure Follows [TimeReader α] (config : ControlsConfig) (last driver : Option (Setup α))
    (m : Model α) : Prop where
  hasConfig : m.config = config
  step : ∀ s, last = some s → m.controlStep = s.step config
  off : driver = none → m.engine = none
  on : ∀ s, driver = some s →
    (∃ e, m.engine = some e ∧ s.Drives config e) ∧ m.problem? = s.settings.problem?
  attempted : ∀ s, driver = some s → ∃ s', last = some s'

variable {config : ControlsConfig} {last driver : Option (Setup α)} {m : Model α}

theorem follows_none [TimeReader α] (hconfig : m.config = config) (hengine : m.engine = none) :
    Follows config none none m := by
  refine ⟨hconfig, ?_, fun _ => hengine, ?_, ?_⟩
  all_goals
    intro s hs
    cases hs

theorem Follows.setup [TimeReader α] (h : Follows config last driver m) (s : Setup α) :
    Follows config (some s) (Call.inCharge driver (.setup s))
      (m.setup s.network s.settings s.readFile).1 := by
  obtain ⟨rfl, -, hoff, hon, -⟩ := h
  cases hclock : startClock s.settings with
  | error e =>
    have hdriver : Call.inCharge driver (.setup s) = driver := by
      simp [Call.inCharge, Setup.Starts, hclock]
    rw [setup_eq_of_error m hclock, hdriver]
    refine ⟨rfl, ?_, hoff, hon, fun _ _ => ⟨s, rfl⟩⟩
    rintro s' ⟨⟩
    rfl
  | ok clock =>
    have hdriver : Call.inCharge driver (.setup s) = some s := by
      simp [Call.inCharge, Setup.Starts, hclock]
    rw [setup_eq m hclock, hdriver]
    refine ⟨rfl, ?_, nofun, ?_, fun _ _ => ⟨s, rfl⟩⟩
    · rintro s' ⟨⟩
      rfl
    · rintro s' ⟨⟩
      exact ⟨⟨_, rfl, clock, hclock, rfl, rfl⟩, rfl⟩

theorem Follows.update [TimeReader α] (h : Follows config last driver m) (n : Network α)
    (timestamp : Int) :
    Follows config last driver (m.update n timestamp).model := by
  obtain ⟨hconfig, hstep, hoff, hon, hlast⟩ := h
  unfold Model.update
  cases he : m.engine with
  | none => exact ⟨hconfig, hstep, hoff, hon, hlast⟩
  | some e =>
    have hon' : driver ≠ none := by
      intro hnone
      rw [hoff hnone] at he
      cases he
    dsimp only
    -- setting the clock changes neither its timeline nor the rules
    have hset : ∀ s, driver = some s →
        s.Drives config { e with clock := e.clock.set timestamp } ∧
          m.problem? = s.settings.problem? := by
      intro s hs
      obtain ⟨⟨e', he', clock, hclock, hcontinues⟩, hproblem⟩ := hon s hs
      cases he.symm.trans he'
      exact ⟨⟨clock, hclock, hcontinues.timeline, hcontinues.rules⟩, hproblem⟩
    split
    · refine ⟨hconfig, hstep, fun hnone => absurd hnone hon', ?_, hlast⟩
      intro s hs
      obtain ⟨hdrives, hproblem⟩ := hset s hs
      exact ⟨⟨_, rfl, hdrives⟩, hproblem⟩
    · refine ⟨hconfig, hstep, fun hnone => absurd hnone hon', ?_, hlast⟩
      intro s hs
      obtain ⟨⟨clock, hclock, hcontinues⟩, hproblem⟩ := hset s hs
      exact ⟨⟨_, rfl, clock, hclock, continues_evaluate hcontinues n m.controlStep⟩, hproblem⟩

theorem Follows.call [TimeReader α] (h : Follows config last driver m) (c : Call α) :
    Follows config (c.lastSetup last) (c.inCharge driver) (m.call c) := by
  cases c with
  | setup s => exact h.setup s
  | shutdown => exact follows_none h.hasConfig rfl
  | update n timestamp => exact h.update n timestamp

theorem Follows.calls [TimeReader α] (h : Follows config last driver m) (cs : List (Call α)) :
    Follows config (cs.foldl Call.lastSetup last) (cs.foldl Call.inCharge driver)
      (m.calls cs) := by
  induction cs generalizing last driver m with
  | nil => exact h
  | cons c rest ih => exact ih (h.call c)

theorem follows_calls [TimeReader α] (config : ControlsConfig) (cs : List (Call α)) :
    Follows config (lastSetup cs) (inCharge cs) ((ofConfig config).calls cs) := by
  have hnew : Follows config none none (ofConfig config : Model α) := follows_none rfl rfl
  exact hnew.calls cs

/-- If all setups have a first moment, the last one made the engine. -/
theorem foldl_inCharge (cs : List (Call α)) (h : ∀ s, Call.setup s ∈ cs → s.Starts)
    (current : Option (Setup α)) :
    cs.foldl Call.inCharge current = cs.foldl Call.lastSetup current := by
  induction cs generalizing current with
  | nil => rfl
  | cons c rest ih =>
    have hfirst : Call.inCharge current c = Call.lastSetup current c := by
      cases c with
      | setup s => exact if_pos (h s List.mem_cons_self)
      | update n timestamp => rfl
      | shutdown => rfl
    rw [List.foldl_cons, List.foldl_cons, hfirst]
    exact ih (fun s hs => h s (List.mem_cons_of_mem c hs)) _

theorem outcome_update_ne_notReady {e : Engine α} (h : m.engine = some e) (n : Network α)
    (timestamp : Int) : (m.update n timestamp).outcome ≠ .error .notReady := by
  unfold Model.update
  rw [h]
  dsimp only
  split
  · nofun
  · dsimp only
    split
    · nofun
    · split
      · nofun
      · nofun

/-- **An update is refused and changes nothing if no setup has made an engine since the last
shutdown; otherwise, whether or not the last setup that did returned, it evaluates the rules of
that setup, or ends at its clock if the settings of the setup do not tell the time. It is the last
setup of all, unless a later one had no first moment.** -/
theorem update_after_calls [TimeReader α] (config : ControlsConfig) (cs : List (Call α))
    (n : Network α) (timestamp : Int) :
    (inCharge cs = none → ((ofConfig config).calls cs).update n timestamp =
      ⟨(ofConfig config).calls cs, n, [], .error .notReady⟩) ∧
    (∀ s, inCharge cs = some s → ∃ e last, s.Drives config e ∧ lastSetup cs = some last ∧
      (ofConfig config).calls cs = ⟨config, last.step config, some e, s.settings.problem?⟩ ∧
      let e' := { e with clock := e.clock.set timestamp }
      let u := ((ofConfig config).calls cs).update n timestamp
      (∀ p, s.settings.problem? timestamp = some p → u =
        ⟨⟨config, last.step config, some e', s.settings.problem?⟩, n, [], .error (.settings p)⟩) ∧
      (s.settings.problem? timestamp = none →
        let result := evaluate e' n (last.step config)
        u.model = ⟨config, last.step config, some result.engine, s.settings.problem?⟩ ∧
          u.network = result.network ∧ u.events = result.events ∧
          u.outcome ≠ .error .notReady)) ∧
    ((∀ s, Call.setup s ∈ cs → s.Starts) → inCharge cs = lastSetup cs) := by
  have hfollows := follows_calls config cs
  generalize (ofConfig config).calls cs = m at hfollows ⊢
  obtain ⟨rfl, hstep, hoff, hon, hattempted⟩ := hfollows
  refine ⟨?_, ?_, fun h => foldl_inCharge cs h none⟩
  · intro hnone
    unfold update
    rw [hoff hnone]
  · intro s hs
    obtain ⟨⟨e, he, hdrives⟩, hproblem⟩ := hon s hs
    obtain ⟨last, hlast⟩ := hattempted s hs
    have hmodel : m = ⟨m.config, last.step m.config, some e, s.settings.problem?⟩ := by
      rw [← he, ← hstep last hlast, ← hproblem]
    have hready := outcome_update_ne_notReady he n timestamp
    refine ⟨e, last, hdrives, hlast, hmodel, ?_⟩
    rw [hmodel] at hready ⊢
    unfold update at hready ⊢
    dsimp only at hready ⊢
    constructor
    · intro p hp
      rw [hp]
    · intro hnone
      rw [hnone] at hready ⊢
      exact ⟨rfl, rfl, rfl, hready⟩

/-! ## 5. A setup that fails half way -/

/-- Strict rules of which the second one names an object that there is not. -/
def halfGood : ControlsConfig where
  rules := .lines ["RULE R1", "IF NODE N1 DEPTH < 1", "THEN PUMP P1 STATUS = OFF", "RULE R2",
    "IF NODE N2 DEPTH < 1", "THEN PUMP P1 STATUS = ON"]
  controlStep := none
  strict := true
  written := .object [("rules", .array [.text "RULE R1", .text "IF NODE N1 DEPTH < 1",
      .text "THEN PUMP P1 STATUS = OFF", .text "RULE R2", .text "IF NODE N2 DEPTH < 1",
      .text "THEN PUMP P1 STATUS = ON"]),
    ("strict", .bool true)]

theorem ofJson_halfGood :
    ControlsConfig.ofJson Numeral.digitLimit halfGood.written = .ok halfGood := by
  have hplain : Config.plain Numeral.digitLimit halfGood.written = .ok halfGood.written := by
    refine ControlsConfig.plain_eq_ok (Json.exists_decode?_iff.mpr ⟨?_, ?_⟩)
    · simp [halfGood, Json.Distinct, Json.MembersDistinct, Json.ItemsDistinct]
    · simp [halfGood, Json.fits, Json.membersFit, Json.itemsFit]
  obtain ⟨checked, h⟩ := exists_ok_of_isOk
    (x := ControlsConfig.schema.check Schema.noReference halfGood.written) (by decide +kernel)
  rw [ControlsConfig.ofJson_eq hplain, h]
  rfl

/-- A pump behind an empty node, and the default settings. -/
def atPump : Setup Rat where
  network := ⟨⟨[⟨"N1", 0, 0, 0, 0⟩], [⟨"P1", .pump, 0, 0, 1, 1, 1, 0⟩]⟩, [], [],
    ⟨["N1"], [("N1", 0)]⟩, ⟨["P1"], [("P1", 0)]⟩, .empty, .empty⟩
  settings := ⟨"controls", "INFO", "", .whole 0, .whole 1, .whole 0, .whole 0, .whole 60, .array []⟩
  readFile := fun _ => none

/-- The same after a scenario by which the start is a text, and the control step another one. -/
def spoilt : Setup Rat :=
  { atPump with
    settings := { atPump.settings with
      startTime := .other (.text "noon")
      controlStep := .whole 30 } }

theorem inCharge_spoilt : inCharge [.setup atPump, .setup spoilt] = some atPump := by
  have hfirst : atPump.Starts := ⟨_, rfl⟩
  have hsecond : ¬ spoilt.Starts := by decide +kernel
  simp [inCharge, Call.inCharge, hfirst, hsecond]

open scoped Readers in
theorem not_returns_atPump : ¬ atPump.Returns halfGood := by
  have hfailed : ((ofConfig halfGood).setup atPump.network atPump.settings
      atPump.readFile).2.2.isOk = false := by decide +kernel
  rintro ⟨faults, h⟩
  rw [h] at hfailed
  cases hfailed

open scoped Readers in
/-- An update after that setup stops the pump by the first rule. -/
theorem targets_atPump : (((ofConfig halfGood).calls [.setup atPump]).update
    atPump.network 0).network.state.targets = [0] := by decide +kernel

open scoped Readers in
theorem update_after_calls_atPump :
    ((ofConfig halfGood).calls [.setup atPump, .shutdown]).update atPump.network 0 =
      ⟨(ofConfig halfGood).calls [.setup atPump, .shutdown], atPump.network, [],
        .error .notReady⟩ ∧
    ∃ e, atPump.Drives halfGood e ∧
      let result := evaluate { e with clock := e.clock.set 0 } atPump.network
        (spoilt.step halfGood)
      let u := ((ofConfig halfGood).calls [.setup atPump, .setup spoilt]).update atPump.network 0
      u.model = ⟨halfGood, spoilt.step halfGood, some result.engine, atPump.settings.problem?⟩ ∧
        u.network = result.network ∧ u.events = result.events ∧
        u.outcome ≠ .error .notReady := by
  refine ⟨(update_after_calls halfGood [.setup atPump, .shutdown] atPump.network 0).1 rfl, ?_⟩
  obtain ⟨e, last, hdrives, hlast, -, -, hafter⟩ :=
    (update_after_calls halfGood [.setup atPump, .setup spoilt] atPump.network 0).2.1 atPump
      inCharge_spoilt
  cases hlast
  exact ⟨e, hdrives, hafter rfl⟩

open scoped Readers in
/-- It is not true that an update is refused unless the last setup returned. -/
theorem not_refused_halfGood : ¬ ∀ (written : Json) (config : ControlsConfig),
    ControlsConfig.ofJson Numeral.digitLimit written = .ok config →
    ∀ (cs : List (Call Rat)) (n : Network Rat) (timestamp : Int),
    (∀ s, lastSetup cs = some s → ¬ s.Returns config) →
    ((ofConfig config).calls cs).update n timestamp =
      ⟨(ofConfig config).calls cs, n, [], .error .notReady⟩ := by
  intro h
  have hfailed : ∀ s, lastSetup [.setup atPump] = some s → ¬ s.Returns halfGood := by
    rintro s ⟨⟩
    exact not_returns_atPump
  have hrefused := h _ halfGood ofJson_halfGood [.setup atPump] atPump.network 0 hfailed
  have htargets := targets_atPump
  rw [hrefused] at htargets
  exact absurd htargets (by decide +kernel)

end Model

end Sluice
