import Sluice.Calendar.Readers
import Sluice.Proofs.Control.Readiness

/-!
# Where a control step comes from

The fields refuse a control step that is not above zero, and the default is one that they would
accept. So the control step of settings is positive when they are made, from whatever fields and
environment (`isPositive_of_make`).

It need not stay so. A scenario puts its own control step in the place of what is there, and only
the shape of the scenario is looked at, not the value (`exists_applyScenario_iff`). After any
number of scenarios the control step is **the one that was named last**, and that which the
settings were made with if none was named (`controlStep_applyScenarios`). It can be zero then
(`not_staysPositive_zero`), or no number at all, and a model whose config has no control step of
its own takes it over all the same (`controlStep_calls`).
-/

set_option autoImplicit false

namespace Sluice

/-! ## 1. Positive amounts -/

section

variable {α : Type} [Scalar α]

/-- An amount is a number above zero. -/
def Amount.IsPositive (a : Amount α) : Prop := ∃ x, a.scalar? = some x ∧ Scalar.zero < x

instance (a : Amount α) : Decidable a.IsPositive :=
  decidable_of_iff (a.scalar?.any (Scalar.zero < ·) = true) <| by
    simp [Amount.IsPositive, Option.any_eq_true]

theorem Amount.isPositive_scalar {x : α} : (Amount.scalar x).IsPositive ↔ Scalar.zero < x := by
  constructor
  · rintro ⟨y, ⟨⟩, hy⟩
    exact hy
  · exact fun hx => ⟨x, rfl, hx⟩

theorem Field.zero_lt_of_positive {j : Json} {x : α} (h : Field.positive j = .ok x) :
    Scalar.zero < x := by
  obtain ⟨y, -, h⟩ := bind_eq_ok.mp h
  split at h
  · rename_i hy
    cases h
    exact hy
  · cases h

end

namespace Settings

section

variable {α : Type} [Scalar α] {s s' : Settings α} {j : Json} {scenarios : List Json}

/-! ## 2. When settings are made -/

/-- What is true of the default, and of all that a field accepts, is true of the field. -/
theorem field_holds {β : Type} {P : β → Prop} {default : β}
    {read : Json → Except FieldProblem β} (given : Option Json) (name : String)
    (hdefault : P default) (hread : ∀ j x, read j = .ok x → P x) :
    P (field given name default read).1 := by
  cases given with
  | none => exact hdefault
  | some j =>
    unfold field
    rw [Option.map_some]
    cases h : read j with
    | error p => exact hdefault
    | ok x => exact hread j x h

theorem isPositive_readFields (hdefault : (Scalar.zero : α) < Scalar.ofInt 60)
    (fields env : List (String × Json)) :
    (readFields fields env : Settings α × _).1.controlStep.IsPositive := by
  show (Amount.scalar (field (given? fields env "control_step") "control_step"
    (Scalar.ofInt 60 : α) Field.positive).1).IsPositive
  rw [Amount.isPositive_scalar]
  exact field_holds _ _ hdefault fun _ _ => Field.zero_lt_of_positive

theorem isPositive_of_make (hdefault : (Scalar.zero : α) < Scalar.ofInt 60)
    {env : List (String × String)} {fields : List (String × Json)}
    (h : make env fields = .ok s) : s.controlStep.IsPositive := by
  obtain ⟨given, -, h⟩ := bind_eq_ok.mp h
  split at h
  rename_i made problems hmade
  split at h
  · cases h
    have hpositive := isPositive_readFields hdefault fields given
    rwa [hmade] at hpositive
  · cases h

/-! ## 3. One scenario -/

/-- The control step that a scenario names. -/
def namedStep? : Json → Option Json
  | .object ms => Json.member? "control_step" ms
  | _ => none

/-- The simulation info of a scenario. -/
def infoOf (members : List (String × Json)) : Json :=
  (Json.member? "simulation_info" members).getD .null

/-- A scenario can be applied: it is an object, and so is its simulation info unless empty. -/
def IsScenario (scenario : Json) : Prop :=
  ∃ ms, scenario = .object ms ∧ ((infoOf ms).isTruthy = true → ∃ ns, infoOf ms = .object ns)

theorem exists_applyInfo_iff (s : Settings α) (info : Json) :
    (∃ s', s.applyInfo info = .ok s') ↔ (info.isTruthy = true → ∃ ns, info = .object ns) := by
  unfold applyInfo
  cases htruthy : info.isTruthy with
  | false => simp
  | true => cases info <;> simp

/-- Whether a scenario can be applied depends neither on the settings nor on its values. -/
theorem exists_applyScenario_iff (s : Settings α) (scenario : Json) :
    (∃ s', s.applyScenario scenario = .ok s') ↔ IsScenario scenario := by
  unfold IsScenario
  cases scenario with
  | object ms =>
    simp only [Json.object.injEq, exists_eq_left', applyScenario, bind_eq_ok, pure_eq_ok,
      ← exists_applyInfo_iff s, infoOf]
    exact ⟨fun ⟨_, t, ht, _⟩ => ⟨t, ht⟩, fun ⟨t, ht⟩ => ⟨_, t, ht, rfl⟩⟩
  | _ =>
    refine iff_of_false ?_ nofun
    rintro ⟨s', h⟩
    cases h

theorem controlStep_applyInfo {info : Json} (h : s.applyInfo info = .ok s') :
    s'.controlStep = s.controlStep := by
  unfold applyInfo at h
  split at h
  · split at h
    · cases h
      rfl
    · cases h
  · cases h
    rfl

theorem controlStep_applyScenario (h : s.applyScenario j = .ok s') :
    s'.controlStep = ((namedStep? j).map Amount.ofJson).getD s.controlStep := by
  cases j with
  | object ms =>
    obtain ⟨t, ht, h⟩ := bind_eq_ok.mp h
    cases h
    rw [← controlStep_applyInfo ht]
    rfl
  | _ => cases h

/-! ## 4. A run of scenarios -/

/-- Applies scenarios one after another. -/
def applyScenarios (s : Settings α) (scenarios : List Json) :
    Except ScenarioError (Settings α) :=
  scenarios.foldlM applyScenario s

/-- The control step that is named last. -/
def lastStep? (scenarios : List Json) : Option Json := (scenarios.filterMap namedStep?).getLast?

theorem lastStep?_cons (j : Json) (rest : List Json) :
    lastStep? (j :: rest) = (lastStep? rest).or (namedStep? j) := by
  unfold lastStep?
  rw [List.filterMap_cons]
  cases namedStep? j with
  | none => rw [Option.or_none]
  | some step => rw [List.getLast?_cons, Option.or_some]

theorem exists_applyScenarios_iff (s : Settings α) (scenarios : List Json) :
    (∃ s', s.applyScenarios scenarios = .ok s') ↔ ∀ j ∈ scenarios, IsScenario j := by
  induction scenarios generalizing s with
  | nil => exact iff_of_true ⟨s, rfl⟩ nofun
  | cons j rest ih =>
    rw [List.forall_mem_cons, ← exists_applyScenario_iff s]
    unfold applyScenarios
    rw [List.foldlM_cons]
    simp only [bind_eq_ok]
    constructor
    · rintro ⟨s', t, ht, hrest⟩
      exact ⟨⟨t, ht⟩, (ih t).mp ⟨s', hrest⟩⟩
    · rintro ⟨⟨t, ht⟩, hrest⟩
      obtain ⟨s', hs'⟩ := (ih t).mpr hrest
      exact ⟨s', t, ht, hs'⟩

theorem controlStep_applyScenarios (h : s.applyScenarios scenarios = .ok s') :
    s'.controlStep = ((lastStep? scenarios).map Amount.ofJson).getD s.controlStep := by
  induction scenarios generalizing s with
  | nil =>
    cases h
    rfl
  | cons j rest ih =>
    unfold applyScenarios at h
    rw [List.foldlM_cons] at h
    obtain ⟨t, ht, hrest⟩ := bind_eq_ok.mp h
    -- what this scenario names counts only if none behind it names a step
    rw [ih hrest, controlStep_applyScenario ht, lastStep?_cons]
    cases lastStep? rest with
    | none => rw [Option.none_or]; rfl
    | some step => rfl

end

/-! ## 5. The step of a model -/

theorem not_zero_lt_zero : ¬ (Scalar.zero : Float) < Scalar.zero := by decide +kernel

theorem zero_lt_default : (Scalar.zero : Float) < Scalar.ofInt 60 := by decide +kernel

end Settings

namespace Model

variable {α : Type} [Scalar α] {config : ControlsConfig} {cs : List (Call α)} {last : Setup α}

/-- From one setup to the next a model has the step of its config, or else that of the settings. -/
theorem controlStep_calls [TimeReader α] (h : lastSetup cs = some last) :
    ((ofConfig config).calls cs).controlStep =
      (config.controlStep.map Amount.ofJson).getD last.settings.controlStep :=
  (follows_calls config cs).step last h

/-- The seconds are above zero just if the step is a number above zero. -/
theorem zero_lt_stepSeconds_iff (m : Model Float) :
    Scalar.zero < m.stepSeconds ↔ m.controlStep.IsPositive := by
  unfold stepSeconds Amount.IsPositive
  cases m.controlStep.scalar? with
  | none => exact iff_of_false Settings.not_zero_lt_zero nofun
  | some x => simp

end Model

namespace Settings

variable {s : Settings Float}

/-- **The control step of settings is positive when they are made; after any scenarios it is what
the last of them to name one says, be that positive or not, and a model that is set up with the
settings evaluates with it, unless its config has a step of its own.** -/
theorem controlStep_after_scenarios [TimeReader Float] {env : List (String × String)}
    {fields : List (String × Json)} (hmake : make env fields = .ok s) (scenarios : List Json) :
    s.controlStep.IsPositive ∧
    ((∃ s', s.applyScenarios scenarios = .ok s') ↔ ∀ j ∈ scenarios, IsScenario j) ∧
    ∀ s', s.applyScenarios scenarios = .ok s' →
      s'.controlStep = ((lastStep? scenarios).map Amount.ofJson).getD s.controlStep ∧
      (s'.controlStep.IsPositive ↔
        ∀ j, lastStep? scenarios = some j → (Amount.ofJson j : Amount Float).IsPositive) ∧
      ∀ (config : ControlsConfig) (cs : List (Model.Call Float)) (last : Model.Setup Float),
        Model.lastSetup cs = some last → last.settings = s' →
        (∀ j, config.controlStep = some j →
          ((Model.ofConfig config).calls cs).controlStep = Amount.ofJson j) ∧
        (config.controlStep = none →
          ((Model.ofConfig config).calls cs).controlStep = s'.controlStep ∧
          (Scalar.zero < ((Model.ofConfig config).calls cs).stepSeconds ↔
            s'.controlStep.IsPositive)) := by
  have hmade := isPositive_of_make zero_lt_default hmake
  refine ⟨hmade, exists_applyScenarios_iff s scenarios, ?_⟩
  intro s' hrun
  have hstep := controlStep_applyScenarios hrun
  refine ⟨hstep, ?_, ?_⟩
  · rw [hstep]
    cases lastStep? scenarios with
    | none => exact iff_of_true hmade nofun
    | some j => simp
  · rintro config cs last hlast rfl
    rw [Model.zero_lt_stepSeconds_iff, Model.controlStep_calls hlast]
    constructor
    · intro j hj
      rw [hj]
      rfl
    · intro hnone
      rw [hnone]
      exact ⟨rfl, Iff.rfl⟩

/-- The settings that are made from nothing. -/
def plain : Settings Float := (readFields [] []).1

theorem make_plain : make [] [] = .ok plain := rfl

/-- The first scenario names a control step, the second one does not. -/
def halfMinute : List Json :=
  [.object [("control_step", .int 30)],
    .object [("simulation_info", .object [("duration", .int 9)])]]

/-- No rules, and no control step. -/
def idle : ControlsConfig := ⟨.lines [], none, false, .object [("rules", .array [])]⟩

open scoped Readers in
theorem controlStep_after_scenarios_halfMinute :
    make [] [] = .ok plain ∧ plain.controlStep.IsPositive ∧
    ∃ s', plain.applyScenarios halfMinute = .ok s' ∧ s'.controlStep = .whole 30 ∧
      ∀ (n : Network Float) (readFile : String → Option String),
        Scalar.zero < ((Model.ofConfig idle).calls [.setup ⟨n, s', readFile⟩]).stepSeconds := by
  obtain ⟨hmade, hreturns, hafter⟩ := controlStep_after_scenarios make_plain halfMinute
  have hscenarios : ∀ j ∈ halfMinute, IsScenario j := by
    intro j hj
    rcases List.mem_pair.mp hj with rfl | rfl
    · exact ⟨_, rfl, nofun⟩
    · exact ⟨_, rfl, fun _ => ⟨_, rfl⟩⟩
  obtain ⟨s', hs'⟩ := hreturns.mpr hscenarios
  obtain ⟨hstep, hpositive, hmodel⟩ := hafter s' hs'
  have hthirty : (Amount.ofJson (.int 30) : Amount Float).IsPositive := by decide +kernel
  refine ⟨make_plain, hmade, s', hs', hstep, ?_⟩
  intro n readFile
  refine ((hmodel idle [.setup ⟨n, s', readFile⟩] _ rfl rfl).2 rfl).2.mpr (hpositive.mpr ?_)
  rintro j ⟨⟩
  exact hthirty

open scoped Readers in
/-- It is not true that the control step stays positive: a scenario may set it to zero. -/
theorem not_staysPositive_zero : ¬ ∀ (env : List (String × String))
    (fields : List (String × Json)) (s : Settings Float), make env fields = .ok s →
    ∀ (scenarios : List Json) (s' : Settings Float), s.applyScenarios scenarios = .ok s' →
      s'.controlStep.IsPositive ∧
      ∀ (config : ControlsConfig) (cs : List (Model.Call Float)) (last : Model.Setup Float),
        config.controlStep = none → Model.lastSetup cs = some last → last.settings = s' →
        Scalar.zero < ((Model.ofConfig config).calls cs).stepSeconds := by
  intro h
  have hpositive := (h [] [] plain make_plain [.object [("control_step", .int 0)]] _ rfl).1
  exact absurd hpositive (by decide +kernel)

end Settings

end Sluice
