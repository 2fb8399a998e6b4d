import Sluice.Calendar.Readers
import Sluice.Proofs.Rule.Collecting

/-!
# Strict building

Strict building gives up where collecting takes note of the first fault. Up to there the two do
the same: the faults come from lines, from headers that find the rule before them without
actions, and from the end of the text, and none of this depends on whether faults are collected.
So when a text is built to its end, **strict building of it fails if and only if there are
faults, and then with the first one** (`strict_fails_first`).

The induction is on the lines that are left. It relates two buildings whose builders are the
same; what is logged and collected so far may differ, for nothing that is built depends on it.
-/

set_option autoImplicit false

namespace Sluice

variable {α : Type} [Scalar α]

namespace Building

variable {n : Network α}

theorem rules_prefix_run [TimeReader α] (p : Building α) {q : Building α}
    {numbered : List (Nat × String)} (h : run n false p numbered = (q, none)) :
    p.builder.rules <+: q.builder.rules := by
  obtain ⟨ls, -, -, rfl⟩ := (run_eq_iff numbered q).mp h
  exact rules_prefix_ended p ls

/-! ## 1. One line -/

theorem runStrict_cons [TimeReader α] (p : Building α) (number : Nat) {line : String}
    {tokens : List String} (hread : Token.read? line = some tokens) (rest : List (Nat × String)) :
    run n true p ((number, line) :: rest) =
      let a := p.builder.addLine n tokens (some (number : Int))
      match a.error with
      | none => run n true (p.after a []) rest
      | some .tooLarge => (p.after a [], some .tooLarge)
      | some (.fault f) => (p.after a [], some (.fault f)) := by
  rw [run, hread]
  dsimp only
  generalize p.builder.addLine n tokens (some (number : Int)) = a
  obtain ⟨builder, warnings, error⟩ := a
  rcases error with _ | ⟨f⟩ | _
  · simp [take, after]
  · simp [take, after, meet]
  · simp [take, after]

theorem runStrict_nil [TimeReader α] (n : Network α) (p : Building α) :
    run n true p [] =
      (⟨p.builder.finish.1, p.log, p.faults⟩, p.builder.finish.2.map BuildFailure.fault) := by
  rw [run]
  obtain ⟨builder, missing⟩ := p.builder.finish
  cases missing with
  | none => rfl
  | some f => rfl

/-! ## 2. Two runs -/

/-- The end of a strict run where a collecting one ends with `q`, having met some faults. -/
inductive StrictEnd (q : Building α) : List Fault → Building α × Option BuildFailure → Prop where
  | same {r : Building α} (hbuilder : r.builder = q.builder) (hfaults : r.faults = []) :
    StrictEnd q [] (r, none)
  | first {r : Building α} {f : Fault} {later : List Fault}
    (hrules : r.builder.rules <+: q.builder.rules) :
    StrictEnd q (f :: later) (r, some (.fault f))

theorem strictEnd_run [TimeReader α] (p p' : Building α) {q : Building α}
    {numbered : List (Nat × String)} (hsame : p'.builder = p.builder) (hfaults : p'.faults = [])
    (h : run n false p numbered = (q, none)) :
    ∃ met, q.faults = p.faults ++ met ∧ StrictEnd q met (run n true p' numbered) := by
  induction numbered generalizing p p' with
  | nil =>
    rw [run_nil] at h
    cases h
    refine ⟨p.builder.finish.2.toList, rfl, ?_⟩
    rw [runStrict_nil, hsame]
    cases hmissing : p.builder.finish.2 with
    | none => exact .same rfl hfaults
    | some f => exact .first List.prefix_rfl
  | cons l rest ih =>
    obtain ⟨number, line⟩ := l
    cases hread : Token.read? line with
    | none =>
      rw [run, hread] at h
      cases h
    | some tokens =>
      rw [run_cons p number hread] at h
      rw [runStrict_cons p' number hread, hsame]
      dsimp only at h ⊢
      generalize p.builder.addLine n tokens (some (number : Int)) = a at h ⊢
      split at h
      · cases h
      · rename_i hlarge
        cases herror : a.error with
        | none =>
          have hfault : a.fault? = none := by rw [Added.fault?, herror]
          have hclean : (p'.after a []).faults = [] := by rw [after, hfaults]; rfl
          obtain ⟨met, hmet, hend⟩ := ih (p.after a _) (p'.after a []) rfl hclean h
          refine ⟨met, ?_, hend⟩
          rw [hmet, after, hfault]
          simp
        | some error =>
          cases error with
          | tooLarge => exact absurd herror hlarge
          | fault f =>
            -- strict building stops here, and what comes later only adds faults and rules
            have hfault : a.fault? = some f := by rw [Added.fault?, herror]
            obtain ⟨met, hmet, -⟩ := ih (p.after a _) ⟨a.builder, [], []⟩ rfl rfl h
            refine ⟨f :: met, ?_, .first (rules_prefix_run (p.after a _) h)⟩
            rw [hmet, after, hfault]
            simp

end Building

/-! ## 3. Texts -/

/-- **Strict building fails if and only if collecting finds faults, and then with the first
one**; the rules that are there by then are the first ones of those that collecting builds. When
it does not fail it builds the same rules. -/
theorem strict_fails_first [TimeReader α] {e e' : Engine α} {n : Network α} {lines : List String}
    {built : Engine α} {log : List LogEntry} {faults : List Fault} (hsame : e'.builder = e.builder)
    (h : e.buildRules n false lines = (built, log, .ok faults)) :
    ((∃ failure, (e'.buildRules n true lines).2.2 = .error failure) ↔ faults ≠ []) ∧
    (∀ failure, (e'.buildRules n true lines).2.2 = .error failure →
      (∃ f, faults.head? = some f ∧ failure = .fault f) ∧
        (e'.buildRules n true lines).1.rules <+: built.rules) ∧
    ∀ others, (e'.buildRules n true lines).2.2 = .ok others →
      others = [] ∧ (e'.buildRules n true lines).1.rules = built.rules := by
  obtain ⟨q, hq, rfl, -, rfl⟩ := buildRules_eq_ok_iff_addText.mp h
  obtain ⟨met, hmet, hend⟩ := Building.strictEnd_run _ ⟨e'.builder, [], []⟩ hsame rfl hq
  rw [List.nil_append] at hmet
  rw [Engine.buildRules, Builder.addText, hmet]
  generalize Building.run n true ⟨e'.builder, [], []⟩ (Section.ruleLines lines) = strict at hend ⊢
  cases hend with
  | same hbuilder hclean =>
    refine ⟨iff_of_false ?_ (· rfl), ?_, ?_⟩
    · rintro ⟨failure, hfailure⟩
      cases hfailure
    · intro failure hfailure
      cases hfailure
    · intro others hothers
      cases hothers
      exact ⟨hclean, congrArg Builder.rules hbuilder⟩
  | first hrules =>
    refine ⟨iff_of_true ⟨_, rfl⟩ (List.cons_ne_nil _ _), ?_, ?_⟩
    · intro failure hfailure
      cases hfailure
      exact ⟨⟨_, rfl, rfl⟩, hrules⟩
    · intro others hothers
      cases hothers

/-- The second rule names an object that there is not, and the third one has no actions. -/
def twoFaultsLines : List String :=
  ["RULE R1", "IF NODE N1 DEPTH > 1", "THEN PUMP P1 STATUS = ON", "RULE R2",
    "IF NODE N2 DEPTH > 1", "THEN PUMP P1 STATUS = OFF", "RULE R3", "IF NODE N1 DEPTH < 1",
    "RULE R4", "IF NODE N1 DEPTH > 2", "THEN PUMP P1 STATUS = ON"]

open scoped Readers in
theorem strict_fails_first_twoFaults : ∃ built log faults,
    idleEngine.buildRules onePump false twoFaultsLines = (built, log, .ok faults) ∧
      faults.map Fault.line = [some 5, some 7] ∧ built.rules.map Rule.id = ["R1", "R4"] ∧
      ∃ failure, (idleEngine.buildRules onePump true twoFaultsLines).2.2 = .error failure ∧
        (∃ f, faults.head? = some f ∧ failure = .fault f) ∧
        (idleEngine.buildRules onePump true twoFaultsLines).1.rules <+: built.rules := by
  have hlines : (idleEngine.buildRules onePump false twoFaultsLines).2.2.toOption.map
      (List.map Fault.line) = some [some 5, some 7] := by decide +kernel
  have hrules : (idleEngine.buildRules onePump false twoFaultsLines).1.rules.map Rule.id =
      ["R1", "R4"] := by decide +kernel
  obtain ⟨faults, hfaults, hlines⟩ := Option.map_eq_some_iff.mp hlines
  have hbuilt : idleEngine.buildRules onePump false twoFaultsLines = (_, _, .ok faults) :=
    Prod.ext rfl (Prod.ext rfl (toOption_eq_some.mp hfaults))
  obtain ⟨hfails, hfirst, -⟩ := strict_fails_first rfl hbuilt
  have hsome : faults ≠ [] := by
    rintro rfl
    cases hlines
  obtain ⟨failure, hfailure⟩ := hfails.mpr hsome
  exact ⟨_, _, faults, hbuilt, hlines, hrules, failure, hfailure, hfirst failure hfailure⟩

end Sluice
