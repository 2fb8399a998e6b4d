import Sluice.Proofs.Control.Runs
import Sluice.Proofs.Rule.Session

/-!
# Engines whose rules were built

Rules come into an engine through three calls: a whole text, a line, or the end of building. An
engine *is built* over a network if nothing else has happened to it, and what is true of each of
its actions is what the reader of clauses makes true. **Every action of an engine that is built is
one that a clause was read as** (`IsBuilt.isRead`). So its controller, if it has one, starts from
an empty memory.
-/

set_option autoImplicit false

namespace Sluice

variable {α : Type} [Scalar α] {n : Network α}

/-! ## 1. Actions that were read -/

/-- Some clause was read as this action. -/
def Action.IsRead (n : Network α) (a : Action α) : Prop :=
  ∃ last tokens, Clause.action n last tokens = .ok a

/-- The memory of a controller is empty. -/
def Mode.IsFresh : Mode α → Prop
  | .pid c => c.e1 = Scalar.zero ∧ c.e2 = Scalar.zero
  | .fixed _ | .curve _ _ | .timeSeries _ | .unsupported => True

theorem Action.IsRead.isFresh {a : Action α} (h : a.IsRead n) : a.mode.IsFresh := by
  obtain ⟨last, tokens, h⟩ := h
  have hfollows := Clause.action_follows h
  cases hmode : a.mode with
  | pid c =>
    rw [hmode] at hfollows
    obtain ⟨p, -, -, -, he1, he2⟩ := hfollows
    exact ⟨he1, he2⟩
  | _ => exact True.intro

theorem Builder.keptByClauses_isRead [TimeReader α] :
    KeptByClauses n fun r => ∀ a ∈ r.actions, a.IsRead n where
  draft id position line := by simp [draft, Rule.actions]
  premise hr _ := hr
  action := by
    intro r branch tokens a hr ha a' ha'
    rcases Rule.mem_actions_putAction ha' with ha' | rfl
    · exact hr a' ha'
    · exact ⟨_, tokens, ha⟩
  priority _ hr := hr

/-! ## 2. Engines -/

namespace Engine

/-- An engine with the rules that some calls have built over a network, the open one included. -/
inductive IsBuilt [TimeReader α] (n : Network α) : Engine α → Prop
  | ofClock (clock : Clock α) : IsBuilt n (ofClock clock)
  | buildRules {e : Engine α} (h : IsBuilt n e) (strict : Bool) (lines : List String) :
      IsBuilt n (e.buildRules n strict lines).1
  | addLine {e : Engine α} (h : IsBuilt n e) (tokens : List String) (line : Option Int) :
      IsBuilt n (e.addLine n tokens line).1
  | finishRules {e : Engine α} (h : IsBuilt n e) : IsBuilt n e.finishRules.1

theorem IsBuilt.forall_begun [TimeReader α] {e : Engine α} (h : e.IsBuilt n) {P : Rule α → Prop}
    (hP : Builder.KeptByClauses n P) : ∀ r ∈ e.builder.begun, P r := by
  induction h with
  | ofClock clock => simp [Engine.ofClock, Builder.empty, Builder.begun, Session.idle]
  | buildRules h strict lines ih =>
    exact Building.run_builder (P := fun b => ∀ r ∈ b.begun, P r)
      (fun b tokens line h => hP.addLine h tokens line)
      (fun b => Builder.forall_begun_finish) (Section.ruleLines lines) ih
  | addLine h tokens line ih => exact hP.addLine ih tokens line
  | finishRules h ih => exact Builder.forall_begun_finish ih

theorem IsBuilt.forall_rules [TimeReader α] {e : Engine α} (h : e.IsBuilt n) {P : Rule α → Prop}
    (hP : Builder.KeptByClauses n P) : ∀ r ∈ e.rules, P r := by
  intro r hr
  exact h.forall_begun hP r (List.mem_append_left _ hr)

/-- **Every action that was built is one that a clause was read as.** -/
theorem IsBuilt.isRead [TimeReader α] {e : Engine α} (h : e.IsBuilt n) :
    ∀ r ∈ e.rules, ∀ a ∈ r.actions, a.IsRead n :=
  h.forall_rules Builder.keptByClauses_isRead

theorem IsBuilt.fitTogether [TimeReader α] {e : Engine α} (h : e.IsBuilt n) (hn : n.Indexed) :
    System.FitTogether ⟨e, n⟩ := h.forall_rules (Builder.keptByClauses_fits hn)

end Engine

end Sluice
