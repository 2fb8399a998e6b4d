import Sluice.Proofs.Rule.Refusal
import Sluice.Rule.Builder

/-!
# What a line does to a builder

A line passes through half a dozen functions before the builder is the next one: is it a header,
is there an open rule, may its keyword follow here, can the clause be read. Every law about
builders has to know what can come out at the end, and none of them cares for the way. So the way
is gone once, here, and `LineEffect` is the list of what can come out, with everything there is to
know in each case. **What a line does is on the list** (`addLine_effect`), and a law about all
lines is proved by cases on it.

Two of the cases are worth a look. A header ends the open rule whether it is a good one or not,
and of two faults only its own is returned. And a number that is too large leaves the builder
alone; it comes from a premise that the open rule was waiting for, and from nothing else
(`addLine_eq_tooLarge_iff`).
-/

set_option autoImplicit false

namespace Sluice

variable {α : Type}

/-! ## 1. Which clause may follow -/

/-- The keyword that a line begins with. -/
def Keyword.ofLine? (tokens : List String) : Option Keyword := tokens.head?.bind Keyword.find?

namespace Session

variable {s : Session α}

/-- A clause with this keyword is read as a premise, and joined in this way. -/
inductive TakesPremise (s : Session α) : Keyword → Joint → Prop
  | first (h : s.atHeader = true) : s.TakesPremise .first .first
  | and (h : s.atPremises = true) : s.TakesPremise .and .and
  | or (h : s.atPremises = true) : s.TakesPremise .or .or

/-- A clause with this keyword is read as an action of this branch. -/
inductive TakesAction (s : Session α) : Keyword → Branch → Prop
  | thenBranch (h : s.atPremises = true) : s.TakesAction .thenBranch .holds
  | elseBranch (h : s.atActions = true) (hbranch : s.branch? = some .holds) :
      s.TakesAction .elseBranch .fails
  | and (h : s.atActions = true) {branch : Branch} (hbranch : s.branch? = some branch) :
      s.TakesAction .and branch

theorem TakesPremise.ne_rule {k : Keyword} {joint : Joint} (h : s.TakesPremise k joint) :
    k ≠ .rule := by
  cases h with
  | first | and | or => exact nofun

theorem TakesAction.ne_rule {k : Keyword} {branch : Branch} (h : s.TakesAction k branch) :
    k ≠ .rule := by
  cases h with
  | thenBranch | elseBranch | and => exact nofun

theorem atPremises_eq_true : s.atPremises = true ↔
    s.branch? = none ∧ ∃ state, s.state? = some state ∧ state.isPremise = true := by
  simp [atPremises, Option.any_eq_true]

theorem atActions_eq_true : s.atActions = true ↔
    (∃ branch, s.branch? = some branch) ∧
      ∃ state, s.state? = some state ∧ state.isAction = true := by
  simp [atActions, Option.any_eq_true, Option.isSome_iff_exists]

/-- Nothing is taken while lines are skipped. -/
theorem TakesPremise.state?_ne {k : Keyword} {joint : Joint} (h : s.TakesPremise k joint) :
    s.state? ≠ some .error := by
  intro hs
  cases h with
  | first h => simp [atHeader, hs] at h
  | and h | or h => simp [atPremises, hs, BuildState.isPremise] at h

theorem TakesAction.state?_ne {k : Keyword} {branch : Branch} (h : s.TakesAction k branch) :
    s.state? ≠ some .error := by
  intro hs
  cases h with
  | thenBranch h => simp [atPremises, hs, BuildState.isPremise] at h
  | elseBranch h hbranch | and h hbranch =>
    simp [atActions, hs, BuildState.isAction] at h

end Session

namespace Builder

variable {n : Network α} {b : Builder α} {tokens : List String}

/-! ## 2. Headers and branches -/

theorem headerFault_eq_none_iff {line : Option Int} :
    b.headerFault tokens line = none ↔ ∃ word id, tokens = [word, id] ∧ b.isTaken id = false := by
  rw [headerFault.eq_def]
  split
  · rename_i word id
    by_cases htaken : b.isTaken id = true
    · rw [if_pos htaken]
      constructor
      · intro h
        cases h
      · rintro ⟨word', id', heq, hfree⟩
        cases heq
        exact absurd htaken (Bool.eq_false_iff.mp hfree)
    · rw [if_neg htaken]
      exact iff_of_true rfl ⟨word, id, rfl, Bool.eq_false_iff.mpr htaken⟩
  · rename_i hshape
    constructor
    · intro h
      cases h
    · rintro ⟨word, id, htokens, -⟩
      exact absurd htokens (hshape word id)

/-- A header is refused for its shape or for its id, and its line is known. -/
theorem place_of_headerFault {line : Option Int} {f : Fault}
    (h : b.headerFault tokens line = some f) :
    f.line = line ∧ (f.cause = .tooFewItems ∨ f.cause = .duplicate) := by
  rw [headerFault.eq_def] at h
  split at h
  · split at h
    · cases h
      exact ⟨rfl, Or.inr rfl⟩
    · cases h
  · cases h
    exact ⟨rfl, Or.inl rfl⟩

theorem openRule_of_new [Scalar α] {word id : String} (hnew : b.isTaken id = false)
    (line : Option Int) : b.openRule [word, id] line = ⟨⟨b.endRule.1.rules,
      .start (draft id b.endRule.1.rules.length line)⟩, [], b.endRule.2.map .fault⟩ := by
  have hfault : b.headerFault [word, id] line = none :=
    headerFault_eq_none_iff.mpr ⟨word, id, rfl, hnew⟩
  rw [openRule, hfault]
  rfl

theorem inBranch_eq_self {branch : Branch} (h : b.session.branch? = some branch) :
    b.inBranch branch = b := by
  rw [inBranch, ← h]

/-! ## 3. The effects of a line -/

section

variable [Scalar α] [TimeReader α]

/-- What a line can do. -/
inductive LineEffect (n : Network α) (b : Builder α) (tokens : List String)
    (line : Option Int) : Added α → Prop
  /-- Nothing: it is empty, or it is skipped. -/
  | ignored (h : tokens = [] ∨
      Keyword.ofLine? tokens ≠ some .rule ∧ b.session.state? = some .error) :
      LineEffect n b tokens line ⟨b, [], none⟩
  /-- A header ends the open rule, of which it may have to say that it is not complete, and
  opens another one. -/
  | header {word id : String} (htokens : tokens = [word, id])
      (hk : Keyword.find? word = some .rule) (hnew : b.isTaken id = false) :
      LineEffect n b tokens line ⟨⟨b.endRule.1.rules,
        .start (draft id b.endRule.1.rules.length line)⟩, [], b.endRule.2.map .fault⟩
  /-- A bad header ends the open rule, too. -/
  | badHeader {f : Fault} (hk : Keyword.ofLine? tokens = some .rule)
      (hf : b.headerFault tokens line = some f) :
      LineEffect n b tokens line ⟨⟨b.endRule.1.rules, .shut .error⟩,
        b.endRule.2.toList.map Fault.message, some (.fault f)⟩
  | premise {r : Rule α} {k : Keyword} {joint : Joint} {p : Premise α}
      (hr : b.session.rule? = some r) (hk : Keyword.ofLine? tokens = some k)
      (htakes : b.session.TakesPremise k joint) (hp : Clause.premise n joint tokens = .ok p) :
      LineEffect n b tokens line ⟨⟨b.rules, ⟨some (.after k),
        some { r with premises := r.premises ++ [p] }, b.session.branch?⟩⟩,
        Clause.premiseWarnings n joint tokens, none⟩
  | action {r : Rule α} {k : Keyword} {branch : Branch} {a : Action α}
      (hr : b.session.rule? = some r) (hk : Keyword.ofLine? tokens = some k)
      (htakes : b.session.TakesAction k branch)
      (ha : Clause.action n r.premises.getLast? tokens = .ok a) :
      LineEffect n b tokens line ⟨⟨b.rules, ⟨some (.after k), some (putAction r a branch),
        some branch⟩⟩, [], none⟩
  | priority {r : Rule α} {word token : String} {x : α} (hr : b.session.rule? = some r)
      (htakes : b.session.atActions = true) (htokens : tokens = [word, token])
      (hk : Keyword.find? word = some .priority) (hx : Clause.number token = .ok x) :
      LineEffect n b tokens line
        ⟨(b.mapRule fun r => { r with priority := x }).endRule.1, [], none⟩
  /-- A clause that is refused discards the open rule. -/
  | badClause {f : Fault} {warnings : List String} (hk : Keyword.ofLine? tokens ≠ some .rule)
      (hf : f.line = none ∧ f.ruleId = none ∧ f.cause ≠ .incomplete) :
      LineEffect n b tokens line ⟨⟨b.rules, .shut .error⟩, warnings,
        some (.fault (f.tag line b.session.ruleId?))⟩
  | tooLarge {r : Rule α} {k : Keyword} {joint : Joint} {warnings : List String}
      (hr : b.session.rule? = some r) (hk : Keyword.ofLine? tokens = some k)
      (htakes : b.session.TakesPremise k joint) (hlarge : Clause.EndsTooLarge n tokens) :
      LineEffect n b tokens line ⟨b, warnings, some .tooLarge⟩

theorem openRule_effect (hk : Keyword.ofLine? tokens = some .rule) (line : Option Int) :
    LineEffect n b tokens line (b.openRule tokens line) := by
  cases hfault : b.headerFault tokens line with
  | some f =>
    rw [openRule, hfault]
    exact .badHeader hk hfault
  | none =>
    obtain ⟨word, id, rfl, hnew⟩ := headerFault_eq_none_iff.mp hfault
    rw [openRule_of_new hnew]
    exact .header rfl hk hnew

theorem addClause_of_takesPremise {k : Keyword} {joint : Joint}
    (h : b.session.TakesPremise k joint) :
    b.addClause n k tokens = b.addPremise n k joint tokens := by
  rw [addClause.eq_def]
  cases h with
  | first h => exact if_pos h
  | and h => exact if_pos h
  | or h => exact if_pos h

theorem addClause_of_takesAction {k : Keyword} {branch : Branch}
    (h : b.session.TakesAction k branch) :
    b.addClause n k tokens = (b.inBranch branch).addAction n k tokens := by
  rw [addClause.eq_def]
  cases h with
  | thenBranch h => exact if_pos h
  | elseBranch h hbranch => exact if_pos (by simp [h, hbranch])
  | and h hbranch =>
    have hpremises : ¬ b.session.atPremises = true := by simp [Session.atPremises, hbranch]
    rw [inBranch_eq_self hbranch]
    exact (if_neg hpremises).trans (if_pos h)

/-- A clause that fails with a fault is a bad clause, whatever it has changed before. -/
theorem settle_badClause {b' : Builder α} (hrules : b'.rules = b.rules) {e : ClauseError}
    (he : e.IsUnplaced) (hk : Keyword.ofLine? tokens ≠ some .rule) (warnings : List String)
    (line : Option Int) : LineEffect n b tokens line (b.settle line ⟨b', warnings, some e⟩) := by
  cases e with
  | fault f =>
    have hsettle : b.settle line ⟨b', warnings, some (.fault f)⟩ = ⟨⟨b.rules, .shut .error⟩,
        warnings, some (.fault (f.tag line b.session.ruleId?))⟩ := by
      rw [settle, hrules]
    rw [hsettle]
    exact .badClause hk he
  | tooLarge => exact he.elim

theorem misplaced_effect (hk : Keyword.ofLine? tokens ≠ some .rule) (line : Option Int) :
    LineEffect n b tokens line (b.settle line (b.misplaced tokens)) :=
  settle_badClause (e := .fault _) rfl ⟨rfl, rfl, by rintro ⟨⟩⟩ hk [] line

section

variable {r : Rule α} {k : Keyword}

theorem addPremise_effect (hr : b.session.rule? = some r)
    (hk : Keyword.ofLine? tokens = some k) {joint : Joint}
    (htakes : b.session.TakesPremise k joint) (line : Option Int) :
    LineEffect n b tokens line (b.settle line (addPremise n b k joint tokens)) := by
  unfold addPremise
  cases hp : Clause.premise n joint tokens with
  | ok p =>
    have heffect : LineEffect n b tokens line _ := .premise hr hk htakes hp
    unfold reading inState mapRule
    rw [hr]
    exact heffect
  | error e =>
    rcases Clause.premise_fails n joint tokens e hp with rfl | he
    · exact .tooLarge hr hk htakes ((Clause.premise_eq_tooLarge_iff n joint tokens).mp hp)
    · have hrule : Keyword.ofLine? tokens ≠ some .rule := by simp [hk, htakes.ne_rule]
      exact settle_badClause rfl he hrule _ line

/-- The action goes to the branch that the session is put in. -/
theorem addAction_effect (hr : b.session.rule? = some r)
    (hk : Keyword.ofLine? tokens = some k) {branch : Branch}
    (htakes : b.session.TakesAction k branch) (line : Option Int) :
    LineEffect n b tokens line
      (b.settle line (addAction n (b.inBranch branch) k tokens)) := by
  unfold addAction
  have hlast : (b.inBranch branch).session.lastPremise? = r.premises.getLast? := by
    rw [Session.lastPremise?, inBranch, hr]
    rfl
  rw [hlast]
  cases ha : Clause.action n r.premises.getLast? tokens with
  | ok a =>
    have heffect : LineEffect n b tokens line _ := .action hr hk htakes ha
    unfold reading inState mapRule inBranch
    rw [hr]
    exact heffect
  | error e =>
    have hrule : Keyword.ofLine? tokens ≠ some .rule := by simp [hk, htakes.ne_rule]
    have he : e.IsUnplaced := Clause.action_onlyFaults n r.premises.getLast? tokens e ha
    have hrules : (b.inBranch branch).rules = b.rules := rfl
    exact settle_badClause hrules he hrule [] line

theorem addPriority_effect (hr : b.session.rule? = some r)
    (hk : Keyword.ofLine? tokens = some .priority) (htakes : b.session.atActions = true)
    (line : Option Int) : LineEffect n b tokens line (b.settle line (b.addPriority tokens)) := by
  have hrule : Keyword.ofLine? tokens ≠ some .rule := by simp [hk]
  unfold addPriority
  split
  · rename_i word token
    cases hx : (Clause.number token : Except ClauseError α) with
    | ok x => exact .priority hr htakes rfl hk hx
    | error e =>
      exact settle_badClause rfl (Clause.number_onlyFaults token e hx) hrule [] line
  · exact settle_badClause (e := .fault _) rfl ⟨rfl, rfl, by rintro ⟨⟩⟩ hrule [] line

/-- A clause is taken as a premise, as an action or as the priority, or it is misplaced. -/
theorem addClause_effect (hr : b.session.rule? = some r)
    (hk : Keyword.ofLine? tokens = some k) (hrule : k ≠ .rule) (line : Option Int) :
    LineEffect n b tokens line (b.settle line (b.addClause n k tokens)) := by
  have hpremise : ∀ {joint}, b.session.TakesPremise k joint →
      LineEffect n b tokens line (b.settle line (b.addClause n k tokens)) := fun htakes => by
    rw [addClause_of_takesPremise htakes]
    exact addPremise_effect hr hk htakes line
  have haction : ∀ {branch}, b.session.TakesAction k branch →
      LineEffect n b tokens line (b.settle line (b.addClause n k tokens)) := fun htakes => by
    rw [addClause_of_takesAction htakes]
    exact addAction_effect hr hk htakes line
  have hmisplaced : b.addClause n k tokens = b.misplaced tokens →
      LineEffect n b tokens line (b.settle line (b.addClause n k tokens)) := fun heq => by
    rw [heq]
    exact misplaced_effect (by simp [hk, hrule]) line
  cases k with
  | rule => exact absurd rfl hrule
  | first =>
    by_cases h : b.session.atHeader = true
    · exact hpremise (.first h)
    · exact hmisplaced (if_neg h)
  | and =>
    by_cases h : b.session.atPremises = true
    · exact hpremise (.and h)
    · by_cases hactions : b.session.atActions = true
      · obtain ⟨⟨branch, hbranch⟩, -⟩ := Session.atActions_eq_true.mp hactions
        exact haction (.and hactions hbranch)
      · exact hmisplaced ((if_neg h).trans (if_neg hactions))
  | or =>
    by_cases h : b.session.atPremises = true
    · exact hpremise (.or h)
    · exact hmisplaced (if_neg h)
  | thenBranch =>
    by_cases h : b.session.atPremises = true
    · exact haction (.thenBranch h)
    · exact hmisplaced (if_neg h)
  | elseBranch =>
    by_cases h : (b.session.atActions && b.session.branch? == some .holds) = true
    · obtain ⟨hactions, hbranch⟩ := Bool.and_eq_true_iff.mp h
      exact haction (.elseBranch hactions (beq_iff_eq.mp hbranch))
    · exact hmisplaced (if_neg h)
  | priority =>
    by_cases h : b.session.atActions = true
    · have hclause : b.addClause n .priority tokens = b.addPriority tokens := if_pos h
      rw [hclause]
      exact addPriority_effect hr hk h line
    · exact hmisplaced (if_neg h)

end

theorem addLine_of_header (n : Network α) (b : Builder α) (line : Option Int)
    (hk : Keyword.ofLine? tokens = some .rule) :
    b.addLine n tokens line = b.openRule tokens line := by
  cases tokens with
  | nil => cases hk
  | cons first rest =>
    have hfirst : Keyword.find? first = some .rule := hk
    rw [addLine, hfirst]

theorem addLine_of_skipping (n : Network α) (b : Builder α) (line : Option Int)
    (hk : Keyword.ofLine? tokens ≠ some .rule) (hs : b.session.state? = some .error) :
    b.addLine n tokens line = ⟨b, [], none⟩ := by
  cases tokens with
  | nil => rfl
  | cons first rest =>
    rw [addLine.eq_def]
    dsimp only
    split
    · rename_i hrule
      exact absurd hrule hk
    · exact if_pos hs

theorem addLine_of_clause (n : Network α) (b : Builder α) (line : Option Int)
    (htokens : tokens ≠ []) (hk : Keyword.ofLine? tokens ≠ some .rule)
    (hs : b.session.state? ≠ some .error) : b.addLine n tokens line =
      b.settle line (b.addToSession n (Keyword.ofLine? tokens) tokens) := by
  cases tokens with
  | nil => exact absurd rfl htokens
  | cons first rest =>
    rw [addLine.eq_def]
    dsimp only
    split
    · rename_i hrule
      exact absurd hrule hk
    · exact if_neg hs

/-- **What a line does is one of its effects.** -/
theorem addLine_effect (n : Network α) (b : Builder α) (tokens : List String)
    (line : Option Int) : LineEffect n b tokens line (b.addLine n tokens line) := by
  by_cases htokens : tokens = []
  · rw [htokens]
    exact .ignored (Or.inl rfl)
  by_cases hrule : Keyword.ofLine? tokens = some .rule
  · rw [addLine_of_header n b line hrule]
    exact openRule_effect hrule line
  by_cases hs : b.session.state? = some .error
  · rw [addLine_of_skipping n b line hrule hs]
    exact .ignored (Or.inr ⟨hrule, hs⟩)
  rw [addLine_of_clause n b line htokens hrule hs, addToSession.eq_def]
  split
  · exact settle_badClause (e := .fault _) rfl ⟨rfl, rfl, by rintro ⟨⟩⟩ hrule [] line
  · exact misplaced_effect hrule line
  · rename_i k r hk hr
    exact addClause_effect hr hk (fun h => hrule (h ▸ hk)) line

end

/-! ## 4. The rules that were begun -/

/-- The finished rules and the open one. -/
def begun (b : Builder α) : List (Rule α) := b.rules ++ b.session.rule?.toList

theorem begun_of_rule?_eq_some {r : Rule α} (h : b.session.rule? = some r) :
    b.begun = b.rules ++ [r] := by
  unfold begun
  rw [h]
  rfl

theorem begun_of_rule?_eq_none (h : b.session.rule? = none) :
    b.begun = b.rules := by
  unfold begun
  rw [h]
  exact List.append_nil _

/-- A clause goes into the open rule, and what it leaves alone there stays among the rules that
were begun. -/
theorem map_begun_of_rule? {β : Type} (f : Rule α → β) {r r' : Rule α}
    {state? : Option BuildState} {branch? : Option Branch} (hr : b.session.rule? = some r)
    (h : f r' = f r) :
    (⟨b.rules, ⟨state?, some r', branch?⟩⟩ : Builder α).begun.map f = b.begun.map f := by
  rw [begun_of_rule?_eq_some hr, begun_of_rule?_eq_some rfl, List.map_append, List.map_append,
    List.map_singleton, List.map_singleton, h]

theorem isTaken_iff_mem_begun (b : Builder α) (id : String) :
    b.isTaken id = true ↔ id ∈ b.begun.map Rule.id := by
  have hfinished : b.rules.any (fun r => r.id == id) = true ↔ id ∈ b.rules.map Rule.id := by
    simp
  unfold isTaken begun Session.ruleId?
  rw [Bool.or_eq_true, hfinished, List.map_append, List.mem_append]
  cases b.session.rule? with
  | none => simp
  | some r => simp [eq_comm (a := id)]

theorem mapRule_of_rule? {r : Rule α} (hr : b.session.rule? = some r)
    (f : Rule α → Rule α) :
    b.mapRule f = ⟨b.rules, ⟨b.session.state?, some (f r), b.session.branch?⟩⟩ := by
  rw [mapRule, hr]
  rfl

theorem endRule_of_rule?_eq_none (h : b.session.rule? = none) :
    b.endRule = (b, none) := by
  rw [endRule, h]

theorem endRule_of_actions {r : Rule α} (hr : b.session.rule? = some r)
    (h : r.thenActions ≠ []) :
    b.endRule = (⟨b.rules ++ [r], .shut (.after .priority)⟩, none) := by
  rw [endRule, hr]
  exact if_neg fun hempty => h (List.isEmpty_iff.mp hempty)

theorem endRule_of_no_actions {r : Rule α} (hr : b.session.rule? = some r)
    (h : r.thenActions = []) :
    b.endRule = (⟨b.rules, .shut (.after .priority)⟩, some (incomplete r)) := by
  rw [endRule, hr]
  exact if_pos (List.isEmpty_iff.mpr h)

/-- The open rule is finished, or it has no actions and is given up. -/
theorem endRule_cases (b : Builder α) :
    b.endRule.1.rules = b.begun ∧ b.endRule.2 = none ∨
      b.endRule.1.rules = b.rules ∧ ∃ r, b.session.rule? = some r ∧ r.thenActions = [] ∧
        b.endRule.2 = some (incomplete r) := by
  cases hr : b.session.rule? with
  | none =>
    rw [endRule_of_rule?_eq_none hr, begun_of_rule?_eq_none hr]
    exact Or.inl ⟨rfl, rfl⟩
  | some r =>
    by_cases h : r.thenActions = []
    · rw [endRule_of_no_actions hr h]
      exact Or.inr ⟨rfl, r, rfl, h, rfl⟩
    · rw [endRule_of_actions hr h, begun_of_rule?_eq_some hr]
      exact Or.inl ⟨rfl, rfl⟩

theorem session_endRule {r : Rule α} (hr : b.session.rule? = some r) :
    b.endRule.1.session = .shut (.after .priority) := by
  by_cases h : r.thenActions = []
  · rw [endRule_of_no_actions hr h]
  · rw [endRule_of_actions hr h]

theorem rule?_endRule (b : Builder α) : b.endRule.1.session.rule? = none := by
  cases hr : b.session.rule? with
  | none =>
    rw [endRule_of_rule?_eq_none hr]
    exact hr
  | some r =>
    rw [session_endRule hr]
    rfl

theorem rules_prefix_endRule (b : Builder α) : b.rules <+: b.endRule.1.rules := by
  rcases b.endRule_cases with ⟨h, -⟩ | ⟨h, -⟩
  · rw [h]
    exact List.prefix_append _ _
  · exact ⟨[], by rw [h, List.append_nil]⟩

theorem endRule_prefix_begun (b : Builder α) : b.endRule.1.rules <+: b.begun := by
  rcases b.endRule_cases with ⟨h, -⟩ | ⟨h, -⟩
  · exact ⟨[], by rw [h, List.append_nil]⟩
  · rw [h]
    exact List.prefix_append _ _

section

variable {P : Rule α → Prop}

theorem forall_begun_of_rules {rules : List (Rule α)} (h : ∀ r ∈ rules, P r) {s : Session α}
    (hs : s.rule? = none) : ∀ r ∈ (⟨rules, s⟩ : Builder α).begun, P r := by
  rw [begun_of_rule?_eq_none hs]
  exact h

theorem forall_begun_endRule (h : ∀ r ∈ b.begun, P r) : ∀ r ∈ b.endRule.1.begun, P r :=
  forall_begun_of_rules (fun r hr => h r (b.endRule_prefix_begun.subset hr)) b.rule?_endRule

theorem forall_begun_finish (h : ∀ r ∈ b.begun, P r) : ∀ r ∈ b.finish.1.begun, P r :=
  forall_begun_of_rules (fun r hr => h r (b.endRule_prefix_begun.subset hr)) rfl

end

variable [Scalar α] [TimeReader α]

/-- A line takes no finished rule away. -/
theorem rules_prefix_addLine (n : Network α) (b : Builder α) (tokens : List String)
    (line : Option Int) : b.rules <+: (b.addLine n tokens line).builder.rules := by
  have heffect := addLine_effect n b tokens line
  generalize b.addLine n tokens line = added at heffect ⊢
  cases heffect with
  | ignored h => exact List.prefix_rfl
  | header htokens hk hnew => exact b.rules_prefix_endRule
  | badHeader hk hf => exact b.rules_prefix_endRule
  | premise hr hk htakes hp => exact List.prefix_rfl
  | action hr hk htakes ha => exact List.prefix_rfl
  | priority hr htakes htokens hk hx => exact rules_prefix_endRule (b.mapRule _)
  | badClause hk hf => exact List.prefix_rfl
  | tooLarge hr hk htakes hlarge => exact List.prefix_rfl

/-- A property of rules that a new rule has, and that no clause takes from the open rule. -/
structure KeptByClauses (n : Network α) (P : Rule α → Prop) : Prop where
  draft : ∀ id position line, P (draft id position line)
  premise : ∀ {r joint tokens p}, P r → Clause.premise n joint tokens = .ok p →
    P { r with premises := r.premises ++ [p] }
  action : ∀ {r branch tokens a}, P r →
    Clause.action n r.premises.getLast? tokens = .ok a → P (putAction r a branch)
  priority : ∀ {r} x, P r → P { r with priority := x }

/-- Every rule that was begun has the property after any line. -/
theorem KeptByClauses.addLine {P : Rule α → Prop} (hP : KeptByClauses n P)
    (h : ∀ r ∈ b.begun, P r) (tokens : List String) (line : Option Int) :
    ∀ r ∈ (b.addLine n tokens line).builder.begun, P r := by
  have hrules : ∀ r ∈ b.rules, P r := fun r hr => h r (List.mem_append_left _ hr)
  have hended : ∀ r ∈ b.endRule.1.rules, P r := fun r hr =>
    h r (b.endRule_prefix_begun.subset hr)
  have hopen : ∀ {r}, b.session.rule? = some r → P r := by
    intro r hr
    apply h
    rw [begun_of_rule?_eq_some hr]
    exact List.mem_append_right _ (List.mem_singleton.mpr rfl)
  have hbegun : ∀ {b' : Builder α} {r}, b'.session.rule? = some r →
      (∀ r ∈ b'.rules, P r) → P r → ∀ r' ∈ b'.begun, P r' := by
    intro b' r hr' hrules hr
    rw [begun_of_rule?_eq_some hr']
    exact List.forall_mem_append.mpr ⟨hrules, by simpa using hr⟩
  have heffect := addLine_effect n b tokens line
  generalize b.addLine n tokens line = added at heffect ⊢
  cases heffect with
  | ignored hi => exact h
  | header htokens hk hnew => exact hbegun rfl hended (hP.draft _ _ _)
  | badHeader hk hf => exact forall_begun_of_rules hended rfl
  | premise hr hk htakes hp => exact hbegun rfl hrules (hP.premise (hopen hr) hp)
  | action hr hk htakes ha => exact hbegun rfl hrules (hP.action (hopen hr) ha)
  | priority hr htakes htokens hk hx =>
    rw [mapRule_of_rule? hr]
    exact forall_begun_endRule (hbegun rfl hrules (hP.priority _ (hopen hr)))
  | badClause hk hf => exact forall_begun_of_rules hrules rfl
  | tooLarge hr hk htakes hlarge => exact h

/-! ## 5. Lines that end the building -/

/-- The open rule waits for a premise, and the line is one with a number that is too large. -/
def IsTooLarge (n : Network α) (b : Builder α) (tokens : List String) : Prop :=
  ∃ r k joint, b.session.rule? = some r ∧ Keyword.ofLine? tokens = some k ∧
    b.session.TakesPremise k joint ∧ Clause.EndsTooLarge n tokens

theorem addLine_eq_tooLarge_iff (n : Network α) (b : Builder α) (tokens : List String)
    (line : Option Int) :
    (b.addLine n tokens line).error = some .tooLarge ↔ IsTooLarge n b tokens := by
  constructor
  · intro h
    have heffect := addLine_effect n b tokens line
    generalize b.addLine n tokens line = added at h heffect
    cases heffect with
    | ignored hi => cases h
    | header htokens hk hnew =>
      obtain ⟨f, -, hf⟩ := Option.map_eq_some_iff.mp h
      cases hf
    | badHeader hk hf => cases h
    | premise hr hk htakes hp => cases h
    | action hr hk htakes ha => cases h
    | priority hr htakes htokens hk hx => cases h
    | badClause hk hf => cases h
    | tooLarge hr hk htakes hlarge => exact ⟨_, _, _, hr, hk, htakes, hlarge⟩
  · rintro ⟨r, k, joint, hr, hk, htakes, hlarge⟩
    have htokens : tokens ≠ [] := by
      rintro rfl
      cases hk
    have hrule : Keyword.ofLine? tokens ≠ some .rule := by
      rw [hk]
      exact fun h => htakes.ne_rule (Option.some.inj h)
    have hp := (Clause.premise_eq_tooLarge_iff n joint tokens).mpr hlarge
    have hclause : b.addToSession n (some k) tokens = b.addPremise n k joint tokens := by
      rw [addToSession.eq_def, hr]
      exact addClause_of_takesPremise htakes
    rw [addLine_of_clause n b line htokens hrule htakes.state?_ne, hk, hclause, addPremise, hp]
    rfl

end Builder

end Sluice
