import Mathlib.Data.List.Nodup
import Mathlib.Data.List.Range
import Sluice.Proofs.Rule.Line
import Sluice.Proofs.Rule.Reading

/-!
# Builders at any time

Lines are added one by one, some are refused, building is finished and may go on afterwards.
**At every moment of this, whatever the lines were, the builder is in order**
(`builder_inOrder`): the finished rules are numbered and told apart by their ids, each of them is
complete, the session fits the rule that is open, and no call ever touches a finished rule.

A finished rule is one that was open before, so the invariant (`IsSound`) has to say of the open
rule all that will be asked of it when it is finished. Nothing but the invariant holds the three
parts of a session together: a state, a branch and an open rule could stand beside each other in
any way. `Rule.IsAt` lists the combinations that occur while a rule is open, with the lists of the
rule that are still empty by then and those that no longer are. The numbering is stated of the
finished rules and the open one together (`begun`), so that finishing does not change it.
-/

set_option autoImplicit false

namespace Sluice

variable {α : Type}

/-! ## 1. Open rules -/

/-- `IF`, then any number of `AND` and `OR`. -/
def AreJoined (ps : List (Premise α)) : Prop :=
  ∃ p rest, ps = p :: rest ∧ p.joint = .first ∧ ∀ q ∈ rest, q.joint = .and ∨ q.joint = .or

theorem AreJoined.snoc {ps : List (Premise α)} (h : AreJoined ps) {q : Premise α}
    (hq : q.joint = .and ∨ q.joint = .or) : AreJoined (ps ++ [q]) := by
  obtain ⟨p, rest, rfl, hp, hrest⟩ := h
  refine ⟨p, rest ++ [q], rfl, hp, ?_⟩
  intro q' hq'
  rcases List.mem_append.mp hq' with hq' | hq'
  · exact hrest q' hq'
  · rw [List.mem_singleton.mp hq']
    exact hq

namespace Rule

/-- What there is of an open rule, given the state and the branch of its session. -/
inductive IsAt (r : Rule α) : BuildState → Option Branch → Prop
  | header (hpremises : r.premises = []) (hthen : r.thenActions = [])
      (helse : r.elseActions = []) : r.IsAt (.after .rule) none
  | premises {state : BuildState} (hstate : state.isPremise = true)
      (hjoined : AreJoined r.premises) (hthen : r.thenActions = [])
      (helse : r.elseActions = []) : r.IsAt state none
  | holds {state : BuildState} (hstate : state.isAction = true)
      (hjoined : AreJoined r.premises) (hthen : r.thenActions ≠ [])
      (helse : r.elseActions = []) : r.IsAt state (some .holds)
  | fails {state : BuildState} (hstate : state.isAction = true)
      (hjoined : AreJoined r.premises) (hthen : r.thenActions ≠ [])
      (helse : r.elseActions ≠ []) : r.IsAt state (some .fails)

namespace IsAt

variable {r : Rule α} {state : BuildState} {branch? : Option Branch}

/-- A rule with actions has premises. -/
theorem areJoined (h : r.IsAt state branch?) (hactions : r.thenActions ≠ []) :
    AreJoined r.premises := by
  cases h with
  | header hpremises hthen helse => exact absurd hthen hactions
  | premises hstate hjoined hthen helse => exact hjoined
  | holds hstate hjoined hthen helse => exact hjoined
  | fails hstate hjoined hthen helse => exact hjoined

theorem thenActions_ne_nil {branch : Branch} (h : r.IsAt state (some branch)) :
    r.thenActions ≠ [] := by
  cases h with
  | holds hstate hjoined hthen helse => exact hthen
  | fails hstate hjoined hthen helse => exact hthen

/-- A rule is closed by its priority, and not while it is open. -/
theorem state_ne (h : r.IsAt state branch?) : state ≠ .after .priority ∧ state ≠ .error := by
  cases h with
  | header hpremises hthen helse => exact ⟨nofun, nofun⟩
  | premises hstate hjoined hthen helse =>
    constructor <;> rintro rfl <;> exact absurd hstate (by decide)
  | holds hstate hjoined hthen helse =>
    constructor <;> rintro rfl <;> exact absurd hstate (by decide)
  | fails hstate hjoined hthen helse =>
    constructor <;> rintro rfl <;> exact absurd hstate (by decide)

/-- Behind the header nothing has been added yet. -/
theorem behind_header (h : r.IsAt (.after .rule) branch?) :
    branch? = none ∧ r.premises = [] ∧ r.thenActions = [] ∧ r.elseActions = [] := by
  cases h with
  | header hpremises hthen helse => exact ⟨rfl, hpremises, hthen, helse⟩
  | premises hstate hjoined hthen helse => exact absurd hstate (by decide)
  | holds hstate hjoined hthen helse => exact absurd hstate (by decide)
  | fails hstate hjoined hthen helse => exact absurd hstate (by decide)

/-- Further on there is no branch as long as there are premises only. -/
theorem without_branch (h : r.IsAt state none) (hstate : state ≠ .after .rule) :
    AreJoined r.premises ∧ r.thenActions = [] ∧ r.elseActions = [] := by
  cases h with
  | header hpremises hthen helse => exact absurd rfl hstate
  | premises _ hjoined hthen helse => exact ⟨hjoined, hthen, helse⟩

theorem withPriority (h : r.IsAt state branch?) (x : α) :
    ({ r with priority := x } : Rule α).IsAt state branch? := by
  cases h with
  | header hpremises hthen helse => exact .header hpremises hthen helse
  | premises hstate hjoined hthen helse => exact .premises hstate hjoined hthen helse
  | holds hstate hjoined hthen helse => exact .holds hstate hjoined hthen helse
  | fails hstate hjoined hthen helse => exact .fails hstate hjoined hthen helse

/-- One more premise, where the session takes it. -/
theorem addPremise {s : Session α} (h : r.IsAt state s.branch?) (hs : s.state? = some state)
    {k : Keyword} {joint : Joint} (htakes : s.TakesPremise k joint) {p : Premise α}
    (hp : p.joint = joint) :
    ({ r with premises := r.premises ++ [p] } : Rule α).IsAt (.after k) s.branch? ∧
      ∀ a, a ∉ r.actions := by
  have hnone : r.thenActions = [] → r.elseActions = [] → ∀ a, a ∉ r.actions := by
    intro hthen helse a ha
    simp [Rule.actions, hthen, helse] at ha
  -- behind a premise the rule has premises, and no branch yet
  have hpremises : s.atPremises = true →
      s.branch? = none ∧ AreJoined r.premises ∧ r.thenActions = [] ∧ r.elseActions = [] := by
    intro hat
    obtain ⟨hbranch, state', hstate', hpremise⟩ := Session.atPremises_eq_true.mp hat
    obtain rfl : state = state' := Option.some.inj (hs.symm.trans hstate')
    rw [hbranch] at h
    refine ⟨hbranch, h.without_branch ?_⟩
    rintro rfl
    cases hpremise
  cases htakes with
  | first hat =>
    have hstate : s.state? = some (.after .rule) := beq_iff_eq.mp hat
    obtain rfl : state = .after .rule := Option.some.inj (hs.symm.trans hstate)
    obtain ⟨hbranch, hnil, hthen, helse⟩ := h.behind_header
    have hjoined : AreJoined (r.premises ++ [p]) := by
      rw [hnil]
      exact ⟨p, [], rfl, hp, by simp⟩
    rw [hbranch]
    exact ⟨.premises rfl hjoined hthen helse, hnone hthen helse⟩
  | and hat =>
    obtain ⟨hbranch, hjoined, hthen, helse⟩ := hpremises hat
    rw [hbranch]
    exact ⟨.premises rfl (hjoined.snoc (Or.inl hp)) hthen helse, hnone hthen helse⟩
  | or hat =>
    obtain ⟨hbranch, hjoined, hthen, helse⟩ := hpremises hat
    rw [hbranch]
    exact ⟨.premises rfl (hjoined.snoc (Or.inr hp)) hthen helse, hnone hthen helse⟩

/-- One more action, where the session takes it. -/
theorem putAction {s : Session α} (h : r.IsAt state s.branch?) (hs : s.state? = some state)
    {k : Keyword} {branch : Branch} (htakes : s.TakesAction k branch) (a : Action α) :
    (Builder.putAction r a branch).IsAt (.after k) (some branch) := by
  have hne : ∀ as : List (Action α), as ++ [a] ≠ [] := fun as => by simp
  cases htakes with
  | thenBranch hat =>
    obtain ⟨hbranch, state', hstate', hpremise⟩ := Session.atPremises_eq_true.mp hat
    obtain rfl : state = state' := Option.some.inj (hs.symm.trans hstate')
    rw [hbranch] at h
    obtain ⟨hjoined, -, helse⟩ := h.without_branch (by rintro rfl; cases hpremise)
    exact .holds rfl hjoined (hne _) helse
  | elseBranch hat hbranch =>
    rw [hbranch] at h
    cases h with
    | holds hstate hjoined hthen helse => exact .fails rfl hjoined hthen (hne _)
  | and hat hbranch =>
    rw [hbranch] at h
    cases h with
    | holds hstate hjoined hthen helse => exact .holds rfl hjoined (hne _) helse
    | fails hstate hjoined hthen helse => exact .fails rfl hjoined hthen (hne _)

end IsAt

theorem mem_actions_putAction {r : Rule α} {a a' : Action α} {branch : Branch}
    (h : a' ∈ (Builder.putAction r a branch).actions) : a' ∈ r.actions ∨ a' = a := by
  cases branch with
  | holds =>
    simp only [Builder.putAction, actions, List.mem_append, List.mem_singleton] at h ⊢
    tauto
  | fails =>
    simp only [Builder.putAction, actions, List.mem_append, List.mem_singleton] at h ⊢
    tauto

theorem premises_putAction (r : Rule α) (a : Action α) (branch : Branch) :
    (Builder.putAction r a branch).premises = r.premises := by
  cases branch with
  | holds => rfl
  | fails => rfl

end Rule

/-! ## 2. Numbering -/

/-- Rules in the order in which they were begun. -/
structure AreNumbered (rules : List (Rule α)) : Prop where
  ids : (rules.map Rule.id).Nodup
  positions : rules.map Rule.position = List.range rules.length

namespace AreNumbered

variable {rules rules' : List (Rule α)}

theorem isPrefix (h : AreNumbered rules) (hinitial : rules' <+: rules) : AreNumbered rules' := by
  obtain ⟨more, rfl⟩ := hinitial
  refine ⟨?_, ?_⟩
  · have hids := h.ids
    rw [List.map_append] at hids
    exact hids.of_append_left
  · have hpositions := congrArg (List.take rules'.length) h.positions
    rw [List.map_append, List.take_left' (List.length_map _), List.take_range] at hpositions
    rw [hpositions, List.length_append, Nat.min_eq_left (Nat.le_add_right _ _)]

theorem snoc (h : AreNumbered rules) {r : Rule α} (hid : r.id ∉ rules.map Rule.id)
    (hposition : r.position = rules.length) : AreNumbered (rules ++ [r]) := by
  refine ⟨?_, ?_⟩
  · rw [List.map_append, List.map_singleton, ← List.concat_eq_append]
    exact h.ids.concat hid
  · rw [List.map_append, List.map_singleton, h.positions, hposition, List.length_append,
      List.length_singleton, List.range_succ]

/-- Nothing but ids and positions matters. -/
theorem replaceLast {r r' : Rule α} (h : AreNumbered (rules ++ [r])) (hid : r'.id = r.id)
    (hposition : r'.position = r.position) : AreNumbered (rules ++ [r']) := by
  refine ⟨?_, ?_⟩
  · simpa [hid] using h.ids
  · simpa [hposition] using h.positions

theorem position_eq (h : AreNumbered rules) {i : Nat} {r : Rule α} (hr : rules[i]? = some r) :
    r.position = i := by
  have hi : (rules.map Rule.position)[i]? = some r.position := by
    rw [List.getElem?_map, hr]
    rfl
  rw [h.positions] at hi
  obtain ⟨hlt, hi⟩ := List.getElem?_eq_some_iff.mp hi
  rw [List.getElem_range] at hi
  exact hi.symm

end AreNumbered

/-! ## 3. Clauses that were accepted -/

variable [Scalar α]

theorem readFinite?_isFinite {token : String} {x : α} (h : readFinite? token = some x) :
    Scalar.isFinite x = true := by
  unfold readFinite? at h
  split at h
  · rename_i numeral _
    split at h
    · rename_i hfinite
      cases h
      cases numeral with
      | decimal d => exact hfinite
      | infinity negative => cases hfinite
      | nan => cases hfinite
    · cases h
  · cases h

theorem Clause.number_isFinite {token : String} {x : α} (h : Clause.number token = .ok x) :
    Scalar.isFinite x = true := by
  unfold Clause.number at h
  split at h
  · rename_i hread
    cases h
    exact readFinite?_isFinite hread
  · cases h

/-- A modulated setting follows the left hand side of the given premise, and a controller drives
it to the right hand side, from an empty memory. -/
def Mode.Follows (last : Option (Premise α)) : Mode α → Prop
  | .curve _ v => ∃ p, last = some p ∧ v = p.left
  | .pid c => ∃ p, last = some p ∧ c.controlled = p.left ∧ c.setpoint = p.right ∧
      c.e1 = Scalar.zero ∧ c.e2 = Scalar.zero
  | .fixed _ | .timeSeries _ | .unsupported => True

namespace Clause

variable {n : Network α} {last : Option (Premise α)}

theorem joint_of_premise [TimeReader α] {joint : Joint} {tokens : List String} {p : Premise α}
    (h : premise n joint tokens = .ok p) : p.joint = joint := by
  rw [premise] at h
  obtain ⟨⟨q, rest⟩, hq, h⟩ := bind_eq_ok.mp h
  obtain ⟨⟨⟩, -, h⟩ := bind_eq_ok.mp h
  obtain rfl := pure_eq_ok.mp h
  rw [premiseAndRest] at hq
  split at hq
  · cases hq
  · obtain ⟨⟨left, rest₁⟩, -, hq⟩ := bind_eq_ok.mp hq
    obtain ⟨⟨sign, rest₂⟩, -, hq⟩ := bind_eq_ok.mp hq
    obtain ⟨relation, -, hq⟩ := bind_eq_ok.mp hq
    obtain ⟨⟨right, rest₃⟩, -, hq⟩ := bind_eq_ok.mp hq
    cases hq
    rfl

theorem action_follows {tokens : List String} {a : Action α}
    (h : action n last tokens = .ok a) : a.mode.Follows last := by
  obtain ⟨link, linkId, attr, mode⟩ := a
  obtain ⟨l, -, -, hyields⟩ := action_eq_ok h
  cases hyields with
  | status isOpen htype => exact True.intro
  | number htype hrange => exact True.intro
  | curve htype hi hp => exact ⟨_, hp, rfl⟩
  | timeSeries htype hi => exact True.intro
  | pid kp ki kd htype hp => exact ⟨_, hp, rfl, rfl, rfl, rfl⟩

end Clause

/-! ## 4. The invariant -/

namespace Rule

/-- What is true of an open rule at any stage. -/
structure IsDraft (r : Rule α) : Prop where
  priority : Scalar.isFinite r.priority = true
  follows : ∀ a ∈ r.actions, a.mode.Follows r.premises.getLast?

/-- What is true of a finished rule. -/
structure IsComplete (r : Rule α) : Prop where
  premises : AreJoined r.premises
  thenActions : r.thenActions ≠ []
  priority : Scalar.isFinite r.priority = true
  follows : ∀ a ∈ r.actions, a.mode.Follows r.premises.getLast?

theorem IsDraft.isComplete {r : Rule α} (h : r.IsDraft) {state : BuildState}
    {branch? : Option Branch} (hat : r.IsAt state branch?) (hactions : r.thenActions ≠ []) :
    r.IsComplete :=
  ⟨hat.areJoined hactions, hactions, h.priority, h.follows⟩

theorem IsDraft.putAction {r : Rule α} (h : r.IsDraft) {a : Action α}
    (ha : a.mode.Follows r.premises.getLast?) (branch : Branch) :
    (Builder.putAction r a branch).IsDraft := by
  refine ⟨?_, ?_⟩
  · cases branch with
    | holds => exact h.priority
    | fails => exact h.priority
  · intro a' ha'
    rw [premises_putAction]
    rcases mem_actions_putAction ha' with ha' | rfl
    · exact h.follows a' ha'
    · exact ha

end Rule

namespace Builder

/-- The parts of the builder fit together. -/
structure IsSound (b : Builder α) : Prop where
  numbered : AreNumbered b.begun
  rules : ∀ r ∈ b.rules, r.IsComplete
  draft : ∀ r, b.session.rule? = some r →
    r.IsDraft ∧ ∃ state, b.session.state? = some state ∧ r.IsAt state b.session.branch?
  shut : b.session.rule? = none → b.session.branch? = none ∧ (b.session.state? = none ∨
    b.session.state? = some (.after .priority) ∨ b.session.state? = some .error)

theorem empty_isSound : (empty : Builder α).IsSound :=
  ⟨⟨List.nodup_nil, rfl⟩, by simp [empty], nofun, fun _ => ⟨rfl, Or.inl rfl⟩⟩

namespace IsSound

variable {b : Builder α}

/-- No rule is open. -/
theorem ofRules {rules : List (Rule α)} (hnumbered : AreNumbered rules)
    (hrules : ∀ r ∈ rules, r.IsComplete) {state? : Option BuildState}
    (hstate : state? = none ∨ state? = some (.after .priority) ∨ state? = some .error) :
    (⟨rules, ⟨state?, none, none⟩⟩ : Builder α).IsSound := by
  refine ⟨?_, hrules, nofun, fun _ => ⟨rfl, hstate⟩⟩
  rw [begun_of_rule?_eq_none rfl]
  exact hnumbered

theorem rules_numbered (h : b.IsSound) : AreNumbered b.rules :=
  h.numbered.isPrefix (List.prefix_append _ _)

theorem endRule_numbered (h : b.IsSound) : AreNumbered b.endRule.1.rules :=
  h.numbered.isPrefix b.endRule_prefix_begun

theorem endRule_rules (h : b.IsSound) : ∀ r ∈ b.endRule.1.rules, r.IsComplete := by
  cases hr : b.session.rule? with
  | none =>
    rw [endRule_of_rule?_eq_none hr]
    exact h.rules
  | some r =>
    by_cases hactions : r.thenActions = []
    · rw [endRule_of_no_actions hr hactions]
      exact h.rules
    · obtain ⟨hdraft, state, -, hat⟩ := h.draft r hr
      rw [endRule_of_actions hr hactions]
      exact List.forall_mem_append.mpr
        ⟨h.rules, by simpa using hdraft.isComplete hat hactions⟩

theorem finish (h : b.IsSound) : b.finish.1.IsSound :=
  ofRules h.endRule_numbered h.endRule_rules (Or.inl rfl)

theorem endRule (h : b.IsSound) : b.endRule.1.IsSound := by
  cases hr : b.session.rule? with
  | none =>
    rw [endRule_of_rule?_eq_none hr]
    exact h
  | some r =>
    have hended : b.endRule.1 = ⟨b.endRule.1.rules, .shut (.after .priority)⟩ := by
      rw [← session_endRule hr]
    rw [hended]
    exact ofRules h.endRule_numbered h.endRule_rules (Or.inr (Or.inl rfl))

/-- Another rule with the same number is open. -/
theorem withDraft {r r' : Rule α} {state : BuildState} {branch? : Option Branch}
    (h : b.IsSound) (hr : b.session.rule? = some r) (hid : r'.id = r.id)
    (hposition : r'.position = r.position) (hat : r'.IsAt state branch?) (hdraft : r'.IsDraft) :
    (⟨b.rules, ⟨some state, some r', branch?⟩⟩ : Builder α).IsSound := by
  refine ⟨?_, h.rules, ?_, nofun⟩
  · have hnumbered := h.numbered
    rw [begun_of_rule?_eq_some hr] at hnumbered
    rw [begun_of_rule?_eq_some rfl]
    exact hnumbered.replaceLast hid hposition
  · rintro _ ⟨⟩
    exact ⟨hdraft, state, rfl, hat⟩

/-- A line keeps the invariant, also if it is refused. -/
theorem addLine [TimeReader α] (hzero : Scalar.isFinite (Scalar.zero : α) = true) (h : b.IsSound)
    (n : Network α) (tokens : List String) (line : Option Int) :
    (b.addLine n tokens line).builder.IsSound := by
  have heffect := addLine_effect n b tokens line
  generalize b.addLine n tokens line = added at heffect ⊢
  cases heffect with
  | ignored hi => exact h
  | @header word id htokens hk hnew =>
    refine ⟨?_, h.endRule_rules, ?_, nofun⟩
    · rw [begun_of_rule?_eq_some rfl]
      refine h.endRule_numbered.snoc (fun hmem => ?_) rfl
      -- the id is new among all rules that were begun, so also among those that are left
      have hbegun : id ∈ b.begun.map Rule.id :=
        List.map_subset Rule.id b.endRule_prefix_begun.subset hmem
      rw [(b.isTaken_iff_mem_begun id).mpr hbegun] at hnew
      cases hnew
    · rintro _ ⟨⟩
      have hdraft : (Builder.draft id b.endRule.1.rules.length line : Rule α).IsDraft :=
        ⟨hzero, by simp [Builder.draft, Rule.actions]⟩
      exact ⟨hdraft, .after .rule, rfl, .header rfl rfl rfl⟩
  | badHeader hk hf => exact ofRules h.endRule_numbered h.endRule_rules (Or.inr (Or.inr rfl))
  | premise hr hk htakes hp =>
    obtain ⟨hdraft, state, hstate, hat⟩ := h.draft _ hr
    obtain ⟨hat, hnone⟩ := hat.addPremise hstate htakes (Clause.joint_of_premise hp)
    exact h.withDraft hr rfl rfl hat ⟨hdraft.priority, fun a ha => absurd ha (hnone a)⟩
  | @action r k branch a hr hk htakes ha =>
    obtain ⟨hdraft, state, hstate, hat⟩ := h.draft _ hr
    have hdraft' := hdraft.putAction (Clause.action_follows ha) branch
    have hat' := hat.putAction hstate htakes a
    cases branch with
    | holds => exact h.withDraft hr rfl rfl hat' hdraft'
    | fails => exact h.withDraft hr rfl rfl hat' hdraft'
  | @priority r word token x hr htakes htokens hk hx =>
    obtain ⟨hdraft, state, hstate, hat⟩ := h.draft _ hr
    have hpriority : (b.mapRule fun r => { r with priority := x }).IsSound := by
      rw [mapRule_of_rule? hr, hstate]
      refine h.withDraft hr rfl rfl ?_ ⟨Clause.number_isFinite hx, hdraft.follows⟩
      exact hat.withPriority x
    exact hpriority.endRule
  | badClause hk hf => exact ofRules h.rules_numbered h.rules (Or.inr (Or.inr rfl))
  | tooLarge hr hk htakes hlarge => exact h

end IsSound

/-! ## 5. Calls -/

/-- What can be asked of a builder. -/
inductive Call where
  | line (tokens : List String) (number : Option Int)
  | finish

/-- The builder after a call, whether or not the call has failed. -/
def call [TimeReader α] (n : Network α) (b : Builder α) : Call → Builder α
  | .line tokens number => (b.addLine n tokens number).builder
  | .finish => b.finish.1

def calls [TimeReader α] (n : Network α) (b : Builder α) (cs : List Call) : Builder α :=
  cs.foldl (call n) b

theorem IsSound.call [TimeReader α] {b : Builder α}
    (hzero : Scalar.isFinite (Scalar.zero : α) = true) (h : b.IsSound) (n : Network α) (c : Call) :
    (b.call n c).IsSound := by
  cases c with
  | line tokens number => exact h.addLine hzero n tokens number
  | finish => exact h.finish

theorem IsSound.calls [TimeReader α] {b : Builder α}
    (hzero : Scalar.isFinite (Scalar.zero : α) = true) (h : b.IsSound) (n : Network α)
    (cs : List Call) : (b.calls n cs).IsSound := by
  induction cs generalizing b with
  | nil => exact h
  | cons c rest ih => exact ih (h.call hzero n c)

/-- No call takes a finished rule away or changes one. -/
theorem rules_prefix_call [TimeReader α] (n : Network α) (b : Builder α) (c : Call) :
    b.rules <+: (b.call n c).rules := by
  cases c with
  | line tokens number => exact rules_prefix_addLine n b tokens number
  | finish => exact b.rules_prefix_endRule

end Builder

/-- The parts of a session fit together. -/
structure Session.IsConsistent (s : Session α) : Prop where
  rule?_eq_none_iff : s.rule? = none ↔
    s.state? = none ∨ s.state? = some (.after .priority) ∨ s.state? = some .error
  branch?_eq_none : s.rule? = none → s.branch? = none
  header : ∀ r, s.rule? = some r → s.state? = some (.after .rule) →
    r.premises = [] ∧ r.thenActions = [] ∧ r.elseActions = []
  premises : ∀ r, s.rule? = some r → s.branch? = none → s.state? ≠ some (.after .rule) →
    r.premises ≠ [] ∧ r.thenActions = [] ∧ r.elseActions = []
  holds : ∀ r, s.rule? = some r → s.branch? = some .holds →
    r.thenActions ≠ [] ∧ r.elseActions = []
  fails : ∀ r, s.rule? = some r → s.branch? = some .fails →
    r.thenActions ≠ [] ∧ r.elseActions ≠ []
  follows : ∀ r, s.rule? = some r → ∀ a ∈ r.actions, a.mode.Follows r.premises.getLast?

theorem Builder.IsSound.isConsistent {b : Builder α} (h : b.IsSound) :
    b.session.IsConsistent where
  rule?_eq_none_iff := by
    constructor
    · exact fun hr => (h.shut hr).2
    · intro hshut
      by_contra hr
      obtain ⟨r, hr⟩ := Option.ne_none_iff_exists'.mp hr
      obtain ⟨-, state, hstate, hat⟩ := h.draft r hr
      simp [hstate, hat.state_ne] at hshut
  branch?_eq_none hr := (h.shut hr).1
  header r hr hheader := by
    obtain ⟨-, state, hstate, hat⟩ := h.draft r hr
    obtain rfl : state = .after .rule := Option.some.inj (hstate.symm.trans hheader)
    exact hat.behind_header.2
  premises r hr hbranch hheader := by
    obtain ⟨-, state, hstate, hat⟩ := h.draft r hr
    rw [hbranch] at hat
    obtain ⟨⟨p, rest, hpremises, -⟩, hactions⟩ :=
      hat.without_branch fun heq => hheader (hstate.trans (congrArg some heq))
    refine ⟨?_, hactions⟩
    rw [hpremises]
    exact List.cons_ne_nil p rest
  holds r hr hbranch := by
    obtain ⟨-, state, -, hat⟩ := h.draft r hr
    rw [hbranch] at hat
    cases hat with
    | holds hstate hjoined hthen helse => exact ⟨hthen, helse⟩
  fails r hr hbranch := by
    obtain ⟨-, state, -, hat⟩ := h.draft r hr
    rw [hbranch] at hat
    cases hat with
    | fails hstate hjoined hthen helse => exact ⟨hthen, helse⟩
  follows r hr := (h.draft r hr).1.follows

/-- A builder that is in order. -/
structure Builder.InOrder (b : Builder α) : Prop where
  ids : (b.rules.map Rule.id).Nodup
  positions : ∀ (i : Nat) (r : Rule α), b.rules[i]? = some r → r.position = i
  rules : ∀ r ∈ b.rules, r.IsComplete
  session : b.session.IsConsistent

/-- **A builder is in order after any calls, and the next call keeps the finished rules as they
are.** -/
theorem builder_inOrder [TimeReader Float] (n : Network Float) (cs : List Builder.Call) :
    (Builder.empty.calls n cs).InOrder ∧
      ∀ c, (Builder.empty.calls n cs).rules <+: ((Builder.empty.calls n cs).call n c).rules := by
  have hsound : (Builder.empty.calls n cs).IsSound :=
    Builder.empty_isSound.calls (by decide) n cs
  have hnumbered := hsound.rules_numbered
  refine ⟨⟨hnumbered.ids, ?_, hsound.rules, hsound.isConsistent⟩, ?_⟩
  · intro i r hr
    exact hnumbered.position_eq hr
  · intro c
    exact Builder.rules_prefix_call n _ c

end Sluice
