import Sluice.Proofs.Rule.Collecting

/-!
# Texts without faults

Collecting faults is most of what building a text consists of, and all of it is beside the point
when the question is whether there are any. This file leaves it out: `acceptLine` is the builder
after a line that it has nothing to say about, and `acceptLines` goes through a whole text that
way. **A text is built without faults if and only if all its clause lines are accepted and the
last rule is not left incomplete** (`buildRules_accepts_iff`).

A line that is accepted has one of the effects that a line can have
(`exists_effect_of_acceptLine`). For the other direction there is one lemma for each thing a line
can be: a header (`acceptLine_header`), a premise, an action or the priority of the open rule
(`acceptLine_premise`, `acceptLine_action`, `acceptLine_priority`).
-/

set_option autoImplicit false

namespace Sluice

variable {α : Type} [Scalar α] [TimeReader α]

/-! ## 1. Lines that are accepted -/

omit [Scalar α] [TimeReader α] in
/-- The builder behind a line or a clause, if there was no error. -/
def Added.accepted? (a : Added α) : Option (Builder α) :=
  match a.error with
  | none => some a.builder
  | some _ => none

namespace Builder

/-- The builder after a line, if there is no error in it. -/
def acceptLine (n : Network α) (b : Builder α) (l : ClauseLine) : Option (Builder α) :=
  (b.addLine n l.tokens (some l.number)).accepted?

def acceptLines (n : Network α) (b : Builder α) (ls : List ClauseLine) : Option (Builder α) :=
  ls.foldlM (acceptLine n) b

theorem acceptLines_append (n : Network α) (b : Builder α) (ls ls' : List ClauseLine) :
    acceptLines n b (ls ++ ls') = (acceptLines n b ls).bind fun b' => acceptLines n b' ls' := by
  rw [acceptLines, List.foldlM_append]
  rfl

theorem acceptLines_singleton (n : Network α) (b : Builder α) (l : ClauseLine) :
    acceptLines n b [l] = acceptLine n b l := by
  rw [acceptLines, List.foldlM_cons]
  cases acceptLine n b l with
  | none => rfl
  | some b' => rfl

theorem acceptLine_header {n : Network α} {b : Builder α} {l : ClauseLine}
    (hend : b.endRule.2 = none) (hk : l.keyword? = some .rule) {word id : String}
    (htokens : l.tokens = [word, id]) (hnew : b.isTaken id = false) :
    acceptLine n b l = some ⟨b.endRule.1.rules,
      .start (draft id b.endRule.1.rules.length (some l.number))⟩ := by
  rw [acceptLine, addLine_of_header n b _ hk, htokens, openRule_of_new hnew, hend]
  rfl

theorem exists_effect_of_acceptLine {n : Network α} {b b' : Builder α} {l : ClauseLine}
    (h : acceptLine n b l = some b') :
    ∃ a, LineEffect n b l.tokens (some l.number) a ∧ a.error = none ∧ a.builder = b' := by
  refine ⟨_, addLine_effect n b l.tokens (some l.number), ?_⟩
  rw [acceptLine, Added.accepted?] at h
  split at h
  · rename_i herror
    exact ⟨herror, Option.some.inj h⟩
  · cases h

omit [Scalar α] [TimeReader α] in
/-- Settling a clause does not make it accepted. -/
theorem accepted?_settle (b : Builder α) (line : Option Int) (a : Added α) :
    (b.settle line a).accepted? = a.accepted? := by
  obtain ⟨builder, warnings, error⟩ := a
  cases error with
  | none => rfl
  | some e =>
    cases e with
    | fault f => rfl
    | tooLarge => rfl

section

variable {n : Network α} {b : Builder α} {l : ClauseLine} {r : Rule α} {k : Keyword}

/-- A line is accepted as a clause of the open rule if it can be added to it. -/
theorem acceptLine_clause (hk : l.keyword? = some k) (hrule : k ≠ .rule)
    (hr : b.session.rule? = some r) (hs : b.session.state? ≠ some .error) :
    acceptLine n b l = (b.addClause n k l.tokens).accepted? := by
  have htokens : l.tokens ≠ [] := by
    intro heq
    rw [ClauseLine.keyword?, heq] at hk
    cases hk
  have hne : Keyword.ofLine? l.tokens ≠ some .rule := by
    rw [show Keyword.ofLine? l.tokens = some k from hk]
    exact fun h => hrule (Option.some.inj h)
  rw [acceptLine, addLine_of_clause n b _ htokens hne hs, accepted?_settle,
    show Keyword.ofLine? l.tokens = some k from hk, addToSession.eq_def, hr]

theorem acceptLine_premise (hr : b.session.rule? = some r) (hk : l.keyword? = some k)
    {joint : Joint} (htakes : b.session.TakesPremise k joint) {p : Premise α}
    (hp : Clause.premise n joint l.tokens = .ok p) :
    acceptLine n b l = some ⟨b.rules, ⟨some (.after k),
      some { r with premises := r.premises ++ [p] }, b.session.branch?⟩⟩ := by
  rw [acceptLine_clause hk htakes.ne_rule hr htakes.state?_ne, addClause_of_takesPremise htakes,
    addPremise, hp, reading, mapRule_of_rule? hr]
  rfl

theorem acceptLine_action (hr : b.session.rule? = some r) (hk : l.keyword? = some k)
    {branch : Branch} (htakes : b.session.TakesAction k branch) {a : Action α}
    (ha : Clause.action n r.premises.getLast? l.tokens = .ok a) :
    acceptLine n b l = some ⟨b.rules, ⟨some (.after k), some (putAction r a branch),
      some branch⟩⟩ := by
  have hlast : (b.inBranch branch).session.lastPremise? = r.premises.getLast? := by
    rw [Session.lastPremise?, inBranch, hr]
    rfl
  have hr' : (b.inBranch branch).session.rule? = some r := hr
  rw [acceptLine_clause hk htakes.ne_rule hr htakes.state?_ne, addClause_of_takesAction htakes,
    addAction, hlast, ha, reading, mapRule_of_rule? hr']
  rfl

theorem acceptLine_priority (hr : b.session.rule? = some r) (hk : l.keyword? = some .priority)
    (htakes : b.session.atActions = true) {word token : String} (htokens : l.tokens = [word, token])
    {x : α} (hx : Clause.number token = .ok x) :
    acceptLine n b l = some (b.mapRule fun r => { r with priority := x }).endRule.1 := by
  have hs : b.session.state? ≠ some .error := by
    obtain ⟨-, state, hstate, haction⟩ := Session.atActions_eq_true.mp htakes
    rintro herror
    obtain rfl : state = .error := Option.some.inj (hstate.symm.trans herror)
    cases haction
  have hclause : b.addClause n .priority l.tokens = b.addPriority l.tokens := if_pos htakes
  rw [acceptLine_clause hk nofun hr hs, hclause, htokens, addPriority, hx]
  rfl

end

end Builder

/-! ## 2. Texts that are accepted -/

/-- Lines are accepted if nothing is collected from them. -/
theorem acceptLines_eq_some_iff {n : Network α} {p : Building α} {ls : List ClauseLine}
    {b' : Builder α} : p.faults = [] ∧ p.builder.acceptLines n ls = some b' ↔
      Builder.NoneTooLarge n p.builder ls ∧ (p.collect n ls).faults = [] ∧
        p.builder.addLines n ls = b' := by
  induction ls generalizing p with
  | nil =>
    constructor
    · rintro ⟨hp, hb⟩
      exact ⟨Builder.noneTooLarge_nil n _, hp, Option.some.inj hb⟩
    · rintro ⟨-, hp, rfl⟩
      exact ⟨hp, rfl⟩
  | cons l rest ih =>
    have haccept : p.builder.acceptLines n (l :: rest) =
        (p.builder.acceptLine n l).bind fun b => b.acceptLines n rest := rfl
    rw [Builder.noneTooLarge_cons, Builder.addLines_cons, haccept, Builder.acceptLine,
      Added.accepted?]
    cases herror : (p.builder.addLine n l.tokens (some l.number)).error with
    | none =>
      have hne : (none : Option ClauseError) ≠ some .tooLarge := nofun
      have hcollect : p.collect n (l :: rest) =
          (p.after (p.builder.addLine n l.tokens (some l.number)) []).collect n rest := by
        rw [Building.collect_cons, Building.add, Added.fault?, herror]
        rfl
      have hrest := ih (p := p.after (p.builder.addLine n l.tokens (some l.number)) [])
      rw [show (p.after _ []).faults = p.faults from List.append_nil _] at hrest
      rw [and_iff_right hne, hcollect]
      exact hrest
    | some e =>
      refine iff_of_false (by rintro ⟨-, h⟩; cases h) ?_
      rintro ⟨⟨hne, -⟩, hfaults, -⟩
      cases e with
      | fault f =>
        have hmem := Building.mem_faults_collect herror rest
        rw [hfaults] at hmem
        cases hmem
      | tooLarge => exact hne rfl

/-- **What it takes for a text to be built without faults.** -/
theorem buildRules_accepts_iff {clock : Clock α} {n : Network α} {lines : List String}
    {rules : List (Rule α)} :
    (∃ e log, (Engine.ofClock clock).buildRules n false lines = (e, log, .ok []) ∧
        e.rules = rules) ↔
      ∃ ls, Section.clauseLines? lines = some ls ∧
        ∃ b : Builder α, Builder.acceptLines n .empty ls = some b ∧ b.endRule.2 = none ∧
          b.endRule.1.rules = rules := by
  have haccept : ∀ ls (b : Builder α), Builder.acceptLines n .empty ls = some b ↔
      Builder.NoneTooLarge n .empty ls ∧
        (Building.collect n ⟨.empty, [], []⟩ ls).faults = [] ∧
        Builder.addLines n .empty ls = b := by
    intro ls b
    rw [← acceptLines_eq_some_iff (p := ⟨.empty, [], []⟩)]
    exact (and_iff_right rfl).symm
  have hended : ∀ ls, (Building.collect n ⟨.empty, [], []⟩ ls).ended.faults = [] ↔
      (Building.collect n ⟨.empty, [], []⟩ ls).faults = [] ∧
        (Builder.addLines n .empty ls).endRule.2 = none := by
    intro ls
    rw [Building.ended, List.append_eq_nil_iff, Option.toList_eq_nil_iff,
      Building.builder_collect]
    rfl
  constructor
  · rintro ⟨e, log, hbuilt, rfl⟩
    obtain ⟨ls, hls, hnone, rfl, -, hfaults⟩ := buildRules_eq_ok_iff.mp hbuilt
    obtain ⟨hcollected, hmissing⟩ := (hended ls).mp hfaults.symm
    exact ⟨ls, hls, _, (haccept ls _).mpr ⟨hnone, hcollected, rfl⟩, hmissing, rfl⟩
  · rintro ⟨ls, hls, b, hb, hmissing, rfl⟩
    obtain ⟨hnone, hcollected, rfl⟩ := (haccept ls b).mp hb
    have hfaults := (hended ls).mpr ⟨hcollected, hmissing⟩
    exact ⟨_, _, buildRules_eq_ok_iff.mpr ⟨ls, hls, hnone, rfl, rfl, hfaults.symm⟩, rfl⟩

end Sluice
