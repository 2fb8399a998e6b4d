import Sluice.Calendar.Readers
import Sluice.Proofs.Rule.Collecting

/-!
# Rules do not disturb each other

A mistake costs the rule it is made in and no other. Stated of two pieces of text, the second of
which begins with a header: **whatever the first piece leaves behind, the rules of both together
are those of the first and then those of the second, moved to positions behind the first**
(`rules_append`).

Two things make it true. A builder that holds more finished rules does everything in the same
way, only further back (`addLine_behind`), unless an id is met that is taken by one of them. And
at a header all states of the session come to the same: whatever was open is ended, and of what
was finished only the ids matter (`addLine_header_behind`).
-/

set_option autoImplicit false

namespace Sluice

variable {α : Type}

/-! ## 1. Behind other rules -/

/-- A rule with a number of rules put in front. -/
def Rule.moved (k : Nat) (r : Rule α) : Rule α := { r with position := k + r.position }

/-- What a rule has of its header. -/
def Rule.origin (r : Rule α) : String × Option Int := (r.id, r.line)

def Session.moved (k : Nat) (s : Session α) : Session α :=
  { s with rule? := s.rule?.map (Rule.moved k) }

theorem Session.ruleId?_moved (k : Nat) (s : Session α) : (s.moved k).ruleId? = s.ruleId? := by
  unfold ruleId? moved
  rw [Option.map_map]
  rfl

theorem Session.lastPremise?_moved (k : Nat) (s : Session α) :
    (s.moved k).lastPremise? = s.lastPremise? := by
  unfold lastPremise? moved
  cases s.rule? with
  | none => rfl
  | some r => rfl

/-- A builder with finished rules put in front. -/
def Builder.behind (base : List (Rule α)) (b : Builder α) : Builder α :=
  ⟨base ++ b.rules.map (Rule.moved base.length), b.session.moved base.length⟩

def Added.behind (base : List (Rule α)) (a : Added α) : Added α :=
  ⟨a.builder.behind base, a.warnings, a.error⟩

namespace Builder

variable (base : List (Rule α)) (b : Builder α)

theorem rule?_behind :
    (b.behind base).session.rule? = b.session.rule?.map (Rule.moved base.length) :=
  rfl

theorem endRule_behind :
    (b.behind base).endRule = (b.endRule.1.behind base, b.endRule.2) := by
  cases hr : b.session.rule? with
  | none =>
    have hr' : (b.behind base).session.rule? = none := by
      rw [rule?_behind, hr]
      rfl
    rw [endRule_of_rule?_eq_none hr, endRule_of_rule?_eq_none hr']
  | some r =>
    have hr' : (b.behind base).session.rule? = some (r.moved base.length) := by
      rw [rule?_behind, hr]
      rfl
    by_cases h : r.thenActions = []
    · rw [endRule_of_no_actions hr h, endRule_of_no_actions hr' h]
      rfl
    · rw [endRule_of_actions hr h, endRule_of_actions hr' h]
      simp [behind, Session.moved, Session.shut]

theorem finish_behind :
    (b.behind base).finish.1.rules = base ++ b.finish.1.rules.map (Rule.moved base.length) := by
  unfold finish
  rw [endRule_behind]
  rfl

theorem isTaken_behind {id : String} (hid : id ∉ base.map Rule.id) :
    (b.behind base).isTaken id = b.isTaken id := by
  have hbase : base.any (fun r => r.id == id) = false := by
    simpa using hid
  unfold isTaken behind
  rw [List.any_append, hbase, List.any_map, Session.ruleId?_moved]
  rfl

theorem headerFault_congr {b b' : Builder α} {tokens : List String} (line : Option Int)
    (h : ∀ word id, tokens = [word, id] → b.isTaken id = b'.isTaken id) :
    b.headerFault tokens line = b'.headerFault tokens line := by
  rw [headerFault.eq_def, headerFault.eq_def]
  split
  · rw [h _ _ rfl]
  · rfl

variable [Scalar α] {n : Network α} {tokens : List String}

theorem openRule_behind {line : Option Int}
    (hids : ∀ word id, tokens = [word, id] → id ∉ base.map Rule.id) :
    (b.behind base).openRule tokens line = (b.openRule tokens line).behind base := by
  have hfault : (b.behind base).headerFault tokens line = b.headerFault tokens line :=
    headerFault_congr line fun word id htokens => isTaken_behind base b (hids word id htokens)
  unfold openRule
  rw [endRule_behind, hfault]
  cases b.headerFault tokens line with
  | some f => rfl
  | none => simp [Added.behind, behind, Session.moved, Session.start, Rule.moved, draft]

/-! ## 2. Clauses -/

omit [Scalar α] in
/-- A change of the open rule that has nothing to do with its position. -/
theorem mapRule_behind {f : Rule α → Rule α}
    (h : ∀ r, f (r.moved base.length) = (f r).moved base.length) :
    (b.behind base).mapRule f = (b.mapRule f).behind base := by
  cases hr : b.session.rule? with
  | none =>
    unfold mapRule behind Session.moved
    simp only [hr, Option.map_none]
  | some r =>
    unfold mapRule behind Session.moved
    simp only [hr, Option.map_some, h]

omit [Scalar α] in
theorem putAction_moved (r : Rule α) (k : Nat) (a : Action α) (branch : Branch) :
    putAction (r.moved k) a branch = (putAction r a branch).moved k := by
  cases branch with
  | holds => rfl
  | fails => rfl

omit [Scalar α] in
theorem reading_behind {β : Type} {warnings : List String} {read : Except ClauseError β}
    {f f' : β → Builder α} (h : ∀ x, f' x = (f x).behind base) :
    (b.behind base).reading warnings read f' = (b.reading warnings read f).behind base := by
  cases read with
  | ok x => exact congrArg (fun b' : Builder α => (⟨b', warnings, none⟩ : Added α)) (h x)
  | error e => rfl

theorem addPremise_behind [TimeReader α] (k : Keyword) (joint : Joint) :
    addPremise n (b.behind base) k joint tokens =
      (addPremise n b k joint tokens).behind base := by
  unfold addPremise
  refine reading_behind base b fun p => ?_
  rw [mapRule_behind]
  · rfl
  · exact fun r => rfl

theorem addAction_behind (k : Keyword) :
    addAction n (b.behind base) k tokens = (addAction n b k tokens).behind base := by
  have hlast : (b.behind base).session.lastPremise? = b.session.lastPremise? :=
    b.session.lastPremise?_moved _
  unfold addAction
  rw [hlast]
  refine reading_behind base b fun a => ?_
  have hbranch : (b.behind base).session.branch? = b.session.branch? := rfl
  rw [hbranch, mapRule_behind]
  · rfl
  · exact fun r => putAction_moved r _ a _

theorem addPriority_behind :
    addPriority (b.behind base) tokens = (addPriority b tokens).behind base := by
  unfold addPriority
  split
  · refine reading_behind base b fun x => ?_
    rw [mapRule_behind, endRule_behind]
    exact fun r => rfl
  · rfl

omit [Scalar α] in
theorem misplaced_behind : (b.behind base).misplaced tokens = (b.misplaced tokens).behind base :=
  rfl

/-- Which clause may follow depends on the state and the branch alone. -/
theorem addClause_behind [TimeReader α] (k : Keyword) :
    addClause n (b.behind base) k tokens = (addClause n b k tokens).behind base := by
  have hheader : (b.behind base).session.atHeader = b.session.atHeader := rfl
  have hpremises : (b.behind base).session.atPremises = b.session.atPremises := rfl
  have hactions : (b.behind base).session.atActions = b.session.atActions := rfl
  have hbranch : (b.behind base).session.branch? = b.session.branch? := rfl
  have hin : ∀ branch, (b.behind base).inBranch branch = (b.inBranch branch).behind base :=
    fun branch => rfl
  rw [addClause.eq_def, addClause.eq_def]
  simp only [hheader, hpremises, hactions, hbranch, hin, addPremise_behind, addAction_behind,
    addPriority_behind, misplaced_behind]
  cases k with
  | rule => rfl
  | and =>
    dsimp only
    rw [apply_ite (Added.behind base), apply_ite (Added.behind base)]
  | first | or | thenBranch | elseBranch | priority =>
    exact (apply_ite (Added.behind base) _ _ _).symm

theorem addToSession_behind [TimeReader α] (k : Option Keyword) :
    addToSession n (b.behind base) k tokens = (addToSession n b k tokens).behind base := by
  rw [addToSession.eq_def, addToSession.eq_def, rule?_behind]
  cases k with
  | none => rfl
  | some k =>
    cases b.session.rule? with
    | none => rfl
    | some r => exact addClause_behind base b k

omit [Scalar α] in
theorem settle_behind (line : Option Int) (a : Added α) :
    (b.behind base).settle line (a.behind base) = (b.settle line a).behind base := by
  have hid : (b.behind base).session.ruleId? = b.session.ruleId? := b.session.ruleId?_moved _
  obtain ⟨builder, warnings, error⟩ := a
  cases error with
  | none => rfl
  | some e =>
    cases e with
    | tooLarge => rfl
    | fault f =>
      unfold settle Added.behind
      rw [hid]
      rfl

/-! ## 3. Lines -/

/-- A line does the same with more rules in front, unless it is a header whose id one of them
has. -/
theorem addLine_behind [TimeReader α] {l : ClauseLine}
    (hids : ∀ id, l.IsHeader id → id ∉ base.map Rule.id) :
    (b.behind base).addLine n l.tokens (some l.number) =
      (b.addLine n l.tokens (some l.number)).behind base := by
  by_cases hk : l.keyword? = some .rule
  · rw [addLine_of_header n _ _ hk, addLine_of_header n _ _ hk]
    exact openRule_behind base b fun word id htokens => hids id ⟨hk, word, htokens⟩
  · by_cases hs : b.session.state? = some .error
    · have hs' : (b.behind base).session.state? = some .error := hs
      rw [addLine_of_skipping n _ _ hk hs, addLine_of_skipping n _ _ hk hs']
      rfl
    · have hs' : (b.behind base).session.state? ≠ some .error := hs
      by_cases htokens : l.tokens = []
      · rw [htokens]
        rfl
      · rw [addLine_of_clause n _ _ htokens hk hs, addLine_of_clause n _ _ htokens hk hs',
          addToSession_behind, settle_behind]

theorem addLines_behind [TimeReader α] {ls : List ClauseLine}
    (hids : ∀ l ∈ ls, ∀ id, l.IsHeader id → id ∉ base.map Rule.id) :
    (b.behind base).addLines n ls = (b.addLines n ls).behind base ∧
      (NoneTooLarge n (b.behind base) ls ↔ NoneTooLarge n b ls) := by
  induction ls generalizing b with
  | nil => exact ⟨rfl, iff_of_true (noneTooLarge_nil n _) (noneTooLarge_nil n _)⟩
  | cons l rest ih =>
    have hl := addLine_behind (n := n) base b (hids l List.mem_cons_self)
    have hrest := ih (b.addLine n l.tokens (some l.number)).builder
      fun l' hl' => hids l' (List.mem_cons_of_mem _ hl')
    rw [addLines_cons, addLines_cons, noneTooLarge_cons, noneTooLarge_cons, hl]
    exact ⟨hrest.1, and_congr_right fun _ => hrest.2⟩

/-! ## 4. Headers -/

/-- Every rule that was begun has its id and its line from a header. -/
theorem origin_of_mem_begun_addLine [TimeReader α] {b : Builder α} {l : ClauseLine}
    {o : String × Option Int}
    (h : o ∈ (b.addLine n l.tokens (some l.number)).builder.begun.map Rule.origin) :
    o ∈ b.begun.map Rule.origin ∨ l.IsHeader o.1 ∧ o.2 = some (l.number : Int) := by
  have hended : b.endRule.1.rules.map Rule.origin ⊆ b.begun.map Rule.origin :=
    List.map_subset Rule.origin b.endRule_prefix_begun.subset
  have heffect := addLine_effect n b l.tokens (some (l.number : Int))
  generalize b.addLine n l.tokens (some (l.number : Int)) = added at heffect h
  cases heffect with
  | ignored hi => exact Or.inl h
  | @header word id htokens hrule hnew =>
    rw [begun_of_rule?_eq_some rfl, List.map_append] at h
    rcases List.mem_append.mp h with h | h
    · exact Or.inl (hended h)
    · obtain rfl : o = (id, some (l.number : Int)) := List.mem_singleton.mp h
      refine Or.inr ⟨⟨?_, word, htokens⟩, rfl⟩
      rw [ClauseLine.keyword?, htokens]
      exact hrule
  | badHeader hrule hf =>
    rw [begun_of_rule?_eq_none rfl] at h
    exact Or.inl (hended h)
  | premise hr hk htakes hp =>
    rw [map_begun_of_rule? Rule.origin hr (by rfl)] at h
    exact Or.inl h
  | @action r k branch a hr hk htakes ha =>
    left
    cases branch with
    | holds =>
      rw [map_begun_of_rule? Rule.origin hr (by rfl)] at h
      exact h
    | fails =>
      rw [map_begun_of_rule? Rule.origin hr (by rfl)] at h
      exact h
  | priority hr htakes htokens hk hx =>
    left
    rw [begun_of_rule?_eq_none (rule?_endRule _), mapRule_of_rule? hr] at h
    have hmem := List.map_subset Rule.origin (endRule_prefix_begun _).subset h
    rw [map_begun_of_rule? Rule.origin hr (by rfl)] at hmem
    exact hmem
  | badClause hrule hf =>
    rw [begun_of_rule?_eq_none rfl] at h
    exact Or.inl (List.map_subset Rule.origin (List.prefix_append _ _).subset h)
  | tooLarge hr hk htakes hlarge => exact Or.inl h

/-- Every id was given by a header. -/
theorem id_of_mem_begun_addLine [TimeReader α] {b : Builder α} {l : ClauseLine} {id : String}
    (h : id ∈ (b.addLine n l.tokens (some l.number)).builder.begun.map Rule.id) :
    id ∈ b.begun.map Rule.id ∨ l.IsHeader id := by
  obtain ⟨r, hr, rfl⟩ := List.mem_map.mp h
  rcases origin_of_mem_begun_addLine (List.mem_map_of_mem (f := Rule.origin) hr) with hkept | hnew
  · obtain ⟨r', hr', horigin⟩ := List.mem_map.mp hkept
    exact Or.inl (List.mem_map.mpr ⟨r', hr', congrArg Prod.fst horigin⟩)
  · exact Or.inr hnew.1

theorem id_of_mem_begun_addLines [TimeReader α] {b : Builder α} {ls : List ClauseLine} {id : String}
    (h : id ∈ (b.addLines n ls).begun.map Rule.id) :
    id ∈ b.begun.map Rule.id ∨ ∃ l ∈ ls, l.IsHeader id := by
  induction ls generalizing b with
  | nil => exact Or.inl h
  | cons l rest ih =>
    rcases ih h with h | ⟨l', hl', hid⟩
    · rcases id_of_mem_begun_addLine h with h | hid
      · exact Or.inl h
      · exact Or.inr ⟨l, List.mem_cons_self, hid⟩
    · exact Or.inr ⟨l', List.mem_cons_of_mem _ hl', hid⟩

/-- At a header all sessions come to the same. -/
theorem addLine_header_behind [TimeReader α] {b : Builder α} {l : ClauseLine}
    (hk : l.keyword? = some .rule) (hids : ∀ id, l.IsHeader id → id ∉ b.begun.map Rule.id) :
    (b.addLine n l.tokens (some l.number)).builder =
      ((empty.addLine n l.tokens (some l.number)).behind b.endRule.1.rules).builder := by
  have hended : ∀ id, l.IsHeader id → id ∉ b.endRule.1.rules.map Rule.id := fun id hid hmem =>
    hids id hid (List.map_subset Rule.id b.endRule_prefix_begun.subset hmem)
  have hfree : ∀ word id, l.tokens = [word, id] →
      b.isTaken id = (empty.behind b.endRule.1.rules).isTaken id := by
    intro word id htokens
    have hid : l.IsHeader id := ⟨hk, word, htokens⟩
    -- the id is new to both, though the open rule may be gone from one of them
    rw [isTaken_behind _ _ (hended id hid), Bool.eq_iff_iff]
    refine iff_of_false (fun h => hids id hid ((isTaken_iff_mem_begun b id).mp h)) ?_
    simp [isTaken, empty, Session.ruleId?, Session.idle]
  have hfault := headerFault_congr (some (l.number : Int)) hfree
  rw [← addLine_behind _ empty hended, addLine_of_header n _ _ hk, addLine_of_header n _ _ hk]
  unfold openRule
  rw [hfault]
  have hrules : (empty.behind b.endRule.1.rules).endRule.1.rules = b.endRule.1.rules := by
    simp [behind, empty, Session.moved, Session.idle, endRule]
  cases (empty.behind b.endRule.1.rules).headerFault l.tokens (some (l.number : Int)) with
  | none => simp only [hrules]
  | some f => simp only [hrules]

theorem error_of_header [TimeReader α] {b : Builder α} {l : ClauseLine}
    (hk : l.keyword? = some .rule) :
    (b.addLine n l.tokens (some l.number)).error ≠ some .tooLarge := by
  intro h
  obtain ⟨r, k, joint, -, hk', htakes, -⟩ := (addLine_eq_tooLarge_iff n b l.tokens _).mp h
  exact htakes.ne_rule (Option.some.inj (hk'.symm.trans hk))

/-! ## 5. Two pieces of text -/

/-- The rules that some clause lines are built into. -/
def built [TimeReader α] (n : Network α) (ls : List ClauseLine) : List (Rule α) :=
  (addLines n empty ls).finish.1.rules

end Builder

/-- **The rules of two pieces of text are those of the first, then those of the second behind
them**, if the second begins with a header and they have no id in common. -/
theorem rules_append [Scalar α] [TimeReader α] {n : Network α} {ls ls' : List ClauseLine}
    (hfirst : ∀ l ∈ ls'.head?, l.keyword? = some .rule)
    (hids : ∀ l ∈ ls, ∀ l' ∈ ls', ∀ id, l.IsHeader id → ¬ l'.IsHeader id) :
    (Builder.NoneTooLarge n .empty (ls ++ ls') ↔
        Builder.NoneTooLarge n .empty ls ∧ Builder.NoneTooLarge n .empty ls') ∧
      Builder.built n (ls ++ ls') = Builder.built n ls ++
        (Builder.built n ls').map (Rule.moved (Builder.built n ls).length) := by
  -- all that the second piece has to know of what the first leaves behind
  have hbegun : ∀ l' ∈ ls', ∀ id, l'.IsHeader id →
      id ∉ (Builder.addLines n .empty ls).begun.map Rule.id := by
    intro l' hl' id hid hmem
    rcases Builder.id_of_mem_begun_addLines hmem with hmem | ⟨l, hl, hid'⟩
    · cases hmem
    · exact hids l hl l' hl' id hid' hid
  rw [Builder.noneTooLarge_append]
  unfold Builder.built
  rw [Builder.addLines_append]
  generalize Builder.addLines n .empty ls = b at hbegun ⊢
  cases ls' with
  | nil =>
    refine ⟨?_, (List.append_nil _).symm⟩
    rw [and_iff_left (Builder.noneTooLarge_nil n b),
      and_iff_left (Builder.noneTooLarge_nil n .empty)]
  | cons header rest =>
    have hheader := hfirst header rfl
    have hstart := Builder.addLine_header_behind (n := n) hheader (hbegun header List.mem_cons_self)
    have hfree : ∀ l ∈ rest, ∀ id, l.IsHeader id → id ∉ b.endRule.1.rules.map Rule.id := by
      intro l hl id hid hmem
      refine hbegun l (List.mem_cons_of_mem _ hl) id hid ?_
      exact List.map_subset Rule.id b.endRule_prefix_begun.subset hmem
    have hrest := Builder.addLines_behind (n := n) b.endRule.1.rules
      (Builder.addLine n .empty header.tokens (some header.number)).builder hfree
    rw [Builder.noneTooLarge_cons, Builder.noneTooLarge_cons, Builder.addLines_cons,
      Builder.addLines_cons, hstart]
    -- from the header on both builders are the same but for the rules in front
    refine ⟨and_congr_right fun _ => ?_, ?_⟩
    · exact and_congr (iff_of_true (Builder.error_of_header hheader)
        (Builder.error_of_header hheader)) hrest.2
    · exact (congrArg (fun b' => b'.finish.1.rules) hrest.1).trans (Builder.finish_behind _ _)

/-! ## 6. Two pieces with mistakes -/

/-- A rule in order, a rule with an action too early, and a rule that is left open. -/
def openLines : List ClauseLine :=
  [⟨1, ["RULE", "R1"]⟩, ⟨2, ["IF", "NODE", "N1", "DEPTH", ">", "1"]⟩,
    ⟨3, ["THEN", "PUMP", "P1", "STATUS", "=", "ON"]⟩, ⟨4, ["RULE", "R2"]⟩,
    ⟨5, ["THEN", "PUMP", "P1", "STATUS", "=", "ON"]⟩, ⟨6, ["RULE", "R3"]⟩,
    ⟨7, ["IF", "NODE", "N1", "DEPTH", ">", "2"]⟩]

/-- A header with two ids, and a rule in order. -/
def furtherLines : List ClauseLine :=
  [⟨8, ["RULE", "R1", "R2"]⟩, ⟨9, ["RULE", "R4"]⟩,
    ⟨10, ["IF", "NODE", "N1", "DEPTH", "<", "1"]⟩,
    ⟨11, ["THEN", "PUMP", "P1", "STATUS", "=", "OFF"]⟩]

open scoped Readers in
theorem rules_append_open :
    (Builder.NoneTooLarge onePump .empty (openLines ++ furtherLines) ↔
        Builder.NoneTooLarge onePump .empty openLines ∧
          Builder.NoneTooLarge onePump .empty furtherLines) ∧
      Builder.built onePump (openLines ++ furtherLines) = Builder.built onePump openLines ++
        (Builder.built onePump furtherLines).map
          (Rule.moved (Builder.built onePump openLines).length) := by
  have hdiffer : ∀ l ∈ openLines, ∀ l' ∈ furtherLines, l.tokens.length = 2 →
      l'.tokens.length = 2 → l.tokens[1]? ≠ l'.tokens[1]? := by
    decide +kernel
  refine rules_append (by decide +kernel) ?_
  rintro l hl l' hl' id ⟨-, word, htokens⟩ ⟨-, word', htokens'⟩
  exact hdiffer l hl l' hl' (by rw [htokens]; rfl) (by rw [htokens']; rfl)
    (by rw [htokens, htokens']; rfl)

open scoped Readers in
example : (Builder.built onePump (openLines ++ furtherLines)).map
    (fun r => (r.id, r.position, r.line)) = [("R1", 0, some 1), ("R4", 1, some 9)] := by
  decide +kernel

end Sluice
