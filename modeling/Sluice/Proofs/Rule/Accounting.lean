import Mathlib.Data.List.TakeWhile
import Sluice.Calendar.Readers
import Sluice.Proofs.Rule.Collecting
import Sluice.Proofs.Rule.Session

/-!
# What becomes of the rules of a text

Whoever reads the faults of a text wants to find every rule that is missing among them. So each
header has to be *accounted for*: its rule is built, or a fault was collected between it and the
next header.

**Every header is accounted for, but for one case** (`header_accounted`): a rule without actions
is ended by a header that is itself refused. Of the two faults only that of the second header is
collected, and it is outside the block of the first; the rule without actions shows in the log
and nowhere else.

The proof follows one rule. It is begun by its header, each line of its block keeps it or leaves
a fault behind, and then it is ended. As long as nothing has gone wrong, its line is among those
of the rules that were begun.
-/

set_option autoImplicit false

namespace Sluice

/-! ## 1. The numbers of lines -/

namespace Section

theorem le_of_mem_ruleLinesFrom {inside : Bool} {number : Nat} {lines : List String}
    {l : Nat × String} (h : l ∈ ruleLinesFrom inside number lines) : number ≤ l.1 := by
  induction lines generalizing inside number with
  | nil => cases h
  | cons line rest ih =>
    rw [ruleLinesFrom] at h
    split at h
    · exact Nat.le_of_succ_le (ih h)
    · split at h
      · rcases List.mem_cons.mp h with rfl | h
        · exact Nat.le_refl _
        · exact Nat.le_of_succ_le (ih h)
      · exact Nat.le_of_succ_le (ih h)

theorem ruleLinesFrom_pairwise (inside : Bool) (number : Nat) (lines : List String) :
    (ruleLinesFrom inside number lines).Pairwise fun l l' => l.1 < l'.1 := by
  induction lines generalizing inside number with
  | nil => exact List.Pairwise.nil
  | cons line rest ih =>
    rw [ruleLinesFrom]
    split
    · exact ih _ _
    · split
      · exact List.pairwise_cons.mpr ⟨fun l hl => le_of_mem_ruleLinesFrom hl, ih _ _⟩
      · exact ih _ _

theorem map_number_of_mapM {numbered : List (Nat × String)} {ls : List ClauseLine}
    (h : numbered.mapM ClauseLine.read? = some ls) :
    ls.map ClauseLine.number = numbered.map Prod.fst := by
  induction numbered generalizing ls with
  | nil =>
    cases h
    rfl
  | cons l rest ih =>
    obtain ⟨first, hfirst, others, hothers, rfl⟩ := mapM_cons_eq_some.mp h
    obtain ⟨tokens, -, rfl⟩ := Option.map_eq_some_iff.mp hfirst
    rw [List.map_cons, List.map_cons, ih hothers]

/-- Clause lines come in the order of their numbers. -/
theorem clauseLines?_pairwise {lines : List String} {ls : List ClauseLine}
    (h : clauseLines? lines = some ls) : ls.Pairwise fun l l' => l.number < l'.number := by
  obtain ⟨all, hall, rfl⟩ := Option.map_eq_some_iff.mp h
  refine List.Pairwise.filter _ (List.pairwise_map.mp ?_)
  rw [map_number_of_mapM hall]
  exact List.pairwise_map.mpr (ruleLinesFrom_pairwise _ _ _)

end Section

/-! ## 2. A rule that was begun -/

namespace Builder

/-- The numbers of the lines where the rules were begun. -/
def begunLines {α : Type} (b : Builder α) : List (Option Int) := b.begun.map Rule.line

variable {n : Network Float} {b : Builder Float}

/-- Ending a rule keeps it, or says that it is incomplete. -/
theorem endRule_keeps {number : Int} (h : some number ∈ b.begunLines) :
    some number ∈ b.endRule.1.rules.map Rule.line ∨
      ∃ id, b.endRule.2 = some ⟨.incomplete, none, some number, some id⟩ := by
  rcases b.endRule_cases with ⟨hrules, -⟩ | ⟨hrules, r, hr, -, hmissing⟩
  · left
    rw [hrules]
    exact h
  · rw [hrules, hmissing]
    rw [begunLines, begun_of_rule?_eq_some hr, List.map_append, List.mem_append] at h
    rcases h with h | h
    · exact Or.inl h
    · have hline : some number = r.line := List.mem_singleton.mp h
      right
      rw [incomplete, ← hline]
      exact ⟨r.id, rfl⟩

/-- A header ends the open rule and is begun itself, or it is refused. -/
theorem addLine_header [TimeReader Float] {l : ClauseLine} (hk : l.keyword? = some .rule) :
    (b.addLine n l.tokens (some l.number)).builder.rules = b.endRule.1.rules ∧
      (some (l.number : Int) ∈ (b.addLine n l.tokens (some l.number)).builder.begunLines ∧
          (b.addLine n l.tokens (some l.number)).error = b.endRule.2.map .fault ∨
        (b.addLine n l.tokens (some l.number)).warnings = b.endRule.2.toList.map Fault.message ∧
          ∃ f, (b.addLine n l.tokens (some l.number)).error = some (.fault f) ∧
            f.line = some l.number ∧ (f.cause = .tooFewItems ∨ f.cause = .duplicate)) := by
  rw [addLine_of_header n b _ hk, openRule]
  cases hfault : b.headerFault l.tokens (some (l.number : Int)) with
  | none =>
    refine ⟨rfl, Or.inl ⟨?_, rfl⟩⟩
    rw [begunLines, begun_of_rule?_eq_some rfl, List.map_append]
    exact List.mem_append_right _ (List.mem_singleton_self _)
  | some f => exact ⟨rfl, Or.inr ⟨rfl, f, rfl, place_of_headerFault hfault⟩⟩

/-- A line of a block keeps the rules that were begun, or leaves a fault behind. -/
theorem begunLines_addLine [TimeReader Float] (hsound : b.IsSound) {l : ClauseLine}
    (hk : l.keyword? ≠ some .rule)
    (hlarge : (b.addLine n l.tokens (some l.number)).error ≠ some .tooLarge) :
    (b.addLine n l.tokens (some l.number)).builder.begunLines = b.begunLines ∨
      ∃ f, (b.addLine n l.tokens (some l.number)).error = some (.fault f) ∧
        f.line = some l.number := by
  have heffect := addLine_effect n b l.tokens (some (l.number : Int))
  generalize b.addLine n l.tokens (some (l.number : Int)) = added at heffect hlarge ⊢
  unfold begunLines
  cases heffect with
  | ignored h => exact Or.inl rfl
  | header htokens hrule hnew =>
    rw [ClauseLine.keyword?, htokens] at hk
    exact absurd hrule hk
  | badHeader hrule hf => exact absurd hrule hk
  | premise hr hk htakes hp => exact Or.inl (map_begun_of_rule? Rule.line hr (by rfl))
  | @action r k branch a hr hk htakes ha =>
    left
    cases branch with
    | holds => exact map_begun_of_rule? Rule.line hr (by rfl)
    | fails => exact map_begun_of_rule? Rule.line hr (by rfl)
  | @priority r word token x hr htakes htokens hk hx =>
    left
    -- a rule that takes a priority has actions
    have hactions : ({ r with priority := x } : Rule Float).thenActions ≠ [] := by
      obtain ⟨⟨branch, hbranch⟩, -⟩ := Session.atActions_eq_true.mp htakes
      obtain ⟨-, state, -, hat⟩ := hsound.draft r hr
      rw [hbranch] at hat
      exact hat.thenActions_ne_nil
    rw [mapRule_of_rule? hr, endRule_of_actions rfl hactions, begun_of_rule?_eq_none rfl,
      begun_of_rule?_eq_some hr, List.map_append, List.map_append]
    rfl
  | @badClause f warnings hrule hf =>
    refine Or.inr ⟨_, rfl, ?_⟩
    rw [Fault.tag, hf.1]
    rfl
  | tooLarge hr hk htakes h => exact absurd rfl hlarge

theorem IsSound.addLines [TimeReader Float] (h : b.IsSound) (ls : List ClauseLine) :
    (b.addLines n ls).IsSound := by
  induction ls generalizing b with
  | nil => exact h
  | cons l rest ih => exact ih (h.addLine (by decide) n l.tokens _)

end Builder

namespace Building

variable {n : Network Float}

theorem begunLines_collect [TimeReader Float] {p : Building Float} (hsound : p.builder.IsSound)
    {body : List ClauseLine} (hbody : ∀ l ∈ body, l.keyword? ≠ some .rule)
    (hnone : Builder.NoneTooLarge n p.builder body) :
    (p.collect n body).builder.begunLines = p.builder.begunLines ∨
      ∃ f ∈ (p.collect n body).faults, ∃ l ∈ body, f.line = some (l.number : Int) := by
  induction body generalizing p with
  | nil => exact Or.inl rfl
  | cons l rest ih =>
    obtain ⟨hlarge, hrest⟩ := Builder.noneTooLarge_cons.mp hnone
    have hl := Builder.begunLines_addLine hsound (hbody l List.mem_cons_self) hlarge
    -- a fault of this line settles it, otherwise the rest of the block has to
    rcases hl with hkept | ⟨f, herror, hline⟩
    · have hnext := ih (p := p.add n l) (hsound.addLine (by decide) n l.tokens _)
        (fun l' hl' => hbody l' (List.mem_cons_of_mem _ hl')) hrest
      rcases hnext with hnext | ⟨f, hf, l', hl', hline⟩
      · exact Or.inl (hnext.trans hkept)
      · exact Or.inr ⟨f, hf, l', List.mem_cons_of_mem _ hl', hline⟩
    · exact Or.inr ⟨f, mem_faults_collect herror rest, l, List.mem_cons_self, hline⟩

end Building

/-! ## 3. Accounting -/

/-- The header that ends a block. -/
def nextHeader? (rest : List ClauseLine) : Option ClauseLine :=
  rest.find? fun l => l.keyword? == some .rule

/-- A number of a line in the block of a header. -/
def InBlock (header : ClauseLine) (next? : Option ClauseLine) (line : Int) : Prop :=
  header.number ≤ line ∧ ∀ next ∈ next?, line < next.number

/-- A rule came of a header, or a fault of its block. -/
def IsAccountedFor (rules : List (Rule Float)) (faults : List Fault) (header : ClauseLine)
    (next? : Option ClauseLine) : Prop :=
  (∃ r ∈ rules, r.line = some (header.number : Int)) ∨
    ∃ f ∈ faults, ∃ line, f.line = some line ∧ InBlock header next? line

/-- The rule of a header had no actions when a header came that was refused itself. There is a
fault of the second header, and a warning about the rule. -/
def IsDropped (log : List LogEntry) (faults : List Fault) (header : ClauseLine)
    (next? : Option ClauseLine) : Prop :=
  ∃ next ∈ next?,
    (∃ f ∈ faults, f.line = some (next.number : Int) ∧
      (f.cause = .tooFewItems ∨ f.cause = .duplicate)) ∧
    ∃ id, Building.warn (Fault.message ⟨.incomplete, none, some header.number, some id⟩) ∈ log

namespace Building

variable {n : Network Float} {p : Building Float} {header : ClauseLine} {after : List ClauseLine}

/-- What becomes of a rule that is still begun at the end of its block. -/
theorem ended_of_begun [TimeReader Float] (h : some (header.number : Int) ∈ p.builder.begunLines)
    (hafter : ∀ l ∈ after.head?, l.keyword? = some .rule) :
    some (header.number : Int) ∈ (p.collect n after).ended.builder.rules.map Rule.line ∨
      (∃ f ∈ (p.collect n after).ended.faults, f.line = some (header.number : Int)) ∨
      IsDropped (p.collect n after).ended.log (p.collect n after).ended.faults header
        after.head? := by
  rcases Builder.endRule_keeps h with hkept | ⟨id, hmissing⟩
  · left
    cases after with
    | nil => exact hkept
    | cons next rest =>
      rw [← (Builder.addLine_header (n := n) (hafter next rfl)).1] at hkept
      exact List.map_subset Rule.line (rules_prefix_ended (p.add n next) rest).subset hkept
  · right
    cases after with
    | nil =>
      exact Or.inl ⟨_, List.mem_append_right _ (Option.mem_toList.mpr hmissing), rfl⟩
    | cons next rest =>
      have hheader := (Builder.addLine_header (n := n) (b := p.builder) (hafter next rfl)).2
      rw [hmissing] at hheader
      -- the next header returns the fault of the rule, unless it has one of its own
      rcases hheader with ⟨-, herror⟩ | ⟨hwarnings, f, herror, hline, hcause⟩
      · exact Or.inl ⟨_, List.mem_append_left _ (mem_faults_collect herror rest), rfl⟩
      · refine Or.inr ⟨next, rfl, ⟨f, ?_, hline, hcause⟩, id, ?_⟩
        · exact List.mem_append_left _ (mem_faults_collect herror rest)
        · refine log_subset_ended (p.add n next) rest ?_
          refine List.mem_append_left _ (List.mem_append_right _ ?_)
          rw [hwarnings]
          exact List.mem_singleton_self _

/-- What becomes of the rule of a header, whose block is `body`. -/
theorem ended_of_header [TimeReader Float] (hsound : p.builder.IsSound)
    (hheader : header.keyword? = some .rule) {body : List ClauseLine}
    (hbody : ∀ l ∈ body, l.keyword? ≠ some .rule)
    (hnone : Builder.NoneTooLarge n (p.add n header).builder body)
    (hafter : ∀ l ∈ after.head?, l.keyword? = some .rule) {q : Building Float}
    (hq : q = (p.collect n (header :: (body ++ after))).ended) :
    some (header.number : Int) ∈ q.builder.rules.map Rule.line ∨
      (∃ f ∈ q.faults, ∃ l ∈ header :: body, f.line = some (l.number : Int)) ∨
      IsDropped q.log q.faults header after.head? := by
  have hblock : q = (((p.add n header).collect n body).collect n after).ended := by
    rw [hq, collect_cons, collect_append]
  have hsound' : (p.add n header).builder.IsSound :=
    hsound.addLine (by decide) n header.tokens _
  rcases (Builder.addLine_header (n := n) (b := p.builder) hheader).2 with
    ⟨hbegun, -⟩ | ⟨-, f, herror, hline, -⟩
  · rcases begunLines_collect hsound' hbody hnone with hkept | ⟨f, hf, l, hl, hline⟩
    · have hended := ended_of_begun (n := n) (p := (p.add n header).collect n body)
        (hkept ▸ hbegun) hafter
      rw [← hblock] at hended
      rcases hended with hrule | ⟨f, hf, hline⟩ | hdropped
      · exact Or.inl hrule
      · exact Or.inr (Or.inl ⟨f, hf, header, List.mem_cons_self, hline⟩)
      · exact Or.inr (Or.inr hdropped)
    · refine Or.inr (Or.inl ⟨f, ?_, l, List.mem_cons_of_mem _ hl, hline⟩)
      rw [hblock]
      exact faults_subset_ended _ after hf
  · refine Or.inr (Or.inl ⟨f, ?_, header, List.mem_cons_self, hline⟩)
    rw [hq]
    exact List.mem_append_left _ (mem_faults_collect herror (body ++ after))

end Building

/-- The lines after a header are those of its block, and then the next header. -/
theorem exists_block (rest : List ClauseLine) : ∃ body after, rest = body ++ after ∧
    nextHeader? rest = after.head? ∧ (∀ l ∈ body, l.keyword? ≠ some .rule) ∧
      ∀ l ∈ after.head?, l.keyword? = some .rule := by
  have hnext : nextHeader? rest =
      (rest.dropWhile fun l => !(l.keyword? == some .rule)).head? :=
    List.find?_eq_head?_dropWhile_not _ _
  refine ⟨rest.takeWhile fun l => !(l.keyword? == some .rule), _,
    List.takeWhile_append_dropWhile.symm, hnext, ?_, ?_⟩
  · intro l hl
    simpa using List.mem_takeWhile_imp hl
  · intro l hl
    rw [← hnext] at hl
    simpa using List.find?_some hl

theorem inBlock_of_mem {before body after : List ClauseLine} {header l : ClauseLine}
    (h : (before ++ header :: (body ++ after)).Pairwise fun l l' => l.number < l'.number)
    (hl : l ∈ header :: body) : InBlock header after.head? l.number := by
  obtain ⟨-, hblock, -⟩ := List.pairwise_append.mp h
  obtain ⟨hheader, hrest⟩ := List.pairwise_cons.mp hblock
  obtain ⟨-, -, hbody⟩ := List.pairwise_append.mp hrest
  refine ⟨?_, ?_⟩
  · rcases List.mem_cons.mp hl with rfl | hl
    · exact Int.le_refl _
    · have hlt := hheader l (List.mem_append_left _ hl)
      omega
  · intro next hnext
    have hafter : next ∈ after := List.mem_of_mem_head? hnext
    rcases List.mem_cons.mp hl with rfl | hl
    · have hlt := hheader next (List.mem_append_right _ hafter)
      omega
    · have hlt := hbody l hl next hafter
      omega

/-- **Every header of a text that is built to its end is accounted for, or its rule was dropped
by the next header.** -/
theorem header_accounted [TimeReader Float] {clock : Clock Float} {n : Network Float}
    {lines : List String} {e : Engine Float} {log : List LogEntry} {faults : List Fault}
    (hbuilt : (Engine.ofClock clock).buildRules n false lines = (e, log, .ok faults))
    {before rest : List ClauseLine} {header : ClauseLine}
    (hls : Section.clauseLines? lines = some (before ++ header :: rest))
    (hheader : header.keyword? = some .rule) :
    IsAccountedFor e.rules faults header (nextHeader? rest) ∨
      IsDropped log faults header (nextHeader? rest) := by
  obtain ⟨body, after, rfl, hnext, hbody, hafter⟩ := exists_block rest
  rw [hnext]
  obtain ⟨ls, hls', hnone, rfl, rfl, rfl⟩ := buildRules_eq_ok_iff.mp hbuilt
  obtain rfl : before ++ header :: (body ++ after) = ls := Option.some.inj (hls.symm.trans hls')
  obtain ⟨-, hnone⟩ := Builder.noneTooLarge_append.mp hnone
  obtain ⟨-, hnone⟩ := Builder.noneTooLarge_cons.mp hnone
  obtain ⟨hnone, -⟩ := Builder.noneTooLarge_append.mp hnone
  have hsound : (Builder.empty.addLines n before).IsSound := Builder.empty_isSound.addLines before
  have hbuilder := Building.builder_collect n ⟨.empty, [], []⟩ before
  have hended := Building.ended_of_header (hbuilder ▸ hsound) hheader hbody
    (by rw [Building.add, Building.after, hbuilder]; exact hnone) hafter
    (congrArg Building.ended (Building.collect_append (n := n) _ before _))
  rw [Building.builder_ended_collect] at hended
  rcases hended with hrule | ⟨f, hf, l, hl, hline⟩ | hdropped
  · exact Or.inl (Or.inl (List.mem_map.mp hrule))
  · have hordered := Section.clauseLines?_pairwise hls
    exact Or.inl (Or.inr ⟨f, hf, _, hline, inBlock_of_mem hordered hl⟩)
  · exact Or.inr hdropped

/-! ## 4. A rule that is dropped -/

/-- A rule without actions, then a header without an id, then a rule in order. -/
def lostRuleLines : List String :=
  ["RULE R1", "IF NODE N1 DEPTH > 1", "RULE", "RULE R2", "IF NODE N1 DEPTH > 1",
    "THEN PUMP P1 STATUS = ON"]

/-- The header of the first rule. -/
def lostHeader : ClauseLine := ⟨1, ["RULE", "R1"]⟩

/-- The clause lines after it. -/
def lostRest : List ClauseLine :=
  [⟨2, ["IF", "NODE", "N1", "DEPTH", ">", "1"]⟩, ⟨3, ["RULE"]⟩, ⟨4, ["RULE", "R2"]⟩,
    ⟨5, ["IF", "NODE", "N1", "DEPTH", ">", "1"]⟩, ⟨6, ["THEN", "PUMP", "P1", "STATUS", "=", "ON"]⟩]

theorem clauseLines?_lostRuleLines :
    Section.clauseLines? lostRuleLines = some ([] ++ lostHeader :: lostRest) := by
  decide +kernel

open scoped Readers in
theorem buildRules_lostRuleLines : idleEngine.buildRules onePump false lostRuleLines =
    ((idleEngine.buildRules onePump false lostRuleLines).1,
      (idleEngine.buildRules onePump false lostRuleLines).2.1,
      .ok [⟨.tooFewItems, none, some 3, none⟩]) :=
  Prod.ext rfl (Prod.ext rfl (toOption_eq_some.mp (by decide +kernel)))

open scoped Readers in
theorem header_accounted_lostRule : ∃ e log faults,
    idleEngine.buildRules onePump false lostRuleLines = (e, log, .ok faults) ∧
      (IsAccountedFor e.rules faults lostHeader (nextHeader? lostRest) ∨
        IsDropped log faults lostHeader (nextHeader? lostRest)) :=
  ⟨_, _, _, buildRules_lostRuleLines,
    header_accounted buildRules_lostRuleLines clauseLines?_lostRuleLines rfl⟩

open scoped Readers in
/-- The only fault is that of the second header, and the first rule is missing. -/
theorem not_accountedFor_lostRule : ∃ e log faults,
    idleEngine.buildRules onePump false lostRuleLines = (e, log, .ok faults) ∧
      ¬ IsAccountedFor e.rules faults lostHeader (nextHeader? lostRest) := by
  refine ⟨_, _, _, buildRules_lostRuleLines, ?_⟩
  have hrules : (idleEngine.buildRules onePump false lostRuleLines).1.rules.map Rule.line =
      [some 4] := by
    decide +kernel
  rintro (⟨r, hr, hline⟩ | ⟨f, hf, line, hline, -, hlt⟩)
  · have hmem := List.mem_map_of_mem (f := Rule.line) hr
    rw [hrules, hline] at hmem
    exact absurd hmem (by decide)
  · rw [List.mem_singleton.mp hf] at hline
    obtain rfl : 3 = line := Option.some.inj hline
    have hnext := hlt ⟨3, ["RULE"]⟩ (by decide)
    exact absurd hnext (by decide)

end Sluice
