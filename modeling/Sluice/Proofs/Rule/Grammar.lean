import Mathlib.Data.List.Nodup
import Sluice.Proofs.Rule.Accepting
import Sluice.Proofs.Rule.Session

/-!
# The grammar of rules

The builder goes from line to line and keeps a session. Whoever writes rules has a grammar in
mind: a text is a sequence of blocks, and a block is

> `RULE`  `IF` (`AND` | `OR`)*  `THEN` `AND`*  (`ELSE` `AND`*)?  `PRIORITY`?

This file writes the grammar down (`IsText`, with the rules that a text is read as) and shows
that **the builder accepts exactly the texts of the grammar, and builds exactly the rules they
are read as** (`buildRules_iff_grammar`). An `AND` is the place where the two views differ most: in
the grammar it belongs to the list that it stands in, for the builder it depends on what came
before it.

Both directions go along the lines. From the builder to the grammar the invariant is `Reached`:
what the session says of the lines so far. The lists of the grammar grow at their end, so that a
line more is a constructor more. From the grammar to the builder each list is run through.
-/

set_option autoImplicit false

namespace Sluice

variable {α : Type}

/-! ## 1. The grammar -/

def Joint.keyword : Joint → Keyword
  | .first => .first
  | .and => .and
  | .or => .or

namespace ClauseLine

variable [Scalar α] [TimeReader α]

structure IsPremise (n : Network α) (joint : Joint) (l : ClauseLine) (p : Premise α) : Prop where
  keyword : l.keyword? = some joint.keyword
  read : Clause.premise n joint l.tokens = .ok p
  joint : p.joint = joint

/-- A line with some keyword that is read as an action, given the last premise of its rule. -/
structure IsAction (n : Network α) (k : Keyword) (last : Option (Premise α)) (l : ClauseLine)
    (a : Action α) : Prop where
  keyword : l.keyword? = some k
  read : Clause.action n last l.tokens = .ok a

/-- A line that gives a priority, one finite number. -/
structure IsPriority (l : ClauseLine) (x : α) : Prop where
  keyword : l.keyword? = some .priority
  tokens : ∃ word token, l.tokens = [word, token] ∧ Clause.number token = .ok x

end ClauseLine

section

variable [Scalar α] [TimeReader α]

/-- `IF` (`AND` | `OR`)*. -/
inductive Premises (n : Network α) : List ClauseLine → List (Premise α) → Prop
  | first {l : ClauseLine} {p : Premise α} (h : l.IsPremise n .first p) : Premises n [l] [p]
  | joined {ls : List ClauseLine} {ps : List (Premise α)} {l : ClauseLine} {joint : Joint}
      {p : Premise α} (hs : Premises n ls ps) (hjoint : joint = .and ∨ joint = .or)
      (h : l.IsPremise n joint p) : Premises n (ls ++ [l]) (ps ++ [p])

/-- One keyword, then `AND`*. -/
inductive Actions (n : Network α) (k : Keyword) (last : Option (Premise α)) :
    List ClauseLine → List (Action α) → Prop
  | head {l : ClauseLine} {a : Action α} (h : l.IsAction n k last a) : Actions n k last [l] [a]
  | further {ls : List ClauseLine} {as : List (Action α)} {l : ClauseLine} {a : Action α}
      (hs : Actions n k last ls as) (h : l.IsAction n .and last a) :
      Actions n k last (ls ++ [l]) (as ++ [a])

/-- The lines of a block and the rule that it is read as, given how many rules there are before
it. -/
inductive IsBlock (n : Network α) (position : Nat) : List ClauseLine → Rule α → Prop
  | intro {header : ClauseLine} {id : String} {ps ts es ks : List ClauseLine}
      {premises : List (Premise α)} {thenActions elseActions : List (Action α)} {priority : α}
      (hheader : header.IsHeader id) (hpremises : Premises n ps premises)
      (hthen : Actions n .thenBranch premises.getLast? ts thenActions)
      (helse : es = [] ∧ elseActions = [] ∨
        Actions n .elseBranch premises.getLast? es elseActions)
      (hpriority : ks = [] ∧ priority = Scalar.zero ∨ ∃ l, ks = [l] ∧ l.IsPriority priority) :
      IsBlock n position (header :: (ps ++ ts ++ es ++ ks))
        ⟨id, position, some header.number, priority, premises, thenActions, elseActions⟩

/-- The lines of a text and the rules that it is read as. -/
inductive IsText (n : Network α) : List ClauseLine → List (Rule α) → Prop
  | nil : IsText n [] []
  | block {ls bs : List ClauseLine} {rules : List (Rule α)} {r : Rule α}
      (hs : IsText n ls rules) (h : IsBlock n rules.length bs r) :
      IsText n (ls ++ bs) (rules ++ [r])

/-! ## 2. From the builder to the grammar -/

/-- The lines of a block that is not complete yet, what there is of its rule, and the state and
the branch that the session is in. -/
inductive IsOpen (n : Network α) (position : Nat) :
    List ClauseLine → Rule α → BuildState → Option Branch → Prop
  | header {l : ClauseLine} {id : String} (hheader : l.IsHeader id) :
      IsOpen n position [l] (Builder.draft id position (some l.number)) (.after .rule) none
  | premises {l : ClauseLine} {id : String} {ps : List ClauseLine} {premises : List (Premise α)}
      {state : BuildState} (hstate : state.isPremise = true) (hheader : l.IsHeader id)
      (hpremises : Premises n ps premises) :
      IsOpen n position (l :: ps)
        ⟨id, position, some l.number, Scalar.zero, premises, [], []⟩ state none
  | thenActions {l : ClauseLine} {id : String} {ps ts : List ClauseLine}
      {premises : List (Premise α)} {thenActions : List (Action α)} {state : BuildState}
      (hstate : state.isAction = true) (hheader : l.IsHeader id)
      (hpremises : Premises n ps premises)
      (hthen : Actions n .thenBranch premises.getLast? ts thenActions) :
      IsOpen n position (l :: (ps ++ ts))
        ⟨id, position, some l.number, Scalar.zero, premises, thenActions, []⟩
        state (some .holds)
  | elseActions {l : ClauseLine} {id : String} {ps ts es : List ClauseLine}
      {premises : List (Premise α)} {thenActions elseActions : List (Action α)}
      {state : BuildState} (hstate : state.isAction = true) (hheader : l.IsHeader id)
      (hpremises : Premises n ps premises)
      (hthen : Actions n .thenBranch premises.getLast? ts thenActions)
      (helse : Actions n .elseBranch premises.getLast? es elseActions) :
      IsOpen n position (l :: (ps ++ ts ++ es))
        ⟨id, position, some l.number, Scalar.zero, premises, thenActions, elseActions⟩
        state (some .fails)

variable {n : Network α}

omit [TimeReader α] in
theorem Actions.ne_nil {k : Keyword} {last : Option (Premise α)} {ls : List ClauseLine}
    {as : List (Action α)} (h : Actions n k last ls as) : as ≠ [] := by
  cases h with
  | head h => simp
  | further hs h => simp

namespace IsOpen

variable {position : Nat} {bs : List ClauseLine} {r : Rule α} {state : BuildState}
  {branch? : Option Branch}

/-- A block that has come to its actions can be closed by a priority, or without one. -/
theorem isBlock (h : IsOpen n position bs r state branch?) (hactions : r.thenActions ≠ [])
    {ks : List ClauseLine} {x : α}
    (hpriority : ks = [] ∧ x = Scalar.zero ∨ ∃ l, ks = [l] ∧ l.IsPriority x) :
    IsBlock n position (bs ++ ks) { r with priority := x } := by
  cases h with
  | header hheader => exact absurd rfl hactions
  | premises hstate hheader hpremises => exact absurd rfl hactions
  | thenActions hstate hheader hpremises hthen =>
    have hblock : IsBlock n position _ _ := .intro hheader hpremises hthen
      (Or.inl ⟨rfl, rfl⟩) hpriority
    rw [List.append_nil] at hblock
    exact hblock
  | elseActions hstate hheader hpremises hthen helse =>
    exact IsBlock.intro hheader hpremises hthen (Or.inr helse) hpriority

theorem priority_eq (h : IsOpen n position bs r state branch?) : r.priority = Scalar.zero := by
  cases h with
  | header hheader => rfl
  | premises hstate hheader hpremises => rfl
  | thenActions hstate hheader hpremises hthen => rfl
  | elseActions hstate hheader hpremises hthen helse => rfl

theorem state_ne (h : IsOpen n position bs r state branch?) : state ≠ .error := by
  rintro rfl
  cases h with
  | premises hstate hheader hpremises => cases hstate
  | thenActions hstate hheader hpremises hthen => cases hstate
  | elseActions hstate hheader hpremises hthen helse => cases hstate

theorem actions_ne_nil {branch : Branch} (h : IsOpen n position bs r state (some branch)) :
    r.thenActions ≠ [] := by
  cases h with
  | thenActions hstate hheader hpremises hthen => exact hthen.ne_nil
  | elseActions hstate hheader hpremises hthen helse => exact hthen.ne_nil

variable {s : Session α} {l : ClauseLine} {k : Keyword}

/-- A premise that the builder takes is one that the grammar lets follow. -/
theorem addPremise (h : IsOpen n position bs r state s.branch?) (hs : s.state? = some state)
    (hk : l.keyword? = some k) {joint : Joint} (htakes : s.TakesPremise k joint)
    {p : Premise α} (hp : Clause.premise n joint l.tokens = .ok p) :
    IsOpen n position (bs ++ [l]) { r with premises := r.premises ++ [p] } (.after k)
      s.branch? := by
  have hjoint := Clause.joint_of_premise hp
  -- `AND` and `OR` differ in nothing here
  have hjoined : s.atPremises = true → l.IsPremise n joint p → joint = .and ∨ joint = .or →
      (BuildState.after k).isPremise = true → IsOpen n position (bs ++ [l])
        { r with premises := r.premises ++ [p] } (.after k) s.branch? := by
    intro hat hpremise hjoint hstate'
    obtain ⟨hbranch, state', hs', hstate⟩ := Session.atPremises_eq_true.mp hat
    obtain rfl : state = state' := Option.some.inj (hs.symm.trans hs')
    rw [hbranch] at h ⊢
    cases h with
    | header hheader => cases hstate
    | premises hstate hheader hpremises =>
      exact .premises hstate' hheader (hpremises.joined hjoint hpremise)
  cases htakes with
  | first hat =>
    have hheader : s.state? = some (.after .rule) := beq_iff_eq.mp hat
    obtain rfl : state = .after .rule := Option.some.inj (hs.symm.trans hheader)
    generalize s.branch? = branch? at h
    cases h with
    | header hheader => exact .premises rfl hheader (.first ⟨hk, hp, hjoint⟩)
    | premises hstate hheader hpremises => cases hstate
    | thenActions hstate hheader hpremises hthen => cases hstate
    | elseActions hstate hheader hpremises hthen helse => cases hstate
  | and hat => exact hjoined hat ⟨hk, hp, hjoint⟩ (Or.inl rfl) rfl
  | or hat => exact hjoined hat ⟨hk, hp, hjoint⟩ (Or.inr rfl) rfl

/-- So is an action. -/
theorem addAction (h : IsOpen n position bs r state s.branch?) (hs : s.state? = some state)
    (hk : l.keyword? = some k) {branch : Branch} (htakes : s.TakesAction k branch)
    {a : Action α} (ha : Clause.action n r.premises.getLast? l.tokens = .ok a) :
    IsOpen n position (bs ++ [l]) (Builder.putAction r a branch) (.after k) (some branch) := by
  cases htakes with
  | thenBranch hat =>
    obtain ⟨hbranch, state', hs', hstate⟩ := Session.atPremises_eq_true.mp hat
    obtain rfl : state = state' := Option.some.inj (hs.symm.trans hs')
    rw [hbranch] at h
    cases h with
    | header hheader => cases hstate
    | premises hstate hheader hpremises =>
      exact .thenActions rfl hheader hpremises (.head ⟨hk, ha⟩)
  | elseBranch hat hbranch =>
    rw [hbranch] at h
    cases h with
    | thenActions hstate hheader hpremises hthen =>
      exact .elseActions rfl hheader hpremises hthen (.head ⟨hk, ha⟩)
  | and hat hbranch =>
    rw [hbranch] at h
    cases h with
    | thenActions hstate hheader hpremises hthen =>
      have hopen : IsOpen n position _ _ (.after .and) _ := .thenActions rfl hheader hpremises
        (hthen.further ⟨hk, ha⟩)
      rw [← List.append_assoc] at hopen
      exact hopen
    | elseActions hstate hheader hpremises hthen helse =>
      have hopen : IsOpen n position _ _ (.after .and) _ := .elseActions rfl hheader hpremises
        hthen (helse.further ⟨hk, ha⟩)
      rw [← List.append_assoc] at hopen
      exact hopen

end IsOpen

/-- The invariant: the lines so far are a text, and if a rule is open, another block that is
not complete yet. The ids of all rules differ, the open one included. -/
inductive Reached (n : Network α) : List ClauseLine → Builder α → Prop
  | start : Reached n [] .empty
  | isClosed {ls : List ClauseLine} {rules : List (Rule α)} (htext : IsText n ls rules)
      (hids : (rules.map Rule.id).Nodup) : Reached n ls ⟨rules, .shut (.after .priority)⟩
  | isOpen {ls bs : List ClauseLine} {rules : List (Rule α)} {r : Rule α} {state : BuildState}
      {branch? : Option Branch} (htext : IsText n ls rules)
      (hopen : IsOpen n rules.length bs r state branch?)
      (hids : ((rules ++ [r]).map Rule.id).Nodup) :
      Reached n (ls ++ bs) ⟨rules, ⟨some state, some r, branch?⟩⟩

theorem Reached.state?_ne {ls : List ClauseLine} {b : Builder α} (h : Reached n ls b) :
    b.session.state? ≠ some .error := by
  cases h with
  | start => exact nofun
  | isClosed htext hids => exact nofun
  | isOpen htext hopen hids => exact fun heq => hopen.state_ne (Option.some.inj heq)

/-- Where a rule can end, the lines so far are a text with the rules that are then finished. -/
theorem Reached.isText {ls : List ClauseLine} {b : Builder α} (h : Reached n ls b)
    (hend : b.endRule.2 = none) :
    IsText n ls b.endRule.1.rules ∧ (b.endRule.1.rules.map Rule.id).Nodup := by
  cases h with
  | start => exact ⟨.nil, List.nodup_nil⟩
  | isClosed htext hids => exact ⟨htext, hids⟩
  | @isOpen ls bs rules r state branch? htext hopen hids =>
    have hactions : r.thenActions ≠ [] := by
      intro hnil
      rw [Builder.endRule_of_no_actions rfl hnil] at hend
      cases hend
    rw [Builder.endRule_of_actions rfl hactions]
    have hblock := hopen.isBlock hactions (Or.inl ⟨rfl, hopen.priority_eq⟩)
    rw [List.append_nil] at hblock
    exact ⟨htext.block hblock, hids⟩

omit [Scalar α] [TimeReader α] in
/-- An id is taken if one of the rules has it that there are once the open one has ended. -/
theorem isTaken_iff {b : Builder α} (hend : b.endRule.2 = none) {id : String} :
    b.isTaken id = true ↔ id ∈ b.endRule.1.rules.map Rule.id := by
  rw [Builder.isTaken_iff_mem_begun]
  rcases b.endRule_cases with ⟨hrules, -⟩ | ⟨-, r, -, -, hmissing⟩
  · rw [hrules]
  · rw [hmissing] at hend
    cases hend

/-- One more line that is accepted keeps the invariant. -/
theorem Reached.acceptLine {ls : List ClauseLine} {b b' : Builder α} (h : Reached n ls b)
    {l : ClauseLine} (htokens : l.tokens ≠ []) (hl : b.acceptLine n l = some b') :
    Reached n (ls ++ [l]) b' := by
  obtain ⟨added, heffect, herror, rfl⟩ := Builder.exists_effect_of_acceptLine hl
  cases heffect with
  | ignored hi => exact (hi.elim htokens fun hi => h.state?_ne hi.2).elim
  | @header word id hword hk hnew =>
    -- a header ends the open block and begins a new one
    have hend : b.endRule.2 = none := Option.map_eq_none_iff.mp herror
    obtain ⟨htext, hids⟩ := h.isText hend
    have hheader : l.IsHeader id := ⟨by rw [ClauseLine.keyword?, hword]; exact hk, word, hword⟩
    refine .isOpen htext (.header hheader) ?_
    have hfree : id ∉ b.endRule.1.rules.map Rule.id := fun hmem => by
      rw [(isTaken_iff hend).mpr hmem] at hnew
      cases hnew
    rw [List.map_append, List.map_singleton, ← List.concat_eq_append]
    exact hids.concat hfree
  | badHeader hk hf => cases herror
  | premise hr hk htakes hp =>
    cases h with
    | start => cases hr
    | isClosed htext hids => cases hr
    | isOpen htext hopen hids =>
      cases hr
      rw [List.append_assoc]
      exact .isOpen htext (hopen.addPremise rfl hk htakes hp) (by simpa using hids)
  | @action r k branch a hr hk htakes ha =>
    cases h with
    | start => cases hr
    | isClosed htext hids => cases hr
    | isOpen htext hopen hids =>
      cases hr
      rw [List.append_assoc]
      refine .isOpen htext (hopen.addAction rfl hk htakes ha) ?_
      cases branch with
      | holds => simpa [Builder.putAction] using hids
      | fails => simpa [Builder.putAction] using hids
  | @priority r word token x hr htakes hword hk hx =>
    cases h with
    | start => cases hr
    | isClosed htext hids => cases hr
    | isOpen htext hopen hids =>
      cases hr
      obtain ⟨⟨branch, hbranch⟩, -⟩ := Session.atActions_eq_true.mp htakes
      obtain rfl : _ = some branch := hbranch
      have hactions : ({ r with priority := x } : Rule α).thenActions ≠ [] := hopen.actions_ne_nil
      have hpriority : l.IsPriority x :=
        ⟨by rw [ClauseLine.keyword?, hword]; exact hk, word, token, hword, hx⟩
      rw [Builder.mapRule_of_rule? rfl, Builder.endRule_of_actions rfl hactions,
        List.append_assoc]
      exact .isClosed (htext.block (hopen.isBlock hactions (Or.inr ⟨l, rfl, hpriority⟩)))
        (by simpa using hids)
  | badClause hk hf => cases herror
  | tooLarge hr hk htakes hlarge => cases herror

theorem Reached.acceptLines {ls ls' : List ClauseLine} {b b' : Builder α} (h : Reached n ls b)
    (htokens : ∀ l ∈ ls', l.tokens ≠ []) (hl : b.acceptLines n ls' = some b') :
    Reached n (ls ++ ls') b' := by
  induction ls' generalizing ls b with
  | nil =>
    cases hl
    rw [List.append_nil]
    exact h
  | cons l rest ih =>
    rw [Builder.acceptLines, List.foldlM_cons] at hl
    obtain ⟨b₁, hb₁, hl⟩ := Option.bind_eq_some_iff.mp hl
    have hreached := ih (h.acceptLine (htokens l List.mem_cons_self) hb₁)
      (fun l' hl' => htokens l' (List.mem_cons_of_mem l hl')) hl
    rw [List.append_assoc] at hreached
    exact hreached

/-! ## 3. From the grammar to the builder -/

/-- The builder adds the premises of a block to a rule that has none yet. -/
theorem Premises.accepted {ls : List ClauseLine} {ps : List (Premise α)} (h : Premises n ls ps)
    (rules : List (Rule α)) {r : Rule α} (hr : r.premises = []) :
    ∃ state : BuildState, state.isPremise = true ∧
      (⟨rules, .start r⟩ : Builder α).acceptLines n ls =
        some ⟨rules, ⟨some state, some { r with premises := ps }, none⟩⟩ := by
  induction h with
  | @first l p h =>
    refine ⟨.after .first, rfl, ?_⟩
    rw [Builder.acceptLines_singleton,
      Builder.acceptLine_premise rfl h.keyword (.first rfl) h.read, hr]
    rfl
  | @joined ls ps l joint p hs hjoint h ih =>
    obtain ⟨state, hstate, hlines⟩ := ih
    let b : Builder α := ⟨rules, ⟨some state, some { r with premises := ps }, none⟩⟩
    have hat : b.session.atPremises = true := hstate
    rw [Builder.acceptLines_append, hlines, Option.bind_some, Builder.acceptLines_singleton]
    rcases hjoint with rfl | rfl
    · exact ⟨.after .and, rfl, Builder.acceptLine_premise (b := b) rfl h.keyword (.and hat) h.read⟩
    · exact ⟨.after .or, rfl, Builder.acceptLine_premise (b := b) rfl h.keyword (.or hat) h.read⟩

/-- The builder adds the actions of a branch. `rule` is the rule with some actions in this branch,
and the session is one in which the keyword of the branch may follow. -/
theorem Actions.accepted {k : Keyword} {last : Option (Premise α)} {ls : List ClauseLine}
    {as : List (Action α)} (h : Actions n k last ls as) (rules : List (Rule α))
    {state : BuildState} {branch? : Option Branch} (branch : Branch)
    (rule : List (Action α) → Rule α) (hlast : ∀ as, (rule as).premises.getLast? = last)
    (hput : ∀ as a, Builder.putAction (rule as) a branch = rule (as ++ [a]))
    (hk : (BuildState.after k).isAction = true)
    (htakes : (⟨some state, some (rule []), branch?⟩ : Session α).TakesAction k branch) :
    ∃ state' : BuildState, state'.isAction = true ∧
      (⟨rules, ⟨some state, some (rule []), branch?⟩⟩ : Builder α).acceptLines n ls =
        some ⟨rules, ⟨some state', some (rule as), some branch⟩⟩ := by
  induction h with
  | @head l a h =>
    have hread : Clause.action n (rule []).premises.getLast? l.tokens = .ok a := by
      rw [hlast]
      exact h.read
    refine ⟨.after k, hk, ?_⟩
    rw [Builder.acceptLines_singleton, Builder.acceptLine_action rfl h.keyword htakes hread, hput]
    rfl
  | @further ls as l a hs h ih =>
    obtain ⟨state', hstate', hlines⟩ := ih
    have hread : Clause.action n (rule as).premises.getLast? l.tokens = .ok a := by
      rw [hlast]
      exact h.read
    have hat : (⟨some state', some (rule as), some branch⟩ : Session α).atActions = true := hstate'
    refine ⟨.after .and, rfl, ?_⟩
    rw [Builder.acceptLines_append, hlines, Option.bind_some, Builder.acceptLines_singleton,
      Builder.acceptLine_action rfl h.keyword (.and hat rfl) hread, hput]

theorem ClauseLine.IsHeader.accepted {l : ClauseLine} {id : String} (h : l.IsHeader id)
    {b : Builder α} (hend : b.endRule.2 = none) (hid : id ∉ b.endRule.1.rules.map Rule.id) :
    b.acceptLine n l = some ⟨b.endRule.1.rules,
      .start (Builder.draft id b.endRule.1.rules.length (some l.number))⟩ := by
  obtain ⟨word, hword⟩ := h.tokens
  have hfree : b.isTaken id = false := by
    rw [Bool.eq_false_iff, ne_eq, isTaken_iff hend]
    exact hid
  exact Builder.acceptLine_header hend h.keyword hword hfree

/-- The builder closes a rule that has come to its actions at a priority. -/
theorem ClauseLine.IsPriority.accepted {l : ClauseLine} {x : α} (h : l.IsPriority x)
    (rules : List (Rule α)) {r : Rule α} (hactions : r.thenActions ≠ []) {state : BuildState}
    (hstate : state.isAction = true) (branch : Branch) :
    (⟨rules, ⟨some state, some r, some branch⟩⟩ : Builder α).acceptLine n l =
      some ⟨rules ++ [{ r with priority := x }], .shut (.after .priority)⟩ := by
  obtain ⟨word, token, htokens, hnumber⟩ := h.tokens
  have hat : (⟨some state, some r, some branch⟩ : Session α).atActions = true := hstate
  have hactions' : ({ r with priority := x } : Rule α).thenActions ≠ [] := hactions
  rw [Builder.acceptLine_priority rfl h.keyword hat htokens hnumber,
    Builder.mapRule_of_rule? rfl, Builder.endRule_of_actions rfl hactions']

/-- The builder adds a whole block, if its id is new. -/
theorem IsBlock.accepted {bs : List ClauseLine} {r : Rule α} {b : Builder α}
    (hend : b.endRule.2 = none) (h : IsBlock n b.endRule.1.rules.length bs r)
    (hid : r.id ∉ b.endRule.1.rules.map Rule.id) :
    ∃ b', b.acceptLines n bs = some b' ∧ b'.endRule.2 = none ∧
      b'.endRule.1.rules = b.endRule.1.rules ++ [r] := by
  cases h with
  | @intro header id ps ts es ks premises thenActions elseActions priority hheader hpremises hthen
      helse hpriority =>
    have hopened := hheader.accepted (n := n) hend hid
    generalize b.endRule.1.rules = rules at *
    -- the rule as it is before the priority, with some actions
    let rule := fun (ts es : List (Action α)) =>
      (⟨id, rules.length, some header.number, Scalar.zero, premises, ts, es⟩ : Rule α)
    obtain ⟨state, hstate, hps⟩ := hpremises.accepted rules (r := Builder.draft id rules.length
      (some header.number)) rfl
    have htakes : (⟨some state, some (rule [] []), none⟩ : Session α).TakesAction .thenBranch
        .holds := .thenBranch hstate
    obtain ⟨state', hstate', hts⟩ := hthen.accepted rules .holds (fun ts => rule ts [])
      (fun _ => rfl) (fun _ _ => rfl) rfl htakes
    obtain ⟨state'', branch, hstate'', hes⟩ : ∃ (state'' : BuildState) (branch : Branch),
        state''.isAction = true ∧ Builder.acceptLines n
          ⟨rules, ⟨some state', some (rule thenActions []), some .holds⟩⟩ es =
            some ⟨rules, ⟨some state'', some (rule thenActions elseActions), some branch⟩⟩ := by
      rcases helse with ⟨rfl, rfl⟩ | helse
      · exact ⟨state', .holds, hstate', rfl⟩
      · have htakes : (⟨some state', some (rule thenActions []), some .holds⟩ :
            Session α).TakesAction .elseBranch .fails := .elseBranch hstate' rfl
        obtain ⟨state'', hstate'', hes⟩ := helse.accepted rules .fails (rule thenActions)
          (fun _ => rfl) (fun _ _ => rfl) rfl htakes
        exact ⟨state'', .fails, hstate'', hes⟩
    have hclauses : b.acceptLines n (header :: (ps ++ ts ++ es)) = some ⟨rules,
        ⟨some state'', some (rule thenActions elseActions), some branch⟩⟩ := by
      rw [← List.singleton_append, Builder.acceptLines_append, Builder.acceptLines_singleton,
        hopened, Option.bind_some, Builder.acceptLines_append, Builder.acceptLines_append, hps,
        Option.bind_some]
      exact (congrArg (fun o => o.bind (Builder.acceptLines n · es)) hts).trans hes
    rw [← List.cons_append, Builder.acceptLines_append, hclauses, Option.bind_some]
    rcases hpriority with ⟨rfl, rfl⟩ | ⟨l, rfl, hl⟩
    · refine ⟨_, rfl, ?_⟩
      rw [Builder.endRule_of_actions rfl hthen.ne_nil]
      exact ⟨rfl, rfl⟩
    · rw [Builder.acceptLines_singleton]
      exact ⟨_, hl.accepted rules hthen.ne_nil hstate'' branch, rfl, rfl⟩

/-- The builder adds all blocks of a text. -/
theorem IsText.accepted {ls : List ClauseLine} {rules : List (Rule α)} (h : IsText n ls rules)
    (hids : (rules.map Rule.id).Nodup) :
    ∃ b : Builder α, Builder.acceptLines n .empty ls = some b ∧ b.endRule.2 = none ∧
      b.endRule.1.rules = rules := by
  induction h with
  | nil => exact ⟨.empty, rfl, rfl, rfl⟩
  | @block ls bs rules r hs h ih =>
    rw [List.map_append, List.map_singleton] at hids
    obtain ⟨b, hb, hend, rfl⟩ := ih hids.of_append_left
    have hnew : r.id ∉ b.endRule.1.rules.map Rule.id := fun hmem =>
      List.disjoint_of_nodup_append hids hmem (List.mem_singleton_self _)
    obtain ⟨b', hb', hend', hrules⟩ := h.accepted hend hnew
    refine ⟨b', ?_, hend', hrules⟩
    rw [Builder.acceptLines_append, hb]
    exact hb'

end

/-! ## 4. The builder and the grammar -/

/-- **Rules are built without faults if and only if their text is one of the grammar**, and they
are the rules that the text is read as. Their ids differ. -/
theorem buildRules_iff_grammar [Scalar α] [TimeReader α] (clock : Clock α) (n : Network α)
    (lines : List String) (rules : List (Rule α)) :
    (∃ e log, (Engine.ofClock clock).buildRules n false lines = (e, log, .ok []) ∧
        e.rules = rules) ↔
      ∃ ls, Section.clauseLines? lines = some ls ∧ IsText n ls rules ∧
        (rules.map Rule.id).Nodup := by
  rw [buildRules_accepts_iff]
  refine exists_congr fun ls => and_congr_right fun hls => ?_
  constructor
  · rintro ⟨b, hb, hend, rfl⟩
    have htokens : ∀ l ∈ ls, l.tokens ≠ [] := by
      obtain ⟨all, -, rfl⟩ := Option.map_eq_some_iff.mp hls
      intro l hl hempty
      have hkept := (List.mem_filter.mp hl).2
      rw [hempty] at hkept
      cases hkept
    exact (Reached.start.acceptLines htokens hb).isText hend
  · rintro ⟨htext, hids⟩
    exact htext.accepted hids

end Sluice
