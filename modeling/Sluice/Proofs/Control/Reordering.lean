import Sluice.Proofs.Control.Step

/-!
# The order of the rules

The rules of an engine are a list, and a step goes through it from front to back. What a step
does should not depend on that, and it does not as far as priorities decide. The order comes in
at one place only, the bids of equal priority on one link, of which the first wins. So if the
highest priority on a link is never shared by two rules (`Undisputed`), **the rules can be
permuted without any effect on the step** (`evaluate_perm`): the same settings are committed, if
in another order, the network afterwards is the same, and each rule has the same memories,
wherever it now stands.

Within one rule the order of the actions does count, and a permutation of the rules leaves it as
it is. This is why the condition is about two rules and not about two bids.
-/

set_option autoImplicit false

namespace Sluice

variable {α : Type} [Scalar α]

/-! ## 1. One winner whatever the order -/

/-- No bid on the link of this one has a higher priority. -/
def Bid.IsTop (bids : List (Bid α)) (b : Bid α) : Prop :=
  ∀ x ∈ bids, x.action.link = b.action.link → ¬ b.rule.priority < x.rule.priority

/-- No two rules share the highest priority on a link. -/
def Undisputed (bids : List (Bid α)) : Prop :=
  ∀ b ∈ bids, ∀ b' ∈ bids, b.action.link = b'.action.link → b.IsTop bids → b'.IsTop bids →
    b.rule = b'.rule

section

variable [OrderedScalar α] {n : Network α} {r : Reading α} {dt : α} {rules rules' : List (Rule α)}

theorem undisputed_of_priorities (hnum : ∀ rule ∈ rules, Scalar.isNaN rule.priority = false)
    (h : ∀ rule ∈ rules, ∀ other ∈ rules, (rule.priority == other.priority) = true →
      rule = other) :
    Undisputed (bidsOf n r dt rules) := by
  intro b hb b' hb' hlink htop htop'
  have hbnum := priority_isNumber hnum hb
  have hbnum' := priority_isNumber hnum hb'
  have hle := htop b' hb' hlink.symm
  have hle' := htop' b hb hlink
  rw [OrderedScalar.lt_iff_rank hbnum hbnum', not_lt] at hle
  rw [OrderedScalar.lt_iff_rank hbnum' hbnum, not_lt] at hle'
  refine h b.rule (mem_bidsOf.mp hb).1 b'.rule (mem_bidsOf.mp hb').1 ?_
  rw [OrderedScalar.beq_iff_rank hbnum hbnum']
  exact le_antisymm hle' hle

/-- The winner of a link is the first bid of its own rule on it. -/
theorem find?_of_wins {b : Bid α} (hnum : Scalar.isNaN b.rule.priority = false)
    (h : b.Wins (bidsOf n r dt rules)) :
    (b.rule.bids n r dt).find? (fun x => x.action.link == b.action.link
      && x.rule.priority == b.rule.priority) = some b := by
  have hfirst : (bidsOf n r dt rules).find? (fun x => x.action.link == b.action.link
      && x.rule.priority == b.rule.priority) = some b := by
    obtain ⟨before, behind, hsplit, hbefore⟩ := h.earliest
    rw [hsplit, List.find?_append, List.find?_eq_none.mpr, Option.none_or]
    · rw [List.find?_cons_of_pos]
      simp [(OrderedScalar.beq_iff_rank hnum hnum).mpr rfl]
    · intro x hx hp
      rw [Bool.and_eq_true, beq_iff_eq] at hp
      rw [hbefore x hx hp.1] at hp
      exact Bool.false_ne_true hp.2
  -- the rule that the first such bid comes from is its own
  rw [bidsOf, List.find?_flatMap] at hfirst
  obtain ⟨rule, -, hrule⟩ := List.exists_of_findSome?_eq_some hfirst
  obtain rfl := (Rule.mem_bids.mp (List.mem_of_find?_eq_some hrule)).1
  exact hrule

/-- The winner of a link is the same for every order of the rules. -/
theorem wins_unique (hperm : rules'.Perm rules)
    (hnum : ∀ rule ∈ rules, Scalar.isNaN rule.priority = false)
    (hties : Undisputed (bidsOf n r dt rules)) {b b' : Bid α} (hb : b.Wins (bidsOf n r dt rules))
    (hb' : b'.Wins (bidsOf n r dt rules')) (hlink : b.action.link = b'.action.link) : b = b' := by
  have hbids : (bidsOf n r dt rules').Perm (bidsOf n r dt rules) := hperm.flatMap_right _
  have hmem' : b' ∈ bidsOf n r dt rules := hbids.mem_iff.mp hb'.mem
  have htop' : b'.IsTop (bidsOf n r dt rules) := fun x hx => hb'.highest x (hbids.mem_iff.mpr hx)
  have hrule : b.rule = b'.rule := hties b hb.mem b' hmem' hlink hb.highest htop'
  have hfind := find?_of_wins (priority_isNumber hnum hb.mem) hb
  have hfind' := find?_of_wins (priority_isNumber hnum hmem') hb'
  -- both are now the first bid of one rule on one link
  rw [hrule, hlink] at hfind
  exact Option.some.inj (hfind.symm.trans hfind')

end

/-! ## 2. Two steps with the same winners -/

section

variable {n : Network α} {r : Reading α} {step : α} {e e' : Engine α}
  {result result' : StepResult α} {committed committed' : List (Committed α)}

theorem StepMeets.mem_links (h : StepMeets e n r step result committed) {i : Nat} :
    (∃ k ∈ committed, k.link = i) ↔
      ∃ b ∈ bidsOf n r (Engine.minutes step) e.rules, b.action.link = i := by
  have hi := congrArg (fun links => i ∈ links) h.links
  simpa using hi

theorem StepMeets.nodup (h : StepMeets e n r step result committed) : committed.Nodup := by
  refine List.Nodup.of_map Committed.link ?_
  rw [h.links]
  exact nodup_eraseDups _

/-- What is committed for a link in one step is committed in the other one. -/
theorem StepMeets.committed_subset (h : StepMeets e n r step result committed)
    (h' : StepMeets e' n r step result' committed')
    (hasked : ∀ i, (∃ b ∈ bidsOf n r (Engine.minutes step) e.rules, b.action.link = i) →
      ∃ b ∈ bidsOf n r (Engine.minutes step) e'.rules, b.action.link = i)
    (hsame : ∀ b b' : Bid α, b.Wins (bidsOf n r (Engine.minutes step) e.rules) →
      b'.Wins (bidsOf n r (Engine.minutes step) e'.rules) → b.action.link = b'.action.link →
      b = b') :
    ∀ k ∈ committed, k ∈ committed' := by
  intro k hk
  obtain ⟨b, l, hb, hl, rfl, -⟩ := h.entry k hk
  obtain ⟨k', hk', hlink⟩ := h'.mem_links.mpr (hasked _ ⟨b, hb.mem, rfl⟩)
  obtain ⟨b', l', hb', hl', rfl, -⟩ := h'.entry k' hk'
  obtain rfl : b = b' := hsame b b' hb hb' hlink.symm
  obtain rfl : l = l' := Option.some.inj (hl.symm.trans hl')
  exact hk'

theorem StepMeets.network_eq (h : StepMeets e n r step result committed)
    (h' : StepMeets e' n r step result' committed')
    (hasked : ∀ i, (∃ b ∈ bidsOf n r (Engine.minutes step) e.rules, b.action.link = i) ↔
      ∃ b ∈ bidsOf n r (Engine.minutes step) e'.rules, b.action.link = i)
    (hsame : ∀ b b' : Bid α, b.Wins (bidsOf n r (Engine.minutes step) e.rules) →
      b'.Wins (bidsOf n r (Engine.minutes step) e'.rules) → b.action.link = b'.action.link →
      b = b') :
    result'.network = result.network := by
  have hlinks : result'.network.state.links = result.network.state.links := by
    refine List.ext_getElem? fun i => ?_
    by_cases hi : ∃ b ∈ bidsOf n r (Engine.minutes step) e.rules, b.action.link = i
    · obtain ⟨k, hk, rfl⟩ := h.mem_links.mpr hi
      obtain ⟨k', hk', hlink⟩ := h'.mem_links.mpr ((hasked _).mp hi)
      obtain ⟨b, l, hb, hl, rfl, hnew⟩ := h.entry k hk
      obtain ⟨b', l', hb', hl', rfl, hnew'⟩ := h'.entry k' hk'
      obtain rfl : b = b' := hsame b b' hb hb' hlink.symm
      obtain rfl : l = l' := Option.some.inj (hl.symm.trans hl')
      exact hnew'.trans hnew.symm
    · have hi' := mt (hasked i).mpr hi
      rw [h.kept i fun b hb heq => hi ⟨b, hb, heq⟩, h'.kept i fun b hb heq => hi' ⟨b, hb, heq⟩]
  rw [h.rest, h'.rest, hlinks]

end

/-! ## 3. Permuted rules -/

/-- Two steps that do the same, though the rules may stand in another order. -/
structure SameStep (e e' : Engine α) (result result' : StepResult α) : Prop where
  committed : ∃ committed committed', result.outcome = .ok committed ∧
    result'.outcome = .ok committed' ∧ committed'.Perm committed
  network : result'.network = result.network
  fired : result'.engine.report.fired.Perm result.engine.report.fired
  /-- A rule that stands at one place here and at another place there has the same memories
  after both steps. -/
  rules : ∀ i j : Nat, e'.rules[j]? = e.rules[i]? →
    result'.engine.rules[j]? = result.engine.rules[i]?

/-- **The order of the rules makes no difference where no two of them tie.** -/
theorem evaluate_perm [OrderedScalar α] {e : Engine α} {n : Network α} {r : Reading α} (step : α)
    {rules' : List (Rule α)} (hr : e.clock.reading = .ok r)
    (hwritable : ∀ rule ∈ e.rules, ∀ a ∈ rule.actions, a.IsWritable n.state)
    (hnum : ∀ rule ∈ e.rules, Scalar.isNaN rule.priority = false) (hperm : rules'.Perm e.rules)
    (hties : Undisputed (bidsOf n r (Engine.minutes step) e.rules)) :
    SameStep e (e.withRules rules') (e.evaluate n step)
      ((e.withRules rules').evaluate n step) := by
  have hbids : (bidsOf n r (Engine.minutes step) rules').Perm
      (bidsOf n r (Engine.minutes step) e.rules) := hperm.flatMap_right _
  have hasked : ∀ i, (∃ b ∈ bidsOf n r (Engine.minutes step) e.rules, b.action.link = i) ↔
      ∃ b ∈ bidsOf n r (Engine.minutes step) rules', b.action.link = i := by
    intro i
    exact exists_congr fun b => and_congr_left' hbids.mem_iff.symm
  have hsame : ∀ b b' : Bid α, b.Wins (bidsOf n r (Engine.minutes step) e.rules) →
      b'.Wins (bidsOf n r (Engine.minutes step) rules') → b.action.link = b'.action.link →
      b = b' := fun b b' hb hb' hlink => wins_unique hperm hnum hties hb hb' hlink
  have hbidsWritable : ∀ b ∈ bidsOf n r (Engine.minutes step) e.rules,
      b.action.IsWritable n.state := isWritable_of_mem_bidsOf hwritable
  obtain ⟨committed, h⟩ := meets_of_bids hr hbidsWritable hnum
  obtain ⟨committed', h'⟩ : ∃ committed', StepMeets (e.withRules rules') n r step
      ((e.withRules rules').evaluate n step) committed' :=
    meets_of_bids hr (fun b hb => hbidsWritable b (hbids.mem_iff.mp hb))
      fun rule hrule => hnum rule (hperm.mem_iff.mp hrule)
  refine ⟨⟨committed, committed', h.outcome, h'.outcome, ?_⟩, ?_, ?_, ?_⟩
  · rw [List.perm_ext_iff_of_nodup h'.nodup h.nodup]
    intro k
    constructor
    · exact h'.committed_subset h (fun i => (hasked i).mpr)
        (fun b b' hb hb' hlink => (hsame b' b hb' hb hlink.symm).symm) k
    · exact h.committed_subset h' (fun i => (hasked i).mp) hsame k
  · exact h.network_eq h' hasked hsame
  · rw [h.engine, h'.engine]
    exact (hperm.filter _).map _
  · intro i j hij
    rw [h.engine, h'.engine]
    show (rules'.map _)[j]? = (e.rules.map _)[i]?
    have hij' : rules'[j]? = e.rules[i]? := hij
    rw [List.getElem?_map, List.getElem?_map, hij']

/-- The two rules about the second pump, of different priorities. -/
def secondPumpEngine : Engine Rat := pumpEngine.withRules pumpRules.tail

theorem evaluate_perm_pumps : ∃ r, secondPumpEngine.clock.reading = .ok r ∧
    SameStep secondPumpEngine (secondPumpEngine.withRules pumpRules.tail.reverse)
      (secondPumpEngine.evaluate twoPumps 60)
      ((secondPumpEngine.withRules pumpRules.tail.reverse).evaluate twoPumps 60) := by
  obtain ⟨r, hr⟩ := exists_ok_of_isOk (x := secondPumpEngine.clock.reading) (by decide +kernel)
  have hwritable : ∀ rule ∈ secondPumpEngine.rules, ∀ a ∈ rule.actions,
      a.IsWritable twoPumps.state := by
    simp [secondPumpEngine, pumpRules, Engine.withRules, Engine.rules, Rule.actions,
      Action.IsWritable, twoPumps]
  have hnum : ∀ rule ∈ secondPumpEngine.rules, Scalar.isNaN rule.priority = false :=
    fun _ _ => rfl
  have hpriorities : ∀ rule ∈ secondPumpEngine.rules, ∀ other ∈ secondPumpEngine.rules,
      (rule.priority == other.priority) = true → rule = other := by
    simp [secondPumpEngine, pumpRules, Engine.withRules, Engine.rules]
  exact ⟨r, hr, evaluate_perm 60 hr hwritable hnum (List.reverse_perm _)
    (undisputed_of_priorities hnum hpriorities)⟩

/-- With the rules the other way round, the other one of the tied rules has the first pump. -/
example : ((pumpEngine.withRules pumpRules.reverse).evaluate twoPumps 60).network.state.targets =
    [0, 3] := by
  decide +kernel

end Sluice
