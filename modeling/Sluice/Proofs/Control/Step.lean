import Sluice.Proofs.Control.Bids

/-!
# What a control step does

The step as its reader sees it, without queue, rounds and order numbers. The bids of the step
are the actions that the conditions select and that can be computed, all of them read off the
state before the step. Of the bids on a link one wins: the one of highest priority, and of those
the first. `StepMeets` says that the winning bids are what is committed, link by link in the
order in which the links are first asked for, and that nothing but their targets, the memories of
the selected controllers, the reading and the report is different afterwards.

`evaluate_meets` is the statement that `Engine.evaluate` does this. Two conditions stand in it
that the reader of rules ensures. The actions have to be on the status or setting of a link that
there is, because a step gives up at the first one that cannot be written. And the priorities
have to be numbers, because among values that are neither higher nor lower than each other there
is no highest.
-/

set_option autoImplicit false

namespace Sluice

variable {α : Type} [Scalar α]

/-! ## 1. The winning bid -/

/-- A bid that wins its link. -/
structure Bid.Wins (bids : List (Bid α)) (b : Bid α) : Prop where
  /-- No bid on the link has a higher priority. -/
  highest : ∀ x ∈ bids, x.action.link = b.action.link → ¬ b.rule.priority < x.rule.priority
  /-- No bid on the link that comes before it has the same priority. -/
  earliest : ∃ before behind, bids = before ++ b :: behind ∧
    ∀ x ∈ before, x.action.link = b.action.link → (x.rule.priority == b.rule.priority) = false

theorem Bid.Wins.mem {bids : List (Bid α)} {b : Bid α} (h : b.Wins bids) : b ∈ bids := by
  obtain ⟨before, behind, rfl, -⟩ := h.earliest
  simp

theorem getElem?_eq_split {β : Type} {xs : List β} {i : Nat} {x : β} (h : xs[i]? = some x) :
    xs = xs.take i ++ x :: xs.drop (i + 1) := by
  obtain ⟨hi, hx⟩ := List.getElem?_eq_some_iff.mp h
  rw [← hx, ← List.drop_eq_getElem_cons hi, List.take_append_drop]

section

variable {n : Network α} {r : Reading α} {dt : α} {rules : List (Rule α)}

theorem priority_isNumber (hnum : ∀ rule ∈ rules, Scalar.isNaN rule.priority = false)
    {b : Bid α} (hb : b ∈ bidsOf n r dt rules) : Scalar.isNaN b.rule.priority = false :=
  hnum b.rule (mem_bidsOf.mp hb).1

/-- A winner of the queue is a bid that wins its link. -/
theorem wins_of_mem_winners [OrderedScalar α]
    (hnum : ∀ rule ∈ rules, Scalar.isNaN rule.priority = false) {c : Candidate α}
    (hc : c ∈ Candidate.winners (Judged.queue (rules.map (Rule.judge n r dt)))) :
    ∃ (i : Nat) (b : Bid α), c = b.candidate n r dt i ∧ b.Wins (bidsOf n r dt rules) := by
  have hqueue : ∀ d ∈ Judged.queue (rules.map (Rule.judge n r dt)),
      Scalar.isNaN d.priority = false := by
    intro d hd
    obtain ⟨j, x, hx, rfl⟩ := mem_queue_iff.mp hd
    exact priority_isNumber hnum (List.mem_of_getElem? hx)
  obtain ⟨i, b, hb, rfl⟩ := mem_queue_iff.mp (Candidate.mem_of_mem_winners hc)
  have hbnum := priority_isNumber hnum (List.mem_of_getElem? hb)
  have habove : ∀ (j : Nat) (x : Bid α), (bidsOf n r dt rules)[j]? = some x →
      x.action.link = b.action.link →
      (x.candidate n r dt j).rank ≤ (b.candidate n r dt i).rank := by
    intro j x hx hlink
    refine Candidate.rank_le_of_mem_winners hqueue hc _ (mem_queue_iff.mpr ⟨j, x, hx, rfl⟩) ?_
    rw [link_candidate, link_candidate, hlink]
  refine ⟨i, b, rfl, ?_, ?_⟩
  · intro x hx hlink
    obtain ⟨j, hj⟩ := List.mem_iff_getElem?.mp hx
    rw [OrderedScalar.lt_iff_rank hbnum (priority_isNumber hnum hx), not_lt]
    rcases Prod.Lex.toLex_le_toLex.mp (habove j x hj hlink) with hlt | ⟨heq, -⟩
    · exact hlt.le
    · exact heq.le
  · refine ⟨_, _, getElem?_eq_split hb, ?_⟩
    intro x hx hlink
    obtain ⟨j, hj⟩ := List.mem_iff_getElem?.mp hx
    rw [List.getElem?_take] at hj
    split at hj
    · rename_i hji
      have hxnum := priority_isNumber hnum (List.mem_of_getElem? hj)
      rw [← Bool.not_eq_true, OrderedScalar.beq_iff_rank hxnum hbnum]
      intro heq
      -- a bid of the same priority that comes earlier would stand above `b`
      rcases Prod.Lex.toLex_le_toLex.mp (habove j x hj hlink) with hlt | ⟨-, hle⟩
      · exact absurd heq hlt.ne
      · exact absurd (OrderDual.toDual_le_toDual.mp hle) (Nat.not_le.mpr hji)
    · cases hj

end

/-! ## 2. The step -/

/-- What a control step of `step` seconds does whose reading is `r`. -/
structure StepMeets (e : Engine α) (n : Network α) (r : Reading α) (step : α)
    (result : StepResult α) (committed : List (Committed α)) : Prop where
  outcome : result.outcome = .ok committed
  /-- One entry for each link that is asked for, in the order in which that first happens. -/
  links : committed.map Committed.link =
    ((bidsOf n r (Engine.minutes step) e.rules).map fun b => b.action.link).eraseDups
  /-- Each entry is that of the bid that wins the link, whose target it is from then on. -/
  entry : ∀ k ∈ committed, ∃ (b : Bid α) (l : Link α),
    b.Wins (bidsOf n r (Engine.minutes step) e.rules) ∧
    n.state.links[b.action.link]? = some l ∧ k = b.commit l.targetSetting ∧
    result.network.state.links[b.action.link]? = some { l with targetSetting := b.value }
  /-- A link that nobody asks for stays as it is. -/
  kept : ∀ i, (∀ b ∈ bidsOf n r (Engine.minutes step) e.rules, b.action.link ≠ i) →
    result.network.state.links[i]? = n.state.links[i]?
  /-- Of the network only links are written. -/
  rest : result.network =
    { n with state := { n.state with links := result.network.state.links } }
  /-- The selected actions, and no others, have their memories moved on. -/
  engine : result.engine = e.afterStep n r step committed

/-- A step whose bids can be written commits those that win and does nothing else. -/
theorem meets_of_bids [OrderedScalar α] {e : Engine α} {n : Network α} {r : Reading α} {step : α}
    (hr : e.clock.reading = .ok r)
    (hwritable : ∀ b ∈ bidsOf n r (Engine.minutes step) e.rules, b.action.IsWritable n.state)
    (hnum : ∀ rule ∈ e.rules, Scalar.isNaN rule.priority = false) :
    ∃ committed, StepMeets e n r step (e.evaluate n step) committed := by
  obtain ⟨s, committed, stamp, heq, hwritten⟩ := Engine.evaluate_written step hr hwritable
  have hwins : ∀ c ∈ e.winnersOf n r step, ∃ (i : Nat) (b : Bid α),
      c = b.candidate n r (Engine.minutes step) i ∧
        b.Wins (bidsOf n r (Engine.minutes step) e.rules) :=
    fun c hc => wins_of_mem_winners hnum hc
  have hlinks : (e.winnersOf n r step).map Candidate.link =
      ((bidsOf n r (Engine.minutes step) e.rules).map fun b => b.action.link).eraseDups := by
    rw [Engine.winnersOf, Candidate.map_link_winners, map_link_queue]
  -- what is left is what was written, with the candidates read as bids
  rw [heq]
  refine ⟨committed, rfl, hwritten.links.trans hlinks, ?_, ?_, ?_, rfl⟩
  · intro k hk
    obtain ⟨c, hc, l, hl, rfl⟩ := hwritten.entry k hk
    obtain ⟨i, b, rfl, hb⟩ := hwins c hc
    have hnew := hwritten.written _ hc l hl
    rw [link_candidate] at hl hnew
    exact ⟨b, l, hb, hl, b.committed_candidate n r _ i _, hnew⟩
  · intro i hi
    refine hwritten.kept i fun c hc heq => ?_
    obtain ⟨j, b, rfl, hb⟩ := hwins c hc
    rw [link_candidate] at heq
    exact hi b hb.mem heq
  · show ({ n with state := s } : Network α) = { n with state := { n.state with links := s.links } }
    rw [← hwritten.rest]

/-- **A control step commits the winning bids and does nothing else.** -/
theorem evaluate_meets [OrderedScalar α] {e : Engine α} {n : Network α} {r : Reading α} (step : α)
    (hr : e.clock.reading = .ok r)
    (hwritable : ∀ rule ∈ e.rules, ∀ a ∈ rule.actions, a.IsWritable n.state)
    (hnum : ∀ rule ∈ e.rules, Scalar.isNaN rule.priority = false) :
    ∃ committed, StepMeets e n r step (e.evaluate n step) committed :=
  meets_of_bids hr (isWritable_of_mem_bidsOf hwritable) hnum

/-! ## 3. Two pumps -/

/-- Two pumps, both of them running. -/
def twoPumps : Network Rat :=
  let pump := fun id => (⟨id, .pump, 0, 2, 1, 1, 1, 0⟩ : Link Rat)
  ⟨⟨[], [pump "P1", pump "P2"]⟩, [], [],
    .empty, ⟨["P1", "P2"], [("P1", 0), ("P2", 1)]⟩, .empty, .empty⟩

/-- Two rules of one priority that disagree about the first pump, and a third one above both,
which drives the second pump by a controller. None has a premise, so the actions for when the
condition does not hold are selected. -/
def pumpRules : List (Rule Rat) :=
  let hour : Variable := ⟨.simulation, none, .time⟩
  [⟨"slow", 0, none, 1, [], [], [⟨0, "P1", .setting, .fixed (1 / 2)⟩]⟩,
    ⟨"stop", 1, none, 1, [], [], [⟨0, "P1", .status, .fixed 0⟩, ⟨1, "P2", .status, .fixed 0⟩]⟩,
    ⟨"follow", 2, none, 3, [], [],
      [⟨1, "P2", .setting, .pid ⟨hour, .number 4, 1 / 2, 0, 0, 0, 0⟩⟩]⟩]

/-- An engine with the rules of the two pumps, at the start of 1970. -/
def pumpEngine : Engine Rat :=
  (Engine.ofClock (Clock.start (Timeline.anchored 0))).withRules pumpRules

theorem evaluate_meets_pumps : ∃ r committed, pumpEngine.clock.reading = .ok r ∧
    StepMeets pumpEngine twoPumps r 60 (pumpEngine.evaluate twoPumps 60) committed := by
  obtain ⟨r, hr⟩ := exists_ok_of_isOk (x := pumpEngine.clock.reading) (by decide +kernel)
  have hwritable : ∀ rule ∈ pumpEngine.rules, ∀ a ∈ rule.actions,
      a.IsWritable twoPumps.state := by
    simp [pumpEngine, pumpRules, Engine.withRules, Engine.rules, Rule.actions,
      Action.IsWritable, twoPumps]
  obtain ⟨committed, h⟩ := evaluate_meets 60 hr hwritable fun _ _ => rfl
  exact ⟨r, committed, hr, h⟩

/-- The first of the tied rules has the first pump, the controller the second one. -/
example : (pumpEngine.evaluate twoPumps 60).network.state.targets = [1 / 2, 3] := by
  decide +kernel

end Sluice
