import Sluice.Control.Engine
import Sluice.Proofs.Control.Writing
import Sluice.Proofs.Outcome

/-!
# The bids of a step

A control step reads everything before it writes anything. What it reads comes down to one list:
the *bids*, that is the actions that the conditions select and whose setting can be computed, rule
by rule and clause by clause, each with its setting. This file says so of `Engine.evaluate`: once
the clock has a reading, the queue of the step is the list of bids (`queue_eq`), the rules
afterwards are the rules before with their memories moved on, each on its own (`Rule.after`), and
the rest is what writing the winners leaves behind (`evaluate_eq`).

Nothing here depends on how scalars compare.
-/

set_option autoImplicit false

namespace Sluice

variable {α : Type} [Scalar α]

/-! ## 1. Actions -/

namespace Action

/-- The setting of an action in a step, if it can be computed. -/
def value? (n : Network α) (r : Reading α) (dt : α) (a : Action α) : Option α :=
  match a.compute n r dt with
  | .ok (x, _) => some x
  | .error _ => none

/-- The action after a step that selects it: a controller whose setting could be computed has
its memory moved on. -/
def after (n : Network α) (r : Reading α) (dt : α) (a : Action α) : Action α :=
  match a.compute n r dt with
  | .ok (_, a') => a'
  | .error _ => a

theorem controller_compute_eq_ok {s : State α} {r : Reading α} {dt x : α} {link : Nat}
    {c c' : Controller α} (h : c.compute s r dt link = .ok (x, c')) :
    ∃ e1 e2, c' = { c with e1 := e1, e2 := e2 } := by
  rw [Controller.compute] at h
  obtain ⟨current, -, h⟩ := bind_eq_ok.mp h
  obtain ⟨controlled, -, h⟩ := bind_eq_ok.mp h
  obtain ⟨setpoint, -, h⟩ := bind_eq_ok.mp h
  split at h
  · obtain ⟨type, -, h⟩ := bind_eq_ok.mp h
    cases h
    exact ⟨_, _, rfl⟩
  · cases h
    exact ⟨c.e1, c.e2, rfl⟩

/-- Computing an action changes nothing of it but the memory of its controller. -/
theorem compute_eq_ok {n : Network α} {r : Reading α} {dt x : α} {a a' : Action α}
    (h : a.compute n r dt = .ok (x, a')) :
    a' = a ∨ ∃ c e1 e2, a.mode = .pid c ∧
      a' = { a with mode := .pid { c with e1 := e1, e2 := e2 } } := by
  rw [compute] at h
  split at h
  · cases h
    exact Or.inl rfl
  · obtain ⟨y, -, hy⟩ := map_eq_ok.mp h
    cases hy
    exact Or.inl rfl
  · obtain ⟨y, -, hy⟩ := map_eq_ok.mp h
    cases hy
    exact Or.inl rfl
  · rename_i c hmode
    obtain ⟨⟨y, c'⟩, hc, hy⟩ := map_eq_ok.mp h
    obtain ⟨e1, e2, rfl⟩ := controller_compute_eq_ok hc
    cases hy
    exact Or.inr ⟨c, e1, e2, hmode, rfl⟩
  · cases h

/-- An action stays on its link, with its attribute and its kind of setting. -/
theorem after_eq (n : Network α) (r : Reading α) (dt : α) (a : Action α) :
    (a.after n r dt).link = a.link ∧ (a.after n r dt).linkId = a.linkId ∧
      (a.after n r dt).attr = a.attr ∧ (a.after n r dt).isModulated = a.isModulated := by
  rw [after]
  split
  · rename_i x a' h
    rcases compute_eq_ok h with rfl | ⟨c, e1, e2, hmode, rfl⟩
    · exact ⟨rfl, rfl, rfl, rfl⟩
    · refine ⟨rfl, rfl, rfl, ?_⟩
      rw [isModulated, isModulated, hmode]
  · exact ⟨rfl, rfl, rfl, rfl⟩

/-- Without a controller there is no memory. -/
theorem after_eq_self {a : Action α} (h : a.controller? = none) (n : Network α)
    (r : Reading α) (dt : α) : a.after n r dt = a := by
  unfold after
  split
  · rename_i x a' ha
    rcases compute_eq_ok ha with rfl | ⟨c, e1, e2, hmode, -⟩
    · rfl
    · simp [controller?, hmode] at h
  · rfl

end Action

theorem computeAll_eq (n : Network α) (r : Reading α) (dt : α) (as : List (Action α)) :
    computeAll n r dt as =
      (as.map (Action.after n r dt),
        as.filterMap fun a => (a.value? n r dt).map fun x => (a.after n r dt, x),
        (as.filter fun a => (a.value? n r dt).isNone).map Action.linkId) := by
  induction as with
  | nil => rfl
  | cons a rest ih =>
    rw [computeAll, ih]
    cases h : a.compute n r dt with
    | ok p => simp [Action.value?, Action.after, h]
    | error e => simp [Action.value?, Action.after, h]

/-! ## 2. Rules -/

/-- An action that asks for its link, with the setting it computed. -/
structure Bid (α : Type) where
  rule : Rule α
  /-- The action as it was before the step. -/
  action : Action α
  value : α

namespace Rule

/-- The actions that the condition of a rule selects; none if it cannot be evaluated. -/
def selected (n : Network α) (r : Reading α) (rule : Rule α) : List (Action α) :=
  match condition n.state r rule.premises with
  | .ok holds => rule.branch holds
  | .error _ => []

def fires (n : Network α) (r : Reading α) (rule : Rule α) : Bool :=
  match condition n.state r rule.premises with
  | .ok holds => holds
  | .error _ => false

/-- The bids of a rule, in the order of its clauses. -/
def bids (n : Network α) (r : Reading α) (dt : α) (rule : Rule α) : List (Bid α) :=
  (rule.selected n r).filterMap fun a => (a.value? n r dt).map fun x => ⟨rule, a, x⟩

def after (n : Network α) (r : Reading α) (dt : α) (rule : Rule α) : Rule α :=
  match condition n.state r rule.premises with
  | .ok holds => rule.withBranch holds ((rule.branch holds).map (Action.after n r dt))
  | .error _ => rule

theorem after_eq (n : Network α) (r : Reading α) (dt : α) (rule : Rule α) :
    (rule.after n r dt).id = rule.id ∧ (rule.after n r dt).priority = rule.priority := by
  rw [after]
  split
  · rename_i holds _
    cases holds <;> exact ⟨rfl, rfl⟩
  · exact ⟨rfl, rfl⟩

omit [Scalar α] in
@[simp] theorem branch_withBranch (rule : Rule α) (holds : Bool) (actions : List (Action α)) :
    (rule.withBranch holds actions).branch holds = actions := by
  cases holds <;> rfl

omit [Scalar α] in
@[simp] theorem withBranch_withBranch (rule : Rule α) (holds : Bool)
    (actions actions' : List (Action α)) :
    (rule.withBranch holds actions).withBranch holds actions' =
      rule.withBranch holds actions' := by
  cases holds <;> rfl

omit [Scalar α] in
@[simp] theorem withBranch_eq (rule : Rule α) (holds : Bool) (actions : List (Action α)) :
    (rule.withBranch holds actions).id = rule.id ∧
      (rule.withBranch holds actions).priority = rule.priority ∧
      (rule.withBranch holds actions).premises = rule.premises := by
  cases holds <;> exact ⟨rfl, rfl, rfl⟩

theorem after_of_error {n : Network α} {r : Reading α} {dt : α} {rule : Rule α}
    {error : ResolveError} (h : condition n.state r rule.premises = .error error) :
    rule.after n r dt = rule := by
  rw [after, h]

theorem after_of_ok {n : Network α} {r : Reading α} {dt : α} {rule : Rule α} {holds : Bool}
    (h : condition n.state r rule.premises = .ok holds) :
    rule.after n r dt = rule.withBranch holds ((rule.branch holds).map (Action.after n r dt)) := by
  rw [after, h]

/-- An action of a rule after a step was one of the rule before. -/
theorem mem_actions_after {n : Network α} {r : Reading α} {dt : α} {rule : Rule α}
    {a' : Action α} (h : a' ∈ (rule.after n r dt).actions) :
    ∃ a ∈ rule.actions, a' = a ∨ a' = a.after n r dt := by
  rw [after] at h
  split at h
  · rename_i holds _
    cases holds with
    | true =>
      rcases List.mem_append.mp h with h | h
      · obtain ⟨a, ha, rfl⟩ := List.mem_map.mp h
        exact ⟨a, List.mem_append_left _ ha, Or.inr rfl⟩
      · exact ⟨a', List.mem_append_right _ h, Or.inl rfl⟩
    | false =>
      rcases List.mem_append.mp h with h | h
      · exact ⟨a', List.mem_append_left _ h, Or.inl rfl⟩
      · obtain ⟨a, ha, rfl⟩ := List.mem_map.mp h
        exact ⟨a, List.mem_append_right _ ha, Or.inr rfl⟩
  · exact ⟨a', h, Or.inl rfl⟩

theorem judge_eq (n : Network α) (r : Reading α) (dt : α) (rule : Rule α) :
    (rule.judge n r dt).rule = rule.after n r dt ∧
      (rule.judge n r dt).fired = rule.fires n r ∧
      (rule.judge n r dt).bids =
        (rule.bids n r dt).map fun b => (b.action.after n r dt, b.value) := by
  rw [judge, after, fires, bids, selected]
  cases h : condition n.state r rule.premises with
  | error e => exact ⟨rfl, rfl, rfl⟩
  | ok holds =>
    simp only [computeAll_eq]
    refine ⟨trivial, trivial, ?_⟩
    rw [List.map_filterMap]
    congr 1
    funext a
    cases a.value? n r dt <;> rfl

end Rule

/-- The bids of a step: those of all rules, rules in order. -/
def bidsOf (n : Network α) (r : Reading α) (dt : α) (rules : List (Rule α)) : List (Bid α) :=
  rules.flatMap (Rule.bids n r dt)

namespace Bid

/-- The candidate that a bid becomes, given its place in the queue. -/
def candidate (n : Network α) (r : Reading α) (dt : α) (b : Bid α) (order : Nat) : Candidate α :=
  ⟨b.rule.priority, order, b.rule.id, b.action.after n r dt, b.value⟩

/-- What is committed for a bid, given the target that its link had before. -/
def commit (b : Bid α) (previous : α) : Committed α :=
  ⟨b.action.link, b.action.linkId, b.action.attr, b.value, b.rule.id, b.action.isModulated,
    !(previous == b.value)⟩

theorem committed_candidate (n : Network α) (r : Reading α) (dt : α) (b : Bid α) (order : Nat)
    (previous : α) : (b.candidate n r dt order).committed previous = b.commit previous := by
  obtain ⟨h1, h2, h3, h4⟩ := b.action.after_eq n r dt
  simp only [Candidate.committed, candidate, commit, h1, h2, h3, h4]

end Bid

theorem Rule.mem_bids {n : Network α} {r : Reading α} {dt : α} {rule : Rule α} {b : Bid α} :
    b ∈ rule.bids n r dt ↔
      b.rule = rule ∧ b.action ∈ rule.selected n r ∧ b.action.value? n r dt = some b.value := by
  rw [bids, List.mem_filterMap]
  constructor
  · rintro ⟨a, ha, hb⟩
    obtain ⟨x, hx, rfl⟩ := Option.map_eq_some_iff.mp hb
    exact ⟨rfl, ha, hx⟩
  · rintro ⟨rfl, ha, hx⟩
    exact ⟨b.action, ha, by rw [hx]; rfl⟩

theorem Rule.selected_subset {n : Network α} {r : Reading α} {rule : Rule α} {a : Action α}
    (h : a ∈ rule.selected n r) : a ∈ rule.actions := by
  rw [selected] at h
  split at h
  · rename_i holds _
    cases holds with
    | true => exact List.mem_append_left _ h
    | false => exact List.mem_append_right _ h
  · cases h

theorem mem_bidsOf {n : Network α} {r : Reading α} {dt : α} {rules : List (Rule α)} {b : Bid α} :
    b ∈ bidsOf n r dt rules ↔ b.rule ∈ rules ∧ b ∈ b.rule.bids n r dt := by
  rw [bidsOf, List.mem_flatMap]
  constructor
  · rintro ⟨rule, hrule, hb⟩
    obtain ⟨rfl, -, -⟩ := Rule.mem_bids.mp hb
    exact ⟨hrule, hb⟩
  · rintro ⟨hrule, hb⟩
    exact ⟨b.rule, hrule, hb⟩

/-- Bids can be written if all actions of the rules can. -/
theorem isWritable_of_mem_bidsOf {n : Network α} {r : Reading α} {dt : α} {rules : List (Rule α)}
    (hwritable : ∀ rule ∈ rules, ∀ a ∈ rule.actions, a.IsWritable n.state) :
    ∀ b ∈ bidsOf n r dt rules, b.action.IsWritable n.state := by
  intro b hb
  obtain ⟨hrule, hmem⟩ := mem_bidsOf.mp hb
  exact hwritable b.rule hrule b.action (Rule.selected_subset (Rule.mem_bids.mp hmem).2.1)

/-! ## 3. Steps -/

/-- The queue of a step is the list of its bids. -/
theorem queue_eq (n : Network α) (r : Reading α) (dt : α) (rules : List (Rule α)) :
    Judged.queue (rules.map (Rule.judge n r dt)) =
      (bidsOf n r dt rules).zipIdx.map fun b => b.1.candidate n r dt b.2 := by
  have hbids : (rules.map (Rule.judge n r dt)).flatMap Judged.bidsOf =
      (bidsOf n r dt rules).map fun b =>
        (b.rule.priority, b.rule.id, b.action.after n r dt, b.value) := by
    rw [List.flatMap_map, bidsOf, List.map_flatMap]
    congr 1
    funext rule
    obtain ⟨hrule, -, hb⟩ := rule.judge_eq n r dt
    obtain ⟨hid, hpriority⟩ := rule.after_eq n r dt
    rw [Judged.bidsOf, hb, hrule, hid, hpriority, List.map_map]
    refine List.map_congr_left fun b hb => ?_
    rw [Function.comp_apply, (Rule.mem_bids.mp hb).1]
  rw [Judged.queue, hbids, List.zipIdx_map, List.map_map]
  rfl

section

variable {n : Network α} {r : Reading α} {dt : α} {rules : List (Rule α)}

theorem mem_queue_iff {c : Candidate α} :
    c ∈ Judged.queue (rules.map (Rule.judge n r dt)) ↔
      ∃ (i : Nat) (b : Bid α), (bidsOf n r dt rules)[i]? = some b ∧ c = b.candidate n r dt i := by
  rw [queue_eq, List.mem_map]
  constructor
  · rintro ⟨⟨b, i⟩, hmem, rfl⟩
    exact ⟨i, b, List.mem_zipIdx_iff_getElem?.mp hmem, rfl⟩
  · rintro ⟨i, b, hb, rfl⟩
    exact ⟨(b, i), List.mem_zipIdx_iff_getElem?.mpr hb, rfl⟩

theorem link_candidate (b : Bid α) (i : Nat) : (b.candidate n r dt i).link = b.action.link :=
  (b.action.after_eq n r dt).1

theorem map_link_queue :
    (Judged.queue (rules.map (Rule.judge n r dt))).map Candidate.link =
      (bidsOf n r dt rules).map fun b => b.action.link := by
  rw [queue_eq, List.map_map]
  have hlink : (Candidate.link ∘ fun b : Bid α × Nat => b.1.candidate n r dt b.2) =
      (fun b => b.action.link) ∘ Prod.fst := by
    funext b
    exact link_candidate b.1 b.2
  rw [hlink, ← List.map_map, List.zipIdx_map_fst]

end

theorem firedIds_eq (n : Network α) (r : Reading α) (dt : α) (rules : List (Rule α)) :
    Judged.firedIds (rules.map (Rule.judge n r dt)) =
      (rules.filter (Rule.fires n r)).map Rule.id := by
  rw [Judged.firedIds, List.filter_map, List.map_map]
  have hfires : Judged.fired ∘ Rule.judge n r dt = Rule.fires n r := by
    funext rule
    exact (rule.judge_eq n r dt).2.1
  rw [hfires]
  refine List.map_congr_left fun rule _ => ?_
  rw [Function.comp_apply, (rule.judge_eq n r dt).1, (rule.after_eq n r dt).1]

theorem map_rule_judge (n : Network α) (r : Reading α) (dt : α) (rules : List (Rule α)) :
    (rules.map (Rule.judge n r dt)).map Judged.rule = rules.map (Rule.after n r dt) := by
  rw [List.map_map]
  exact List.map_congr_left fun rule _ => (rule.judge_eq n r dt).1

/-- An instant that the clock could show is one that the log can name. -/
theorem Clock.instant_of_reading {c : Clock α} {r : Reading α} (h : c.reading = .ok r) :
    ∃ t, DateTime.ofUnixTime r.worldTime = .ok t := by
  rw [Clock.reading] at h
  cases ht : c.moment.dateTime with
  | error e => rw [ht] at h; cases h
  | ok t =>
    rw [ht] at h
    cases h
    exact ⟨t, ht⟩

namespace Engine

/-- The minutes of a step that is given in seconds. -/
def minutes (step : α) : α := step / secondsPerMinute

def winnersOf (n : Network α) (r : Reading α) (step : α) (e : Engine α) : List (Candidate α) :=
  Candidate.winners (Judged.queue (e.rules.map (Rule.judge n r (minutes step))))

/-- The engine after a step that was given up while its winners were written. -/
def givenUp (n : Network α) (r : Reading α) (step : α) (e : Engine α) : Engine α :=
  { e.withRules (e.rules.map (Rule.after n r (minutes step))) with reading := some r }

/-- The engine after a step in which some settings were committed. -/
def afterStep (n : Network α) (r : Reading α) (step : α) (committed : List (Committed α))
    (e : Engine α) : Engine α :=
  { e.withRules (e.rules.map (Rule.after n r (minutes step))) with
    reading := some r
    report := reportOf r ((e.rules.filter (Rule.fires n r)).map Rule.id) committed }

theorem takeReading_eq {e : Engine α} {r : Reading α} (hr : e.clock.reading = .ok r) :
    e.takeReading = .ok ({ e with reading := some r }, r) := by
  rw [takeReading, hr]
  rfl

/-- The reading is taken before anything else, so without one there is nothing to undo. -/
theorem evaluate_unread {e : Engine α} {cause : InstantError} (h : e.clock.reading = .error cause)
    (n : Network α) (step : α) :
    e.evaluate n step = ⟨e, n, [], .error (.clock cause)⟩ := by
  rw [evaluate, evaluateMinutes, takeReading, h]
  rfl

/-- What a step leaves behind comes down to what writing its winners leaves behind. -/
theorem evaluate_eq_match {e : Engine α} {r : Reading α} (hr : e.clock.reading = .ok r)
    (n : Network α) (step : α) : ∃ t, DateTime.ofUnixTime r.worldTime = .ok t ∧
    e.evaluate n step = match Candidate.writeAll n.state (e.winnersOf n r step) with
      | (s, .ok committed) => ⟨e.afterStep n r step committed, { n with state := s },
          Judged.failures (e.rules.map (Rule.judge n r (minutes step)))
            ++ committed.map (.committed t.stamp), .ok committed⟩
      | (s, .error cause) => ⟨e.givenUp n r step, { n with state := s },
          Judged.failures (e.rules.map (Rule.judge n r (minutes step))),
          .error (.commit cause)⟩ := by
  obtain ⟨t, ht⟩ := Clock.instant_of_reading hr
  refine ⟨t, ht, ?_⟩
  have hrules := map_rule_judge n r (minutes step) e.rules
  have hfired := firedIds_eq n r (minutes step) e.rules
  unfold afterStep givenUp winnersOf
  rw [evaluate, evaluateMinutes, takeReading_eq hr, ← hrules, ← hfired]
  simp only [rules, minutes]
  cases Candidate.writeAll n.state (Candidate.winners (Judged.queue (e.builder.rules.map
      (Rule.judge n r (step / secondsPerMinute))))) with
  | mk s written =>
    cases written with
    | error cause => rfl
    | ok committed =>
      simp only [ht]
      rfl

/-- A step whose winners can be written is completed. -/
theorem evaluate_eq {e : Engine α} {n : Network α} {r : Reading α} {step : α} {s : State α}
    {committed : List (Committed α)} (hr : e.clock.reading = .ok r)
    (hw : Candidate.writeAll n.state (e.winnersOf n r step) = (s, .ok committed)) :
    ∃ stamp, e.evaluate n step = ⟨e.afterStep n r step committed, { n with state := s },
      Judged.failures (e.rules.map (Rule.judge n r (minutes step)))
        ++ committed.map (.committed stamp), .ok committed⟩ := by
  obtain ⟨t, -, heq⟩ := evaluate_eq_match hr n step
  rw [hw] at heq
  exact ⟨t.stamp, heq⟩

/-- No two winners are on one link. -/
theorem nodup_winnersOf (e : Engine α) (n : Network α) (r : Reading α) (step : α) :
    ((e.winnersOf n r step).map Candidate.link).Nodup := by
  rw [winnersOf, Candidate.map_link_winners]
  exact nodup_eraseDups _

theorem isWritable_of_mem_winnersOf {e : Engine α} {n : Network α} {r : Reading α} {step : α}
    (hw : ∀ b ∈ bidsOf n r (minutes step) e.rules, b.action.IsWritable n.state) :
    ∀ c ∈ e.winnersOf n r step, c.action.IsWritable n.state := by
  intro c hc
  obtain ⟨i, b, hb, rfl⟩ := mem_queue_iff.mp (Candidate.mem_of_mem_winners hc)
  obtain ⟨hlink, -, hattr, -⟩ := b.action.after_eq n r (minutes step)
  obtain ⟨hb1, hb2⟩ := hw b (List.mem_of_getElem? hb)
  exact ⟨hattr ▸ hb1, hlink ▸ hb2⟩

theorem writeAll_winnersOf {e : Engine α} {n : Network α} {r : Reading α} {step : α}
    (hw : ∀ b ∈ bidsOf n r (minutes step) e.rules, b.action.IsWritable n.state) :
    ∃ s committed, Candidate.writeAll n.state (e.winnersOf n r step) = (s, .ok committed) ∧
      Candidate.Written n.state (e.winnersOf n r step) s committed := by
  exact Candidate.writeAll_written (isWritable_of_mem_winnersOf hw) (nodup_winnersOf e n r step)

/-- A step whose bids can be written is completed, and writes its winners. -/
theorem evaluate_written {e : Engine α} {n : Network α} {r : Reading α} (step : α)
    (hr : e.clock.reading = .ok r)
    (hw : ∀ b ∈ bidsOf n r (minutes step) e.rules, b.action.IsWritable n.state) :
    ∃ s committed stamp, e.evaluate n step = ⟨e.afterStep n r step committed,
      { n with state := s }, Judged.failures (e.rules.map (Rule.judge n r (minutes step)))
        ++ committed.map (.committed stamp), .ok committed⟩ ∧
      Candidate.Written n.state (e.winnersOf n r step) s committed := by
  obtain ⟨s, committed, hall, hwritten⟩ := writeAll_winnersOf hw
  obtain ⟨stamp, heq⟩ := evaluate_eq hr hall
  exact ⟨s, committed, stamp, heq, hwritten⟩

end Engine

end Sluice
