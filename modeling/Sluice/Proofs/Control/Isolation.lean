import Mathlib.Order.Monotone.Basic
import Sluice.Proofs.Control.Footprint
import Sluice.Proofs.Control.Step

/-!
# What fails is left out

A rule whose condition cannot be evaluated makes no bids, and an action whose setting cannot be
computed makes none either, so neither can win a link. But a failing action has been queued before
it fails, and it takes up a number there, by which ties are broken. So the two things to be said
are that numbers with gaps decide in the same way as numbers without (`writeAll_requestQueue`), and
that

> **a step leaves behind what it would leave behind without the failing rule or action, but for
> one event in the log** (`failures_isolated`).

No law about scalars is involved, and it does not matter whether the winners can be written: a step
that is given up is given up at the same place in both cases.
-/

set_option autoImplicit false

namespace Sluice

variable {α : Type} [Scalar α]

/-! ## 1. Numbers with gaps -/

/-- A numbering that starts with `first` and goes on with `number`. -/
def numberAfter (first : Nat) (number : Nat → Nat) : Nat → Nat
  | 0 => first
  | i + 1 => number i

/-- What passes through a filter stands in the same order as before, but closer together. -/
theorem exists_numbering {β γ : Type} (f : β → Option γ) (xs : List β) (first : Nat) :
    ∃ number : Nat → Nat, StrictMono number ∧ first ≤ number 0 ∧
      (xs.zipIdx first).filterMap (fun x => (f x.1).map fun y => (y, x.2)) =
        (xs.filterMap f).zipIdx.map fun y => (y.1, number y.2) := by
  induction xs generalizing first with
  | nil => exact ⟨fun i => first + i, fun i j h => Nat.add_lt_add_left h first, le_rfl, rfl⟩
  | cons x rest ih =>
    obtain ⟨number, hmono, hfirst, heq⟩ := ih (first + 1)
    cases hx : f x with
    | none =>
      refine ⟨number, hmono, by omega, ?_⟩
      simpa [hx] using heq
    | some y =>
      refine ⟨numberAfter first number, strictMono_nat_of_lt_succ ?_, le_rfl, ?_⟩
      · intro i
        cases i with
        | zero => exact hfirst
        | succ i => exact hmono (Nat.lt_succ_self i)
      · simp only [List.zipIdx_cons, List.filterMap_cons, hx, Option.map_some, heq]
        rw [List.zipIdx_succ]
        simp [numberAfter, Function.comp_def]

namespace Candidate

/-- The candidate with another number in the queue. -/
def renumber (number : Nat → Nat) (c : Candidate α) : Candidate α :=
  { c with order := number c.order }

/-- Only the order of the numbers counts. -/
theorem winners_renumber {number : Nat → Nat} (h : StrictMono number) (cs : List (Candidate α)) :
    winners (cs.map (renumber number)) = (winners cs).map (renumber number) := by
  apply winners_map
  · intro c
    exact ⟨rfl, rfl⟩
  · intro c d
    simp [beats, renumber, h.lt_iff_lt]

theorem writeAll_renumber (number : Nat → Nat) (s : State α) (cs : List (Candidate α)) :
    writeAll s (cs.map (renumber number)) = writeAll s cs := by
  induction cs generalizing s with
  | nil => rfl
  | cons c rest ih =>
    have hwrite : (renumber number c).write s = c.write s := rfl
    simp only [List.map_cons, writeAll, hwrite, ih]

end Candidate

/-- What the conditions ask for, before any setting is computed. -/
def requestsOf (n : Network α) (r : Reading α) (rules : List (Rule α)) :
    List (Rule α × Action α) :=
  rules.flatMap fun rule => (rule.selected n r).map fun a => (rule, a)

/-- The bid of a request, if its setting can be computed. -/
def bid? (n : Network α) (r : Reading α) (dt : α) (request : Rule α × Action α) :
    Option (Bid α) :=
  (request.2.value? n r dt).map fun x => ⟨request.1, request.2, x⟩

/-- The queue in which each bid has the number of its request, those that fail included. -/
def requestQueue (n : Network α) (r : Reading α) (dt : α) (rules : List (Rule α)) :
    List (Candidate α) :=
  (requestsOf n r rules).zipIdx.filterMap fun request =>
    (bid? n r dt request.1).map fun b => b.candidate n r dt request.2

section

variable {n : Network α} {r : Reading α} {dt : α} {rules : List (Rule α)}

theorem bidsOf_eq_filterMap :
    bidsOf n r dt rules = (requestsOf n r rules).filterMap (bid? n r dt) := by
  unfold bidsOf requestsOf
  rw [List.filterMap_flatMap]
  congr 1
  funext rule
  rw [List.filterMap_map]
  rfl

theorem requestQueue_eq : ∃ number : Nat → Nat, StrictMono number ∧
    requestQueue n r dt rules =
      (Judged.queue (rules.map (Rule.judge n r dt))).map (Candidate.renumber number) := by
  obtain ⟨number, hmono, -, heq⟩ := exists_numbering (bid? n r dt) (requestsOf n r rules) 0
  refine ⟨number, hmono, ?_⟩
  rw [queue_eq, bidsOf_eq_filterMap, List.map_map]
  have hcandidates := congrArg (List.map fun b => b.1.candidate n r dt b.2) heq
  rw [List.map_filterMap, List.map_map] at hcandidates
  simpa [requestQueue, Function.comp_def, Candidate.renumber, Bid.candidate] using hcandidates

/-- **The numbers that failing actions take up in the queue decide nothing.** -/
theorem writeAll_requestQueue (s : State α) :
    Candidate.writeAll s (Candidate.winners (requestQueue n r dt rules)) =
      Candidate.writeAll s
        (Candidate.winners (Judged.queue (rules.map (Rule.judge n r dt)))) := by
  obtain ⟨number, hmono, heq⟩ : ∃ number : Nat → Nat, StrictMono number ∧
      requestQueue n r dt rules =
        (Judged.queue (rules.map (Rule.judge n r dt))).map (Candidate.renumber number) :=
    requestQueue_eq
  rw [heq, Candidate.winners_renumber hmono, Candidate.writeAll_renumber]

end

/-! ## 2. Steps with the same queue -/

namespace Engine

/-- A step depends on its rules only through the queue, the rules that fire and the failures. -/
theorem evaluate_congr {e : Engine α} {r : Reading α} (hr : e.clock.reading = .ok r)
    (n : Network α) (step : α) {rules rules' : List (Rule α)}
    (hqueue : Judged.queue (rules'.map (Rule.judge n r (minutes step))) =
      Judged.queue (rules.map (Rule.judge n r (minutes step))))
    (hfired : Judged.firedIds (rules'.map (Rule.judge n r (minutes step))) =
      Judged.firedIds (rules.map (Rule.judge n r (minutes step)))) :
    ((e.withRules rules').evaluate n step).outcome = ((e.withRules rules).evaluate n step).outcome ∧
      ((e.withRules rules').evaluate n step).network =
        ((e.withRules rules).evaluate n step).network ∧
      ((e.withRules rules').evaluate n step).engine =
        ((e.withRules rules).evaluate n step).engine.withRules
          (rules'.map (Rule.after n r (minutes step))) ∧
      ∃ written, ((e.withRules rules).evaluate n step).events =
          Judged.failures (rules.map (Rule.judge n r (minutes step))) ++ written ∧
        ((e.withRules rules').evaluate n step).events =
          Judged.failures (rules'.map (Rule.judge n r (minutes step))) ++ written := by
  have hwinners : (e.withRules rules').winnersOf n r step =
      (e.withRules rules).winnersOf n r step := congrArg Candidate.winners hqueue
  have hids : ((e.withRules rules').rules.filter (Rule.fires n r)).map Rule.id =
      ((e.withRules rules).rules.filter (Rule.fires n r)).map Rule.id := by
    rwa [firedIds_eq, firedIds_eq] at hfired
  obtain ⟨t, ht, heq⟩ := evaluate_eq_match (e := e.withRules rules) hr n step
  obtain ⟨t', ht', heq'⟩ := evaluate_eq_match (e := e.withRules rules') hr n step
  cases ht.symm.trans ht'
  rw [hwinners] at heq'
  rw [heq, heq']
  -- the two steps have the same winners to write, and end in the same way
  cases Candidate.writeAll n.state ((e.withRules rules).winnersOf n r step) with
  | mk s written =>
    cases written with
    | error cause =>
      refine ⟨rfl, rfl, rfl, [], ?_, ?_⟩
      · exact (List.append_nil _).symm
      · exact (List.append_nil _).symm
    | ok committed =>
      refine ⟨rfl, rfl, ?_, committed.map (.committed t.stamp), rfl, rfl⟩
      show (e.withRules rules').afterStep n r step committed = _
      unfold afterStep
      rw [hids]
      rfl

end Engine

/-! ## 3. Rules and actions that fail -/

/-- The links of the actions whose setting cannot be computed. -/
def failedLinks (n : Network α) (r : Reading α) (dt : α) (as : List (Action α)) : List String :=
  (as.filter fun a => (a.value? n r dt).isNone).map Action.linkId

namespace Rule

variable {n : Network α} {r : Reading α} {dt : α} {rule : Rule α} {holds : Bool}

theorem judge_of_error {error : ResolveError}
    (h : condition n.state r rule.premises = .error error) (dt : α) :
    rule.judge n r dt = ⟨rule, false, [], true, []⟩ := by
  rw [judge, h]

theorem judge_of_ok (h : condition n.state r rule.premises = .ok holds) (dt : α) :
    (rule.judge n r dt).rule.id = rule.id ∧ (rule.judge n r dt).rule.priority = rule.priority ∧
      (rule.judge n r dt).fired = holds ∧
      (rule.judge n r dt).bids = (rule.branch holds).filterMap (fun a =>
        (a.value? n r dt).map fun x => (a.after n r dt, x)) ∧
      (rule.judge n r dt).failed = false ∧
      (rule.judge n r dt).failedLinks = failedLinks n r dt (rule.branch holds) := by
  rw [judge, h]
  simp [computeAll_eq, failedLinks]

end Rule

namespace Judged

def ruleFailures (js : List (Judged α)) : List (StepEvent α) :=
  (js.filter failed).map fun j => .ruleFailed j.rule.id

def actionFailures (js : List (Judged α)) : List (StepEvent α) :=
  js.flatMap fun j => j.failedLinks.map fun link => .actionFailed link j.rule.id

omit [Scalar α] in
theorem failures_eq (js : List (Judged α)) :
    failures js = ruleFailures js ++ actionFailures js := rfl

omit [Scalar α] in
theorem failures_of_rule (front back : List (Judged α)) {j : Judged α} (hfailed : j.failed = true)
    (hlinks : j.failedLinks = []) : ∃ earlier later,
    failures (front ++ j :: back) = earlier ++ .ruleFailed j.rule.id :: later ∧
      failures (front ++ back) = earlier ++ later := by
  refine ⟨ruleFailures front, ruleFailures back ++ actionFailures (front ++ back), ?_, ?_⟩
  · simp [failures_eq, ruleFailures, actionFailures, hfailed, hlinks]
  · simp [failures_eq, ruleFailures]

omit [Scalar α] in
theorem failures_of_action (front back : List (Judged α)) {j j' : Judged α} {link : String}
    {before after : List String} (hid : j'.rule.id = j.rule.id) (hfailed : j.failed = false)
    (hfailed' : j'.failed = false) (hlinks : j.failedLinks = before ++ link :: after)
    (hlinks' : j'.failedLinks = before ++ after) : ∃ earlier later,
    failures (front ++ j :: back) = earlier ++ .actionFailed link j.rule.id :: later ∧
      failures (front ++ j' :: back) = earlier ++ later := by
  refine ⟨ruleFailures (front ++ back) ++ actionFailures front ++
      before.map fun link => .actionFailed link j.rule.id,
    (after.map fun link => .actionFailed link j.rule.id) ++ actionFailures back, ?_, ?_⟩
  · simp [failures_eq, ruleFailures, actionFailures, hfailed, hlinks]
  · simp [failures_eq, ruleFailures, actionFailures, hfailed', hlinks', hid]

end Judged

/-! ## 4. Steps without what fails -/

/-- Two steps that leave behind the same, but for one event of the first one and their rules. -/
structure SameButFor (event : StepEvent α) (result result' : StepResult α) : Prop where
  outcome : result'.outcome = result.outcome
  network : result'.network = result.network
  engine : result'.engine = result.engine.withRules result'.engine.rules
  events : ∃ earlier later, result.events = earlier ++ event :: later ∧
    result'.events = earlier ++ later

theorem Engine.sameButFor {e : Engine α} {r : Reading α} (hr : e.clock.reading = .ok r)
    (n : Network α) (step : α) {rules rules' : List (Rule α)} {event : StepEvent α}
    (hqueue : Judged.queue (rules'.map (Rule.judge n r (minutes step))) =
      Judged.queue (rules.map (Rule.judge n r (minutes step))))
    (hfired : Judged.firedIds (rules'.map (Rule.judge n r (minutes step))) =
      Judged.firedIds (rules.map (Rule.judge n r (minutes step))))
    (hfailures : ∃ earlier later,
      Judged.failures (rules.map (Rule.judge n r (minutes step))) = earlier ++ event :: later ∧
        Judged.failures (rules'.map (Rule.judge n r (minutes step))) = earlier ++ later) :
    SameButFor event ((e.withRules rules).evaluate n step)
      ((e.withRules rules').evaluate n step) := by
  obtain ⟨houtcome, hnetwork, hengine, written, hevents, hevents'⟩ :=
    evaluate_congr hr n step hqueue hfired
  obtain ⟨earlier, later, hearlier, hlater⟩ := hfailures
  refine ⟨houtcome, hnetwork, ?_, earlier, later ++ written, ?_, ?_⟩
  · rw [hengine]
    rfl
  · rw [hevents, hearlier]
    simp
  · rw [hevents', hlater]
    simp

section

variable {e : Engine α} {n : Network α} {r : Reading α} {step : α} {rule : Rule α}

theorem sameButFor_rule (hr : e.clock.reading = .ok r) (front back : List (Rule α))
    {error : ResolveError} (h : condition n.state r rule.premises = .error error) :
    SameButFor (.ruleFailed rule.id) ((e.withRules (front ++ rule :: back)).evaluate n step)
      ((e.withRules (front ++ back)).evaluate n step) := by
  have hjudge := Rule.judge_of_error h (Engine.minutes step)
  apply Engine.sameButFor hr
  · simp [Judged.queue, hjudge, Judged.bidsOf]
  · simp [Judged.firedIds, hjudge]
  · rw [List.map_append, List.map_append, List.map_cons, hjudge]
    exact Judged.failures_of_rule _ _ rfl rfl

theorem sameButFor_action (hr : e.clock.reading = .ok r) (front back : List (Rule α))
    {holds : Bool} {before after : List (Action α)} {a : Action α} {error : ComputeError}
    (h : condition n.state r rule.premises = .ok holds)
    (hbranch : rule.branch holds = before ++ a :: after)
    (ha : a.compute n r (Engine.minutes step) = .error error) :
    SameButFor (.actionFailed a.linkId rule.id)
      ((e.withRules (front ++ rule :: back)).evaluate n step)
      ((e.withRules (front ++ rule.withBranch holds (before ++ after) :: back)).evaluate n
        step) := by
  have hvalue : a.value? n r (Engine.minutes step) = none := by simp [Action.value?, ha]
  obtain ⟨hid, hpriority, hfired, hbids, hfailed, hlinks⟩ :=
    Rule.judge_of_ok h (Engine.minutes step)
  obtain ⟨hid', hpriority', hfired', hbids', hfailed', hlinks'⟩ :
      ((rule.withBranch holds (before ++ after)).judge n r (Engine.minutes step)).rule.id = _ ∧ _ :=
    Rule.judge_of_ok (by simpa using h) _
  rw [hbranch] at hbids hlinks
  simp only [Rule.branch_withBranch, Rule.withBranch_eq] at hid' hpriority' hbids' hlinks'
  apply Engine.sameButFor hr
  · simp [Judged.queue, Judged.bidsOf, hid, hid', hpriority, hpriority', hbids, hbids', hvalue]
  · cases holds with
    | true => simp [Judged.firedIds, hfired, hfired', hid, hid']
    | false => simp [Judged.firedIds, hfired, hfired']
  · have hfl : (rule.judge n r (Engine.minutes step)).failedLinks =
        failedLinks n r (Engine.minutes step) before ++
          a.linkId :: failedLinks n r (Engine.minutes step) after := by
      rw [hlinks]
      simp [failedLinks, hvalue]
    have hfl' : ((rule.withBranch holds (before ++ after)).judge n r
        (Engine.minutes step)).failedLinks =
          failedLinks n r (Engine.minutes step) before ++
            failedLinks n r (Engine.minutes step) after := by
      rw [hlinks']
      simp [failedLinks]
    rw [List.map_append, List.map_append, List.map_cons, List.map_cons, ← hid]
    exact Judged.failures_of_action _ _ (hid'.trans hid.symm) hfailed hfailed' hfl hfl'

/-- **A step goes on as if what fails in it were not there.** This holds of a rule whose condition
cannot be evaluated and of an action whose setting cannot be computed. The memories of all others
are moved on as ever. Nor does it matter which numbers failing actions take up in the queue. -/
theorem failures_isolated (hr : e.clock.reading = .ok r) (n : Network α) (step : α) :
    (∀ front rule back error, condition n.state r rule.premises = .error error →
      SameButFor (.ruleFailed rule.id) ((e.withRules (front ++ rule :: back)).evaluate n step)
        ((e.withRules (front ++ back)).evaluate n step) ∧
      ((e.withRules (front ++ rule :: back)).evaluate n step).engine.rules =
        front.map (Rule.after n r (Engine.minutes step)) ++
          rule :: back.map (Rule.after n r (Engine.minutes step)) ∧
      ((e.withRules (front ++ back)).evaluate n step).engine.rules =
        front.map (Rule.after n r (Engine.minutes step)) ++
          back.map (Rule.after n r (Engine.minutes step))) ∧
    (∀ front rule back holds before a after error,
      condition n.state r rule.premises = .ok holds → rule.branch holds = before ++ a :: after →
      a.compute n r (Engine.minutes step) = .error error →
      SameButFor (.actionFailed a.linkId rule.id)
        ((e.withRules (front ++ rule :: back)).evaluate n step)
        ((e.withRules (front ++ rule.withBranch holds (before ++ after) :: back)).evaluate n
          step) ∧
      ((e.withRules (front ++ rule :: back)).evaluate n step).engine.rules =
        front.map (Rule.after n r (Engine.minutes step)) ++
          rule.withBranch holds (before.map (Action.after n r (Engine.minutes step)) ++
            a :: after.map (Action.after n r (Engine.minutes step))) ::
          back.map (Rule.after n r (Engine.minutes step)) ∧
      ((e.withRules (front ++ rule.withBranch holds (before ++ after) :: back)).evaluate n
          step).engine.rules =
        front.map (Rule.after n r (Engine.minutes step)) ++
          rule.withBranch holds (before.map (Action.after n r (Engine.minutes step)) ++
            after.map (Action.after n r (Engine.minutes step))) ::
          back.map (Rule.after n r (Engine.minutes step))) ∧
    Candidate.writeAll n.state
        (Candidate.winners (requestQueue n r (Engine.minutes step) e.rules)) =
      Candidate.writeAll n.state (e.winnersOf n r step) := by
  have hrules : ∀ rules, ((e.withRules rules).evaluate n step).engine.rules =
      rules.map (Rule.after n r (Engine.minutes step)) := by
    intro rules
    have hclock : (e.withRules rules).clock.reading = .ok r := hr
    exact (Engine.evaluate_touches hclock n step).rules
  refine ⟨?_, ?_, writeAll_requestQueue n.state⟩
  · intro front rule back error h
    refine ⟨sameButFor_rule hr front back h, ?_, ?_⟩
    · rw [hrules, List.map_append, List.map_cons, Rule.after_of_error h]
    · rw [hrules, List.map_append]
  · intro front rule back holds before a after error h hbranch ha
    have hself : a.after n r (Engine.minutes step) = a := by
      rw [Action.after, ha]
    refine ⟨sameButFor_action hr front back h hbranch ha, ?_, ?_⟩
    · rw [hrules, List.map_append, List.map_cons, Rule.after_of_ok h, hbranch]
      simp [hself]
    · have h' : condition n.state r (rule.withBranch holds (before ++ after)).premises =
          .ok holds := by simpa using h
      rw [hrules, List.map_append, List.map_cons, Rule.after_of_ok h']
      simp

end

/-- A rule about a node that there is not. -/
def lostRule : Rule Rat :=
  ⟨"lost", 3, none, 9, [⟨.first, ⟨.node, none, .depth⟩, .gt, .number 1⟩],
    [⟨0, "P1", .setting, .fixed 2⟩], []⟩

/-- A rule whose first action follows a curve that there is not. -/
def torn : Rule Rat :=
  ⟨"torn", 4, none, 1, [], [],
    [⟨0, "P1", .setting, .curve 0 ⟨.simulation, none, .time⟩⟩, ⟨1, "P2", .status, .fixed 1⟩]⟩

theorem failures_isolated_pumps : ∃ r, pumpEngine.clock.reading = .ok r ∧
    SameButFor (.ruleFailed "lost")
      ((pumpEngine.withRules ([] ++ lostRule :: pumpRules)).evaluate twoPumps 60)
      (pumpEngine.evaluate twoPumps 60) ∧
    SameButFor (.actionFailed "P1" "torn")
      ((pumpEngine.withRules ([] ++ torn :: pumpRules)).evaluate twoPumps 60)
      ((pumpEngine.withRules
        (torn.withBranch false [⟨1, "P2", .status, .fixed 1⟩] :: pumpRules)).evaluate
          twoPumps 60) := by
  obtain ⟨r, hr⟩ := exists_ok_of_isOk (x := pumpEngine.clock.reading) (by decide +kernel)
  obtain ⟨hrule, haction, -⟩ := failures_isolated hr twoPumps 60
  exact ⟨r, hr, (hrule [] lostRule pumpRules _ rfl).1,
    (haction [] torn pumpRules false [] _ _ _ rfl rfl rfl).1⟩

end Sluice
