import Sluice.Calendar.Readers
import Sluice.Proofs.Control.Bids
import Sluice.Proofs.Rule.Fitting

/-!
# Runs in which nothing fails

A rule is read once and evaluated many times, while the clock moves, settings are taken over and
whoever advances the simulation writes whatever it likes into the state. `evaluate_never_fails`
says that **nothing of this can make a rule fail that was built**: every step of every run is
either completed without leaving out a rule or an action, or the clock has no reading, and then
the step has changed nothing at all.

The argument has three parts. A rule that fits the network (`Rule.Fits`) can be evaluated in any
state, because all that evaluation asks for is there. A step and everything else that happens
between two steps keep the counts of the network and change nothing of a rule but the memories
of its controllers, so the rules still fit (`FitTogether`). And the rules fit to begin with.

No law of arithmetic is involved: what is written may be no number.
-/

set_option autoImplicit false

namespace Sluice

variable {α : Type} [Scalar α]

/-! ## 1. Evaluating what fits -/

section

variable {n : Network α} {r : Reading α}

omit [Scalar α] in
theorem State.link?_eq {i : Nat} (h : i < n.count .link) :
    ∃ link, n.state.link? i = .ok link := by
  exact ⟨_, State.link?_eq_ok (List.getElem?_eq_getElem h)⟩

omit [Scalar α] in
theorem State.node?_eq {i : Nat} (h : i < n.count .node) :
    ∃ node, n.state.node? i = .ok node := by
  refine ⟨n.state.nodes.get ⟨i, h⟩, ?_⟩
  rw [State.node?, List.getElem?_eq_getElem h]
  rfl

/-- What a premise may ask of a link that does not involve the clock is an attribute of links. -/
theorem Link.get?_of_hasAttribute {o : ObjectType} (ho : o.isLink = true) {a : Attribute}
    (ha : o.hasAttribute a = true) (hopen : a ≠ .timeOpen) (hclosed : a ≠ .timeClosed) :
    ∃ f : Link α → α, Link.get? a = some f := by
  cases a with
  | depth | flow | status | setting => exact ⟨_, rfl⟩
  | timeOpen => exact absurd rfl hopen
  | timeClosed => exact absurd rfl hclosed
  | _ =>
    cases o with
    | node => cases ho
    | simulation => cases ho
    | anyLink => cases ha
    | link t => cases t <;> cases ha

theorem Node.get?_of_hasAttribute {a : Attribute} (ha : ObjectType.node.hasAttribute a = true) :
    ∃ f : Node α → α, Node.get? a = some f := by
  cases a with
  | depth | head | volume | inflow => exact ⟨_, rfl⟩
  | _ => cases ha

theorem State.value_of_isLink (s : State α) {o : ObjectType} (ho : o.isLink = true) (i : Nat)
    (a : Attribute) : s.value o i a = s.linkAttribute i a := by
  cases o with
  | node => cases ho
  | simulation => cases ho
  | anyLink => rfl
  | link t => rfl

theorem Source.ofLink_ok {o : ObjectType} (ho : o.isLink = true) {a : Attribute}
    (ha : o.hasAttribute a = true) {i : Nat} (h : i < n.count .link) :
    ∃ source, Source.ofLink n.state o i a = .ok source := by
  obtain ⟨link, hlink⟩ := State.link?_eq h
  have hvalue : a ≠ .timeOpen → a ≠ .timeClosed →
      ∃ x, n.state.value o i a = .ok x := by
    intro hopen hclosed
    obtain ⟨f, hf⟩ := Link.get?_of_hasAttribute (α := α) ho ha hopen hclosed
    refine ⟨f link, ?_⟩
    rw [State.value_of_isLink _ ho, State.linkAttribute, hf, hlink]
    rfl
  have htype : n.state.linkType i = .ok link.type := by
    rw [State.linkType, hlink]
    rfl
  -- the type decides whether the value is looked up, but never whether it is there
  rw [Source.ofLink.eq_def]
  split
  · obtain ⟨x, hx⟩ := hvalue nofun nofun
    rw [htype, hx]
    show ∃ source, (if link.type.hasStatus = true then _ else _) = Except.ok source
    split
    · exact ⟨_, rfl⟩
    · exact ⟨_, rfl⟩
  · obtain ⟨x, hx⟩ := hvalue nofun nofun
    rw [htype, hx]
    show ∃ source, (if link.type.hasStatus = true then _ else _) = Except.ok source
    split
    · exact ⟨_, rfl⟩
    · exact ⟨_, rfl⟩
  · rw [hlink]
    exact ⟨_, rfl⟩
  · rw [hlink]
    exact ⟨_, rfl⟩
  · rename_i hopen hclosed
    obtain ⟨x, hx⟩ := hvalue hopen hclosed
    rw [hx]
    exact ⟨_, rfl⟩

theorem Source.find_link_ok {o : ObjectType} (ho : o.isLink = true) {position : Option Nat}
    {a : Attribute} (ha : o.hasAttribute a = true)
    (h : ∃ i, position = some i ∧ i < n.count .link) :
    ∃ source, Source.find n.state ⟨o, position, a⟩ = .ok source := by
  obtain ⟨i, rfl, hi⟩ := h
  obtain ⟨source, hsource⟩ := Source.ofLink_ok ho ha hi
  have hfind : Source.find n.state ⟨o, some i, a⟩ =
      (Source.ofLink n.state o i a).mapError .state := by
    cases o with
    | node => cases ho
    | simulation => cases ho
    | anyLink => rfl
    | link t => rfl
  refine ⟨source, ?_⟩
  rw [hfind, hsource]
  rfl

theorem Source.find_node_ok {position : Option Nat} {a : Attribute}
    (ha : ObjectType.node.hasAttribute a = true)
    (h : ∃ i, position = some i ∧ i < n.count .node) :
    ∃ source, Source.find n.state ⟨.node, position, a⟩ = .ok source := by
  obtain ⟨i, rfl, hi⟩ := h
  obtain ⟨node, hnode⟩ := State.node?_eq hi
  obtain ⟨f, hf⟩ := Node.get?_of_hasAttribute (α := α) ha
  refine ⟨.known (some (f node)), ?_⟩
  show ((n.state.nodeAttribute i a).map _).mapError _ = _
  rw [State.nodeAttribute, hf, hnode]
  rfl

/-- A variable that fits has a value in every state, perhaps an undefined one. -/
theorem Variable.resolve_ok {v : Variable} (h : v.Fits n.count) :
    ∃ x, v.resolve n.state r = .ok x := by
  obtain ⟨object, position, attr⟩ := v
  obtain ⟨hattr, hposition⟩ := h
  have hfind : ∃ source, Source.find n.state ⟨object, position, attr⟩ = .ok source := by
    cases object with
    | simulation => exact ⟨_, rfl⟩
    | node => exact Source.find_node_ok hattr (hposition .node rfl)
    | anyLink => exact Source.find_link_ok rfl hattr (hposition .link rfl)
    | link t => exact Source.find_link_ok rfl hattr (hposition .link rfl)
  obtain ⟨source, hsource⟩ := hfind
  refine ⟨source.value r, ?_⟩
  rw [Variable.resolve, hsource]
  rfl

theorem Operand.resolve_ok {o : Operand α} (h : o.Fits n.count) :
    ∃ x, o.resolve n.state r = .ok x := by
  cases o with
  | number x => exact ⟨some x, rfl⟩
  | valueOf v => exact Variable.resolve_ok h

theorem Premise.holds_ok {p : Premise α} (h : p.Fits n.count) :
    ∃ b, p.holds n.state r = .ok b := by
  obtain ⟨x, hx⟩ := Operand.resolve_ok (r := r) h.right
  obtain ⟨y, hy⟩ := Variable.resolve_ok (r := r) h.left
  refine ⟨p.relation.holds y x, ?_⟩
  rw [Premise.holds, hx, hy]
  rfl

theorem condition_ok {ps : List (Premise α)} (h : ∀ p ∈ ps, p.Fits n.count) :
    ∃ holds, condition n.state r ps = .ok holds := by
  have hvalues : ∀ p ∈ ps, ∃ y, ((p.holds n.state r).map fun b => (p.joint, b)) = .ok y := by
    intro p hp
    obtain ⟨b, hb⟩ := Premise.holds_ok (r := r) (h p hp)
    exact ⟨(p.joint, b), by rw [hb]; rfl⟩
  obtain ⟨values, hvalues⟩ := exists_mapM_ok hvalues
  refine ⟨truth values, ?_⟩
  rw [condition, hvalues]
  rfl

theorem lookupAt_ok {tables : List (Table α)} {i : Nat} (h : i < tables.length) (x : α) :
    ∃ y, lookupAt tables i x = .ok y := by
  refine ⟨tables[i].lookup x, ?_⟩
  rw [lookupAt, List.getElem?_eq_getElem h]

omit [Scalar α] in
theorem State.target_ok {i : Nat} (h : i < n.count .link) : ∃ x, n.state.target i = .ok x :=
  ⟨_, State.target_eq_ok (List.getElem?_eq_getElem h)⟩

theorem curveSetting_ok {link i : Nat} {v : Variable} (hlink : link < n.count .link)
    (hi : i < n.count .curve) (hv : v.Fits n.count) :
    ∃ y, curveSetting n r link i v = .ok y := by
  obtain ⟨x, hx⟩ := Variable.resolve_ok (r := r) hv
  rw [curveSetting, hx]
  cases x with
  | some x => exact lookupAt_ok hi x
  | none =>
    obtain ⟨y, hy⟩ := State.target_ok hlink
    refine ⟨y, ?_⟩
    show (n.state.target link).mapError ComputeError.state = _
    rw [hy]
    rfl

theorem Controller.compute_ok {c : Controller α} {link : Nat} (dt : α)
    (hlink : link < n.count .link) (hcontrolled : c.controlled.Fits n.count)
    (hsetpoint : c.setpoint.Fits n.count) :
    ∃ y, c.compute n.state r dt link = .ok y := by
  obtain ⟨current, hcurrent⟩ := State.target_ok hlink
  obtain ⟨controlled, hx⟩ := Variable.resolve_ok (r := r) hcontrolled
  obtain ⟨setpoint, hy⟩ := Operand.resolve_ok (r := r) hsetpoint
  have htype := State.linkType_eq_ok (List.getElem?_eq_getElem hlink)
  rw [Controller.compute, hcurrent, hx, hy, htype]
  cases controlled with
  | none => exact ⟨_, rfl⟩
  | some x =>
    cases setpoint with
    | none => exact ⟨_, rfl⟩
    | some y => exact ⟨_, rfl⟩

theorem Action.compute_ok {a : Action α} (dt : α) (h : a.Fits n.count) :
    ∃ y, a.compute n r dt = .ok y := by
  obtain ⟨link, linkId, attr, mode⟩ := a
  obtain ⟨-, hlink, hmode⟩ := h
  cases mode with
  | fixed x => exact ⟨_, rfl⟩
  | curve i v =>
    obtain ⟨y, hy⟩ := curveSetting_ok (r := r) hlink hmode.1 hmode.2
    show ∃ y, (curveSetting n r link i v).map _ = Except.ok y
    rw [hy]
    exact ⟨_, rfl⟩
  | timeSeries i =>
    obtain ⟨y, hy⟩ : ∃ y, lookupAt n.series i r.worldTime = .ok y := lookupAt_ok hmode _
    show ∃ y, (lookupAt n.series i r.worldTime).map _ = Except.ok y
    rw [hy]
    exact ⟨_, rfl⟩
  | pid c =>
    obtain ⟨y, hy⟩ := Controller.compute_ok (r := r) dt hlink hmode.1 hmode.2
    show ∃ y, (c.compute n.state r dt link).map _ = Except.ok y
    rw [hy]
    exact ⟨_, rfl⟩
  | unsupported => exact hmode.elim

end

/-! ## 2. Rules that fit, before and after a step -/

section

variable {count : ObjectKind → Nat} {n : Network α} {r : Reading α} {dt : α}

/-- Moving the memory of an action on does not change what it names. -/
theorem Action.after_fits {a : Action α} (h : a.Fits count) : (a.after n r dt).Fits count := by
  rw [Action.after]
  split
  · rename_i x a' ha
    rcases Action.compute_eq_ok ha with rfl | ⟨c, e1, e2, hmode, rfl⟩
    · exact h
    · have hfits := h.mode
      rw [hmode] at hfits
      exact ⟨h.attr, h.link, hfits⟩
  · exact h

theorem Rule.after_fits {rule : Rule α} (h : rule.Fits count) :
    (rule.after n r dt).Fits count := by
  rw [Rule.after]
  split
  · rename_i holds _
    cases holds with
    | true =>
      refine ⟨h.premises, ?_, h.elseActions⟩
      intro a' ha'
      obtain ⟨a, ha, rfl⟩ := List.mem_map.mp ha'
      exact Action.after_fits (h.thenActions a ha)
    | false =>
      refine ⟨h.premises, h.thenActions, ?_⟩
      intro a' ha'
      obtain ⟨a, ha, rfl⟩ := List.mem_map.mp ha'
      exact Action.after_fits (h.elseActions a ha)
  · exact h

omit [Scalar α] in
theorem Rule.Fits.actions {rule : Rule α} (h : rule.Fits count) :
    ∀ a ∈ rule.actions, a.Fits count :=
  List.forall_mem_append.mpr ⟨h.thenActions, h.elseActions⟩

omit [Scalar α] in
theorem Action.Fits.isWritable {a : Action α} (h : a.Fits n.count) : a.IsWritable n.state :=
  ⟨h.attr, h.link⟩

/-- The condition of a rule that fits can be evaluated, and each action that it selects has a
setting. -/
theorem Rule.evaluated {rule : Rule α} (h : rule.Fits n.count) :
    ∃ holds, condition n.state r rule.premises = .ok holds ∧
      ∀ a ∈ rule.branch holds, (a.value? n r dt).isSome = true := by
  obtain ⟨holds, hholds⟩ := condition_ok (r := r) h.premises
  refine ⟨holds, hholds, ?_⟩
  intro a ha
  -- whichever way the condition turned out, the action is one of the rule
  have haction : a ∈ rule.actions := by
    cases holds with
    | true => exact List.mem_append_left _ ha
    | false => exact List.mem_append_right _ ha
  obtain ⟨⟨x, a'⟩, hx⟩ := Action.compute_ok (r := r) dt (h.actions a haction)
  rw [Action.value?, hx]
  rfl

theorem Rule.judge_fits {rule : Rule α} (h : rule.Fits n.count) :
    (rule.judge n r dt).failed = false ∧ (rule.judge n r dt).failedLinks = [] := by
  obtain ⟨holds, hholds, hbranch⟩ := Rule.evaluated (r := r) h
  rw [Rule.judge, hholds]
  simp only [computeAll_eq]
  refine ⟨trivial, ?_⟩
  rw [List.filter_eq_nil_iff.mpr, List.map_nil]
  intro a ha
  rw [← Option.not_isSome, hbranch a ha]
  exact Bool.false_ne_true

theorem failures_eq_nil {rules : List (Rule α)} (h : ∀ rule ∈ rules, rule.Fits n.count) :
    Judged.failures (rules.map (Rule.judge n r dt)) = [] := by
  have hjudged : ∀ j ∈ rules.map (Rule.judge n r dt), j.failed = false ∧ j.failedLinks = [] := by
    intro j hj
    obtain ⟨rule, hrule, rfl⟩ := List.mem_map.mp hj
    exact Rule.judge_fits (h rule hrule)
  rw [Judged.failures, List.append_eq_nil_iff]
  constructor
  · rw [List.map_eq_nil_iff, List.filter_eq_nil_iff]
    intro j hj
    rw [(hjudged j hj).1]
    exact Bool.false_ne_true
  · rw [List.flatMap_eq_nil_iff]
    intro j hj
    rw [(hjudged j hj).2]
    rfl

end

/-! ## 3. Systems and their moves -/

/-- An engine with the network that it controls. -/
structure System (α : Type) where
  engine : Engine α
  network : Network α

/-- What can happen to a system. -/
inductive Move (α : Type) where
  | setClock (timestamp : Int)
  | advanceClock (seconds : α)
  | evaluate (step : α)
  | applyTargets (elapsed : α)
  | writeNode (i : Nat) (c : NodeColumn) (value : α)
  | writeLink (i : Nat) (c : LinkColumn) (value : α)

namespace System

def withState (s : System α) (state : State α) : System α :=
  { s with network := { s.network with state := state } }

/-- The system after a move. A clock that cannot be advanced stays where it is. -/
def perform (s : System α) : Move α → System α
  | .setClock timestamp =>
    { s with engine := { s.engine with clock := s.engine.clock.set timestamp } }
  | .advanceClock seconds =>
    match s.engine.clock.advance seconds with
    | .ok clock => { s with engine := { s.engine with clock := clock } }
    | .error _ => s
  | .evaluate step =>
    let result := s.engine.evaluate s.network step
    ⟨result.engine, result.network⟩
  | .applyTargets elapsed => s.withState (s.network.state.applyTargets elapsed)
  | .writeNode i c value => s.withState (s.network.state.writeNode i c value)
  | .writeLink i c value => s.withState (s.network.state.writeLink i c value)

def run (s : System α) (moves : List (Move α)) : System α := moves.foldl perform s

def FitTogether (s : System α) : Prop := ∀ rule ∈ s.engine.rules, rule.Fits s.network.count

/-- A step without a reading, which has no effect. -/
def IsUnread (s : System α) (step : α) : Prop :=
  ∃ cause, s.engine.clock.moment.dateTime = .error cause ∧
    s.engine.evaluate s.network step = ⟨s.engine, s.network, [], .error (.clock cause)⟩

/-- A step with some reading that commits some settings and leaves out neither a rule nor an
action. -/
structure Completes (s : System α) (step : α) (r : Reading α) (committed : List (Committed α)) :
    Prop where
  reading : s.engine.clock.reading = .ok r
  evaluated : ∀ rule ∈ s.engine.rules,
    ∃ holds, condition s.network.state r rule.premises = .ok holds ∧
      ∀ a ∈ rule.branch holds, (a.value? s.network r (Engine.minutes step)).isSome = true
  outcome : (s.engine.evaluate s.network step).outcome = .ok committed
  /-- What was committed are the winners among the values, as they were written. -/
  written : Candidate.Written s.network.state (s.engine.winnersOf s.network r step)
    (s.engine.evaluate s.network step).network.state committed
  /-- The rules that are reported are those whose condition was evaluated to hold. -/
  reported : (s.engine.evaluate s.network step).engine.report = Engine.reportOf r
    ((s.engine.rules.filter fun rule => rule.fires s.network r).map Rule.id) committed
  /-- All that there is to be logged are the settings that were committed. -/
  logged : ∃ stamp, (s.engine.evaluate s.network step).events = committed.map (.committed stamp)

def IsCompleted (s : System α) (step : α) : Prop := ∃ r committed, s.Completes step r committed

variable {s : System α}

omit [Scalar α] in
theorem FitTogether.withState (h : s.FitTogether) {state : State α}
    (hnodes : state.nodes.length = s.network.state.nodes.length)
    (hlinks : state.links.length = s.network.state.links.length) :
    (s.withState state).FitTogether := by
  have hcount : (s.withState state).network.count = s.network.count := by
    funext kind
    cases kind with
    | node => exact hnodes
    | link => exact hlinks
    | curve => rfl
    | timeSeries => rfl
  intro rule hrule
  rw [hcount]
  exact h rule hrule

theorem FitTogether.isWritable (h : s.FitTogether) {r : Reading α} {dt : α} :
    ∀ b ∈ bidsOf s.network r dt s.engine.rules, b.action.IsWritable s.network.state :=
  isWritable_of_mem_bidsOf fun rule hrule a ha => ((h rule hrule).actions a ha).isWritable

/-- A step over rules that fit has a reading or has no effect, and the rules fit afterwards. -/
theorem evaluate_cases (h : s.FitTogether) (step : α) :
    (s.IsUnread step ∨ s.IsCompleted step) ∧ (s.perform (.evaluate step)).FitTogether := by
  cases hr : s.engine.clock.reading with
  | error cause =>
    have hmoment : s.engine.clock.moment.dateTime = .error cause := by
      cases ht : s.engine.clock.moment.dateTime with
      | error e => rw [Clock.reading, ht] at hr; cases hr; rfl
      | ok t => rw [Clock.reading, ht] at hr; cases hr
    have heq : s.engine.evaluate s.network step =
        ⟨s.engine, s.network, [], .error (.clock cause)⟩ :=
      Engine.evaluate_unread hr s.network step
    refine ⟨Or.inl ⟨cause, hmoment, heq⟩, ?_⟩
    rw [perform, heq]
    exact h
  | ok r =>
    obtain ⟨state, committed, stamp, heq, hwritten⟩ :=
      Engine.evaluate_written step hr h.isWritable
    rw [failures_eq_nil h, List.nil_append] at heq
    refine ⟨Or.inr ⟨r, committed, hr, ?_, ?_, ?_, ?_, stamp, ?_⟩, ?_⟩
    · intro rule hrule
      exact Rule.evaluated (h rule hrule)
    · rw [heq]
    · rw [heq]
      exact hwritten
    · rw [heq]
      rfl
    · rw [heq]
    rw [perform, heq]
    -- the rules fit the network from before the step, and its counts are still the same
    have hnodes : state.nodes.length = s.network.state.nodes.length := by rw [hwritten.rest]
    have hrules : (⟨s.engine.afterStep s.network r step committed, s.network⟩ :
        System α).FitTogether := by
      intro rule hrule
      obtain ⟨rule, hmem, rfl⟩ := List.mem_map.mp hrule
      exact Rule.after_fits (h rule hmem)
    exact hrules.withState hnodes hwritten.length

theorem FitTogether.perform (h : s.FitTogether) (move : Move α) : (s.perform move).FitTogether := by
  cases move with
  | setClock timestamp => exact h
  | advanceClock seconds =>
    rw [System.perform]
    split
    · exact h
    · exact h
  | evaluate step => exact (evaluate_cases h step).2
  | applyTargets elapsed => exact h.withState rfl (List.length_map _)
  | writeNode i c value => exact h.withState (List.length_modify _ _ _) rfl
  | writeLink i c value => exact h.withState rfl (List.length_modify _ _ _)

theorem FitTogether.run (h : s.FitTogether) (moves : List (Move α)) :
    (s.run moves).FitTogether := by
  induction moves generalizing s with
  | nil => exact h
  | cons move rest ih => exact ih (h.perform move)

end System

/-! ## 4. Rules that were built -/

/-- The rules that are built over the network of a dataset fit it. -/
theorem fitTogether_of_build [TimeReader α] {data : Json} {origin : Origin α} {n : Network α}
    {clock : Clock α} {strict : Bool} {lines : List String}
    (hload : Dataset.load data origin = .ok n) :
    System.FitTogether ⟨((Engine.ofClock clock).buildRules n strict lines).1, n⟩ := by
  have hempty : (Engine.ofClock clock).builder.Fits n.count := Builder.empty_fits _
  exact (fits_of_addText (Dataset.indexed_of_load hload) hempty strict lines).rules

/-- **Rules that were built never fail.** Whatever happened to the system since, a step is
completed and leaves out nothing, unless the clock has no reading, and then it has no effect. -/
theorem evaluate_never_fails [TimeReader α] {data : Json} {origin : Origin α} {n : Network α}
    {clock : Clock α} {strict : Bool} {lines : List String} {e : Engine α} {log : List LogEntry}
    {faults : List Fault} (hload : Dataset.load data origin = .ok n)
    (hbuild : (Engine.ofClock clock).buildRules n strict lines = (e, log, .ok faults))
    (moves : List (Move α)) (step : α) :
    (System.run ⟨e, n⟩ moves).IsUnread step ∨ (System.run ⟨e, n⟩ moves).IsCompleted step := by
  have hfit : System.FitTogether ⟨e, n⟩ := by
    have hengine : ((Engine.ofClock clock).buildRules n strict lines).1 = e := by rw [hbuild]
    rw [← hengine]
    exact fitTogether_of_build hload
  exact (System.evaluate_cases (hfit.run moves) step).1

/-- A node and a pump. -/
def pumpData : Json :=
  .object [("nodes", .object [("id", .array [.text "N1"])]),
    ("links", .object [("id", .array [.text "P1"]), ("type", .array [.text "PUMP"])])]

/-- A rule that keeps the node at a depth of two by the pump, and another one that stops it. -/
def pumpText : List String :=
  ["RULE R1", "IF NODE N1 DEPTH <> 2", "THEN PUMP P1 SETTING = PID 1 0.1 0",
    "RULE R2", "IF SIMULATION TIME > 24", "AND PUMP P1 TIMEOPEN > 1", "THEN PUMP P1 STATUS = OFF",
    "PRIORITY 2"]

/-- The pump starts at a low depth, and is looked at again in the second day. -/
def pumpMoves : List (Move Rat) :=
  [.writeNode 0 .depth 1, .evaluate 60, .applyTargets 60, .setClock 90000]

open scoped Readers in
/-- The pump is stopped then, by the rule of the higher priority. -/
theorem evaluate_never_fails_pump : ∃ (n : Network Rat) (e : Engine Rat) (log : List LogEntry)
    (faults : List Fault), Dataset.load pumpData .epoch = .ok n ∧
    (Engine.ofClock (Clock.start (Timeline.anchored 0))).buildRules n true pumpText =
      (e, log, .ok faults) ∧
    ∃ r, (System.run ⟨e, n⟩ pumpMoves).Completes 60 r
      [⟨0, "P1", .status, 0, "R2", false, true⟩] := by
  let clock : Clock Rat := Clock.start (Timeline.anchored 0)
  have hrun : (match Dataset.load pumpData (.epoch : Origin Rat) with
      | .ok n =>
        let built := (Engine.ofClock clock).buildRules n true pumpText
        let s := System.run ⟨built.1, n⟩ pumpMoves
        built.2.2.isOk && decide ((s.engine.evaluate s.network 60).outcome.toOption =
          some [⟨0, "P1", .status, 0, "R2", false, true⟩])
      | .error _ => false) = true := by decide +kernel
  split at hrun
  · rename_i n hload
    rw [Bool.and_eq_true, decide_eq_true_iff, toOption_eq_some] at hrun
    obtain ⟨hbuilt, hcommitted⟩ := hrun
    obtain ⟨faults, hfaults⟩ := exists_ok_of_isOk hbuilt
    have hbuild : (Engine.ofClock clock).buildRules n true pumpText =
        (_, _, .ok faults) := Prod.ext rfl (Prod.ext rfl hfaults)
    refine ⟨n, _, _, faults, hload, hbuild, ?_⟩
    rcases evaluate_never_fails hload hbuild pumpMoves 60 with ⟨cause, -, hunread⟩ | hcompleted
    · rw [hunread] at hcommitted
      cases hcommitted
    · obtain ⟨r, committed, hcompletes⟩ := hcompleted
      have heq : committed = _ := Except.ok.inj (hcompletes.outcome.symm.trans hcommitted)
      exact ⟨r, heq ▸ hcompletes⟩
  · cases hrun

end Sluice
