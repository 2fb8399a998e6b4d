import Sluice.Calendar.Readers
import Sluice.Proofs.Control.Built
import Sluice.Proofs.Control.Footprint
import Sluice.Proofs.Number.Order

/-!
# A step that is repeated

A step that is repeated at once reads what the first one read, except for the target settings that
the first one wrote. Only two kinds of actions read these: a controller adds its change to the
target, which is what it is for, and a curve keeps the target where its variable is undefined. So
without controllers the question is what becomes of such curves. One that wins its link computes
the target it has just written, and one that loses computes a new setting, but who wins is not
decided by settings. So

> **a step without controllers commits the same settings when it is repeated, changes no target,
> and says of no setting that is a number that it has changed it** (`step_repeats`).

The last clause needs its condition. Interpolation between two finite points can give a value that
is no number, which differs from itself, and then the repeated step says that it has changed a
setting that it left as it was (`overflow_repeats_changed`).
-/

set_option autoImplicit false

namespace Sluice

variable {α : Type} [Scalar α]

/-! ## 1. What does not read targets -/

omit [Scalar α] in
theorem State.map_link?_retargeted {allowed : Nat → α → Prop} {s s' : State α}
    (h : s.Retargeted allowed s') {β : Type} {f : Link α → β}
    (hf : ∀ l x, f { l with targetSetting := x } = f l) (i : Nat) :
    (s'.link? i).map f = (s.link? i).map f := by
  unfold State.link?
  cases hl : s.links[i]? with
  | none =>
    have hl' : s'.links[i]? = none := by
      rw [List.getElem?_eq_none_iff] at hl ⊢
      rw [h.length]
      exact hl
    rw [hl']
  | some l =>
    obtain ⟨x, hx, -⟩ := h.link i l hl
    rw [hx]
    exact congrArg Except.ok (hf l x)

theorem Link.get?_withTarget {a : Attribute} {f : Link α → α} (h : Link.get? a = some f)
    (l : Link α) (x : α) : f { l with targetSetting := x } = f l := by
  cases a with
  | depth | flow | status | setting =>
    cases h
    rfl
  | _ => cases h

namespace State.Retargeted

variable {allowed : Nat → α → Prop} {s s' : State α} (h : s.Retargeted allowed s')
include h

omit [Scalar α] in
theorem linkType (i : Nat) : s'.linkType i = s.linkType i :=
  map_link?_retargeted h (fun _ _ => rfl) i

theorem value (o : ObjectType) (i : Nat) (a : Attribute) : s'.value o i a = s.value o i a := by
  have hnode : s'.nodeAttribute i a = s.nodeAttribute i a := by
    unfold State.nodeAttribute State.node?
    rw [h.nodes]
  have hlink : s'.linkAttribute i a = s.linkAttribute i a := by
    unfold State.linkAttribute
    cases hf : (Link.get? a : Option (Link α → α)) with
    | none => rfl
    | some f => exact map_link?_retargeted h (Link.get?_withTarget hf) i
  unfold State.value
  rw [hnode, hlink]

theorem find (v : Variable) : Source.find s' v = Source.find s v := by
  have hhours : ∀ isOpen i, (s'.link? i).map (Source.hoursInState · isOpen) =
      (s.link? i).map (Source.hoursInState · isOpen) := by
    intro isOpen i
    exact map_link?_retargeted h (fun _ _ => rfl) i
  have hlink : ∀ o i a, Source.ofLink s' o i a = Source.ofLink s o i a := by
    intro o i a
    cases a with
    | timeOpen => exact hhours true i
    | timeClosed => exact hhours false i
    | _ => simp only [Source.ofLink, h.linkType, h.value]
  unfold Source.find
  simp only [h.value, hlink]

theorem resolve (r : Reading α) (v : Variable) : v.resolve s' r = v.resolve s r := by
  unfold Variable.resolve
  rw [h.find]

theorem condition (r : Reading α) (ps : List (Premise α)) :
    condition s' r ps = condition s r ps := by
  have hoperand : ∀ x : Operand α, x.resolve s' r = x.resolve s r := by
    intro x
    cases x with
    | number x => rfl
    | valueOf v => exact h.resolve r v
  unfold Sluice.condition Premise.holds
  simp only [hoperand, h.resolve]

end State.Retargeted

/-! ## 2. Rules without controllers -/

/-- No action that the condition selects has a controller. -/
def Rule.IsUncontrolled (n : Network α) (r : Reading α) (rule : Rule α) : Prop :=
  ∀ a ∈ rule.selected n r, a.controller? = none

/-- The bid with the setting that its action computes over another network. -/
def Bid.recomputed (n : Network α) (r : Reading α) (dt : α) (b : Bid α) : Bid α :=
  { b with value := (b.action.value? n r dt).getD b.value }

/-- The candidate with the setting that its action computes over another network. -/
def Candidate.recomputed (n : Network α) (r : Reading α) (dt : α) (c : Candidate α) :
    Candidate α :=
  { c with value := (c.action.value? n r dt).getD c.value }

section

variable {n : Network α} {r : Reading α} {dt : α} {rule : Rule α} {rules : List (Rule α)}

theorem Rule.after_eq_self (h : rule.IsUncontrolled n r) : rule.after n r dt = rule := by
  unfold IsUncontrolled selected at h
  cases hcond : condition n.state r rule.premises with
  | error e => exact after_of_error hcond
  | ok holds =>
    rw [hcond] at h
    have hsame : (rule.branch holds).map (Action.after n r dt) = rule.branch holds :=
      (List.map_congr_left fun a ha => Action.after_eq_self (h a ha) n r dt).trans
        (List.map_id _)
    rw [after_of_ok hcond, hsame]
    cases holds <;> rfl

theorem map_after_eq_self (h : ∀ rule ∈ rules, rule.IsUncontrolled n r) :
    rules.map (Rule.after n r dt) = rules :=
  (List.map_congr_left fun rule hrule => Rule.after_eq_self (h rule hrule)).trans (List.map_id _)

variable {allowed : Nat → α → Prop} {s : State α} (h : n.state.Retargeted allowed s)
include h

theorem Rule.selected_retargeted (rule : Rule α) :
    rule.selected { n with state := s } r = rule.selected n r := by
  unfold selected
  rw [h.condition]

theorem Rule.IsUncontrolled.retargeted (hno : rule.IsUncontrolled n r) :
    rule.IsUncontrolled { n with state := s } r := by
  unfold IsUncontrolled
  rw [Rule.selected_retargeted h]
  exact hno

theorem Rule.fires_retargeted (rule : Rule α) :
    rule.fires { n with state := s } r = rule.fires n r := by
  unfold fires
  rw [h.condition]

/-- Without a controller, a setting changes with the targets only if it is the target. -/
theorem Action.value?_retargeted {a : Action α} (ha : a.controller? = none) (r : Reading α)
    (dt : α) :
    a.value? { n with state := s } r dt = a.value? n r dt ∨
      a.value? n r dt = (n.state.target a.link).toOption ∧
        a.value? { n with state := s } r dt = (s.target a.link).toOption := by
  obtain ⟨link, linkId, attr, mode⟩ := a
  cases mode with
  | fixed x => exact Or.inl rfl
  | timeSeries i => exact Or.inl rfl
  | unsupported => exact Or.inl rfl
  | pid c => cases ha
  | curve i v =>
    unfold value? compute curveSetting
    dsimp only
    rw [h.resolve]
    cases hv : v.resolve n.state r with
    | error e => exact Or.inl rfl
    | ok x =>
      cases x with
      | some x => exact Or.inl rfl
      | none =>
        right
        constructor
        · cases n.state.target link <;> rfl
        · cases s.target link <;> rfl

theorem Action.isSome_value?_retargeted {a : Action α} (ha : a.controller? = none) :
    (a.value? { n with state := s } r dt).isSome = (a.value? n r dt).isSome := by
  rcases Action.value?_retargeted h ha r dt with heq | ⟨hbefore, hafter⟩
  · rw [heq]
  · have hlink : (s.link? a.link).map (fun _ => ()) = (n.state.link? a.link).map fun _ => () :=
      State.map_link?_retargeted h (fun _ _ => rfl) a.link
    rw [hbefore, hafter]
    unfold State.target
    revert hlink
    cases s.link? a.link <;> cases n.state.link? a.link <;> simp [Except.map, Except.toOption]

theorem Rule.bids_retargeted (hno : rule.IsUncontrolled n r) :
    rule.bids { n with state := s } r dt =
      (rule.bids n r dt).map (Bid.recomputed { n with state := s } r dt) := by
  unfold bids
  rw [Rule.selected_retargeted h, List.map_filterMap]
  refine List.filterMap_congr fun a ha => ?_
  have hsome : (a.value? { n with state := s } r dt).isSome = (a.value? n r dt).isSome :=
    Action.isSome_value?_retargeted h (hno a ha)
  cases hbefore : a.value? n r dt with
  | none =>
    rw [hbefore] at hsome
    simpa using hsome
  | some x =>
    rw [hbefore] at hsome
    obtain ⟨y, hy⟩ := Option.isSome_iff_exists.mp hsome
    simp [hy, Bid.recomputed]

/-- The queue of the repeated step is that of the first one, with settings computed anew. -/
theorem queue_retargeted (hno : ∀ rule ∈ rules, rule.IsUncontrolled n r) :
    Judged.queue (rules.map (Rule.judge { n with state := s } r dt)) =
      (Judged.queue (rules.map (Rule.judge n r dt))).map
        (Candidate.recomputed { n with state := s } r dt) := by
  have hbids : bidsOf { n with state := s } r dt rules =
      (bidsOf n r dt rules).map (Bid.recomputed { n with state := s } r dt) := by
    unfold bidsOf
    rw [List.map_flatMap]
    exact List.flatMap_congr fun rule hrule => Rule.bids_retargeted h (hno rule hrule)
  rw [queue_eq, queue_eq, hbids, List.zipIdx_map, List.map_map, List.map_map]
  refine List.map_congr_left fun x hx => ?_
  obtain ⟨hrule, hmem⟩ := mem_bidsOf.mp (List.fst_mem_of_mem_zipIdx hx)
  have hnone := hno _ hrule _ (Rule.mem_bids.mp hmem).2.1
  simp [Bid.candidate, Bid.recomputed, Candidate.recomputed, Action.after_eq_self hnone]

end

/-! ## 3. Writing what is written already -/

/-- The entry of a setting that is committed again, to a link whose target it is. -/
def Committed.again (k : Committed α) : Committed α := { k with changed := !(k.value == k.value) }

omit [Scalar α] in
theorem State.withTarget_eq_self {s : State α} {i : Nat} {l : Link α} (h : s.links[i]? = some l) :
    s.withTarget i l.targetSetting = s := by
  have hlinks : (s.withTarget i l.targetSetting).links = s.links := by
    apply List.ext_getElem?
    intro j
    by_cases hij : i = j
    · subst hij
      rw [s.links_withTarget_self l.targetSetting h, h]
    · exact s.links_withTarget_of_ne l.targetSetting hij
  show ({ s with links := (s.withTarget i l.targetSetting).links } : State α) = s
  rw [hlinks]

namespace Candidate

theorem map_again_of_writeAll {cs : List (Candidate α)} {s s' : State α}
    {committed : List (Committed α)} (h : writeAll s cs = (s', .ok committed)) :
    committed.map Committed.again = cs.map fun c => c.committed c.value := by
  induction cs generalizing s committed with
  | nil =>
    cases h
    rfl
  | cons c rest ih =>
    rw [writeAll] at h
    cases hc : c.write s with
    | error e =>
      rw [hc] at h
      cases h
    | ok p =>
      obtain ⟨s₁, first⟩ := p
      simp only [hc, Prod.mk.injEq] at h
      obtain ⟨hs, hout⟩ := h
      obtain ⟨others, hothers, rfl⟩ := map_eq_ok.mp hout
      obtain ⟨-, -, previous, rfl⟩ := write_eq_ok hc
      rw [List.map_cons, List.map_cons, ih (Prod.ext hs hothers)]
      rfl

theorem writeAll_of_targets {s : State α} {cs : List (Candidate α)}
    (hw : ∀ c ∈ cs, c.action.IsWritable s)
    (htarget : ∀ c ∈ cs, ∀ l, s.links[c.link]? = some l → l.targetSetting = c.value) :
    writeAll s cs = (s, .ok (cs.map fun c => c.committed c.value)) := by
  induction cs with
  | nil => rfl
  | cons c rest ih =>
    obtain ⟨l, hl, hwrite⟩ := write_eq (hw c List.mem_cons_self)
    have hvalue : l.targetSetting = c.value := htarget c List.mem_cons_self l hl
    rw [← hvalue, State.withTarget_eq_self hl, hvalue] at hwrite
    rw [writeAll, hwrite]
    simp only [ih (fun d hd => hw d (List.mem_cons_of_mem c hd))
      fun d hd => htarget d (List.mem_cons_of_mem c hd)]
    rfl

/-- What was written can be written again, and changes nothing then. -/
theorem Written.repeated {s s' : State α} {cs : List (Candidate α)}
    {committed : List (Committed α)} (h : Written s cs s' committed)
    (hw : ∀ c ∈ cs, c.action.IsWritable s) :
    writeAll s' cs = (s', .ok (cs.map fun c => c.committed c.value)) := by
  apply writeAll_of_targets
  · intro c hc
    obtain ⟨hattr, hlink⟩ := hw c hc
    rw [← h.length] at hlink
    exact ⟨hattr, hlink⟩
  · intro c hc l hl
    have hnew := h.written c hc _ (List.getElem?_eq_getElem (hw c hc).2)
    rw [hl] at hnew
    rw [Option.some.inj hnew]

end Candidate

/-! ## 4. The repeated step -/

/-- What a step and its repetition leave behind. -/
structure Repeats (committed : List (Committed α)) (result result' : StepResult α) : Prop where
  first : result.outcome = .ok committed
  second : result'.outcome = .ok (committed.map Committed.again)
  network : result'.network = result.network
  rules : result'.engine.rules = result.engine.rules
  fired : result'.engine.report.fired = result.engine.report.fired

namespace Engine

variable {e : Engine α} {n : Network α} {r : Reading α} {step : α} {s : State α}
  {committed : List (Committed α)}

/-- A winner computes its setting again, also where the setting is the target. -/
theorem winnersOf_retargeted (hno : ∀ rule ∈ e.rules, rule.IsUncontrolled n r)
    (hw : ∀ b ∈ bidsOf n r (minutes step) e.rules, b.action.IsWritable n.state)
    (hwritten : Candidate.Written n.state (e.winnersOf n r step) s committed)
    {allowed : Nat → α → Prop} (h : n.state.Retargeted allowed s) :
    e.winnersOf { n with state := s } r step = e.winnersOf n r step := by
  have hmap : e.winnersOf { n with state := s } r step = (e.winnersOf n r step).map
      (Candidate.recomputed { n with state := s } r (minutes step)) := by
    unfold winnersOf
    rw [queue_retargeted h hno]
    apply Candidate.winners_map
    · intro c
      exact ⟨rfl, rfl⟩
    · intro c d
      rfl
  rw [hmap]
  refine (List.map_congr_left fun c hc => ?_).trans (List.map_id _)
  obtain ⟨i, b, hb, rfl⟩ := mem_queue_iff.mp (Candidate.mem_of_mem_winners hc)
  obtain ⟨hrule, hmem⟩ := mem_bidsOf.mp (List.mem_of_getElem? hb)
  obtain ⟨-, hselected, hvalue⟩ := Rule.mem_bids.mp hmem
  have hnone := hno b.rule hrule b.action hselected
  have hagain : b.action.value? { n with state := s } r (minutes step) = some b.value := by
    rcases Action.value?_retargeted h hnone r (minutes step) with heq | ⟨hbefore, hafter⟩
    · exact heq.trans hvalue
    · -- the target that is read is the setting that was written
      obtain ⟨l, hl⟩ : ∃ l, n.state.links[b.action.link]? = some l :=
        ⟨_, List.getElem?_eq_getElem (hw b (List.mem_of_getElem? hb)).2⟩
      have hlink : (b.candidate n r (minutes step) i).link = b.action.link := link_candidate b i
      have hnew := hwritten.written _ hc l (by rw [hlink]; exact hl)
      rw [hlink] at hnew
      rw [hafter, State.target_eq_ok hnew]
      rfl
  simp [Candidate.recomputed, Bid.candidate, Action.after_eq_self hnone, hagain]

theorem evaluate_repeats (step : α) (hr : e.clock.reading = .ok r)
    (hw : ∀ b ∈ bidsOf n r (minutes step) e.rules, b.action.IsWritable n.state)
    (hno : ∀ rule ∈ e.rules, rule.IsUncontrolled n r) :
    ∃ committed, Repeats committed (e.evaluate n step)
      ((e.evaluate n step).engine.evaluate (e.evaluate n step).network step) := by
  obtain ⟨s, committed, hall, hwritten⟩ := writeAll_winnersOf hw
  obtain ⟨stamp, heq⟩ := evaluate_eq hr hall
  have h : n.state.Retargeted (fun _ _ => True) s := by
    have hwrites := (Candidate.writeAll_retargeted (e.winnersOf n r step) n.state).mono
      fun _ _ _ => trivial
    rwa [hall] at hwrites
  have hafter : (e.afterStep n r step committed).rules = e.rules := map_after_eq_self hno
  have hwinners : (e.afterStep n r step committed).winnersOf { n with state := s } r step =
      e.winnersOf n r step := by
    rw [← winnersOf_retargeted hno hw hwritten h, winnersOf, winnersOf, hafter]
  have hall' : Candidate.writeAll s
      ((e.afterStep n r step committed).winnersOf { n with state := s } r step) =
        (s, .ok (committed.map Committed.again)) := by
    rw [hwinners, Candidate.map_again_of_writeAll hall]
    exact hwritten.repeated (isWritable_of_mem_winnersOf hw)
  have hr' : (e.afterStep n r step committed).clock.reading = .ok r := hr
  obtain ⟨stamp', heq'⟩ :
      ∃ stamp', (e.afterStep n r step committed).evaluate { n with state := s } step = _ :=
    evaluate_eq hr' hall'
  rw [heq, heq']
  refine ⟨committed, rfl, rfl, rfl, ?_, ?_⟩
  · show (e.afterStep n r step committed).rules.map
      (Rule.after { n with state := s } r (minutes step)) = (e.afterStep n r step committed).rules
    rw [hafter, map_after_eq_self fun rule hrule => (hno rule hrule).retargeted h]
  · show ((e.afterStep n r step committed).rules.filter (Rule.fires { n with state := s } r)).map
      Rule.id = (e.rules.filter (Rule.fires n r)).map Rule.id
    rw [hafter, funext (Rule.fires_retargeted h)]

end Engine

/-- **A control step without controllers changes nothing when it is repeated.** The rules have
been built and the state is any that a run can reach. -/
theorem step_repeats [TimeReader α] [OrderedScalar α] {data : Json} {origin : Origin α}
    {n : Network α} {e : Engine α} (hload : Dataset.load data origin = .ok n) (hbuilt : e.IsBuilt n)
    {s : System α} {moves : List (Move α)} (hs : s = System.run ⟨e, n⟩ moves) {r : Reading α}
    (hr : s.engine.clock.reading = .ok r)
    (hno : ∀ rule ∈ s.engine.rules, rule.IsUncontrolled s.network r) (step : α) :
    ∃ committed, Repeats committed (s.engine.evaluate s.network step)
        ((s.engine.evaluate s.network step).engine.evaluate
          (s.engine.evaluate s.network step).network step) ∧
      ∀ k ∈ committed.map Committed.again, Scalar.isNaN k.value = false → k.changed = false := by
  subst hs
  have hfit : (System.run ⟨e, n⟩ moves).FitTogether :=
    System.FitTogether.run (hbuilt.fitTogether (Dataset.indexed_of_load hload)) moves
  obtain ⟨committed, hrepeats⟩ := Engine.evaluate_repeats step hr hfit.isWritable hno
  refine ⟨committed, hrepeats, ?_⟩
  intro k hk hnumber
  obtain ⟨k, -, rfl⟩ := List.mem_map.mp hk
  have hself : (k.value == k.value) = true :=
    (OrderedScalar.beq_iff_rank hnumber hnumber).mpr rfl
  simp [Committed.again, hself]

/-- A node, a pump that is open, and two weirs that are half open. -/
def heldData : Json :=
  .object [("nodes", .object [("id", .array [.text "N1"])]),
    ("links", .object [("id", .array [.text "P1", .text "W1", .text "W2"]),
      ("type", .array [.text "PUMP", .text "WEIR", .text "WEIR"]),
      ("setting", .array [.int 1, .real ⟨false, 5, -1⟩, .real ⟨false, 5, -1⟩])]),
    ("curves", .object [("RISE", .array [.array [.int 0, .int 0], .array [.int 4, .int 1]])])]

/-- A rule that keeps both weirs where they are, since an open pump has not been closed for any
time. It loses the first weir to the second rule and has the second one from the third rule. -/
def heldText : List String :=
  ["RULE HOLD", "IF NODE N1 DEPTH > 0", "OR PUMP P1 TIMECLOSED > 1",
    "THEN WEIR W1 SETTING = CURVE RISE", "AND WEIR W2 SETTING = CURVE RISE", "PRIORITY 2",
    "RULE SET", "IF NODE N1 DEPTH > 0", "THEN WEIR W1 SETTING = 0.25", "PRIORITY 3",
    "RULE LATE", "IF NODE N1 DEPTH > 0", "THEN WEIR W2 SETTING = 0.75", "PRIORITY 1"]

open scoped Readers in
theorem step_repeats_held : ∃ (n : Network Rat) (e : Engine Rat) (s : System Rat)
    (committed : List (Committed Rat)), Dataset.load heldData .epoch = .ok n ∧ e.IsBuilt n ∧
    s = System.run ⟨e, n⟩ [.writeNode 0 .depth 1] ∧
    (s.engine.evaluate s.network 60).network.state.targets = [1, 1 / 4, 1 / 2] ∧
    Repeats committed (s.engine.evaluate s.network 60)
      ((s.engine.evaluate s.network 60).engine.evaluate
        (s.engine.evaluate s.network 60).network 60) ∧
    ∀ k ∈ committed.map Committed.again, Scalar.isNaN k.value = false → k.changed = false := by
  let clock : Clock Rat := Clock.start (Timeline.anchored 0)
  have hdata : (match Dataset.load heldData (.epoch : Origin Rat) with
      | .ok n =>
        let e := ((Engine.ofClock clock).buildRules n true heldText).1
        let s := System.run ⟨e, n⟩ [.writeNode 0 .depth 1]
        match s.engine.clock.reading with
        | .ok r =>
          decide ((∀ rule ∈ s.engine.rules, ∀ a ∈ rule.selected s.network r,
              a.controller? = none) ∧
            (s.engine.evaluate s.network 60).network.state.targets = [1, 1 / 4, 1 / 2])
        | .error _ => false
      | .error _ => false) = true := by decide +kernel
  split at hdata
  · rename_i n hload
    have hbuilt : ((Engine.ofClock clock).buildRules n true heldText).1.IsBuilt n :=
      .buildRules (.ofClock clock) true heldText
    generalize ((Engine.ofClock clock).buildRules n true heldText).1 = e at hdata hbuilt
    dsimp only at hdata
    generalize hs : System.run ⟨e, n⟩ [.writeNode 0 .depth 1] = s at hdata
    split at hdata
    · rename_i r hr
      obtain ⟨hno, htargets⟩ := of_decide_eq_true hdata
      obtain ⟨committed, hrepeats⟩ := step_repeats hload hbuilt hs.symm hr hno 60
      exact ⟨n, e, s, committed, hload, hbuilt, hs.symm, htargets, hrepeats⟩
    · cases hdata
  · cases hdata

/-! ## 5. Settings that are no numbers -/

/-- The numbers of a network: the columns of its nodes and links, and the points of its tables. -/
def Network.numbers (n : Network α) : List α :=
  (n.state.nodes.flatMap fun x => NodeColumn.all.map fun c => c.get x) ++
    (n.state.links.flatMap fun l => LinkColumn.all.map fun c => c.get l) ++
    (n.curves ++ n.series).flatMap fun t => t.xs ++ t.ys

/-- An orifice and a curve of two points that are so far apart that their differences overflow. -/
def wideData : Json :=
  .object [("nodes", .object [("id", .array [.text "N1"])]),
    ("links", .object [("id", .array [.text "O1"]), ("type", .array [.text "ORIFICE"]),
      ("setting", .array [.real ⟨false, 5, -1⟩])]),
    ("curves", .object [("WIDE", .array [.array [.real ⟨true, 17, 307⟩, .real ⟨true, 17, 307⟩],
      .array [.real ⟨false, 17, 307⟩, .real ⟨false, 17, 307⟩]])])]

def wideText : List String :=
  ["RULE R1", "IF NODE N1 DEPTH < 1", "THEN ORIFICE O1 SETTING = CURVE WIDE"]

def wideClock : Clock Float := Clock.start (Timeline.anchored 0)

open scoped Readers in
/-- Whether the data and the clock are in order, and a second step reports a change. -/
def reportsChange : Bool :=
  match Dataset.load wideData (.epoch : Origin Float), wideClock.reading with
  | .ok n, .ok r =>
    let e := ((Engine.ofClock wideClock).buildRules n true wideText).1
    decide (∀ x ∈ n.numbers, x.isFinite = true) &&
      decide (∀ rule ∈ e.rules, ∀ a ∈ rule.selected n r, a.controller? = none) &&
      (match ((e.evaluate n 60).engine.evaluate (e.evaluate n 60).network 60).outcome with
        | .ok [k] => k.changed
        | _ => false)
  | _, _ => false

open scoped Readers in
/-- The repeated step says that it has changed the orifice, whose setting is no number. All
numbers that it is computed from are finite. -/
theorem overflow_repeats_changed : ∃ (n : Network Float) (e : Engine Float) (r : Reading Float)
    (k : Committed Float), Dataset.load wideData .epoch = .ok n ∧ e.IsBuilt n ∧
    (∀ x ∈ n.numbers, x.isFinite = true) ∧ e.clock.reading = .ok r ∧
    (∀ rule ∈ e.rules, rule.IsUncontrolled n r) ∧
    ((e.evaluate n 60).engine.evaluate (e.evaluate n 60).network 60).outcome = .ok [k] ∧
    k.changed = true := by
  have hdata : reportsChange = true := by decide +kernel
  unfold reportsChange at hdata
  split at hdata
  · rename_i n r hload hr
    have hbuilt : ((Engine.ofClock wideClock).buildRules n true wideText).1.IsBuilt n :=
      .buildRules (.ofClock wideClock) true wideText
    simp only [Bool.and_eq_true, decide_eq_true_eq] at hdata
    obtain ⟨⟨hfinite, hno⟩, hchanged⟩ := hdata
    split at hchanged
    · rename_i k hout
      exact ⟨n, _, r, k, hload, hbuilt, hfinite, hr, hno, hout, hchanged⟩
    · cases hchanged
  · cases hdata

end Sluice
