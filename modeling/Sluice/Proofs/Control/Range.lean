import Sluice.Calendar.Readers
import Sluice.Proofs.Control.Built
import Sluice.Proofs.Control.Footprint
import Sluice.Proofs.Network.Interpolation
import Sluice.Proofs.Network.Naming

/-!
# The range of settings

A pump can be driven at any speed, but the other links are open by a fraction, and a conduit is
open or closed. Five unrelated places see to it: the reader of clauses refuses numbers outside the
range of the link type and anything but a status for a conduit, status words are one or zero,
controllers are clipped, tables stay between their values, and a modulated setting without a value
keeps the target that is there. Together they are enough:

> **whatever rules are built and whatever happens, the settings and targets of all links but
> pumps are fractions, and what is committed is what the type of its link allows**
> (`settings_stay_in_range`),

as long as this is true of the dataset and nobody else writes settings. The reader looks up the
type of the link that an action names, so the type is part of what makes an action suitable.
-/

set_option autoImplicit false

namespace Sluice

/-! ## 1. What types allow -/

/-- A number between zero and one. -/
def IsFraction (x : Rat) : Prop := 0 ≤ x ∧ x ≤ 1

instance (x : Rat) : Decidable (IsFraction x) := inferInstanceAs (Decidable (0 ≤ x ∧ x ≤ 1))

/-- The settings that a link of some type can be given. -/
def LinkType.Allows : LinkType → Rat → Prop
  | .pump, _ => True
  | .conduit, x => x = 0 ∨ x = 1
  | .orifice, x | .weir, x | .outlet, x => IsFraction x

/-- A fixed setting is one that the type allows, and no conduit is modulated. -/
def Mode.Suits (type : LinkType) : Mode Rat → Prop
  | .fixed x => type.Allows x
  | .curve _ _ | .timeSeries _ | .pid _ => type ≠ .conduit
  | .unsupported => True

theorem LinkType.Allows.isFraction {type : LinkType} {x : Rat} (h : type.Allows x)
    (hpump : type ≠ .pump) : IsFraction x := by
  cases type with
  | pump => exact absurd rfl hpump
  | conduit =>
    obtain rfl | rfl : x = 0 ∨ x = 1 := h
    · decide
    · decide
  | orifice => exact h
  | weir => exact h
  | outlet => exact h

theorem LinkType.allows_of_isFraction {type : LinkType} {x : Rat} (hconduit : type ≠ .conduit)
    (h : type ≠ .pump → IsFraction x) : type.Allows x := by
  cases type with
  | pump => exact True.intro
  | conduit => exact absurd rfl hconduit
  | orifice => exact h nofun
  | weir => exact h nofun
  | outlet => exact h nofun

theorem LinkType.allows_statusValue {type : LinkType} (htype : type.hasStatus = true)
    (isOpen : Bool) : type.Allows (Clause.statusValue isOpen) := by
  cases type with
  | conduit =>
    cases isOpen with
    | true => exact Or.inr Scalar.one_rat
    | false => exact Or.inl Scalar.zero_rat
  | pump => exact True.intro
  | _ => cases htype

theorem LinkType.allows_of_inRange {type : LinkType} (htype : type ≠ .conduit) {x : Rat}
    (h : Clause.inRange type x = true) : type.Allows x := by
  refine allows_of_isFraction htype fun hpump => ?_
  simpa [Clause.inRange, hpump, IsFraction] using h

/-- An action that was read is on a link, and suits its type. -/
theorem Action.IsRead.suits {n : Network Rat} {a : Action Rat} (h : a.IsRead n) :
    ∃ l, n.state.links[a.link]? = some l ∧ a.mode.Suits l.type := by
  obtain ⟨link, linkId, attr, mode⟩ := a
  obtain ⟨last, tokens, h⟩ := h
  obtain ⟨l, hl, -, hyields⟩ := Clause.action_eq_ok h
  refine ⟨l, hl, ?_⟩
  cases hyields with
  | status isOpen htype => exact LinkType.allows_statusValue htype isOpen
  | number htype hrange => exact LinkType.allows_of_inRange htype hrange
  | curve htype hi hp => exact htype
  | timeSeries htype hi => exact htype
  | pid kp ki kd htype hp => exact htype

/-! ## 2. Computing -/

theorem isFraction_clip {type : LinkType} (hpump : type ≠ .pump) (x : Rat) :
    IsFraction (Controller.clip type x) := by
  unfold Controller.clip
  rw [if_neg hpump, Scalar.atMost_rat, Scalar.atLeast_rat, Scalar.zero_rat, Scalar.one_rat]
  exact ⟨le_min (le_max_right x 0) zero_le_one, min_le_right _ 1⟩

/-- The tables of a network are in order, and their values are fractions. -/
def Network.HasFractions (n : Network Rat) : Prop :=
  ∀ t ∈ n.curves ++ n.series, Table.IsIncreasing t.points ∧ ∀ p ∈ t.points, IsFraction p.y

theorem isFraction_lookupAt {tables : List (Table Rat)} {i : Nat} {x y : Rat}
    (htables : ∀ t ∈ tables, Table.IsIncreasing t.points ∧ ∀ p ∈ t.points, IsFraction p.y)
    (h : lookupAt tables i x = .ok y) : IsFraction y := by
  unfold lookupAt at h
  split at h
  · rename_i t ht
    cases h
    obtain ⟨hinc, hpoints⟩ := htables t (List.mem_of_getElem? ht)
    exact Table.lookup_mem_bounds hinc (by decide) hpoints x
  · cases h

section

variable {n : Network Rat} {r : Reading Rat} {l : Link Rat}

theorem isFraction_curveSetting {link i : Nat} {v : Variable} {x : Rat}
    (h : curveSetting n r link i v = .ok x) (hl : n.state.links[link]? = some l)
    (htarget : IsFraction l.targetSetting) (htables : n.HasFractions) : IsFraction x := by
  unfold curveSetting at h
  obtain ⟨value, -, h⟩ := bind_eq_ok.mp h
  cases value with
  | some value =>
    exact isFraction_lookupAt (fun t ht => htables t (List.mem_append_left _ ht)) h
  | none =>
    -- without a value the target stays
    have htarget' := mapError_eq_ok.mp h
    rw [State.target_eq_ok hl] at htarget'
    cases htarget'
    exact htarget

theorem isFraction_controller {link : Nat} {dt x : Rat} {c c' : Controller Rat}
    (h : c.compute n.state r dt link = .ok (x, c')) (hl : n.state.links[link]? = some l)
    (hpump : l.type ≠ .pump) (htarget : IsFraction l.targetSetting) : IsFraction x := by
  unfold Controller.compute at h
  rw [State.target_eq_ok hl, State.linkType_eq_ok hl] at h
  obtain ⟨current, hcurrent, h⟩ := bind_eq_ok.mp h
  obtain ⟨controlled, -, h⟩ := bind_eq_ok.mp h
  obtain ⟨setpoint, -, h⟩ := bind_eq_ok.mp h
  split at h
  · obtain ⟨type, htype, h⟩ := bind_eq_ok.mp h
    cases h
    cases htype
    exact isFraction_clip hpump _
  · cases h
    cases hcurrent
    exact htarget

/-- What an action computes that suits its link is what the link can be given. -/
theorem Action.compute_allowed {dt x : Rat} {a a' : Action Rat}
    (h : a.compute n r dt = .ok (x, a')) (hl : n.state.links[a.link]? = some l)
    (hsuits : a.mode.Suits l.type) (htarget : l.type ≠ .pump → IsFraction l.targetSetting)
    (htables : n.HasFractions) : l.type.Allows x := by
  obtain ⟨link, linkId, attr, mode⟩ := a
  cases mode with
  | fixed y =>
    cases h
    exact hsuits
  | curve i v =>
    obtain ⟨y, hy, heq⟩ := map_eq_ok.mp h
    cases heq
    exact LinkType.allows_of_isFraction hsuits fun hpump =>
      isFraction_curveSetting hy hl (htarget hpump) htables
  | timeSeries i =>
    obtain ⟨y, hy, heq⟩ := map_eq_ok.mp h
    cases heq
    exact LinkType.allows_of_isFraction hsuits fun _ =>
      isFraction_lookupAt (fun t ht => htables t (List.mem_append_right _ ht)) hy
  | pid c =>
    obtain ⟨⟨y, c'⟩, hy, heq⟩ := map_eq_ok.mp h
    cases heq
    exact LinkType.allows_of_isFraction hsuits fun hpump =>
      isFraction_controller hy hl hpump (htarget hpump)
  | unsupported => cases h

theorem Action.suits_after {a : Action Rat} {type : LinkType} (h : a.mode.Suits type) (dt : Rat) :
    (a.after n r dt).mode.Suits type := by
  unfold after
  split
  · rename_i x a' ha
    rcases compute_eq_ok ha with rfl | ⟨c, e1, e2, hmode, rfl⟩
    · exact h
    · rw [hmode] at h
      exact h
  · exact h

end

/-! ## 3. Runs -/

/-- Nobody but the rules writes targets, and nobody writes settings but by taking these over. -/
def Move.LeavesSettings : Move Rat → Prop
  | .writeLink _ c _ => c ≠ .setting ∧ c ≠ .targetSetting
  | _ => True

namespace System

/-- What is true of a system at any time. -/
structure InRange (s : System Rat) : Prop where
  links : ∀ i l, s.link? i = some l → l.type ≠ .pump →
    IsFraction l.setting ∧ IsFraction l.targetSetting
  tables : s.network.HasFractions
  actions : ∀ rule ∈ s.engine.rules, ∀ a ∈ rule.actions, ∃ l, s.link? a.link = some l ∧
    a.mode.Suits l.type

variable {s : System Rat}

/-- A bid is on a link, and for a value that the link can be given. -/
theorem InRange.bid_allowed (h : s.InRange) {r : Reading Rat} {dt : Rat} {b : Bid Rat}
    (hb : b ∈ bidsOf s.network r dt s.engine.rules) :
    ∃ l, s.link? b.action.link = some l ∧ l.type.Allows b.value := by
  obtain ⟨hrule, hmem⟩ := mem_bidsOf.mp hb
  obtain ⟨-, hselected, hvalue⟩ := Rule.mem_bids.mp hmem
  obtain ⟨l, hl, hsuits⟩ := h.actions b.rule hrule b.action (Rule.selected_subset hselected)
  refine ⟨l, hl, ?_⟩
  unfold Action.value? at hvalue
  split at hvalue
  · rename_i x a' hcompute
    cases hvalue
    exact Action.compute_allowed hcompute hl hsuits (fun hpump => (h.links _ l hl hpump).2)
      h.tables
  · cases hvalue

theorem InRange.links_perform (h : s.InRange) {move : Move Rat} (hmove : move.LeavesSettings)
    {i : Nat} {l' : Link Rat} (hl' : (s.perform move).link? i = some l')
    (hpump : l'.type ≠ .pump) : IsFraction l'.setting ∧ IsFraction l'.targetSetting := by
  obtain ⟨l, hl, heffect⟩ := link?_before hl'
  rw [heffect.type_eq] at hpump
  obtain ⟨hsetting, htarget⟩ := h.links i l hl hpump
  cases heffect with
  | evaluate step x =>
    refine ⟨hsetting, ?_⟩
    cases hr : s.engine.clock.reading with
    | error cause =>
      rw [perform_unread hr, hl] at hl'
      rw [← Option.some.inj hl']
      exact htarget
    | ok r =>
      obtain ⟨l₁, y, hl₁, heq, hy⟩ :=
        (Engine.evaluate_touches hr s.network step).state.link_before hl'
      obtain rfl : l₁ = l := Option.some.inj (hl₁.symm.trans hl)
      obtain rfl : x = y := congrArg Link.targetSetting heq
      -- the target is the one that was there, or the value of a bid
      rcases hy with rfl | ⟨b, hb, rfl, rfl⟩
      · exact htarget
      · obtain ⟨l₂, hl₂, hallowed⟩ := h.bid_allowed hb
        obtain rfl : l₂ = l₁ := Option.some.inj (hl₂.symm.trans hl)
        exact hallowed.isFraction hpump
  | applyTargets elapsed => exact ⟨htarget, htarget⟩
  | writeLink c value =>
    cases c with
    | setting => exact absurd rfl hmove.1
    | targetSetting => exact absurd rfl hmove.2
    | _ => exact ⟨hsetting, htarget⟩
  | _ => exact ⟨hsetting, htarget⟩

theorem InRange.perform (h : s.InRange) {move : Move Rat} (hmove : move.LeavesSettings) :
    (s.perform move).InRange := by
  have hactions : ∀ a : Action Rat, (∃ l, s.link? a.link = some l ∧ a.mode.Suits l.type) →
      ∃ l, (s.perform move).link? a.link = some l ∧ a.mode.Suits l.type := by
    rintro a ⟨l, hl, hsuits⟩
    obtain ⟨l', hl', heffect⟩ := link?_perform hl move
    rw [← heffect.type_eq] at hsuits
    exact ⟨l', hl', hsuits⟩
  refine ⟨fun i l' hl' hpump => h.links_perform hmove hl' hpump, ?_, ?_⟩
  · have htables := h.tables
    unfold Network.HasFractions at htables ⊢
    rw [(tables_perform s move).1, (tables_perform s move).2]
    exact htables
  · intro rule' hrule' a' ha'
    rcases s.rules_perform move with ⟨step, r, -, -, hrules⟩ | ⟨-, hrules⟩
    · rw [hrules] at hrule'
      obtain ⟨rule, hrule, rfl⟩ := List.mem_map.mp hrule'
      obtain ⟨a, ha, rfl | rfl⟩ := Rule.mem_actions_after ha'
      · exact hactions _ (h.actions rule hrule _ ha)
      · obtain ⟨l, hl, hsuits⟩ := h.actions rule hrule a ha
        refine hactions _ ⟨l, ?_, Action.suits_after hsuits _⟩
        rw [(a.after_eq s.network r _).1]
        exact hl
    · rw [hrules] at hrule'
      exact hactions a' (h.actions rule' hrule' a' ha')

theorem InRange.run (h : s.InRange) {moves : List (Move Rat)}
    (hmoves : ∀ move ∈ moves, move.LeavesSettings) : (s.run moves).InRange := by
  induction moves generalizing s with
  | nil => exact h
  | cons move rest ih =>
    have hrest : ∀ move ∈ rest, move.LeavesSettings := fun move' hmove' =>
      hmoves move' (List.mem_cons_of_mem move hmove')
    exact ih (h.perform (hmoves move List.mem_cons_self)) hrest

theorem InRange.committed_allowed (h : s.InRange) {step : Rat} {committed : List (Committed Rat)}
    (hout : (s.engine.evaluate s.network step).outcome = .ok committed) :
    ∀ k ∈ committed, ∃ l, s.link? k.link = some l ∧ l.type.Allows k.value := by
  intro k hk
  cases hr : s.engine.clock.reading with
  | error cause =>
    rw [Engine.evaluate_unread hr] at hout
    cases hout
  | ok r =>
    obtain ⟨b, hb, hlink, hvalue⟩ :=
      (Engine.evaluate_touches hr s.network step).committed committed hout k hk
    rw [hlink, hvalue]
    exact h.bid_allowed hb

end System

/-! ## 4. Datasets -/

/-- **Settings stay in range.** -/
theorem settings_stay_in_range [TimeReader ℚ] {data : Json} {origin : Origin Rat} {n : Network Rat}
    {e : Engine Rat} (hload : Dataset.load data origin = .ok n)
    (hsettings : ∀ l ∈ n.state.links, l.type ≠ .pump → IsFraction l.setting)
    (htables : ∀ t ∈ n.curves ++ n.series, ∀ y ∈ t.ys, IsFraction y) (hbuilt : e.IsBuilt n)
    {moves : List (Move Rat)} (hmoves : ∀ move ∈ moves, move.LeavesSettings) :
    (∀ l ∈ (System.run ⟨e, n⟩ moves).network.state.links, l.type ≠ .pump →
      IsFraction l.setting ∧ IsFraction l.targetSetting) ∧
    ∀ step committed, ((System.run ⟨e, n⟩ moves).engine.evaluate
        (System.run ⟨e, n⟩ moves).network step).outcome = .ok committed →
      ∀ k ∈ committed, ∃ l, (System.run ⟨e, n⟩ moves).link? k.link = some l ∧
        l.type.Allows k.value := by
  have hstart : System.InRange ⟨e, n⟩ := by
    refine ⟨?_, ?_, ?_⟩
    · intro i l hl hpump
      have hmem : l ∈ n.state.links := List.mem_of_getElem? hl
      rw [Dataset.targetSetting_of_load hload l hmem]
      exact ⟨hsettings l hmem hpump, hsettings l hmem hpump⟩
    · intro t ht
      refine ⟨Dataset.isIncreasing_of_load hload t ht, ?_⟩
      intro p hp
      exact htables t ht p.y (List.mem_map_of_mem hp)
    · intro rule hrule a ha
      exact (hbuilt.isRead rule hrule a ha).suits
  have hrun := hstart.run hmoves
  constructor
  · intro l hl hpump
    obtain ⟨i, hi⟩ := List.getElem?_of_mem hl
    exact hrun.links i l hi hpump
  · intro step committed hout
    exact hrun.committed_allowed hout

/-- A node, a conduit that is open, a weir that is half open, and a curve. -/
def weirData : Json :=
  .object [("nodes", .object [("id", .array [.text "N1"])]),
    ("links", .object [("id", .array [.text "C1", .text "W1"]),
      ("type", .array [.text "CONDUIT", .text "WEIR"]),
      ("setting", .array [.int 1, .real ⟨false, 5, -1⟩])]),
    ("curves", .object [("RISE", .array [.array [.int 0, .int 0], .array [.int 4, .int 1]])])]

/-- Rules that close the conduit and open the weir as the node fills, and drive the weir by a
controller when it is empty. -/
def weirText : List String :=
  ["RULE FILLS", "IF NODE N1 DEPTH > 0", "THEN WEIR W1 SETTING = CURVE RISE",
    "AND CONDUIT C1 STATUS = CLOSED", "ELSE WEIR W1 SETTING = PID 10 0 0"]

def filling : List (Move Rat) :=
  [.evaluate 60, .applyTargets 60, .writeNode 0 .depth 3, .writeLink 0 .flow 2, .setClock 60,
    .evaluate 60]

open scoped Readers in
theorem settings_stay_in_range_filling : ∃ (n : Network Rat) (e : Engine Rat),
    Dataset.load weirData .epoch = .ok n ∧ e.IsBuilt n ∧
    (System.run ⟨e, n⟩ filling).network.state.targets = [0, 3 / 4] ∧
    (∀ l ∈ (System.run ⟨e, n⟩ filling).network.state.links, l.type ≠ .pump →
      IsFraction l.setting ∧ IsFraction l.targetSetting) ∧
    ∀ step committed, ((System.run ⟨e, n⟩ filling).engine.evaluate
        (System.run ⟨e, n⟩ filling).network step).outcome = .ok committed →
      ∀ k ∈ committed, ∃ l, (System.run ⟨e, n⟩ filling).link? k.link = some l ∧
        l.type.Allows k.value := by
  let clock : Clock Rat := Clock.start (Timeline.anchored 0)
  have hdata : (match Dataset.load weirData (.epoch : Origin Rat) with
      | .ok n =>
        let e := ((Engine.ofClock clock).buildRules n true weirText).1
        decide ((∀ l ∈ n.state.links, l.type ≠ .pump → IsFraction l.setting) ∧
          (∀ t ∈ n.curves ++ n.series, ∀ y ∈ t.ys, IsFraction y) ∧
          (System.run ⟨e, n⟩ filling).network.state.targets = [0, 3 / 4])
      | .error _ => false) = true := by decide +kernel
  split at hdata
  · rename_i n hload
    have hbuilt : ((Engine.ofClock clock).buildRules n true weirText).1.IsBuilt n :=
      .buildRules (.ofClock clock) true weirText
    have hmoves : ∀ move ∈ filling, move.LeavesSettings := by
      simp [filling, Move.LeavesSettings]
    obtain ⟨hsettings, htables, htargets⟩ := of_decide_eq_true hdata
    exact ⟨n, _, hload, hbuilt, htargets,
      settings_stay_in_range hload hsettings htables hbuilt hmoves⟩
  · cases hdata

end Sluice
