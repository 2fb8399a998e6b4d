import Sluice.Proofs.Network.Indexing
import Sluice.Proofs.Rule.Line
import Sluice.Proofs.Rule.Reading
import Sluice.Rule.Text

/-!
# Rules that fit a network

A rule *fits* a network when everything it names is there: the object of each variable, which
must also have the attribute, the link of each action, and its table if it has one. Fitting is a
matter of how many objects of each kind there are and of nothing else, so it is stated over the
counts of a network and stays true while values change.

**Every rule that is built over an indexed network fits it** (`fits_of_addText`). The reader of
clauses looks up each id as it comes to it, and what it accepts fits; the builder only puts
together what the reader accepted. For the builder the statement is an invariant: it has to say
of the rule that is still open what it says of the finished ones.
-/

set_option autoImplicit false

namespace Sluice

variable {α : Type}

/-! ## 1. What fits -/

/-- The object of a variable is there and has the attribute. -/
structure Variable.Fits (count : ObjectKind → Nat) (v : Variable) : Prop where
  attr : v.object.hasAttribute v.attr = true
  position : ∀ kind, Clause.idKind? v.object = some kind →
    ∃ i, v.position = some i ∧ i < count kind

def Operand.Fits (count : ObjectKind → Nat) : Operand α → Prop
  | .number _ => True
  | .valueOf v => v.Fits count

structure Premise.Fits (count : ObjectKind → Nat) (p : Premise α) : Prop where
  left : p.left.Fits count
  right : p.right.Fits count

def Mode.Fits (count : ObjectKind → Nat) : Mode α → Prop
  | .fixed _ => True
  | .curve i v => i < count .curve ∧ v.Fits count
  | .timeSeries i => i < count .timeSeries
  | .pid c => c.controlled.Fits count ∧ c.setpoint.Fits count
  | .unsupported => False

structure Action.Fits (count : ObjectKind → Nat) (a : Action α) : Prop where
  attr : a.attr = .status ∨ a.attr = .setting
  link : a.link < count .link
  mode : a.mode.Fits count

structure Rule.Fits (count : ObjectKind → Nat) (r : Rule α) : Prop where
  premises : ∀ p ∈ r.premises, p.Fits count
  thenActions : ∀ a ∈ r.thenActions, a.Fits count
  elseActions : ∀ a ∈ r.elseActions, a.Fits count

/-! ## 2. Clauses -/

namespace Clause

variable {n : Network α}

theorem position_lt (hn : n.Indexed) {kind : ObjectKind} {id : String} {i : Nat}
    (h : position n kind id = .ok i) : i < n.count kind := by
  rw [position] at h
  split at h
  · rename_i j hj
    cases h
    exact Network.find?_lt_count hn hj
  · cases h

theorem objectPosition_lt (hn : n.Indexed) {object : ObjectType} {tokens rest : List String}
    {p : Option Nat} (h : objectPosition n object tokens = .ok (p, rest)) :
    ∀ kind, idKind? object = some kind → ∃ i, p = some i ∧ i < n.count kind := by
  intro kind hkind
  rw [objectPosition, hkind] at h
  obtain ⟨⟨id, rest'⟩, -, h⟩ := bind_eq_ok.mp h
  obtain ⟨i, hi, h⟩ := bind_eq_ok.mp h
  obtain ⟨rfl, -⟩ := Prod.mk.inj (pure_eq_ok.mp h)
  exact ⟨i, rfl, position_lt hn hi⟩

theorem variableAndRest_fits (hn : n.Indexed) {tokens rest : List String} {v : Variable}
    (h : variableAndRest n tokens = .ok (v, rest)) : v.Fits n.count := by
  rw [variableAndRest] at h
  obtain ⟨⟨word, rest'⟩, -, h⟩ := bind_eq_ok.mp h
  obtain ⟨object, -, h⟩ := bind_eq_ok.mp h
  obtain ⟨⟨p, rest''⟩, hp, h⟩ := bind_eq_ok.mp h
  obtain ⟨⟨name, rest'''⟩, -, h⟩ := bind_eq_ok.mp h
  obtain ⟨attr, -, h⟩ := bind_eq_ok.mp h
  split at h
  · rename_i hattr
    cases h
    exact ⟨hattr, objectPosition_lt hn hp⟩
  · cases h

variable [Scalar α]

theorem operand_fits [TimeReader α] (hn : n.Indexed) {left : Attribute} {tokens rest : List String}
    {o : Operand α} (h : operand n left tokens = .ok (o, rest)) : o.Fits n.count := by
  rw [operand] at h
  obtain ⟨⟨token, rest'⟩, -, h⟩ := bind_eq_ok.mp h
  dsimp only at h
  split at h
  · obtain ⟨⟨v, rest''⟩, hv, h⟩ := bind_eq_ok.mp h
    dsimp only at h
    split at h
    · cases h
      exact variableAndRest_fits hn hv
    · cases h
  · obtain ⟨x, -, h⟩ := bind_eq_ok.mp h
    cases h
    exact True.intro

theorem premise_fits [TimeReader α] (hn : n.Indexed) {joint : Joint} {tokens : List String}
    {p : Premise α} (h : premise n joint tokens = .ok p) : p.Fits n.count := by
  rw [premise] at h
  obtain ⟨⟨q, rest⟩, hq, h⟩ := bind_eq_ok.mp h
  obtain ⟨⟨⟩, -, h⟩ := bind_eq_ok.mp h
  obtain rfl := pure_eq_ok.mp h
  rw [premiseAndRest] at hq
  split at hq
  · cases hq
  · obtain ⟨⟨left, rest'⟩, hleft, hq⟩ := bind_eq_ok.mp hq
    obtain ⟨⟨sign, rest''⟩, -, hq⟩ := bind_eq_ok.mp hq
    obtain ⟨relation, -, hq⟩ := bind_eq_ok.mp hq
    obtain ⟨⟨right, rest'''⟩, hright, hq⟩ := bind_eq_ok.mp hq
    cases hq
    exact ⟨variableAndRest_fits hn hleft, operand_fits hn hright⟩

/-- An action that is read fits, if the premise does that it may refer to. -/
theorem action_fits (hn : n.Indexed) {last : Option (Premise α)}
    (hlast : ∀ p, last = some p → p.Fits n.count) {tokens : List String} {a : Action α}
    (h : action n last tokens = .ok a) : a.Fits n.count := by
  obtain ⟨link, linkId, attr, mode⟩ := a
  obtain ⟨l, -, hlink, hyields⟩ := action_eq_ok h
  have hlt : link < n.count .link := position_lt hn hlink
  cases hyields with
  | status isOpen htype => exact ⟨Or.inl rfl, hlt, True.intro⟩
  | number htype hrange => exact ⟨Or.inr rfl, hlt, True.intro⟩
  | curve htype hi hp => exact ⟨Or.inr rfl, hlt, position_lt hn hi, (hlast _ hp).left⟩
  | timeSeries htype hi => exact ⟨Or.inr rfl, hlt, position_lt hn hi⟩
  | pid kp ki kd htype hp => exact ⟨Or.inr rfl, hlt, (hlast _ hp).left, (hlast _ hp).right⟩

end Clause

/-! ## 3. The builder -/

namespace Builder

/-- The finished rules fit, and so does what there is of the open one. -/
structure Fits (count : ObjectKind → Nat) (b : Builder α) : Prop where
  rules : ∀ r ∈ b.rules, r.Fits count
  session : ∀ r, b.session.rule? = some r → r.Fits count

theorem empty_fits (count : ObjectKind → Nat) : (empty : Builder α).Fits count :=
  ⟨by simp [empty], by simp [empty, Session.idle]⟩

theorem fits_iff {count : ObjectKind → Nat} {b : Builder α} :
    b.Fits count ↔ ∀ r ∈ b.begun, r.Fits count := by
  have hdraft : (∀ r ∈ b.session.rule?.toList, r.Fits count) ↔
      ∀ r, b.session.rule? = some r → r.Fits count := by simp
  rw [begun, List.forall_mem_append, hdraft]
  exact ⟨fun h => ⟨h.rules, h.session⟩, fun h => ⟨h.1, h.2⟩⟩

theorem putAction_fits {count : ObjectKind → Nat} {r : Rule α} (hr : r.Fits count)
    {a : Action α} (ha : a.Fits count) (branch : Branch) : (putAction r a branch).Fits count := by
  cases branch with
  | holds =>
    exact ⟨hr.premises, List.forall_mem_append.mpr ⟨hr.thenActions, by simpa using ha⟩,
      hr.elseActions⟩
  | fails =>
    exact ⟨hr.premises, hr.thenActions,
      List.forall_mem_append.mpr ⟨hr.elseActions, by simpa using ha⟩⟩

/-- No clause makes a rule not fit. -/
theorem keptByClauses_fits [Scalar α] [TimeReader α] {n : Network α} (hn : n.Indexed) :
    KeptByClauses n (Rule.Fits n.count) where
  draft id position line := ⟨by simp [draft], by simp [draft], by simp [draft]⟩
  premise hr hp :=
    ⟨List.forall_mem_append.mpr ⟨hr.premises, by simpa using Clause.premise_fits hn hp⟩,
      hr.thenActions, hr.elseActions⟩
  action := by
    intro r branch tokens a hr ha
    -- a modulated setting refers to the last premise, and the rule already fits
    have hlast : ∀ p, r.premises.getLast? = some p → p.Fits n.count := fun p hp =>
      hr.premises p (List.mem_of_getLast? hp)
    exact putAction_fits hr (Clause.action_fits hn hlast ha) branch
  priority x hr := ⟨hr.premises, hr.thenActions, hr.elseActions⟩

end Builder

/-! ## 4. Texts -/

namespace Building

theorem meet_builder (strict : Bool) (p : Building α) (f : Fault) :
    (p.meet strict f).1.builder = p.builder := by
  rw [meet]
  split
  · rfl
  · rfl

theorem take_builder (strict : Bool) (p : Building α) (a : Added α) :
    (p.take strict a).1.builder = a.builder := by
  rw [take]
  split
  · rfl
  · rfl
  · exact meet_builder _ _ _

variable [Scalar α] {n : Network α} {strict : Bool}

/-- What every line keeps and finishing keeps is kept by a text. -/
theorem run_builder [TimeReader α] {P : Builder α → Prop}
    (hline : ∀ b tokens line, P b → P (b.addLine n tokens line).builder)
    (hfinish : ∀ b, P b → P b.finish.1) (lines : List (Nat × String)) {p : Building α}
    (h : P p.builder) : P (run n strict p lines).1.builder := by
  induction lines generalizing p with
  | nil =>
    -- finishing may still collect a fault, which leaves the builder alone
    have hfinished := hfinish _ h
    rw [run]
    revert hfinished
    obtain ⟨builder, missing⟩ := p.builder.finish
    intro hfinished
    cases missing with
    | none => exact hfinished
    | some f =>
      show P (meet strict _ f).1.builder
      rw [meet_builder]
      exact hfinished
  | cons l rest ih =>
    obtain ⟨number, line⟩ := l
    rw [run]
    split
    · exact h
    · rename_i tokens _
      have hadd : P (p.take strict (p.builder.addLine n tokens (some number))).1.builder := by
        rw [take_builder]
        exact hline _ tokens (some number) h
      split
      · rename_i p' htake
        rw [htake] at hadd
        exact ih hadd
      · rename_i p' e htake
        rw [htake] at hadd
        exact hadd

end Building

/-- **Rules that are built over an indexed network fit it.** -/
theorem fits_of_addText [Scalar α] [TimeReader α] {n : Network α} (hn : n.Indexed) {b : Builder α}
    (h : b.Fits n.count) (strict : Bool) (lines : List String) :
    (b.addText n strict lines).1.builder.Fits n.count := by
  rw [Builder.fits_iff] at h ⊢
  exact Building.run_builder (P := fun b => ∀ r ∈ b.begun, r.Fits n.count)
    (fun b tokens line h => (Builder.keptByClauses_fits hn).addLine h tokens line)
    (fun b => Builder.forall_begun_finish) (Section.ruleLines lines) h

end Sluice
