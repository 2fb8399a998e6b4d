import Mathlib.Data.List.TakeWhile
import Sluice.Control.Condition
import Sluice.Proofs.Outcome

/-!
# Conditions as groups of premises

`truth` goes through what the premises of a condition say with two accumulators, one for the
groups that are complete and one for the group at hand. What it computes needs neither. An `OR`
starts a *group* and everything up to the next `OR` belongs to it (`IsGroup`), and

> **a condition holds if and only if all premises of one of its groups hold** — provided that
> each of its premises can be evaluated, wherever it stands.

Where the values of variables come from makes no difference to this, so the statement is about any
way to read a variable (`Premise.holdsBy`, `conditionBy`). The conditions that the engine evaluates
are those that read the state and the clock (`condition_eq_conditionBy`).
-/

set_option autoImplicit false

namespace Sluice

/-! ## 1. Reading variables in any way -/

section

variable {α ε : Type} [Scalar α] (read : Variable → Except ε (Option α))

omit [Scalar α] in
/-- The value of an operand, if it is defined. -/
def Operand.valueBy : Operand α → Except ε (Option α)
  | .number x => .ok (some x)
  | .valueOf v => read v

/-- Whether a premise holds. -/
def Premise.holdsBy (p : Premise α) : Except ε Bool := do
  let right ← p.right.valueBy read
  let left ← read p.left
  return p.relation.holds left right

/-- Whether the condition of some premises holds. -/
def conditionBy (ps : List (Premise α)) : Except ε Bool := do
  let values ← ps.mapM fun p => (p.holdsBy read).map fun b => (p.joint, b)
  return truth values

/-- Both operands of a premise have values, and these are related as it says. -/
def Premise.Relates (p : Premise α) : Prop :=
  ∃ x y, read p.left = .ok (some x) ∧ p.right.valueBy read = .ok (some y) ∧
    p.relation.compare x y = true

variable {read}

theorem condition_eq_conditionBy (s : State α) (r : Reading α) (ps : List (Premise α)) :
    condition s r ps = conditionBy (Variable.resolve s r) ps := by
  have hoperand : ∀ o : Operand α, o.resolve s r = o.valueBy (Variable.resolve s r) := by
    intro o
    cases o <;> rfl
  simp only [condition, conditionBy, Premise.holds, Premise.holdsBy, hoperand]

/-- A premise that can be evaluated holds exactly if its operands have values that are related. -/
theorem Premise.holdsBy_eq_true_iff {p : Premise α} {b : Bool} (h : p.holdsBy read = .ok b) :
    b = true ↔ p.Relates read := by
  unfold holdsBy at h
  obtain ⟨right, hright, h⟩ := bind_eq_ok.mp h
  obtain ⟨left, hleft, h⟩ := bind_eq_ok.mp h
  cases h
  unfold Relates
  rw [hright, hleft]
  cases left with
  | none => simp [Relation.holds]
  | some x =>
    cases right with
    | none => simp [Relation.holds]
    | some y => simp [Relation.holds]

end

/-! ## 2. Groups -/

section

variable {α : Type}

def Premise.startsGroup (p : Premise α) : Bool := p.joint == .or

/-- The premises from the first one of a condition or from an `OR` to just before the next `OR` or
to the end. -/
def IsGroup (ps group : List (Premise α)) : Prop :=
  ∃ before first rest behind, ps = before ++ first :: rest ++ behind ∧ group = first :: rest ∧
    (before = [] ∨ first.startsGroup = true) ∧ (∀ p ∈ rest, p.startsGroup = false) ∧
    ∀ p ∈ behind.head?, p.startsGroup = true

/-- The premises before the first that starts a group. -/
def lead (ps : List (Premise α)) : List (Premise α) := ps.takeWhile fun p => !p.startsGroup

/-- The premises from the first on that starts a group. -/
def afterLead (ps : List (Premise α)) : List (Premise α) := ps.dropWhile fun p => !p.startsGroup

theorem lead_append_afterLead (ps : List (Premise α)) : lead ps ++ afterLead ps = ps :=
  List.takeWhile_append_dropWhile

theorem startsGroup_of_mem_lead {ps : List (Premise α)} {p : Premise α} (h : p ∈ lead ps) :
    p.startsGroup = false := by
  simpa using List.mem_takeWhile_imp h

theorem startsGroup_of_mem_head?_afterLead {ps : List (Premise α)} {p : Premise α}
    (h : p ∈ (afterLead ps).head?) : p.startsGroup = true := by
  have hhead := List.head?_dropWhile_not (fun p : Premise α => !p.startsGroup) ps
  unfold afterLead at h
  rw [Option.mem_def] at h
  rw [h] at hhead
  simpa using hhead

theorem lead_append {rest behind : List (Premise α)} (hrest : ∀ p ∈ rest, p.startsGroup = false)
    (hbehind : ∀ p ∈ behind.head?, p.startsGroup = true) : lead (rest ++ behind) = rest := by
  unfold lead
  rw [List.takeWhile_append_of_pos (by simpa using hrest)]
  cases behind with
  | nil => simp
  | cons p behind =>
    have hp : p.startsGroup = true := hbehind p (by simp)
    simp [hp]

/-- What stands before an `OR` makes no difference to what follows it. -/
theorem afterLead_append (before ps : List (Premise α)) {first : Premise α}
    (h : first.startsGroup = true) :
    afterLead (before ++ first :: ps) = afterLead before ++ first :: ps := by
  unfold afterLead
  induction before with
  | nil => simp [h]
  | cons p before ih =>
    cases hp : p.startsGroup with
    | true => simp [hp]
    | false => simpa [hp] using ih

theorem IsGroup.subset {ps group : List (Premise α)} (h : IsGroup ps group) : group ⊆ ps := by
  obtain ⟨before, first, rest, behind, rfl, rfl, -⟩ := h
  intro p hp
  exact List.mem_append_left behind (List.mem_append_right before hp)

theorem not_isGroup_nil (group : List (Premise α)) : ¬ IsGroup [] group := by
  rintro ⟨before, first, rest, behind, h, -⟩
  simp at h

/-- The first group of a condition is its first premise with what leads the others. The further
groups are those of what follows. -/
theorem isGroup_cons_iff {p : Premise α} {ps group : List (Premise α)} :
    IsGroup (p :: ps) group ↔ group = p :: lead ps ∨ IsGroup (afterLead ps) group := by
  constructor
  · rintro ⟨before, first, rest, behind, h, rfl, hstart, hrest, hbehind⟩
    cases before with
    | nil =>
      obtain ⟨rfl, rfl⟩ : p = first ∧ ps = rest ++ behind := List.cons.inj h
      rw [lead_append hrest hbehind]
      exact Or.inl rfl
    | cons q before =>
      obtain ⟨rfl, rfl⟩ : p = q ∧ ps = before ++ first :: rest ++ behind := List.cons.inj h
      have hfirst : first.startsGroup = true := hstart.resolve_left (List.cons_ne_nil _ _)
      refine Or.inr ⟨afterLead before, first, rest, behind, ?_, rfl, Or.inr hfirst, hrest, hbehind⟩
      simpa using afterLead_append before (rest ++ behind) hfirst
  · rintro (rfl | ⟨before, first, rest, behind, h, rfl, hstart, hrest, hbehind⟩)
    · exact ⟨[], p, lead ps, afterLead ps, by simp [lead_append_afterLead], rfl, Or.inl rfl,
        fun _ => startsGroup_of_mem_lead, fun _ => startsGroup_of_mem_head?_afterLead⟩
    · have hfirst : first.startsGroup = true := by
        rcases hstart with rfl | hfirst
        · have hhead : first ∈ (afterLead ps).head? := by simp [h]
          exact startsGroup_of_mem_head?_afterLead hhead
        · exact hfirst
      refine ⟨p :: lead ps ++ before, first, rest, behind, ?_, rfl, Or.inr hfirst, hrest, hbehind⟩
      have hps : ps = lead ps ++ (before ++ first :: rest ++ behind) := by
        rw [← h, lead_append_afterLead]
      simpa using hps

end

/-! ## 3. The two accumulators -/

section

variable {α : Type} (verdict : Premise α → Bool)

def verdicts (ps : List (Premise α)) : List (Joint × Bool) := ps.map fun p => (p.joint, verdict p)

/-- What is left to be gone through adds what leads it to the group at hand, and the groups that
follow. -/
theorem truthFrom_eq_true_iff (earlier group : Bool) (ps : List (Premise α)) :
    truthFrom earlier group (verdicts verdict ps) = true ↔
      earlier = true ∨ (group = true ∧ ∀ p ∈ lead ps, verdict p = true) ∨
        ∃ g, IsGroup (afterLead ps) g ∧ ∀ p ∈ g, verdict p = true := by
  induction ps generalizing earlier group with
  | nil => simp [verdicts, truthFrom, lead, afterLead, not_isGroup_nil]
  | cons p ps ih =>
    cases hp : p.startsGroup with
    | true =>
      have hjoint : p.joint = .or := by simpa [Premise.startsGroup] using hp
      have hlead : lead (p :: ps) = [] := by simp [lead, hp]
      have hafter : afterLead (p :: ps) = p :: ps := by simp [afterLead, hp]
      have hstep : truthFrom earlier group (verdicts verdict (p :: ps)) =
          truthFrom (earlier || group) (verdict p) (verdicts verdict ps) := by
        simp [verdicts, truthFrom, hjoint]
      rw [hstep, ih, hlead, hafter]
      simp [isGroup_cons_iff, or_and_right, exists_or, or_assoc]
    | false =>
      have hjoint : p.joint ≠ .or := by simpa [Premise.startsGroup] using hp
      have hlead : lead (p :: ps) = p :: lead ps := by simp [lead, hp]
      have hafter : afterLead (p :: ps) = afterLead ps := by simp [afterLead, hp]
      have hstep : truthFrom earlier group (verdicts verdict (p :: ps)) =
          truthFrom earlier (group && verdict p) (verdicts verdict ps) := by
        cases h : p.joint with
        | or => exact absurd h hjoint
        | first => simp [verdicts, truthFrom, h]
        | and => simp [verdicts, truthFrom, h]
      rw [hstep, ih, hlead, hafter]
      simp [and_assoc]

theorem truth_eq_true_iff (ps : List (Premise α)) :
    truth (verdicts verdict ps) = true ↔ ∃ g, IsGroup ps g ∧ ∀ p ∈ g, verdict p = true := by
  cases ps with
  | nil => simp [verdicts, truth, not_isGroup_nil]
  | cons p ps =>
    have hstep : truth (verdicts verdict (p :: ps)) =
        truthFrom false (verdict p) (verdicts verdict ps) := rfl
    rw [hstep, truthFrom_eq_true_iff]
    simp [isGroup_cons_iff, or_and_right, exists_or]

/-- The first group fails and the second one holds. -/
example : truth [(.first, true), (.and, false), (.or, true), (.and, true)] = true := rfl

end

/-! ## 4. Conditions -/

section

variable {α ε : Type} [Scalar α] {read : Variable → Except ε (Option α)} {ps : List (Premise α)}

/-- A condition whose premises can all be evaluated has the truth value of what they say. -/
theorem conditionBy_eq_ok (h : ∀ p ∈ ps, ∃ b, p.holdsBy read = .ok b) :
    ∃ verdict : Premise α → Bool, (∀ p ∈ ps, p.holdsBy read = .ok (verdict p)) ∧
      conditionBy read ps = .ok (truth (verdicts verdict ps)) := by
  let verdict := fun p : Premise α => (p.holdsBy read).toOption.getD false
  have hverdict : ∀ p ∈ ps, p.holdsBy read = .ok (verdict p) := by
    intro p hp
    obtain ⟨b, hb⟩ := h p hp
    simp [verdict, hb, Except.toOption]
  refine ⟨verdict, hverdict, ?_⟩
  have hvalues : ps.mapM (fun p => (p.holdsBy read).map fun b => (p.joint, b)) =
      .ok (verdicts verdict ps) := by
    apply mapM_eq_ok_map
    intro p hp
    rw [hverdict p hp]
    rfl
  unfold conditionBy
  rw [hvalues]
  rfl

theorem exists_conditionBy_ok_iff :
    (∃ b, conditionBy read ps = .ok b) ↔ ∀ p ∈ ps, ∃ b, p.holdsBy read = .ok b := by
  constructor
  · rintro ⟨b, h⟩ p hp
    obtain ⟨values, hvalues, -⟩ := bind_eq_ok.mp h
    obtain ⟨value, hvalue⟩ := forall_of_mapM hvalues p hp
    obtain ⟨b', hb', -⟩ := map_eq_ok.mp hvalue
    exact ⟨b', hb'⟩
  · intro h
    obtain ⟨verdict, -, hcondition⟩ := conditionBy_eq_ok h
    exact ⟨_, hcondition⟩

theorem conditionBy_eq_true_iff :
    conditionBy read ps = .ok true ↔ (∀ p ∈ ps, ∃ b, p.holdsBy read = .ok b) ∧
      ∃ g, IsGroup ps g ∧ ∀ p ∈ g, p.Relates read := by
  have hgroups : ∀ verdict : Premise α → Bool,
      (∀ p ∈ ps, p.holdsBy read = .ok (verdict p)) →
      (truth (verdicts verdict ps) = true ↔ ∃ g, IsGroup ps g ∧ ∀ p ∈ g, p.Relates read) := by
    intro verdict hverdict
    rw [truth_eq_true_iff]
    refine exists_congr fun g => and_congr_right fun hg => ?_
    refine forall₂_congr fun p hp => ?_
    exact Premise.holdsBy_eq_true_iff (hverdict p (hg.subset hp))
  constructor
  · intro h
    have hall := exists_conditionBy_ok_iff.mp ⟨true, h⟩
    obtain ⟨verdict, hverdict, hcondition⟩ := conditionBy_eq_ok hall
    refine ⟨hall, (hgroups verdict hverdict).mp ?_⟩
    exact Except.ok.inj (hcondition.symm.trans h)
  · rintro ⟨hall, hg⟩
    obtain ⟨verdict, hverdict, hcondition⟩ := conditionBy_eq_ok hall
    rw [hcondition, (hgroups verdict hverdict).mpr hg]

/-- How the first premise is joined makes no difference. -/
theorem conditionBy_first (p : Premise α) (rest : List (Premise α)) (joint : Joint) :
    conditionBy read ({ p with joint := joint } :: rest) = conditionBy read (p :: rest) := by
  have hsame : ({ p with joint := joint } : Premise α).holdsBy read = p.holdsBy read := rfl
  unfold conditionBy
  rw [List.mapM_cons, List.mapM_cons, hsame]
  cases p.holdsBy read with
  | error e => rfl
  | ok b =>
    cases rest.mapM fun p => (p.holdsBy read).map fun b => (p.joint, b) with
    | error e => rfl
    | ok values => rfl

/-- **A condition holds if and only if all premises of one of its groups hold.** It cannot be
evaluated if one of its premises cannot, without premises it does not hold, and how the first
premise is joined makes no difference. -/
theorem condition_by_groups (read : Variable → Except ε (Option α)) (ps : List (Premise α)) :
    ((∃ e, conditionBy read ps = .error e) ↔ ∃ p ∈ ps, ∃ e, p.holdsBy read = .error e) ∧
      (conditionBy read ps = .ok true ↔
        (∀ p ∈ ps, ∃ b, p.holdsBy read = .ok b) ∧
          ∃ g, IsGroup ps g ∧ ∀ p ∈ g, p.Relates read) ∧
      conditionBy read ([] : List (Premise α)) = .ok false ∧
      (∀ p rest joint, conditionBy read ({ p with joint := joint } :: rest) =
        conditionBy read (p :: rest)) ∧
      ∀ s r, condition s r ps = conditionBy (Variable.resolve s r) ps := by
  refine ⟨?_, conditionBy_eq_true_iff, rfl, ?_, fun s r => condition_eq_conditionBy s r ps⟩
  · simp only [exists_error_iff, exists_conditionBy_ok_iff, not_forall, exists_prop]
  · exact fun p rest joint => conditionBy_first p rest joint

end

end Sluice
