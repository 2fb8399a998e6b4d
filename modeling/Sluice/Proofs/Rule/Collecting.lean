import Sluice.Calendar.Readers
import Sluice.Control.Engine
import Sluice.Proofs.Rule.Line

/-!
# Texts that are built to their end

A fault does not stop the building of a text: it is collected, and the next line is added. So a
text that is built to its end is nothing but its clause lines, added one after another, with
the faults written down on the way (`collect`). Two things are left that do stop it, a line that
cannot be cut into tokens and a number that is too large, and **a text is built to its end if and
only if neither is met** (`buildRules_collects`).

Most of what is said about texts is said of clause lines here. `buildRules_eq_ok_iff` is the
bridge between the two.
-/

set_option autoImplicit false

namespace Sluice

variable {α : Type} [Scalar α] [TimeReader α]

def ClauseLine.keyword? (l : ClauseLine) : Option Keyword := l.tokens.head?.bind Keyword.find?

structure ClauseLine.IsHeader (l : ClauseLine) (id : String) : Prop where
  keyword : l.keyword? = some .rule
  tokens : ∃ word, l.tokens = [word, id]

/-- The clause line of a numbered line of text, if it can be cut into tokens. -/
def ClauseLine.read? (l : Nat × String) : Option ClauseLine :=
  (Token.read? l.2).map (ClauseLine.mk l.1)

namespace Builder

/-! ## 1. One line after another -/

/-- The builder after some lines, whatever was wrong with them. -/
def addLines (n : Network α) (b : Builder α) (ls : List ClauseLine) : Builder α :=
  ls.foldl (fun b l => (b.addLine n l.tokens (some l.number)).builder) b

/-- None of the lines is one that ends the building. -/
def NoneTooLarge (n : Network α) (b : Builder α) (ls : List ClauseLine) : Prop :=
  ∀ before l after, ls = before ++ l :: after → ¬ IsTooLarge n (b.addLines n before) l.tokens

theorem addLines_cons (n : Network α) (b : Builder α) (l : ClauseLine) (ls : List ClauseLine) :
    b.addLines n (l :: ls) = (b.addLine n l.tokens (some l.number)).builder.addLines n ls := rfl

theorem addLines_append (n : Network α) (b : Builder α) (ls ls' : List ClauseLine) :
    b.addLines n (ls ++ ls') = (b.addLines n ls).addLines n ls' := List.foldl_append

theorem rules_prefix_addLines (n : Network α) (b : Builder α) (ls : List ClauseLine) :
    b.rules <+: (b.addLines n ls).rules := by
  induction ls generalizing b with
  | nil => exact List.prefix_rfl
  | cons l rest ih => exact (rules_prefix_addLine n b l.tokens _).trans (ih _)

theorem noneTooLarge_nil (n : Network α) (b : Builder α) : NoneTooLarge n b [] := by
  intro before l after h
  cases before with
  | nil => cases h
  | cons l' before => cases h

theorem noneTooLarge_append {n : Network α} {b : Builder α} {ls ls' : List ClauseLine} :
    NoneTooLarge n b (ls ++ ls') ↔
      NoneTooLarge n b ls ∧ NoneTooLarge n (b.addLines n ls) ls' := by
  constructor
  · intro h
    refine ⟨?_, ?_⟩
    · rintro before l after rfl
      exact h before l (after ++ ls') (by simp)
    · rintro before l after rfl
      rw [← addLines_append]
      exact h (ls ++ before) l after (by simp)
  · rintro ⟨h, h'⟩ before l after heq
    -- the line is in the second list, or in the first
    rcases List.append_eq_append_iff.mp heq with ⟨between, rfl, hafter⟩ | ⟨between, rfl, hls'⟩
    · rw [addLines_append]
      exact h' between l after hafter
    · cases between with
      | nil =>
        rw [List.append_nil] at h'
        exact h' [] l after hls'.symm
      | cons m between =>
        obtain ⟨rfl, -⟩ := List.cons.inj hls'
        exact h before l between rfl

theorem noneTooLarge_cons {n : Network α} {b : Builder α} {l : ClauseLine}
    {ls : List ClauseLine} : NoneTooLarge n b (l :: ls) ↔
      (b.addLine n l.tokens (some l.number)).error ≠ some .tooLarge ∧
        NoneTooLarge n (b.addLine n l.tokens (some l.number)).builder ls := by
  have hsingle : NoneTooLarge n b [l] ↔
      (b.addLine n l.tokens (some l.number)).error ≠ some .tooLarge := by
    rw [ne_eq, addLine_eq_tooLarge_iff]
    constructor
    · intro h
      exact h [] l [] rfl
    · intro h before l' after heq
      cases before with
      | nil =>
        cases heq
        exact h
      | cons m before => simp at heq
  rw [← hsingle, ← List.singleton_append, noneTooLarge_append]
  rfl

theorem addLine_of_isEmpty (n : Network α) (b : Builder α) {l : ClauseLine}
    (h : l.tokens.isEmpty = true) :
    b.addLine n l.tokens (some l.number) = ⟨b, [], none⟩ := by
  rw [List.isEmpty_iff.mp h]
  rfl

theorem noneTooLarge_filter (n : Network α) (b : Builder α) (ls : List ClauseLine) :
    NoneTooLarge n b (ls.filter fun l => !l.tokens.isEmpty) ↔ NoneTooLarge n b ls := by
  induction ls generalizing b with
  | nil => exact Iff.rfl
  | cons l rest ih =>
    by_cases hl : l.tokens.isEmpty = true
    · rw [List.filter_cons_of_neg (by simp [hl]), ih, noneTooLarge_cons,
        addLine_of_isEmpty n b hl]
      simp
    · rw [List.filter_cons_of_pos (by simp [hl]), noneTooLarge_cons, noneTooLarge_cons, ih]

end Builder

/-! ## 2. Faults on the way -/

/-- The fault that a line is refused with. -/
def Added.fault? (a : Added α) : Option Fault :=
  match a.error with
  | some (.fault f) => some f
  | _ => none

namespace Building

variable {n : Network α} {p : Building α}

/-- A building after a line, given what that line did. -/
def after (p : Building α) (a : Added α) (faults : List Fault) : Building α :=
  ⟨a.builder, p.log ++ a.warnings.map warn ++ faults.map faultEntry, p.faults ++ faults⟩

/-- A building after a line, whose fault is collected. -/
def add (n : Network α) (p : Building α) (l : ClauseLine) : Building α :=
  p.after (p.builder.addLine n l.tokens (some l.number))
    (p.builder.addLine n l.tokens (some l.number)).fault?.toList

/-- A building after some lines. -/
def collect (n : Network α) (p : Building α) (ls : List ClauseLine) : Building α :=
  ls.foldl (add n) p

/-- A building at its end. -/
def ended (p : Building α) : Building α :=
  ⟨p.builder.finish.1, p.log ++ p.builder.finish.2.toList.map faultEntry,
    p.faults ++ p.builder.finish.2.toList⟩

theorem collect_cons (p : Building α) (l : ClauseLine) (ls : List ClauseLine) :
    p.collect n (l :: ls) = (p.add n l).collect n ls := rfl

theorem collect_append (p : Building α) (ls ls' : List ClauseLine) :
    p.collect n (ls ++ ls') = (p.collect n ls).collect n ls' := List.foldl_append

theorem builder_collect (n : Network α) (p : Building α) (ls : List ClauseLine) :
    (p.collect n ls).builder = p.builder.addLines n ls := by
  induction ls generalizing p with
  | nil => rfl
  | cons l rest ih => exact ih _

theorem builder_ended_collect (n : Network α) (p : Building α) (ls : List ClauseLine) :
    (p.collect n ls).ended.builder = (p.builder.addLines n ls).finish.1 := by
  rw [← builder_collect]
  rfl

theorem faults_prefix_collect (p : Building α) (ls : List ClauseLine) :
    p.faults <+: (p.collect n ls).faults := by
  induction ls generalizing p with
  | nil => exact List.prefix_rfl
  | cons l rest ih =>
    refine List.IsPrefix.trans ?_ (ih _)
    exact List.prefix_append _ _

/-- A fault of a line is collected. -/
theorem mem_faults_collect {l : ClauseLine} {f : Fault}
    (h : (p.builder.addLine n l.tokens (some l.number)).error = some (.fault f))
    (rest : List ClauseLine) : f ∈ (p.collect n (l :: rest)).faults := by
  have hfault : (p.builder.addLine n l.tokens (some l.number)).fault? = some f := by
    rw [Added.fault?, h]
  rw [collect_cons, add, hfault]
  refine (faults_prefix_collect _ rest).subset ?_
  exact List.mem_append_right _ (List.mem_singleton_self f)

/-- As long as none is too large, an error is a fault. -/
theorem exists_fault_of_error {before after : List ClauseLine} {l : ClauseLine}
    {error : ClauseError} (hnone : Builder.NoneTooLarge n p.builder (before ++ l :: after))
    (h : ((p.builder.addLines n before).addLine n l.tokens (some l.number)).error = some error) :
    ∃ f ∈ (p.collect n (before ++ l :: after)).faults, error = .fault f := by
  obtain ⟨-, hlast⟩ := Builder.noneTooLarge_append.mp hnone
  obtain ⟨hne, -⟩ := Builder.noneTooLarge_cons.mp hlast
  cases error with
  | tooLarge => exact absurd h hne
  | fault f =>
    refine ⟨f, ?_, rfl⟩
    rw [collect_append]
    refine mem_faults_collect ?_ after
    rw [builder_collect]
    exact h

theorem log_prefix_collect (p : Building α) (ls : List ClauseLine) :
    p.log <+: (p.collect n ls).log := by
  induction ls generalizing p with
  | nil => exact List.prefix_rfl
  | cons l rest ih =>
    refine List.IsPrefix.trans ?_ (ih _)
    show p.log <+: p.log ++ _ ++ _
    rw [List.append_assoc]
    exact List.prefix_append _ _

theorem faults_subset_ended (p : Building α) (ls : List ClauseLine) :
    p.faults ⊆ (p.collect n ls).ended.faults := fun _ hf =>
  List.mem_append_left _ ((faults_prefix_collect p ls).subset hf)

theorem log_subset_ended (p : Building α) (ls : List ClauseLine) :
    p.log ⊆ (p.collect n ls).ended.log := fun _ hentry =>
  List.mem_append_left _ ((log_prefix_collect p ls).subset hentry)

theorem rules_prefix_ended (p : Building α) (ls : List ClauseLine) :
    p.builder.rules <+: (p.collect n ls).ended.builder.rules := by
  rw [builder_ended_collect]
  exact (p.builder.rules_prefix_addLines n ls).trans (Builder.rules_prefix_endRule _)

theorem collect_filter (p : Building α) (ls : List ClauseLine) :
    p.collect n (ls.filter fun l => !l.tokens.isEmpty) = p.collect n ls := by
  induction ls generalizing p with
  | nil => rfl
  | cons l rest ih =>
    by_cases hl : l.tokens.isEmpty = true
    · have hsame : p.after ⟨p.builder, [], none⟩ [] = p := by simp [after]
      rw [List.filter_cons_of_neg (by simp [hl]), ih, collect_cons, add,
        p.builder.addLine_of_isEmpty n hl]
      exact (congrArg (collect n · rest) hsame).symm
    · rw [List.filter_cons_of_pos (by simp [hl]), collect_cons, collect_cons, ih]

/-! ## 3. Running through a text -/

theorem run_cons (p : Building α) (number : Nat) {line : String} {tokens : List String}
    (hread : Token.read? line = some tokens) (rest : List (Nat × String)) :
    run n false p ((number, line) :: rest) =
      let a := p.builder.addLine n tokens (some (number : Int))
      if a.error = some .tooLarge then (p.after a [], some .tooLarge)
      else run n false (p.after a a.fault?.toList) rest := by
  rw [run, hread]
  dsimp only
  generalize p.builder.addLine n tokens (some (number : Int)) = a
  obtain ⟨builder, warnings, error⟩ := a
  rcases error with _ | ⟨f⟩ | _
  · simp [take, after, Added.fault?]
  · simp [take, after, meet, Added.fault?]
  · simp [take, after]

theorem run_nil (n : Network α) (p : Building α) : run n false p [] = (p.ended, none) := by
  rw [run, ended]
  obtain ⟨builder, missing⟩ := p.builder.finish
  cases missing with
  | none => simp
  | some f => simp [meet]

/-- A building comes to its end if all lines can be read and none is too large; then it has
collected the faults of all lines. -/
theorem run_eq_iff (numbered : List (Nat × String)) (q : Building α) :
    run n false p numbered = (q, none) ↔ ∃ ls, numbered.mapM ClauseLine.read? = some ls ∧
      Builder.NoneTooLarge n p.builder ls ∧ q = (p.collect n ls).ended := by
  induction numbered generalizing p with
  | nil =>
    rw [run_nil]
    constructor
    · intro h
      cases h
      exact ⟨[], rfl, Builder.noneTooLarge_nil n _, rfl⟩
    · rintro ⟨ls, hls, -, rfl⟩
      obtain rfl : ls = [] := (Option.some.inj hls).symm
      rfl
  | cons l rest ih =>
    obtain ⟨number, line⟩ := l
    cases hread : Token.read? line with
    | none => simp [run, hread, ClauseLine.read?]
    | some tokens =>
      have hl : ClauseLine.read? (number, line) = some ⟨number, tokens⟩ := by
        rw [ClauseLine.read?, hread]
        rfl
      rw [run_cons p number hread]
      dsimp only
      by_cases hlarge :
          (p.builder.addLine n tokens (some (number : Int))).error = some .tooLarge
      · rw [if_pos hlarge]
        refine iff_of_false nofun ?_
        rintro ⟨ls, hls, hnone, -⟩
        obtain ⟨l, hl', ls', -, rfl⟩ := mapM_cons_eq_some.mp hls
        cases hl.symm.trans hl'
        exact (Builder.noneTooLarge_cons.mp hnone).1 hlarge
      · rw [if_neg hlarge, ih]
        constructor
        · rintro ⟨ls, hls, hnone, hq⟩
          exact ⟨⟨number, tokens⟩ :: ls, mapM_cons_eq_some.mpr ⟨_, hl, ls, hls, rfl⟩,
            Builder.noneTooLarge_cons.mpr ⟨hlarge, hnone⟩, hq⟩
        · rintro ⟨ls, hls, hnone, hq⟩
          obtain ⟨l, hl', ls', hls', rfl⟩ := mapM_cons_eq_some.mp hls
          cases hl.symm.trans hl'
          exact ⟨ls', hls', (Builder.noneTooLarge_cons.mp hnone).2, hq⟩

end Building

/-! ## 4. Texts -/

theorem buildRules_eq_ok_iff_addText {e e' : Engine α} {n : Network α} {strict : Bool}
    {lines : List String} {log : List LogEntry} {faults : List Fault} :
    e.buildRules n strict lines = (e', log, .ok faults) ↔
      ∃ q, e.builder.addText n strict lines = (q, none) ∧
        e' = { e with builder := q.builder } ∧ log = q.log ∧ faults = q.faults := by
  rw [Engine.buildRules]
  generalize e.builder.addText n strict lines = built
  obtain ⟨q, failure⟩ := built
  cases failure with
  | some f => exact iff_of_false (by rintro ⟨⟩) (by rintro ⟨_, ⟨⟩, -⟩)
  | none =>
    constructor
    · intro h
      cases h
      exact ⟨q, rfl, rfl, rfl, rfl⟩
    · rintro ⟨_, ⟨⟩, rfl, rfl, rfl⟩
      rfl

/-- What becomes of a text that is built to its end. -/
theorem buildRules_eq_ok_iff {e e' : Engine α} {n : Network α} {lines : List String}
    {log : List LogEntry} {faults : List Fault} :
    e.buildRules n false lines = (e', log, .ok faults) ↔
      ∃ ls, Section.clauseLines? lines = some ls ∧ Builder.NoneTooLarge n e.builder ls ∧
        e' = { e with builder := (e.builder.addLines n ls).finish.1 } ∧
        log = (Building.collect n ⟨e.builder, [], []⟩ ls).ended.log ∧
        faults = (Building.collect n ⟨e.builder, [], []⟩ ls).ended.faults := by
  have hlines : Section.clauseLines? lines =
      ((Section.ruleLines lines).mapM ClauseLine.read?).map
        (List.filter fun l => !l.tokens.isEmpty) := rfl
  have hrun : ∀ q : Building α, e.builder.addText n false lines = (q, none) ↔
      ∃ ls, Section.clauseLines? lines = some ls ∧ Builder.NoneTooLarge n e.builder ls ∧
        q = (Building.collect n ⟨e.builder, [], []⟩ ls).ended := by
    intro q
    rw [Builder.addText, Building.run_eq_iff, hlines]
    constructor
    · rintro ⟨ls, hls, hnone, rfl⟩
      refine ⟨_, Option.map_eq_some_iff.mpr ⟨ls, hls, rfl⟩, ?_, ?_⟩
      · exact (Builder.noneTooLarge_filter n _ ls).mpr hnone
      · rw [Building.collect_filter]
    · rintro ⟨kept, hkept, hnone, rfl⟩
      obtain ⟨ls, hls, rfl⟩ := Option.map_eq_some_iff.mp hkept
      refine ⟨ls, hls, (Builder.noneTooLarge_filter n _ ls).mp hnone, ?_⟩
      rw [Building.collect_filter]
  rw [buildRules_eq_ok_iff_addText]
  constructor
  · rintro ⟨q, hq, h⟩
    obtain ⟨ls, hls, hnone, rfl⟩ := (hrun q).mp hq
    rw [Building.builder_ended_collect] at h
    exact ⟨ls, hls, hnone, h⟩
  · rintro ⟨ls, hls, hnone, h⟩
    refine ⟨_, (hrun _).mpr ⟨ls, hls, hnone, rfl⟩, ?_⟩
    rw [Building.builder_ended_collect]
    exact h

theorem returns_iff (e : Engine α) (n : Network α) (lines : List String) :
    (∃ e' log faults, e.buildRules n false lines = (e', log, .ok faults)) ↔
      ∃ ls, Section.clauseLines? lines = some ls ∧ Builder.NoneTooLarge n e.builder ls := by
  constructor
  · rintro ⟨e', log, faults, h⟩
    obtain ⟨ls, hls, hnone, -⟩ := buildRules_eq_ok_iff.mp h
    exact ⟨ls, hls, hnone⟩
  · rintro ⟨ls, hls, hnone⟩
    exact ⟨_, _, _, buildRules_eq_ok_iff.mpr ⟨ls, hls, hnone, rfl, rfl, rfl⟩⟩

/-- **A text is built to its end if and only if each of its lines can be cut into tokens and none
of them, where it comes, is a premise with a number that is too large. Whatever else is wrong
with a line is then a fault among those that are returned.** -/
theorem buildRules_collects (e : Engine α) (n : Network α) (lines : List String) :
    ((∃ e' log faults, e.buildRules n false lines = (e', log, .ok faults)) ↔
        ∃ ls, Section.clauseLines? lines = some ls ∧ Builder.NoneTooLarge n e.builder ls) ∧
      ∀ e' log faults before l after error,
        e.buildRules n false lines = (e', log, .ok faults) →
        Section.clauseLines? lines = some (before ++ l :: after) →
        ((e.builder.addLines n before).addLine n l.tokens (some l.number)).error = some error →
        ∃ f ∈ faults, error = .fault f := by
  refine ⟨returns_iff e n lines, ?_⟩
  intro e' log faults before l after error hbuilt hlines herror
  obtain ⟨ls, hls, hnone, -, -, rfl⟩ := buildRules_eq_ok_iff.mp hbuilt
  obtain rfl : before ++ l :: after = ls := Option.some.inj (hlines.symm.trans hls)
  obtain ⟨f, hf, hfault⟩ := Building.exists_fault_of_error (p := ⟨e.builder, [], []⟩) hnone herror
  exact ⟨f, List.mem_append_left _ hf, hfault⟩

/-! ## 5. One pump -/

/-- A pump behind a node. -/
def onePump : Network Float :=
  ⟨⟨[⟨"N1", 0, 0, 0, 0⟩], [⟨"P1", .pump, 0, 1, 1, 1, 1, 0⟩]⟩, [], [],
    ⟨["N1"], [("N1", 0)]⟩, ⟨["P1"], [("P1", 0)]⟩, .empty, .empty⟩

/-- An engine without rules, at the start of 1970. -/
def idleEngine : Engine Float := Engine.ofClock (Clock.start (Timeline.anchored 0))

/-- The month of a day of the year is far too large, in the first of two rules. -/
def farMonthLines : List String :=
  ["RULE R1", "IF SIMULATION DAYOFYEAR = 99999999999/1", "THEN PUMP P1 STATUS = ON", "RULE R2",
    "IF NODE N1 DEPTH > 1", "THEN PUMP P1 STATUS = ON"]

open scoped Readers in
/-- The whole text is given up, with the second rule. -/
theorem not_returns_farMonth :
    ¬ ∃ e log faults, idleEngine.buildRules onePump false farMonthLines = (e, log, .ok faults) := by
  have hfailed : (idleEngine.buildRules onePump false farMonthLines).2.2.toOption = none := by
    decide +kernel
  rintro ⟨e, log, faults, h⟩
  rw [h] at hfailed
  cases hfailed

end Sluice
