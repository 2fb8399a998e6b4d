import Sluice.Calendar.Readers
import Sluice.Proofs.Rule.Accounting
import Sluice.Proofs.Rule.Locality

/-!
# One mistake, one fault

A mistake discards its rule, and everything up to the next header is skipped. A reader of the
faults relies on two consequences: the faults come in the order of their lines, and **between a
header and the next there is at most one** (`faults_ordered`).

Most faults are collected at their own line, and for those there is not much to say. The fault of
an incomplete rule has the line of the header and is only found where the next header or the end
of the text is reached, when everything in between has been read. So it would come too late, and
perhaps as a second one, if anything in between could have left a fault behind. Nothing can: a
rule is only incomplete if it is still open, and it is only still open if every line of its block
was accepted.

The invariant (`Traced`) says what is known of the faults, given the session: while a rule is
open, and after it was closed, all of them are in front of its header.
-/

set_option autoImplicit false

namespace Sluice

variable {α : Type} [Scalar α] [TimeReader α]

/-! ## 1. Places -/

/-- A place in front of a line. -/
def IsBefore (place : Option Int) (l : ClauseLine) : Prop := ∃ i, place = some i ∧ i < l.number

theorem IsBefore.ne {place : Option Int} {l : ClauseLine} (h : IsBefore place l) :
    place ≠ some (l.number : Int) := by
  obtain ⟨i, rfl, hi⟩ := h
  intro heq
  exact absurd (Option.some.inj heq) (Int.ne_of_lt hi)

/-- Two faults with a header between them, which may be the line of the second. -/
def Parted (ls : List ClauseLine) (f g : Fault) : Prop :=
  ∃ header ∈ ls, header.keyword? = some .rule ∧ IsBefore f.line header ∧
    ∃ j, g.line = some j ∧ (header.number : Int) ≤ j

theorem Parted.append {ls : List ClauseLine} {f g : Fault} (h : Parted ls f g)
    (ls' : List ClauseLine) : Parted (ls ++ ls') f g := by
  obtain ⟨header, hmem, hrest⟩ := h
  exact ⟨header, List.mem_append_left _ hmem, hrest⟩

/-- At most one of some faults is at a place of this kind. -/
def AtMostOne (P : Int → Prop) (faults : List Fault) : Prop :=
  faults.Pairwise fun f g => ¬ ((∃ i, f.line = some i ∧ P i) ∧ ∃ j, g.line = some j ∧ P j)

/-- A header with its block, in which every line was accepted. -/
structure IsFlawless (n : Network α) (before : List ClauseLine) (header : ClauseLine)
    (body : List ClauseLine) (id : String) : Prop where
  isHeader : header.IsHeader id
  noHeader : ∀ l ∈ body, l.keyword? ≠ some .rule
  accepted : ∀ between l after, body = between ++ l :: after →
    ((Builder.empty.addLines n (before ++ header :: between)).addLine n l.tokens
      (some l.number)).error = none

theorem IsFlawless.concat {n : Network α} {before body : List ClauseLine}
    {header l : ClauseLine} {id : String} (h : IsFlawless n before header body id)
    (hl : l.keyword? ≠ some .rule)
    (herror : ((Builder.empty.addLines n (before ++ header :: body)).addLine n l.tokens
      (some l.number)).error = none) : IsFlawless n before header (body ++ [l]) id := by
  refine ⟨h.isHeader, ?_, ?_⟩
  · intro l' hl'
    rcases List.mem_append.mp hl' with hl' | hl'
    · exact h.noHeader l' hl'
    · rw [List.mem_singleton.mp hl']
      exact hl
  · intro between l' after heq
    -- the line is the new one, or one of the body
    rcases List.eq_nil_or_concat after with rfl | ⟨after, last, rfl⟩
    · obtain ⟨rfl, hlast⟩ := List.append_inj' heq rfl
      obtain rfl : l = l' := (List.cons.inj hlast).1
      exact herror
    · rw [List.concat_eq_append, ← List.cons_append, ← List.append_assoc] at heq
      exact h.accepted between l' after (List.append_inj' heq rfl).1

/-- The fault of the rule of a flawless block. -/
def missingActions (header : ClauseLine) (id : String) : Fault :=
  ⟨.incomplete, none, some header.number, some id⟩

/-- A fault says that the rule of a flawless block, which a header ended, was discarded. -/
def IsLoss (n : Network α) (past : List ClauseLine) (b : Builder α) (f : Fault) : Prop :=
  (∃ before header body next after id, past = before ++ header :: (body ++ next :: after) ∧
    next.keyword? = some .rule ∧ IsFlawless n before header body id ∧
      f = missingActions header id) ∧ ∀ r ∈ b.begun, r.line ≠ f.line

namespace Building

/-! ## 2. The invariant -/

/-- No fault since the last header. -/
def IsQuiet (past : List ClauseLine) (faults : List Fault) : Prop :=
  faults = [] ∨ ∃ header ∈ past, header.keyword? = some .rule ∧
    ∀ f ∈ faults, IsBefore f.line header

theorem IsQuiet.append {past : List ClauseLine} {faults : List Fault} (h : IsQuiet past faults)
    (ls : List ClauseLine) : IsQuiet (past ++ ls) faults := by
  rcases h with hnil | ⟨header, hmem, hrest⟩
  · exact Or.inl hnil
  · exact Or.inr ⟨header, List.mem_append_left _ hmem, hrest⟩

theorem IsQuiet.parted {past : List ClauseLine} {faults : List Fault} (h : IsQuiet past faults)
    {f : Fault} {i : Int} (hline : f.line = some i) (hi : ∀ l ∈ past, (l.number : Int) ≤ i) :
    ∀ g ∈ faults, Parted past g f := by
  intro g hg
  rcases h with rfl | ⟨header, hmem, hheader, hfaults⟩
  · cases hg
  · exact ⟨header, hmem, hheader, hfaults g hg, i, hline, hi header hmem⟩

/-- What is known of the faults, given the session. -/
structure Standing (n : Network α) (past : List ClauseLine) (p : Building α)
    (s : Session α) : Prop where
  shut : s.rule? = none → s.state? ≠ some .error → IsQuiet past p.faults
  block : ∀ r, s.rule? = some r → ∃ before header body, past = before ++ header :: body ∧
    r.line = some (header.number : Int) ∧ IsFlawless n before header body r.id ∧
    (∀ f ∈ p.faults, IsBefore f.line header) ∧ ∀ r' ∈ p.builder.rules, IsBefore r'.line header

/-- While lines are skipped nothing is known. -/
theorem standing_skipping (n : Network α) (past : List ClauseLine) (p : Building α) :
    Standing n past p (.shut .error) :=
  ⟨fun _ hne => absurd rfl hne, nofun⟩

/-- A building after some lines. -/
structure Traced (n : Network α) (past : List ClauseLine) (p : Building α) : Prop where
  builder : p.builder = Builder.empty.addLines n past
  placed : ∀ f ∈ p.faults, ∃ l ∈ past, f.line = some (l.number : Int)
  parted : p.faults.Pairwise (Parted past)
  begun : ∀ r ∈ p.builder.begun, ∃ l ∈ past, r.line = some (l.number : Int)
  losses : ∀ f ∈ p.faults, f.cause = .incomplete → IsLoss n past p.builder f
  standing : Standing n past p p.builder.session

theorem traced_nil (n : Network α) : Traced n [] (⟨.empty, [], []⟩ : Building α) :=
  ⟨rfl, nofun, .nil, nofun, nofun, fun _ _ => Or.inl rfl, nofun⟩

theorem Standing.isQuiet {n : Network α} {past : List ClauseLine} {p : Building α}
    {s : Session α} (h : Standing n past p s) (hs : s.state? ≠ some .error) :
    IsQuiet past p.faults := by
  cases hr : s.rule? with
  | none => exact h.shut hr hs
  | some r =>
    obtain ⟨before, header, body, rfl, -, hflawless, hfaults, -⟩ := h.block r hr
    refine Or.inr ⟨header, ?_, hflawless.isHeader.keyword, hfaults⟩
    exact List.mem_append_right _ List.mem_cons_self

namespace Traced

variable {n : Network α} {past : List ClauseLine} {p : Building α} {l : ClauseLine}

/-- What is known when the open rule is ended and is incomplete. -/
theorem of_missing (h : Traced n past p) {f : Fault} (hf : p.builder.endRule.2 = some f) :
    ∃ before header body id, past = before ++ header :: body ∧
      IsFlawless n before header body id ∧ f = missingActions header id ∧
      (∀ g ∈ p.faults, IsBefore g.line header) ∧
      ∀ r ∈ p.builder.endRule.1.rules, IsBefore r.line header := by
  rcases p.builder.endRule_cases with ⟨-, hnone⟩ | ⟨hrules, r, hr, -, hmissing⟩
  · rw [hnone] at hf
    cases hf
  · obtain ⟨before, header, body, hpast, hline, hflawless, hfaults, hbefore⟩ :=
      h.standing.block r hr
    refine ⟨before, header, body, r.id, hpast, hflawless, ?_, hfaults, ?_⟩
    · rw [missingActions, ← hline]
      exact Option.some.inj (hf.symm.trans hmissing)
    · rw [hrules]
      exact hbefore

theorem isBefore (h : Traced n past p) (hl : ∀ l' ∈ past, l'.number < l.number) :
    (∀ f ∈ p.faults, IsBefore f.line l) ∧ ∀ r ∈ p.builder.begun, IsBefore r.line l := by
  refine ⟨?_, ?_⟩
  · intro f hf
    obtain ⟨l', hl', hline⟩ := h.placed f hf
    exact ⟨l'.number, hline, Int.ofNat_lt.mpr (hl l' hl')⟩
  · intro r hr
    obtain ⟨l', hl', hline⟩ := h.begun r hr
    exact ⟨l'.number, hline, Int.ofNat_lt.mpr (hl l' hl')⟩

theorem line_addLine (n : Network α) (b : Builder α) (l : ClauseLine) :
    ∀ r ∈ (b.addLine n l.tokens (some l.number)).builder.begun,
      (∃ r' ∈ b.begun, r'.line = r.line) ∨ r.line = some (l.number : Int) := by
  intro r hr
  rcases Builder.origin_of_mem_begun_addLine (List.mem_map_of_mem (f := Rule.origin) hr) with
    hkept | ⟨-, hline⟩
  · obtain ⟨r', hr', horigin⟩ := List.mem_map.mp hkept
    exact Or.inl ⟨r', hr', congrArg Prod.snd horigin⟩
  · exact Or.inr hline

/-- A loss is not undone. -/
theorem loss_addLine (h : Traced n past p) (hl : ∀ l' ∈ past, l'.number < l.number) {f : Fault}
    (hf : f ∈ p.faults) (hcause : f.cause = .incomplete) :
    IsLoss n (past ++ [l]) (p.builder.addLine n l.tokens (some l.number)).builder f := by
  obtain ⟨⟨before, header, body, next, after, id, rfl, hnext, hflawless, hfault⟩, hbegun⟩ :=
    h.losses f hf hcause
  refine ⟨⟨before, header, body, next, after ++ [l], id, by simp, hnext, hflawless, hfault⟩, ?_⟩
  intro r hr
  rcases line_addLine n p.builder l r hr with ⟨r', hr', hline⟩ | hline
  · rw [← hline]
    exact hbegun r' hr'
  · rw [hline]
    exact ((h.isBefore hl).1 f hf).ne.symm

/-- A fault that can be collected behind others. -/
structure Extends (n : Network α) (past : List ClauseLine) (faults : List Fault)
    (b : Builder α) (f : Fault) : Prop where
  placed : ∃ l ∈ past, f.line = some (l.number : Int)
  parted : ∀ g ∈ faults, Parted past g f
  loss : f.cause = .incomplete → IsLoss n past b f

/-- Most of the invariant does not depend on what a line does. -/
theorem next (h : Traced n past p) (hl : ∀ l' ∈ past, l'.number < l.number)
    (hfault : ∀ f ∈ (p.builder.addLine n l.tokens (some l.number)).fault?,
      Extends n (past ++ [l]) p.faults (p.builder.addLine n l.tokens (some l.number)).builder f)
    (hstanding : Standing n (past ++ [l]) (p.add n l)
      (p.builder.addLine n l.tokens (some l.number)).builder.session) :
    Traced n (past ++ [l]) (p.add n l) := by
  refine ⟨?_, ?_, ?_, ?_, ?_, hstanding⟩
  · rw [Builder.addLines_append, ← h.builder]
    rfl
  · intro f hf
    rcases List.mem_append.mp hf with hf | hf
    · obtain ⟨l', hl', hline⟩ := h.placed f hf
      exact ⟨l', List.mem_append_left _ hl', hline⟩
    · exact (hfault f (Option.mem_toList.mp hf)).placed
  · refine List.pairwise_append.mpr ⟨h.parted.imp fun hfg => hfg.append [l], ?_, ?_⟩
    · cases (p.builder.addLine n l.tokens (some (l.number : Int))).fault? with
      | none => exact List.Pairwise.nil
      | some f => exact List.pairwise_singleton _ f
    · intro g hg f hf
      exact (hfault f (Option.mem_toList.mp hf)).parted g hg
  · intro r hr
    rcases line_addLine n p.builder l r hr with ⟨r', hr', hline⟩ | hline
    · obtain ⟨l', hl', hline'⟩ := h.begun r' hr'
      exact ⟨l', List.mem_append_left _ hl', hline.symm.trans hline'⟩
    · exact ⟨l, List.mem_append_right _ (List.mem_singleton_self l), hline⟩
  · intro f hf hcause
    rcases List.mem_append.mp hf with hf | hf
    · exact h.loss_addLine hl hf hcause
    · exact (hfault f (Option.mem_toList.mp hf)).loss hcause

/-! ## 3. One line -/

/-- A line that the open rule accepts is one of its flawless block. -/
theorem standing_open (h : Traced n past p) {s : Session α} {r r' : Rule α}
    (hr' : s.rule? = some r') (hr : p.builder.session.rule? = some r)
    (hk : l.keyword? ≠ some .rule)
    (herror : (p.builder.addLine n l.tokens (some l.number)).error = none)
    (hid : r'.id = r.id) (hline : r'.line = r.line) {q : Building α}
    (hfaults : q.faults = p.faults) (hrules : q.builder.rules = p.builder.rules) :
    Standing n (past ++ [l]) q s := by
  obtain ⟨before, header, body, hpast, hheader, hflawless, hbefore, hbuilt⟩ :=
    h.standing.block r hr
  rw [h.builder, hpast] at herror
  refine ⟨fun hnone => (Option.some_ne_none r' (hr'.symm.trans hnone)).elim, ?_⟩
  rintro r'' hr''
  obtain rfl : r' = r'' := Option.some.inj (hr'.symm.trans hr'')
  refine ⟨before, header, body ++ [l], ?_, hline.trans hheader, ?_, ?_, ?_⟩
  · rw [hpast, List.append_assoc, List.cons_append]
  · rw [hid]
    exact hflawless.concat hk herror
  · rw [hfaults]
    exact hbefore
  · rw [hrules]
    exact hbuilt

/-- A line that leaves the session as it is, without a fault. -/
theorem standing_same (h : Traced n past p) (hk : l.keyword? ≠ some .rule)
    (herror : (p.builder.addLine n l.tokens (some l.number)).error = none) {q : Building α}
    (hfaults : q.faults = p.faults) (hrules : q.builder.rules = p.builder.rules) :
    Standing n (past ++ [l]) q p.builder.session := by
  refine ⟨?_, ?_⟩
  · intro hnone hs
    rw [hfaults]
    exact (h.standing.shut hnone hs).append [l]
  · intro r hr
    exact (h.standing_open hr hr hk herror rfl rfl hfaults hrules).block r hr

/-- The fault of the open rule when a header ends it. -/
theorem extends_missing (h : Traced n past p) (hl : ∀ l' ∈ past, l'.number < l.number)
    (hk : l.keyword? = some .rule) {f : Fault} (hf : p.builder.endRule.2 = some f)
    {b : Builder α} (hb : ∀ r ∈ b.begun, r ∈ p.builder.endRule.1.rules ∨
      r.line = some (l.number : Int)) : Extends n (past ++ [l]) p.faults b f := by
  obtain ⟨before, header, body, id, rfl, hflawless, rfl, hbefore, hbuilt⟩ := h.of_missing hf
  have hmem : header ∈ before ++ header :: body := List.mem_append_right _ List.mem_cons_self
  refine ⟨⟨header, List.mem_append_left _ hmem, rfl⟩, ?_, fun _ => ⟨?_, ?_⟩⟩
  · intro g hg
    exact ⟨header, List.mem_append_left _ hmem, hflawless.isHeader.keyword, hbefore g hg,
      header.number, rfl, Int.le_refl _⟩
  · exact ⟨before, header, body, l, [], id, by simp, hk, hflawless, rfl⟩
  · intro r hr
    rcases hb r hr with hr | hline
    · exact (hbuilt r hr).ne
    · rw [hline]
      intro heq
      have hnumber := hl header hmem
      have hsame : (l.number : Int) = header.number := Option.some.inj heq
      omega

/-- A fault at the new line. -/
theorem extends_here {faults : List Fault} {f : Fault} (hline : f.line = some (l.number : Int))
    (hcause : f.cause ≠ .incomplete) (hparted : ∀ g ∈ faults, Parted (past ++ [l]) g f)
    {b : Builder α} : Extends n (past ++ [l]) faults b f :=
  ⟨⟨l, List.mem_append_right _ (List.mem_singleton_self l), hline⟩, hparted,
    fun h => absurd h hcause⟩

/-- Whatever fault a line leaves behind, it can be collected. -/
theorem extends_fault (h : Traced n past p) (hl : ∀ l' ∈ past, l'.number < l.number) :
    ∀ f ∈ (p.builder.addLine n l.tokens (some l.number)).fault?,
      Extends n (past ++ [l]) p.faults (p.builder.addLine n l.tokens (some l.number)).builder
        f := by
  have hmem : l ∈ past ++ [l] := List.mem_append_right _ (List.mem_singleton_self l)
  have hskipping : Keyword.ofLine? l.tokens ≠ some .rule →
      p.builder.session.state? = some .error →
      p.builder.addLine n l.tokens (some (l.number : Int)) = ⟨p.builder, [], none⟩ :=
    p.builder.addLine_of_skipping n (some (l.number : Int))
  have heffect := Builder.addLine_effect n p.builder l.tokens (some (l.number : Int))
  generalize p.builder.addLine n l.tokens (some (l.number : Int)) = a at heffect hskipping ⊢
  intro f hf
  cases heffect with
  | ignored | premise | action | priority | tooLarge => cases hf
  | @header word id htokens hk hnew =>
    have hrule : l.keyword? = some .rule := by
      rw [ClauseLine.keyword?, htokens]
      exact hk
    have hmissing : p.builder.endRule.2 = some f := by
      cases hended : p.builder.endRule.2 with
      | none =>
        rw [hended] at hf
        cases hf
      | some g =>
        rw [hended] at hf
        exact hf
    refine h.extends_missing hl hrule hmissing ?_
    intro r hr
    rw [Builder.begun_of_rule?_eq_some rfl] at hr
    rcases List.mem_append.mp hr with hr | hr
    · exact Or.inl hr
    · rw [List.mem_singleton.mp hr]
      exact Or.inr rfl
  | badHeader hk hfault =>
    cases hf
    obtain ⟨hline, hcause⟩ := Builder.place_of_headerFault hfault
    refine extends_here hline ?_ ?_
    · rcases hcause with hcause | hcause
      · rw [hcause]
        decide
      · rw [hcause]
        decide
    · intro g hg
      exact ⟨l, hmem, hk, (h.isBefore hl).1 g hg, _, hline, Int.le_refl _⟩
  | @badClause g warnings hk hg =>
    cases hf
    have hline : (g.tag (some (l.number : Int)) p.builder.session.ruleId?).line =
        some (l.number : Int) := by
      rw [Fault.tag, hg.1]
      rfl
    have hs : p.builder.session.state? ≠ some .error := by
      intro hs
      cases congrArg Added.error (hskipping hk hs)
    refine extends_here hline hg.2.2 ?_
    intro g' hg'
    refine Parted.append ?_ [l]
    exact (h.standing.isQuiet hs).parted hline
      (fun l' hl' => Int.le_of_lt (Int.ofNat_lt.mpr (hl l' hl'))) g' hg'

/-- A rule that is opened has all faults in front of it. -/
theorem standing_header (h : Traced n past p) (hl : ∀ l' ∈ past, l'.number < l.number)
    {id : String} (hid : l.IsHeader id) (position : Nat) {q : Building α}
    (hfaults : q.faults = p.faults ++ p.builder.endRule.2.toList)
    (hrules : q.builder.rules = p.builder.endRule.1.rules) :
    Standing n (past ++ [l]) q (.start (Builder.draft id position (some l.number))) := by
  refine ⟨nofun, ?_⟩
  rintro _ ⟨⟩
  refine ⟨past, l, [], rfl, rfl, ⟨hid, nofun, by simp⟩, ?_, ?_⟩
  · intro f hf
    rw [hfaults] at hf
    rcases List.mem_append.mp hf with hf | hf
    · exact (h.isBefore hl).1 f hf
    · obtain ⟨before, header, body, id', rfl, -, rfl, -⟩ := h.of_missing (Option.mem_toList.mp hf)
      have hnumber := hl header (List.mem_append_right _ List.mem_cons_self)
      exact ⟨header.number, rfl, Int.ofNat_lt.mpr hnumber⟩
  · intro r hr
    rw [hrules] at hr
    exact (h.isBefore hl).2 r (p.builder.endRule_prefix_begun.subset hr)

/-- A rule that is closed leaves its header behind. -/
theorem standing_closed (h : Traced n past p) {r : Rule α}
    (hr : p.builder.session.rule? = some r) {q : Building α} (hfaults : q.faults = p.faults) :
    Standing n (past ++ [l]) q (.shut (.after .priority)) := by
  obtain ⟨before, header, body, rfl, -, hflawless, hbefore, -⟩ := h.standing.block r hr
  refine ⟨fun _ _ => Or.inr ⟨header, by simp, hflawless.isHeader.keyword, ?_⟩, nofun⟩
  rw [hfaults]
  exact hbefore

/-- Whatever session a line leads to, the faults are as that session has them. -/
theorem standing_addLine (h : Traced n past p) (hl : ∀ l' ∈ past, l'.number < l.number)
    (hlarge : (p.builder.addLine n l.tokens (some l.number)).error ≠ some .tooLarge) :
    Standing n (past ++ [l]) (p.add n l)
      (p.builder.addLine n l.tokens (some l.number)).builder.session := by
  have heffect := Builder.addLine_effect n p.builder l.tokens (some (l.number : Int))
  have hsame := h.standing_same (l := l)
  have hopen := @standing_open α _ _ n past p l h
  rw [add]
  generalize p.builder.addLine n l.tokens (some (l.number : Int)) = a
    at heffect hlarge hsame hopen ⊢
  cases heffect with
  | ignored hi =>
    have hk : l.keyword? ≠ some .rule := by
      rcases hi with htokens | ⟨hk, -⟩
      · rw [ClauseLine.keyword?, htokens]
        exact (Option.some_ne_none _).symm
      · exact hk
    exact hsame hk rfl (List.append_nil _) rfl
  | @header word id htokens hk hnew =>
    have hid : l.IsHeader id := by
      refine ⟨?_, word, htokens⟩
      rw [ClauseLine.keyword?, htokens]
      exact hk
    refine h.standing_header hl hid _ ?_ rfl
    cases p.builder.endRule.2 <;> rfl
  | badHeader | badClause => exact standing_skipping n _ _
  | premise hr hk htakes hp =>
    have hrule : l.keyword? ≠ some .rule := fun hrule =>
      htakes.ne_rule (Option.some.inj (hk.symm.trans hrule))
    exact hopen (by rfl) hr hrule rfl (by rfl) (by rfl) (List.append_nil _) rfl
  | @action r k branch a hr hk htakes ha =>
    have hrule : l.keyword? ≠ some .rule := fun hrule =>
      htakes.ne_rule (Option.some.inj (hk.symm.trans hrule))
    refine hopen (by rfl) hr hrule rfl ?_ ?_ (List.append_nil _) rfl
    · cases branch <;> rfl
    · cases branch <;> rfl
  | priority hr htakes htokens hk hx =>
    rw [Builder.mapRule_of_rule? hr, Builder.session_endRule rfl]
    exact h.standing_closed hr (List.append_nil _)
  | tooLarge => exact absurd rfl hlarge

/-- **What is known of the faults stays true at every line.** -/
theorem add (h : Traced n past p) (hl : ∀ l' ∈ past, l'.number < l.number)
    (hlarge : (p.builder.addLine n l.tokens (some l.number)).error ≠ some .tooLarge) :
    Traced n (past ++ [l]) (p.add n l) :=
  h.next hl (h.extends_fault hl) (h.standing_addLine hl hlarge)

/-! ## 4. All lines -/

theorem collect (h : Traced n past p) {ls : List ClauseLine}
    (hordered : (past ++ ls).Pairwise fun l l' => l.number < l'.number)
    (hnone : Builder.NoneTooLarge n p.builder ls) : Traced n (past ++ ls) (p.collect n ls) := by
  induction ls generalizing past p with
  | nil =>
    rw [List.append_nil]
    exact h
  | cons l rest ih =>
    obtain ⟨hlarge, hrest⟩ := Builder.noneTooLarge_cons.mp hnone
    have hl : ∀ l' ∈ past, l'.number < l.number := fun l' hl' =>
      (List.pairwise_append.mp hordered).2.2 l' hl' l List.mem_cons_self
    rw [List.append_cons] at hordered ⊢
    exact ih (h.add hl hlarge) hordered hrest

/-- The faults at the end, all with their places, and a header between any two of them. -/
theorem parted_ended (h : Traced n past p) :
    (∀ f ∈ p.ended.faults, ∃ l ∈ past, f.line = some (l.number : Int)) ∧
      p.ended.faults.Pairwise (Parted past) := by
  have hmissing : ∀ f ∈ p.builder.endRule.2, (∃ l ∈ past, f.line = some (l.number : Int)) ∧
      ∀ g ∈ p.faults, Parted past g f := by
    intro f hf
    obtain ⟨before, header, body, id, rfl, hflawless, rfl, hbefore, -⟩ := h.of_missing hf
    have hmem : header ∈ before ++ header :: body := List.mem_append_right _ List.mem_cons_self
    refine ⟨⟨header, hmem, rfl⟩, ?_⟩
    intro g hg
    exact ⟨header, hmem, hflawless.isHeader.keyword, hbefore g hg, header.number, rfl,
      Int.le_refl _⟩
  refine ⟨?_, List.pairwise_append.mpr ⟨h.parted, ?_, ?_⟩⟩
  · intro f hf
    rcases List.mem_append.mp hf with hf | hf
    · exact h.placed f hf
    · exact (hmissing f (Option.mem_toList.mp hf)).1
  · show p.builder.endRule.2.toList.Pairwise (Parted past)
    cases p.builder.endRule.2 with
    | none => exact List.Pairwise.nil
    | some f => exact List.pairwise_singleton _ f
  · intro g hg f hf
    exact (hmissing f (Option.mem_toList.mp hf)).2 g hg

/-- Every loss, whether a header ended the rule or the end of the text. -/
theorem losses_ended (h : Traced n past p) :
    ∀ f ∈ p.ended.faults, f.cause = .incomplete →
      (∃ before header body after id, past = before ++ header :: (body ++ after) ∧
        (∀ next ∈ after.head?, next.keyword? = some .rule) ∧
          IsFlawless n before header body id ∧ f = missingActions header id) ∧
        ∀ r ∈ p.ended.builder.rules, r.line ≠ f.line := by
  intro f hf hcause
  rcases List.mem_append.mp hf with hf | hf
  · obtain ⟨⟨before, header, body, next, after, id, hpast, hnext, hflawless, hfault⟩, hbegun⟩ :=
      h.losses f hf hcause
    refine ⟨⟨before, header, body, next :: after, id, hpast, ?_, hflawless, hfault⟩, ?_⟩
    · intro next' hnext'
      obtain rfl : next = next' := Option.some.inj hnext'
      exact hnext
    · exact fun r hr => hbegun r (p.builder.endRule_prefix_begun.subset hr)
  · obtain ⟨before, header, body, id, hpast, hflawless, rfl, -, hbuilt⟩ :=
      h.of_missing (Option.mem_toList.mp hf)
    refine ⟨⟨before, header, body, [], id, ?_, nofun, hflawless, rfl⟩, ?_⟩
    · rw [List.append_nil]
      exact hpast
    · exact fun r hr => (hbuilt r hr).ne

end Traced

end Building

/-! ## 5. Texts -/

/-- Faults with a header between any two of them come in the order of their lines. -/
theorem exists_numbers {ls : List ClauseLine} {faults : List Fault}
    (hplaced : ∀ f ∈ faults, ∃ i, f.line = some i) (hparted : faults.Pairwise (Parted ls)) :
    ∃ numbers : List Int, faults.map Fault.line = numbers.map some ∧
      numbers.Pairwise (· < ·) := by
  induction faults with
  | nil => exact ⟨[], rfl, .nil⟩
  | cons f rest ih =>
    obtain ⟨hfirst, hrest⟩ := List.pairwise_cons.mp hparted
    obtain ⟨i, hi⟩ := hplaced f List.mem_cons_self
    obtain ⟨numbers, hnumbers, hincreasing⟩ :=
      ih (fun g hg => hplaced g (List.mem_cons_of_mem f hg)) hrest
    refine ⟨i :: numbers, ?_, List.pairwise_cons.mpr ⟨?_, hincreasing⟩⟩
    · rw [List.map_cons, List.map_cons, hi, hnumbers]
    · intro j hj
      have hmem : some j ∈ rest.map Fault.line := hnumbers ▸ List.mem_map_of_mem hj
      obtain ⟨g, hg, hline⟩ := List.mem_map.mp hmem
      obtain ⟨header, -, -, ⟨i', hi', hlt⟩, j', hj', hle⟩ := hfirst g hg
      obtain rfl : i = i' := Option.some.inj (hi.symm.trans hi')
      obtain rfl : j = j' := Option.some.inj (hline.symm.trans hj')
      exact Int.lt_of_lt_of_le hlt hle

/-- The next header is the first one. -/
theorem exists_nextHeader {rest : List ClauseLine}
    (hordered : rest.Pairwise fun l l' => l.number < l'.number) {header : ClauseLine}
    (hmem : header ∈ rest) (hheader : header.keyword? = some .rule) :
    ∃ next ∈ nextHeader? rest, next.number ≤ header.number := by
  obtain ⟨body, after, rfl, hnext, hbody, -⟩ := exists_block rest
  rcases List.mem_append.mp hmem with hmem | hmem
  · exact absurd hheader (hbody header hmem)
  · cases after with
    | nil => cases hmem
    | cons next after =>
      refine ⟨next, hnext, ?_⟩
      rcases List.mem_cons.mp hmem with rfl | hmem
      · exact Nat.le_refl _
      · obtain ⟨-, hafter, -⟩ := List.pairwise_append.mp hordered
        exact Nat.le_of_lt ((List.pairwise_cons.mp hafter).1 header hmem)

/-- Faults with a header between any two of them are not in one block. -/
theorem atMostOne_inBlock {before rest : List ClauseLine} {header : ClauseLine}
    {faults : List Fault}
    (hordered : (before ++ header :: rest).Pairwise fun l l' => l.number < l'.number)
    (hparted : faults.Pairwise (Parted (before ++ header :: rest))) :
    AtMostOne (InBlock header (nextHeader? rest)) faults := by
  obtain ⟨-, hblock, hbefore⟩ := List.pairwise_append.mp hordered
  refine hparted.imp ?_
  rintro f g ⟨header', hmem, hheader', ⟨i, hi, hlt⟩, j, hj, hle⟩
  rintro ⟨⟨i', hi', hin, -⟩, j', hj', -, hnext⟩
  obtain rfl : i = i' := Option.some.inj (hi.symm.trans hi')
  obtain rfl : j = j' := Option.some.inj (hj.symm.trans hj')
  -- the header between the two is behind that of the block, and then in front of its end
  rcases List.mem_append.mp hmem with hmem | hmem
  · have hfront := hbefore header' hmem header List.mem_cons_self
    omega
  · rcases List.mem_cons.mp hmem with rfl | hmem
    · omega
    · obtain ⟨next, hmemNext, hnumber⟩ :=
        exists_nextHeader (List.pairwise_cons.mp hblock).2 hmem hheader'
      have hend := hnext next hmemNext
      omega

/-- Nor are they in front of the first header. -/
theorem atMostOne_front {ls : List ClauseLine} {faults : List Fault}
    (hordered : ls.Pairwise fun l l' => l.number < l'.number)
    (hparted : faults.Pairwise (Parted ls)) :
    AtMostOne (fun line => ∀ first ∈ nextHeader? ls, line < first.number) faults := by
  refine hparted.imp ?_
  rintro f g ⟨header, hmem, hheader, -, j, hj, hle⟩ ⟨-, j', hj', hfront⟩
  obtain rfl : j = j' := Option.some.inj (hj.symm.trans hj')
  obtain ⟨first, hfirst, hnumber⟩ := exists_nextHeader hordered hmem hheader
  have hlt := hfront first hfirst
  omega

/-- What a reader of faults relies on. -/
structure FaultsOrdered (n : Network α) (ls : List ClauseLine) (rules : List (Rule α))
    (faults : List Fault) : Prop where
  increasing : ∃ numbers : List Int,
    faults.map Fault.line = numbers.map some ∧ numbers.Pairwise (· < ·)
  /-- One in the block of each header. -/
  block : ∀ before header rest, ls = before ++ header :: rest → header.keyword? = some .rule →
    AtMostOne (InBlock header (nextHeader? rest)) faults
  /-- One in front of the first header. -/
  front : AtMostOne (fun line => ∀ first ∈ nextHeader? ls, line < first.number) faults
  /-- An incomplete rule has a fault with its line and its id, and no other line of its block was
  refused. -/
  incomplete : ∀ f ∈ faults, f.cause = .incomplete →
    (∃ before header body after id, ls = before ++ header :: (body ++ after) ∧
      (∀ next ∈ after.head?, next.keyword? = some .rule) ∧
        IsFlawless n before header body id ∧ f = missingActions header id) ∧
      ∀ r ∈ rules, r.line ≠ f.line

/-- **The faults of a text come in the order of their lines, and there is at most one to each
header.** -/
theorem faults_ordered {clock : Clock α} {n : Network α} {lines : List String} {e : Engine α}
    {log : List LogEntry} {faults : List Fault}
    (hbuilt : (Engine.ofClock clock).buildRules n false lines = (e, log, .ok faults)) :
    ∃ ls, Section.clauseLines? lines = some ls ∧ FaultsOrdered n ls e.rules faults := by
  obtain ⟨ls, hls, hnone, rfl, -, rfl⟩ := buildRules_eq_ok_iff.mp hbuilt
  have hordered := Section.clauseLines?_pairwise hls
  have htraced := (Building.traced_nil n).collect hordered hnone
  rw [List.nil_append] at htraced
  obtain ⟨hplaced, hparted⟩ := htraced.parted_ended
  refine ⟨ls, hls, ?_, ?_, atMostOne_front hordered hparted, ?_⟩
  · refine exists_numbers (fun f hf => ?_) hparted
    obtain ⟨l, -, hline⟩ := hplaced f hf
    exact ⟨l.number, hline⟩
  · rintro before header rest rfl -
    exact atMostOne_inBlock hordered hparted
  · have hlosses := htraced.losses_ended
    rw [Building.builder_ended_collect] at hlosses
    exact hlosses

/-- A clause in front of all rules, two rules that are never finished, and one with a mistake. -/
def carelessLines : List String :=
  ["PRIORITY 1", "RULE R1", "IF NODE N1 DEPTH > 1", "RULE R2", "IF NODE N1 DEPTH > HIGH",
    "THEN PUMP P1 STATUS = ON", "AND", "RULE R3", "IF NODE N1 DEPTH > 1"]

/-- The faults of the rules that are never finished are at their headers. -/
def carelessFaults : List Fault :=
  [⟨.sequence, some "PRIORITY", some 1, none⟩, ⟨.incomplete, none, some 2, some "R1"⟩,
    ⟨.number, some "HIGH", some 5, some "R2"⟩, ⟨.incomplete, none, some 8, some "R3"⟩]

open scoped Readers in
theorem faults_ordered_careless : ∃ e log,
    idleEngine.buildRules onePump false carelessLines = (e, log, .ok carelessFaults) ∧
      ∃ ls, Section.clauseLines? carelessLines = some ls ∧
        FaultsOrdered onePump ls e.rules carelessFaults := by
  have hbuilt : idleEngine.buildRules onePump false carelessLines =
      ((idleEngine.buildRules onePump false carelessLines).1,
        (idleEngine.buildRules onePump false carelessLines).2.1, .ok carelessFaults) :=
    Prod.ext rfl (Prod.ext rfl (toOption_eq_some.mp (by decide +kernel)))
  exact ⟨_, _, hbuilt, faults_ordered hbuilt⟩

end Sluice
