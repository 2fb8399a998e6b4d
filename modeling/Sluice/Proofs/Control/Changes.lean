import Mathlib.Data.List.Perm.Subperm
import Sluice.Calendar.Readers
import Sluice.Proofs.Control.Built
import Sluice.Proofs.Control.Footprint
import Sluice.Proofs.Network.Naming

/-!
# Which settings change

What changes is found out twice. A step compares each setting that it commits with the target
that the link had, entry by entry, while targets are being written. Later the targets are
compared with the settings, link by link, when they are taken over. The two agree for three
reasons: no link is committed twice, an entry looks at the state before the first write, and
**a step finds each target equal to its setting** (`IsSettled`). The last one is where turns
matter: a step unsettles the system and taking over the targets settles it again, so it holds at
the beginning of each turn if nobody else writes targets or settings.

In between a step is *announced*: the links whose setting is due to change are those of the
entries that say so (`Announces`).
-/

set_option autoImplicit false

namespace Sluice

variable {α : Type} [Scalar α]

/-! ## 1. Turns -/

/-- A move that leaves settings and targets alone. -/
def Move.IsAside : Move α → Prop
  | .setClock _ | .advanceClock _ | .writeNode _ _ _ => True
  | .writeLink _ c _ => c ≠ .setting ∧ c ≠ .targetSetting
  | .evaluate _ | .applyTargets _ => False

/-- What a step has committed; nothing if it was given up. -/
def StepResult.committed (result : StepResult α) : List (Committed α) :=
  match result.outcome with
  | .ok committed => committed
  | .error _ => []

/-- A step and what happens before it, and the targets being taken over at a number of elapsed
seconds and what happens until then. -/
structure Turn (α : Type) where
  before : List (Move α)
  step : α
  between : List (Move α)
  elapsed : α

namespace Turn

def moves (t : Turn α) : List (Move α) :=
  t.before ++ .evaluate t.step :: t.between ++ [.applyTargets t.elapsed]

/-- Nothing else in a turn touches settings or targets. -/
def IsQuiet (t : Turn α) : Prop := ∀ move ∈ t.before ++ t.between, move.IsAside

/-- The system that the step finds. -/
def found (t : Turn α) (s : System α) : System α := s.run t.before

def committed (t : Turn α) (s : System α) : List (Committed α) :=
  ((t.found s).engine.evaluate (t.found s).network t.step).committed

/-- The system whose targets are taken over. -/
def due (t : Turn α) (s : System α) : System α :=
  ((t.found s).perform (.evaluate t.step)).run t.between

/-- The system with the targets taken over. -/
def taken (t : Turn α) (s : System α) : System α := (t.due s).perform (.applyTargets t.elapsed)

theorem run_moves (t : Turn α) (s : System α) : s.run t.moves = t.taken s := by
  unfold moves taken due found
  simp only [System.run, List.foldl_append, List.foldl_cons, List.foldl_nil]

end Turn

/-! ## 2. Moves aside -/

theorem Move.IsAside.settings_eq {move : Move α} (h : move.IsAside) {i : Nat} {l l' : Link α}
    (heffect : move.Effect i l l') :
    l'.setting = l.setting ∧ l'.targetSetting = l.targetSetting := by
  cases heffect with
  | evaluate => cases h
  | applyTargets => cases h
  | writeLink c value =>
    obtain ⟨hsetting, htarget⟩ := h
    cases c with
    | setting => exact absurd rfl hsetting
    | targetSetting => exact absurd rfl htarget
    | _ => exact ⟨rfl, rfl⟩
  | _ => exact ⟨rfl, rfl⟩

namespace System

variable {s : System α}

/-- Every link after some moves aside was one before, with its setting and its target. -/
theorem link?_before_run {moves : List (Move α)} (hmoves : ∀ move ∈ moves, move.IsAside) {i : Nat}
    {l' : Link α} (h : (s.run moves).link? i = some l') :
    ∃ l, s.link? i = some l ∧ l'.setting = l.setting ∧ l'.targetSetting = l.targetSetting := by
  induction moves generalizing s with
  | nil => exact ⟨l', h, rfl, rfl⟩
  | cons move rest ih =>
    obtain ⟨m, hm, hsetting, htarget⟩ :=
      ih (fun move' hmove' => hmoves move' (List.mem_cons_of_mem move hmove')) h
    obtain ⟨l, hl, heffect⟩ := link?_before hm
    obtain ⟨hsetting', htarget'⟩ := (hmoves move List.mem_cons_self).settings_eq heffect
    exact ⟨l, hl, hsetting.trans hsetting', htarget.trans htarget'⟩

/-- Each target is the setting. -/
def IsSettled (s : System α) : Prop := ∀ i l, s.link? i = some l → l.targetSetting = l.setting

theorem IsSettled.run (h : s.IsSettled) {moves : List (Move α)}
    (hmoves : ∀ move ∈ moves, move.IsAside) : (s.run moves).IsSettled := by
  intro i l' hl'
  obtain ⟨l, hl, hsetting, htarget⟩ := link?_before_run hmoves hl'
  rw [hsetting, htarget]
  exact h i l hl

theorem isSettled_applyTargets (s : System α) (elapsed : α) :
    (s.perform (.applyTargets elapsed)).IsSettled := by
  intro i l' hl'
  obtain ⟨l, -, heffect⟩ := link?_before hl'
  cases heffect with
  | applyTargets elapsed => rfl

/-- Whatever some turns did, the last of them has taken the targets over. -/
theorem IsSettled.run_turns (h : s.IsSettled) (turns : List (Turn α)) :
    (s.run (turns.flatMap Turn.moves)).IsSettled := by
  induction turns generalizing s with
  | nil => exact h
  | cons turn rest ih =>
    rw [List.flatMap_cons, run_append, Turn.run_moves]
    exact ih (isSettled_applyTargets _ _)

end System

/-! ## 3. Steps -/

namespace Candidate

variable {s s' : State α} {cs : List (Candidate α)} {committed : List (Committed α)}

/-- An entry says that it changes its link exactly if the link is due to change. -/
theorem Written.isPending_eq (h : Written s cs s' committed)
    (hsettled : ∀ (i : Nat) (l : Link α), s.links[i]? = some l → l.targetSetting = l.setting)
    {k : Committed α} (hk : k ∈ committed) {l' : Link α} (hl' : s'.links[k.link]? = some l') :
    l'.isPending = k.changed := by
  obtain ⟨c, hc, l, hl, rfl⟩ := h.entry k hk
  have hwritten : s'.links[c.link]? = some { l with targetSetting := c.value } :=
    h.written c hc l hl
  cases hl'.symm.trans hwritten
  show (!(l.setting == c.value)) = !(l.targetSetting == c.value)
  rw [hsettled c.link l hl]

theorem Written.kept_of_uncommitted (h : Written s cs s' committed) {i : Nat}
    (hi : i ∉ committed.map Committed.link) : s'.links[i]? = s.links[i]? := by
  rw [h.links] at hi
  apply h.kept
  rintro c hc rfl
  exact hi (List.mem_map_of_mem hc)

end Candidate

namespace System

/-- The links whose setting is due to change are those of the entries that say so. -/
structure Announces (committed : List (Committed α)) (s : System α) : Prop where
  nodup : (committed.map Committed.link).Nodup
  pending : ∀ k ∈ committed, ∃ l, s.link? k.link = some l ∧ l.isPending = k.changed
  rest : ∀ i l, s.link? i = some l → i ∉ committed.map Committed.link → l.isPending = false

variable {s : System α} {committed : List (Committed α)}

theorem Announces.isPending_iff (h : s.Announces committed) {i : Nat} {l : Link α}
    (hl : s.link? i = some l) :
    l.isPending = true ↔ ∃ k ∈ committed, k.link = i ∧ k.changed = true := by
  constructor
  · intro hpending
    by_contra hnone
    have huncommitted : i ∉ committed.map Committed.link := by
      intro hi
      obtain ⟨k, hk, rfl⟩ := List.mem_map.mp hi
      obtain ⟨l', hl', heq⟩ := h.pending k hk
      cases hl.symm.trans hl'
      exact hnone ⟨k, hk, rfl, heq.symm.trans hpending⟩
    rw [h.rest i l hl huncommitted] at hpending
    cases hpending
  · rintro ⟨k, hk, rfl, hchanged⟩
    obtain ⟨l', hl', heq⟩ := h.pending k hk
    cases hl.symm.trans hl'
    exact heq.trans hchanged

theorem Announces.pendingCount_eq (h : s.Announces committed) :
    s.network.state.pendingCount = committed.countP Committed.changed := by
  -- both are lengths of lists of links, in different orders but without repetitions
  let changes := (committed.filter Committed.changed).map Committed.link
  have hperm : (s.network.state.links.findIdxs Link.isPending).Perm changes := by
    apply (List.perm_ext_iff_of_nodup List.nodup_findIdxs _).mpr
    · intro i
      rw [List.mem_findIdxs_iff_exists_getElem_pos, List.mem_map]
      constructor
      · rintro ⟨hi, hpending⟩
        obtain ⟨k, hk, hlink, hchanged⟩ :=
          (h.isPending_iff (List.getElem?_eq_getElem hi)).mp hpending
        exact ⟨k, List.mem_filter.mpr ⟨hk, hchanged⟩, hlink⟩
      · rintro ⟨k, hk, rfl⟩
        obtain ⟨hk, hchanged⟩ := List.mem_filter.mp hk
        obtain ⟨l, hl, heq⟩ := h.pending k hk
        obtain ⟨hi, rfl⟩ := List.getElem?_eq_some_iff.mp hl
        exact ⟨hi, heq.trans hchanged⟩
    · exact h.nodup.sublist (List.filter_sublist.map Committed.link)
  calc s.network.state.pendingCount
      = (s.network.state.links.findIdxs Link.isPending).length := List.length_findIdxs.symm
    _ = changes.length := hperm.length_eq
    _ = committed.countP Committed.changed := by
        rw [List.length_map, List.countP_eq_length_filter]

theorem Announces.run (h : s.Announces committed) {moves : List (Move α)}
    (hmoves : ∀ move ∈ moves, move.IsAside) : (s.run moves).Announces committed := by
  have hpending : ∀ {i : Nat} {l' : Link α}, (s.run moves).link? i = some l' →
      ∃ l, s.link? i = some l ∧ l'.isPending = l.isPending := by
    intro i l' hl'
    obtain ⟨l, hl, hsetting, htarget⟩ := link?_before_run hmoves hl'
    refine ⟨l, hl, ?_⟩
    rw [Link.isPending, hsetting, htarget]
    rfl
  refine ⟨h.nodup, ?_, ?_⟩
  · intro k hk
    obtain ⟨l, hl, heq⟩ := h.pending k hk
    have hi : k.link < (s.run moves).network.state.links.length := by
      rw [length_links_run]
      exact (List.getElem?_eq_some_iff.mp hl).1
    have hl' := List.getElem?_eq_getElem hi
    obtain ⟨m, hm, hsame⟩ := hpending hl'
    cases hl.symm.trans hm
    exact ⟨_, hl', hsame.trans heq⟩
  · intro i l' hl' hi
    obtain ⟨l, hl, hsame⟩ := hpending hl'
    rw [hsame]
    exact h.rest i l hl hi

end System

theorem Turn.setting_taken {turn : Turn α} {s : System α} {i : Nat} {l l' : Link α}
    (hl : (turn.due s).link? i = some l) (hl' : (turn.taken s).link? i = some l') :
    l'.setting = l.targetSetting := by
  obtain ⟨m, hm, heffect⟩ := System.link?_before hl'
  cases hl.symm.trans hm
  cases heffect with
  | applyTargets elapsed => rfl

section

variable [OrderedScalar α]

theorem Link.isPending_of_settled {l : Link α} (hsettled : l.targetSetting = l.setting)
    (hnumber : Scalar.isNaN l.setting = false) : l.isPending = false := by
  unfold isPending
  rw [hsettled, (OrderedScalar.beq_iff_rank hnumber hnumber).mpr rfl]
  rfl

/-- A step that finds the targets settled announces what it commits. -/
theorem System.announces_evaluate {s : System α} (hfit : s.FitTogether)
    (hsettled : s.IsSettled)
    (hnumbers : ∀ l ∈ s.network.state.links, Scalar.isNaN l.setting = false) (step : α) :
    (s.perform (.evaluate step)).Announces (s.engine.evaluate s.network step).committed := by
  have hkept : ∀ i l, s.link? i = some l → l.isPending = false := fun i l hl =>
    Link.isPending_of_settled (hsettled i l hl) (hnumbers l (List.mem_of_getElem? hl))
  cases hr : s.engine.clock.reading with
  | error cause =>
    rw [perform_unread hr, Engine.evaluate_unread hr]
    refine ⟨List.nodup_nil, nofun, ?_⟩
    intro i l hl _
    exact hkept i l hl
  | ok r =>
    obtain ⟨state, committed, stamp, heq, hwritten⟩ :=
      Engine.evaluate_written step hr hfit.isWritable
    have hlink : ∀ i, (s.perform (.evaluate step)).link? i = state.links[i]? := by
      intro i
      rw [perform, heq]
      rfl
    rw [heq]
    refine ⟨?_, ?_, ?_⟩
    · show (committed.map Committed.link).Nodup
      rw [hwritten.links, Engine.winnersOf, Candidate.map_link_winners]
      exact nodup_eraseDups _
    · intro k hk
      obtain ⟨c, hc, l, hl, rfl⟩ := hwritten.entry k hk
      have hl' : state.links[c.link]? = some { l with targetSetting := c.value } :=
        hwritten.written c hc l hl
      exact ⟨_, (hlink _).trans hl', hwritten.isPending_eq hsettled hk hl'⟩
    · intro i l hl hi
      rw [hlink, hwritten.kept_of_uncommitted hi] at hl
      exact hkept i l hl

/-! ## 4. Turns of a run -/

/-- A turn that finds the targets settled reports what it changes. -/
theorem Turn.reports {turn : Turn α} (hquiet : turn.IsQuiet) {s : System α}
    (hfit : s.FitTogether) (hsettled : s.IsSettled)
    (hnumbers : ∀ l ∈ (turn.found s).network.state.links, Scalar.isNaN l.setting = false) :
    (turn.due s).Announces (turn.committed s) := by
  obtain ⟨hbefore, hbetween⟩ := List.forall_mem_append.mp hquiet
  have hfound : (turn.found s).IsSettled := hsettled.run hbefore
  exact (System.announces_evaluate (hfit.run turn.before) hfound hnumbers turn.step).run hbetween

/-- **What is reported to change is what changes.** Where turns follow each other and only they
write settings and targets, as many links change their setting as committed entries say so, they
are the links of those entries, and each setting is its target afterwards. -/
theorem reported_changes_happen [TimeReader α] {data : Json} {origin : Origin α} {n : Network α}
    {e : Engine α} (hload : Dataset.load data origin = .ok n) (hbuilt : e.IsBuilt n)
    (earlier : List (Turn α)) {s : System α}
    (hs : s = System.run ⟨e, n⟩ (earlier.flatMap Turn.moves)) {turn : Turn α}
    (hquiet : turn.IsQuiet)
    (hnumbers : ∀ l ∈ (turn.found s).network.state.links, Scalar.isNaN l.setting = false) :
    (turn.due s).network.state.pendingCount = (turn.committed s).countP Committed.changed ∧
      (∀ i l l', (turn.due s).link? i = some l → (turn.taken s).link? i = some l' →
        ((l.setting == l'.setting) = false ↔
          ∃ k ∈ turn.committed s, k.link = i ∧ k.changed = true)) ∧
      ∀ l ∈ (turn.taken s).network.state.links, l.setting = l.targetSetting := by
  have hstart : System.IsSettled ⟨e, n⟩ := fun i l hl =>
    Dataset.targetSetting_of_load hload l (List.mem_of_getElem? hl)
  have hfit : System.FitTogether ⟨e, n⟩ := hbuilt.fitTogether (Dataset.indexed_of_load hload)
  have hreports : (turn.due s).Announces (turn.committed s) := by
    subst hs
    exact turn.reports hquiet (hfit.run _) (hstart.run_turns earlier) hnumbers
  refine ⟨hreports.pendingCount_eq, ?_, ?_⟩
  · intro i l l' hl hl'
    rw [Turn.setting_taken hl hl', ← hreports.isPending_iff hl]
    unfold Link.isPending
    rw [Bool.not_eq_true']
  · intro l hl
    obtain ⟨i, hi⟩ := List.getElem?_of_mem hl
    exact (System.isSettled_applyTargets _ _ i l hi).symm

end

/-- A rule that stops the pump while there is water, and turns it on otherwise. -/
def floodText : List String :=
  ["RULE R1", "IF NODE N1 DEPTH > 1", "THEN PUMP P1 STATUS = OFF", "ELSE PUMP P1 STATUS = ON"]

/-- Water comes, and the pump is stopped. -/
def flooding : Turn Rat :=
  ⟨[.setClock 60, .writeNode 0 .depth 3], 60, [.writeLink 0 .flow 2], 120⟩

open scoped Readers in
theorem reported_changes_happen_flooding : ∃ (n : Network Rat) (e : Engine Rat) (s : System Rat),
    Dataset.load pumpData .epoch = .ok n ∧ e.IsBuilt n ∧
    s = System.run ⟨e, n⟩ ([⟨[], 60, [], 60⟩].flatMap Turn.moves) ∧
    (flooding.due s).network.state.pendingCount = 1 ∧
    (flooding.due s).network.state.pendingCount =
      (flooding.committed s).countP Committed.changed ∧
    (∀ i l l', (flooding.due s).link? i = some l → (flooding.taken s).link? i = some l' →
      ((l.setting == l'.setting) = false ↔
        ∃ k ∈ flooding.committed s, k.link = i ∧ k.changed = true)) ∧
    ∀ l ∈ (flooding.taken s).network.state.links, l.setting = l.targetSetting := by
  let clock : Clock Rat := Clock.start (Timeline.anchored 0)
  have hdata : (match Dataset.load pumpData (.epoch : Origin Rat) with
      | .ok n =>
        let e := ((Engine.ofClock clock).buildRules n true floodText).1
        let s := System.run ⟨e, n⟩ ([⟨[], 60, [], 60⟩].flatMap Turn.moves)
        decide ((flooding.due s).network.state.pendingCount = 1)
      | .error _ => false) = true := by decide +kernel
  split at hdata
  · rename_i n hload
    have hbuilt : ((Engine.ofClock clock).buildRules n true floodText).1.IsBuilt n :=
      .buildRules (.ofClock clock) true floodText
    have hquiet : flooding.IsQuiet := by simp [flooding, Turn.IsQuiet, Move.IsAside]
    exact ⟨n, _, _, hload, hbuilt, rfl, of_decide_eq_true hdata,
      reported_changes_happen hload hbuilt _ rfl hquiet fun _ _ => rfl⟩
  · cases hdata

end Sluice
