import Sluice.Proofs.Control.Runs

/-!
# What a move touches

Invariants over runs need to know what a control step leaves alone, whether or not its rules fit
the network and whether or not it is completed. `StepTouches` says it for a step that has a
reading: **of the network only target settings are written, each of them the value of a bid on its
link, and of the engine only memories, the reading and the report**. A step without a reading
touches nothing (`evaluate_unread`).

`Move.Effect` says the same of one link under all moves of a system. What becomes of a link never
depends on another link.
-/

set_option autoImplicit false

namespace Sluice

variable {α : Type}

/-! ## 1. Target settings -/

/-- Two states that differ in target settings only, and there by values that are allowed. -/
structure State.Retargeted (allowed : Nat → α → Prop) (s s' : State α) : Prop where
  nodes : s'.nodes = s.nodes
  length : s'.links.length = s.links.length
  link : ∀ (i : Nat) (l : Link α), s.links[i]? = some l → ∃ x,
    s'.links[i]? = some { l with targetSetting := x } ∧ (x = l.targetSetting ∨ allowed i x)

namespace State.Retargeted

variable {allowed allowed' : Nat → α → Prop} {s s' s'' : State α}

theorem refl (s : State α) : s.Retargeted allowed s :=
  ⟨rfl, rfl, fun _ l hl => ⟨l.targetSetting, hl, Or.inl rfl⟩⟩

theorem trans (h : s.Retargeted allowed s') (h' : s'.Retargeted allowed s'') :
    s.Retargeted allowed s'' := by
  refine ⟨h'.nodes.trans h.nodes, h'.length.trans h.length, ?_⟩
  intro i l hl
  obtain ⟨x, hx, hallowed⟩ := h.link i l hl
  obtain ⟨y, hy, hallowed'⟩ := h'.link i _ hx
  refine ⟨y, hy, ?_⟩
  rcases hallowed' with rfl | hy
  · exact hallowed
  · exact Or.inr hy

theorem mono (h : s.Retargeted allowed s') (hsub : ∀ i x, allowed i x → allowed' i x) :
    s.Retargeted allowed' s' := by
  refine ⟨h.nodes, h.length, ?_⟩
  intro i l hl
  obtain ⟨x, hx, hallowed⟩ := h.link i l hl
  exact ⟨x, hx, hallowed.imp id (hsub i x)⟩

theorem withTarget (s : State α) {i : Nat} {x : α} (h : allowed i x) :
    s.Retargeted allowed (s.withTarget i x) := by
  refine ⟨rfl, s.length_links_withTarget i x, ?_⟩
  intro j l hl
  by_cases hij : i = j
  · subst hij
    exact ⟨x, s.links_withTarget_self x hl, Or.inr h⟩
  · exact ⟨l.targetSetting, (s.links_withTarget_of_ne x hij).trans hl, Or.inl rfl⟩

/-- Every link afterwards was one before. -/
theorem link_before (h : s.Retargeted allowed s') {i : Nat} {l' : Link α}
    (hl' : s'.links[i]? = some l') : ∃ l x, s.links[i]? = some l ∧
      l' = { l with targetSetting := x } ∧ (x = l.targetSetting ∨ allowed i x) := by
  have hi : i < s.links.length := by
    rw [← h.length]
    exact (List.getElem?_eq_some_iff.mp hl').1
  obtain ⟨x, hx, hallowed⟩ := h.link i _ (List.getElem?_eq_getElem hi)
  exact ⟨_, x, List.getElem?_eq_getElem hi, Option.some.inj (hl'.symm.trans hx), hallowed⟩

end State.Retargeted

variable [Scalar α]

/-! ## 2. Writing, also where it is given up -/

namespace Candidate

theorem write_eq_ok {s s' : State α} {c : Candidate α} {k : Committed α}
    (h : c.write s = .ok (s', k)) :
    s' = s.withTarget c.link c.value ∧ c.action.IsWritable s ∧
      ∃ previous, k = c.committed previous := by
  unfold write at h
  obtain ⟨previous, -, h⟩ := bind_eq_ok.mp h
  obtain ⟨state, hset, h⟩ := bind_eq_ok.mp h
  cases h
  unfold State.setTarget at hset
  split at hset
  · rename_i hattr
    split at hset
    · rename_i hlink
      cases hset
      exact ⟨rfl, ⟨hattr, hlink⟩, previous, rfl⟩
    · cases hset
  · cases hset

/-- Whatever is written is the value of a candidate on its link. -/
theorem writeAll_retargeted (cs : List (Candidate α)) (s : State α) :
    s.Retargeted (fun i x => ∃ c ∈ cs, c.link = i ∧ c.value = x) (writeAll s cs).1 := by
  induction cs generalizing s with
  | nil => exact State.Retargeted.refl s
  | cons c rest ih =>
    rw [writeAll]
    cases h : c.write s with
    | error e => exact State.Retargeted.refl s
    | ok p =>
      obtain ⟨s', k⟩ := p
      obtain ⟨rfl, -⟩ := write_eq_ok h
      have hfirst : s.Retargeted (fun i x => ∃ d ∈ c :: rest, d.link = i ∧ d.value = x)
          (s.withTarget c.link c.value) :=
        State.Retargeted.withTarget s ⟨c, List.mem_cons_self, rfl, rfl⟩
      refine hfirst.trans ((ih _).mono ?_)
      rintro i x ⟨d, hd, hlink, hvalue⟩
      exact ⟨d, List.mem_cons_of_mem c hd, hlink, hvalue⟩

/-- An entry has the link and the value of a candidate. -/
theorem mem_of_writeAll {cs : List (Candidate α)} {s s' : State α}
    {committed : List (Committed α)} (h : writeAll s cs = (s', .ok committed)) :
    ∀ k ∈ committed, ∃ c ∈ cs, k.link = c.link ∧ k.value = c.value := by
  induction cs generalizing s committed with
  | nil =>
    cases h
    simp
  | cons c rest ih =>
    rw [writeAll] at h
    cases hc : c.write s with
    | error e =>
      rw [hc] at h
      cases h
    | ok p =>
      obtain ⟨s₁, first⟩ := p
      simp only [hc, Prod.mk.injEq] at h
      obtain ⟨hs, hout⟩ := h
      obtain ⟨others, hothers, rfl⟩ := map_eq_ok.mp hout
      intro k hk
      rcases List.mem_cons.mp hk with rfl | hk
      · obtain ⟨-, -, previous, rfl⟩ := write_eq_ok hc
        exact ⟨c, List.mem_cons_self, rfl, rfl⟩
      · obtain ⟨d, hd, hkd⟩ := ih (Prod.ext hs hothers) k hk
        exact ⟨d, List.mem_cons_of_mem c hd, hkd⟩

/-- Candidates that were all written could be. -/
theorem isWritable_of_writeAll {cs : List (Candidate α)} {s s' : State α}
    {committed : List (Committed α)} (h : writeAll s cs = (s', .ok committed)) :
    ∀ c ∈ cs, c.action.IsWritable s := by
  induction cs generalizing s committed with
  | nil => simp
  | cons c rest ih =>
    rw [writeAll] at h
    cases hc : c.write s with
    | error e =>
      rw [hc] at h
      cases h
    | ok p =>
      obtain ⟨s₁, first⟩ := p
      obtain ⟨rfl, hwritable, -⟩ := write_eq_ok hc
      simp only [hc, Prod.mk.injEq] at h
      obtain ⟨hs, hout⟩ := h
      obtain ⟨others, hothers, -⟩ := map_eq_ok.mp hout
      intro d hd
      rcases List.mem_cons.mp hd with rfl | hd
      · exact hwritable
      · -- writing a target leaves the number of links as it is
        obtain ⟨hattr, hlink⟩ := ih (Prod.ext hs hothers) d hd
        exact ⟨hattr, by simpa using hlink⟩

end Candidate

/-! ## 3. Steps -/

/-- What a control step can touch whose reading is `r`. -/
structure StepTouches (e : Engine α) (n : Network α) (r : Reading α) (step : α)
    (result : StepResult α) : Prop where
  rules : result.engine.rules = e.rules.map (Rule.after n r (Engine.minutes step))
  clock : result.engine.clock = e.clock
  network : result.network = { n with state := result.network.state }
  state : n.state.Retargeted (fun i x => ∃ b ∈ bidsOf n r (Engine.minutes step) e.rules,
    b.action.link = i ∧ b.value = x) result.network.state
  committed : ∀ committed, result.outcome = .ok committed → ∀ k ∈ committed,
    ∃ b ∈ bidsOf n r (Engine.minutes step) e.rules, k.link = b.action.link ∧ k.value = b.value

namespace Engine

theorem exists_bid_of_mem_winnersOf {e : Engine α} {n : Network α} {r : Reading α} {step : α}
    {c : Candidate α} (hc : c ∈ e.winnersOf n r step) :
    ∃ b ∈ bidsOf n r (minutes step) e.rules, b.action.link = c.link ∧ b.value = c.value := by
  obtain ⟨i, b, hb, rfl⟩ := mem_queue_iff.mp (Candidate.mem_of_mem_winners hc)
  exact ⟨b, List.mem_of_getElem? hb, (link_candidate b i).symm, rfl⟩

theorem evaluate_touches {e : Engine α} {r : Reading α} (hr : e.clock.reading = .ok r)
    (n : Network α) (step : α) : StepTouches e n r step (e.evaluate n step) := by
  have hstate : n.state.Retargeted (fun i x => ∃ b ∈ bidsOf n r (minutes step) e.rules,
      b.action.link = i ∧ b.value = x)
      (Candidate.writeAll n.state (e.winnersOf n r step)).1 := by
    refine (Candidate.writeAll_retargeted _ _).mono ?_
    rintro i x ⟨c, hc, rfl, rfl⟩
    exact exists_bid_of_mem_winnersOf hc
  obtain ⟨t, -, heq⟩ := evaluate_eq_match hr n step
  -- the two outcomes differ in what they report, not in what they touch
  cases hw : Candidate.writeAll n.state (e.winnersOf n r step) with
  | mk s written =>
    rw [hw] at heq hstate
    rw [heq]
    cases written with
    | error cause => exact ⟨rfl, rfl, rfl, hstate, fun _ h => by cases h⟩
    | ok committed =>
      refine ⟨rfl, rfl, rfl, hstate, ?_⟩
      intro committed' hout k hk
      cases hout
      obtain ⟨c, hc, hlink, hvalue⟩ := Candidate.mem_of_writeAll hw k hk
      obtain ⟨b, hb, hblink, hbvalue⟩ := exists_bid_of_mem_winnersOf hc
      exact ⟨b, hb, hlink.trans hblink.symm, hvalue.trans hbvalue.symm⟩

theorem writeAll_of_outcome {e : Engine α} {n : Network α} {r : Reading α} {step : α}
    {committed : List (Committed α)} (hr : e.clock.reading = .ok r)
    (h : (e.evaluate n step).outcome = .ok committed) :
    Candidate.writeAll n.state (e.winnersOf n r step) =
      ((e.evaluate n step).network.state, .ok committed) := by
  obtain ⟨t, -, heq⟩ := evaluate_eq_match hr n step
  cases hw : Candidate.writeAll n.state (e.winnersOf n r step) with
  | mk s written =>
    rw [hw] at heq
    rw [heq] at h ⊢
    cases written with
    | error cause => cases h
    | ok committed' =>
      cases h
      rfl

/-- What is committed is the target of its link after the step. -/
theorem link_of_committed {e : Engine α} {n : Network α} {r : Reading α} {step : α}
    {committed : List (Committed α)} (hr : e.clock.reading = .ok r)
    (h : (e.evaluate n step).outcome = .ok committed) {k : Committed α} (hk : k ∈ committed)
    {l : Link α} (hl : n.state.links[k.link]? = some l) :
    (e.evaluate n step).network.state.links[k.link]? =
      some { l with targetSetting := k.value } := by
  have hall := writeAll_of_outcome hr h
  obtain ⟨s, committed', hall', hwritten⟩ :=
    Candidate.writeAll_written (Candidate.isWritable_of_writeAll hall) (nodup_winnersOf e n r step)
  obtain ⟨rfl, hcommitted⟩ := Prod.ext_iff.mp (hall.symm.trans hall')
  cases hcommitted
  obtain ⟨c, hc, m, -, rfl⟩ := hwritten.entry k hk
  exact hwritten.written c hc l hl

/-! A step whose length is given in minutes, or that is given up because it has none. -/

theorem evaluateMinutes_unread {e : Engine α} {cause : InstantError}
    (h : e.clock.reading = .error cause) (n : Network α) (dt : α) :
    e.evaluateMinutes n dt = ⟨e, n, [], .error (.clock cause)⟩ := by
  rw [evaluateMinutes, takeReading, h]
  rfl

theorem rules_evaluateMinutes {e : Engine α} {r : Reading α} (hr : e.clock.reading = .ok r)
    (n : Network α) (dt : α) :
    (e.evaluateMinutes n dt).engine.rules = e.rules.map (Rule.after n r dt) := by
  rw [← map_rule_judge, evaluateMinutes, takeReading_eq hr]
  dsimp only
  split
  · rfl
  · split
    · rfl
    · rfl

theorem clock_evaluateMinutes (e : Engine α) (n : Network α) (dt : α) :
    (e.evaluateMinutes n dt).engine.clock = e.clock := by
  cases hr : e.clock.reading with
  | error cause => rw [evaluateMinutes_unread hr]
  | ok r =>
    rw [evaluateMinutes, takeReading_eq hr]
    dsimp only
    split
    · rfl
    · split
      · rfl
      · rfl

theorem judgeOnly_unread {e : Engine α} {cause : InstantError}
    (h : e.clock.reading = .error cause) (n : Network α) (cause' : LengthError) :
    e.judgeOnly n cause' = ⟨e, n, [], .error (.clock cause)⟩ := by
  rw [judgeOnly, takeReading, h]
  rfl

theorem judgeOnly_eq {e : Engine α} {r : Reading α} (hr : e.clock.reading = .ok r)
    (n : Network α) (cause : LengthError) : ∃ events, e.judgeOnly n cause =
      ⟨{ e with reading := some r }, n, events, .error (.length cause)⟩ := by
  rw [judgeOnly, takeReading_eq hr]
  exact ⟨_, rfl⟩

theorem clock_judgeOnly (e : Engine α) (n : Network α) (cause : LengthError) :
    (e.judgeOnly n cause).engine.clock = e.clock := by
  cases hr : e.clock.reading with
  | error cause' => rw [judgeOnly_unread hr]
  | ok r =>
    obtain ⟨events, heq⟩ := judgeOnly_eq hr n cause
    rw [heq]

end Engine

/-! ## 4. Moves -/

/-- What a move can make of link number `i`. -/
inductive Move.Effect (i : Nat) (l : Link α) : Move α → Link α → Prop
  | setClock (timestamp : Int) : Effect i l (.setClock timestamp) l
  | advanceClock (seconds : α) : Effect i l (.advanceClock seconds) l
  | evaluate (step x : α) : Effect i l (.evaluate step) { l with targetSetting := x }
  | applyTargets (elapsed : α) : Effect i l (.applyTargets elapsed) (l.applyTarget elapsed)
  | writeNode (j : Nat) (c : NodeColumn) (value : α) : Effect i l (.writeNode j c value) l
  | writeLink (c : LinkColumn) (value : α) : Effect i l (.writeLink i c value) (c.set value l)
  | writeOther (j : Nat) (c : LinkColumn) (value : α) (h : j ≠ i) :
      Effect i l (.writeLink j c value) l

theorem Move.Effect.type_eq {i : Nat} {l l' : Link α} {move : Move α} (h : move.Effect i l l') :
    l'.type = l.type := by
  cases h with
  | writeLink c value => cases c <;> rfl
  | _ => rfl

namespace System

def link? (s : System α) (i : Nat) : Option (Link α) := s.network.state.links[i]?

theorem perform_advanceClock (s : System α) (seconds : α) : ∃ clock,
    s.perform (.advanceClock seconds) = { s with engine := { s.engine with clock := clock } } := by
  unfold perform
  dsimp only
  split
  · exact ⟨_, rfl⟩
  · exact ⟨s.engine.clock, rfl⟩

/-- A step without a reading is no move. -/
theorem perform_unread {s : System α} {cause : InstantError}
    (h : s.engine.clock.reading = .error cause) (step : α) : s.perform (.evaluate step) = s := by
  show (⟨(s.engine.evaluate s.network step).engine, (s.engine.evaluate s.network step).network⟩ :
    System α) = s
  rw [Engine.evaluate_unread h]

theorem link?_perform {s : System α} {i : Nat} {l : Link α} (h : s.link? i = some l)
    (move : Move α) : ∃ l', (s.perform move).link? i = some l' ∧ move.Effect i l l' := by
  cases move with
  | setClock timestamp => exact ⟨l, h, .setClock timestamp⟩
  | advanceClock seconds =>
    obtain ⟨clock, hclock⟩ := s.perform_advanceClock seconds
    rw [hclock]
    exact ⟨l, h, .advanceClock seconds⟩
  | evaluate step =>
    cases hr : s.engine.clock.reading with
    | error cause =>
      rw [perform_unread hr]
      exact ⟨l, h, .evaluate step l.targetSetting⟩
    | ok r =>
      obtain ⟨x, hx, -⟩ := (Engine.evaluate_touches hr s.network step).state.link i l h
      exact ⟨_, hx, .evaluate step x⟩
  | applyTargets elapsed =>
    refine ⟨_, ?_, .applyTargets elapsed⟩
    show (s.network.state.links.map (Link.applyTarget elapsed))[i]? = _
    rw [List.getElem?_map]
    exact congrArg (Option.map (Link.applyTarget elapsed)) h
  | writeNode j c value => exact ⟨l, h, .writeNode j c value⟩
  | writeLink j c value =>
    by_cases hji : j = i
    · subst hji
      refine ⟨_, ?_, .writeLink c value⟩
      show (s.network.state.links.modify j (c.set value))[j]? = _
      rw [List.getElem?_modify_eq]
      exact congrArg (Option.map (c.set value)) h
    · refine ⟨l, ?_, .writeOther j c value hji⟩
      show (s.network.state.links.modify j (c.set value))[i]? = _
      rw [List.getElem?_modify_ne _ _ hji]
      exact h

theorem length_links_perform (s : System α) (move : Move α) :
    (s.perform move).network.state.links.length = s.network.state.links.length := by
  cases move with
  | setClock timestamp => rfl
  | advanceClock seconds =>
    obtain ⟨clock, hclock⟩ := s.perform_advanceClock seconds
    rw [hclock]
  | evaluate step =>
    cases hr : s.engine.clock.reading with
    | error cause => rw [perform_unread hr]
    | ok r => exact (Engine.evaluate_touches hr s.network step).state.length
  | applyTargets elapsed => exact List.length_map _
  | writeNode j c value => rfl
  | writeLink j c value => exact List.length_modify _ _ _

/-- Every link after a move was one before. -/
theorem link?_before {s : System α} {move : Move α} {i : Nat} {l' : Link α}
    (h : (s.perform move).link? i = some l') : ∃ l, s.link? i = some l ∧ move.Effect i l l' := by
  have hi : i < s.network.state.links.length := by
    rw [← s.length_links_perform move]
    exact (List.getElem?_eq_some_iff.mp h).1
  obtain ⟨l'', hl'', heffect⟩ := link?_perform (List.getElem?_eq_getElem hi) move
  rw [h] at hl''
  cases hl''
  exact ⟨_, List.getElem?_eq_getElem hi, heffect⟩

theorem tables_perform (s : System α) (move : Move α) :
    (s.perform move).network.curves = s.network.curves ∧
      (s.perform move).network.series = s.network.series := by
  cases move with
  | advanceClock seconds =>
    obtain ⟨clock, hclock⟩ := s.perform_advanceClock seconds
    rw [hclock]
    exact ⟨rfl, rfl⟩
  | evaluate step =>
    cases hr : s.engine.clock.reading with
    | error cause =>
      rw [perform_unread hr]
      exact ⟨rfl, rfl⟩
    | ok r =>
      have hnetwork := (Engine.evaluate_touches hr s.network step).network
      show (s.engine.evaluate s.network step).network.curves = _ ∧
        (s.engine.evaluate s.network step).network.series = _
      rw [hnetwork]
      exact ⟨rfl, rfl⟩
  | _ => exact ⟨rfl, rfl⟩

/-- A move is a step with a reading, or it leaves the rules as they are. -/
theorem rules_perform (s : System α) (move : Move α) :
    (∃ step r, move = .evaluate step ∧ s.engine.clock.reading = .ok r ∧
      (s.perform move).engine.rules =
        s.engine.rules.map (Rule.after s.network r (Engine.minutes step))) ∨
    (∀ step r, move = .evaluate step → s.engine.clock.reading ≠ .ok r) ∧
      (s.perform move).engine.rules = s.engine.rules := by
  cases move with
  | advanceClock seconds =>
    obtain ⟨clock, hclock⟩ := s.perform_advanceClock seconds
    rw [hclock]
    exact Or.inr ⟨nofun, rfl⟩
  | evaluate step =>
    cases hr : s.engine.clock.reading with
    | error cause =>
      rw [perform_unread hr]
      exact Or.inr ⟨nofun, rfl⟩
    | ok r =>
      exact Or.inl ⟨step, r, rfl, rfl, (Engine.evaluate_touches hr s.network step).rules⟩
  | _ => exact Or.inr ⟨nofun, rfl⟩

theorem run_cons (s : System α) (move : Move α) (moves : List (Move α)) :
    s.run (move :: moves) = (s.perform move).run moves := rfl

theorem run_append (s : System α) (moves moves' : List (Move α)) :
    s.run (moves ++ moves') = (s.run moves).run moves' := List.foldl_append

theorem run_concat (s : System α) (moves : List (Move α)) (move : Move α) :
    s.run (moves ++ [move]) = (s.run moves).perform move := run_append s moves [move]

theorem length_links_run (s : System α) (moves : List (Move α)) :
    (s.run moves).network.state.links.length = s.network.state.links.length := by
  induction moves generalizing s with
  | nil => rfl
  | cons move rest ih => rw [run_cons, ih, length_links_perform]

end System

end Sluice
