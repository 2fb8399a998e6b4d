import Mathlib.Data.List.Induction
import Mathlib.Data.List.Nodup
import Sluice.Control.Arbiter
import Sluice.Proofs.Number.Order

/-!
# The winner of a link

`Candidate.winners` decides in two rounds: first among the candidates for one attribute of a
link, then among the winners of the attributes. Both rounds go through a list of candidates and
let each one compete with whoever is kept for its key. This file says what comes of it, without
rounds and without anyone being kept:

> **the winner of a link stands above every other candidate for that link, and the links stand
> in the order in which they first come up.**

The second half needs nothing about scalars. The first half is where comparison has to be an
order: `rank` puts the candidates in one line, by priority and among equal priorities the earlier
one higher, and for priorities that are numbers `beats` is the order of that line. A priority
that is no number neither beats nor is beaten, so it would stay wherever it came first.
-/

set_option autoImplicit false

namespace Sluice

/-! ## 1. First occurrences -/

theorem eraseDups_concat {κ : Type} [BEq κ] [LawfulBEq κ] (xs : List κ) (x : κ) :
    (xs ++ [x]).eraseDups = if xs.contains x then xs.eraseDups else xs.eraseDups ++ [x] := by
  rw [List.eraseDups_append]
  cases h : xs.contains x with
  | true => simp_all [List.removeAll]
  | false => simp_all [List.removeAll, List.eraseDups_cons]

theorem contains_eraseDups {κ : Type} [BEq κ] [LawfulBEq κ] (xs : List κ) (x : κ) :
    xs.eraseDups.contains x = xs.contains x := by
  rw [Bool.eq_iff_iff, List.contains_iff_mem, List.contains_iff_mem, List.mem_eraseDups]

theorem nodup_eraseDups {κ : Type} [BEq κ] [LawfulBEq κ] (xs : List κ) : xs.eraseDups.Nodup := by
  induction xs using List.reverseRecOn with
  | nil => simp
  | append_singleton xs x ih =>
    rw [eraseDups_concat]
    split
    · exact ih
    · rename_i hx
      rw [← List.concat_eq_append]
      refine ih.concat fun hmem => hx ?_
      rwa [List.contains_iff_mem, ← List.mem_eraseDups]

/-- Dropping repetitions before applying a function makes no difference to what remains once
they are dropped afterwards. -/
theorem eraseDups_map_eraseDups {κ ι : Type} [BEq κ] [LawfulBEq κ] [BEq ι] [LawfulBEq ι]
    (f : κ → ι) (xs : List κ) : (xs.eraseDups.map f).eraseDups = (xs.map f).eraseDups := by
  induction xs using List.reverseRecOn with
  | nil => simp
  | append_singleton xs x ih =>
    rw [eraseDups_concat, List.map_append, List.map_singleton, eraseDups_concat (xs.map f)]
    have hmem : (xs.eraseDups.map f).contains (f x) = (xs.map f).contains (f x) := by
      rw [← contains_eraseDups (xs.map f), ← ih, contains_eraseDups]
    split
    · rename_i hx
      have hfx : (xs.map f).contains (f x) = true := by
        simp only [List.contains_iff_mem] at hx ⊢
        exact List.mem_map_of_mem hx
      rw [if_pos hfx, ih]
    · rw [List.map_append, List.map_singleton, eraseDups_concat, hmem, ih]

namespace Candidate

variable {α : Type} [Scalar α]

/-! ## 2. One round -/

section

variable {κ : Type} [BEq κ] (key : Candidate α → κ)

theorem winnersBy_concat (cs : List (Candidate α)) (c : Candidate α) :
    winnersBy key (cs ++ [c]) = settle key (winnersBy key cs) c := by
  simp [winnersBy]

theorem mem_of_mem_settle {kept : List (Candidate α)} {c w : Candidate α}
    (h : w ∈ settle key kept c) : w ∈ kept ∨ w = c := by
  induction kept with
  | nil => exact Or.inr (by simpa [settle] using h)
  | cons k rest ih =>
    rw [settle] at h
    split at h
    · rcases List.mem_cons.mp h with rfl | hw
      · split
        · exact Or.inr rfl
        · exact Or.inl List.mem_cons_self
      · exact Or.inl (List.mem_cons_of_mem k hw)
    · rcases List.mem_cons.mp h with rfl | hw
      · exact Or.inl List.mem_cons_self
      · exact (ih hw).imp (List.mem_cons_of_mem k) id

theorem mem_of_mem_winnersBy {cs : List (Candidate α)} {w : Candidate α}
    (h : w ∈ winnersBy key cs) : w ∈ cs := by
  induction cs using List.reverseRecOn with
  | nil => simp [winnersBy] at h
  | append_singleton cs c ih =>
    rw [winnersBy_concat] at h
    rcases mem_of_mem_settle key h with hw | rfl
    · exact List.mem_append_left _ (ih hw)
    · simp

variable [LawfulBEq κ]

/-- A key that is there already stays where it is, a new one comes last. -/
theorem map_settle (kept : List (Candidate α)) (c : Candidate α) :
    (settle key kept c).map key =
      if (kept.map key).contains (key c) then kept.map key else kept.map key ++ [key c] := by
  induction kept with
  | nil => simp [settle]
  | cons k rest ih =>
    rw [settle]
    by_cases hk : key k = key c
    · have hwin : key (if c.beats k then c else k) = key c := by split <;> simp [hk]
      simp [hk, hwin]
    · have hck : ¬ key c = key k := fun h => hk h.symm
      rw [if_neg (by simpa using hk), List.map_cons, ih, List.map_cons, List.contains_cons,
        beq_eq_false_iff_ne.mpr hck, Bool.false_or]
      split <;> rfl

/-- The keys of the winners are the keys of the candidates, as they first come up. -/
theorem map_winnersBy (cs : List (Candidate α)) :
    (winnersBy key cs).map key = (cs.map key).eraseDups := by
  induction cs using List.reverseRecOn with
  | nil => simp [winnersBy]
  | append_singleton cs c ih =>
    rw [winnersBy_concat, map_settle, ih, List.map_append, List.map_singleton, eraseDups_concat]
    rw [contains_eraseDups]

end

/-! ## 3. The line of candidates -/

section

variable [OrderedScalar α]

/-- Where a candidate stands: by its priority, and among equal priorities the earlier one
higher. -/
def rank (c : Candidate α) : OrderedScalar.Rank α ×ₗ Natᵒᵈ :=
  toLex (OrderedScalar.rank c.priority, OrderDual.toDual c.order)

theorem beats_iff {c d : Candidate α} (hc : Scalar.isNaN c.priority = false)
    (hd : Scalar.isNaN d.priority = false) : c.beats d = true ↔ d.rank < c.rank := by
  have hgt : c.priority > d.priority ↔
      OrderedScalar.rank d.priority < OrderedScalar.rank c.priority :=
    OrderedScalar.lt_iff_rank hd hc
  have heq := OrderedScalar.beq_iff_rank hc hd
  simp only [beats, Bool.or_eq_true, Bool.and_eq_true, decide_eq_true_iff, hgt, heq, rank,
    Prod.Lex.toLex_lt_toLex, OrderDual.toDual_lt_toDual]
  exact or_congr_right (and_congr_left' eq_comm)

/-- Who is kept after one more candidate has competed was kept before and is not below the new
one, or is the new one and above all that were kept for its key. -/
theorem above_of_mem_settle {κ : Type} [BEq κ] [LawfulBEq κ] {key : Candidate α → κ}
    {kept : List (Candidate α)} {c w : Candidate α} (hnd : (kept.map key).Nodup)
    (hnum : ∀ k ∈ c :: kept, Scalar.isNaN k.priority = false) (h : w ∈ settle key kept c) :
    (w ∈ kept ∧ (key c = key w → c.rank ≤ w.rank)) ∨
      (w = c ∧ ∀ k ∈ kept, key k = key c → k.rank ≤ c.rank) := by
  induction kept with
  | nil => exact Or.inr ⟨by simpa [settle] using h, by simp⟩
  | cons k rest ih =>
    obtain ⟨hkrest, hrest⟩ := List.nodup_cons.mp hnd
    have hc := hnum c List.mem_cons_self
    have hk := hnum k (by simp)
    rw [settle] at h
    by_cases hkc : key k = key c
    · have halone : ∀ k' ∈ rest, key k' ≠ key c := fun k' hk' heq =>
        hkrest (hkc ▸ heq ▸ List.mem_map_of_mem hk')
      rw [if_pos (by simpa using hkc)] at h
      rcases List.mem_cons.mp h with hw | hw
      · by_cases hbeats : c.beats k = true
        · rw [if_pos hbeats] at hw
          refine Or.inr ⟨hw, fun k' hk' heq => ?_⟩
          rcases List.mem_cons.mp hk' with rfl | hk'
          · exact ((beats_iff hc hk).mp hbeats).le
          · exact absurd heq (halone k' hk')
        · rw [if_neg hbeats] at hw
          subst hw
          rw [beats_iff hc hk] at hbeats
          exact Or.inl ⟨List.mem_cons_self, fun _ => not_lt.mp hbeats⟩
      · exact Or.inl ⟨List.mem_cons_of_mem k hw, fun heq => absurd heq.symm (halone w hw)⟩
    · rw [if_neg (by simpa using hkc)] at h
      rcases List.mem_cons.mp h with rfl | hw
      · exact Or.inl ⟨List.mem_cons_self, fun heq => absurd heq.symm hkc⟩
      · have hnum' : ∀ k' ∈ c :: rest, Scalar.isNaN k'.priority = false := fun k' hk' =>
          hnum k' (by simp only [List.mem_cons] at hk' ⊢; tauto)
        rcases ih hrest hnum' hw with ⟨hmem, habove⟩ | ⟨rfl, hall⟩
        · exact Or.inl ⟨List.mem_cons_of_mem k hmem, habove⟩
        · refine Or.inr ⟨rfl, fun k' hk' heq => ?_⟩
          rcases List.mem_cons.mp hk' with rfl | hk'
          · exact absurd heq hkc
          · exact hall k' hk' heq

/-- Each winner of a round stands above all candidates for its key. -/
theorem rank_le_of_mem_winnersBy {κ : Type} [BEq κ] [LawfulBEq κ] {key : Candidate α → κ}
    {cs : List (Candidate α)} (hnum : ∀ c ∈ cs, Scalar.isNaN c.priority = false)
    {w : Candidate α} (hw : w ∈ winnersBy key cs) :
    ∀ c ∈ cs, key c = key w → c.rank ≤ w.rank := by
  induction cs using List.reverseRecOn generalizing w with
  | nil => simp
  | append_singleton cs c ih =>
    have hcs : ∀ d ∈ cs, Scalar.isNaN d.priority = false := fun d hd =>
      hnum d (List.mem_append_left _ hd)
    have hkept : ∀ k ∈ c :: winnersBy key cs, Scalar.isNaN k.priority = false := by
      intro k hk
      rcases List.mem_cons.mp hk with rfl | hk
      · exact hnum k (by simp)
      · exact hcs k (mem_of_mem_winnersBy key hk)
    have hnd : ((winnersBy key cs).map key).Nodup := by
      rw [map_winnersBy]
      exact nodup_eraseDups _
    rw [winnersBy_concat] at hw
    intro d hd heq
    rcases above_of_mem_settle hnd hkept hw with ⟨hmem, habove⟩ | ⟨rfl, hall⟩
    · rcases List.mem_append.mp hd with hd | hd
      · exact ih hcs hmem d hd heq
      · obtain rfl := List.mem_singleton.mp hd
        exact habove heq
    · rcases List.mem_append.mp hd with hd | hd
      · -- whoever was kept for the key stands above `d` and below the new one
        have hkey : key d ∈ (winnersBy key cs).map key := by
          rw [map_winnersBy, List.mem_eraseDups]
          exact List.mem_map_of_mem hd
        obtain ⟨k, hk, hkd⟩ := List.mem_map.mp hkey
        exact (ih hcs hk d hd hkd.symm).trans (hall k hk (hkd.trans heq))
      · rw [List.mem_singleton.mp hd]

end

/-! ## 4. Both rounds -/

def link (c : Candidate α) : Nat := c.action.link

theorem mem_of_mem_winners {cs : List (Candidate α)} {w : Candidate α} (h : w ∈ winners cs) :
    w ∈ cs :=
  mem_of_mem_winnersBy _ (mem_of_mem_winnersBy _ h)

/-- The links of the winners are the links of the candidates, as they first come up. -/
theorem map_link_winners (cs : List (Candidate α)) :
    (winners cs).map link = (cs.map link).eraseDups := by
  have hfirst := map_winnersBy (fun c => (c.action.link, c.action.attr)) cs
  have hlinks : (winnersBy (fun c => (c.action.link, c.action.attr)) cs).map link =
      ((cs.map fun c => (c.action.link, c.action.attr)).eraseDups).map Prod.fst := by
    rw [← hfirst, List.map_map]
    rfl
  rw [show winners cs = winnersBy link (winnersBy (fun c => (c.action.link, c.action.attr)) cs)
    from rfl, map_winnersBy, hlinks, eraseDups_map_eraseDups, List.map_map]
  rfl

/-- **The winner of a link stands above every other candidate for it**, whichever of the two
attributes they are on. -/
theorem rank_le_of_mem_winners [OrderedScalar α] {cs : List (Candidate α)}
    (hnum : ∀ c ∈ cs, Scalar.isNaN c.priority = false) {w : Candidate α} (hw : w ∈ winners cs) :
    ∀ c ∈ cs, c.link = w.link → c.rank ≤ w.rank := by
  intro c hc hlink
  -- the winner of the attribute of `c` stands above `c` and below the winner of the link
  have hkey : (c.action.link, c.action.attr) ∈
      (winnersBy (fun c => (c.action.link, c.action.attr)) cs).map
        fun c => (c.action.link, c.action.attr) := by
    rw [map_winnersBy, List.mem_eraseDups]
    exact List.mem_map_of_mem hc
  obtain ⟨k, hk, hkc⟩ := List.mem_map.mp hkey
  have hck : c.rank ≤ k.rank := rank_le_of_mem_winnersBy hnum hk c hc hkc.symm
  have hklink : k.action.link = w.action.link := (congrArg Prod.fst hkc).trans hlink
  have hnum' : ∀ k ∈ winnersBy (fun c => (c.action.link, c.action.attr)) cs,
      Scalar.isNaN k.priority = false := fun k hk => hnum k (mem_of_mem_winnersBy _ hk)
  exact hck.trans (rank_le_of_mem_winnersBy hnum' hw k hk hklink)

/-! ## 5. Candidates that compare alike

Who wins depends on the keys of the candidates and on how they compare, and on nothing else of
them. So whatever else is done to all candidates is done to the winners. -/

section

variable {f : Candidate α → Candidate α}

theorem settle_map {κ : Type} [BEq κ] {key : Candidate α → κ} (hkey : ∀ c, key (f c) = key c)
    (hbeats : ∀ c d, (f c).beats (f d) = c.beats d) (kept : List (Candidate α)) (c : Candidate α) :
    settle key (kept.map f) (f c) = (settle key kept c).map f := by
  induction kept with
  | nil => rfl
  | cons k rest ih =>
    rw [List.map_cons, settle, settle, hkey, hkey, hbeats, ih]
    by_cases hsame : (key k == key c) = true
    · by_cases hwins : c.beats k = true
      · simp [hsame, hwins]
      · simp [hsame, hwins]
    · simp [hsame]

theorem winnersBy_map {κ : Type} [BEq κ] {key : Candidate α → κ} (hkey : ∀ c, key (f c) = key c)
    (hbeats : ∀ c d, (f c).beats (f d) = c.beats d) (cs : List (Candidate α)) :
    winnersBy key (cs.map f) = (winnersBy key cs).map f := by
  have hfold : ∀ kept, (cs.map f).foldl (settle key) (kept.map f) =
      (cs.foldl (settle key) kept).map f := by
    induction cs with
    | nil => exact fun _ => rfl
    | cons c rest ih =>
      intro kept
      rw [List.map_cons, List.foldl_cons, settle_map hkey hbeats, ih, List.foldl_cons]
  exact hfold []

theorem winners_map
    (hkey : ∀ c, (f c).action.link = c.action.link ∧ (f c).action.attr = c.action.attr)
    (hbeats : ∀ c d, (f c).beats (f d) = c.beats d) (cs : List (Candidate α)) :
    winners (cs.map f) = (winners cs).map f := by
  unfold winners
  rw [winnersBy_map (fun c => by rw [(hkey c).1, (hkey c).2]) hbeats,
    winnersBy_map (fun c => (hkey c).1) hbeats]

end

end Candidate

end Sluice
