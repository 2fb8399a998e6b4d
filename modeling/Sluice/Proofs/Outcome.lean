import Mathlib.Data.List.Forall2
import Sluice.Number.Scalar

/-!
# Outcomes

Most of what the library computes can fail, and is written as a sequence of steps of which the
first failure is the outcome of the whole. To reason about such a sequence is to take it apart:
if the whole succeeds then so does every step. The lemmas here say so of the ways in which
outcomes are put together.
-/

set_option autoImplicit false

namespace Sluice

variable {ε ε' β γ : Type}

theorem bind_eq_ok {x : Except ε β} {f : β → Except ε γ} {c : γ} :
    (x >>= f) = .ok c ↔ ∃ b, x = .ok b ∧ f b = .ok c := by
  cases x with
  | error e => simp [bind, Except.bind]
  | ok b => simp [bind, Except.bind]

theorem map_eq_ok {x : Except ε β} {f : β → γ} {c : γ} :
    x.map f = .ok c ↔ ∃ b, x = .ok b ∧ f b = c := by
  cases x with
  | error e => simp [Except.map]
  | ok b => simp [Except.map]

theorem bind_eq_error {x : Except ε β} {f : β → Except ε γ} {e : ε} :
    (x >>= f) = .error e ↔ x = .error e ∨ ∃ b, x = .ok b ∧ f b = .error e := by
  cases x with
  | error e => simp [bind, Except.bind]
  | ok b => simp [bind, Except.bind]

theorem map_eq_error {x : Except ε β} {f : β → γ} {e : ε} :
    x.map f = .error e ↔ x = .error e := by
  cases x with
  | error e => simp [Except.map]
  | ok b => simp [Except.map]

theorem mapError_eq_ok {x : Except ε β} {f : ε → ε'} {b : β} :
    x.mapError f = .ok b ↔ x = .ok b := by
  cases x with
  | error e => exact iff_of_false nofun nofun
  | ok c =>
    show Except.ok c = .ok b ↔ _
    rw [Except.ok.injEq, Except.ok.injEq]

theorem pure_eq_ok {b c : β} : (pure b : Except ε β) = .ok c ↔ b = c := by
  simp [pure, Except.pure]

theorem toOption_eq_some {x : Except ε β} {b : β} : x.toOption = some b ↔ x = .ok b := by
  cases x with
  | error e => simp [Except.toOption]
  | ok b => simp [Except.toOption]

theorem exists_error_iff {x : Except ε β} : (∃ e, x = .error e) ↔ ¬ ∃ b, x = .ok b := by
  cases x with
  | error e => simp
  | ok b => simp

theorem exists_ok_of_isOk {x : Except ε β} (h : x.isOk = true) : ∃ b, x = .ok b := by
  cases x with
  | error e => cases h
  | ok b => exact ⟨b, rfl⟩

theorem exists_mapM_ok {f : β → Except ε γ} {xs : List β} (h : ∀ x ∈ xs, ∃ y, f x = .ok y) :
    ∃ ys, xs.mapM f = .ok ys := by
  induction xs with
  | nil => exact ⟨[], rfl⟩
  | cons x rest ih =>
    obtain ⟨y, hy⟩ := h x List.mem_cons_self
    obtain ⟨ys, hys⟩ := ih fun x' hx' => h x' (List.mem_cons_of_mem x hx')
    refine ⟨y :: ys, ?_⟩
    rw [List.mapM_cons, hy]
    show (rest.mapM f >>= fun ys => pure (y :: ys)) = _
    rw [hys]
    rfl

theorem forall₂_of_mapM {f : β → Except ε γ} {xs : List β} {ys : List γ}
    (h : xs.mapM f = .ok ys) : List.Forall₂ (fun x y => f x = .ok y) xs ys := by
  induction xs generalizing ys with
  | nil =>
    cases h
    exact List.Forall₂.nil
  | cons x rest ih =>
    rw [List.mapM_cons] at h
    obtain ⟨y, hy, h⟩ := bind_eq_ok.mp h
    obtain ⟨ys', hys, h⟩ := bind_eq_ok.mp h
    cases h
    exact List.Forall₂.cons hy (ih hys)

theorem mapM_of_forall₂ {f : β → Except ε γ} {xs : List β} {ys : List γ}
    (h : List.Forall₂ (fun x y => f x = .ok y) xs ys) : xs.mapM f = .ok ys := by
  induction h with
  | nil => rfl
  | cons hhead _ ih =>
    rw [List.mapM_cons, hhead, ih]
    rfl

theorem exists_of_mem_mapM {f : β → Except ε γ} {xs : List β} {ys : List γ}
    (h : xs.mapM f = .ok ys) : ∀ y ∈ ys, ∃ x ∈ xs, f x = .ok y := by
  have hall := forall₂_of_mapM h
  clear h
  induction hall with
  | nil => simp
  | cons hhead _ ih =>
    intro y hy
    rcases List.mem_cons.mp hy with rfl | hy
    · exact ⟨_, List.mem_cons_self, hhead⟩
    · obtain ⟨x, hx, hfx⟩ := ih y hy
      exact ⟨x, List.mem_cons_of_mem _ hx, hfx⟩

theorem mapM_eq_ok_map {f : β → Except ε γ} {g : β → γ} {xs : List β}
    (h : ∀ x ∈ xs, f x = .ok (g x)) : xs.mapM f = .ok (xs.map g) := by
  induction xs with
  | nil => rfl
  | cons x rest ih =>
    rw [List.mapM_cons, h x List.mem_cons_self, ih fun x' hx' => h x' (List.mem_cons_of_mem x hx')]
    rfl

theorem forall_of_mapM {f : β → Except ε γ} {xs : List β} {ys : List γ}
    (h : xs.mapM f = .ok ys) : ∀ x ∈ xs, ∃ y, f x = .ok y := by
  have hall := forall₂_of_mapM h
  clear h
  induction hall with
  | nil => simp
  | cons hhead _ ih =>
    intro x hx
    rcases List.mem_cons.mp hx with rfl | hx
    · exact ⟨_, hhead⟩
    · exact ih x hx

theorem mapM_cons_eq_some {f : β → Option γ} {x : β} {xs : List β} {ys : List γ} :
    (x :: xs).mapM f = some ys ↔
      ∃ y, f x = some y ∧ ∃ ys', xs.mapM f = some ys' ∧ y :: ys' = ys := by
  rw [List.mapM_cons]
  show ((f x).bind fun y => (xs.mapM f).bind fun ys' => some (y :: ys')) = some ys ↔ _
  simp [Option.bind_eq_some_iff]

theorem mem_mapM_some_iff {f : β → Option γ} {xs : List β} {ys : List γ}
    (h : xs.mapM f = some ys) {y : γ} : y ∈ ys ↔ ∃ x ∈ xs, f x = some y := by
  induction xs generalizing ys with
  | nil =>
    cases h
    simp
  | cons x rest ih =>
    obtain ⟨y', hy', ys', hys', rfl⟩ := mapM_cons_eq_some.mp h
    rw [List.mem_cons, ih hys', List.exists_mem_cons_iff, hy', Option.some.injEq, eq_comm]

theorem exists_mapM_some_iff {f : β → Option γ} {xs : List β} :
    (∃ ys, xs.mapM f = some ys) ↔ ∀ x ∈ xs, (f x).isSome = true := by
  induction xs with
  | nil => exact iff_of_true ⟨[], rfl⟩ nofun
  | cons x rest ih =>
    rw [List.forall_mem_cons, ← ih, Option.isSome_iff_exists]
    simp only [mapM_cons_eq_some]
    constructor
    · rintro ⟨ys, y, hy, ys', hys', -⟩
      exact ⟨⟨y, hy⟩, ys', hys'⟩
    · rintro ⟨⟨y, hy⟩, ys', hys'⟩
      exact ⟨y :: ys', y, hy, ys', hys', rfl⟩

theorem mapM_map_some {f : β → Option γ} {g : β → β} {k : γ → γ}
    (h : ∀ x, f (g x) = (f x).map k) (xs : List β) :
    (xs.map g).mapM f = (xs.mapM f).map (List.map k) := by
  induction xs with
  | nil => rfl
  | cons x rest ih =>
    rw [List.map_cons, List.mapM_cons, List.mapM_cons, ih, h]
    cases f x with
    | none => rfl
    | some y =>
      cases rest.mapM f with
      | none => rfl
      | some ys => rfl

/-! ## Ways to fail -/

/-- Whatever error an outcome is, it is one of a kind. -/
def FailsWith (P : ε → Prop) (x : Except ε β) : Prop := ∀ e, x = .error e → P e

namespace FailsWith

variable {P Q : ε → Prop} {x : Except ε β}

theorem ok (b : β) : FailsWith P (.ok b) := nofun

theorem error {e : ε} (h : P e) : FailsWith P (.error e : Except ε β) := by
  intro e' he
  cases he
  exact h

theorem mono (hx : FailsWith P x) (h : ∀ e, P e → Q e) : FailsWith Q x :=
  fun e he => h e (hx e he)

theorem bind {f : β → Except ε γ} (hx : FailsWith P x) (hf : ∀ b, FailsWith P (f b)) :
    FailsWith P (x >>= f) := by
  intro e he
  rcases bind_eq_error.mp he with he | ⟨b, -, he⟩
  · exact hx e he
  · exact hf b e he

theorem map {f : β → γ} (hx : FailsWith P x) : FailsWith P (x.map f) :=
  fun e he => hx e (map_eq_error.mp he)

end FailsWith

end Sluice
