import Mathlib.Tactic.Linarith
import Mathlib.Tactic.Ring
import Sluice.Proofs.Network.Indexing
import Sluice.Proofs.Number.Exact

/-!
# What a table says between its points

A lookup searches for the segment of its argument in a way that depends on the size of the table,
and then computes. In exact arithmetic, and in a table in order, none of this shows:

> **the value of a table is on the broken line through its points, which goes on level on both
> sides** (`lookup_interpolates`).

`Interpolates` is that line, as a relation. What else there is to know of lookups is proved of the
line: the bounds between which they stay (`Interpolates.mem_bounds`), the value at a point and in a
segment (`Interpolates.eq_point`, `Interpolates.eq_segment`, `Interpolates.mem_segment`), and that
the line goes along when all points are moved (`Interpolates.of_moved`).
-/

set_option autoImplicit false

namespace Sluice

namespace Table

/-! ## 1. Searching -/

/-- Where the indices that pass come first, halving finds their end. -/
theorem bisect_spec {passes : Nat → Bool}
    (hdown : ∀ i j, i ≤ j → passes j = true → passes i = true) (lo hi : Nat) :
    (∀ i, lo ≤ i → i < bisect passes lo hi → passes i = true) ∧
      ∀ i, bisect passes lo hi ≤ i → i < hi → passes i = false := by
  fun_induction bisect passes lo hi with
  | case1 lo hi hlt mid hmid ih =>
    refine ⟨?_, ih.2⟩
    intro i hlo hi
    by_cases hle : i ≤ mid
    · exact hdown i mid hle hmid
    · exact ih.1 i (by omega) hi
  | case2 lo hi hlt mid hmid ih =>
    refine ⟨ih.1, ?_⟩
    intro i hlo _
    by_cases hlt : i < mid
    · exact ih.2 i hlo hlt
    · exact Bool.eq_false_iff.mpr fun h => hmid (hdown mid i (by omega) h)
  | case3 lo hi hge => exact ⟨fun i _ _ => by omega, fun i _ _ => by omega⟩

theorem any_takeWhile {β : Type} (f : β → Bool) (l : List β) :
    (∀ i < (l.takeWhile f).length, l[i]?.any f = true) ∧
      l[(l.takeWhile f).length]?.any f = false := by
  induction l with
  | nil => simp
  | cons a rest ih =>
    by_cases ha : f a = true
    · rw [List.takeWhile_cons_of_pos ha, List.length_cons]
      refine ⟨?_, ih.2⟩
      intro i hi
      cases i with
      | zero => exact ha
      | succ i => exact ih.1 i (Nat.lt_of_succ_lt_succ hi)
    · rw [List.takeWhile_cons_of_neg ha]
      exact ⟨fun i hi => absurd hi (Nat.not_lt_zero i), Bool.eq_false_iff.mpr ha⟩

/-- The points go from left to right. -/
def IsIncreasing (points : List (Point Rat)) : Prop := points.Pairwise fun p q => p.x < q.x

section

variable {points : List (Point Rat)} {x : Rat}

theorem isReached_iff {i : Nat} :
    isReached points x i = true ↔ ∃ p, points[i]? = some p ∧ p.x ≤ x := by
  unfold isReached
  cases points[i]? with
  | none => simp
  | some p => simp

theorem isReached_of_le (hinc : IsIncreasing points) (i j : Nat) (hij : i ≤ j)
    (h : isReached points x j = true) : isReached points x i = true := by
  obtain ⟨q, hq, hqx⟩ := isReached_iff.mp h
  obtain ⟨hj, rfl⟩ := List.getElem?_eq_some_iff.mp hq
  have hi : i < points.length := Nat.lt_of_le_of_lt hij hj
  refine isReached_iff.mpr ⟨points[i], List.getElem?_eq_getElem hi, ?_⟩
  rcases hij.eq_or_lt with rfl | hlt
  · exact hqx
  · exact (List.pairwise_iff_getElem.mp hinc i j hi hj hlt).le.trans hqx

theorem isReached_eq_not_isRight {i : Nat} (hi : i < points.length) :
    isReached points x i = !isRight points x i := by
  unfold isReached isRight
  rw [List.getElem?_eq_getElem hi, Bool.eq_iff_iff]
  simp

theorem isReached_of_length_le {i : Nat} (hi : points.length ≤ i) :
    isReached points x i = false := by
  unfold isReached
  rw [List.getElem?_eq_none hi]
  rfl

/-- The segment starts at a point that is reached, and the next one is not. -/
theorem segment_spec (hinc : IsIncreasing points) (hfirst : isReached points x 0 = true) :
    isReached points x (segment points x) = true ∧
      isReached points x (segment points x + 1) = false := by
  have hright : ∀ {i}, isRight points x i = true → isReached points x i = false := by
    intro i hi
    by_cases hlt : i < points.length
    · rw [isReached_eq_not_isRight hlt, hi]
      rfl
    · exact isReached_of_length_le (Nat.le_of_not_lt hlt)
  have hreached : ∀ {i}, i < points.length → ¬ isRight points x i = true →
      isReached points x i = true := by
    intro i hlt hi
    rw [isReached_eq_not_isRight hlt, Bool.eq_false_iff.mpr hi]
    rfl
  unfold segment
  dsimp only
  split
  · -- walking stops behind the last point that is reached
    obtain ⟨hbefore, hend⟩ := any_takeWhile (fun p : Point Rat => decide (p.x ≤ x))
      (points.drop 1)
    generalize ((points.drop 1).takeWhile fun p => decide (p.x ≤ x)).length = k at hbefore hend
    simp only [List.getElem?_drop, Nat.add_comm 1] at hbefore hend
    refine ⟨?_, hend⟩
    cases k with
    | zero => exact hfirst
    | succ k => exact hbefore k k.lt_succ_self
  split
  · rename_i h1
    exact ⟨hfirst, hright h1⟩
  rename_i h1
  split
  · rename_i h2
    exact ⟨hreached (by omega) h1, hright h2⟩
  rename_i h2
  split
  · rename_i h3
    exact ⟨hreached (by omega) h2, hright h3⟩
  rename_i h3
  generalize hstop : (if (decide (10 < points.length) && isRight points x 9) = true then 9
    else points.length) = stop
  have hlt : 3 < stop := by
    rw [← hstop]
    split
    · omega
    · omega
  have hout : isReached points x stop = false := by
    rw [← hstop]
    split
    · rename_i h9
      exact hright (Bool.and_eq_true _ _ |>.mp h9).2
    · exact isReached_of_length_le le_rfl
  obtain ⟨hbefore, hafter⟩ := bisect_spec (isReached_of_le hinc (x := x)) 3 stop
  obtain ⟨hlo, hhi⟩ := bisect_mem (isReached points x) 3 stop hlt.le
  generalize bisect (isReached points x) 3 stop = m at hbefore hafter hlo hhi
  -- point number 3 is reached, so the search goes further
  have hm : 3 < m := by
    by_contra hle
    have hm3 : isReached points x 3 = false := hafter 3 (by omega) hlt
    rw [hreached (by omega) h3] at hm3
    cases hm3
  rw [Nat.sub_add_cancel (by omega)]
  refine ⟨hbefore (m - 1) (by omega) (by omega), ?_⟩
  rcases hhi.eq_or_lt with rfl | hlt
  · exact hout
  · exact hafter m le_rfl hlt

end

/-! ## 2. The line -/

/-- The broken line through some points, level on both sides of them. -/
inductive Interpolates (points : List (Point Rat)) (x : Rat) : Rat → Prop
  | before {p : Point Rat} (hp : points.head? = some p) (hx : x ≤ p.x) : Interpolates points x p.y
  | after {p : Point Rat} (hp : points.getLast? = some p) (hx : p.x ≤ x) :
      Interpolates points x p.y
  | between {i : Nat} {p q : Point Rat} (hp : points[i]? = some p) (hq : points[i + 1]? = some q)
      (hleft : p.x ≤ x) (hright : x < q.x) :
      Interpolates points x (p.y + (q.y - p.y) * ((x - p.x) / (q.x - p.x)))

/-- The line stays between bounds for its points. -/
theorem Interpolates.mem_bounds {points : List (Point Rat)} {x y lo hi : Rat}
    (h : Interpolates points x y) (hpoints : ∀ p ∈ points, lo ≤ p.y ∧ p.y ≤ hi) :
    lo ≤ y ∧ y ≤ hi := by
  cases h with
  | before hp hx => exact hpoints _ (List.mem_of_head? hp)
  | after hp hx => exact hpoints _ (List.mem_of_getLast? hp)
  | @between i p q hp hq hleft hright =>
    have hpy := hpoints p (List.mem_of_getElem? hp)
    have hqy := hpoints q (List.mem_of_getElem? hq)
    obtain ⟨s, hs⟩ : ∃ s, (x - p.x) / (q.x - p.x) = s := ⟨_, rfl⟩
    have hs0 : 0 ≤ s := by
      rw [← hs]
      exact div_nonneg (by linarith) (by linarith)
    have hs1 : s ≤ 1 := by
      rw [← hs, div_le_one (by linarith)]
      linarith
    rw [hs]
    constructor
    · nlinarith
    · nlinarith

/-! ### One value at each place

A point of the table belongs to two segments, and the first and the last one also to the level ends.
All that these say of it is its own value. So the line has one value everywhere, and which one it is
follows from the place, however it was found. -/

section

variable {points : List (Point Rat)} {x y : Rat} {p q : Point Rat} {i j : Nat}

theorem IsIncreasing.lt (hinc : IsIncreasing points) (hij : i < j) (hp : points[i]? = some p)
    (hq : points[j]? = some q) : p.x < q.x := by
  obtain ⟨hi, rfl⟩ := List.getElem?_eq_some_iff.mp hp
  obtain ⟨hj, rfl⟩ := List.getElem?_eq_some_iff.mp hq
  exact List.pairwise_iff_getElem.mp hinc i j hi hj hij

/-- A point that is not further to the right does not come later. -/
theorem IsIncreasing.index_le (hinc : IsIncreasing points) (hp : points[i]? = some p)
    (hq : points[j]? = some q) (hle : q.x ≤ p.x) : j ≤ i := by
  by_contra hlt
  exact (hinc.lt (not_le.mp hlt) hp hq).not_ge hle

/-- A point that is further to the right comes later. -/
theorem IsIncreasing.index_lt (hinc : IsIncreasing points) (hp : points[i]? = some p)
    (hq : points[j]? = some q) (hlt : p.x < q.x) : i < j := by
  by_contra hle
  rcases (not_lt.mp hle).eq_or_lt with rfl | hji
  · rw [hp] at hq
    rw [Option.some.inj hq] at hlt
    exact lt_irrefl _ hlt
  · exact (hinc.lt hji hq hp).not_gt hlt

theorem between_of_eq (hx : x = p.x) :
    p.y + (q.y - p.y) * ((x - p.x) / (q.x - p.x)) = p.y := by
  rw [hx, sub_self, zero_div, mul_zero, add_zero]

theorem Interpolates.eq_first (h : Interpolates points x y) (hinc : IsIncreasing points)
    (hp : points.head? = some p) (hx : x ≤ p.x) : y = p.y := by
  have hp₀ : points[0]? = some p := by rw [← hp, List.head?_eq_getElem?]
  cases h with
  | before hp' hx' =>
    rw [hp] at hp'
    rw [Option.some.inj hp']
  | after hq hx' =>
    rw [List.getLast?_eq_getElem?] at hq
    have hindex := hinc.index_le hp₀ hq (hx'.trans hx)
    rw [Nat.le_zero.mp hindex, hp₀] at hq
    rw [Option.some.inj hq]
  | between hq hq' hleft hright =>
    have hindex := hinc.index_le hp₀ hq (hleft.trans hx)
    rw [Nat.le_zero.mp hindex, hp₀] at hq
    obtain rfl := Option.some.inj hq
    exact between_of_eq (hx.antisymm hleft)

theorem Interpolates.eq_last (h : Interpolates points x y) (hinc : IsIncreasing points)
    (hp : points.getLast? = some p) (hx : p.x ≤ x) : y = p.y := by
  cases h with
  | before hq hx' => exact (Interpolates.eq_first (.after hp hx) hinc hq hx').symm
  | after hp' hx' =>
    rw [hp] at hp'
    rw [Option.some.inj hp']
  | @between i p' q' hq hq' hleft hright =>
    -- the end of a segment is not behind the last point
    rw [List.getLast?_eq_getElem?] at hp
    have hbound := (List.getElem?_eq_some_iff.mp hq').1
    have hindex := hinc.index_le hq' hp (hx.trans hright.le)
    rw [show points.length - 1 = i + 1 by omega, hq'] at hp
    rw [Option.some.inj hp] at hright
    exact absurd hright hx.not_gt

theorem Interpolates.eq_between (h : Interpolates points x y) (hinc : IsIncreasing points)
    (hp : points[i]? = some p) (hq : points[i + 1]? = some q) (hleft : p.x ≤ x)
    (hright : x < q.x) : y = p.y + (q.y - p.y) * ((x - p.x) / (q.x - p.x)) := by
  cases h with
  | before hp' hx => exact (Interpolates.eq_first (.between hp hq hleft hright) hinc hp' hx).symm
  | after hp' hx => exact (Interpolates.eq_last (.between hp hq hleft hright) hinc hp' hx).symm
  | @between j p' q' hp' hq' hleft' hright' =>
    -- two segments that hold the same place are one
    have hij := hinc.index_lt hp hq' (hleft.trans_lt hright')
    have hji := hinc.index_lt hp' hq (hleft'.trans_lt hright)
    obtain rfl : i = j := by omega
    rw [hp] at hp'
    rw [hq] at hq'
    rw [Option.some.inj hp', Option.some.inj hq']

/-- At a point of the table the line has its value. -/
theorem Interpolates.eq_point (h : Interpolates points x y) (hinc : IsIncreasing points)
    (hp : points[i]? = some p) (hx : x = p.x) : y = p.y := by
  have hlt := (List.getElem?_eq_some_iff.mp hp).1
  by_cases hlast : i + 1 < points.length
  · have hq : points[i + 1]? = some points[i + 1] := List.getElem?_eq_getElem hlast
    rw [h.eq_between hinc hp hq hx.ge (hx.trans_lt (hinc.lt i.lt_succ_self hp hq)),
      between_of_eq hx]
  · refine h.eq_last hinc ?_ hx.ge
    rw [List.getLast?_eq_getElem?, ← hp]
    congr 1
    omega

/-- Between two points the line is the one through both of them, the second one included. -/
theorem Interpolates.eq_segment (h : Interpolates points x y) (hinc : IsIncreasing points)
    (hp : points[i]? = some p) (hq : points[i + 1]? = some q) (hleft : p.x ≤ x)
    (hright : x ≤ q.x) : y = p.y + (q.y - p.y) * ((x - p.x) / (q.x - p.x)) := by
  rcases hright.eq_or_lt with hx | hlt
  · have hwidth : q.x - p.x ≠ 0 := (sub_pos.mpr (hinc.lt i.lt_succ_self hp hq)).ne'
    rw [h.eq_point hinc hq hx, hx, div_self hwidth]
    ring
  · exact h.eq_between hinc hp hq hleft hlt

/-- Between two points the line has a value between theirs. -/
theorem Interpolates.mem_segment (h : Interpolates points x y) (hinc : IsIncreasing points)
    (hp : points[i]? = some p) (hq : points[i + 1]? = some q) (hleft : p.x ≤ x)
    (hright : x ≤ q.x) : min p.y q.y ≤ y ∧ y ≤ max p.y q.y := by
  have hsegment : Interpolates [p, q] x y := by
    rcases hright.eq_or_lt with hx | hlt
    · rw [h.eq_point hinc hq hx]
      exact .after rfl hx.ge
    · rw [h.eq_between hinc hp hq hleft hlt]
      exact .between (i := 0) rfl rfl hleft hlt
  refine hsegment.mem_bounds ?_
  intro r hr
  rcases List.mem_pair.mp hr with rfl | rfl
  · exact ⟨min_le_left _ _, le_max_left _ _⟩
  · exact ⟨min_le_right _ _, le_max_right _ _⟩

end

/-! ### Moving a table -/

/-- The points, all of them a distance to the right. -/
def moved (d : Rat) (points : List (Point Rat)) : List (Point Rat) :=
  points.map fun p => ⟨d + p.x, p.y⟩

theorem IsIncreasing.moved {points : List (Point Rat)} (hinc : IsIncreasing points) (d : Rat) :
    IsIncreasing (moved d points) :=
  List.pairwise_map.mpr (hinc.imp fun hlt => add_lt_add_right hlt d)

theorem Interpolates.of_moved {points : List (Point Rat)} {d x y : Rat}
    (h : Interpolates (moved d points) (d + x) y) : Interpolates points x y := by
  unfold moved at h
  cases h with
  | before hfirst hx =>
    rw [List.head?_map] at hfirst
    obtain ⟨p, hp, rfl⟩ := Option.map_eq_some_iff.mp hfirst
    exact .before (p := p) hp (le_of_add_le_add_left (a := d) hx)
  | after hlast hx =>
    rw [List.getLast?_map] at hlast
    obtain ⟨p, hp, rfl⟩ := Option.map_eq_some_iff.mp hlast
    exact .after (p := p) hp (le_of_add_le_add_left (a := d) hx)
  | between hstart hend hleft hright =>
    rw [List.getElem?_map] at hstart hend
    obtain ⟨p, hp, rfl⟩ := Option.map_eq_some_iff.mp hstart
    obtain ⟨q, hq, rfl⟩ := Option.map_eq_some_iff.mp hend
    rw [add_sub_add_left_eq_sub, add_sub_add_left_eq_sub]
    exact .between hp hq (le_of_add_le_add_left (a := d) hleft)
      (lt_of_add_lt_add_left (a := d) hright)

theorem line_eq (p q : Point Rat) (x : Rat) :
    line p q x = p.y + (q.y - p.y) * ((x - p.x) / (q.x - p.x)) := by
  show (q.y - p.y) / (q.x - p.x) * (x - p.x) + p.y = _
  ring

theorem valueOn_interpolates {points : List (Point Rat)} {x : Rat} {k : Nat}
    (hk : isReached points x k = true) (hnext : isReached points x (k + 1) = false) :
    Interpolates points x (valueOn x (points.drop k)) := by
  obtain ⟨p, hp, hpx⟩ := isReached_iff.mp hk
  obtain ⟨hlt, rfl⟩ := List.getElem?_eq_some_iff.mp hp
  rw [List.drop_eq_getElem_cons hlt]
  by_cases hlast : k + 1 < points.length
  · have hq : points[k + 1]? = some points[k + 1] := List.getElem?_eq_getElem hlast
    have hqx : x < points[k + 1].x := by
      by_contra hle
      rw [isReached_iff.mpr ⟨_, hq, not_lt.mp hle⟩] at hnext
      cases hnext
    have hline := Interpolates.between hp hq hpx hqx
    rw [List.drop_eq_getElem_cons hlast]
    unfold valueOn
    dsimp only
    by_cases hx : points[k].x = x
    · rw [if_pos (beq_iff_eq.mpr hx)]
      rwa [hx, sub_self, zero_div, mul_zero, add_zero] at hline
    · rw [if_neg (mt beq_iff_eq.mp hx), line_eq]
      exact hline
  · rw [List.drop_eq_nil_of_le (Nat.le_of_not_lt hlast)]
    refine .after ?_ hpx
    rw [List.getLast?_eq_getElem?, ← hp]
    congr 1
    omega

/-- **A lookup is on the broken line through the points.** -/
theorem lookup_interpolates {t : Table Rat} (hinc : IsIncreasing t.points)
    (hne : t.points ≠ []) (x : Rat) : Interpolates t.points x (t.lookup x) := by
  unfold lookup
  cases hpoints : t.points with
  | nil => exact absurd hpoints hne
  | cons first rest =>
    rw [hpoints] at hinc
    have hlast : (first :: rest).getLast? = some (rest.getLastD first) := by
      rw [List.getLast?_cons, List.getLastD_eq_getLast?]
    unfold valueAt
    dsimp only
    split
    · rename_i hnil
      obtain rfl := List.isEmpty_iff.mp hnil
      rcases le_total x first.x with hx | hx
      · exact .before rfl hx
      · exact .after rfl hx
    split
    · rename_i hnan
      cases hnan
    split
    · rename_i hx
      exact .after hlast (le_of_lt hx)
    split
    · rename_i hx
      exact .before rfl (le_of_lt hx)
    · rename_i hx
      have hfirst : isReached (first :: rest) x 0 = true :=
        isReached_iff.mpr ⟨first, rfl, not_lt.mp hx⟩
      obtain ⟨hk, hnext⟩ := segment_spec hinc hfirst
      exact valueOn_interpolates hk hnext

theorem lookup_eq_zero {t : Table Rat} (hnil : t.points = []) (x : Rat) : t.lookup x = 0 := by
  unfold lookup
  rw [hnil]
  exact Scalar.zero_rat

theorem lookup_mem_bounds {t : Table Rat} (hinc : IsIncreasing t.points) {lo hi : Rat}
    (hzero : lo ≤ 0 ∧ 0 ≤ hi) (hpoints : ∀ p ∈ t.points, lo ≤ p.y ∧ p.y ≤ hi) (x : Rat) :
    lo ≤ t.lookup x ∧ t.lookup x ≤ hi := by
  by_cases hnil : t.points = []
  · rwa [lookup_eq_zero hnil]
  · exact (lookup_interpolates hinc hnil x).mem_bounds hpoints

/-! ## 3. Tables that were made -/

theorem hasStepBack_eq_false_iff {xs : List Rat} :
    hasStepBack xs = false ↔ xs.Pairwise (· < ·) := by
  rw [← List.isChain_iff_pairwise]
  fun_induction hasStepBack xs with
  | case1 a b rest ih =>
    rw [Bool.or_eq_false_iff, ih, List.isChain_cons_cons, decide_eq_false_iff_not,
      Scalar.zero_rat, not_le, sub_pos]
  | case2 xs hshort =>
    match xs, hshort with
    | [], _ => simp
    | [a], _ => simp
    | a :: b :: rest, hshort => exact (hshort a b rest rfl).elim

/-- A table is made of as many `y` as `x`, and only of `x` that go up. -/
theorem make?_eq_ok_iff {name : String} {xs ys : List Rat} {t : Table Rat} :
    make? name xs ys = .ok t ↔
      xs.length = ys.length ∧ xs.Pairwise (· < ·) ∧ t = ⟨name, List.zipWith Point.mk xs ys⟩ := by
  unfold make?
  split
  · rename_i hlength
    simp [hlength]
  rename_i hlength
  split
  · rename_i hback
    have hnot : ¬ xs.Pairwise (· < ·) := by simp [← hasStepBack_eq_false_iff, hback]
    simp [hnot]
  · rename_i hback
    have hup := hasStepBack_eq_false_iff.mp (Bool.eq_false_iff.mpr hback)
    simp [not_not.mp hlength, hup, eq_comm]

/-- Points that are in order form a table. -/
theorem make?_of_isIncreasing {points : List (Point Rat)} (name : String)
    (hinc : IsIncreasing points) :
    make? name (points.map Point.x) (points.map Point.y) = .ok ⟨name, points⟩ := by
  refine make?_eq_ok_iff.mpr ⟨by simp, List.pairwise_map.mpr hinc, ?_⟩
  rw [List.zipWith_map, List.zipWith_self]
  exact congrArg (Table.mk name) (List.map_id points).symm

theorem xs_of_make? {name : String} {xs ys : List Rat} {t : Table Rat}
    (h : make? name xs ys = .ok t) : t.xs = xs := by
  obtain ⟨hlength, -, rfl⟩ := make?_eq_ok_iff.mp h
  rw [Table.xs, List.map_zipWith, ← List.map_uncurry_zip_eq_zipWith]
  exact List.map_fst_zip hlength.le

theorem ys_of_make? {name : String} {xs ys : List Rat} {t : Table Rat}
    (h : make? name xs ys = .ok t) : t.ys = ys := by
  obtain ⟨hlength, -, rfl⟩ := make?_eq_ok_iff.mp h
  rw [Table.ys, List.map_zipWith, ← List.map_uncurry_zip_eq_zipWith]
  exact List.map_snd_zip hlength.ge

theorem isIncreasing_of_make? {name : String} {xs ys : List Rat} {t : Table Rat}
    (h : make? name xs ys = .ok t) : IsIncreasing t.points := by
  obtain ⟨-, hup, -⟩ := make?_eq_ok_iff.mp h
  rw [← xs_of_make? h] at hup
  exact List.pairwise_map.mp hup

end Table

namespace Dataset

/-- All tables of a dataset are in order. -/
theorem isIncreasing_of_load [TimeReader ℚ] {data : Json} {origin : Origin Rat} {n : Network Rat}
    (h : load data origin = .ok n) :
    ∀ t ∈ n.curves ++ n.series, Table.IsIncreasing t.points := by
  obtain ⟨curveSection, -, hcurves⟩ := (loadedFrom h).curves
  obtain ⟨seriesSection, -, hseries⟩ := (loadedFrom h).series
  intro t ht
  rcases List.mem_append.mp ht with ht | ht
  · obtain ⟨m, -, hm⟩ := exists_of_mem_mapM hcurves t ht
    obtain ⟨xs, ys, hm⟩ := make?_of_curve hm
    exact Table.isIncreasing_of_make? hm
  · obtain ⟨m, -, hm⟩ := exists_of_mem_mapM hseries t ht
    obtain ⟨xs, ys, hm⟩ := make?_of_timeSeries hm
    exact Table.isIncreasing_of_make? hm

end Dataset

end Sluice
