import Mathlib.Order.Monotone.Defs
import Sluice.Proofs.Network.Interpolation

/-!
# What a table answers

A table is made of two lists, the `x` and the `y` of its points, and is asked for the value at any
number. `Connects` says of the two lists alone what the answers have to be; no points, segments or
searches occur in it. Then

> **a table can be made of two lists exactly if they are equally long and the `x` go up, and its
> values connect the points; where the `y` go up or down from point to point, so do the values
> from any number to any other** (`lookup_connects`).

Most of this is known of the broken line. That it rises where its points do is not, and it is more
than a matter of one segment, because two places can be far apart. The later one is then behind the
end of the segment of the earlier one, and a rising line is never below a point that it has passed
(`Interpolates.ge_of_passed`). That the line falls where its points do is the same upside down.
-/

set_option autoImplicit false

namespace Sluice

namespace Table

/-! ## 1. Rising and falling -/

/-- The points never go down from left to right. -/
def IsRising (points : List (Point Rat)) : Prop := points.Pairwise fun p q => p.y ≤ q.y

/-- The points never go up from left to right. -/
def IsFalling (points : List (Point Rat)) : Prop := points.Pairwise fun p q => q.y ≤ p.y

/-- The points, upside down. -/
def flipped (points : List (Point Rat)) : List (Point Rat) := points.map fun p => ⟨p.x, -p.y⟩

section

variable {points : List (Point Rat)} {x x' y y' : Rat} {p q : Point Rat} {i j : Nat}

theorem IsRising.le (hrise : IsRising points) (hij : i ≤ j) (hp : points[i]? = some p)
    (hq : points[j]? = some q) : p.y ≤ q.y := by
  obtain ⟨hi, rfl⟩ := List.getElem?_eq_some_iff.mp hp
  obtain ⟨hj, rfl⟩ := List.getElem?_eq_some_iff.mp hq
  rcases hij.eq_or_lt with rfl | hlt
  · exact le_rfl
  · exact List.pairwise_iff_getElem.mp hrise i j hi hj hlt

/-- A rising line is not below a point that it has passed. -/
theorem Interpolates.ge_of_passed (h : Interpolates points x y) (hinc : IsIncreasing points)
    (hrise : IsRising points) (hp : points[i]? = some p) (hx : p.x ≤ x) : p.y ≤ y := by
  cases h with
  | before hfirst hbefore =>
    rw [List.head?_eq_getElem?] at hfirst
    exact hrise.le (hinc.index_le hfirst hp (hx.trans hbefore)) hp hfirst
  | after hlast _ =>
    rw [List.getLast?_eq_getElem?] at hlast
    have hi := (List.getElem?_eq_some_iff.mp hp).1
    exact hrise.le (by omega) hp hlast
  | @between j a b ha hb hleft hright =>
    have hij : i < j + 1 := hinc.index_lt hp hb (hx.trans_lt hright)
    have hab : a.y ≤ b.y := hrise.le j.le_succ ha hb
    obtain ⟨hmin, -⟩ :=
      (Interpolates.between ha hb hleft hright).mem_segment hinc ha hb hleft hright.le
    rw [min_eq_left hab] at hmin
    exact (hrise.le (Nat.le_of_lt_succ hij) hp ha).trans hmin

/-- **The line rises where its points do.** -/
theorem Interpolates.mono (h : Interpolates points x y) (h' : Interpolates points x' y')
    (hinc : IsIncreasing points) (hrise : IsRising points) (hle : x ≤ x') : y ≤ y' := by
  cases h with
  | @before p hfirst _ =>
    rcases le_total x' p.x with hx' | hx'
    · exact (h'.eq_first hinc hfirst hx').ge
    · rw [List.head?_eq_getElem?] at hfirst
      exact h'.ge_of_passed hinc hrise hfirst hx'
  | after hlast hx => exact (h'.eq_last hinc hlast (hx.trans hle)).ge
  | @between i p q hp hq hleft hright =>
    have hpq : p.y ≤ q.y := hrise.le i.le_succ hp hq
    rcases lt_or_ge x' q.x with hx' | hx'
    · -- both places are in one segment, which does not go down
      have hwidth : 0 < q.x - p.x := sub_pos.mpr (hleft.trans_lt hright)
      have hheight : 0 ≤ q.y - p.y := sub_nonneg.mpr hpq
      rw [h'.eq_between hinc hp hq (hleft.trans hle) hx']
      gcongr
    · -- the end of the segment is between the two places
      obtain ⟨-, hmax⟩ :=
        (Interpolates.between hp hq hleft hright).mem_segment hinc hp hq hleft hright.le
      rw [max_eq_right hpq] at hmax
      exact hmax.trans (h'.ge_of_passed hinc hrise hq hx')

theorem IsIncreasing.flipped (hinc : IsIncreasing points) : IsIncreasing (flipped points) :=
  List.pairwise_map.mpr hinc

theorem IsFalling.flipped (hfall : IsFalling points) : IsRising (flipped points) :=
  List.pairwise_map.mpr (hfall.imp fun hle => neg_le_neg hle)

theorem getElem?_flipped (hp : points[i]? = some p) :
    (Table.flipped points)[i]? = some ⟨p.x, -p.y⟩ := by
  rw [Table.flipped, List.getElem?_map, hp]
  rfl

theorem Interpolates.flipped (h : Interpolates points x y) :
    Interpolates (flipped points) x (-y) := by
  cases h with
  | before hfirst hx =>
    rw [List.head?_eq_getElem?] at hfirst
    refine .before (p := ⟨_, _⟩) ?_ hx
    rw [List.head?_eq_getElem?]
    exact getElem?_flipped hfirst
  | after hlast hx =>
    rw [List.getLast?_eq_getElem?] at hlast
    refine .after (p := ⟨_, _⟩) ?_ hx
    rw [List.getLast?_eq_getElem?, Table.flipped, List.length_map]
    exact getElem?_flipped hlast
  | @between i p q hp hq hleft hright =>
    have hline : Interpolates (Table.flipped points) x
        (-p.y + (-q.y - -p.y) * ((x - p.x) / (q.x - p.x))) :=
      .between (getElem?_flipped hp) (getElem?_flipped hq) hleft hright
    rwa [show -(p.y + (q.y - p.y) * ((x - p.x) / (q.x - p.x))) =
      -p.y + (-q.y - -p.y) * ((x - p.x) / (q.x - p.x)) by ring]

/-- **The line falls where its points do.** -/
theorem Interpolates.anti (h : Interpolates points x y) (h' : Interpolates points x' y')
    (hinc : IsIncreasing points) (hfall : IsFalling points) (hle : x ≤ x') : y' ≤ y :=
  neg_le_neg_iff.mp (h.flipped.mono h'.flipped hinc.flipped hfall.flipped hle)

end

end Table

/-! ## 2. Lists that are written -/

namespace Dataset

section

variable {α : Type} [Scalar α]

/-- A single number has no parts. -/
theorem shape?_of_cell {value : Json} {x : α} (h : Grid.cell value = .ok x) :
    Grid.shape? value = some [] ∧ Grid.leaves value = [value] := by
  cases value with
  | array items => cases h
  | _ => exact ⟨rfl, rfl⟩

/-- An array of single numbers is flat. -/
theorem itemsShape?_of_cells {values : List Json} {xs : List α}
    (h : List.Forall₂ (fun value x => Grid.cell value = .ok x) values xs) :
    Grid.itemsShape? values = some [values.length] ∧ Grid.itemsLeaves values = values := by
  induction h with
  | nil => exact ⟨rfl, rfl⟩
  | cons hvalue _ ih =>
    obtain ⟨hshape, hleaves⟩ := ih
    obtain ⟨hsingle, hleaf⟩ := shape?_of_cell hvalue
    constructor
    · rw [Grid.itemsShape?, hshape, hsingle]
      simp
    · rw [Grid.itemsLeaves, hleaf, hleaves]
      rfl

theorem ofJson_of_cells {values : List Json} {xs : List α} (h : values.mapM Grid.cell = .ok xs) :
    Grid.ofJson (.array values) = .ok ⟨[values.length], xs⟩ := by
  obtain ⟨hshape, hleaves⟩ := itemsShape?_of_cells (forall₂_of_mapM h)
  unfold Grid.ofJson
  rw [show Grid.shape? (.array values) = _ from hshape]
  show ((Grid.itemsLeaves values).mapM Grid.cell).map _ = _
  rw [hleaves, h]
  rfl

/-- A table of arrays of single numbers is the table of these numbers. -/
theorem table_of_cells {written written' : List Json} {xs ys : List α} (name : String)
    (hxs : written.mapM Grid.cell = .ok xs) (hys : written'.mapM Grid.cell = .ok ys) :
    table name (.array written) (.array written') = (Table.make? name xs ys).mapError .table := by
  unfold table
  rw [ofJson_of_cells hxs, ofJson_of_cells hys]
  rfl

end

/-- A finite number, written as a whole number or with decimals. -/
inductive IsNumber : Json → Rat → Prop
  | whole (n : Int) : IsNumber (.int n) n
  | decimal (d : Decimal) : IsNumber (.real d) d.toScalar

theorem cells_of_areNumbers {written : List Json} {xs : List Rat}
    (h : List.Forall₂ IsNumber written xs) : written.mapM Grid.cell = .ok xs := by
  apply mapM_of_forall₂
  refine h.imp ?_
  intro value x hvalue
  cases hvalue with
  | whole n =>
    show Except.ok (Scalar.ofInt n) = _
    rw [Scalar.ofInt_rat]
  | decimal d => rfl

end Dataset

/-! ## 3. Lookups -/

namespace Table

/-- A function connects what two lists say, number by number: it has the value of every `x`, follows
straight lines between them, and is level outside. Where nothing is said it is zero. -/
structure Connects (xs ys : List Rat) (f : Rat → Rat) : Prop where
  at_point : ∀ (i : Nat) (x y : Rat), xs[i]? = some x → ys[i]? = some y → f x = y
  between : ∀ (i : Nat) (x₁ x₂ y₁ y₂ : Rat), xs[i]? = some x₁ → xs[i + 1]? = some x₂ →
    ys[i]? = some y₁ → ys[i + 1]? = some y₂ → ∀ x, x₁ ≤ x → x ≤ x₂ →
      f x = y₁ + (y₂ - y₁) * ((x - x₁) / (x₂ - x₁)) ∧ min y₁ y₂ ≤ f x ∧ f x ≤ max y₁ y₂
  before : ∀ x₁ y₁, xs.head? = some x₁ → ys.head? = some y₁ → ∀ x ≤ x₁, f x = y₁
  behind : ∀ x₁ y₁, xs.getLast? = some x₁ → ys.getLast? = some y₁ → ∀ x ≥ x₁, f x = y₁
  nowhere : xs = [] → ∀ x, f x = 0

section

variable {t : Table Rat} {x y : Rat} {i : Nat}

theorem getElem?_points (hx : t.xs[i]? = some x) (hy : t.ys[i]? = some y) :
    t.points[i]? = some ⟨x, y⟩ := by
  rw [xs, List.getElem?_map] at hx
  obtain ⟨p, hp, rfl⟩ := Option.map_eq_some_iff.mp hx
  rw [ys, List.getElem?_map, hp] at hy
  rw [hp, ← Option.some.inj hy]

theorem head?_points (hx : t.xs.head? = some x) (hy : t.ys.head? = some y) :
    t.points.head? = some ⟨x, y⟩ := by
  rw [List.head?_eq_getElem?] at hx hy ⊢
  exact getElem?_points hx hy

theorem getLast?_points (hx : t.xs.getLast? = some x) (hy : t.ys.getLast? = some y) :
    t.points.getLast? = some ⟨x, y⟩ := by
  rw [List.getLast?_eq_getElem?] at hx hy ⊢
  rw [xs, List.length_map] at hx
  rw [ys, List.length_map] at hy
  exact getElem?_points hx hy

theorem connects_lookup (hinc : IsIncreasing t.points) : Connects t.xs t.ys t.lookup := by
  have hline : ∀ p ∈ t.points, ∀ x, Interpolates t.points x (t.lookup x) :=
    fun p hp => lookup_interpolates hinc (List.ne_nil_of_mem hp)
  constructor
  case at_point =>
    intro i x y hx hy
    have hp := getElem?_points hx hy
    exact (hline _ (List.mem_of_getElem? hp) x).eq_point hinc hp rfl
  case between =>
    intro i x₁ x₂ y₁ y₂ hx₁ hx₂ hy₁ hy₂ x hleft hright
    have hp := getElem?_points hx₁ hy₁
    have hq := getElem?_points hx₂ hy₂
    have hx := hline _ (List.mem_of_getElem? hp) x
    have hbounds := hx.mem_segment hinc hp hq hleft hright
    exact ⟨hx.eq_segment hinc hp hq hleft hright, hbounds⟩
  case before =>
    intro x₁ y₁ hx₁ hy₁ x hx
    have hp := head?_points hx₁ hy₁
    exact (hline _ (List.mem_of_head? hp) x).eq_first hinc hp hx
  case behind =>
    intro x₁ y₁ hx₁ hy₁ x hx
    have hp := getLast?_points hx₁ hy₁
    exact (hline _ (List.mem_of_getLast? hp) x).eq_last hinc hp hx
  case nowhere =>
    intro hnil
    exact lookup_eq_zero (List.map_eq_nil_iff.mp hnil)

theorem monotone_lookup (hinc : IsIncreasing t.points) (hrise : IsRising t.points) :
    Monotone t.lookup := by
  intro x x' hle
  by_cases hnil : t.points = []
  · rw [lookup_eq_zero hnil, lookup_eq_zero hnil]
  · exact (lookup_interpolates hinc hnil x).mono (lookup_interpolates hinc hnil x') hinc hrise hle

theorem antitone_lookup (hinc : IsIncreasing t.points) (hfall : IsFalling t.points) :
    Antitone t.lookup := by
  intro x x' hle
  by_cases hnil : t.points = []
  · rw [lookup_eq_zero hnil, lookup_eq_zero hnil]
  · exact (lookup_interpolates hinc hnil x).anti (lookup_interpolates hinc hnil x') hinc hfall hle

end

/-- **A table can be made of two lists exactly if they are equally long and the `x` go up, and then
its values connect the points. Where the `y` go up, or down, so do the values everywhere.** -/
theorem lookup_connects (name : String) (xs ys : List Rat) :
    ((∃ t, make? name xs ys = .ok t) ↔ xs.length = ys.length ∧ xs.Pairwise (· < ·)) ∧
    (∀ written written', List.Forall₂ Dataset.IsNumber written xs →
      List.Forall₂ Dataset.IsNumber written' ys →
      Dataset.table name (.array written) (.array written') =
        (make? name xs ys).mapError .table) ∧
    ∀ t, make? name xs ys = .ok t →
      t.xs = xs ∧ t.ys = ys ∧ Connects xs ys t.lookup ∧
      (ys.Pairwise (· ≤ ·) → Monotone t.lookup) ∧ (ys.Pairwise (· ≥ ·) → Antitone t.lookup) := by
  refine ⟨?_, ?_, ?_⟩
  · simp only [make?_eq_ok_iff, exists_and_left, exists_eq, and_true]
  · intro written written' hxs hys
    exact Dataset.table_of_cells name (Dataset.cells_of_areNumbers hxs)
      (Dataset.cells_of_areNumbers hys)
  · intro t ht
    have hinc := isIncreasing_of_make? ht
    obtain rfl := xs_of_make? ht
    obtain rfl := ys_of_make? ht
    refine ⟨rfl, rfl, connects_lookup hinc, ?_, ?_⟩
    · intro hup
      exact monotone_lookup hinc (List.pairwise_map.mp hup)
    · intro hdown
      exact antitone_lookup hinc (List.pairwise_map.mp hdown)

/-- Heads at which the flow of a pump was measured. -/
def heads : List Rat := [0, 1 / 2, 1, 2, 4, 7]

def writtenHeads : List Json := [.int 0, .real ⟨false, 5, -1⟩, .int 1, .int 2, .int 4, .int 7]

/-- The pump delivers less the higher it has to lift. -/
def flows : List Rat := [12, 12, 10, 7, 3, 0]

def writtenFlows : List Json := [.int 12, .int 12, .int 10, .int 7, .int 3, .int 0]

/-- The curve of the pump falls, turned round it rises, and without points it is zero. -/
theorem lookup_connects_pump :
    (∃ t : Table Rat, Dataset.table "pump" (.array writtenHeads) (.array writtenFlows) = .ok t ∧
      t.lookup (-1) = 12 ∧ t.lookup 3 = 5 ∧ t.lookup 4 = 3 ∧ t.lookup 9 = 0 ∧
      Antitone t.lookup) ∧
    (∃ t, make? "turned" heads flows.reverse = .ok t ∧ Monotone t.lookup) ∧
    ∃ t : Table Rat, make? "unmeasured" [] [] = .ok t ∧ ∀ x, t.lookup x = 0 := by
  have hheads : heads.Pairwise (· < ·) := by norm_num [heads]
  have hflows : flows.Pairwise (· ≥ ·) := by norm_num [flows]
  have hhalf : Dataset.IsNumber (.real ⟨false, 5, -1⟩) (1 / 2) := by
    have hvalue : (Decimal.toScalar ⟨false, 5, -1⟩ : Rat) = 1 / 2 := by
      show ((5 : Nat) : Rat) * 10 ^ (-1 : Int) = _
      norm_num
    rw [← hvalue]
    exact .decimal _
  have hwritten : List.Forall₂ Dataset.IsNumber writtenHeads heads :=
    .cons (.whole 0) <| .cons hhalf <| .cons (.whole 1) <| .cons (.whole 2) <| .cons (.whole 4) <|
      .cons (.whole 7) .nil
  have hwritten' : List.Forall₂ Dataset.IsNumber writtenFlows flows :=
    .cons (.whole 12) <| .cons (.whole 12) <| .cons (.whole 10) <| .cons (.whole 7) <|
      .cons (.whole 3) <| .cons (.whole 0) .nil
  refine ⟨?_, ?_, ?_⟩
  · obtain ⟨hmade, hread, hlookup⟩ := lookup_connects "pump" heads flows
    obtain ⟨t, ht⟩ := hmade.mpr ⟨rfl, hheads⟩
    obtain ⟨-, -, hconnects, -, hfall⟩ := hlookup t ht
    obtain ⟨hthree, -⟩ := hconnects.between 3 2 4 7 3 rfl rfl rfl rfl 3 (by norm_num) (by norm_num)
    refine ⟨t, ?_, hconnects.before 0 12 rfl rfl (-1) (by norm_num), ?_,
      hconnects.at_point 4 4 3 rfl rfl, hconnects.behind 7 0 rfl rfl 9 (by norm_num),
      hfall hflows⟩
    · rw [hread _ _ hwritten hwritten', ht]
      rfl
    · rw [hthree]
      norm_num
  · obtain ⟨hmade, -, hlookup⟩ := lookup_connects "turned" heads flows.reverse
    obtain ⟨t, ht⟩ := hmade.mpr ⟨rfl, hheads⟩
    obtain ⟨-, -, -, hrise, -⟩ := hlookup t ht
    exact ⟨t, ht, hrise (List.pairwise_reverse.mpr hflows)⟩
  · obtain ⟨hmade, -, hlookup⟩ := lookup_connects "unmeasured" [] []
    obtain ⟨t, ht⟩ := hmade.mpr ⟨rfl, List.Pairwise.nil⟩
    obtain ⟨-, -, hconnects, -⟩ := hlookup t ht
    exact ⟨t, ht, hconnects.nowhere rfl⟩

end Table

end Sluice
