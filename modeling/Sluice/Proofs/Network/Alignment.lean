import Mathlib.Data.List.Nodup
import Sluice.Network.IdIndex
import Sluice.Proofs.Outcome

/-!
# A list and a dictionary that agree

An index holds its ids as a list and, for lookups, as a dictionary of positions, and an addition
changes both in different ways: the list grows at its end, the dictionary is entered from an offset
and would replace what it has. `IsAligned` says that the dictionary finds an id exactly where it
first stands in the list. The empty index is aligned, and **an addition to an aligned index gives an
aligned one** (`IsAligned.add`): the offset is the length of the list, and since an accepted batch
has no id twice and none that is there, no entry is ever replaced.
-/

set_option autoImplicit false

namespace Sluice

/-! ## 1. Dictionaries -/

namespace Positions

@[simp] theorem get?_empty (id : String) : get? empty id = none := rfl

theorem get?_cons (p : String × Nat) (rest : Positions) (id : String) :
    get? (p :: rest) id = if id = p.1 then some p.2 else get? rest id := by
  unfold get?
  rw [List.lookup_cons]
  by_cases h : id = p.1
  · rw [if_pos h, beq_iff_eq.mpr h]
  · rw [if_neg h, beq_false_of_ne h]

theorem get?_enter (ps : Positions) (id : String) (i : Nat) (other : String) :
    get? (ps.enter id i) other = if other = id then some i else get? ps other := by
  induction ps with
  | nil => exact get?_cons (id, i) [] other
  | cons p rest ih =>
    rw [enter]
    by_cases hp : p.1 = id
    · rw [if_pos (beq_iff_eq.mpr hp), get?_cons, get?_cons, hp]
      split <;> rfl
    · rw [if_neg (ne_true_of_eq_false (beq_false_of_ne hp)), get?_cons, ih, get?_cons]
      by_cases hother : other = p.1
      · rw [if_pos hother, if_neg (hother ▸ hp), if_pos hother]
      · rw [if_neg hother, if_neg hother]

/-- A batch of distinct ids is found from its offset on, and everything else where it was. -/
theorem get?_enterFrom {ids : List String} (hids : ids.Nodup) (ps : Positions) (offset : Nat)
    (id : String) : get? (ps.enterFrom offset ids) id =
      ((ids.findIdx? (· == id)).map (· + offset)).or (get? ps id) := by
  induction ids generalizing ps offset with
  | nil => rfl
  | cons first rest ih =>
    obtain ⟨hfirst, hrest⟩ := List.nodup_cons.mp hids
    rw [enterFrom, ih hrest, get?_enter, List.findIdx?_cons]
    by_cases h : id = first
    · have hnone : rest.findIdx? (· == id) = none := by
        rw [List.findIdx?_eq_none_iff]
        rintro other hother
        exact beq_false_of_ne fun heq => hfirst (h ▸ heq ▸ hother)
      rw [if_pos h, hnone, if_pos (beq_iff_eq.mpr h.symm)]
      simp
    · rw [if_neg h, if_neg (ne_true_of_eq_false (beq_false_of_ne (Ne.symm h))), Option.map_map]
      congr 2
      funext i
      exact (Nat.add_right_comm i 1 offset).symm

end Positions

namespace IdIndex

variable {x y : IdIndex} {more : List String} {d : DuplicateIds}

/-! ## 2. One addition -/

theorem mem_repeated {ids : List String} {id : String} : id ∈ repeated ids ↔ 1 < ids.count id := by
  unfold repeated
  rw [List.mem_mergeSort, List.mem_eraseDups, List.mem_filter, decide_eq_true_iff]
  refine and_iff_right_of_imp fun hcount => ?_
  exact List.count_pos_iff.mp (Nat.zero_lt_of_lt hcount)

theorem repeated_eq_nil {ids : List String} : repeated ids = [] ↔ ids.Nodup := by
  rw [List.nodup_iff_count_le_one, List.eq_nil_iff_forall_not_mem]
  apply forall_congr'
  intro id
  rw [mem_repeated, Nat.not_lt]

/-- An addition is accepted if all ids are then distinct, and changes list and dictionary. -/
theorem add_eq_ok_iff : x.add more = .ok y ↔ ((x.ids ++ more).map distinctive).Nodup ∧
    y = ⟨x.ids ++ more, x.positions.enterFrom x.ids.length more⟩ := by
  rw [← repeated_eq_nil, add]
  split
  · rename_i hnone
    rw [Except.ok.injEq, hnone, eq_comm]
    exact (and_iff_right rfl).symm
  · rename_i hsome
    rw [hsome]
    constructor
    · intro h
      cases h
    · rintro ⟨h, -⟩
      cases h

theorem ids_of_add (h : x.add more = .ok y) : y.ids = x.ids ++ more := by
  obtain ⟨-, rfl⟩ := add_eq_ok_iff.mp h
  rfl

/-- Ids that differ in what tells them apart differ. -/
theorem nodup_of_add (h : x.add more = .ok y) : y.ids.Nodup := by
  obtain ⟨hdistinct, rfl⟩ := add_eq_ok_iff.mp h
  exact hdistinct.of_map

/-- A refusal names the ids that would be there more than once. -/
theorem ids_of_add_eq_error (h : x.add more = .error d) :
    d.ids = repeated ((x.ids ++ more).map distinctive) := by
  rw [add] at h
  split at h
  · cases h
  · rename_i hsome
    cases h
    exact hsome.symm

/-! ## 3. Agreement -/

/-- The dictionary finds an id exactly where it first stands in the list. -/
def IsAligned (x : IdIndex) : Prop := ∀ id, x.find? id = x.ids.findIdx? (· == id)

theorem isAligned_empty : empty.IsAligned := fun _ => rfl

/-- An addition finds the new ids behind the old ones and leaves the old ones where they were. -/
theorem IsAligned.find?_of_add (hx : x.IsAligned) (h : x.add more = .ok y) (id : String) :
    y.find? id = (x.find? id).or ((more.findIdx? (· == id)).map (· + x.ids.length)) := by
  have hnodup : (x.ids ++ more).Nodup := ids_of_add h ▸ nodup_of_add h
  obtain ⟨-, hmore, hdisjoint⟩ := List.nodup_append.mp hnodup
  obtain ⟨-, rfl⟩ := add_eq_ok_iff.mp h
  show (x.positions.enterFrom x.ids.length more).get? id = _
  rw [Positions.get?_enterFrom hmore]
  -- an id of the batch is not there before, so it does not matter which one is asked first
  cases hfind : more.findIdx? (· == id) with
  | none => exact Option.or_none.symm
  | some i =>
    have hmem : id ∈ more := by
      obtain ⟨hi, hid, -⟩ := List.findIdx?_eq_some_iff_getElem.mp hfind
      exact eq_of_beq hid ▸ List.getElem_mem hi
    have hnone : x.find? id = none := by
      rw [hx, List.findIdx?_eq_none_iff]
      exact fun other hother => beq_false_of_ne (hdisjoint other hother id hmem)
    rw [hnone]
    rfl

theorem IsAligned.add (hx : x.IsAligned) (h : x.add more = .ok y) : y.IsAligned := by
  intro id
  rw [hx.find?_of_add h, hx id, ids_of_add h, List.findIdx?_append]

theorem IsAligned.find?_eq_none (hx : x.IsAligned) {id : String} :
    x.find? id = none ↔ id ∉ x.ids := by
  rw [hx, List.findIdx?_eq_none_iff]
  constructor
  · intro h hid
    have hne := h id hid
    rw [beq_self_eq_true] at hne
    cases hne
  · intro h other hother
    apply beq_false_of_ne
    rintro rfl
    exact h hother

theorem IsAligned.find?_lt (hx : x.IsAligned) {id : String} {i : Nat} (h : x.find? id = some i) :
    i < x.ids.length := by
  rw [hx] at h
  exact (List.findIdx?_eq_some_iff_findIdx_eq.mp h).1

theorem IsAligned.find?_eq_some (hx : x.IsAligned) (hnodup : x.ids.Nodup) {id : String} {i : Nat} :
    x.find? id = some i ↔ x.ids[i]? = some id := by
  rw [hx, List.findIdx?_eq_some_iff_getElem, List.getElem?_eq_some_iff]
  constructor
  · rintro ⟨hi, hid, -⟩
    exact ⟨hi, eq_of_beq hid⟩
  · rintro ⟨hi, hid⟩
    refine ⟨hi, beq_iff_eq.mpr hid, ?_⟩
    intro j hji hj
    -- an earlier place with the same id would be the same place
    exact Nat.ne_of_lt hji (hnodup.getElem_inj_iff.mp ((eq_of_beq hj).trans hid.symm))

/-! ## 4. An index of some ids -/

variable {ids : List String}

theorem ids_of_ofList (h : ofList ids = .ok x) : x.ids = ids := ids_of_add h

theorem nodup_of_ofList (h : ofList ids = .ok x) : ids.Nodup := ids_of_ofList h ▸ nodup_of_add h

theorem isAligned_of_ofList (h : ofList ids = .ok x) : x.IsAligned := isAligned_empty.add h

end IdIndex

end Sluice
