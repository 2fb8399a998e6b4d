import Sluice.Proofs.Json.RoundTrip

/-!
# Plain values

Which values does some text denote? Reading merges members of one name, so an object that was read
names none twice (`distinct_of_read?`), and it refuses whole numbers of more digits than the limit.
Nothing else is excluded: **a value that names no member twice and keeps within the limit is read
back from the text that is written for it** (`exists_decode?_iff`). On these values writing and
reading change nothing (`plain?_eq_some`), and a value beyond the limit can be neither written nor
displayed (`plain?_eq_none`).
-/

set_option autoImplicit false

namespace Sluice.Json

open Reader

/-! ## 1. Distinct names -/

theorem itemsDistinct_iff {items : List Json} : ItemsDistinct items ↔ ∀ j ∈ items, j.Distinct := by
  induction items with
  | nil => exact iff_of_true trivial nofun
  | cons j rest ih => rw [ItemsDistinct, ih, List.forall_mem_cons]

theorem membersDistinct_iff {members : List (String × Json)} :
    MembersDistinct members ↔ ∀ m ∈ members, m.2.Distinct := by
  induction members with
  | nil => exact iff_of_true trivial nofun
  | cons m rest ih => rw [MembersDistinct, ih, List.forall_mem_cons]

/-- The members of an object as they are while it is read. -/
structure DistinctMembers (members : List (String × Json)) : Prop where
  names : (members.map (·.1)).Nodup
  values : MembersDistinct members

theorem distinct_object {members : List (String × Json)} (h : DistinctMembers members) :
    (object members).Distinct := ⟨h.names, h.values⟩

theorem map_setMember (key : String) (value : Json) (members : List (String × Json)) :
    (setMember key value members).map (·.1) =
      if key ∈ members.map (·.1) then members.map (·.1) else members.map (·.1) ++ [key] := by
  induction members with
  | nil => rfl
  | cons m rest ih =>
    rw [setMember]
    by_cases hm : m.1 = key
    · rw [if_pos (beq_iff_eq.mpr hm), if_pos (hm ▸ List.mem_cons_self), List.map_cons,
        List.map_cons, hm]
    · rw [if_neg (by simpa using hm), List.map_cons, List.map_cons, ih]
      have hmem : key ∈ m.1 :: rest.map (·.1) ↔ key ∈ rest.map (·.1) := by
        rw [List.mem_cons, or_iff_right (Ne.symm hm)]
      rw [ite_congr (propext hmem) (fun _ => rfl) (fun _ => rfl)]
      split <;> rfl

theorem mem_setMember {key : String} {value : Json} {members : List (String × Json)}
    {m : String × Json} (h : m ∈ setMember key value members) : m = (key, value) ∨ m ∈ members := by
  induction members with
  | nil => exact Or.inl (List.mem_singleton.mp h)
  | cons first rest ih =>
    rw [setMember] at h
    split at h
    · rcases List.mem_cons.mp h with rfl | h
      · exact Or.inl rfl
      · exact Or.inr (List.mem_cons_of_mem _ h)
    · rcases List.mem_cons.mp h with rfl | h
      · exact Or.inr List.mem_cons_self
      · exact (ih h).imp_right (List.mem_cons_of_mem _)

theorem DistinctMembers.set {members : List (String × Json)} (h : DistinctMembers members)
    (key : String) {value : Json} (hvalue : value.Distinct) :
    DistinctMembers (setMember key value members) := by
  constructor
  · rw [map_setMember]
    split
    · exact h.names
    · rename_i hkey
      exact List.nodup_append.mpr ⟨h.names, List.nodup_singleton key, by
        rintro _ hmem _ hsingle rfl
        exact hkey (List.mem_singleton.mp hsingle ▸ hmem)⟩
  · rw [membersDistinct_iff]
    intro m hm
    rcases mem_setMember hm with rfl | hm
    · exact hvalue
    · exact membersDistinct_iff.mp h.values m hm

/-! ## 2. What is read -/

variable {cs rest : List Char} {j : Json}

theorem distinct_of_number? {negative : Bool} (h : Reader.number? negative cs = some (j, rest)) :
    j.Distinct := by
  unfold Reader.number? at h
  simp only [Option.ite_none_left_eq_some, Option.bind_eq_bind, Option.bind_eq_some_iff] at h
  obtain ⟨-, _, -, _, -, h⟩ := h
  split at h <;>
  · cases h
    trivial

/-- With some fuel only values are read in which no object names a member twice. -/
structure ReadsDistinct (fuel : Nat) : Prop where
  value : ∀ {cs rest : List Char} {j : Json}, value? fuel cs = some (j, rest) → j.Distinct
  items : ∀ {read : List Json} {cs rest : List Char} {j : Json}, ItemsDistinct read →
    items? fuel read cs = some (j, rest) → j.Distinct
  members : ∀ {read : List (String × Json)} {cs rest : List Char} {j : Json},
    DistinctMembers read → members? fuel read cs = some (j, rest) → j.Distinct

namespace ReadsDistinct

variable {fuel : Nat}

theorem value_succ (h : ReadsDistinct fuel) (hread : value? (fuel + 1) cs = some (j, rest)) :
    j.Distinct := by
  rw [value?] at hread
  split at hread
  · obtain ⟨_, -, heq⟩ := Option.map_eq_some_iff.mp hread
    cases heq
    trivial
  · split at hread
    · cases hread
      trivial
    · have hnone : ItemsDistinct [] := trivial
      exact h.items hnone hread
  · split at hread
    · cases hread
      exact ⟨List.nodup_nil, trivial⟩
    · have hnone : DistinctMembers [] := ⟨List.nodup_nil, trivial⟩
      exact h.members hnone hread
  · cases hread
    trivial
  · cases hread
    trivial
  · cases hread
    trivial
  · exact distinct_of_number? hread
  · exact distinct_of_number? hread

theorem items_succ (h : ReadsDistinct fuel) {read : List Json} (hdistinct : ItemsDistinct read)
    (hread : items? (fuel + 1) read cs = some (j, rest)) : j.Distinct := by
  rw [items?] at hread
  obtain ⟨⟨item, behind⟩, hitem, hread⟩ := Option.bind_eq_some_iff.mp hread
  have hall : ItemsDistinct (item :: read) := ⟨h.value hitem, hdistinct⟩
  dsimp only at hread
  split at hread
  · exact h.items hall hread
  · cases hread
    rw [Distinct, itemsDistinct_iff]
    exact fun x hx => itemsDistinct_iff.mp hall x (List.mem_reverse.mp hx)
  · cases hread

theorem members_succ (h : ReadsDistinct fuel) {read : List (String × Json)}
    (hdistinct : DistinctMembers read) (hread : members? (fuel + 1) read cs = some (j, rest)) :
    j.Distinct := by
  rw [members?] at hread
  split at hread
  · obtain ⟨⟨key, behindKey⟩, -, hread⟩ := Option.bind_eq_some_iff.mp hread
    dsimp only at hread
    split at hread
    · obtain ⟨⟨item, behind⟩, hitem, hread⟩ := Option.bind_eq_some_iff.mp hread
      have hall := hdistinct.set key (h.value hitem)
      dsimp only at hread
      split at hread
      · exact h.members hall hread
      · cases hread
        exact distinct_object hall
      · cases hread
    · cases hread
  · cases hread

end ReadsDistinct

theorem readsDistinct (fuel : Nat) : ReadsDistinct fuel := by
  induction fuel with
  | zero => exact ⟨nofun, nofun, nofun⟩
  | succ fuel ih => exact ⟨ih.value_succ, ih.items_succ, ih.members_succ⟩

theorem distinct_of_read? {text : String} (h : read? text = some j) : j.Distinct := by
  unfold read? at h
  dsimp only at h
  split at h
  · rename_i hvalue
    split at h
    · cases h
      exact (readsDistinct _).value hvalue
    · cases h
  · cases h

/-! ## 3. Writing and reading -/

mutual

theorem fits_zero : ∀ j : Json, j.fits 0 = true
  | .null | .bool _ | .int _ | .real _ | .text _ => rfl
  | .array items => itemsFit_zero items
  | .object members => membersFit_zero members

theorem itemsFit_zero : ∀ items : List Json, itemsFit 0 items = true
  | [] => rfl
  | j :: rest => Bool.and_eq_true_iff.mpr ⟨fits_zero j, itemsFit_zero rest⟩

theorem membersFit_zero : ∀ members : List (String × Json), membersFit 0 members = true
  | [] => rfl
  | (_, j) :: rest => Bool.and_eq_true_iff.mpr ⟨fits_zero j, membersFit_zero rest⟩

end

variable {limit : Nat}

theorem decode?_render (hj : j.Distinct) (hfits : j.fits limit = true) :
    decode? limit j.render = some j := by
  rw [decode?, read?_render hj, Option.filter_some, if_pos hfits]

/-- Writing and reading change nothing. -/
theorem plain?_eq_some (hj : j.Distinct) (hfits : j.fits limit = true) :
    Given.plain? limit j = some j := by
  rw [Given.plain?, Given.encode?, if_pos hfits, Option.bind_some, decode?_render hj hfits]

theorem plain?_eq_none (hfits : j.fits limit = false) : Given.plain? limit j = none := by
  rw [Given.plain?, Given.encode?, hfits]
  rfl

/-- **Some text denotes a value exactly if no object names a member twice and no whole number has
more digits than the limit.** -/
theorem exists_decode?_iff :
    (∃ text, decode? limit text = some j) ↔ j.Distinct ∧ j.fits limit = true := by
  constructor
  · rintro ⟨text, h⟩
    obtain ⟨hread, hfits⟩ := Option.filter_eq_some_iff.mp h
    exact ⟨distinct_of_read? hread, hfits⟩
  · rintro ⟨hj, hfits⟩
    exact ⟨j.render, decode?_render hj hfits⟩

end Sluice.Json
