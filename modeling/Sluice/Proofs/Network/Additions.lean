import Sluice.Proofs.Network.Alignment

/-!
# An index that grows

Ids are added to an index in batches, and a batch that would make an id stand there twice is
refused as a whole. What one addition does is one of two things: it changes nothing, or it puts
the batch behind the ids that are there, enters it in the dictionary behind as many positions, and
moves none of the others. List and dictionary agree at the start and after each addition
(`IsAligned.add`), so whatever batches an index was offered, **every id stands where it is found,
and is found where it stands** (`find?_offerAll`).

Ids are told apart by what comes before the null characters at their end. Where no id ends in one
that is the whole id (`distinctive_eq_self`), and a batch is refused exactly if an id occurs in it
twice or is there already.
-/

set_option autoImplicit false

namespace Sluice

namespace IdIndex

variable {x y : IdIndex} {more : List String} {d : DuplicateIds}

/-! ## 1. Proper ids -/

/-- An id that does not end in a null character. -/
def IsProper (id : String) : Prop := ∀ c ∈ id.toList.getLast?, c.toNat ≠ 0

instance (id : String) : Decidable (IsProper id) :=
  decidable_of_iff (id.toList.getLast?.all (fun c => decide (c.toNat ≠ 0)) = true) <| by
    simp [IsProper, Option.all_eq_true]

theorem distinctive_eq_self {id : String} (h : IsProper id) : distinctive id = id := by
  have hdrop : (id.toList.reverse.dropWhile fun c => decide (c.toNat = 0)) = id.toList.reverse := by
    cases hreverse : id.toList.reverse with
    | nil => rfl
    | cons c rest =>
      have hlast : id.toList.getLast? = some c := by
        rw [List.getLast?_eq_head?_reverse, hreverse]
        rfl
      rw [List.dropWhile_cons_of_neg]
      simpa using h c hlast
  rw [distinctive, hdrop, List.reverse_reverse, String.ofList_toList]

theorem map_distinctive {ids : List String} (h : ∀ id ∈ ids, IsProper id) :
    ids.map distinctive = ids :=
  (List.map_congr_left fun id hid => distinctive_eq_self (h id hid)).trans (List.map_id ids)

/-! ## 2. Batch by batch -/

/-- An index after it was offered some ids: it has taken them, or is as it was. -/
def offer (x : IdIndex) (more : List String) : IdIndex :=
  match x.add more with
  | .ok y => y
  | .error _ => x

/-- An index after it was offered some batches of ids. -/
def offerAll (x : IdIndex) (batches : List (List String)) : IdIndex := batches.foldl offer x

/-- The list and the dictionary of an index agree, no id stands in it twice, and none ends in a
null character. -/
structure IsSound (x : IdIndex) : Prop where
  aligned : x.IsAligned
  nodup : x.ids.Nodup
  proper : ∀ id ∈ x.ids, IsProper id

theorem IsSound.offer (hx : x.IsSound) (hmore : ∀ id ∈ more, IsProper id) :
    (x.offer more).IsSound := by
  unfold IdIndex.offer
  split
  · rename_i y hadd
    refine ⟨hx.aligned.add hadd, nodup_of_add hadd, ?_⟩
    rw [ids_of_add hadd]
    exact List.forall_mem_append.mpr ⟨hx.proper, hmore⟩
  · exact hx

theorem IsSound.offerAll (hx : x.IsSound) {batches : List (List String)}
    (hbatches : ∀ ids ∈ batches, ∀ id ∈ ids, IsProper id) : (x.offerAll batches).IsSound := by
  induction batches generalizing x with
  | nil => exact hx
  | cons ids rest ih =>
    obtain ⟨hids, hrest⟩ := List.forall_mem_cons.mp hbatches
    exact ih (hx.offer hids) hrest

theorem isSound_empty : empty.IsSound := ⟨isAligned_empty, List.nodup_nil, nofun⟩

/-- A batch is refused exactly if an id occurs in it twice or is there already. -/
theorem IsSound.add_eq_error_iff (hx : x.IsSound) (hmore : ∀ id ∈ more, IsProper id) :
    (∃ d, x.add more = .error d) ↔ ¬ more.Nodup ∨ ∃ id ∈ more, id ∈ x.ids := by
  have hproper : ∀ id ∈ x.ids ++ more, IsProper id :=
    List.forall_mem_append.mpr ⟨hx.proper, hmore⟩
  rw [exists_error_iff]
  simp only [add_eq_ok_iff, map_distinctive hproper, exists_and_left, exists_eq, and_true]
  rw [List.nodup_append]
  constructor
  · intro h
    by_contra hno
    rw [not_or, not_not] at hno
    refine h ⟨hx.nodup, hno.1, ?_⟩
    rintro id hid _ hmem rfl
    exact hno.2 ⟨id, hmem, hid⟩
  · rintro h ⟨-, hnodup, hdisjoint⟩
    rcases h with h | ⟨id, hid, hmem⟩
    · exact h hnodup
    · exact hdisjoint id hmem id hid rfl

/-- **Whatever batches of ids an index was offered, every id stands where it is found.** A further
batch is refused exactly if an id occurs in it twice or is there already, and then nothing
changes; otherwise it is put behind the ids that are there, which stay where they are. -/
theorem find?_offerAll (batches : List (List String))
    (h : ∀ ids ∈ batches, ∀ id ∈ ids, IsProper id) :
    (empty.offerAll batches).ids.Nodup ∧
    (∀ i id, (empty.offerAll batches).ids[i]? = some id →
      (empty.offerAll batches).find? id = some i) ∧
    (∀ id, id ∉ (empty.offerAll batches).ids → (empty.offerAll batches).find? id = none) ∧
    ∀ more, (∀ id ∈ more, IsProper id) →
      ((∃ d, (empty.offerAll batches).add more = .error d) ↔
        ¬ more.Nodup ∨ ∃ id ∈ more, id ∈ (empty.offerAll batches).ids) ∧
      (∀ d, (empty.offerAll batches).add more = .error d →
        empty.offerAll (batches ++ [more]) = empty.offerAll batches ∧
        ∀ id, id ∈ d.ids ↔ 1 < ((empty.offerAll batches).ids ++ more).count id) ∧
      ∀ y, (empty.offerAll batches).add more = .ok y →
        empty.offerAll (batches ++ [more]) = y ∧
        y.ids = (empty.offerAll batches).ids ++ more ∧
        ∀ id, y.find? id = ((empty.offerAll batches).find? id).or
          ((more.findIdx? (· == id)).map (· + (empty.offerAll batches).ids.length)) := by
  have hsound : (empty.offerAll batches).IsSound := isSound_empty.offerAll h
  have hconcat : ∀ more, empty.offerAll (batches ++ [more]) =
      (empty.offerAll batches).offer more := fun more => List.foldl_append
  generalize empty.offerAll batches = x at hsound hconcat ⊢
  refine ⟨hsound.nodup, fun i id => (hsound.aligned.find?_eq_some hsound.nodup).mpr,
    fun id => hsound.aligned.find?_eq_none.mpr, ?_⟩
  intro more hmore
  refine ⟨hsound.add_eq_error_iff hmore, ?_, ?_⟩
  · intro d hadd
    refine ⟨?_, ?_⟩
    · rw [hconcat, offer, hadd]
    · intro id
      rw [ids_of_add_eq_error hadd, mem_repeated,
        map_distinctive (List.forall_mem_append.mpr ⟨hsound.proper, hmore⟩)]
  · intro y hadd
    refine ⟨?_, ids_of_add hadd, hsound.aligned.find?_of_add hadd⟩
    rw [hconcat, offer, hadd]

/-- Four batches, of which the third has an id that is there and the fourth one id twice. -/
def fourBatches : List (List String) := [["A", "B"], ["C"], ["D", "B"], ["D", "D"]]

theorem find?_offerAll_fourBatches : (∀ ids ∈ fourBatches, ∀ id ∈ ids, IsProper id) ∧
    (empty.offerAll fourBatches).ids = ["A", "B", "C"] ∧
    (empty.offerAll fourBatches).find? "C" = some 2 ∧
    (empty.offerAll fourBatches).find? "D" = none ∧
    (∃ d, (empty.offerAll fourBatches).add ["D", "C"] = .error d ∧ ("C" ∈ d.ids ∧ "D" ∉ d.ids)) ∧
    ∃ y, (empty.offerAll fourBatches).add ["D", "E"] = .ok y ∧ y.find? "E" = some 4 := by
  have hproper : ∀ ids ∈ fourBatches ++ [["D", "C"], ["D", "E"]], ∀ id ∈ ids, IsProper id := by
    decide +kernel
  rw [List.forall_mem_append] at hproper
  obtain ⟨hbatches, hmore⟩ := hproper
  have hids : (empty.offerAll fourBatches).ids = ["A", "B", "C"] := by decide +kernel
  obtain ⟨-, hfind, hnone, hadd⟩ := find?_offerAll fourBatches hbatches
  rw [hids] at hfind hnone hadd
  refine ⟨hbatches, hids, hfind 2 "C" rfl, hnone "D" (by decide), ?_, ?_⟩
  · obtain ⟨hiff, herror, -⟩ := hadd ["D", "C"] (hmore _ (by decide))
    obtain ⟨d, hd⟩ := hiff.mpr (Or.inr ⟨"C", by decide, by decide⟩)
    obtain ⟨-, hmem⟩ := herror d hd
    refine ⟨d, hd, (hmem "C").mpr (by decide), ?_⟩
    rw [hmem "D"]
    decide
  · obtain ⟨y, hy⟩ := exists_ok_of_isOk
      (x := (empty.offerAll fourBatches).add ["D", "E"]) (by decide +kernel)
    obtain ⟨-, -, hok⟩ := hadd ["D", "E"] (hmore _ (by decide))
    obtain ⟨-, -, hfound⟩ := hok y hy
    refine ⟨y, hy, ?_⟩
    rw [hfound "E", hnone "E" (by decide)]
    rfl

end IdIndex

end Sluice
