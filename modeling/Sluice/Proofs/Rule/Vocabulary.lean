import Mathlib.Data.List.Nodup
import Mathlib.Data.List.TakeWhile
import Sluice.Proofs.Network.Naming
import Sluice.Proofs.Rule.Refusal

/-!
# The words of a clause

A clause is read with four kinds of tables: object words and attributes, which are spelled in any
case, relations, which are spelled in one way, and the ids of a network. Reading looks into a
table from its front and takes the first hit. A grammar says what a word means and knows no
front, and the two agree because no table says two things of one word.

The words of a setting share their place with a number, so one more fact is needed of them:
**no number is spelled with letters alone** (`exists_notUpper_of_readFinite?`).
-/

set_option autoImplicit false

namespace Sluice

variable {α β γ : Type}

/-! ## 1. Tables of words -/

theorem find?_word_eq_some {all : List β} {word : β → String} (hall : ∀ b, b ∈ all)
    (hwords : (all.map word).Nodup) {text : String} {b : β} :
    (all.find? fun b => word b == text) = some b ↔ text = word b := by
  constructor
  · intro h
    have hb := List.find?_some h
    exact (eq_of_beq hb).symm
  · rintro rfl
    obtain ⟨other, hother⟩ : ∃ other, (all.find? fun o => word o == word b) = some other := by
      rw [← Option.isSome_iff_exists, List.find?_isSome]
      exact ⟨b, hall b, beq_self_eq_true _⟩
    have hfound := List.find?_some hother
    have hword : word other = word b := eq_of_beq hfound
    rw [hother, List.inj_on_of_nodup_map hwords (hall other) (hall b) hword]

theorem lookup_eq_some [BEq β] [LawfulBEq β] {table : List (β × γ)}
    (hkeys : (table.map Prod.fst).Nodup) {k : β} {c : γ} :
    table.lookup k = some c ↔ (k, c) ∈ table := by
  rw [List.lookup_eq_some_iff]
  constructor
  · rintro ⟨before, after, rfl, -⟩
    exact List.mem_append_right _ List.mem_cons_self
  · intro h
    obtain ⟨before, after, rfl⟩ := List.append_of_mem h
    refine ⟨before, after, rfl, ?_⟩
    intro entry hentry
    -- the same key further in front would be there twice
    rw [List.map_append, List.map_cons, List.nodup_append] at hkeys
    have hne := hkeys.2.2 entry.1 (List.mem_map_of_mem hentry) k List.mem_cons_self
    exact bne_iff_ne.mpr hne.symm

theorem ObjectType.find?_eq_some {token : String} {o : ObjectType} :
    ObjectType.find? token = some o ↔ Text.upper token = o.word := by
  refine find?_word_eq_some (fun o => ?_) (by decide)
  cases o with
  | link t => cases t <;> decide
  | node | anyLink | simulation => decide

theorem ObjectType.find?_eq_none {token : String} :
    ObjectType.find? token = none ↔ ∀ o : ObjectType, Text.upper token ≠ o.word := by
  rw [Option.eq_none_iff_forall_ne_some]
  exact forall_congr' fun o => not_congr find?_eq_some

theorem Attribute.find?_eq_some {token : String} {a : Attribute} :
    Attribute.find? token = some a ↔ Text.upper token = a.word := by
  refine find?_word_eq_some (fun a => ?_) (by decide)
  cases a <;> decide

theorem Relation.find?_eq_some {token : String} {r : Relation} :
    Relation.find? token = some r ↔ (token, r) ∈ Relation.signs :=
  lookup_eq_some (by decide)

/-! ## 2. Ids -/

theorem getElem?_map_eq_some {f : β → γ} {xs : List β} {i : Nat} {c : γ} :
    (xs.map f)[i]? = some c ↔ ∃ x, xs[i]? = some x ∧ f x = c := by
  rw [List.getElem?_map, Option.map_eq_some_iff]

namespace Network

/-- An object is found by its id exactly where it stands. -/
def Resolves (n : Network α) : Prop :=
  ∀ kind id i, n.find? kind id = some i ↔ (n.names kind)[i]? = some id

theorem resolves_of_load [Scalar α] [TimeReader α] {data : Json} {origin : Origin α} {n : Network α}
    (h : Dataset.load data origin = .ok n) : n.Resolves := by
  intro kind id i
  have hindex := (Dataset.loadedFrom h).indexes kind
  have hids : (n.ids kind).ids = n.names kind := IdIndex.ids_of_ofList hindex
  have hnodup : (n.ids kind).ids.Nodup := hids ▸ Dataset.nodup_names h kind
  rw [← hids]
  exact (IdIndex.isAligned_of_ofList hindex).find?_eq_some hnodup

theorem Resolves.position_eq_ok {n : Network α} (hn : n.Resolves) {kind : ObjectKind}
    {id : String} {i : Nat} :
    Clause.position n kind id = .ok i ↔ (n.names kind)[i]? = some id := by
  rw [← hn kind id i, Clause.position]
  split
  · rename_i j hj
    rw [hj, Except.ok.injEq, Option.some.injEq]
  · rename_i hnone
    rw [hnone]
    exact iff_of_false nofun nofun

end Network

/-! ## 3. Numbers are no words -/

theorem Text.toNat_of_isDigit {c : Char} (h : c.isDigit = true) :
    0x30 ≤ c.toNat ∧ c.toNat < 0x30 + 10 := by
  simp only [Char.isDigit, Bool.and_eq_true, decide_eq_true_eq] at h
  exact ⟨UInt32.le_iff_toNat_le.mp h.1, Nat.lt_succ_of_le (UInt32.le_iff_toNat_le.mp h.2)⟩

theorem Text.isSome_digitValue?_of_isDigit {c : Char} (h : c.isDigit = true) :
    (digitValue? c).isSome = true := by
  rw [digitValue?, Option.isSome_map, List.find?_isSome]
  exact ⟨0x30, by decide, by simpa using toNat_of_isDigit h⟩

/-- No system of digits covers a letter. -/
theorem Text.toNat_of_digitValue? {c : Char} (h : (digitValue? c).isSome = true) :
    c.toNat < 65 ∨ 0x660 ≤ c.toNat ∧ (c.toNat < 0xFB00 ∨ 0xFF10 ≤ c.toNat) := by
  rw [digitValue?, Option.isSome_map, List.find?_isSome] at h
  obtain ⟨z, hz, hc⟩ := h
  have hzeros : ∀ z ∈ decimalZeros,
      z = 0x30 ∨ 0x660 ≤ z ∧ (z + 10 ≤ 0xFB00 ∨ 0xFF10 ≤ z) := by decide
  have hzero := hzeros z hz
  simp only [Bool.and_eq_true, decide_eq_true_eq] at hc
  omega

/-- A digit is its own upper case, and no capital. -/
theorem Text.mem_upperChar_of_digitValue? {c : Char} (h : (digitValue? c).isSome = true) :
    c ∈ upperChar c ∧ c.isUpper = false := by
  have hrange := toNat_of_digitValue? h
  have hletters : ∀ low high : Char, 65 ≤ low.toNat → high.toNat ≤ 122 →
      ¬ (low.val ≤ c.val ∧ c.val ≤ high.val) := by
    rintro low high hlow hhigh ⟨ha, hz⟩
    have ha' : low.toNat ≤ c.toNat := UInt32.le_iff_toNat_le.mp ha
    have hz' : c.toNat ≤ high.toNat := UInt32.le_iff_toNat_le.mp hz
    omega
  constructor
  · unfold upperChar
    split
    all_goals try omega
    have hsame : c.toUpper = c := dif_neg (hletters 'a' 'z' (by decide) (by decide))
    rw [hsame]
    exact List.mem_singleton_self c
  · exact decide_eq_false (hletters 'A' 'Z' (by decide) (by decide))

theorem Text.subset_trimBy (p : Char → Bool) (cs : List Char) : trimBy p cs ⊆ cs := by
  intro c hc
  have hinner := List.dropWhile_subset p (List.mem_reverse.mp hc)
  exact List.dropWhile_subset p (List.mem_reverse.mp hinner)

namespace Numeral

theorem mem_of_mem_plain {cs : List Char} {c : Char} (h : c ∈ plain cs) (hc : c.isDigit = true) :
    ∃ d ∈ cs, (Text.digitValue? d).isSome = true := by
  obtain ⟨d, hd, rfl⟩ := List.mem_map.mp h
  refine ⟨d, hd, ?_⟩
  split at hc
  · exact Text.isSome_digitValue?_of_isDigit hc
  · split at hc
    · exact absurd hc (by decide)
    · split at hc
      · rename_i value hvalue
        rw [hvalue]
        rfl
      · exact Text.isSome_digitValue?_of_isDigit hc

theorem subset_of_dropUnderscores {afterDigit : Bool} {cs ds : List Char}
    (h : dropUnderscores afterDigit cs = some ds) : ds ⊆ cs := by
  induction cs generalizing afterDigit ds with
  | nil =>
    cases h
    exact List.Subset.refl _
  | cons c rest ih =>
    rw [dropUnderscores] at h
    split at h
    · split at h
      · exact List.subset_cons_of_subset c (ih h)
      · cases h
    · obtain ⟨ds', hds, rfl⟩ := Option.map_eq_some_iff.mp h
      exact List.cons_subset_cons c (ih hds)

theorem exists_isDigit_of_unsigned? {negative : Bool} {cs : List Char} {d : Decimal}
    (h : unsigned? negative cs = some d) : ∃ c ∈ cs, c.isDigit = true := by
  have htake : ∀ ds : List Char, ds ⊆ cs → (ds.takeWhile Char.isDigit).isEmpty = false →
      ∃ c ∈ cs, c.isDigit = true := by
    intro ds hds hne
    obtain ⟨c, rest, hc⟩ := List.exists_cons_of_ne_nil (List.isEmpty_eq_false_iff.mp hne)
    have hmem : c ∈ ds.takeWhile Char.isDigit := by
      rw [hc]
      exact List.mem_cons_self
    exact ⟨c, hds ((List.takeWhile_subset _) hmem), List.mem_takeWhile_imp hmem⟩
  rw [unsigned?] at h
  dsimp only at h
  cases hwhole : (cs.takeWhile Char.isDigit).isEmpty with
  | false => exact htake cs (List.Subset.refl cs) hwhole
  | true =>
    -- there are no digits in front, so there are some behind the point
    rw [hwhole, Bool.true_and] at h
    split at h
    · rename_i rest hrest
      split at h
      · cases h
      · rename_i hfraction
        refine htake rest ?_ (Bool.eq_false_iff.mpr hfraction)
        intro c hc
        refine (List.dropWhile_subset Char.isDigit) ?_
        rw [hrest]
        exact List.mem_cons_of_mem _ hc
    · cases h

theorem exists_digit_of_read? {text : String} {d : Decimal}
    (h : read? text = some (.decimal d)) :
    ∃ c ∈ text.toList, (Text.digitValue? c).isSome = true := by
  rw [read?] at h
  obtain ⟨cs, hcs, h⟩ := Option.bind_eq_some_iff.mp h
  have hsign : (splitSign cs).2 ⊆ cs := by
    unfold splitSign
    split
    · exact List.subset_cons_self _ _
    · exact List.subset_cons_self _ _
    · exact List.Subset.refl _
  dsimp only at h
  split at h
  · cases h
  split at h
  · cases h
  obtain ⟨d', hd', -⟩ := Option.map_eq_some_iff.mp h
  obtain ⟨c, hc, hdigit⟩ := exists_isDigit_of_unsigned? hd'
  have hplain : c ∈ plain text.toList :=
    Text.subset_trimBy Text.isAsciiBlank _ (subset_of_dropUnderscores hcs (hsign hc))
  exact mem_of_mem_plain hplain hdigit

end Numeral

/-- A token that is a finite number is spelled with something else than letters, too. -/
theorem exists_notUpper_of_readFinite? [Scalar α] {token : String} {x : α}
    (h : readFinite? token = some x) : ∃ c ∈ (Text.upper token).toList, c.isUpper = false := by
  have hread : ∃ d, Numeral.read? token = some (.decimal d) := by
    rw [readFinite?] at h
    split at h
    · rename_i numeral hnumeral
      cases numeral with
      | decimal d => exact ⟨d, hnumeral⟩
      | infinity negative => cases h
      | nan => cases h
    · cases h
  obtain ⟨d, hd⟩ := hread
  obtain ⟨c, hc, hdigit⟩ := Numeral.exists_digit_of_read? hd
  obtain ⟨hmem, hupper⟩ := Text.mem_upperChar_of_digitValue? hdigit
  refine ⟨c, ?_, hupper⟩
  rw [Text.upper, String.toList_ofList]
  exact List.mem_flatMap.mpr ⟨c, hc, hmem⟩

end Sluice
