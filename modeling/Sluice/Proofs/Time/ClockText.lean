import Sluice.Calendar.TimeLiteral
import Sluice.Proofs.Rule.Vocabulary

/-!
# Clock times as they are written

A clock time is three runs of digits with colons between them. The reader of whole numbers looks
for much more (signs, blanks, underscores, digits of other scripts), and none of it is found in a
run of digits, so **a clock time denotes what its three numbers do** (`hours_clockTime`).
-/

set_option autoImplicit false

namespace Sluice

/-- A run of digits, short enough to be read, and the number that it spells. -/
structure Spells (text : String) (n : Nat) : Prop where
  ne_nil : text.toList ≠ []
  all_isDigit : text.toList.all Char.isDigit = true
  length_le : text.toList.length ≤ Numeral.digitLimit
  value : Numeral.natOf text.toList = n

/-! ## 1. Runs of digits -/

section

variable {c : Char} {cs : List Char}

theorem ne_of_isDigit {c' : Char} (h : c.isDigit = true) (h' : c'.isDigit = false) : c ≠ c' := by
  rintro rfl
  exact absurd (h.symm.trans h') nofun

theorem Text.isDigit_of_isDigit (h : c.isDigit = true) : Text.isDigit c = true := by
  rw [Text.isDigit, Text.isSome_digitValue?_of_isDigit h, Bool.true_or]

theorem not_isAsciiBlank_of_isDigit (h : c.isDigit = true) : Text.isAsciiBlank c = false := by
  obtain ⟨hlow, hhigh⟩ := Text.toNat_of_isDigit h
  have hspace : c ≠ ' ' := ne_of_isDigit h rfl
  simp only [Text.isAsciiBlank, Bool.or_eq_false_iff, Bool.and_eq_false_iff,
    decide_eq_false_iff_not, beq_eq_false_iff_ne]
  exact ⟨by omega, hspace⟩

/-- Nothing is cut off where the first and the last character are not of the class. -/
theorem Text.trimBy_eq_self {p : Char → Bool} (h : ∀ c ∈ cs, p c = false) :
    Text.trimBy p cs = cs := by
  have hdrop : ∀ ds : List Char, (∀ c ∈ ds, p c = false) → ds.dropWhile p = ds := by
    intro ds hds
    cases ds with
    | nil => rfl
    | cons d ds => rw [List.dropWhile_cons_of_neg (by rw [hds d List.mem_cons_self]; decide)]
  rw [Text.trimBy, hdrop cs h, hdrop cs.reverse (fun c hc => h c (List.mem_reverse.mp hc)),
    List.reverse_reverse]

namespace Numeral

theorem plain_of_isDigit (h : ∀ c ∈ cs, c.isDigit = true) : plain cs = cs := by
  refine (List.map_congr_left fun c hc => if_pos ?_).trans (List.map_id cs)
  obtain ⟨hlow, hhigh⟩ := Text.toNat_of_isDigit (h c hc)
  omega

theorem dropUnderscores_of_isDigit (afterDigit : Bool) (h : ∀ c ∈ cs, c.isDigit = true) :
    dropUnderscores afterDigit cs = some cs := by
  induction cs generalizing afterDigit with
  | nil => rfl
  | cons c rest ih =>
    have hc := h c List.mem_cons_self
    have hne : (c == '_') = false := beq_eq_false_iff_ne.mpr (ne_of_isDigit hc rfl)
    rw [dropUnderscores, hne, if_neg Bool.false_ne_true,
      ih _ (fun d hd => h d (List.mem_cons_of_mem _ hd))]
    rfl

theorem splitSign_of_isDigit (h : ∀ c ∈ cs, c.isDigit = true) : splitSign cs = (false, cs) := by
  unfold splitSign
  split
  · exact absurd (h _ List.mem_cons_self) (by decide)
  · exact absurd (h _ List.mem_cons_self) (by decide)
  · rfl

end Numeral

end

theorem Spells.isDigit {text : String} {n : Nat} (h : Spells text n) :
    ∀ c ∈ text.toList, c.isDigit = true := List.all_eq_true.mp h.all_isDigit

theorem Spells.readInt? {text : String} {n : Nat} (h : Spells text n) :
    Numeral.readInt? (String.ofList text.toList) = some (n : Int) := by
  have hspelling : Numeral.spelling? text = some text.toList := by
    rw [Numeral.spelling?, Numeral.plain_of_isDigit h.isDigit, Text.trimBy_eq_self
      (fun c hc => not_isAsciiBlank_of_isDigit (h.isDigit c hc)),
      Numeral.dropUnderscores_of_isDigit false h.isDigit]
  have hreadable : (text.toList.isEmpty || !(text.toList.all Char.isDigit) ||
      decide (Numeral.digitLimit < text.toList.length)) = false := by
    rw [List.isEmpty_eq_false_iff.mpr h.ne_nil, h.all_isDigit,
      decide_eq_false (Nat.not_lt.mpr h.length_le)]
    rfl
  rw [String.ofList_toList, Numeral.readInt?, hspelling, Option.bind_eq_bind, Option.bind_some,
    Numeral.splitSign_of_isDigit h.isDigit]
  dsimp only
  rw [hreadable, if_neg Bool.false_ne_true, if_neg Bool.false_ne_true, h.value]

/-! ## 2. Colons -/

namespace TimeLiteral

theorem splitAt_of_notMem {separator : Char} {cs : List Char} (h : separator ∉ cs) :
    splitAt separator cs = [cs] := by
  induction cs with
  | nil => rfl
  | cons c rest ih =>
    have hc : (c == separator) = false :=
      beq_eq_false_iff_ne.mpr (Ne.symm (List.ne_of_not_mem_cons h))
    rw [splitAt, hc, if_neg Bool.false_ne_true, ih (List.not_mem_of_not_mem_cons h)]

theorem splitAt_append {separator : Char} {cs : List Char} (h : separator ∉ cs)
    (rest : List Char) :
    splitAt separator (cs ++ separator :: rest) = cs :: splitAt separator rest := by
  induction cs with
  | nil => rw [List.nil_append, splitAt, beq_self_eq_true, if_pos rfl]
  | cons c cs ih =>
    have hc : (c == separator) = false :=
      beq_eq_false_iff_ne.mpr (Ne.symm (List.ne_of_not_mem_cons h))
    rw [List.cons_append, splitAt, hc, if_neg Bool.false_ne_true,
      ih (List.not_mem_of_not_mem_cons h)]

variable {α : Type} [Scalar α]

/-- A clock time denotes what its numbers do. -/
theorem hours_clockTime [TimeReader α] {hourText minuteText secondText : String} {h m s : Nat}
    (hh : Spells hourText h) (hm : Spells minuteText m) (hs : Spells secondText s) (hm60 : m < 60)
    (hs60 : s < 60) :
    hours (hourText ++ ":" ++ minuteText ++ ":" ++ secondText) =
      (clockHours h m s : Except TimeLiteralError α) := by
  have hcolon : ∀ {text : String} {n : Nat}, Spells text n → ':' ∉ text.toList :=
    fun hspells hmem => absurd (hspells.isDigit _ hmem) (by decide)
  have hchars : (hourText ++ ":" ++ minuteText ++ ":" ++ secondText).toList =
      hourText.toList ++ ':' :: (minuteText.toList ++ ':' :: secondText.toList) := by
    simp [String.toList_append]
  have hpieces : splitAt ':' (hourText ++ ":" ++ minuteText ++ ":" ++ secondText).toList =
      [hourText.toList, minuteText.toList, secondText.toList] := by
    rw [hchars, splitAt_append (hcolon hh), splitAt_append (hcolon hm),
      splitAt_of_notMem (hcolon hs)]
  have hdigits : ∀ {text : String} {n : Nat}, Spells text n →
      (!text.toList.isEmpty && text.toList.all Text.isDigit) = true := by
    intro text n hspells
    rw [List.isEmpty_eq_false_iff.mpr hspells.ne_nil, List.all_eq_true.mpr
      (fun c hc => Text.isDigit_of_isDigit (hspells.isDigit c hc))]
    rfl
  have hcontains : (hourText ++ ":" ++ minuteText ++ ":" ++ secondText).toList.contains ':' =
      true := by
    rw [hchars, List.contains_iff_mem]
    exact List.mem_append_right _ List.mem_cons_self
  have hshape : (decide (3 < [hourText.toList, minuteText.toList, secondText.toList].length) ||
      !([hourText.toList, minuteText.toList, secondText.toList].all
        fun p => !p.isEmpty && p.all Text.isDigit)) = false := by
    simp only [List.all_cons, hdigits hh, hdigits hm, hdigits hs]
    rfl
  have hnumbers : [hourText.toList, minuteText.toList, secondText.toList].mapM
      (fun p => Numeral.readInt? (String.ofList p)) = some [(h : Int), (m : Int), (s : Int)] := by
    simp only [List.mapM_cons, hh.readInt?, hm.readInt?, hs.readInt?]
    rfl
  have hparts : (decide (60 ≤ m) || decide (60 ≤ s)) = false := by
    rw [decide_eq_false (Nat.not_le.mpr hm60), decide_eq_false (Nat.not_le.mpr hs60)]
    rfl
  rw [hours, if_pos hcontains, colonHours, hpieces]
  dsimp only
  rw [hshape, if_neg Bool.false_ne_true, hnumbers]
  exact if_neg (by rw [← Bool.not_eq_true] at hparts; exact hparts)

end TimeLiteral

end Sluice
