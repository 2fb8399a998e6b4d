import Mathlib.Data.Nat.Digits.Defs
import Mathlib.Tactic.IntervalCases
import Sluice.Json.Plain
import Sluice.Proofs.Rule.Vocabulary

/-!
# Reading back what was written

The printer writes no blanks, escapes what a text may not hold, and gives every decimal an exponent;
the reader has to find the same value in it again. For a text that is one character at a time
(`characters?_escape`). For a number it depends on what comes behind it, since digits have no
closing mark: a comma, a bracket or the end of the text (`IsBoundary`), and a decimal is told from
a whole number by its exponent alone (`number?_int`, `number?_real`).

Values are read with fuel. `ReadsBack` says at once of values, items and members that some fuel is
enough for everything shorter, which is what one more unit of fuel preserves. Objects are the one
place where a value may be lost, because the reader merges members of one name; so **a value in
which no object names a member twice is read as it was written** (`read?_render`).
-/

set_option autoImplicit false

namespace Sluice.Json

open Reader

/-! ## 1. Texts -/

theorem hex4?_hex {n : Nat} (hn : n < 0x80) (rest : List Char) :
    hex4? (hex n ++ rest) = some (n, rest) := by
  interval_cases n <;> rfl

theorem unicode?_hex {c : Char} (hc : c.toNat < 0x80) (rest : List Char) :
    unicode? (hex c.toNat ++ rest) = some (c, rest) := by
  unfold unicode?
  rw [hex4?_hex hc]
  show (if _ then _ else if _ then none else some (Char.ofNat c.toNat, rest)) = _
  rw [if_neg, if_neg, Char.ofNat_toNat]
  · simp
    omega
  · simp
    omega

/-- What is written for one character is read as that character. -/
theorem characters?_escape (c : Char) (read rest : List Char) (fuel : Nat) :
    characters? read (escape c ++ rest) (fuel + 1) = characters? (c :: read) rest fuel := by
  unfold escape
  by_cases hquote : c = '"' ∨ c = '\\'
  · rcases hquote with rfl | rfl <;> rfl
  · rw [if_neg (by simpa using hquote)]
    rw [not_or] at hquote
    split
    · rename_i hcontrol
      rw [Bool.or_eq_true, decide_eq_true_iff, decide_eq_true_iff] at hcontrol
      have hlow : c.toNat < 0x80 := by omega
      show (unicode? (hex c.toNat ++ rest)).bind _ = _
      rw [unicode?_hex hlow]
      rfl
    · rename_i hplain
      rw [Bool.or_eq_true, decide_eq_true_iff, decide_eq_true_iff] at hplain
      have hhigh : ¬ c.toNat < 0x20 := by omega
      rw [List.singleton_append, characters?, if_neg hhigh]
      · exact hquote.1
      · exact fun _ hc _ => hquote.2 hc
      · exact fun _ _ hc _ => hquote.2 hc

theorem characters?_flatMap (cs read rest : List Char) {fuel : Nat} (hfuel : cs.length < fuel) :
    characters? read (cs.flatMap escape ++ '"' :: rest) fuel =
      some (String.ofList (read.reverse ++ cs), rest) := by
  induction cs generalizing read fuel with
  | nil =>
    obtain ⟨fuel, rfl⟩ := Nat.exists_eq_add_one.mpr hfuel
    rw [List.append_nil]
    rfl
  | cons c cs ih =>
    obtain ⟨fuel, rfl⟩ := Nat.exists_eq_add_one.mpr (Nat.zero_lt_of_lt hfuel)
    rw [List.flatMap_cons, List.append_assoc, characters?_escape,
      ih (c :: read) (Nat.lt_of_succ_lt_succ hfuel), List.reverse_cons, List.append_assoc]
    rfl

/-! ## 2. Numbers -/

/-- What may stand behind a value: nothing, a comma or the end of a list. -/
def IsBoundary (rest : List Char) : Prop := ∀ c ∈ rest.head?, c = ',' ∨ c = ']' ∨ c = '\x7d'

theorem IsBoundary.not_isDigit {rest : List Char} (h : IsBoundary rest) :
    ∀ c ∈ rest.head?, c.isDigit = false := by
  intro c hc
  rcases h c hc with rfl | rfl | rfl <;> rfl

theorem natOf_toDigits (n : Nat) : Numeral.natOf (Nat.toDigits 10 n) = n :=
  Nat.ofDigitChars_toDigits (by decide) le_rfl

theorem head?_toDigits_ne {n : Nat} (hn : 0 < n) : (Nat.toDigits 10 n).head? ≠ some '0' := by
  induction n using Nat.strongRecOn with
  | ind n ih =>
    rw [Nat.toDigits_eq_if (by decide)]
    split
    · rename_i hsmall
      interval_cases n <;> decide
    · rename_i hlarge
      have hpos : 0 < n / 10 := Nat.div_pos (Nat.le_of_not_lt hlarge) (by decide)
      rw [List.head?_append_of_ne_nil _ Nat.toDigits_ne_nil]
      exact ih (n / 10) (Nat.div_lt_self hn (by decide)) hpos

theorem isDigit_of_mem_toDigits {n : Nat} {c : Char} (h : c ∈ Nat.toDigits 10 n) :
    c.isDigit = true := Nat.isDigit_of_mem_toDigits (by decide) le_rfl h

theorem exists_cons_toDigits (n : Nat) :
    ∃ c cs, Nat.toDigits 10 n = c :: cs ∧ c.isDigit = true := by
  obtain ⟨c, cs, h⟩ := List.exists_cons_of_ne_nil (Nat.toDigits_ne_nil (n := n) (b := 10))
  exact ⟨c, cs, h, isDigit_of_mem_toDigits (h ▸ List.mem_cons_self)⟩

theorem takeWhile_toDigits (n : Nat) {rest : List Char}
    (h : ∀ c ∈ rest.head?, c.isDigit = false) :
    (Nat.toDigits 10 n ++ rest).takeWhile Char.isDigit = Nat.toDigits 10 n ∧
      (Nat.toDigits 10 n ++ rest).dropWhile Char.isDigit = rest := by
  have hdigits : ∀ c ∈ Nat.toDigits 10 n, c.isDigit = true := fun c => isDigit_of_mem_toDigits
  rw [List.takeWhile_append_of_pos hdigits, List.dropWhile_append_of_pos hdigits]
  cases rest with
  | nil => simp
  | cons c rest =>
    have hc : ¬ c.isDigit = true := by simp [h c rfl]
    rw [List.takeWhile_cons_of_neg hc, List.dropWhile_cons_of_neg hc, List.append_nil]
    exact ⟨rfl, rfl⟩

/-- No number that is written starts with a zero before another digit. -/
theorem not_leadingZero (n : Nat) : ((Nat.toDigits 10 n).isEmpty ||
    ((Nat.toDigits 10 n).head? == some '0' && decide (1 < (Nat.toDigits 10 n).length))) =
      false := by
  rw [Bool.or_eq_false_iff, List.isEmpty_eq_false_iff]
  refine ⟨Nat.toDigits_ne_nil, ?_⟩
  rcases Nat.eq_zero_or_pos n with rfl | hn
  · rfl
  · rw [Bool.and_eq_false_iff, beq_eq_false_iff_ne]
    exact Or.inl (head?_toDigits_ne hn)

theorem number?_int (negative : Bool) (n : Nat) {rest : List Char} (h : IsBoundary rest) :
    Reader.number? negative (Nat.toDigits 10 n ++ rest) =
      some (.int (if negative then -(n : Int) else n), rest) := by
  obtain ⟨htake, hdrop⟩ := takeWhile_toDigits n h.not_isDigit
  have hfraction : fraction? rest = some ([], rest) := by
    cases rest with
    | nil => rfl
    | cons c rest =>
      rcases h c rfl with rfl | rfl | rfl <;> rfl
  have hexponent : Reader.exponent? rest = some (none, rest) := by
    cases rest with
    | nil => rfl
    | cons c rest =>
      rcases h c rfl with rfl | rfl | rfl <;> rfl
  unfold Reader.number?
  rw [htake, hdrop]
  simp only [not_leadingZero, Bool.false_eq_true, if_false, hfraction, Option.bind_eq_bind,
    Option.bind_some, hexponent, natOf_toDigits, List.isEmpty_nil, Option.isNone_none,
    Bool.and_self, if_true]

theorem toList_toString_int (z : Int) :
    (toString z).toList = (if z < 0 then ['-'] else []) ++ Nat.toDigits 10 z.natAbs := by
  cases z with
  | ofNat n =>
    rw [if_neg (by simp)]
    exact Nat.toList_repr
  | negSucc n =>
    rw [if_pos (Int.negSucc_lt_zero n)]
    show ("-" ++ Nat.repr (n + 1)).toList = _
    rw [String.toList_append, Nat.toList_repr]
    rfl

theorem splitSign_toDigits (n : Nat) (rest : List Char) :
    Numeral.splitSign (Nat.toDigits 10 n ++ rest) = (false, Nat.toDigits 10 n ++ rest) := by
  obtain ⟨c, cs, hdigits, hc⟩ := exists_cons_toDigits n
  have hminus : c ≠ '-' := by
    rintro rfl
    cases hc
  have hplus : c ≠ '+' := by
    rintro rfl
    cases hc
  rw [hdigits, List.cons_append, Numeral.splitSign]
  · exact fun _ h => hminus (List.cons.inj h).1
  · exact fun _ h => hplus (List.cons.inj h).1

theorem exponent?_int (z : Int) {rest : List Char} (h : IsBoundary rest) :
    Reader.exponent? ('e' :: ((toString z).toList ++ rest)) = some (some z, rest) := by
  obtain ⟨htake, hdrop⟩ := takeWhile_toDigits z.natAbs h.not_isDigit
  have hsplit : Numeral.splitSign ((toString z).toList ++ rest) =
      (decide (z < 0), Nat.toDigits 10 z.natAbs ++ rest) := by
    rw [toList_toString_int]
    by_cases hz : z < 0
    · rw [if_pos hz, decide_eq_true hz]
      rfl
    · rw [if_neg hz, decide_eq_false hz]
      exact splitSign_toDigits _ _
  have hne : (Nat.toDigits 10 z.natAbs).isEmpty = false :=
    List.isEmpty_eq_false_iff.mpr Nat.toDigits_ne_nil
  have hvalue : (if decide (z < 0) then -(z.natAbs : Int) else z.natAbs) = z := by
    by_cases hz : z < 0
    · rw [if_pos (decide_eq_true hz)]
      omega
    · rw [if_neg (by simpa using hz)]
      omega
  unfold Reader.exponent?
  simp only [beq_self_eq_true, Bool.true_or, if_true, hsplit, htake, hdrop, hne, natOf_toDigits,
    hvalue, Bool.false_eq_true, if_false]

theorem number?_real (d : Decimal) {rest : List Char} (h : IsBoundary rest) :
    Reader.number? d.negative
        (Nat.toDigits 10 d.mantissa ++ 'e' :: ((toString d.exponent).toList ++ rest))
      = some (.real d, rest) := by
  have hstop : ∀ c ∈ ('e' :: ((toString d.exponent).toList ++ rest)).head?,
      c.isDigit = false := by
    rintro _ ⟨⟩
    rfl
  obtain ⟨htake, hdrop⟩ := takeWhile_toDigits d.mantissa hstop
  have hfraction : fraction? ('e' :: ((toString d.exponent).toList ++ rest)) =
      some ([], 'e' :: ((toString d.exponent).toList ++ rest)) := rfl
  unfold Reader.number?
  rw [htake, hdrop]
  simp only [not_leadingZero, Bool.false_eq_true, if_false, hfraction, Option.bind_eq_bind,
    Option.bind_some, exponent?_int _ h, natOf_toDigits, List.append_nil, Option.isNone_some,
    Bool.and_false, Option.getD_some, List.length_nil, Nat.cast_zero, sub_zero]

/-! ## 3. Values -/

mutual

/-- No object in a value names a member twice. -/
def Distinct : Json → Prop
  | .array items => ItemsDistinct items
  | .object members => (members.map (·.1)).Nodup ∧ MembersDistinct members
  | .null | .bool _ | .int _ | .real _ | .text _ => True

def ItemsDistinct : List Json → Prop
  | [] => True
  | j :: rest => Distinct j ∧ ItemsDistinct rest

def MembersDistinct : List (String × Json) → Prop
  | [] => True
  | (_, j) :: rest => Distinct j ∧ MembersDistinct rest

end

theorem skip_of_not_isSpace {c : Char} {rest : List Char} (h : isSpace c = false) :
    skip (c :: rest) = c :: rest := by
  rw [skip, List.dropWhile_cons_of_neg (by simp [h])]

theorem isSpace_of_isDigit {c : Char} (h : c.isDigit = true) : isSpace c = false := by
  obtain ⟨hlow, hhigh⟩ := Text.toNat_of_isDigit h
  simp only [isSpace, Bool.or_eq_false_iff, beq_eq_false_iff_ne]
  refine ⟨⟨⟨?_, ?_⟩, ?_⟩, ?_⟩ <;>
  · rintro rfl
    exact absurd hlow (by decide)

/-- A number without a sign is read where a value is read. -/
theorem value?_of_isDigit {c : Char} (h : c.isDigit = true) (fuel : Nat) (cs : List Char) :
    value? (fuel + 1) (c :: cs) = Reader.number? false (c :: cs) := by
  have hne : ∀ c', c'.isDigit = false → c ≠ c' := by
    rintro c' hc' rfl
    exact absurd (h.symm.trans hc') nofun
  rw [value?, skip_of_not_isSpace (isSpace_of_isDigit h)]
  split
  all_goals
    first
    | rfl
    | rename_i heq
      exact absurd (List.cons.inj heq).1 (hne _ rfl)

theorem value?_toDigits (fuel n : Nat) (rest : List Char) :
    value? (fuel + 1) (Nat.toDigits 10 n ++ rest) =
      Reader.number? false (Nat.toDigits 10 n ++ rest) := by
  obtain ⟨c, cs, hdigits, hc⟩ := exists_cons_toDigits n
  rw [hdigits, List.cons_append]
  exact value?_of_isDigit hc fuel _

theorem value?_int (fuel : Nat) (n : Int) {rest : List Char} (h : IsBoundary rest) :
    value? (fuel + 1) ((toString n).toList ++ rest) = some (.int n, rest) := by
  rw [toList_toString_int]
  by_cases hn : n < 0
  · have hvalue : -(n.natAbs : Int) = n := by omega
    rw [if_pos hn]
    show Reader.number? true (Nat.toDigits 10 n.natAbs ++ rest) = _
    rw [number?_int true _ h, if_pos rfl, hvalue]
  · have hvalue : (n.natAbs : Int) = n := by omega
    rw [if_neg hn, List.nil_append, value?_toDigits, number?_int false _ h, if_neg nofun, hvalue]

theorem value?_real (fuel : Nat) (d : Decimal) {rest : List Char} (h : IsBoundary rest) :
    value? (fuel + 1) ((renderReal d).toList ++ rest) = some (.real d, rest) := by
  have htext : (renderReal d).toList ++ rest = (if d.negative then ['-'] else []) ++
      (Nat.toDigits 10 d.mantissa ++ 'e' :: ((toString d.exponent).toList ++ rest)) := by
    have hmantissa : (toString d.mantissa).toList = Nat.toDigits 10 d.mantissa := Nat.toList_repr
    rw [renderReal, String.toList_append, String.toList_append, String.toList_append, hmantissa]
    cases d.negative <;> simp
  rw [htext]
  cases hsign : d.negative with
  | true =>
    show Reader.number? true _ = _
    rw [← hsign]
    exact number?_real d h
  | false =>
    rw [if_neg nofun, List.nil_append, value?_toDigits, ← hsign]
    exact number?_real d h

theorem length_le_flatMap (cs : List Char) : cs.length ≤ (cs.flatMap escape).length := by
  have hone : ∀ c, 1 ≤ (escape c).length := by
    intro c
    unfold escape
    split
    · exact Nat.le_add_left 1 _
    · split <;> simp
  induction cs with
  | nil => exact Nat.le_refl 0
  | cons c cs ih =>
    rw [List.flatMap_cons, List.length_append, List.length_cons, Nat.add_comm]
    exact Nat.add_le_add (hone c) ih

theorem toList_renderText (s : String) :
    (renderText s).toList = '"' :: (s.toList.flatMap escape ++ ['"']) := by
  rw [renderText, String.toList_ofList]
  rfl

/-- A text that is written is read up to its closing quote. -/
theorem characters?_renderText (s : String) (rest : List Char) :
    characters? [] (s.toList.flatMap escape ++ '"' :: rest)
      ((s.toList.flatMap escape ++ '"' :: rest).length + 1) = some (s, rest) := by
  rw [characters?_flatMap]
  · rw [List.reverse_nil, List.nil_append, String.ofList_toList]
  · rw [List.length_append]
    exact Nat.lt_succ_of_le ((length_le_flatMap _).trans (Nat.le_add_right _ _))

theorem value?_text (fuel : Nat) (s : String) (rest : List Char) :
    value? (fuel + 1) ((renderText s).toList ++ rest) = some (.text s, rest) := by
  rw [toList_renderText, List.cons_append, List.append_assoc, List.singleton_append]
  show (characters? [] (s.toList.flatMap escape ++ '"' :: rest) _).map _ = _
  rw [characters?_renderText]
  rfl

/-- A new member comes last. -/
theorem setMember_of_not_mem {key : String} {value : Json} {members : List (String × Json)}
    (h : key ∉ members.map (·.1)) : setMember key value members = members ++ [(key, value)] := by
  induction members with
  | nil => rfl
  | cons m rest ih =>
    rw [List.map_cons, List.mem_cons, not_or] at h
    rw [setMember, if_neg (by simpa using Ne.symm h.1), ih h.2]
    rfl

/-- What is written starts neither with a blank nor with a closing bracket. -/
theorem exists_cons_render (j : Json) :
    ∃ c cs, (render j).toList = c :: cs ∧ isSpace c = false ∧ c ≠ ']' := by
  have hdigits : ∀ n, ∃ c cs, Nat.toDigits 10 n = c :: cs ∧ isSpace c = false ∧ c ≠ ']' := by
    intro n
    obtain ⟨c, cs, hn, hc⟩ := exists_cons_toDigits n
    refine ⟨c, cs, hn, isSpace_of_isDigit hc, ?_⟩
    rintro rfl
    cases hc
  cases j with
  | null => exact ⟨'n', _, rfl, rfl, nofun⟩
  | bool b => cases b <;> exact ⟨_, _, rfl, rfl, nofun⟩
  | int n =>
    obtain ⟨c, cs, hn, hc⟩ := hdigits n.natAbs
    show ∃ c cs, (toString n).toList = _ ∧ _
    rw [toList_toString_int, hn]
    split
    · exact ⟨'-', _, rfl, rfl, nofun⟩
    · exact ⟨c, cs, rfl, hc⟩
  | real d =>
    obtain ⟨c, cs, hn, hc⟩ := hdigits d.mantissa
    have hmantissa : (toString d.mantissa).toList = c :: cs := Nat.toList_repr.trans hn
    show ∃ c cs, (renderReal d).toList = _ ∧ _
    rw [renderReal, String.toList_append, String.toList_append, String.toList_append, hmantissa]
    split
    · exact ⟨'-', _, rfl, rfl, nofun⟩
    · exact ⟨c, _, rfl, hc⟩
  | text s => exact ⟨'"', _, toList_renderText s, rfl, nofun⟩
  | array items =>
    rw [render, String.toList_append, String.toList_append]
    exact ⟨'[', _, rfl, rfl, nofun⟩
  | object members =>
    rw [render, String.toList_append, String.toList_append]
    exact ⟨'\x7b', _, rfl, rfl, nofun⟩

/-! ## 4. The round trip -/

theorem isBoundary_cons {c : Char} (h : c = ',' ∨ c = ']' ∨ c = '\x7d') (rest : List Char) :
    IsBoundary (c :: rest) := by
  rintro _ ⟨⟩
  exact h

variable {fuel : Nat} {cs rest : List Char} {j : Json}

theorem items?_last {read : List Json} (h : value? fuel cs = some (j, ']' :: rest)) :
    items? (fuel + 1) read cs = some (.array (read.reverse ++ [j]), rest) := by
  rw [items?, h, ← List.reverse_cons]
  rfl

theorem items?_more {read : List Json} (h : value? fuel cs = some (j, ',' :: rest)) :
    items? (fuel + 1) read cs = items? fuel (j :: read) rest := by
  rw [items?, h]
  rfl

theorem members?_renderText {key : String} {read : List (String × Json)} :
    members? (fuel + 1) read ((renderText key).toList ++ ':' :: cs) =
      (value? fuel cs).bind fun (item, rest) =>
        match skip rest with
        | ',' :: rest => members? fuel (setMember key item read) rest
        | '\x7d' :: rest => some (.object (setMember key item read), rest)
        | _ => none := by
  rw [toList_renderText, List.cons_append, List.append_assoc, List.singleton_append]
  show (characters? [] (key.toList.flatMap escape ++ '"' :: ':' :: cs) _).bind _ = _
  rw [characters?_renderText]
  rfl

theorem members?_last {key : String} {read : List (String × Json)}
    (h : value? fuel cs = some (j, '\x7d' :: rest)) :
    members? (fuel + 1) read ((renderText key).toList ++ ':' :: cs) =
      some (.object (setMember key j read), rest) := by
  rw [members?_renderText, h]
  rfl

theorem members?_more {key : String} {read : List (String × Json)}
    (h : value? fuel cs = some (j, ',' :: rest)) :
    members? (fuel + 1) read ((renderText key).toList ++ ':' :: cs) =
      members? fuel (setMember key j read) rest := by
  rw [members?_renderText, h]
  rfl

theorem value?_array (h : ∃ c cs', cs = c :: cs' ∧ isSpace c = false ∧ c ≠ ']') :
    value? (fuel + 1) ('[' :: cs) = items? fuel [] cs := by
  obtain ⟨c, cs', rfl, hspace, hbracket⟩ := h
  have hopen : skip ('[' :: c :: cs') = '[' :: c :: cs' := skip_of_not_isSpace rfl
  simp only [value?, hopen, skip_of_not_isSpace hspace]
  split
  · rename_i heq
    exact absurd (List.cons.inj heq).1 hbracket
  · rfl

theorem exists_cons_renderItems (j : Json) (items : List Json) (rest : List Char) :
    ∃ c cs, (renderItems (j :: items)).toList ++ rest = c :: cs ∧ isSpace c = false ∧ c ≠ ']' := by
  obtain ⟨c, cs, hj, hc⟩ := exists_cons_render j
  cases items with
  | nil =>
    rw [renderItems, hj]
    exact ⟨c, _, rfl, hc⟩
  | cons j' items =>
    rw [renderItems, String.toList_append, String.toList_append, hj]
    · exact ⟨c, _, rfl, hc⟩
    · exact nofun

theorem toList_renderItems (j j' : Json) (items : List Json) :
    (renderItems (j :: j' :: items)).toList =
      (render j).toList ++ ',' :: (renderItems (j' :: items)).toList := by
  rw [renderItems, String.toList_append, String.toList_append, List.append_assoc]
  · rfl
  · exact nofun

theorem toList_renderMember (key : String) (j : Json) :
    (renderMembers [(key, j)]).toList = (renderText key).toList ++ ':' :: (render j).toList := by
  rw [renderMembers, String.toList_append, String.toList_append, List.append_assoc]
  rfl

theorem toList_renderMembers (key : String) (j : Json) (m : String × Json)
    (members : List (String × Json)) :
    (renderMembers ((key, j) :: m :: members)).toList =
      (renderText key).toList ++
        ':' :: ((render j).toList ++ ',' :: (renderMembers (m :: members)).toList) := by
  rw [renderMembers, String.toList_append, String.toList_append, String.toList_append,
    String.toList_append, List.append_assoc, List.append_assoc, List.append_assoc]
  · rfl
  · exact nofun

theorem toList_renderArray (items : List Json) :
    (render (.array items)).toList = '[' :: ((renderItems items).toList ++ [']']) := by
  rw [render, String.toList_append, String.toList_append]
  rfl

theorem toList_renderObject (members : List (String × Json)) :
    (render (.object members)).toList = '\x7b' :: ((renderMembers members).toList ++ ['\x7d']) := by
  rw [render, String.toList_append, String.toList_append]
  rfl

theorem value?_renderMembers {key : String} {members : List (String × Json)} :
    value? (fuel + 1) ('\x7b' :: ((renderMembers ((key, j) :: members)).toList ++ rest)) =
      members? fuel [] ((renderMembers ((key, j) :: members)).toList ++ rest) := by
  cases members with
  | nil =>
    rw [toList_renderMember, toList_renderText]
    rfl
  | cons m members =>
    rw [toList_renderMembers, toList_renderText]
    rfl

/-- With some fuel everything that is shorter is read back: values, and the items and members that
follow those read so far. -/
structure ReadsBack (fuel : Nat) : Prop where
  value : ∀ {j : Json} {rest : List Char}, j.Distinct → (render j).toList.length < fuel →
    IsBoundary rest → value? fuel ((render j).toList ++ rest) = some (j, rest)
  items : ∀ {j : Json} {items read : List Json} {rest : List Char}, ItemsDistinct (j :: items) →
    (renderItems (j :: items)).toList.length + 1 < fuel →
    items? fuel read ((renderItems (j :: items)).toList ++ ']' :: rest) =
      some (.array (read.reverse ++ j :: items), rest)
  members : ∀ {key : String} {j : Json} {members read : List (String × Json)} {rest : List Char},
    MembersDistinct ((key, j) :: members) → ((read ++ (key, j) :: members).map (·.1)).Nodup →
    (renderMembers ((key, j) :: members)).toList.length + 1 < fuel →
    members? fuel read ((renderMembers ((key, j) :: members)).toList ++ '\x7d' :: rest) =
      some (.object (read ++ (key, j) :: members), rest)

namespace ReadsBack

theorem value_succ (h : ReadsBack fuel) (hj : j.Distinct)
    (hfuel : (render j).toList.length < fuel + 1) (hrest : IsBoundary rest) :
    value? (fuel + 1) ((render j).toList ++ rest) = some (j, rest) := by
  cases j with
  | null => rfl
  | bool b => cases b <;> rfl
  | int n => exact value?_int fuel n hrest
  | real d => exact value?_real fuel d hrest
  | text s => exact value?_text fuel s rest
  | array items =>
    rw [toList_renderArray, List.length_cons, List.length_append, List.length_singleton] at hfuel
    rw [toList_renderArray, List.cons_append, List.append_assoc, List.singleton_append]
    cases items with
    | nil => rfl
    | cons j items =>
      rw [value?_array (exists_cons_renderItems j items _)]
      exact h.items hj (by omega)
  | object members =>
    rw [toList_renderObject, List.length_cons, List.length_append, List.length_singleton] at hfuel
    rw [toList_renderObject, List.cons_append, List.append_assoc, List.singleton_append]
    cases members with
    | nil => rfl
    | cons m members =>
      obtain ⟨key, j⟩ := m
      rw [value?_renderMembers]
      exact h.members hj.2 hj.1 (by omega)

theorem items_succ (h : ReadsBack fuel) {items read : List Json} (hj : ItemsDistinct (j :: items))
    (hfuel : (renderItems (j :: items)).toList.length + 1 < fuel + 1) :
    items? (fuel + 1) read ((renderItems (j :: items)).toList ++ ']' :: rest) =
      some (.array (read.reverse ++ j :: items), rest) := by
  cases items with
  | nil =>
    rw [renderItems] at hfuel ⊢
    exact items?_last (h.value hj.1 (Nat.lt_of_succ_lt_succ hfuel)
      (isBoundary_cons (Or.inr (Or.inl rfl)) rest))
  | cons j' items =>
    rw [toList_renderItems, List.length_append, List.length_cons] at hfuel
    rw [toList_renderItems, List.append_assoc, List.cons_append,
      items?_more (h.value hj.1 (by omega) (isBoundary_cons (Or.inl rfl) _)),
      h.items hj.2 (by omega), List.reverse_cons, List.append_assoc]
    rfl

theorem members_succ (h : ReadsBack fuel) {key : String} {members read : List (String × Json)}
    (hj : MembersDistinct ((key, j) :: members))
    (hnodup : ((read ++ (key, j) :: members).map (·.1)).Nodup)
    (hfuel : (renderMembers ((key, j) :: members)).toList.length + 1 < fuel + 1) :
    members? (fuel + 1) read ((renderMembers ((key, j) :: members)).toList ++ '\x7d' :: rest) =
      some (.object (read ++ (key, j) :: members), rest) := by
  have hfresh : key ∉ read.map (·.1) := by
    rw [List.map_append, List.nodup_append] at hnodup
    exact fun hkey => hnodup.2.2 key hkey key List.mem_cons_self rfl
  cases members with
  | nil =>
    rw [toList_renderMember, List.length_append, List.length_cons] at hfuel
    rw [toList_renderMember, List.append_assoc, List.cons_append,
      members?_last (h.value hj.1 (by omega) (isBoundary_cons (Or.inr (Or.inr rfl)) rest)),
      setMember_of_not_mem hfresh]
  | cons m members =>
    obtain ⟨key', j'⟩ := m
    rw [toList_renderMembers, List.length_append, List.length_cons, List.length_append,
      List.length_cons] at hfuel
    rw [List.append_cons] at hnodup
    rw [toList_renderMembers, List.append_assoc, List.cons_append, List.append_assoc,
      List.cons_append,
      members?_more (h.value hj.1 (by omega) (isBoundary_cons (Or.inl rfl) _)),
      setMember_of_not_mem hfresh, h.members hj.2 hnodup (by omega), List.append_assoc]
    rfl

end ReadsBack

/-- Each nested value takes one unit of fuel and at least one character. -/
theorem readsBack (fuel : Nat) : ReadsBack fuel := by
  induction fuel with
  | zero => exact ⟨nofun, nofun, nofun⟩
  | succ fuel ih => exact ⟨ih.value_succ, ih.items_succ, ih.members_succ⟩

/-- **A value in which no object names a member twice is read as it was written.** -/
theorem read?_render {j : Json} (hj : j.Distinct) : read? j.render = some j := by
  have hend : IsBoundary [] := nofun
  have hread := (readsBack (j.render.toList.length + 1)).value hj (Nat.lt_succ_self _) hend
  rw [List.append_nil] at hread
  rw [read?, hread]
  rfl

end Sluice.Json
