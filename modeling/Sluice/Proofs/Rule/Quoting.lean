import Mathlib.Data.List.Forall2
import Sluice.Rule.Token
import Sluice.Text.Lines

/-!
# Tokens between quotation marks

Whatever has blanks in it is written between quotation marks, and the natural expectation is that
the characters between the marks are the token. That is so for most characters, blanks and
semicolons among them, but two things happen to a line that the marks do not prevent: tabs have
become spaces before the marks are looked at, and a backslash in front of `t`, `n`, `r` or `f` is
read as a control character together with that letter. These are the only exceptions:

> **a line of quoted texts is read as these texts if and only if none of them has a tab or an
> escape in it** (`read?_quotedLine`).

A tab can still be had, as an escape. A backslash in front of one of the four letters cannot: what
comes from between quotation marks has no escape in it (`not_hasEscape_unescape`). A token that
has one is a word, so an id with both an escape and a blank cannot be written in any way
(`exists_token_iff`).
-/

set_option autoImplicit false

namespace Sluice

namespace Token

open Text

variable {column : Nat} {c e : Char} {cs rest : List Char}

/-! ## 1. Escapes -/

/-- Somewhere a backslash stands in front of a letter that it makes a control character of. -/
def HasEscape (cs : List Char) : Prop :=
  ∃ before c after, cs = before ++ '\\' :: c :: after ∧ (control? c).isSome = true

/-- The control character that a character begins to spell, given what follows it. -/
def escapeAt? (c : Char) (rest : List Char) : Option Char :=
  if c = '\\' then rest.head?.bind control? else none

/-- A control character begins no escape and ends none. -/
theorem of_control?_eq_some (h : control? c = some e) : e ≠ '\\' ∧ control? e = none := by
  obtain ⟨before, after, htable, -⟩ := List.lookup_eq_some_iff.mp h
  have hall : ∀ entry ∈ [('t', '\t'), ('n', '\n'), ('r', '\r'), ('f', '\x0c')],
      entry.2 ≠ '\\' ∧ control? entry.2 = none := by decide
  refine hall (c, e) ?_
  rw [htable]
  exact List.mem_append_right _ List.mem_cons_self

theorem of_escapeAt?_eq_some (h : escapeAt? c rest = some e) :
    c = '\\' ∧ ∃ d rest', rest = d :: rest' ∧ control? d = some e := by
  unfold escapeAt? at h
  split at h
  · rename_i hc
    obtain ⟨d, hd, he⟩ := Option.bind_eq_some_iff.mp h
    obtain ⟨rest', rfl⟩ := List.head?_eq_some_iff.mp hd
    exact ⟨hc, d, rest', rfl, he⟩
  · cases h

theorem not_hasEscape_nil : ¬ HasEscape [] := by
  rintro ⟨before, c, after, h, -⟩
  simp at h

theorem hasEscape_cons :
    HasEscape (c :: rest) ↔ (escapeAt? c rest).isSome = true ∨ HasEscape rest := by
  constructor
  · rintro ⟨before, d, after, h, hd⟩
    cases before with
    | nil =>
      obtain ⟨rfl, rfl⟩ := List.cons.inj h
      exact Or.inl hd
    | cons b before =>
      obtain ⟨rfl, rfl⟩ := List.cons.inj h
      exact Or.inr ⟨before, d, after, rfl, hd⟩
  · rintro (h | ⟨before, d, after, rfl, hd⟩)
    · obtain ⟨e, he⟩ := Option.isSome_iff_exists.mp h
      obtain ⟨rfl, d, rest', rfl, hd⟩ := of_escapeAt?_eq_some he
      exact ⟨[], d, rest', rfl, by rw [hd]; rfl⟩
    · exact ⟨c :: before, d, after, rfl, hd⟩

theorem not_hasEscape_cons :
    ¬ HasEscape (c :: rest) ↔ escapeAt? c rest = none ∧ ¬ HasEscape rest := by
  rw [hasEscape_cons, not_or, Bool.not_eq_true, Option.isSome_eq_false_iff,
    Option.isNone_iff_eq_none]

theorem unescape_cons (c : Char) (rest : List Char) :
    unescape (c :: rest) =
      match escapeAt? c rest with
      | some e => e :: unescape rest.tail
      | none => c :: unescape rest := by
  unfold escapeAt?
  cases rest with
  | nil =>
    show [c] = _
    split <;> simp_all [unescape]
  | cons d rest =>
    rw [unescape]
    by_cases hc : c = '\\'
    · simp only [hc, beq_self_eq_true, if_true, List.head?_cons, Option.bind_some]
      rfl
    · simp [hc]

theorem escapeAt?_of_ne (h : c ≠ '\\') (rest : List Char) : escapeAt? c rest = none := if_neg h

theorem head?_unescape (cs : List Char) :
    (unescape cs).head?.bind control? = none ∨
      (unescape cs).head?.bind control? = cs.head?.bind control? := by
  cases cs with
  | nil => exact Or.inl rfl
  | cons c rest =>
    rw [unescape_cons]
    cases he : escapeAt? c rest with
    | none => exact Or.inr rfl
    | some e =>
      obtain ⟨-, d, rest', -, hd⟩ := of_escapeAt?_eq_some he
      exact Or.inl (of_control?_eq_some hd).2

/-- What is read between quotation marks has no escape in it. -/
theorem not_hasEscape_unescape (cs : List Char) : ¬ HasEscape (unescape cs) := by
  induction cs using unescape.induct with
  | case1 => exact not_hasEscape_nil
  | case2 c =>
    rw [unescape, not_hasEscape_cons]
    exact ⟨ite_self none, not_hasEscape_nil⟩
  | case3 c d rest hc e hd ih =>
    simp only [unescape, hc, hd, if_true]
    rw [not_hasEscape_cons]
    exact ⟨escapeAt?_of_ne (of_control?_eq_some hd).1 _, ih⟩
  | case4 c d rest hc hd ih =>
    -- behind a backslash that stays comes a letter that makes no escape with it
    have hnone : (unescape (d :: rest)).head?.bind control? = none :=
      (head?_unescape (d :: rest)).elim id fun h => h.trans hd
    simp only [unescape, hc, hd, if_true]
    rw [not_hasEscape_cons, escapeAt?, if_pos (eq_of_beq hc)]
    exact ⟨hnone, ih⟩
  | case5 c d rest hc ih =>
    simp only [unescape, hc]
    rw [if_neg Bool.false_ne_true, not_hasEscape_cons]
    exact ⟨escapeAt?_of_ne (fun h => hc (beq_iff_eq.mpr h)) _, ih⟩

/-! ## 2. Tabs -/

theorem expandTabs_tab (column : Nat) (rest : List Char) :
    ∃ more, expandTabs column ('\t' :: rest) = ' ' :: more := by
  have hwidth : tabWidth - column % tabWidth = (tabWidth - 1 - column % tabWidth) + 1 := by
    have hlt : column % tabWidth < tabWidth := Nat.mod_lt _ (by decide)
    omega
  unfold expandTabs
  simp only [beq_self_eq_true, if_true]
  rw [hwidth, List.replicate_succ]
  exact ⟨_, rfl⟩

theorem expandTabs_cons (column : Nat) (hc : c ≠ '\t') (rest : List Char) :
    ∃ column', expandTabs column (c :: rest) = c :: expandTabs column' rest := by
  rw [expandTabs, if_neg (by simpa using hc)]
  split
  · exact ⟨0, rfl⟩
  · exact ⟨column + 1, rfl⟩

theorem expandTabs_of_notMem (column : Nat) (h : '\t' ∉ cs) : expandTabs column cs = cs := by
  induction cs generalizing column with
  | nil => rfl
  | cons c rest ih =>
    rw [List.mem_cons, not_or] at h
    obtain ⟨column', heq⟩ := expandTabs_cons column (Ne.symm h.1) rest
    rw [heq, ih column' h.2]

/-- Replacing tabs makes no escape and breaks none. -/
theorem escapeAt?_expandTabs (column : Nat) (c : Char) (rest : List Char) :
    escapeAt? c (expandTabs column rest) = escapeAt? c rest := by
  have hhead : (expandTabs column rest).head?.bind control? = rest.head?.bind control? := by
    cases rest with
    | nil => rfl
    | cons d rest =>
      by_cases hd : d = '\t'
      · obtain ⟨more, heq⟩ := expandTabs_tab column rest
        rw [hd, heq]
        show control? ' ' = control? '\t'
        decide
      · obtain ⟨column', heq⟩ := expandTabs_cons column hd rest
        rw [heq]
        rfl
  unfold escapeAt?
  rw [hhead]

/-- What the characters between quotation marks are read as, if the first of them stands at
some column of its line. -/
def readAt (column : Nat) (cs : List Char) : List Char := unescape (expandTabs column cs)

/-- Characters that are read as they are. -/
structure IsVerbatim (cs : List Char) : Prop where
  tabs : '\t' ∉ cs
  escapes : ¬ HasEscape cs

theorem isVerbatim_cons :
    IsVerbatim (c :: rest) ↔ c ≠ '\t' ∧ escapeAt? c rest = none ∧ IsVerbatim rest := by
  constructor
  · rintro ⟨htabs, hescapes⟩
    rw [List.mem_cons, not_or] at htabs
    rw [not_hasEscape_cons] at hescapes
    exact ⟨Ne.symm htabs.1, hescapes.1, htabs.2, hescapes.2⟩
  · rintro ⟨hc, hnone, htabs, hescapes⟩
    refine ⟨?_, not_hasEscape_cons.mpr ⟨hnone, hescapes⟩⟩
    rw [List.mem_cons, not_or]
    exact ⟨Ne.symm hc, htabs⟩

/-- **Characters are read as they are if and only if there is no tab and no escape among them.**
The first tab or escape already is read as something else than what stands there. -/
theorem readAt_eq_self_iff (column : Nat) (cs : List Char) :
    readAt column cs = cs ↔ IsVerbatim cs := by
  unfold readAt
  induction cs generalizing column with
  | nil => exact iff_of_true rfl ⟨List.not_mem_nil, not_hasEscape_nil⟩
  | cons c rest ih =>
    rw [isVerbatim_cons]
    by_cases hc : c = '\t'
    · obtain ⟨more, heq⟩ := expandTabs_tab column rest
      rw [hc, heq, unescape_cons, escapeAt?_of_ne (by decide)]
      refine iff_of_false ?_ fun h => h.1 rfl
      intro h
      exact absurd (List.cons.inj h).1 (by decide)
    · obtain ⟨column', heq⟩ := expandTabs_cons column hc rest
      rw [heq, unescape_cons, escapeAt?_expandTabs]
      cases he : escapeAt? c rest with
      | none =>
        show c :: _ = c :: _ ↔ _
        rw [List.cons.injEq, ih column']
        exact ⟨fun h => ⟨hc, rfl, h.2⟩, fun h => ⟨rfl, h.2.2⟩⟩
      | some e =>
        obtain ⟨rfl, d, rest', -, hd⟩ := of_escapeAt?_eq_some he
        refine iff_of_false ?_ nofun
        intro h
        exact (of_control?_eq_some hd).1 (List.cons.inj h).1

/-! ## 3. Lines of quoted texts -/

/-- Characters that can stand between quotation marks. -/
def IsQuotable (cs : List Char) : Prop := ∀ c ∈ cs, c ≠ '"' ∧ c ≠ '\n' ∧ c ≠ '\r'

instance : DecidablePred IsQuotable := List.decidableBAll _

/-- Texts between quotation marks, with a space between any two. -/
def quotedLine (texts : List String) : String :=
  " ".intercalate (texts.map fun t => "\"" ++ t ++ "\"")

/-- What a line of quoted texts is read as, from some column on. -/
def readBack (column : Nat) : List String → List String
  | [] => []
  | t :: rest =>
    String.ofList (readAt (column + 1) t.toList) ::
      readBack (column + 1 + (expandTabs (column + 1) t.toList).length + 2) rest

theorem toList_quotedLine_cons (t : String) (rest : List String) :
    (quotedLine (t :: rest)).toList = '"' :: (t.toList ++ '"' ::
      match rest with
      | [] => []
      | _ :: _ => ' ' :: (quotedLine rest).toList) := by
  unfold quotedLine
  cases rest with
  | nil => simp
  | cons u rest =>
    simp only [List.map_cons, String.toList_intercalate, List.intercalate_cons_cons,
      String.toList_append]
    simp

theorem expandTabs_append (column : Nat) (hcs : ∀ c ∈ cs, c ≠ '\n' ∧ c ≠ '\r') (rest : List Char) :
    expandTabs column (cs ++ rest) =
      expandTabs column cs ++ expandTabs (column + (expandTabs column cs).length) rest := by
  induction cs generalizing column with
  | nil => rfl
  | cons c cs ih =>
    obtain ⟨⟨hlf, hcr⟩, hcs⟩ := List.forall_mem_cons.mp hcs
    rw [List.cons_append, expandTabs, expandTabs]
    split
    · dsimp only
      rw [ih _ hcs, List.append_assoc, List.length_append, List.length_replicate, Nat.add_assoc]
    · rw [if_neg (by simp [hlf, hcr]), if_neg (by simp [hlf, hcr]), ih _ hcs, List.cons_append,
        List.length_cons]
      congr 3
      omega

theorem mem_expandTabs (h : c ∈ expandTabs column cs) : c = ' ' ∨ c ∈ cs := by
  induction cs generalizing column with
  | nil => cases h
  | cons d rest ih =>
    rw [expandTabs] at h
    split at h
    · rcases List.mem_append.mp h with h | h
      · exact Or.inl (List.eq_of_mem_replicate h)
      · exact (ih h).imp_right (List.mem_cons_of_mem d)
    · have hcons : c = d ∨ ∃ column', c ∈ expandTabs column' rest := by
        split at h
        · exact (List.mem_cons.mp h).imp_right fun h => ⟨_, h⟩
        · exact (List.mem_cons.mp h).imp_right fun h => ⟨_, h⟩
      rcases hcons with rfl | ⟨column', h⟩
      · exact Or.inr List.mem_cons_self
      · exact (ih h).imp_right (List.mem_cons_of_mem d)

theorem IsQuotable.expandTabs (h : IsQuotable cs) (column : Nat) :
    IsQuotable (expandTabs column cs) := by
  intro c hc
  rcases mem_expandTabs hc with rfl | hc
  · decide
  · exact h c hc

theorem IsQuotable.closes (h : IsQuotable cs) (rest : List Char) :
    closes (cs ++ '"' :: rest) = true := by
  induction cs with
  | nil => rfl
  | cons c cs ih =>
    obtain ⟨⟨-, hlf, hcr⟩, hcs⟩ := List.forall_mem_cons.mp h
    simp [Token.closes, hlf, hcr, ih hcs]

theorem IsQuotable.scan_quoted (h : IsQuotable cs) (read rest : List Char) :
    scan (.quoted read) (cs ++ '"' :: rest) =
      (scan .gap rest).map (String.ofList (unescape (read.reverse ++ cs)) :: ·) := by
  induction cs generalizing read with
  | nil => simp [scan]
  | cons c cs ih =>
    obtain ⟨⟨hquote, -⟩, hcs⟩ := List.forall_mem_cons.mp h
    rw [List.cons_append, scan, if_neg (by simpa using hquote), ih hcs, List.reverse_cons,
      List.append_assoc, List.singleton_append]

/-- A text between quotation marks is one token. -/
theorem IsQuotable.scan_gap (h : IsQuotable cs) (rest : List Char) :
    scan .gap ('"' :: (cs ++ '"' :: rest)) =
      (scan .gap rest).map (String.ofList (unescape cs) :: ·) := by
  rw [scan, if_neg (by decide), if_neg (by decide), h.closes rest, if_pos (by decide),
    h.scan_quoted]
  rfl

theorem scan_quotedLine (column : Nat) {texts : List String}
    (h : ∀ t ∈ texts, IsQuotable t.toList) :
    scan .gap (expandTabs column (quotedLine texts).toList) = some (readBack column texts) := by
  induction texts generalizing column with
  | nil => rfl
  | cons t rest ih =>
    obtain ⟨ht, hrest⟩ := List.forall_mem_cons.mp h
    have hopening : ∀ column cs, Token.expandTabs column ('"' :: cs) =
        '"' :: Token.expandTabs (column + 1) cs := fun _ _ => rfl
    have hspace : ∀ column cs, Token.expandTabs column (' ' :: cs) =
        ' ' :: Token.expandTabs (column + 1) cs := fun _ _ => rfl
    rw [toList_quotedLine_cons, hopening,
      expandTabs_append (column + 1) (fun c hc => (ht c hc).2), hopening,
      (ht.expandTabs _).scan_gap]
    cases rest with
    | nil => rfl
    | cons u rest =>
      dsimp only
      rw [hspace, scan, if_pos (by decide), ih _ hrest]
      rfl

/-! ## 4. What can be written at all -/

/-- Characters that can stand in a word. -/
def IsWord (cs : List Char) : Prop := ∀ c ∈ cs, isBlank c = false ∧ c ≠ ';'

theorem isWord_reverse : IsWord cs.reverse ↔ IsWord cs := by
  unfold IsWord
  simp only [List.mem_reverse]

/-- Texts that can be tokens: they have no escape, as if they had been between quotation marks, or
are words. -/
def IsWritable (t : String) : Prop := ¬ HasEscape t.toList ∨ IsWord t.toList

theorem isWritable_ofRead {read : List Char} (h : IsWord read) : IsWritable (ofRead read) := by
  right
  rw [ofRead, String.toList_ofList, isWord_reverse]
  exact h

/-- What has been read of a token ends well: quotation marks are closed, and what is in a word
may be there. -/
def Mode.IsSound : Mode → List Char → Prop
  | .gap, _ => True
  | .comment, _ => True
  | .quoted _, rest => closes rest = true
  | .word read, _ => IsWord read

theorem scan_nil_writable {mode : Mode} {ts : List String} (h : scan mode [] = some ts)
    (hmode : mode.IsSound []) : ∀ t ∈ ts, IsWritable t := by
  cases mode with
  | gap | comment =>
    cases h
    exact nofun
  | quoted read => cases hmode
  | word read =>
    cases h
    exact List.forall_mem_singleton.mpr (isWritable_ofRead hmode)

/-- With one character the reader goes on, or it has come to the end of a token that can be
written. -/
theorem scan_step {mode : Mode} {ts : List String} (h : scan mode (c :: rest) = some ts)
    (hmode : mode.IsSound (c :: rest)) :
    ∃ mode' ts', ∃ read : Option String, mode'.IsSound rest ∧ scan mode' rest = some ts' ∧
      ts = read.toList ++ ts' ∧ ∀ t ∈ read, IsWritable t := by
  cases mode with
  | gap =>
    rw [scan] at h
    split at h
    · exact ⟨.gap, ts, none, trivial, h, rfl, nofun⟩
    split at h
    · exact ⟨.comment, ts, none, trivial, h, rfl, nofun⟩
    rename_i hsemicolon
    split at h
    · rename_i hquote
      exact ⟨.quoted [], ts, none, (Bool.and_eq_true_iff.mp hquote).2, h, rfl, nofun⟩
    split at h
    · cases h
    · rename_i hblank
      have hword : IsWord [c] :=
        List.forall_mem_singleton.mpr ⟨Bool.not_eq_true _ ▸ hblank, by simpa using hsemicolon⟩
      exact ⟨.word [c], ts, none, hword, h, rfl, nofun⟩
  | comment =>
    rw [scan] at h
    split at h
    · exact ⟨.gap, ts, none, trivial, h, rfl, nofun⟩
    · exact ⟨.comment, ts, none, trivial, h, rfl, nofun⟩
  | quoted read =>
    rw [scan] at h
    split at h
    · obtain ⟨ts', hts', rfl⟩ := Option.map_eq_some_iff.mp h
      refine ⟨.gap, ts', some _, trivial, hts', rfl, ?_⟩
      rintro t ⟨⟩
      left
      rw [String.toList_ofList]
      exact not_hasEscape_unescape _
    · rename_i hquote
      have hcloses : closes (c :: rest) = true := hmode
      rw [closes, Bool.or_eq_true, Bool.and_eq_true] at hcloses
      exact ⟨.quoted (c :: read), ts, none, (hcloses.resolve_left hquote).2, h, rfl, nofun⟩
  | word read =>
    have hread : ∀ t ∈ some (ofRead read), IsWritable t := by
      rintro t ⟨⟩
      exact isWritable_ofRead hmode
    rw [scan] at h
    split at h
    · obtain ⟨ts', hts', rfl⟩ := Option.map_eq_some_iff.mp h
      exact ⟨.gap, ts', some (ofRead read), trivial, hts', rfl, hread⟩
    split at h
    · obtain ⟨ts', hts', rfl⟩ := Option.map_eq_some_iff.mp h
      exact ⟨.comment, ts', some (ofRead read), trivial, hts', rfl, hread⟩
    rename_i hsemicolon
    split at h
    · cases h
    · rename_i hblank
      have hword : IsWord (c :: read) := List.forall_mem_cons.mpr
        ⟨⟨Bool.not_eq_true _ ▸ hblank, by simpa using hsemicolon⟩, hmode⟩
      exact ⟨.word (c :: read), ts, none, hword, h, rfl, nofun⟩

theorem scan_writable {mode : Mode} {ts : List String} (h : scan mode cs = some ts)
    (hmode : mode.IsSound cs) : ∀ t ∈ ts, IsWritable t := by
  induction cs generalizing mode ts with
  | nil => exact scan_nil_writable h hmode
  | cons c rest ih =>
    obtain ⟨mode', ts', read, hmode', hrest, rfl, hread⟩ := scan_step h hmode
    intro t ht
    rcases List.mem_append.mp ht with ht | ht
    · exact hread t (Option.mem_toList.mp ht)
    · exact ih hrest hmode' t ht

theorem not_isGap (h : isBlank c = false) : ¬ isGap c = true := by
  intro hgap
  rw [isBlank_of_isGap hgap] at h
  cases h

theorem IsWord.scan (h : IsWord cs) (read : List Char) :
    scan (.word read) cs = some [ofRead (cs.reverse ++ read)] := by
  induction cs generalizing read with
  | nil => rfl
  | cons c cs ih =>
    obtain ⟨⟨hblank, hsemicolon⟩, hcs⟩ := List.forall_mem_cons.mp h
    rw [Token.scan, if_neg (not_isGap hblank), if_neg (by simpa using hsemicolon), hblank,
      if_neg Bool.false_ne_true, ih hcs, List.reverse_cons, List.append_assoc,
      List.singleton_append]

/-- A word without quotation marks is read as it is. -/
theorem IsWord.read? (h : IsWord cs) (hquote : '"' ∉ cs) (hne : cs ≠ []) :
    read? (String.ofList cs) = some [String.ofList cs] := by
  have htab : '\t' ∉ cs := fun htab => by
    have hblank := (h _ htab).1
    revert hblank
    decide
  obtain ⟨c, cs, rfl⟩ := List.exists_cons_of_ne_nil hne
  obtain ⟨⟨hblank, hsemicolon⟩, hcs⟩ := List.forall_mem_cons.mp h
  have hopening : ¬ (c == '"' && closes cs) = true := by
    rw [List.mem_cons, not_or] at hquote
    simp [Ne.symm hquote.1]
  rw [Token.read?, String.toList_ofList, expandTabs_of_notMem 0 htab, Token.scan,
    if_neg (not_isGap hblank), if_neg (by simpa using hsemicolon), if_neg hopening, hblank,
    if_neg Bool.false_ne_true, IsWord.scan hcs, ofRead]
  simp

/-- The characters with escapes in the place of the control characters that cannot stand between
quotation marks. -/
def escaped (cs : List Char) : List Char :=
  cs.flatMap fun c =>
    if c = '\t' then ['\\', 't'] else if c = '\n' then ['\\', 'n']
    else if c = '\r' then ['\\', 'r'] else [c]

theorem escaped_cons (c : Char) (rest : List Char) :
    (∃ d, control? d = some c ∧ escaped (c :: rest) = '\\' :: d :: escaped rest) ∨
      c ∉ ['\t', '\n', '\r'] ∧ escaped (c :: rest) = c :: escaped rest := by
  unfold escaped
  rw [List.flatMap_cons]
  split_ifs with htab hlf hcr
  · exact Or.inl ⟨'t', htab ▸ rfl, rfl⟩
  · exact Or.inl ⟨'n', hlf ▸ rfl, rfl⟩
  · exact Or.inl ⟨'r', hcr ▸ rfl, rfl⟩
  · exact Or.inr ⟨by simp [htab, hlf, hcr], rfl⟩

theorem escapeAt?_escaped (h : escapeAt? c rest = none) : escapeAt? c (escaped rest) = none := by
  unfold escapeAt? at h ⊢
  split
  · rename_i hc
    rw [if_pos hc] at h
    cases rest with
    | nil => rfl
    | cons d rest =>
      rcases escaped_cons d rest with ⟨letter, -, heq⟩ | ⟨-, heq⟩
      · rw [heq]
        show control? '\\' = none
        decide
      · rw [heq]
        exact h
  · rfl

theorem unescape_escaped (h : ¬ HasEscape cs) : unescape (escaped cs) = cs := by
  induction cs with
  | nil => rfl
  | cons c rest ih =>
    rw [not_hasEscape_cons] at h
    rcases escaped_cons c rest with ⟨d, hd, heq⟩ | ⟨-, heq⟩
    · have hescape : escapeAt? '\\' (d :: escaped rest) = some c := hd
      rw [heq, unescape_cons, hescape]
      show c :: unescape (escaped rest) = c :: rest
      rw [ih h.2]
    · rw [heq, unescape_cons, escapeAt?_escaped h.1]
      show c :: unescape (escaped rest) = c :: rest
      rw [ih h.2]

theorem notMem_of_mem_escaped (h : '"' ∉ cs) (hc : c ∈ escaped cs) :
    c ∉ ['"', '\n', '\r', '\t'] := by
  have hletters : ∀ l ∈ ['\\', 't', 'n', 'r'], l ∉ ['"', '\n', '\r', '\t'] := by simp
  obtain ⟨d, hd, hc⟩ := List.mem_flatMap.mp hc
  split_ifs at hc with htab hlf hcr
  · exact hletters c ((by decide : ['\\', 't'] ⊆ ['\\', 't', 'n', 'r']) hc)
  · exact hletters c ((by decide : ['\\', 'n'] ⊆ ['\\', 't', 'n', 'r']) hc)
  · exact hletters c ((by decide : ['\\', 'r'] ⊆ ['\\', 't', 'n', 'r']) hc)
  · obtain rfl := List.mem_singleton.mp hc
    have hquote : c ≠ '"' := fun heq => h (heq ▸ hd)
    simp [hquote, htab, hlf, hcr]

/-- A text without quotation marks can be written if and only if it has no escape in it or is a
word. -/
theorem exists_token_iff {t : String} (h : '"' ∉ t.toList) :
    (∃ line ts, read? line = some ts ∧ t ∈ ts) ↔ IsWritable t := by
  constructor
  · rintro ⟨line, ts, hread, ht⟩
    exact scan_writable hread trivial t ht
  · intro hwritten
    by_cases hescape : HasEscape t.toList
    · have hne : t.toList ≠ [] := fun hnil => not_hasEscape_nil (hnil ▸ hescape)
      have hread := (hwritten.resolve_left (not_not_intro hescape)).read? h hne
      rw [String.ofList_toList] at hread
      exact ⟨t, [t], hread, List.mem_singleton_self t⟩
    · -- its control characters are written as escapes
      have hclean : ∀ c ∈ escaped t.toList, c ∉ ['"', '\n', '\r', '\t'] := fun c =>
        notMem_of_mem_escaped h
      have hquotable : ∀ u ∈ [String.ofList (escaped t.toList)], IsQuotable u.toList := by
        intro u hu c hc
        rw [List.mem_singleton.mp hu, String.toList_ofList] at hc
        have hplain := hclean c hc
        simp only [List.mem_cons, not_or] at hplain
        exact ⟨hplain.1, hplain.2.1, hplain.2.2.1⟩
      have htab : '\t' ∉ escaped t.toList := fun htab => hclean _ htab (by decide)
      refine ⟨quotedLine [String.ofList (escaped t.toList)], _, scan_quotedLine 0 hquotable, ?_⟩
      rw [readBack, readBack, readAt, String.toList_ofList, expandTabs_of_notMem _ htab,
        unescape_escaped hescape, String.ofList_toList]
      exact List.mem_singleton_self t

theorem readBack_forall₂ (column : Nat) (texts : List String) :
    List.Forall₂ (fun t r => r = t ↔ IsVerbatim t.toList) texts (readBack column texts) := by
  induction texts generalizing column with
  | nil => exact List.Forall₂.nil
  | cons t rest ih =>
    refine List.Forall₂.cons ?_ (ih _)
    rw [← String.toList_inj, String.toList_ofList, readAt_eq_self_iff]

theorem readBack_eq_self_iff (column : Nat) (texts : List String) :
    readBack column texts = texts ↔ ∀ t ∈ texts, IsVerbatim t.toList := by
  induction texts generalizing column with
  | nil => exact iff_of_true rfl nofun
  | cons t rest ih =>
    rw [readBack, List.cons.injEq, ih, List.forall_mem_cons, ← String.toList_inj,
      String.toList_ofList, readAt_eq_self_iff]

/-- **A line of quoted texts is read as these texts if and only if none of them has a tab or an
escape in it**, and a text can be written in some way if and only if it has no escape or is a
word. -/
theorem read?_quotedLine (texts : List String) (h : ∀ t ∈ texts, IsQuotable t.toList) :
    read? (quotedLine texts) = some (readBack 0 texts) ∧
      List.Forall₂ (fun t r => r = t ↔ IsVerbatim t.toList) texts (readBack 0 texts) ∧
      (read? (quotedLine texts) = some texts ↔ ∀ t ∈ texts, IsVerbatim t.toList) ∧
      ∀ t ∈ texts, (∃ line ts, read? line = some ts ∧ t ∈ ts) ↔ IsWritable t := by
  have hread : read? (quotedLine texts) = some (readBack 0 texts) := scan_quotedLine 0 h
  refine ⟨hread, readBack_forall₂ 0 texts, ?_, ?_⟩
  · rw [hread, Option.some.injEq, readBack_eq_self_iff]
  · intro t ht
    exact exists_token_iff fun hquote => (h t ht _ hquote).1 rfl

/-- A premise on a node whose id has a blank, a semicolon and a backslash in it, and an action on
a pump whose id begins an escape behind a blank. -/
def oddIds : List String := ["IF", "NODE", "My Node; C:\\old", "THEN", "PUMP", "old \\new\tpump"]

theorem read?_quotedLine_oddIds : (∀ t ∈ oddIds, IsQuotable t.toList) ∧
    read? (quotedLine oddIds) = some (readBack 0 oddIds) ∧
    readBack 0 oddIds =
      ["IF", "NODE", "My Node; C:\\old", "THEN", "PUMP", "old \new   pump"] ∧
    ¬ ∃ line ts, read? line = some ts ∧ "old \\new\tpump" ∈ ts := by
  have hquotable : ∀ t ∈ oddIds, IsQuotable t.toList := by decide +kernel
  obtain ⟨hread, -, -, hwritten⟩ := read?_quotedLine oddIds hquotable
  refine ⟨hquotable, hread, by decide +kernel, ?_⟩
  rw [hwritten "old \\new\tpump" (by decide +kernel), IsWritable, not_or, not_not]
  constructor
  · exact ⟨['o', 'l', 'd', ' '], 'n', ['e', 'w', '\t', 'p', 'u', 'm', 'p'], by decide +kernel, rfl⟩
  · intro hword
    exact absurd (hword ' ' (by decide +kernel)).1 (by decide)

/-- It is not true that every line of quoted texts is read as these texts. -/
theorem not_readBack_backslash : ¬ ∀ texts : List String,
    (∀ t ∈ texts, t ≠ "" ∧ ∀ c ∈ t.toList, c ≠ '"' ∧ isLineBreak c = false) →
      read? (quotedLine texts) = some texts := by
  intro h
  have hplain : ("C:\\new".toList.all fun c => decide (c ≠ '"' ∧ isLineBreak c = false)) =
      true := by decide
  have hread := h ["C:\\new"] <| List.forall_mem_singleton.mpr
    ⟨by decide, fun c hc => of_decide_eq_true (List.all_eq_true.mp hplain c hc)⟩
  exact absurd hread (by decide +kernel)

end Token

end Sluice
