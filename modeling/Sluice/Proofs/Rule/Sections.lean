import Mathlib.Data.List.TakeWhile
import Sluice.Proofs.Rule.Accounting

/-!
# The lines of the control sections

Whether a line holds rules depends on the nearest header above it, and if there is none, on
whether there is a header anywhere. The reader goes through the lines once and remembers which
section it is in. What it remembers is the name in the nearest header (`insideAfter_eq_true_iff`),
so **the clause lines of a file are what is read from the lines of its control sections**, each
under the number that the line has in the file (`clauseLines?_sections`).

From this it follows what other sections are good for: nothing. A section of another name can be
put in front of any header, or behind everything, and whatever stands in it, be it lines that
cannot be read at all, the same tokens come out, only under other numbers. There has to be a
header already, for the first header of a file takes away what stands above it.
-/

set_option autoImplicit false

namespace Sluice

namespace Section

open Text

/-! ## 1. Headers -/

/-- What may follow the brackets of a header: blanks, and then perhaps a comment up to the end
of the line. -/
def EndsHeader (cs : List Char) : Prop :=
  ∃ blanks comment, cs = blanks ++ comment ∧ (∀ c ∈ blanks, isBlank c = true) ∧
    (comment = [] ∨ ∃ text, '\n' ∉ text ∧
      (comment = ';' :: text ∨ comment = ';' :: (text ++ ['\n'])))

/-- A line is the header of a section, with some characters between its brackets. -/
structure HasBrackets (line : String) (inner : List Char) : Prop where
  ne_nil : inner ≠ []
  closed : ']' ∉ inner
  shape : ∃ blanks after, line.toList = blanks ++ '[' :: (inner ++ ']' :: after) ∧
    (∀ c ∈ blanks, isBlank c = true) ∧ EndsHeader after

def IsHeader (line : String) : Prop := ∃ inner, HasBrackets line inner

/-- A line is the header of a control section. -/
def OpensControls (line : String) : Prop :=
  ∃ inner, HasBrackets line inner ∧ upper (String.ofList (trimBy isBlank inner)) = "CONTROLS"

theorem dropWhile_isBlank {blanks rest : List Char} (hblanks : ∀ c ∈ blanks, isBlank c = true)
    (hrest : ∀ c ∈ rest.head?, isBlank c = false) :
    (blanks ++ rest).dropWhile isBlank = rest := by
  rw [List.dropWhile_append_of_pos hblanks]
  cases rest with
  | nil => rfl
  | cons c rest =>
    rw [List.dropWhile_cons_of_neg]
    rw [hrest c rfl]
    exact Bool.false_ne_true

theorem lineBreak_last_iff {cs : List Char} :
    cs.getLast? = some '\n' ∧ cs.count '\n' = 1 ↔ ∃ text, '\n' ∉ text ∧ cs = text ++ ['\n'] := by
  constructor
  · rintro ⟨hlast, hcount⟩
    obtain ⟨text, rfl⟩ := List.getLast?_eq_some_iff.mp hlast
    rw [List.count_append, List.count_singleton_self, Nat.add_eq_right] at hcount
    exact ⟨text, List.count_eq_zero.mp hcount, rfl⟩
  · rintro ⟨text, htext, rfl⟩
    rw [List.count_append, List.count_eq_zero.mpr htext]
    simp

theorem endsLine_iff {cs : List Char} : endsLine cs = true ↔ EndsHeader cs := by
  unfold endsLine
  constructor
  · intro h
    refine ⟨cs.takeWhile isBlank, cs.dropWhile isBlank, List.takeWhile_append_dropWhile.symm,
      fun c hc => List.mem_takeWhile_imp hc, ?_⟩
    split at h
    · rename_i heq
      exact Or.inl heq
    · rename_i c text heq
      rw [heq]
      simp only [Bool.and_eq_true, beq_iff_eq, Bool.or_eq_true, Bool.not_eq_true',
        List.contains_eq_mem, decide_eq_false_iff_not] at h
      obtain ⟨rfl, htext | hlast⟩ := h
      · exact Or.inr ⟨text, htext, Or.inl rfl⟩
      · obtain ⟨text, htext, rfl⟩ := lineBreak_last_iff.mp hlast
        exact Or.inr ⟨text, htext, Or.inr rfl⟩
  · rintro ⟨blanks, comment, rfl, hblanks, hcomment⟩
    have hsemicolon : isBlank ';' = false := by decide
    rcases hcomment with rfl | ⟨text, htext, rfl | rfl⟩
    · rw [dropWhile_isBlank hblanks (by rintro c ⟨⟩)]
    · rw [dropWhile_isBlank hblanks (by rintro c ⟨⟩; exact hsemicolon)]
      simp [htext]
    · rw [dropWhile_isBlank hblanks (by rintro c ⟨⟩; exact hsemicolon)]
      simp [htext, List.count_eq_zero.mpr htext]

theorem takeWhile_bracket {inner rest : List Char} (h : ']' ∉ inner) :
    (inner ++ ']' :: rest).takeWhile (· != ']') = inner ∧
      (inner ++ ']' :: rest).dropWhile (· != ']') = ']' :: rest := by
  have hinner : ∀ c ∈ inner, (c != ']') = true := by
    intro c hc
    rw [bne_iff_ne]
    rintro rfl
    exact h hc
  rw [List.takeWhile_append_of_pos hinner, List.dropWhile_append_of_pos hinner]
  simp

/-- A line that begins with brackets is a header if there is something in them and nothing but a
comment behind them. -/
theorem header?_brackets {line : String} {inner after : List Char} (hclosed : ']' ∉ inner)
    (hline : line.toList.dropWhile isBlank = '[' :: (inner ++ ']' :: after)) :
    header? line = if inner.isEmpty || !endsLine after then none
      else some (String.ofList (trimBy isBlank inner)) := by
  unfold header?
  rw [hline]
  split
  · rename_i rest heq
    obtain rfl := (List.cons.inj heq).2
    dsimp only
    rw [(takeWhile_bracket hclosed).1, (takeWhile_bracket hclosed).2]
  · rename_i hother
    exact absurd rfl (hother _)

theorem header?_eq_some_iff {line name : String} : header? line = some name ↔
    ∃ inner, HasBrackets line inner ∧ String.ofList (trimBy isBlank inner) = name := by
  constructor
  · intro h
    have hparts : ∃ inner after, ']' ∉ inner ∧
        line.toList.dropWhile isBlank = '[' :: (inner ++ ']' :: after) := by
      unfold header? at h
      split at h
      · rename_i rest hline
        by_cases hmem : ']' ∈ rest
        · obtain ⟨inner, after, rfl, hclosed⟩ := List.eq_append_cons_of_mem hmem
          exact ⟨inner, after, hclosed, hline⟩
        · have hopen : rest.dropWhile (· != ']') = [] := by
            rw [List.dropWhile_eq_nil_iff]
            intro c hc
            rw [bne_iff_ne]
            rintro rfl
            exact hmem hc
          simp only [hopen] at h
          cases h
      · cases h
    obtain ⟨inner, after, hclosed, hline⟩ := hparts
    rw [header?_brackets hclosed hline] at h
    split at h
    · cases h
    · rename_i hheader
      rw [Bool.or_eq_true, not_or, Bool.not_eq_true, List.isEmpty_eq_false_iff, Bool.not_eq_true,
        Bool.not_eq_false', endsLine_iff] at hheader
      refine ⟨inner, ⟨hheader.1, hclosed, ?_⟩, Option.some.inj h⟩
      refine ⟨line.toList.takeWhile isBlank, after, ?_, fun c hc => List.mem_takeWhile_imp hc,
        hheader.2⟩
      rw [← hline, List.takeWhile_append_dropWhile]
  · rintro ⟨inner, ⟨hne, hclosed, blanks, after, hline, hblanks, hafter⟩, rfl⟩
    have hopening : ∀ c ∈ ('[' :: (inner ++ ']' :: after)).head?, isBlank c = false := by
      rintro c ⟨⟩
      decide
    rw [header?_brackets hclosed (by rw [hline, dropWhile_isBlank hblanks hopening]),
      endsLine_iff.mpr hafter, List.isEmpty_eq_false_iff.mpr hne]
    rfl

theorem header?_eq_none_iff {line : String} : header? line = none ↔ ¬ IsHeader line := by
  rw [Option.eq_none_iff_forall_ne_some]
  constructor
  · rintro h ⟨inner, hinner⟩
    exact h _ (header?_eq_some_iff.mpr ⟨inner, hinner, rfl⟩)
  · intro h name hname
    obtain ⟨inner, hinner, -⟩ := header?_eq_some_iff.mp hname
    exact h ⟨inner, hinner⟩

theorem isHeader_iff {line : String} : IsHeader line ↔ ∃ name, header? line = some name := by
  rw [← Option.ne_none_iff_exists', ne_eq, header?_eq_none_iff, not_not]

theorem opensControls_iff {line : String} :
    OpensControls line ↔ ∃ name, header? line = some name ∧ holdsRules name = true := by
  constructor
  · rintro ⟨inner, hinner, hname⟩
    exact ⟨_, header?_eq_some_iff.mpr ⟨inner, hinner, rfl⟩, beq_iff_eq.mpr hname⟩
  · rintro ⟨name, hheader, hname⟩
    obtain ⟨inner, hinner, rfl⟩ := header?_eq_some_iff.mp hheader
    exact ⟨inner, hinner, beq_iff_eq.mp hname⟩

/-! ## 2. The nearest header -/

/-- Whether the section at the end of some lines is a control section; `inside` says what holds
as long as there is no header. -/
def insideAfter (inside : Bool) (lines : List String) : Bool :=
  lines.foldl (fun inside line => ((header? line).map holdsRules).getD inside) inside

theorem insideAfter_concat (inside : Bool) (lines : List String) (line : String) :
    insideAfter inside (lines ++ [line]) =
      ((header? line).map holdsRules).getD (insideAfter inside lines) := by
  unfold insideAfter
  rw [List.foldl_append]
  rfl

/-- The nearest header above is that of a control section. -/
def UnderControls (lines : List String) : Prop :=
  ∃ above header between, lines = above ++ header :: between ∧ OpensControls header ∧
    ∀ line ∈ between, ¬ IsHeader line

theorem underControls_concat {lines : List String} {line : String} :
    UnderControls (lines ++ [line]) ↔
      OpensControls line ∨ ¬ IsHeader line ∧ UnderControls lines := by
  constructor
  · rintro ⟨above, header, between, hlines, hheader, hbetween⟩
    rcases List.eq_nil_or_concat between with rfl | ⟨between, last, rfl⟩
    · obtain ⟨-, hlast⟩ := List.append_inj' hlines rfl
      obtain rfl := (List.cons.inj hlast).1
      exact Or.inl hheader
    · have hsplit : lines ++ [line] = (above ++ header :: between) ++ [last] := by
        simpa using hlines
      obtain ⟨rfl, hlast⟩ := List.append_inj' hsplit rfl
      obtain rfl := (List.cons.inj hlast).1
      rw [List.concat_eq_append, List.forall_mem_append] at hbetween
      exact Or.inr ⟨hbetween.2 line (List.mem_singleton_self line), above, header, between, rfl,
        hheader, hbetween.1⟩
  · rintro (hline | ⟨hline, above, header, between, rfl, hheader, hbetween⟩)
    · exact ⟨lines, line, [], rfl, hline, nofun⟩
    · refine ⟨above, header, between ++ [line], by simp, hheader, ?_⟩
      exact List.forall_mem_append.mpr ⟨hbetween, List.forall_mem_singleton.mpr hline⟩

theorem insideAfter_eq_true_iff {inside : Bool} {lines : List String} :
    insideAfter inside lines = true ↔
      inside = true ∧ (∀ line ∈ lines, ¬ IsHeader line) ∨ UnderControls lines := by
  induction lines using List.reverseRecOn with
  | nil =>
    refine ⟨fun h => Or.inl ⟨h, nofun⟩, ?_⟩
    rintro (h | ⟨above, header, between, h, -⟩)
    · exact h.1
    · simp at h
  | append_singleton lines line ih =>
    rw [insideAfter_concat, underControls_concat, opensControls_iff, List.forall_mem_append,
      List.forall_mem_singleton, ← header?_eq_none_iff]
    cases header? line with
    | none => simpa using ih
    | some name => simp

/-! ## 3. Lines of rules -/

/-- A line under a number belongs to a control section, or to a file without sections. -/
def IsRuleLine (lines : List String) (number : Nat) (line : String) : Prop :=
  ∃ before after, lines = before ++ line :: after ∧ number = before.length + 1 ∧ ¬ IsHeader line ∧
    ((∀ l ∈ lines, ¬ IsHeader l) ∨ UnderControls before)

theorem ruleLinesFrom_append (inside : Bool) (number : Nat) (before rest : List String) :
    ruleLinesFrom inside number (before ++ rest) = ruleLinesFrom inside number before ++
      ruleLinesFrom (insideAfter inside before) (number + before.length) rest := by
  induction before generalizing inside number with
  | nil => rfl
  | cons line before ih =>
    have hinside : insideAfter inside (line :: before) =
        insideAfter (((header? line).map holdsRules).getD inside) before := rfl
    have hnumber : number + (line :: before).length = number + 1 + before.length := by
      rw [List.length_cons]
      omega
    rw [List.cons_append, ruleLinesFrom, ruleLinesFrom, hinside, hnumber]
    cases header? line with
    | some name => exact ih _ _
    | none =>
      dsimp only
      rw [ih]
      split
      · rfl
      · rfl

theorem mem_ruleLinesFrom_singleton {inside : Bool} {start number : Nat} {line first : String} :
    (number, line) ∈ ruleLinesFrom inside start [first] ↔
      line = first ∧ number = start ∧ header? first = none ∧ inside = true := by
  rw [ruleLinesFrom]
  cases header? first with
  | some name =>
    refine iff_of_false List.not_mem_nil ?_
    rintro ⟨-, -, ⟨⟩, -⟩
  | none =>
    cases inside with
    | false =>
      refine iff_of_false List.not_mem_nil ?_
      rintro ⟨-, -, -, ⟨⟩⟩
    | true => simp [ruleLinesFrom, and_comm]

/-- A line is selected if the lines above it lead into a control section. -/
theorem mem_ruleLinesFrom_iff {inside : Bool} {start number : Nat} {lines : List String}
    {line : String} : (number, line) ∈ ruleLinesFrom inside start lines ↔
      ∃ before after, lines = before ++ line :: after ∧ number = start + before.length ∧
        header? line = none ∧ insideAfter inside before = true := by
  constructor
  · intro h
    induction lines generalizing inside start with
    | nil => cases h
    | cons first rest ih =>
      rw [← List.singleton_append, ruleLinesFrom_append, List.mem_append,
        mem_ruleLinesFrom_singleton] at h
      rcases h with ⟨rfl, rfl, hheader, hinside⟩ | h
      · exact ⟨[], rest, rfl, rfl, hheader, hinside⟩
      · obtain ⟨before, after, rfl, rfl, hheader, hinside⟩ := ih h
        refine ⟨first :: before, after, rfl, ?_, hheader, hinside⟩
        simp only [List.length_cons, List.length_nil]
        omega
  · rintro ⟨before, after, rfl, rfl, hheader, hinside⟩
    rw [ruleLinesFrom_append, ← List.singleton_append, ruleLinesFrom_append, List.mem_append,
      List.mem_append, mem_ruleLinesFrom_singleton]
    exact Or.inr (Or.inl ⟨rfl, rfl, hheader, hinside⟩)

theorem any_isHeader_iff {lines : List String} :
    (lines.any fun line => (header? line).isSome) = true ↔ ∃ line ∈ lines, IsHeader line := by
  rw [List.any_eq_true]
  simp only [isHeader_iff, Option.isSome_iff_exists]

theorem mem_ruleLines_iff {lines : List String} {number : Nat} {line : String} :
    (number, line) ∈ ruleLines lines ↔ IsRuleLine lines number line := by
  have hnone : (!lines.any fun line => (header? line).isSome) = true ↔
      ∀ l ∈ lines, ¬ IsHeader l := by
    rw [Bool.not_eq_true', ← Bool.not_eq_true, any_isHeader_iff]
    push Not
    rfl
  unfold ruleLines IsRuleLine
  rw [mem_ruleLinesFrom_iff]
  simp only [insideAfter_eq_true_iff, hnone, header?_eq_none_iff, Nat.add_comm 1]
  refine exists₂_congr fun before after => ?_
  refine and_congr_right fun hlines => and_congr_right fun _ => and_congr_right fun _ => ?_
  -- without any header there is none above the line either
  refine or_congr_left (and_iff_left_of_imp fun h l hl => ?_)
  rw [hlines] at h
  exact h l (List.mem_append_left _ hl)

/-! ## 4. A section more or less -/

/-- A line of a file, under the number that it has once some lines are put in behind a place. -/
def moved (place extra number : Nat) : Nat := if number ≤ place then number else number + extra

/-- The lines of a section that holds no rules. -/
def IsOtherSection (lines : List String) : Prop :=
  ∃ header body, lines = header :: body ∧ IsHeader header ∧ ¬ OpensControls header ∧
    ∀ line ∈ body, ¬ IsHeader line

theorem ruleLinesFrom_shift (inside : Bool) (number extra : Nat) (lines : List String) :
    ruleLinesFrom inside (number + extra) lines =
      (ruleLinesFrom inside number lines).map fun l => (l.1 + extra, l.2) := by
  induction lines generalizing inside number with
  | nil => rfl
  | cons line rest ih =>
    have hnumber : number + extra + 1 = number + 1 + extra := by omega
    rw [ruleLinesFrom, ruleLinesFrom, hnumber]
    cases header? line with
    | some name => exact ih _ _
    | none =>
      dsimp only
      rw [ih]
      split
      · rfl
      · rfl

/-- A header decides for itself what section the lines behind it are in. -/
theorem ruleLinesFrom_of_header {lines : List String} (h : ∀ line ∈ lines.head?, IsHeader line)
    (inside inside' : Bool) (number : Nat) :
    ruleLinesFrom inside number lines = ruleLinesFrom inside' number lines := by
  cases lines with
  | nil => rfl
  | cons line rest =>
    obtain ⟨name, hname⟩ := isHeader_iff.mp (h line rfl)
    rw [ruleLinesFrom, ruleLinesFrom, hname]

theorem ruleLinesFrom_outside {lines : List String} (h : ∀ line ∈ lines, ¬ IsHeader line)
    (number : Nat) : ruleLinesFrom false number lines = [] := by
  induction lines generalizing number with
  | nil => rfl
  | cons line rest ih =>
    obtain ⟨hline, hrest⟩ := List.forall_mem_cons.mp h
    rw [ruleLinesFrom, header?_eq_none_iff.mpr hline]
    exact ih hrest _

theorem IsOtherSection.ruleLinesFrom_eq_nil {lines : List String} (h : IsOtherSection lines)
    (inside : Bool) (number : Nat) : ruleLinesFrom inside number lines = [] := by
  obtain ⟨header, body, rfl, hheader, hother, hbody⟩ := h
  obtain ⟨name, hname⟩ := isHeader_iff.mp hheader
  have hholds : holdsRules name = false := by
    rw [← Bool.not_eq_true]
    exact fun hholds => hother (opensControls_iff.mpr ⟨name, hname, hholds⟩)
  rw [ruleLinesFrom, hname]
  dsimp only
  rw [hholds, ruleLinesFrom_outside hbody]

theorem ruleLinesFrom_lt {inside : Bool} {start : Nat} {lines : List String} {l : Nat × String}
    (h : l ∈ ruleLinesFrom inside start lines) : l.1 < start + lines.length := by
  obtain ⟨before, after, rfl, hnumber, -⟩ := mem_ruleLinesFrom_iff.mp h
  rw [hnumber, List.length_append, List.length_cons]
  omega

/-- **A section of another name makes no line of rules and takes none away.** -/
theorem ruleLines_insert {before other after : List String} (hother : IsOtherSection other)
    (hafter : ∀ line ∈ after.head?, IsHeader line)
    (hheader : ∃ line ∈ before ++ after, IsHeader line) :
    ruleLines (before ++ other ++ after) = (ruleLines (before ++ after)).map fun l =>
      (moved before.length other.length l.1, l.2) := by
  have hany : ∀ lines : List String, (∃ line ∈ lines, IsHeader line) →
      ruleLines lines = ruleLinesFrom false 1 lines := by
    intro lines h
    unfold ruleLines
    rw [any_isHeader_iff.mpr h]
    rfl
  have hboth : ∃ line ∈ before ++ other ++ after, IsHeader line := by
    obtain ⟨line, hline, hheader⟩ := hheader
    refine ⟨line, ?_, hheader⟩
    rw [List.append_assoc]
    exact (List.mem_append.mp hline).elim (List.mem_append_left _)
      fun h => List.mem_append_right _ (List.mem_append_right _ h)
  rw [hany _ hheader, hany _ hboth, List.append_assoc, ruleLinesFrom_append, ruleLinesFrom_append,
    hother.ruleLinesFrom_eq_nil, List.nil_append, ruleLinesFrom_append, List.map_append,
    ruleLinesFrom_of_header hafter _ (insideAfter false before), ruleLinesFrom_shift]
  congr 1
  · -- the lines above stay where they are
    refine (List.map_id _).symm.trans (List.map_congr_left ?_)
    intro l hl
    have hlt := ruleLinesFrom_lt hl
    rw [moved, if_pos (by omega)]
    rfl
  · apply List.map_congr_left
    intro l hl
    have hle := le_of_mem_ruleLinesFrom hl
    rw [moved, if_neg (by omega)]

/-! ## 5. Clause lines -/

theorem clauseLines?_eq (lines : List String) :
    clauseLines? lines = ((ruleLines lines).mapM ClauseLine.read?).map
      (List.filter fun l => !l.tokens.isEmpty) := rfl

theorem read?_eq_some_iff {number : Nat} {line : String} {l : ClauseLine} :
    ClauseLine.read? (number, line) = some l ↔
      l.number = number ∧ Token.read? line = some l.tokens := by
  rw [ClauseLine.read?, Option.map_eq_some_iff]
  constructor
  · rintro ⟨tokens, htokens, rfl⟩
    exact ⟨rfl, htokens⟩
  · rintro ⟨rfl, htokens⟩
    exact ⟨l.tokens, htokens, rfl⟩

/-- The clause lines of a file are there if its lines of rules can be read, and no other line has
a part in it. -/
theorem exists_clauseLines?_iff {lines : List String} : (∃ ls, clauseLines? lines = some ls) ↔
    ∀ number line, IsRuleLine lines number line → ∃ tokens, Token.read? line = some tokens := by
  have hfilter : (∃ ls, clauseLines? lines = some ls) ↔
      ∃ all, (ruleLines lines).mapM ClauseLine.read? = some all := by
    rw [clauseLines?_eq]
    simp only [Option.map_eq_some_iff]
    exact ⟨fun ⟨_, all, hall, _⟩ => ⟨all, hall⟩, fun ⟨all, hall⟩ => ⟨_, all, hall, rfl⟩⟩
  rw [hfilter, exists_mapM_some_iff]
  simp only [Prod.forall, mem_ruleLines_iff, ClauseLine.read?, Option.isSome_map,
    Option.isSome_iff_exists]

theorem mem_clauseLines?_iff {lines : List String} {ls : List ClauseLine}
    (h : clauseLines? lines = some ls) {l : ClauseLine} : l ∈ ls ↔
      ∃ line, IsRuleLine lines l.number line ∧ Token.read? line = some l.tokens ∧
        l.tokens ≠ [] := by
  obtain ⟨all, hall, rfl⟩ := Option.map_eq_some_iff.mp h
  rw [List.mem_filter, mem_mapM_some_iff hall, Bool.not_eq_true', List.isEmpty_eq_false_iff]
  constructor
  · rintro ⟨⟨⟨number, line⟩, hmem, hread⟩, hne⟩
    obtain ⟨rfl, htokens⟩ := read?_eq_some_iff.mp hread
    exact ⟨line, mem_ruleLines_iff.mp hmem, htokens, hne⟩
  · rintro ⟨line, hrule, htokens, hne⟩
    have hread := read?_eq_some_iff.mpr ⟨rfl, htokens⟩
    exact ⟨⟨(l.number, line), mem_ruleLines_iff.mpr hrule, hread⟩, hne⟩

/-- A clause line under the number that it has once some lines are put in behind a place. -/
def movedLine (place extra : Nat) (l : ClauseLine) : ClauseLine :=
  ⟨moved place extra l.number, l.tokens⟩

theorem clauseLines?_insert {before other after : List String} (hother : IsOtherSection other)
    (hafter : ∀ line ∈ after.head?, IsHeader line)
    (hheader : ∃ line ∈ before ++ after, IsHeader line) :
    clauseLines? (before ++ other ++ after) = (clauseLines? (before ++ after)).map
      (List.map (movedLine before.length other.length)) := by
  have hread : ∀ l : Nat × String,
      ClauseLine.read? (moved before.length other.length l.1, l.2) =
        (ClauseLine.read? l).map (movedLine before.length other.length) := by
    intro l
    unfold ClauseLine.read?
    rw [Option.map_map]
    rfl
  rw [clauseLines?_eq, clauseLines?_eq, ruleLines_insert hother hafter hheader,
    mapM_map_some hread, Option.map_map, Option.map_map]
  congr 1
  funext ls
  exact List.filter_map

/-- **The clause lines of a file are what is read from the lines of its control sections**, in
order and under their numbers in the file. They can be had if these lines can be read, and it
makes no difference to them whether there is another section. -/
theorem clauseLines?_sections (lines : List String) :
    ((∃ ls, clauseLines? lines = some ls) ↔ ∀ number line, IsRuleLine lines number line →
      ∃ tokens, Token.read? line = some tokens) ∧
    (∀ ls, clauseLines? lines = some ls → (ls.Pairwise fun l l' => l.number < l'.number) ∧
      ∀ l, l ∈ ls ↔ ∃ line, IsRuleLine lines l.number line ∧
        Token.read? line = some l.tokens ∧ l.tokens ≠ []) ∧
    ∀ before other after, lines = before ++ after → IsOtherSection other →
      (∀ line ∈ after.head?, IsHeader line) → (∃ line ∈ lines, IsHeader line) →
      clauseLines? (before ++ other ++ after) =
        (clauseLines? lines).map (List.map (movedLine before.length other.length)) := by
  refine ⟨exists_clauseLines?_iff, ?_, ?_⟩
  · intro ls hls
    exact ⟨clauseLines?_pairwise hls, fun l => mem_clauseLines?_iff hls⟩
  · rintro before other after rfl hother hafter hheader
    exact clauseLines?_insert hother hafter hheader

/-- A file with a title, and with rules in the second section. -/
def titledLines : List String :=
  ["[TITLE]", "RULE not a rule", "[Controls] ; of the pump", "RULE R1"]

/-- A section of pumps with a line that cannot be cut into tokens. -/
def pumpLines : List String := ["[PUMPS]", "P1 \u00a0 N1 N2"]

theorem clauseLines?_sections_titled :
    clauseLines? titledLines = some [⟨4, ["RULE", "R1"]⟩] ∧
    (∃ line, IsRuleLine titledLines 4 line ∧ Token.read? line = some ["RULE", "R1"]) ∧
    IsOtherSection pumpLines ∧
    clauseLines? (titledLines.take 2 ++ pumpLines ++ titledLines.drop 2) =
      some [⟨6, ["RULE", "R1"]⟩] := by
  have hlines : clauseLines? titledLines = some [⟨4, ["RULE", "R1"]⟩] := by decide +kernel
  have hpumps : IsOtherSection pumpLines := by
    have hname : header? "[PUMPS]" = some "PUMPS" := by decide +kernel
    refine ⟨"[PUMPS]", ["P1 \u00a0 N1 N2"], rfl, isHeader_iff.mpr ⟨_, hname⟩, ?_, ?_⟩
    · rw [opensControls_iff, hname]
      rintro ⟨name, ⟨⟩, hholds⟩
      exact absurd hholds (by decide +kernel)
    · rw [List.forall_mem_singleton, ← header?_eq_none_iff]
      decide +kernel
  have hheader : IsHeader "[Controls] ; of the pump" :=
    isHeader_iff.mpr ⟨"Controls", by decide +kernel⟩
  obtain ⟨-, hmembers, hinsert⟩ := clauseLines?_sections titledLines
  refine ⟨hlines, ?_, hpumps, ?_⟩
  · obtain ⟨line, hrule, hread, -⟩ :=
      ((hmembers _ hlines).2 ⟨4, ["RULE", "R1"]⟩).mp (List.mem_singleton_self _)
    exact ⟨line, hrule, hread⟩
  · rw [hinsert (titledLines.take 2) pumpLines (titledLines.drop 2) rfl hpumps
      (by rintro line ⟨⟩; exact hheader) ⟨_, by decide, hheader⟩, hlines]
    rfl

/-- Without a header elsewhere, the first one takes all rules away. -/
example : clauseLines? ["RULE R1"] = some [⟨1, ["RULE", "R1"]⟩] ∧
    clauseLines? ["RULE R1", "[PUMPS]"] = some [] := by decide +kernel

end Section

end Sluice
