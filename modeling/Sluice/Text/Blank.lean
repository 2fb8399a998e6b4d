/-!
# Blank characters

Two different sets of blanks occur in rule files. Between the tokens of a line only the space,
the tab and the two line ends are skipped (`isGap`); everywhere else, in section headers, in
numbers and where a word ends, every character that Unicode counts as white space is blank
(`isBlank`). A no-break space is therefore neither part of a word nor skipped between words.
-/

set_option autoImplicit false

namespace Sluice.Text

/-- White space in the sense of Unicode, together with the four ASCII separators. -/
def isBlank (c : Char) : Bool :=
  let n := c.toNat
  (0x09 ≤ n && n ≤ 0x0D) || (0x1C ≤ n && n ≤ 0x20) || n == 0x85 || n == 0xA0 || n == 0x1680
    || (0x2000 ≤ n && n ≤ 0x200A) || n == 0x2028 || n == 0x2029 || n == 0x202F || n == 0x205F
    || n == 0x3000

/-- White space in the sense of Unicode alone. -/
def isWhiteSpace (c : Char) : Bool := isBlank c && !(0x1C ≤ c.toNat && c.toNat ≤ 0x1F)

/-- What separates the tokens of a rule line. -/
def isGap (c : Char) : Bool := c == ' ' || c == '\t' || c == '\n' || c == '\r'

/-- White space among the ASCII characters, without the separators. -/
def isAsciiBlank (c : Char) : Bool := (0x09 ≤ c.toNat && c.toNat ≤ 0x0D) || c == ' '

theorem isBlank_of_isGap {c : Char} (h : isGap c = true) : isBlank c = true := by
  simp only [isGap, Bool.or_eq_true, beq_iff_eq] at h
  rcases h with ((rfl | rfl) | rfl) | rfl <;> decide

/-- The text without the characters of a class at either end. -/
def trimBy (p : Char → Bool) (cs : List Char) : List Char :=
  ((cs.dropWhile p).reverse.dropWhile p).reverse

end Sluice.Text
