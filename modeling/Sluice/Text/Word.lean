import Sluice.Text.Quoted

/-!
# Characters of words

A word is made of letters, digits and underscores. Among the characters beyond ASCII every one
that can be printed and is not blank counts as a letter.
-/

set_option autoImplicit false

namespace Sluice.Text

/-- A letter, a digit or an underscore. -/
def isWordChar (c : Char) : Bool :=
  c.isAlphanum || c == '_' || (128 ≤ c.toNat && isPrintable c)

end Sluice.Text
