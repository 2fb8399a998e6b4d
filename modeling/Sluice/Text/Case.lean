/-!
# Upper case for comparison

Keywords, attributes, link types, status words and log levels are compared in upper case. All
of them are spelled with ASCII letters, so of the Unicode case mapping only the part matters
that ends in ASCII letters; every other character keeps its place and can match nothing. That
part is larger than the ASCII alphabet: the dotless i becomes `I`, the long s becomes `S`, and
the sharp s and the Latin ligatures become two or three letters.
-/

set_option autoImplicit false

namespace Sluice.Text

/-- The upper case of a character, as far as it consists of ASCII letters. -/
def upperChar (c : Char) : List Char :=
  match c.toNat with
  | 0x00DF => ['S', 'S']
  | 0x0131 => ['I']
  | 0x017F => ['S']
  | 0xFB00 => ['F', 'F']
  | 0xFB01 => ['F', 'I']
  | 0xFB02 => ['F', 'L']
  | 0xFB03 => ['F', 'F', 'I']
  | 0xFB04 => ['F', 'F', 'L']
  | 0xFB05 => ['S', 'T']
  | 0xFB06 => ['S', 'T']
  | _ => [c.toUpper]

/-- The upper case of a text, for comparison with a word of ASCII capitals. -/
def upper (s : String) : String := String.ofList (s.toList.flatMap upperChar)

end Sluice.Text
