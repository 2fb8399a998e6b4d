/-!
# Lines of a text

A text is cut into lines at every line boundary that Unicode knows. The carriage return and the
line feed together are one boundary, and a boundary at the very end opens no further line.
-/

set_option autoImplicit false

namespace Sluice.Text

/-- The characters at which a text is cut into lines. -/
def isLineBreak (c : Char) : Bool :=
  let n := c.toNat
  (0x0A ≤ n && n ≤ 0x0D) || (0x1C ≤ n && n ≤ 0x1E) || n == 0x85 || n == 0x2028 || n == 0x2029

/-- Cuts the rest of a text into lines; `current` holds the open line, reversed. -/
def cutLines (current : List Char) : List Char → List (List Char)
  | [] => if current.isEmpty then [] else [current.reverse]
  | '\r' :: '\n' :: rest => current.reverse :: cutLines [] rest
  | c :: rest =>
    if isLineBreak c then current.reverse :: cutLines [] rest
    else cutLines (c :: current) rest

/-- The lines of a text, without their line breaks. -/
def lines (s : String) : List String := (cutLines [] s.toList).map String.ofList

end Sluice.Text
