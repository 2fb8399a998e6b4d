import Sluice.Text.Blank

/-!
# Tokens of a rule line

A line of rule text is a sequence of tokens between gaps. A token is either *quoted*, and then
it may hold blanks and semicolons, or a *word*, which ends at a blank or a semicolon. A
semicolon outside quotes opens a comment that runs to the end of the line.

Three things are worth knowing. Tabs are replaced by spaces up to the next multiple of eight
columns before anything else happens, inside quotes too. A quotation mark that is not closed on
its line is an ordinary character and begins a word. And a blank that is no gap, such as a
no-break space, is not part of any token, so a line that has one between its tokens cannot be
read at all.

The reader goes through the characters once. What it is in the middle of is its `Mode`.
-/

set_option autoImplicit false

namespace Sluice

namespace Token

open Text

/-! ## 1. Tabs -/

/-- The distance between tab stops. -/
def tabWidth : Nat := 8

/-- Replaces tabs by spaces; `column` is the number of characters since the last line end. -/
def expandTabs (column : Nat) : List Char → List Char
  | [] => []
  | c :: rest =>
    if c == '\t' then
      let width := tabWidth - column % tabWidth
      List.replicate width ' ' ++ expandTabs (column + width) rest
    else if c == '\n' || c == '\r' then c :: expandTabs 0 rest
    else c :: expandTabs (column + 1) rest

/-! ## 2. Quoted tokens -/

/-- Whether a quoted token that has been opened is closed on the same line. -/
def closes : List Char → Bool
  | [] => false
  | c :: rest => c == '"' || (c != '\n' && c != '\r' && closes rest)

/-- The control character that a letter behind a backslash stands for. -/
def control? (c : Char) : Option Char :=
  [('t', '\t'), ('n', '\n'), ('r', '\r'), ('f', '\x0c')].lookup c

/-- Puts control characters in the place of their escapes; every other backslash stays. -/
def unescape : List Char → List Char
  | [] => []
  | [c] => [c]
  | c :: d :: rest =>
    if c == '\\' then
      match control? d with
      | some e => e :: unescape rest
      | none => c :: unescape (d :: rest)
    else c :: unescape (d :: rest)

/-! ## 3. The reader -/

/-- What the reader is in the middle of. The characters of the current token are held in
reverse. -/
inductive Mode where
  | gap
  | comment
  | quoted (read : List Char)
  | word (read : List Char)
  deriving Repr

/-- The token of the characters read so far. -/
def ofRead (read : List Char) : String := String.ofList read.reverse

/-- Reads the tokens of the remaining characters. There are none where a character stands
between tokens that is neither a gap nor may begin a token. -/
def scan : Mode → List Char → Option (List String)
  | .gap, [] => some []
  | .comment, [] => some []
  | .quoted read, [] => some [ofRead read]
  | .word read, [] => some [ofRead read]
  | .gap, c :: rest =>
    if isGap c then scan .gap rest
    else if c == ';' then scan .comment rest
    else if c == '"' && closes rest then scan (.quoted []) rest
    else if isBlank c then none
    else scan (.word [c]) rest
  | .comment, c :: rest => if c == '\n' then scan .gap rest else scan .comment rest
  | .quoted read, c :: rest =>
    if c == '"' then
      (scan .gap rest).map (String.ofList (unescape read.reverse) :: ·)
    else scan (.quoted (c :: read)) rest
  | .word read, c :: rest =>
    if isGap c then (scan .gap rest).map (ofRead read :: ·)
    else if c == ';' then (scan .comment rest).map (ofRead read :: ·)
    else if isBlank c then none
    else scan (.word (c :: read)) rest

/-- The tokens of a line, if it can be read. -/
def read? (line : String) : Option (List String) := scan .gap (expandTabs 0 line.toList)

end Token

end Sluice
