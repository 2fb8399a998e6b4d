import Sluice.Rule.Token
import Sluice.Text.Case
import Sluice.Text.Lines

/-!
# Sections of a rule file

A rule file may be divided into sections by headers in square brackets. When it is, only the
lines of the sections named `CONTROLS` are rules, and the lines of other sections are not even
looked at; when it is not, all lines are. Either way a line keeps its number in the file, which
starts at 1, because that number is what an error refers to.
-/

set_option autoImplicit false

namespace Sluice

/-- The tokens of a line of rule text, with its number. -/
structure ClauseLine where
  number : Nat
  tokens : List String
  deriving DecidableEq, Repr

namespace Section

open Text

/-- Whether only a comment may follow, up to the end of the line. A line break at the very end
does not count. -/
def endsLine (cs : List Char) : Bool :=
  match cs.dropWhile isBlank with
  | [] => true
  | c :: rest =>
    c == ';' && (!rest.contains '\n' || (rest.getLast? == some '\n' && rest.count '\n' == 1))

/-- The name in the header of a section, without the blanks around it. -/
def header? (line : String) : Option String :=
  match line.toList.dropWhile isBlank with
  | '[' :: rest =>
    let name := rest.takeWhile (· != ']')
    match rest.dropWhile (· != ']') with
    | _ :: after =>
      if name.isEmpty || !endsLine after then none
      else some (String.ofList (trimBy isBlank name))
    | [] => none
  | _ => none

/-- Whether a section with this name holds rules. -/
def holdsRules (name : String) : Bool := upper name == "CONTROLS"

/-- The lines of rules among the remaining ones, with their numbers. `inside` says whether the
current section holds rules. -/
def ruleLinesFrom (inside : Bool) (number : Nat) : List String → List (Nat × String)
  | [] => []
  | line :: rest =>
    match header? line with
    | some name => ruleLinesFrom (holdsRules name) (number + 1) rest
    | none =>
      if inside then (number, line) :: ruleLinesFrom inside (number + 1) rest
      else ruleLinesFrom inside (number + 1) rest

/-- The lines of rules, with their numbers in the file. -/
def ruleLines (lines : List String) : List (Nat × String) :=
  ruleLinesFrom (!lines.any fun line => (header? line).isSome) 1 lines

/-- The clause lines of a file, without those that are blank or hold only a comment. There are
none when a line of rules cannot be read. -/
def clauseLines? (lines : List String) : Option (List ClauseLine) :=
  ((ruleLines lines).mapM fun l => (Token.read? l.2).map (ClauseLine.mk l.1)).map
    (List.filter fun l => !l.tokens.isEmpty)

end Section

end Sluice
