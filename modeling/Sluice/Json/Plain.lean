import Sluice.Json.Printer
import Sluice.Json.Reader

/-!
# Values that pass through a text

A value that comes from elsewhere is made plain by writing it as JSON and reading what was written.
Two things can fail. A whole number may not have more decimal digits than a limit, or else the value
can be neither written nor read nor displayed; a limit of zero is none. And what is given need not
be JSON at all (`Given`): then it cannot be written either, but perhaps displayed.
-/

set_option autoImplicit false

namespace Sluice.Json

/-- Whether a whole number has no more digits than a limit. -/
def withinDigits (limit : Nat) (n : Int) : Bool :=
  limit == 0 || (Nat.toDigits 10 n.natAbs).length ≤ limit

mutual

/-- Whether all whole numbers of a value keep within a limit of digits. -/
def fits (limit : Nat) : Json → Bool
  | .int n => withinDigits limit n
  | .array items => itemsFit limit items
  | .object members => membersFit limit members
  | .null | .bool _ | .real _ | .text _ => true

def itemsFit (limit : Nat) : List Json → Bool
  | [] => true
  | j :: rest => fits limit j && itemsFit limit rest

def membersFit (limit : Nat) : List (String × Json) → Bool
  | [] => true
  | (_, j) :: rest => fits limit j && membersFit limit rest

end

/-- The value of a text, if it can be read. -/
def decode? (limit : Nat) (text : String) : Option Json := (read? text).filter (fits limit)

/-- What is given where JSON is expected. -/
inductive Given where
  | json (j : Json)
  /-- A value with a part for which JSON has no form. Only its display is known, if it has one. -/
  | foreign (shown? : Option String)
  deriving Repr

instance : Coe Json Given := ⟨.json⟩

namespace Given

/-- The text that is written for what is given, if it can be. -/
def encode? (limit : Nat) : Given → Option String
  | .json j => if j.fits limit then some j.render else none
  | .foreign _ => none

/-- How it is displayed, if it can be. -/
def label? (limit : Nat) : Given → Option String
  | .json j => if j.fits limit then some j.label else none
  | .foreign shown? => shown?

/-- What is read back of it after it was written. -/
def plain? (limit : Nat) (g : Given) : Option Json := (g.encode? limit).bind (decode? limit)

end Given

end Sluice.Json
