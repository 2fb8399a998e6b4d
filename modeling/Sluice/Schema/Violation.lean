import Sluice.Schema.Basic

/-!
# Violations

A value may violate a schema in many places at once, and only the most relevant violation is
reported. A violation is the more relevant the nearer it is to the top of the value. At the same
depth the later place counts, and at one place a constraint that chooses among alternatives is
least relevant, and a value of a declared type is less so than one of a wrong type.

A value that meets none of several alternatives violates each of them. If one of those
violations is the least relevant of all, which is to say the deepest, the value came closest to
that alternative, and that violation is reported in place of the choice.
-/

set_option autoImplicit false

namespace Sluice

/-- A step into a value. -/
inductive Step where
  | item (position : Nat)
  | member (name : String)
  deriving DecidableEq, Repr

namespace Step

/-- Items by position, members by name. -/
def before : Step → Step → Bool
  | .item i, .item j => i < j
  | .item _, .member _ => true
  | .member _, .item _ => false
  | .member a, .member b => a < b

/-- The lexicographic order of paths. -/
def pathBefore : List Step → List Step → Bool
  | _, [] => false
  | [], _ :: _ => true
  | a :: as, b :: bs => a.before b || (!b.before a && pathBefore as bs)

end Step

/-- What is reported: where a value is wrong, and the keyword that it violates. A schema that
accepts nothing has no keyword. -/
structure Finding where
  keyword : Option String
  path : List Step
  deriving DecidableEq, Repr

structure Violation where
  keyword : Option String
  /-- From the value that was checked to the value that is wrong. -/
  path : List Step
  /-- The wrong value is of a type that the violated schema declares. -/
  fitsType : Bool
  /-- What is reported if this violation is the most relevant one. -/
  finding : Finding
  deriving DecidableEq, Repr

namespace Violation

/-- A violation at the value itself. -/
def here (keyword : Option String) (fitsType : Bool) : Violation :=
  ⟨keyword, [], fitsType, ⟨keyword, []⟩⟩

/-- A violation inside a value, seen from that value. -/
def under (step : Step) (v : Violation) : Violation :=
  { v with path := step :: v.path, finding := { v.finding with path := step :: v.finding.path } }

/-- Whether a violation is of a constraint that chooses among alternatives. -/
def isChoice (v : Violation) : Bool :=
  v.keyword == some "anyOf" || v.keyword == some "oneOf"

/-- Whether a violation is less relevant than another. -/
def lessRelevant (a b : Violation) : Bool :=
  if a.path.length ≠ b.path.length then b.path.length < a.path.length
  else if a.path ≠ b.path then Step.pathBefore a.path b.path
  else if a.isChoice ≠ b.isChoice then a.isChoice
  else a.fitsType && !b.fitsType

/-- The first of the most relevant violations. -/
def best? : List Violation → Option Violation
  | [] => none
  | v :: rest => some (rest.foldl (fun best w => if best.lessRelevant w then w else best) v)

/-- The one violation that is less relevant than all others, if there is one. -/
def deepest? (vs : List Violation) : Option Violation :=
  match vs.filter fun v => !(vs.any fun w => w.lessRelevant v) with
  | [v] => some v
  | _ => none

/-- A choice among alternatives of which the value meets none; `inner` holds the violations of
all alternatives. -/
def choice (keyword : String) (fitsType : Bool) (inner : List Violation) : Violation :=
  { here (some keyword) fitsType with
    finding := ((deepest? inner).map finding).getD ⟨some keyword, []⟩ }

end Violation

end Sluice
