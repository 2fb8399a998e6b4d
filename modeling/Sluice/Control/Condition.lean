import Sluice.Control.Source

/-!
# Conditions

The condition of a rule is the sequence of its premises. `AND` binds stronger than `OR`: a group
of premises joined by `AND` holds when all of them do, and the condition holds when one of its
groups does. How the first premise is joined makes no difference, and without premises nothing
holds.

Every premise is evaluated, also when the outcome is already decided, so a premise that cannot
be evaluated makes the whole condition fail to evaluate, wherever it stands.
-/

set_option autoImplicit false

namespace Sluice

/-- Whether a condition holds, given what its remaining premises say: `earlier` says whether a
group before the current one holds, `group` whether the current one does so far. -/
def truthFrom (earlier group : Bool) : List (Joint × Bool) → Bool
  | [] => earlier || group
  | (.or, b) :: rest => truthFrom (earlier || group) b rest
  | (_, b) :: rest => truthFrom earlier (group && b) rest

/-- Whether a condition holds, given what its premises say. -/
def truth : List (Joint × Bool) → Bool
  | [] => false
  | (_, b) :: rest => truthFrom false b rest

variable {α : Type} [Scalar α]

/-- Whether a premise holds. -/
def Premise.holds (s : State α) (r : Reading α) (p : Premise α) : Except ResolveError Bool := do
  let right ← p.right.resolve s r
  let left ← p.left.resolve s r
  return p.relation.holds left right

/-- Whether the condition of some premises holds. -/
def condition (s : State α) (r : Reading α) (ps : List (Premise α)) :
    Except ResolveError Bool := do
  let values ← ps.mapM fun p => (p.holds s r).map fun b => (p.joint, b)
  return truth values

end Sluice
