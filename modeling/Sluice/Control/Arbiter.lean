import Sluice.Control.Modulation

/-!
# Which action wins a link

In a step several actions may ask for the same link. The one whose rule has the highest priority
is committed, and among equal priorities the one that was queued first. Status and setting both
write the target of a link, so only one of them is committed; the decision is made first between
the actions on one attribute of a link and then between the winners of its attributes, by the
same rule. Links are committed in the order in which they were first asked for.

Committing writes target settings and nothing else. An action on something that cannot be
written stops it, and what was written before remains.
-/

set_option autoImplicit false

namespace Sluice

/-- An action that asks for a link, with the setting it computed. -/
structure Candidate (α : Type) where
  priority : α
  /-- Where it stands in the queue of the step. -/
  order : Nat
  ruleId : String
  action : Action α
  value : α
  deriving Repr

/-- A setting that was written. -/
structure Committed (α : Type) where
  link : Nat
  linkId : String
  attr : Attribute
  value : α
  ruleId : String
  modulated : Bool
  /-- Whether the target was a different one before. -/
  changed : Bool
  deriving DecidableEq, Repr

namespace Candidate

variable {α : Type} [Scalar α]

/-- Whether a candidate takes the place of another one. -/
def beats (c d : Candidate α) : Bool :=
  decide (c.priority > d.priority) || (c.priority == d.priority && decide (c.order < d.order))

/-- Lets a candidate compete with the one that is kept for its key, if there is one. A winner
takes the place of the loser, so keys stay in the order in which they first came up. -/
def settle {κ : Type} [BEq κ] (key : Candidate α → κ) (kept : List (Candidate α))
    (c : Candidate α) : List (Candidate α) :=
  match kept with
  | [] => [c]
  | k :: rest =>
    if key k == key c then (if c.beats k then c else k) :: rest else k :: settle key rest c

/-- The winners, one for each key. -/
def winnersBy {κ : Type} [BEq κ] (key : Candidate α → κ) (cs : List (Candidate α)) :
    List (Candidate α) := cs.foldl (settle key) []

/-- The winners of all links. -/
def winners (cs : List (Candidate α)) : List (Candidate α) :=
  winnersBy (fun c => c.action.link) (winnersBy (fun c => (c.action.link, c.action.attr)) cs)

/-- The setting that is committed for a candidate. -/
def committed (c : Candidate α) (previous : α) : Committed α :=
  ⟨c.action.link, c.action.linkId, c.action.attr, c.value, c.ruleId, c.action.isModulated,
    !(previous == c.value)⟩

/-- Writes the setting of one candidate. -/
def write (s : State α) (c : Candidate α) : Except StateError (State α × Committed α) := do
  let previous ← s.target c.action.link
  let s ← s.setTarget c.action.link c.action.attr c.value
  return (s, c.committed previous)

/-- Writes the settings of some candidates in order, up to the first that cannot be written. -/
def writeAll (s : State α) : List (Candidate α) → State α × Except StateError (List (Committed α))
  | [] => (s, .ok [])
  | c :: rest =>
    match c.write s with
    | .error e => (s, .error e)
    | .ok (s, first) =>
      let (s, others) := writeAll s rest
      (s, others.map (first :: ·))

end Candidate

end Sluice
