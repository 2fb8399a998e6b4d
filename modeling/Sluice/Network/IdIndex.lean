/-!
# Ids and their positions

Rules name nodes, links, curves and time series by id; evaluation addresses them by position.
An index keeps the ids of one kind twice: as a list in order, and as a dictionary from each id to
the place where it stands (`positions`). A lookup reads the dictionary alone, by the exact text of
an id. Adding ids is refused as a whole (`DuplicateIds`) when one of them is already there or is
given twice, and this is found out from the list alone. Null characters at the end of an id do not
tell it apart from another one (`distinctive`).

Nothing in the type says that list and dictionary agree; that they do in every index that was built
by additions is a matter of the offset at which each batch is entered.
-/

set_option autoImplicit false

namespace Sluice

/-- The ids that occur more than once, each listed once, in the order of their characters. -/
structure DuplicateIds where
  ids : List String
  deriving DecidableEq, Repr

def DuplicateIds.message (d : DuplicateIds) : String :=
  "Duplicate entries detected: " ++ String.intercalate ", " d.ids

/-! ## 1. Dictionaries of positions -/

/-- A dictionary from ids to positions, in the order in which the ids were first entered. -/
abbrev Positions := List (String × Nat)

namespace Positions

def empty : Positions := []

def get? (ps : Positions) (id : String) : Option Nat := ps.lookup id

/-- Enters an id. One that is entered already gets the new position and keeps its place. -/
def enter (ps : Positions) (id : String) (position : Nat) : Positions :=
  match ps with
  | [] => [(id, position)]
  | p :: rest => if p.1 == id then (id, position) :: rest else p :: enter rest id position

/-- Enters some ids that stand one behind the other, the first of them at an offset. -/
def enterFrom (ps : Positions) (offset : Nat) : List String → Positions
  | [] => ps
  | id :: rest => (ps.enter id offset).enterFrom (offset + 1) rest

end Positions

/-! ## 2. Indexes -/

structure IdIndex where
  ids : List String
  positions : Positions
  deriving DecidableEq, Repr

namespace IdIndex

def empty : IdIndex := ⟨[], .empty⟩

/-- The position that the dictionary has for an id. -/
def find? (x : IdIndex) (id : String) : Option Nat := x.positions.get? id

/-- What tells an id apart from others: its text up to the null characters at its end. -/
def distinctive (id : String) : String :=
  String.ofList (id.toList.reverse.dropWhile fun c => c.toNat = 0).reverse

/-- The members of a list that occur in it more than once, sorted. -/
def repeated (ids : List String) : List String :=
  ((ids.filter fun id => 1 < ids.count id).eraseDups).mergeSort fun a b => decide (a ≤ b)

/-- Puts more ids behind those that are there, and enters them behind as many positions. -/
def add (x : IdIndex) (more : List String) : Except DuplicateIds IdIndex :=
  let ids := x.ids ++ more
  match repeated (ids.map distinctive) with
  | [] => .ok ⟨ids, x.positions.enterFrom x.ids.length more⟩
  | d :: ds => .error ⟨d :: ds⟩

/-- An index of some ids. -/
def ofList (ids : List String) : Except DuplicateIds IdIndex := empty.add ids

end IdIndex

end Sluice
