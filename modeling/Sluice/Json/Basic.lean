import Sluice.Number.Numeral
import Sluice.Number.Written
import Sluice.Text.Quoted

/-!
# JSON values

Datasets, scenarios and configs arrive as JSON. A value keeps what the text said: whole numbers
of any size apart from decimals, and the members of an object in the order in which they were
written, because the order of curves gives them their positions.
-/

set_option autoImplicit false

namespace Sluice

inductive Json where
  | null
  | bool (b : Bool)
  | int (n : Int)
  | real (d : Decimal)
  | text (s : String)
  | array (items : List Json)
  | object (members : List (String × Json))
  deriving Repr, Inhabited

namespace Json

/-- The value of a member of an object. -/
def member? (key : String) (members : List (String × Json)) : Option Json :=
  (members.find? fun m => m.1 == key).map (·.2)

/-- Sets a member: an existing one keeps its place, a new one comes last. -/
def setMember (key : String) (value : Json) : List (String × Json) → List (String × Json)
  | [] => [(key, value)]
  | m :: rest => if m.1 == key then (key, value) :: rest else m :: setMember key value rest

/-- Whether a value counts as present: not null, false, zero or empty. -/
def isTruthy : Json → Bool
  | .null => false
  | .bool b => b
  | .int n => n != 0
  | .real d => (d.toScalar : Float) != 0
  | .text s => s != ""
  | .array items => !items.isEmpty
  | .object members => !members.isEmpty

/-! ## Labels

An id in a dataset may be written as any value and is then taken as its label. The label of a
text is the text itself; every other value is labelled the way it is usually displayed. -/

private def boolLabel (b : Bool) : String := if b then "True" else "False"

mutual

/-- A value as displayed inside another one: texts are quoted. -/
def display : Json → String
  | .null => "None"
  | .bool b => boolLabel b
  | .int n => toString n
  | .real d => shortestText d.toScalar
  | .text s => Text.quoted s
  | .array items => "[" ++ displayItems items ++ "]"
  | .object members => "\x7b" ++ displayMembers members ++ "\x7d"

private def displayItems : List Json → String
  | [] => ""
  | [x] => display x
  | x :: rest => display x ++ ", " ++ displayItems rest

private def displayMembers : List (String × Json) → String
  | [] => ""
  | [(k, x)] => Text.quoted k ++ ": " ++ display x
  | (k, x) :: rest => Text.quoted k ++ ": " ++ display x ++ ", " ++ displayMembers rest

end

/-- The text that a value stands for as an id. -/
def label : Json → String
  | .text s => s
  | j => display j

end Json

end Sluice
