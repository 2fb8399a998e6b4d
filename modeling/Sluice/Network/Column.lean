import Sluice.Json.Basic

/-!
# Columns of numbers in a dataset

A dataset gives the values of a column as a JSON array. What it holds is read generously: a
missing entry is a value that is no number, a truth value counts as one or zero, and a text is
read as a numeral. What it must have is the right shape, one number for each object. The shape
of a nested array is the list of its lengths from the outside in, and an array whose parts have
different shapes has none.
-/

set_option autoImplicit false

namespace Sluice

/-- Why a JSON value is no column of numbers. -/
inductive ColumnError where
  /-- The parts of an array have different shapes. -/
  | uneven
  /-- A text is no numeral. -/
  | notANumeral
  /-- An object stands in the place of a number. -/
  | notANumber
  /-- A whole number exceeds all scalars. -/
  | tooLarge
  | wrongShape (expected : Nat) (shape : List Nat)
  deriving DecidableEq, Repr

/-- A shape as it is shown: the lengths between parentheses, a single one with a comma. -/
def shapeText : List Nat → String
  | [n] => "(" ++ toString n ++ ",)"
  | shape => "(" ++ String.intercalate ", " (shape.map toString) ++ ")"

def ColumnError.message? : ColumnError → Option String
  | .wrongShape expected shape =>
    some ("expected " ++ toString expected ++ " values, got " ++ shapeText shape)
  | _ => none

/-- The numbers of a nested array in reading order, with its shape. -/
structure Grid (α : Type) where
  shape : List Nat
  cells : List α
  deriving Repr

namespace Grid

mutual

/-- The shape of a nested array, if it has one. -/
def shape? : Json → Option (List Nat)
  | .array items => itemsShape? items
  | _ => some []

/-- The shape of an array with these items. -/
def itemsShape? : List Json → Option (List Nat)
  | [] => some [0]
  | x :: rest =>
    match shape? x, itemsShape? rest with
    | some inner, some (n :: outer) =>
      if rest.isEmpty || outer == inner then some ((n + 1) :: inner) else none
    | _, _ => none

end

mutual

/-- The innermost values of a nested array. -/
def leaves : Json → List Json
  | .array items => itemsLeaves items
  | j => [j]

def itemsLeaves : List Json → List Json
  | [] => []
  | x :: rest => leaves x ++ itemsLeaves rest

end

variable {α : Type} [Scalar α]

/-- A whole number as a scalar, if there is one of that size. -/
def ofWhole (n : Int) : Except ColumnError α :=
  let x := Scalar.ofInt n
  if Scalar.isFinite x then .ok x else .error .tooLarge

/-- A single number. -/
def cell : Json → Except ColumnError α
  | .null => .ok Scalar.nan
  | .bool b => .ok (if b then Scalar.one else Scalar.zero)
  | .int n => ofWhole n
  | .real d => .ok d.toScalar
  | .text s =>
    match readScalar? s with
    | some x => .ok x
    | none => .error .notANumeral
  | .array _ => .error .uneven
  | .object _ => .error .notANumber

/-- Reads a nested array of numbers; a bare number is an array without dimensions. -/
def ofJson (j : Json) : Except ColumnError (Grid α) :=
  match shape? j with
  | none => .error .uneven
  | some shape => ((leaves j).mapM cell).map fun cells => ⟨shape, cells⟩

end Grid

/-- Reads a column of `size` numbers; an absent one is filled with a default. -/
def column {α : Type} [Scalar α] (size : Nat) (default : α) (j : Json) :
    Except ColumnError (List α) :=
  match j with
  | .null => .ok (List.replicate size default)
  | j => do
    let grid ← Grid.ofJson j
    if grid.shape == [size] then .ok grid.cells else .error (.wrongShape size grid.shape)

end Sluice
