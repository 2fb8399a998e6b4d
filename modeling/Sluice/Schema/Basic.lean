import Sluice.Json.Compare
import Sluice.Text.Pattern

/-!
# Schemas

A schema says which JSON values are accepted. It is a list of constraints, each named by a
keyword, in the order in which they were written; the order decides which of several equally
relevant violations is reported. Two schemas have no constraints of their own: one accepts every
value, the other none. A schema may also refer to another place of the text that it is part of
(`Constraint.ref`); what is written there is looked up when a value is checked, because a schema
can refer to itself.

A truth value is no number, and a decimal without a fractional part is a whole number.
-/

set_option autoImplicit false

namespace Sluice

/-- The types of JSON values that a schema can name. -/
inductive ValueType where
  | null | boolean | integer | number | string | array | object
  deriving DecidableEq, Repr

namespace ValueType

def name : ValueType → String
  | .null => "null"
  | .boolean => "boolean"
  | .integer => "integer"
  | .number => "number"
  | .string => "string"
  | .array => "array"
  | .object => "object"

/-- The type of a name. -/
def find? (name : String) : Option ValueType :=
  [ValueType.null, .boolean, .integer, .number, .string, .array, .object].find? (·.name == name)

/-- Whether a value is of a type. -/
def fits : ValueType → Json → Bool
  | .null, .null => true
  | .boolean, .bool _ => true
  | .integer, .int _ => true
  | .integer, .real d => Scalar.isWhole (d.toScalar : Float)
  | .number, .int _ => true
  | .number, .real _ => true
  | .string, .text _ => true
  | .array, .array _ => true
  | .object, .object _ => true
  | _, _ => false

end ValueType

mutual

inductive Schema where
  /-- Accepts everything or nothing. -/
  | anything (allowed : Bool)
  | all (constraints : List Constraint)

/-- A constraint concerns values of one kind, and lets all others pass. -/
inductive Constraint where
  /-- The value has one of these types. -/
  | type (types : List ValueType)
  | enum (values : List Json)
  | const (value : Json)
  /-- Members of an object, by name. -/
  | properties (members : List (String × Schema))
  | required (names : List String)
  /-- Members of an object whose names match patterns. -/
  | patternProperties (members : List (Text.Pattern × Schema))
  /-- All members of an object that are neither declared nor match a pattern. -/
  | additionalProperties (declared : List String) (patterns : List Text.Pattern) (rest : Schema)
  /-- The names of the members of an object, as texts. -/
  | propertyNames (name : Schema)
  /-- What an object has to meet if it has a certain member. -/
  | dependencies (members : List (String × Dependency))
  | minProperties (n : Int)
  | maxProperties (n : Int)
  /-- Every item of an array. -/
  | items (item : Schema)
  /-- The items of an array, one by one from the first. -/
  | itemsInTurn (schemas : List Schema)
  /-- The items of an array behind those that are checked one by one. Their number is missing if
  the items are constrained by a truth value. -/
  | additionalItems (checked : Option Nat) (rest : Schema)
  /-- Some item of an array. -/
  | contains (item : Schema)
  | minItems (n : Int)
  | maxItems (n : Int)
  | uniqueItems (wanted : Bool)
  | pattern (p : Text.Pattern)
  | minLength (n : Int)
  | maxLength (n : Int)
  | minimum (bound : Json)
  | maximum (bound : Json)
  | exclusiveMinimum (bound : Json)
  | exclusiveMaximum (bound : Json)
  | multipleOf (unit : Json)
  | allOf (schemas : List Schema)
  | anyOf (schemas : List Schema)
  | oneOf (schemas : List Schema)
  | not (schema : Schema)
  /-- What else a value has to meet if it meets a condition, and if it does not. -/
  | conditional (condition : Schema) (yes no : Option Schema)
  /-- What is written at another place. -/
  | ref (place : String)

/-- What the presence of a member asks of its object. -/
inductive Dependency where
  | names (names : List String)
  | schema (s : Schema)

end

namespace Constraint

/-- The keyword that writes a constraint. -/
def keyword : Constraint → String
  | .type _ => "type"
  | .enum _ => "enum"
  | .const _ => "const"
  | .properties _ => "properties"
  | .required _ => "required"
  | .patternProperties _ => "patternProperties"
  | .additionalProperties _ _ _ => "additionalProperties"
  | .propertyNames _ => "propertyNames"
  | .dependencies _ => "dependencies"
  | .minProperties _ => "minProperties"
  | .maxProperties _ => "maxProperties"
  | .items _ => "items"
  | .itemsInTurn _ => "items"
  | .additionalItems _ _ => "additionalItems"
  | .contains _ => "contains"
  | .minItems _ => "minItems"
  | .maxItems _ => "maxItems"
  | .uniqueItems _ => "uniqueItems"
  | .pattern _ => "pattern"
  | .minLength _ => "minLength"
  | .maxLength _ => "maxLength"
  | .minimum _ => "minimum"
  | .maximum _ => "maximum"
  | .exclusiveMinimum _ => "exclusiveMinimum"
  | .exclusiveMaximum _ => "exclusiveMaximum"
  | .multipleOf _ => "multipleOf"
  | .allOf _ => "allOf"
  | .anyOf _ => "anyOf"
  | .oneOf _ => "oneOf"
  | .not _ => "not"
  | .conditional _ _ _ => "if"
  | .ref _ => "$ref"

/-- The types that a list of constraints names. -/
def types (constraints : List Constraint) : List ValueType :=
  constraints.flatMap fun
    | .type ts => ts
    | _ => []

end Constraint

end Sluice
