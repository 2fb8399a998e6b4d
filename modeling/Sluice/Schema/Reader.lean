import Sluice.Schema.Basic

/-!
# Reading schemas

A schema is itself written in JSON: `true`, `false`, or an object whose members are keywords.
Keywords that are not known are read over. A keyword whose value is not of the form that it needs
makes the whole schema malformed, also where the keyword only describes.

Reading takes two steps. First the schemas inside a schema are read, which leaves a list of
keywords with what they are given (`KeywordValue`). Then each keyword becomes a constraint; some
need to know their siblings for that (`Constraint.ofKeyword?`), because they speak of what a
sibling does not cover.
-/

set_option autoImplicit false

namespace Sluice

/-! ## 1. What keywords are given -/

/-- How the value of a keyword is read. -/
inductive KeywordForm where
  /-- No schemas in it. -/
  | plain
  | schema
  | schemas
  | schemaOrSchemas
  /-- An object of schemas. -/
  | members
  /-- An object of schemas and lists of names. -/
  | dependencies
  deriving DecidableEq, Repr

namespace KeywordForm

def ofKey (key : String) : KeywordForm :=
  if ["properties", "patternProperties", "definitions"].contains key then .members
  else if ["additionalProperties", "additionalItems", "contains", "propertyNames", "not", "if",
      "then", "else"].contains key then .schema
  else if ["allOf", "anyOf", "oneOf"].contains key then .schemas
  else if key == "items" then .schemaOrSchemas
  else if key == "dependencies" then .dependencies
  else .plain

end KeywordForm

/-- What a keyword is given; the schemas in it have been read. -/
inductive KeywordValue where
  | plain (value : Json)
  | schema (s : Schema)
  | schemas (ss : List Schema)
  | members (ms : List (String × Schema))
  | dependencies (ds : List (String × Dependency))

namespace KeywordValue

/-- What one of several keywords is given. -/
def find? (key : String) (values : List (String × KeywordValue)) : Option KeywordValue :=
  (values.find? fun kv => kv.1 == key).map (·.2)

def schema? (key : String) (values : List (String × KeywordValue)) : Option Schema :=
  match find? key values with
  | some (.schema s) => some s
  | _ => none

def membersOf (key : String) (values : List (String × KeywordValue)) : List (String × Schema) :=
  match find? key values with
  | some (.members ms) => ms
  | _ => []

end KeywordValue

/-! ## 2. Constraints -/

namespace Constraint

/-- A natural number, however it is written. -/
def count? (j : Json) : Option Int :=
  match j.exactValue? with
  | some (.finite n d) => if 0 ≤ n ∧ n % d = 0 then some (n / d) else none
  | _ => none

def number? (j : Json) : Option Json := if ValueType.number.fits j then some j else none

def text? : Json → Option String
  | .text s => some s
  | _ => none

def truth? : Json → Option Bool
  | .bool b => some b
  | _ => none

def list? : Json → Option (List Json)
  | .array xs => some xs
  | _ => none

/-- A list of texts without repetition. -/
def names? (j : Json) : Option (List String) := do
  let xs ← list? j
  if Json.allDistinct xs then xs.mapM text? else none

/-- One type, or a list of types without repetition that is not empty. -/
def types? : Json → Option (List ValueType)
  | .text name => (ValueType.find? name).map ([·])
  | j => (names? j).bind fun names =>
    if names.isEmpty then none else names.mapM ValueType.find?

/-- Keywords that describe or refer and hold a text. -/
def textKeywords : List String :=
  ["$id", "$schema", "$ref", "$comment", "title", "description", "format", "contentMediaType",
    "contentEncoding"]

/-- Reads a keyword that holds no schemas; `some none` if it makes no constraint. -/
def ofPlain? (key : String) (value : Json) : Option (Option Constraint) :=
  match key with
  | "type" => (types? value).map (some <| .type ·)
  | "enum" => (list? value).map (some <| .enum ·)
  | "const" => some (some (.const value))
  | "required" => (names? value).map (some <| .required ·)
  | "minProperties" => (count? value).map (some <| .minProperties ·)
  | "maxProperties" => (count? value).map (some <| .maxProperties ·)
  | "minItems" => (count? value).map (some <| .minItems ·)
  | "maxItems" => (count? value).map (some <| .maxItems ·)
  | "uniqueItems" => (truth? value).map (some <| .uniqueItems ·)
  | "pattern" => ((text? value).bind Text.Pattern.read?).map (some <| .pattern ·)
  | "minLength" => (count? value).map (some <| .minLength ·)
  | "maxLength" => (count? value).map (some <| .maxLength ·)
  | "minimum" => (number? value).map (some <| .minimum ·)
  | "maximum" => (number? value).map (some <| .maximum ·)
  | "exclusiveMinimum" => (number? value).map (some <| .exclusiveMinimum ·)
  | "exclusiveMaximum" => (number? value).map (some <| .exclusiveMaximum ·)
  | "multipleOf" => if (Json.int 0).less value then some (some (.multipleOf value)) else none
  | "examples" => (list? value).map fun _ => none
  | "readOnly" => (truth? value).map fun _ => none
  | key => if textKeywords.contains key then (text? value).map fun _ => none else some none

/-- The patterns among which a member can be that is not declared. A single empty pattern names
none, although every name matches it. -/
def patternsOf (members : List (String × Schema)) : List Text.Pattern :=
  if members.map (·.1) == [""] then [] else members.filterMap fun m => Text.Pattern.read? m.1

/-- How many items of an array are checked one by one. There are items behind those only if
they are; the number is missing if a truth value stands in place of the schemas. -/
def itemsInTurn? (values : List (String × KeywordValue)) : Option (Option Nat) :=
  match KeywordValue.find? "items" values with
  | some (.schemas ss) => some (some ss.length)
  | some (.schema (.anything _)) => some none
  | _ => none

/-- The constraint of a keyword, given the keyword with all its siblings; `some none` if it makes
no constraint of its own, `none` if it is malformed. -/
def ofKeyword? (siblings : List (String × KeywordValue)) (key : String) :
    KeywordValue → Option (Option Constraint)
  | .plain value => ofPlain? key value
  | .schema s =>
    match key with
    | "additionalProperties" =>
      some (some (.additionalProperties ((KeywordValue.membersOf "properties" siblings).map (·.1))
        (patternsOf (KeywordValue.membersOf "patternProperties" siblings)) s))
    | "additionalItems" =>
      some ((itemsInTurn? siblings).map fun checked => .additionalItems checked s)
    | "propertyNames" => some (some (.propertyNames s))
    | "items" => some (some (.items s))
    | "contains" => some (some (.contains s))
    | "not" => some (some (.not s))
    | "if" =>
      some (some (.conditional s (KeywordValue.schema? "then" siblings)
        (KeywordValue.schema? "else" siblings)))
    | _ => some none
  | .schemas ss =>
    match key with
    | "items" => some (some (.itemsInTurn ss))
    | "allOf" => some (some (.allOf ss))
    | "anyOf" => some (some (.anyOf ss))
    | "oneOf" => some (some (.oneOf ss))
    | _ => some none
  | .members ms =>
    match key with
    | "properties" => some (some (.properties ms))
    | "patternProperties" =>
      (ms.mapM fun m => (Text.Pattern.read? m.1).map fun p => (p, m.2)).map
        (some <| .patternProperties ·)
    | _ => some none
  | .dependencies ds => some (some (.dependencies ds))

/-- The constraints of all keywords. A schema that refers to another one means nothing else. -/
def ofKeywords? (values : List (String × KeywordValue)) : Option (List Constraint) := do
  let constraints ← values.mapM fun kv => ofKeyword? values kv.1 kv.2
  match KeywordValue.find? "$ref" values with
  | some (.plain (.text place)) => return [.ref place]
  | _ => return constraints.filterMap id

end Constraint

/-! ## 3. Schemas -/

namespace Schema

mutual

/-- Reads a schema; `none` if it is malformed. -/
def ofJson? : Json → Option Schema
  | .bool allowed => some (.anything allowed)
  | .object keywords => ((values? keywords).bind Constraint.ofKeywords?).map .all
  | _ => none

private def values? : List (String × Json) → Option (List (String × KeywordValue))
  | [] => some []
  | (key, value) :: rest =>
    let found : Option KeywordValue :=
      match KeywordForm.ofKey key, value with
      | .plain, value => some (.plain value)
      | .members, .object ms => (members? ms).map .members
      | .dependencies, .object ms => (dependencies? ms).map .dependencies
      | .schemas, .array items =>
        if items.isEmpty then none else (list? items).map .schemas
      | .schemaOrSchemas, .array items =>
        if items.isEmpty then none else (list? items).map .schemas
      | .schema, value => (ofJson? value).map .schema
      | .schemaOrSchemas, value => (ofJson? value).map .schema
      | _, _ => none
    match found, values? rest with
    | some o, some os => some ((key, o) :: os)
    | _, _ => none

private def list? : List Json → Option (List Schema)
  | [] => some []
  | x :: rest =>
    match ofJson? x, list? rest with
    | some s, some ss => some (s :: ss)
    | _, _ => none

private def members? : List (String × Json) → Option (List (String × Schema))
  | [] => some []
  | (name, x) :: rest =>
    match ofJson? x, members? rest with
    | some s, some ss => some ((name, s) :: ss)
    | _, _ => none

private def dependencies? : List (String × Json) → Option (List (String × Dependency))
  | [] => some []
  | (name, x) :: rest =>
    let found : Option Dependency :=
      match x with
      | .array items => (Constraint.names? (.array items)).map .names
      | x => (ofJson? x).map .schema
    match found, dependencies? rest with
    | some d, some ds => some ((name, d) :: ds)
    | _, _ => none

end

end Schema

end Sluice
