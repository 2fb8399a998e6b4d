import Sluice.Config.FileName
import Sluice.Json.Plain
import Sluice.Schema.Reference

/-!
# Versioned configs

The config of a model is made plain JSON and then checked against the schema of its version, which
is an object of keywords or the name of a file that holds one. Every model has a name and a type,
so a schema may leave out these two properties; they are then added to those it declares. What was
read back, and not what was given, is the config from then on.
-/

set_option autoImplicit false

namespace Sluice

/-- Why a config is refused. -/
inductive ConfigError where
  /-- The config is no JSON, but can be displayed. -/
  | notEncodable (shown : String)
  /-- A whole number has too many digits, which nothing can be done about. -/
  | tooManyDigits
  | unknownVersion
  /-- The schema is neither an object nor the name of a file. -/
  | noSchema
  | file (e : NameError)
  /-- The schema has no properties to which name and type could be added. -/
  | noProperties
  /-- The properties of the schema are not an object. -/
  | propertiesNotObject
  | malformedSchema
  | refused (r : Refusal)
  deriving DecidableEq, Repr

/-- The message of an error, for those whose wording is fixed. -/
def ConfigError.message? : ConfigError → Option String
  | .notEncodable shown => some ("config " ++ shown ++ " is not a valid JSON-encodable object")
  | _ => none

namespace Config

/-- A config as plain JSON. -/
def plain (limit : Nat) (config : Json.Given) : Except ConfigError Json :=
  match config.plain? limit with
  | some config => .ok config
  | none =>
    -- the refusal displays the config, and that may fail for the reason of the refusal
    match config.label? limit with
    | some shown => .error (.notEncodable shown)
    | none => .error .tooManyDigits

/-- Adds the properties that every model has to a schema. -/
def withNameAndType (keywords : List (String × Json)) :
    Except ConfigError (List (String × Json)) :=
  let text : Json := .object [("type", .text "string")]
  match Json.member? "properties" keywords with
  | none => .error .noProperties
  | some (.object ms) =>
    let ms := Json.setMember "type" text (Json.setMember "name" text ms)
    .ok (Json.setMember "properties" (.object ms) keywords)
  | some _ => .error .propertiesNotObject

/-- The text of the schema of a version, with or without the properties that every model has. A
schema that is given is made plain as well, without a refusal of its own. No files belong to a
schema, so the name of one leads nowhere. -/
def schemaText (limit : Nat) (written : Json) (addNameAndType : Bool) : Except ConfigError Json :=
  match written with
  | .object _ =>
    match Json.Given.plain? limit written with
    | none => .error .tooManyDigits
    | some written =>
      if addNameAndType then (withNameAndType (Constraint.membersOf written)).map .object
      else .ok written
  | .text name =>
    match FileName.read (fun _ => none) name with
    | .error e => .error (.file e)
    | .ok _ => .error (.file .notFound)
  | _ => .error .noSchema

/-- Checks a config against the schema of one of several versions, and gives it as plain JSON. -/
def check (limit : Nat) (config : Json.Given) (version : String) (versions : List (String × Json))
    (addNameAndType : Bool) : Except ConfigError Json := do
  let config ← plain limit config
  match Json.member? version versions with
  | none => throw .unknownVersion
  | some written =>
    let written ← schemaText limit written addNameAndType
    match Schema.ofJson? written with
    | none => throw .malformedSchema
    | some s =>
      (s.checkIn written config).mapError .refused
      return config

end Config

end Sluice
