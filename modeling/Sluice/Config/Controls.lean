import Sluice.Config.Version
import Sluice.Text.Lines

/-!
# The config of a controls model

A controls model is given its rules, as a text or as a list of lines, or else the name of a file
that holds them; in addition the length of a control step, if it is not that of the simulation,
and whether the first fault in a rule ends the setup. A config is made plain JSON, accepted by a
schema and then read into a structure, so that whoever holds the structure need not check anything
again.
-/

set_option autoImplicit false

namespace Sluice

/-- Where the rules of a model are. -/
inductive RuleSource where
  | lines (lines : List String)
  | file (name : String)
  deriving DecidableEq, Repr

structure ControlsConfig where
  rules : RuleSource
  /-- The length of a control step in seconds, a number. -/
  controlStep : Option Json
  strict : Bool
  /-- The config as plain JSON. -/
  written : Json
  deriving Repr

namespace ControlsConfig

private def text : Schema := .all [.type [.string]]

/-- The properties of a config; a name and a type are those of every model. -/
def properties : List (String × Schema) :=
  [("rules", .all [.oneOf [text, .all [.type [.array], .items text]]]),
    ("rules_file", .all [.type [.string], .minLength 1]),
    ("control_step", .all [.type [.number], .exclusiveMinimum (.int 0)]),
    ("strict", .all [.type [.boolean]]),
    ("name", text),
    ("type", text)]

/-- What a config may look like. -/
def schema : Schema :=
  .all
    [.type [.object],
      .properties properties,
      .oneOf [.all [.required ["rules"]], .all [.required ["rules_file"]]],
      .additionalProperties (properties.map (·.1)) [] (.anything false)]

/-- The lines of a rule text, or of a list of lines. -/
def lines : Json → List String
  | .text s => Text.lines s
  | .array xs => xs.filterMap fun
    | .text s => some s
    | _ => none
  | _ => []

/-- Reads the members of a config that was accepted. Rules that are given count before a file. -/
def ofMembers (members : List (String × Json)) : ControlsConfig where
  rules :=
    match Json.member? "rules" members, Json.member? "rules_file" members with
    | some j, _ => .lines (lines j)
    | none, some (.text name) => .file name
    | none, _ => .lines []
  controlStep := Json.member? "control_step" members
  strict :=
    match Json.member? "strict" members with
    | some (.bool b) => b
    | _ => false
  written := .object members

/-- Reads a config, or reports what is wrong with it; whole numbers have a limit of digits. -/
def ofJson (limit : Nat) (config : Json.Given) : Except ConfigError ControlsConfig := do
  let config ← Config.plain limit config
  (schema.check Schema.noReference config).mapError .refused
  return { ofMembers (Constraint.membersOf config) with written := config }

end ControlsConfig

end Sluice
