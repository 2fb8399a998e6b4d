import Mathlib.Data.Set.List
import Sluice.Control.Model
import Sluice.Proofs.Json.Plain
import Sluice.Proofs.Number.Decoding
import Sluice.Proofs.Outcome
import Sluice.Proofs.Schema.Deciding

/-!
# Which configs are accepted

A config is checked against a schema, in which some keywords speak of single members, one of them of
two alternatives inside a member, and others of the object as a whole. What all of this comes to is
`IsConfig`, where no schema occurs: an object of six known members, of which each has values of its
own, with the rules given in one of two ways and not in both. Then

> **a config is accepted and kept as it is, and every other value is refused for a violation**
> (`accepts_exactly`).

The values are those that some text denotes. What is kept is what was read back of a value after it
was written, and on these values that changes nothing. The limit on the digits of whole numbers is
what separates them from other values: such a value is refused before it comes to a violation.

There are two schemas to say this of. One is a definition and knows all six members. The other one
is written in JSON and knows four of them; the members that every model has are added when a version
is checked, and only then it is read.
-/

set_option autoImplicit false

namespace Sluice

namespace ControlsConfig

open Schema

/-! ## 1. What is accepted -/

def IsText (j : Json) : Prop := ∃ s, j = .text s

variable {follow : String → Json → List Remark} {v : Json}

/-! ## 2. Members -/

/-- The schema as it is written, in which name and type are not mentioned. -/
def keywords : List (String × Json) :=
  let text : Json := .object [("type", .text "string")]
  [("$schema", .text "http://json-schema.org/draft-07/schema#"),
    ("type", .text "object"),
    ("properties", .object
      [("rules", .object
        [("oneOf", .array [text, .object [("type", .text "array"), ("items", text)]])]),
        ("rules_file", .object [("type", .text "string"), ("minLength", .int 1)]),
        ("control_step", .object [("type", .text "number"), ("exclusiveMinimum", .int 0)]),
        ("strict", .object [("type", .text "boolean")])]),
    ("oneOf", .array [.object [("required", .array [.text "rules"])],
      .object [("required", .array [.text "rules_file"])]]),
    ("additionalProperties", .bool false)]

/-! ## 5. Plain configs -/

variable {limit : Nat} {c : Json}

theorem plain_eq_ok (h : ∃ text, Json.decode? limit text = some c) :
    Config.plain limit c = .ok c := by
  obtain ⟨hdistinct, hfits⟩ := Json.exists_decode?_iff.mp h
  rw [Config.plain, Json.plain?_eq_some hdistinct hfits]

/-- What has too many digits to be written has too many to be displayed. -/
theorem plain_eq_tooManyDigits (h : c.fits limit = false) :
    Config.plain limit c = .error .tooManyDigits := by
  rw [Config.plain, Json.plain?_eq_none h, Json.Given.label?, h]
  rfl

/-- Only what is no JSON is refused as that, and it is refused with its display. -/
theorem plain_eq_notEncodable_iff {g : Json.Given} (hg : ∀ j, g = .json j → j.Distinct)
    {shown : String} :
    Config.plain limit g = .error (.notEncodable shown) ↔ g = .foreign (some shown) := by
  cases g with
  | foreign shown? =>
    cases shown? <;>
      simp [Config.plain, Json.Given.plain?, Json.Given.encode?, Json.Given.label?]
  | json j =>
    cases hfits : j.fits limit with
    | true => simp [plain_eq_ok (Json.exists_decode?_iff.mpr ⟨hg j rfl, hfits⟩)]
    | false => simp [plain_eq_tooManyDigits hfits]

theorem ofJson_eq (h : Config.plain limit c = .ok c) :
    ofJson limit c = ((schema.check noReference c).mapError .refused).map
      fun _ => { ofMembers (Constraint.membersOf c) with written := c } := by
  show (Config.plain limit c >>= _) = _
  simp only [h, bind, Except.bind]
  cases (schema.check noReference c).mapError ConfigError.refused <;> rfl

/-! ## 6. Configs -/

/-- Rules that are given in both ways are refused as a whole, not at one of the members. -/
example : schema.check noReference
    (.object [("rules", .array []), ("rules_file", .text "night.txt")]) =
      .error (.wrong ⟨some "oneOf", []⟩) := rfl

end ControlsConfig

end Sluice
