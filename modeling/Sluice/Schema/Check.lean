import Sluice.Schema.Remark

/-!
# Checking a value against a schema

`Schema.remarks` lists everything that is wrong with a value, constraint by constraint in the
order in which they are written, and `Schema.check` tells the most relevant of it. Both are given
what a reference leads to as a function, and follow no reference themselves.

A violation inside a part of a value is seen from the whole under the step to that part. Only a
schema that accepts nothing has no place of its own: its violation counts where the part was
entered from.
-/

set_option autoImplicit false

namespace Sluice

namespace Constraint

/-- The members of a value; only an object has any. -/
def membersOf : Json → List (String × Json)
  | .object ms => ms
  | _ => []

/-- The items of a value; only an array has any. -/
def itemsOf : Json → List Json
  | .array xs => xs
  | _ => []

/-- The names that an object lacks. -/
def missing (names : List String) (ms : List (String × Json)) : List String :=
  names.filter fun name => (Json.member? name ms).isNone

/-- The members that are neither declared nor match a pattern. -/
def undeclared (declared : List String) (patterns : List Text.Pattern)
    (ms : List (String × Json)) : List (String × Json) :=
  ms.filter fun m => !declared.contains m.1 && !(patterns.any fun p => p.matchesIn m.1)

/-- Whether a value meets a constraint that concerns only the value itself. -/
def holds : Constraint → Json → Bool
  | .type types, v => types.any (·.fits v)
  | .enum values, v => values.any (·.same v)
  | .const value, v => value.same v
  | .minProperties n, .object ms => n ≤ ms.length
  | .maxProperties n, .object ms => ms.length ≤ n
  | .minItems n, .array xs => n ≤ xs.length
  | .maxItems n, .array xs => xs.length ≤ n
  | .uniqueItems wanted, .array xs => !wanted || Json.allDistinct xs
  | .pattern p, .text s => p.matchesIn s
  | .minLength n, .text s => n ≤ s.length
  | .maxLength n, .text s => s.length ≤ n
  | .minimum bound, v => !(v.less bound)
  | .maximum bound, v => !(bound.less v)
  | .exclusiveMinimum bound, v => !(ValueType.number.fits v) || bound.less v
  | .exclusiveMaximum bound, v => !(ValueType.number.fits v) || v.less bound
  | .multipleOf unit, v => !(ValueType.number.fits v) || v.isMultipleOf unit
  | _, _ => true

end Constraint

namespace Schema

open Constraint Remark

/-- What a schema remarks about a part, seen from the whole. -/
def enter (s : Schema) (step : Step) (rs : List Remark) : List Remark :=
  match s with
  | .anything _ => rs
  | .all _ => rs.map (.under step)

/-- How a value stands to several alternatives, tried one after another. -/
inductive Choice where
  | stuck (cause : Stuck)
  /-- It meets one; the others behind it were not tried. -/
  | met (others : List Schema)
  /-- It meets none. -/
  | unmet (inner : List Violation)

mutual

/-- Everything that is wrong with a value. `follow` gives what is wrong with a value according to
the schema that a reference leads to. -/
def remarks (follow : String → Json → List Remark) : Schema → Json → List Remark
  | .anything allowed, _ => if allowed then [] else [.wrong (.here none false)]
  | .all cs, v => remarksOfAll follow ((types cs).any (·.fits v)) cs v

/-- What a list of constraints finds wrong; `fitsType` says whether the value is of a type that
the schema of these constraints declares. -/
def remarksOfAll (follow : String → Json → List Remark) (fitsType : Bool) :
    List Constraint → Json → List Remark
  | [], _ => []
  | c :: cs, v =>
    andThen (remarksOf follow fitsType c v) fun _ => remarksOfAll follow fitsType cs v

/-- What one constraint finds wrong. -/
def remarksOf (follow : String → Json → List Remark) (fitsType : Bool) :
    Constraint → Json → List Remark
  | .properties declared, v => remarksOfMembers follow declared (membersOf v)
  | .required names, .object ms => (missing names ms).map fun _ => .here "required" fitsType
  | .patternProperties declared, v => remarksOfPatterns follow declared (membersOf v)
  | .additionalProperties declared patterns rest, .object ms =>
    let others := undeclared declared patterns ms
    match rest with
    | .anything allowed =>
      if allowed || others.isEmpty then [] else [.here "additionalProperties" fitsType]
    | .all cs =>
      onEach (fun m => (remarksOfAll follow ((types cs).any (·.fits m.2)) cs m.2).map
        (.under (.member m.1))) others
  | .propertyNames name, v => onEach (fun m => remarks follow name (.text m.1)) (membersOf v)
  | .dependencies ds, .object ms => remarksOfDependencies follow fitsType ds ms
  | .items item, v =>
    onEach (fun x => enter item (.item x.2) (remarks follow item x.1)) (itemsOf v).zipIdx
  | .itemsInTurn schemas, v => remarksInTurn follow 0 schemas (itemsOf v)
  | .additionalItems checked rest, .array xs =>
    match checked, rest with
    | none, _ => [.stuck .noLength]
    | some n, .anything allowed =>
      if allowed || xs.length ≤ n then [] else [.here "additionalItems" fitsType]
    | some n, .all cs =>
      onEach (fun x => (remarksOfAll follow ((types cs).any (·.fits x.1)) cs x.1).map
        (.under (.item x.2))) (xs.zipIdx.drop n)
  | .contains item, .array xs =>
    Remark.decide (anyValid (fun x => remarks follow item x) xs) [] [.here "contains" fitsType]
  | .allOf schemas, v => remarksOfEach follow schemas v
  | .anyOf schemas, v =>
    match choose follow schemas v with
    | .stuck cause => [.stuck cause]
    | .met _ => []
    | .unmet inner => [.wrong (.choice "anyOf" fitsType inner)]
  | .oneOf schemas, v =>
    match chooseOne follow schemas v with
    | .error cause => [.stuck cause]
    | .ok none => []
    | .ok (some none) => [.here "oneOf" fitsType]
    | .ok (some (some inner)) => [.wrong (.choice "oneOf" fitsType inner)]
  | .not schema, v =>
    Remark.decide (isValid (remarks follow schema v)) [.here "not" fitsType] []
  | .conditional condition yes no, v =>
    Remark.decide (isValid (remarks follow condition v))
      (match yes with
        | some s => remarks follow s v
        | none => [])
      (match no with
        | some s => remarks follow s v
        | none => [])
  | .ref place, v => follow place v
  | c, v => if holds c v then [] else [.here c.keyword fitsType]

/-- What all of several schemas find wrong with the same value. -/
def remarksOfEach (follow : String → Json → List Remark) : List Schema → Json → List Remark
  | [], _ => []
  | s :: rest, v => andThen (remarks follow s v) fun _ => remarksOfEach follow rest v

/-- Tries alternatives until one is met. -/
def choose (follow : String → Json → List Remark) : List Schema → Json → Choice
  | [], _ => .unmet []
  | s :: rest, v =>
    let rs := remarks follow s v
    if rs.isEmpty then .met rest
    else match stuck? rs with
      | some cause => .stuck cause
      | none =>
        match choose follow rest v with
        | .unmet inner => .unmet (violations rs ++ inner)
        | other => other

/-- Tries alternatives of which exactly one has to be met: nothing if that is so, otherwise what
is wrong with the value according to all of them, unless more than one is met. -/
def chooseOne (follow : String → Json → List Remark) :
    List Schema → Json → Except Stuck (Option (Option (List Violation)))
  | [], _ => .ok (some (some []))
  | s :: rest, v =>
    let rs := remarks follow s v
    if rs.isEmpty then
      match anyMet follow rest v with
      | .ok met => .ok (if met then some none else none)
      | .error cause => .error cause
    else match stuck? rs with
      | some cause => .error cause
      | none =>
        match chooseOne follow rest v with
        | .ok (some (some inner)) => .ok (some (some (violations rs ++ inner)))
        | other => other

/-- Whether one of several schemas accepts a value; all of them are tried. -/
def anyMet (follow : String → Json → List Remark) : List Schema → Json → Except Stuck Bool
  | [], _ => .ok false
  | s :: rest, v =>
    match isValid (remarks follow s v) with
    | .error cause => .error cause
    | .ok valid =>
      match anyMet follow rest v with
      | .error cause => .error cause
      | .ok more => .ok (valid || more)

/-- What is wrong with the declared members of an object. -/
def remarksOfMembers (follow : String → Json → List Remark) :
    List (String × Schema) → List (String × Json) → List Remark
  | [], _ => []
  | (name, s) :: rest, ms =>
    andThen
      (match Json.member? name ms with
        | some x => enter s (.member name) (remarks follow s x)
        | none => [])
      fun _ => remarksOfMembers follow rest ms

/-- What is wrong with the members of an object whose names match patterns. -/
def remarksOfPatterns (follow : String → Json → List Remark) :
    List (Text.Pattern × Schema) → List (String × Json) → List Remark
  | [], _ => []
  | (p, s) :: rest, ms =>
    andThen
      (onEach (fun m => enter s (.member m.1) (remarks follow s m.2))
        (ms.filter fun m => p.matchesIn m.1))
      fun _ => remarksOfPatterns follow rest ms

/-- What is wrong with an object because of the members that it has. -/
def remarksOfDependencies (follow : String → Json → List Remark) (fitsType : Bool) :
    List (String × Dependency) → List (String × Json) → List Remark
  | [], _ => []
  | (name, d) :: rest, ms =>
    andThen
      (if (Json.member? name ms).isNone then []
        else match d with
          | .names names => (missing names ms).map fun _ => .here "dependencies" fitsType
          | .schema s => remarks follow s (.object ms))
      fun _ => remarksOfDependencies follow fitsType rest ms

/-- What is wrong with the items of an array, checked one by one from the `n`-th on. -/
def remarksInTurn (follow : String → Json → List Remark) (n : Nat) :
    List Schema → List Json → List Remark
  | s :: rest, x :: xs =>
    andThen (enter s (.item n) (remarks follow s x)) fun _ =>
      remarksInTurn follow (n + 1) rest xs
  | _, _ => []

end

/-- Accepts a value or tells the most relevant of what is wrong with it. -/
def check (follow : String → Json → List Remark) (s : Schema) (v : Json) :
    Except Refusal Unit :=
  match Refusal.ofRemarks? (s.remarks follow v) with
  | some refusal => .error refusal
  | none => .ok ()

/-- For schemas that refer to nothing: no reference leads anywhere. -/
def noReference (_ : String) (_ : Json) : List Remark := [.stuck .unresolved]

end Schema

end Sluice
