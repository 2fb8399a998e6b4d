import Sluice.Schema.Check
import Sluice.Schema.Reader

/-!
# References

A schema can refer to another place of the text that it is part of. A reference that begins with
a number sign is about that text itself, and so is one that begins with the id of the text. What
follows is the way to the place: empty for the text as a whole, otherwise names of members and
positions of items with a slash in front of each (`Reference.walk`), or else the name that a
schema has given itself (`Reference.named?`).

Following a reference reads what is written at its place and checks the value against that, with
one step of fuel less. A value that is checked has finitely many parts and a text finitely many
references, so a longer chain than these allow has come back to the same place with the same part
(`Reference.fuel`); it would go on without end.
-/

set_option autoImplicit false

namespace Sluice

namespace Reference

/-! ## 1. Ways -/

/-- The bytes of a text in which a percent sign with two hexadecimal digits stands for a byte. -/
def bytes : List Char → List UInt8
  | '%' :: a :: b :: rest =>
    match Text.Pattern.hex? 2 [a, b] with
    | some (n, _) => n.toUInt8 :: bytes rest
    | none => '%'.toNat.toUInt8 :: bytes (a :: b :: rest)
  | c :: rest => String.utf8EncodeChar c ++ bytes rest
  | [] => []

/-- A text without percent signs that stand for bytes. -/
def decoded? (s : String) : Option String := String.fromUTF8? ⟨(bytes s.toList).toArray⟩

/-- The name of a member, in which a tilde writes the characters that have a meaning here. -/
def memberName (segment : String) : String := (segment.replace "~1" "/").replace "~0" "~"

/-- The item at a position; a negative position counts from the end. -/
def itemAt? {β : Type} (items : List β) (position : Int) : Option β :=
  let n := if position < 0 then items.length + position else position
  if n < 0 then none else items[n.toNat]?

/-- Walks from a value along a way. The items of a text are its characters. -/
def walk : List String → Json → Except Stuck Json
  | [], v => .ok v
  | segment :: rest, v =>
    match v with
    | .object ms =>
      match Json.member? (memberName segment) ms with
      | some x => walk rest x
      | none => .error .unresolved
    | .array xs =>
      match (Numeral.readInt? segment).map (itemAt? xs) with
      | some (some x) => walk rest x
      | some none => .error .unresolved
      | none => .error .noPosition
    | .text s =>
      match (Numeral.readInt? segment).map (itemAt? s.toList) with
      | some (some c) => walk rest (.text (String.singleton c))
      | some none => .error .unresolved
      | none => .error .noPosition
    | _ => .error .noParts

/-! ## 2. Names -/

mutual

/-- The schema with a name, among a schema and those inside it. -/
def named? (name : String) : Json → Option Json
  | .object keywords =>
    match Json.member? "$id" keywords with
    | some (.text id) =>
      if id == "#" ++ name then some (.object keywords) else namedInside? name keywords
    | _ => namedInside? name keywords
  | _ => none

private def namedInside? (name : String) : List (String × Json) → Option Json
  | [] => none
  | (key, value) :: rest =>
    let inside :=
      match KeywordForm.ofKey key, value with
      | .members, .object ms => namedMember? name ms
      | .dependencies, .object ms => namedMember? name ms
      | .schemas, .array items => namedItem? name items
      | .schemaOrSchemas, .array items => namedItem? name items
      | .schema, value => named? name value
      | .schemaOrSchemas, value => named? name value
      | _, _ => none
    inside.or (namedInside? name rest)

private def namedItem? (name : String) : List Json → Option Json
  | [] => none
  | x :: rest => (named? name x).or (namedItem? name rest)

private def namedMember? (name : String) : List (String × Json) → Option Json
  | [] => none
  | (_, x) :: rest => (named? name x).or (namedMember? name rest)

end

/-! ## 3. Places -/

/-- The id of a text, which is empty if the text has none. -/
def idOf (root : Json) : String :=
  match root with
  | .object keywords =>
    match Json.member? "$id" keywords with
    | some (.text id) =>
      if id.toList.head? == some '#' then ""
      else String.ofList (id.toList.reverse.dropWhile (· == '#')).reverse
    | _ => ""
  | _ => ""

/-- The part of a reference in front of the first number sign, and the part behind it. -/
def split (ref : String) : String × String :=
  let cs := ref.toList
  (String.ofList (cs.takeWhile (· != '#')), String.ofList ((cs.dropWhile (· != '#')).drop 1))

/-- What is written at the place to which a reference leads. -/
def resolve (root : Json) (ref : String) : Except Stuck Json :=
  let (text, way) := split ref
  if text != "" && text != idOf root then .error .unresolved
  else if way == "" then .ok root
  else if way.toList.head? == some '/' then
    match decoded? (String.ofList (way.toList.drop 1)) with
    | some way => walk (way.splitOn "/") root
    | none => .error .unresolved
  else match named? way root with
    | some schema => .ok schema
    | none => .error .unresolved

/-! ## 4. Following references -/

mutual

/-- How many values a value is made of. -/
def size : Json → Nat
  | .array xs => sizeOfItems xs + 1
  | .object ms => sizeOfMembers ms + 1
  | _ => 1

private def sizeOfItems : List Json → Nat
  | [] => 0
  | x :: rest => size x + sizeOfItems rest

private def sizeOfMembers : List (String × Json) → Nat
  | [] => 0
  | (_, x) :: rest => size x + sizeOfMembers rest

end

/-- The longest chain of references that comes to an end. At each part of the value, of which
there is one more for every name of a member, the chain meets a reference at most once. -/
def fuel (root v : Json) : Nat := 2 * size v * size root

/-- Everything that is wrong with a value according to what a reference leads to. -/
def follow (root : Json) : Nat → String → Json → List Remark
  | 0, _, _ => [.stuck .endless]
  | n + 1, ref, v =>
    match resolve root ref with
    | .error cause => [.stuck cause]
    | .ok place =>
      match Schema.ofJson? place with
      | some s => s.remarks (follow root n) v
      | none => [.stuck .noSchema]

end Reference

namespace Schema

/-- Accepts a value or tells the most relevant of what is wrong with it. References are about the
text `root`, which the schema was read from. -/
def checkIn (root : Json) (s : Schema) (v : Json) : Except Refusal Unit :=
  s.check (Reference.follow root (Reference.fuel root v)) v

end Schema

end Sluice
