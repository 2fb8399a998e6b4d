import Sluice.Json.Basic

/-!
# Writing JSON

The compact text of a JSON value. A decimal is written with its exponent, so that it reads back
as a decimal even when it is whole.
-/

set_option autoImplicit false

namespace Sluice.Json

/-- Four hexadecimal digits, or more where a number has more. -/
def hex (n : Nat) : List Char :=
  let ds := Nat.toDigits 16 n
  List.replicate (4 - ds.length) '0' ++ ds

/-- One character of a text: quotes, backslashes and controls are escaped. -/
def escape (c : Char) : List Char :=
  if c == '"' || c == '\\' then ['\\', c]
  else if c.toNat < 0x20 || c.toNat = 0x7F then ['\\', 'u'] ++ hex c.toNat
  else [c]

def renderText (s : String) : String :=
  String.ofList (['"'] ++ s.toList.flatMap escape ++ ['"'])

def renderReal (d : Decimal) : String :=
  (if d.negative then "-" else "") ++ toString d.mantissa ++ "e" ++ toString d.exponent

mutual

def render : Json → String
  | .null => "null"
  | .bool b => if b then "true" else "false"
  | .int n => toString n
  | .real d => renderReal d
  | .text s => renderText s
  | .array items => "[" ++ renderItems items ++ "]"
  | .object members => "\x7b" ++ renderMembers members ++ "\x7d"

def renderItems : List Json → String
  | [] => ""
  | [x] => render x
  | x :: rest => render x ++ "," ++ renderItems rest

def renderMembers : List (String × Json) → String
  | [] => ""
  | [(k, x)] => renderText k ++ ":" ++ render x
  | (k, x) :: rest => renderText k ++ ":" ++ render x ++ "," ++ renderMembers rest

end

end Sluice.Json
