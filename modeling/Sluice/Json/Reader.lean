import Sluice.Json.Basic

/-!
# Reading JSON

A strict reader: one value, surrounded by white space, and nothing else. Numbers are kept as
written. When an object names a member twice, the later value takes the earlier one's place.

Every nested value is at least one character shorter than the text around it, so the length of
the text bounds the depth of the recursion; that bound is the fuel.
-/

set_option autoImplicit false

namespace Sluice.Json.Reader

def isSpace (c : Char) : Bool := c == ' ' || c == '\t' || c == '\n' || c == '\r'

def skip (cs : List Char) : List Char := cs.dropWhile isSpace

/-! ## 1. Numbers -/

/-- The digits behind the point, if there is one; at least one digit is needed. -/
def fraction? : List Char → Option (List Char × List Char)
  | '.' :: rest =>
    let ds := rest.takeWhile Char.isDigit
    if ds.isEmpty then none else some (ds, rest.dropWhile Char.isDigit)
  | rest => some ([], rest)

/-- The exponent, if there is one, and whether there is one. -/
def exponent? (cs : List Char) : Option (Option Int × List Char) :=
  match cs with
  | c :: rest =>
    if c == 'e' || c == 'E' then
      let (negative, rest) := Numeral.splitSign rest
      let ds := rest.takeWhile Char.isDigit
      if ds.isEmpty then none
      else
        let n : Int := Numeral.natOf ds
        some (some (if negative then -n else n), rest.dropWhile Char.isDigit)
    else some (none, cs)
  | [] => some (none, [])

/-- A number without its sign. A leading zero stands alone. -/
def number? (negative : Bool) (cs : List Char) : Option (Json × List Char) := do
  let ds := cs.takeWhile Char.isDigit
  let rest := cs.dropWhile Char.isDigit
  if ds.isEmpty || (ds.head? == some '0' && 1 < ds.length) then none
  else
    let (fs, rest) ← fraction? rest
    let (exponent, rest) ← exponent? rest
    if fs.isEmpty && exponent.isNone then
      let n : Int := Numeral.natOf ds
      some (.int (if negative then -n else n), rest)
    else
      some (.real ⟨negative, Numeral.natOf (ds ++ fs), exponent.getD 0 - fs.length⟩, rest)

/-! ## 2. Texts -/

def hexValue? (c : Char) : Option Nat :=
  if c.isDigit then some (c.toNat - 48)
  else if 'a' ≤ c && c ≤ 'f' then some (c.toNat - 87)
  else if 'A' ≤ c && c ≤ 'F' then some (c.toNat - 55)
  else none

/-- Four hexadecimal digits. -/
def hex4? : List Char → Option (Nat × List Char)
  | a :: b :: c :: d :: rest => do
    let n := ((((← hexValue? a) * 16 + (← hexValue? b)) * 16 + (← hexValue? c)) * 16
      + (← hexValue? d))
    some (n, rest)
  | _ => none

/-- The character of a `\u` escape. Two halves of a surrogate pair are one character; a half
without the other is none. -/
def unicode? (cs : List Char) : Option (Char × List Char) := do
  let (high, rest) ← hex4? cs
  if 0xD800 ≤ high && high < 0xDC00 then
    match rest with
    | '\\' :: 'u' :: rest' =>
      let (low, rest'') ← hex4? rest'
      if 0xDC00 ≤ low && low < 0xE000 then
        some (Char.ofNat (0x10000 + (high - 0xD800) * 0x400 + (low - 0xDC00)), rest'')
      else none
    | _ => none
  else if 0xDC00 ≤ high && high < 0xE000 then none
  else some (Char.ofNat high, rest)

/-- The rest of a text up to its closing quote; `read` holds the characters so far, reversed. -/
def characters? (read : List Char) (cs : List Char) : Nat → Option (String × List Char)
  | 0 => none
  | fuel + 1 =>
    match cs with
    | [] => none
    | '"' :: rest => some (String.ofList read.reverse, rest)
    | '\\' :: 'u' :: rest =>
      (unicode? rest).bind fun (c, rest) => characters? (c :: read) rest fuel
    | '\\' :: c :: rest =>
      let escaped := [('"', '"'), ('\\', '\\'), ('/', '/'), ('b', '\x08'), ('f', '\x0c'),
        ('n', '\n'), ('r', '\r'), ('t', '\t')]
      match escaped.lookup c with
      | some e => characters? (e :: read) rest fuel
      | none => none
    | c :: rest => if c.toNat < 0x20 then none else characters? (c :: read) rest fuel

/-! ## 3. Values -/

mutual

/-- A value, after white space. -/
def value? : Nat → List Char → Option (Json × List Char)
  | 0, _ => none
  | fuel + 1, cs =>
    match skip cs with
    | '"' :: rest => (characters? [] rest (rest.length + 1)).map fun (s, rest) => (.text s, rest)
    | '[' :: rest =>
      match skip rest with
      | ']' :: rest => some (.array [], rest)
      | _ => items? fuel [] rest
    | '\x7b' :: rest =>
      match skip rest with
      | '\x7d' :: rest => some (.object [], rest)
      | _ => members? fuel [] rest
    | 't' :: 'r' :: 'u' :: 'e' :: rest => some (.bool true, rest)
    | 'f' :: 'a' :: 'l' :: 's' :: 'e' :: rest => some (.bool false, rest)
    | 'n' :: 'u' :: 'l' :: 'l' :: rest => some (.null, rest)
    | '-' :: rest => number? true rest
    | rest => number? false rest

/-- The items of an array up to its closing bracket; `read` holds those so far, reversed. -/
def items? : Nat → List Json → List Char → Option (Json × List Char)
  | 0, _, _ => none
  | fuel + 1, read, cs =>
    (value? fuel cs).bind fun (item, rest) =>
      match skip rest with
      | ',' :: rest => items? fuel (item :: read) rest
      | ']' :: rest => some (.array (item :: read).reverse, rest)
      | _ => none

/-- The members of an object up to its closing brace. -/
def members? : Nat → List (String × Json) → List Char → Option (Json × List Char)
  | 0, _, _ => none
  | fuel + 1, read, cs =>
    match skip cs with
    | '"' :: rest =>
      (characters? [] rest (rest.length + 1)).bind fun (key, rest) =>
        match skip rest with
        | ':' :: rest =>
          (value? fuel rest).bind fun (item, rest) =>
            match skip rest with
            | ',' :: rest => members? fuel (setMember key item read) rest
            | '\x7d' :: rest => some (.object (setMember key item read), rest)
            | _ => none
        | _ => none
    | _ => none

end

end Sluice.Json.Reader

namespace Sluice.Json

/-- Reads a text that holds one JSON value. -/
def read? (text : String) : Option Json :=
  let cs := text.toList
  match Reader.value? (cs.length + 1) cs with
  | some (j, rest) => if (Reader.skip rest).isEmpty then some j else none
  | none => none

end Sluice.Json
