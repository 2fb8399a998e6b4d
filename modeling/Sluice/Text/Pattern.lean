import Sluice.Text.Blank
import Sluice.Text.Digit
import Sluice.Text.Word

/-!
# Regular patterns

A schema can demand that a text contains something of a certain form. The form is a regular
pattern: characters and classes of characters one after another (`Pattern.seq`), alternatives,
repetitions, and conditions on the place between two characters (`Place`). Whether a text contains
a match does not depend on the order in which alternatives and repetitions are tried, so the
meaning of a pattern is given by the set of positions at which a match can end (`Pattern.ends`).

The written form is the usual one. Groups can be nested and named, and be conditions on what
follows; what depends on the text of an earlier group, or on what lies behind, is not known here.
-/

set_option autoImplicit false

namespace Sluice.Text

/-! ## 1. Classes of characters -/

/-- The characters that a letter behind a backslash stands for. -/
inductive CharKind where
  | digit | blank | word
  deriving DecidableEq, Repr

namespace CharKind

def has : CharKind → Char → Bool
  | .digit, c => (digitValue? c).isSome
  | .blank, c => isBlank c
  | .word, c => isWordChar c

end CharKind

/-- A part of a class. -/
inductive ClassItem where
  | range (first last : Nat)
  | kind (k : CharKind) (negated : Bool)
  deriving DecidableEq, Repr

namespace ClassItem

def has : ClassItem → Char → Bool
  | .range first last, c => first ≤ c.toNat && c.toNat ≤ last
  | .kind k negated, c => k.has c != negated

def single (c : Char) : ClassItem := .range c.toNat c.toNat

end ClassItem

structure CharClass where
  items : List ClassItem
  negated : Bool
  deriving DecidableEq, Repr

namespace CharClass

def has (k : CharClass) (c : Char) : Bool := k.items.any (·.has c) != k.negated

def single (c : Char) : CharClass := ⟨[.single c], false⟩

/-- Every character but a line break. -/
def dot : CharClass := ⟨[.single '\n'], true⟩

end CharClass

/-! ## 2. Patterns and what they match -/

/-- A condition on a place between two characters. -/
inductive Place where
  | start
  | finish
  /-- The end, or before a line break that is the last character. -/
  | lastLine
  /-- Between a character of a word and one that is none, or not so. -/
  | wordEdge (wanted : Bool)
  deriving DecidableEq, Repr

namespace Place

def holds (p : Place) (text : Array Char) (i : Nat) : Bool :=
  let isWordAt := fun k : Nat => (text[k]?).any isWordChar
  match p with
  | .start => i = 0
  | .finish => i = text.size
  | .lastLine => i = text.size || (i + 1 = text.size && text[i]? == some '\n')
  | .wordEdge wanted => ((i != 0 && isWordAt (i - 1)) != isWordAt i) == wanted

end Place

inductive Pattern where
  | empty
  | char (k : CharClass)
  | place (p : Place)
  | seq (first second : Pattern)
  | either (first second : Pattern)
  /-- At least `least` times, and at most `most` times if that is given. -/
  | times (p : Pattern) (least : Nat) (most : Option Nat)
  /-- Something matches from here on, or nothing does. -/
  | ahead (p : Pattern) (wanted : Bool)
  deriving DecidableEq, Repr

namespace Pattern

/-- Takes a step from all positions. -/
def stepAll (step : Nat → List Nat) (positions : List Nat) : List Nat :=
  (positions.flatMap step).eraseDups

/-- Takes exactly `n` steps. -/
def exactly (step : Nat → List Nat) : Nat → List Nat → List Nat
  | 0, positions => positions
  | n + 1, positions => exactly step n (stepAll step positions)

/-- Takes up to `n` steps. -/
def upTo (step : Nat → List Nat) : Nat → List Nat → List Nat
  | 0, positions => positions
  | n + 1, positions => (positions ++ upTo step n (stepAll step positions)).eraseDups

/-- The positions at which a match that starts at a position can end. More repetitions than the
text has characters reach nothing new. -/
def ends : Pattern → Array Char → Nat → List Nat
  | .empty, _, i => [i]
  | .char k, text, i => if (text[i]?).any k.has then [i + 1] else []
  | .place p, text, i => if p.holds text i then [i] else []
  | .seq p q, text, i => stepAll (fun j => ends q text j) (ends p text i)
  | .either p q, text, i => ends p text i ++ ends q text i
  | .times p least most, text, i =>
    let step := fun j => ends p text j
    let further := most.elim (text.size + 1) fun m => min (m - least) (text.size + 1)
    upTo step further (exactly step least [i])
  | .ahead p wanted, text, i => if (ends p text i).isEmpty != wanted then [i] else []

/-- Whether a text contains a match. -/
def matchesIn (p : Pattern) (s : String) : Bool :=
  let text := s.toList.toArray
  (List.range (text.size + 1)).any fun i => !(p.ends text i).isEmpty

/-! ## 3. Reading patterns -/

/-- A number of `n` hexadecimal digits, and what is left. -/
def hex? (n : Nat) (cs : List Char) : Option (Nat × List Char) :=
  let value? := fun c : Char =>
    if c.isDigit then some (c.toNat - 48)
    else if 'a' ≤ c && c ≤ 'f' then some (c.toNat - 87)
    else if 'A' ≤ c && c ≤ 'F' then some (c.toNat - 55)
    else none
  if cs.length < n then none
  else do
    let ds ← (cs.take n).mapM value?
    some (ds.foldl (fun acc d => 16 * acc + d) 0, cs.drop n)

/-- What a letter behind a backslash stands for, inside and outside of brackets. -/
def kindOf? : Char → Option ClassItem
  | 'd' => some (.kind .digit false)
  | 'D' => some (.kind .digit true)
  | 's' => some (.kind .blank false)
  | 'S' => some (.kind .blank true)
  | 'w' => some (.kind .word false)
  | 'W' => some (.kind .word true)
  | _ => none

/-- The character that is written behind a backslash. A letter or a digit without a meaning is an
error. -/
def escaped? : List Char → Option (Char × List Char)
  | 'n' :: rest => some ('\n', rest)
  | 't' :: rest => some ('\t', rest)
  | 'r' :: rest => some ('\r', rest)
  | 'f' :: rest => some ('\x0c', rest)
  | 'v' :: rest => some ('\x0b', rest)
  | 'a' :: rest => some ('\x07', rest)
  | '0' :: rest => some (Char.ofNat 0, rest)
  | 'x' :: rest => (hex? 2 rest).map fun (n, rest) => (Char.ofNat n, rest)
  | 'u' :: rest => (hex? 4 rest).map fun (n, rest) => (Char.ofNat n, rest)
  | 'U' :: rest => (hex? 8 rest).map fun (n, rest) => (Char.ofNat n, rest)
  | c :: rest => if c.isAlphanum then none else some (c, rest)
  | [] => none

/-- One member of a class between brackets. -/
def classItem? : List Char → Option (ClassItem × List Char)
  | '\\' :: 'b' :: rest => some (.single '\x08', rest)
  | '\\' :: c :: rest =>
    match kindOf? c with
    | some item => some (item, rest)
    | none => (escaped? (c :: rest)).map fun (c, rest) => (.single c, rest)
  | '\\' :: [] => none
  | c :: rest => some (.single c, rest)
  | [] => none

/-- The members of a class up to its closing bracket, which may stand for itself in front. -/
def classItems? (isFirst : Bool) (cs : List Char) : Nat → Option (List ClassItem × List Char)
  | 0 => none
  | fuel + 1 =>
    match cs, isFirst with
    | ']' :: rest, false => some ([], rest)
    | _, _ => do
      let (item, rest) ← classItem? cs
      match rest with
      | '-' :: ']' :: rest' => some ([item, .single '-'], rest')
      | '-' :: rest' =>
        let (last, rest') ← classItem? rest'
        match item, last with
        | .range a _, .range b _ =>
          if b < a then none
          else do
            let (items, rest') ← classItems? false rest' fuel
            some (.range a b :: items, rest')
        | _, _ => none
      | _ => do
        let (items, rest) ← classItems? false rest fuel
        some (item :: items, rest)

/-- A class behind its opening bracket. -/
def class? (cs : List Char) : Option (CharClass × List Char) :=
  match cs with
  | '^' :: rest =>
    (classItems? true rest (rest.length + 1)).map fun (items, rest) => (⟨items, true⟩, rest)
  | _ => (classItems? true cs (cs.length + 1)).map fun (items, rest) => (⟨items, false⟩, rest)

/-- The bounds of a repetition between braces, if it is one. -/
def bounds? (cs : List Char) : Option (Option Nat × Option Nat × List Char) :=
  let number := fun ds : List Char =>
    if ds.isEmpty then none else some (ds.foldl (fun n c => 10 * n + (c.toNat - 48)) 0)
  let least := cs.takeWhile Char.isDigit
  match cs.dropWhile Char.isDigit with
  | '\x7d' :: rest => if least.isEmpty then none else some (number least, number least, rest)
  | ',' :: rest =>
    match rest.dropWhile Char.isDigit with
    | '\x7d' :: rest' => some (number least, number (rest.takeWhile Char.isDigit), rest')
    | _ => none
  | _ => none

/-- A repetition behind what it repeats: its bounds and what is left. -/
def repetition? : List Char → Option (Nat × Option Nat × List Char)
  | '*' :: rest => some (0, none, rest)
  | '+' :: rest => some (1, none, rest)
  | '?' :: rest => some (0, some 1, rest)
  | '\x7b' :: rest => (bounds? rest).map fun (least, most, rest) => (least.getD 0, most, rest)
  | _ => none

/-- A repetition may be marked as reluctant, which does not change whether there is a match. -/
def skipReluctant : List Char → List Char
  | '?' :: rest => rest
  | cs => cs

/-- Applies the repetition that follows, if one does. A place cannot be repeated, and neither can
a repetition. -/
def repeated? (p : Pattern) (cs : List Char) : Option (Pattern × List Char) :=
  match repetition? cs with
  | none => some (p, cs)
  | some (least, most, rest) =>
    let isPlace := match p with
      | .place _ => true
      | _ => false
    let rest := skipReluctant rest
    if isPlace || most.any (· < least) || (repetition? rest).isSome then none
    else some (.times p least most, rest)

/-- What opens a group: how the pattern inside is used, and what is left. -/
def group? (cs : List Char) : Option ((Pattern → Pattern) × List Char) :=
  match cs with
  | '?' :: ':' :: rest => some (id, rest)
  | '?' :: '=' :: rest => some ((.ahead · true), rest)
  | '?' :: '!' :: rest => some ((.ahead · false), rest)
  | '?' :: 'P' :: '<' :: rest =>
    let name := rest.takeWhile isWordChar
    match rest.dropWhile isWordChar with
    | '>' :: rest' => if name.isEmpty || name.head?.any Char.isDigit then none else some (id, rest')
    | _ => none
  | '?' :: _ => none
  | _ => some (id, cs)

mutual

/-- Alternatives, up to a closing parenthesis or the end. -/
def alternatives? : Nat → List Char → Option (Pattern × List Char)
  | 0, _ => none
  | fuel + 1, cs => do
    let (p, rest) ← sequence? fuel cs
    match rest with
    | '|' :: rest' => do
      let (q, rest') ← alternatives? fuel rest'
      some (.either p q, rest')
    | _ => some (p, rest)

/-- Pieces one after another. -/
def sequence? : Nat → List Char → Option (Pattern × List Char)
  | 0, _ => none
  | fuel + 1, cs =>
    match cs with
    | [] => some (.empty, [])
    | ')' :: rest => some (.empty, ')' :: rest)
    | '|' :: rest => some (.empty, '|' :: rest)
    | _ => do
      let (p, rest) ← piece? fuel cs
      let (p, rest) ← repeated? p rest
      let (q, rest) ← sequence? fuel rest
      some (.seq p q, rest)

/-- A piece without its repetition. -/
def piece? : Nat → List Char → Option (Pattern × List Char)
  | 0, _ => none
  | fuel + 1, cs =>
    match cs with
    | [] => none
    | '(' :: rest => do
      let (use, rest) ← group? rest
      let (p, rest) ← alternatives? fuel rest
      match rest with
      | ')' :: rest' => some (use p, rest')
      | _ => none
    | '[' :: rest => (class? rest).map fun (k, rest) => (.char k, rest)
    | '.' :: rest => some (.char .dot, rest)
    | '^' :: rest => some (.place .start, rest)
    | '$' :: rest => some (.place .lastLine, rest)
    | '\\' :: 'A' :: rest => some (.place .start, rest)
    | '\\' :: 'Z' :: rest => some (.place .finish, rest)
    | '\\' :: 'b' :: rest => some (.place (.wordEdge true), rest)
    | '\\' :: 'B' :: rest => some (.place (.wordEdge false), rest)
    | '\\' :: c :: rest =>
      match kindOf? c with
      | some item => some (.char ⟨[item], false⟩, rest)
      | none => (escaped? (c :: rest)).map fun (c, rest) => (.char (.single c), rest)
    | '\\' :: [] => none
    | c :: rest => if (repetition? cs).isSome then none else some (.char (.single c), rest)

end

/-- Reads a pattern. -/
def read? (s : String) : Option Pattern :=
  let cs := s.toList
  match alternatives? (3 * cs.length + 3) cs with
  | some (p, []) => some p
  | _ => none

end Pattern

end Sluice.Text
