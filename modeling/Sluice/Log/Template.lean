import Sluice.Log.Entry
import Sluice.Number.Numeral
import Sluice.Text.Quoted
import Sluice.Text.Word

/-!
# Templates for log lines

How a log entry is written is itself a text, the *template*: literal text with fields between
braces. A brace is written twice to stand for itself. A field names what is filled in, perhaps
only a part of it, and may say, after an exclamation mark, that it is quoted and, after a colon,
how it is laid out:

    [[fill] align] [sign] [#] [0] [width] [, or _] [. precision] [kind]

A text is cut off at the precision and then filled up to the width, on its right if it is aligned
with `<`, on its left with `>`, and on both sides with `^`. A number, the rank of the level, is
aligned to the right. Width and precision may be fields themselves. A layout can be well formed
and yet be made for other values than the one that it is given; such an entry cannot be shown.
Nor can it be where a line break ends the name or the layout of a field.
-/

set_option autoImplicit false

namespace Sluice

/-! ## 1. Layout of a field -/

inductive Align where
  | left | right | center
  /-- Between a sign and its digits, for numbers only. -/
  | inside
  deriving DecidableEq, Repr

namespace Align

def find? : Char → Option Align
  | '<' => some .left
  | '>' => some .right
  | '^' => some .center
  | '=' => some .inside
  | _ => none

end Align

/-- A width or a precision. -/
inductive Measure where
  | fixed (n : Nat)
  /-- As many as the field with this name says. -/
  | ofField (name : String)
  deriving DecidableEq, Repr

structure FieldLayout where
  fill : Option Char
  align : Option Align
  sign : Option Char
  alternate : Bool
  zero : Bool
  width : Option Measure
  grouped : Bool
  precision : Option Measure
  kind : Option Char
  deriving DecidableEq, Repr

namespace FieldLayout

/-- An alignment with or without a fill character before it. -/
def splitAlign (cs : List Char) : Option Char × Option Align × List Char :=
  match cs with
  | fill :: c :: rest =>
    match Align.find? c with
    | some a => (some fill, some a, rest)
    | none =>
      match Align.find? fill with
      | some a => (none, some a, c :: rest)
      | none => (none, none, cs)
  | [c] =>
    match Align.find? c with
    | some a => (none, some a, [])
    | none => (none, none, cs)
  | [] => (none, none, [])

/-- Takes one character of a class off the front, if it stands there. -/
def splitOne (p : Char → Bool) : List Char → Option Char × List Char
  | c :: rest => if p c then (some c, rest) else (none, c :: rest)
  | [] => (none, [])

/-- A run of digits or the name of a field between braces, if one stands at the front. -/
def splitMeasure (cs : List Char) : Option Measure × List Char :=
  match cs with
  | '\x7b' :: rest =>
    let name := rest.takeWhile Text.isWordChar
    match rest.dropWhile Text.isWordChar with
    | '\x7d' :: rest' =>
      if name.isEmpty then (none, cs) else (some (.ofField (String.ofList name)), rest')
    | _ => (none, cs)
  | _ =>
    let ds := cs.takeWhile Char.isDigit
    if ds.isEmpty then (none, cs)
    else (some (.fixed (Numeral.natOf ds)), cs.dropWhile Char.isDigit)

/-- A precision, which a point introduces. -/
def splitPrecision : List Char → Option (Option Measure × List Char)
  | '.' :: rest =>
    match splitMeasure rest with
    | (some m, rest') => some (some m, rest')
    | (none, _) => none
  | rest => some (none, rest)

/-- The letters that can end a layout. -/
def kinds : List Char := "bcdefgnosx%".toList

/-- Reads a layout. -/
def read? (cs : List Char) : Option FieldLayout := do
  let (fill, align, cs) := splitAlign cs
  let (sign, cs) := splitOne (fun c => c == '+' || c == ' ' || c == '-') cs
  let (alternate, cs) := splitOne (· == '#') cs
  let (zero, cs) := splitOne (· == '0') cs
  let (width, cs) := splitMeasure cs
  let (grouped, cs) := splitOne (fun c => c == ',' || c == '_') cs
  let (precision, cs) ← splitPrecision cs
  let (kind, cs) := splitOne (fun c => kinds.contains c.toLower) cs
  let layout := fun kind : Option Char =>
    FieldLayout.mk fill align sign alternate.isSome zero.isSome width grouped.isSome precision kind
  if cs.isEmpty then some (layout kind)
  else if cs == ['\n'] then some (layout (some '\n'))
  else none

/-- The character that fills up. -/
def filler (l : FieldLayout) : Char := l.fill.getD (if l.zero then '0' else ' ')

/-- Fills characters up to a width; `lead` of them stay in front when the filling goes inside. -/
def fillUp (l : FieldLayout) (align : Align) (width lead : Nat) (cs : List Char) : String :=
  let missing := width - cs.length
  let pad := fun n => List.replicate n l.filler
  String.ofList <|
    match align with
    | .left => cs ++ pad missing
    | .right => pad missing ++ cs
    | .center => pad (missing / 2) ++ cs ++ pad (missing - missing / 2)
    | .inside => cs.take lead ++ pad missing ++ cs.drop lead

/-- Lays out a text, if the layout is made for texts. -/
def text? (l : FieldLayout) (width : Nat) (precision : Option Nat) (s : String) : Option String :=
  let align := l.align.getD .left
  if l.sign.isNone && !l.alternate && !l.grouped && align ≠ .inside
      && (l.kind.isNone || l.kind == some 's') then
    some (l.fillUp align width 0 (precision.elim s.toList s.toList.take))
  else none

/-- Lays out a number below one thousand, if the layout is made for whole decimal numbers and
does not fill up with grouped zeros. -/
def number? (l : FieldLayout) (width : Nat) (n : Nat) : Option String :=
  let align := l.align.getD (if l.zero && l.fill.isNone then .inside else .right)
  let sign := match l.sign with
    | some '+' => ['+']
    | some ' ' => [' ']
    | _ => []
  if l.precision.isNone && (l.kind.isNone || l.kind == some 'd' || l.kind == some 'n')
      && !(l.grouped && (l.kind == some 'n' || (align = .inside && l.filler == '0'))) then
    some (l.fillUp align width sign.length (sign ++ Nat.toDigits 10 n))
  else none

end FieldLayout

/-! ## 2. Fields -/

/-- A way from a value to a part of it. -/
inductive FieldPart where
  /-- A named part, which neither a text nor a number has. -/
  | member (name : List Char)
  /-- What stands at an index, or under a key. -/
  | item (key : List Char)
  deriving DecidableEq, Repr

/-- How a value is brought to a text before it is laid out. -/
inductive Quoting where
  | asText | quoted | quotedAscii
  deriving DecidableEq, Repr

structure TemplateField where
  name : String
  parts : List FieldPart
  quoting : Option Quoting
  layout : FieldLayout
  deriving DecidableEq, Repr

inductive TemplatePiece where
  | literal (s : String)
  | field (f : TemplateField)
  deriving DecidableEq, Repr

structure Template where
  pieces : List TemplatePiece
  deriving DecidableEq, Repr

namespace Template

/-! ## 3. Cutting at braces -/

/-- A piece of a template before its fields are understood. -/
inductive RawPiece where
  | literal (cs : List Char)
  | field (name : List Char) (conversion : Option Char) (layout : List Char)
  deriving DecidableEq, Repr

/-- Where the reader of a template stands; what it has read of a piece is reversed. -/
inductive Place where
  | literal (read : List Char)
  /-- Behind an opening brace of a literal. -/
  | opened (read : List Char)
  /-- Behind a closing brace of a literal. -/
  | closed (read : List Char)
  | name (read : List Char)
  /-- Between the brackets of a name, where no character but the closing bracket counts. -/
  | bracket (read : List Char)
  /-- Behind the exclamation mark. -/
  | marked (name : List Char)
  | converted (name : List Char) (conversion : Char)
  /-- In the layout, in which braces may stand in pairs. -/
  | layout (name : List Char) (conversion : Option Char) (read : List Char) (depth : Nat)
  deriving DecidableEq, Repr

/-- One character of the name of a field: the pieces it completes, and the new place. -/
def stepName (read : List Char) (c : Char) : Option (List RawPiece × Place) :=
  if c == '\x7b' then none
  else if c == '\x7d' then some ([.field read.reverse none []], .literal [])
  else if c == '[' then some ([], .bracket (c :: read))
  else if c == ':' then some ([], .layout read.reverse none [] 1)
  else if c == '!' then some ([], .marked read.reverse)
  else some ([], .name (c :: read))

/-- One character: the pieces it completes, and the new place. -/
def step (place : Place) (c : Char) : Option (List RawPiece × Place) :=
  match place with
  | .literal read =>
    if c == '\x7b' then some ([], .opened read)
    else if c == '\x7d' then some ([], .closed read)
    else some ([], .literal (c :: read))
  | .opened read =>
    if c == '\x7b' then some ([], .literal (c :: read))
    else (stepName [] c).map fun (done, place) => (.literal read.reverse :: done, place)
  | .closed read => if c == '\x7d' then some ([], .literal (c :: read)) else none
  | .name read => stepName read c
  | .bracket read =>
    if c == ']' then some ([], .name (c :: read)) else some ([], .bracket (c :: read))
  | .marked name => some ([], .converted name c)
  | .converted name conversion =>
    if c == '\x7d' then some ([.field name (some conversion) []], .literal [])
    else if c == ':' then some ([], .layout name (some conversion) [] 1)
    else none
  | .layout name conversion read depth =>
    if c == '\x7b' then some ([], .layout name conversion (c :: read) (depth + 1))
    else if c == '\x7d' then
      if depth ≤ 1 then some ([.field name conversion read.reverse], .literal [])
      else some ([], .layout name conversion (c :: read) (depth - 1))
    else some ([], .layout name conversion (c :: read) depth)

/-- Cuts a template into literal text and fields; every brace needs its partner. -/
def cut (place : Place) : List Char → Option (List RawPiece)
  | [] =>
    match place with
    | .literal read => some [.literal read.reverse]
    | _ => none
  | c :: rest => do
    let (done, place) ← step place c
    some (done ++ (← cut place rest))

/-! ## 4. Understanding fields -/

/-- The ways behind a name: words after points, and keys between brackets. There are at most as
many as characters. -/
def parts? (cs : List Char) : Nat → Option (List FieldPart)
  | 0 => if cs.isEmpty then some [] else none
  | fuel + 1 =>
    match cs with
    | [] => some []
    | ['\n'] => some [.member ['\n']]
    | '.' :: rest =>
      let word := rest.takeWhile Text.isWordChar
      if word.isEmpty then none
      else (parts? (rest.dropWhile Text.isWordChar) fuel).map (.member word :: ·)
    | '[' :: rest =>
      let key := rest.takeWhile (· != ']')
      match rest.dropWhile (· != ']') with
      | ']' :: rest' => if key.isEmpty then none else (parts? rest' fuel).map (.item key :: ·)
      | _ => none
    | _ => none

/-- What a field names. It may name nothing, but then nothing follows. -/
def path? (cs : List Char) : Option (String × List FieldPart) :=
  if cs.isEmpty then some ("", [])
  else
    let name := cs.takeWhile Text.isWordChar
    if name.isEmpty then none
    else
      (parts? (cs.dropWhile Text.isWordChar) cs.length).map fun parts =>
        (String.ofList name, parts)

def quoting? : Char → Option Quoting
  | 's' => some .asText
  | 'r' => some .quoted
  | 'a' => some .quotedAscii
  | _ => none

def piece? : RawPiece → Option TemplatePiece
  | .literal cs => some (.literal (String.ofList cs))
  | .field name conversion layout => do
    let (name, parts) ← path? name
    let quoting ← match conversion with
      | none => some none
      | some c => (quoting? c).map some
    some (.field ⟨name, parts, quoting, ← FieldLayout.read? layout⟩)

def isNamed : TemplatePiece → Bool
  | .field f => f.name != ""
  | .literal _ => false

/-- Reads a template. It needs at least one field that names something; a template without any
text stands for the message alone. -/
def read? (s : String) : Option Template := do
  let written := if s == "" then "\x7bmessage\x7d" else s
  let pieces ← (← cut (.literal []) written.toList).mapM piece?
  if pieces.any isNamed then some ⟨pieces⟩ else none

/-! ## 5. Filling in -/

/-- What a field can stand for. -/
inductive FieldValue where
  | text (s : String)
  | number (n : Nat)
  deriving DecidableEq, Repr

/-- What the fields of an entry of a log with a name stand for. -/
def value? (logName : String) (e : LogEntry) (field : String) : Option FieldValue :=
  [("levelname", FieldValue.text e.level.word), ("levelno", .number e.level.rank),
    ("name", .text logName), ("message", .text e.text)].lookup field

/-- A part of a value: a character of a text. -/
def FieldValue.part? (v : FieldValue) (part : FieldPart) : Option FieldValue :=
  match v, part with
  | .text s, .item key => do
    let i ← Text.digitsValue? key
    (s.toList[i]?).map fun c => .text (String.singleton c)
  | _, _ => none

/-- A value as text without a layout. -/
def FieldValue.shown : FieldValue → String
  | .text s => s
  | .number n => String.ofList (Nat.toDigits 10 n)

/-- A value in one of the forms that a field can ask for. -/
def FieldValue.quote (v : FieldValue) : Option Quoting → FieldValue
  | none => v
  | some .asText => .text v.shown
  | some .quoted =>
    match v with
    | .text s => .text (Text.quoted s)
    | .number _ => .text v.shown
  | some .quotedAscii =>
    match v with
    | .text s => .text (Text.quotedAscii s)
    | .number _ => .text v.shown

/-- How much a width or a precision is. -/
def measure? (logName : String) (e : LogEntry) : Measure → Option Nat
  | .fixed n => some n
  | .ofField name => do
    let ds := (← value? logName e name).shown.toList
    if ds.isEmpty || !(ds.all Char.isDigit) then none else some (Numeral.natOf ds)

/-- The text of a piece, unless it cannot be shown. -/
def fill? (logName : String) (e : LogEntry) : TemplatePiece → Option String
  | .literal s => some s
  | .field f => do
    let whole ← value? logName e f.name
    let v ← f.parts.foldlM FieldValue.part? whole
    let width ← match f.layout.width with
      | none => some 0
      | some m => measure? logName e m
    let precision ← match f.layout.precision with
      | none => some none
      | some m => (measure? logName e m).map some
    match v.quote f.quoting with
    | .text s => f.layout.text? width precision s
    | .number n => f.layout.number? width n

/-- An entry as the template writes it, unless a field cannot be shown. -/
def render? (t : Template) (logName : String) (e : LogEntry) : Option String :=
  (t.pieces.mapM (fill? logName e)).map String.join

end Template

end Sluice
