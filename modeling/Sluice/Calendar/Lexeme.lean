import Sluice.Text.Blank
import Sluice.Text.Digit

/-!
# The pieces of a written date

A date is written as numbers, words and marks. Cutting it into these pieces needs no knowledge
of what they mean, with one exception: a dot may belong to a number (`15.5` seconds), separate
numbers (`01.15.2020`) or end a word. A run of letters or digits therefore reads on through
dots, and is cut at them afterwards unless it turns out to be one number with one dot. A comma
is read on with a number of at least two digits in the same way.
-/

set_option autoImplicit false

namespace Sluice

/-- A piece of a written date. -/
inductive Lexeme where
  /-- Digits, and the digits behind a decimal point if there is one. -/
  | number (whole : List Char) (fraction : Option (List Char))
  /-- Letters, as written. -/
  | word (letters : List Char)
  /-- A blank, as `' '`, or any other single character. -/
  | mark (c : Char)
  deriving DecidableEq, Repr

namespace Lexeme

open Text

/-- What a run of characters has consisted of so far. -/
inductive Run where
  | letters
  | digits
  | dottedLetters
  | dottedDigits
  deriving DecidableEq, Repr

private def isNumeral (c : Char) : Bool := isDigit c

/-- Letters, and every character beyond ASCII that is neither a digit nor a blank. -/
private def isLetter (c : Char) : Bool :=
  c.isAlpha || (128 ≤ c.toNat && !(isDigit c) && !(isBlank c))

/-- The run after one more character, or nothing when the character does not belong to it.
`read` holds what the run has read, the latest character first. -/
def Run.step (run : Run) (read : List Char) (c : Char) : Option Run :=
  let afterDot := read.head? == some '.'
  match run with
  | .letters =>
    if isLetter c then some .letters else if c == '.' then some .dottedLetters else none
  | .digits =>
    if isNumeral c then some .digits
    else if c == '.' || (c == ',' && 2 ≤ read.length) then some .dottedDigits
    else none
  | .dottedLetters =>
    if c == '.' || isLetter c then some .dottedLetters
    else if isNumeral c && afterDot then some .dottedDigits
    else none
  | .dottedDigits =>
    if c == '.' || isNumeral c then some .dottedDigits
    else if isLetter c && afterDot then some .dottedLetters
    else none

/-- Reads a run to its end: how it ended, what it read, and what is left. -/
def readRun (run : Run) (read : List Char) : List Char → Run × List Char × List Char
  | [] => (run, read.reverse, [])
  | c :: rest =>
    match run.step read c with
    | some next => readRun next (c :: read) rest
    | none => (run, read.reverse, c :: rest)

theorem readRun_rest_length (run : Run) (read cs : List Char) :
    (readRun run read cs).2.2.length ≤ cs.length := by
  induction cs generalizing run read with
  | nil => simp [readRun]
  | cons c rest ih =>
    unfold readRun
    split
    · exact Nat.le_trans (ih _ _) (Nat.le_succ _)
    · exact Nat.le_refl _

/-- A run without dots or commas. -/
def ofPlain (cs : List Char) : Lexeme :=
  if cs.all isNumeral then .number cs none else .word cs

/-- Cuts at dots and commas, which become marks of their own. `piece` is the current piece,
reversed. -/
def cut (piece : List Char) : List Char → List Lexeme
  | [] => if piece.isEmpty then [] else [ofPlain piece.reverse]
  | c :: rest =>
    if c == '.' || c == ',' then
      (if piece.isEmpty then [] else [ofPlain piece.reverse]) ++ .mark c :: cut [] rest
    else cut (c :: piece) rest

/-- The pieces of a finished run. One number with one dot or one comma inside stays whole; with
both it is no number, and nothing that a date could contain. -/
def ofRun (run : Run) (cs : List Char) : List Lexeme :=
  match run with
  | .letters | .digits => [ofPlain cs]
  | .dottedLetters => cut [] cs
  | .dottedDigits =>
    let point := fun c => c == '.' || c == ','
    if !(cs.all fun c => isNumeral c || point c) || 1 < cs.count '.'
        || (cs.getLast?.map point).getD false then
      cut [] cs
    else if 1 < (cs.filter point).length then [.word cs]
    else
      [.number (cs.takeWhile fun c => !(point c))
        (some ((cs.dropWhile fun c => !(point c)).drop 1))]

/-- Cuts a text into its pieces. Null characters are left out. -/
def scan (cs : List Char) : List Lexeme :=
  match cs with
  | [] => []
  | c :: rest =>
    if c.toNat = 0 then scan rest
    else if isLetter c then
      ofRun (readRun .letters [c] rest).1 (readRun .letters [c] rest).2.1
        ++ scan (readRun .letters [c] rest).2.2
    else if isNumeral c then
      ofRun (readRun .digits [c] rest).1 (readRun .digits [c] rest).2.1
        ++ scan (readRun .digits [c] rest).2.2
    else .mark (if isBlank c then ' ' else c) :: scan rest
termination_by cs.length
decreasing_by
  · exact Nat.lt_succ_self _
  · exact Nat.lt_succ_of_le (readRun_rest_length _ _ _)
  · exact Nat.lt_succ_of_le (readRun_rest_length _ _ _)
  · exact Nat.lt_succ_self _

end Lexeme

end Sluice
