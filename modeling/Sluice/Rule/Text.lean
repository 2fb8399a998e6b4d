import Sluice.Log.Entry
import Sluice.Rule.Builder
import Sluice.Rule.Section

/-!
# Building rules from a text

A text of rules is built line by line, and building is then finished. Faults are *collected*:
each is logged and the lines after it are still added, so that one run shows all mistakes of a
file. In *strict* mode the first fault ends the building instead.

Two things end it in either mode, because they are no faults of a rule: a line that cannot be
cut into tokens, and a number too large to be represented. What was built before them stays.
-/

set_option autoImplicit false

namespace Sluice

/-- Why building from a text was given up. -/
inductive BuildFailure where
  /-- A fault, in strict mode. -/
  | fault (f : Fault)
  /-- A line that cannot be cut into tokens. -/
  | unreadable
  /-- A number too large to be represented. -/
  | tooLarge
  deriving DecidableEq, Repr

/-- A building in progress: what is built, what was logged, and the faults so far. -/
structure Building (α : Type) where
  builder : Builder α
  log : List LogEntry
  faults : List Fault
  deriving Repr

namespace Building

def warn (text : String) : LogEntry := ⟨.warning, text⟩

/-- How a collected fault is logged. -/
def faultEntry (f : Fault) : LogEntry := warn ("Control rule error: " ++ f.message)

variable {α : Type} [Scalar α] [TimeReader α]

/-- Collects a fault, or gives up because of it. -/
def meet (strict : Bool) (p : Building α) (f : Fault) : Building α × Option BuildFailure :=
  if strict then (p, some (.fault f))
  else ({ p with log := p.log ++ [faultEntry f], faults := p.faults ++ [f] }, none)

/-- Takes over what a line did. -/
def take (strict : Bool) (p : Building α) (a : Added α) : Building α × Option BuildFailure :=
  let p := { p with builder := a.builder, log := p.log ++ a.warnings.map warn }
  match a.error with
  | none => (p, none)
  | some .tooLarge => (p, some .tooLarge)
  | some (.fault f) => p.meet strict f

/-- Adds the remaining lines, and finishes. -/
def run (n : Network α) (strict : Bool) (p : Building α) :
    List (Nat × String) → Building α × Option BuildFailure
  | [] =>
    let (builder, missing) := p.builder.finish
    let p := { p with builder := builder }
    match missing with
    | none => (p, none)
    | some f => p.meet strict f
  | (number, line) :: rest =>
    match Token.read? line with
    | none => (p, some .unreadable)
    | some tokens =>
      match p.take strict (p.builder.addLine n tokens (some number)) with
      | (p, none) => run n strict p rest
      | (p, some e) => (p, some e)

end Building

/-- Builds the rules of a text, given by its lines, on top of what is built already. -/
def Builder.addText {α : Type} [Scalar α] [TimeReader α] (n : Network α) (b : Builder α)
    (strict : Bool) (lines : List String) : Building α × Option BuildFailure :=
  (⟨b, [], []⟩ : Building α).run n strict (Section.ruleLines lines)

end Sluice
