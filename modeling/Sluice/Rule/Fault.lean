/-!
# Faults in rules

A line that cannot be added to its rule is reported as a `Fault`. A fault says what is wrong,
perhaps which token shows it, and where: in which rule and in which line. The place is usually
known only to the caller of the code that finds the fault, and is filled in on the way up; what
is filled in once stays.
-/

set_option autoImplicit false

namespace Sluice

inductive FaultCause where
  /-- A clause stands where none of its kind may stand. -/
  | sequence
  | tooFewItems
  | keyword
  /-- An id that no object has. -/
  | unresolved
  /-- An id whose object is not of the type that is asked for. -/
  | wrongObject
  | number
  | dateTime
  | duplicate
  | incomplete
  | operands
  deriving DecidableEq, Repr

namespace FaultCause

def all : List FaultCause :=
  [.sequence, .tooFewItems, .keyword, .unresolved, .wrongObject, .number, .dateTime, .duplicate,
    .incomplete, .operands]

/-- The code under which a cause is reported. Both ways in which an id can fail share one. -/
def code : FaultCause → String
  | .sequence => "RULE"
  | .tooFewItems => "ITEMS"
  | .keyword => "KEYWORD"
  | .unresolved => "NAME"
  | .wrongObject => "NAME"
  | .number => "NUMBER"
  | .dateTime => "DATETIME"
  | .duplicate => "DUPLICATE"
  | .incomplete => "INCOMPLETE"
  | .operands => "OPERANDS"

def text : FaultCause → String
  | .sequence => "invalid rule clause sequence"
  | .tooFewItems => "too few items"
  | .keyword => "invalid keyword"
  | .unresolved => "undefined object"
  | .wrongObject => "undefined object"
  | .number => "invalid number"
  | .dateTime => "invalid date/time"
  | .duplicate => "duplicate rule id"
  | .incomplete => "rule has no actions"
  | .operands => "mismatched premise operands"

end FaultCause

structure Fault where
  cause : FaultCause
  token : Option String
  line : Option Int
  ruleId : Option String
  deriving DecidableEq, Repr

namespace Fault

/-- A fault that does not show in a token. -/
def plain (cause : FaultCause) : Fault := ⟨cause, none, none, none⟩

/-- A fault that shows in a token. -/
def atToken (cause : FaultCause) (token : String) : Fault := ⟨cause, some token, none, none⟩

/-- Fills in the place as far as it is not known yet. -/
def tag (f : Fault) (line : Option Int) (ruleId : Option String) : Fault :=
  { f with line := f.line.or line, ruleId := f.ruleId.or ruleId }

/-- What is wrong, in which token, in which rule and in which line; an empty token is not
shown. -/
def message (f : Fault) : String :=
  let token := (f.token.filter (· != "")).map fun t => " '" ++ t ++ "'"
  let rule := f.ruleId.map fun id => " in rule '" ++ id ++ "'"
  let line := f.line.map fun n => " at line " ++ toString n
  f.cause.text ++ token.getD "" ++ rule.getD "" ++ line.getD ""

end Fault

end Sluice
