import Sluice.Calendar.TimeLiteral
import Sluice.Network.Dataset
import Sluice.Rule.Action
import Sluice.Rule.Fault
import Sluice.Text.Case

/-!
# Clauses

The tokens of a clause line are a keyword and what belongs to it. This file turns a premise and
an action clause into a `Premise` and an `Action`, with every id resolved against the network:

* a premise is `<keyword> <variable> <relation> <value or variable>`;
* an action is `<keyword> <link type> <id> <attribute> = <setting>`;
* a variable is `<object> <id> <attribute>`, without an id for the simulation.

A clause is read from left to right and the first mistake is the one reported. What can go wrong
is a `Fault`, with one exception: a number in a time literal may be too large to be represented
at all, and that does not belong to the faults of the rule but stops the reading of the file.
-/

set_option autoImplicit false

namespace Sluice

/-- Why a clause is not accepted. -/
inductive ClauseError where
  | fault (f : Fault)
  /-- A number in a time literal is too large to be represented. -/
  | tooLarge
  deriving DecidableEq, Repr

namespace ClauseError

/-- Fills in the place of a fault as far as it is not known yet. -/
def tag (line : Option Int) (ruleId : Option String) : ClauseError → ClauseError
  | .fault f => .fault (f.tag line ruleId)
  | .tooLarge => .tooLarge

end ClauseError

/-- The words that begin a clause. -/
inductive Keyword where
  | rule | first | and | or | thenBranch | elseBranch | priority
  deriving DecidableEq, Repr

namespace Keyword

def word : Keyword → String
  | .rule => "RULE"
  | .first => "IF"
  | .and => "AND"
  | .or => "OR"
  | .thenBranch => "THEN"
  | .elseBranch => "ELSE"
  | .priority => "PRIORITY"

def all : List Keyword := [.rule, .first, .and, .or, .thenBranch, .elseBranch, .priority]

/-- The keyword that a token is, in any case. -/
def find? (token : String) : Option Keyword := all.find? fun k => k.word == Text.upper token

end Keyword

namespace Clause

/-! ## 1. Tokens -/

def fail {β : Type} (cause : FaultCause) (token : String) : Except ClauseError β :=
  .error (.fault (.atToken cause token))

def failPlain {β : Type} (cause : FaultCause) : Except ClauseError β :=
  .error (.fault (.plain cause))

/-- The next token and those after it. -/
def next : List String → Except ClauseError (String × List String)
  | [] => failPlain .tooFewItems
  | t :: rest => .ok (t, rest)

/-- Nothing may be left of a clause. A keyword among what is left belongs to another clause. -/
def finish : List String → Except ClauseError Unit
  | [] => .ok ()
  | t :: _ => fail (if (Keyword.find? t).isSome then .sequence else .tooFewItems) t

/-- The meaning of a token that has to be one of a set of words. -/
def keyword {β : Type} (find? : String → Option β) (token : String) : Except ClauseError β :=
  match find? token with
  | some x => .ok x
  | none => fail .keyword token

variable {α : Type} [Scalar α] [TimeReader α]

/-- A finite number. -/
def number (token : String) : Except ClauseError α :=
  match readFinite? token with
  | some x => .ok x
  | none => fail .number token

/-- The position of the object with an id. -/
def position (n : Network α) (kind : ObjectKind) (id : String) : Except ClauseError Nat :=
  match n.find? kind id with
  | some i => .ok i
  | none => fail .unresolved id

/-! ## 2. Values -/

/-- What a status word says, as a number. -/
def statusWords : List (String × Bool) :=
  [("ON", true), ("OFF", false), ("OPEN", true), ("CLOSED", false)]

/-- The words for a status of a pump. -/
def pumpWords : List (String × Bool) := [("ON", true), ("OFF", false)]

/-- The words for a status of a conduit. -/
def conduitWords : List (String × Bool) := [("OPEN", true), ("CLOSED", false)]

/-- A status as a number: one when on or open, zero otherwise. -/
def statusValue (isOpen : Bool) : α := if isOpen then Scalar.one else Scalar.zero

/-- A status word out of a list, in any case. -/
def status (words : List (String × Bool)) (token : String) : Except ClauseError α :=
  (keyword (fun t => words.lookup (Text.upper t)) token).map statusValue

/-- A time literal; one that is malformed is a fault of the clause. -/
def timeLiteral {β : Type} (token : String) (read : Except TimeLiteralError β) :
    Except ClauseError β :=
  match read with
  | .ok x => .ok x
  | .error .tooLarge => .error .tooLarge
  | .error _ => fail .dateTime token

/-- A whole number from 1 up to a limit. -/
def countedUpTo (limit : Int) (token : String) : Except ClauseError α := do
  let x ← number token
  if Scalar.isWhole x && 1 ≤ Scalar.truncate x && Scalar.truncate x ≤ limit then .ok x
  else fail .dateTime token

/-- The literal that an attribute is compared with, in the unit of the attribute. -/
def value (a : Attribute) (token : String) : Except ClauseError α :=
  match a with
  | .status => status statusWords token
  | .time | .clockTime | .timeOpen | .timeClosed => timeLiteral token (TimeLiteral.hours token)
  | .date => (timeLiteral token (TimeLiteral.dateOrdinal α token)).map Scalar.ofInt
  | .dayOfYear => (timeLiteral token (TimeLiteral.dayOfYear token)).map fun n => Scalar.ofInt n
  | .day => countedUpTo 7 token
  | .month => countedUpTo 12 token
  | _ => number token

/-! ## 3. Premises -/

/-- The kind of object that an object word asks for by id. -/
def idKind? : ObjectType → Option ObjectKind
  | .node => some .node
  | .simulation => none
  | _ => some .link

/-- The position that the tokens give for an object, and the tokens after it. -/
def objectPosition (n : Network α) (object : ObjectType) (tokens : List String) :
    Except ClauseError (Option Nat × List String) :=
  match idKind? object with
  | none => .ok (none, tokens)
  | some kind => do
    let (id, rest) ← next tokens
    return (some (← position n kind id), rest)

/-- A variable, and the tokens after it. -/
def variableAndRest (n : Network α) (tokens : List String) :
    Except ClauseError (Variable × List String) := do
  let (word, rest) ← next tokens
  let object ← keyword ObjectType.find? word
  let (position, rest) ← objectPosition n object rest
  let (name, rest) ← next rest
  let attr ← keyword Attribute.find? name
  if object.hasAttribute attr then .ok (⟨object, position, attr⟩, rest)
  else fail .keyword name

/-- The right hand side of a premise, and the tokens after it. A token that names an object
begins a variable, which has to be of the same category as the left hand side. -/
def operand (n : Network α) (left : Attribute) (tokens : List String) :
    Except ClauseError (Operand α × List String) := do
  let (token, rest) ← next tokens
  if (ObjectType.find? token).isSome then
    let (v, rest) ← variableAndRest n tokens
    if left.category = v.attr.category then .ok (.valueOf v, rest)
    else fail .operands v.attr.word
  else
    return (.number (← value left token), rest)

/-- The least number of tokens of a premise clause. -/
def premiseLength : Nat := 5

/-- A premise, and the tokens after it. -/
def premiseAndRest (n : Network α) (joint : Joint) (tokens : List String) :
    Except ClauseError (Premise α × List String) :=
  if tokens.length < premiseLength then failPlain .tooFewItems
  else do
    let (left, rest) ← variableAndRest n tokens.tail
    let (sign, rest) ← next rest
    let relation ← keyword Relation.find? sign
    let (right, rest) ← operand n left.attr rest
    return (⟨joint, left, relation, right⟩, rest)

/-- The premise of a clause. -/
def premise (n : Network α) (joint : Joint) (tokens : List String) :
    Except ClauseError (Premise α) := do
  let (p, rest) ← premiseAndRest n joint tokens
  finish rest
  return p

/-- What is noteworthy about a premise that is not wrong: it compares two different
attributes. -/
def warning? (p : Premise α) : Option String :=
  match p.right with
  | .number _ => none
  | .valueOf v =>
    if p.left.attr = v.attr then none
    else some ("premise compares " ++ p.left.attr.word ++ " to " ++ v.attr.word)

/-- The warnings that reading a premise clause gives, also one that is refused afterwards because
tokens are left over. -/
def premiseWarnings (n : Network α) (joint : Joint) (tokens : List String) : List String :=
  match premiseAndRest n joint tokens with
  | .ok (p, _) => (warning? p).toList
  | .error _ => []

/-! ## 4. Actions -/

/-- The premise that a modulated setting refers to. -/
def controlling (last : Option (Premise α)) : Except ClauseError (Premise α) :=
  match last with
  | some p => .ok p
  | none => failPlain .sequence

/-- A finite number among the next tokens. -/
def nextNumber (tokens : List String) : Except ClauseError (α × List String) := do
  let (token, rest) ← next tokens
  return (← number token, rest)

/-- A setting that follows a curve. -/
def curveMode (n : Network α) (last : Option (Premise α)) (tokens : List String) :
    Except ClauseError (Mode α × List String) := do
  let (id, rest) ← next tokens
  let i ← position n .curve id
  let p ← controlling last
  return (.curve i p.left, rest)

/-- A setting that follows a time series. -/
def seriesMode (n : Network α) (tokens : List String) :
    Except ClauseError (Mode α × List String) := do
  let (id, rest) ← next tokens
  return (.timeSeries (← position n .timeSeries id), rest)

/-- A setting from a PID controller, whose memory is empty. -/
def pidMode (last : Option (Premise α)) (tokens : List String) :
    Except ClauseError (Mode α × List String) := do
  let (kp, rest) ← nextNumber tokens
  let (ki, rest) ← nextNumber rest
  let (kd, rest) ← nextNumber rest
  let p ← controlling last
  return (.pid ⟨p.left, p.right, kp, ki, kd, Scalar.zero, Scalar.zero⟩, rest)

/-- Whether a fixed setting is one that a link of a type can have. -/
def inRange (type : LinkType) (x : α) : Bool :=
  type == .pump || (decide (Scalar.zero ≤ x) && decide (x ≤ Scalar.one))

/-- The setting of a link that is not a conduit, and the tokens after it. -/
def settingMode (n : Network α) (type : LinkType) (last : Option (Premise α)) (word : String)
    (rest : List String) : Except ClauseError (Mode α × List String) :=
  match Text.upper word with
  | "CURVE" => curveMode n last rest
  | "TIMESERIES" => seriesMode n rest
  | "PID" => pidMode last rest
  | _ => do
    let x ← number word
    if inRange type x then .ok (.fixed x, rest) else fail .number word

/-- What an action writes to an attribute of a link of some type, and the tokens after it. The
status of a pump or a conduit is one of two words, the setting of anything but a conduit may be
modulated, and nothing else can be controlled. -/
def mode (n : Network α) (type : LinkType) (attr : Attribute) (name : String)
    (last : Option (Premise α)) (word : String) (rest : List String) :
    Except ClauseError (Mode α × List String) :=
  match attr, type with
  | .status, .conduit => (status conduitWords word).map fun x => (.fixed x, rest)
  | .status, .pump => (status pumpWords word).map fun x => (.fixed x, rest)
  | .setting, .conduit => fail .keyword name
  | .setting, _ => settingMode n type last word rest
  | _, _ => fail .keyword name

/-- The link type that an object word means in an action. -/
def actionType (word : String) : Except ClauseError LinkType := do
  match ← keyword ObjectType.find? word with
  | .link t => .ok t
  | _ => fail .keyword word

/-- The position of a link that has to be of a certain type. -/
def linkOfType (n : Network α) (type : LinkType) (id : String) : Except ClauseError Nat := do
  let i ← position n .link id
  if (n.state.links[i]?).map Link.type = some type then .ok i else fail .wrongObject id

/-- The action of a clause. A modulated setting refers to the last premise of its rule. -/
def action (n : Network α) (last : Option (Premise α)) (tokens : List String) :
    Except ClauseError (Action α) :=
  match tokens with
  | _ :: object :: id :: name :: equals :: word :: rest => do
    let type ← actionType object
    let link ← linkOfType n type id
    let attr ← keyword Attribute.find? name
    if equals ≠ "=" then fail .keyword equals
    else
      let (mode, rest) ← mode n type attr name last word rest
      finish rest
      return ⟨link, id, attr, mode⟩
  | _ => failPlain .tooFewItems

end Clause

end Sluice
