import Sluice.Rule.Clause

/-!
# Building rules

Rules are built line by line. A rule opens with its header `RULE <id>`, continues with premises
(`IF`, then `AND` and `OR`), then with actions (`THEN` and `AND`, perhaps `ELSE` and `AND`), and
may close with a `PRIORITY`. The builder holds the finished rules and its *session*: where it
stands, which rule is open, and which of its branches takes the next action.

A line that cannot be added is a fault. It discards the open rule, and everything up to the next
header is skipped. A rule is finished by its `PRIORITY`, by the next header or by the end of the
text, and only if it has actions.

The builder never decides what becomes of a fault. Each line returns the new builder, the
warnings it gave rise to, and the error, if there was one.
-/

set_option autoImplicit false

namespace Sluice

/-! ## 1. Sessions -/

/-- Which of the two lists of actions a rule is at. -/
inductive Branch where
  | holds | fails
  deriving DecidableEq, Repr

def Branch.word : Branch → String
  | .holds => "THEN"
  | .fails => "ELSE"

/-- Where building stands. -/
inductive BuildState where
  /-- Behind a line with this keyword. A rule that was ended counts as closed by its priority. -/
  | after (k : Keyword)
  /-- The last rule was given up; lines are skipped up to the next header. -/
  | error
  deriving DecidableEq, Repr

namespace BuildState

def word : BuildState → String
  | .after k => k.word
  | .error => "ERROR"

/-- The last line was a premise, or may have been one. -/
def isPremise : BuildState → Bool
  | .after .first | .after .and | .after .or => true
  | _ => false

/-- The last line was an action, or may have been one. -/
def isAction : BuildState → Bool
  | .after .thenBranch | .after .and | .after .elseBranch => true
  | _ => false

end BuildState

structure Session (α : Type) where
  /-- None before the first line, and after building was finished. -/
  state? : Option BuildState
  /-- The open rule. -/
  rule? : Option (Rule α)
  /-- The branch to which `AND` adds an action, once the premises are done. -/
  branch? : Option Branch
  deriving Repr

namespace Session

variable {α : Type}

def idle : Session α := ⟨none, none, none⟩

/-- A rule was opened. -/
def start (r : Rule α) : Session α := ⟨some (.after .rule), some r, none⟩

/-- No rule is open any more. -/
def shut (state : BuildState) : Session α := ⟨some state, none, none⟩

def ruleId? (s : Session α) : Option String := s.rule?.map Rule.id

/-- The last premise of the open rule. -/
def lastPremise? (s : Session α) : Option (Premise α) :=
  s.rule?.bind fun r => r.premises.getLast?

def atHeader (s : Session α) : Bool := s.state? == some (.after .rule)

def atPremises (s : Session α) : Bool := s.branch?.isNone && s.state?.any BuildState.isPremise

def atActions (s : Session α) : Bool := s.branch?.isSome && s.state?.any BuildState.isAction

end Session

structure Builder (α : Type) where
  rules : List (Rule α)
  session : Session α
  deriving Repr

/-- What a line does. -/
structure Added (α : Type) where
  builder : Builder α
  warnings : List String
  error : Option ClauseError
  deriving Repr

namespace Builder

variable {α : Type}

def empty : Builder α := ⟨[], .idle⟩

/-- Whether an id belongs to a finished rule or to the open one. -/
def isTaken (b : Builder α) (id : String) : Bool :=
  b.rules.any (fun r => r.id == id) || b.session.ruleId? == some id

def inState (b : Builder α) (state : BuildState) : Builder α :=
  { b with session := { b.session with state? := some state } }

def inBranch (b : Builder α) (branch : Branch) : Builder α :=
  { b with session := { b.session with branch? := some branch } }

/-- Changes the open rule. -/
def mapRule (b : Builder α) (f : Rule α → Rule α) : Builder α :=
  { b with session := { b.session with rule? := b.session.rule?.map f } }

/-! ## 2. Ending a rule -/

/-- The fault of a rule that ends without actions. -/
def incomplete (r : Rule α) : Fault := ⟨.incomplete, none, r.line, some r.id⟩

/-- Ends the open rule, if there is one. It is kept only if it has actions. -/
def endRule (b : Builder α) : Builder α × Option Fault :=
  match b.session.rule? with
  | none => (b, none)
  | some r =>
    let session := Session.shut (.after .priority)
    if r.thenActions.isEmpty then (⟨b.rules, session⟩, some (incomplete r))
    else (⟨b.rules ++ [r], session⟩, none)

/-- Ends building, with all finished rules. -/
def finish (b : Builder α) : Builder α × Option Fault :=
  (⟨b.endRule.1.rules, .idle⟩, b.endRule.2)

/-! ## 3. Headers -/

/-- What is wrong with a header: it has exactly one id, which is new. -/
def headerFault (b : Builder α) (tokens : List String) (line : Option Int) : Option Fault :=
  match tokens with
  | [_, id] => if b.isTaken id then some ⟨.duplicate, some id, line, some id⟩ else none
  | _ => some ⟨.tooFewItems, if 2 < tokens.length then tokens.getLast? else none, line, none⟩

/-- A new rule without clauses. -/
def draft [Scalar α] (id : String) (position : Nat) (line : Option Int) : Rule α :=
  ⟨id, position, line, Scalar.zero, [], [], []⟩

/-- Ends the open rule and opens a new one. Of two faults the one of the header is returned, and
the other one is left to a warning. -/
def openRule [Scalar α] (b : Builder α) (tokens : List String) (line : Option Int) : Added α :=
  let (ended, missing) := b.endRule
  match b.headerFault tokens line with
  | some f =>
    ⟨⟨ended.rules, .shut .error⟩, missing.toList.map Fault.message, some (.fault f)⟩
  | none =>
    let rule := draft (tokens.getD 1 "") ended.rules.length line
    ⟨⟨ended.rules, .start rule⟩, [], missing.map .fault⟩

/-! ## 4. Clauses

A clause may change the session before it turns out that it cannot be read. What it does is
therefore an `Added`, too: the builder as the clause leaves it, with the error behind which nothing
more was done.
-/

/-- Goes on with what was read, or stays with the error. -/
def reading {β : Type} (b : Builder α) (warnings : List String) (read : Except ClauseError β)
    (f : β → Builder α) : Added α :=
  match read with
  | .ok x => ⟨f x, warnings, none⟩
  | .error e => ⟨b, warnings, some e⟩

/-- A clause that may not stand here. -/
def misplaced (b : Builder α) (tokens : List String) : Added α :=
  ⟨b, [], some (.fault (.atToken .sequence (tokens.headD "")))⟩

/-- Puts an action behind those of a branch. -/
def putAction (r : Rule α) (a : Action α) : Branch → Rule α
  | .holds => { r with thenActions := r.thenActions ++ [a] }
  | .fails => { r with elseActions := r.elseActions ++ [a] }

section

variable [Scalar α] [TimeReader α]

/-- Adds a premise to the open rule. -/
def addPremise (n : Network α) (b : Builder α) (k : Keyword) (joint : Joint)
    (tokens : List String) : Added α :=
  b.reading (Clause.premiseWarnings n joint tokens) (Clause.premise n joint tokens) fun p =>
    (b.mapRule fun r => { r with premises := r.premises ++ [p] }).inState (.after k)

/-- Adds an action to the branch of the open rule. It goes with the last premise. -/
def addAction (n : Network α) (b : Builder α) (k : Keyword) (tokens : List String) : Added α :=
  b.reading [] (Clause.action n b.session.lastPremise? tokens) fun a =>
    (b.mapRule fun r => putAction r a (b.session.branch?.getD .fails)).inState (.after k)

/-- Closes the open rule with its priority. -/
def addPriority (b : Builder α) (tokens : List String) : Added α :=
  match tokens with
  | [_, token] =>
    b.reading [] (Clause.number token) fun x =>
      (b.mapRule fun r => { r with priority := x }).endRule.1
  | _ =>
    let last := if 2 < tokens.length then tokens.getLast? else none
    ⟨b, [], some (.fault ⟨.tooFewItems, last, none, none⟩)⟩

/-- Adds a clause to the open rule, if its keyword may follow. `AND` joins a premise as long as
there are no actions, and an action from then on. -/
def addClause (n : Network α) (b : Builder α) (k : Keyword) (tokens : List String) : Added α :=
  match k with
  | .rule => b.misplaced tokens
  | .first => if b.session.atHeader then b.addPremise n k .first tokens else b.misplaced tokens
  | .and =>
    if b.session.atPremises then b.addPremise n k .and tokens
    else if b.session.atActions then b.addAction n k tokens
    else b.misplaced tokens
  | .or => if b.session.atPremises then b.addPremise n k .or tokens else b.misplaced tokens
  | .thenBranch =>
    if b.session.atPremises then (b.inBranch .holds).addAction n k tokens else b.misplaced tokens
  | .elseBranch =>
    if b.session.atActions && b.session.branch? == some .holds then
      (b.inBranch .fails).addAction n k tokens
    else b.misplaced tokens
  | .priority => if b.session.atActions then b.addPriority tokens else b.misplaced tokens

/-- Adds a line that is no header. Without an open rule no keyword is in its place. -/
def addToSession (n : Network α) (b : Builder α) (k : Option Keyword) (tokens : List String) :
    Added α :=
  match k, b.session.rule? with
  | none, _ => ⟨b, [], some (.fault (.atToken .keyword (tokens.headD "")))⟩
  | some _, none => b.misplaced tokens
  | some k, some _ => b.addClause n k tokens

/-- What comes of a clause. A fault discards the open rule and is given its place; a number too
large to be represented leaves everything as it is by then. -/
def settle (b : Builder α) (line : Option Int) (a : Added α) : Added α :=
  match a.error with
  | some (.fault f) =>
    ⟨⟨a.builder.rules, .shut .error⟩, a.warnings, some (.fault (f.tag line b.session.ruleId?))⟩
  | _ => a

/-! ## 5. Lines -/

/-- Adds a line, given by its tokens and its number. An empty line is none. -/
def addLine (n : Network α) (b : Builder α) (tokens : List String) (line : Option Int) :
    Added α :=
  match tokens with
  | [] => ⟨b, [], none⟩
  | first :: _ =>
    match Keyword.find? first with
    | some .rule => b.openRule tokens line
    | k =>
      if b.session.state? = some .error then ⟨b, [], none⟩
      else b.settle line (b.addToSession n k tokens)

end

end Builder

end Sluice
