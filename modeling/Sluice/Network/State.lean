import Sluice.Network.Attribute
import Sluice.Number.Scalar

/-!
# The state of the network

Nodes and links have values that premises read and actions write. Premises see the *setting* of
a link, actions write its *target setting*; `applyTargets` turns the targets into settings and
records when a link opened or closed. Between the two lies a whole control step, so no rule sees
what another one did in the same step.

Some values are computed: the head of a node is its depth above its invert, the flow of a link
has the sign of its direction, and a link is open when its setting is positive.
-/

set_option autoImplicit false

namespace Sluice

structure Node (α : Type) where
  id : String
  invertElevation : α
  depth : α
  volume : α
  lateralInflow : α
  deriving Repr

structure Link (α : Type) where
  id : String
  type : LinkType
  depth : α
  flow : α
  direction : α
  setting : α
  targetSetting : α
  /-- Elapsed seconds when the link last opened or closed. -/
  timeLastSet : α
  deriving Repr

structure State (α : Type) where
  nodes : List (Node α)
  links : List (Link α)
  deriving Repr

/-- Why the state cannot serve a request. -/
inductive StateError where
  | noNodeAttribute (a : Attribute)
  | noLinkAttribute (a : Attribute)
  | notControllable (a : Attribute)
  /-- The object has its values elsewhere. -/
  | notOwned (o : ObjectType)
  | noSuchPosition
  deriving DecidableEq, Repr

def StateError.message? : StateError → Option String
  | .noNodeAttribute a => some ("nodes have no attribute " ++ a.word)
  | .noLinkAttribute a => some ("links have no attribute " ++ a.word)
  | .notControllable a => some ("cannot control link attribute " ++ a.word)
  | .notOwned o => some (o.word ++ " values are not owned by the network state")
  | .noSuchPosition => none

/-! ## 1. Reading -/

section

variable {α : Type} [Scalar α]

namespace Node

/-- An attribute of a node, if nodes have it. -/
def get? : Attribute → Option (Node α → α)
  | .depth => some Node.depth
  | .head => some fun n => n.depth + n.invertElevation
  | .volume => some Node.volume
  | .inflow => some Node.lateralInflow
  | _ => none

end Node

namespace Link

def isOpen (l : Link α) : Bool := decide (l.setting > Scalar.zero)

def targetIsOpen (l : Link α) : Bool := decide (l.targetSetting > Scalar.zero)

/-- The status as a number: one when open, zero when closed. -/
def status (l : Link α) : α := if l.isOpen then Scalar.one else Scalar.zero

/-- An attribute of a link, if links have it. -/
def get? : Attribute → Option (Link α → α)
  | .depth => some Link.depth
  | .flow => some fun l => l.direction * l.flow
  | .status => some status
  | .setting => some Link.setting
  | _ => none

end Link

namespace State

def node? (s : State α) (i : Nat) : Except StateError (Node α) :=
  match s.nodes[i]? with
  | some n => .ok n
  | none => .error .noSuchPosition

def link? (s : State α) (i : Nat) : Except StateError (Link α) :=
  match s.links[i]? with
  | some l => .ok l
  | none => .error .noSuchPosition

def nodeAttribute (s : State α) (i : Nat) (a : Attribute) : Except StateError α :=
  match Node.get? a with
  | some f => (s.node? i).map f
  | none => .error (.noNodeAttribute a)

def linkAttribute (s : State α) (i : Nat) (a : Attribute) : Except StateError α :=
  match Link.get? a with
  | some f => (s.link? i).map f
  | none => .error (.noLinkAttribute a)

/-- An attribute of the object at a position. Whether the object has the attribute is looked at
before the position. -/
def value (s : State α) (o : ObjectType) (i : Nat) (a : Attribute) : Except StateError α :=
  match o with
  | .node => s.nodeAttribute i a
  | .simulation => .error (.notOwned o)
  | _ => s.linkAttribute i a

def target (s : State α) (i : Nat) : Except StateError α := (s.link? i).map Link.targetSetting

def linkType (s : State α) (i : Nat) : Except StateError LinkType := (s.link? i).map Link.type

def timeLastSet (s : State α) (i : Nat) : Except StateError α := (s.link? i).map Link.timeLastSet

/-- The target settings of all links. -/
def targets (s : State α) : List α := s.links.map Link.targetSetting

/-! ## 2. Writing -/

/-- Writes the target setting of a link, through one of the two attributes that control it. -/
def setTarget (s : State α) (i : Nat) (a : Attribute) (value : α) :
    Except StateError (State α) :=
  if a = .status ∨ a = .setting then
    if i < s.links.length then
      .ok { s with links := s.links.modify i fun l => { l with targetSetting := value } }
    else .error .noSuchPosition
  else .error (.notControllable a)

end State

namespace Link

/-- Whether the target differs from the setting. -/
def isPending (l : Link α) : Bool := !(l.setting == l.targetSetting)

/-- Takes over the target, at a number of elapsed seconds. -/
def applyTarget (elapsed : α) (l : Link α) : Link α :=
  { l with
    setting := l.targetSetting
    timeLastSet := if l.isOpen != l.targetIsOpen then elapsed else l.timeLastSet }

end Link

namespace State

/-- The number of links whose setting is about to change. -/
def pendingCount (s : State α) : Nat := s.links.countP Link.isPending

/-- Makes the target settings the settings. -/
def applyTargets (s : State α) (elapsed : α) : State α :=
  { s with links := s.links.map (Link.applyTarget elapsed) }

end State

end

/-! ## 3. Columns

A dataset, and whoever advances the state between two control steps, addresses a value by the
name of its column. -/

inductive NodeColumn where
  | invertElevation | depth | volume | lateralInflow
  deriving DecidableEq, Repr

inductive LinkColumn where
  | depth | flow | direction | setting | targetSetting | timeLastSet
  deriving DecidableEq, Repr

namespace NodeColumn

def all : List NodeColumn := [.invertElevation, .depth, .volume, .lateralInflow]

def name : NodeColumn → String
  | .invertElevation => "invert_elevation"
  | .depth => "depth"
  | .volume => "volume"
  | .lateralInflow => "lateral_inflow"

def find? (column : String) : Option NodeColumn := all.find? fun c => c.name == column

variable {α : Type}

def get : NodeColumn → Node α → α
  | .invertElevation => Node.invertElevation
  | .depth => Node.depth
  | .volume => Node.volume
  | .lateralInflow => Node.lateralInflow

def set (value : α) : NodeColumn → Node α → Node α
  | .invertElevation, n => { n with invertElevation := value }
  | .depth, n => { n with depth := value }
  | .volume, n => { n with volume := value }
  | .lateralInflow, n => { n with lateralInflow := value }

end NodeColumn

namespace LinkColumn

def all : List LinkColumn := [.depth, .flow, .direction, .setting, .targetSetting, .timeLastSet]

def name : LinkColumn → String
  | .depth => "depth"
  | .flow => "flow"
  | .direction => "direction"
  | .setting => "setting"
  | .targetSetting => "target_setting"
  | .timeLastSet => "time_last_set"

def find? (column : String) : Option LinkColumn := all.find? fun c => c.name == column

variable {α : Type}

def get : LinkColumn → Link α → α
  | .depth => Link.depth
  | .flow => Link.flow
  | .direction => Link.direction
  | .setting => Link.setting
  | .targetSetting => Link.targetSetting
  | .timeLastSet => Link.timeLastSet

def set (value : α) : LinkColumn → Link α → Link α
  | .depth, l => { l with depth := value }
  | .flow, l => { l with flow := value }
  | .direction, l => { l with direction := value }
  | .setting, l => { l with setting := value }
  | .targetSetting, l => { l with targetSetting := value }
  | .timeLastSet, l => { l with timeLastSet := value }

end LinkColumn

namespace State

variable {α : Type}

/-- Writes one value of a node column; a position past the end writes nothing. -/
def writeNode (s : State α) (i : Nat) (c : NodeColumn) (value : α) : State α :=
  { s with nodes := s.nodes.modify i (c.set value) }

/-- Writes one value of a link column; a position past the end writes nothing. -/
def writeLink (s : State α) (i : Nat) (c : LinkColumn) (value : α) : State α :=
  { s with links := s.links.modify i (c.set value) }

end State

end Sluice
