import Sluice.Text.Case

/-!
# What a rule can name

A control rule speaks of *objects* and their *attributes*: the depth of a node, the status of a
pump, the clock time of the simulation. This file is the vocabulary, together with the types a
link can have. Every word is written in capitals in messages and answers and is read in any
case.

The object words are finer than the objects: `LINK` means a link of any type, and the five type
words mean a link of that type. A premise accepts all of them for any link, an action insists
that the word fits the link.
-/

set_option autoImplicit false

namespace Sluice

/-! ## 1. Link types -/

inductive LinkType where
  | conduit | pump | orifice | weir | outlet
  deriving DecidableEq, Repr

namespace LinkType

def all : List LinkType := [.conduit, .pump, .orifice, .weir, .outlet]

def word : LinkType → String
  | .conduit => "CONDUIT"
  | .pump => "PUMP"
  | .orifice => "ORIFICE"
  | .weir => "WEIR"
  | .outlet => "OUTLET"

/-- The number that stands for a type in a dataset. -/
def number : LinkType → Nat
  | .conduit => 0
  | .pump => 1
  | .orifice => 2
  | .weir => 3
  | .outlet => 4

/-- The type that a word names, in any case. -/
def find? (name : String) : Option LinkType := all.find? fun t => t.word == Text.upper name

/-- The type with a given number. -/
def ofNumber? (n : Int) : Option LinkType := all.find? fun t => (t.number : Int) == n

/-- Whether a link of this type is either open or closed. -/
def hasStatus (t : LinkType) : Bool := t == .conduit || t == .pump

end LinkType

/-! ## 2. Objects -/

inductive ObjectType where
  | node
  /-- A link of any type. -/
  | anyLink
  | link (t : LinkType)
  | simulation
  deriving DecidableEq, Repr

namespace ObjectType

def all : List ObjectType :=
  [.node, .anyLink, .link .conduit, .link .pump, .link .orifice, .link .weir, .link .outlet,
    .simulation]

def word : ObjectType → String
  | .node => "NODE"
  | .anyLink => "LINK"
  | .link t => t.word
  | .simulation => "SIMULATION"

/-- The object type that a word names, in any case. -/
def find? (token : String) : Option ObjectType := all.find? fun o => o.word == Text.upper token

def isLink : ObjectType → Bool
  | .anyLink => true
  | .link _ => true
  | .node => false
  | .simulation => false

end ObjectType

/-! ## 3. Attributes -/

inductive Attribute where
  | depth | head | volume | inflow | flow | status | setting | timeOpen | timeClosed
  | time | date | clockTime | dayOfYear | day | month
  deriving DecidableEq, Repr

namespace Attribute

def all : List Attribute :=
  [.depth, .head, .volume, .inflow, .flow, .status, .setting, .timeOpen, .timeClosed,
    .time, .date, .clockTime, .dayOfYear, .day, .month]

def word : Attribute → String
  | .depth => "DEPTH"
  | .head => "HEAD"
  | .volume => "VOLUME"
  | .inflow => "INFLOW"
  | .flow => "FLOW"
  | .status => "STATUS"
  | .setting => "SETTING"
  | .timeOpen => "TIMEOPEN"
  | .timeClosed => "TIMECLOSED"
  | .time => "TIME"
  | .date => "DATE"
  | .clockTime => "CLOCKTIME"
  | .dayOfYear => "DAYOFYEAR"
  | .day => "DAY"
  | .month => "MONTH"

/-- The attribute that a word names, in any case. -/
def find? (token : String) : Option Attribute := all.find? fun a => a.word == Text.upper token

/-- Whether the simulation has the attribute. -/
def isOfSimulation : Attribute → Bool
  | .time | .date | .clockTime | .dayOfYear | .day | .month => true
  | _ => false

/-- Attributes can be compared with each other only within a category. -/
inductive Category where
  | physical | status | time | calendar
  deriving DecidableEq, Repr

def category : Attribute → Category
  | .time | .clockTime | .timeOpen | .timeClosed => .time
  | .date | .day | .month | .dayOfYear => .calendar
  | .status => .status
  | _ => .physical

end Attribute

/-- The attributes that a premise may ask of an object. -/
def ObjectType.hasAttribute : ObjectType → Attribute → Bool
  | .node, a => a == .depth || a == .head || a == .volume || a == .inflow
  | .simulation, a => a.isOfSimulation
  | .anyLink, a | .link .conduit, a =>
    a == .status || a == .depth || a == .flow || a == .timeOpen || a == .timeClosed
  | .link .pump, a => a == .status || a == .flow || a == .timeOpen || a == .timeClosed
  | .link _, a => a == .setting || a == .timeOpen || a == .timeClosed

end Sluice
