import Sluice.Network.Column
import Sluice.Network.IdIndex
import Sluice.Network.State
import Sluice.Network.Table
import Sluice.Text.Quoted

/-!
# The network and its dataset

A `Network` is everything the rules are evaluated against: the state, the tables, and for each
kind of object the index of its ids. It is built from a dataset, a JSON object with up to four
members:

* `nodes` and `links` give the ids and, column by column, the values; a column that is absent
  has a default;
* `curves` and `timeseries` map names to lists of points.

All parts are looked at in this order and the first mistake is the one reported. Positions are
assigned in the order in which things are listed, so the index of a kind and the list of its
objects agree by construction.
-/

set_option autoImplicit false

namespace Sluice

/-! ## 1. Networks -/

/-- The kinds of objects that rules refer to by id. -/
inductive ObjectKind where
  | node | link | curve | timeSeries
  deriving DecidableEq, Repr

structure Network (α : Type) where
  state : State α
  curves : List (Table α)
  series : List (Table α)
  nodeIds : IdIndex
  linkIds : IdIndex
  curveIds : IdIndex
  seriesIds : IdIndex
  deriving Repr

namespace Network

variable {α : Type}

def ids (n : Network α) : ObjectKind → IdIndex
  | .node => n.nodeIds
  | .link => n.linkIds
  | .curve => n.curveIds
  | .timeSeries => n.seriesIds

/-- The position of the object of a kind with an id. -/
def find? (n : Network α) (kind : ObjectKind) (id : String) : Option Nat := (n.ids kind).find? id

end Network

/-- Why a dataset is refused. -/
inductive DatasetError where
  /-- A section is no object. -/
  | notASection
  /-- A value that has to be listed or to be a number is neither. -/
  | wrongType
  /-- A point does not have exactly two parts. -/
  | notAPair
  | linkTypeCount (expected actual : Nat)
  | unknownLinkType (name : String)
  | unknownLinkNumber
  | column (e : ColumnError)
  | time (e : WhenError)
  | table (e : TableError)
  | duplicates (e : DuplicateIds)
  deriving DecidableEq, Repr

namespace DatasetError

def message? : DatasetError → Option String
  | .linkTypeCount expected actual =>
    some ("expected " ++ toString expected ++ " link types, got " ++ toString actual)
  | .unknownLinkType name => some ("Unknown link type " ++ Text.quoted name)
  | .column e => e.message?
  | .table e => some e.message
  | .duplicates e => some e.message
  | _ => none

end DatasetError

namespace Dataset

variable {α : Type} [Scalar α] [TimeReader α]

/-! ## 2. JSON building blocks -/

/-- The members of a section. -/
def membersOf : Json → Except DatasetError (List (String × Json))
  | .object members => .ok members
  | _ => .error .notASection

/-- The member of a dataset that holds a section; an absent one is empty. -/
def sectionOf (name : String) (data : List (String × Json)) :
    Except DatasetError (List (String × Json)) :=
  membersOf ((Json.member? name data).getD (.object []))

/-- What a value lists: the items of an array, the characters of a text, the names of the
members of an object. -/
def items : Json → Except DatasetError (List Json)
  | .array xs => .ok xs
  | .text s => .ok (s.toList.map fun c => .text (String.singleton c))
  | .object members => .ok (members.map fun m => .text m.1)
  | _ => .error .wrongType

/-- The two parts of a point. -/
def pair (j : Json) : Except DatasetError (Json × Json) := do
  match ← items j with
  | [x, y] => .ok (x, y)
  | _ => .error .notAPair

/-- The ids that a section lists. -/
def ids (members : List (String × Json)) : Except DatasetError (List String) :=
  match Json.member? "id" members with
  | none => .ok []
  | some j => (items j).map (List.map Json.label)

/-- A column of a section. -/
def columnOf (size : Nat) (default : α) (name : String) (members : List (String × Json)) :
    Except DatasetError (List α) :=
  (column size default ((Json.member? name members).getD .null)).mapError .column

/-! ## 3. Nodes and links -/

/-- Puts the columns of the nodes together, row by row. -/
def nodeRows : List String → List α → List α → List α → List α → List (Node α)
  | id :: ids, e :: es, d :: ds, v :: vs, q :: qs => ⟨id, e, d, v, q⟩ :: nodeRows ids es ds vs qs
  | _, _, _, _, _ => []

def nodes (members : List (String × Json)) : Except DatasetError (List (Node α)) := do
  let ids ← ids members
  let read := fun c : NodeColumn => columnOf ids.length Scalar.zero c.name members
  let inverts ← read .invertElevation
  let depths ← read .depth
  let volumes ← read .volume
  let inflows ← read .lateralInflow
  return nodeRows ids inverts depths volumes inflows

/-- A whole number, however it is written; a truth value counts as one or zero. -/
def wholeNumber? : Json → Option Int
  | .int n => some n
  | .bool b => some (if b then 1 else 0)
  | .real d => d.whole?
  | _ => none

/-- A link type, by name or by number. -/
def linkType (j : Json) : Except DatasetError LinkType :=
  match j with
  | .text name =>
    match LinkType.find? name with
    | some t => .ok t
    | none => .error (.unknownLinkType name)
  | j =>
    match (wholeNumber? j).bind LinkType.ofNumber? with
    | some t => .ok t
    | none => .error .unknownLinkNumber

/-- The listed link types, of which there have to be as many as links. -/
def linkTypeItems (size : Nat) (members : List (String × Json)) :
    Except DatasetError (List Json) :=
  match Json.member? "type" members with
  | none => .ok (List.replicate size (.text LinkType.conduit.word))
  | some j => do
    let types ← items j
    if types.length = size then .ok types else .error (.linkTypeCount size types.length)

/-- Puts the columns of the links together. At the start the targets are the settings. -/
def linkRows : List String → List LinkType → List α → List α → List α → List α → List α →
    List (Link α)
  | id :: ids, t :: ts, d :: ds, f :: fs, r :: rs, s :: ss, l :: ls =>
    ⟨id, t, d, f, r, s, s, l⟩ :: linkRows ids ts ds fs rs ss ls
  | _, _, _, _, _, _, _ => []

def links (members : List (String × Json)) : Except DatasetError (List (Link α)) := do
  let ids ← ids members
  let read := fun (c : LinkColumn) (default : α) => columnOf ids.length default c.name members
  let types ← linkTypeItems ids.length members
  let settings ← read .setting Scalar.one
  let types ← types.mapM linkType
  let depths ← read .depth Scalar.zero
  let flows ← read .flow Scalar.zero
  let directions ← read .direction Scalar.one
  let times ← read .timeLastSet Scalar.zero
  return linkRows ids types depths flows directions settings times

/-! ## 4. Tables -/

/-- A table from two arrays of numbers, which must both be flat and of one length. -/
def table (name : String) (xs ys : Json) : Except DatasetError (Table α) := do
  let xs ← (Grid.ofJson xs).mapError .column
  let ys ← (Grid.ofJson ys).mapError .column
  if xs.shape.length = 1 && ys.shape.length = 1 then
    (Table.make? name xs.cells ys.cells).mapError .table
  else .error (.table (.sizesDiffer name))

/-- A curve from its points. -/
def curve (name : String) (points : Json) : Except DatasetError (Table α) := do
  let pairs ← (← items points).mapM pair
  table name (.array (pairs.map Prod.fst)) (.array (pairs.map Prod.snd))

/-- The time of an entry of a time series. -/
def whenOf : Json → Except DatasetError (When α)
  | .text s => .ok (.text s)
  | .int n => ((Grid.ofWhole n).mapError .column).map .number
  | .bool b => .ok (.number (if b then Scalar.one else Scalar.zero))
  | .real d => .ok (.number d.toScalar)
  | _ => .error .wrongType

/-- A time series from unix times and an array of values. -/
def timedTable (name : String) (times : List α) (values : Json) :
    Except DatasetError (Table α) := do
  let ys ← (Grid.ofJson values).mapError .column
  if ys.shape.length = 1 then (Table.make? name times ys.cells).mapError .table
  else .error (.table (.sizesDiffer name))

/-- A time series from its entries. -/
def timeSeries (origin : Origin α) (name : String) (entries : Json) :
    Except DatasetError (Table α) := do
  let pairs ← (← items entries).mapM fun entry => do
    let (time, value) ← pair entry
    let time ← ((← whenOf time).unixTime origin).mapError .time
    return (time, value)
  timedTable name (pairs.map Prod.fst) (.array (pairs.map Prod.snd))

/-! ## 5. The whole dataset -/

/-- Puts a network together. No kind may have two objects of one id. -/
def assemble (state : State α) (curves series : List (Table α)) :
    Except DatasetError (Network α) := do
  let nodeIds ← (IdIndex.ofList (state.nodes.map Node.id)).mapError .duplicates
  let linkIds ← (IdIndex.ofList (state.links.map Link.id)).mapError .duplicates
  let curveIds ← (IdIndex.ofList (curves.map Table.name)).mapError .duplicates
  let seriesIds ← (IdIndex.ofList (series.map Table.name)).mapError .duplicates
  return ⟨state, curves, series, nodeIds, linkIds, curveIds, seriesIds⟩

/-- Builds the network of a dataset. The bare numbers of time series count from an origin. -/
def load (data : Json) (origin : Origin α) : Except DatasetError (Network α) := do
  let data ← membersOf data
  let nodes ← nodes (← sectionOf "nodes" data)
  let links ← links (← sectionOf "links" data)
  let curves ← (← sectionOf "curves" data).mapM fun m => curve m.1 m.2
  let series ← (← sectionOf "timeseries" data).mapM fun m => timeSeries origin m.1 m.2
  assemble ⟨nodes, links⟩ curves series

end Dataset

end Sluice
