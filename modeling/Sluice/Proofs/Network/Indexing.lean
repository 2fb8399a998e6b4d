import Sluice.Network.Dataset
import Sluice.Proofs.Network.Alignment

/-!
# Ids and what they stand for

A rule names an object once, when it is read, and from then on has a position. That this
position is one of the network takes two things: the dictionary of a kind finds an id where it
stands among the ids of that kind, and there are as many ids as objects. A network of which this
holds is `Indexed`; in an indexed network **every position an id is found at holds an object**
(`find?_lt_count`), and every network that is built from a dataset is indexed (`indexed_of_load`).

`Network.count` is all that has to be known of a network for this. Nothing that happens in the
course of a simulation changes it.

The other results about datasets start here as well: `LoadedFrom` says which section each part of
a network is read from.
-/

set_option autoImplicit false

namespace Sluice

variable {α : Type}

namespace Network

/-- The number of objects of a kind. -/
def count (n : Network α) : ObjectKind → Nat
  | .node => n.state.nodes.length
  | .link => n.state.links.length
  | .curve => n.curves.length
  | .timeSeries => n.series.length

/-- What the objects of a kind are called, in the order of their positions. -/
def names (n : Network α) : ObjectKind → List String
  | .node => n.state.nodes.map Node.id
  | .link => n.state.links.map Link.id
  | .curve => n.curves.map Table.name
  | .timeSeries => n.series.map Table.name

@[simp] theorem length_names (n : Network α) (kind : ObjectKind) :
    (n.names kind).length = n.count kind := by
  cases kind <;> exact List.length_map _

/-- Every object has an id, every id an object, and the dictionaries find the ids. -/
def Indexed (n : Network α) : Prop :=
  ∀ kind, (n.ids kind).IsAligned ∧ (n.ids kind).ids.length = n.count kind

theorem find?_lt_count {n : Network α} (hn : n.Indexed) {kind : ObjectKind} {id : String} {i : Nat}
    (h : n.find? kind id = some i) : i < n.count kind := by
  obtain ⟨haligned, hcount⟩ := hn kind
  rw [← hcount]
  exact haligned.find?_lt h

end Network

namespace Dataset

theorem assemble_eq_ok {state : State α} {curves series : List (Table α)} {n : Network α}
    (h : assemble state curves series = .ok n) :
    (∀ kind, IdIndex.ofList (n.names kind) = .ok (n.ids kind)) ∧
      n.state = state ∧ n.curves = curves ∧ n.series = series := by
  rw [assemble] at h
  obtain ⟨nodeIds, hnodes, h⟩ := bind_eq_ok.mp h
  obtain ⟨linkIds, hlinks, h⟩ := bind_eq_ok.mp h
  obtain ⟨curveIds, hcurves, h⟩ := bind_eq_ok.mp h
  obtain ⟨seriesIds, hseries, h⟩ := bind_eq_ok.mp h
  obtain rfl := pure_eq_ok.mp h
  refine ⟨?_, rfl, rfl, rfl⟩
  intro kind
  cases kind with
  | node => exact mapError_eq_ok.mp hnodes
  | link => exact mapError_eq_ok.mp hlinks
  | curve => exact mapError_eq_ok.mp hcurves
  | timeSeries => exact mapError_eq_ok.mp hseries

variable [Scalar α]

/-- The section of a dataset that goes by a name. -/
def sectionIn (name : String) (data : Json) : Except DatasetError (List (String × Json)) := do
  sectionOf name (← membersOf data)

/-- What the parts of a network are read from. -/
structure LoadedFrom [TimeReader α] (data : Json) (origin : Origin α) (n : Network α) : Prop where
  indexes : ∀ kind, IdIndex.ofList (n.names kind) = .ok (n.ids kind)
  nodes : ∃ members, sectionIn "nodes" data = .ok members ∧ nodes members = .ok n.state.nodes
  links : ∃ members, sectionIn "links" data = .ok members ∧ links members = .ok n.state.links
  curves : ∃ members, sectionIn "curves" data = .ok members ∧
    members.mapM (fun m => curve m.1 m.2) = .ok n.curves
  series : ∃ members, sectionIn "timeseries" data = .ok members ∧
    members.mapM (fun m => timeSeries origin m.1 m.2) = .ok n.series

theorem loadedFrom [TimeReader α] {data : Json} {origin : Origin α} {n : Network α}
    (h : load data origin = .ok n) : LoadedFrom data origin n := by
  rw [load] at h
  obtain ⟨members, hdata, h⟩ := bind_eq_ok.mp h
  have hsection : ∀ name, sectionIn name data = sectionOf name members := by
    intro name
    rw [sectionIn, hdata]
    rfl
  obtain ⟨nodeSection, hnodeSection, h⟩ := bind_eq_ok.mp h
  obtain ⟨nodes, hnodes, h⟩ := bind_eq_ok.mp h
  obtain ⟨linkSection, hlinkSection, h⟩ := bind_eq_ok.mp h
  obtain ⟨links, hlinks, h⟩ := bind_eq_ok.mp h
  obtain ⟨curveSection, hcurveSection, h⟩ := bind_eq_ok.mp h
  obtain ⟨curves, hcurves, h⟩ := bind_eq_ok.mp h
  obtain ⟨seriesSection, hseriesSection, h⟩ := bind_eq_ok.mp h
  obtain ⟨series, hseries, h⟩ := bind_eq_ok.mp h
  obtain ⟨hindexes, hstate, rfl, rfl⟩ := assemble_eq_ok h
  refine ⟨hindexes, ?_, ?_, ?_, ?_⟩
  · rw [hstate, hsection]
    exact ⟨nodeSection, hnodeSection, hnodes⟩
  · rw [hstate, hsection]
    exact ⟨linkSection, hlinkSection, hlinks⟩
  · rw [hsection]
    exact ⟨curveSection, hcurveSection, hcurves⟩
  · rw [hsection]
    exact ⟨seriesSection, hseriesSection, hseries⟩

theorem make?_of_curve {name : String} {points : Json} {t : Table α}
    (h : curve name points = .ok t) : ∃ xs ys, Table.make? name xs ys = .ok t := by
  unfold curve table at h
  obtain ⟨items, -, h⟩ := bind_eq_ok.mp h
  obtain ⟨pairs, -, h⟩ := bind_eq_ok.mp h
  obtain ⟨xs, -, h⟩ := bind_eq_ok.mp h
  obtain ⟨ys, -, h⟩ := bind_eq_ok.mp h
  split at h
  · exact ⟨_, _, mapError_eq_ok.mp h⟩
  · cases h

theorem make?_of_timeSeries [TimeReader α] {origin : Origin α} {name : String} {entries : Json}
    {t : Table α} (h : timeSeries origin name entries = .ok t) :
    ∃ xs ys, Table.make? name xs ys = .ok t := by
  unfold timeSeries timedTable at h
  obtain ⟨items, -, h⟩ := bind_eq_ok.mp h
  obtain ⟨pairs, -, h⟩ := bind_eq_ok.mp h
  obtain ⟨ys, -, h⟩ := bind_eq_ok.mp h
  split at h
  · exact ⟨_, _, mapError_eq_ok.mp h⟩
  · cases h

theorem indexed_of_load [TimeReader α] {data : Json} {origin : Origin α} {n : Network α}
    (h : load data origin = .ok n) : n.Indexed := by
  intro kind
  have hindex := (loadedFrom h).indexes kind
  refine ⟨IdIndex.isAligned_of_ofList hindex, ?_⟩
  rw [IdIndex.ids_of_ofList hindex, Network.length_names]

end Dataset

end Sluice
