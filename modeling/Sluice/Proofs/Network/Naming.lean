import Mathlib.Data.List.Nodup
import Mathlib.Order.Defs.LinearOrder
import Mathlib.Tactic.Ring
import Sluice.Calendar.Readers
import Sluice.Proofs.Network.Indexing

/-!
# What a name finds

A position that a name is found at leads to a row of columns, or to a table. The columns, the
tables and the indexes are read from the dataset one after the other, so that they belong
together is a fact about all of them: a column has as many values as there are ids
(`length_column`, the reason being that a nested array has as many innermost values as the
product of its lengths), rows take one value from each column and lose none (`map_nodeRows`,
`map_linkRows`), and an index refuses ids of one text and finds the others where they stand
(`IdIndex.nodup_of_ofList`, `IdIndex.isAligned_of_ofList`).

Together they say that in a network that is built from a dataset **a name is found exactly where
the dataset lists it** (`load_resolves`), and what stands there is what the dataset gives for it.
-/

set_option autoImplicit false

namespace Sluice

/-! ## 1. Columns -/

namespace Grid

mutual

theorem length_leaves : ∀ {j : Json} {shape : List Nat}, shape? j = some shape →
    (leaves j).length = shape.prod
  | .array items, shape, h => by
    rw [leaves]
    rw [shape?] at h
    exact length_itemsLeaves h
  | .null, _, h | .bool _, _, h | .int _, _, h | .real _, _, h | .text _, _, h
  | .object _, _, h => by
    cases h
    rfl

theorem length_itemsLeaves : ∀ {items : List Json} {shape : List Nat},
    itemsShape? items = some shape → (itemsLeaves items).length = shape.prod
  | [], shape, h => by
    rw [itemsShape?] at h
    cases h
    rfl
  | x :: rest, shape, h => by
    rw [itemsShape?] at h
    split at h
    · rename_i inner n outer hx hrest
      split at h
      · rename_i heven
        cases h
        rw [itemsLeaves, List.length_append, length_leaves hx, length_itemsLeaves hrest,
          List.prod_cons, List.prod_cons]
        cases rest with
        | nil =>
          cases hrest
          ring
        | cons y rest =>
          have houter : outer = inner := eq_of_beq heven
          rw [houter]
          ring
      · cases h
    · cases h

end

end Grid

section

variable {α : Type} [Scalar α]

theorem length_column {size : Nat} {default : α} {j : Json} {xs : List α}
    (h : column size default j = .ok xs) : xs.length = size := by
  unfold column at h
  split at h
  · cases h
    exact List.length_replicate
  · obtain ⟨grid, hgrid, h⟩ := bind_eq_ok.mp h
    split at h
    · rename_i hshape
      cases h
      unfold Grid.ofJson at hgrid
      split at hgrid
      · cases hgrid
      · rename_i shape hj
        obtain ⟨cells, hcells, rfl⟩ := map_eq_ok.mp hgrid
        have hsize : shape = [size] := eq_of_beq hshape
        rw [← (forall₂_of_mapM hcells).length_eq, Grid.length_leaves hj, hsize]
        exact List.prod_singleton
    · cases h

namespace Dataset

theorem length_columnOf {size : Nat} {default : α} {name : String}
    {members : List (String × Json)} {xs : List α}
    (h : columnOf size default name members = .ok xs) : xs.length = size :=
  length_column (mapError_eq_ok.mp h)

/-! ## 2. Rows -/

/-- The columns of some nodes are those that a section gives. -/
structure GivesNodes (members : List (String × Json)) (rows : List (Node α)) : Prop where
  ids : ids members = .ok (rows.map Node.id)
  columns : ∀ c : NodeColumn,
    columnOf rows.length Scalar.zero c.name members = .ok (rows.map c.get)

omit [Scalar α] in
theorem map_nodeRows {ids : List String} {es ds vs qs : List α} (he : es.length = ids.length)
    (hd : ds.length = ids.length) (hv : vs.length = ids.length) (hq : qs.length = ids.length) :
    (nodeRows ids es ds vs qs).map Node.id = ids ∧
      (nodeRows ids es ds vs qs).map Node.invertElevation = es ∧
      (nodeRows ids es ds vs qs).map Node.depth = ds ∧
      (nodeRows ids es ds vs qs).map Node.volume = vs ∧
      (nodeRows ids es ds vs qs).map Node.lateralInflow = qs := by
  induction ids generalizing es ds vs qs with
  | nil =>
    rw [List.length_nil, List.length_eq_zero_iff] at he hd hv hq
    subst he hd hv hq
    exact ⟨rfl, rfl, rfl, rfl, rfl⟩
  | cons id ids ih =>
    obtain ⟨e, es, rfl⟩ := List.exists_cons_of_length_eq_add_one he
    obtain ⟨d, ds, rfl⟩ := List.exists_cons_of_length_eq_add_one hd
    obtain ⟨v, vs, rfl⟩ := List.exists_cons_of_length_eq_add_one hv
    obtain ⟨q, qs, rfl⟩ := List.exists_cons_of_length_eq_add_one hq
    simp only [List.length_cons, Nat.add_right_cancel_iff] at he hd hv hq
    obtain ⟨hids, hes, hds, hvs, hqs⟩ := ih he hd hv hq
    simp only [nodeRows, List.map_cons, hids, hes, hds, hvs, hqs, and_self]

theorem givesNodes {members : List (String × Json)} {rows : List (Node α)}
    (h : nodes members = .ok rows) : GivesNodes members rows := by
  unfold nodes at h
  simp only [bind_eq_ok, pure_eq_ok] at h
  obtain ⟨ids, hids, inverts, he, depths, hd, volumes, hv, inflows, hq, rfl⟩ := h
  obtain ⟨hmap, hes, hds, hvs, hqs⟩ := map_nodeRows (length_columnOf he) (length_columnOf hd)
    (length_columnOf hv) (length_columnOf hq)
  have hlength : (nodeRows ids inverts depths volumes inflows).length = ids.length := by
    rw [← List.length_map Node.id, hmap]
  constructor
  · rw [hmap]
    exact hids
  · intro c
    rw [hlength]
    cases c with
    | invertElevation => exact he.trans (congrArg _ hes.symm)
    | depth => exact hd.trans (congrArg _ hds.symm)
    | volume => exact hv.trans (congrArg _ hvs.symm)
    | lateralInflow => exact hq.trans (congrArg _ hqs.symm)

/-- What an absent column of links is filled with. -/
def linkDefault : LinkColumn → α
  | .setting | .targetSetting | .direction => Scalar.one
  | .depth | .flow | .timeLastSet => Scalar.zero

/-- The columns of some links are those that a section gives; the targets are the settings. -/
structure GivesLinks (members : List (String × Json)) (rows : List (Link α)) : Prop where
  ids : ids members = .ok (rows.map Link.id)
  types : ∃ listed, linkTypeItems rows.length members = .ok listed ∧
    listed.mapM linkType = .ok (rows.map Link.type)
  columns : ∀ c : LinkColumn, c ≠ .targetSetting →
    columnOf rows.length (linkDefault c) c.name members = .ok (rows.map c.get)
  targets : rows.map Link.targetSetting = rows.map Link.setting

omit [Scalar α] in
theorem map_linkRows {ids : List String} {ts : List LinkType} {ds fs rs ss ls : List α}
    (ht : ts.length = ids.length) (hd : ds.length = ids.length) (hf : fs.length = ids.length)
    (hr : rs.length = ids.length) (hs : ss.length = ids.length) (hl : ls.length = ids.length) :
    (linkRows ids ts ds fs rs ss ls).map Link.id = ids ∧
      (linkRows ids ts ds fs rs ss ls).map Link.type = ts ∧
      (linkRows ids ts ds fs rs ss ls).map Link.depth = ds ∧
      (linkRows ids ts ds fs rs ss ls).map Link.flow = fs ∧
      (linkRows ids ts ds fs rs ss ls).map Link.direction = rs ∧
      (linkRows ids ts ds fs rs ss ls).map Link.setting = ss ∧
      (linkRows ids ts ds fs rs ss ls).map Link.targetSetting = ss ∧
      (linkRows ids ts ds fs rs ss ls).map Link.timeLastSet = ls := by
  induction ids generalizing ts ds fs rs ss ls with
  | nil =>
    rw [List.length_nil, List.length_eq_zero_iff] at ht hd hf hr hs hl
    subst ht hd hf hr hs hl
    exact ⟨rfl, rfl, rfl, rfl, rfl, rfl, rfl, rfl⟩
  | cons id ids ih =>
    obtain ⟨t, ts, rfl⟩ := List.exists_cons_of_length_eq_add_one ht
    obtain ⟨d, ds, rfl⟩ := List.exists_cons_of_length_eq_add_one hd
    obtain ⟨f, fs, rfl⟩ := List.exists_cons_of_length_eq_add_one hf
    obtain ⟨r, rs, rfl⟩ := List.exists_cons_of_length_eq_add_one hr
    obtain ⟨s, ss, rfl⟩ := List.exists_cons_of_length_eq_add_one hs
    obtain ⟨l, ls, rfl⟩ := List.exists_cons_of_length_eq_add_one hl
    simp only [List.length_cons, Nat.add_right_cancel_iff] at ht hd hf hr hs hl
    obtain ⟨hids, hts, hds, hfs, hrs, hss, htargets, hls⟩ := ih ht hd hf hr hs hl
    simp only [linkRows, List.map_cons, hids, hts, hds, hfs, hrs, hss, htargets, hls, and_self]

theorem length_linkTypeItems {size : Nat} {members : List (String × Json)} {listed : List Json}
    (h : linkTypeItems size members = .ok listed) : listed.length = size := by
  unfold linkTypeItems at h
  split at h
  · cases h
    exact List.length_replicate
  · obtain ⟨types, -, h⟩ := bind_eq_ok.mp h
    split at h
    · rename_i hlength
      cases h
      exact hlength
    · cases h

theorem givesLinks {members : List (String × Json)} {rows : List (Link α)}
    (h : links members = .ok rows) : GivesLinks members rows := by
  unfold links at h
  simp only [bind_eq_ok, pure_eq_ok] at h
  obtain ⟨ids, hids, listed, hlisted, settings, hs, types, ht, depths, hd, flows, hf, directions,
    hr, times, hl, rfl⟩ := h
  have htypes : types.length = ids.length := by
    rw [← (forall₂_of_mapM ht).length_eq, length_linkTypeItems hlisted]
  obtain ⟨hmap, hts, hds, hfs, hrs, hss, htargets, hls⟩ := map_linkRows htypes (length_columnOf hd)
    (length_columnOf hf) (length_columnOf hr) (length_columnOf hs) (length_columnOf hl)
  have hlength : (linkRows ids types depths flows directions settings times).length =
      ids.length := by
    rw [← List.length_map Link.id, hmap]
  constructor
  · rw [hmap]
    exact hids
  · rw [hlength, hts]
    exact ⟨listed, hlisted, ht⟩
  · intro c hc
    rw [hlength]
    cases c with
    | depth => exact hd.trans (congrArg _ hds.symm)
    | flow => exact hf.trans (congrArg _ hfs.symm)
    | direction => exact hr.trans (congrArg _ hrs.symm)
    | setting => exact hs.trans (congrArg _ hss.symm)
    | targetSetting => exact absurd rfl hc
    | timeLastSet => exact hl.trans (congrArg _ hls.symm)
  · rw [htargets, hss]

/-! ## 3. Tables -/

theorem name_of_make? {name : String} {xs ys : List α} {t : Table α}
    (h : Table.make? name xs ys = .ok t) : t.name = name := by
  unfold Table.make? at h
  split at h
  · cases h
  split at h
  · cases h
  · cases h
    rfl

theorem name_of_curve {name : String} {points : Json} {t : Table α}
    (h : curve name points = .ok t) : t.name = name := by
  obtain ⟨xs, ys, h⟩ := make?_of_curve h
  exact name_of_make? h

theorem name_of_timeSeries [TimeReader α] {origin : Origin α} {name : String} {entries : Json}
    {t : Table α} (h : timeSeries origin name entries = .ok t) : t.name = name := by
  obtain ⟨xs, ys, h⟩ := make?_of_timeSeries h
  exact name_of_make? h

/-- The tables that a section gives, one for each of its members. -/
def GivesTables (read : String → Json → Except DatasetError (Table α))
    (members : List (String × Json)) (tables : List (Table α)) : Prop :=
  List.Forall₂ (fun m t => t.name = m.1 ∧ read m.1 m.2 = .ok t) members tables

omit [Scalar α] in
theorem givesTables {read : String → Json → Except DatasetError (Table α)}
    (hread : ∀ {name j t}, read name j = .ok t → t.name = name)
    {members : List (String × Json)} {tables : List (Table α)}
    (h : members.mapM (fun m => read m.1 m.2) = .ok tables) : GivesTables read members tables := by
  refine (forall₂_of_mapM h).imp ?_
  intro m t ht
  exact ⟨hread ht, ht⟩

omit [Scalar α] in
theorem GivesTables.names {read : String → Json → Except DatasetError (Table α)}
    {members : List (String × Json)} {tables : List (Table α)}
    (h : GivesTables read members tables) : members.map Prod.fst = tables.map Table.name := by
  induction h with
  | nil => rfl
  | cons hhead _ ih => rw [List.map_cons, List.map_cons, hhead.1, ih]

/-! ## 4. The whole dataset -/

/-- The ids of the objects of a kind that a dataset lists. -/
def listed (data : Json) : ObjectKind → Except DatasetError (List String)
  | .node => sectionIn "nodes" data >>= ids
  | .link => sectionIn "links" data >>= ids
  | .curve => (sectionIn "curves" data).map (List.map Prod.fst)
  | .timeSeries => (sectionIn "timeseries" data).map (List.map Prod.fst)

/-- What stands at the positions of a network is what a dataset gives. -/
structure Gives [TimeReader α] (data : Json) (origin : Origin α) (n : Network α) : Prop where
  nodes : ∃ members, sectionIn "nodes" data = .ok members ∧ GivesNodes members n.state.nodes
  links : ∃ members, sectionIn "links" data = .ok members ∧ GivesLinks members n.state.links
  curves : ∃ members, sectionIn "curves" data = .ok members ∧ GivesTables curve members n.curves
  series : ∃ members, sectionIn "timeseries" data = .ok members ∧
    GivesTables (timeSeries origin) members n.series

variable {data : Json} {origin : Origin α} {n : Network α}

theorem gives [TimeReader α] (h : load data origin = .ok n) : Gives data origin n := by
  have hfrom := loadedFrom h
  constructor
  · obtain ⟨members, hmembers, hnodes⟩ := hfrom.nodes
    exact ⟨members, hmembers, givesNodes hnodes⟩
  · obtain ⟨members, hmembers, hlinks⟩ := hfrom.links
    exact ⟨members, hmembers, givesLinks hlinks⟩
  · obtain ⟨members, hmembers, hcurves⟩ := hfrom.curves
    exact ⟨members, hmembers, givesTables name_of_curve hcurves⟩
  · obtain ⟨members, hmembers, hseries⟩ := hfrom.series
    exact ⟨members, hmembers, givesTables name_of_timeSeries hseries⟩

theorem Gives.listed [TimeReader α] (h : Gives data origin n) (kind : ObjectKind) :
    listed data kind = .ok (n.names kind) := by
  cases kind with
  | node =>
    obtain ⟨members, hmembers, hnodes⟩ := h.nodes
    exact bind_eq_ok.mpr ⟨members, hmembers, hnodes.ids⟩
  | link =>
    obtain ⟨members, hmembers, hlinks⟩ := h.links
    exact bind_eq_ok.mpr ⟨members, hmembers, hlinks.ids⟩
  | curve =>
    obtain ⟨members, hmembers, hcurves⟩ := h.curves
    exact map_eq_ok.mpr ⟨members, hmembers, hcurves.names⟩
  | timeSeries =>
    obtain ⟨members, hmembers, hseries⟩ := h.series
    exact map_eq_ok.mpr ⟨members, hmembers, hseries.names⟩

/-- At the start the targets are the settings. -/
theorem targetSetting_of_load [TimeReader α] (h : load data origin = .ok n) :
    ∀ l ∈ n.state.links, l.targetSetting = l.setting := by
  obtain ⟨members, -, hlinks⟩ := (gives h).links
  exact List.map_inj_left.mp hlinks.targets

theorem nodup_names [TimeReader α] (h : load data origin = .ok n) (kind : ObjectKind) :
    (n.names kind).Nodup :=
  IdIndex.nodup_of_ofList ((loadedFrom h).indexes kind)

/-- **A name is found exactly where the dataset lists it**, kind by kind, and what stands there
is what the dataset gives for it. A dataset that lists a name twice for one kind is refused. -/
theorem load_resolves [TimeReader α] (data : Json) (origin : Origin α) :
    (∀ n, load data origin = .ok n → Gives data origin n ∧
      ∀ kind, ∃ ids, listed data kind = .ok ids ∧ ids.Nodup ∧ n.names kind = ids ∧
        ∀ id, (n.find? kind id = none ↔ id ∉ ids) ∧
          ∀ i, n.find? kind id = some i ↔ ids[i]? = some id) ∧
    ∀ kind ids, listed data kind = .ok ids → ¬ ids.Nodup → ∃ e, load data origin = .error e := by
  constructor
  · intro n h
    refine ⟨gives h, ?_⟩
    intro kind
    have hindex := (loadedFrom h).indexes kind
    have haligned := IdIndex.isAligned_of_ofList hindex
    have hids : (n.ids kind).ids = n.names kind := IdIndex.ids_of_ofList hindex
    have hnodup : (n.ids kind).ids.Nodup := hids ▸ nodup_names h kind
    refine ⟨n.names kind, (gives h).listed kind, nodup_names h kind, rfl, ?_⟩
    intro id
    rw [← hids]
    exact ⟨haligned.find?_eq_none, fun i => haligned.find?_eq_some hnodup⟩
  · intro kind ids hids htwice
    cases hload : load data origin with
    | error e => exact ⟨e, rfl⟩
    | ok n =>
      have hlisted := (gives hload).listed kind
      rw [hids, Except.ok.injEq] at hlisted
      rw [hlisted] at htwice
      exact absurd (nodup_names hload kind) htwice

end Dataset

end

/-- Two nodes, and a link and a curve that are called like one of them. -/
def namesakes : Json :=
  .object [("nodes", .object [("id", .array [.text "A", .text "B"]),
      ("depth", .array [.int 1, .int 2])]),
    ("links", .object [("id", .array [.text "B"]), ("type", .array [.text "PUMP"])]),
    ("curves", .object [("A", .array [.array [.int 0, .int 1]])])]

/-- Two nodes whose ids are written differently and read the same. -/
def sameLabels : Json :=
  .object [("nodes", .object [("id", .array [.int 1, .text "1"])])]

open scoped Readers in
theorem load_resolves_namesakes : (∃ n : Network Rat,
    Dataset.load namesakes .epoch = .ok n ∧ Dataset.Gives namesakes .epoch n ∧
      n.find? .node "B" = some 1 ∧ n.find? .link "B" = some 0 ∧ n.find? .curve "B" = none) ∧
    ∃ e, Dataset.load sameLabels (.epoch : Origin Rat) = .error e := by
  constructor
  · obtain ⟨n, hload⟩ : ∃ n, Dataset.load namesakes (.epoch : Origin Rat) = .ok n :=
      exists_ok_of_isOk (by decide +kernel)
    obtain ⟨hgives, hresolves⟩ := (Dataset.load_resolves namesakes .epoch).1 n hload
    refine ⟨n, hload, hgives, ?_, ?_, ?_⟩
    · obtain ⟨ids, hids, -, -, hfind⟩ := hresolves .node
      cases hids
      exact ((hfind "B").2 1).mpr rfl
    · obtain ⟨ids, hids, -, -, hfind⟩ := hresolves .link
      cases hids
      exact ((hfind "B").2 0).mpr rfl
    · obtain ⟨ids, hids, -, -, hfind⟩ := hresolves .curve
      cases hids
      exact (hfind "B").1.mpr (by decide)
  · exact (Dataset.load_resolves sameLabels .epoch).2 .node ["1", "1"] (by decide +kernel)
      (by decide)

end Sluice
