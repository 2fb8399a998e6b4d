import Sluice.Calendar.Readers
import Sluice.Proofs.Rule.Vocabulary

/-!
# The grammar of premises

A premise compares, and reads like this:

> keyword  variable  relation  (variable | literal)

where a variable is an object word, an id and an attribute, without the id for the simulation.
The reader does not know how long a variable is before it has read it, tests the length of the
clause in front of everything, and decides what the right hand side is by its first token.
The grammar (`IsComparison`) has none of this. **The reader accepts exactly the clauses of the
grammar, as the premises that they are in it** (`premise_iff_comparison`).

Each function that reads a part of a clause is described by the tokens that it takes from the
front: reading succeeds if and only if the tokens begin with a phrase of the grammar, and leaves
what is behind it.
-/

set_option autoImplicit false

namespace Sluice

variable {α : Type}

/-! ## 1. The grammar -/

/-- The attributes that can be asked of an object. -/
def ObjectType.attributes : ObjectType → List Attribute
  | .node => [.depth, .head, .volume, .inflow]
  | .anyLink | .link .conduit => [.status, .depth, .flow, .timeOpen, .timeClosed]
  | .link .pump => [.status, .flow, .timeOpen, .timeClosed]
  | .link .orifice | .link .weir | .link .outlet => [.setting, .timeOpen, .timeClosed]
  | .simulation => [.time, .date, .clockTime, .dayOfYear, .day, .month]

/-- Tokens that name a variable. -/
inductive NamesVariable (n : Network α) : List String → Variable → Prop
  | node {word id name : String} {i : Nat} {x : Node α} {attr : Attribute}
      (hword : Text.upper word = "NODE") (hx : n.state.nodes[i]? = some x) (hid : x.id = id)
      (hname : Text.upper name = attr.word) (hattr : attr ∈ ObjectType.node.attributes) :
      NamesVariable n [word, id, name] ⟨.node, some i, attr⟩
  | link {word id name : String} {object : ObjectType} {i : Nat} {x : Link α} {attr : Attribute}
      (hword : Text.upper word = object.word) (hlink : object.isLink = true)
      (hx : n.state.links[i]? = some x) (hid : x.id = id)
      (hname : Text.upper name = attr.word) (hattr : attr ∈ object.attributes) :
      NamesVariable n [word, id, name] ⟨object, some i, attr⟩
  | simulation {word name : String} {attr : Attribute} (hword : Text.upper word = "SIMULATION")
      (hname : Text.upper name = attr.word) (hattr : attr ∈ ObjectType.simulation.attributes) :
      NamesVariable n [word, name] ⟨.simulation, none, attr⟩

/-- Tokens that an attribute is compared with. A token that is an object word does not stand for
a literal. -/
inductive NamesOperand [Scalar α] [TimeReader α] (n : Network α) (left : Attribute) :
    List String → Operand α → Prop
  | named {tokens : List String} {v : Variable} (h : NamesVariable n tokens v)
      (hcategory : left.category = v.attr.category) : NamesOperand n left tokens (.valueOf v)
  | literal {token : String} {x : α} (hword : ∀ o : ObjectType, Text.upper token ≠ o.word)
      (hx : Clause.value left token = .ok x) : NamesOperand n left [token] (.number x)

/-- The tokens of a premise clause. -/
inductive IsComparison [Scalar α] [TimeReader α] (n : Network α) (joint : Joint) :
    List String → Premise α → Prop
  | intro {keyword sign : String} {ls rs : List String} {left : Variable} {relation : Relation}
      {right : Operand α} (hleft : NamesVariable n ls left)
      (hsign : (sign, relation) ∈ Relation.signs) (hright : NamesOperand n left.attr rs right) :
      IsComparison n joint (keyword :: (ls ++ sign :: rs)) ⟨joint, left, relation, right⟩

/-! ## 2. Variables -/

theorem hasAttribute_iff_mem {object : ObjectType} {attr : Attribute} :
    object.hasAttribute attr = true ↔ attr ∈ object.attributes := by
  cases object with
  | link t => cases t <;> cases attr <;> decide
  | node | anyLink | simulation => cases attr <;> decide

/-- Whatever names a variable begins with an object word. -/
theorem NamesVariable.exists_word {n : Network α} {ls : List String} {v : Variable}
    (h : NamesVariable n ls v) :
    ∃ word rest, ls = word :: rest ∧ Text.upper word = v.object.word := by
  cases h with
  | node hword hx hid hname hattr => exact ⟨_, _, rfl, hword⟩
  | link hword hlink hx hid hname hattr => exact ⟨_, _, rfl, hword⟩
  | simulation hword hname hattr => exact ⟨_, _, rfl, hword⟩

theorem NamesVariable.two_le_length {n : Network α} {ls : List String} {v : Variable}
    (h : NamesVariable n ls v) : 2 ≤ ls.length := by
  cases h with
  | node hword hx hid hname hattr => simp
  | link hword hlink hx hid hname hattr => simp
  | simulation hword hname hattr => simp

theorem NamesOperand.one_le_length [Scalar α] [TimeReader α] {n : Network α}
    {left : Attribute} {rs : List String} {o : Operand α} (h : NamesOperand n left rs o) :
    1 ≤ rs.length := by
  cases h with
  | named h hcategory => exact Nat.le_of_succ_le h.two_le_length
  | literal hword hx => simp

namespace Clause

section

variable {n : Network α}

/-- What follows the object word of a variable. -/
theorem objectPosition_eq_ok (hn : n.Resolves) {object : ObjectType} {tokens rest : List String}
    {p : Option Nat} : objectPosition n object tokens = .ok (p, rest) ↔
      (idKind? object = none ∧ p = none ∧ rest = tokens) ∨
      ∃ kind id i, idKind? object = some kind ∧ (n.names kind)[i]? = some id ∧ p = some i ∧
        tokens = id :: rest := by
  unfold objectPosition
  cases hkind : idKind? object with
  | none =>
    constructor
    · intro h
      cases h
      exact Or.inl ⟨rfl, rfl, rfl⟩
    · rintro (⟨-, rfl, rfl⟩ | ⟨kind, id, i, hnone, -⟩)
      · rfl
      · cases hnone
  | some kind =>
    constructor
    · intro h
      obtain ⟨⟨id, rest'⟩, hid, h⟩ := bind_eq_ok.mp h
      obtain ⟨i, hi, h⟩ := bind_eq_ok.mp h
      cases h
      exact Or.inr ⟨kind, id, i, rfl, hn.position_eq_ok.mp hi, rfl, next_eq_ok.mp hid⟩
    · rintro (⟨hnone, -⟩ | ⟨kind', id, i, hkind', hi, rfl, rfl⟩)
      · cases hnone
      · cases hkind'
        refine bind_eq_ok.mpr ⟨(id, rest), rfl, ?_⟩
        exact bind_eq_ok.mpr ⟨i, hn.position_eq_ok.mpr hi, rfl⟩

/-- The object word and the attribute around the id. -/
theorem variableAndRest_eq_ok {tokens rest : List String} {v : Variable} :
    variableAndRest n tokens = .ok (v, rest) ↔ ∃ word name after,
      tokens = word :: after ∧ Text.upper word = v.object.word ∧
      objectPosition n v.object after = .ok (v.position, name :: rest) ∧
      Text.upper name = v.attr.word ∧ v.attr ∈ v.object.attributes := by
  constructor
  · intro h
    unfold variableAndRest at h
    obtain ⟨⟨word, after⟩, hword, h⟩ := bind_eq_ok.mp h
    obtain ⟨object, hobject, h⟩ := bind_eq_ok.mp h
    obtain ⟨⟨p, after'⟩, hp, h⟩ := bind_eq_ok.mp h
    obtain ⟨⟨name, after''⟩, hname, h⟩ := bind_eq_ok.mp h
    obtain ⟨attr, hattr, h⟩ := bind_eq_ok.mp h
    rw [next_eq_ok.mp hname] at hp
    split at h
    · rename_i hhas
      cases h
      have hobject' := ObjectType.find?_eq_some.mp (keyword_eq_ok.mp hobject)
      have hattr' := Attribute.find?_eq_some.mp (keyword_eq_ok.mp hattr)
      exact ⟨word, name, after, next_eq_ok.mp hword, hobject', hp, hattr',
        hasAttribute_iff_mem.mp hhas⟩
    · cases h
  · rintro ⟨word, name, after, rfl, hword, hp, hname, hattr⟩
    unfold variableAndRest
    refine bind_eq_ok.mpr ⟨(word, after), rfl, ?_⟩
    refine bind_eq_ok.mpr ⟨v.object, keyword_eq_ok.mpr (ObjectType.find?_eq_some.mpr hword), ?_⟩
    refine bind_eq_ok.mpr ⟨(v.position, name :: rest), hp, ?_⟩
    refine bind_eq_ok.mpr ⟨(name, rest), rfl, ?_⟩
    refine bind_eq_ok.mpr ⟨v.attr, keyword_eq_ok.mpr (Attribute.find?_eq_some.mpr hname), ?_⟩
    rw [if_pos (hasAttribute_iff_mem.mpr hattr)]

/-- Reading a variable takes the tokens that name it. -/
theorem variableAndRest_iff (hn : n.Resolves) {tokens rest : List String} {v : Variable} :
    variableAndRest n tokens = .ok (v, rest) ↔
      ∃ ls, tokens = ls ++ rest ∧ NamesVariable n ls v := by
  rw [variableAndRest_eq_ok]
  constructor
  · rintro ⟨word, name, after, rfl, hword, hp, hname, hattr⟩
    obtain ⟨object, p, attr⟩ := v
    rcases (objectPosition_eq_ok hn).mp hp with
      ⟨hkind, rfl, rfl⟩ | ⟨kind, id, i, hkind, hi, rfl, rfl⟩
    · cases object with
      | simulation => exact ⟨[word, name], rfl, .simulation hword hname hattr⟩
      | node | anyLink | link t => cases hkind
    · cases object with
      | simulation => cases hkind
      | node =>
        cases hkind
        obtain ⟨x, hx, hid⟩ := getElem?_map_eq_some.mp hi
        exact ⟨[word, id, name], rfl, .node hword hx hid hname hattr⟩
      | anyLink | link t =>
        cases hkind
        obtain ⟨x, hx, hid⟩ := getElem?_map_eq_some.mp hi
        exact ⟨[word, id, name], rfl, .link hword rfl hx hid hname hattr⟩
  · rintro ⟨ls, rfl, h⟩
    cases h with
    | node hword hx hid hname hattr =>
      refine ⟨_, _, _, rfl, hword, (objectPosition_eq_ok hn).mpr (Or.inr ?_), hname, hattr⟩
      exact ⟨.node, _, _, rfl, getElem?_map_eq_some.mpr ⟨_, hx, hid⟩, rfl, rfl⟩
    | @link word id name object i x attr hword hlink hx hid hname hattr =>
      have hkind : idKind? object = some .link := by
        cases object with
        | node | simulation => cases hlink
        | anyLink | link t => rfl
      refine ⟨_, _, _, rfl, hword, (objectPosition_eq_ok hn).mpr (Or.inr ?_), hname, hattr⟩
      exact ⟨.link, _, _, hkind, getElem?_map_eq_some.mpr ⟨_, hx, hid⟩, rfl, rfl⟩
    | simulation hword hname hattr =>
      refine ⟨_, _, _, rfl, hword, (objectPosition_eq_ok hn).mpr (Or.inl ?_), hname, hattr⟩
      exact ⟨rfl, rfl, rfl⟩

end

/-! ## 3. Premises -/

variable [Scalar α] {n : Network α}

/-- Reading an operand takes the tokens that name it. -/
theorem operand_iff [TimeReader α] (hn : n.Resolves) {left : Attribute} {tokens rest : List String}
    {o : Operand α} :
    operand n left tokens = .ok (o, rest) ↔
      ∃ rs, tokens = rs ++ rest ∧ NamesOperand n left rs o := by
  unfold operand
  constructor
  · intro h
    obtain ⟨⟨token, after⟩, htoken, h⟩ := bind_eq_ok.mp h
    obtain rfl := next_eq_ok.mp htoken
    dsimp only at h
    split at h
    · obtain ⟨⟨v, after'⟩, hv, h⟩ := bind_eq_ok.mp h
      dsimp only at h
      split at h
      · rename_i hcategory
        cases h
        obtain ⟨rs, hrs, hv⟩ := (variableAndRest_iff hn).mp hv
        exact ⟨rs, hrs, .named hv hcategory⟩
      · cases h
    · rename_i hobject
      obtain ⟨x, hx, h⟩ := bind_eq_ok.mp h
      cases h
      have hnone : ObjectType.find? token = none := Option.not_isSome_iff_eq_none.mp hobject
      exact ⟨[token], rfl, .literal (ObjectType.find?_eq_none.mp hnone) hx⟩
  · rintro ⟨rs, rfl, h⟩
    cases h with
    | named h hcategory =>
      obtain ⟨word, after, rfl, hword⟩ := h.exists_word
      refine bind_eq_ok.mpr ⟨(word, after ++ rest), rfl, ?_⟩
      have hobject := ObjectType.find?_eq_some.mpr hword
      dsimp only
      rw [hobject, if_pos Option.isSome_some]
      refine bind_eq_ok.mpr ⟨_, (variableAndRest_iff hn).mpr ⟨_, rfl, h⟩, ?_⟩
      dsimp only
      rw [if_pos hcategory]
    | @literal token x hword hx =>
      refine bind_eq_ok.mpr ⟨(token, rest), rfl, ?_⟩
      have hobject := ObjectType.find?_eq_none.mpr hword
      dsimp only
      rw [hobject, if_neg nofun]
      exact bind_eq_ok.mpr ⟨x, hx, rfl⟩

theorem premiseAndRest_iff [TimeReader α] (hn : n.Resolves) {joint : Joint}
    {tokens rest : List String} {p : Premise α} :
    premiseAndRest n joint tokens = .ok (p, rest) ↔
      ∃ cs, tokens = cs ++ rest ∧ IsComparison n joint cs p := by
  unfold premiseAndRest
  constructor
  · intro h
    split at h
    · cases h
    rename_i hlength
    obtain ⟨⟨left, after⟩, hleft, h⟩ := bind_eq_ok.mp h
    obtain ⟨⟨sign, after'⟩, hsign, h⟩ := bind_eq_ok.mp h
    obtain ⟨relation, hrelation, h⟩ := bind_eq_ok.mp h
    obtain ⟨⟨right, after''⟩, hright, h⟩ := bind_eq_ok.mp h
    cases h
    obtain ⟨ls, htail, hls⟩ := (variableAndRest_iff hn).mp hleft
    obtain ⟨rs, hafter, hrs⟩ := (operand_iff hn).mp hright
    rw [next_eq_ok.mp hsign, hafter] at htail
    cases tokens with
    | nil => exact absurd (by decide) hlength
    | cons keyword tail =>
      obtain rfl : tail = ls ++ sign :: (rs ++ rest) := htail
      refine ⟨keyword :: (ls ++ sign :: rs), by simp, ?_⟩
      exact .intro hls (Relation.find?_eq_some.mp (keyword_eq_ok.mp hrelation)) hrs
  · rintro ⟨cs, rfl, h⟩
    obtain ⟨hleft, hsign, hright⟩ := h
    rename_i keyword sign ls rs left relation right
    have hlength : ¬ (keyword :: (ls ++ sign :: rs) ++ rest).length < premiseLength := by
      have hls := hleft.two_le_length
      have hrs := hright.one_le_length
      simp only [List.length_append, List.length_cons, premiseLength]
      omega
    have htail : (keyword :: (ls ++ sign :: rs) ++ rest).tail = ls ++ sign :: (rs ++ rest) := by
      simp
    rw [if_neg hlength, htail]
    refine bind_eq_ok.mpr ⟨_, (variableAndRest_iff hn).mpr ⟨ls, rfl, hleft⟩, ?_⟩
    refine bind_eq_ok.mpr ⟨(sign, rs ++ rest), rfl, ?_⟩
    refine bind_eq_ok.mpr ⟨relation, keyword_eq_ok.mpr (Relation.find?_eq_some.mpr hsign), ?_⟩
    exact bind_eq_ok.mpr ⟨_, (operand_iff hn).mpr ⟨rs, rfl, hright⟩, rfl⟩

theorem finish_eq_ok {tokens : List String} : finish tokens = .ok () ↔ tokens = [] := by
  cases tokens with
  | nil => exact iff_of_true rfl rfl
  | cons t rest => exact iff_of_false nofun nofun

/-- **A clause is read as a premise if and only if it is one of the grammar.** -/
theorem premise_iff_comparison [TimeReader α] {data : Json} {origin : Origin α}
    (h : Dataset.load data origin = .ok n) (joint : Joint) (tokens : List String) (p : Premise α) :
    premise n joint tokens = .ok p ↔ IsComparison n joint tokens p := by
  have hn := Network.resolves_of_load h
  unfold premise
  constructor
  · intro hp
    obtain ⟨⟨q, rest⟩, hq, hp⟩ := bind_eq_ok.mp hp
    obtain ⟨⟨⟩, hrest, hp⟩ := bind_eq_ok.mp hp
    obtain rfl := pure_eq_ok.mp hp
    obtain ⟨cs, htokens, hcs⟩ := (premiseAndRest_iff hn).mp hq
    rw [finish_eq_ok.mp hrest, List.append_nil] at htokens
    rw [htokens]
    exact hcs
  · intro hp
    have hread : premiseAndRest n joint tokens = .ok (p, []) :=
      (premiseAndRest_iff hn).mpr ⟨tokens, (List.append_nil tokens).symm, hp⟩
    exact bind_eq_ok.mpr ⟨(p, []), hread, rfl⟩

end Clause

/-- A node that is called like an object word, and a link that is called like an attribute. -/
def wordyNames : Json :=
  .object [("nodes", .object [("id", .array [.text "N1", .text "PUMP"])]),
    ("links", .object [("id", .array [.text "DEPTH"]), ("type", .array [.text "PUMP"])])]

open scoped Readers in
theorem premise_iff_comparison_wordyNames : ∃ n : Network Rat,
    Dataset.load wordyNames .epoch = .ok n ∧
      Clause.premise n .and ["AND", "node", "PUMP", "Depth", "<>", "NODE", "N1", "HEAD"] =
        .ok ⟨.and, ⟨.node, some 1, .depth⟩, .ne, .valueOf ⟨.node, some 0, .head⟩⟩ ∧
      Clause.premise n .or ["OR", "LINK", "DEPTH", "FLOW", ">=", "NODE", "N1", "HEAD"] =
        .ok ⟨.or, ⟨.anyLink, some 0, .flow⟩, .ge, .valueOf ⟨.node, some 0, .head⟩⟩ := by
  obtain ⟨n, hload⟩ : ∃ n, Dataset.load wordyNames (.epoch : Origin Rat) = .ok n :=
    exists_ok_of_isOk (by decide +kernel)
  have hnames : (Dataset.load wordyNames (.epoch : Origin Rat)).toOption.map
      (fun n => (n.names .node, n.names .link)) = some (["N1", "PUMP"], ["DEPTH"]) := by
    decide +kernel
  rw [hload] at hnames
  obtain ⟨hnodes, hlinks⟩ := Prod.mk.inj (Option.some.inj hnames)
  obtain ⟨first, hfirst, hfirstId⟩ :=
    getElem?_map_eq_some.mp (show (n.names .node)[0]? = some "N1" by rw [hnodes]; rfl)
  obtain ⟨second, hsecond, hsecondId⟩ :=
    getElem?_map_eq_some.mp (show (n.names .node)[1]? = some "PUMP" by rw [hnodes]; rfl)
  obtain ⟨link, hlink, hlinkId⟩ :=
    getElem?_map_eq_some.mp (show (n.names .link)[0]? = some "DEPTH" by rw [hlinks]; rfl)
  have hhead : NamesVariable n ["NODE", "N1", "HEAD"] ⟨.node, some 0, .head⟩ :=
    .node (by decide) hfirst hfirstId (by decide) (by decide)
  have hdepth : NamesVariable n ["node", "PUMP", "Depth"] ⟨.node, some 1, .depth⟩ :=
    .node (by decide) hsecond hsecondId (by decide) (by decide)
  have hflow : NamesVariable n ["LINK", "DEPTH", "FLOW"] ⟨.anyLink, some 0, .flow⟩ :=
    .link (by decide) rfl hlink hlinkId (by decide) (by decide)
  refine ⟨n, hload, ?_, ?_⟩
  · exact (Clause.premise_iff_comparison hload _ _ _).mpr
      (.intro hdepth (by decide) (.named hhead rfl))
  · exact (Clause.premise_iff_comparison hload _ _ _).mpr
      (.intro hflow (by decide) (.named hhead rfl))

end Sluice
