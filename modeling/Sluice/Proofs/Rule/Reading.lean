import Sluice.Proofs.Rule.Refusal

/-!
# What action clauses are read as

Whoever reasons about actions wants to know what an action can be that some clause was read as,
and not which of eight functions has looked at which token. `Clause.Yields` lists the settings
that the reader yields, with everything that it has made sure of, and **an action that was read
has one of them, and is on a link of the type that it was read for** (`action_eq_ok`).
-/

set_option autoImplicit false

namespace Sluice

namespace Clause

variable {α : Type} [Scalar α] {n : Network α} {last : Option (Premise α)} {m : Mode α}
  {word : String} {rest rest' : List String} {type : LinkType}

/-- The settings that are read for an attribute of a link of some type, where `last` is the
premise that a modulated setting refers to. -/
inductive Yields (n : Network α) (type : LinkType) (last : Option (Premise α)) :
    Attribute → Mode α → Prop
  | status (isOpen : Bool) (htype : type.hasStatus = true) :
      Yields n type last .status (.fixed (statusValue isOpen))
  | number {x : α} (htype : type ≠ .conduit) (hrange : inRange type x = true) :
      Yields n type last .setting (.fixed x)
  | curve {id : String} {i : Nat} {p : Premise α} (htype : type ≠ .conduit)
      (hi : position n .curve id = .ok i) (hlast : last = some p) :
      Yields n type last .setting (.curve i p.left)
  | timeSeries {id : String} {i : Nat} (htype : type ≠ .conduit)
      (hi : position n .timeSeries id = .ok i) : Yields n type last .setting (.timeSeries i)
  | pid (kp ki kd : α) {p : Premise α} (htype : type ≠ .conduit) (hlast : last = some p) :
      Yields n type last .setting
        (.pid ⟨p.left, p.right, kp, ki, kd, Scalar.zero, Scalar.zero⟩)

theorem settingMode_eq_ok (htype : type ≠ .conduit)
    (h : settingMode n type last word rest = .ok (m, rest')) : Yields n type last .setting m := by
  unfold settingMode at h
  split at h
  · unfold curveMode at h
    obtain ⟨⟨id, after⟩, -, h⟩ := bind_eq_ok.mp h
    obtain ⟨i, hi, h⟩ := bind_eq_ok.mp h
    obtain ⟨p, hp, h⟩ := bind_eq_ok.mp h
    cases h
    exact .curve htype hi (controlling_eq_ok hp)
  · unfold seriesMode at h
    obtain ⟨⟨id, after⟩, -, h⟩ := bind_eq_ok.mp h
    obtain ⟨i, hi, h⟩ := bind_eq_ok.mp h
    cases h
    exact .timeSeries htype hi
  · unfold pidMode at h
    obtain ⟨⟨kp, after⟩, -, h⟩ := bind_eq_ok.mp h
    obtain ⟨⟨ki, after'⟩, -, h⟩ := bind_eq_ok.mp h
    obtain ⟨⟨kd, after''⟩, -, h⟩ := bind_eq_ok.mp h
    obtain ⟨p, hp, h⟩ := bind_eq_ok.mp h
    cases h
    exact .pid kp ki kd htype (controlling_eq_ok hp)
  · obtain ⟨x, -, h⟩ := bind_eq_ok.mp h
    split at h
    · rename_i hrange
      cases h
      exact .number htype hrange
    · cases h

theorem mode_eq_ok {attr : Attribute} {name : String}
    (h : mode n type attr name last word rest = .ok (m, rest')) : Yields n type last attr m := by
  have hstatus : ∀ words, type.hasStatus = true →
      (status words word).map (fun x => (Mode.fixed x, rest)) = .ok (m, rest') →
      Yields n type last .status m := by
    intro words htype h
    obtain ⟨x, hx, h⟩ := map_eq_ok.mp h
    obtain ⟨isOpen, -, rfl⟩ := map_eq_ok.mp hx
    cases h
    exact .status isOpen htype
  unfold mode at h
  split at h
  · exact hstatus _ rfl h
  · exact hstatus _ rfl h
  · cases h
  · rename_i hconduit
    exact settingMode_eq_ok hconduit h
  · cases h

theorem action_eq_ok {tokens : List String} {a : Action α} (h : action n last tokens = .ok a) :
    ∃ l, n.state.links[a.link]? = some l ∧ position n .link a.linkId = .ok a.link ∧
      Yields n l.type last a.attr a.mode := by
  rw [action.eq_def] at h
  split at h
  · obtain ⟨type, -, h⟩ := bind_eq_ok.mp h
    obtain ⟨link, hlink, h⟩ := bind_eq_ok.mp h
    obtain ⟨attr, -, h⟩ := bind_eq_ok.mp h
    dsimp only at h
    split at h
    · cases h
    · obtain ⟨⟨m, after⟩, hm, h⟩ := bind_eq_ok.mp h
      obtain ⟨⟨⟩, -, h⟩ := bind_eq_ok.mp h
      cases h
      obtain ⟨i, hi, hlink⟩ := bind_eq_ok.mp hlink
      split at hlink
      · rename_i htype
        cases hlink
        obtain ⟨l, hl, rfl⟩ := Option.map_eq_some_iff.mp htype
        exact ⟨l, hl, hi, mode_eq_ok hm⟩
      · cases hlink
  · cases h

end Clause

end Sluice
