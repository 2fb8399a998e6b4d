import Sluice.Calendar.Readers
import Sluice.Proofs.Rule.Comparison

/-!
# The grammar of actions

An action gives a link something new, and reads like this:

> keyword  object  id  attribute  `=`  value

What may stand for the value depends on everything in front of it, on the type of the link and
the attribute, and some values also need a premise that the action can refer to. The reader
checks all of this in the order in which it meets the tokens, and counts them twice: that there
are enough for the shortest action in front, and that there are no more than the value takes at
the end. The grammar (`IsAssignment`) is a list of the values (`Assigns`), and **the reader
accepts exactly the clauses of the grammar, as the actions that they are in it, and refuses all
others with a fault** (`action_iff_assignment`).

A value is recognised by its first token. A token that is one of the words of a modulated setting
is not read as a number, so the two directions only fit because such a word is never a number.
-/

set_option autoImplicit false

namespace Sluice

variable {α : Type} [Scalar α]

/-! ## 1. The grammar -/

/-- Tokens that stand for a value of an attribute of a link of some type, where `last` is the
premise that a modulated setting refers to. -/
inductive Assigns (n : Network α) (last : Option (Premise α)) (type : LinkType) :
    Attribute → List String → Mode α → Prop
  | opened {word : String} (htype : type = .conduit) (hword : Text.upper word = "OPEN") :
      Assigns n last type .status [word] (.fixed Scalar.one)
  | closed {word : String} (htype : type = .conduit) (hword : Text.upper word = "CLOSED") :
      Assigns n last type .status [word] (.fixed Scalar.zero)
  | on {word : String} (htype : type = .pump) (hword : Text.upper word = "ON") :
      Assigns n last type .status [word] (.fixed Scalar.one)
  | off {word : String} (htype : type = .pump) (hword : Text.upper word = "OFF") :
      Assigns n last type .status [word] (.fixed Scalar.zero)
  | number {word : String} {x : α} (htype : type ≠ .conduit) (hx : readFinite? word = some x)
      (hrange : type ≠ .pump → Scalar.zero ≤ x ∧ x ≤ Scalar.one) :
      Assigns n last type .setting [word] (.fixed x)
  | curve {word id : String} {i : Nat} {t : Table α} {p : Premise α} (htype : type ≠ .conduit)
      (hword : Text.upper word = "CURVE") (ht : n.curves[i]? = some t) (hid : t.name = id)
      (hlast : last = some p) : Assigns n last type .setting [word, id] (.curve i p.left)
  | timeSeries {word id : String} {i : Nat} {t : Table α} (htype : type ≠ .conduit)
      (hword : Text.upper word = "TIMESERIES") (ht : n.series[i]? = some t) (hid : t.name = id) :
      Assigns n last type .setting [word, id] (.timeSeries i)
  | pid {word first second third : String} {kp ki kd : α} {p : Premise α}
      (htype : type ≠ .conduit) (hword : Text.upper word = "PID")
      (hkp : readFinite? first = some kp) (hki : readFinite? second = some ki)
      (hkd : readFinite? third = some kd) (hlast : last = some p) :
      Assigns n last type .setting [word, first, second, third]
        (.pid ⟨p.left, p.right, kp, ki, kd, Scalar.zero, Scalar.zero⟩)

/-- The tokens of an action clause. -/
inductive IsAssignment (n : Network α) (last : Option (Premise α)) :
    List String → Action α → Prop
  | intro {keyword object id name : String} {ts : List String} {i : Nat} {l : Link α}
      {attr : Attribute} {m : Mode α} (hobject : Text.upper object = (ObjectType.link l.type).word)
      (hl : n.state.links[i]? = some l) (hid : l.id = id) (hname : Text.upper name = attr.word)
      (hvalue : Assigns n last l.type attr ts m) :
      IsAssignment n last (keyword :: object :: id :: name :: "=" :: ts) ⟨i, id, attr, m⟩

theorem Assigns.ne_nil {n : Network α} {last : Option (Premise α)} {type : LinkType}
    {attr : Attribute} {ts : List String} {m : Mode α} (h : Assigns n last type attr ts m) :
    ts ≠ [] := by
  cases h <;> exact List.cons_ne_nil _ _

namespace Clause

variable {n : Network α} {last : Option (Premise α)} {type : LinkType} {m : Mode α}
  {word : String} {tokens rest : List String}

/-! ## 2. The parts of a value -/

theorem status_eq_ok {words : List (String × Bool)} (hkeys : (words.map Prod.fst).Nodup) {x : α} :
    status words word = .ok x ↔
      ∃ isOpen, (Text.upper word, isOpen) ∈ words ∧ statusValue isOpen = x := by
  rw [status, map_eq_ok]
  exact exists_congr fun isOpen => and_congr_left' (keyword_eq_ok.trans (lookup_eq_some hkeys))

/-- The word of a status is the whole value. -/
theorem fixedStatus_eq_ok {words : List (String × Bool)} (hkeys : (words.map Prod.fst).Nodup) :
    (status words word).map (fun x => (Mode.fixed x, tokens)) = .ok (m, rest) ↔
      ∃ isOpen, (Text.upper word, isOpen) ∈ words ∧ m = .fixed (statusValue isOpen) ∧
        tokens = rest := by
  rw [map_eq_ok]
  constructor
  · rintro ⟨x, hx, h⟩
    obtain ⟨isOpen, hword, rfl⟩ := (status_eq_ok hkeys).mp hx
    cases h
    exact ⟨isOpen, hword, rfl, rfl⟩
  · rintro ⟨isOpen, hword, rfl, rfl⟩
    exact ⟨_, (status_eq_ok hkeys).mpr ⟨isOpen, hword, rfl⟩, rfl⟩

theorem number_eq_ok {x : α} : number word = .ok x ↔ readFinite? word = some x := by
  unfold number
  split
  · rename_i y hy
    rw [hy, Except.ok.injEq, Option.some.injEq]
  · rename_i hnone
    rw [hnone]
    exact iff_of_false nofun nofun

theorem nextNumber_eq_ok {x : α} : nextNumber tokens = .ok (x, rest) ↔
    ∃ token, tokens = token :: rest ∧ readFinite? token = some x := by
  constructor
  · intro h
    obtain ⟨⟨token, after⟩, htoken, h⟩ := bind_eq_ok.mp h
    obtain ⟨y, hy, h⟩ := bind_eq_ok.mp h
    cases h
    exact ⟨token, next_eq_ok.mp htoken, number_eq_ok.mp hy⟩
  · rintro ⟨token, rfl, hx⟩
    refine bind_eq_ok.mpr ⟨(token, rest), rfl, ?_⟩
    exact bind_eq_ok.mpr ⟨x, number_eq_ok.mpr hx, rfl⟩

omit [Scalar α] in
theorem controlling_eq_ok_iff {p : Premise α} : controlling last = .ok p ↔ last = some p := by
  refine ⟨controlling_eq_ok, ?_⟩
  rintro rfl
  rfl

theorem inRange_iff {x : α} : inRange type x = true ↔
    (type ≠ .pump → Scalar.zero ≤ x ∧ x ≤ Scalar.one) := by
  rw [inRange, Bool.or_eq_true, beq_iff_eq, Bool.and_eq_true, decide_eq_true_eq,
    decide_eq_true_eq]
  exact or_iff_not_imp_left

omit [Scalar α] in
theorem curveMode_eq_ok (hn : n.Resolves) : curveMode n last tokens = .ok (m, rest) ↔
    ∃ (id : String) (i : Nat) (t : Table α) (p : Premise α), tokens = id :: rest ∧
      n.curves[i]? = some t ∧ t.name = id ∧ last = some p ∧ m = .curve i p.left := by
  constructor
  · intro h
    obtain ⟨⟨id, after⟩, hid, h⟩ := bind_eq_ok.mp h
    obtain ⟨i, hi, h⟩ := bind_eq_ok.mp h
    obtain ⟨p, hp, h⟩ := bind_eq_ok.mp h
    cases h
    obtain ⟨t, ht, hname⟩ := getElem?_map_eq_some.mp (hn.position_eq_ok.mp hi)
    exact ⟨id, i, t, p, next_eq_ok.mp hid, ht, hname, controlling_eq_ok hp, rfl⟩
  · rintro ⟨id, i, t, p, rfl, ht, hname, hlast, rfl⟩
    have hi : (n.names .curve)[i]? = some id := getElem?_map_eq_some.mpr ⟨t, ht, hname⟩
    refine bind_eq_ok.mpr ⟨(id, rest), rfl, ?_⟩
    refine bind_eq_ok.mpr ⟨i, hn.position_eq_ok.mpr hi, ?_⟩
    exact bind_eq_ok.mpr ⟨p, controlling_eq_ok_iff.mpr hlast, rfl⟩

omit [Scalar α] in
theorem seriesMode_eq_ok (hn : n.Resolves) : seriesMode n tokens = .ok (m, rest) ↔
    ∃ (id : String) (i : Nat) (t : Table α), tokens = id :: rest ∧ n.series[i]? = some t ∧
      t.name = id ∧ m = .timeSeries i := by
  constructor
  · intro h
    obtain ⟨⟨id, after⟩, hid, h⟩ := bind_eq_ok.mp h
    obtain ⟨i, hi, h⟩ := bind_eq_ok.mp h
    cases h
    obtain ⟨t, ht, hname⟩ := getElem?_map_eq_some.mp (hn.position_eq_ok.mp hi)
    exact ⟨id, i, t, next_eq_ok.mp hid, ht, hname, rfl⟩
  · rintro ⟨id, i, t, rfl, ht, hname, rfl⟩
    have hi : (n.names .timeSeries)[i]? = some id := getElem?_map_eq_some.mpr ⟨t, ht, hname⟩
    refine bind_eq_ok.mpr ⟨(id, rest), rfl, ?_⟩
    exact bind_eq_ok.mpr ⟨i, hn.position_eq_ok.mpr hi, rfl⟩

theorem pidMode_eq_ok : pidMode last tokens = .ok (m, rest) ↔
    ∃ (first second third : String) (kp ki kd : α) (p : Premise α),
      tokens = first :: second :: third :: rest ∧ readFinite? first = some kp ∧
      readFinite? second = some ki ∧ readFinite? third = some kd ∧ last = some p ∧
      m = .pid ⟨p.left, p.right, kp, ki, kd, Scalar.zero, Scalar.zero⟩ := by
  constructor
  · intro h
    obtain ⟨⟨kp, rest₁⟩, hkp, h⟩ := bind_eq_ok.mp h
    obtain ⟨⟨ki, rest₂⟩, hki, h⟩ := bind_eq_ok.mp h
    obtain ⟨⟨kd, rest₃⟩, hkd, h⟩ := bind_eq_ok.mp h
    obtain ⟨p, hp, h⟩ := bind_eq_ok.mp h
    cases h
    obtain ⟨first, rfl, hfirst⟩ := nextNumber_eq_ok.mp hkp
    obtain ⟨second, rfl, hsecond⟩ := nextNumber_eq_ok.mp hki
    obtain ⟨third, rfl, hthird⟩ := nextNumber_eq_ok.mp hkd
    exact ⟨first, second, third, kp, ki, kd, p, rfl, hfirst, hsecond, hthird,
      controlling_eq_ok hp, rfl⟩
  · rintro ⟨first, second, third, kp, ki, kd, p, rfl, hkp, hki, hkd, hlast, rfl⟩
    refine bind_eq_ok.mpr ⟨_, nextNumber_eq_ok.mpr ⟨first, rfl, hkp⟩, ?_⟩
    refine bind_eq_ok.mpr ⟨_, nextNumber_eq_ok.mpr ⟨second, rfl, hki⟩, ?_⟩
    refine bind_eq_ok.mpr ⟨_, nextNumber_eq_ok.mpr ⟨third, rfl, hkd⟩, ?_⟩
    exact bind_eq_ok.mpr ⟨p, controlling_eq_ok_iff.mpr hlast, rfl⟩

/-! ## 3. Values -/

/-- A word that is spelled with capitals alone is not a number. -/
theorem readFinite?_ne_of_upper {token capitals : String} {x : α}
    (hcapitals : capitals.toList.all Char.isUpper = true) (hx : readFinite? token = some x) :
    Text.upper token ≠ capitals := by
  rintro rfl
  obtain ⟨c, hc, hupper⟩ := exists_notUpper_of_readFinite? hx
  rw [List.all_eq_true.mp hcapitals c hc] at hupper
  cases hupper

theorem settingMode_iff (hn : n.Resolves) (htype : type ≠ .conduit) :
    settingMode n type last word tokens = .ok (m, rest) ↔
      ∃ ts, word :: tokens = ts ++ rest ∧ Assigns n last type .setting ts m := by
  constructor
  · intro h
    unfold settingMode at h
    split at h
    · rename_i hword
      obtain ⟨id, i, t, p, rfl, ht, hid, hlast, rfl⟩ := (curveMode_eq_ok hn).mp h
      exact ⟨[word, id], rfl, .curve htype hword ht hid hlast⟩
    · rename_i hword
      obtain ⟨id, i, t, rfl, ht, hid, rfl⟩ := (seriesMode_eq_ok hn).mp h
      exact ⟨[word, id], rfl, .timeSeries htype hword ht hid⟩
    · rename_i hword
      obtain ⟨first, second, third, kp, ki, kd, p, rfl, hkp, hki, hkd, hlast, rfl⟩ :=
        pidMode_eq_ok.mp h
      exact ⟨[word, first, second, third], rfl, .pid htype hword hkp hki hkd hlast⟩
    · obtain ⟨x, hx, h⟩ := bind_eq_ok.mp h
      split at h
      · rename_i hrange
        cases h
        exact ⟨[word], rfl, .number htype (number_eq_ok.mp hx) (inRange_iff.mp hrange)⟩
      · cases h
  · rintro ⟨ts, htokens, h⟩
    unfold settingMode
    cases h with
    | number htype hx hrange =>
      obtain ⟨rfl, rfl⟩ := List.cons.inj htokens
      split
      · rename_i hword
        exact absurd hword (readFinite?_ne_of_upper (by decide) hx)
      · rename_i hword
        exact absurd hword (readFinite?_ne_of_upper (by decide) hx)
      · rename_i hword
        exact absurd hword (readFinite?_ne_of_upper (by decide) hx)
      · refine bind_eq_ok.mpr ⟨_, number_eq_ok.mpr hx, ?_⟩
        rw [if_pos (inRange_iff.mpr hrange)]
    | curve htype hword ht hid hlast =>
      obtain ⟨rfl, rfl⟩ := List.cons.inj htokens
      rw [hword]
      exact (curveMode_eq_ok hn).mpr ⟨_, _, _, _, rfl, ht, hid, hlast, rfl⟩
    | timeSeries htype hword ht hid =>
      obtain ⟨rfl, rfl⟩ := List.cons.inj htokens
      rw [hword]
      exact (seriesMode_eq_ok hn).mpr ⟨_, _, _, rfl, ht, hid, rfl⟩
    | pid htype hword hkp hki hkd hlast =>
      obtain ⟨rfl, rfl⟩ := List.cons.inj htokens
      rw [hword]
      exact pidMode_eq_ok.mpr ⟨_, _, _, _, _, _, _, rfl, hkp, hki, hkd, hlast, rfl⟩

/-- Reading a value takes the tokens that stand for it. -/
theorem mode_iff (hn : n.Resolves) {attr : Attribute} {name : String} :
    mode n type attr name last word tokens = .ok (m, rest) ↔
      ∃ ts, word :: tokens = ts ++ rest ∧ Assigns n last type attr ts m := by
  unfold mode
  split
  · rw [fixedStatus_eq_ok (by decide)]
    constructor
    · rintro ⟨isOpen, hword, rfl, rfl⟩
      refine ⟨[word], rfl, ?_⟩
      cases isOpen with
      | true => exact .opened rfl (by simpa [conduitWords] using hword)
      | false => exact .closed rfl (by simpa [conduitWords] using hword)
    · rintro ⟨ts, htokens, h⟩
      cases h with
      | opened htype hword =>
        obtain ⟨rfl, rfl⟩ := List.cons.inj htokens
        exact ⟨true, by rw [hword]; decide, rfl, rfl⟩
      | closed htype hword =>
        obtain ⟨rfl, rfl⟩ := List.cons.inj htokens
        exact ⟨false, by rw [hword]; decide, rfl, rfl⟩
      | on htype | off htype => cases htype
  · rw [fixedStatus_eq_ok (by decide)]
    constructor
    · rintro ⟨isOpen, hword, rfl, rfl⟩
      refine ⟨[word], rfl, ?_⟩
      cases isOpen with
      | true => exact .on rfl (by simpa [pumpWords] using hword)
      | false => exact .off rfl (by simpa [pumpWords] using hword)
    · rintro ⟨ts, htokens, h⟩
      cases h with
      | on htype hword =>
        obtain ⟨rfl, rfl⟩ := List.cons.inj htokens
        exact ⟨true, by rw [hword]; decide, rfl, rfl⟩
      | off htype hword =>
        obtain ⟨rfl, rfl⟩ := List.cons.inj htokens
        exact ⟨false, by rw [hword]; decide, rfl, rfl⟩
      | opened htype | closed htype => cases htype
  · refine iff_of_false nofun ?_
    rintro ⟨ts, -, h⟩
    cases h with
    | number htype | curve htype | timeSeries htype | pid htype => exact htype rfl
  · rename_i hconduit
    exact settingMode_iff hn hconduit
  · rename_i hsetting hconduit hpump _
    refine iff_of_false nofun ?_
    rintro ⟨ts, -, h⟩
    cases h with
    | opened htype | closed htype => exact hconduit rfl htype
    | on htype | off htype => exact hpump rfl htype
    | number | curve | timeSeries | pid => exact hsetting rfl

/-! ## 4. Actions -/

theorem actionType_eq_ok :
    actionType word = .ok type ↔ Text.upper word = (ObjectType.link type).word := by
  rw [← ObjectType.find?_eq_some, ← keyword_eq_ok]
  constructor
  · intro h
    obtain ⟨object, hobject, h⟩ := bind_eq_ok.mp h
    split at h
    · cases h
      exact hobject
    · cases h
  · intro h
    exact bind_eq_ok.mpr ⟨_, h, rfl⟩

omit [Scalar α] in
theorem linkOfType_eq_ok (hn : n.Resolves) {id : String} {i : Nat} :
    linkOfType n type id = .ok i ↔ ∃ l, n.state.links[i]? = some l ∧ l.id = id ∧ l.type = type := by
  constructor
  · intro h
    obtain ⟨j, hj, h⟩ := bind_eq_ok.mp h
    split at h
    · rename_i htype
      cases h
      obtain ⟨l, hl, htype⟩ := Option.map_eq_some_iff.mp htype
      obtain ⟨l', hl', hid⟩ := getElem?_map_eq_some.mp (hn.position_eq_ok.mp hj)
      obtain rfl : l = l' := Option.some.inj (hl.symm.trans hl')
      exact ⟨l, hl, hid, htype⟩
    · cases h
  · rintro ⟨l, hl, hid, htype⟩
    have hi : (n.names .link)[i]? = some id := getElem?_map_eq_some.mpr ⟨l, hl, hid⟩
    refine bind_eq_ok.mpr ⟨i, hn.position_eq_ok.mpr hi, ?_⟩
    rw [hl, Option.map_some, htype, if_pos rfl]

theorem action_eq_ok_iff (hn : n.Resolves) {a : Action α} :
    action n last tokens = .ok a ↔ IsAssignment n last tokens a := by
  constructor
  · intro h
    rw [action.eq_def] at h
    split at h
    · rename_i keyword object id name equals word rest
      obtain ⟨type, hobject, h⟩ := bind_eq_ok.mp h
      obtain ⟨i, hi, h⟩ := bind_eq_ok.mp h
      obtain ⟨attr, hname, h⟩ := bind_eq_ok.mp h
      dsimp only at h
      split at h
      · cases h
      · rename_i hequals
        obtain ⟨⟨m, after⟩, hm, h⟩ := bind_eq_ok.mp h
        obtain ⟨⟨⟩, hafter, h⟩ := bind_eq_ok.mp h
        cases h
        obtain ⟨l, hl, hid, rfl⟩ := (linkOfType_eq_ok hn).mp hi
        obtain ⟨ts, hts, hvalue⟩ := (mode_iff hn).mp hm
        have hend : after = [] := finish_eq_ok.mp hafter
        rw [hend, List.append_nil] at hts
        rw [hts, Decidable.not_not.mp hequals]
        exact .intro (actionType_eq_ok.mp hobject) hl hid
          (Attribute.find?_eq_some.mp (keyword_eq_ok.mp hname)) hvalue
    · cases h
  · rintro @⟨keyword, object, id, name, ts, i, l, attr, m, hobject, hl, hid, hname, hvalue⟩
    obtain ⟨word, rest, rfl⟩ := List.exists_cons_of_ne_nil hvalue.ne_nil
    have hm : mode n l.type attr name last word rest = .ok (m, []) :=
      (mode_iff hn).mpr ⟨_, (List.append_nil _).symm, hvalue⟩
    rw [action]
    refine bind_eq_ok.mpr ⟨_, actionType_eq_ok.mpr hobject, ?_⟩
    refine bind_eq_ok.mpr ⟨i, (linkOfType_eq_ok hn).mpr ⟨l, hl, hid, rfl⟩, ?_⟩
    refine bind_eq_ok.mpr ⟨attr, keyword_eq_ok.mpr (Attribute.find?_eq_some.mpr hname), ?_⟩
    dsimp only
    rw [if_neg (not_not_intro rfl)]
    exact bind_eq_ok.mpr ⟨(m, []), hm, rfl⟩

/-- **A clause is read as an action if and only if it is one of the grammar, and any other clause
is refused with a fault.** -/
theorem action_iff_assignment [TimeReader α] {data : Json} {origin : Origin α}
    (h : Dataset.load data origin = .ok n) (last : Option (Premise α)) (tokens : List String) :
    (∀ a, action n last tokens = .ok a ↔ IsAssignment n last tokens a) ∧
      ((∀ a, ¬ IsAssignment n last tokens a) →
        ∃ f, action n last tokens = .error (.fault f)) := by
  have hn := Network.resolves_of_load h
  refine ⟨fun a => action_eq_ok_iff hn, ?_⟩
  intro hnone
  cases hout : action n last tokens with
  | ok a => exact absurd ((action_eq_ok_iff hn).mp hout) (hnone a)
  | error e =>
    cases e with
    | fault f => exact ⟨f, rfl⟩
    | tooLarge => exact absurd hout (action_onlyFaults n last tokens).ne_tooLarge

end Clause

/-- An orifice that has the name of a curve. -/
def orificeAndCurve : Json :=
  .object [("nodes", .object [("id", .array [.text "N1"])]),
    ("links", .object [("id", .array [.text "PID"]), ("type", .array [.text "ORIFICE"])]),
    ("curves", .object [("PID", .array [.array [.int 0, .int 1]])])]

open scoped Readers in
theorem action_iff_assignment_orificeAndCurve : ∃ n : Network Rat,
    Dataset.load orificeAndCurve .epoch = .ok n ∧
      (∃ a, Clause.action n none ["THEN", "orifice", "PID", "Setting", "=", "0.5"] = .ok a ∧
        a.mode = .fixed (1 / 2)) ∧
      ∃ f, Clause.action n none ["ELSE", "ORIFICE", "PID", "SETTING", "=", "CURVE", "PID"] =
        .error (.fault f) := by
  obtain ⟨n, hload⟩ : ∃ n, Dataset.load orificeAndCurve (.epoch : Origin Rat) = .ok n :=
    exists_ok_of_isOk (by decide +kernel)
  have hlinks : (Dataset.load orificeAndCurve (.epoch : Origin Rat)).toOption.map
      (fun n => n.state.links.map fun l => (l.id, l.type)) = some [("PID", .orifice)] := by
    decide +kernel
  rw [hload] at hlinks
  have hlist : (n.state.links.map fun l => (l.id, l.type)) = [("PID", .orifice)] :=
    Option.some.inj hlinks
  have hfirst : (n.state.links.map fun l => (l.id, l.type))[0]? = some ("PID", .orifice) :=
    congrArg (·[0]?) hlist
  obtain ⟨l, hl, hlink⟩ := getElem?_map_eq_some.mp hfirst
  obtain ⟨hid, htype⟩ := Prod.mk.inj hlink
  have hnumber : Assigns n none l.type .setting ["0.5"] (.fixed (1 / 2)) := by
    rw [htype]
    exact .number (by decide) (by decide +kernel) fun _ => by decide +kernel
  refine ⟨n, hload, ⟨⟨0, "PID", .setting, .fixed (1 / 2)⟩, ?_, rfl⟩, ?_⟩
  · exact ((Clause.action_iff_assignment hload none _).1 _).mpr
      (.intro (by rw [htype]; decide) hl hid (by decide) hnumber)
  · refine (Clause.action_iff_assignment hload none _).2 ?_
    -- there is no premise whose variable the curve could be over
    rintro a @⟨_, _, _, _, _, _, _, _, _, _, _, _, _, hvalue⟩
    cases hvalue with
    | curve htype hword ht hid hlast => cases hlast
    | timeSeries htype hword ht hid => exact absurd hword (by decide)

end Sluice
