import Sluice.Proofs.Outcome
import Sluice.Rule.Clause

/-!
# How a clause is refused

A clause that is not accepted is refused with a fault, and a fault that comes out of a clause
does not say where it is: its line and its rule are filled in by whoever asked for the clause to
be read. There is one way to fail that is no fault, a time literal with a number beyond all
bounds, and everything that stops at a fault has to be asked what it does about that one.

So this file says where it can come from. **An action and a priority fail with a fault or not at
all**, and **a premise fails with something else exactly if it compares with such a literal**
(`premise_eq_tooLarge_iff`): its left hand side and its relation are in order, and the literal is
the next token.

There is one lemma for each function that reads a part of a clause, and the later ones only use
the earlier ones.
-/

set_option autoImplicit false

namespace Sluice

/-- A fault that does not say yet where it is, and that is not about a rule as a whole. -/
def ClauseError.IsUnplaced : ClauseError → Prop
  | .fault f => f.line = none ∧ f.ruleId = none ∧ f.cause ≠ .incomplete
  | .tooLarge => False

namespace Clause

variable {α β γ : Type}

/-- An outcome that is a fault if it is an error. -/
abbrev OnlyFaults (x : Except ClauseError β) : Prop := FailsWith ClauseError.IsUnplaced x

theorem OnlyFaults.ne_tooLarge {x : Except ClauseError β} (h : OnlyFaults x) :
    x ≠ .error .tooLarge :=
  fun hx => h _ hx

/-- Behind a step that fails only with faults, the question is what the rest does. -/
theorem OnlyFaults.bind_eq_tooLarge_iff {x : Except ClauseError β} (h : OnlyFaults x)
    {f : β → Except ClauseError γ} :
    (x >>= f) = .error .tooLarge ↔ ∃ b, x = .ok b ∧ f b = .error .tooLarge := by
  rw [bind_eq_error]
  constructor
  · rintro (hx | hf)
    · exact absurd hx h.ne_tooLarge
    · exact hf
  · exact Or.inr

/-! ## 1. Tokens -/

theorem fail_onlyFaults (cause : FaultCause) (token : String) (h : cause ≠ .incomplete) :
    OnlyFaults (fail cause token : Except ClauseError β) := .error ⟨rfl, rfl, h⟩

theorem failPlain_onlyFaults (cause : FaultCause) (h : cause ≠ .incomplete) :
    OnlyFaults (failPlain cause : Except ClauseError β) := .error ⟨rfl, rfl, h⟩

theorem next_onlyFaults (tokens : List String) : OnlyFaults (next tokens) := by
  cases tokens with
  | nil => exact failPlain_onlyFaults _ nofun
  | cons t rest => exact .ok _

theorem next_eq_ok {tokens rest : List String} {token : String} :
    next tokens = .ok (token, rest) ↔ tokens = token :: rest := by
  cases tokens with
  | nil => exact iff_of_false nofun nofun
  | cons t ts => simp [next]

theorem finish_onlyFaults (tokens : List String) : OnlyFaults (finish tokens) := by
  cases tokens with
  | nil => exact .ok _
  | cons t rest =>
    refine fail_onlyFaults _ t ?_
    split
    · exact nofun
    · exact nofun

theorem keyword_onlyFaults (find? : String → Option β) (token : String) :
    OnlyFaults (keyword find? token) := by
  unfold keyword
  split
  · exact .ok _
  · exact fail_onlyFaults _ _ nofun

theorem keyword_eq_ok {find? : String → Option β} {token : String} {x : β} :
    keyword find? token = .ok x ↔ find? token = some x := by
  unfold keyword
  split
  · rename_i y hy
    simp [hy]
  · rename_i hnone
    simp [hnone, fail]

theorem position_onlyFaults (n : Network α) (kind : ObjectKind) (id : String) :
    OnlyFaults (position n kind id) := by
  unfold position
  split
  · exact .ok _
  · exact fail_onlyFaults _ _ nofun

section

variable [Scalar α]

theorem number_onlyFaults (token : String) :
    OnlyFaults (number token : Except ClauseError α) := by
  unfold number
  split
  · exact .ok _
  · exact fail_onlyFaults _ _ nofun

theorem status_onlyFaults (words : List (String × Bool)) (token : String) :
    OnlyFaults (status words token : Except ClauseError α) :=
  (keyword_onlyFaults _ _).map

theorem countedUpTo_onlyFaults (limit : Int) (token : String) :
    OnlyFaults (countedUpTo limit token : Except ClauseError α) := by
  refine (number_onlyFaults token).bind fun x => ?_
  split
  · exact .ok _
  · exact fail_onlyFaults _ _ nofun

end

/-! ## 2. Values -/

theorem timeLiteral_eq_tooLarge_iff (token : String) (read : Except TimeLiteralError β) :
    timeLiteral token read = .error .tooLarge ↔ read = .error .tooLarge := by
  cases read with
  | ok x => exact iff_of_false nofun nofun
  | error e =>
    cases e with
    | tooLarge => exact iff_of_true rfl rfl
    | invalidTime t => exact iff_of_false nofun nofun
    | invalidDate t => exact iff_of_false nofun nofun
    | invalidDayOfYear t => exact iff_of_false nofun nofun
    | undefinedDigits => exact iff_of_false nofun nofun

theorem timeLiteral_fails (token : String) (read : Except TimeLiteralError β) :
    FailsWith (fun e => e = .tooLarge ∨ e.IsUnplaced) (timeLiteral token read) := by
  unfold timeLiteral
  split
  · exact .ok _
  · exact .error (Or.inl rfl)
  · exact .error (Or.inr ⟨rfl, rfl, nofun⟩)

theorem dateOrdinal_ne_tooLarge (α : Type) [TimeReader α] (token : String) :
    TimeLiteral.dateOrdinal α token ≠ .error .tooLarge := by
  unfold TimeLiteral.dateOrdinal
  split
  · exact nofun
  · exact nofun

/-- The literal that an attribute is compared with holds a number that is too large: too many
hours or seconds to be a scalar, or a month or a day beyond 32 bits. -/
def IsTooLarge (α : Type) [Scalar α] [TimeReader α] (a : Attribute) (token : String) : Prop :=
  match a with
  | .time | .clockTime | .timeOpen | .timeClosed =>
    (TimeLiteral.hours token : Except TimeLiteralError α) = .error .tooLarge
  | .dayOfYear => TimeLiteral.dayOfYear token = .error .tooLarge
  | _ => False

variable [Scalar α]

theorem value_eq_tooLarge_iff [TimeReader α] (a : Attribute) (token : String) :
    (value a token : Except ClauseError α) = .error .tooLarge ↔ IsTooLarge α a token := by
  cases a with
  | time | clockTime | timeOpen | timeClosed => exact timeLiteral_eq_tooLarge_iff _ _
  | dayOfYear =>
    -- the number of the day is read first and becomes a whole number afterwards
    show (timeLiteral token (TimeLiteral.dayOfYear token) >>= fun day : Nat =>
      pure (day : Int)).map _ = _ ↔ _
    rw [map_eq_error, bind_eq_error, timeLiteral_eq_tooLarge_iff]
    exact or_iff_left (by rintro ⟨day, -, h⟩; cases h)
  | date =>
    show (timeLiteral token _).map _ = _ ↔ False
    rw [map_eq_error, timeLiteral_eq_tooLarge_iff]
    exact iff_of_false (dateOrdinal_ne_tooLarge α token) id
  | status => exact iff_of_false (status_onlyFaults _ _).ne_tooLarge id
  | day | month => exact iff_of_false (countedUpTo_onlyFaults _ _).ne_tooLarge id
  | depth | head | volume | inflow | flow | setting =>
    exact iff_of_false (number_onlyFaults _).ne_tooLarge id

theorem value_fails [TimeReader α] (a : Attribute) (token : String) :
    FailsWith (fun e => e = .tooLarge ∨ e.IsUnplaced) (value a token : Except ClauseError α) := by
  cases a with
  | time | clockTime | timeOpen | timeClosed => exact timeLiteral_fails _ _
  | date => exact (timeLiteral_fails _ _).map
  | dayOfYear => exact ((timeLiteral_fails _ _).bind fun _ => .ok _).map
  | status => exact (status_onlyFaults _ _).mono fun _ => Or.inr
  | day | month => exact (countedUpTo_onlyFaults _ _).mono fun _ => Or.inr
  | depth | head | volume | inflow | flow | setting =>
    exact (number_onlyFaults _).mono fun _ => Or.inr

/-! ## 3. Premises -/

omit [Scalar α] in
theorem objectPosition_onlyFaults (n : Network α) (object : ObjectType) (tokens : List String) :
    OnlyFaults (objectPosition n object tokens) := by
  unfold objectPosition
  split
  · exact .ok _
  · refine (next_onlyFaults tokens).bind fun ⟨id, rest⟩ => ?_
    exact (position_onlyFaults n _ id).bind fun _ => .ok _

omit [Scalar α] in
theorem variableAndRest_onlyFaults (n : Network α) (tokens : List String) :
    OnlyFaults (variableAndRest n tokens) := by
  refine (next_onlyFaults tokens).bind fun ⟨word, rest⟩ => ?_
  refine (keyword_onlyFaults _ word).bind fun object => ?_
  refine (objectPosition_onlyFaults n object rest).bind fun ⟨position, rest⟩ => ?_
  refine (next_onlyFaults rest).bind fun ⟨name, rest⟩ => ?_
  refine (keyword_onlyFaults _ name).bind fun attr => ?_
  split
  · exact .ok _
  · exact fail_onlyFaults _ _ nofun

theorem operand_fails [TimeReader α] (n : Network α) (left : Attribute) (tokens : List String) :
    FailsWith (fun e => e = .tooLarge ∨ e.IsUnplaced) (operand n left tokens) := by
  refine ((next_onlyFaults tokens).mono fun _ => Or.inr).bind fun ⟨token, rest⟩ => ?_
  dsimp only
  split
  · refine ((variableAndRest_onlyFaults n tokens).mono fun _ => Or.inr).bind fun ⟨v, rest⟩ => ?_
    dsimp only
    split
    · exact .ok _
    · exact (fail_onlyFaults .operands _ nofun).mono fun _ => Or.inr
  · exact (value_fails left token).bind fun _ => .ok _

theorem premiseAndRest_fails [TimeReader α] (n : Network α) (joint : Joint) (tokens : List String) :
    FailsWith (fun e => e = .tooLarge ∨ e.IsUnplaced) (premiseAndRest n joint tokens) := by
  unfold premiseAndRest
  split
  · exact (failPlain_onlyFaults .tooFewItems nofun).mono fun _ => Or.inr
  · refine ((variableAndRest_onlyFaults n _).mono fun _ => Or.inr).bind fun ⟨left, rest⟩ => ?_
    refine ((next_onlyFaults rest).mono fun _ => Or.inr).bind fun ⟨sign, rest⟩ => ?_
    refine ((keyword_onlyFaults _ sign).mono fun _ => Or.inr).bind fun relation => ?_
    exact (operand_fails n left.attr rest).bind fun _ => .ok _

theorem premise_fails [TimeReader α] (n : Network α) (joint : Joint) (tokens : List String) :
    FailsWith (fun e => e = .tooLarge ∨ e.IsUnplaced) (premise n joint tokens) := by
  refine (premiseAndRest_fails n joint tokens).bind fun ⟨p, rest⟩ => ?_
  exact ((finish_onlyFaults rest).mono fun _ => Or.inr).bind fun _ => .ok _

theorem operand_eq_tooLarge_iff [TimeReader α] (n : Network α) (left : Attribute) (token : String)
    (rest : List String) : operand n left (token :: rest) = .error .tooLarge ↔
      ObjectType.find? token = none ∧ IsTooLarge α left token := by
  show (if (ObjectType.find? token).isSome then _ else _) = _ ↔ _
  by_cases hobject : (ObjectType.find? token).isSome = true
  · -- a variable on the right hand side
    rw [if_pos hobject, (variableAndRest_onlyFaults n _).bind_eq_tooLarge_iff]
    refine iff_of_false ?_ fun h => by simp [h.1] at hobject
    rintro ⟨⟨v, after⟩, -, h⟩
    dsimp only at h
    split at h
    · cases h
    · exact (fail_onlyFaults .operands _ nofun).ne_tooLarge h
  · rw [if_neg hobject, bind_eq_error, value_eq_tooLarge_iff]
    have hnone : ObjectType.find? token = none := by simpa using hobject
    constructor
    · rintro (h | ⟨x, -, h⟩)
      · exact ⟨hnone, h⟩
      · cases h
    · exact fun h => Or.inl h.2

/-- A premise clause that is in order up to a literal that is too large. -/
def EndsTooLarge [TimeReader α] (n : Network α) (tokens : List String) : Prop :=
  premiseLength ≤ tokens.length ∧ ∃ left sign token rest,
    variableAndRest n tokens.tail = .ok (left, sign :: token :: rest) ∧
      (Relation.find? sign).isSome = true ∧ ObjectType.find? token = none ∧
      IsTooLarge α left.attr token

/-- **What it takes for a premise to be refused without a fault.** -/
theorem premise_eq_tooLarge_iff [TimeReader α] (n : Network α) (joint : Joint)
    (tokens : List String) :
    premise n joint tokens = .error .tooLarge ↔ EndsTooLarge n tokens := by
  have hrest : premise n joint tokens = .error .tooLarge ↔
      premiseAndRest n joint tokens = .error .tooLarge := by
    unfold premise
    rw [bind_eq_error]
    refine or_iff_left ?_
    rintro ⟨⟨p, rest⟩, -, h⟩
    rw [(finish_onlyFaults rest).bind_eq_tooLarge_iff] at h
    obtain ⟨_, -, h⟩ := h
    cases h
  rw [hrest]
  unfold premiseAndRest EndsTooLarge
  by_cases hlength : tokens.length < premiseLength
  · rw [if_pos hlength]
    refine iff_of_false (failPlain_onlyFaults .tooFewItems nofun).ne_tooLarge fun h => ?_
    exact absurd h.1 (Nat.not_le.mpr hlength)
  rw [if_neg hlength, (variableAndRest_onlyFaults n _).bind_eq_tooLarge_iff]
  constructor
  · rintro ⟨⟨left, after⟩, hleft, h⟩
    obtain ⟨⟨sign, after'⟩, hsign, h⟩ := (next_onlyFaults after).bind_eq_tooLarge_iff.mp h
    obtain ⟨relation, hrelation, h⟩ := (keyword_onlyFaults _ sign).bind_eq_tooLarge_iff.mp h
    have hoperand : operand n left.attr after' = .error .tooLarge := by
      rcases bind_eq_error.mp h with h | ⟨⟨right, rest⟩, -, h⟩
      · exact h
      · cases h
    obtain rfl := next_eq_ok.mp hsign
    cases after' with
    | nil => exact absurd hoperand (failPlain_onlyFaults .tooFewItems nofun).ne_tooLarge
    | cons token rest =>
      refine ⟨Nat.not_lt.mp hlength, left, sign, token, rest, hleft, ?_,
        (operand_eq_tooLarge_iff n left.attr token rest).mp hoperand⟩
      rw [keyword_eq_ok.mp hrelation]
      rfl
  · rintro ⟨-, left, sign, token, rest, hleft, hrelation, htoken⟩
    obtain ⟨relation, hrelation⟩ := Option.isSome_iff_exists.mp hrelation
    have hoperand := (operand_eq_tooLarge_iff n left.attr token rest).mpr htoken
    refine ⟨_, hleft, ?_⟩
    rw [bind_eq_error]
    refine Or.inr ⟨_, next_eq_ok.mpr rfl, ?_⟩
    rw [bind_eq_error]
    refine Or.inr ⟨relation, keyword_eq_ok.mpr hrelation, ?_⟩
    exact bind_eq_error.mpr (Or.inl hoperand)

/-! ## 4. Actions -/

omit [Scalar α] in
theorem controlling_onlyFaults (last : Option (Premise α)) : OnlyFaults (controlling last) := by
  cases last with
  | none => exact failPlain_onlyFaults _ nofun
  | some p => exact .ok _

omit [Scalar α] in
theorem controlling_eq_ok {last : Option (Premise α)} {p : Premise α}
    (h : controlling last = .ok p) : last = some p := by
  cases last with
  | none => cases h
  | some q =>
    cases h
    rfl

theorem nextNumber_onlyFaults (tokens : List String) :
    OnlyFaults (nextNumber tokens : Except ClauseError (α × List String)) := by
  refine (next_onlyFaults tokens).bind fun ⟨token, rest⟩ => ?_
  exact (number_onlyFaults token).bind fun _ => .ok _

section

variable (n : Network α) (last : Option (Premise α)) (word : String) (rest : List String)

omit [Scalar α] in
theorem curveMode_onlyFaults : OnlyFaults (curveMode n last rest) := by
  refine (next_onlyFaults rest).bind fun ⟨id, rest⟩ => ?_
  refine (position_onlyFaults n _ id).bind fun i => ?_
  exact (controlling_onlyFaults last).bind fun _ => .ok _

omit [Scalar α] in
theorem seriesMode_onlyFaults : OnlyFaults (seriesMode n rest) := by
  refine (next_onlyFaults rest).bind fun ⟨id, rest⟩ => ?_
  exact (position_onlyFaults n _ id).bind fun _ => .ok _

theorem pidMode_onlyFaults : OnlyFaults (pidMode last rest) := by
  refine (nextNumber_onlyFaults rest).bind fun ⟨kp, rest⟩ => ?_
  refine (nextNumber_onlyFaults rest).bind fun ⟨ki, rest⟩ => ?_
  refine (nextNumber_onlyFaults rest).bind fun ⟨kd, rest⟩ => ?_
  exact (controlling_onlyFaults last).bind fun _ => .ok _

theorem settingMode_onlyFaults (type : LinkType) :
    OnlyFaults (settingMode n type last word rest) := by
  unfold settingMode
  split
  · exact curveMode_onlyFaults n last rest
  · exact seriesMode_onlyFaults n rest
  · exact pidMode_onlyFaults last rest
  · refine (number_onlyFaults word).bind fun x => ?_
    split
    · exact .ok _
    · exact fail_onlyFaults _ _ nofun

theorem mode_onlyFaults (type : LinkType) (attr : Attribute) (name : String) :
    OnlyFaults (mode n type attr name last word rest) := by
  unfold mode
  split
  · exact (status_onlyFaults _ word).map
  · exact (status_onlyFaults _ word).map
  · exact fail_onlyFaults _ _ nofun
  · exact settingMode_onlyFaults n last word rest type
  · exact fail_onlyFaults _ _ nofun

end

theorem actionType_onlyFaults (word : String) : OnlyFaults (actionType word) := by
  refine (keyword_onlyFaults _ word).bind fun object => ?_
  split
  · exact .ok _
  · exact fail_onlyFaults _ _ nofun

omit [Scalar α] in
theorem linkOfType_onlyFaults (n : Network α) (type : LinkType) (id : String) :
    OnlyFaults (linkOfType n type id) := by
  refine (position_onlyFaults n _ id).bind fun i => ?_
  split
  · exact .ok _
  · exact fail_onlyFaults _ _ nofun

theorem action_onlyFaults (n : Network α) (last : Option (Premise α)) (tokens : List String) :
    OnlyFaults (action n last tokens) := by
  unfold action
  split
  · rename_i keyword object id name equals word rest
    refine (actionType_onlyFaults object).bind fun type => ?_
    refine (linkOfType_onlyFaults n type id).bind fun link => ?_
    refine (keyword_onlyFaults _ name).bind fun attr => ?_
    dsimp only
    split
    · exact fail_onlyFaults _ _ nofun
    · refine (mode_onlyFaults n last word rest type attr name).bind fun ⟨mode, rest⟩ => ?_
      exact (finish_onlyFaults rest).bind fun _ => .ok _
  · exact failPlain_onlyFaults _ nofun

end Clause

end Sluice
