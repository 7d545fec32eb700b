/-
  SerialNumbers.Proofs.Variable.Agreement

  The check of a parameter and its use, side by side.  Both decide anew what a
  parameter is: the check tries a width first and then the name of a format, the
  use of a variable of the engine the other way round.  Main statement: wherever
  a variable stands for a text by itself, the check admits a parameter just when
  the variable takes it, refuses it just when the token is malformed, and fails
  just when the use fails with the same cause; and an admitted parameter has a
  shape (`Scope.parameterProblem?_decides`).
-/
import SerialNumbers.Proofs.Variable.Shape
import SerialNumbers.Proofs.Variable.Width

namespace SerialNumbers

open Pattern Text Time

/-! ## What agreement is -/

/-- What the check says of a parameter, and what the token with it stands for. -/
inductive Agrees : Except Failure (Option String) → Except Failure String → Prop where
  | admitted (text : String) : Agrees (.ok none) (.ok text)
  | refused (problem message : String) (errors : List String) :
      Agrees (.ok (some problem)) (.error (.malformed message errors))
  | unreadable (cause : BadValue) : Agrees (.error (.value cause)) (.error (.value cause))

namespace Agrees

variable {check : Except Failure (Option String)} {use : Except Failure String}

theorem admits_iff (h : Agrees check use) : check = .ok none ↔ ∃ text, use = .ok text := by
  cases h with
  | admitted text => exact ⟨fun _ => ⟨text, rfl⟩, fun _ => rfl⟩
  | refused problem message errors => exact ⟨nofun, nofun⟩
  | unreadable cause => exact ⟨nofun, nofun⟩

theorem refuses_iff (h : Agrees check use) :
    (∃ problem, check = .ok (some problem)) ↔ Malformed use := by
  cases h with
  | admitted text => exact ⟨nofun, fun hmalformed => absurd hmalformed (not_malformed_ok text)⟩
  | refused problem message errors =>
    exact ⟨fun _ => ⟨message, errors, rfl⟩, fun _ => ⟨problem, rfl⟩⟩
  | unreadable cause => exact ⟨nofun, nofun⟩

theorem fails_iff (h : Agrees check use) (e : Failure) :
    check = .error e ↔ (∃ cause, e = .value cause) ∧ use = .error e := by
  cases h with
  | admitted text => exact ⟨nofun, nofun⟩
  | refused problem message errors =>
    constructor
    · rintro ⟨⟩
    · rintro ⟨⟨cause, rfl⟩, ⟨⟩⟩
  | unreadable cause =>
    constructor
    · rintro ⟨⟩
      exact ⟨⟨cause, rfl⟩, rfl⟩
    · rintro ⟨-, h⟩
      cases h
      rfl

/-- Both read a width first, and then agree on what comes of it. -/
theorem width {most : Nat} {parameter : String} {f : Option Nat → Except Failure (Option String)}
    {g : Option Nat → Except Failure String} (h : ∀ width, Agrees (f width) (g width)) :
    Agrees (width? most parameter >>= f) (width? most parameter >>= g) := by
  cases hwidth : width? most parameter with
  | ok width => exact h width
  | error e =>
    obtain ⟨cause, rfl, -⟩ := width?_eq_error.mp hwidth
    exact .unreadable cause

end Agrees

/-! ## Variables of each kind -/

namespace Scope

variable {s : Scope} {name : String} (parameter : String)

/-- The counter takes a width and nothing else. -/
theorem agrees_counter {r : Registry} (hname : Builtin.named? name = some .counter) :
    Agrees (r.parameterProblem? name parameter) (s.resolveBuiltin .counter (some parameter)) := by
  rw [resolveBuiltin_eq]
  unfold Registry.parameterProblem? formatBuiltin
  rw [hname]
  refine Agrees.width fun width => ?_
  cases width with
  | none => exact .refused _ _ _
  | some width => exact .admitted _

/-- The other variables of the engine take the name of a format, or a width. -/
theorem agrees_field {r : Registry} {b : Builtin} (hname : Builtin.named? name = some b)
    (hb : b ≠ .counter) :
    Agrees (r.parameterProblem? name parameter) (s.resolveBuiltin b (some parameter)) := by
  have hother : (b == Builtin.counter) = false := beq_eq_false_iff_ne.mpr hb
  rw [Registry.parameterProblem?_field hname hb, resolveBuiltin_eq]
  unfold formatBuiltin
  dsimp only
  rw [hother, if_neg Bool.false_ne_true]
  cases hformat : b.format? parameter with
  | none =>
    refine Agrees.width fun width => ?_
    cases width with
    | none => exact .refused _ _ _
    | some width => exact .admitted _
  | some format =>
    -- The check reads a width before it looks for the name, and the name does not stop it.
    cases hwidth : width? maxFieldWidth parameter with
    | ok width => cases width <;> exact .admitted _
    | error e =>
      obtain ⟨cause, -, hunreadable⟩ := width?_eq_error.mp hwidth
      exact absurd hunreadable (Builtin.readable_of_format? hformat cause)

/-- A context value takes a width or the name of a case. -/
theorem agrees_context {r : Registry} (hname : Builtin.named? name = none)
    (hcustom : r.get? name = none) (value : String) :
    Agrees (r.parameterProblem? name parameter) (formatContext name value (some parameter)) := by
  unfold Registry.parameterProblem? formatContext
  rw [hname]
  dsimp only
  rw [hcustom]
  refine Agrees.width fun width => ?_
  cases width with
  | some width => exact .admitted _
  | none =>
    dsimp only
    cases upper parameter == "UPPER" with
    | true => exact .admitted _
    | false =>
      cases upper parameter == "LOWER" with
      | true => exact .admitted _
      | false => exact .refused _ _ _

end Scope

/-- The parameters of all variables are listed. -/
def Registry.ListsParameters (r : Registry) : Prop :=
  ∀ key v, r.byName.get? key = some v → ∃ names apply, v.parameters = .listed names apply

theorem Registry.Standard.listsParameters {r : Registry} (h : r.Standard) : r.ListsParameters :=
  fun key v hget => (h key v hget).listed

/-- A registered variable that stands for a text by itself has got past its conditions. -/
theorem Variable.resolveIn_some {v : Variable} {c : Context} {text : String}
    (hplain : v.resolveIn c none = .ok text) (parameter : String) :
    v.resolve c = .ok text ∧
      v.resolveIn c (some parameter) =
        if v.takesParameters then v.resolveWith c parameter
        else .error (.malformedBy ("Variable " ++ v.name ++ " does not accept parameters")) := by
  unfold resolveIn at hplain ⊢
  dsimp only at hplain ⊢
  split at hplain
  · cases hplain
  · rename_i hmissing
    obtain ⟨found, hfound, hplain⟩ := Except.bind_eq_ok.mp hplain
    split at hplain
    · cases hplain
    · rename_i hinvalid
      rw [if_neg hmissing, hfound, Except.ok_bind, if_neg hinvalid]
      exact ⟨hplain, rfl⟩

/-- A registered variable that stands for a text by itself takes the parameters that it
    lists. -/
theorem Variable.agrees {v : Variable} (hv : ∃ names apply, v.parameters = .listed names apply)
    {c : Context} {text : String} (hplain : v.resolveIn c none = .ok text)
    (name parameter : String) :
    Agrees (.ok (Registry.customProblem? name parameter v)) (v.resolveIn c (some parameter)) := by
  obtain ⟨names, apply, hlisted⟩ := hv
  obtain ⟨hvalue, huse⟩ := resolveIn_some hplain parameter
  have htakes : v.takesParameters = !names.isEmpty := by
    unfold takesParameters
    rw [hlisted]
  rw [huse, htakes]
  unfold Registry.customProblem? listedParameters resolveWith
  rw [htakes, hlisted]
  dsimp only
  cases names.isEmpty with
  | true => exact .refused _ _ _
  | false =>
    cases names.contains (upper parameter) with
    | false => exact .refused _ _ _
    | true =>
      rw [hvalue]
      exact .admitted _

namespace Scope

variable {s : Scope} {name : String}

/-- Wherever a variable stands for a text by itself, the check of a parameter and its use
    agree. -/
theorem agrees (hr : s.registry.ListsParameters) {text : String}
    (hplain : s.resolve ⟨name, none⟩ = .ok text) (parameter : String) :
    Agrees (s.registry.parameterProblem? name parameter) (s.resolve ⟨name, some parameter⟩) := by
  unfold resolve at hplain ⊢
  dsimp only at hplain ⊢
  cases hname : Builtin.named? name with
  | some b =>
    by_cases hb : b = .counter
    · subst hb
      exact agrees_counter parameter hname
    · exact agrees_field parameter hname hb
  | none =>
    rw [hname] at hplain
    dsimp only at hplain ⊢
    cases hcustom : s.registry.get? name with
    | some v =>
      rw [hcustom] at hplain
      have hcheck : s.registry.parameterProblem? name parameter =
          .ok (Registry.customProblem? name parameter v) := by
        unfold Registry.parameterProblem?
        rw [hname]
        dsimp only
        rw [hcustom]
      rw [hcheck]
      exact Variable.agrees (hr _ v hcustom) hplain name parameter
    | none =>
      rw [hcustom] at hplain
      dsimp only at hplain ⊢
      split at hplain
      · rename_i hhas
        obtain ⟨value, hvalue, -⟩ := Except.bind_eq_ok.mp hplain
        rw [if_pos hhas, hvalue]
        exact agrees_context parameter hname hcustom value
      · cases hplain

end Scope

/-! ## Shapes -/

namespace Registry

variable {r : Registry} {name parameter : String}

/-- What a variable declares is for its tokens without a parameter. -/
theorem shape_of_get? {v : Variable} (hname : Builtin.named? name = none)
    (hcustom : r.get? name = some v) (padding : Int) :
    r.shape padding ⟨name, some parameter⟩ = .ok Shape.anything := by
  unfold shape
  dsimp only
  rw [hname, hcustom]
  rfl

theorem source_of_parameter (padding : Int) :
    r.source padding ⟨name, some parameter⟩ =
      (r.shape padding ⟨name, some parameter⟩).map (·.source) := by
  unfold source
  dsimp only
  have hnone : (r.get? name).bind (declared? · (some parameter)) = none := by
    cases r.get? name <;> rfl
  rw [hnone, ite_self]

/-- An admitted parameter has a shape, and an expression for it. -/
theorem exists_source_of_admitted (h : r.parameterProblem? name parameter = .ok none)
    (padding : Int) :
    ∃ shape, r.shape padding ⟨name, some parameter⟩ = .ok shape ∧
      r.source padding ⟨name, some parameter⟩ = .ok shape.source := by
  have hshape : ∃ shape, r.shape padding ⟨name, some parameter⟩ = .ok shape := by
    cases hname : Builtin.named? name with
    | some b =>
      refine exists_shape_of_named (t := ⟨name, some parameter⟩) padding hname ?_
      rintro given ⟨⟩
      exact h
    | none =>
      cases hcustom : r.get? name with
      | some v => exact ⟨_, shape_of_get? hname hcustom padding⟩
      | none =>
        refine ⟨Shape.anything, ?_⟩
        unfold shape
        dsimp only
        rw [hname, hcustom]
  obtain ⟨shape, hshape⟩ := hshape
  refine ⟨shape, hshape, ?_⟩
  rw [source_of_parameter, hshape]
  rfl

end Registry

/-! ## Main statement -/

/-- Where the registered variables list their parameters and a name stands for a text by itself,
    the check admits a parameter just when the token with it stands for a text, refuses it just
    when that token is malformed, and fails just when the use of the token does, on the same
    value; and a token with an admitted parameter has an expression for its texts. -/
theorem Scope.parameterProblem?_decides {s : Scope} (hr : s.registry.ListsParameters)
    {name : String} (hplain : ∃ text, s.resolve ⟨name, none⟩ = .ok text) (parameter : String)
    (padding : Int) :
    (s.registry.parameterProblem? name parameter = .ok none ↔
      ∃ text, s.resolve ⟨name, some parameter⟩ = .ok text) ∧
    ((∃ problem, s.registry.parameterProblem? name parameter = .ok (some problem)) ↔
      Malformed (s.resolve ⟨name, some parameter⟩)) ∧
    (∀ e, s.registry.parameterProblem? name parameter = .error e ↔
      (∃ cause, e = .value cause) ∧ s.resolve ⟨name, some parameter⟩ = .error e) ∧
    (s.registry.parameterProblem? name parameter = .ok none →
      ∃ shape, s.registry.shape padding ⟨name, some parameter⟩ = .ok shape ∧
        s.registry.source padding ⟨name, some parameter⟩ = .ok shape.source) := by
  obtain ⟨text, htext⟩ := hplain
  have hagrees := agrees hr htext parameter
  exact ⟨hagrees.admits_iff, hagrees.refuses_iff, hagrees.fails_iff,
    fun hadmitted => Registry.exists_source_of_admitted hadmitted padding⟩

/-- The department takes its abbreviation, in whatever case that is written. -/
theorem Scope.parameterProblem?_decides_department :
    let s := Scope.of Registry.empty.withDefaults (.ofPairs [("department_code", .text "Sales")])
      ⟨⟨Moment.midnight ⟨2024, 1, 1⟩, none, false⟩, .ofNat 1704067200, 1, 5,
        Number.writable_one, Number.writable_five⟩
    s.registry.ListsParameters ∧ s.resolve ⟨"DEPARTMENT", none⟩ = .ok "SALES" ∧
      s.registry.parameterProblem? "DEPARTMENT" "Abbrev" = .ok none ∧
      (∃ text, s.resolve ⟨"DEPARTMENT", some "Abbrev"⟩ = .ok text) ∧
      ∃ shape, s.registry.shape 5 ⟨"DEPARTMENT", some "Abbrev"⟩ = .ok shape ∧
        s.registry.source 5 ⟨"DEPARTMENT", some "Abbrev"⟩ = .ok shape.source := by
  intro s
  have hlists : s.registry.ListsParameters :=
    Registry.standard_empty.withDefaults.listsParameters
  have hplain : s.resolve ⟨"DEPARTMENT", none⟩ = .ok "SALES" := by decide +kernel
  have hadmitted : s.registry.parameterProblem? "DEPARTMENT" "Abbrev" = .ok none := by
    decide +kernel
  obtain ⟨hadmits, -, -, hshape⟩ := parameterProblem?_decides hlists ⟨_, hplain⟩ "Abbrev" 5
  exact ⟨hlists, hplain, hadmitted, hadmits.mp hadmitted, hshape hadmitted⟩

end SerialNumbers
