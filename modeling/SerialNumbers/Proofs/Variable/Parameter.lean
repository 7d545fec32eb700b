/-
  SerialNumbers.Proofs.Variable.Parameter

  The check of a parameter against the use that is made of it.  Variables of the
  standard kind list their parameters.  Where all registered variables are of
  this kind, only a parameter that the check refuses makes a token malformed
  (`Scope.resolve_malformed`), and a condition never does
  (`Scope.not_malformed_lookup`).
-/
import SerialNumbers.Proofs.Value
import SerialNumbers.Variable.Resolution

namespace SerialNumbers

open Pattern Text Time

/-! ## Failures as malformed -/

section

variable {α β : Type}

/-- The result is that a pattern is malformed. -/
def Malformed (x : Except Failure α) : Prop :=
  ∃ message errors, x = .error (.malformed message errors)

theorem not_malformed_ok (a : α) : ¬Malformed (.ok a) := by
  rintro ⟨message, errors, h⟩
  cases h

/-- A chain of two steps is malformed when one of them is. -/
theorem malformed_bind {x : Except Failure α} {f : α → Except Failure β} :
    Malformed (x >>= f) ↔ Malformed x ∨ ∃ a, x = .ok a ∧ Malformed (f a) := by
  unfold Malformed
  simp only [Except.bind_eq_error]
  constructor
  · rintro ⟨message, errors, h | ⟨a, ha, h⟩⟩
    · exact .inl ⟨message, errors, h⟩
    · exact .inr ⟨a, ha, message, errors, h⟩
  · rintro (⟨message, errors, h⟩ | ⟨a, ha, message, errors, h⟩)
    · exact ⟨message, errors, .inl h⟩
    · exact ⟨message, errors, .inr ⟨a, ha, h⟩⟩

theorem not_malformed_map {g : α → β} {x : Except Failure α} (h : ¬Malformed x) :
    ¬Malformed (g <$> x) := by
  rw [map_eq_pure_bind, malformed_bind]
  rintro (hx | ⟨a, -, ha⟩)
  · exact h hx
  · exact not_malformed_ok _ ha

/-- A text that would be too long is no fault of a pattern. -/
theorem not_malformed_of_isTooLong {x : Except Failure α}
    (h : ∀ e, x = .error e → e.isTooLong = true) : ¬Malformed x := by
  rintro ⟨message, errors, hx⟩
  exact Bool.false_ne_true (h _ hx)

end

theorem not_malformed_width? (most : Nat) (parameter : String) :
    ¬Malformed (width? most parameter) := by
  rintro ⟨message, errors, h⟩
  unfold width? at h
  dsimp only at h
  split at h
  · cases h
  · split at h
    · cases h
    · split at h
      · cases h
      · cases h

/-- What only goes wrong without a width is malformed only where a parameter gives none. -/
theorem malformed_bind_width? {α : Type} {most : Nat} {parameter : String}
    {f : Option Nat → Except Failure α} (h : Malformed (width? most parameter >>= f))
    (hsome : ∀ width, ¬Malformed (f (some width))) :
    width? most parameter = .ok none ∧ Malformed (f none) := by
  rcases malformed_bind.mp h with h | ⟨width, hwidth, h⟩
  · exact absurd h (not_malformed_width? most parameter)
  · cases width with
    | some width => exact absurd h (hsome width)
    | none => exact ⟨hwidth, h⟩

/-! ## Standard variables -/

/-- A variable of the standard kind: its parameters are listed, and its value is found or
    lacking, but no fault of a pattern, and neither is its check. -/
structure Variable.Standard (v : Variable) : Prop where
  listed : ∃ names apply, v.parameters = .listed names apply
  resolves : ∀ c, ¬Malformed (v.resolve c)
  checks : ∀ c, ¬Malformed (v.check c)

namespace Stock

variable {c : Context} {e : Failure}

theorem givenTier_eq_error :
    givenTier c = .error e ↔
      ∃ value, c.firstOf tierKeys = some value ∧ value.shown = .error e := by
  unfold givenTier
  split
  · simp [*]
  · simp [*, Value.shown, Value.literal]
  · simp [*, Except.map_eq_error]

theorem givenCode_eq_error {keys : List String} :
    givenCode keys c = .error e ↔
      ∃ value, c.firstOf keys = some value ∧ value.shown = .error e := by
  unfold givenCode
  cases c.firstOf keys with
  | none => simp
  | some value =>
    by_cases hempty : value.isEmptyLike = true
    · obtain ⟨s, hs⟩ := Value.exists_shown_of_isEmptyLike hempty
      simp [hempty, hs]
    · simp [hempty, Except.map_eq_error]

/-- The check of a stock variable fails just where the value that it looks at cannot be shown. -/
theorem check_eq_error {v : Variable} (hv : v ∈ all) :
    v.check c = .error e ↔
      ∃ value, c.firstOf (v.required ++ v.optional) = some value ∧ value.shown = .error e := by
  simp only [all, List.mem_cons, List.not_mem_nil, or_false] at hv
  rcases hv with rfl | rfl | rfl
  · exact Except.map_eq_error.trans givenTier_eq_error
  · exact Except.map_eq_error.trans givenCode_eq_error
  · exact Except.map_eq_error.trans givenCode_eq_error

/-- Its value is found just where it can be checked. -/
theorem resolve_eq_error {v : Variable} (hv : v ∈ all) :
    v.resolve c = .error e ↔ v.check c = .error e := by
  simp only [all, List.mem_cons, List.not_mem_nil, or_false] at hv
  rcases hv with rfl | rfl | rfl <;> exact Except.map_eq_error.trans Except.map_eq_error.symm

/-- All that goes wrong is that the value is too long. -/
theorem eq_longWhole_of_check {v : Variable} (hv : v ∈ all) (h : v.check c = .error e) :
    e = .longWhole := by
  obtain ⟨value, -, hshown⟩ := (check_eq_error hv).mp h
  exact Value.shown_eq_error hshown

theorem standard {v : Variable} (hv : v ∈ all) : v.Standard where
  listed := by
    simp only [all, List.mem_cons, List.not_mem_nil, or_false] at hv
    rcases hv with rfl | rfl | rfl <;> exact ⟨_, _, rfl⟩
  resolves c := not_malformed_of_isTooLong fun e h => by
    rw [eq_longWhole_of_check hv ((resolve_eq_error hv).mp h), Failure.isTooLong_longWhole]
  checks c := not_malformed_of_isTooLong fun e h => by
    rw [eq_longWhole_of_check hv h, Failure.isTooLong_longWhole]

end Stock

namespace Registry

/-- All variables are of the standard kind. -/
def Standard (r : Registry) : Prop :=
  ∀ key v, r.byName.get? key = some v → v.Standard

variable {r : Registry}

theorem standard_empty : empty.Standard := by
  rintro key v ⟨⟩

theorem Standard.insert (h : r.Standard) {v : Variable} (hv : v.Standard) (key : String) :
    Registry.Standard ⟨r.byName.insert key v⟩ := by
  intro key' v' hget
  rw [Table.get?_insert] at hget
  split at hget
  · cases hget
    exact hv
  · exact h key' v' hget

theorem Standard.register (h : r.Standard) {v : Variable} (hv : v.Standard) {r' : Registry}
    (hregister : r.register v = .ok r') : r'.Standard := by
  unfold Registry.register at hregister
  split at hregister
  · cases hregister
  · split at hregister
    · cases hregister
    · split at hregister
      · cases hregister
      · cases hregister
        exact h.insert hv v.name

theorem Standard.remove (h : r.Standard) (name : String) : (r.remove name).Standard := by
  intro key v hget
  rw [Registry.remove, Table.get?_erase] at hget
  split at hget
  · cases hget
  · exact h key v hget

theorem Standard.withDefaults (h : r.Standard) : r.withDefaults.Standard := by
  unfold Registry.withDefaults
  refine List.foldlRecOn Stock.all _ h ?_
  intro r hr v hv
  split
  · exact hr
  · exact hr.insert (Stock.standard hv) v.name

/-! ## Admitted and refused parameters -/

/-- The check has nothing against the parameter of a token, if it has one. -/
def Admits (r : Registry) (t : Token) : Prop :=
  ∀ parameter, t.parameter = some parameter → r.parameterProblem? t.name parameter = .ok none

/-- The check has something against the parameter of a token. -/
def Refuses (r : Registry) (t : Token) : Prop :=
  ∃ parameter, t.parameter = some parameter ∧
    ∃ problem, r.parameterProblem? t.name parameter = .ok (some problem)

theorem Admits.not_refuses {t : Token} (h : r.Admits t) : ¬r.Refuses t := by
  rintro ⟨parameter, hparameter, problem, hproblem⟩
  rw [h parameter hparameter] at hproblem
  cases hproblem

theorem parameterProblem?_field {name : String} {b : Builtin} (hname : Builtin.named? name = some b)
    (hb : b ≠ .counter) (parameter : String) :
    r.parameterProblem? name parameter = (width? maxFieldWidth parameter >>= fun
      | some _ => .ok none
      | none => .ok (if (b.format? parameter).isSome then none
          else some s!"Invalid format parameter '{parameter}' for {name} variable")) := by
  unfold parameterProblem?
  rw [hname]
  cases b <;> first | rfl | exact absurd rfl hb

end Registry

/-! ## Resolving -/

namespace Scope

variable {s : Scope}

/-- A variable of the engine is malformed only with a parameter that the check is against. -/
theorem formatBuiltin_malformed {r : Registry} {b : Builtin} {t : Token} {o : Occasion}
    {plain : String} (hname : Builtin.named? t.name = some b)
    (h : Malformed (formatBuiltin o b plain t.parameter)) : r.Refuses t := by
  unfold formatBuiltin at h
  cases hparameter : t.parameter with
  | none =>
    rw [hparameter] at h
    dsimp only at h
    split at h
    · exact absurd h (not_malformed_of_isTooLong fun e h => (zeroPadded_eq_error h).2)
    · exact absurd h (not_malformed_ok _)
  | some parameter =>
    rw [hparameter] at h
    dsimp only at h
    by_cases hb : b = .counter
    · subst hb
      rw [if_pos (beq_self_eq_true _)] at h
      obtain ⟨hwidth, -⟩ := malformed_bind_width? h (fun _ => not_malformed_ok _)
      refine ⟨parameter, hparameter, ?_⟩
      unfold Registry.parameterProblem?
      rw [hname]
      dsimp only
      rw [hwidth]
      exact ⟨_, rfl⟩
    · -- The other variables try the name of a format first, the check tries the width first.
      rw [if_neg (by rwa [beq_iff_eq])] at h
      split at h
      · exact absurd h (not_malformed_ok _)
      · rename_i hformat
        obtain ⟨hwidth, -⟩ := malformed_bind_width? h (fun _ => not_malformed_ok _)
        refine ⟨parameter, hparameter, ?_⟩
        rw [Registry.parameterProblem?_field hname hb, hwidth, hformat]
        exact ⟨_, rfl⟩

theorem not_malformed_rendered (c : Context) (key default : String) :
    ¬Malformed (c.rendered key default) :=
  not_malformed_of_isTooLong fun _ h => Context.rendered_eq_error h

theorem resolveBuiltin_malformed {b : Builtin} {t : Token} (hname : Builtin.named? t.name = some b)
    (h : Malformed (s.resolveBuiltin b t.parameter)) : s.registry.Refuses t := by
  rcases malformed_bind.mp h with h | ⟨plain, -, h⟩
  · exact absurd h (not_malformed_rendered _ _ _)
  · exact formatBuiltin_malformed hname h

end Scope

/-- A variable that takes parameters is malformed only with one that it does not list. -/
theorem Variable.resolveWith_malformed {v : Variable} (hv : v.Standard) {c : Context}
    {given : String} (htakes : v.takesParameters = true) (h : Malformed (v.resolveWith c given))
    (name : String) : ∃ problem, Registry.customProblem? name given v = some problem := by
  obtain ⟨names, apply, hlisted⟩ := hv.listed
  have hnonempty : names.isEmpty = false := by
    unfold takesParameters at htakes
    rw [hlisted] at htakes
    simpa using htakes
  have hnames : v.listedParameters = names := by
    unfold listedParameters
    rw [hlisted]
  unfold resolveWith at h
  rw [hlisted] at h
  dsimp only at h
  unfold Registry.customProblem?
  dsimp only
  split at h
  · rcases malformed_bind.mp h with h | ⟨value, -, h⟩
    · exact absurd h (hv.resolves c)
    · exact absurd h (not_malformed_ok _)
  · rename_i hunlisted
    rw [if_neg (by rw [htakes]; decide), hnames, hnonempty, if_pos (by simpa using hunlisted)]
    exact ⟨_, rfl⟩

/-- A registered variable is malformed only with a parameter that it does not list. -/
theorem Variable.resolveIn_malformed {v : Variable} (hv : v.Standard) {c : Context}
    {parameter : Option String} (h : Malformed (v.resolveIn c parameter)) :
    ∃ given, parameter = some given ∧
      ∀ name, ∃ problem, Registry.customProblem? name given v = some problem := by
  unfold resolveIn at h
  dsimp only at h
  split at h
  · obtain ⟨message, errors, h⟩ := h
    cases h
  · replace h := malformed_bind.mp h
    rcases h with h | ⟨found, -, h⟩
    · exact absurd h (hv.checks c)
    · split at h
      · obtain ⟨message, errors, h⟩ := h
        cases h
      · split at h
        · exact absurd h (hv.resolves c)
        · rename_i given
          refine ⟨given, rfl, fun name => ?_⟩
          split at h
          · rename_i htakes
            exact resolveWith_malformed hv htakes h name
          · rename_i htakes
            unfold Registry.customProblem?
            dsimp only
            rw [if_pos (by simpa using htakes)]
            exact ⟨_, rfl⟩

theorem formatContext_malformed {r : Registry} {t : Token} {value : String}
    (hname : Builtin.named? t.name = none) (hcustom : r.get? t.name = none)
    (h : Malformed (formatContext t.name value t.parameter)) : r.Refuses t := by
  unfold formatContext at h
  cases hparameter : t.parameter with
  | none =>
    rw [hparameter] at h
    exact absurd h (not_malformed_ok _)
  | some parameter =>
    rw [hparameter] at h
    obtain ⟨hwidth, h⟩ := malformed_bind_width? h (fun _ => not_malformed_ok _)
    dsimp only at h
    split at h
    · exact absurd h (not_malformed_ok _)
    · rename_i hupper
      split at h
      · exact absurd h (not_malformed_ok _)
      · rename_i hlower
        refine ⟨parameter, hparameter, contextParameterMessage t.name parameter, ?_⟩
        unfold Registry.parameterProblem?
        rw [hname]
        dsimp only
        rw [hcustom]
        dsimp only
        rw [hwidth, Except.ok_bind]
        dsimp only
        rw [Bool.eq_false_iff.mpr hupper, Bool.eq_false_iff.mpr hlower]
        rfl

namespace Scope

variable {s : Scope}

/-- A token is malformed only where its parameter is refused. -/
theorem resolve_malformed (hr : s.registry.Standard) {t : Token} (h : Malformed (s.resolve t)) :
    s.registry.Refuses t := by
  unfold resolve at h
  split at h
  · rename_i b hname
    exact resolveBuiltin_malformed hname h
  · rename_i hname
    split at h
    · rename_i v hget
      obtain ⟨parameter, hparameter, hproblem⟩ := Variable.resolveIn_malformed (hr _ v hget) h
      obtain ⟨problem, hproblem⟩ := hproblem t.name
      refine ⟨parameter, hparameter, problem, ?_⟩
      unfold Registry.parameterProblem?
      rw [hname]
      dsimp only
      rw [hget]
      exact congrArg Except.ok hproblem
    · rename_i hget
      split at h
      · rcases malformed_bind.mp h with h | ⟨value, -, h⟩
        · exact absurd h (not_malformed_rendered _ _ _)
        · exact formatContext_malformed hname hget h
      · obtain ⟨message, errors, h⟩ := h
        cases h

/-- A condition has no parameter, so that it is never malformed. -/
theorem not_malformed_lookup (hr : s.registry.Standard) (name : String) :
    ¬Malformed (s.lookup name) := by
  intro h
  unfold lookup at h
  split at h
  · exact not_malformed_map (not_malformed_rendered _ _ _) h
  · split at h
    · rename_i v hget
      split at h
      · exact not_malformed_ok _ h
      · rename_i e hresolve
        split at h
        · exact not_malformed_ok _ h
        · -- A condition asks for the plain value, so there is no parameter to refuse.
          obtain ⟨message, errors, heq⟩ := h
          cases heq
          obtain ⟨parameter, hparameter, -⟩ :=
            Variable.resolveIn_malformed (hr _ v hget) ⟨message, errors, hresolve⟩
          cases hparameter
    · split at h
      · exact not_malformed_map (not_malformed_rendered _ _ _) h
      · exact not_malformed_ok _ h

/-- Only a moment whose year is out of range, and numbers of too many digits, have no scope. -/
theorem forMoment_error {r : Registry} {c : Context} {moment : Moment} {counter padding : Int}
    {e : Failure} (h : forMoment r c moment counter padding = .error e) :
    (∃ year, e = .value (.yearRange year)) ∨
      (¬Number.Writable counter ∨ ¬Number.Writable padding) ∧ e = .longWhole := by
  rcases Except.bind_eq_error.mp h with h | ⟨o, -, h⟩
  · rcases Except.bind_eq_error.mp h with h | ⟨seconds, -, h⟩
    · left
      unfold Moment.epochSeconds at h
      split at h
      · cases h
      · split at h
        · exact ⟨0, (Except.error.inj h).symm⟩
        · split at h
          · exact ⟨10000, (Except.error.inj h).symm⟩
          · cases h
    · right
      rcases Except.bind_eq_error.mp h with h | ⟨_, -, h⟩
      · obtain ⟨hlong, he⟩ := Number.written_eq_error h
        exact ⟨.inl hlong, he⟩
      · rcases Except.bind_eq_error.mp h with h | ⟨_, -, h⟩
        · obtain ⟨hlong, he⟩ := Number.written_eq_error h
          exact ⟨.inr hlong, he⟩
        · cases h
  · cases h

/-- A moment out of range is no fault of a pattern, nor are numbers that are too long. -/
theorem not_malformed_forMoment (r : Registry) (c : Context) (moment : Moment)
    (counter padding : Int) : ¬Malformed (forMoment r c moment counter padding) := by
  rintro ⟨message, errors, h⟩
  rcases forMoment_error h with ⟨year, hyear⟩ | ⟨-, hlong⟩
  · cases hyear
  · cases hlong

end Scope

end SerialNumbers
