/-
  SerialNumbers.Proofs.Variable.Coverage

  What a context must have for a variable to be found in it.  A registry is
  dependable if it holds stock variables, and variables that are found wherever
  the keys they require are.  In a context that covers a variable, each of its
  tokens with an admitted parameter stands for a text
  (`Scope.resolve_of_covers`), and a condition on any variable can be decided
  (`Scope.lookup_of_dependable`), unless that text would be too long.
-/
import SerialNumbers.Proofs.Variable.Parameter
import SerialNumbers.Proofs.Variable.Scope

namespace SerialNumbers

open Pattern Text

/-! ## Dependable variables -/

/-- A variable with listed parameters and the plain check, whose value is found wherever the
    keys that it requires are; it may only be too long, if some value of the context is. -/
structure Variable.FromKeys (v : Variable) : Prop where
  listed : ∃ names apply, v.parameters = .listed names apply
  check : ∀ c : Context, v.check c = .ok (Variable.requireKeys v.required c)
  resolves : ∀ c : Context, c.missing v.required = [] → Yields c.Renderable (v.resolve c)

/-- A stock variable, or one that is found wherever its required keys are. -/
def Variable.Dependable (v : Variable) : Prop :=
  v ∈ Stock.all ∨ v.FromKeys

/-- All variables are dependable. -/
def Registry.Dependable (r : Registry) : Prop :=
  ∀ key v, r.byName.get? key = some v → v.Dependable

theorem Registry.dependable_of_entries {r : Registry}
    (h : ∀ e ∈ r.byName.entries, e.2.Dependable) : r.Dependable := by
  intro key v hget
  exact h (key, v) (Table.mem_of_lookup hget)

namespace Context

variable {c c' : Context}

theorem firstOf_congr {keys : List String} (h : ∀ key ∈ keys, c.get? key = c'.get? key) :
    c.firstOf keys = c'.firstOf keys := by
  unfold firstOf
  induction keys with
  | nil => rfl
  | cons key keys ih =>
    obtain ⟨hkey, hkeys⟩ := List.forall_mem_cons.mp h
    rw [List.findSome?_cons, List.findSome?_cons, hkey, ih hkeys]

end Context

namespace Stock

/-- The keys of the stock variables are not the engine's. -/
theorem isReserved_key : ∀ v ∈ all, ∀ key ∈ v.required ++ v.optional,
    Builtin.isReserved (upper key) = false := by
  decide +kernel

theorem givenTier_congr {c c' : Context} (h : ∀ key ∈ tierKeys, c.get? key = c'.get? key) :
    givenTier c = givenTier c' := by
  unfold givenTier
  rw [Context.firstOf_congr h]

theorem givenCode_congr {keys : List String} {c c' : Context}
    (h : ∀ key ∈ keys, c.get? key = c'.get? key) : givenCode keys c = givenCode keys c' := by
  unfold givenCode
  rw [Context.firstOf_congr h]

/-- A stock variable looks at nothing but its keys. -/
theorem check_congr {v : Variable} (hv : v ∈ all) {c c' : Context}
    (h : ∀ key ∈ v.required ++ v.optional, c.get? key = c'.get? key) :
    v.check c = v.check c' := by
  simp only [all, List.mem_cons, List.not_mem_nil, or_false] at hv
  rcases hv with rfl | rfl | rfl
  · exact congrArg (tierFindings <$> ·) (givenTier_congr h)
  · exact congrArg (departmentFindings <$> ·) (givenCode_congr h)
  · exact congrArg (projectFindings <$> ·) (givenCode_congr h)

/-- Nor does it take its value from anything else. -/
theorem resolve_congr {v : Variable} (hv : v ∈ all) {c c' : Context}
    (h : ∀ key ∈ v.required ++ v.optional, c.get? key = c'.get? key) :
    v.resolve c = v.resolve c' := by
  simp only [all, List.mem_cons, List.not_mem_nil, or_false] at hv
  rcases hv with rfl | rfl | rfl
  · show (givenTier c >>= _) = givenTier c' >>= _
    rw [givenTier_congr h]
  · exact congrArg (upper <$> ·) (givenCode_congr h)
  · exact congrArg (upper <$> ·) (givenCode_congr h)

/-- A stock variable can be checked, unless the value that it looks at is too long. -/
theorem yields_check {v : Variable} (hv : v ∈ all) (c : Context) :
    Yields c.Renderable (v.check c) := by
  cases h : v.check c with
  | ok found => exact .result found
  | error e =>
    obtain ⟨value, hfirst, hshown⟩ := (check_eq_error hv).mp h
    obtain ⟨key, -, hvalue⟩ := List.exists_of_findSome?_eq_some hfirst
    rw [eq_longWhole_of_check hv h]
    refine .tooLong Failure.isTooLong_longWhole fun hrender => ?_
    obtain ⟨text, htext⟩ := Value.exists_shown (hrender key value hvalue)
    cases htext.symm.trans hshown

/-- It takes its value from what it checks. -/
theorem yields_resolve {v : Variable} (hv : v ∈ all) (c : Context) :
    Yields c.Renderable (v.resolve c) := by
  have hcheck := yields_check hv c
  refine .of_total (fun e h => (hcheck.of_error ((resolve_eq_error hv).mp h)).1) fun hrender => ?_
  obtain ⟨found, hfound⟩ := hcheck.exists_ok hrender
  exact Except.exists_ok fun e h => by cases hfound.symm.trans ((resolve_eq_error hv).mp h)

end Stock

namespace Variable

variable {v : Variable} {c : Context}

theorem requireKeys_isValid {required : List String} (h : c.missing required = []) :
    (requireKeys required c).isValid = true := by
  unfold requireKeys
  rw [h]
  rfl

/-- A registered variable fails for want of something in the context, or for itself. -/
theorem resolveIn_eq_error {e : Failure} (h : v.resolveIn c none = .error e) :
    Scope.isAbsence e = true ∨ v.check c = .error e ∨
      c.missing v.required = [] ∧ v.resolve c = .error e := by
  unfold resolveIn at h
  dsimp only at h
  split at h
  · cases h
    exact .inl rfl
  · rename_i hmissing
    rcases Except.bind_eq_error.mp h with h | ⟨found, -, h⟩
    · exact .inr (.inl h)
    · split at h
      · cases h
        exact .inl rfl
      · exact .inr (.inr ⟨by simpa using hmissing, h⟩)

/-- The check of the context has nothing against it. -/
def Accepts (v : Variable) (c : Context) : Prop :=
  ∃ found, v.check c = .ok found ∧ found.isValid = true

theorem Dependable.yields_check (hv : v.Dependable) (c : Context) :
    Yields c.Renderable (v.check c) := by
  rcases hv with hv | hv
  · exact Stock.yields_check hv c
  · exact .of_exists ⟨_, hv.check c⟩

/-- The value is found wherever the required keys are. -/
theorem Dependable.resolves (hv : v.Dependable) (h : c.missing v.required = []) :
    Yields c.Renderable (v.resolve c) := by
  rcases hv with hv | hv
  · exact Stock.yields_resolve hv c
  · exact hv.resolves c h

theorem Dependable.listed (hv : v.Dependable) :
    ∃ names apply, v.parameters = .listed names apply := by
  rcases hv with hv | hv
  · exact (Stock.standard hv).listed
  · exact hv.listed

/-- What is right with the caller's context is right with the scope. -/
theorem Dependable.accepts_of (hv : v.Dependable) (r : Registry) (o : Occasion)
    (hc : c.Keyed) (hmissing : c.missing v.required = []) (h : v.Accepts c) :
    v.Accepts (Scope.of r c o).context := by
  rcases hv with hv | hv
  · have hsame : v.check (Scope.of r c o).context = v.check c :=
      Stock.check_congr hv fun key hkey => Scope.get?_of r o hc (Stock.isReserved_key v hv key hkey)
    unfold Accepts
    rw [hsame]
    exact h
  · exact ⟨_, hv.check _, requireKeys_isValid (Scope.missing_of r o hc hmissing)⟩

/-- A parameter that the check has nothing against is one of those that are listed. -/
theorem Dependable.resolveWith (hv : v.Dependable) {name parameter : String}
    (h : Registry.customProblem? name parameter v = none) (hmissing : c.missing v.required = []) :
    v.takesParameters = true ∧ Yields c.Renderable (v.resolveWith c parameter) := by
  obtain ⟨names, apply, hlisted⟩ := hv.listed
  unfold Registry.customProblem? takesParameters listedParameters at h
  rw [hlisted] at h
  dsimp only at h
  split at h
  · cases h
  · rename_i htakes
    split at h
    · cases h
    · rename_i hcontains
      rw [Bool.not_eq_true, Bool.not_eq_false'] at htakes
      rw [htakes, Bool.true_and, Bool.not_eq_true, Bool.not_eq_false'] at hcontains
      constructor
      · unfold takesParameters
        rw [hlisted]
        exact htakes
      · unfold Variable.resolveWith
        rw [hlisted]
        dsimp only
        rw [if_pos hcontains]
        exact (hv.resolves hmissing).bind fun value _ => .result _

/-- In a context that has what a variable needs, it is found with every parameter that the check
    has nothing against. -/
theorem Dependable.resolveIn (hv : v.Dependable) (hmissing : c.missing v.required = [])
    (hcheck : v.Accepts c) {parameter : Option String} {name : String}
    (h : ∀ given, parameter = some given → Registry.customProblem? name given v = none) :
    Yields c.Renderable (v.resolveIn c parameter) := by
  obtain ⟨found, hfound, hvalid⟩ := hcheck
  unfold Variable.resolveIn
  dsimp only
  rw [hmissing, hfound, Except.ok_bind, hvalid]
  cases parameter with
  | none => exact hv.resolves hmissing
  | some given =>
    obtain ⟨htakes, hyields⟩ := hv.resolveWith (h given rfl) hmissing
    dsimp only
    rw [htakes]
    exact hyields

end Variable

/-! ## Covered variables -/

/-- A context has what a variable of a pattern needs. -/
def Registry.Covers (r : Registry) (c : Context) (name : String) : Prop :=
  match r.get? name with
  | some v => c.missing v.required = [] ∧ v.Accepts c
  | none => c.has name = true

namespace Scope

variable {r : Registry} {c : Context} {o : Occasion} {t : Token}

theorem renderable_of (r : Registry) (o : Occasion) (hc : c.Keyed) (h : c.Renderable) :
    (of r c o).context.Renderable := by
  intro key value hvalue
  cases hnamed : Builtin.named? (upper key) with
  | some b =>
    have hkey : upper key = upper b.name := by rw [b.upper_name, Builtin.name_of_named? hnamed]
    rw [(of r c o).get?_engine b hkey] at hvalue
    cases hvalue
    exact ⟨_, rfl⟩
  | none =>
    have hfree : Builtin.isReserved (upper key) = false := by
      rw [Builtin.isReserved, hnamed]
      rfl
    rw [get?_of r o hc hfree] at hvalue
    exact h key value hvalue

/-- A variable of the engine gives a text with every parameter that the check has nothing
    against; without one the counter needs room for the padding. -/
theorem resolveBuiltin_of_admits (s : Scope) {b : Builtin} (hname : Builtin.named? t.name = some b)
    (h : r.Admits t) : Yields (Roomy s.occasion.padding) (s.resolveBuiltin b t.parameter) := by
  rw [resolveBuiltin_eq]
  unfold formatBuiltin
  cases hparameter : t.parameter with
  | none =>
    dsimp only
    split
    · exact yields_zeroPadded _ _
    · exact .result _
  | some parameter =>
    have hproblem := h parameter hparameter
    dsimp only
    by_cases hb : b = .counter
    · subst hb
      unfold Registry.parameterProblem? at hproblem
      rw [hname] at hproblem
      obtain ⟨width, hwidth, hproblem⟩ := Except.bind_eq_ok.mp hproblem
      rw [if_pos (beq_self_eq_true _), hwidth]
      cases width with
      | none => cases hproblem
      | some width => exact .result _
    · rw [Registry.parameterProblem?_field hname hb] at hproblem
      obtain ⟨width, hwidth, hproblem⟩ := Except.bind_eq_ok.mp hproblem
      rw [if_neg (by rwa [beq_iff_eq])]
      split
      · exact .result _
      · rename_i hformat
        rw [hwidth]
        cases width with
        | none =>
          rw [hformat] at hproblem
          cases hproblem
        | some width => exact .result _

theorem formatContext_of_admits (hname : Builtin.named? t.name = none)
    (hcustom : r.get? t.name = none) (h : r.Admits t) (value : String) :
    ∃ text, formatContext t.name value t.parameter = .ok text := by
  unfold formatContext
  cases hparameter : t.parameter with
  | none => exact ⟨_, rfl⟩
  | some parameter =>
    have hproblem := h parameter hparameter
    unfold Registry.parameterProblem? at hproblem
    rw [hname] at hproblem
    dsimp only at hproblem ⊢
    rw [hcustom] at hproblem
    obtain ⟨width, hwidth, hproblem⟩ := Except.bind_eq_ok.mp hproblem
    rw [hwidth, Except.ok_bind]
    cases width with
    | some width => exact ⟨_, rfl⟩
    | none =>
      dsimp only at hproblem ⊢
      by_cases hupper : (upper parameter == "UPPER") = true
      · rw [if_pos hupper]
        exact ⟨_, rfl⟩
      · rw [if_neg hupper]
        by_cases hlower : (upper parameter == "LOWER") = true
        · rw [if_pos hlower]
          exact ⟨_, rfl⟩
        · rw [if_neg (by rw [Bool.or_eq_true]; exact not_or.mpr ⟨hupper, hlower⟩)] at hproblem
          cases hproblem

/-- In a scope whose caller's context covers a variable, its tokens stand for texts. -/
theorem resolve_of_covers (hr : r.Dependable) (hc : c.Keyed) (hadmits : r.Admits t)
    (hcovers : Builtin.isReserved t.name = false → r.Covers c t.name) :
    Yields (c.Renderable ∧ Roomy o.padding) ((of r c o).resolve t) := by
  have hscope : c.Renderable ∧ Roomy o.padding → (of r c o).context.Renderable :=
    fun hfits => renderable_of r o hc hfits.1
  unfold resolve
  cases hname : Builtin.named? t.name with
  | some b => exact (resolveBuiltin_of_admits (of r c o) hname hadmits).imp And.right
  | none =>
    have hcovers := hcovers (by unfold Builtin.isReserved; rw [hname]; rfl)
    unfold Registry.Covers at hcovers
    have hregistry : (of r c o).registry = r := rfl
    dsimp only
    rw [hregistry]
    cases hcustom : r.get? t.name with
    | some v =>
      rw [hcustom] at hcovers
      obtain ⟨hmissing, hcheck⟩ := hcovers
      have hv : v.Dependable := hr _ v hcustom
      have hproblem (given) (hgiven : t.parameter = some given) :
          Registry.customProblem? t.name given v = none := by
        have hproblem := hadmits given hgiven
        unfold Registry.parameterProblem? at hproblem
        rw [hname] at hproblem
        dsimp only at hproblem
        rw [hcustom] at hproblem
        exact Except.ok.inj hproblem
      exact (hv.resolveIn (missing_of r o hc hmissing) (hv.accepts_of r o hc hmissing hcheck)
        hproblem).imp hscope
    | none =>
      rw [hcustom] at hcovers
      dsimp only
      rw [has_of r o hc hcovers, if_pos rfl]
      refine ((Context.yields_rendered _ _ _).imp hscope).bind fun value _ => ?_
      exact .of_exists (formatContext_of_admits hname hcustom hadmits value)

/-- A condition finds a value or none, whatever the context holds that is not too long. -/
theorem lookup_of_dependable {s : Scope} (hr : s.registry.Dependable) (name : String) :
    Yields s.context.Renderable (s.lookup name) := by
  have hrendered (key : String) : Yields s.context.Renderable (some <$> s.context.rendered key "") :=
    (Context.yields_rendered _ key "").map some
  unfold lookup
  cases Builtin.named? (upper name) with
  | some b => exact hrendered b.name
  | none =>
    dsimp only
    cases hcustom : s.registry.get? (upper name) with
    | none =>
      dsimp only
      split
      · exact hrendered name
      · exact .result none
    | some v =>
      have hv : v.Dependable := hr _ v hcustom
      dsimp only
      cases hresolve : v.resolveIn s.context none with
      | ok text => exact .result (some text)
      | error e =>
        -- What the context lacks is an absence; otherwise the value is too long.
        have hcause : isAbsence e = true ∨ e.isTooLong = true ∧ ¬s.context.Renderable := by
          rcases Variable.resolveIn_eq_error hresolve with habsent | hcheck | ⟨hmissing, hfails⟩
          · exact .inl habsent
          · exact .inr ((hv.yields_check s.context).of_error hcheck)
          · exact .inr ((hv.resolves hmissing).of_error hfails)
        dsimp only
        split
        · exact .result none
        · rename_i hpresent
          obtain ⟨hlong, hnot⟩ := hcause.resolve_left hpresent
          exact .tooLong hlong hnot

end Scope

end SerialNumbers
