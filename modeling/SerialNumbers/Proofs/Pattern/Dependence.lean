/-
  SerialNumbers.Proofs.Pattern.Dependence

  What a number depends on.  A name stands for a variable that reads some keys of
  the context and no others (`Registry.keysRead`); a number depends on the keys
  that the variables of its conditions and of its tokens read.

  Main statement: where no token of a pattern reads a key, two contexts that agree
  beside this key make different numbers only if a condition reads the key, or
  with a token that is put together from several segments
  (`Registry.reads_of_ne`).
-/
import SerialNumbers.Proofs.Pattern.Sufficiency

namespace SerialNumbers

open Pattern Text Time

/-! ## Variables that keep to their keys -/

/-- Two contexts have the same values of some keys. -/
def Context.Agree (keys : List String) (c c' : Context) : Prop :=
  ∀ key ∈ keys, c.get? key = c'.get? key

theorem Context.Agree.missing {keys : List String} {c c' : Context} (h : Agree keys c c') :
    c.missing keys = c'.missing keys := by
  apply List.filter_congr
  intro key hkey
  rw [has_eq_isSome, has_eq_isSome, h key hkey]

namespace Variable

/-- The keys that a variable declares. -/
def keys (v : Variable) : List String :=
  v.required ++ v.optional

/-- A variable that looks at nothing but the keys that it declares. -/
structure KeepsToKeys (v : Variable) : Prop where
  resolve : ∀ {c c'}, Context.Agree v.keys c c' → v.resolve c = v.resolve c'
  resolveWith : ∀ {c c'}, Context.Agree v.keys c c' →
    ∀ parameter, v.resolveWith c parameter = v.resolveWith c' parameter
  check : ∀ {c c'}, Context.Agree v.keys c c' → v.check c = v.check c'

variable {v : Variable} {c c' : Context}

theorem agree_required (h : Context.Agree v.keys c c') : Context.Agree v.required c c' :=
  fun key hkey => h key (List.mem_append_left _ hkey)

/-- With listed parameters the value decides about the texts. -/
theorem keepsToKeys_of_listed (hlisted : ∃ names apply, v.parameters = .listed names apply)
    (hresolve : ∀ {c c'}, Context.Agree v.keys c c' → v.resolve c = v.resolve c')
    (hcheck : ∀ {c c'}, Context.Agree v.keys c c' → v.check c = v.check c') :
    v.KeepsToKeys := by
  refine ⟨hresolve, fun h parameter => ?_, hcheck⟩
  obtain ⟨names, apply, hlisted⟩ := hlisted
  unfold Variable.resolveWith
  rw [hlisted]
  dsimp only
  rw [hresolve h]

/-- A plain variable keeps to its keys if its value does. -/
theorem keepsToKeys_plain {name description : String} {required optional parameters : List String}
    {expression : Option String} {resolve : Context → Except Failure String}
    (hresolve : ∀ {c c'}, Context.Agree (required ++ optional) c c' → resolve c = resolve c') :
    (plain name description required optional parameters expression resolve).KeepsToKeys := by
  refine keepsToKeys_of_listed ⟨_, _, rfl⟩ hresolve fun {c c'} h => ?_
  have hmissing : c.missing required = c'.missing required := (agree_required h).missing
  show Except.ok (requireKeys required c) = Except.ok (requireKeys required c')
  unfold requireKeys
  rw [hmissing]

theorem KeepsToKeys.resolveIn_congr (hv : v.KeepsToKeys) (h : Context.Agree v.keys c c')
    (parameter : Option String) : v.resolveIn c parameter = v.resolveIn c' parameter := by
  unfold resolveIn
  rw [(agree_required h).missing, hv.check h, hv.resolve h]
  simp only [hv.resolveWith h]

end Variable

/-- The stock variables keep to their keys. -/
theorem Stock.keepsToKeys {v : Variable} (hv : v ∈ all) : v.KeepsToKeys :=
  Variable.keepsToKeys_of_listed (standard hv).listed (resolve_congr hv) (check_congr hv)

namespace Registry

variable {r : Registry}

/-- All variables keep to their keys. -/
def KeepsToKeys (r : Registry) : Prop :=
  ∀ key v, r.byName.get? key = some v → v.KeepsToKeys

theorem keepsToKeys_empty : empty.KeepsToKeys := by
  rintro key v ⟨⟩

theorem keepsToKeys_of_entries (h : ∀ e ∈ r.byName.entries, e.2.KeepsToKeys) : r.KeepsToKeys := by
  intro key v hget
  exact h (key, v) (Table.mem_of_lookup hget)

/-- The keys of the context that the variable of a name reads: its own key, if the engine or the
    caller gives its value, and else the keys that the registered variable declares. -/
def keysRead (r : Registry) (name : String) : List String :=
  match Builtin.named? (upper name) with
  | some b => [b.name]
  | none =>
    match r.get? (upper name) with
    | some v => v.keys
    | none => [name]

/-- A key that is read is the name itself, or a registered variable declares it. -/
theorem mem_keysRead {name key : String} (h : key ∈ r.keysRead name) :
    upper key = upper name ∨ ∃ v, Builtin.named? (upper name) = none ∧
      r.get? (upper name) = some v ∧ key ∈ v.keys := by
  unfold keysRead at h
  cases hnamed : Builtin.named? (upper name) with
  | some b =>
    rw [hnamed] at h
    rw [List.mem_singleton.mp h, b.upper_name]
    exact .inl (Builtin.name_of_named? hnamed)
  | none =>
    rw [hnamed] at h
    dsimp only at h
    cases hget : r.get? (upper name) with
    | some v =>
      rw [hget] at h
      exact .inr ⟨v, rfl, rfl, h⟩
    | none =>
      rw [hget] at h
      rw [List.mem_singleton.mp h]
      exact .inl rfl

/-- The variable of a name reads a key, in some spelling. -/
def Reads (r : Registry) (name key : String) : Prop :=
  ∃ read ∈ r.keysRead name, upper read = upper key

end Registry

/-! ## Conditions and tokens -/

namespace Scope

variable {s s' : Scope} {r : Registry} {c c' : Context} {o : Occasion} {name key : String}
  {t : Token}

/-- A condition depends on the keys that its variable reads. -/
theorem lookup_congr (hregistry : s'.registry = s.registry) (hr : s.registry.KeepsToKeys)
    (h : Context.Agree (s.registry.keysRead name) s.context s'.context) :
    s.lookup name = s'.lookup name := by
  unfold Registry.keysRead at h
  unfold lookup
  rw [hregistry]
  cases hnamed : Builtin.named? (upper name) with
  | some b =>
    rw [hnamed] at h
    dsimp only
    unfold Context.rendered
    rw [h b.name List.mem_cons_self]
  | none =>
    rw [hnamed] at h
    dsimp only at h ⊢
    cases hget : s.registry.get? (upper name) with
    | some v =>
      rw [hget] at h
      dsimp only
      rw [(hr _ v hget).resolveIn_congr h]
    | none =>
      rw [hget] at h
      dsimp only
      unfold Context.rendered
      rw [Context.has_eq_isSome, Context.has_eq_isSome, h name List.mem_cons_self]

/-- A token depends on the keys that its variable reads, or on the engine. -/
theorem resolve_congr (hregistry : s'.registry = s.registry) (hr : s.registry.KeepsToKeys)
    (hupper : upper t.name = t.name)
    (hengine : ∀ b, Builtin.named? t.name = some b →
      s.resolveBuiltin b t.parameter = s'.resolveBuiltin b t.parameter)
    (h : Context.Agree (s.registry.keysRead t.name) s.context s'.context) :
    s.resolve t = s'.resolve t := by
  unfold Registry.keysRead at h
  rw [hupper] at h
  unfold resolve
  rw [hregistry]
  cases hnamed : Builtin.named? t.name with
  | some b => exact hengine b hnamed
  | none =>
    rw [hnamed] at h
    dsimp only at h ⊢
    cases hget : s.registry.get? t.name with
    | some v =>
      rw [hget] at h
      exact (hr _ v hget).resolveIn_congr h _
    | none =>
      rw [hget] at h
      dsimp only
      unfold Context.rendered
      rw [Context.has_eq_isSome, Context.has_eq_isSome, h t.name List.mem_cons_self]

/-- What the engine's own variables stand for does not depend on the caller's context. -/
theorem resolveBuiltin_of (r : Registry) (c c' : Context) (o : Occasion) (b : Builtin)
    (parameter : Option String) :
    (of r c o).resolveBuiltin b parameter = (of r c' o).resolveBuiltin b parameter := by
  unfold resolveBuiltin
  rw [rendered_engine, rendered_engine]
  rfl

/-- Where two contexts of callers have the same value, the scopes have. -/
theorem get?_of_congr (hc : c.Keyed) (hc' : c'.Keyed) (h : c.get? name = c'.get? name) :
    (of r c o).context.get? name = (of r c' o).context.get? name := by
  show (c.withBuiltins _).get? name = (c'.withBuiltins _).get? name
  rw [hc.get?_withBuiltins, hc'.get?_withBuiltins, h]

/-- A condition whose variable does not read a key is decided alike in contexts that agree beside
    this key. -/
theorem lookup_of_not_reads (hr : r.KeepsToKeys) (hc : c.Keyed) (hc' : c'.Keyed)
    (hagree : ∀ name, upper name ≠ upper key → c.get? name = c'.get? name)
    (h : ¬r.Reads name key) : (of r c o).lookup name = (of r c' o).lookup name :=
  lookup_congr rfl hr fun read hread =>
    get?_of_congr hc hc' (hagree read fun heq => h ⟨read, hread, heq⟩)

theorem resolve_of_not_reads (hr : r.KeepsToKeys) (hc : c.Keyed) (hc' : c'.Keyed)
    (hagree : ∀ name, upper name ≠ upper key → c.get? name = c'.get? name)
    (hupper : upper t.name = t.name) (h : ¬r.Reads t.name key) :
    (of r c o).resolve t = (of r c' o).resolve t :=
  resolve_congr rfl hr hupper (fun b _ => resolveBuiltin_of r c c' o b _) fun read hread =>
    get?_of_congr hc hc' (hagree read fun heq => h ⟨read, hread, heq⟩)

end Scope

/-! ## The two passes -/

namespace Template

variable {s s' : Scope} {t : Template} {r : Registry}
  {lookup lookup' : String → Except Failure (Option String)}

/-- Which branches are chosen depends on the variables of the conditions alone. -/
theorem expandAll_congr {segments : List Segment}
    (h : ∀ c choice, .conditional c ∈ segments → c.checked = .ok choice →
      lookup choice.condition.subject = lookup' choice.condition.subject) :
    expandAll lookup segments = expandAll lookup' segments := by
  induction segments with
  | nil => rfl
  | cons segment segments ih =>
    have hfirst : expandSegment lookup segment = expandSegment lookup' segment := by
      cases segment with
      | literal text => rfl
      | conditional c =>
        unfold expandSegment
        dsimp only
        cases hchecked : c.checked with
        | error e => rfl
        | ok choice =>
          rw [Except.ok_bind, Except.ok_bind, h c choice List.mem_cons_self hchecked]
    have hrest : expandAll lookup segments = expandAll lookup' segments :=
      ih fun c choice hc => h c choice (List.mem_cons_of_mem _ hc)
    unfold expandAll
    rw [hfirst, hrest]

end Template

/-- The text that is put together depends on its own tokens alone. -/
theorem Pattern.substitute_congr {value value' : Token → Except Failure (List Char)}
    {ps : List Piece} (h : ∀ token, .token token ∈ ps → value token = value' token) :
    substitute value ps = substitute value' ps := by
  induction ps with
  | nil => rfl
  | cons p ps ih =>
    have hrest := ih fun token htoken => h token (List.mem_cons_of_mem _ htoken)
    cases p with
    | char c => rw [substitute, substitute, hrest]
    | token t => rw [substitute, substitute, h t List.mem_cons_self, hrest]

namespace Template

variable {s s' : Scope} {t : Template}

/-- What a template evaluates to depends on the variables of its conditions and on those of the
    tokens that are left. -/
theorem evaluate_congr
    (hlookup : ∀ c choice, .conditional c ∈ t.segments → c.checked = .ok choice →
      s.lookup choice.condition.subject = s'.lookup choice.condition.subject)
    (hresolve : ∀ expanded, t.expand s.lookup = .ok expanded →
      ∀ token ∈ tokens expanded, s.resolve token = s'.resolve token) :
    t.evaluate s = t.evaluate s' := by
  have hexpand : t.expand s.lookup = t.expand s'.lookup := by
    unfold expand
    rw [expandAll_congr hlookup]
  unfold evaluate
  rw [← hexpand]
  cases hexpanded : t.expand s.lookup with
  | error e => rfl
  | ok expanded =>
    rw [Except.ok_bind, Except.ok_bind]
    rw [substitute_congr fun token htoken => by
      rw [hresolve expanded hexpanded token (mem_tokens htoken)]]

end Template

/-! ## Whole patterns -/

namespace Registry

variable {r : Registry} {c c' : Context} {t : Template} {pattern key : String} {moment : Moment}
  {counter padding : Int}

/-- Where a pattern has nothing against it and none of its variables reads a key, two contexts that
    agree beside this key make different numbers only if a condition reads the key, or if the text
    that the conditionals leave has a token that reads it and that is none of the pattern; and then
    not every literal text and branch closes its own braces. -/
theorem reads_of_ne (hr : r.KeepsToKeys) (hc : c.Keyed) (hc' : c'.Keyed)
    (hagree : ∀ name, upper name ≠ upper key → c.get? name = c'.get? name)
    (hparse : Template.parse pattern = .ok t) (ht : r.Passes t)
    (hunread : ∀ name ∈ t.variableNames, ¬r.Reads name key)
    (hne : (do
      let t ← Template.parse pattern
      t.evaluate (← Scope.forMoment r c moment counter padding)) ≠ (do
      let t ← Template.parse pattern
      t.evaluate (← Scope.forMoment r c' moment counter padding))) :
    (∃ d choice, .conditional d ∈ t.segments ∧ d.checked = .ok choice ∧
      r.Reads choice.condition.subject key) ∨
    ¬t.SegmentBalanced ∧ ∃ s expanded token, Scope.forMoment r c moment counter padding = .ok s ∧
      t.expand s.lookup = .ok expanded ∧ token ∈ tokens expanded ∧
      token.name ∉ t.variableNames ∧ r.Reads token.name key := by
  by_contra hnone
  obtain ⟨hconditions, htokens⟩ := not_or.mp hnone
  -- Otherwise both passes ask the two scopes for nothing but what they agree in.
  apply hne
  rw [hparse, Except.ok_bind, Except.ok_bind]
  unfold Scope.forMoment
  cases ho : Occasion.at moment counter padding with
  | error e => rfl
  | ok o =>
    have hscope : Scope.forMoment r c moment counter padding = .ok (Scope.of r c o) := by
      unfold Scope.forMoment
      rw [ho]
      rfl
    show t.evaluate (Scope.of r c o) = t.evaluate (Scope.of r c' o)
    refine Template.evaluate_congr (fun d choice hd hchecked => ?_)
      fun expanded hexpand token htoken => ?_
    · exact Scope.lookup_of_not_reads hr hc hc' hagree fun hreads =>
        hconditions ⟨d, choice, hd, hchecked, hreads⟩
    · refine Scope.resolve_of_not_reads hr hc hc' hagree (upper_name_of_mem_tokens htoken) ?_
      intro hreads
      have hunseen : token.name ∉ t.variableNames := fun hname => hunread _ hname hreads
      refine htokens ⟨fun hbalanced => ?_, _, expanded, token, hscope, hexpand, htoken, hunseen,
        hreads⟩
      -- A token of a segment is one of the pattern.
      obtain ⟨text, htext, hmem⟩ := hbalanced.mem_tokens ht hexpand htoken
      apply hunseen
      unfold Template.variableNames
      rw [List.mem_eraseDups]
      exact List.mem_map_of_mem (Template.mem_tokenList hparse htext hmem)

end Registry

end SerialNumbers
