/-
  SerialNumbers.Proofs.Variable.Naming

  The names of registered variables against the names of tokens.  Whatever a
  registry is asked to do, it holds each of its variables once, under the
  variable's own name, and none under a name of the engine (`WellNamed`).  A
  name of capitals, digits and underscores to its very end makes a token that
  stands for its variable in every context.  The check of names lets a line end
  pass behind such a name, and a variable of that name is reached by no token at
  all (`Registry.token_of_held`).
-/
import SerialNumbers.Pattern.Evaluation
import SerialNumbers.Proofs.Pattern.Sufficiency
import SerialNumbers.Proofs.Pattern.Template
import SerialNumbers.Proofs.Table
import Mathlib.Data.List.Nodup

namespace SerialNumbers

open Pattern Text

/-! ## Proper names -/

/-- A capital letter and then capitals, digits and underscores, to the very end. -/
def Pattern.isProperName (name : List Char) : Bool :=
  match name with
  | [] => false
  | c :: rest => c.isUpper && rest.all isNameChar

namespace Pattern

variable {name : List Char}

/-- A proper name is made of the characters of names, and starts as the name of a token does. -/
theorem nameChars_of_isProperName (h : isProperName name = true) :
    (∀ c ∈ name, isNameChar c = true) ∧ (name.head?.map isNameStart).getD false = true := by
  unfold isProperName at h
  split at h
  · cases h
  · rename_i c rest
    obtain ⟨hc, hrest⟩ := Bool.and_eq_true_iff.mp h
    constructor
    · refine List.forall_mem_cons.mpr ⟨?_, List.all_eq_true.mp hrest⟩
      unfold isNameChar
      rw [hc]
      rfl
    · show (c.isUpper || c == '_') = true
      rw [hc]
      rfl

/-- In braces, a proper name is one token. -/
theorem pieces_of_isProperName (h : isProperName name = true) :
    pieces ('\x7b' :: name ++ ['\x7d']) = [.token ⟨String.ofList name, none⟩] := by
  obtain ⟨hchars, hhead⟩ := nameChars_of_isProperName h
  have hstart : ((name ++ ['\x7d']).head?.map isNameStart).getD false = true := by
    cases name with
    | nil => cases h
    | cons c rest => exact hhead
  have htoken : tokenAt? ('\x7b' :: (name ++ ['\x7d'])) =
      some (⟨String.ofList name, none⟩, []) := by
    -- The name ends where the brace is closed, and the parameter is left out.
    rw [tokenAt?.eq_1, if_pos hstart, (nameChars_append name []).1, (nameChars_append name []).2,
      List.takeWhile_eq_self_iff.mpr hchars, List.dropWhile_eq_nil_iff.mpr hchars]
    rfl
  rw [List.cons_append, pieces]
  split
  · rename_i t tail heq
    rw [htoken] at heq
    cases heq
    rw [pieces]
  · rename_i heq
    rw [htoken] at heq
    cases heq

theorem opensConditional_of_ne {cs : List Char} (h : ∀ c ∈ cs, c ≠ '\x7b') :
    opensConditional cs = false := by
  induction cs with
  | nil => rfl
  | cons c cs ih =>
    obtain ⟨hc, hcs⟩ := List.forall_mem_cons.mp h
    unfold opensConditional
    rw [beq_eq_false_iff_ne.mpr hc, Bool.false_and, Bool.false_or]
    exact ih hcs

/-- A proper name in braces asks nothing. -/
theorem opensConditional_of_isProperName (h : isProperName name = true) :
    opensConditional ('\x7b' :: name ++ ['\x7d']) = false := by
  obtain ⟨hchars, hhead⟩ := nameChars_of_isProperName h
  have hplain : ∀ c ∈ name ++ ['\x7d'], c ≠ '\x7b' := by
    refine List.forall_mem_append.mpr ⟨fun c hc => ?_, List.forall_mem_singleton.mpr (by decide)⟩
    exact (isPlainChar_iff.mp (isPlainChar_of_isNameChar (hchars c hc))).1
  have hquestion : ((name ++ ['\x7d']).head? == some '?') = false := by
    cases name with
    | nil => cases h
    | cons c rest =>
      rw [beq_eq_false_iff_ne]
      rintro heq
      rw [Option.some.inj heq] at hhead
      cases hhead
  rw [List.cons_append, opensConditional, hquestion, Bool.and_false, Bool.false_or]
  exact opensConditional_of_ne hplain

end Pattern

namespace Variable

variable {v : Variable}

/-- The names that pass the check are the proper ones, and those with a line end behind. -/
theorem hasValidName_iff : v.hasValidName = true ↔
    isProperName v.name.toList = true ∨
      ∃ stem, isProperName stem = true ∧ v.name.toList = stem ++ ['\n'] := by
  have hdef : v.hasValidName = isProperName
      (if v.name.toList.getLast? == some '\n' then v.name.toList.dropLast else v.name.toList) := rfl
  rw [hdef]
  constructor
  · intro h
    split at h
    · rename_i hlast
      exact .inr ⟨_, h, (List.dropLast_append_getLast? '\n' (beq_iff_eq.mp hlast)).symm⟩
    · exact .inl h
  · rintro (h | ⟨stem, h, hname⟩)
    · -- A proper name has no line end that could be dropped.
      have hlast : v.name.toList.getLast? ≠ some '\n' := by
        intro hlast
        cases (nameChars_of_isProperName h).1 _ (List.mem_of_getLast? hlast)
      rw [if_neg (by rwa [beq_iff_eq])]
      exact h
    · rw [hname, List.getLast?_concat, List.dropLast_concat, if_pos (beq_self_eq_true _)]
      exact h

/-- Where its requirements are met, a variable gives its value. -/
theorem resolveIn_plain {c : Context} (hmissing : c.missing v.required = [])
    (hcheck : v.Accepts c) : v.resolveIn c none = v.resolve c := by
  obtain ⟨found, hfound, hvalid⟩ := hcheck
  unfold resolveIn
  dsimp only
  rw [hmissing, hfound, Except.ok_bind, hvalid]
  rfl

end Variable

/-! ## Registries that are asked -/

namespace Registry

/-- What a registry may be asked to do. -/
inductive Request where
  | register (v : Variable)
  | remove (name : String)
  | clear
  | addDefaults

/-- The registry after a request; one that is refused leaves it as it is. -/
def after (r : Registry) : Request → Registry
  | .register v =>
    match r.register v with
    | .ok r' => r'
    | .error _ => r
  | .remove name => r.remove name
  | .clear => empty
  | .addDefaults => r.withDefaults

/-- A new registry after requests in a row. -/
def afterAll (requests : List Request) : Registry :=
  requests.foldl after empty

/-- Every variable is held once and under its own name, which passes the check and is none of
    the engine's. -/
structure WellNamed (r : Registry) : Prop where
  once : r.byName.keys.Nodup
  named : ∀ e ∈ r.byName.entries,
    e.2.name = e.1 ∧ e.2.hasValidName = true ∧ Builtin.isReserved e.1 = false

theorem wellNamed_empty : empty.WellNamed where
  once := List.nodup_nil
  named := fun _ he => absurd he List.not_mem_nil

namespace WellNamed

variable {r : Registry} (h : r.WellNamed)
include h

theorem insert {v : Variable} (hvalid : v.hasValidName = true)
    (hreserved : Builtin.isReserved v.name = false) :
    WellNamed ⟨r.byName.insert v.name v⟩ where
  once := Table.nodup_keys_insert h.once v.name v
  named := by
    intro e he
    rcases Table.mem_put he with rfl | he
    · exact ⟨rfl, hvalid, hreserved⟩
    · exact h.named e he

theorem register {v : Variable} {r' : Registry} (hregister : r.register v = .ok r') :
    r'.WellNamed := by
  unfold Registry.register at hregister
  split at hregister
  · cases hregister
  · rename_i hvalid
    split at hregister
    · cases hregister
    · rename_i hreserved
      split at hregister
      · cases hregister
      · cases hregister
        exact h.insert (by simpa using hvalid) (by simpa using hreserved)

theorem remove (name : String) : (r.remove name).WellNamed where
  once := Table.nodup_keys_erase h.once (upper name)
  named := fun e he => h.named e (List.mem_of_mem_filter he)

theorem withDefaults : r.withDefaults.WellNamed := by
  have hstock : ∀ v ∈ Stock.all, v.hasValidName = true ∧ Builtin.isReserved v.name = false := by
    decide +kernel
  -- A stock variable takes the place of nothing that is held.
  unfold Registry.withDefaults
  refine List.foldlRecOn Stock.all _ h fun r hr v hv => ?_
  split
  · exact hr
  · exact hr.insert (hstock v hv).1 (hstock v hv).2

/-- No request spoils the names. -/
theorem after (request : Request) : (r.after request).WellNamed := by
  cases request with
  | register v =>
    show (match r.register v with | .ok r' => r' | .error _ => r).WellNamed
    cases hregister : r.register v with
    | ok r' => exact h.register hregister
    | error e => exact h
  | remove name => exact h.remove name
  | clear => exact wellNamed_empty
  | addDefaults => exact h.withDefaults

end WellNamed

/-- However a registry is asked, its variables stay well named. -/
theorem wellNamed_afterAll (requests : List Request) : (afterAll requests).WellNamed :=
  List.foldlRecOn requests _ wellNamed_empty fun _ hr request _ => hr.after request

end Registry

/-! ## Tokens of registered variables -/

section

variable {s : Scope} {v : Variable} {name : String}

/-- The token of a proper name that is held stands for the variable, whatever the context holds
    under the name. -/
theorem Scope.resolve_of_held (hproper : isProperName name.toList = true)
    (hreserved : Builtin.isReserved name = false) (hget : s.registry.byName.get? name = some v) :
    s.resolve ⟨name, none⟩ = v.resolveIn s.context none := by
  have hupper : upper name = name := by
    unfold upper
    rw [upperList_of_isNameChar (nameChars_of_isProperName hproper).1, String.ofList_toList]
  have hnamed : Builtin.named? name = none := Option.not_isSome_iff_eq_none.mp (by
    rw [Bool.not_eq_true]
    exact hreserved)
  unfold resolve
  rw [hnamed]
  dsimp only
  unfold Registry.get?
  rw [hupper, hget]

/-- A pattern that is the token of a proper name stands for what the token stands for. -/
theorem Template.evaluate_of_isProperName (hproper : isProperName name.toList = true)
    (hlength : name.length + 2 ≤ maxLength) :
    ∃ t, Template.parse (String.ofList (Token.text ⟨name, none⟩)) = .ok t ∧
      ∀ s : Scope, t.evaluate s = s.resolve ⟨name, none⟩ := by
  have htext : (String.ofList (Token.text ⟨name, none⟩)).toList =
      '\x7b' :: name.toList ++ ['\x7d'] := String.toList_ofList
  have hparse : ∃ t, Template.parse (String.ofList (Token.text ⟨name, none⟩)) = .ok t := by
    unfold Template.parse
    rw [if_neg, if_neg]
    · exact ⟨_, rfl⟩
    · rw [← String.length_toList, htext, List.length_append, List.length_cons,
        String.length_toList, List.length_singleton]
      omega
    · rw [String.isEmpty_iff, ← String.toList_inj, htext]
      exact List.cons_ne_nil _ _
  obtain ⟨t, ht⟩ := hparse
  refine ⟨t, ht, fun s => ?_⟩
  have hexpand : t.expand s.lookup = .ok ('\x7b' :: name.toList ++ ['\x7d']) := by
    rw [← htext]
    refine Template.expand_plain ht ?_
    rw [htext]
    exact opensConditional_of_isProperName hproper
  unfold Template.evaluate
  rw [hexpand, Except.ok_bind, pieces_of_isProperName hproper, String.ofList_toList]
  cases hresolve : s.resolve ⟨name, none⟩ with
  | error e =>
    unfold substitute
    rw [hresolve]
    rfl
  | ok text =>
    unfold substitute substitute
    rw [hresolve]
    show Except.ok (String.ofList (text.toList ++ [])) = _
    rw [List.append_nil, String.ofList_toList]

end

namespace Registry

/-- In braces the name is one token, and a pattern if it is not too long; they stand for the
    variable wherever its requirements are met, whatever else the context holds. -/
structure Addresses (r : Registry) (name : String) (v : Variable) : Prop where
  token : pieces (Token.text ⟨name, none⟩) = [.token ⟨name, none⟩]
  resolves : ∀ s : Scope, s.registry = r → s.context.missing v.required = [] →
    v.Accepts s.context → s.resolve ⟨name, none⟩ = v.resolve s.context
  evaluates : name.length + 2 ≤ maxLength →
    ∃ t, Template.parse (String.ofList (Token.text ⟨name, none⟩)) = .ok t ∧
      ∀ s : Scope, s.registry = r → s.context.missing v.required = [] →
        v.Accepts s.context → t.evaluate s = v.resolve s.context

/-- In braces the name is no token, and no token of any text leads to the variable. -/
structure OutOfReach (r : Registry) (name : String) (v : Variable) : Prop where
  noToken : tokens (Token.text ⟨name, none⟩) = []
  unreached : ∀ cs, ∀ t ∈ tokens cs, r.get? t.name ≠ some v

variable {r : Registry} {name : String} {v : Variable}

theorem WellNamed.addresses (h : r.WellNamed) (hheld : (name, v) ∈ r.byName.entries)
    (hproper : isProperName name.toList = true) : r.Addresses name v := by
  have hget : r.byName.get? name = some v := (Table.get?_eq_some_iff h.once).mpr hheld
  have hreserved : Builtin.isReserved name = false := (h.named _ hheld).2.2
  have hresolves (s : Scope) (hs : s.registry = r) (hmissing : s.context.missing v.required = [])
      (hcheck : v.Accepts s.context) :
      s.resolve ⟨name, none⟩ = v.resolve s.context := by
    rw [Scope.resolve_of_held hproper hreserved (hs ▸ hget)]
    exact Variable.resolveIn_plain hmissing hcheck
  refine ⟨?_, hresolves, fun hlength => ?_⟩
  · have hpieces := pieces_of_isProperName hproper
    rwa [String.ofList_toList] at hpieces
  · obtain ⟨t, ht, hevaluate⟩ := Template.evaluate_of_isProperName hproper hlength
    refine ⟨t, ht, fun s hs hmissing hcheck => ?_⟩
    rw [hevaluate s]
    exact hresolves s hs hmissing hcheck

/-- With a line end behind a proper name, the braces hold something that is no token. -/
theorem tokens_of_lineEnd {stem : List Char} (hproper : isProperName stem = true)
    (hname : name.toList = stem ++ ['\n']) : tokens (Token.text ⟨name, none⟩) = [] := by
  have hchars := (nameChars_of_isProperName hproper).1
  have hstop : (stem ++ ['\n', '\x7d']).dropWhile isNameChar = ['\n', '\x7d'] :=
    List.dropWhile_append_of_pos hchars
  have htext : Token.text ⟨name, none⟩ = '\x7b' :: (stem ++ ['\n', '\x7d']) := by
    show '\x7b' :: name.toList ++ ['\x7d'] = _
    rw [hname, List.cons_append, List.append_assoc]
    rfl
  -- What stops the name is neither the closing brace nor a colon.
  have hnone : tokenAt? ('\x7b' :: (stem ++ ['\n', '\x7d'])) = none := by
    rw [tokenAt?.eq_1, hstop]
    exact ite_self none
  have hrest : tokens (stem ++ ['\n', '\x7d']) = [] := by
    have hplain : ∀ c ∈ stem, c ≠ '\x7b' := fun c hc =>
      (isPlainChar_iff.mp (isPlainChar_of_isNameChar (hchars c hc))).1
    rw [tokens_append_of_ne hplain, ← List.append_nil ['\n', '\x7d'], tokens_append_of_ne (by simp)]
    exact tokens_nil
  rw [htext, tokens_cons, hnone]
  exact hrest

theorem WellNamed.outOfReach (h : r.WellNamed) (hheld : (name, v) ∈ r.byName.entries)
    {stem : List Char} (hproper : isProperName stem = true)
    (hname : name.toList = stem ++ ['\n']) : r.OutOfReach name v := by
  refine ⟨tokens_of_lineEnd hproper hname, fun cs t ht hget => ?_⟩
  -- A variable is held under its own name only, and no token has a line end in its name.
  have hfound : (upper t.name, v) ∈ r.byName.entries := (Table.get?_eq_some_iff h.once).mp hget
  have hsame : upper t.name = name :=
    (h.named _ hfound).1.symm.trans (h.named _ hheld).1
  rw [upper_name_of_mem_tokens ht] at hsame
  have hend : '\n' ∈ t.name.toList := by
    rw [hsame, hname]
    exact List.mem_append_right _ (List.mem_singleton_self _)
  cases nameChars_of_mem_tokens ht _ hend

/-- Whatever a registry is asked to do, it holds a variable once, under the variable's own name,
    which is none of the engine's.  If the name is proper to its end, its token addresses the
    variable; it can also be a proper name with a line end behind, and then no token does. -/
theorem token_of_held {requests : List Request}
    (h : (name, v) ∈ (afterAll requests).byName.entries) :
    (afterAll requests).byName.keys.count name = 1 ∧ v.name = name ∧
      Builtin.isReserved name = false ∧
      (isProperName name.toList = true ∧ (afterAll requests).Addresses name v ∨
        (∃ stem, isProperName stem = true ∧ name.toList = stem ++ ['\n']) ∧
          (afterAll requests).OutOfReach name v) := by
  have hr := wellNamed_afterAll requests
  obtain ⟨hname, hvalid, hreserved⟩ := hr.named _ h
  dsimp only at hname
  refine ⟨List.count_eq_one_of_mem hr.once (List.mem_map_of_mem h), hname, hreserved, ?_⟩
  rcases Variable.hasValidName_iff.mp hvalid with hproper | ⟨stem, hproper, hstem⟩
  · rw [hname] at hproper
    exact .inl ⟨hproper, hr.addresses h hproper⟩
  · rw [hname] at hstem
    exact .inr ⟨⟨stem, hproper, hstem⟩, hr.outOfReach h hproper hstem⟩

/-- A variable under the name of a region with a line end behind. -/
def region : Variable := Variable.unlisted "REGION\n" "EU" none

/-- The name with a line end is let in, next to the stock variables, and is not what a request to
    remove the region takes out.  Its braces hold no token; those of a department do. -/
theorem token_of_held_region :
    ∃ requests : List Request, ("REGION\n", region) ∈ (afterAll requests).byName.entries ∧
      (afterAll requests).OutOfReach "REGION\n" region ∧
      (afterAll requests).Addresses "DEPARTMENT" Stock.department := by
  have hregion : ("REGION\n", region) ∈
      (afterAll [.register region, .addDefaults, .remove "region"]).byName.entries :=
    List.mem_of_getElem? (i := 0) (by rfl)
  have hdepartment : ("DEPARTMENT", Stock.department) ∈
      (afterAll [.register region, .addDefaults, .remove "region"]).byName.entries :=
    List.mem_of_getElem? (i := 2) (by rfl)
  refine ⟨_, hregion, ?_, ?_⟩
  · obtain ⟨-, -, -, ⟨hproper, -⟩ | ⟨-, hreach⟩⟩ := token_of_held hregion
    · exact absurd hproper (by decide)
    · exact hreach
  · obtain ⟨-, -, -, ⟨-, haddresses⟩ | ⟨⟨stem, -, hstem⟩, -⟩⟩ := token_of_held hdepartment
    · exact haddresses
    · have hlast := congrArg List.getLast? hstem
      rw [List.getLast?_concat] at hlast
      exact absurd hlast (by decide)

end Registry

end SerialNumbers
