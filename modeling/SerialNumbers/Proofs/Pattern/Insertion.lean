/-
  SerialNumbers.Proofs.Pattern.Insertion

  Texts of the caller are put into a number as they are.  Conditionals are
  decided before any text is put in, and a text that is put in is not read
  again, so neither a brace nor a question mark in it can do anything.

  Main statement: what a pattern evaluates to is, for all texts of a key at once,
  the same list of parts with the text of the key between them
  (`Template.evaluate_eq_intercalate`).
-/
import SerialNumbers.Proofs.Pattern.Dependence

namespace SerialNumbers

open Pattern Text Time

/-! ## Scopes that differ in one key -/

namespace Scope

variable {c c' : Context} {o : Occasion} {name key : String} {t : Token}

/-- Without registered variables a name reads no other key than its own. -/
theorem agree_of_keysRead (hc : c.Keyed) (hc' : c'.Keyed) (h : c.get? name = c'.get? name) :
    Context.Agree (Registry.empty.keysRead name) (of .empty c o).context
      (of .empty c' o).context := by
  intro key hkey
  rcases Registry.mem_keysRead hkey with heq | ⟨v, -, hget, -⟩
  · refine get?_of_congr hc hc' ?_
    unfold Context.get? at h ⊢
    rw [heq, h]
  · cases hget

/-- The token of a key stands for the text of the key. -/
theorem resolve_text (hc : c.Keyed) (hupper : upper key = key)
    (hfree : Builtin.isReserved key = false) {text : String} (h : c.get? key = some (.text text)) :
    (of .empty c o).resolve ⟨key, none⟩ = .ok text := by
  have hregistry : (of .empty c o).registry.get? key = none := rfl
  have hnamed : Builtin.named? key = none := by
    unfold Builtin.isReserved at hfree
    simpa using hfree
  have hget : (of .empty c o).context.get? key = some (.text text) := by
    rw [get?_of _ _ hc (hupper.symm ▸ hfree), h]
  have hhas : (of .empty c o).context.has key = true := by
    rw [Context.has_eq_isSome, hget]
    rfl
  have hrendered : (of .empty c o).context.rendered key "" = .ok text := by
    unfold Context.rendered
    rw [hget]
    rfl
  unfold resolve
  dsimp only
  rw [hnamed]
  dsimp only
  rw [hregistry]
  dsimp only
  rw [if_pos hhas, hrendered]
  rfl

/-! ## One key with different texts -/

/-- The scope of a context in which a key has this text, without registered variables. -/
def setting (c : Context) (o : Occasion) (key text : String) : Scope :=
  of .empty (c.set key (.text text)) o

theorem get?_set_text (c : Context) (hne : upper name ≠ upper key) (text text' : String) :
    (c.set key (.text text)).get? name = (c.set key (.text text')).get? name := by
  rw [Context.get?_set, Context.get?_set, beq_eq_false_iff_ne.mpr hne]
  rfl

theorem lookup_setting (hc : c.Keyed) (hne : upper name ≠ upper key) (text text' : String) :
    (setting c o key text).lookup name = (setting c o key text').lookup name :=
  lookup_congr rfl Registry.keepsToKeys_empty
    (agree_of_keysRead (hc.set key _) (hc.set key _) (get?_set_text c hne text text'))

theorem resolve_setting (hc : c.Keyed) (hupper : upper t.name = t.name)
    (hne : upper t.name ≠ upper key) (text text' : String) :
    (setting c o key text).resolve t = (setting c o key text').resolve t :=
  resolve_congr rfl Registry.keepsToKeys_empty hupper (fun b _ => resolveBuiltin_of _ _ _ o b _)
    (agree_of_keysRead (hc.set key _) (hc.set key _) (get?_set_text c hne text text'))

theorem resolve_setting_key (hc : c.Keyed) (hupper : upper key = key)
    (hfree : Builtin.isReserved key = false) (text : String) :
    (setting c o key text).resolve ⟨key, none⟩ = .ok text := by
  refine resolve_text (hc.set key _) hupper hfree ?_
  rw [Context.get?_set, if_pos (beq_self_eq_true _)]

end Scope

/-! ## The second pass -/

namespace Pattern

/-- The name of a token. -/
def Piece.name? : Piece → Option String
  | .char _ => none
  | .token t => some t.name

theorem countP_tokens (cs : List Char) (key : String) :
    (tokens cs).countP (fun token => token.name == key) =
      (pieces cs).countP fun p => p.name? == some key := by
  unfold tokens
  rw [List.countP_filterMap]
  refine List.countP_congr fun p _ => ?_
  cases p <;> simp [Piece.name?]

theorem intercalate_append {α : Type} (between first : List α) (part : List α)
    (parts : List (List α)) :
    between.intercalate ((first ++ part) :: parts) = first ++ between.intercalate (part :: parts) := by
  cases parts with
  | nil => simp
  | cons next parts => simp [List.intercalate_cons_cons]

theorem value_of_substitute {value : Token → Except Failure (List Char)} {ps : List Piece}
    {out : List Char} (h : substitute value ps = .ok out) {token : Token}
    (htoken : .token token ∈ ps) : ∃ out, value token = .ok out := by
  induction ps generalizing out with
  | nil => cases htoken
  | cons p ps ih =>
    unfold substitute at h
    cases p with
    | char c =>
      obtain ⟨more, hmore, -⟩ := Except.bind_eq_ok.mp h
      rcases List.mem_cons.mp htoken with htoken | htoken
      · cases htoken
      · exact ih hmore htoken
    | token t =>
      obtain ⟨first, hfirst, h⟩ := Except.bind_eq_ok.mp h
      obtain ⟨more, hmore, -⟩ := Except.bind_eq_ok.mp h
      rcases List.mem_cons.mp htoken with htoken | htoken
      · cases htoken
        exact ⟨first, hfirst⟩
      · exact ih hmore htoken

/-- Where the tokens of one name stand for a text that is put in and the others for one text each,
    the pieces come out as parts with the text between them, one part more than there are tokens
    of the name. -/
theorem substitute_eq_intercalate (value : String → Token → Except Failure (List Char))
    {key : String} {ps : List Piece}
    (hkey : ∀ token, .token token ∈ ps → token.name = key →
      ∀ text, value text token = .ok text.toList)
    (hother : ∀ token, .token token ∈ ps → token.name ≠ key →
      ∃ out, ∀ text, value text token = .ok out) :
    ∃ part parts, parts.length = ps.countP (fun p => p.name? == some key) ∧
      ∀ text, substitute (value text) ps = .ok (text.toList.intercalate (part :: parts)) := by
  induction ps with
  | nil => exact ⟨[], [], rfl, fun text => rfl⟩
  | cons p ps ih =>
    obtain ⟨part, parts, hlength, hrest⟩ :=
      ih (fun token htoken => hkey token (List.mem_cons_of_mem _ htoken))
        (fun token htoken => hother token (List.mem_cons_of_mem _ htoken))
    cases p with
    | char c =>
      refine ⟨c :: part, parts, ?_, fun text => ?_⟩
      · simpa [Piece.name?] using hlength
      · have happend := intercalate_append text.toList [c] part parts
        rw [List.singleton_append] at happend
        rw [substitute, hrest text, happend]
        rfl
    | token t =>
      by_cases hname : t.name = key
      · -- A part ends here, and the text stands between it and the next.
        refine ⟨[], part :: parts, ?_, fun text => ?_⟩
        · simpa [Piece.name?, hname] using hlength
        · rw [substitute, hkey t List.mem_cons_self hname text, Except.ok_bind, hrest text,
            List.intercalate_cons_cons, List.nil_append]
          rfl
      · obtain ⟨out, hout⟩ := hother t List.mem_cons_self hname
        refine ⟨out ++ part, parts, ?_, fun text => ?_⟩
        · simpa [Piece.name?, hname] using hlength
        · rw [substitute, hout text, Except.ok_bind, hrest text, intercalate_append]
          rfl

end Pattern

/-! ## Both passes -/

namespace Template

variable {pattern key : String} {t : Template} {c : Context} {o : Occasion}

/-- Where no condition asks for a key, the conditionals leave the same text whatever the key has. -/
theorem expand_setting (hc : c.Keyed)
    (h : ∀ d choice, .conditional d ∈ t.segments → d.checked = .ok choice →
      upper choice.condition.subject ≠ upper key) (text text' : String) :
    t.expand (Scope.setting c o key text).lookup = t.expand (Scope.setting c o key text').lookup := by
  unfold expand
  rw [expandAll_congr fun d choice hd hchecked =>
    Scope.lookup_setting hc (h d choice hd hchecked) text text']

/-- Where a key stands in a text without a parameter, and the text can be filled in for one text of
    the key, filling it in puts the text of the key between the same parts every time. -/
theorem substitute_setting (hc : c.Keyed) (hupper : upper key = key)
    (hfree : Builtin.isReserved key = false) {expanded : List Char}
    (hbare : ∀ token ∈ tokens expanded, token.name = key → token.parameter = none)
    {text₀ : String} {out : List Char}
    (hout : substitute (fun token => do
      return (← (Scope.setting c o key text₀).resolve token).toList) (pieces expanded) = .ok out) :
    ∃ part parts,
      parts.length = (pieces expanded).countP (fun p => p.name? == some key) ∧
      ∀ text, substitute (fun token => do
        return (← (Scope.setting c o key text).resolve token).toList) (pieces expanded) =
          .ok (text.toList.intercalate (part :: parts)) := by
  refine substitute_eq_intercalate (fun text token => do
    return (← (Scope.setting c o key text).resolve token).toList) ?_ ?_
  · intro token htoken hname text
    have hparameter := hbare token (mem_tokens htoken) hname
    have htoken : token = ⟨key, none⟩ := by rw [← hname, ← hparameter]
    rw [htoken, Scope.resolve_setting_key hc hupper hfree]
    rfl
  · intro token htoken hname
    have hnamed : upper token.name = token.name := upper_name_of_mem_tokens (mem_tokens htoken)
    have hne : upper token.name ≠ upper key := by rwa [hnamed, hupper]
    obtain ⟨out, hout⟩ := value_of_substitute hout htoken
    refine ⟨out, fun text => ?_⟩
    rw [← hout, Scope.resolve_setting hc hnamed hne text text₀]

/-- What a pattern evaluates to is the same list of parts for every text of a key, with that text
    between them, whatever is in the text: where no variable is registered, the key is not the
    engine's, no condition of the pattern asks for it in any case, and it stands in the text that
    the conditionals leave only without a parameter. -/
theorem evaluate_eq_intercalate (hparse : Template.parse pattern = .ok t)
    (pairs : List (String × Value)) (hname : ∀ c ∈ key.toList, isNameChar c = true)
    (hfree : Builtin.isReserved key = false)
    (hconditions : ∀ c choice, .conditional c ∈ t.segments → c.checked = .ok choice →
      upper choice.condition.subject ≠ key)
    {moment : Moment} {counter padding : Int} {text₀ number : String} {s : Scope}
    (hscope : Scope.forMoment .empty ((Context.ofPairs pairs).set key (.text text₀)) moment counter
      padding = .ok s)
    (hnumber : t.evaluate s = .ok number) {expanded : List Char}
    (hexpand : t.expand s.lookup = .ok expanded)
    (hbare : ∀ token ∈ tokens expanded, token.name = key → token.parameter = none) :
    ∃ parts : List String,
      parts.length = (tokens expanded).countP (fun token => token.name == key) + 1 ∧
      ∀ text, (do
        let t ← Template.parse pattern
        t.evaluate (← Scope.forMoment .empty ((Context.ofPairs pairs).set key (.text text)) moment
          counter padding)) = .ok (text.intercalate parts) := by
  have hc : (Context.ofPairs pairs).Keyed := Context.keyed_ofPairs pairs
  have hupper : upper key = key := by
    unfold upper
    rw [upperList_of_isNameChar hname, String.ofList_toList]
  obtain ⟨o, ho, heq⟩ := Except.bind_eq_ok.mp hscope
  cases heq
  -- The second pass works on one text, and what it puts in is split off once.
  obtain ⟨expanded', hexpand', hnumber⟩ := Except.bind_eq_ok.mp hnumber
  cases hexpand.symm.trans hexpand'
  obtain ⟨out, hout, -⟩ := Except.bind_eq_ok.mp hnumber
  obtain ⟨part, parts, hlength, hparts⟩ := substitute_setting hc hupper hfree hbare hout
  refine ⟨(part :: parts).map String.ofList, ?_, fun text => ?_⟩
  · rw [List.length_map, List.length_cons, hlength, countP_tokens]
  · have hscope : Scope.forMoment .empty ((Context.ofPairs pairs).set key (.text text)) moment
        counter padding = .ok (Scope.setting (Context.ofPairs pairs) o key text) := by
      unfold Scope.forMoment
      rw [ho]
      rfl
    have hexpand : t.expand (Scope.setting (Context.ofPairs pairs) o key text).lookup =
        .ok expanded := by
      rw [← hexpand]
      exact expand_setting hc (hupper.symm ▸ hconditions) text text₀
    have hjoined : String.ofList (text.toList.intercalate (part :: parts)) =
        text.intercalate ((part :: parts).map String.ofList) := by
      rw [← String.toList_inj, String.toList_intercalate]
      simp
    rw [hparse, Except.ok_bind, hscope, Except.ok_bind, evaluate, hexpand, Except.ok_bind,
      hparts text, ← hjoined]
    rfl

/-- A client in both branches of a conditional and behind it. -/
theorem evaluate_eq_intercalate_client :
    let pattern := "\x7b?tier=VIP?V-\x7bCLIENT\x7d:\x7bCLIENT\x7d\x7d/\x7bCLIENT\x7d-" ++
      "\x7bYEAR\x7d-\x7bCOUNTER:3\x7d"
    let pairs := [("Tier", Value.text "vip"), ("client", .whole 42)]
    let moment : Moment := ⟨Moment.midnight ⟨2024, 1, 1⟩, some .utc, false⟩
    ∃ t s expanded, Template.parse pattern = .ok t ∧
      Scope.forMoment .empty ((Context.ofPairs pairs).set "CLIENT" (.text "acme")) moment 7 5 =
        .ok s ∧
      t.evaluate s = .ok "V-acme/acme-2024-007" ∧ t.expand s.lookup = .ok expanded ∧
      ∃ parts : List String, parts.length = 3 ∧ ∀ text, (do
        let t ← Template.parse pattern
        t.evaluate (← Scope.forMoment .empty ((Context.ofPairs pairs).set "CLIENT" (.text text))
          moment 7 5)) = .ok (text.intercalate parts) := by
  intro pattern pairs moment
  let asked : Conditional := ⟨"tier=VIP?V-\x7bCLIENT\x7d:\x7bCLIENT\x7d".toList, 0⟩
  let t : Template := ⟨pattern, [.conditional asked,
    .literal "/\x7bCLIENT\x7d-\x7bYEAR\x7d-\x7bCOUNTER:3\x7d".toList], none⟩
  let expanded := "V-\x7bCLIENT\x7d/\x7bCLIENT\x7d-\x7bYEAR\x7d-\x7bCOUNTER:3\x7d".toList
  let scope := Scope.forMoment .empty ((Context.ofPairs pairs).set "CLIENT" (.text "acme"))
    moment 7 5
  have hparse : Template.parse pattern = .ok t := by decide +kernel
  have hboth : (do
      let s ← scope
      return (← t.expand s.lookup, ← t.evaluate s)) =
      .ok (expanded, "V-acme/acme-2024-007") := by decide +kernel
  obtain ⟨s, hscope, hboth⟩ := Except.bind_eq_ok.mp hboth
  obtain ⟨expanded', hexpand, hboth⟩ := Except.bind_eq_ok.mp hboth
  obtain ⟨number, hnumber, heq⟩ := Except.bind_eq_ok.mp hboth
  cases heq
  have hconditions (c : Conditional) (choice : Choice) (hc : .conditional c ∈ t.segments)
      (hchecked : c.checked = .ok choice) : upper choice.condition.subject ≠ "CLIENT" := by
    have hasked : asked.checked.toOption.map (fun choice => upper choice.condition.subject) =
        some "TIER" := by decide +kernel
    rcases List.mem_cons.mp hc with hc | hc
    · cases hc
      rw [hchecked] at hasked
      have hsubject : upper choice.condition.subject = "TIER" := Option.some.inj hasked
      rw [hsubject]
      decide
    · cases List.mem_singleton.mp hc
  have hname : ∀ c ∈ "CLIENT".toList, isNameChar c = true := List.all_eq_true.mp rfl
  have hparts := evaluate_eq_intercalate hparse pairs hname (by decide) hconditions hscope hnumber
    hexpand (by decide +kernel)
  have hcount : (tokens expanded).countP (fun token => token.name == "CLIENT") = 2 := by
    decide +kernel
  rw [hcount] at hparts
  exact ⟨t, s, expanded, hparse, hscope, hnumber, hexpand, hparts⟩

end Template

end SerialNumbers
