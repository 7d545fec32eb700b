/-
  SerialNumbers.Proofs.Variable.Lookup

  Conditions against tokens.  A condition looks its variable up in whatever case
  its name is written, a token stands for the variable of a name in upper case,
  and each of them goes through the engine, the registered variables and the
  context on its own.  They find the same: a condition sees the text that the
  token stands for, nothing where the scope does not have what the token needs,
  and fails where the token fails for any other cause (`Scope.lookup_sees`).
-/
import SerialNumbers.Proofs.Pattern.Sufficiency
import SerialNumbers.Proofs.Pattern.Written
import SerialNumbers.Proofs.Text.Digit

namespace SerialNumbers

open Pattern Text Time

/-! ## Names of conditions -/

namespace Pattern

/-- A name that a condition may ask for: a letter of ASCII or an underscore, and then letters,
    digits and underscores. -/
structure IsSubject (name : String) : Prop where
  start : (name.toList.head?.map isSubjectStart).getD false = true
  chars : ∀ c ∈ name.toList, isSubjectChar c = true

/-- Small letters become capitals, and all that a name may hold besides stays as it is. -/
theorem nameChars_upperChars {c : Char} (h : isSubjectChar c = true) :
    ∀ d ∈ upperChars c, isNameChar d = true := by
  have hlow : c.toNat < 0x80 := by
    have hcode := toNat_of_isSubjectChar h
    omega
  have hcode := forall_ascii (p := fun c => !isSubjectChar c || (upperChars c).all isNameChar)
    (by decide +kernel) hlow
  rw [h, Bool.not_true, Bool.false_or] at hcode
  exact List.all_eq_true.mp hcode

/-- The upper-case form of a name is one that a token can hold. -/
theorem IsSubject.nameChars_upper {name : String} (h : IsSubject name) :
    ∀ c ∈ (upper name).toList, isNameChar c = true := by
  have hupper : (upper name).toList = upperList name.toList := String.toList_ofList
  rw [hupper]
  intro d hd
  obtain ⟨c, hc, hd⟩ := List.mem_flatMap.mp hd
  exact nameChars_upperChars (h.chars c hc) d hd

theorem IsSubject.upper_upper {name : String} (h : IsSubject name) :
    upper (upper name) = upper name := by
  have hsame := upperList_of_isNameChar h.nameChars_upper
  rw [upper, hsame, String.ofList_toList]

end Pattern

/-! ## Two views of a variable -/

/-- The failures of a token that has nothing to stand for: its name is not known, or the context
    does not have what it needs. -/
inductive Unavailable : Failure → Prop where
  | unknown (name : String) : Unavailable (.evaluation (.unknownVariable name))
  | missing (name : String) (keys : List String) :
      Unavailable (.evaluation (.missingContext name keys))
  | invalid (name : String) (reasons : List String) :
      Unavailable (.evaluation (.invalidContext name reasons))

/-- What a condition sees is what a token stands for, nothing if the token fails in a way that
    counts as absence, and else the failure. -/
structure SeesAlike (absence : Failure → Prop) (seen : Except Failure (Option String))
    (token : Except Failure String) : Prop where
  value : ∀ text, seen = .ok (some text) ↔ token = .ok text
  absent : seen = .ok none ↔ ∃ e, absence e ∧ token = .error e
  failure : ∀ e, ¬absence e → (seen = .error e ↔ token = .error e)

namespace SeesAlike

variable {absence : Failure → Prop}

theorem of_value (text : String) : SeesAlike absence (.ok (some text)) (.ok text) where
  value := by simp
  absent := by simp
  failure := by simp

theorem of_absence {e : Failure} (h : absence e) : SeesAlike absence (.ok none) (.error e) where
  value := by simp
  absent := by simpa using h
  failure := by
    rintro e' he'
    simp only [reduceCtorEq, Except.error.injEq, false_iff]
    rintro rfl
    exact he' h

theorem of_failure {e : Failure} (h : ¬absence e) : SeesAlike absence (.error e) (.error e) where
  value := by simp
  absent := by
    simp only [reduceCtorEq, Except.error.injEq, false_iff]
    rintro ⟨e', he', rfl⟩
    exact h he'
  failure := by simp

end SeesAlike

/-! ## Looking up and resolving -/

namespace Context

variable {c : Context} {key key' : String}

theorem get?_congr (h : upper key = upper key') : c.get? key = c.get? key' := by
  rw [get?, get?, h]

theorem has_congr (h : upper key = upper key') : c.has key = c.has key' := by
  rw [has, has, h]

theorem rendered_congr (h : upper key = upper key') (default : String) :
    c.rendered key default = c.rendered key' default := by
  rw [rendered, rendered, get?_congr h]

end Context

/-- A text that would be too long is not missing. -/
theorem Unavailable.isTooLong_eq_false {e : Failure} (h : Unavailable e) :
    e.isTooLong = false := by
  cases h <;> rfl

/-- The variable does not fail as for an unknown name, neither in its check of the context nor when
    its value is found.  That failure says that no variable of the engine, no registered variable
    and no key of the context has the name, which is for the scope to say and not for a variable. -/
structure Variable.LeavesNames (v : Variable) (c : Context) : Prop where
  check : ∀ name, v.check c ≠ .error (.evaluation (.unknownVariable name))
  resolve : ∀ name, v.resolve c ≠ .error (.evaluation (.unknownVariable name))

/-- All that the stock variables fail for is a text that would be too long. -/
theorem Stock.leavesNames {v : Variable} (h : v ∈ Stock.all) (c : Context) : v.LeavesNames c where
  check name hfails := by cases eq_longWhole_of_check h hfails
  resolve name hfails := by cases eq_longWhole_of_check h ((resolve_eq_error h).mp hfails)

namespace Scope

variable {s : Scope} {name : String} {e : Failure}

theorem isAbsence_iff :
    isAbsence e = true ↔ Unavailable e ∧ ¬∃ other, e = .evaluation (.unknownVariable other) := by
  constructor
  · intro h
    unfold isAbsence at h
    split at h
    · exact ⟨.missing _ _, by simp⟩
    · exact ⟨.invalid _ _, by simp⟩
    · cases h
  · rintro ⟨h, hknown⟩
    cases h with
    | unknown name => exact absurd ⟨name, rfl⟩ hknown
    | missing name keys => rfl
    | invalid name reasons => rfl

/-- The failure says that the scope does not have what the token of a name needs; that the name is
    unknown, only where no variable is registered under it. -/
def Lacks (s : Scope) (name : String) (e : Failure) : Prop :=
  Unavailable e ∧ ((∃ other, e = .evaluation (.unknownVariable other)) →
    s.registry.get? name = none)

/-- A variable of the engine other than the counter stands for its plain value. -/
theorem resolveBuiltin_none {b : Builtin} (hb : b ≠ .counter) :
    s.resolveBuiltin b none = .ok (b.value s.occasion) := by
  have hother : (b == Builtin.counter) = false := beq_eq_false_iff_ne.mpr hb
  rw [resolveBuiltin_eq]
  simp [formatBuiltin, hother]

/-- Condition and token go to the same variable: one of the engine, or a registered one, or a key
    of the context, whose value may be too long to be written.  Where the condition takes the
    failure of a registered one for absence decides whether they are alike. -/
theorem lookup_alike (hname : IsSubject name) (hcounter : upper name ≠ "COUNTER")
    {absence : Failure → Prop} (habsence : ∀ e, absence e → Unavailable e)
    (hunknown : s.registry.get? name = none →
      absence (.evaluation (.unknownVariable (upper name))))
    (hcustom : ∀ v, s.registry.get? name = some v → ∀ e, v.resolveIn s.context none = .error e →
      (isAbsence e = true ↔ absence e)) :
    SeesAlike absence (s.lookup name) (s.resolve ⟨upper name, none⟩) := by
  have hsame : s.registry.get? (upper name) = s.registry.get? name := by
    rw [Registry.get?, Registry.get?, hname.upper_upper]
  unfold lookup resolve
  dsimp only
  rw [hsame]
  cases hbuiltin : Builtin.named? (upper name) with
  | some b =>
    have hb : b ≠ .counter := by
      rintro rfl
      exact hcounter (Builtin.name_of_named? hbuiltin).symm
    dsimp only
    rw [resolveBuiltin_none hb, rendered_engine]
    exact .of_value _
  | none =>
    cases hregistered : s.registry.get? name with
    | some v =>
      cases hresolve : v.resolveIn s.context none with
      | ok text => simpa [hresolve] using SeesAlike.of_value text
      | error e =>
        have hiff := hcustom v hregistered e hresolve
        by_cases habsent : isAbsence e = true
        · simpa [hresolve, habsent] using SeesAlike.of_absence (hiff.mp habsent)
        · simpa [hresolve, habsent] using SeesAlike.of_failure (mt hiff.mpr habsent)
    | none =>
      -- The context is asked in the spelling of the condition here, and in capitals there.
      dsimp only
      rw [Context.has_congr hname.upper_upper, Context.rendered_congr hname.upper_upper]
      by_cases hhas : s.context.has name = true
      · rw [if_pos hhas, if_pos hhas]
        cases hrendered : s.context.rendered name "" with
        | ok text => exact .of_value text
        | error e =>
          refine .of_failure fun habsent => ?_
          have hlong := Context.rendered_eq_error hrendered
          rw [(habsence e habsent).isTooLong_eq_false] at hlong
          cases hlong
      · rw [if_neg hhas, if_neg hhas]
        exact .of_absence (hunknown hregistered)

/-- A condition sees the text that the token of its variable stands for, and nothing just where the
    scope does not have what the token needs; it fails just where the token fails otherwise.  What
    the scope lacks is told from the failure alone, unless a registered variable fails as for an
    unknown name, and then the condition fails as the token does. -/
theorem lookup_sees (hname : IsSubject name) (hcounter : upper name ≠ "COUNTER") :
    SeesAlike (s.Lacks name) (s.lookup name) (s.resolve ⟨upper name, none⟩) ∧
      ((∀ v, s.registry.get? name = some v → v.LeavesNames s.context) →
        SeesAlike Unavailable (s.lookup name) (s.resolve ⟨upper name, none⟩)) := by
  constructor
  · apply lookup_alike hname hcounter fun _ hlacks => hlacks.1
    · exact fun hnone => ⟨.unknown _, fun _ => hnone⟩
    · -- Where a variable is registered, an unknown name is no word of the scope.
      intro v hv e hfails
      rw [isAbsence_iff, Lacks, hv]
      simp
  · intro hleaves
    apply lookup_alike hname hcounter fun _ hunavailable => hunavailable
    · exact fun _ => .unknown _
    · intro v hv e hfails
      rw [isAbsence_iff, and_iff_left_iff_imp]
      -- An unknown name could only be the variable's own failure.
      rintro hunavailable ⟨other, rfl⟩
      rcases Variable.resolveIn_eq_error hfails with habsent | hcheck | ⟨-, hresolve⟩
      · cases habsent
      · exact (hleaves v hv).check other hcheck
      · exact (hleaves v hv).resolve other hresolve

/-- The scope of a context with the first of the year 2024 as its moment. -/
def onNewYear (r : Registry) (pairs : List (String × Value)) : Scope :=
  of r (.ofPairs pairs) ⟨⟨Moment.midnight ⟨2024, 1, 1⟩, none, false⟩, .ofNat 1704067200, 1, 5,
    Number.writable_one, Number.writable_five⟩

/-- Where the context has a tier and no department, a condition on the tier sees it as the token
    shows it, and one on the department sees nothing. -/
theorem lookup_sees_department :
    let s := onNewYear Registry.empty.withDefaults [("tier", .text "gold")]
    IsSubject "Department" ∧ upper "Department" ≠ "COUNTER" ∧
      (∀ v, s.registry.get? "Department" = some v → v.LeavesNames s.context) ∧
      s.lookup "Department" = .ok none ∧
      (∃ e, Unavailable e ∧ s.resolve ⟨"DEPARTMENT", none⟩ = .error e) ∧
      s.lookup "customer_tier" = .ok (some "GOLD") ∧
      s.resolve ⟨"CUSTOMER_TIER", none⟩ = .ok "GOLD" := by
  intro s
  have hdepartment : IsSubject "Department" := ⟨by decide, List.all_eq_true.mp (by decide)⟩
  have htier : IsSubject "customer_tier" := ⟨by decide, List.all_eq_true.mp (by decide)⟩
  have hleaves : ∀ v, s.registry.get? "Department" = some v → v.LeavesNames s.context := by
    intro v hv
    have hstock : s.registry.get? "Department" = some Stock.department := rfl
    cases hstock.symm.trans hv
    exact Stock.leavesNames (List.mem_of_getElem? (i := 1) rfl) _
  have hcounter : upper "Department" ≠ "COUNTER" := by decide +kernel
  have hother : upper "customer_tier" ≠ "COUNTER" := by decide +kernel
  have hlookup : s.lookup "Department" = .ok none := by decide +kernel
  have hresolve : s.resolve ⟨"CUSTOMER_TIER", none⟩ = .ok "GOLD" := by decide +kernel
  have habsent := ((lookup_sees hdepartment hcounter).2 hleaves).absent.mp hlookup
  have hseen := ((lookup_sees htier hother).1.value "GOLD").mpr hresolve
  exact ⟨hdepartment, hcounter, hleaves, hlookup, habsent, hseen, hresolve⟩

/-- A variable that stands for another one, which nobody has, fails as for an unknown name; the
    condition does not take this for absence, and fails too. -/
theorem lookup_not_sees :
    let parent := Variable.plain "PARENT" "" [] [] [] none fun _ =>
      .error (.evaluation (.unknownVariable "CHILD"))
    let s := onNewYear ⟨⟨[("PARENT", parent)]⟩⟩ []
    let e : Failure := .evaluation (.unknownVariable "CHILD")
    IsSubject "parent" ∧ upper "parent" ≠ "COUNTER" ∧ Unavailable e ∧
      s.resolve ⟨"PARENT", none⟩ = .error e ∧ s.lookup "parent" = .error e ∧
      ¬SeesAlike Unavailable (s.lookup "parent") (s.resolve ⟨upper "parent", none⟩) := by
  intro parent s e
  have hresolve : s.resolve ⟨"PARENT", none⟩ = .error e := by decide +kernel
  have hlookup : s.lookup "parent" = .error e := by decide +kernel
  have hupper : upper "parent" = "PARENT" := by decide +kernel
  refine ⟨⟨by decide, List.all_eq_true.mp (by decide)⟩, by decide +kernel, .unknown _, hresolve,
    hlookup, fun halike => ?_⟩
  have hnone := halike.absent.mpr ⟨e, .unknown _, hupper ▸ hresolve⟩
  cases hnone.symm.trans hlookup

end Scope

end SerialNumbers
