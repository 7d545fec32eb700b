/-
  SerialNumbers.Proofs.Variable.Stock

  The texts of the stock variables against the expressions that they declare.
  The checks of codes look at letters in either case, the values are put in
  upper case, and the declared classes hold the letters of ASCII alone.  So a
  value that passes the check has the declared shape, unless it holds one of two
  letters that have a small letter of ASCII as their other case and are no
  letters of ASCII themselves (`Stock.accepts_resolved`).
-/
import SerialNumbers.Proofs.Shape.Matching
import SerialNumbers.Proofs.Store.Action
import SerialNumbers.Variable.Resolution

namespace SerialNumbers

open Text Pattern

namespace Stock

/-! ## Characters of codes -/

/-- A capital beyond ASCII with a small letter of ASCII as its other case: the I with a dot above,
    and the sign of the kelvin. -/
def isForeignCapital (c : Char) : Bool :=
  c.toNat == 0x130 || c.toNat == 0x212A

/-- The characters of ASCII, and the letters beyond that have one of ASCII as their other case. -/
def codeCandidates : List Char :=
  (List.range 0x80 ++ [0x130, 0x131, 0x17F, 0x212A]).map Char.ofNat

theorem mem_codeCandidates {c : Char} (h : isProjectChar c = true) : c ∈ codeCandidates := by
  have hcode : c.toNat ∈ List.range 0x80 ++ [0x130, 0x131, 0x17F, 0x212A] := by
    rw [List.mem_append, List.mem_range]
    unfold isProjectChar isCodeChar isCodeLetter Char.isAlpha at h
    simp only [Bool.or_eq_true, beq_iff_eq, List.contains_iff_mem] at h
    -- Capitals, small letters, the letters beyond ASCII, digits, and the two signs.
    rcases h with ((((h | h) | h) | h) | rfl) | rfl
    · have hhigh : 65 ≤ c.toNat ∧ c.toNat ≤ 90 := of_decide_eq_true h
      omega
    · have hhigh : c.toNat ≤ 122 := of_decide_eq_true (Bool.and_eq_true_iff.mp h).2
      omega
    · exact .inr h
    · have hhigh : c.toNat ≤ 57 := of_decide_eq_true (Bool.and_eq_true_iff.mp h).2
      omega
    · decide
    · decide
  exact List.mem_map.mpr ⟨c.toNat, hcode, Char.ofNat_toNat c⟩

/-- The character stays one in upper case, which is in the class unless it is a foreign capital. -/
def upperFits (items : List Shape.Item) (c : Char) : Bool :=
  match upperChars c with
  | [d] => Shape.classHolds false items d == !isForeignCapital d
  | _ => false

theorem upperFits_iff {items : List Shape.Item} {c : Char} : upperFits items c = true ↔
    ∃ d, upperChars c = [d] ∧ Shape.classHolds false items d = !isForeignCapital d := by
  unfold upperFits
  split
  · rename_i d heq
    rw [heq, beq_iff_eq]
    exact ⟨fun h => ⟨d, rfl, h⟩, fun ⟨d', hd', h⟩ => (List.cons.inj hd').1 ▸ h⟩
  · rename_i hne
    exact ⟨nofun, fun ⟨d, hd, _⟩ => absurd hd (hne d)⟩

/-! ## Declared classes -/

/-- The class that the department declares. -/
def departmentItems : List Shape.Item :=
  [.range 'A' 'Z', .range 'a' 'z', .range '0' '9', .range '_' '_']

/-- The class that the project code declares. -/
def projectItems : List Shape.Item :=
  departmentItems ++ [.range '-' '-']

/-- Codes of so many characters of a class at most, as they are declared. -/
def codeShape (source : String) (items : List Shape.Item) (most : Nat) : Shape :=
  .declared source (.seq (.times (.oneOf false items) (.between 1 most)) Shape.nothing)

theorem upperFits_department {c : Char} (h : isCodeChar c = true) :
    upperFits departmentItems c = true := by
  have hall :
      (codeCandidates.all fun c => !isCodeChar c || upperFits departmentItems c) = true := by
    decide +kernel
  have hproject : isProjectChar c = true := by
    unfold isProjectChar
    rw [h]
    rfl
  simpa [h] using List.all_eq_true.mp hall c (mem_codeCandidates hproject)

theorem upperFits_project {c : Char} (h : isProjectChar c = true) :
    upperFits projectItems c = true := by
  have hall :
      (codeCandidates.all fun c => !isProjectChar c || upperFits projectItems c) = true := by
    decide +kernel
  simpa [h] using List.all_eq_true.mp hall c (mem_codeCandidates h)

/-! ## Codes -/

section

variable {items : List Shape.Item} {code : List Char}

/-- Fitting characters stay as many in upper case, and the class holds those of them that are no
    foreign capitals. -/
theorem upperList_of_fits (h : ∀ c ∈ code, upperFits items c = true) :
    (upperList code).length = code.length ∧
      ∀ d ∈ upperList code, Shape.classHolds false items d = !isForeignCapital d := by
  induction code with
  | nil => exact ⟨rfl, List.forall_mem_nil _⟩
  | cons c code ih =>
    obtain ⟨hc, hcode⟩ := List.forall_mem_cons.mp h
    obtain ⟨d, hd, hclass⟩ := upperFits_iff.mp hc
    obtain ⟨hlength, hall⟩ := ih hcode
    rw [upperList_cons, hd]
    exact ⟨congrArg Nat.succ hlength, List.forall_mem_cons.mpr ⟨hclass, hall⟩⟩

theorem classHolds_of_repeats {k : Nat} {u : List Char}
    (h : Shape.Repeats (.oneOf false items) k u) :
    ∀ c ∈ u, Shape.classHolds false items c = true := by
  induction k generalizing u with
  | zero =>
    cases h with
    | zero => exact List.forall_mem_nil _
  | succ k ih =>
    cases h with
    | succ hfirst hrest =>
      cases hfirst with
      | oneOf hc => exact List.forall_mem_cons.mpr ⟨hc, ih hrest⟩

theorem classHolds_of_matches {source : String} {most : Nat} {u : List Char}
    (h : Shape.Matches (codeShape source items most) u) :
    ∀ c ∈ u, Shape.classHolds false items c = true := by
  unfold codeShape at h
  cases h with
  | declared h =>
    cases h with
    | @seq _ _ first rest hfirst hrest =>
      cases hrest
      cases hfirst with
      | times _ _ hrepeats =>
        rw [List.append_nil]
        exact classHolds_of_repeats hrepeats

/-- A code of fitting characters has the declared shape in upper case, unless it holds a foreign
    capital then. -/
theorem accepts_codeShape {most : Nat} (hfits : ∀ c ∈ code, upperFits items c = true)
    (hleast : code ≠ []) (hmost : code.length ≤ most) (source : String) :
    (codeShape source items most).accepts (upperList code) = true ↔
      ∀ d ∈ upperList code, isForeignCapital d = false := by
  obtain ⟨hlength, hclass⟩ := upperList_of_fits hfits
  rw [Shape.accepts_iff]
  constructor
  · intro h d hd
    have hheld := classHolds_of_matches h d hd
    rw [hclass d hd, Bool.not_eq_true'] at hheld
    exact hheld
  · intro h
    -- The code is as long in upper case, so its length is still one that is declared.
    have hpositive : 1 ≤ code.length := List.length_pos_iff.mpr hleast
    have htimes :
        Shape.Matches (.times (.oneOf false items) (.between 1 most)) (upperList code) := by
      refine Shape.matches_times (fun d hd => .oneOf ?_) ?_ ?_
      · rw [hclass d hd, h d hd]
        rfl
      · rw [hlength]
        exact hpositive
      · rintro extra ⟨⟩
        show _ ≤ 1 + (most - 1)
        omega
    have hseq := htimes.seq (.literal [])
    rw [List.append_nil] at hseq
    exact .declared hseq

end

/-! ## Checked values -/

/-- A tier that passes the check is one of the tiers. -/
theorem tier_mem_of_findings {given : String} (h : (tierFindings given).isValid = true) :
    (if given.isEmpty then defaultTier else tierOf given) ∈ tiers := by
  unfold tierFindings at h
  split
  · decide
  · rename_i hgiven
    rw [if_neg hgiven] at h
    split at h
    · rename_i hmem
      exact List.contains_iff_mem.mp hmem
    · cases h

theorem code_of_departmentFindings {code : String} (h : (departmentFindings code).isValid = true) :
    code.toList ≠ [] ∧ code.toList.length ≤ 10 ∧ ∀ d ∈ code.toList, isCodeChar d = true := by
  unfold departmentFindings at h
  dsimp only at h
  split at h
  · cases h
  · rename_i hempty
    split at h
    · rename_i hcode
      obtain ⟨hlength, hall⟩ := Bool.and_eq_true_iff.mp hcode
      exact ⟨fun hnil => hempty (List.isEmpty_iff.mpr hnil), of_decide_eq_true hlength,
        List.all_eq_true.mp hall⟩
    · cases h

theorem code_of_projectFindings {code : String} (h : (projectFindings code).isValid = true) :
    code.toList ≠ [] ∧ code.toList.length ≤ 20 ∧ ∀ d ∈ code.toList, isProjectChar d = true := by
  unfold projectFindings at h
  dsimp only at h
  split at h
  · cases h
  · rename_i hempty
    split at h
    · cases h
    · rename_i hlength
      split at h
      · rename_i hall
        exact ⟨fun hnil => hempty (List.isEmpty_iff.mpr hnil), Nat.le_of_not_lt hlength,
          List.all_eq_true.mp hall⟩
      · cases h

/-! ## Values and shapes -/

/-- What a text of a variable and the shape of the variable's plain token are to each other. -/
structure Fits (v : Variable) (text : String) (shape : Shape) : Prop where
  /-- The matcher looks for this shape at the token. -/
  declared : ∀ (r : Registry) (padding : Int), r.get? v.name = some v →
    r.shape padding ⟨v.name, none⟩ = .ok shape
  /-- The text has the shape unless it holds a foreign capital. -/
  accepts : shape.accepts text.toList = true ↔ ∀ d ∈ text.toList, isForeignCapital d = false
  /-- Then the text passes between texts that have the shapes before and after. -/
  placed : (∀ d ∈ text.toList, isForeignCapital d = false) →
    ∀ (before after : List Shape) (us vs : List (List Char)),
      List.Forall₂ Shape.Matches before us → List.Forall₂ Shape.Matches after vs →
      (Shape.seqAll (before ++ shape :: after)).accepts (us ++ text.toList :: vs).flatten = true

theorem Fits.of_declared {v : Variable} {text source : String} {inner : Shape}
    (hname : Builtin.named? v.name = none) (hsource : v.expression = some source)
    (hplain : source.isEmpty = false) (hread : Shape.read? source = some inner)
    (haccepts : (Shape.declared source inner).accepts text.toList = true ↔
      ∀ d ∈ text.toList, isForeignCapital d = false) :
    Fits v text (.declared source inner) := by
  refine ⟨fun r padding hget => ?_, haccepts, fun hnone before after us vs hbefore hafter => ?_⟩
  · have hdeclared : Registry.declared? v none = some source := by
      unfold Registry.declared?
      dsimp only
      rw [hsource, Option.filter_some, hplain]
      rfl
    unfold Registry.shape Registry.customShape
    dsimp only
    rw [hname]
    dsimp only
    rw [hget]
    dsimp only
    rw [hdeclared]
    dsimp only
    rw [hread]
  · have htext := Shape.accepts_iff.mp (haccepts.mpr hnone)
    have hall := List.rel_append hbefore (.cons htext hafter)
    exact Shape.accepts_of_matches (Shape.matches_seqAll hall)

/-- A stock variable has a value in every context that passes its check, and the value has the
    declared shape just when it holds no foreign capital, as a tier never does. -/
theorem accepts_resolved {v : Variable} (hv : v ∈ all) {c : Context} {found : Findings}
    (hcheck : v.check c = .ok found) (hvalid : found.isValid = true) :
    ∃ text shape, v.resolve c = .ok text ∧ Fits v text shape ∧
      (v.name = "CUSTOMER_TIER" → ∀ d ∈ text.toList, isForeignCapital d = false) := by
  simp only [all, List.mem_cons, List.not_mem_nil, or_false] at hv
  rcases hv with rfl | rfl | rfl
  · -- There are few tiers, and each of them is read by the expression that lists them.
    have hread : ∀ tier ∈ tiers, (Shape.read? ("|".intercalate tiers)).map
        (fun inner => inner.accepts tier.toList) = some true := by
      decide +kernel
    have hforeign : ∀ tier ∈ tiers, (tier.toList.all fun d => !isForeignCapital d) = true := by
      decide +kernel
    have hforeign : ∀ tier ∈ tiers, ∀ d ∈ tier.toList, isForeignCapital d = false := by
      intro tier htier d hd
      simpa using List.all_eq_true.mp (hforeign tier htier) d hd
    obtain ⟨given, hgiven, rfl⟩ := Except.map_eq_ok.mp hcheck
    have hmem := tier_mem_of_findings hvalid
    obtain ⟨inner, hinner, haccepts⟩ := Option.map_eq_some_iff.mp (hread _ hmem)
    have hresolve : customerTier.resolve c =
        .ok (if given.isEmpty then defaultTier else tierOf given) := by
      show (givenTier c >>= _) = _
      rw [hgiven]
      rfl
    exact ⟨_, _, hresolve, .of_declared (by decide) rfl (by decide) hinner
      ⟨fun _ => hforeign _ hmem, fun _ => haccepts⟩, fun _ => hforeign _ hmem⟩
  · obtain ⟨code, hcode, rfl⟩ := Except.map_eq_ok.mp hcheck
    obtain ⟨hleast, hmost, hall⟩ := code_of_departmentFindings hvalid
    have haccepts := accepts_codeShape (fun d hd => upperFits_department (hall d hd)) hleast hmost
      "[A-Za-z0-9_]{1,10}"
    rw [← String.toList_ofList (l := upperList _)] at haccepts
    exact ⟨_, _, Except.map_eq_ok.mpr ⟨code, hcode, rfl⟩,
      .of_declared (by decide) rfl (by decide) (by decide +kernel) haccepts,
      fun hname => absurd hname (by decide)⟩
  · obtain ⟨code, hcode, rfl⟩ := Except.map_eq_ok.mp hcheck
    obtain ⟨hleast, hmost, hall⟩ := code_of_projectFindings hvalid
    have haccepts := accepts_codeShape (fun d hd => upperFits_project (hall d hd)) hleast hmost
      "[A-Za-z0-9_-]{1,20}"
    rw [← String.toList_ofList (l := upperList _)] at haccepts
    exact ⟨_, _, Except.map_eq_ok.mpr ⟨code, hcode, rfl⟩,
      .of_declared (by decide) rfl (by decide) (by decide +kernel) haccepts,
      fun hname => absurd hname (by decide)⟩

/-- The department of the sign of the kelvin passes the check and keeps its code, which the matcher
    does not take; that of a small letter without its dot gets a code that it takes. -/
theorem accepts_resolved_kelvin :
    let kelvin := Context.ofPairs [("department_code", .text "\u212a")]
    let dotless := Context.ofPairs [("department_code", .text " \u0131t")]
    department.check kelvin = .ok .none ∧
      (∃ shape, Fits department "\u212a" shape ∧ shape.accepts ['\u212a'] = false) ∧
      department.check dotless = .ok .none ∧
      ∃ shape, Fits department "IT" shape ∧ shape.accepts ['I', 'T'] = true := by
  intro kelvin dotless
  have hdepartment : department ∈ all := List.mem_of_getElem? (i := 1) rfl
  have hkelvin : department.check kelvin = .ok .none := by decide +kernel
  have hdotless : department.check dotless = .ok .none := by decide +kernel
  refine ⟨hkelvin, ?_, hdotless, ?_⟩
  · obtain ⟨text, shape, hresolve, hfits, -⟩ := accepts_resolved hdepartment hkelvin rfl
    have htext : department.resolve kelvin = .ok "\u212a" := by decide +kernel
    cases hresolve.symm.trans htext
    refine ⟨shape, hfits, Bool.eq_false_iff.mpr fun haccepts => ?_⟩
    exact absurd (hfits.accepts.mp haccepts '\u212a' (List.mem_singleton_self _)) (by decide)
  · obtain ⟨text, shape, hresolve, hfits, -⟩ := accepts_resolved hdepartment hdotless rfl
    have htext : department.resolve dotless = .ok "IT" := by decide +kernel
    cases hresolve.symm.trans htext
    exact ⟨shape, hfits,
      hfits.accepts.mpr (List.forall_mem_cons.mpr ⟨rfl, List.forall_mem_singleton.mpr rfl⟩)⟩

end Stock

end SerialNumbers
