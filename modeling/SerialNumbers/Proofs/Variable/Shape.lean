/-
  SerialNumbers.Proofs.Variable.Shape

  What tokens stand for against the shapes that are expected of them.  The
  values and formats of the engine's variables are one table, and their shapes
  another; on every occasion of the calendar since 1970 they agree
  (`Builtin.matches_plain`, `Builtin.matches_format`).  So a text that a token
  stands for has the shape of the token, if it is the engine's or has no line
  end (`Scope.matches_shape`).
-/
import SerialNumbers.Proofs.Number.Double
import SerialNumbers.Proofs.Shape.Matching
import SerialNumbers.Proofs.Text.Digit
import SerialNumbers.Proofs.Time.Field
import SerialNumbers.Proofs.Variable.Parameter
import SerialNumbers.Proofs.Variable.Scope

namespace SerialNumbers

open Number Pattern Shape Text Time

/-! ## Numbers -/

namespace Text.IsNumber

variable {s : String} (h : IsNumber s)

include h

/-- A text of digits is a repetition of digits that allows its length. -/
theorem matches_digits {n : Shape.Times} (hleast : n.least ≤ s.toList.length)
    (hmost : ∀ extra, n.extra? = some extra → s.toList.length ≤ n.least + extra) :
    Matches (Format.digits n) s.toList :=
  matches_times (fun c hc => .digit (h.digits c hc)) hleast hmost

theorem matches_oneOrMore : Matches (Format.digits .oneOrMore) s.toList :=
  h.matches_digits h.length fun _ hextra => nomatch hextra

theorem matches_exactly {n : Nat} (hn : s.toList.length = n) :
    Matches (Format.digits (.exactly n)) s.toList := by
  refine h.matches_digits (Nat.le_of_eq hn.symm) fun extra hextra => ?_
  cases hextra
  exact Nat.le_of_eq hn

theorem matches_upTo {most : Nat} (hmost : s.toList.length ≤ most) :
    Matches (Format.digits (.between 1 most)) s.toList := by
  refine h.matches_digits h.length fun extra hextra => ?_
  cases hextra
  show s.toList.length ≤ 1 + (most - 1)
  omega

/-- Filled up to a width it has at least so many digits, and at least one. -/
theorem matches_zeroFill {least width : Nat} (hleast : least ≤ max width 1) :
    Matches (Registry.digitsFrom least) (Text.zeroFill width s).toList := by
  refine (h.zeroFill width).matches_digits ?_ fun _ hextra => nomatch hextra
  rw [h.length_zeroFill]
  exact Nat.le_trans hleast (max_le_max_left width h.length)

end Text.IsNumber

/-- A number that is small enough for the width has just so many digits. -/
theorem matches_natText {width n : Nat} (hwidth : 0 < width) (hn : n < 10 ^ width) :
    Matches (Format.digits (.exactly width)) (natText width n).toList :=
  (isNumber_natText width n).matches_exactly (length_natText hwidth hn)

theorem matches_toString {most n : Nat} (hmost : 0 < most) (hn : n < 10 ^ most) :
    Matches (Format.digits (.between 1 most)) (toString n).toList :=
  (isNumber_toString n).matches_upTo (length_toString_le hmost hn)

/-- One of the digits up to the last. -/
theorem matches_digitUpTo {last n : Nat} (hlast : last ≤ 9) (hpos : 1 ≤ n) (hn : n ≤ last) :
    Matches (Format.digitUpTo (Nat.digitChar last)) (toString n).toList := by
  have hdigits : (toString n).toList = [Nat.digitChar n] := by
    have hten : n < 10 := by omega
    exact Nat.toList_repr.trans (Nat.toDigits_of_lt_base hten)
  rw [hdigits]
  refine .oneOf ?_
  have hall : ∀ last ≤ 9, ∀ n ≤ last, 1 ≤ n →
      classHolds false [.range '1' (Nat.digitChar last)] (Nat.digitChar n) = true := by
    decide
  exact hall last hlast n hn hpos

/-- The last digits of a longer number. -/
theorem matches_takeEnd {s : String} (h : IsNumber s) {n : Nat} (hn : 1 ≤ n)
    (hlength : n ≤ s.toList.length) :
    Matches (Format.digits (.exactly n)) (takeEnd n s).toList := by
  have htext : (takeEnd n s).toList = s.toList.drop (s.toList.length - n) := String.toList_ofList
  have hrest : (takeEnd n s).toList.length = n := by
    rw [htext, List.length_drop]
    omega
  have hnumber : IsNumber (takeEnd n s) := by
    refine ⟨fun c hc => h.digits c ?_, by rwa [hrest]⟩
    rw [htext] at hc
    exact List.mem_of_mem_drop hc
  exact hnumber.matches_exactly hrest

/-! ## Names -/

/-- A capital letter and at least two small ones. -/
def isCapitalized (name : String) : Bool :=
  match name.toList with
  | [] => false
  | c :: rest =>
    classHolds false [.range 'A' 'Z'] c && rest.all (classHolds false [.range 'a' 'z']) &&
      2 ≤ rest.length

theorem isCapitalized_names : ∀ name ∈ monthNames ++ dayNames, isCapitalized name = true := by
  decide +kernel

theorem nameAt_mem {names : List String} {n : Nat} (hpos : 1 ≤ n) (hn : n ≤ names.length) :
    nameAt names n ∈ names := by
  unfold nameAt
  rw [List.getElem?_eq_getElem (by omega)]
  exact List.getElem_mem _

section

variable {name : String} (h : isCapitalized name = true)

include h

theorem exists_of_isCapitalized : ∃ c rest, name.toList = c :: rest ∧ Matches Format.capital [c] ∧
    (∀ d ∈ rest, Matches (.oneOf false [.range 'a' 'z']) [d]) ∧ 2 ≤ rest.length := by
  unfold isCapitalized at h
  split at h
  · cases h
  · rename_i c rest hname
    rw [Bool.and_eq_true, Bool.and_eq_true, List.all_eq_true, decide_eq_true_eq] at h
    obtain ⟨⟨hc, hrest⟩, hlength⟩ := h
    exact ⟨c, rest, hname, .oneOf hc, fun d hd => .oneOf (hrest d hd), hlength⟩

theorem matches_spelled :
    Matches (.seq Format.capital (Format.smalls .oneOrMore)) name.toList := by
  obtain ⟨c, rest, hname, hc, hrest, hlength⟩ := exists_of_isCapitalized h
  rw [hname]
  refine .seq hc (matches_times hrest ?_ fun _ hextra => nomatch hextra)
  exact Nat.le_trans (by decide) hlength

theorem matches_abbreviated :
    Matches (.seq Format.capital (Format.smalls (.exactly 2))) (shortName name).toList := by
  obtain ⟨c, rest, hname, hc, hrest, hlength⟩ := exists_of_isCapitalized h
  have hshort : (shortName name).toList = c :: rest.take 2 := by
    unfold shortName
    rw [String.toList_ofList, hname]
    rfl
  have htake : (rest.take 2).length = 2 := by
    rw [List.length_take]
    omega
  rw [hshort]
  refine .seq hc (matches_times (fun d hd => hrest d (List.mem_of_mem_take hd))
    (Nat.le_of_eq htake.symm) fun extra hextra => ?_)
  cases hextra
  exact Nat.le_of_eq htake

end

theorem ordinal_endings (n : Int) :
    ∃ ending ∈ ["st", "nd", "rd", "th"], ordinal n = toString n ++ ending := by
  unfold ordinal
  dsimp only
  split
  · exact ⟨"th", by decide, rfl⟩
  · split
    · exact ⟨"st", by decide, rfl⟩
    · exact ⟨"nd", by decide, rfl⟩
    · exact ⟨"rd", by decide, rfl⟩
    · exact ⟨"th", by decide, rfl⟩

/-! ## Occasions -/

/-- An occasion of the calendar since 1970, with a counter and a padding that are not
    negative. -/
structure Occasion.Ordinary (o : Occasion) : Prop where
  inRange : Moment.inRange o.moment.reading = true
  seconds : o.seconds.isNegative = false
  counter : 0 ≤ o.counter
  padding : 0 ≤ o.padding

theorem isNumber_wholeText {x : Double} (h : x.isNegative = false) : IsNumber (wholeText x) :=
  isNumber_toString_int (Double.truncate_nonneg h)

namespace Builtin

variable {o : Occasion} (h : o.Ordinary)

include h

/-- All plain values are numbers. -/
theorem isNumber_value (b : Builtin) : IsNumber (b.value o) := by
  cases b with
  | timestamp => exact isNumber_wholeText h.seconds
  | counter => exact isNumber_toString_int h.counter
  | padding => exact isNumber_toString_int h.padding
  | quarter => exact isNumber_toString _
  | dayOfWeek => exact isNumber_toString _
  | dayOfYear => exact isNumber_toString _
  | year => exact isNumber_natText _ _
  | month => exact isNumber_natText _ _
  | day => exact isNumber_natText _ _
  | hour => exact isNumber_natText _ _
  | minute => exact isNumber_natText _ _
  | second => exact isNumber_natText _ _
  | week => exact isNumber_natText _ _
  | weekYear => exact isNumber_natText _ _

/-- The plain values have the plain shapes. -/
theorem matches_plain (b : Builtin) : Matches b.plainShape (b.value o).toList := by
  have hdate := o.moment.valid_date
  have hyear := Moment.year_le h.inRange
  have hmonth := hdate.month_le
  have hday := Nat.le_trans hdate.day_le (monthLength_bounds _ _).2
  have hweek := hdate.week_bounds
  cases b with
  | year => exact matches_natText (by decide) (by omega)
  | month => exact matches_natText (by decide) (by omega)
  | day => exact matches_natText (by decide) (by omega)
  | hour => exact matches_natText (by decide) (Nat.lt_trans o.moment.hour_lt (by decide))
  | minute => exact matches_natText (by decide) (Nat.lt_trans o.moment.minute_lt (by decide))
  | second => exact matches_natText (by decide) (Nat.lt_trans o.moment.second_lt (by decide))
  | week => exact matches_natText (by decide) (by omega)
  | quarter => exact matches_digitUpTo (by decide) hdate.quarter_bounds.1 hdate.quarter_bounds.2
  | weekYear =>
    exact matches_natText (by decide) (Nat.lt_succ_of_le (Moment.weekYear_le h.inRange))
  | dayOfWeek =>
    exact matches_digitUpTo (by decide) o.moment.date.weekday_bounds.1
      o.moment.date.weekday_bounds.2
  | dayOfYear =>
    exact matches_toString (by decide) (Nat.lt_of_le_of_lt hdate.yearDay_bounds.2 (by decide))
  | timestamp => exact (isNumber_value h .timestamp).matches_oneOrMore
  | counter => exact (isNumber_value h .counter).matches_oneOrMore
  | padding => exact (isNumber_value h .padding).matches_oneOrMore

omit h in
theorem matches_two (field : Occasion → Nat) (hfield : field o < 10 ^ 2) :
    Matches (Format.two field).shape ((Format.two field).text o).toList :=
  matches_natText (by decide) hfield

omit h in
theorem matches_four (field : Occasion → Nat) (hfield : field o < 10 ^ 4) :
    Matches (Format.four field).shape ((Format.four field).text o).toList :=
  matches_natText (by decide) hfield

omit h in
theorem matches_short (field : Occasion → Nat) (hfield : field o < 10 ^ 2) :
    Matches (Format.short field).shape ((Format.short field).text o).toList :=
  matches_toString (by decide) hfield

omit h in
theorem matches_wordThen {word : String} {text : String} {shape : Shape}
    (htext : Matches shape text.toList) :
    Matches (Format.wordThen word shape) (word ++ text).toList := by
  rw [String.toList_append]
  exact .seq (.word _) htext

omit h in
theorem matches_ordinalDay {n : Nat} (hn : n < 10 ^ 2) :
    Matches Format.ordinalDay.shape (ordinal n).toList := by
  obtain ⟨ending, hending, htext⟩ := ordinal_endings n
  rw [htext, String.toList_append]
  refine .seq (matches_toString (by decide) hn) (.group ?_)
  simp only [List.mem_cons, List.not_mem_nil, or_false] at hending
  rcases hending with rfl | rfl | rfl | rfl
  · exact .first (.first (.first (.word _)))
  · exact .first (.first (.second (.word _)))
  · exact .first (.second (.word _))
  · exact .second (.word _)

omit h in
theorem matches_name (names : List String) (field : Occasion → Nat)
    (hnames : ∀ name ∈ names, isCapitalized name = true) (hpos : 1 ≤ field o)
    (hlast : field o ≤ names.length) :
    Matches (Format.abbreviated names field).shape
        ((Format.abbreviated names field).text o).toList ∧
      Matches (Format.spelled names field).shape ((Format.spelled names field).text o).toList :=
  ⟨matches_abbreviated (hnames _ (nameAt_mem hpos hlast)),
    matches_spelled (hnames _ (nameAt_mem hpos hlast))⟩

theorem matches_scaledSeconds (factor : Nat) :
    Matches (Format.scaledSeconds factor).shape ((Format.scaledSeconds factor).text o).toList := by
  have hscaled : (if factor == 1 then o.seconds
      else o.seconds.mul (Double.ofNat factor)).isNegative = false := by
    split
    · exact h.seconds
    · exact Double.isNegative_mul h.seconds (Double.isNegative_ofRatio _ _ _)
  exact (isNumber_wholeText hscaled).matches_oneOrMore

/-- The texts of the formats have the shapes of the formats. -/
theorem matches_formats (b : Builtin) :
    ∀ e ∈ b.formats, Matches e.2.shape (e.2.text o).toList := by
  have hdate := o.moment.valid_date
  have hyear := Moment.year_le h.inRange
  have hmonth := Nat.lt_of_le_of_lt hdate.month_le (by decide : 12 < 10 ^ 2)
  have hhour := Nat.lt_trans o.moment.hour_lt (by decide : 24 < 10 ^ 2)
  have hminute := Nat.lt_trans o.moment.minute_lt (by decide : 60 < 10 ^ 2)
  have hsecond := Nat.lt_trans o.moment.second_lt (by decide : 60 < 10 ^ 2)
  have hweek := Nat.lt_of_le_of_lt hdate.week_bounds.2 (by decide : 53 < 10 ^ 2)
  cases b with
  | year =>
    have htwo := matches_two (o := o) (fun o => o.moment.date.year % 100) (Nat.mod_lt _ (by decide))
    have hfour := matches_four (o := o) (·.moment.date.year) (Nat.lt_succ_of_le hyear)
    simp only [formats, List.forall_mem_cons]
    exact ⟨htwo, hfour, htwo, hfour, List.forall_mem_nil _⟩
  | month =>
    have hnames := matches_name (o := o) monthNames (·.moment.date.month)
      (fun name hname => isCapitalized_names name (List.mem_append_left _ hname)) hdate.month
      hdate.month_le
    simp only [formats, List.forall_mem_cons]
    exact ⟨matches_two _ hmonth, hnames.1, hnames.2, List.forall_mem_nil _⟩
  | day =>
    intro e he
    obtain ⟨name, -, rfl⟩ := List.mem_map.mp he
    have hday := Nat.le_trans hdate.day_le (monthLength_bounds _ _).2
    exact matches_ordinalDay (Nat.lt_of_le_of_lt hday (by decide))
  | hour =>
    simp only [formats, List.forall_mem_cons]
    exact ⟨matches_short _ hhour, matches_two _ hhour, List.forall_mem_nil _⟩
  | minute =>
    simp only [formats, List.forall_mem_cons]
    exact ⟨matches_short _ hminute, matches_two _ hminute, List.forall_mem_nil _⟩
  | second =>
    simp only [formats, List.forall_mem_cons]
    exact ⟨matches_short _ hsecond, matches_two _ hsecond, List.forall_mem_nil _⟩
  | timestamp =>
    simp only [formats, List.forall_mem_cons]
    exact ⟨matches_scaledSeconds h 1, matches_scaledSeconds h 1000,
      matches_scaledSeconds h 1000000, List.forall_mem_nil _⟩
  | quarter =>
    have hquarter : Matches (Format.digitUpTo '4') (toString o.moment.date.quarter).toList :=
      matches_digitUpTo (by decide) hdate.quarter_bounds.1 hdate.quarter_bounds.2
    refine List.forall_mem_append.mpr ⟨fun e he => ?_, ?_⟩
    · obtain ⟨name, -, rfl⟩ := List.mem_map.mp he
      exact matches_wordThen hquarter
    · simp only [List.forall_mem_cons]
      exact ⟨matches_wordThen hquarter, matches_wordThen hquarter, List.forall_mem_nil _⟩
  | week =>
    have htwo := matches_natText (by decide : 0 < 2) hweek
    simp only [formats, List.forall_mem_cons]
    exact ⟨matches_wordThen htwo, matches_wordThen htwo,
      matches_wordThen (matches_toString (by decide : 0 < 2) hweek), List.forall_mem_nil _⟩
  | weekYear =>
    have hsmall : o.moment.date.weekYear < 10 ^ 4 :=
      Nat.lt_succ_of_le (Moment.weekYear_le h.inRange)
    have hlength : (natText 4 o.moment.date.weekYear).toList.length = 4 :=
      length_natText (by decide) hsmall
    have hfour := matches_natText (by decide) hsmall
    have htwo : Matches (Format.digits (.exactly 2)) (takeEnd 2 (weekYear.value o)).toList :=
      matches_takeEnd (isNumber_natText _ _) (by decide) (by rw [hlength]; decide)
    simp only [formats, List.forall_mem_cons]
    exact ⟨htwo, hfour, htwo, hfour, List.forall_mem_nil _⟩
  | dayOfWeek =>
    have hweekday := o.moment.date.weekday_bounds
    have hnames := matches_name (o := o) dayNames (·.moment.date.weekday)
      (fun name hname => isCapitalized_names name (List.mem_append_right _ hname)) hweekday.1
      hweekday.2
    simp only [formats, List.forall_mem_cons]
    exact ⟨matches_digitUpTo (by decide) hweekday.1 hweekday.2, hnames.1, hnames.2,
      List.forall_mem_nil _⟩
  | dayOfYear => exact List.forall_mem_nil _
  | counter => exact List.forall_mem_nil _
  | padding => exact List.forall_mem_nil _

theorem matches_format {b : Builtin} {parameter : String} {format : Format}
    (hformat : b.format? parameter = some format) :
    Matches format.shape (format.text o).toList := by
  exact matches_formats h b (upper parameter, format) (Table.mem_of_lookup hformat)

end Builtin

/-! ## Tokens -/

namespace Registry

variable {r : Registry} {t : Token}

/-- No variable declares an expression for its values. -/
def Undeclared (r : Registry) : Prop :=
  ∀ key v, r.byName.get? key = some v → declared? v none = none

theorem undeclared_of_entries (h : ∀ e ∈ r.byName.entries, declared? e.2 none = none) :
    r.Undeclared := by
  intro key v hget
  exact h (key, v) (Table.mem_of_lookup hget)

theorem counterShape_none (padding : Int) :
    counterShape padding "" = .ok (digitsFrom (max padding.toNat 1)) := rfl

theorem counterShape_some (padding : Int) {parameter : String} {width : Nat}
    (h : width? maxCounterWidth parameter = .ok (some width)) :
    counterShape padding parameter = .ok (digitsFrom (max width 1)) := by
  have hnonempty : parameter.isEmpty = false := by
    rw [Bool.eq_false_iff]
    intro hempty
    rw [String.isEmpty_iff.mp hempty] at h
    cases h
  unfold counterShape
  rw [hnonempty, if_neg Bool.false_ne_true, h]
  rfl

theorem shape_counter (padding : Int) (hname : Builtin.named? t.name = some .counter) :
    r.shape padding t = counterShape padding (t.parameter.getD "") := by
  unfold shape
  rw [hname]

theorem shape_field (padding : Int) {b : Builtin} (hname : Builtin.named? t.name = some b)
    (hb : b ≠ .counter) : r.shape padding t = builtinShape b t.parameter := by
  unfold shape
  rw [hname]
  cases b <;> first | rfl | exact absurd rfl hb

/-- The value of a variable that is not the engine's may be anything. -/
theorem Undeclared.shape (hr : r.Undeclared) (padding : Int)
    (hname : Builtin.named? t.name = none) : r.shape padding t = .ok anything := by
  unfold Registry.shape
  rw [hname]
  dsimp only
  cases hcustom : r.get? t.name with
  | none => rfl
  | some v =>
    have hplain : declared? v t.parameter = none := by
      cases t.parameter with
      | none => exact hr _ v hcustom
      | some parameter => rfl
    show customShape v t.parameter = _
    unfold customShape
    rw [hplain]

/-- A token of the engine whose parameter the check has nothing against has a shape. -/
theorem exists_shape_of_named (padding : Int) {b : Builtin}
    (hname : Builtin.named? t.name = some b) (h : r.Admits t) :
    ∃ shape, r.shape padding t = .ok shape := by
  by_cases hb : b = .counter
  · subst hb
    rw [shape_counter padding hname]
    cases hparameter : t.parameter with
    | none => exact ⟨_, rfl⟩
    | some parameter =>
      have hproblem := h parameter hparameter
      unfold parameterProblem? at hproblem
      rw [hname] at hproblem
      obtain ⟨width, hwidth, hproblem⟩ := Except.bind_eq_ok.mp hproblem
      cases width with
      | none => cases hproblem
      | some width => exact ⟨_, counterShape_some padding hwidth⟩
  · rw [shape_field padding hname hb]
    unfold builtinShape
    cases hparameter : t.parameter with
    | none => exact ⟨_, rfl⟩
    | some parameter =>
      have hproblem := h parameter hparameter
      rw [parameterProblem?_field hname hb] at hproblem
      obtain ⟨width, hwidth, hproblem⟩ := Except.bind_eq_ok.mp hproblem
      dsimp only
      cases hformat : b.format? parameter with
      | some format => exact ⟨_, rfl⟩
      | none =>
        rw [hformat] at hproblem
        dsimp only
        rw [hwidth]
        cases width with
        | none => cases hproblem
        | some width => exact ⟨_, rfl⟩

/-- A token whose parameter the check has nothing against has a shape. -/
theorem exists_shape (hr : r.Undeclared) (padding : Int) (h : r.Admits t) :
    ∃ shape, r.shape padding t = .ok shape := by
  cases hname : Builtin.named? t.name with
  | none => exact ⟨_, hr.shape padding hname⟩
  | some b => exact exists_shape_of_named padding hname h

end Registry

namespace Scope

variable {r : Registry} {c : Context} {o : Occasion} {t : Token} {text : String}

/-- The text of the counter has the shape of its token. -/
theorem matches_counter (ho : o.Ordinary) (hname : Builtin.named? t.name = some .counter)
    (h : (of r c o).resolveBuiltin .counter t.parameter = .ok text) :
    ∃ shape, r.shape o.padding t = .ok shape ∧ Matches shape text.toList := by
  have hnumber := Builtin.isNumber_value ho .counter
  rw [Registry.shape_counter o.padding hname]
  rw [resolveBuiltin_eq] at h
  cases hparameter : t.parameter with
  | none =>
    rw [hparameter] at h
    obtain ⟨-, rfl⟩ := zeroPadded_eq_ok.mp h
    exact ⟨_, Registry.counterShape_none o.padding, hnumber.matches_zeroFill (Nat.le_refl _)⟩
  | some parameter =>
    rw [hparameter] at h
    obtain ⟨width, hwidth, h⟩ := Except.bind_eq_ok.mp h
    cases width with
    | none => cases h
    | some width =>
      rw [← Except.ok.inj h]
      exact ⟨_, Registry.counterShape_some o.padding hwidth,
        hnumber.matches_zeroFill (Nat.le_refl _)⟩

/-- The text of another variable of the engine has the shape of its token. -/
theorem matches_field (ho : o.Ordinary) {b : Builtin} (hname : Builtin.named? t.name = some b)
    (hb : b ≠ .counter) (h : (of r c o).resolveBuiltin b t.parameter = .ok text) :
    ∃ shape, r.shape o.padding t = .ok shape ∧ Matches shape text.toList := by
  have hcounter : ¬(b == Builtin.counter) = true := by rwa [beq_iff_eq]
  rw [Registry.shape_field o.padding hname hb]
  rw [resolveBuiltin_eq] at h
  unfold formatBuiltin at h
  unfold Registry.builtinShape
  cases hparameter : t.parameter with
  | none =>
    rw [hparameter] at h
    dsimp only at h
    rw [if_neg hcounter] at h
    rw [← Except.ok.inj h]
    exact ⟨_, rfl, Builtin.matches_plain ho b⟩
  | some parameter =>
    rw [hparameter] at h
    dsimp only at h ⊢
    rw [if_neg hcounter] at h
    cases hformat : b.format? parameter with
    | some format =>
      rw [hformat] at h
      rw [← Except.ok.inj h]
      exact ⟨_, rfl, Builtin.matches_format ho hformat⟩
    | none =>
      rw [hformat] at h
      obtain ⟨width, hwidth, h⟩ := Except.bind_eq_ok.mp h
      dsimp only
      rw [hwidth]
      cases width with
      | none => cases h
      | some width =>
        rw [← Except.ok.inj h]
        exact ⟨_, rfl, (Builtin.isNumber_value ho b).matches_zeroFill (Nat.le_max_left _ _)⟩

/-- The text that a token stands for has the shape of the token, if no line end is put in. -/
theorem matches_shape (hr : r.Undeclared) (ho : o.Ordinary)
    (h : (of r c o).resolve t = .ok text)
    (hplain : Builtin.isReserved t.name = false → '\n' ∉ text.toList) :
    ∃ shape, r.shape o.padding t = .ok shape ∧ Matches shape text.toList := by
  unfold resolve at h
  cases hname : Builtin.named? t.name with
  | some b =>
    rw [hname] at h
    by_cases hb : b = .counter
    · subst hb
      exact matches_counter ho hname h
    · exact matches_field ho hname hb h
  | none =>
    refine ⟨_, hr.shape o.padding hname, matches_anything (hplain ?_)⟩
    unfold Builtin.isReserved
    rw [hname]
    rfl

end Scope

end SerialNumbers
