/-
  SerialNumbers.Proofs.Pattern.Rendering

  Numbers that are made of literal text, one counter, and plain years, months
  and days.  Whatever the context holds, such a number is spelled piece by piece
  from a date and a counter value, and both can be told from it: two numbers of
  one pattern are the same only if they show the same date and the same counter
  (`Pattern.spelling_eq_iff`).
-/
import SerialNumbers.Proofs.Pattern.Template
import SerialNumbers.Proofs.Period
import SerialNumbers.Proofs.Text.Digit
import SerialNumbers.Proofs.Variable.Scope

namespace SerialNumbers

open Pattern Text Time

/-! ## Fields of dates -/

/-- A part of a date that a token without a parameter shows. -/
inductive DateField where
  | year
  | month
  | day
deriving DecidableEq

namespace DateField

def all : List DateField := [year, month, day]

def builtin : DateField → Builtin
  | year => .year
  | month => .month
  | day => .day

def value (d : Date) : DateField → Nat
  | year => d.year
  | month => d.month
  | day => d.day

/-- The places in which the field is written. -/
def width : DateField → Nat
  | year => 4
  | month | day => 2

/-- The field as it is written. -/
def text (d : Date) (f : DateField) : List Char :=
  (natText f.width (f.value d)).toList

theorem width_pos (f : DateField) : 0 < f.width := by
  cases f <;> decide

end DateField

/-- The fields of a date fit into their places. -/
def Time.Date.Fits (d : Date) : Prop :=
  ∀ f : DateField, f.value d < 10 ^ f.width

theorem Time.Date.Valid.fits {d : Date} (h : d.Valid) (hyear : d.year ≤ 9999) : d.Fits := by
  have hmonth := h.month_le
  have hday : d.day ≤ 31 := Nat.le_trans h.day_le (Time.monthLength_bounds _ _).2
  intro f
  cases f with
  | year => exact Nat.lt_succ_of_le hyear
  | month => exact Nat.lt_of_le_of_lt hmonth (by decide)
  | day => exact Nat.lt_of_le_of_lt hday (by decide)

namespace Pattern

/-! ## Dated patterns -/

/-- The field that a token shows, if it is a plain year, month or day. -/
def Token.field? (t : Token) : Option DateField :=
  DateField.all.find? fun f => t == ⟨f.builtin.name, none⟩

def Token.isCounter (t : Token) : Bool :=
  t.name == Builtin.counter.name

/-- The width of a counter: that of its parameter, or else the padding. -/
def Token.counterWidth (padding : Int) (t : Token) : Nat :=
  match t.parameter with
  | none => padding.toNat
  | some parameter =>
    match width? maxCounterWidth parameter with
    | .ok width => width.getD 0
    | .error _ => 0

namespace Piece

def field? : Piece → Option DateField
  | .token t => t.field?
  | .char _ => none

def isCounter : Piece → Bool
  | .token t => t.isCounter
  | .char _ => false

/-- The piece is literal text, a counter, or a plain field of a date. -/
def isDated : Piece → Bool
  | .token t => t.isCounter || t.field?.isSome
  | .char _ => true

/-- What the piece stands for on a date and with a counter value. -/
def spelled (padding : Int) (d : Date) (counter : Int) : Piece → List Char
  | .char c => [c]
  | .token t =>
    match t.field? with
    | some f => f.text d
    | none => (zeroFill (t.counterWidth padding) (toString counter)).toList

end Piece

/-- The pattern is made of literal text, one counter, and plain years, months and days. -/
structure IsDated (pattern : String) : Prop where
  plain : opensConditional pattern.toList = false
  dated : ∀ p ∈ pieces pattern.toList, p.isDated = true
  once : (pieces pattern.toList).countP Piece.isCounter = 1

/-- The fields that a pattern shows, in order. -/
def fields (pattern : String) : List DateField :=
  (pieces pattern.toList).filterMap Piece.field?

/-- What a pattern shows of a date. -/
def shown (pattern : String) (d : Date) : List Nat :=
  (fields pattern).map (·.value d)

/-- What a pattern stands for on a date and with a counter value. -/
def spelling (pattern : String) (padding : Int) (d : Date) (counter : Int) : List Char :=
  (pieces pattern.toList).flatMap (Piece.spelled padding d counter)

/-! ## Evaluation -/

theorem Token.field?_eq_some {t : Token} {f : DateField} (h : t.field? = some f) :
    t = ⟨f.builtin.name, none⟩ := by
  have hfound := List.find?_some (p := fun f : DateField => t == ⟨f.builtin.name, none⟩) h
  exact eq_of_beq hfound

/-- What a token resolves to, if it does, is what its piece stands for. -/
theorem resolve_eq_ok {r : Registry} {c : Context} {o : Occasion} {t : Token} {text : String}
    (ht : (Piece.token t).isDated = true) (h : (Scope.of r c o).resolve t = .ok text) :
    text.toList = (Piece.token t).spelled o.padding o.moment.date o.counter := by
  unfold Piece.spelled
  dsimp only
  cases hfield : t.field? with
  | some f =>
    -- A field is what the engine makes of its variable, whatever the context holds.
    rw [Token.field?_eq_some hfield] at h
    have hvalue : (Scope.of r c o).resolve ⟨f.builtin.name, none⟩ = .ok (f.builtin.value o) := by
      have hformat : (Scope.of r c o).resolveBuiltin f.builtin none = .ok (f.builtin.value o) := by
        rw [Scope.resolveBuiltin_eq]
        cases f <;> rfl
      rw [← hformat]
      cases f <;> rfl
    rw [hvalue] at h
    cases h
    cases f <;> rfl
  | none =>
    -- Any other token is the counter, as wide as its parameter or the padding says.
    have hname : t.name = Builtin.counter.name := by
      have hkind : (t.isCounter || t.field?.isSome) = true := ht
      rw [hfield, Option.isSome_none, Bool.or_false] at hkind
      exact eq_of_beq hkind
    have hcounter : (Scope.of r c o).resolveBuiltin .counter t.parameter = .ok text := by
      unfold Scope.resolve at h
      rw [hname] at h
      exact h
    rw [Scope.resolveBuiltin_eq] at hcounter
    unfold Token.counterWidth
    cases hparameter : t.parameter with
    | none =>
      rw [hparameter] at hcounter
      obtain ⟨-, rfl⟩ := zeroPadded_eq_ok.mp hcounter
      rfl
    | some parameter =>
      rw [hparameter] at hcounter
      obtain ⟨width, hwidth, hcounter⟩ := Except.bind_eq_ok.mp hcounter
      dsimp only
      rw [hwidth]
      cases width with
      | none => cases hcounter
      | some width =>
        cases hcounter
        rfl

/-- Pieces are put together in their order. -/
theorem substitute_eq_ok {text : Token → Except Failure (List Char)} {spell : Piece → List Char}
    (hchar : ∀ c, spell (.char c) = [c]) {ps : List Piece}
    (htoken : ∀ t cs, .token t ∈ ps → text t = .ok cs → cs = spell (.token t)) {out : List Char}
    (h : substitute text ps = .ok out) : out = ps.flatMap spell := by
  induction ps generalizing out with
  | nil => exact (Except.ok.inj h).symm
  | cons p rest ih =>
    have hrest {more : List Char} (hmore : substitute text rest = .ok more) :
        more = rest.flatMap spell :=
      ih (fun t cs ht => htoken t cs (List.mem_cons_of_mem p ht)) hmore
    rw [List.flatMap_cons]
    cases p with
    | char c =>
      obtain ⟨more, hmore, h⟩ := Except.bind_eq_ok.mp h
      cases h
      rw [hchar, hrest hmore]
      rfl
    | token t =>
      obtain ⟨first, hfirst, h⟩ := Except.bind_eq_ok.mp h
      obtain ⟨more, hmore, h⟩ := Except.bind_eq_ok.mp h
      cases h
      rw [htoken t first List.mem_cons_self hfirst, hrest hmore]

/-! ## Telling date and counter -/

/-- Dates that agree in the field of a piece, and one counter, give it one text. -/
theorem Piece.spelled_congr {p : Piece} {padding counter : Int} {d d' : Date}
    (h : ∀ f, p.field? = some f → f.value d = f.value d') :
    p.spelled padding d counter = p.spelled padding d' counter := by
  cases p with
  | char c => rfl
  | token t =>
    unfold Piece.spelled
    dsimp only
    cases hfield : t.field? with
    | none => rfl
    | some f =>
      show (natText f.width (f.value d)).toList = (natText f.width (f.value d')).toList
      rw [h f hfield]

/-- A piece that is no counter has one length on all dates, and shows its field. -/
theorem Piece.spelled_field {p : Piece} (hp : p.isDated = true) (hcounter : p.isCounter = false)
    (padding counter counter' : Int) {d d' : Date} (hd : d.Fits) (hd' : d'.Fits) :
    (p.spelled padding d counter).length = (p.spelled padding d' counter').length ∧
      (p.spelled padding d counter = p.spelled padding d' counter' →
        ∀ f, p.field? = some f → f.value d = f.value d') := by
  cases p with
  | char c => exact ⟨rfl, fun _ _ hf => nomatch hf⟩
  | token t =>
    unfold Piece.spelled
    dsimp only
    cases hfield : t.field? with
    | none =>
      have hkind : (t.isCounter || t.field?.isSome) = true := hp
      rw [hfield, show t.isCounter = false from hcounter] at hkind
      cases hkind
    | some f =>
      have hlength {e : Date} (he : e.Fits) : (f.text e).length = f.width :=
        length_natText f.width_pos (he f)
      refine ⟨(hlength hd).trans (hlength hd').symm, ?_⟩
      intro heq f' hf'
      have hsame : f = f' := Option.some.inj (hfield.symm.trans hf')
      subst hsame
      exact zeroFill_inj heq

/-- The same of pieces among which there is no counter. -/
theorem spelled_fields (ps : List Piece) (hdated : ∀ p ∈ ps, p.isDated = true)
    (hcounter : ∀ p ∈ ps, p.isCounter = false) (padding counter counter' : Int) {d d' : Date}
    (hd : d.Fits) (hd' : d'.Fits) :
    (ps.flatMap (Piece.spelled padding d counter)).length =
        (ps.flatMap (Piece.spelled padding d' counter')).length ∧
      (ps.flatMap (Piece.spelled padding d counter) =
          ps.flatMap (Piece.spelled padding d' counter') →
        ∀ f ∈ ps.filterMap Piece.field?, f.value d = f.value d') := by
  induction ps with
  | nil =>
    rw [List.flatMap_nil, List.flatMap_nil]
    exact ⟨rfl, fun _ f hf => absurd hf List.not_mem_nil⟩
  | cons p rest ih =>
    obtain ⟨hlength, hfield⟩ := p.spelled_field (hdated p List.mem_cons_self)
      (hcounter p List.mem_cons_self) padding counter counter' hd hd'
    obtain ⟨hlengths, hfields⟩ := ih (fun q hq => hdated q (List.mem_cons_of_mem p hq))
      fun q hq => hcounter q (List.mem_cons_of_mem p hq)
    rw [List.flatMap_cons, List.flatMap_cons]
    refine ⟨?_, ?_⟩
    · rw [List.length_append, List.length_append, hlength, hlengths]
    · intro heq f hf
      obtain ⟨hfirst, hrest⟩ := List.append_inj heq hlength
      obtain ⟨q, hq, hqf⟩ := List.mem_filterMap.mp hf
      rcases List.mem_cons.mp hq with rfl | hq
      · exact hfield hfirst f hqf
      · exact hfields hrest f (List.mem_filterMap.mpr ⟨q, hq, hqf⟩)

/-- The counter of a dated pattern, with what stands before and after it. -/
theorem IsDated.split {pattern : String} (h : IsDated pattern) :
    ∃ (before after : List Piece) (t : Token), pieces pattern.toList = before ++ .token t :: after ∧
      t.isCounter = true ∧ ∀ p ∈ before ++ after, p.isCounter = false := by
  have hone := h.once
  rw [List.countP_eq_length_filter, List.length_eq_one_iff] at hone
  obtain ⟨p, hp⟩ := hone
  obtain ⟨before, after, hpieces, hbefore, hcounter, hafter⟩ := List.filter_eq_cons_iff.mp hp
  have hnone : ∀ q ∈ before ++ after, q.isCounter = false := by
    intro q hq
    rcases List.mem_append.mp hq with hq | hq
    · exact Bool.eq_false_iff.mpr (hbefore q hq)
    · exact Bool.eq_false_iff.mpr (List.filter_eq_nil_iff.mp hafter q hq)
  cases p with
  | char c => cases hcounter
  | token t => exact ⟨before, after, t, hpieces, hcounter, hnone⟩

/-- A counter shows no field of a date. -/
theorem Token.field?_of_isCounter {t : Token} (h : t.isCounter = true) : t.field? = none := by
  cases hfield : t.field? with
  | none => rfl
  | some f =>
    rw [Token.field?_eq_some hfield] at h
    cases f <;> cases h

theorem shown_eq_iff {pattern : String} {d d' : Date} :
    shown pattern d = shown pattern d' ↔ ∀ f ∈ fields pattern, f.value d = f.value d' :=
  List.map_inj_left

/-- Two numbers of a dated pattern are the same when they show the same date and the same
    counter value, and only then. -/
theorem spelling_eq_iff {pattern : String} (h : IsDated pattern) {padding : Int} {n n' : Nat}
    {d d' : Date} (hd : d.Fits) (hd' : d'.Fits) :
    spelling pattern padding d n = spelling pattern padding d' n' ↔
      shown pattern d = shown pattern d' ∧ n = n' := by
  rw [shown_eq_iff]
  constructor
  · intro heq
    obtain ⟨before, after, t, hpieces, hcounter, hnone⟩ := h.split
    have hdated := h.dated
    unfold spelling at heq
    unfold fields
    rw [hpieces] at heq hdated ⊢
    rw [List.flatMap_append, List.flatMap_append, List.flatMap_cons, List.flatMap_cons] at heq
    obtain ⟨hbeforeLength, hbefore⟩ := spelled_fields before
      (fun p hp => hdated p (List.mem_append_left _ hp))
      (fun p hp => hnone p (List.mem_append_left _ hp)) padding n n' hd hd'
    obtain ⟨hafterLength, hafter⟩ := spelled_fields after
      (fun p hp => hdated p (List.mem_append_right _ (List.mem_cons_of_mem _ hp)))
      (fun p hp => hnone p (List.mem_append_right _ hp)) padding n n' hd hd'
    -- What stands before the counter and behind it has one length on all dates.
    obtain ⟨hfirst, hrest⟩ := List.append_inj heq hbeforeLength
    obtain ⟨hmiddle, hlast⟩ := List.append_inj' hrest hafterLength
    refine ⟨?_, ?_⟩
    · intro f hf
      have hfield : (Piece.token t).field? = none := Token.field?_of_isCounter hcounter
      rw [List.filterMap_append, List.filterMap_cons_none hfield] at hf
      rcases List.mem_append.mp hf with hf | hf
      · exact hbefore hfirst f hf
      · exact hafter hlast f hf
    · unfold Piece.spelled at hmiddle
      dsimp only at hmiddle
      rw [Token.field?_of_isCounter hcounter] at hmiddle
      exact zeroFill_inj hmiddle
  · rintro ⟨hfields, rfl⟩
    unfold spelling
    rw [List.flatMap_def, List.flatMap_def]
    refine congrArg List.flatten (List.map_congr_left ?_)
    intro p hp
    apply Piece.spelled_congr
    intro f hf
    exact hfields f (List.mem_filterMap.mpr ⟨p, hp, hf⟩)

end Pattern

/-- A number of a dated pattern is spelled from the date and the counter value alone. -/
theorem Issuer.render_eq_ok {i : Issuer} {pattern : String} {t : Template} {row : Sequence}
    {counter : Int} {c : Context} {now : Moment} {number : String}
    (hdated : IsDated pattern) (hparse : Template.parse pattern = .ok t)
    (h : i.render t row counter c now = .ok number) :
    (now.dateIn i.zone).Fits ∧
      number.toList = spelling pattern row.padding (now.dateIn i.zone) counter := by
  obtain ⟨here, scope, hhere, hscope, htext, -⟩ := Issuer.evaluate_of_render h
  -- The date is that of the clock of the zone, within the calendar.
  have hdate : now.dateIn i.zone = here.date := Moment.dateIn_of_inZone hhere
  have hfits : here.date.Fits :=
    (Moment.valid_date here).fits (Moment.year_le (Moment.inZone_eq_ok hhere).2)
  obtain ⟨o, hoccasion, rfl⟩ := Scope.forMoment_eq_ok.mp hscope
  obtain ⟨-, hmoment, hcounter, hpadding⟩ := Occasion.at_eq_ok.mp hoccasion
  -- No conditional opens, so the pieces are those of the pattern.
  unfold Template.evaluate at htext
  rw [Template.expand_plain hparse hdated.plain, Except.ok_bind] at htext
  obtain ⟨out, hout, hmade⟩ := Except.bind_eq_ok.mp htext
  have htext : String.ofList out = number := Except.ok.inj hmade
  rw [hdate]
  refine ⟨hfits, ?_⟩
  rw [← htext, String.toList_ofList]
  have hchar (ch : Char) : Piece.spelled row.padding here.date counter (.char ch) = [ch] := rfl
  refine substitute_eq_ok hchar ?_ hout
  intro token cs hmem hresolve
  obtain ⟨found, hfound, hcs⟩ := Except.bind_eq_ok.mp hresolve
  have hcs : found.toList = cs := Except.ok.inj hcs
  rw [← hcs]
  rw [resolve_eq_ok (hdated.dated _ hmem) hfound, hmoment, hcounter, hpadding]

end SerialNumbers
