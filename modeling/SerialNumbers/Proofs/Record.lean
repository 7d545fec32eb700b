/-
  SerialNumbers.Proofs.Record

  What is in a record that was read from fields.  A record is read field by
  field and there is a record only when every field could be read, so each of
  its fields is what the rule of the field makes of the value under its name.
  Main statements: an entry holds what it was told (`LogEntry.about_eq_ok`), a
  change of configuration leaves the counter and the identity of a sequence
  (`Sequence.changed_eq_ok`), and a new sequence has counted nothing
  (`Issuer.Draft.sequence_eq_ok`).
-/
import SerialNumbers.Issuer
import SerialNumbers.Proofs.Store.Action
import SerialNumbers.Proofs.Table

namespace SerialNumbers

open Time

/-! ## Chains of fields -/

namespace Checked

variable {α β : Type}

/-- A chain was read when what comes before the last field was, and the last field. -/
theorem and_eq_ok {f : Checked (α → β)} {x : Checked α} {b : β} :
    f.and x = .ok b ↔ ∃ g a, f = .ok g ∧ x = .ok a ∧ g a = b := by
  cases f with
  | error ps => exact ⟨nofun, fun ⟨_, _, h, _⟩ => nomatch h⟩
  | ok g =>
    cases x with
    | error ps => exact ⟨nofun, fun ⟨_, _, _, h, _⟩ => nomatch h⟩
    | ok a =>
      constructor
      · intro h
        exact ⟨g, a, rfl, rfl, Except.ok.inj h⟩
      · rintro ⟨_, _, hg, ha, h⟩
        cases hg
        cases ha
        exact congrArg Except.ok h

theorem value_eq_ok {x : Checked α} {a : α} : x.value = .ok a ↔ x = .ok a := by
  cases x with
  | error ps => exact ⟨nofun, nofun⟩
  | ok b => exact ⟨fun h => congrArg Except.ok (Except.ok.inj h), fun h =>
      congrArg Except.ok (Except.ok.inj h)⟩

end Checked

theorem Except.mapError_ok {ε ε' α : Type} (f : ε → ε') (a : α) :
    (Except.ok a).mapError f = .ok a := rfl

theorem Except.mapError_eq_ok {ε ε' α : Type} {f : ε → ε'} {x : Except ε α} {a : α} :
    x.mapError f = .ok a ↔ x = .ok a := by
  cases x with
  | error e => exact ⟨nofun, nofun⟩
  | ok b =>
    show Except.ok b = Except.ok a ↔ Except.ok b = Except.ok a
    rw [Except.ok.injEq, Except.ok.injEq]

namespace Fields

variable {α : Type} {f : Fields} {name : String} {rule : Rule α}

/-- A field that must be there was read when its value follows the rule. -/
theorem require_eq_ok {a : α} :
    f.require name rule = .ok a ↔ ∃ v, f.get? name = some v ∧ rule v = .ok a := by
  unfold require
  cases f.get? name with
  | none => exact ⟨nofun, fun ⟨_, h, _⟩ => nomatch h⟩
  | some v => simp only [Option.some.injEq, exists_eq_left', Except.mapError_eq_ok]

/-- A field that may be left out was read when it is not there or its value follows the
    rule. -/
theorem get_eq_ok {default a : α} : f.get name rule default = .ok a ↔
    f.get? name = none ∧ default = a ∨ ∃ v, f.get? name = some v ∧ rule v = .ok a := by
  unfold get
  cases f.get? name with
  | none =>
    simp only [Except.ok.injEq, true_and, reduceCtorEq, false_and, exists_false, or_false]
  | some v =>
    simp only [reduceCtorEq, false_and, false_or, Option.some.injEq, exists_eq_left',
      Except.mapError_eq_ok]

end Fields

/-! ## Values that follow a rule -/

namespace Rule

theorem textOf_eq_ok {least : Nat} {most : Option Nat} {s t : String}
    (h : textOf least most (.text s) = .ok t) : t = s := by
  unfold textOf at h
  simp only [text, bind, Except.bind] at h
  split at h
  · cases h
  · split at h
    · cases h
    · exact (Except.ok.inj h).symm

theorem atLeast_eq_ok {least n m : Int} (h : atLeast least (.whole n) = .ok m) :
    least ≤ n ∧ m = n := by
  unfold atLeast at h
  simp only [whole, bind, Except.bind] at h
  split at h
  · cases h
  · exact ⟨by omega, (Except.ok.inj h).symm⟩

theorem least_le_of_atLeast {least n : Int} {v : Value} (h : atLeast least v = .ok n) :
    least ≤ n := by
  unfold atLeast at h
  obtain ⟨m, -, h⟩ := Except.bind_eq_ok.mp h
  split at h
  · cases h
  · cases h
    omega

theorem lt_of_above {bound n : Int} {v : Value} (h : above bound v = .ok n) : bound < n := by
  unfold above at h
  obtain ⟨m, -, h⟩ := Except.bind_eq_ok.mp h
  split at h
  · cases h
    assumption
  · cases h

theorem bounds_of_within {least most n : Int} {v : Value} (h : within least most v = .ok n) :
    least ≤ n ∧ n ≤ most := by
  unfold within at h
  obtain ⟨m, -, h⟩ := Except.bind_eq_ok.mp h
  by_cases hmost : most < m
  · simp only [hmost, if_true] at h
    cases h
  · by_cases hleast : m < least
    · simp only [hmost, hleast, if_true, if_false] at h
      cases h
    · simp only [hmost, hleast, if_false] at h
      cases h
      exact ⟨by omega, by omega⟩

theorem length_of_textOf {least : Nat} {most : Option Nat} {v : Value} {s : String}
    (h : textOf least most v = .ok s) : least ≤ s.length ∧ ∀ m ∈ most, s.length ≤ m := by
  unfold textOf at h
  obtain ⟨t, -, h⟩ := Except.bind_eq_ok.mp h
  by_cases hleast : t.length < least
  · simp only [hleast, if_true] at h
    cases h
  · by_cases hmost : (most.map fun most => decide (most < t.length)).getD false
    · simp only [hleast, hmost, if_true, if_false] at h
      cases h
    · simp only [hleast, hmost, Bool.false_eq_true, if_false] at h
      cases h
      refine ⟨by omega, ?_⟩
      rintro m ⟨⟩
      simpa using hmost

/-- A text of a number is read by the rule for texts. -/
theorem rule_of_asText {rule : Rule String} {v : Value} {s : String} (h : asText rule v = .ok s) :
    ∃ v', rule v' = .ok s := by
  cases v with
  | whole n =>
    dsimp only [asText] at h
    split at h
    · exact ⟨_, h⟩
    · cases h
  | _ => exact ⟨_, h⟩

theorem rule_of_optional {α : Type} {rule : Rule α} {v : Value} {a : α}
    (h : optional rule v = .ok (some a)) : ∃ v', rule v' = .ok a := by
  unfold optional at h
  split at h
  · cases h
  · cases hrule : rule v with
    | error e =>
      rw [hrule] at h
      cases h
    | ok b =>
      rw [hrule] at h
      cases h
      exact ⟨v, hrule⟩

/-- What may be given to name who asked for something: a text, a number, or no value at all. -/
def namesCauser : Value → Bool
  | .text _ | .truth _ | .whole _ | .none => true
  | _ => false

/-- What can be taken into the log for it: the same, but for numbers that are not written. -/
def isCauser : Value → Bool
  | .whole n => decide (Number.Writable n)
  | v => namesCauser v

theorem optional_asText_of_isCauser {v : Value} (h : isCauser v = true) :
    ∃ causer, optional (asText text) v = .ok causer := by
  cases v with
  | text s => exact ⟨some s, rfl⟩
  | truth b => exact ⟨some (if b then "True" else "False"), rfl⟩
  | whole n =>
    have hn : Number.numeral n = .ok (toString n) :=
      Number.numeral_of_writable (of_decide_eq_true h)
    exact ⟨some (toString n), by simp [optional, asText, hn, text]⟩
  | none => exact ⟨none, rfl⟩
  | _ => cases h

theorem optional_asText_of_not_isCauser {v : Value} (hnames : namesCauser v = true)
    (h : isCauser v = false) : optional (asText text) v = .error .rejected := by
  cases v with
  | whole n =>
    have hn := Number.numeral_of_not_writable (of_decide_eq_false h)
    simp [optional, asText, hn]
  | _ => simp_all [isCauser, namesCauser]

theorem textOf_of_length {most : Nat} {s : String} (h : s.length ≤ most) :
    textOf 0 (some most) (.text s) = .ok s := by
  have hnot : ¬ most < s.length := by omega
  simp [textOf, text, hnot, bind, Except.bind, pure, Except.pure]

theorem atLeast_of_le {least n : Int} (h : least ≤ n) : atLeast least (.whole n) = .ok n := by
  have hnot : ¬ n < least := by omega
  simp [atLeast, whole, hnot, bind, Except.bind, pure, Except.pure]

theorem listed_action (a : Action) : listed Action.named? (.text a.name) = .ok a := by
  cases a <;> rfl

/-- A name that is listed is read as what it names. -/
theorem listed_action_eq_ok {a b : Action} (h : listed Action.named? (.text a.name) = .ok b) :
    b = a := by
  cases a <;> exact (Except.ok.inj h).symm

theorem whole_eq_ok {n m : Int} (h : whole (.whole n) = .ok m) : m = n :=
  (Except.ok.inj h).symm

theorem moment_eq_ok {m m' : Moment} (h : moment (.moment m) = .ok m') : m' = m :=
  (Except.ok.inj h).symm

theorem optional_whole_eq_ok {n m : Option Int}
    (h : optional whole (Sequence.wholeOrNone n) = .ok m) : m = n := by
  cases n <;> exact (Except.ok.inj h).symm

theorem optional_moment_eq_ok {n m : Option Moment}
    (h : optional moment (Sequence.momentOrNone n) = .ok m) : m = n := by
  cases n <;> exact (Except.ok.inj h).symm

end Rule

/-! ## Entries -/

/-- What an entry holds of an action on a sequence. -/
structure LogEntry.About (e : LogEntry) (s : Sequence) (action : Action) (number : String)
    (counter : Int) (now : Moment) : Prop where
  id : e.id = none
  sequenceId : e.sequenceId = s.id.getD 0
  number : e.number = number
  counter : e.counter = counter
  action : e.action = action
  createdAt : e.createdAt = now

theorem LogEntry.about_eq_ok {s : Sequence} {action : Action} {number : String} {counter : Int}
    {context : List (String × Value)} {reason causer : Value} {now : Moment} {e : LogEntry}
    (h : LogEntry.about s action number counter context reason causer now = .ok e) :
    e.About s action number counter now := by
  -- The chain is taken apart from its last field to its first.
  obtain ⟨_, _, h₁, hstamp, rfl⟩ := Checked.and_eq_ok.mp (Checked.value_eq_ok.mp h)
  obtain ⟨_, _, h₂, -, rfl⟩ := Checked.and_eq_ok.mp h₁
  obtain ⟨_, _, h₃, -, rfl⟩ := Checked.and_eq_ok.mp h₂
  obtain ⟨_, _, h₄, hact, rfl⟩ := Checked.and_eq_ok.mp h₃
  obtain ⟨_, _, h₅, -, rfl⟩ := Checked.and_eq_ok.mp h₄
  obtain ⟨_, _, h₆, hvalue, rfl⟩ := Checked.and_eq_ok.mp h₅
  obtain ⟨_, _, h₇, htext, rfl⟩ := Checked.and_eq_ok.mp h₆
  obtain ⟨_, _, h₈, hplace, rfl⟩ := Checked.and_eq_ok.mp h₇
  obtain ⟨_, _, hof, hid, rfl⟩ := Checked.and_eq_ok.mp h₈
  cases hof
  -- Each field is under its own name in the pairs that the entry was made of.
  simp [Fields.require_eq_ok, Fields.get_eq_ok, Table.get?_ofList, List.lookup_cons, List.lookup_nil]
    at hid hplace htext hvalue hact hstamp
  exact ⟨hid.symm, Rule.whole_eq_ok hplace, Rule.textOf_eq_ok htext,
    (Rule.atLeast_eq_ok hvalue).2, Rule.listed_action_eq_ok hact, Rule.moment_eq_ok hstamp⟩

namespace LogEntry

/-- The failure of an entry that does not take the name of who asked for the action. -/
def unnamed : Failure := .fields [⟨["causer_id"], .rejected⟩]

/-- Whether the log takes the name of who asked. -/
def named (causer : Value) : Except Failure Unit :=
  if Rule.isCauser causer then .ok () else .error unnamed

/-- There is an entry of every action with a number that is not too long and a counter that is
    not negative, if the log takes the name of who asked. -/
theorem about_map (s : Sequence) (action : Action) (context : List (String × Value))
    (reason : Option String) (now : Moment) {number : String} {counter : Int} {causer : Value}
    (hnumber : number.length ≤ Pattern.maxLength) (hcounter : 0 ≤ counter)
    (hcauser : Rule.namesCauser causer = true) :
    (about s action number counter context (textOrNone reason) causer now).map (fun _ => ()) =
      named causer := by
  have hreason : Rule.optional Rule.text (textOrNone reason) = .ok reason := by
    cases reason <;> rfl
  -- Each other field follows its rule, so the chain is read from its first field to its last.
  unfold about ofFields named
  simp only [Fields.get, Fields.require, Table.get?_ofList, List.reverse_cons, List.reverse_nil,
    List.nil_append, List.cons_append, List.lookup_cons, List.lookup_nil]
  cases hname : Rule.isCauser causer with
  | true =>
    obtain ⟨name, hname⟩ := Rule.optional_asText_of_isCauser hname
    simp [Checked.value, Checked.of, Checked.and, Rule.textOf_of_length hnumber,
      Rule.atLeast_of_le hcounter, Rule.listed_action, hreason, hname, Rule.whole, Rule.record,
      Rule.moment, Except.mapError_ok]
    rfl
  | false =>
    have hname := Rule.optional_asText_of_not_isCauser hcauser hname
    simp [Checked.value, Checked.of, Checked.and, Rule.textOf_of_length hnumber,
      Rule.atLeast_of_le hcounter, Rule.listed_action, hreason, hname, Rule.whole, Rule.record,
      Rule.moment, Except.mapError_ok]
    rfl

end LogEntry

/-! ## Sequences -/

namespace Sequence

/-- Each field of the sequence is what was read under its name. -/
structure ReadFrom (f : Fields) (now : Moment) (s : Sequence) : Prop where
  id : f.get "id" (.optional .whole) none = .ok s.id
  tenant : f.require "tenant_id" (.asText (.textOf 1 none)) = .ok s.tenant
  name : f.require "sequence_name" (.textOf 1 (some maxName)) = .ok s.name
  pattern : f.require "pattern" (.textOf 1 (some Pattern.maxLength)) = .ok s.pattern
  period : f.get "reset_period" (.listed Period.named?) .never = .ok s.period
  limit : f.get "reset_limit" (.optional (.above 0)) none = .ok s.limit
  padding : f.get "padding" (.within 0 maxPadding) 5 = .ok s.padding
  step : f.get "step_size" (.atLeast 1) 1 = .ok s.step
  current : f.get "current_value" (.atLeast 0) 0 = .ok s.current
  lastResetAt : f.get "last_reset_at" (.optional .moment) none = .ok s.lastResetAt
  version : f.get "version" (.atLeast 0) 0 = .ok s.version
  metadata : f.get "metadata" .record [] = .ok s.metadata
  createdAt : f.get "created_at" .moment now = .ok s.createdAt
  updatedAt : f.get "updated_at" .moment now = .ok s.updatedAt

theorem ofFields_eq_ok {f : Fields} {now : Moment} {s : Sequence} (h : ofFields now f = .ok s) :
    s.ReadFrom f now := by
  -- From the last field to the first, as for entries.
  obtain ⟨_, _, h₁, hupdated, rfl⟩ := Checked.and_eq_ok.mp (Checked.value_eq_ok.mp h)
  obtain ⟨_, _, h₂, hcreated, rfl⟩ := Checked.and_eq_ok.mp h₁
  obtain ⟨_, _, h₃, hmetadata, rfl⟩ := Checked.and_eq_ok.mp h₂
  obtain ⟨_, _, h₄, hversion, rfl⟩ := Checked.and_eq_ok.mp h₃
  obtain ⟨_, _, h₅, hlast, rfl⟩ := Checked.and_eq_ok.mp h₄
  obtain ⟨_, _, h₆, hcurrent, rfl⟩ := Checked.and_eq_ok.mp h₅
  obtain ⟨_, _, h₇, hstep, rfl⟩ := Checked.and_eq_ok.mp h₆
  obtain ⟨_, _, h₈, hpadding, rfl⟩ := Checked.and_eq_ok.mp h₇
  obtain ⟨_, _, h₉, hlimit, rfl⟩ := Checked.and_eq_ok.mp h₈
  obtain ⟨_, _, h₁₀, hperiod, rfl⟩ := Checked.and_eq_ok.mp h₉
  obtain ⟨_, _, h₁₁, hpattern, rfl⟩ := Checked.and_eq_ok.mp h₁₀
  obtain ⟨_, _, h₁₂, hname, rfl⟩ := Checked.and_eq_ok.mp h₁₁
  obtain ⟨_, _, h₁₃, htenant, rfl⟩ := Checked.and_eq_ok.mp h₁₂
  obtain ⟨_, _, hof, hid, rfl⟩ := Checked.and_eq_ok.mp h₁₃
  cases hof
  exact ⟨hid, htenant, hname, hpattern, hperiod, hlimit, hpadding, hstep, hcurrent, hlast, hversion,
    hmetadata, hcreated, hupdated⟩

/-- A sequence that has counted nothing yet. -/
structure Fresh (s : Sequence) : Prop where
  current : s.current = 0
  version : s.version = 0
  lastResetAt : s.lastResetAt = none
  step : 1 ≤ s.step

end Sequence

/-- A new sequence has counted nothing, whatever else its draft says. -/
theorem Issuer.Draft.sequence_eq_ok {d : Issuer.Draft} {stamp : Moment} {s : Sequence}
    (h : d.sequence stamp = .ok s) : s.Fresh := by
  obtain ⟨period, -, hs⟩ := Except.bind_eq_ok.mp h
  -- A draft says nothing of counter, version and last reset, so they have their defaults.
  have hread := Sequence.ofFields_eq_ok hs
  have hcurrent := hread.current
  have hversion := hread.version
  have hlast := hread.lastResetAt
  have hstep := hread.step
  simp [Fields.get_eq_ok, Table.get?_ofList, List.lookup_cons, List.lookup_nil]
    at hcurrent hversion hlast hstep
  exact ⟨hcurrent.symm, hversion.symm, hlast.symm, Rule.least_le_of_atLeast hstep⟩

/-- What a change of configuration leaves as it is, and that it is one change. -/
structure Sequence.Reconfigured (s s' : Sequence) : Prop where
  id : s'.id = s.id
  tenant : s'.tenant = s.tenant
  name : s'.name = s.name
  current : s'.current = s.current
  lastResetAt : s'.lastResetAt = s.lastResetAt
  createdAt : s'.createdAt = s.createdAt
  version : s'.version = s.version + 1

open Sequence in
/-- A name that may not be changed keeps its value, but for the two that are always changed. -/
theorem Sequence.get?_changed (s : Sequence) {changes : List (String × Value)} (now : Moment)
    (hfixed : ∀ e ∈ changes, e.1 ∈ configurationFields) {name : String}
    (hname : name ∉ configurationFields) :
    (Table.ofList (s.toFields ++ changes ++ [("version", .whole (s.version + 1)),
      ("updated_at", .moment now)])).get? name =
    ([("updated_at", Value.moment now), ("version", .whole (s.version + 1))].lookup name).or
      (s.toFields.reverse.lookup name) := by
  have hnone : changes.reverse.lookup name = none := by
    rw [List.lookup_eq_none_iff]
    intro e he
    have hconf := hfixed e (List.mem_reverse.mp he)
    have hne : name ≠ e.1 := fun heq => hname (heq ▸ hconf)
    simpa using hne
  -- The last pairs come first, then the changes, which have no such name, then the old fields.
  rw [Table.get?_ofList, List.reverse_append, List.reverse_append, List.lookup_append,
    List.lookup_append, hnone, Option.none_or]
  rfl

open Sequence in
/-- A changed row is read from fields that are the old ones under the names that may not be changed,
    but for the two that are always changed. -/
theorem Sequence.changed_read {s s' : Sequence} {changes : List (String × Value)} {now : Moment}
    (h : s.changed changes now = .ok s') :
    ∃ f, s'.ReadFrom f now ∧ ∀ {name : String}, name ∉ configurationFields → f.get? name =
      ([("updated_at", Value.moment now), ("version", .whole (s.version + 1))].lookup name).or
        (s.toFields.reverse.lookup name) := by
  unfold Sequence.changed at h
  dsimp only at h
  split at h
  · cases h
  · rename_i hnone
    have hfixed : ∀ e ∈ changes, e.1 ∈ configurationFields := by
      intro e he
      have hempty : (changes.map (·.1)).filter (fun name => !configurationFields.contains name) =
          [] := by simpa using hnone
      have hnot := List.filter_eq_nil_iff.mp hempty e.1 (List.mem_map_of_mem he)
      simpa using hnot
    exact ⟨_, Sequence.ofFields_eq_ok h, fun hname => s.get?_changed now hfixed hname⟩

open Sequence in
theorem Sequence.changed_eq_ok {s s' : Sequence} {changes : List (String × Value)} {now : Moment}
    (h : s.changed changes now = .ok s') : s.Reconfigured s' := by
  -- How the fields were put together is of no matter, only what is under each name.
  obtain ⟨f, hread, hkept⟩ := changed_read h
  have hid := hread.id
  have htenant := hread.tenant
  have hname := hread.name
  have hcurrent := hread.current
  have hlast := hread.lastResetAt
  have hcreated := hread.createdAt
  have hversion := hread.version
  simp [Fields.require_eq_ok, Fields.get_eq_ok, hkept, configurationFields, List.lookup_cons,
    List.lookup_nil, toFields]
    at hid htenant hname hcurrent hlast hcreated hversion
  exact ⟨Rule.optional_whole_eq_ok hid, Rule.textOf_eq_ok htenant, Rule.textOf_eq_ok hname,
    (Rule.atLeast_eq_ok hcurrent).2, Rule.optional_moment_eq_ok hlast, Rule.moment_eq_ok hcreated,
    (Rule.atLeast_eq_ok hversion).2⟩

open Sequence in
/-- A change of configuration counts as a change of the row. -/
theorem Sequence.updatedAt_of_changed {s s' : Sequence} {changes : List (String × Value)}
    {now : Moment} (h : s.changed changes now = .ok s') : s'.updatedAt = now := by
  obtain ⟨f, hread, hkept⟩ := changed_read h
  have hupdated := hread.updatedAt
  simp [Fields.get_eq_ok, hkept, configurationFields] at hupdated
  exact Rule.moment_eq_ok hupdated

end SerialNumbers
