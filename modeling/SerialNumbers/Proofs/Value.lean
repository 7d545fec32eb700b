/-
  SerialNumbers.Proofs.Value

  Values as texts.  The only numbers that are not shown are those of too many
  digits, wherever in a value they stand, and all that goes wrong with a text is
  that it would be too long.
-/
import SerialNumbers.Context
import SerialNumbers.Proofs.Store.Action

namespace SerialNumbers

open Number

/-- There would be too much to write, or no room for it. -/
def Failure.isTooLong : Failure → Bool
  | .value (.longWhole _) | .widthOverflow | .outOfMemory => true
  | _ => false

/-- The failure of a number of too many digits. -/
def Failure.longWhole : Failure := .value (.longWhole maxDigits)

theorem Failure.isTooLong_longWhole : longWhole.isTooLong = true := rfl

variable {e : Failure} {s : String}

theorem Number.numeral_eq_error {n : Int} :
    numeral n = .error e ↔ ¬Writable n ∧ e = .longWhole := by
  by_cases h : Writable n
  · simp [numeral_of_writable h, h]
  · simp [numeral_of_not_writable h, h, Failure.longWhole, eq_comm]

theorem Number.written_eq_error {n : Int} (h : written n = .error e) :
    ¬Writable n ∧ e = .longWhole := by
  by_cases hn : Writable n
  · rw [written_of_writable hn] at h
    cases h
  · rw [written_of_not_writable hn] at h
    exact ⟨hn, (Except.error.inj h).symm⟩

theorem zeroPadded_eq_error {width : Int} (h : zeroPadded width s = .error e) :
    ¬Roomy width ∧ e.isTooLong = true := by
  refine ⟨fun hroomy => ?_, ?_⟩
  · rw [zeroPadded_of_roomy hroomy] at h
    cases h
  · unfold zeroPadded at h
    split at h
    · cases h
      rfl
    · split at h <;> cases h
      rfl

/-! ## Results that may be too long -/

/-- There is a result, or something is too long for it; the latter only where not all fits. -/
inductive Yields (fits : Prop) {α : Type} : Except Failure α → Prop where
  | result (a : α) : Yields fits (.ok a)
  | tooLong {e : Failure} (hlong : e.isTooLong = true) (hfits : ¬fits) : Yields fits (.error e)

namespace Yields

variable {α β : Type} {fits wider : Prop} {x : Except Failure α} {f : α → Except Failure β}

theorem of_total (hlong : ∀ e, x = .error e → e.isTooLong = true)
    (htotal : fits → ∃ a, x = .ok a) : Yields fits x := by
  cases hx : x with
  | ok a => exact .result a
  | error e =>
    refine .tooLong (hlong e hx) fun hfits => ?_
    obtain ⟨a, ha⟩ := htotal hfits
    cases ha.symm.trans hx

theorem of_exists (h : ∃ a, x = .ok a) : Yields fits x := by
  obtain ⟨a, rfl⟩ := h
  exact .result a

theorem exists_ok (h : Yields fits x) (hfits : fits) : ∃ a, x = .ok a := by
  cases h with
  | result a => exact ⟨a, rfl⟩
  | tooLong hlong hnot => exact absurd hfits hnot

theorem of_error (h : Yields fits x) (he : x = .error e) : e.isTooLong = true ∧ ¬fits := by
  cases h with
  | result a => cases he
  | tooLong hlong hnot =>
    cases he
    exact ⟨hlong, hnot⟩

theorem imp (h : Yields fits x) (hwider : wider → fits) : Yields wider x := by
  cases h with
  | result a => exact .result a
  | tooLong hlong hnot => exact .tooLong hlong (mt hwider hnot)

theorem bind (h : Yields fits x) (hf : ∀ a, x = .ok a → Yields fits (f a)) :
    Yields fits (x >>= f) := by
  cases h with
  | result a => exact hf a rfl
  | tooLong hlong hnot => exact .tooLong hlong hnot

theorem map (h : Yields fits x) (g : α → β) : Yields fits (g <$> x) := by
  cases h with
  | result a => exact .result (g a)
  | tooLong hlong hnot => exact .tooLong hlong hnot

end Yields

theorem Number.yields_written (n : Int) : Yields (Writable n) (written n) := by
  by_cases h : Writable n
  · rw [written_of_writable h]
    exact .result _
  · rw [written_of_not_writable h]
    exact .tooLong rfl h

theorem yields_zeroPadded (width : Int) (s : String) : Yields (Roomy width) (zeroPadded width s) :=
  .of_total (fun _ h => (zeroPadded_eq_error h).2) fun hroomy => ⟨_, zeroPadded_of_roomy hroomy s⟩

/-! ## Literal and shown forms -/

namespace Value

-- The forms of values and of their parts are found together, so what fails in them is too.
mutual

theorem literal_eq_error : ∀ {v : Value} {e : Failure}, v.literal = .error e → e = .longWhole
  | whole n, _, h => (numeral_eq_error (n := n).mp (by rwa [literal] at h)).2
  | list _, _, h => by
    rw [literal] at h
    rcases Except.bind_eq_error.mp h with h | ⟨_, -, h⟩
    · exact literals_eq_error h
    · cases h
  | record _, _, h => by
    rw [literal] at h
    rcases Except.bind_eq_error.mp h with h | ⟨_, -, h⟩
    · exact entryLiterals_eq_error h
    · cases h

theorem literals_eq_error : ∀ {items : List Value} {e : Failure},
    literals items = .error e → e = .longWhole
  | _ :: _, _, h => by
    rw [literals] at h
    rcases Except.bind_eq_error.mp h with h | ⟨_, -, h⟩
    · exact literal_eq_error h
    · rcases Except.bind_eq_error.mp h with h | ⟨_, -, h⟩
      · exact literals_eq_error h
      · cases h

theorem entryLiteral_eq_error : ∀ {entry : String × Value} {e : Failure},
    entryLiteral entry = .error e → e = .longWhole
  | (_, _), _, h => by
    rw [entryLiteral] at h
    rcases Except.bind_eq_error.mp h with h | ⟨_, -, h⟩
    · exact literal_eq_error h
    · cases h

theorem entryLiterals_eq_error : ∀ {entries : List (String × Value)} {e : Failure},
    entryLiterals entries = .error e → e = .longWhole
  | _ :: _, _, h => by
    rw [entryLiterals] at h
    rcases Except.bind_eq_error.mp h with h | ⟨_, -, h⟩
    · exact entryLiteral_eq_error h
    · rcases Except.bind_eq_error.mp h with h | ⟨_, -, h⟩
      · exact entryLiterals_eq_error h
      · cases h

end

theorem shown_eq_error {v : Value} (h : v.shown = .error e) : e = .longWhole := by
  cases v with
  | text | decimal | date | moment => exact nomatch h
  | _ => exact literal_eq_error h

/-- All that a value lacks to be put into a serial number is room for it. -/
theorem rendered_eq_error {v : Value} (h : v.rendered = .error e) : e.isTooLong = true := by
  unfold rendered at h
  split at h
  · cases h
  · cases h
  · cases h
  · unfold positional at h
    split at h <;> cases h
    rfl
  · rw [shown_eq_error h, Failure.isTooLong_longWhole]

/-- What can be put into a serial number can be shown. -/
theorem exists_shown {v : Value} (h : ∃ s, v.rendered = .ok s) : ∃ s, v.shown = .ok s := by
  obtain ⟨s, hs⟩ := h
  unfold rendered at hs
  split at hs
  · exact ⟨_, rfl⟩
  · exact ⟨_, rfl⟩
  · exact ⟨_, rfl⟩
  · exact ⟨_, rfl⟩
  · exact ⟨s, hs⟩

theorem yields_shown (v : Value) : Yields (∃ s, v.rendered = .ok s) v.shown :=
  .of_total (fun _ h => by rw [shown_eq_error h, Failure.isTooLong_longWhole]) exists_shown

/-- A value that counts as nothing can be shown. -/
theorem exists_shown_of_isEmptyLike {v : Value} (h : v.isEmptyLike = true) :
    ∃ s, v.shown = .ok s := by
  cases v with
  | whole n =>
    obtain rfl : n = 0 := beq_iff_eq.mp h
    exact ⟨toString (0 : Int), numeral_of_writable writable_zero⟩
  | list items =>
    obtain rfl := List.isEmpty_iff.mp h
    exact ⟨_, rfl⟩
  | record entries =>
    obtain rfl := List.isEmpty_iff.mp h
    exact ⟨_, rfl⟩
  | _ => exact ⟨_, rfl⟩

end Value

/-! ## Contexts -/

namespace Context

variable {c : Context}

theorem rendered_eq_error {key default : String} (h : c.rendered key default = .error e) :
    e.isTooLong = true := by
  unfold rendered at h
  split at h
  · cases h
  · cases h
  · exact Value.rendered_eq_error h

theorem kept_eq_error {v : Value} (h : kept v = .error e) : v.rendered = .error e := by
  unfold kept at h
  split at h
  · cases h
  · cases hv : v.rendered with
    | ok text =>
      rw [hv] at h
      cases h
    | error =>
      rw [hv] at h
      cases h
      rfl

theorem snapshot_eq_error (h : c.snapshot = .error e) : e.isTooLong = true := by
  unfold snapshot at h
  revert h
  induction c.toPairs with
  | nil => exact fun h => nomatch h
  | cons entry rest ih =>
    intro h
    rw [List.mapM_cons] at h
    rcases Except.bind_eq_error.mp h with h | ⟨_, -, h⟩
    · rcases Except.bind_eq_error.mp h with h | ⟨_, -, h⟩
      · exact Value.rendered_eq_error (kept_eq_error h)
      · cases h
    · rcases Except.bind_eq_error.mp h with h | ⟨_, -, h⟩
      · exact ih h
      · cases h

/-- Every value of the context can be put into a serial number. -/
def Renderable (c : Context) : Prop :=
  ∀ key value, c.get? key = some value → ∃ text, value.rendered = .ok text

theorem renderable_ofPairs {pairs : List (String × Value)}
    (h : ∀ e ∈ pairs, ∃ text, e.2.rendered = .ok text) : (ofPairs pairs).Renderable := by
  intro key value hvalue
  rw [get?_ofPairs] at hvalue
  obtain ⟨e, he, rfl⟩ := Option.map_eq_some_iff.mp hvalue
  exact h e (List.mem_reverse.mp (List.mem_of_find?_eq_some he))

theorem Renderable.rendered (h : c.Renderable) (key default : String) :
    ∃ text, c.rendered key default = .ok text := by
  unfold Context.rendered
  split
  · exact ⟨_, rfl⟩
  · exact ⟨_, rfl⟩
  · rename_i value _ hvalue
    exact h key value hvalue

theorem yields_rendered (c : Context) (key default : String) :
    Yields c.Renderable (c.rendered key default) :=
  .of_total (fun _ => rendered_eq_error) fun hrender => hrender.rendered key default

end Context

end SerialNumbers
