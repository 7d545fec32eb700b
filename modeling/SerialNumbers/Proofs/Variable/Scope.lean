/-
  SerialNumbers.Proofs.Variable.Scope

  What is left of a caller's context once the engine's values have been put into
  it.  Keys of the engine have the engine's values, all others keep theirs
  (`Scope.get?_of`), and no key gets lost (`Scope.has_of`).
-/
import SerialNumbers.Proofs.Context
import SerialNumbers.Proofs.Value
import SerialNumbers.Variable.Resolution

namespace SerialNumbers

open Text Time

/-! ## Names of the engine -/

namespace Builtin

theorem upper_name (b : Builtin) : upper b.name = b.name := by
  have hall : ∀ b ∈ all, upper b.name = b.name := by decide +kernel
  exact hall b (by cases b <;> decide)

theorem name_of_named? {name : String} {b : Builtin} (h : named? name = some b) : b.name = name :=
  beq_iff_eq.mp (List.find?_some (p := fun b : Builtin => b.name == name) h)

theorem isReserved_name (b : Builtin) : isReserved b.name = true := by
  cases b <;> decide

end Builtin

namespace Scope

variable (r : Registry) (o : Occasion) {c : Context} {key : String}

theorem find?_engineValues_eq_none (h : Builtin.isReserved (upper key) = false) :
    ((engineValues o).reverse.find? fun e => upper key == upper e.1) = none := by
  rw [List.find?_eq_none]
  intro e he
  rw [List.mem_reverse] at he
  obtain ⟨e', he', rfl⟩ := List.mem_map.mp he
  obtain ⟨b, -, rfl⟩ := List.mem_map.mp he'
  rw [beq_iff_eq]
  dsimp only
  rw [b.upper_name]
  intro hkey
  rw [hkey, b.isReserved_name] at h
  cases h

/-- Keys that are not the engine's keep the caller's values. -/
theorem get?_of (hc : c.Keyed) (h : Builtin.isReserved (upper key) = false) :
    (of r c o).context.get? key = c.get? key := by
  show (c.withBuiltins (engineValues o)).get? key = _
  rw [hc.get?_withBuiltins, find?_engineValues_eq_none o h]
  rfl

/-- Whatever key the caller's context has, the scope has too. -/
theorem has_of (hc : c.Keyed) (h : c.has key = true) : (of r c o).context.has key = true := by
  rw [Context.has_eq_isSome] at h ⊢
  show ((c.withBuiltins (engineValues o)).get? key).isSome = true
  rw [hc.get?_withBuiltins, Option.isSome_or, h, Bool.or_true]

/-- What the caller's context does not lack, the scope does not lack either. -/
theorem missing_of (hc : c.Keyed) {keys : List String} (h : c.missing keys = []) :
    (of r c o).context.missing keys = [] := by
  unfold Context.missing at h ⊢
  rw [List.filter_eq_nil_iff] at h ⊢
  intro key hkey
  have hhas := h key hkey
  rw [Bool.not_eq_true, Bool.not_eq_false'] at hhas ⊢
  exact has_of r o hc hhas

end Scope

/-! ## Scopes of moments -/

section

variable {moment : Moment} {counter padding : Int} {o : Occasion}

/-- An occasion is of a moment within its years, and of numbers that can be written. -/
theorem Occasion.at_eq_ok : Occasion.at moment counter padding = .ok o ↔
    moment.epochSeconds = .ok o.seconds ∧ o.moment = moment ∧ o.counter = counter ∧
      o.padding = padding := by
  constructor
  · intro h
    obtain ⟨seconds, hseconds, h⟩ := Except.bind_eq_ok.mp h
    obtain ⟨⟨n, hn⟩, hcounter, h⟩ := Except.bind_eq_ok.mp h
    obtain ⟨⟨w, hw⟩, hpadding, h⟩ := Except.bind_eq_ok.mp h
    cases h
    exact ⟨hseconds, rfl, Number.val_of_written hcounter, Number.val_of_written hpadding⟩
  · rintro ⟨hseconds, rfl, rfl, rfl⟩
    unfold Occasion.at
    rw [hseconds, Number.written_of_writable o.writable_counter,
      Number.written_of_writable o.writable_padding]
    rfl

theorem Scope.forMoment_eq_ok {r : Registry} {c : Context} {s : Scope} :
    Scope.forMoment r c moment counter padding = .ok s ↔
      ∃ o, Occasion.at moment counter padding = .ok o ∧ s = Scope.of r c o := by
  unfold Scope.forMoment
  rw [Except.bind_eq_ok]
  exact exists_congr fun o => and_congr_right fun _ =>
    ⟨fun h => (Except.ok.inj h).symm, fun h => congrArg Except.ok h.symm⟩

end

end SerialNumbers
