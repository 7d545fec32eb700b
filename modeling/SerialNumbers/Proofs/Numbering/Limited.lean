/-
  SerialNumbers.Proofs.Numbering.Limited

  Sequences with a limit and no period.  The limit is looked at before the
  counter goes up, so a cycle has as many numbers as it takes to reach the
  limit, and its last counter may be beyond it.  Main statement: the closed form
  of all counters, and of the number of resets that are logged
  (`Issuer.limited_closed_form`).
-/
import Mathlib.Data.Rat.Floor
import SerialNumbers.Proofs.Concurrency.Numbers
import SerialNumbers.Proofs.Numbering.Run

namespace SerialNumbers

open Time

/-! ## Places in a cycle -/

/-- The place of the last of `n` numbers in its cycle of `m`; before the first number it is 0. -/
def cyclePlace (m : Nat) : Nat → Nat
  | 0 => 0
  | n + 1 => n % m + 1

/-- One number more is one place more, or one cycle more and no place in it. -/
theorem div_mod_succ {m : Nat} (hm : 0 < m) (n : Nat) :
    (n + 1) / m = (if m ≤ n % m + 1 then n / m + 1 else n / m) ∧
      (n + 1) % m = if m ≤ n % m + 1 then 0 else n % m + 1 := by
  have hsplit := Nat.mod_add_div n m
  have hlt := Nat.mod_lt n hm
  rw [Nat.div_mod_unique hm]
  split
  · refine ⟨?_, hm⟩
    rw [Nat.mul_succ]
    omega
  · exact ⟨by omega, by omega⟩

/-- From the last place of a cycle it goes on with the first, and else with the next. -/
theorem cyclePlace_succ {m : Nat} (hm : 0 < m) (n : Nat) :
    cyclePlace m (n + 1) = if m ≤ cyclePlace m n then 1 else cyclePlace m n + 1 := by
  cases n with
  | zero =>
    show 0 % m + 1 = if m ≤ 0 then 1 else 0 + 1
    rw [if_neg (Nat.not_le.mpr hm), Nat.zero_mod]
  | succ n =>
    show (n + 1) % m + 1 = if m ≤ n % m + 1 then 1 else n % m + 1 + 1
    rw [(div_mod_succ hm n).2]
    split <;> rfl

/-- A cycle is over whenever it goes on with the first place. -/
theorem cycles_succ {m : Nat} (hm : 0 < m) (n : Nat) :
    n / m = (n - 1) / m + if m ≤ cyclePlace m n then 1 else 0 := by
  cases n with
  | zero =>
    show 0 / m = 0 / m + if m ≤ 0 then 1 else 0
    rw [if_neg (Nat.not_le.mpr hm), Nat.add_zero]
  | succ n =>
    show (n + 1) / m = n / m + if m ≤ n % m + 1 then 1 else 0
    rw [(div_mod_succ hm n).1]
    split <;> rfl

/-! ## When a limit is reached -/

/-- Without a period the only reason to start again is that the limit is reached. -/
theorem Sequence.resetReason?_of_never {s : Sequence} {zone : Zone} {now : Moment}
    {reason : Option String} {limit : Int} (hperiod : s.period = .never)
    (hlimit : s.limit = some limit) (h : s.resetReason? zone now = .ok reason) :
    reason.isSome = decide (limit ≤ s.current) := by
  have hdue := (resetDue_of_reason h).1
  unfold resetDue Tally.due Tally.dueByTime Tally.dueByCount at hdue
  rw [hperiod, hlimit] at hdue
  exact (Except.ok.inj hdue).symm

/-- So many steps reach a limit. -/
theorem limit_le_iff {limit step : Int} (hstep : 1 ≤ step) (place : Nat) :
    limit ≤ place * step ↔ ⌈(limit : ℚ) / step⌉₊ ≤ place := by
  have hpos : (0 : ℚ) < step := by exact_mod_cast hstep
  rw [Nat.ceil_le, div_le_iff₀ hpos]
  exact_mod_cast Iff.rfl

namespace Served

variable {limit : Int} {m : Nat}

/-- The counter moves to the next place of its cycle, and a reset is logged just when that is the
    first place of another one. -/
theorem Tells.limited {v : Served} {row : Sequence} {reason : Option String} {done : Edited}
    (h : v.Tells row reason done) (hperiod : row.period = .never) (hlimit : row.limit = some limit)
    (hm : ∀ place : Nat, limit ≤ place * row.step ↔ m ≤ place) {place : Nat}
    (hplace : row.current = place * row.step) :
    done.row.current = ((if m ≤ place then 1 else place + 1 : Nat) : Int) * row.step ∧
      v.entries.countP (·.isAutomaticReset) = if m ≤ place then 1 else 0 := by
  obtain ⟨i, c, number, -, hissues⟩ := h.issues
  have hreason := Sequence.resetReason?_of_never hperiod hlimit hissues.due
  rw [hplace, decide_eq_decide.mpr (hm place)] at hreason
  rw [h.automatic, hissues.row]
  cases reason with
  | none =>
    have hbelow : ¬ m ≤ place := of_decide_eq_false hreason.symm
    rw [if_neg hbelow, if_neg hbelow]
    refine ⟨?_, rfl⟩
    show row.current + row.step = _
    rw [hplace, Int.natCast_succ, Int.add_mul, Int.one_mul]
  | some text =>
    have hreached : m ≤ place := of_decide_eq_true hreason.symm
    rw [if_pos hreached, if_pos hreached]
    refine ⟨?_, rfl⟩
    show 0 + row.step = _
    rw [Int.zero_add, Int.natCast_one, Int.one_mul]

/-- The counters of numbers that follow `n` others, and how many resets are logged with them. -/
theorem Chain.limited {row : Sequence} {numbers : List Served} (h : Chain row numbers)
    (hperiod : row.period = .never) (hlimit : row.limit = some limit) (hpos : 0 < m)
    (hm : ∀ place : Nat, limit ≤ place * row.step ↔ m ≤ place) {n : Nat}
    (hplace : row.current = cyclePlace m n * row.step) :
    numbers.map (·.issued.counter) =
        (List.range' n numbers.length).map (fun k : Nat => row.step * (k % m + 1 : Nat)) ∧
      (n - 1) / m + (numbers.flatMap (·.entries)).countP (·.isAutomaticReset) =
        (n + numbers.length - 1) / m := by
  -- The induction carries how many numbers came before.
  induction h generalizing n with
  | nil row => exact ⟨rfl, rfl⟩
  | @cons row v reason done more tells rest ih =>
    obtain ⟨hcurrent, hresets⟩ := tells.limited hperiod hlimit hm hplace
    rw [← cyclePlace_succ hpos] at hcurrent
    obtain ⟨i, c, number, -, hissues⟩ := tells.issues
    have hrules := hissues.sameRules
    have hnext := ih (hrules.period.trans hperiod) (hrules.limit.trans hlimit)
      (by rw [hrules.step]; exact hm) (by rw [hrules.step]; exact hcurrent)
    rw [hrules.step] at hnext
    obtain ⟨hcounters, hcount⟩ := hnext
    refine ⟨?_, ?_⟩
    · rw [List.map_cons, List.length_cons, List.range'_succ, List.map_cons, hcounters, tells.counter,
        hcurrent, Int.mul_comm]
      rfl
    · rw [List.flatMap_cons, List.countP_append, hresets, ← Nat.add_assoc, ← cycles_succ hpos]
      rw [Nat.add_sub_cancel] at hcount
      rw [hcount, List.length_cons]
      congr 1
      omega

end Served

namespace Issuer

/-- The closed form of the counters of a sequence with a limit and no period, over every run of
    requests since it was made, and of the resets that the log has got: a cycle has as many
    numbers as steps are needed to reach the limit, and after each cycle but the last one there
    is a reset. -/
theorem limited_closed_form {s : Store} (hs : s.Reachable) {i : Issuer} {d : Draft}
    {now : Option Moment} {row : Sequence} {limit : Int}
    (hcreate : (i.create d now s).1 = .ok row) (hperiod : row.period = .never)
    (hlimit : row.limit = some limit) (requests : List Request) :
    let m := ⌈(limit : ℚ) / row.step⌉₊
    let s' := (i.create d now s).2
    let numbers := Request.numbersOf row.key requests s'
    numbers.map (·.issued.counter) =
        (List.range numbers.length).map (fun k : Nat => row.step * (k % m + 1 : Nat)) ∧
      ∃ id added, row.id = some id ∧
        (Request.serveAll requests s').2.entriesOf id = s.entriesOf id ++ added ∧
        added.countP (·.isAutomaticReset) = (numbers.length - 1) / m := by
  intro m s' numbers
  have hmade := create_eq_ok hcreate
  have hstep := hmade.fresh.step
  have hm : ∀ place : Nat, limit ≤ place * row.step ↔ m ≤ place := limit_le_iff hstep
  -- A limit is more than 0, so it is not reached at first.
  have hpos : 0 < m := by
    have hlimit : 0 < limit := hmade.valid.limit limit hlimit
    rw [Nat.pos_iff_ne_zero]
    intro hzero
    have hreached := (hm 0).mpr (Nat.le_of_eq hzero)
    rw [Int.natCast_zero, Int.zero_mul] at hreached
    omega
  obtain ⟨hchain, -, hlogged⟩ := Request.serveAll_chain requests (reachable_create i d now hs)
    hmade.stored hmade.id
  have hplace : row.current = cyclePlace m 0 * row.step := by
    rw [hmade.fresh.current]
    exact (Int.zero_mul _).symm
  obtain ⟨hcounters, hcount⟩ := hchain.limited hperiod hlimit hpos hm hplace
  refine ⟨?_, s.nextId, numbers.flatMap (·.entries), hmade.id, ?_, ?_⟩
  · rw [List.range_eq_range']
    exact hcounters
  · rw [hlogged]
    unfold Store.entriesOf
    rw [hmade.entries]
  · rw [Nat.zero_sub, Nat.zero_div, Nat.zero_add, Nat.zero_add] at hcount
    exact hcount

/-- Steps of two up to a limit of five: the third number is beyond it, and the fourth is the first
    again.  A request without its context fails in between. -/
theorem limited_closed_form_beyond :
    let start : Moment := ⟨Moment.midnight ⟨2024, 1, 1⟩, some .utc, false⟩
    let i : Issuer := ⟨.empty, .utc⟩
    let d : Draft :=
      { tenant := .text "acme", name := .text "invoices"
        pattern := "\x7bCUSTOMER\x7d-\x7bCOUNTER\x7d", limit := .whole 5, step := .whole 2 }
    let s := Store.new .memory 5000 start
    let s' := (i.create d none s).2
    let handle : Sequence := ⟨some 1, "acme", "invoices", d.pattern, .never, some 5, 5, 2, 0, none, 0,
      [], start, start⟩
    let request (ask : Ask) (pairs : List (String × Value)) : Request :=
      ⟨i, start, ask, handle, .ofPairs pairs, none⟩
    let good : Request := request (.generate .none) [("CUSTOMER", .text "a")]
    let requests := [good, good, request (.generate .none) [], request .preview [], good, good, good]
    s.Reachable ∧ ∃ row, (i.create d none s).1 = .ok row ∧ row.period = .never ∧
      row.limit = some 5 ∧
      (Request.numbersOf row.key requests s').map (·.issued.counter) = [2, 4, 6, 2, 4] ∧
      ∃ id added, row.id = some id ∧
        (Request.serveAll requests s').2.entriesOf id = s.entriesOf id ++ added ∧
        added.countP (·.isAutomaticReset) = 1 := by
  intro start i d s s' handle request good requests
  have hs : s.Reachable := .new 5000 start
  have hmade : (i.create d none s).1.toOption.map (fun row => (row.key, row.period, row.limit,
      row.step)) = some (("acme", "invoices"), .never, some 5, 2) := by decide +kernel
  obtain ⟨row, hrow, hfields⟩ := Option.map_eq_some_iff.mp hmade
  have hcreate := Except.eq_ok_of_toOption hrow
  obtain ⟨hkey, hperiod, hlimit, hstep⟩ : row.key = ("acme", "invoices") ∧ row.period = .never ∧
      row.limit = some 5 ∧ row.step = 2 := by simpa using hfields
  obtain ⟨hcounters, id, added, hid, hlogged, hcount⟩ :=
    limited_closed_form hs hcreate hperiod hlimit requests
  have hlength : (Request.numbersOf row.key requests s').length = 5 := by
    rw [hkey]
    decide +kernel
  have hcycle : ⌈((5 : Int) : ℚ) / row.step⌉₊ = 3 := by
    rw [hstep]
    norm_num [Nat.ceil_eq_iff]
  rw [hlength, hcycle] at hcounters hcount
  rw [hstep] at hcounters
  exact ⟨hs, row, hcreate, hperiod, hlimit, hcounters, id, added, hid, hlogged, hcount⟩

end Issuer

end SerialNumbers
