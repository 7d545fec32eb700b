/-
  SerialNumbers.Proofs.Contention.Exact

  The verdict on a contention run.  It cannot be misled by what it is given, and
  what it is given by the workers at a new sequence always passes, whichever way
  their calls come to stand and whatever becomes of them (`verdict_exact`).
-/
import SerialNumbers.Proofs.Contention.Unbroken
import SerialNumbers.Proofs.Numbering.Run

namespace SerialNumbers

open Time

/-! ## New sequences -/

/-- A draft without a period and a limit makes a sequence that never starts again. -/
theorem Issuer.Draft.endless_of_sequence {d : Draft} {stamp : Moment} {row : Sequence}
    (h : d.sequence stamp = .ok row) (hperiod : d.period = .text Period.never.name)
    (hlimit : d.limit = .none) : row.Endless ∧ row.pattern = d.pattern := by
  obtain ⟨period, hnamed, hs⟩ := Except.bind_eq_ok.mp h
  rw [hperiod] at hnamed
  cases hnamed
  have hread := Sequence.ofFields_eq_ok hs
  have hrowPeriod := hread.period
  have hrowLimit := hread.limit
  have hrowPattern := hread.pattern
  simp [Fields.get_eq_ok, Fields.require_eq_ok, Table.get?_ofList, List.lookup_cons]
    at hrowPeriod hrowLimit hrowPattern
  rw [hlimit] at hrowLimit
  refine ⟨⟨?_, ?_⟩, Rule.textOf_eq_ok hrowPattern⟩
  · exact (Except.ok.inj hrowPeriod).symm
  · exact (Except.ok.inj hrowLimit).symm

namespace Contention

section

variable {i : Issuer} {d : Issuer.Draft} {now : Option Moment} {s : Store} {row : Sequence}

/-- A sequence on the usual pattern that was just made is one that workers can begin at. -/
theorem begins_of_create (hs : s.Reachable) (hrow : (i.create d now s).1 = .ok row)
    (hpattern : d.pattern = Plan.usualPattern) (hperiod : d.period = .text Period.never.name)
    (hlimit : d.limit = .none) (attempts : Int) :
    Shift.Begins ⟨i, row, attempts⟩ (i.create d now s).2 ∧ row.pattern = Plan.usualPattern ∧
      ∃ t, i.checkedTemplate row.pattern = .ok t := by
  have hmade := Issuer.create_eq_ok hrow
  rcases Operation.create_cases i d now s with
    ⟨failure, hfailed, -⟩ | ⟨t, drafted, ht, hdrafted, -, hanswer, -⟩
  · rw [hfailed] at hrow
    cases hrow
  · rw [hanswer] at hrow
    cases hrow
    obtain ⟨hendless, hsame⟩ := Issuer.Draft.endless_of_sequence hdrafted hperiod hlimit
    have husual : drafted.pattern = Plan.usualPattern := hsame.trans hpattern
    refine ⟨⟨Issuer.reachable_create i d now hs, hmade.stored, hmade.fresh, hmade.valid,
      ⟨hendless.period, hendless.limit⟩, ?_⟩, husual, t, ?_⟩
    · show Pattern.IsDated drafted.pattern
      rw [husual]
      exact Plan.isDated_usualPattern
    · show i.checkedTemplate drafted.pattern = .ok t
      rw [hsame]
      exact ht

end

/-! ## The verdict -/

/-- Calls are shared out evenly and completely, and the check tells just what the numbers are that
    it is given.  Workers who make their shares of calls at a new sequence on the usual pattern
    have at any time collected numbers that pass, whichever way their steps have come to stand
    and whichever calls have failed; and as long as the clock can be shown, and the counter does not
    become too long and the padding is not, nothing stops a worker but the end of its calls. -/
theorem verdict_exact {calls workers : Int} (hcalls : 0 ≤ calls) (hworkers : 1 ≤ workers) :
    ∃ shares, split calls workers = .ok shares ∧ Shares calls workers shares ∧
      (∀ (numbers : List (String × Int)) {step : Int} (start : Int), 1 ≤ step →
        Reports numbers step start) ∧
      ∀ {i : Issuer} {d : Issuer.Draft} {now : Option Moment} {s : Store} {row : Sequence}
        {attempts : Int} {moves : List Move} {c : Crew}, s.Reachable →
        (i.create d now s).1 = .ok row → d.pattern = Plan.usualPattern →
        d.period = .text Period.never.name → d.limit = .none →
        (Crew.start (i.create d now s).2 shares).run ⟨i, row, attempts⟩ moves = some c →
        Crew.Exact row calls shares.length c ∧
          (i.Shows (i.create d now s).2.clock →
            (∀ clock, .act (.tick clock) ∈ moves → i.Shows clock) →
            row.step * calls < 10 ^ 252 → Number.Writable row.padding → c.Unbroken) := by
  obtain ⟨shares, hsplit, hshares⟩ := split_shares hcalls hworkers
  refine ⟨shares, hsplit, hshares,
    fun numbers _ start hstep => check_reports numbers hstep start, ?_⟩
  intro i d now s row attempts moves c hs hrow hpattern hperiod hlimit hrun
  obtain ⟨hbegins, husual, hchecked⟩ := begins_of_create hs hrow hpattern hperiod hlimit attempts
  have hnonneg : ∀ part ∈ shares, 0 ≤ part := fun part hpart =>
    Int.le_trans Int.one_nonneg (hshares.least part hpart)
  have htotal := hshares.total
  subst htotal
  refine ⟨?_, ?_⟩
  · have hsound := (Crew.sound_start (T := fun _ => True) ⟨i, row, attempts⟩ trivial shares).run
      hbegins.reachable (fun _ _ => trivial) hrun
    exact hsound.exact hbegins hnonneg
  · intro hclock hticks hbound hpadding
    exact Crew.unbroken_of_run ⟨hbegins, hchecked, husual, hpadding, hnonneg, hbound⟩ hclock hticks
      hrun

/-- Three calls of two workers, by threes.  The second worker waits for the first and gives up, and
    then takes its number before the first has its second one. -/
theorem verdict_exact_two :
    let time (seconds : Int) : Moment :=
      ⟨Moment.midnight ⟨2024, 1, 1⟩ + 1000000 * seconds, none, false⟩
    let i : Issuer := ⟨.empty, .utc⟩
    let s : Store := .new .memory 5000 (time 0)
    let d : Issuer.Draft := { tenant := .text Run.tenant, name := .text "stress-threads-1-1",
                              pattern := Plan.usualPattern, padding := .whole 8, step := .whole 3 }
    let pass (j : Nat) : List Move :=
      [.act (.read j), .act (.work j), .act (.commit j), .act (.write j), .act (.release j)]
    let moves : List Move := List.flatten
      [[.attempt 0, .attempt 1, .act (.lookUp 0), .act (.acquire 0), .act (.lookUp 1),
        .act (.tick (time 5)), .act (.giveUp 1), .attempt 1], pass 0,
       [.act (.lookUp 1), .act (.acquire 1), .attempt 0, .act (.lookUp 0)], pass 1,
       [.act (.acquire 0)], pass 0]
    s.Reachable ∧ split 3 2 = .ok [2, 1] ∧ ∃ row c, (i.create d none s).1 = .ok row ∧
      (Crew.start (i.create d none s).2 [2, 1]).run ⟨i, row, 2⟩ moves = some c ∧
      (c.batches 2).map (·.numbers) =
        [[("ST-00000003", 3), ("ST-00000009", 9)], [("ST-00000006", 6)]] ∧
      Crew.Exact row 3 2 c ∧ c.Unbroken := by
  intro time i s d pass moves
  have hs : s.Reachable := .new 5000 (time 0)
  have hsplit : split 3 2 = .ok [2, 1] := by decide +kernel
  obtain ⟨shares, hshared, -, -, hruns⟩ := @verdict_exact 3 2 (by decide) (by decide)
  obtain rfl : shares = [2, 1] := Except.ok.inj (hshared.symm.trans hsplit)
  have hran : (i.create d none s).1.toOption.map (fun row => (row.step,
      ((Crew.start (i.create d none s).2 [2, 1]).run ⟨i, row, 2⟩ moves).map
        fun c => (c.batches 2).map (·.numbers))) =
      some (3, some [[("ST-00000003", 3), ("ST-00000009", 9)], [("ST-00000006", 6)]]) := by
    decide +kernel
  obtain ⟨row, hrow, hran⟩ := Option.map_eq_some_iff.mp hran
  obtain ⟨hstep, hran⟩ := (Prod.mk.injEq ..).mp hran
  obtain ⟨c, hrun, hnumbers⟩ := Option.map_eq_some_iff.mp hran
  have hpadding : (i.create d none s).1.toOption.map (·.padding) = some 8 := by decide +kernel
  rw [hrow, Option.map_some, Option.some.injEq] at hpadding
  have hrow := Except.eq_ok_of_toOption hrow
  obtain ⟨hexact, hunbroken⟩ := hruns hs hrow rfl rfl rfl hrun
  have hclock : (i.create d none s).2.clock = time 0 := by decide +kernel
  have hticks : ∀ clock, .act (.tick clock) ∈ moves → i.Shows clock := by
    intro clock hmem
    have hall : moves.all (fun
        | .act (.tick clock) => (clock.inZone .utc).toOption.isSome
        | _ => true) = true := by decide +kernel
    have hsome := List.all_eq_true.mp hall _ hmem
    obtain ⟨here, hhere⟩ := Option.isSome_iff_exists.mp hsome
    exact ⟨here, Except.eq_ok_of_toOption hhere⟩
  refine ⟨hs, hsplit, row, c, hrow, hrun, hnumbers, hexact, hunbroken ?_ hticks ?_ ?_⟩
  · rw [hclock]
    exact ⟨_, rfl⟩
  · rw [hstep]
    decide
  · rw [hpadding]
    decide +kernel

end Contention

end SerialNumbers
