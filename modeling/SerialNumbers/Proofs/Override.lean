/-
  SerialNumbers.Proofs.Override

  Counters that are set by hand.  Before a counter is set the log is searched
  for the number that would come next, worked out from the row with its new
  counter as if nothing else came in between.  When the next number is issued
  the row may start again first.  Main statements: the next counter is the one
  after the value that was set unless a reset is due, and wherever it is, its
  number was not issued before (`Issuer.generate_after_override`); where a reset
  is due a number may come twice (`Issuer.override_then_twice`).
-/
import SerialNumbers.Proofs.Numbering.Run

namespace SerialNumbers

open Time

/-! ## Searching the log -/

/-- A search that finds nothing tells that no entry of a sequence has a number. -/
theorem LogFilter.number_ne_of_accepts {f : LogFilter} {e : LogEntry} {id : Int}
    {number : String} {action : Action} (hid : f.sequenceId = some id)
    (haction : f.action = some (.text action.name)) (hcauser : f.causer = none)
    (hnumber : f.number = some number) (hcounter : f.counter = none) (hsince : f.since = none)
    (hupTo : f.upTo = none) (h : f.accepts e = .ok false) (hsequence : e.sequenceId = id)
    (hlogged : e.action = action) : e.number ≠ number := by
  intro heq
  -- Such an entry passes every test.
  have hof : Action.ofValue (.text action.name) = .ok action := by
    cases action <;> rfl
  have haccepted : f.accepts e = .ok true := by
    unfold accepts matchesAction matchesCauser matchesTime ifGiven
    rw [hid, haction, hcauser, hnumber, hcounter, hsince, hupTo]
    simp [hof, hsequence, hlogged, heq, bind, Except.bind, pure, Except.pure]
  rw [haccepted] at h
  cases h

namespace Issuer

variable {i : Issuer}

/-- When the number after that of a row can be told and the log does not have it, no entry of
    the sequence has it. -/
theorem number_ne_of_unissued {row : Sequence} {now : Moment} {log : List LogEntry}
    {t : Template} {number : String} {id : Int} (hparse : Template.parse row.pattern = .ok t)
    (hrender : i.render t row row.nextValue .empty now = .ok number) (hid : row.id = some id)
    (h : i.unissued now log row = .ok ()) {e : LogEntry} (he : e ∈ log)
    (hsequence : e.sequenceId = id) (hlogged : e.action = .generated) : e.number ≠ number := by
  unfold unissued at h
  obtain ⟨f, hf, h⟩ := Except.bind_eq_ok.mp h
  obtain ⟨found, hfound, h⟩ := Except.bind_eq_ok.mp h
  have hfilter : f =
      { sequenceId := row.id
        action := some (.text Action.generated.name)
        limit := some 1
        number := some number } := by
    unfold issuedFilter at hf
    simp only [hparse, Except.ok_bind, hrender] at hf
    exact (Except.ok.inj hf).symm
  subst hfilter
  cases found with
  | cons e' rest =>
    obtain ⟨issued, -, h⟩ := Except.bind_eq_ok.mp h
    cases h
  | nil =>
    have hnone := (LogFilter.apply_eq_ok_nil rfl).mp hfound e he
    exact LogFilter.number_ne_of_accepts hid rfl rfl rfl rfl rfl rfl hnone hsequence hlogged

/-! ## Setting and then issuing -/

/-- What an override that succeeds has seen and done. -/
theorem override_cases {s : Store} {h : Sequence} {value : Int} {reason causer : Value}
    {now : Moment} {updated : Sequence}
    (hoverride : (i.override h value reason causer (some now) s).1 = .ok updated) :
    ∃ row e, s.row? h.key = some row ∧ 0 ≤ value ∧
      i.unissued now s.entries (row.overridden value now) = .ok () ∧
      e.About row .overridden "" value now ∧
      s.Settled row.key ⟨row.overridden value now, [e], .row (row.overridden value now)⟩
        (i.override h value reason causer (some now) s).2 := by
  have hrun : (Edit.override h value reason causer (some now)).run i s =
      (.ok (.row updated), (i.override h value reason causer (some now) s).2) :=
    StoreM.map_of_ok hoverride
  rcases (Edit.override h value reason causer (some now)).run_cases i s with
    ⟨failure, herr, -⟩ | ⟨work, row, done, hprepare, hrow, hwork, -, hsettled⟩
  · rw [hrun] at herr
    cases herr
  · rw [← Except.ok.inj hprepare] at hwork
    obtain ⟨hvalue, hlook, e, habout, rfl⟩ := Inside.override_eq_ok hwork
    rw [hrun] at hsettled
    exact ⟨row, e, hrow, hvalue, hlook, habout, hsettled⟩

/-- What issuing that succeeds has made of the row that is there. -/
theorem generate_cases {s : Store} {h : Sequence} {c : Context} {causer : Value} {now : Moment}
    {number : Issued} (hgenerate : (i.generate h c causer (some now) s).1 = .ok number) :
    ∃ row text reason done, s.row? h.key = some row ∧
      Inside.Issues i c now row reason text done ∧ number = issued text reason done.row now := by
  rcases i.generate_effect h c causer (some now) s with
    ⟨failure, hfailure, -⟩ | ⟨row, reason, text, done, hrow, hissues, -, hanswer, -⟩
  · rw [hgenerate] at hfailure
    cases hfailure
  · rw [hgenerate] at hanswer
    exact ⟨row, text, reason, done, hrow, hissues, Except.ok.inj hanswer⟩

/-- After a counter was set at a moment, the number that is issued next at that moment without a
    context has the counter after the value that was set, unless a reset is due: then it has the
    first.  Wherever it has the counter after the value, it was not issued before. -/
theorem generate_after_override {s : Store} (hs : s.Reachable) {key : Key} {row : Sequence}
    (hrow : s.row? key = some row) {h h' : Sequence} (hkey : h.key = key) (hkey' : h'.key = key)
    {value : Int} {reason causer causer' : Value} {now : Moment} {updated : Sequence}
    {number : Issued}
    (hoverride : (i.override h value reason causer (some now) s).1 = .ok updated)
    (hgenerate : (i.generate h' .empty causer' (some now)
      (i.override h value reason causer (some now) s).2).1 = .ok number) :
    ∃ due, (row.overridden value now).resetDue i.zone now = .ok due ∧
      number.counter = (if due then row.step else value + row.step) ∧
      (number.counter = value + row.step →
        ∀ e ∈ (i.override h value reason causer (some now) s).2.entries,
          some e.sequenceId = row.id → e.action = .generated → e.number ≠ number.number) := by
  subst hkey
  have hsound := hs.sound
  obtain ⟨row', e, hrow', hvalue, hunissued, habout, hsettled⟩ := override_cases hoverride
  rw [hrow] at hrow'
  cases hrow'
  obtain ⟨row₁, text, why, done, hrow₁, hissues, rfl⟩ := generate_cases hgenerate
  -- The row that is counted up is the one that the override has stored.
  have hstored : row₁ = row.overridden value now := by
    rw [hsettled.row?, hkey', hsound.rows.keyed hrow, if_pos (beq_self_eq_true h.key)] at hrow₁
    exact (Option.some.inj hrow₁).symm
  subst hstored
  have hdue := (Sequence.resetDue_of_reason hissues.due).1
  have hcounter : done.row.current = if why.isSome then row.step else value + row.step := by
    rw [hissues.row]
    cases why with
    | none => rfl
    | some text =>
      show 0 + row.step = row.step
      rw [Int.zero_add]
  refine ⟨why.isSome, hdue, hcounter, ?_⟩
  intro hnext entry hentry hid haction
  have hnext : done.row.current = (row.overridden value now).nextValue := hnext
  -- With the counter that was foreseen the number is the one that was searched for.
  obtain ⟨t, ht, hrender⟩ := hissues.made
  have hparse := checkedTemplate_eq_ok ht
  rw [hnext, hissues.row, render_counted] at hrender
  rw [hsettled.entries, List.mem_append] at hentry
  rcases hentry with hbefore | hlogged
  · exact number_ne_of_unissued hparse hrender hid.symm hunissued hbefore rfl haction
  · -- What the override itself has logged is no number.
    have hentry : entry = { e with id := some s.nextEntryId } := List.mem_singleton.mp hlogged
    rw [hentry] at haction
    have hoverridden : e.action = .generated := haction
    rw [habout.action] at hoverridden
    cases hoverridden

/-- A counter that is set within the year of its last reset. -/
theorem generate_after_override_same_year :
    let day (year month day : Nat) : Moment := ⟨Moment.midnight ⟨year, month, day⟩, none, false⟩
    let row : Sequence := ⟨none, "acme", "invoices", "INV-\x7bCOUNTER:5\x7d", .yearly, none, 5, 1, 0,
      none, 0, [], day 2023 3 1, day 2023 3 1⟩
    let i : Issuer := ⟨.empty, .utc⟩
    let s₀ := ((Operation.insert row).run i (.new .memory 5000 (day 2023 3 1))).2
    let s := ((Operation.edit (.generate row .empty .none (some (day 2023 3 1)))).run i s₀).2
    let overridden := i.override row 10 .none .none (some (day 2023 3 3)) s
    ∃ stored updated number, s.row? row.key = some stored ∧ overridden.1 = .ok updated ∧
      (i.generate row .empty .none (some (day 2023 3 3)) overridden.2).1 = .ok number ∧
      number.number = "INV-00011" ∧
      ∃ due, (stored.overridden 10 (day 2023 3 3)).resetDue i.zone (day 2023 3 3) = .ok due ∧
        number.counter = (if due then stored.step else 10 + stored.step) ∧
        (number.counter = 10 + stored.step →
          ∀ e ∈ overridden.2.entries, some e.sequenceId = stored.id → e.action = .generated →
            e.number ≠ number.number) := by
  intro day row i s₀ s overridden
  have hs : s.Reachable := .run i _ (.run i (.insert row) (.new 5000 (day 2023 3 1)))
  have hstored : (s.row? row.key).isSome = true := by decide +kernel
  have hupdated : overridden.1.toOption.isSome = true := by decide +kernel
  have hissued : (i.generate row .empty .none (some (day 2023 3 3)) overridden.2).1.toOption.map
      (·.number) = some "INV-00011" := by decide +kernel
  obtain ⟨stored, hrow⟩ := Option.isSome_iff_exists.mp hstored
  obtain ⟨updated, hupdated⟩ := Option.isSome_iff_exists.mp hupdated
  obtain ⟨number, hissued, hnumber⟩ := Option.map_eq_some_iff.mp hissued
  have hoverride := Except.eq_ok_of_toOption hupdated
  have hgenerate := Except.eq_ok_of_toOption hissued
  have hnext :=
    generate_after_override (i := i) (s := s) (h := row) hs hrow rfl rfl hoverride hgenerate
  exact ⟨stored, updated, number, hrow, hoverride, hgenerate, hnumber, hnext⟩

/-- A counter that is set in the year after that of its last reset: it starts again all the same,
    and the number that is issued was issued before. -/
theorem override_then_twice :
    let day (year month day : Nat) : Moment := ⟨Moment.midnight ⟨year, month, day⟩, none, false⟩
    let row : Sequence := ⟨none, "acme", "invoices", "INV-\x7bCOUNTER:5\x7d", .yearly, none, 5, 1, 0,
      some (day 2023 3 1), 0, [], day 2023 3 1, day 2023 3 1⟩
    let i : Issuer := ⟨.empty, .utc⟩
    let s₀ := ((Operation.insert row).run i (.new .memory 5000 (day 2023 3 1))).2
    let s := ((Operation.edit (.generate row .empty .none (some (day 2023 3 2)))).run i s₀).2
    let overridden := i.override row 10 .none .none (some (day 2024 1 5)) s
    s.Reachable ∧ ∃ updated number, overridden.1 = .ok updated ∧
      (i.generate row .empty .none (some (day 2024 1 5)) overridden.2).1 = .ok number ∧
      number.counter = 1 ∧
      ((s.entriesOf 1).filter (·.action == .generated)).map (·.number) = [number.number] := by
  intro day row i s₀ s overridden
  have hs : s.Reachable := .run i _ (.run i (.insert row) (.new 5000 (day 2023 3 1)))
  have hupdated : overridden.1.toOption.isSome = true := by decide +kernel
  have hbefore : ((s.entriesOf 1).filter (·.action == .generated)).map (·.number) =
      ["INV-00001"] := by
    decide +kernel
  have hissued : (i.generate row .empty .none (some (day 2024 1 5)) overridden.2).1.toOption.map
      (fun number => (number.counter, number.number)) = some (1, "INV-00001") := by
    decide +kernel
  obtain ⟨updated, hupdated⟩ := Option.isSome_iff_exists.mp hupdated
  obtain ⟨number, hissued, hnumber⟩ := Option.map_eq_some_iff.mp hissued
  rw [Prod.mk.injEq] at hnumber
  refine ⟨hs, updated, number, Except.eq_ok_of_toOption hupdated,
    Except.eq_ok_of_toOption hissued, hnumber.1, ?_⟩
  rw [hnumber.2]
  exact hbefore

end Issuer

end SerialNumbers
