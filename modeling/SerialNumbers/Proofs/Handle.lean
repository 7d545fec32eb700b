/-
  SerialNumbers.Proofs.Handle

  What a caller holds of a sequence.  A number is asked for with a copy of the
  row, which may be old: the row that is stored has gone on counting, or has got
  other rules.  The copy names the row, and its pattern is checked before the row
  is locked; the number is made from the row.  Main statement: two copies with
  patterns that are found valid come to the same, in the answer and in the store,
  and a number that is issued is that of the stored row
  (`Issuer.generate_decided_by_row`).
-/
import SerialNumbers.Proofs.Numbering.Run
import SerialNumbers.Proofs.Pattern.Syntax

namespace SerialNumbers

open Time

namespace Issuer

variable {i : Issuer}

/-- A pattern that is found valid can be issued by. -/
theorem checkedTemplate_of_isValid {pattern : String} {found : Findings}
    (hfound : i.registry.checkSyntax pattern = .ok found) (hvalid : found.isValid = true) :
    ∃ t, i.checkedTemplate pattern = .ok t := by
  obtain ⟨t, hparse, -⟩ := Registry.checkSyntax_passes hfound hvalid
  refine ⟨t, ?_⟩
  unfold checkedTemplate
  rw [hfound, Except.ok_bind, if_pos hvalid, hparse]

/-- Once the patterns of two copies have been checked, their templates are no matter. -/
theorem issueStep_congr {pattern pattern' : String} {t t' : Template}
    (ht : i.checkedTemplate pattern = .ok t) (ht' : i.checkedTemplate pattern' = .ok t') :
    i.issueStep t = i.issueStep t' := by
  funext tx c causer now
  rw [issueStep_of_checked ht, issueStep_of_checked ht']

/-- All that issuing takes from a copy is its key, if its pattern is found valid. -/
theorem generate_congr {h h' : Sequence} {t t' : Template} (hkey : h.key = h'.key)
    (ht : i.checkedTemplate h.pattern = .ok t) (ht' : i.checkedTemplate h'.pattern = .ok t')
    (c : Context) (causer : Value) (now : Option Moment) :
    i.generate h c causer now = i.generate h' c causer now := by
  have hchecked (t : Template) : StoreM.ofExcept (.ok t) = (pure t : StoreM Template) := rfl
  unfold generate
  rw [ht, ht', hkey, hchecked, hchecked]
  simp only [pure_bind, issueStep_congr ht ht']

/-- The counter of a row that is readied and counted up is a step further, from zero if there is
    a reason to start again. -/
theorem counted_readied (row : Sequence) (reason : Option String) (now : Moment) :
    ((row.readied reason now).counted now).current =
      (if reason.isSome then 0 else row.current) + row.step := by
  cases reason <;> rfl

/-- Two copies of a stored row whose own patterns are found valid come to the same: to the same
    number or the same failure, with the same rows and the same log left behind.  A number that is
    issued is made of the stored row alone: it is counted up by the step of the row, from zero if a
    reset of the row is due, and rendered from the pattern and the padding of the row. -/
theorem generate_decided_by_row {s : Store} (hs : s.Reachable) {key : Key} {row : Sequence}
    (hrow : s.row? key = some row) {h h' : Sequence} (hkey : h.key = key) (hkey' : h'.key = key)
    {found found' : Findings} (hfound : i.registry.checkSyntax h.pattern = .ok found)
    (hvalid : found.isValid = true) (hfound' : i.registry.checkSyntax h'.pattern = .ok found')
    (hvalid' : found'.isValid = true) (c : Context) (causer : Value) (now : Option Moment) :
    let stamp := now.getD s.clock
    i.generate h c causer now s = i.generate h' c causer now s ∧
      ∀ number, (i.generate h c causer now s).1 = .ok number →
        ∃ t reason here scope text, i.checkedTemplate row.pattern = .ok t ∧
          row.resetReason? i.zone stamp = .ok reason ∧
          number.counter = (if reason.isSome then 0 else row.current) + row.step ∧
          stamp.inZone i.zone = .ok here ∧
          Scope.forMoment i.registry c here number.counter row.padding = .ok scope ∧
          t.evaluate scope = .ok text ∧
          number = issued text reason ((row.readied reason stamp).counted stamp) stamp ∧
          (i.generate h c causer now s).2.row? key =
            some ((row.readied reason stamp).counted stamp) := by
  intro stamp
  obtain ⟨t, ht⟩ := checkedTemplate_of_isValid hfound hvalid
  obtain ⟨t', ht'⟩ := checkedTemplate_of_isValid hfound' hvalid'
  refine ⟨congrFun (generate_congr (hkey.trans hkey'.symm) ht ht' c causer now) s, ?_⟩
  intro number hnumber
  rcases i.generate_effect h c causer now s with
    ⟨failure, hfailure, -⟩ | ⟨stored, reason, text, done, hstored, hissues, -, hanswer, hsettled⟩
  · rw [hnumber] at hfailure
    cases hfailure
  · rw [hkey, hrow] at hstored
    cases hstored
    rw [hnumber] at hanswer
    cases hanswer
    obtain ⟨made, hmade, hrender⟩ := hissues.made
    rw [hissues.row, render_counted] at hrender
    obtain ⟨here, scope, hhere, hscope, hevaluate, -⟩ := evaluate_of_render hrender
    have hcounter : done.row.current = _ :=
      (congrArg Sequence.current hissues.row).trans (counted_readied row reason stamp)
    refine ⟨made, reason, here, scope, text, hmade, hissues.due, hcounter, hhere, ?_, hevaluate,
      ?_, ?_⟩
    · show Scope.forMoment i.registry c here done.row.current row.padding = .ok scope
      rw [hissues.row]
      exact hscope
    · rw [hissues.row]
    · rw [hsettled.row?, hs.sound.rows.keyed hrow, if_pos (beq_self_eq_true key), hissues.row]

/-- An old copy in which hardly anything is as in the row that is stored. -/
theorem generate_decided_by_row_stale :
    let now : Moment := ⟨Moment.midnight ⟨2024, 3, 1⟩, none, false⟩
    let row : Sequence := ⟨none, "acme", "invoices", "INV-\x7bCOUNTER:5\x7d", .never, none, 5, 1, 0,
      none, 0, [], now, now⟩
    let stale : Sequence := ⟨some 7, "acme", "invoices", "OLD-\x7bCOUNTER\x7d", .yearly, some 3, 2, 9,
      40, none, 12, [], now, now⟩
    let i : Issuer := ⟨.empty, .utc⟩
    let s := ((Operation.insert row).run i (.new .memory 5000 now)).2
    s.Reachable ∧ ∃ stored number, s.row? row.key = some stored ∧
      i.generate stale .empty .none none s = i.generate row .empty .none none s ∧
      (i.generate stale .empty .none none s).1 = .ok number ∧ number.number = "INV-00001" ∧
      ∃ reason, stored.resetReason? i.zone s.clock = .ok reason ∧
        number.counter = (if reason.isSome then 0 else stored.current) + stored.step := by
  intro now row stale i s
  have hs : s.Reachable := .run i (.insert row) (.new 5000 now)
  have hstored : (s.row? row.key).isSome = true := by decide +kernel
  have hissued : (i.generate stale .empty .none none s).1.toOption.map (·.number) =
      some "INV-00001" := by decide +kernel
  have hold : i.registry.checkSyntax stale.pattern = .ok Findings.none := by decide +kernel
  have hown : i.registry.checkSyntax row.pattern = .ok Findings.none := by decide +kernel
  obtain ⟨stored, hrow⟩ := Option.isSome_iff_exists.mp hstored
  obtain ⟨number, hissued, hnumber⟩ := Option.map_eq_some_iff.mp hissued
  have hgenerate := Except.eq_ok_of_toOption hissued
  have hkey : stale.key = row.key := rfl
  obtain ⟨hsame, hmade⟩ := generate_decided_by_row hs hrow hkey rfl hold rfl hown rfl .empty .none
    none
  obtain ⟨t, reason, here, scope, text, -, hreason, hcounter, -⟩ := hmade number hgenerate
  exact ⟨hs, stored, number, hrow, hsame, hgenerate, hnumber, reason, hreason, hcounter⟩

end Issuer

end SerialNumbers
