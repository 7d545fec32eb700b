/-
  SerialNumbers.Proofs.Contention.Unbroken

  Nothing stops a worker.  A number of the usual pattern can be made for every
  counter that is not too long, so all that can go wrong with a call is that
  others are in its way (`Crew.Sound.retryable`).  Such a call is tried again or
  given up, and the batch goes on (`Crew.unbroken_of_run`).
-/
import SerialNumbers.Contention.Run
import SerialNumbers.Proofs.Contention.Collected
import SerialNumbers.Proofs.Lookahead

namespace SerialNumbers

open Pattern Text Time

/-- The clock of the issuer can show the moment. -/
def Issuer.Shows (i : Issuer) (now : Moment) : Prop :=
  ∃ here, now.inZone i.zone = .ok here

namespace Contention

/-! ## Numbers of the usual pattern -/

namespace Plan

theorem pieces_usualPattern : pieces usualPattern.toList =
    [.char 'S', .char 'T', .char '-', .token ⟨"COUNTER", some "8"⟩] := by decide +kernel

theorem isDated_usualPattern : IsDated usualPattern := by
  refine ⟨by decide +kernel, ?_, ?_⟩
  · rw [pieces_usualPattern]
    exact List.all_eq_true.mp (by decide +kernel)
  · rw [pieces_usualPattern]
    decide +kernel

/-- The number of the usual pattern for a counter. -/
def usualNumber (counter : Int) : String :=
  String.ofList ('S' :: 'T' :: '-' :: (zeroFill 8 (toString counter)).toList)

theorem length_usualNumber {counter : Int} (hcounter : 0 ≤ counter) (hbound : counter < 10 ^ 252) :
    (usualNumber counter).length ≤ maxLength := by
  obtain ⟨n, rfl⟩ := Int.eq_ofNat_of_zero_le hcounter
  have hdigits : (toString n).toList.length ≤ 252 :=
    length_toString_le (by decide) (by exact_mod_cast hbound)
  have hfilled : (zeroFill 8 (toString n)).toList.length = max 8 (toString n).toList.length :=
    (isNumber_toString n).length_zeroFill 8
  have hlength : (usualNumber n).length = (zeroFill 8 (toString n)).toList.length + 3 := by
    unfold usualNumber
    rw [String.length_ofList]
    rfl
  rw [hlength, hfilled]
  show max 8 (toString n).toList.length + 3 ≤ 255
  omega

/-- A counter that is not too long for a number is not too long to be written. -/
theorem writable_counter {counter : Int} (hcounter : 0 ≤ counter) (hbound : counter < 10 ^ 252) :
    Number.Writable counter := by
  obtain ⟨n, rfl⟩ := Int.eq_ofNat_of_zero_le hcounter
  have hbound : n < 10 ^ 252 := by exact_mod_cast hbound
  exact hbound.trans_le (Nat.pow_le_pow_right (by decide) (by decide +kernel))

variable {t : Template} (ht : Template.parse usualPattern = .ok t)

include ht

theorem evaluate_usualPattern (r : Registry) (c : Context) (o : Occasion) :
    t.evaluate (.of r c o) = .ok (usualNumber o.counter) := by
  have hcounter : (Scope.of r c o).resolve ⟨"COUNTER", some "8"⟩ =
      .ok (zeroFill 8 (toString o.counter)) := by
    have hwidth : width? maxCounterWidth "8" = .ok (some 8) := by decide +kernel
    show (Scope.of r c o).resolveBuiltin .counter (some "8") = _
    rw [Scope.resolveBuiltin_eq]
    show (width? maxCounterWidth "8" >>= _) = _
    rw [hwidth]
    rfl
  unfold Template.evaluate
  rw [Template.expand_plain ht isDated_usualPattern.plain, Except.ok_bind, pieces_usualPattern]
  simp only [substitute, hcounter, Except.ok_bind]
  show Except.ok (String.ofList ('S' :: 'T' :: '-' :: (_ ++ []))) = _
  rw [List.append_nil]
  rfl

theorem render_usualPattern {i : Issuer} {row : Sequence} {counter : Int} (c : Context)
    {now : Moment} (hcounter : 0 ≤ counter) (hbound : counter < 10 ^ 252)
    (hpadding : Number.Writable row.padding) (hnow : i.Shows now) :
    i.render t row counter c now = .ok (usualNumber counter) := by
  obtain ⟨here, hhere⟩ := hnow
  have hzone : here.zone = some i.zone := (Moment.inZone_eq_ok hhere).1
  have hoccasion : ∃ o, Occasion.at here counter row.padding = .ok o ∧ o.counter = counter := by
    have hseconds : ∃ seconds, here.epochSeconds = .ok seconds := by
      unfold Moment.epochSeconds
      rw [hzone]
      exact ⟨_, rfl⟩
    obtain ⟨seconds, hseconds⟩ := hseconds
    exact ⟨⟨here, seconds, counter, row.padding, writable_counter hcounter hbound, hpadding⟩,
      Occasion.at_eq_ok.mpr ⟨hseconds, rfl, rfl, rfl⟩, rfl⟩
  obtain ⟨o, ho, rfl⟩ := hoccasion
  have hscope : Scope.forMoment i.registry c here o.counter row.padding =
      .ok (.of i.registry c o) :=
    Scope.forMoment_eq_ok.mpr ⟨o, ho, rfl⟩
  have hfull : (usualNumber o.counter).isEmpty = false := by
    rw [← Bool.not_eq_true, String.isEmpty_iff]
    intro hempty
    have := congrArg String.toList hempty
    unfold usualNumber at this
    rw [String.toList_ofList] at this
    cases this
  unfold Issuer.render
  simp only [hhere, hscope, evaluate_usualPattern ht, Except.ok_bind]
  rw [hfull, if_neg Bool.false_ne_true,
    if_neg (Nat.not_lt.mpr (length_usualNumber hcounter hbound))]

end Plan

/-! ## Calls that do not fail -/

/-- A try of the call of a shift comes to a number, however the log reads. -/
theorem Shift.Assigned.works {p : Shift} {t : Task} (h : p.Assigned p.issuer.Shows t)
    {row : Sequence} (hrules : p.handle.SameRules row) (hvalid : row.Valid)
    (hendless : row.Endless) (hpattern : p.handle.pattern = Plan.usualPattern)
    (hpadding : Number.Writable p.handle.padding) (hbound : row.nextValue < 10 ^ 252)
    (clock : Moment) (log : List LogEntry) :
    ∃ done, t.work clock log row = .ok done := by
  obtain ⟨hissuer, stamp, hstamp, hedit⟩ := h
  have hprepared := t.prepared clock
  rw [hedit, hissuer] at hprepared
  obtain ⟨template, htemplate, hwork⟩ := Edit.prepare_generate_eq_ok hprepared
  have hparse : Template.parse Plan.usualPattern = .ok template := by
    rw [← hpattern]
    exact Issuer.checkedTemplate_eq_ok htemplate
  have hrender : p.issuer.render template row row.nextValue .empty stamp =
      .ok (Plan.usualNumber row.nextValue) :=
    Plan.render_usualPattern hparse .empty hvalid.nextValue_nonneg hbound
      (hrules.padding.symm ▸ hpadding) hstamp
  have htemplate : p.issuer.checkedTemplate row.pattern = .ok template := by
    rw [hrules.pattern]
    exact htemplate
  have hstep := Issuer.issueStep_map p.issuer .empty stamp htemplate hvalid
    (show Rule.namesCauser Batch.causer = true from rfl)
  rw [hendless.resetReason?] at hstep
  have hstep : (p.issuer.issueStep template (.start row) .empty Batch.causer stamp).map
      (fun x => (x.1, x.2.current)) =
        .ok ((Plan.usualNumber row.nextValue, none), row.counted stamp) := by
    rw [hstep, Except.ok_bind]
    show (p.issuer.render template row row.nextValue .empty stamp >>= _) = _
    rw [hrender]
    rfl
  rw [hwork]
  show ∃ done, (p.issuer.issueStep template (.start row) .empty Batch.causer stamp >>= _) = _
  cases hissued : p.issuer.issueStep template (.start row) .empty Batch.causer stamp with
  | error e =>
    rw [hissued] at hstep
    cases hstep
  | ok x => exact ⟨_, rfl⟩

namespace Crew

variable {p : Shift} {s₀ : Store} {T : Moment → Prop} {shares : List Int} {c c' : Crew}

/-- While a worker has a call left, there are fewer numbers than calls. -/
theorem Sound.length_lt (h : c.Sound p s₀ T (share shares)) (hshares : ∀ part ∈ shares, 0 ≤ part)
    {j : Nat} (hbusy : (c.worker j).isBusy = true) :
    ((c.collected shares.length).length : Int) < shares.sum := by
  have hleft : 0 < (c.worker j).left := of_decide_eq_true (Bool.and_eq_true_iff.mp hbusy).1
  have hj : j < shares.length := by
    by_contra hout
    obtain ⟨lost, -, hcounted⟩ := h.counted j
    have hnone : share shares j = 0 := share_of_le (Nat.le_of_not_lt hout)
    omega
  have hsome : ((c.worker j).left : Int) ≤ c.left shares.length := by
    refine List.single_le_sum ?_ _ (List.mem_map.mpr ⟨j, List.mem_range.mpr hj, rfl⟩)
    intro n hn
    obtain ⟨k, -, rfl⟩ := List.mem_map.mp hn
    exact Int.natCast_nonneg _
  have hlost : 0 ≤ c.lost shares.length := by
    refine List.sum_nonneg fun n hn => ?_
    obtain ⟨b, hb, rfl⟩ := List.mem_map.mp hn
    obtain ⟨k, -, rfl⟩ := List.mem_map.mp hb
    obtain ⟨lost, hlost, -⟩ := h.counted k
    rw [hlost]
    exact Int.natCast_nonneg lost
  have hsettled := h.settled hshares
  omega

/-- What a crew needs to go on: a sequence on the usual pattern whose counter cannot become too
    long. -/
structure Supplied (p : Shift) (s₀ : Store) (shares : List Int) : Prop where
  begins : p.Begins s₀
  checked : ∃ t, p.issuer.checkedTemplate p.handle.pattern = .ok t
  pattern : p.handle.pattern = Plan.usualPattern
  padding : Number.Writable p.handle.padding
  nonneg : ∀ part ∈ shares, 0 ≤ part
  bound : p.handle.step * shares.sum < 10 ^ 252

/-- Whatever goes wrong with a call that was begun, another try may help. -/
theorem Sound.retryable (h : c.Sound p s₀ p.issuer.Shows (share shares))
    (hp : Supplied p s₀ shares) {j : Nat} (hopen : (c.world.phase j).isOpen = true)
    {failure : Failure} (hfails : c.world.Fails j failure) : failure.isRetryable = true := by
  obtain ⟨final, hstored, hrules, hvalid, -⟩ := (h.numbered hp.begins).final
  cases hfails with
  | giveUp hwaiting => rfl
  | @miss t lock hholding hrow =>
    have hassigned := h.tasks j t (by rw [hholding]; rfl)
    rw [hassigned.key, hstored] at hrow
    cases hrow
  | @work t lock row failure hopened hwork =>
    have hassigned := h.tasks j t (by rw [hopened]; rfl)
    have hrow : c.world.store.row? t.key = some row := by
      have hagrees := h.serial.agrees j
      rw [hopened] at hagrees
      exact hagrees
    rw [hassigned.key] at hrow
    obtain ⟨final', hfinal, -, hcurrent⟩ := (h.exact hp.begins hp.nonneg).stored
    cases hstored.symm.trans hrow
    cases hstored.symm.trans hfinal
    -- The next counter is at most that of the last call.
    have hbound : final.nextValue < 10 ^ 252 := by
      have hlt := h.length_lt hp.nonneg (h.busy j hopen)
      have hmul := Int.mul_le_mul_of_nonneg_left (Int.add_one_le_of_lt hlt)
        (Int.le_trans Int.one_nonneg hp.begins.fresh.step)
      rw [Int.mul_add, Int.mul_one] at hmul
      unfold Sequence.nextValue
      rw [hcurrent, hrules.step]
      exact Int.lt_of_le_of_lt hmul hp.bound
    obtain ⟨done, hdone⟩ := hassigned.works hrules hvalid (hrules.endless hp.begins.endless)
      hp.pattern hp.padding hbound c.world.store.clock c.world.store.entries
    rw [hdone] at hwork
    cases hwork
  | refuse hready hreplace =>
    obtain ⟨s, hs⟩ := h.serial.accepted hp.begins.reachable hready
    rw [hs] at hreplace
    cases hreplace

/-- No worker has stopped before its calls were settled. -/
def Unbroken (c : Crew) : Prop := ∀ j, (c.worker j).failure = none

theorem unbroken_start (s : Store) (shares : List Int) : (start s shares).Unbroken := fun _ => rfl

theorem Unbroken.tell (h : c.Unbroken) (attempts : Int) (j : Nat)
    {outcome : Except Failure Issued} (houtcome : ∀ e, outcome = .error e → e.isRetryable = true)
    (k : Nat) : (c.tell attempts (some (j, outcome)) k).failure = none := by
  by_cases hk : k = j
  · subst hk
    rw [tell_self]
    unfold Worker.hear
    cases outcome with
    | ok issued => exact h k
    | error e =>
      dsimp only
      rw [if_pos (houtcome e rfl)]
      split <;> exact h k
  · rw [tell_ne _ _ _ hk]
    exact h k

theorem Unbroken.move (hunbroken : c.Unbroken) (h : c.Sound p s₀ p.issuer.Shows (share shares))
    (hp : Supplied p s₀ shares) {m : Move} (hmove : c.move p m = some c') : c'.Unbroken := by
  cases step_of_move hmove with
  | begin hbusy hidle hprepare => exact hunbroken
  | @reject j failure hbusy hidle hprepare =>
    -- The pattern was found valid when the sequence was made.
    obtain ⟨t, ht⟩ := hp.checked
    have hprepare : (p.issuer.checkedTemplate p.handle.pattern >>= _) = .error failure := hprepare
    rw [ht] at hprepare
    cases hprepare
  | goOn hopen hafter htask hclock => exact hunbroken
  | @fail j after failure hopen hafter htask hfails =>
    refine hunbroken.tell p.attempts j ?_
    rintro e ⟨⟩
    exact h.retryable hp hopen hfails
  | @commit j lock t clock row done s hready hreplace =>
    obtain ⟨issued, hanswer⟩ := h.told hready
    rw [hanswer]
    exact hunbroken.tell p.attempts j nofun
  | close hclosed hafter htask hclock => exact hunbroken
  | tick hclock => exact hunbroken

/-- As long as the clock can be shown, no worker stops. -/
theorem unbroken_of_run (hp : Supplied p s₀ shares) (hclock : p.issuer.Shows s₀.clock)
    {moves : List Move} (hticks : ∀ clock, .act (.tick clock) ∈ moves → p.issuer.Shows clock)
    (hrun : (start s₀ shares).run p moves = some c) : c.Unbroken := by
  have hboth : c.Sound p s₀ p.issuer.Shows (share shares) ∧ c.Unbroken := by
    refine run_induction (P := fun c => c.Sound p s₀ p.issuer.Shows (share shares) ∧ c.Unbroken) ?_
      ⟨sound_start p hclock shares, unbroken_start s₀ shares⟩ hrun
    rintro c m c' hm ⟨hsound, hunbroken⟩ hmove
    refine ⟨hsound.move hp.begins.reachable ?_ hmove, hunbroken.move hsound hp hmove⟩
    rintro clock rfl
    exact hticks clock hm
  exact hboth.2

end Crew

end Contention

end SerialNumbers
