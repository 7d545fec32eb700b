/-
  SerialNumbers.Proofs.Seeding

  Seeding a tenant.  A row that keeps the rules of its fields can always take the
  configuration of a seed that is accepted (`Sequence.changed_of_describes`), so
  that no seed fails; what one seed does to the store is told once
  (`Seed.plant_planted`), and what a list of seeds does follows by induction
  (`Seed.plantAll_seeded`).  Main statement: seeding brings the configuration of
  every seeded name to that of its last seed and leaves all else, and seeding
  again changes versions and times of change only
  (`Store.Regular.seedTenant_idempotent`).
-/
import SerialNumbers.Proofs.Store.Valid
import SerialNumbers.Seeding

namespace SerialNumbers

open Time

/-! ## Values that follow their rules -/

namespace Rule

theorem textOf_text {least : Nat} {most : Option Nat} {s : String} (hleast : least ≤ s.length)
    (hmost : ∀ n ∈ most, s.length ≤ n) : textOf least most (.text s) = .ok s := by
  have hlong : (most.map fun most => decide (most < s.length)).getD false = false := by
    cases most with
    | none => rfl
    | some n => exact decide_eq_false (Nat.not_lt.mpr (hmost n rfl))
  simp [textOf, text, Nat.not_lt.mpr hleast, hlong, bind, Except.bind, pure, Except.pure]

theorem within_of_whole {least most n : Int} {v : Value} (h : whole v = .ok n)
    (hleast : least ≤ n) (hmost : n ≤ most) : within least most v = .ok n := by
  simp [within, h, Int.not_lt.mpr hleast, Int.not_lt.mpr hmost, bind, Except.bind, pure,
    Except.pure]

theorem whole_of_within {least most n : Int} {v : Value} (h : within least most v = .ok n) :
    whole v = .ok n := by
  unfold within at h
  obtain ⟨m, hm, h⟩ := Except.bind_eq_ok.mp h
  by_cases hmost : most < m
  · simp only [hmost, if_true] at h
    cases h
  · by_cases hleast : m < least
    · simp only [hmost, hleast, if_true, if_false] at h
      cases h
    · simp only [hmost, hleast, if_false] at h
      cases h
      exact hm

theorem optional_above {bound : Int} {n : Option Int} (h : ∀ m ∈ n, bound < m) :
    optional (above bound) (Sequence.wholeOrNone n) = .ok n := by
  cases n with
  | none => rfl
  | some m =>
    have habove : above bound (.whole m) = .ok m := if_pos (h m rfl)
    show some <$> above bound (.whole m) = .ok (some m)
    rw [habove]
    rfl

theorem listed_period (p : Period) : listed Period.named? (.text p.name) = .ok p := by
  cases p <;> rfl

theorem eq_of_listed_period {v : Value} {p : Period} (h : listed Period.named? v = .ok p) :
    v = .text p.name := by
  cases v with
  | text s =>
    change (Period.named? s).elim (.error Problem.Kind.notListed) .ok = Except.ok p at h
    cases hs : Period.named? s with
    | none =>
      rw [hs] at h
      cases h
    | some q =>
      rw [hs] at h
      cases h
      have hname := List.find?_some hs
      rw [beq_iff_eq] at hname
      rw [hname]
  | _ => cases h

theorem eq_of_textOf {least : Nat} {most : Option Nat} {v : Value} {s : String}
    (h : textOf least most v = .ok s) : v = .text s := by
  cases v with
  | text t => rw [textOf_eq_ok h]
  | _ => cases h

end Rule

/-- A sequence whose fields can all be read is read. -/
theorem Sequence.ReadFrom.ofFields {f : Fields} {now : Moment} {s : Sequence}
    (h : s.ReadFrom f now) : Sequence.ofFields now f = .ok s := by
  unfold Sequence.ofFields
  rw [h.id, h.tenant, h.name, h.pattern, h.period, h.limit, h.padding, h.step, h.current,
    h.lastResetAt, h.version, h.metadata, h.createdAt, h.updatedAt]
  rfl

/-! ## What a seed asks for -/

namespace Seed

variable {tenant : String} {seed : Seed}

/-- The fields of the sequence that a seed asks for. -/
def fields (tenant : String) (seed : Seed) : Fields :=
  Table.ofList ([("tenant_id", .text tenant), ("sequence_name", .text seed.name)] ++
    seed.configuration)

/-- A sequence can be read from the fields of the seed. -/
def Accepted (tenant : String) (seed : Seed) : Prop :=
  ∃ now asked, Sequence.ofFields now (seed.fields tenant) = .ok asked

/-- The row has the pattern, the period, the padding and the metadata of the seed. -/
structure Describes (seed : Seed) (row : Sequence) : Prop where
  pattern : seed.pattern = .text row.pattern
  period : seed.period = .text row.period.name
  padding : Rule.whole seed.padding = .ok row.padding
  metadata : seed.metadata = row.metadata

/-- The sequence that a seed asks for is a valid one of its configuration, which has an id as
    soon as it is put into a store. -/
theorem describes_of_fields {now : Moment} {asked : Sequence}
    (h : Sequence.ofFields now (seed.fields tenant) = .ok asked) :
    asked.Valid ∧ asked.key = (tenant, seed.name) ∧ seed.Describes asked := by
  have hread := Sequence.ofFields_eq_ok h
  refine ⟨hread.valid, ?_, ?_⟩
  · have htenant := hread.tenant
    have hname := hread.name
    simp [Fields.require_eq_ok, fields, configuration, Table.get?_ofList, List.lookup_cons]
      at htenant hname
    exact Prod.ext (Rule.textOf_eq_ok htenant) (Rule.textOf_eq_ok hname)
  · have hpattern := hread.pattern
    have hperiod := hread.period
    have hpadding := hread.padding
    have hmetadata := hread.metadata
    simp [Fields.require_eq_ok, Fields.get_eq_ok, fields, configuration, Table.get?_ofList,
      List.lookup_cons] at hpattern hperiod hpadding hmetadata
    exact ⟨Rule.eq_of_textOf hpattern, Rule.eq_of_listed_period hperiod,
      Rule.whole_of_within hpadding, Except.ok.inj hmetadata⟩

/-- Whether a seed is accepted does not depend on the clock. -/
theorem Accepted.ofFields (h : seed.Accepted tenant) (clock : Moment) :
    ∃ asked, Sequence.ofFields clock (seed.fields tenant) = .ok asked := by
  obtain ⟨now, asked, h⟩ := h
  have hread := Sequence.ofFields_eq_ok h
  have hcreated : (seed.fields tenant).get? "created_at" = none := by
    simp [fields, configuration, Table.get?_ofList, List.lookup_cons]
  have hupdated : (seed.fields tenant).get? "updated_at" = none := by
    simp [fields, configuration, Table.get?_ofList, List.lookup_cons]
  refine ⟨{ asked with createdAt := clock, updatedAt := clock }, Sequence.ReadFrom.ofFields ?_⟩
  exact ⟨hread.id, hread.tenant, hread.name, hread.pattern, hread.period, hread.limit,
    hread.padding, hread.step, hread.current, hread.lastResetAt, hread.version, hread.metadata,
    Fields.get_eq_ok.mpr (.inl ⟨hcreated, rfl⟩), Fields.get_eq_ok.mpr (.inl ⟨hupdated, rfl⟩)⟩

end Seed

/-- A valid row takes the configuration of a seed, and keeps what the seed does not ask for. -/
theorem Sequence.changed_of_describes {seed : Seed} {row asked : Sequence} (hrow : row.Valid)
    (hasked : asked.Valid) (h : seed.Describes asked) (now : Moment) :
    row.changed seed.configuration now = .ok
      { row with pattern := asked.pattern, period := asked.period, padding := asked.padding,
                 metadata := asked.metadata, version := row.version + 1, updatedAt := now } := by
  have hid : Rule.optional Rule.whole (wholeOrNone row.id) = .ok row.id := by
    cases row.id <;> rfl
  have hlast : Rule.optional Rule.moment (momentOrNone row.lastResetAt) = .ok row.lastResetAt := by
    cases row.lastResetAt <;> rfl
  have htenant : Rule.textOf 1 none (.text row.tenant) = .ok row.tenant :=
    Rule.textOf_text hrow.tenant nofun
  have hname : Rule.textOf 1 (some maxName) (.text row.name) = .ok row.name :=
    Rule.textOf_text hrow.name.1 (by rintro n ⟨⟩; exact hrow.name.2)
  have hpattern :
      Rule.textOf 1 (some Pattern.maxLength) (.text asked.pattern) = .ok asked.pattern :=
    Rule.textOf_text hasked.pattern.1 (by rintro n ⟨⟩; exact hasked.pattern.2)
  have hpadding : Rule.within 0 maxPadding seed.padding = .ok asked.padding :=
    Rule.within_of_whole h.padding hasked.padding.1 hasked.padding.2
  have hversion : 0 ≤ row.version + 1 := by
    have hnonneg := hrow.version
    omega
  -- A seed names no fixed field, so what is left is to read every field again.
  unfold Sequence.changed
  refine Sequence.ReadFrom.ofFields ⟨?_, ?_, ?_, ?_, ?_, ?_, ?_, ?_, ?_, ?_, ?_, ?_, ?_, ?_⟩ <;>
    simp [Fields.require_eq_ok, Fields.get_eq_ok, Seed.configuration, toFields, Table.get?_ofList,
      List.lookup_cons, hid, hlast, htenant, hname, hpattern, hpadding, h.pattern, h.period,
      h.metadata, Rule.asText, Rule.record, Rule.moment, Rule.listed_period,
      Rule.optional_above hrow.limit, Rule.atLeast_of_le hrow.step, Rule.atLeast_of_le hrow.current,
      Rule.atLeast_of_le hversion]

/-! ## One seed -/

/-- The same sequence with the same count: all that no seed asks for, but for the version and the
    time of the last change. -/
structure Sequence.SameCount (row row' : Sequence) : Prop where
  identity : row.SameIdentity row'
  current : row'.current = row.current
  lastResetAt : row'.lastResetAt = row.lastResetAt
  step : row'.step = row.step
  limit : row'.limit = row.limit

namespace Sequence

theorem SameCount.refl (row : Sequence) : row.SameCount row :=
  ⟨row.sameIdentity_refl, rfl, rfl, rfl, rfl⟩

theorem SameCount.trans {a b c : Sequence} (h : a.SameCount b) (h' : b.SameCount c) :
    a.SameCount c :=
  ⟨h.identity.trans h'.identity, h'.current.trans h.current, h'.lastResetAt.trans h.lastResetAt,
    h'.step.trans h.step, h'.limit.trans h.limit⟩

end Sequence

namespace Store

variable {s : Store}

/-- A sequence is made in a free place. -/
theorem create_of_free (hmemory : s.backing = .memory) {row : Sequence}
    (hfree : s.row? row.key = none) :
    (Store.create row s).1 = .ok (Operation.stored s row) ∧
      s.Changed row.key (some (Operation.stored s row)) [] 1 (Store.create row s).2 := by
  have hmade : (Store.create row s).1 = .ok (Operation.stored s row) := by
    unfold Store.create
    simp only [StoreM.bind_apply, connect_memory hmemory, StoreM.attempt_apply]
    unfold insertRow
    rw [hfree]
    rfl
  rcases Operation.insert_cases row s with ⟨failure, herror, -⟩ | ⟨-, -, hchanged⟩
  · rw [hmade] at herror
    cases herror
  · exact ⟨hmade, hchanged⟩

/-- A change that the row takes is made when no lock is held. -/
theorem update_of_changed (hmemory : s.backing = .memory) (hfree : s.held = []) {key : Key}
    {row updated : Sequence} (hrow : s.row? key = some row) (hkey : row.key = key)
    {changes : List (String × Value)} (hchanged : row.changed changes s.clock = .ok updated) :
    (Store.update key none changes s).1 = .ok updated ∧
      s.Changed key (some updated) [] 0 (Store.update key none changes s).2 := by
  have i : Issuer := ⟨.empty, .utc⟩
  have hwork : Edit.updateWork key none changes s.clock s.entries row =
      .ok ⟨updated, [], .row updated⟩ := by
    unfold Edit.updateWork
    dsimp only
    rw [hchanged]
    rfl
  obtain ⟨hanswer, hsettled⟩ := Edit.run_eq_ok (i := i) (e := .update key none changes) hmemory
    (isBusy_of_free hfree key) hrow hkey rfl hwork
  have hrun : (Edit.update key none changes).run i s =
      ((Store.update key none changes s).1.map .row, (Store.update key none changes s).2) :=
    StoreM.map_apply _ _ s
  rw [hrun] at hanswer hsettled
  refine ⟨?_, hkey ▸ hsettled⟩
  cases hupdate : (Store.update key none changes s).1 with
  | error e =>
    rw [hupdate] at hanswer
    cases hanswer
  | ok row' =>
    rw [hupdate] at hanswer
    cases hanswer
    rfl

end Store

namespace Seed

variable {tenant : String} {seed : Seed} {s s' : Store}

/-- What a seed does to a store: its place holds a row of its configuration, the one that was there
    with its count or a new one, and all else is as it was. -/
structure Planted (tenant : String) (seed : Seed) (s : Store) (row : Sequence) (made : Nat)
    (s' : Store) : Prop where
  changed : s.Changed (tenant, seed.name) (some row) [] made s'
  fits : s.Fits (tenant, seed.name) (some row) made
  describes : seed.Describes row
  valid : row.Valid
  kept : ∀ old, s.row? (tenant, seed.name) = some old → old.SameCount row ∧ made = 0

theorem plant_apply (hmemory : s.backing = .memory) :
    seed.plant tenant s = match s.row? (tenant, seed.name) with
      | none => match Sequence.ofFields s.clock (seed.fields tenant) with
        | .error e => (.error e, s)
        | .ok asked => ((Store.create asked s).1.map fun _ => .created, (Store.create asked s).2)
      | some _ =>
        ((Store.update (tenant, seed.name) none seed.configuration s).1.map fun _ => .updated,
          (Store.update (tenant, seed.name) none seed.configuration s).2) := by
  unfold plant Store.find fields
  simp only [StoreM.bind_apply, Store.connect_memory hmemory, StoreM.get_apply, StoreM.pure_apply]
  cases s.row? (tenant, seed.name) with
  | none =>
    simp only [StoreM.bind_apply, StoreM.get_apply, StoreM.ofExcept_apply]
    rcases Sequence.ofFields s.clock _ with e | asked
    · rfl
    · dsimp only
      rcases Store.create asked s with ⟨_ | _, _⟩ <;> rfl
  | some old =>
    dsimp only
    rw [StoreM.bind_apply]
    rcases Store.update (tenant, seed.name) none seed.configuration s with ⟨_ | _, _⟩ <;> rfl

/-- An accepted seed is planted. -/
theorem plant_planted (hs : s.Sound) (hvalid : s.RowsValid) (haccepted : seed.Accepted tenant) :
    ∃ outcome row made, (seed.plant tenant s).1 = .ok outcome ∧
      Planted tenant seed s row made (seed.plant tenant s).2 := by
  obtain ⟨asked, hasked⟩ := haccepted.ofFields s.clock
  obtain ⟨haskedValid, hkey, hdescribes⟩ := describes_of_fields hasked
  rw [plant_apply hs.memory]
  cases hrow : s.row? (tenant, seed.name) with
  | none =>
    dsimp only
    rw [hasked]
    dsimp only
    obtain ⟨hmade, hchanged⟩ := Store.create_of_free hs.memory (hkey ▸ hrow)
    rw [hkey] at hchanged
    refine ⟨.created, Operation.stored s asked, 1, by rw [hmade]; rfl, hchanged,
      .made hrow hkey rfl, ?_, haskedValid.stored s, ?_⟩
    · exact ⟨hdescribes.pattern, hdescribes.period, hdescribes.padding, hdescribes.metadata⟩
    · intro old hold
      rw [hrow] at hold
      cases hold
  | some old =>
    dsimp only
    have htaken := Sequence.changed_of_describes (hvalid hrow) haskedValid hdescribes s.clock
    obtain ⟨hupdated, hchanged⟩ :=
      Store.update_of_changed hs.memory hs.free hrow (hs.rows.keyed hrow) htaken
    refine ⟨.updated, _, 0, by rw [hupdated]; rfl, hchanged, .kept hrow ⟨rfl, rfl, rfl, rfl⟩, ?_,
      Sequence.valid_of_changed htaken, ?_⟩
    · exact ⟨hdescribes.pattern, hdescribes.period, hdescribes.padding, hdescribes.metadata⟩
    · intro old' hold
      rw [hrow] at hold
      cases hold
      exact ⟨⟨⟨rfl, rfl, rfl, rfl⟩, rfl, rfl, rfl, rfl⟩, rfl⟩

namespace Planted

variable {row : Sequence} {made : Nat}

theorem sound (h : Planted tenant seed s row made s') (hs : s.Sound) : s'.Sound :=
  hs.changed h.changed h.fits

theorem rowsValid (h : Planted tenant seed s row made s') (hvalid : s.RowsValid) : s'.RowsValid :=
  hvalid.changed h.changed (by rintro r ⟨⟩; exact h.valid)

theorem row?_self (h : Planted tenant seed s row made s') :
    s'.row? (tenant, seed.name) = some row := by
  rw [h.changed.row?, if_pos (beq_self_eq_true _)]

theorem row?_other (h : Planted tenant seed s row made s') {key : Key}
    (hkey : key ≠ (tenant, seed.name)) : s'.row? key = s.row? key := by
  rw [h.changed.row?, if_neg (by rwa [beq_iff_eq])]

/-- No row is taken out, and none loses its count. -/
theorem sameCount (h : Planted tenant seed s row made s') {key : Key} {old : Sequence}
    (hold : s.row? key = some old) : ∃ new, s'.row? key = some new ∧ old.SameCount new := by
  by_cases hkey : key = (tenant, seed.name)
  · subst hkey
    exact ⟨row, h.row?_self, (h.kept old hold).1⟩
  · exact ⟨old, (h.row?_other hkey).trans hold, .refl old⟩

end Planted

end Seed

/-! ## A list of seeds -/

namespace Seed

variable {tenant : String} {seeds : List Seed} {s s' : Store}

/-- What a list of seeds does to a store. -/
structure Seeded (tenant : String) (seeds : List Seed) (s s' : Store) : Prop where
  /-- A seeded name has a row with the configuration of the last seed of the name. -/
  configured : ∀ before last after, seeds = before ++ last :: after →
    (∀ seed ∈ after, seed.name ≠ last.name) →
      ∃ row, s'.row? (tenant, last.name) = some row ∧ last.Describes row
  /-- No row is taken out, and none loses its count. -/
  kept : ∀ key old, s.row? key = some old → ∃ row, s'.row? key = some row ∧ old.SameCount row
  /-- The places of other keys are as they were. -/
  others : ∀ key, (∀ seed ∈ seeds, key ≠ (tenant, seed.name)) → s'.row? key = s.row? key
  entries : s'.entries = s.entries
  nextEntryId : s'.nextEntryId = s.nextEntryId
  /-- Where every name had its row, no id was given out. -/
  nextId : (∀ seed ∈ seeds, (s.row? (tenant, seed.name)).isSome = true) → s'.nextId = s.nextId

/-- After one seed and then others, all of them are done. -/
theorem Planted.seeded {seed : Seed} {rest : List Seed} {s₁ : Store} {row : Sequence} {made : Nat}
    (h : Planted tenant seed s row made s₁) (hrest : Seeded tenant rest s₁ s') :
    Seeded tenant (seed :: rest) s s' := by
  refine ⟨?_, ?_, ?_, ?_, ?_, ?_⟩
  · intro before last after hseeds hlast
    cases before with
    | nil =>
      -- No later seed has the name, so the row stays as this seed has left it.
      cases hseeds
      refine ⟨row, ?_, h.describes⟩
      rw [hrest.others _ fun later hlater hkey => hlast later hlater (Prod.ext_iff.mp hkey).2.symm]
      exact h.row?_self
    | cons first before =>
      cases hseeds
      exact hrest.configured before last after rfl hlast
  · intro key old hold
    obtain ⟨mid, hmid, hcount⟩ := h.sameCount hold
    obtain ⟨new, hnew, hcount'⟩ := hrest.kept key mid hmid
    exact ⟨new, hnew, hcount.trans hcount'⟩
  · intro key hkey
    obtain ⟨hfirst, hlater⟩ := List.forall_mem_cons.mp hkey
    rw [hrest.others key hlater, h.row?_other hfirst]
  · rw [hrest.entries, h.changed.entries]
    exact List.append_nil _
  · rw [hrest.nextEntryId, h.changed.nextEntryId]
    exact Int.add_zero _
  · intro hthere
    obtain ⟨hfirst, hlater⟩ := List.forall_mem_cons.mp hthere
    obtain ⟨old, hold⟩ := Option.isSome_iff_exists.mp hfirst
    have hnext : s₁.nextId = s.nextId := by
      rw [h.changed.nextId, (h.kept old hold).2]
      exact Int.add_zero _
    refine (hrest.nextId fun seed' hseed' => ?_).trans hnext
    obtain ⟨old', hold'⟩ := Option.isSome_iff_exists.mp (hlater seed' hseed')
    obtain ⟨new, hnew, -⟩ := h.sameCount hold'
    rw [hnew]
    rfl

/-- Accepted seeds are all planted, in order. -/
theorem plantAll_seeded (hs : s.Sound) (hvalid : s.RowsValid)
    (haccepted : ∀ seed ∈ seeds, seed.Accepted tenant) (done : Table String Outcome) :
    (∃ answer, (plantAll tenant seeds done s).1 = .ok answer) ∧
      Seeded tenant seeds s (plantAll tenant seeds done s).2 ∧
      (plantAll tenant seeds done s).2.Sound ∧ (plantAll tenant seeds done s).2.RowsValid := by
  induction seeds generalizing s done with
  | nil =>
    refine ⟨⟨done, rfl⟩, ⟨?_, fun key old hold => ⟨old, hold, .refl old⟩, fun _ _ => rfl, rfl, rfl,
      fun _ => rfl⟩, hs, hvalid⟩
    intro before last after hseeds
    exact absurd hseeds.symm (List.append_ne_nil_of_right_ne_nil _ (List.cons_ne_nil _ _))
  | cons seed rest ih =>
    obtain ⟨hfirst, hlater⟩ := List.forall_mem_cons.mp haccepted
    obtain ⟨outcome, row, made, hanswer, hplanted⟩ := plant_planted hs hvalid hfirst
    have hrun : plantAll tenant (seed :: rest) done s =
        plantAll tenant rest (done.insert seed.name outcome) (seed.plant tenant s).2 := by
      show (seed.plant tenant >>= fun outcome => _) s = _
      rw [StoreM.bind_apply]
      rcases hplant : seed.plant tenant s with ⟨answer, s₁⟩
      rw [hplant] at hanswer
      cases hanswer
      rfl
    obtain ⟨hdone, hrest, hsound, hrows⟩ :=
      ih (hplanted.sound hs) (hplanted.rowsValid hvalid) hlater (done.insert seed.name outcome)
    rw [hrun]
    exact ⟨hdone, hplanted.seeded hrest, hsound, hrows⟩

/-! ## Seeding again -/

/-- A name that is seeded has a last seed. -/
theorem exists_last {name : String} (h : ∃ seed ∈ seeds, seed.name = name) :
    ∃ before last after, seeds = before ++ last :: after ∧ last.name = name ∧
      ∀ later ∈ after, later.name ≠ name := by
  induction seeds with
  | nil =>
    obtain ⟨seed, hmem, -⟩ := h
    exact absurd hmem List.not_mem_nil
  | cons first rest ih =>
    by_cases hlater : ∃ later ∈ rest, later.name = name
    · obtain ⟨before, last, after, hrest, hlast⟩ := ih hlater
      exact ⟨first :: before, last, after, congrArg (first :: ·) hrest, hlast⟩
    · obtain ⟨seed, hmem, hname⟩ := h
      rcases List.mem_cons.mp hmem with rfl | hmem
      · exact ⟨[], seed, rest, rfl, hname, fun later hmem hname => hlater ⟨later, hmem, hname⟩⟩
      · exact absurd ⟨seed, hmem, hname⟩ hlater

/-- There is one configuration that a seed describes. -/
theorem Describes.unique {seed : Seed} {row row' : Sequence} (h : seed.Describes row)
    (h' : seed.Describes row') : row'.pattern = row.pattern ∧ row'.period = row.period ∧
      row'.padding = row.padding ∧ row'.metadata = row.metadata := by
  have hperiod : Rule.listed Period.named? seed.period = .ok row.period := by
    rw [h.period]
    exact Rule.listed_period row.period
  rw [h'.period, Rule.listed_period] at hperiod
  exact ⟨Value.text.inj (h'.pattern.symm.trans h.pattern), Except.ok.inj hperiod,
    Except.ok.inj (h'.padding.symm.trans h.padding), h'.metadata.symm.trans h.metadata⟩

/-- A row with the same count and the same configuration differs in what every change changes. -/
theorem Describes.eq_of_sameCount {seed : Seed} {row row' : Sequence} (h : seed.Describes row)
    (h' : seed.Describes row') (hcount : row.SameCount row') :
    row' = { row with version := row'.version, updatedAt := row'.updatedAt } := by
  obtain ⟨hpattern, hperiod, hpadding, hmetadata⟩ := h.unique h'
  obtain ⟨⟨hid, htenant, hname, hcreated⟩, hcurrent, hlast, hstep, hlimit⟩ := hcount
  cases row'
  dsimp only at *
  rw [hpattern, hperiod, hpadding, hmetadata, hid, htenant, hname, hcreated, hcurrent, hlast, hstep,
    hlimit]

/-- What seeding again does to a store that has been seeded. -/
structure Refreshed (tenant : String) (seeds : List Seed) (s s' : Store) : Prop where
  /-- The rows of the seeded names differ in their versions and their times of change only. -/
  rows : ∀ seed ∈ seeds, ∃ row row', s.row? (tenant, seed.name) = some row ∧
    s'.row? (tenant, seed.name) = some row' ∧
      row' = { row with version := row'.version, updatedAt := row'.updatedAt }
  others : ∀ key, (∀ seed ∈ seeds, key ≠ (tenant, seed.name)) → s'.row? key = s.row? key
  entries : s'.entries = s.entries
  nextEntryId : s'.nextEntryId = s.nextEntryId
  nextId : s'.nextId = s.nextId

/-- The time at which seeding begins is no matter. -/
theorem Seeded.of_clock {clock : Moment} (h : Seeded tenant seeds { s with clock } s') :
    Seeded tenant seeds s s' :=
  ⟨h.configured, h.kept, h.others, h.entries, h.nextEntryId, h.nextId⟩

theorem Seeded.refreshed {s'' : Store} (h : Seeded tenant seeds s s')
    (hagain : Seeded tenant seeds s' s'') : Refreshed tenant seeds s' s'' := by
  have hthere (seed : Seed) (hseed : seed ∈ seeds) : ∃ (last : Seed) (row row' : Sequence),
      s'.row? (tenant, seed.name) = some row ∧ s''.row? (tenant, seed.name) = some row' ∧
        last.Describes row ∧ last.Describes row' := by
    obtain ⟨before, last, after, hseeds, hname, hlast⟩ := exists_last ⟨seed, hseed, rfl⟩
    rw [← hname] at hlast ⊢
    obtain ⟨row, hrow, hdescribes⟩ := h.configured before last after hseeds hlast
    obtain ⟨row', hrow', hdescribes'⟩ := hagain.configured before last after hseeds hlast
    exact ⟨last, row, row', hrow, hrow', hdescribes, hdescribes'⟩
  refine ⟨fun seed hseed => ?_, hagain.others, hagain.entries, hagain.nextEntryId,
    hagain.nextId fun seed hseed => ?_⟩
  · obtain ⟨last, row, row', hrow, hrow', hdescribes, hdescribes'⟩ := hthere seed hseed
    obtain ⟨again, hkept, hcount⟩ := hagain.kept _ row hrow
    rw [hrow'] at hkept
    cases hkept
    exact ⟨row, row', hrow, hrow', hdescribes.eq_of_sameCount hdescribes' hcount⟩
  · obtain ⟨last, row, row', hrow, -⟩ := hthere seed hseed
    rw [hrow]
    rfl

end Seed

/-- In every store that is reached with valid rows and no lock held, a list of accepted seeds is
    planted: every seeded name gets the configuration of its last seed, and all rows keep their
    identity and their count.  Doing it again, at any time, changes versions and times of change of
    the seeded rows and nothing else. -/
theorem Store.Regular.seedTenant_idempotent {s : Store} (h : s.Regular) {tenant : String}
    {seeds : List Seed} (hseeds : seeds ≠ [])
    (haccepted : ∀ seed ∈ seeds, seed.Accepted tenant) (clock : Moment) :
    ∃ answer again s' s'', seedTenant tenant seeds s = (.ok answer, s') ∧
      Seed.Seeded tenant seeds s s' ∧
      seedTenant tenant seeds { s' with clock } = (.ok again, s'') ∧
      Seed.Refreshed tenant seeds s' s'' := by
  have hrun : seedTenant tenant seeds = Seed.plantAll tenant seeds .empty := by
    unfold seedTenant
    rw [if_neg (by rwa [List.isEmpty_iff])]
  rw [hrun]
  obtain ⟨⟨answer, hanswer⟩, hseeded, hsound, hvalid⟩ :=
    Seed.plantAll_seeded h.reachable.sound h.valid haccepted .empty
  have hclock : (Seed.plantAll tenant seeds .empty s).2.SameRecords
      { (Seed.plantAll tenant seeds .empty s).2 with clock } := ⟨rfl, rfl, rfl, rfl, rfl, rfl⟩
  obtain ⟨⟨again, hagain⟩, hreseeded, -⟩ :=
    Seed.plantAll_seeded (hsound.of_sameRecords hclock) hvalid haccepted .empty
  exact ⟨answer, again, _, _, Prod.ext hanswer rfl, hseeded, Prod.ext hagain rfl,
    hseeded.refreshed hreseeded.of_clock⟩

/-- A row that has counted is seeded twice in one list.  It takes the later configuration, keeps its
    count, and is the same after seeding again but for version and time of change. -/
theorem Store.Regular.seedTenant_idempotent_invoices :
    let morning : Moment := ⟨Moment.midnight ⟨2024, 1, 5⟩, none, false⟩
    let evening : Moment := ⟨Moment.midnight ⟨2024, 1, 6⟩, none, false⟩
    let row : Sequence := ⟨none, "acme", "invoices", "OLD-\x7bCOUNTER\x7d", .never, none, 3, 2, 40,
      none, 7, [], morning, morning⟩
    let seeds := [Seed.described "invoices" "INV-\x7bCOUNTER\x7d" .daily 4 "Invoices",
      Seed.described "receipts" "RCP-\x7bCOUNTER\x7d" .never 4 "Receipts",
      Seed.described "invoices" "I-\x7bYEAR\x7d-\x7bCOUNTER\x7d" .yearly 6 "Invoices"]
    let s := ((Operation.insert row).run ⟨.empty, .utc⟩ (.new .memory 5000 morning)).2
    s.Regular ∧ (∀ seed ∈ seeds, seed.Accepted "acme") ∧
      ∃ (s' s'' : Store) (seeded again : Sequence),
        (seedTenant "acme" seeds s).2 = s' ∧
        (seedTenant "acme" seeds { s' with clock := evening }).2 = s'' ∧
        s'.row? ("acme", "invoices") = some seeded ∧ seeded.current = 40 ∧
        seeded.pattern = "I-\x7bYEAR\x7d-\x7bCOUNTER\x7d" ∧
        s''.row? ("acme", "invoices") = some again ∧
        again = { seeded with version := again.version, updatedAt := again.updatedAt } := by
  intro morning evening row seeds s
  have hvalid : row.Valid := ⟨by decide, by decide, by decide, nofun, by decide, by decide,
    by decide, by decide⟩
  have hinsert : (Operation.insert row).IsRegular := hvalid
  have hregular : s.Regular := .run ⟨.empty, .utc⟩ hinsert (.new 5000 morning)
  have haccepted : ∀ seed ∈ seeds, seed.Accepted "acme" := by
    have hread : ∀ seed ∈ seeds,
        (Sequence.ofFields morning (seed.fields "acme")).toOption.isSome = true := by
      decide +kernel
    intro seed hseed
    obtain ⟨asked, hasked⟩ := Option.isSome_iff_exists.mp (hread seed hseed)
    exact ⟨morning, asked, Except.eq_ok_of_toOption hasked⟩
  have hrow :
      s.row? ("acme", "invoices") = some (Operation.stored (.new .memory 5000 morning) row) := rfl
  obtain ⟨_, _, s', s'', hfirst, hseeded, hsecond, hrefreshed⟩ :=
    hregular.seedTenant_idempotent (List.cons_ne_nil _ _) haccepted evening
  obtain ⟨seeded, again, hthere, hagain, hsame⟩ := hrefreshed.rows _ List.mem_cons_self
  refine ⟨hregular, haccepted, s', s'', seeded, again, congrArg Prod.snd hfirst,
    congrArg Prod.snd hsecond, hthere, ?_, ?_, hagain, hsame⟩
  · obtain ⟨kept, hkept, hcount⟩ := hseeded.kept _ _ hrow
    cases hthere.symm.trans hkept
    exact hcount.current
  · obtain ⟨taken, htaken, hdescribes⟩ :=
      hseeded.configured (seeds.take 2) _ [] rfl (List.forall_mem_nil _)
    cases hthere.symm.trans htaken
    exact (Value.text.inj hdescribes.pattern).symm

end SerialNumbers
