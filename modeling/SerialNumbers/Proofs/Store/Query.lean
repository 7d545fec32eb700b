/-
  SerialNumbers.Proofs.Store.Query

  What is found in a log.  A filter that suits a log never fails on it, and it
  keeps the entries that pass all that it asks for (`LogFilter.accepts_eq`).
  These are sorted by their moments, and by their numbers where moments are the
  same.  Main statement: when the moments of these entries can be compared, as
  many of them are found as are asked for (`LogFilter.apply_found`), and they
  are the newest ones, the newest first, when the moments can be lined up
  (`LogFilter.sorted_mergeSort`), or when the log has them in the order of their
  age (`LogFilter.sorted_mergeSort_of_ordered`).
-/
import Mathlib.Data.List.Pairwise
import SerialNumbers.Proofs.Store.Action
import SerialNumbers.Proofs.Time.Order

namespace SerialNumbers

open Time

/-! ## Passing a filter -/

namespace LogFilter

/-- The entry is as each part of the filter that is given wants it. -/
def Passes (f : LogFilter) (e : LogEntry) : Prop :=
  (∀ id ∈ f.sequenceId, e.sequenceId = id) ∧
  (∀ wanted ∈ f.action, (Action.ofValue wanted).toOption = some e.action) ∧
  (∀ causer ∈ f.causer, causer.shown.toOption.map some = some e.causer) ∧
  (∀ number ∈ f.number, e.number = number) ∧
  (∀ counter ∈ f.counter, e.counter = counter) ∧
  (∀ since ∈ f.since, e.createdAt.order? since ≠ some .lt) ∧
  (∀ upTo ∈ f.upTo, upTo.order? e.createdAt ≠ some .lt)

instance (f : LogFilter) (e : LogEntry) : Decidable (f.Passes e) :=
  inferInstanceAs (Decidable (_ ∧ _ ∧ _ ∧ _ ∧ _ ∧ _ ∧ _))

/-- The filter can be used on a log: its action is one that there is, its causer can be shown, and
    its bounds can be compared with the moments of the entries. -/
structure Suits (f : LogFilter) (log : List LogEntry) : Prop where
  action : ∀ wanted ∈ f.action, ∃ action, Action.ofValue wanted = .ok action
  causer : ∀ causer ∈ f.causer, ∃ text, causer.shown = .ok text
  since : ∀ since ∈ f.since, ∀ e ∈ log, e.createdAt.comparable since = true
  upTo : ∀ upTo ∈ f.upTo, ∀ e ∈ log, upTo.comparable e.createdAt = true

theorem isBefore_eq {a b : Moment} (h : a.comparable b = true) :
    isBefore a b = .ok (decide (a.order? b = some .lt)) := by
  unfold isBefore Moment.order?
  rw [h]
  split
  · rename_i order horder
    rw [horder]
    cases order <;> rfl
  · rename_i horder
    split at horder
    · contradiction
    · split at horder <;> contradiction

variable {f : LogFilter} {log : List LogEntry} {e : LogEntry}

theorem ifGiven_eq {α : Type} (wanted : Option α) (test : α → Bool) :
    ifGiven wanted test = decide (∀ a ∈ wanted, test a = true) := by
  cases wanted with
  | none => simp [ifGiven]
  | some a => simp [ifGiven]

theorem matchesAction_eq (h : f.Suits log) (e : LogEntry) : f.matchesAction e =
    .ok (decide (∀ wanted ∈ f.action, (Action.ofValue wanted).toOption = some e.action)) := by
  unfold matchesAction
  cases hwanted : f.action with
  | none => simp
  | some wanted =>
    obtain ⟨action, haction⟩ := h.action wanted hwanted
    dsimp only
    rw [haction, Except.ok_bind]
    show Except.ok (decide (action = e.action)) = _
    simp [haction, Except.toOption]

theorem matchesCauser_eq (h : f.Suits log) (e : LogEntry) : f.matchesCauser e =
    .ok (decide (∀ causer ∈ f.causer, causer.shown.toOption.map some = some e.causer)) := by
  unfold matchesCauser
  cases hwanted : f.causer with
  | none => simp
  | some wanted =>
    obtain ⟨text, htext⟩ := h.causer wanted hwanted
    dsimp only
    rw [htext, Except.ok_bind]
    have hsame : (e.causer == some text) = decide (e.causer = some text) := by
      rw [Bool.eq_iff_iff, beq_iff_eq, decide_eq_true_iff]
    simp [htext, Except.toOption, pure, Except.pure, eq_comm, hsame]

theorem matchesTime_eq (h : f.Suits log) (he : e ∈ log) : f.matchesTime e =
    .ok (decide ((∀ since ∈ f.since, e.createdAt.order? since ≠ some .lt) ∧
      ∀ upTo ∈ f.upTo, upTo.order? e.createdAt ≠ some .lt)) := by
  unfold matchesTime
  cases hsince : f.since with
  | none =>
    cases hupTo : f.upTo with
    | none => simp [pure, Except.pure, Except.ok_bind]
    | some upTo =>
      simp [isBefore_eq (h.upTo upTo hupTo e he), pure, Except.pure, Except.ok_bind]
  | some since =>
    dsimp only
    rw [isBefore_eq (h.since since hsince e he)]
    by_cases hearly : e.createdAt.order? since = some .lt
    · simp [hearly, pure, Except.pure, Except.ok_bind]
    · cases hupTo : f.upTo with
      | none => simp [hearly, pure, Except.pure, Except.ok_bind]
      | some upTo =>
        simp [hearly, isBefore_eq (h.upTo upTo hupTo e he), pure, Except.pure, Except.ok_bind]

/-- Two tests, of which the second is made when the first was passed. -/
theorem ok_and (p q : Prop) [Decidable p] [Decidable q] :
    (if (!decide p) = true then Except.ok false else Except.ok (decide q) : Except Failure Bool) =
      .ok (decide (p ∧ q)) := by
  by_cases hp : p <;> simp [hp]

/-- A filter that suits the log keeps the entries that pass it. -/
theorem accepts_eq (h : f.Suits log) (he : e ∈ log) : f.accepts e = .ok (decide (f.Passes e)) := by
  unfold accepts
  rw [matchesAction_eq h e, matchesCauser_eq h e, matchesTime_eq h he]
  simp only [ifGiven_eq, Except.ok_bind, pure, Except.pure, ok_and]
  congr 1
  rw [decide_eq_decide]
  simp only [beq_iff_eq]
  simp only [Passes, eq_comm]

end LogFilter

/-- Choosing by a test that does not fail is choosing by its outcomes. -/
theorem filterM_eq_filter {α : Type} {p : α → Except Failure Bool} {q : α → Bool} {l : List α}
    (h : ∀ a ∈ l, p a = .ok (q a)) : l.filterM p = .ok (l.filter q) := by
  have haux (acc : List α) : l.filterAuxM p acc = .ok ((l.filter q).reverse ++ acc) := by
    induction l generalizing acc with
    | nil => rfl
    | cons a rest ih =>
      unfold List.filterAuxM
      rw [h a List.mem_cons_self, Except.ok_bind, ih fun b hb => h b (List.mem_cons_of_mem a hb)]
      -- What is kept is put in front of what was kept before.
      cases hq : q a with
      | true => simp [hq]
      | false => simp [hq]
  unfold List.filterM
  rw [haux, Except.ok_bind, List.append_nil, List.reverse_reverse]
  rfl

/-! ## The order of entries -/

namespace LogEntry

/-- An entry is older than another: its moment is, or it is the same and its number is smaller. -/
def IsOlder (a b : LogEntry) : Prop :=
  a.createdAt.order? b.createdAt = some .lt ∨
    a.createdAt.order? b.createdAt = some .eq ∧ a.id.getD 0 < b.id.getD 0

instance (a b : LogEntry) : Decidable (a.IsOlder b) :=
  inferInstanceAs (Decidable (_ ∨ _ ∧ _))

/-- Of two entries not both are older than the other. -/
theorem IsOlder.asymm {a b : LogEntry} (h : a.IsOlder b) : ¬b.IsOlder a := by
  unfold IsOlder at h ⊢
  rw [Moment.order?_swap a.createdAt b.createdAt]
  rcases h with h | ⟨h, hid⟩
  · simp [h]
  · simp only [h, Option.map_some, Ordering.swap_eq, reduceCtorEq, Option.some.injEq, false_or,
      true_and]
    omega

end LogEntry

namespace LogFilter

/-- What is found under a filter with a limit: entries that pass it, each once, and as many as
    there are, up to the limit. -/
structure Found (f : LogFilter) (limit : Nat) (log found : List LogEntry) : Prop where
  passes : ∀ e ∈ found, e ∈ log ∧ f.Passes e
  once : found.Nodup
  length : found.length = min limit (log.countP (f.Passes ·))

/-- It is the newest of what passes: the newest comes first, and what is left out is older. -/
structure Newest (f : LogFilter) (limit : Nat) (log found : List LogEntry) : Prop
    extends f.Found limit log found where
  sorted : found.Pairwise fun a b => b.IsOlder a
  rest : ∀ e ∈ log, f.Passes e → e ∉ found → ∀ a ∈ found, e.IsOlder a

variable {f : LogFilter} {log entries sorted : List LogEntry}

/-- Entries are sorted by an order that is linear on them, whatever it is on others. -/
theorem pairwise_mergeSort_of_agrees {linear : LogEntry → LogEntry → Bool}
    (htrans : ∀ a b c, linear a b = true → linear b c = true → linear a c = true)
    (htotal : ∀ a b, (linear a b || linear b a) = true)
    (h : ∀ a ∈ entries, ∀ b ∈ entries, isNewer a b = linear a b) :
    (entries.mergeSort isNewer).Pairwise fun a b => linear a b = true := by
  have hsame : entries.mergeSort isNewer = entries.mergeSort linear := by
    have hmap := List.map_mergeSort (f := id) h
    simpa using hmap
  rw [hsame]
  exact List.pairwise_mergeSort htrans htotal entries

/-- The order of a search when moments are compared like whole numbers. -/
def isAhead (rank : Moment → Int) (a b : LogEntry) : Bool :=
  rank b.createdAt < rank a.createdAt ||
    rank b.createdAt == rank a.createdAt && b.id.getD 0 ≤ a.id.getD 0

theorem isAhead_iff {rank : Moment → Int} {a b : LogEntry} : isAhead rank a b = true ↔
    rank b.createdAt < rank a.createdAt ∨
      rank b.createdAt = rank a.createdAt ∧ b.id.getD 0 ≤ a.id.getD 0 := by
  simp [isAhead]

theorem isNewer_eq_isAhead {rank : Moment → Int} {a b : LogEntry}
    (h : a.createdAt.order? b.createdAt = some (compare (rank a.createdAt) (rank b.createdAt))) :
    isNewer a b = isAhead rank a b := by
  rw [Bool.eq_iff_iff, isAhead_iff]
  unfold isNewer
  rw [h]
  rcases Int.lt_trichotomy (rank a.createdAt) (rank b.createdAt) with hlt | heq | hgt
  · rw [Int.compare_eq_lt.mpr hlt]
    simp
    omega
  · rw [Int.compare_eq_eq.mpr heq]
    simp [heq]
  · rw [Int.compare_eq_gt.mpr hgt]
    simp [hgt]

/-- Entries whose moments can be lined up are sorted, the newest first. -/
theorem sorted_mergeSort (haligned : Moment.Aligned (entries.map (·.createdAt)))
    (hdistinct : entries.Pairwise fun a b => a.id.getD 0 ≠ b.id.getD 0) :
    (entries.mergeSort isNewer).Pairwise fun a b => b.IsOlder a := by
  obtain ⟨rank, hrank⟩ := haligned.exists_rank
  have horder {a b : LogEntry} (ha : a ∈ entries) (hb : b ∈ entries) :
      a.createdAt.order? b.createdAt =
        some (compare (rank a.createdAt) (rank b.createdAt)) :=
    hrank _ (List.mem_map_of_mem ha) _ (List.mem_map_of_mem hb)
  -- On these entries the order is that of the ranks, which is total on all entries.
  have hsorted : (entries.mergeSort isNewer).Pairwise fun a b => isAhead rank a b = true := by
    apply pairwise_mergeSort_of_agrees
    · intro a b c hab hbc
      rw [isAhead_iff] at hab hbc ⊢
      omega
    · intro a b
      rw [Bool.or_eq_true, isAhead_iff, isAhead_iff]
      omega
    · intro a ha b hb
      exact isNewer_eq_isAhead (horder ha hb)
  have hperm := List.mergeSort_perm entries isNewer
  have hdistinct := (hperm.pairwise_iff Ne.symm).mpr hdistinct
  refine (hsorted.and hdistinct).imp_of_mem ?_
  rintro a b ha hb ⟨hahead, hne⟩
  unfold LogEntry.IsOlder
  rw [horder (hperm.mem_iff.mp hb) (hperm.mem_iff.mp ha), Option.some.injEq, Option.some.injEq,
    Int.compare_eq_lt, Int.compare_eq_eq]
  rw [isAhead_iff] at hahead
  omega

theorem isNewer_of_isOlder {a b : LogEntry} (h : a.IsOlder b) :
    isNewer a b = false ∧ isNewer b a = true := by
  unfold isNewer
  rw [Moment.order?_swap a.createdAt b.createdAt]
  rcases h with h | ⟨h, hid⟩
  · simp [h]
  · simp only [h, Option.map_some, Ordering.swap_eq, decide_eq_false_iff_not, decide_eq_true_eq]
    omega

theorem isNewer_self (a : LogEntry) : isNewer a a = true := by
  have horder : a.createdAt.order? a.createdAt = some .eq := by
    unfold Moment.order? Moment.comparable
    simp
  unfold isNewer
  rw [horder]
  exact decide_eq_true (Int.le_refl _)

/-- Entries that stand in the log in the order of their age are turned around. -/
theorem sorted_mergeSort_of_ordered (hordered : entries.Pairwise fun a b => a.IsOlder b)
    (hids : entries.Pairwise fun a b => a.id.getD 0 < b.id.getD 0) :
    (entries.mergeSort isNewer).Pairwise fun a b => b.IsOlder a := by
  let Apart (a b : LogEntry) : Prop :=
    a.IsOlder b ∧ a.id.getD 0 < b.id.getD 0 ∨ b.IsOlder a ∧ b.id.getD 0 < a.id.getD 0
  have hsymm : Std.Symm Apart := ⟨fun _ _ => Or.symm⟩
  have hapart : ∀ a ∈ entries, ∀ b ∈ entries, a ≠ b → Apart a b := by
    have hpairs : entries.Pairwise Apart := (hordered.and hids).imp Or.inl
    exact fun a ha b hb => hpairs.forall ha hb
  -- On these entries the order is that of their numbers, which is total on all entries.
  have hsorted : (entries.mergeSort isNewer).Pairwise fun a b =>
      decide (b.id.getD 0 ≤ a.id.getD 0) = true := by
    apply pairwise_mergeSort_of_agrees
    · simp only [decide_eq_true_eq]
      omega
    · simp only [Bool.or_eq_true, decide_eq_true_eq]
      omega
    · intro a ha b hb
      by_cases hne : a = b
      · rw [hne, isNewer_self, decide_eq_true (Int.le_refl _)]
      · rcases hapart a ha b hb hne with ⟨holder, hid⟩ | ⟨holder, hid⟩
        · rw [(isNewer_of_isOlder holder).1, decide_eq_false (by omega)]
        · rw [(isNewer_of_isOlder holder).2, decide_eq_true (by omega)]
  have hperm := List.mergeSort_perm entries isNewer
  have hdistinct := (hperm.pairwise_iff Ne.symm).mpr (hids.imp Int.ne_of_lt)
  refine (hsorted.and hdistinct).imp_of_mem ?_
  rintro a b ha hb ⟨hle, hne⟩
  rw [decide_eq_true_eq] at hle
  rcases hapart a (hperm.mem_iff.mp ha) b (hperm.mem_iff.mp hb) (fun h => hne (h ▸ rfl)) with
    ⟨-, hid⟩ | ⟨holder, -⟩
  · omega
  · exact holder

/-- The first of the entries that pass, in whatever order, are as many as are asked for. -/
theorem found_take (limit : Nat) (hperm : sorted.Perm (log.filter (f.Passes ·)))
    (hdistinct : log.Pairwise fun a b => a.id.getD 0 ≠ b.id.getD 0) :
    f.Found limit log (sorted.take limit) := by
  refine ⟨?_, ?_, ?_⟩
  · intro e he
    have hmem := hperm.mem_iff.mp (List.mem_of_mem_take he)
    rw [List.mem_filter, decide_eq_true_eq] at hmem
    exact hmem
  · have hentries : sorted.Pairwise fun a b => a.id.getD 0 ≠ b.id.getD 0 :=
      (hperm.pairwise_iff Ne.symm).mpr (hdistinct.filter _)
    refine (hentries.sublist (List.take_sublist limit sorted)).imp ?_
    rintro a b hne rfl
    exact hne rfl
  · rw [List.length_take, hperm.length_eq, List.countP_eq_length_filter]

/-- The first of some sorted entries are the newest of them. -/
theorem newest_take (limit : Nat) (hperm : sorted.Perm (log.filter (f.Passes ·)))
    (hdistinct : log.Pairwise fun a b => a.id.getD 0 ≠ b.id.getD 0)
    (hsorted : sorted.Pairwise fun a b => b.IsOlder a) :
    f.Newest limit log (sorted.take limit) := by
  have hsplit := hsorted
  rw [← List.take_append_drop limit sorted, List.pairwise_append] at hsplit
  obtain ⟨htake, -, hrest⟩ := hsplit
  refine ⟨found_take limit hperm hdistinct, htake, ?_⟩
  intro e he hpasses hnot a ha
  have hmem : e ∈ sorted := hperm.mem_iff.mpr (List.mem_filter.mpr ⟨he, decide_eq_true hpasses⟩)
  rw [← List.take_append_drop limit sorted, List.mem_append] at hmem
  exact hrest a ha e (hmem.resolve_left hnot)

/-- Where all moments can be compared, all of them have a known zone, or none has one. -/
theorem isMixed_eq_false
    (h : ∀ a ∈ entries, ∀ b ∈ entries, a.createdAt.comparable b.createdAt = true) :
    isMixed entries = false := by
  apply Bool.eq_false_iff.mpr
  intro hmixed
  obtain ⟨hknown, hunknown⟩ := Bool.and_eq_true_iff.mp hmixed
  obtain ⟨a, ha, haknown⟩ := List.any_eq_true.mp hknown
  obtain ⟨b, hb, hbnone⟩ := List.any_eq_true.mp hunknown
  have hsame := h a ha b hb
  unfold Moment.comparable at hsame
  rw [haknown, Option.isNone_iff_eq_none.mp hbnone] at hsame
  cases hsame

theorem firstOf_eq_take {n : Int} (hn : 0 ≤ n) (entries : List LogEntry) :
    firstOf (some n) entries = entries.take n.toNat := by
  unfold firstOf
  dsimp only
  rw [if_neg (Int.not_lt.mpr hn)]

/-- When all entries that pass can be compared, as many of them are found as are asked for.  They
    are the newest if the search has put the newest first. -/
theorem apply_found {n : Int} (hsuits : f.Suits log) (hlimit : f.limit = some n) (hn : 0 ≤ n)
    (hcompared : ∀ a ∈ log, ∀ b ∈ log, f.Passes a → f.Passes b →
      a.createdAt.comparable b.createdAt = true)
    (hdistinct : log.Pairwise fun a b => a.id.getD 0 ≠ b.id.getD 0) :
    ∃ found, f.apply log = .ok found ∧ f.Found n.toNat log found ∧
      ((((log.filter (f.Passes ·)).mergeSort isNewer).Pairwise fun a b => b.IsOlder a) →
        f.Newest n.toNat log found) := by
  have hunmixed : isMixed (log.filter (f.Passes ·)) = false := by
    apply isMixed_eq_false
    intro a ha b hb
    rw [List.mem_filter, decide_eq_true_eq] at ha hb
    exact hcompared a ha.1 b hb.1 ha.2 hb.2
  have hperm := List.mergeSort_perm (log.filter (f.Passes ·)) isNewer
  unfold apply
  rw [filterM_eq_filter fun e he => accepts_eq hsuits he, Except.ok_bind, hunmixed, hlimit,
    firstOf_eq_take hn]
  exact ⟨_, rfl, found_take n.toNat hperm hdistinct, newest_take n.toNat hperm hdistinct⟩

end LogFilter

end SerialNumbers
