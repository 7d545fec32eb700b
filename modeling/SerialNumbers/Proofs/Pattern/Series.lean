/-
  SerialNumbers.Proofs.Pattern.Series

  Series of numbers whose counter starts again whenever a number falls in
  another period than the one before it.  No two numbers of such a series are
  the same as long as no period is come back to (`Series.distinct`); if one is,
  the counter passes the same values there again, and where the pattern shows
  nothing but the period the same numbers are made again.
-/
import SerialNumbers.LogEntry
import SerialNumbers.Proofs.Pattern.Rendering

namespace SerialNumbers

open Pattern Time

namespace Period

/-! ## Visits -/

/-- The fields of a date that tell the period. -/
def fields : Period → List DateField
  | never => []
  | daily => [.year, .month, .day]
  | monthly => [.year, .month]
  | yearly => [.year]

theorem first_eq_iff {p : Period} (hp : p.isTimeBased = true) {a b : Date} :
    p.first a = p.first b ↔ ∀ f ∈ p.fields, f.value a = f.value b := by
  -- The first date of a period has the fields of the period, and 1 in the others.
  cases p with
  | never => cases hp
  | _ =>
    cases a
    cases b
    simp [first, fields, DateField.value]

/-- No period is come back to: what lies between two dates of a period is of that period. -/
def Steady (p : Period) (dates : List Date) : Prop :=
  ∀ before b after, dates = before ++ b :: after → ∀ a ∈ before, ∀ c ∈ after,
    p.first a = p.first c → p.first a = p.first b

/-- The places of dates in their visits, after a date at a place: the next place in the
    period of the date before, and the first place in another one. -/
def placesFrom (p : Period) (last : Date) (place : Nat) : List Date → List Nat
  | [] => []
  | d :: rest =>
    let next := if p.first d = p.first last then place + 1 else 1
    next :: placesFrom p d next rest

/-- The places of dates in their visits. -/
def places (p : Period) : List Date → List Nat
  | [] => []
  | d :: rest => 1 :: p.placesFrom d 1 rest

/-- What a pattern shows of dates, with their places. -/
def stamps (p : Period) (pattern : String) (dates : List Date) : List (List Nat × Nat) :=
  (dates.map (shown pattern)).zip (p.places dates)

/-- At place 0 nothing is known of the date before. -/
theorem placesFrom_zero (p : Period) (last : Date) (dates : List Date) :
    p.placesFrom last 0 dates = p.places dates := by
  cases dates with
  | nil => rfl
  | cons d rest =>
    unfold placesFrom places
    rw [Nat.zero_add, ite_self]

/-- Only the period of the date before matters. -/
theorem placesFrom_congr (p : Period) {last last' : Date} (h : p.first last = p.first last')
    (place : Nat) (dates : List Date) :
    p.placesFrom last place dates = p.placesFrom last' place dates := by
  cases dates with
  | nil => rfl
  | cons d rest =>
    unfold placesFrom
    rw [h]

theorem placesFrom_append (p : Period) (last : Date) (place : Nat) (before : List Date) :
    ∃ last' place', ∀ after, p.placesFrom last place (before ++ after) =
      p.placesFrom last place before ++ p.placesFrom last' place' after := by
  induction before generalizing last place with
  | nil => exact ⟨last, place, fun _ => rfl⟩
  | cons d rest ih =>
    obtain ⟨last', place', h⟩ := ih d (if p.first d = p.first last then place + 1 else 1)
    refine ⟨last', place', ?_⟩
    intro after
    show _ :: p.placesFrom d _ (rest ++ after) = _ :: (p.placesFrom d _ rest ++ _)
    rw [h]

theorem length_placesFrom (p : Period) (last : Date) (place : Nat) (dates : List Date) :
    (p.placesFrom last place dates).length = dates.length := by
  induction dates generalizing last place with
  | nil => rfl
  | cons d rest ih => exact congrArg (· + 1) (ih d _)

/-- Earlier places do not depend on later dates. -/
theorem places_append (p : Period) (before after : List Date) :
    p.places before <+: p.places (before ++ after) := by
  rw [← p.placesFrom_zero default, ← p.placesFrom_zero default]
  obtain ⟨last, place, h⟩ := p.placesFrom_append default 0 before
  rw [h]
  exact List.prefix_append _ _

theorem length_places (p : Period) (dates : List Date) :
    (p.places dates).length = dates.length := by
  rw [← p.placesFrom_zero default, length_placesFrom]

/-! ## Places without returns -/

theorem Steady.tail {p : Period} {d : Date} {rest : List Date} (h : p.Steady (d :: rest)) :
    p.Steady rest := by
  intro before b after heq a ha c hc
  refine h (d :: before) b after ?_ a (List.mem_cons_of_mem d ha) c hc
  rw [heq]
  rfl

/-- As long as no period is come back to, later dates of a period have later places. -/
theorem Steady.place_lt {p : Period} {d : Date} {rest : List Date} (h : p.Steady (d :: rest))
    (place : Nat) : ∀ x ∈ rest.zip (p.placesFrom d place rest), p.first x.1 = p.first d →
      place < x.2 := by
  induction rest generalizing d place with
  | nil => exact fun x hx => absurd hx List.not_mem_nil
  | cons e rest ih =>
    intro x hx hsame
    rcases List.mem_cons.mp hx with rfl | hx
    · show place < if p.first e = p.first d then place + 1 else 1
      rw [if_pos hsame]
      exact Nat.lt_succ_self place
    · by_cases he : p.first e = p.first d
      · have hlt := ih h.tail _ x hx (hsame.trans he.symm)
        rw [if_pos he] at hlt
        exact Nat.lt_of_succ_lt hlt
      · -- The period was left with `e`, so nothing behind it is of the period of `d`.
        have hmem : x.1 ∈ rest := (List.of_mem_zip hx).1
        have hback := h [d] e rest rfl d (List.mem_singleton_self d) x.1 hmem hsame.symm
        exact absurd hback.symm he

theorem Steady.pairwise {p : Period} {dates : List Date} (h : p.Steady dates) :
    (dates.zip (p.places dates)).Pairwise fun x y => p.first x.1 = p.first y.1 → x.2 < y.2 := by
  have hfrom (d : Date) (place : Nat) (rest : List Date) (hsteady : p.Steady (d :: rest)) :
      ((d :: rest).zip (place :: p.placesFrom d place rest)).Pairwise
        fun x y => p.first x.1 = p.first y.1 → x.2 < y.2 := by
    -- The induction carries the date before and its place.
    induction rest generalizing d place with
    | nil => exact List.pairwise_singleton _ _
    | cons e rest ih =>
      refine List.Pairwise.cons ?_ (ih e _ hsteady.tail)
      intro y hy hsame
      exact hsteady.place_lt place y hy hsame.symm
  cases dates with
  | nil => exact List.Pairwise.nil
  | cons d rest => exact hfrom d 1 rest h

/-- Dates that do not go back come back to no period. -/
theorem steady_of_ordered (p : Period) {dates : List Date} (hvalid : ∀ d ∈ dates, d.Valid)
    (h : dates.Pairwise fun a b => a.dayNumber ≤ b.dayNumber) : p.Steady dates := by
  rintro before b after rfl a ha c hc hsame
  obtain ⟨-, hafter, hcross⟩ := List.pairwise_append.mp h
  have hab := hcross a ha b List.mem_cons_self
  have hbc := (List.pairwise_cons.mp hafter).1 c hc
  exact p.first_eq_of_between (hvalid a (List.mem_append_left _ ha))
    (hvalid b (List.mem_append_right _ List.mem_cons_self))
    (hvalid c (List.mem_append_right _ (List.mem_cons_of_mem b hc))) hab hbc hsame

/-! ## Places after a return -/

/-- Behind a date of another period every visit has a first place. -/
theorem exists_place_one (p : Period) {last c : Date} {rest : List Date} (hc : c ∈ rest)
    (hother : p.first c ≠ p.first last) (place : Nat) :
    ∃ e, (e, 1) ∈ rest.zip (p.placesFrom last place rest) ∧ p.first e = p.first c := by
  induction rest generalizing last place with
  | nil => exact absurd hc List.not_mem_nil
  | cons d rest ih =>
    by_cases hd : p.first c = p.first d
    · refine ⟨d, ?_, hd.symm⟩
      have hplace : (if p.first d = p.first last then place + 1 else 1) = 1 :=
        if_neg fun heq => hother (hd.trans heq)
      show (d, 1) ∈ (d, if p.first d = p.first last then place + 1 else 1) :: _
      rw [hplace]
      exact List.mem_cons_self
    · have hrest : c ∈ rest := by
        rcases List.mem_cons.mp hc with rfl | hrest
        · exact absurd rfl hd
        · exact hrest
      obtain ⟨e, he, hsame⟩ := ih hrest hd (if p.first d = p.first last then place + 1 else 1)
      exact ⟨e, List.mem_cons_of_mem _ he, hsame⟩

theorem exists_place_one_of_mem (p : Period) {a : Date} {dates : List Date} (ha : a ∈ dates) :
    ∃ e, (e, 1) ∈ dates.zip (p.places dates) ∧ p.first e = p.first a := by
  cases dates with
  | nil => exact absurd ha List.not_mem_nil
  | cons d rest =>
    by_cases hd : p.first a = p.first d
    · exact ⟨d, List.mem_cons_self, hd.symm⟩
    · have hrest : a ∈ rest := by
        rcases List.mem_cons.mp ha with rfl | hrest
        · exact absurd rfl hd
        · exact hrest
      obtain ⟨e, he, hsame⟩ := p.exists_place_one hrest hd 1
      exact ⟨e, List.mem_cons_of_mem _ he, hsame⟩

theorem stamps_eq_map (p : Period) (pattern : String) (dates : List Date) :
    p.stamps pattern dates =
      (dates.zip (p.places dates)).map fun x => (shown pattern x.1, x.2) :=
  List.zip_map_left ..

/-- A period that is come back to has its first place again. -/
theorem steady_of_nodup {p : Period} {pattern : String}
    (hshown : ∀ a b, p.first a = p.first b → shown pattern a = shown pattern b)
    {dates : List Date} (h : (p.stamps pattern dates).Nodup) : p.Steady dates := by
  rintro before b after rfl a ha c hc hsame
  by_contra hleft
  -- The period is left at `b`: it has a first place up to there, and another one behind.
  obtain ⟨last, place, hplaces⟩ := p.placesFrom_append default 0 before
  have hsplit : (before ++ b :: after).zip (p.places (before ++ b :: after)) =
      before.zip (p.places before) ++ (b :: after).zip (p.placesFrom last place (b :: after)) := by
    rw [← p.placesFrom_zero default, hplaces, p.placesFrom_zero default,
      List.zip_append (p.length_places before).symm]
  obtain ⟨first, hfirst, hfirstOf⟩ := p.exists_place_one_of_mem ha
  obtain ⟨second, hsecond, hsecondOf⟩ := p.exists_place_one hc
    (fun heq => hleft (hsame.trans heq)) (if p.first b = p.first last then place + 1 else 1)
  rw [stamps_eq_map, hsplit, List.map_append] at h
  have hstamp : (shown pattern first, 1) = (shown pattern second, 1) := by
    rw [hshown first second (hfirstOf.trans (hsame.trans hsecondOf.symm))]
  refine List.disjoint_of_nodup_append h (List.mem_map.mpr ⟨_, hfirst, rfl⟩) ?_
  refine List.mem_map.mpr ⟨(second, 1), List.mem_cons_of_mem _ hsecond, ?_⟩
  exact hstamp.symm

end Period

/-! ## Series of entries -/

/-- Entries whose numbers are spelled by the pattern of a row, and whose counters are steps
    from the start of each visit to a period. -/
structure Series (row : Sequence) (zone : Zone) (entries : List LogEntry) : Prop where
  spelled : ∀ e ∈ entries, (e.createdAt.dateIn zone).Fits ∧
    e.number.toList = spelling row.pattern row.padding (e.createdAt.dateIn zone) e.counter
  counted : entries.map (·.counter) =
    (row.period.places (entries.map (·.createdAt.dateIn zone))).map fun n : Nat => n * row.step

/-- When the numbers of a series are all different: of a series on some dates with the
    periods and the pattern of a row. -/
structure Distinct (row : Sequence) (dates : List Date) (numbers : List String) : Prop where
  /-- Just when no two show the same date in the same place of a visit. -/
  exact : numbers.Nodup ↔ (row.period.stamps row.pattern dates).Nodup
  /-- If the pattern shows the period: whenever no period is come back to, -/
  of_steady : (∀ f ∈ row.period.fields, f ∈ fields row.pattern) → row.period.Steady dates →
    numbers.Nodup
  /-- as when the dates do not go back; -/
  of_ordered : (∀ f ∈ row.period.fields, f ∈ fields row.pattern) →
    (dates.Pairwise fun a b => a.dayNumber ≤ b.dayNumber) → numbers.Nodup
  /-- and if it shows nothing else of the date, only then. -/
  iff_steady : (∀ f, f ∈ fields row.pattern ↔ f ∈ row.period.fields) →
    (numbers.Nodup ↔ row.period.Steady dates)

theorem nodup_map_iff_of_mem {α β γ : Type} {l : List α} {f : α → β} {g : α → γ}
    (h : ∀ a ∈ l, ∀ b ∈ l, f a = f b ↔ g a = g b) : (l.map f).Nodup ↔ (l.map g).Nodup := by
  unfold List.Nodup
  rw [List.pairwise_map, List.pairwise_map]
  apply List.Pairwise.iff_of_mem
  intro a b ha hb
  exact not_congr (h a ha b hb)

namespace Series

variable {row : Sequence} {zone : Zone} {entries : List LogEntry}

/-- The beginning of a series is a series. -/
theorem of_prefix {more : List LogEntry} (h : Series row zone (entries ++ more)) :
    Series row zone entries := by
  refine ⟨fun e he => h.spelled e (List.mem_append_left more he), ?_⟩
  have hcounted := h.counted
  obtain ⟨later, hlater⟩ := row.period.places_append (entries.map (·.createdAt.dateIn zone))
    (more.map (·.createdAt.dateIn zone))
  rw [List.map_append, List.map_append, ← hlater, List.map_append] at hcounted
  refine (List.append_inj hcounted ?_).1
  rw [List.length_map, List.length_map, Period.length_places, List.length_map]

/-- Numbers are the same when they show the same date and have the same counter. -/
theorem number_eq_iff (h : Series row zone entries) (hdated : IsDated row.pattern)
    (hstep : 1 ≤ row.step) {a b : LogEntry} (ha : a ∈ entries) (hb : b ∈ entries) :
    a.number = b.number ↔
      (shown row.pattern (a.createdAt.dateIn zone), a.counter) =
        (shown row.pattern (b.createdAt.dateIn zone), b.counter) := by
  have hcounter {e : LogEntry} (he : e ∈ entries) : ∃ n : Nat, e.counter = n := by
    have hmem : e.counter ∈ entries.map (·.counter) := List.mem_map_of_mem he
    rw [h.counted] at hmem
    obtain ⟨n, -, hn⟩ := List.mem_map.mp hmem
    -- A counter is a place times the step, so its text has no sign.
    have hnonneg : 0 ≤ e.counter := by
      rw [← hn]
      exact Int.mul_nonneg (Int.natCast_nonneg n) (by omega)
    exact ⟨e.counter.toNat, (Int.toNat_of_nonneg hnonneg).symm⟩
  obtain ⟨n, hn⟩ := hcounter ha
  obtain ⟨m, hm⟩ := hcounter hb
  obtain ⟨hfits, hspelled⟩ := h.spelled a ha
  obtain ⟨hfits', hspelled'⟩ := h.spelled b hb
  rw [← String.toList_inj, hspelled, hspelled', hn, hm, spelling_eq_iff hdated hfits hfits',
    Prod.mk.injEq, Int.natCast_inj]

/-- The numbers are all different just when their stamps are. -/
theorem nodup_iff (h : Series row zone entries) (hdated : IsDated row.pattern)
    (hstep : 1 ≤ row.step) : (entries.map (·.number)).Nodup ↔
      (row.period.stamps row.pattern (entries.map (·.createdAt.dateIn zone))).Nodup := by
  rw [nodup_map_iff_of_mem fun a ha b hb => h.number_eq_iff hdated hstep ha hb]
  have hstamps : entries.map (fun e => (shown row.pattern (e.createdAt.dateIn zone), e.counter)) =
      (row.period.stamps row.pattern (entries.map (·.createdAt.dateIn zone))).map
        (Prod.map id fun n : Nat => n * row.step) := by
    unfold Period.stamps
    rw [← List.zip_map', h.counted, List.map_map, ← List.zip_map_right]
    rfl
  rw [hstamps]
  apply List.nodup_map_iff
  intro x y hxy
  obtain ⟨hshown, hcounter⟩ := (Prod.mk.injEq ..).mp hxy
  -- The step is positive, so one counter is one place.
  have hplaces : (x.2 : Int) = y.2 := Int.eq_of_mul_eq_mul_right (by omega) hcounter
  exact Prod.ext hshown (Int.ofNat.inj hplaces)

/-- When the numbers of a series are all different. -/
theorem distinct (h : Series row zone entries) (hdated : IsDated row.pattern)
    (hstep : 1 ≤ row.step) (hperiod : row.period.isTimeBased = true) :
    Distinct row (entries.map (·.createdAt.dateIn zone)) (entries.map (·.number)) := by
  have hexact := h.nodup_iff hdated hstep
  have hsteady (hshows : ∀ f ∈ row.period.fields, f ∈ fields row.pattern)
      (hs : row.period.Steady (entries.map (·.createdAt.dateIn zone))) :
      (entries.map (·.number)).Nodup := by
    rw [hexact, Period.stamps_eq_map]
    unfold List.Nodup
    rw [List.pairwise_map]
    apply hs.pairwise.imp
    intro x y hlt heq
    obtain ⟨hshown, hplace⟩ := (Prod.mk.injEq ..).mp heq
    -- What shows the same date is of one period, where later dates have later places.
    have hfirst : row.period.first x.1 = row.period.first y.1 := by
      rw [Period.first_eq_iff hperiod]
      exact fun f hf => shown_eq_iff.mp hshown f (hshows f hf)
    exact absurd hplace (Nat.ne_of_lt (hlt hfirst))
  refine ⟨hexact, hsteady, ?_, ?_⟩
  · intro hshows hordered
    refine hsteady hshows (row.period.steady_of_ordered ?_ hordered)
    intro d hd
    obtain ⟨e, -, rfl⟩ := List.mem_map.mp hd
    exact Moment.valid_dateIn zone e.createdAt
  · intro honly
    constructor
    · intro hnodup
      refine Period.steady_of_nodup ?_ (hexact.mp hnodup)
      intro a b hfirst
      rw [shown_eq_iff]
      exact fun f hf => (Period.first_eq_iff hperiod).mp hfirst f ((honly f).mp hf)
    · exact hsteady fun f hf => (honly f).mpr hf

end Series

end SerialNumbers
