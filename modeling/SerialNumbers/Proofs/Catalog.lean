/-
  SerialNumbers.Proofs.Catalog

  What the catalog tells of its patterns.  In a catalog that came about by
  adding patterns (`Catalog.Built`) every pattern is found under its identifier
  and has its tags in small letters.  Main statement: the numbers that are told
  of a catalog are those of the answers that it gives, but for a pattern that
  carries a tag twice, and a list with filters has just the patterns that every
  filter asked for alone gives, in the order of their identifiers
  (`Catalog.Built.stats_agree`).
-/
import SerialNumbers.Catalog.Query
import SerialNumbers.Proofs.Distinct
import SerialNumbers.Proofs.Record
import SerialNumbers.Proofs.Table
import SerialNumbers.Proofs.Text.Case

namespace SerialNumbers

open Text

namespace Prebuilt

theorem lower_of_mem_tidyTags {tags : List String} {tag : String} (h : tag ∈ tidyTags tags) :
    lower tag = tag := by
  obtain ⟨raw, -, rfl⟩ := List.mem_map.mp h
  exact lower_lower _

/-- A pattern that was read has tidy tags. -/
theorem lower_tag_of_ofFields {f : Fields} {t : Prebuilt} (h : ofFields f = .ok t) :
    ∀ tag ∈ t.tags, lower tag = tag := by
  -- The tags are the fifth of ten fields, and the chain is taken apart from its last.
  obtain ⟨_, _, h₁, -, rfl⟩ := Checked.and_eq_ok.mp (Checked.value_eq_ok.mp h)
  obtain ⟨_, _, h₂, -, rfl⟩ := Checked.and_eq_ok.mp h₁
  obtain ⟨_, _, h₃, -, rfl⟩ := Checked.and_eq_ok.mp h₂
  obtain ⟨_, _, h₄, -, rfl⟩ := Checked.and_eq_ok.mp h₃
  obtain ⟨_, _, h₅, -, rfl⟩ := Checked.and_eq_ok.mp h₄
  obtain ⟨_, tags, h₆, htags, rfl⟩ := Checked.and_eq_ok.mp h₅
  obtain ⟨_, _, h₇, -, rfl⟩ := Checked.and_eq_ok.mp h₆
  obtain ⟨_, _, h₈, -, rfl⟩ := Checked.and_eq_ok.mp h₇
  obtain ⟨_, _, h₉, -, rfl⟩ := Checked.and_eq_ok.mp h₈
  obtain ⟨_, _, hof, -, rfl⟩ := Checked.and_eq_ok.mp h₉
  cases hof
  cases hread : f.getList "tags" .text with
  | error ps =>
    rw [hread] at htags
    cases htags
  | ok raw =>
    rw [hread] at htags
    rw [← (Except.ok.inj htags : tidyTags raw = tags)]
    exact fun tag htag => lower_of_mem_tidyTags htag

end Prebuilt

namespace Catalog

/-! ## Catalogs that came about -/

/-- A catalog to which patterns were added that were read from fields.  One whose identifier is
    taken is refused, and the catalog stays as it is. -/
inductive Built : Catalog → Prop where
  | empty : Built .empty
  | register {c c' : Catalog} {f : Fields} {t : Prebuilt} (hc : Built c)
    (hread : Prebuilt.ofFields f = .ok t) (h : c.register t = .ok c') : Built c'

/-- Patterns stand under their identifiers, and their tags are in small letters. -/
structure Sound (c : Catalog) : Prop where
  distinct : c.patterns.keys.Nodup
  keyed : ∀ e ∈ c.patterns.entries, e.2.id = e.1
  small : ∀ e ∈ c.patterns.entries, ∀ tag ∈ e.2.tags, lower tag = tag

theorem Built.sound {c : Catalog} (h : c.Built) : c.Sound := by
  induction h with
  | empty => exact ⟨List.nodup_nil, nofun, nofun⟩
  | @register c c' f t _ hread h ih =>
    unfold Catalog.register at h
    split at h
    · cases h
    · cases h
      refine ⟨Table.nodup_keys_insert ih.distinct t.id t, ?_, ?_⟩
      · intro e he
        rcases Table.mem_put he with rfl | he
        · rfl
        · exact ih.keyed e he
      · intro e he
        rcases Table.mem_put he with rfl | he
        · exact Prebuilt.lower_tag_of_ofFields hread
        · exact ih.small e he

/-- A catalog made of a list of patterns that can be read. -/
theorem built_of_ofList {ts : List Prebuilt} {c : Catalog}
    (hread : ∀ t ∈ ts, ∃ f, Prebuilt.ofFields f = .ok t) (h : Catalog.ofList ts = .ok c) :
    c.Built := by
  suffices hfrom : ∀ c₀ : Catalog, c₀.Built → ts.foldlM register c₀ = .ok c → c.Built from
    hfrom .empty .empty h
  clear h
  induction ts with
  | nil =>
    rintro c₀ h₀ ⟨⟩
    exact h₀
  | cons t rest ih =>
    intro c₀ h₀ h
    rw [List.foldlM_cons] at h
    cases hone : c₀.register t with
    | error f =>
      rw [hone] at h
      cases h
    | ok c₁ =>
      rw [hone] at h
      obtain ⟨f, hf⟩ := hread t List.mem_cons_self
      exact ih (fun t' ht' => hread t' (List.mem_cons_of_mem t ht')) c₁
        (.register h₀ hf hone) h

/-- Every pattern that comes with the engine is read back from its own fields. -/
theorem ofFields_toFields_stock :
    ∀ t ∈ Prebuilt.stock, Prebuilt.ofFields (Table.ofList t.toFields) = .ok t := by
  simp only [Prebuilt.stock, List.forall_mem_cons]
  exact ⟨rfl, rfl, rfl, rfl, rfl, rfl, rfl, rfl, rfl, rfl, nofun⟩

theorem built_stock : Built stock :=
  built_of_ofList (fun t ht => ⟨_, ofFields_toFields_stock t ht⟩) rfl

/-! ## All patterns -/

section

variable {c : Catalog} {t : Prebuilt}

theorem Sound.get?_eq_some_iff (h : c.Sound) {id : String} :
    c.patterns.get? id = some t ↔ (id, t) ∈ c.patterns.entries :=
  Table.get?_eq_some_iff h.distinct

theorem Sound.mem_all_iff (h : c.Sound) : t ∈ c.all ↔ (t.id, t) ∈ c.patterns.entries := by
  unfold all
  rw [List.mem_filterMap]
  constructor
  · rintro ⟨id, -, hget⟩
    have hmem := h.get?_eq_some_iff.mp hget
    have hid : t.id = id := h.keyed _ hmem
    rwa [hid]
  · intro hmem
    exact ⟨t.id, Failure.mem_sortedKeys.mpr (List.mem_map_of_mem hmem),
      h.get?_eq_some_iff.mpr hmem⟩

/-- The identifiers of all patterns are the keys in order. -/
theorem Sound.map_id_all (h : c.Sound) : c.all.map (·.id) = Failure.sortedKeys c.patterns.keys := by
  have hfound : ∀ id ∈ Failure.sortedKeys c.patterns.keys,
      (c.patterns.get? id).map (·.id) = some id := by
    intro id hid
    obtain ⟨⟨key, t⟩, hmem, rfl⟩ := List.mem_map.mp (Failure.mem_sortedKeys.mp hid)
    rw [h.get?_eq_some_iff.mpr hmem]
    exact congrArg some (h.keyed _ hmem)
  unfold all
  rw [List.map_filterMap]
  exact (List.filterMap_eq_map_iff_forall_eq_some.mpr hfound).trans (List.map_id _)

theorem Sound.pairwise_all (h : c.Sound) : c.all.Pairwise (·.id < ·.id) := by
  have hsorted := Failure.pairwise_sortedKeys h.distinct
  rw [← h.map_id_all, List.pairwise_map] at hsorted
  exact hsorted

theorem Sound.length_all (h : c.Sound) : c.all.length = c.size := by
  have hlength := congrArg List.length h.map_id_all
  rw [List.length_map, (Failure.sortedKeys_perm _).length_eq] at hlength
  rw [hlength]
  exact List.length_map _

theorem Sound.get_eq_ok_iff (h : c.Sound) : t ∈ c.all ↔ c.get t.id = .ok t := by
  rw [h.mem_all_iff, ← h.get?_eq_some_iff]
  unfold get
  cases hfound : c.patterns.get? t.id with
  | none => exact ⟨nofun, nofun⟩
  | some found => rw [Option.some.injEq, Except.ok.injEq]

end

/-! ## Counting -/

section

variable {texts : List String}

theorem map_fst_tally (texts : List String) :
    (tally texts).map (·.1) = Failure.sortedKeys texts.eraseDups := by
  unfold tally
  rw [List.map_map]
  exact List.map_id _

/-- Every text is counted under one key. -/
theorem sum_tally (texts : List String) : ((tally texts).map (·.2)).sum = texts.length := by
  unfold tally
  rw [List.map_map]
  exact ((Failure.sortedKeys_perm _).map _).sum_eq.trans (sum_count_eraseDups texts)

theorem mem_tally_iff {s : String} {n : Nat} :
    (s, n) ∈ tally texts ↔ s ∈ texts ∧ n = texts.count s := by
  unfold tally
  rw [List.mem_map]
  constructor
  · rintro ⟨key, hkey, heq⟩
    cases heq
    exact ⟨List.mem_eraseDups.mp (Failure.mem_sortedKeys.mp hkey), rfl⟩
  · rintro ⟨hs, rfl⟩
    exact ⟨s, Failure.mem_sortedKeys.mpr (List.mem_eraseDups.mpr hs), rfl⟩

/-- Patterns without a tag add nothing to its count. -/
theorem count_tags (tag : String) (ts : List Prebuilt) :
    (ts.flatMap (·.tags)).count tag =
      ((ts.filter fun t => t.tags.contains tag).map (·.tags.count tag)).sum := by
  induction ts with
  | nil => rfl
  | cons t rest ih =>
    rw [List.flatMap_cons, List.count_append, ih, List.filter_cons]
    split
    · rw [List.map_cons, List.sum_cons]
    · rename_i hnot
      rw [List.count_eq_zero.mpr (by simpa using hnot), Nat.zero_add]

/-- Every pattern that carries the tag counts at least once. -/
theorem length_le_sum_count {tag : String} {ts : List Prebuilt} (h : ∀ t ∈ ts, tag ∈ t.tags) :
    ts.length ≤ (ts.map (·.tags.count tag)).sum := by
  induction ts with
  | nil => exact Nat.le_refl 0
  | cons t rest ih =>
    have hone := List.one_le_count_iff.mpr (h t List.mem_cons_self)
    have hrest := ih fun t' ht' => h t' (List.mem_cons_of_mem t ht')
    rw [List.map_cons, List.sum_cons, List.length_cons]
    omega

/-- The counts of a tag add up to the number of the patterns just when none carries it twice. -/
theorem sum_count_eq_length_iff {tag : String} {ts : List Prebuilt} (h : ∀ t ∈ ts, tag ∈ t.tags) :
    (ts.map (·.tags.count tag)).sum = ts.length ↔ ∀ t ∈ ts, t.tags.count tag ≤ 1 := by
  induction ts with
  | nil => exact iff_of_true rfl nofun
  | cons t rest ih =>
    have hrest : ∀ t' ∈ rest, tag ∈ t'.tags := fun t' ht' => h t' (List.mem_cons_of_mem t ht')
    have hone := List.one_le_count_iff.mpr (h t List.mem_cons_self)
    have hleast := length_le_sum_count hrest
    rw [List.forall_mem_cons, ← ih hrest, List.map_cons, List.sum_cons, List.length_cons]
    omega

end

/-! ## Filters -/

section

variable {c : Catalog} {t : Prebuilt} {wanted : Option String} {test : String → Prebuilt → Bool}

theorem mem_keepIf {ts : List Prebuilt} :
    t ∈ keepIf wanted test ts ↔ t ∈ ts ∧ ∀ s ∈ wanted, s ≠ "" → test s t = true := by
  cases wanted with
  | none => exact (and_iff_left nofun).symm
  | some s =>
    simp only [keepIf, Option.mem_some_iff, forall_eq']
    by_cases hs : s = ""
    · rw [if_pos (String.isEmpty_iff.mpr hs)]
      exact (and_iff_left fun hne => absurd hs hne).symm
    · rw [if_neg (mt String.isEmpty_iff.mp hs), List.mem_filter]
      exact and_congr_right fun _ => ⟨fun h _ => h, fun h => h hs⟩

theorem keepIf_sublist {ts : List Prebuilt} : (keepIf wanted test ts).Sublist ts := by
  cases wanted with
  | none => exact List.Sublist.refl ts
  | some s =>
    simp only [keepIf]
    split
    · exact List.Sublist.refl ts
    · exact List.filter_sublist

theorem list_sublist_all (c : Catalog) (f : Filter) : (c.list f).Sublist c.all := by
  have htexts : (keepIf f.search (fun query t => t.answers query)
      (keepIf f.tag hasTag (keepIf f.category hasCategory c.all))).Sublist c.all :=
    keepIf_sublist.trans (keepIf_sublist.trans keepIf_sublist)
  unfold list
  split
  · exact htexts
  · exact List.filter_sublist.trans htexts

/-- The pattern is in the answer to each question that the filter asks. -/
structure Answers (c : Catalog) (f : Filter) (t : Prebuilt) : Prop where
  known : t ∈ c.all
  category : ∀ category ∈ f.category, category ≠ "" → t ∈ c.byCategory category
  tag : ∀ tag ∈ f.tag, tag ≠ "" → t ∈ c.byTag tag
  search : ∀ query ∈ f.search, query ≠ "" → t ∈ c.search query
  contextFree : f.contextFree = some true → t ∈ c.contextFree
  contextBound : f.contextFree = some false → t ∉ c.contextFree

/-- The filters that are texts. -/
theorem mem_keepIfs_iff {f : Filter} :
    t ∈ keepIf f.search (fun query t => t.answers query)
        (keepIf f.tag hasTag (keepIf f.category hasCategory c.all)) ↔
      c.Answers { f with contextFree := none } t := by
  rw [mem_keepIf, mem_keepIf, mem_keepIf]
  constructor
  · rintro ⟨⟨⟨hall, hcategory⟩, htag⟩, hsearch⟩
    exact ⟨hall, fun s hs hne => List.mem_filter.mpr ⟨hall, hcategory s hs hne⟩,
      fun s hs hne => List.mem_filter.mpr ⟨hall, htag s hs hne⟩,
      fun s hs hne => List.mem_filter.mpr ⟨hall, hsearch s hs hne⟩, nofun, nofun⟩
  · intro h
    exact ⟨⟨⟨h.known, fun s hs hne => (List.mem_filter.mp (h.category s hs hne)).2⟩,
      fun s hs hne => (List.mem_filter.mp (h.tag s hs hne)).2⟩,
      fun s hs hne => (List.mem_filter.mp (h.search s hs hne)).2⟩

theorem mem_list_iff {f : Filter} : t ∈ c.list f ↔ c.Answers f t := by
  unfold list
  cases hfree : f.contextFree with
  | none =>
    have hf : { f with contextFree := none } = f := by rw [← hfree]
    have htexts := mem_keepIfs_iff (c := c) (t := t) (f := f)
    rwa [hf] at htexts
  | some wanted =>
    have hmem : t ∈ c.contextFree ↔ t ∈ c.all ∧ t.isContextFree = true := List.mem_filter
    rw [List.mem_filter, mem_keepIfs_iff, beq_iff_eq]
    constructor
    · rintro ⟨h, rfl⟩
      refine ⟨h.known, h.category, h.tag, h.search, fun heq => ?_, fun heq => ?_⟩
      · rw [hfree] at heq
        exact hmem.mpr ⟨h.known, Option.some.inj heq⟩
      · rw [hfree] at heq
        have hbound : t.isContextFree = false := Option.some.inj heq
        exact fun hin => Bool.eq_false_iff.mp hbound (hmem.mp hin).2
    · intro h
      refine ⟨⟨h.known, h.category, h.tag, h.search, nofun, nofun⟩, ?_⟩
      cases wanted with
      | true => exact (hmem.mp (h.contextFree hfree)).2
      | false => exact Bool.not_eq_true _ |>.mp fun hwith =>
          h.contextBound hfree (hmem.mpr ⟨h.known, hwith⟩)

end

/-! ## What is told and what is found -/

/-- What is told of a catalog goes with the answers that it gives. -/
structure Consistent (c : Catalog) : Prop where
  total : c.stats.total = c.size
  byCategory : (c.stats.byCategory.map (·.2)).sum = c.stats.total
  contextFree : c.stats.contextFree = c.contextFree.length
  tags : c.stats.byTag.map (·.1) = c.tags
  /-- A tag is counted once for every time that a pattern carries it.  This is the number of the
      patterns just when none carries it twice. -/
  byTag : ∀ tag n, (tag, n) ∈ c.stats.byTag →
    n = ((c.byTag tag).map (·.tags.count tag)).sum ∧
      (n = (c.byTag tag).length ↔ ∀ t ∈ c.all, t.tags.count tag ≤ 1)
  all : ∀ t, t ∈ c.all ↔ c.get t.id = .ok t
  list : ∀ f, (c.list f).Pairwise (·.id < ·.id) ∧ ∀ t, t ∈ c.list f ↔ c.Answers f t

theorem Sound.consistent {c : Catalog} (h : c.Sound) : c.Consistent where
  total := h.length_all
  byCategory := (sum_tally _).trans (List.length_map _)
  contextFree := rfl
  tags := map_fst_tally _
  byTag := by
    intro tag n hmem
    obtain ⟨hin, rfl⟩ := mem_tally_iff.mp hmem
    obtain ⟨t, ht, htag⟩ := List.mem_flatMap.mp hin
    -- The tag is in small letters, so the question for it is a question for itself.
    have hlower : lower tag = tag := h.small _ (h.mem_all_iff.mp ht) tag htag
    have hasked : c.byTag tag = c.all.filter fun t => t.tags.contains tag := by
      unfold Catalog.byTag hasTag
      rw [hlower]
    have hcarry : ∀ t ∈ c.byTag tag, tag ∈ t.tags := by
      intro t ht
      rw [hasked] at ht
      simpa using (List.mem_filter.mp ht).2
    have hcount : (c.all.flatMap (·.tags)).count tag =
        ((c.byTag tag).map (·.tags.count tag)).sum := by
      rw [hasked]
      exact count_tags tag c.all
    refine ⟨hcount, ?_⟩
    rw [hcount, sum_count_eq_length_iff hcarry, hasked]
    constructor
    · intro hones t ht
      by_cases htag : tag ∈ t.tags
      · exact hones t (List.mem_filter.mpr ⟨ht, by simpa using htag⟩)
      · rw [List.count_eq_zero.mpr htag]
        exact Nat.zero_le 1
    · exact fun hones t ht => hones t (List.mem_filter.mp ht).1
  all := fun _ => h.get_eq_ok_iff
  list := fun f => ⟨h.pairwise_all.sublist (list_sublist_all c f), fun _ => mem_list_iff⟩

/-- In every catalog that came about by adding patterns the total is the number of the patterns,
    the numbers of the categories add up to it, the tags that are counted are those that are
    told, each as often as patterns carry it, and a list has the patterns of all its filters in
    the order of their identifiers. -/
theorem Built.stats_agree {c : Catalog} (h : c.Built) : c.Consistent :=
  h.sound.consistent

/-- Two spellings of one tag: it is counted twice, and found at one pattern. -/
theorem Built.stats_agree_twice :
    let fields : Fields := Table.ofList [("id", .text "inv"), ("name", .text "Invoice"),
      ("pattern", .text "INV-\x7bCOUNTER\x7d"),
      ("tags", .list [.text "Invoice", .text "invoice "])]
    ∃ t c, Prebuilt.ofFields fields = .ok t ∧ Catalog.empty.register t = .ok c ∧ c.Built ∧
      c.stats.byTag = [("invoice", 2)] ∧ (c.byTag "invoice").length = 1 ∧ c.tags = ["invoice"] ∧
      c.Consistent := by
  intro fields
  let t : Prebuilt := Prebuilt.simple "inv" "Invoice" "" "General" ["invoice", "invoice"]
    "INV-\x7bCOUNTER\x7d" 5
  let c : Catalog := ⟨Table.empty.insert "inv" t⟩
  have hread : Prebuilt.ofFields fields = .ok t := by rfl
  have hregister : Catalog.empty.register t = .ok c := rfl
  have hbuilt : c.Built := .register .empty hread hregister
  exact ⟨t, c, hread, hregister, hbuilt, by decide +kernel, by decide +kernel, by decide +kernel,
    Built.stats_agree hbuilt⟩

end Catalog

end SerialNumbers
