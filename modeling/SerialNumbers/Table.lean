/-
  SerialNumbers.Table

  Tables that remember the order in which their keys first came: replacing the
  value of a key leaves the key in its place, a new key goes to the end.
-/

namespace SerialNumbers

/-- Keys with their values, in the order in which the keys came. -/
structure Table (κ ν : Type) where
  entries : List (κ × ν)
deriving Repr, Inhabited

namespace Table

variable {κ ν : Type} [BEq κ]

/-! ## Operations -/

def empty : Table κ ν := ⟨[]⟩

def get? (t : Table κ ν) (k : κ) : Option ν :=
  t.entries.lookup k

def contains (t : Table κ ν) (k : κ) : Bool :=
  (t.get? k).isSome

def keys (t : Table κ ν) : List κ :=
  t.entries.map (·.1)

def values (t : Table κ ν) : List ν :=
  t.entries.map (·.2)

def size (t : Table κ ν) : Nat :=
  t.entries.length

/-- Puts a value under a key of a list of entries. -/
def put (k : κ) (v : ν) : List (κ × ν) → List (κ × ν)
  | [] => [(k, v)]
  | (k', v') :: rest => if k' == k then (k, v) :: rest else (k', v') :: put k v rest

/-- Sets the value of a key. -/
def insert (t : Table κ ν) (k : κ) (v : ν) : Table κ ν :=
  ⟨put k v t.entries⟩

def erase (t : Table κ ν) (k : κ) : Table κ ν :=
  ⟨t.entries.filter fun e => !(e.1 == k)⟩

def filter (t : Table κ ν) (p : κ → ν → Bool) : Table κ ν :=
  ⟨t.entries.filter fun e => p e.1 e.2⟩

/-- The table of a list of pairs; later pairs win, keys stay where they came first. -/
def ofList (pairs : List (κ × ν)) : Table κ ν :=
  pairs.foldl (fun t e => t.insert e.1 e.2) empty

/-! ## Laws -/

@[simp] theorem get?_empty (k : κ) : (empty : Table κ ν).get? k = none := rfl

theorem lookup_put [LawfulBEq κ] (k k' : κ) (v : ν) (l : List (κ × ν)) :
    (put k v l).lookup k' = if k' == k then some v else l.lookup k' := by
  induction l with
  | nil => simp [put, List.lookup_cons, List.lookup_nil]; split <;> simp_all
  | cons e rest ih =>
    obtain ⟨a, b⟩ := e
    by_cases hak : a = k
    · subst hak
      cases hk : k' == a <;> simp [put, List.lookup_cons, hk]
    · by_cases hka : k' = a
      · subst hka
        simp [put, hak]
      · have h1 : (k' == a) = false := by simpa using hka
        simp [put, List.lookup_cons, hak, h1, ih]

/-- A key that was set has the value it was set to, other keys keep theirs. -/
theorem get?_insert [LawfulBEq κ] (t : Table κ ν) (k k' : κ) (v : ν) :
    (t.insert k v).get? k' = if k' == k then some v else t.get? k' :=
  lookup_put k k' v t.entries

theorem lookup_filter_ne [LawfulBEq κ] (k k' : κ) (l : List (κ × ν)) :
    (l.filter fun e => !(e.1 == k)).lookup k' = if k' == k then none else l.lookup k' := by
  induction l with
  | nil => simp
  | cons e rest ih =>
    obtain ⟨a, b⟩ := e
    by_cases hak : a = k
    · subst hak
      have h : (rest.filter fun e => !(e.1 == a)).lookup k' =
          if k' == a then none else rest.lookup k' := ih
      cases hk : k' == a <;> simp [List.lookup_cons, hk, h]
    · have h : (a == k) = false := by simpa using hak
      cases hka : k' == a
      · simp [h, List.lookup_cons, hka, ih]
      · have : k' = a := by simpa using hka
        subst this
        simp [h]

/-- A key that was taken out has no value, other keys keep theirs. -/
theorem get?_erase [LawfulBEq κ] (t : Table κ ν) (k k' : κ) :
    (t.erase k).get? k' = if k' == k then none else t.get? k' :=
  lookup_filter_ne k k' t.entries

end Table

end SerialNumbers
