/-
  SerialNumbers.Catalog.Query

  The catalog of pre-built patterns: adding one under a free identifier,
  browsing by category, tag and search text, and counting.  Answers come in the
  order of the identifiers.
-/
import SerialNumbers.Catalog.Stock

namespace SerialNumbers

open Text

structure Catalog where
  patterns : Table String Prebuilt
deriving Repr

namespace Catalog

def empty : Catalog := ⟨.empty⟩

/-- Adds a pattern under its identifier. -/
def register (c : Catalog) (t : Prebuilt) : Except Failure Catalog :=
  if c.patterns.contains t.id then .error (.value (.templateTaken t.id))
  else .ok ⟨c.patterns.insert t.id t⟩

/-- The catalog of some patterns. -/
def ofList (ts : List Prebuilt) : Except Failure Catalog :=
  ts.foldlM register empty

/-- The catalog that comes with the engine. -/
def stock : Catalog :=
  ⟨Table.ofList (Prebuilt.stock.map fun t => (t.id, t))⟩

def size (c : Catalog) : Nat :=
  c.patterns.size

def has (c : Catalog) (id : String) : Bool :=
  c.patterns.contains id

/-- The pattern of an identifier. -/
def get (c : Catalog) (id : String) : Except Failure Prebuilt :=
  match c.patterns.get? id with
  | some t => .ok t
  | none => .error (.templateNotFound id)

/-! ## Browsing -/

/-- All patterns in the order of their identifiers. -/
def all (c : Catalog) : List Prebuilt :=
  (Failure.sortedKeys c.patterns.keys).filterMap c.patterns.get?

def hasCategory (category : String) (t : Prebuilt) : Bool :=
  lower t.category == lower category

def hasTag (tag : String) (t : Prebuilt) : Bool :=
  t.tags.contains (lower tag)

def byCategory (c : Catalog) (category : String) : List Prebuilt :=
  c.all.filter (hasCategory category)

def byTag (c : Catalog) (tag : String) : List Prebuilt :=
  c.all.filter (hasTag tag)

def search (c : Catalog) (query : String) : List Prebuilt :=
  c.all.filter (·.answers query)

def contextFree (c : Catalog) : List Prebuilt :=
  c.all.filter (·.isContextFree)

/-- What patterns are asked for; empty texts ask for nothing. -/
structure Filter where
  category : Option String := none
  tag : Option String := none
  search : Option String := none
  contextFree : Option Bool := none

/-- Keeps what passes a test, if there is something to test for. -/
def keepIf (wanted : Option String) (test : String → Prebuilt → Bool) (ts : List Prebuilt) :
    List Prebuilt :=
  match wanted with
  | none => ts
  | some s => if s.isEmpty then ts else ts.filter (test s)

/-- The patterns that pass every filter. -/
def list (c : Catalog) (f : Filter) : List Prebuilt :=
  let ts := keepIf f.category hasCategory c.all
  let ts := keepIf f.tag hasTag ts
  let ts := keepIf f.search (fun query t => t.answers query) ts
  match f.contextFree with
  | none => ts
  | some wanted => ts.filter (·.isContextFree == wanted)

/-! ## Counting -/

def categories (c : Catalog) : List String :=
  Failure.sortedKeys (c.all.map (·.category)).eraseDups

def tags (c : Catalog) : List String :=
  Failure.sortedKeys (c.all.flatMap (·.tags)).eraseDups

/-- How often each text occurs, in the order of the texts. -/
def tally (texts : List String) : List (String × Nat) :=
  (Failure.sortedKeys texts.eraseDups).map fun s => (s, texts.count s)

structure Stats where
  total : Nat
  contextFree : Nat
  byCategory : List (String × Nat)
  byTag : List (String × Nat)
deriving Repr

def stats (c : Catalog) : Stats :=
  { total := c.all.length
    contextFree := c.contextFree.length
    byCategory := tally (c.all.map (·.category))
    byTag := tally (c.all.flatMap (·.tags)) }

end Catalog

end SerialNumbers
