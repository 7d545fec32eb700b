/-
  SerialNumbers.Context

  The caller's variables for one number.  Keys are matched whatever their case:
  two spellings with one upper-case form are one key, which stands where it came
  first and is spelled as it came last.
-/
import SerialNumbers.Table
import SerialNumbers.Value
import SerialNumbers.Text.Case

namespace SerialNumbers

open Text

/-- Upper-case keys with their spelling and value. -/
structure Context where
  items : Table String (String × Value)
deriving Repr, Inhabited

namespace Context

def empty : Context := ⟨Table.empty⟩

/-- Sets a key, in the spelling given. -/
def set (c : Context) (key : String) (value : Value) : Context :=
  ⟨c.items.insert (upper key) (key, value)⟩

/-- The context of a list of pairs; later pairs win. -/
def ofPairs (pairs : List (String × Value)) : Context :=
  pairs.foldl (fun c e => c.set e.1 e.2) empty

/-- The keys as spelled, with their values, in order. -/
def toPairs (c : Context) : List (String × Value) :=
  c.items.values

def get? (c : Context) (key : String) : Option Value :=
  (c.items.get? (upper key)).map (·.2)

def has (c : Context) (key : String) : Bool :=
  c.items.contains (upper key)

def size (c : Context) : Nat :=
  c.items.size

theorem get?_set (c : Context) (key key' : String) (value : Value) :
    (c.set key value).get? key' = if upper key' == upper key then some value else c.get? key' := by
  unfold set get?
  rw [Table.get?_insert]
  split <;> rfl

/-- Of several pairs that are added in turn, the last one with a key gives its value. -/
theorem get?_foldl_set (pairs : List (String × Value)) (c : Context) (key : String) :
    (pairs.foldl (fun c e => c.set e.1 e.2) c).get? key =
      ((pairs.reverse.find? fun e => upper key == upper e.1).map (·.2)).or (c.get? key) := by
  induction pairs generalizing c with
  | nil => simp
  | cons e rest ih =>
    rw [List.foldl_cons, ih, get?_set, List.reverse_cons, List.find?_append, Option.map_or,
      Option.or_assoc]
    cases h : upper key == upper e.1 <;> simp [h]

/-- In a context that is made of pairs a key has its last value. -/
theorem get?_ofPairs (pairs : List (String × Value)) (key : String) :
    (ofPairs pairs).get? key =
      (pairs.reverse.find? fun e => upper key == upper e.1).map (·.2) := by
  unfold ofPairs
  rw [get?_foldl_set]
  exact Option.or_none

/-- The rendered value of a key; the default if there is none. -/
def rendered (c : Context) (key : String) (default : String) : Except Failure String :=
  match c.get? key with
  | none | some .none => .ok default
  | some value => value.rendered

/-- The value of the first key that is present. -/
def firstOf (c : Context) (keys : List String) : Option Value :=
  keys.findSome? c.get?

/-- The keys that are not present. -/
def missing (c : Context) (keys : List String) : List String :=
  keys.filter fun key => !c.has key

/-- Takes out the entries whose upper-case key is one of those given. -/
def dropKeys (c : Context) (uppers : List String) : List (String × Value) :=
  c.toPairs.filter fun e => !uppers.contains (upper e.1)

/-- Values of the engine take the place of the caller's. -/
def withBuiltins (c : Context) (builtins : List (String × Value)) : Context :=
  ofPairs (c.dropKeys (builtins.map fun e => upper e.1) ++ builtins)

/-- The context without the given keys. -/
def without (c : Context) (keys : List String) : Context :=
  ofPairs (c.dropKeys (keys.map upper))

/-- What is kept of a value in the log: a plain value as it is, others rendered. -/
def kept (v : Value) : Except Failure Value :=
  if v.isPlain then .ok v else .text <$> v.rendered

/-- What is kept of the context in the log. -/
def snapshot (c : Context) : Except Failure (List (String × Value)) :=
  c.toPairs.mapM fun e => do return (e.1, ← kept e.2)

/-- The context as one line of text. -/
def describe (c : Context) : Except Failure String := do
  return "GenerationContext(" ++ (← (Value.record c.toPairs).literal) ++ ")"

end Context

end SerialNumbers
