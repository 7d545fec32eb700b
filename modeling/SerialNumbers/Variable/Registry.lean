/-
  SerialNumbers.Variable.Registry

  The custom variables in use, by name.  A name must be one that a token can
  hold, must not belong to the engine, and is held once.
-/
import SerialNumbers.Variable.Builtin
import SerialNumbers.Variable.Stock

namespace SerialNumbers

open Text

structure Registry where
  byName : Table String Variable

namespace Registry

def empty : Registry := ⟨Table.empty⟩

/-- The variable of a name, in whatever case the name is written. -/
def get? (r : Registry) (name : String) : Option Variable :=
  r.byName.get? (upper name)

def has (r : Registry) (name : String) : Bool :=
  (r.get? name).isSome

def size (r : Registry) : Nat :=
  r.byName.size

/-- The names in order. -/
def names (r : Registry) : List String :=
  Failure.sortedKeys r.byName.keys

/-- The variables in the order of their names. -/
def all (r : Registry) : List Variable :=
  r.names.filterMap r.byName.get?

/-- Adds a variable under its name. -/
def register (r : Registry) (v : Variable) : Except Failure Registry :=
  if !v.hasValidName then .error (.registration (.badName v.name))
  else if Builtin.isReserved v.name then .error (.registration (.reserved v.name))
  else if r.byName.contains v.name then .error (.registration (.taken v.name))
  else .ok ⟨r.byName.insert v.name v⟩

/-- Takes a variable out, in whatever case its name is written. -/
def remove (r : Registry) (name : String) : Registry :=
  ⟨r.byName.erase (upper name)⟩

/-- Adds the stock variables whose names are free. -/
def withDefaults (r : Registry) : Registry :=
  Stock.all.foldl (fun r v => if r.has v.name then r else ⟨r.byName.insert v.name v⟩) r

end Registry

end SerialNumbers
