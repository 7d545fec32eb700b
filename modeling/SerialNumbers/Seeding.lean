/-
  SerialNumbers.Seeding

  The sequences that a tenant starts with.  Seeding makes those that are missing
  and brings the configuration of the others up to date; counters stay as they
  are.
-/
import SerialNumbers.Store.Basic

namespace SerialNumbers

open Time

structure Seed where
  name : String
  pattern : Value
  period : Value
  padding : Value
  metadata : List (String × Value)

namespace Seed

/-- A seed with a description. -/
def described (name pattern : String) (period : Period) (padding : Int)
    (description : String) : Seed :=
  { name, pattern := .text pattern, period := .text period.name, padding := .whole padding
    metadata := [("description", .text description)] }

/-- The usual sequences of a tenant. -/
def usual : List Seed :=
  [described "invoices" "INV-\x7bYEAR\x7d-\x7bCOUNTER:5\x7d" .yearly 5 "Sales invoices",
   described "purchase_orders" "PO-\x7bYEAR:2\x7d\x7bMONTH\x7d-\x7bCOUNTER:4\x7d" .monthly 4
     "Purchase orders",
   described "receipts" "RCP-\x7bYEAR\x7d-\x7bCOUNTER:6\x7d" .yearly 6 "Payment receipts",
   described "quotations" "QT-\x7bYEAR:2\x7d\x7bMONTH\x7d-\x7bCOUNTER:4\x7d" .yearly 4
     "Sales quotations",
   described "credit_notes" "CN-\x7bYEAR\x7d-\x7bCOUNTER:5\x7d" .yearly 5 "Credit notes",
   described "delivery_orders" "DO-\x7bYEAR:2\x7d\x7bMONTH\x7d\x7bDAY\x7d-\x7bCOUNTER:3\x7d"
     .daily 3 "Delivery orders"]

/-- The configuration that a seed asks for. -/
def configuration (seed : Seed) : List (String × Value) :=
  [("pattern", seed.pattern), ("reset_period", seed.period), ("padding", seed.padding),
   ("metadata", .record seed.metadata)]

/-- What was done for a seed. -/
inductive Outcome where
  | created
  | updated
deriving Repr, DecidableEq

def Outcome.name : Outcome → String
  | created => "created"
  | updated => "updated"

/-- Makes or updates the sequence of a seed. -/
def plant (tenant : String) (seed : Seed) : StoreM Outcome := do
  match ← Store.find (tenant, seed.name) with
  | none =>
    let row ← StoreM.ofExcept (Sequence.ofFields (← get).clock (Table.ofList
      ([("tenant_id", .text tenant), ("sequence_name", .text seed.name)] ++
        seed.configuration)))
    let _ ← Store.create row
    return .created
  | some _ =>
    let _ ← Store.update (tenant, seed.name) none seed.configuration
    return .updated

/-- Plants seeds in order; tells for each name what was done last. -/
def plantAll (tenant : String) : List Seed → Table String Outcome →
    StoreM (Table String Outcome)
  | [], done => return done
  | seed :: rest, done => do
    let outcome ← seed.plant tenant
    plantAll tenant rest (done.insert seed.name outcome)

end Seed

/-- Seeds a tenant; without seeds of its own it gets the usual ones. -/
def seedTenant (tenant : String) (seeds : List Seed) : StoreM (Table String Seed.Outcome) :=
  Seed.plantAll tenant (if seeds.isEmpty then Seed.usual else seeds) .empty

end SerialNumbers
