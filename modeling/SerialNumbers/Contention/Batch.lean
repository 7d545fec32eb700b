/-
  SerialNumbers.Contention.Batch

  Many numbers from one sequence: how calls are shared out among workers, how a
  worker tries again when others are in its way, and whether the numbers that
  came out are all different and leave no gap.
-/
import SerialNumbers.Issuer

namespace SerialNumbers.Contention

/-! ## Sharing out -/

/-- The calls of each worker: as even as possible, the first workers taking what is left
    over.  Workers without calls are left out. -/
def split (calls workers : Int) : Except Failure (List Int) :=
  if workers == 0 then .error .divisionByZero
  else
    let base := calls.fdiv workers
    let extra := calls.fmod workers
    let share (i : Nat) : Option Int :=
      if (i : Int) < extra then some (base + 1) else if base == 0 then none else some base
    .ok ((List.range workers.toNat).filterMap share)

/-! ## Batches -/

/-- What came of a batch of calls. -/
structure Batch where
  /-- Numbers with their counter values, in order. -/
  numbers : List (String × Int)
  /-- How often a call was tried again. -/
  retries : Int
  /-- How many calls were given up. -/
  failures : Int
deriving Repr

namespace Batch

def empty : Batch := ⟨[], 0, 0⟩

/-- Who asks for the numbers. -/
def causer : Value := .text "stress"

/-- One call, tried again up to a number of times; the outcome of the last try and the
    number of tries before it. -/
def tryCall (call : StoreM Issued) : Nat → Nat → StoreM (Except Failure Issued × Nat)
  | 0, tries => do return (← call.outcome, tries)
  | more + 1, tries => do
    match ← call.outcome with
    | .error e =>
      if e.isRetryable then tryCall call more (tries + 1) else return (.error e, tries)
    | done => return (done, tries)

/-- Adds one call to a batch. -/
def addCall (call : StoreM Issued) (attempts : Int) (b : Batch) : StoreM Batch := do
  match ← tryCall call (attempts - 1).toNat 0 with
  | (.ok issued, tries) =>
    return { b with numbers := b.numbers ++ [(issued.number, issued.counter)]
                    retries := b.retries + tries }
  | (.error e, _) =>
    if e.isRetryable then
      Store.note .warning Note.contentionPart "Generation gave up after retries"
        [("error", .text e.message)]
      return { b with retries := b.retries + (attempts - 1), failures := b.failures + 1 }
    else throw e

def addCalls (call : StoreM Issued) (attempts : Int) : Nat → Batch → StoreM Batch
  | 0, b => pure b
  | n + 1, b => do addCalls call attempts n (← addCall call attempts b)

/-- A batch of calls for numbers of one sequence. -/
def generate (i : Issuer) (row : Sequence) (calls attempts : Int) : StoreM Batch :=
  addCalls (i.generate row .empty causer none) attempts calls.toNat empty

end Batch

/-! ## Checking -/

/-- What the numbers of a run show. -/
structure Verdict where
  generated : Nat
  unique : Bool
  duplicates : Nat
  contiguous : Bool
  lastCounter : Int
deriving Repr, DecidableEq

/-- What the numbers show, by name. -/
def Verdict.toFields (v : Verdict) : List (String × Value) :=
  [("generated", .whole v.generated), ("unique", .truth v.unique),
   ("duplicates", .whole v.duplicates), ("contiguous", .truth v.contiguous),
   ("last_counter", .whole v.lastCounter)]

/-- The first `n` counter values after a start. -/
def progression (step start : Int) (n : Nat) : List Int :=
  (List.range n).map fun (i : Nat) => start + step * ((i : Int) + 1)

/-- Checks that all numbers are different and that the counter values, in whatever order,
    are the first ones after the start. -/
def check (numbers : List (String × Int)) (step start : Int) : Verdict :=
  let values := numbers.map (·.1)
  let counters := (numbers.map (·.2)).mergeSort fun a b => decide (a ≤ b)
  let distinct := values.eraseDups.length
  { generated := values.length
    unique := distinct == values.length
    duplicates := values.length - distinct
    contiguous := counters == progression step start counters.length
    lastCounter := counters.getLast?.getD start }

end SerialNumbers.Contention
