/-
  SerialNumbers.Contention.Run

  Contention runs: a fresh sequence, calls shared out among workers, and a
  verdict on the numbers.  Times and sizes are measured outside and handed in.
-/
import SerialNumbers.Contention.Batch
import SerialNumbers.Contention.Summary
import SerialNumbers.Settings
import SerialNumbers.Text.Json

namespace SerialNumbers.Contention

open Number

/-! ## Plans -/

/-- How a run is to be made. -/
structure Plan where
  /-- Whether workers are threads or processes. -/
  mode : String
  calls : Int
  workers : Int
  pattern : String
  /-- How often a call is tried. -/
  attempts : Int
  runs : Int
deriving Repr

namespace Plan

def threads : String := "threads"
def processes : String := "processes"

/-- The pattern of the numbers when no other is given. -/
def usualPattern : String := "ST-\x7bCOUNTER:8\x7d"

/-- A number that is given and not zero, or else another. -/
def orElse (given : Option Int) (other : Int) : Int :=
  match given with
  | none => other
  | some n => if n == 0 then other else n

/-- A plan; what is not given comes from the settings. -/
def ofSettings (s : Settings) (mode pattern : String) (calls workers : Option Int) (runs : Int) :
    Plan :=
  { mode, pattern, runs, attempts := 5
    calls := orElse calls s.calls
    workers := max 1 (orElse workers s.workers) }

end Plan

/-! ## Runs -/

/-- What is measured of a run. -/
structure Measures where
  seconds : Amount
  /-- Seconds that each call took. -/
  waits : List Amount
  /-- Bytes that were in use at most. -/
  peak : Option Int
  /-- Share of a processor. -/
  share : Option Double
deriving Repr

/-- Nothing was measured. -/
def Measures.none : Measures := ⟨.whole 0, [], .none, .none⟩

structure Run where
  mode : String
  store : String
  index : Int
  sequence : String
  calls : Int
  workers : Int
  verdict : Verdict
  failures : Int
  retries : Int
deriving Repr

namespace Run

/-- The tenant of the sequences of contention runs. -/
def tenant : String := "stress"

/-- The result of a run as a record. -/
def fields (r : Run) (m : Measures) : List (String × Value) :=
  [("mode", .text r.mode), ("store", .text r.store), ("run", .whole r.index),
   ("sequence_name", .text r.sequence), ("calls", .whole r.calls),
   ("workers", .whole r.workers)] ++ r.verdict.toFields ++
  [("failures", .whole r.failures), ("retries", .whole r.retries),
   ("duration_seconds", valueOf (m.seconds.round 2)),
   ("throughput_per_sec", .real ((throughput r.verdict.generated m.seconds).round 2)),
   ("latency_ms", recordOf (latencySummary (latencies m.waits) 3)),
   ("peak_rss_bytes", Sequence.wholeOrNone m.peak),
   ("cpu_percent", m.share.elim .none fun x => .real (x.round 1))]

/-- A sequence for one run. -/
def freshSequence (i : Issuer) (p : Plan) (index : Int) : StoreM Sequence := do
  let suffix := (← get).nextId
  i.create
    { tenant := .text tenant, name := .text s!"stress-{p.mode}-{index}-{suffix}"
      pattern := p.pattern, padding := .whole 8 } none

/-- One run of a plan. -/
def once (i : Issuer) (p : Plan) (index : Int) : StoreM Run := do
  let row ← freshSequence i p index
  let shares ← StoreM.ofExcept (split p.calls p.workers)
  let batches ← shares.mapM fun calls => Batch.generate i row calls p.attempts
  return {
    mode := p.mode
    store := (← get).backing.name
    index
    sequence := row.name
    calls := p.calls
    workers := p.workers
    verdict := check (batches.flatMap (·.numbers)) row.step 0
    failures := (batches.map (·.failures)).foldr (· + ·) 0
    retries := (batches.map (·.retries)).foldr (· + ·) 0 }

/-- Makes a number of runs, the first of which has the given index. -/
def times (i : Issuer) (p : Plan) : Nat → Int → StoreM (List Run)
  | 0, _ => return []
  | n + 1, index => do
    let run ← once i p index
    return run :: (← times i p n (index + 1))

end Run

/-! ## Results -/

/-- The results of some runs as records: one for each, or one for all if there are
    several. -/
def results (p : Plan) (runs : List Run) (measures : Run → Measures) :
    Except Failure (List (List (String × Value))) :=
  let records := runs.map fun r => r.fields (measures r)
  match runs with
  | first :: _ :: _ => do
    let figures ← aggregate (records.map Table.ofList)
    return [figures ++
      [("mode", .text p.mode), ("store", .text first.store), ("workers", .whole p.workers),
       ("runs", .whole p.runs), ("individual_runs", .list (records.map .record))]]
  | _ => .ok records

/-- Makes the runs of a plan.  Processes share their numbers only through a database. -/
def runAll (i : Issuer) (p : Plan) : StoreM (List Run) := do
  if p.mode == Plan.processes && (← get).backing == .memory then
    throw (.value .sharedStoreNeeded)
  Run.times i p p.runs.toNat 1

/-! ## Archives -/

/-- The name of the file with the last results. -/
def latestName : String := "latest.json"

/-- The name of the file that keeps results of a moment. -/
def archiveName (now : Time.Moment) : String :=
  let d := now.date
  "run-" ++ Text.natText 4 d.year ++ Text.natText 2 d.month ++ Text.natText 2 d.day ++ "T" ++
    Text.natText 2 now.hour ++ Text.natText 2 now.minute ++ Text.natText 2 now.second ++
    "Z.json"

/-- Results with what they are results of. -/
def archive (p : Plan) (store : String) (now : Time.Moment)
    (records : List (List (String × Value))) : Value :=
  .record
    [("timestamp", .text now.isoText), ("mode", .text p.mode), ("store", .text store),
     ("results", .list (records.map .record))]

/-- The files of results: their names and texts. -/
def files (p : Plan) (store : String) (now : Time.Moment)
    (records : List (List (String × Value))) : Except Failure (List (String × String)) := do
  let text ← Json.indentedText (Json.sorted (archive p store now records))
  return [(latestName, text), (archiveName now, text)]

end SerialNumbers.Contention
