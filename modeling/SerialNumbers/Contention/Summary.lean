/-
  SerialNumbers.Contention.Summary

  Figures of contention runs: latencies and throughput of one run, and the
  median, mean, deviation and extremes of several.
-/
import SerialNumbers.Failure
import SerialNumbers.Fields
import SerialNumbers.Number.Sample

namespace SerialNumbers.Contention

open Number

/-! ## One run -/

/-- The percentages whose latencies are told. -/
def percentages : List Nat := [50, 95, 99]

/-- Latencies in milliseconds. -/
def latencies (seconds : List Amount) : List Amount :=
  seconds.map fun x => .real (x.toDouble.mul (Double.ofNat 1000))

/-- Percentiles and the greatest of some latencies, by name. -/
def latencySummary (values : List Amount) (places : Int) : List (String × Amount) :=
  percentages.map (fun p =>
    ("p" ++ toString p, (Sample.percentile values (Double.ofNat p)).round places)) ++
  [("max", (if values.isEmpty then .real Double.zero else Sample.greatest values).round places)]

/-- Numbers a second; zero before any time has passed. -/
def throughput (operations : Int) (seconds : Amount) : Double :=
  if (Amount.whole 0).lt seconds then (Double.ofInt operations).div seconds.toDouble
  else Double.zero

/-! ## Several runs -/

/-- Median, mean, deviation, least and greatest of a sample, rounded. -/
def summary (values : List Amount) (places : Int) : Except Failure (List (String × Amount)) :=
  if values.isEmpty then .error .emptySample
  else
    let deviation := if 1 < values.length then Sample.deviation values else Double.zero
    .ok <| [("median", Sample.median values), ("mean", Sample.mean values),
        ("stddev", .real deviation), ("min", Sample.least values),
        ("max", Sample.greatest values)].map fun (name, x) => (name, x.round places)

/-- The same figures cut to whole numbers. -/
def wholeSummary (values : List Amount) : List (String × Amount) :=
  let deviation := if 1 < values.length then (Sample.deviation values).truncate?.getD 0 else 0
  [("median", .whole (Sample.median values).truncate),
   ("mean", .whole (Sample.mean values).truncate), ("stddev", .whole deviation),
   ("min", Sample.least values), ("max", Sample.greatest values)]

def amountOf : Value → Amount
  | .whole n => .whole n
  | .real x => .real x
  | .truth b => .whole (if b then 1 else 0)
  | _ => .whole 0

def valueOf : Amount → Value
  | .whole n => .whole n
  | .real x => .real x

/-- Figures as a record. -/
def recordOf (figures : List (String × Amount)) : Value :=
  .record (figures.map fun (name, x) => (name, valueOf x))

/-- The value of a field that every run has. -/
def fieldOf (name : String) (run : Fields) : Except Failure Value :=
  match run.get? name with
  | some v => .ok v
  | none => .error .absentKey

/-- The value of a field, unless it is absent or counts as nothing. -/
def givenField (name : String) (run : Fields) : Option Value :=
  (run.get? name).filter fun v => !v.isEmptyLike

/-- The field holds for all runs; those after the first for which it does not are not
    looked at. -/
def holdsForAll (name : String) : List Fields → Except Failure Bool
  | [] => .ok true
  | run :: rest => do
    if (← fieldOf name run).isEmptyLike then return false else holdsForAll name rest

/-- The total of a whole field. -/
def total (name : String) (runs : List Fields) : Except Failure Value := do
  let values ← runs.mapM (fieldOf name)
  return .whole (values.foldl (fun n v => n + (amountOf v).truncate) 0)

/-- The latency below which 95 of 100 calls of a run stay, if it was measured. -/
def typicalLatency? (run : Fields) : Except Failure (Option Value) :=
  match givenField "latency_ms" run with
  | some (.record entries) => do return some (← fieldOf "p95" (Table.ofList entries))
  | some _ => .error .incomparable
  | none => .ok none

/-- The figures of several runs together. -/
def aggregate (runs : List Fields) : Except Failure (List (String × Value)) := do
  let durations ← runs.mapM (fieldOf "duration_seconds")
  let throughputs ← runs.mapM (fieldOf "throughput_per_sec")
  let shares := runs.filterMap (givenField "cpu_percent")
  let sizes := runs.filterMap (givenField "peak_rss_bytes")
  let typical ← runs.filterMapM typicalLatency?
  let figures (values : List Value) (places : Int) : Except Failure Value := do
    return recordOf (← summary (values.map amountOf) places)
  let part (name : String) (values : List Value) (places : Int) :
      Except Failure (List (String × Value)) := do
    if values.isEmpty then return [] else return [(name, ← figures values places)]
  let duration ← figures durations 2
  let rate ← figures throughputs 2
  let first : Fields := runs.headD .empty
  let calls ← fieldOf "calls" first
  let unique ← holdsForAll "unique" runs
  let contiguous ← holdsForAll "contiguous" runs
  let failures ← total "failures" runs
  let retries ← total "retries" runs
  return [("duration_seconds", duration), ("throughput_per_sec", rate), ("calls", calls),
      ("unique", .truth unique), ("contiguous", .truth contiguous), ("failures", failures),
      ("retries", retries)] ++
    (← part "p95_latency_ms" typical 3) ++ (← part "cpu_percent" shares 1) ++
    (if sizes.isEmpty then []
     else [("peak_rss_bytes", recordOf (wholeSummary (sizes.map amountOf)))])

end SerialNumbers.Contention
