/-
  SerialNumbers.Report.Tables

  The reports of the engine as tables: the log, pre-built patterns, a sequence,
  and the results of contention runs.  Texts may hold style tags, which are not
  shown.
-/
import SerialNumbers.Catalog.Basic
import SerialNumbers.Contention.Summary
import SerialNumbers.LogEntry
import SerialNumbers.Report.Grid
import SerialNumbers.Text.Markup

namespace SerialNumbers.Report

open Number Text

/-! ## Parts -/

/-- A text without its style tags. -/
def unstyled (s : String) : Except Failure String :=
  (Markup.plain? s).elim (.error .badMarkup) .ok

def cellOf (s : String) : Except Failure Cell :=
  Grid.cell <$> unstyled s

/-- A column with a heading of one or more lines. -/
def column (heading : String) (side : Side) : Column :=
  ⟨Grid.cell heading, side⟩

def rowOf (texts : List String) : Except Failure (List Cell) :=
  texts.mapM cellOf

/-- A text, or a dash for an empty one. -/
def orDash (s : String) : String :=
  if s.isEmpty then "-" else s

/-! ## The log -/

/-- The entries of a log, which come newest first. -/
def ofHistory (entries : List LogEntry) : Except Failure (List String) := do
  if entries.isEmpty then return ["No log entries found."]
  let rows ← entries.mapM fun e => do
    rowOf [e.createdAt.plainText, e.action.name, orDash e.number, ← numeral e.counter,
      orDash (e.causer.getD ""), e.reason.getD ""]
  return Grid.lines
    { title := "Serial Number Log"
      caption := some "Newest first"
      columns := [column "When (UTC)" .left, column "Action" .left, column "Number" .left,
        column "Counter" .right, column "Causer" .left, column "Reason" .left]
      showsHeadings := true
      rows }

/-! ## Pre-built patterns -/

def ofCatalog (ts : List Prebuilt) : Except Failure (List String) := do
  if ts.isEmpty then return ["No templates match."]
  let rows ← ts.mapM fun t => rowOf
    [t.id, t.category, t.pattern, orDash (", ".intercalate t.required), ", ".intercalate t.tags]
  return Grid.lines
    { title := "Pattern Templates"
      caption := none
      columns := [column "Id" .left, column "Category" .left, column "Pattern" .left,
        column "Required context" .left, column "Tags" .left]
      showsHeadings := true
      rows }

/-! ## Sequences -/

def ofSequence (s : Sequence) : Except Failure (List String) := do
  let title ← unstyled (s.tenant ++ "/" ++ s.name)
  let rows ← List.mapM (fun (name, value) => rowOf [name, value])
    [("pattern", s.pattern), ("current_value", ← numeral s.current),
     ("step_size", ← numeral s.step), ("padding", ← numeral s.padding),
     ("reset_period", s.period.name), ("reset_limit", ← s.limit.elim (.ok "-") numeral),
     ("last_reset_at", s.lastResetAt.elim "-" (·.isoText)), ("version", ← numeral s.version)]
  return Grid.lines
    { title, caption := none, columns := [column "Field" .left, column "Value" .left]
      showsHeadings := false, rows }

/-! ## Contention runs -/

/-- A number with two digits behind the point. -/
def twoPlaces (separate : Bool) : Value → Except Failure String
  | .whole n => .ok ((Double.ofInt n).fixedText 2 separate)
  | .truth b => .ok ((Double.ofNat (if b then 1 else 0)).fixedText 2 separate)
  | .real x => .ok (x.fixedText 2 separate)
  | _ => .error .badArguments

/-- A whole number in groups of three digits. -/
def groupedText : Value → Except Failure String
  | .whole n => do
    let digits ← numeral n.natAbs
    return (if n < 0 then "-" else "") ++ String.ofList (Double.grouped digits.toList)
  | .truth b => .ok (if b then "1" else "0")
  | _ => .error .badArguments

/-- A field of a record inside a record; none if either is not there. -/
def inner? (f : Fields) (outer name : String) : Option Value :=
  match f.get? outer with
  | some (.record entries) => entries.lookup name
  | _ => none

/-- A field of a record inside a record, both of which must be there. -/
def inner (f : Fields) (outer name : String) : Except Failure Value := do
  match ← Contention.fieldOf outer f with
  | .record entries => Contention.fieldOf name ⟨entries⟩
  | _ => throw .badArguments

/-- A latency, or a dash if there is none. -/
def latencyText : Option Value → Except Failure String
  | none | some .none => .ok "-"
  | some v => twoPlaces false v

def verdictText (f : Fields) (name : String) : String :=
  if (Contention.givenField name f).isSome then "yes" else "NO"

/-- The result stands for several runs. -/
def isAggregate (f : Fields) : Bool :=
  match f.get? "runs" with
  | some (.whole n) => 1 < n
  | _ => false

/-- The measured figures of a result. -/
def figures (aggregate : Bool) (f : Fields) : Except Failure (List String) := do
  if aggregate then
    let middle ← twoPlaces false (← inner f "duration_seconds" "median")
    let spread ← twoPlaces false (← inner f "duration_seconds" "stddev")
    let runs ← (← Contention.fieldOf "runs" f).shown
    let rate ← twoPlaces true (← inner f "throughput_per_sec" "median")
    return [runs, middle ++ " ± " ++ spread, rate, ← latencyText (inner? f "p95_latency_ms" "median")]
  else
    let figure (name : String) : Value := (f.get? name).getD (.real Double.zero)
    let duration ← twoPlaces false (figure "duration_seconds")
    let rate ← twoPlaces true (figure "throughput_per_sec")
    return [duration, rate, ← latencyText (inner? f "latency_ms" "p95")]

/-- The row of a result. -/
def resultRow (aggregate : Bool) (f : Fields) : Except Failure (List Cell) := do
  let shown (name usual : String) : Except Failure String :=
    (f.get? name).elim (.ok usual) Value.shown
  let calls ← groupedText ((f.get? "calls").getD (.whole 0))
  rowOf ([← shown "mode" "?", ← shown "store" "?", ← shown "workers" "0", calls] ++
    (← figures aggregate f) ++
    [verdictText f "unique", verdictText f "contiguous", ← shown "retries" "0",
     ← shown "failures" "0"])

/-- The columns of the measured figures. -/
def figureColumns (aggregate : Bool) : List Column :=
  if aggregate then
    [column "Runs" .right, column "Duration (s)\n(Median ± StdDev)" .right,
     column "Throughput (gen/s)\n(Median)" .right, column "p95 (ms)\n(Median)" .right]
  else
    [column "Duration (s)" .right, column "Throughput (gen/s)" .right,
     column "p95 (ms)" .right]

/-- The results of contention runs; the first one tells whether they stand for several runs
    each. -/
def ofResults (results : List Fields) : Except Failure (List String) := do
  match results with
  | [] => return ["No results to display."]
  | first :: _ =>
    let aggregate := isAggregate first
    let rows ← results.mapM (resultRow aggregate)
    return Grid.lines
      { title := "Sequence Contention Results"
        caption := none
        columns := [column "Mode" .left, column "Store" .left, column "Workers" .right,
          column "Calls" .right] ++ figureColumns aggregate ++
          [column "Unique" .middle, column "Contiguous" .middle, column "Retries" .right,
           column "Failures" .right]
        showsHeadings := true
        rows }

end SerialNumbers.Report
