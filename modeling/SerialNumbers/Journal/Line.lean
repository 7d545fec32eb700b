/-
  SerialNumbers.Journal.Line

  Notes as they are written down: as one JSON object a line, or as a line for
  people with a tag that names the sequence.
-/
import SerialNumbers.Journal
import SerialNumbers.Journal.Message
import SerialNumbers.Number.Sample
import SerialNumbers.Table
import SerialNumbers.Text.Json

namespace SerialNumbers.Journal

open Number Time

/-! ## Tags -/

/-- The sequence that some fields are about, as a short text; empty if they name none. -/
def tag (fields : Table String Value) : Except Failure String := do
  let given (name : String) : Option Value :=
    match fields.get? name with
    | some .none | none => none
    | found => found
  let shown (name : String) : Except Failure String := (given name).elim (.ok "?") Value.shown
  if (given "tenant_id").isNone && (given "sequence_name").isNone then return ""
  let names := (← shown "tenant_id") ++ "/" ++ (← shown "sequence_name")
  match given "counter" with
  | none => return names
  | some counter => return names ++ " #" ++ (← counter.shown)

/-! ## Lines -/

/-- A note with all that belongs to it. -/
structure Line where
  /-- Seconds since 1970. -/
  writtenAt : Amount
  level : String
  part : String
  message : String
  /-- The values for the places of the message. -/
  values : List Value
  /-- The text of an error. -/
  error : Option String
  /-- The text of the calls that led here. -/
  calls : Option String
  /-- All other fields, in order. -/
  fields : List (String × Value)
deriving Repr

namespace Line

/-- The names of what every line has; fields of these names are not details. -/
def ownNames : List String :=
  ["name", "msg", "args", "levelname", "levelno", "pathname", "filename", "module", "exc_info",
   "exc_text", "stack_info", "lineno", "funcName", "created", "msecs", "relativeCreated",
   "thread", "threadName", "processName", "process", "taskName", "message", "asctime", "extra"]

/-- A text field that takes the place of a part of the line. -/
def replaced (fields : List (String × Value)) (name usual : String) : Except Failure String :=
  ((Table.ofList fields).get? name).elim (.ok usual) Value.shown

/-- The line with the fields that stand for its own parts put in their place. -/
def settled (l : Line) : Except Failure Line := do
  return { l with
    level := ← replaced l.fields "levelname" l.level
    part := ← replaced l.fields "name" l.part
    message := ← replaced l.fields "msg" l.message }

/-- The fields that are details, with those of a nested record behind them. -/
def details (l : Line) : Table String Value :=
  let own := l.fields.filter fun (name, _) =>
    !ownNames.contains name && name.toList.head? != some '_'
  let nested := match (Table.ofList l.fields).get? "extra" with
    | some (.record entries) => entries
    | _ => []
  .ofList (own ++ nested)

/-- The message with its places filled. -/
def text (l : Line) : Except Failure String := do
  filled (← l.settled).message l.values

/-- The moment of writing in universal time, to the nearest microsecond. -/
def moment (l : Line) : Except Failure Moment :=
  let q := l.writtenAt.toRat
  let seconds := Int.tdiv q.num q.den
  let rest := (Double.ofRat (q - seconds)).mul (Double.ofNat 1000000)
  let scaled := rest.toRat
  let size := roundHalfEven scaled.num.natAbs scaled.den
  let micros : Int := if scaled.num < 0 then -(size : Int) else size
  let reading := Moment.epochReading + seconds * microsPerSecond + micros
  if Moment.inRange reading then .ok ⟨reading, some .utc, false⟩ else .error .timeOverflow

/-- The text of an error behind the word for its kind. -/
def errorText (message : String) : String :=
  if message.isEmpty then "ValueError" else "ValueError: " ++ message

/-- The line as a JSON object: the parts of the line, then the details, which may take the
    place of parts. -/
def json (l : Line) : Except Failure String := do
  let l ← l.settled
  let parts : List (String × Value) :=
    [("timestamp", .text (← l.moment).isoText), ("level", .text l.level),
     ("logger", .text l.part), ("message", .text (← l.text))] ++
    (l.error.map fun e => ("exc_info", Value.text (errorText e))).toList ++
    (l.calls.map fun c => ("stack_info", Value.text c)).toList
  Json.lineText (.record (Table.ofList (parts ++ l.details.entries)).entries)

/-- Puts a text on a line of its own behind another. -/
def below (s : String) (more : Option String) : String :=
  match more with
  | none => s
  | some more =>
    if more.isEmpty then s
    else if s.toList.getLast? == some '\n' then s ++ more
    else s ++ "\n" ++ more

/-- The line for people; the tag stands at the end of its first line. -/
def console (l : Line) : Except Failure String := do
  let l ← l.settled
  let head := (← l.moment).plainText ++ " | " ++ l.level ++ " | " ++ l.part ++ " | " ++ (← l.text)
  let whole := below (below head (l.error.map errorText)) l.calls
  let tag ← tag l.details
  if tag.isEmpty then return whole
  let cs := whole.toList
  let first := cs.takeWhile (· != '\n')
  return String.ofList first ++ " [" ++ tag ++ "]" ++ String.ofList (cs.drop first.length)

/-- A note that was left at a time. -/
def ofNote (n : Note) (writtenAt : Amount) : Line :=
  { writtenAt, level := n.level.name, part := n.part, message := n.message, values := []
    error := none, calls := none, fields := n.fields }

end Line

/-- Writes down the notes that are grave enough. -/
def written (least : Level) (asJson : Bool) (writtenAt : Amount) (notes : List Note) :
    Except Failure (List String) :=
  (notes.filter fun n => least.rank ≤ n.level.rank).mapM fun n =>
    if asJson then (Line.ofNote n writtenAt).json else (Line.ofNote n writtenAt).console

end SerialNumbers.Journal
