/-
  SerialNumbers.CommandLine.Run

  Running commands on a store: what they print, what they leave in files, and
  the code that they end with.
-/
import SerialNumbers.Catalog.Preview
import SerialNumbers.CommandLine.Command
import SerialNumbers.Database.Pool
import SerialNumbers.History
import SerialNumbers.Report.Tables
import SerialNumbers.Seeding

namespace SerialNumbers.CommandLine

open Number Text Time

/-! ## Work -/

/-- What a command works with, and what it has printed and written so far. -/
structure Desk where
  store : Store
  printed : List String
  files : List (String × String)

/-- Why a command ends early. -/
inductive Stop where
  | failed (cause : Failure)
  /-- The command line is wrong. -/
  | misused
  /-- The answer of the command is no. -/
  | refused

abbrev Work (α : Type) := ExceptT Stop (StateM Desk) α

namespace Work

/-- Does something with the store. -/
def onStore {α : Type} (act : StoreM α) : Work α :=
  fun desk =>
    let (result, store) := act desk.store
    (result.mapError .failed, { desk with store })

def ofExcept {α : Type} (x : Except Failure α) : Work α :=
  ExceptT.mk (pure (x.mapError .failed))

/-- Prints lines as they are. -/
def print (lines : List String) : Work Unit :=
  modify fun desk => { desk with printed := desk.printed ++ lines }

/-- The width of the terminal. -/
def terminalWidth : Nat := 400

/-- Prints a text without its style tags. -/
def printStyled (text : String) : Work Unit := do
  let plain ← ofExcept (Report.unstyled text)
  print ((plain.toList.splitOn '\n').flatMap fun line =>
    (Wrapped.lines terminalWidth line).map String.ofList)

end Work

open Work

/-- What surrounds a command. -/
structure Surroundings where
  settings : Settings
  /-- The database's own library can read a connection text. -/
  isReadable : String → Bool
  /-- What is measured of a contention run. -/
  measures : Contention.Run → Contention.Measures

namespace Surroundings

/-- Registers the stock variables. -/
def issuer (s : Surroundings) : Issuer :=
  ⟨Registry.empty.withDefaults, s.settings.zone⟩

/-- Makes the settings for notes effective; the level must be one that there is. -/
def start (s : Surroundings) : Work Unit := do
  let _ ← ofExcept (Level.named s.settings.logLevel)

end Surroundings

/-! ## Contexts -/

/-- The entries of a context that are given as texts, each with a key before its first
    equality sign. -/
def entriesOf : List String → Work (List (String × Value))
  | [] => pure []
  | text :: rest => do
    let cs := text.toList
    let name := cs.takeWhile (· != '=')
    if name.length == cs.length || allBlank name then throw .misused
    let value := String.ofList (cs.drop (name.length + 1))
    return (strip (String.ofList name), .text value) :: (← entriesOf rest)

/-- The entries of a context; of a key that is given twice the last value counts. -/
def contextOf (texts : List String) : Work (List (String × Value)) := do
  return (Table.ofList (← entriesOf texts)).entries

def textOrNone (s : Option String) : Value :=
  s.elim .none .text

/-! ## Commands -/

/-- Issues a number of numbers and prints each. -/
def printNumbers (i : Issuer) (row : Sequence) (c : Context) (causer : Value) :
    Nat → Work Unit
  | 0 => pure ()
  | n + 1 => do
    let issued ← onStore (i.generate row c causer none)
    print [issued.number]
    printNumbers i row c causer n

def generate (s : Surroundings) (key : Key) (texts : List String) (count : Int)
    (causer pattern : Option String) : Work Unit := do
  let draft (pattern : String) : Issuer.Draft :=
    { tenant := .text key.1, name := .text key.2, pattern, padding := .whole s.settings.padding }
  let row ← match ← onStore (Store.find key), pattern.filter fun p => !p.isEmpty with
    | some row, _ => pure row
    | none, some pattern => onStore (s.issuer.create (draft pattern) none)
    | none, none => onStore (Store.require key)
  let c := Context.ofPairs (← contextOf texts)
  printNumbers s.issuer row c (textOrNone causer) count.toNat

def validate (s : Surroundings) (pattern : String) (candidate : Option String)
    (texts : List String) (padding : Int) : Work Unit := do
  let registry := s.issuer.registry
  let entries ← contextOf texts
  let found ← ofExcept (registry.checkPattern pattern)
  let found ← if entries.isEmpty then pure found
    else found.merge <$> ofExcept (registry.checkContext (.ofPairs entries) pattern)
  found.errors.forM fun message => printStyled ("[red]error:[/red] " ++ message)
  found.warnings.forM fun message => printStyled ("[yellow]warning:[/yellow] " ++ message)
  if !found.isValid then throw .refused
  let source ← ofExcept (registry.anchoredSource pattern padding)
  printStyled ("[green]valid[/green] regex=" ++ source)
  match candidate with
  | none => return ()
  | some candidate =>
    let matched ← ofExcept (registry.isMatch pattern candidate padding)
    printStyled (candidate ++ ": " ++
      if matched then "[green]matches[/green]" else "[red]does not match[/red]")
    if !matched then throw .refused

/-- Seconds with a fraction. -/
def secondsOf (d : Duration) : Value :=
  .real (Double.ofRat (mkRat d 1000000))

def needsReset (s : Surroundings) (key : Key) : Work Unit := do
  let row ← onStore (Store.require key)
  let (count, time) ← onStore (s.issuer.remaining row none)
  let due ← onStore (s.issuer.needsReset row none)
  print [← ofExcept (Json.indentedText (.record
    [("needs_reset", .truth due), ("remaining_count", Sequence.wholeOrNone count),
     ("remaining_seconds", (time.filter (· != 0)).elim .none secondsOf)]))]

def templatePreview (s : Surroundings) (id : String) (texts : List String) (counter : Int) :
    Work Unit := do
  let registry := s.issuer.registry
  let t ← ofExcept (Catalog.stock.get id)
  let found ← ofExcept (t.check registry)
  found.warnings.forM fun message => printStyled ("[yellow]warning:[/yellow] " ++ message)
  let given ← contextOf texts
  let now := (← get).store.clock
  print [← ofExcept (t.preview registry given counter now)]

def stress (s : Surroundings) (mode : String) (calls workers : Option Int) (runs : Int)
    (keep : Bool) : Work Unit := do
  let plan := Contention.Plan.ofSettings s.settings mode Contention.Plan.usualPattern calls
    workers runs
  let store := (← get).store
  let made ← onStore (Contention.runAll ⟨.empty, s.settings.zone⟩ plan)
  let records ← ofExcept (Contention.results plan made s.measures)
  if keep then
    let files ← ofExcept (Contention.files plan store.backing.name store.clock records)
    modify fun desk => { desk with files := desk.files ++ files }
  let results := records.map Table.ofList
  print (← ofExcept (Report.ofResults results))
  let holds (name : String) : Bool := results.all fun f => (Contention.givenField name f).isSome
  if !(holds "unique" && holds "contiguous") then throw .refused

def printSequence (row : Sequence) : Work Unit := do
  print (← ofExcept (Report.ofSequence row))

/-- Writes a word at the right end of eight places. -/
def rightAligned (word : String) : String :=
  String.ofList (List.replicate (8 - word.length) ' ') ++ word

def seed (tenant : String) : Work Unit := do
  let done ← onStore (seedTenant tenant [])
  print (done.entries.map fun (name, outcome) =>
    rightAligned outcome.name ++ "  " ++ tenant ++ "/" ++ name)

/-- Does what a command asks for. -/
def Command.work (s : Surroundings) : Command → Work Unit
  | .info => print [s.settings.summary]
  | .prepare => do
    s.start
    throw (.failed (Database.connect s.isReadable s.settings.connectionText).1)
  | .create key pattern period limit padding step => do
    s.start
    let draft : Issuer.Draft :=
      { tenant := .text key.1, name := .text key.2, pattern, period := .text period.name
        limit := Sequence.wholeOrNone limit, padding := .whole (padding.getD s.settings.padding)
        step := .whole step }
    printSequence (← onStore (s.issuer.create draft none))
  | .generate key context count causer pattern => do
    s.start
    CommandLine.generate s key context count causer pattern
  | .preview key context => do
    s.start
    let row ← onStore (Store.require key)
    let c := Context.ofPairs (← contextOf context)
    let outlook ← onStore (s.issuer.outlook row c none)
    print [← ofExcept (Json.indentedText (.record outlook.toFields))]
  | .validate pattern candidate context padding => do
    s.start
    CommandLine.validate s pattern candidate context padding
  | .needsReset key => do
    s.start
    CommandLine.needsReset s key
  | .reset key reason causer => do
    s.start
    let row ← onStore (Store.require key)
    printSequence (← onStore (Issuer.reset row (textOrNone reason) (textOrNone causer) none))
  | .override key value reason causer => do
    s.start
    let row ← onStore (Store.require key)
    printSequence
      (← onStore (s.issuer.override row value (textOrNone reason) (textOrNone causer) none))
  | .history key action limit => do
    s.start
    let row ← onStore (Store.require key)
    let entries ← onStore (History.ofFilter
      { sequenceId := row.id, action := action.map fun a => .text a.name, limit := some limit })
    print (← ofExcept (Report.ofHistory entries))
  | .templates filter => do
    s.start
    print (← ofExcept (Report.ofCatalog (Catalog.stock.list filter)))
  | .templatePreview id context counter => do
    s.start
    CommandLine.templatePreview s id context counter
  | .stress mode calls workers runs keep => do
    s.start
    CommandLine.stress s mode calls workers runs keep
  | .seed tenant => do
    s.start
    CommandLine.seed tenant

/-! ## Programs -/

/-- How a command line ended. -/
structure Reply where
  code : Nat
  printed : List String
  files : List (String × String)
  /-- The failure that ended it. -/
  failure : Option Failure

/-- Runs a command line that was read, or not. -/
def run (s : Surroundings) (command : Option Command) (store : Store) : Reply × Store :=
  match command with
  | none => (⟨2, [], [], none⟩, store)
  | some command =>
    let (result, desk) := command.work s ⟨store, [], []⟩
    let (code, failure) := match result with
      | .ok _ => (0, none)
      | .error (.failed e) => (1, some e)
      | .error .misused => (2, none)
      | .error .refused => (1, none)
    (⟨code, desk.printed, desk.files, failure⟩, desk.store)

/-- Failures that are told to the user in one line; others are not expected. -/
def isExpected : Failure → Bool
  | .sequenceNotFound .. | .sequenceExists .. | .duplicateNumber .. | .templateNotFound _
  | .malformed .. | .evaluation _ | .registration _ | .storage _ => true
  | _ => false

/-- The line that tells an expected failure. -/
def Reply.complaint? (r : Reply) : Option String :=
  (r.failure.filter isExpected).map fun e => "Error: " ++ e.message

end SerialNumbers.CommandLine
