/-
  SerialNumbers.CommandLine.Command

  The commands of the engine and how they are written.
-/
import SerialNumbers.Catalog.Query
import SerialNumbers.CommandLine.Arguments
import SerialNumbers.Contention.Run
import SerialNumbers.LogEntry

namespace SerialNumbers.CommandLine

/-- A command with all that is given to it.  Context values are still texts with an
    equality sign. -/
inductive Command where
  /-- Show the settings. -/
  | info
  /-- Prepare the database. -/
  | prepare
  | create (key : Key) (pattern : String) (period : Period) (limit padding : Option Int)
      (step : Int)
  | generate (key : Key) (context : List String) (count : Int) (causer pattern : Option String)
  | preview (key : Key) (context : List String)
  | validate (pattern : String) (candidate : Option String) (context : List String)
      (padding : Int)
  | needsReset (key : Key)
  | reset (key : Key) (reason causer : Option String)
  | override (key : Key) (value : Int) (reason causer : Option String)
  | history (key : Key) (action : Option Action) (limit : Int)
  | templates (filter : Catalog.Filter)
  | templatePreview (id : String) (context : List String) (counter : Int)
  | stress (mode : String) (calls workers : Option Int) (runs : Int) (keep : Bool)
  | seed (tenant : String)

namespace Command

/-! ## Usages -/

/-- The option for context values. -/
def contextSwitch : Switch := ⟨["--ctx", "-c"], "ctx", none⟩

/-- An option with one long name that takes a value. -/
def long (key : String) : Switch := ⟨["--" ++ key], key, none⟩

/-- An option with a long and a short name that takes a value. -/
def short (key letter : String) : Switch := ⟨["--" ++ key, "-" ++ letter], key, none⟩

/-- An option that stands for a text. -/
def fixed (name key text : String) : Switch := ⟨["--" ++ name], key, some text⟩

/-- The tenant and the name of a sequence. -/
def keyOf (a : Arguments) : Key := (a.word 0, a.word 1)

/-! ## Reading -/

def readInfo (argv : List String) (command : Command) : Option Command := do
  let _ ← Usage.read? ⟨0, 0, []⟩ argv
  return command

def readCreate (argv : List String) : Option Command := do
  let a ← Usage.read?
    ⟨3, 0, [short "reset-period" "p", short "reset-limit" "l", long "padding", long "step"]⟩ argv
  let period ← a.read? "reset-period" Period.named?
  let limit ← a.read? "reset-limit" (within? 1 none)
  let padding ← a.read? "padding" (within? 0 (some 20))
  let step ← a.read? "step" (within? 1 none)
  return .create (keyOf a) (a.word 2) (period.getD .never) limit padding (step.getD 1)

def readGenerate (argv : List String) : Option Command := do
  let a ← Usage.read?
    ⟨2, 0, [contextSwitch, short "count" "n", long "causer", long "pattern"]⟩ argv
  let count ← a.read? "count" (within? 1 none)
  return .generate (keyOf a) (a.texts "ctx") (count.getD 1) (a.text? "causer")
    (a.text? "pattern")

def readPreview (argv : List String) : Option Command := do
  let a ← Usage.read? ⟨2, 0, [contextSwitch]⟩ argv
  return .preview (keyOf a) (a.texts "ctx")

def readValidate (argv : List String) : Option Command := do
  let a ← Usage.read? ⟨1, 1, [contextSwitch, long "padding"]⟩ argv
  let padding ← a.read? "padding" (within? 0 (some 20))
  return .validate (a.word 0) a.words[1]? (a.texts "ctx") (padding.getD 0)

def readNeedsReset (argv : List String) : Option Command := do
  let a ← Usage.read? ⟨2, 0, []⟩ argv
  return .needsReset (keyOf a)

def readReset (argv : List String) : Option Command := do
  let a ← Usage.read? ⟨2, 0, [long "reason", long "causer"]⟩ argv
  return .reset (keyOf a) (a.text? "reason") (a.text? "causer")

def readOverride (argv : List String) : Option Command := do
  let a ← Usage.read? ⟨3, 0, [long "reason", long "causer"]⟩ argv
  let value ← within? 0 none (a.word 2)
  return .override (keyOf a) value (a.text? "reason") (a.text? "causer")

def readHistory (argv : List String) : Option Command := do
  let a ← Usage.read? ⟨2, 0, [short "action" "a", long "limit"]⟩ argv
  let action ← a.read? "action" Action.named?
  let limit ← a.read? "limit" (within? 1 none)
  return .history (keyOf a) action (limit.getD 20)

def readTemplates (argv : List String) : Option Command := do
  let a ← Usage.read?
    ⟨0, 0, [long "category", long "tag", short "search" "q",
      fixed "context-free" "context" "free", fixed "needs-context" "context" "needed"]⟩ argv
  return .templates
    { category := a.text? "category", tag := a.text? "tag", search := a.text? "search"
      contextFree := (a.text? "context").map (· == "free") }

def readTemplatePreview (argv : List String) : Option Command := do
  let a ← Usage.read? ⟨1, 0, [contextSwitch, long "counter"]⟩ argv
  let counter ← a.read? "counter" (within? 0 none)
  return .templatePreview (a.word 0) (a.texts "ctx") (counter.getD 1)

def readStress (argv : List String) : Option Command := do
  let a ← Usage.read?
    ⟨0, 0, [short "mode" "m", long "calls", short "workers" "w", long "runs",
      fixed "persist" "persist" "yes", fixed "no-persist" "persist" "no"]⟩ argv
  let calls ← a.read? "calls" (within? 1 none)
  let workers ← a.read? "workers" (within? 1 none)
  let runs ← a.read? "runs" (within? 1 none)
  let mode := (a.text? "mode").getD Contention.Plan.threads
  if mode == Contention.Plan.threads || mode == Contention.Plan.processes then
    return .stress mode calls workers (runs.getD 1) (a.text? "persist" == some "yes")
  else none

/-- Reads a command by its name. -/
def readNamed (name : String) (argv : List String) : Option Command :=
  match name with
  | "info" => readInfo argv .info
  | "init-db" => readInfo argv .prepare
  | "create" => readCreate argv
  | "generate" => readGenerate argv
  | "preview" => readPreview argv
  | "validate" => readValidate argv
  | "needs-reset" => readNeedsReset argv
  | "reset" => readReset argv
  | "override" => readOverride argv
  | "history" => readHistory argv
  | "templates" => readTemplates argv
  | "template-preview" => readTemplatePreview argv
  | "stress" => readStress argv
  | _ => none

/-- Reads a command line; none if it is not one. -/
def read? : List String → Option Command
  | "--" :: name :: argv | name :: argv => readNamed name argv
  | [] => none

/-- Reads the command line of the program that seeds a tenant. -/
def readSeed? (argv : List String) : Option Command := do
  let a ← Usage.read? ⟨0, 0, [short "tenant" "t"]⟩ argv
  return .seed ((a.text? "tenant").getD "1")

end Command

end SerialNumbers.CommandLine
