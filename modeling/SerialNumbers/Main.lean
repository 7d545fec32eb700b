/-
  SerialNumbers.Main

  The program: settings from the environment, the clock of the machine, and
  rows that are kept in memory or in a database that does not answer.
-/
import SerialNumbers.CommandLine.Run
import SerialNumbers.Journal.Line
import Std.Time.DateTime.Timestamp

open SerialNumbers SerialNumbers.Time

namespace SerialNumbers.Program

/-- The settings in the environment of the process. -/
def environment : IO (List (String × String)) := do
  let found ← Settings.names.mapM fun name => do
    let upper ← IO.getEnv name
    let lower ← IO.getEnv (Text.lower name)
    return (upper <|> lower).map fun text => (name, text)
  return found.filterMap id

/-- The time in universal time. -/
def clock : IO Moment := do
  let now ← Std.Time.Timestamp.now
  let micros := now.toNanosecondsSinceUnixEpoch.val / 1000
  return ⟨Moment.epochReading + micros, some .utc, false⟩

/-- The store that the settings ask for. -/
def openStore (s : Settings) (now : Moment) : Store :=
  match s.store with
  | .memory => Store.new .memory s.lockTimeout now
  | .database => Database.store s (Database.PoolKeeper.new.poolFor s).1 now

/-- Writes the results of contention runs to their folder. -/
def writeFiles (files : List (String × String)) : IO Unit := do
  if files.isEmpty then return ()
  IO.FS.createDirAll "results"
  for (name, text) in files do
    IO.FS.writeFile ("results/" ++ name) text

/-- Writes the notes of a run to the standard error. -/
def writeNotes (s : Settings) (now : Moment) (notes : List Note) : IO Unit := do
  let least := (Level.named s.logLevel).toOption.getD .info
  let seconds := now.epochSeconds.toOption.getD Number.Double.zero
  match Journal.written least s.logAsJson (.real seconds) notes with
  | .ok lines => lines.forM IO.eprintln
  | .error _ => return ()

end SerialNumbers.Program

open SerialNumbers.Program

/-- Runs a command line; started under a name with "seed" it is the one of the program that
    seeds a tenant. -/
def main (args : List String) : IO UInt32 := do
  match Settings.read (← environment) [] with
  | .error e =>
    IO.eprintln ("Error: " ++ e.message)
    return 1
  | .ok settings =>
    let now ← clock
    let program := (← IO.appPath).fileName.getD ""
    let command := if (program.splitOn "seed").length > 1 then CommandLine.Command.readSeed? args
      else CommandLine.Command.read? args
    let (reply, store) :=
      CommandLine.run ⟨settings, fun _ => true, fun _ => .none⟩ command (openStore settings now)
    reply.printed.forM IO.println
    writeNotes settings now store.notes.reverse
    writeFiles reply.files
    match reply.complaint?, reply.failure with
    | some line, _ => IO.eprintln line
    | none, some e => IO.eprintln ("Error: " ++ e.message)
    | none, none => if reply.code == 2 then IO.eprintln "Usage: [COMMAND] [ARGS]..."
    return reply.code.toUInt32
