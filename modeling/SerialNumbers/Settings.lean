/-
  SerialNumbers.Settings

  The settings of the engine: where the rows are kept, how a database is
  reached, what is logged, in which zone periods are drawn, and the size of
  contention runs.  A setting comes from a given value or from the environment,
  where the case of names does not matter.
-/
import SerialNumbers.Fields
import SerialNumbers.Time.Zone

namespace SerialNumbers

open Number Time

/-- Where the rows are kept. -/
inductive StoreChoice where
  | memory
  | database
deriving Repr, DecidableEq

def StoreChoice.name : StoreChoice → String
  | memory => "memory"
  | database => "postgres"

structure Settings where
  host : String
  portNumber : Int
  user : String
  password : String
  database : String
  poolLeast : Int
  poolMost : Int
  /-- Seconds to wait for a connection. -/
  poolTimeout : Double
  environment : String
  logLevel : String
  logAsJson : Bool
  store : StoreChoice
  zoneName : String
  /-- Milliseconds to wait for a lock. -/
  lockTimeout : Int
  padding : Int
  workers : Int
  calls : Int
deriving Repr

namespace Settings

/-! ## Reading -/

/-- The name of a known zone. -/
def zoneRule : Rule String := fun v => do
  let name ← Rule.text v
  match Zone.named name with
  | .ok _ => return name
  | .error _ => throw .rejected

/-- A setting under its name in the environment or, failing that, in small letters. -/
def setting {α : Type} (f : Fields) (name : String) (rule : Rule α) (default : α) : Checked α :=
  f.get (if f.contains name then name else Text.lower name) rule default

/-- Reads settings from values by name. -/
def ofFields (f : Fields) : Except Failure Settings :=
  Checked.value <|
    Checked.of Settings.mk
    |>.and (setting f "DB_HOST" .text "localhost")
    |>.and (setting f "DB_PORT" .whole 5432)
    |>.and (setting f "DB_USER" .text "postgres")
    |>.and (setting f "DB_PASSWORD" .text "postgres")
    |>.and (setting f "DB_NAME" .text "sequencing")
    |>.and (setting f "POOL_MIN_SIZE" (.atLeast 0) 1)
    |>.and (setting f "POOL_MAX_SIZE" (.atLeast 1) 10)
    |>.and (setting f "POOL_TIMEOUT_SECONDS" .positive (Double.ofNat 30))
    |>.and (setting f "APP_ENV" .text "development")
    |>.and (setting f "LOG_LEVEL" .text "INFO")
    |>.and (setting f "LOG_JSON" .truth false)
    |>.and (setting f "SEQUENCE_STORE"
      (.literal [("memory", StoreChoice.memory), ("postgres", StoreChoice.database)]) .memory)
    |>.and (setting f "SEQUENCE_TIMEZONE" zoneRule "UTC")
    |>.and (setting f "SEQUENCE_LOCK_TIMEOUT_MS" (.above 0) 5000)
    |>.and (setting f "SEQUENCE_DEFAULT_PADDING" (.within 0 20) 5)
    |>.and (setting f "STRESS_WORKERS" (.atLeast 1) 8)
    |>.and (setting f "STRESS_CALLS" (.atLeast 1) 1000)

/-- The names of the settings in the environment. -/
def names : List String :=
  ["DB_HOST", "DB_PORT", "DB_USER", "DB_PASSWORD", "DB_NAME", "POOL_MIN_SIZE", "POOL_MAX_SIZE",
   "POOL_TIMEOUT_SECONDS", "APP_ENV", "LOG_LEVEL", "LOG_JSON", "SEQUENCE_STORE",
   "SEQUENCE_TIMEZONE", "SEQUENCE_LOCK_TIMEOUT_MS", "SEQUENCE_DEFAULT_PADDING",
   "STRESS_WORKERS", "STRESS_CALLS"]

/-- The settings that an environment holds, by name. -/
def ofEnvironment (environment : List (String × String)) : List (String × Value) :=
  names.filterMap fun name =>
    ((environment.reverse.find? fun e => Text.lower e.1 == Text.lower name).map (·.2)).map
      fun text => (name, .text text)

/-- Reads settings from an environment and given values, which win. -/
def read (environment : List (String × String)) (given : List (String × Value)) :
    Except Failure Settings :=
  ofFields (Table.ofList (ofEnvironment environment ++ given))

/-- The settings by name. -/
def toFields (s : Settings) : List (String × Value) :=
  [("db_host", .text s.host), ("db_port", .whole s.portNumber), ("db_user", .text s.user),
   ("db_password", .text s.password), ("db_name", .text s.database),
   ("pool_min_size", .whole s.poolLeast), ("pool_max_size", .whole s.poolMost),
   ("pool_timeout_seconds", .real s.poolTimeout), ("app_env", .text s.environment),
   ("log_level", .text s.logLevel), ("log_json", .truth s.logAsJson),
   ("sequence_store", .text s.store.name), ("sequence_timezone", .text s.zoneName),
   ("sequence_lock_timeout_ms", .whole s.lockTimeout),
   ("sequence_default_padding", .whole s.padding), ("stress_workers", .whole s.workers),
   ("stress_calls", .whole s.calls)]

/-! ## What they mean -/

/-- The text by which a database is reached. -/
def connectionText (s : Settings) : String :=
  "postgresql://" ++ s.user ++ ":" ++ s.password ++ "@" ++ s.host ++ ":" ++ toString s.portNumber ++
    "/" ++ s.database

/-- The zone in which periods are drawn. -/
def zone (s : Settings) : Zone :=
  (Zone.named s.zoneName).toOption.getD .utc

/-- The settings as one line. -/
def summary (s : Settings) : String :=
  s!"env={s.environment} store={s.store.name} tz={s.zoneName} " ++
    s!"lock_timeout={s.lockTimeout}ms padding={s.padding} | " ++
    s!"DB={s.user}@{s.host}:{s.portNumber}/{s.database}"

end Settings

end SerialNumbers
