import WorkflowEngine.Definition.Record
import WorkflowEngine.Journal.Entry
import WorkflowEngine.Number.Basic
import WorkflowEngine.Reading.Container
import WorkflowEngine.Text.Case
import WorkflowEngine.Text.Trim

/-!
# Configuration

The configuration of the application says how it names itself, where it listens, how long it keeps
records, what limits it sets to runs, and how it writes its journal.
-/

namespace WorkflowEngine

/-- The configuration of the application. -/
structure Config where
  appName : String
  appVersion : String
  debug : Bool
  host : String
  port : Int
  reload : Bool
  retentionSeconds : Float
  requestLimit : Int
  visitLimit : Int
  logLevel : Level
  logFormat : String
  logFile : Option String
  logSize : Int
  logBackups : Int
  logStructured : Bool
  origins : List Data
  methods : List Data
deriving Repr, Inhabited

namespace Config

/-- The form of a line of the journal where nothing else is said. -/
def usualFormat : String := "%(asctime)s - %(name)s - %(levelname)s - %(message)s"

/-- The configuration where nothing is said. -/
def usual : Config where
  appName := "Nodeflow Workflow Engine"
  appVersion := "1.0.0"
  debug := false
  host := "0.0.0.0"
  port := 8000
  reload := false
  retentionSeconds := 300.0
  requestLimit := 30000
  visitLimit := 10000
  logLevel := .info
  logFormat := usualFormat
  logFile := none
  logSize := 10485760
  logBackups := 5
  logStructured := false
  origins := [.str "*"]
  methods := [.str "GET", .str "POST"]

/-- The configuration for work on the application. -/
def development : Config :=
  { usual with debug := true, reload := true, logLevel := .debug }

/-- The configuration for trying the application out. -/
def testing : Config :=
  { usual with debug := true, logLevel := .warning, retentionSeconds := 5.0, requestLimit := 2000, visitLimit := 500 }

/-- The application serves others than those who work on it. -/
def isProduction (c : Config) : Bool :=
  !c.debug && !c.reload

open Reading

/-- Reads the number of a port. -/
def readPort (d : Data) : Reading Int :=
  (int d).check fun i =>
    if 1 ≤ i && i ≤ 65535 then .ok i else state "Port must be between 1 and 65535"

/-- Reads how long records are kept. -/
def readRetention (d : Data) : Reading Float :=
  (float d).check fun x => if x < 0.0 then state "Execution retention cannot be negative" else .ok x

/-- Reads a limit. -/
def readLimit (d : Data) : Reading Int :=
  (int d).check fun i => if i < 1 then state "Value must be at least 1" else .ok i

/-- Reads a configuration from entries. -/
def ofEntries (entries : List (Data × Data)) : Reading Config :=
  let field {α : Type} (name : String) (fallback : α) (read : Data → Reading α) : Reading α :=
    withDefault .plain entries name fallback read
  .mk <$> field "app_name" usual.appName text
    <*> field "app_version" usual.appVersion text
    <*> field "debug" usual.debug bool
    <*> field "host" usual.host text
    <*> field "port" usual.port readPort
    <*> field "reload" usual.reload bool
    <*> field "execution_retention_seconds" usual.retentionSeconds readRetention
    <*> field "default_api_timeout_ms" usual.requestLimit readLimit
    <*> field "max_node_executions" usual.visitLimit readLimit
    <*> field "log_level" usual.logLevel (member Level.all Level.name)
    <*> field "log_format" usual.logFormat text
    <*> field "log_file" usual.logFile (optional text)
    <*> field "log_max_size" usual.logSize int
    <*> field "log_backup_count" usual.logBackups int
    <*> field "log_structured" usual.logStructured bool
    <*> field "cors_origins" usual.origins (list any)
    <*> field "cors_methods" usual.methods (list any)

/-- The fields of a configuration. -/
def fields (c : Config) : Record :=
  [("app_name", .str c.appName), ("app_version", .str c.appVersion), ("debug", .bool c.debug),
   ("host", .str c.host), ("port", .int c.port), ("reload", .bool c.reload),
   ("execution_retention_seconds", .float c.retentionSeconds), ("default_api_timeout_ms", .int c.requestLimit),
   ("max_node_executions", .int c.visitLimit), ("log_level", .str c.logLevel.name),
   ("log_format", .str c.logFormat), ("log_file", .ofStr? c.logFile), ("log_max_size", .int c.logSize),
   ("log_backup_count", .int c.logBackups), ("log_structured", .bool c.logStructured),
   ("cors_origins", .list c.origins), ("cors_methods", .list c.methods)]

/-- What is missing for the application to present itself. -/
def untitled? (c : Config) : Option String :=
  if c.appName == "" then some "A title must be provided for OpenAPI, e.g.: 'My API'"
  else if c.appVersion == "" then some "A version must be provided for OpenAPI, e.g.: '2.1.0'"
  else none

/-- What a server is told besides whether to load the application anew. -/
def serverOptions (c : Config) : Record :=
  [("host", .str c.host), ("port", .int c.port), ("log_level", .str c.logLevel.name.toLower),
   ("access_log", .bool c.debug)]

/-- What a server is told. -/
def server (c : Config) : Record :=
  c.serverOptions ++ [("reload", .bool c.reload)]

end Config

end WorkflowEngine

/-!
## Configuration from the environment

The environment binds names to texts.  Every setting has a name in it; a text that spells no value of
the right kind is a fault, and the values are then checked like any others.
-/

namespace WorkflowEngine

/-- Texts under names. -/
abbrev Environment := List (String × String)

namespace Environment

/-- What the names of settings begin with. -/
def mark : String := "NODEFLOW_"

/-- The text of a setting. -/
def setting? (e : Environment) (name : String) : Option String :=
  e.lookup (mark ++ name)

/-- The words for what is switched on. -/
def onWords : List String := ["true", "1", "yes", "on"]

/-- A text setting. -/
def text (e : Environment) (name fallback : String) : Data :=
  .str ((e.setting? name).getD fallback)

/-- A switch. -/
def switch (e : Environment) (name : String) (fallback : Bool) : Data :=
  .bool (((e.setting? name).map fun s => onWords.contains (Text.lower s)).getD fallback)

/-- An integer setting. -/
def int (e : Environment) (name : String) (fallback : Int) : Except Fault Data :=
  match e.setting? name with
  | none => .ok (.int fallback)
  | some s => (Number.spelledInt s).map .int

/-- A setting that is a double. -/
def float (e : Environment) (name : String) (fallback : Float) : Except Fault Data :=
  match e.setting? name with
  | none => .ok (.float fallback)
  | some s => (Number.spelledFloat s).map .float

/-- The parts of a text between commas. -/
def parts (part : List Char) (done : List String) : List Char → List String
  | [] => (String.ofList part.reverse :: done).reverse
  | ',' :: rest => parts [] (String.ofList part.reverse :: done) rest
  | c :: rest => parts (c :: part) done rest

/-- A setting that lists trimmed texts; an empty text is no list. -/
def listing (e : Environment) (name : String) (fallback : List Data) : Data :=
  match e.setting? name with
  | none => .list fallback
  | some "" => .list fallback
  | some s => .list ((((parts [] [] s.toList).map Text.trim).filter (· != "")).map .str)

/-- The level of the journal, in letters of either case. -/
def level (e : Environment) : Except Fault Data :=
  let word := Text.upper ((e.setting? "LOG_LEVEL").getD Config.usual.logLevel.name)
  if Level.all.any fun l => l.name == word then .ok (.str word)
  else .error (.valued ((Data.str word).source ++ " is not a valid LogLevel"))

/-- The entries of a configuration as the environment has them. -/
def entries (e : Environment) : Except Fault Record := do
  let usual := Config.usual
  let port ← e.int "PORT" usual.port
  let retention ← e.float "EXECUTION_RETENTION_SECONDS" usual.retentionSeconds
  let requestLimit ← e.int "DEFAULT_API_TIMEOUT_MS" usual.requestLimit
  let visitLimit ← e.int "MAX_NODE_EXECUTIONS" usual.visitLimit
  let level ← e.level
  let size ← e.int "LOG_MAX_SIZE" usual.logSize
  let backups ← e.int "LOG_BACKUP_COUNT" usual.logBackups
  return [("app_name", e.text "APP_NAME" usual.appName), ("app_version", e.text "APP_VERSION" usual.appVersion),
    ("debug", e.switch "DEBUG" usual.debug), ("host", e.text "HOST" usual.host), ("port", port),
    ("reload", e.switch "RELOAD" usual.reload), ("execution_retention_seconds", retention),
    ("default_api_timeout_ms", requestLimit), ("max_node_executions", visitLimit), ("log_level", level),
    ("log_format", e.text "LOG_FORMAT" usual.logFormat), ("log_file", .ofStr? (e.setting? "LOG_FILE")),
    ("log_max_size", size), ("log_backup_count", backups), ("log_structured", e.switch "LOG_STRUCTURED" usual.logStructured),
    ("cors_origins", e.listing "CORS_ORIGINS" usual.origins), ("cors_methods", e.listing "CORS_METHODS" usual.methods)]

/-- The configuration that the environment describes. -/
def config (e : Environment) : Reading Config :=
  match e.entries with
  | .error f => .failed f
  | .ok found => Config.ofEntries (found.map fun field => (.str field.1, field.2))

end Environment

end WorkflowEngine
