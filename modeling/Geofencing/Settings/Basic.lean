import Geofencing.Location.Report
import Geofencing.Settings.Address
import Geofencing.Settings.Layer
import Geofencing.Settings.Scalar
import Geofencing.Text
import Geofencing.Token.Verifier

/-!
# Settings of the service

What the service has to be told before it starts: where it listens, which database it uses, how it
logs, which origins may call it, how long reports are kept and which key signs tokens. Settings are
read from layers and then checked; the first rule that is broken is the one that is reported.
-/

namespace Geofencing

/-- Which engine answers questions about polygons. -/
inductive EngineChoice where
  /-- The database. -/
  | database
  /-- The planar engine of the service itself. -/
  | planar
  deriving DecidableEq, Repr

/-- Where the service listens. -/
structure ServerSettings where
  /-- The host, as written. -/
  host : String
  /-- The port. -/
  port : Nat
  /-- After how many seconds a request is given up. -/
  requestTimeout : Nat
  deriving DecidableEq, Repr

/-- Which database the service uses. -/
structure DatabaseSettings where
  /-- The address of the database. -/
  url : String
  /-- The most connections that are held. -/
  maxConnections : Nat
  /-- The fewest connections that are held. -/
  minConnections : Nat
  /-- After how many seconds connecting is given up. -/
  connectTimeout : Nat
  /-- After how many seconds an unused connection is closed. -/
  idleTimeout : Nat
  deriving DecidableEq, Repr

/-- How the service logs. -/
structure LoggingSettings where
  /-- The lowest level that is logged. -/
  level : String
  /-- The format of log lines. -/
  format : String
  deriving DecidableEq, Repr

/-- How locations are kept and compared. -/
structure TrackingSettings where
  /-- For how many days reports are kept. -/
  retentionDays : Nat
  /-- How many rows one purge statement deletes. -/
  cleanupBatch : Int
  /-- Which engine answers questions about polygons. -/
  engine : EngineChoice
  deriving DecidableEq, Repr

/-- How tokens are checked. -/
structure TokenSettings where
  /-- The public key, as written. -/
  publicKey : String
  /-- For how many seconds after its expiry a token is still accepted. -/
  leeway : Nat
  deriving DecidableEq, Repr

/-- All settings of the service. -/
structure Settings where
  /-- Where the service listens. -/
  server : ServerSettings
  /-- Which database the service uses. -/
  database : DatabaseSettings
  /-- How the service logs. -/
  logging : LoggingSettings
  /-- The origins that may call the service; any may if there are none. -/
  origins : List String
  /-- How locations are kept and compared. -/
  tracking : TrackingSettings
  /-- How tokens are checked. -/
  token : TokenSettings
  deriving DecidableEq, Repr

/-- Why settings are refused. -/
inductive SettingsError where
  /-- A layer or a setting is missing, or is not of its kind. -/
  | unreadable
  /-- A path leads to an item that no list can have. -/
  | noSuchItem
  /-- A setting that has no usable default was left out. -/
  | missing (variableName : String)
  /-- A setting has a value that makes no sense. -/
  | invalid (reason : String)
  deriving DecidableEq, Repr

/-- The text of an error. -/
def SettingsError.message : SettingsError → String
  | .unreadable => "Unreadable configuration"
  | .noSuchItem => "No such list item"
  | .missing variableName =>
    "Missing required configuration: " ++ variableName ++ " environment variable must be set"
  | .invalid reason => "Invalid configuration value: " ++ reason

namespace Settings

/-- The entries of a section: a table, or a list of its values in the order of their names. -/
def section? (names : List String) : Json → Option (List (String × Json))
  | .obj members => some members
  | .arr items => some (names.zip items)
  | _ => none

/-- A setting that has to be given. -/
def required {α : Type} (entries : List (String × Json)) (name : String) (read : Json → Option α) :
    Option α :=
  (entries.lookup name).bind read

/-- A setting with a default. -/
def defaulted {α : Type} (entries : List (String × Json)) (name : String) (read : Json → Option α)
    (default : α) : Option α :=
  match entries.lookup name with
  | some v => read v
  | none => some default

end Settings

open Settings

/-- Read where the service listens. -/
def ServerSettings.read (j : Json) : Option ServerSettings := do
  let s ← section? ["host", "port", "request_timeout_secs"] j
  return { host := ← defaulted s "host" text "0.0.0.0"
           port := ← defaulted s "port" (unsigned 16) 8080
           requestTimeout := ← defaulted s "request_timeout_secs" (unsigned 64) 30 }

/-- Read which database the service uses. -/
def DatabaseSettings.read (j : Json) : Option DatabaseSettings := do
  let s ← section? ["url", "max_connections", "min_connections", "connect_timeout_secs",
    "idle_timeout_secs"] j
  return { url := ← required s "url" text
           maxConnections := ← defaulted s "max_connections" (unsigned 32) 20
           minConnections := ← defaulted s "min_connections" (unsigned 32) 5
           connectTimeout := ← defaulted s "connect_timeout_secs" (unsigned 64) 10
           idleTimeout := ← defaulted s "idle_timeout_secs" (unsigned 64) 600 }

/-- Read how the service logs. -/
def LoggingSettings.read (j : Json) : Option LoggingSettings := do
  let s ← section? ["level", "format"] j
  return { level := ← defaulted s "level" text "info"
           format := ← defaulted s "format" text "json" }

/-- Read how locations are kept and compared. -/
def TrackingSettings.read (j : Json) : Option TrackingSettings := do
  let s ← section? ["retention_days", "cleanup_batch_size", "spatial_engine"] j
  return { retentionDays := ← defaulted s "retention_days" (unsigned 32) RetentionPolicy.standard.days
           cleanupBatch := ← defaulted s "cleanup_batch_size" signed64 10000
           engine := ← defaulted s "spatial_engine"
             (choice [("postgis", .database), ("geo", .planar)]) EngineChoice.database }

/-- Read how tokens are checked. -/
def TokenSettings.read (j : Json) : Option TokenSettings := do
  let s ← section? ["public_key", "leeway_secs"] j
  return { publicKey := ← required s "public_key" text
           leeway := ← defaulted s "leeway_secs" (unsigned 64) Verifier.defaultLeeway }

namespace Settings

/-- Read which origins may call the service. -/
def readOrigins (j : Json) : Option (List String) := do
  let s ← section? ["cors_origins"] j
  defaulted s "cors_origins" texts []

/-- Read all settings. -/
def read (j : Json) : Option Settings := do
  let s := entries j
  return { server := ← required s "server" ServerSettings.read
           database := ← required s "database" DatabaseSettings.read
           logging := ← required s "logging" LoggingSettings.read
           origins := ← defaulted s "security" readOrigins []
           tracking := ← defaulted s "tracking" TrackingSettings.read
             ⟨RetentionPolicy.standard.days, 10000, .database⟩
           token := ← required s "jwt" TokenSettings.read }

/-- Check settings; the first broken rule is reported. -/
def check (s : Settings) : Except SettingsError Unit :=
  if s.database.url.isEmpty then .error (.missing "GF__DATABASE__URL")
  else if (Text.trim s.token.publicKey).isEmpty then .error (.missing "GF__JWT__PUBLIC_KEY")
  else if s.server.port = 0 then .error (.invalid "Server port cannot be 0")
  else if s.database.maxConnections < s.database.minConnections then
    .error (.invalid "min_connections cannot exceed max_connections")
  else if s.tracking.retentionDays = 0 then
    .error (.invalid "tracking.retention_days must be at least 1")
  else if s.tracking.cleanupBatch ≤ 0 then
    .error (.invalid "tracking.cleanup_batch_size must be positive")
  else .ok ()

/-- The base settings that come with the service. They name no database and no key. -/
def base : Json :=
  .object
    [("server", .object [("host", .str "0.0.0.0"), ("port", .nat 8080),
       ("request_timeout_secs", .nat 30)]),
     ("database", .object [("url", .str ""), ("max_connections", .nat 20),
       ("min_connections", .nat 5), ("connect_timeout_secs", .nat 10),
       ("idle_timeout_secs", .nat 600)]),
     ("logging", .object [("level", .str "info"), ("format", .str "json")]),
     ("security", .object [("cors_origins", .arr [])]),
     ("tracking", .object [("retention_days", .nat 30), ("cleanup_batch_size", .nat 10000),
       ("spatial_engine", .str "postgis")]),
     ("jwt", .object [("public_key", .str ""), ("leeway_secs", .nat 30)])]

/-- Where settings are read from, the lowest layer first. -/
structure Sources where
  /-- The base file, which has to be there. -/
  base : Option Json
  /-- The local file, which may be missing. -/
  local? : Option Json
  /-- The environment variables. -/
  environment : List (String × String)

/-- The layers of the sources; one that cannot be read is `none`. -/
def Sources.layers (s : Sources) : List (Option Layer) :=
  [s.base.bind fileLayer?, s.local?.elim (some []) fileLayer?,
    some (s.environment.filterMap fun v => variableLayer? v.1 v.2)]

/-- Lay layers over settings, the lowest one first. -/
def assemble (under : Json) : List (Option Layer) → Except SettingsError Json
  | [] => .ok under
  | none :: _ => .error .unreadable
  | some layer :: rest =>
    match layer.over under with
    | none => .error .noSuchItem
    | some j => assemble j rest

/-- Read settings from their sources and check them. -/
def load (s : Sources) : Except SettingsError Settings := do
  let j ← assemble (.obj []) s.layers
  match read j with
  | none => .error .unreadable
  | some settings =>
    settings.check
    return settings

/-- The address to listen on, if host and port spell one. -/
def address? (s : Settings) : Option SocketAddress :=
  SocketAddress.parse? (s.server.host ++ ":" ++ toString s.server.port)

end Settings

end Geofencing
