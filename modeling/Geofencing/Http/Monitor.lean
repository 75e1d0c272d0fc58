import Geofencing.Http.Message
import Geofencing.Location.Report

/-!
# Monitoring

What the service tells about itself: its health, whether it is ready, and its counters.
-/

namespace Geofencing.Http

/-- The database behind the service. -/
inductive Database where
  /-- There is none; everything is kept in memory. -/
  | absent
  /-- There is one that cannot be reached. -/
  | unreachable
  deriving DecidableEq, Repr

namespace Database

/-- Whether there is a database. -/
def configured (d : Database) : Bool := d != .absent

/-- Whether data can be kept. -/
def connected (d : Database) : Bool := d != .unreachable

/-- What is told about the database. -/
def toJson (d : Database) : Json :=
  .object [("configured", .bool d.configured), ("connected", .bool d.connected),
    ("latency_ms", .null)]

end Database

/-- The version of the service. -/
def version : String := "0.3.0"

/-- A response that is given only while data can be kept. -/
def whileConnected (d : Database) (value : Json) : Response :=
  if d.connected then .json 200 value else .bare 503

/-- The health of the service. -/
def health (d : Database) (policy : RetentionPolicy) : Response :=
  whileConnected d (.object [("status", .str "healthy"), ("version", .str version),
    ("database", d.toJson), ("retention_days", .nat policy.days)])

/-- Whether the service is ready. -/
def readiness (d : Database) : Response :=
  whileConnected d (.object [("status", .str "ready")])

/-- That the service runs. -/
def liveness : Response :=
  .json 200 (.object [("status", .str "alive")])

/-- The page of counters, if they are exposed. -/
def metricsPage (exposed : Bool) : Prog Response := do
  if exposed then
    let values ← Prog.counters
    return { status := 200, contentType := some "text/plain; version=0.0.4",
             body := .counters values, headers := [] }
  else return .text 503 "text/plain" "Metrics not initialized"

/-- The upper bounds of the classes in which response times are counted, in seconds. -/
def latencyBounds : List String :=
  ["0.001", "0.005", "0.01", "0.025", "0.05", "0.1", "0.25", "0.5", "1", "2.5", "5", "+Inf"]

/-- Add to the entry of a key. -/
def addTo (key : String × String) (n : Nat) :
    List ((String × String) × Nat) → List ((String × String) × Nat)
  | [] => [(key, n)]
  | (k, m) :: rest => if k = key then (k, m + n) :: rest else (k, m) :: addTo key n rest

/-- How many response times were measured, by method and route: one for each request counted. -/
def measured (counters : List (Series × Nat)) : List ((String × String) × Nat) :=
  counters.foldl
    (fun acc c =>
      match c.1 with
      | .requests method route _ => addTo (method, route) c.2 acc
      | _ => acc)
    []

/-- The lines of the page of counters: all counters, and how many response times were measured. -/
def exposition (counters : List (Series × Nat)) : List (String × Nat) :=
  (counters.map fun c => (c.1.text, c.2)) ++
    (measured counters).map fun m =>
      ("http_request_duration_seconds_count\x7bmethod=\"" ++ m.1.1 ++ "\",path=\"" ++ m.1.2 ++
        "\"\x7d", m.2)

end Geofencing.Http
