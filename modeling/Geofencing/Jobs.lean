import Geofencing.Number.Integer
import Geofencing.Service.Tracker

/-!
# Background jobs

A job first runs one period after the start. Its runs never overlap, and a tick that falls into a
run is made up for right after it. On shutdown no further run starts, and a run under way is waited
for up to a limit. Times on a timeline are in milliseconds.

The service has two jobs. Every day the reports of all tenants that are no longer kept are removed,
and every ten seconds the connections of the database pool are counted.
-/

namespace Geofencing.Jobs

/-! ## How often jobs run -/

/-- How often a job runs. -/
inductive Frequency where
  /-- Every so many seconds. -/
  | seconds (n : Nat)
  /-- Every so many minutes. -/
  | minutes (n : Nat)
  /-- Every hour. -/
  | hourly
  /-- Every day. -/
  | daily
  deriving DecidableEq, Repr

/-- The period in seconds. A number of minutes whose seconds do not fit into 64 bits has none. -/
def Frequency.period? : Frequency → Option Nat
  | .seconds n => some n
  | .minutes n => if n * 60 ≤ Width.nat64Max then some (n * 60) else none
  | .hourly => some 3600
  | .daily => some 86400

/-! ## Timelines -/

/-- How a run of a job ends. -/
inductive Ending where
  /-- The run succeeds. -/
  | success
  /-- The run fails; the next one takes place as usual. -/
  | failure
  /-- The run breaks down and takes the job with it. -/
  | breakdown
  deriving DecidableEq, Repr

/-- A job as far as its timeline is concerned. -/
structure Plan where
  /-- The name. -/
  name : String
  /-- The time between ticks; 0 for a job that cannot be set up. -/
  period : Nat
  /-- How long a run takes, unless it breaks down: that happens at once. -/
  duration : Nat
  /-- How every run ends. -/
  ending : Ending

/-- When a run starts and when it ends. -/
structure Run where
  /-- The start. -/
  start : Nat
  /-- The end. -/
  finish : Nat
  deriving DecidableEq, Repr

namespace Plan

/-- How long a run really takes. -/
def length (p : Plan) : Nat :=
  if p.ending = .breakdown then 0 else p.duration

/-- The runs that start before the shutdown, from the tick with number `tick` on, the last one
first; `free` is when the run before ends and `earlier` are the runs up to it. -/
def runsFrom (p : Plan) (shutdown : Nat) : (fuel tick free : Nat) → (earlier : List Run) → List Run
  | 0, _, _, earlier => earlier
  | fuel + 1, tick, free, earlier =>
    let start := max (tick * p.period) free
    if start < shutdown then
      let run : Run := ⟨start, start + p.length⟩
      if p.ending = .breakdown then run :: earlier
      else p.runsFrom shutdown fuel (tick + 1) run.finish (run :: earlier)
    else earlier

/-- The runs that start before the shutdown. A job without a period never runs. -/
def runs (p : Plan) (shutdown : Nat) : List Run :=
  if p.period = 0 then [] else (p.runsFrom shutdown (shutdown / p.period + 1) 1 0 []).reverse

/-- The runs that are over before waiting ends. -/
def finished (p : Plan) (shutdown wait : Nat) : List Run :=
  if p.ending = .breakdown then []
  else (p.runs shutdown).filter fun r => r.finish < shutdown + wait

/-- How long after the shutdown the last run is over. -/
def overtime (p : Plan) (shutdown : Nat) : Nat :=
  ((p.runs shutdown).map fun r => r.finish - shutdown).foldl max 0

end Plan

/-- How long the shutdown of several jobs takes, waiting no longer than a limit. -/
def shutdownTime (plans : List Plan) (shutdown wait : Nat) : Nat :=
  min wait ((plans.map fun p => p.overtime shutdown).foldl max 0)

/-! ## The jobs of the service -/

/-- The name of the job that removes old reports. -/
def cleanupName : String := "cleanup_locations"

/-- How often old reports are removed. -/
def cleanupFrequency : Frequency := .daily

/-- Remove old reports of all tenants; a failure is described in words. -/
def cleanup (policy : RetentionPolicy) : Prog (Except String Unit) := do
  match ← (Tracker.purge policy none).run with
  | .ok _ => pure (.ok ())
  | .error e => pure (.error ("Failed to purge location reports: " ++ e.message))

/-- The name of the job that counts database connections. -/
def poolName : String := "pool_metrics"

/-- How often database connections are counted. -/
def poolFrequency : Frequency := .seconds 10

/-- The connections of a database pool. -/
structure Pool where
  /-- Connections in use. -/
  active : Nat
  /-- Connections that wait for use. -/
  idle : Nat

/-- A pool that never connected. -/
def Pool.unused : Pool := ⟨0, 0⟩

/-- The gauges of a pool, each with its name. -/
def Pool.gauges (p : Pool) : List (String × Nat) :=
  [("database_connections_active", p.active), ("database_connections_idle", p.idle),
   ("database_connections_total", p.active + p.idle)]

end Geofencing.Jobs
