import Geofencing.Event
import Geofencing.Geo.Engine
import Geofencing.Store.Call
import Geofencing.Text

/-!
# Programs of the service

What the service does is a program: a tree of single actions, each chosen from the answers to the
ones before. Every action is carried out at once, so programs that run side by side interleave
between actions and never within one.
-/

namespace Geofencing

/-- A series of a counter. -/
inductive Series where
  /-- Location reports stored. -/
  | locationsSubmitted
  /-- Events recorded, by kind. -/
  | eventsRecorded (kind : EventKind)
  /-- Location reports removed by purges. -/
  | reportsPurged
  /-- Requests answered, by method, route and status. -/
  | requests (method route : String) (status : Nat)
  /-- Finished runs of background jobs, by job and outcome. -/
  | jobRuns (job : String) (succeeded : Bool)
  deriving DecidableEq, Repr

/-- The name of a series with its labels, as it is exposed. -/
def Series.text : Series → String
  | .locationsSubmitted => "locations_submitted_total"
  | .eventsRecorded kind => "geofence_events_recorded_total\x7bevent_type=\"" ++ kind.text ++ "\"\x7d"
  | .reportsPurged => "location_reports_purged_total"
  | .requests method route status =>
    "http_requests_total\x7bmethod=\"" ++ method ++ "\",path=\"" ++ route ++ "\",status=\"" ++
      toString status ++ "\"\x7d"
  | .jobRuns job succeeded =>
    "background_job_runs_total\x7bjob=\"" ++ Text.label job ++ "\",outcome=\"" ++
      (if succeeded then "success" else "failure") ++ "\"\x7d"

/-- One action of the service. -/
inductive Action where
  /-- Call the store. -/
  | store (call : StoreCall)
  /-- Tell the attendance hook about an entry. -/
  | attend (entry : SchoolEntry)
  /-- Put a membership question to the spatial engine. -/
  | locate (point : Coordinate) (geometry : Json)
  /-- Read the clock. -/
  | readClock
  /-- Draw a fresh identifier. -/
  | freshId
  /-- Advance a counter. -/
  | count (series : Series) (amount : Nat)
  /-- Read all counters. -/
  | readCounters

/-- What an action is answered with. -/
@[reducible]
def Action.Reply : Action → Type
  | .store call => Except DomainError call.Value
  | .attend _ => Bool
  | .locate _ _ => Except Geo.EngineFailure Geo.Membership
  | .readClock => Instant
  | .freshId => Uuid
  | .count _ _ => Unit
  | .readCounters => List (Series × Nat)

/-- A program that ends with a value. -/
inductive Prog (α : Type) where
  /-- The program has ended. -/
  | done (value : α)
  /-- Carry out an action and go on with its answer. -/
  | step (action : Action) (next : action.Reply → Prog α)
  /-- The program breaks down without a value. -/
  | abort

namespace Prog

variable {α β : Type}

/-- Run one program and then another that depends on its value. -/
def bind : Prog α → (α → Prog β) → Prog β
  | .done a, f => f a
  | .step action next, f => .step action fun reply => (next reply).bind f
  | .abort, _ => .abort

instance : Monad Prog where
  pure := .done
  bind := bind

/-- The program of a single action. -/
def act (action : Action) : Prog action.Reply :=
  .step action .done

/-- Read the clock. -/
def now : Prog Instant := act .readClock

/-- Draw a fresh identifier. -/
def fresh : Prog Uuid := act .freshId

/-- Advance a counter. -/
def count (series : Series) (amount : Nat) : Prog Unit := act (.count series amount)

/-- Read all counters. -/
def counters : Prog (List (Series × Nat)) := act .readCounters

/-- Call the store; the answer may be a failure. -/
def store (call : StoreCall) : Prog (Except DomainError call.Value) := act (.store call)

/-- Put a membership question to the spatial engine. -/
def locate (point : Coordinate) (geometry : Json) :
    Prog (Except Geo.EngineFailure Geo.Membership) :=
  act (.locate point geometry)

/-- Tell the attendance hook about an entry; the answer is whether it accepted. -/
def attend (entry : SchoolEntry) : Prog Bool := act (.attend entry)

end Prog

/-- A program that may fail with an error of the domain. -/
abbrev Service := ExceptT DomainError Prog

namespace Service

/-- Call the store and stop if the call fails. -/
def store (call : StoreCall) : Service call.Value := ExceptT.mk (Prog.store call)

end Service

end Geofencing
