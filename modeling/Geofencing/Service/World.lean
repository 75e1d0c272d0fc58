import Geofencing.Service.Prog

/-!
# Running programs

The surroundings decide what the outside answers: which store calls are refused, which entries the
attendance hook accepts, what the engine finds, what the clock shows and which identifiers are
drawn. Each decision may depend on all earlier ones of its kind. The world is what changes while
programs run.
-/

namespace Geofencing

/-- What the outside answers. -/
structure Surroundings where
  /-- Whether a store call is refused, given the kinds of the calls before it, the last one
  first. -/
  refuses : List StoreMethod → StoreMethod → Bool
  /-- Whether the attendance hook accepts an entry, given the entries before it. -/
  accepts : List SchoolEntry → SchoolEntry → Bool
  /-- What the spatial engine answers, given how many questions came before. -/
  engine : Nat → Geo.Engine
  /-- What the clock shows, given how often it was read before. -/
  clock : Nat → Instant
  /-- The identifiers drawn, in order. -/
  ids : Nat → Uuid

/-- What changes while programs run. -/
structure World where
  /-- The store. -/
  store : Store
  /-- The entries that the attendance hook was told about, in order. -/
  entries : List SchoolEntry
  /-- The counters that were touched, each with its value. -/
  counters : List (Series × Nat)
  /-- The kinds of the store calls so far, the last one first. -/
  calls : List StoreMethod
  /-- How many questions the spatial engine was asked. -/
  questions : Nat
  /-- How often the clock was read. -/
  readings : Nat
  /-- How many identifiers were drawn. -/
  drawn : Nat

namespace World

/-- A world in which nothing has happened, over a given store. -/
def start (store : Store) : World :=
  { store, entries := [], counters := [], calls := [], questions := 0, readings := 0, drawn := 0 }

/-- Advance one counter in a list of counters. -/
def bump (series : Series) (amount : Nat) : List (Series × Nat) → List (Series × Nat)
  | [] => [(series, amount)]
  | (s, n) :: rest => if s = series then (s, n + amount) :: rest else (s, n) :: bump series amount rest

/-- The value of a counter, zero if it was never touched. -/
def counter (w : World) (series : Series) : Nat :=
  (w.counters.lookup series).getD 0

/-- The error of a refused store call. It is always a failure of persistence, as which a store
reports whatever keeps it from answering, and its words name the call; the surroundings choose which
calls are refused, not the error. -/
def refusal (method : StoreMethod) : DomainError :=
  .persistence (method.text ++ " refused")

/-- Carry out a store call, unless it is refused. A refused call leaves the store as it is and fails
with `refusal`; a call that is carried out may still fail, with the store's own error. -/
def callStore (env : Surroundings) (w : World) (call : StoreCall) :
    Except DomainError call.Value × World :=
  let w' := { w with calls := call.method :: w.calls }
  if env.refuses w.calls call.method then (.error (refusal call.method), w')
  else
    match w.store.perform call with
    | .ok (value, store) => (.ok value, { w' with store })
    | .error e => (.error e, w')

/-- Carry out an action. -/
def perform (env : Surroundings) (w : World) : (a : Action) → a.Reply × World
  | .store call => w.callStore env call
  | .attend entry => (env.accepts w.entries entry, { w with entries := w.entries ++ [entry] })
  | .locate point geometry =>
    (env.engine w.questions point geometry, { w with questions := w.questions + 1 })
  | .readClock => (env.clock w.readings, { w with readings := w.readings + 1 })
  | .freshId => (env.ids w.drawn, { w with drawn := w.drawn + 1 })
  | .count series amount => ((), { w with counters := bump series amount w.counters })
  | .readCounters => (w.counters, w)

end World

/-- Run a program to its end; a program that breaks down has no value. -/
def Prog.run {α : Type} (env : Surroundings) : Prog α → World → Option α × World
  | .done a, w => (some a, w)
  | .abort, w => (none, w)
  | .step action next, w =>
    let (reply, w') := w.perform env action
    (next reply).run env w'

end Geofencing
