import Geofencing.Event
import Geofencing.Geo.Engine
import Geofencing.Geofence.Basic

/-!
# Membership of a location in geofences

Evaluating a location against the geofences of a tenant gives one finding for each geofence that can
be evaluated. Comparing it with the geofences the actor was in before tells which boundaries were
crossed.
-/

namespace Geofencing

/-- How membership in a geofence changed between two successive observations. -/
inductive Transition where
  /-- From outside to inside. -/
  | enter
  /-- From inside to outside. -/
  | exit
  /-- Inside both times. -/
  | inside
  /-- Outside both times. -/
  | none
  deriving DecidableEq, Repr

namespace Transition

/-- The name of a transition. -/
def text : Transition → String
  | .enter => "ENTER"
  | .exit => "EXIT"
  | .inside => "INSIDE"
  | .none => "NONE"

/-- The kind of event that a transition leads to, if any. -/
def event? : Transition → Option EventKind
  | .enter => some .enter
  | .exit => some .exit
  | .inside | .none => Option.none

/-- The transition between two observations. -/
def classify (isInside wasInside : Bool) : Transition :=
  match wasInside, isInside with
  | false, true => .enter
  | true, false => .exit
  | true, true => .inside
  | false, false => .none

end Transition

/-- What was found about one location and one geofence. -/
structure Finding where
  /-- The geofence. -/
  geofence : Uuid
  /-- Its name. -/
  name : String
  /-- Its kind. -/
  kind : AreaKind
  /-- Whether the location is inside. -/
  inside : Bool
  /-- Meters to the geofence, infinite if that is unknown. -/
  meters : Float
  /-- How membership changed. -/
  transition : Transition
  deriving DecidableEq, Repr

namespace Finding

/-- Whether the geofence could not be evaluated. -/
def undetermined (f : Finding) : Bool := f.meters.isInf

/-- The finding with its transition, given the geofences the actor was in before. -/
def withTransition (before : List Uuid) (f : Finding) : Finding :=
  { f with transition := .classify f.inside (before.contains f.geofence) }

end Finding

namespace Membership

/-- Whether a geofence is evaluated for a tenant: it is the tenant's own, active and well formed. -/
def evaluable (tenant : Uuid) (g : Geofence) : Bool :=
  g.tenant == tenant && g.active && g.shape.wellFormed

/-- The finding for a geofence, without a transition yet. -/
def finding (g : Geofence) (m : Geo.Membership) : Finding :=
  { geofence := g.id, name := g.name, kind := g.kind, inside := m.inside, meters := m.meters,
    transition := .none }

/-- Membership of a location in a shape. A circle is measured here, a polygon is put to the spatial
engine through `ask`; a question without an answer leaves the membership undetermined. -/
def ofShape {m : Type → Type} [Monad m]
    (ask : Coordinate → Json → m (Except Geo.EngineFailure Geo.Membership)) (location : Coordinate) :
    Shape → m Geo.Membership
  | .circle center radius =>
    pure ⟨Geo.insideCircle location center radius, Geo.distance location center⟩
  | .polygon geometry => do
    match ← ask location geometry with
    | .ok found => pure found
    | .error _ => pure .undetermined

/-- Evaluate a location against geofences, in their order. -/
def evaluateWith {m : Type → Type} [Monad m]
    (ask : Coordinate → Json → m (Except Geo.EngineFailure Geo.Membership))
    (tenant : Uuid) (location : Coordinate) : List Geofence → m (List Finding)
  | [] => pure []
  | g :: rest =>
    if evaluable tenant g then do
      let found ← ofShape ask location g.shape
      let others ← evaluateWith ask tenant location rest
      pure (finding g found :: others)
    else evaluateWith ask tenant location rest

/-- Evaluate a location with an engine whose answers depend on the question alone. -/
def evaluate (engine : Geo.Engine) (tenant : Uuid) (location : Coordinate)
    (geofences : List Geofence) : List Finding :=
  Id.run (evaluateWith (fun c g => pure (engine c g)) tenant location geofences)

/-- The geofences that a location is inside of. -/
def insideIds (findings : List Finding) : List Uuid :=
  (findings.filter Finding.inside).map Finding.geofence

/-- Fill in the transitions, given the geofences the actor was in before. -/
def transitions (before : List Uuid) (findings : List Finding) : List Finding :=
  findings.map (Finding.withTransition before)

end Membership

end Geofencing
