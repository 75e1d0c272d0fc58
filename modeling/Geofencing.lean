import Geofencing.DomainError
import Geofencing.Event
import Geofencing.Geo.Coordinate
import Geofencing.Geo.Engine
import Geofencing.Geo.GeoJson
import Geofencing.Geo.Nearest
import Geofencing.Geo.Ring
import Geofencing.Geo.Turn
import Geofencing.Geofence.Basic
import Geofencing.Geofence.Kind
import Geofencing.Geofence.Request
import Geofencing.Geofence.Shape
import Geofencing.Http.Access
import Geofencing.Http.Api
import Geofencing.Http.ApiError
import Geofencing.Http.App
import Geofencing.Http.Handler
import Geofencing.Http.MediaType
import Geofencing.Http.Message
import Geofencing.Http.Monitor
import Geofencing.Http.Resource
import Geofencing.Http.Target
import Geofencing.Instant.Basic
import Geofencing.Instant.Calendar
import Geofencing.Instant.Text
import Geofencing.Jobs
import Geofencing.Json.Attempt
import Geofencing.Json.Decode
import Geofencing.Json.Reader
import Geofencing.Json.Tree
import Geofencing.Json.Value
import Geofencing.Location.Report
import Geofencing.Location.Request
import Geofencing.Membership
import Geofencing.Number.Binary64
import Geofencing.Number.Decimal
import Geofencing.Number.Expansion
import Geofencing.Number.Integer
import Geofencing.Number.Numeral
import Geofencing.Number.Text
import Geofencing.Proofs.Acceptance
import Geofencing.Proofs.Administration
import Geofencing.Proofs.Amendment
import Geofencing.Proofs.Arrival
import Geofencing.Proofs.Attendance
import Geofencing.Proofs.Authorization
import Geofencing.Proofs.Base64
import Geofencing.Proofs.Bystanders
import Geofencing.Proofs.Calendar
import Geofencing.Proofs.Columns
import Geofencing.Proofs.Confinement
import Geofencing.Proofs.Counters
import Geofencing.Proofs.Credentials
import Geofencing.Proofs.Deed
import Geofencing.Proofs.Description
import Geofencing.Proofs.EdgeLength
import Geofencing.Proofs.Encoding
import Geofencing.Proofs.Entitlement
import Geofencing.Proofs.Evaluation
import Geofencing.Proofs.History
import Geofencing.Proofs.Hook
import Geofencing.Proofs.Identity
import Geofencing.Proofs.InStep
import Geofencing.Proofs.Integrity
import Geofencing.Proofs.Interleaving
import Geofencing.Proofs.Interruption
import Geofencing.Proofs.Isolation
import Geofencing.Proofs.Listing
import Geofencing.Proofs.Members
import Geofencing.Proofs.Naming
import Geofencing.Proofs.Oblivious
import Geofencing.Proofs.Operation
import Geofencing.Proofs.Overlap
import Geofencing.Proofs.Ownership
import Geofencing.Proofs.Paging
import Geofencing.Proofs.Phases
import Geofencing.Proofs.Purge
import Geofencing.Proofs.Query
import Geofencing.Proofs.Quoted
import Geofencing.Proofs.Race
import Geofencing.Proofs.Reach
import Geofencing.Proofs.Recording
import Geofencing.Proofs.Records
import Geofencing.Proofs.Replay
import Geofencing.Proofs.Rereading
import Geofencing.Proofs.Retention
import Geofencing.Proofs.Revision
import Geofencing.Proofs.Rows
import Geofencing.Proofs.Run
import Geofencing.Proofs.Scope
import Geofencing.Proofs.Shown
import Geofencing.Proofs.Soundness
import Geofencing.Proofs.Spelling
import Geofencing.Proofs.Submission
import Geofencing.Proofs.Tables
import Geofencing.Proofs.Timestamp
import Geofencing.Proofs.Undetermined
import Geofencing.Proofs.Union
import Geofencing.Proofs.Validated
import Geofencing.Proofs.Views
import Geofencing.Proofs.Winding
import Geofencing.Service.Prog
import Geofencing.Service.Recorder
import Geofencing.Service.Tracker
import Geofencing.Service.World
import Geofencing.Settings.Address
import Geofencing.Settings.Basic
import Geofencing.Settings.Layer
import Geofencing.Settings.Path
import Geofencing.Settings.Scalar
import Geofencing.Store.Basic
import Geofencing.Store.Call
import Geofencing.Text
import Geofencing.Token.Base64
import Geofencing.Token.Claims
import Geofencing.Token.Der
import Geofencing.Token.Header
import Geofencing.Token.Pem
import Geofencing.Token.PublicKey
import Geofencing.Token.Sha256
import Geofencing.Token.Verifier
import Geofencing.Uuid
import Geofencing.Validation
