import Arcade.Actor
import Arcade.Address
import Arcade.Api.Command
import Arcade.Api.Guard
import Arcade.Api.Query
import Arcade.Api.Request
import Arcade.Api.Writer
import Arcade.Behavior
import Arcade.Cabinet
import Arcade.Color
import Arcade.Controls
import Arcade.Crash
import Arcade.Drawing
import Arcade.Event
import Arcade.Handle
import Arcade.Index
import Arcade.Json.Basic
import Arcade.Json.Draft
import Arcade.Json.Error
import Arcade.Json.Printer
import Arcade.Json.Reader
import Arcade.Json.Record
import Arcade.Json.Tagged
import Arcade.Json.Text
import Arcade.Keyboard
import Arcade.Launch
import Arcade.Main
import Arcade.Manifest
import Arcade.Motion.Bounds
import Arcade.Motion.Box
import Arcade.Motion.Vec
import Arcade.Number.Literal
import Arcade.Number.Numeral
import Arcade.Number.Precision
import Arcade.Number.Scalar
import Arcade.Number.Shortest
import Arcade.Proofs.Acceptance
import Arcade.Proofs.Admission
import Arcade.Proofs.Allowance
import Arcade.Proofs.Anchorage
import Arcade.Proofs.Aspect
import Arcade.Proofs.Bookkeeping
import Arcade.Proofs.Building
import Arcade.Proofs.Bystander
import Arcade.Proofs.Census
import Arcade.Proofs.Change
import Arcade.Proofs.Chronicle
import Arcade.Proofs.Clearing
import Arcade.Proofs.Coloring
import Arcade.Proofs.Confining
import Arcade.Proofs.Consumption
import Arcade.Proofs.Contacts
import Arcade.Proofs.Copying
import Arcade.Proofs.Course
import Arcade.Proofs.Dispatch
import Arcade.Proofs.Elapsed
import Arcade.Proofs.Ending
import Arcade.Proofs.Endurance
import Arcade.Proofs.Following
import Arcade.Proofs.Footing
import Arcade.Proofs.Gathering
import Arcade.Proofs.Grouping
import Arcade.Proofs.Guidance
import Arcade.Proofs.Identity
import Arcade.Proofs.Keying
import Arcade.Proofs.Launching
import Arcade.Proofs.Ledger
import Arcade.Proofs.Lexing
import Arcade.Proofs.Life
import Arcade.Proofs.Likeness
import Arcade.Proofs.Making
import Arcade.Proofs.Mirroring
import Arcade.Proofs.Naming
import Arcade.Proofs.Nearest
import Arcade.Proofs.Newcomer
import Arcade.Proofs.Numbering
import Arcade.Proofs.Operation
import Arcade.Proofs.Outcome
import Arcade.Proofs.Outline
import Arcade.Proofs.Ownership
import Arcade.Proofs.Packing
import Arcade.Proofs.Pairing
import Arcade.Proofs.Parting
import Arcade.Proofs.Patrolling
import Arcade.Proofs.Placing
import Arcade.Proofs.Pump
import Arcade.Proofs.Quota
import Arcade.Proofs.Range
import Arcade.Proofs.Reading
import Arcade.Proofs.Recall
import Arcade.Proofs.Regular
import Arcade.Proofs.Rejection
import Arcade.Proofs.Reloading
import Arcade.Proofs.Removal
import Arcade.Proofs.Reordering
import Arcade.Proofs.Restart
import Arcade.Proofs.Resting
import Arcade.Proofs.Restoring
import Arcade.Proofs.Roster
import Arcade.Proofs.Rounding
import Arcade.Proofs.RuleLines
import Arcade.Proofs.Scene
import Arcade.Proofs.Scoring
import Arcade.Proofs.Sessions
import Arcade.Proofs.Setting
import Arcade.Proofs.Shooting
import Arcade.Proofs.Showing
import Arcade.Proofs.Single
import Arcade.Proofs.Spelling
import Arcade.Proofs.Stirring
import Arcade.Proofs.Storing
import Arcade.Proofs.Telling
import Arcade.Proofs.Tenure
import Arcade.Proofs.Timing
import Arcade.Proofs.Turnover
import Arcade.Proofs.Widening
import Arcade.Proofs.Writing
import Arcade.Random
import Arcade.Registry
import Arcade.Roster
import Arcade.Rule.Binding
import Arcade.Rule.Grammar
import Arcade.Run
import Arcade.Screen
import Arcade.Spawn.Position
import Arcade.Spec.Basic
import Arcade.Spec.Error
import Arcade.Spec.Payload
import Arcade.Spec.Reader
import Arcade.Spec.Validate
import Arcade.Spec.Writer
import Arcade.Stage
import Arcade.Text.Blank
import Arcade.Text.Numeral
import Arcade.Text.Quoted
import Arcade.Text.Split
import Arcade.Text.Utf8
import Arcade.Text.Visible
import Arcade.Timer
import Arcade.World
import Arcade.World.Create
import Arcade.World.Effect
import Arcade.World.Frame
import Arcade.World.Physics
import Arcade.World.Play
import Arcade.World.Shooting
import Arcade.World.Spawning
import Arcade.World.Steering
