import CloudFlags.Api.Exchange
import CloudFlags.Api.Failure
import CloudFlags.Api.Misreading
import CloudFlags.Api.Reply
import CloudFlags.Api.Request
import CloudFlags.Api.Status
import CloudFlags.Api.Store
import CloudFlags.Backoff
import CloudFlags.Cache
import CloudFlags.Calendar.Date
import CloudFlags.Calendar.Timestamp
import CloudFlags.Calendar.Timestamp.Parser
import CloudFlags.Cluster
import CloudFlags.Counter
import CloudFlags.Decimal.Binary64
import CloudFlags.Decimal.Shortest
import CloudFlags.Error
import CloudFlags.Event
import CloudFlags.Flags
import CloudFlags.Json.Basic
import CloudFlags.Json.Mismatch
import CloudFlags.Json.Parser
import CloudFlags.Json.Path
import CloudFlags.Json.Place
import CloudFlags.Json.Printer
import CloudFlags.Json.Shape
import CloudFlags.Json.Shape.Object
import CloudFlags.Json.Shape.Record
import CloudFlags.Json.Skip
import CloudFlags.KeyPath
import CloudFlags.Log
import CloudFlags.Observation.ConfigSource
import CloudFlags.Observation.Observer
import CloudFlags.Observation.Report
import CloudFlags.Operator.Copying
import CloudFlags.Operator.FlowControl
import CloudFlags.Operator.Pass
import CloudFlags.Operator.Publishing
import CloudFlags.Operator.Relay
import CloudFlags.Operator.Reporting
import CloudFlags.Operator.Schedule
import CloudFlags.OutOfTree
import CloudFlags.Platform
import CloudFlags.Resource.ClusterEvent
import CloudFlags.Resource.ConfigMap
import CloudFlags.Resource.FeatureGate
import CloudFlags.Resource.FlowControl
import CloudFlags.Resource.Infrastructure
import CloudFlags.Resource.Metadata
import CloudFlags.Scenario.Life
import CloudFlags.Scenario.Rehearsal
import CloudFlags.Scenario.ScriptedServer
import CloudFlags.Settings
import CloudFlags.SyncRule
import CloudFlags.Table
import CloudFlags.Text.Base64
import CloudFlags.Text.Blank
import CloudFlags.Text.Digits
import CloudFlags.Text.Dotted
import CloudFlags.Text.Quoted
import CloudFlags.Text.Unprintable
import CloudFlags.Text.Unprintable.Extending
import CloudFlags.Text.Unprintable.Glyphless
import CloudFlags.Traced
import CloudFlags.Proofs.Paths
import CloudFlags.Proofs.Observation
import CloudFlags.Proofs.Notices
import CloudFlags.Proofs.FailingStage
import CloudFlags.Proofs.Confinement
import CloudFlags.Proofs.Pass
import CloudFlags.Proofs.History
import CloudFlags.Proofs.FitFlags
import CloudFlags.Proofs.Talk
import CloudFlags.Proofs.Handling
import CloudFlags.Proofs.Backing
import CloudFlags.Proofs.Convergence
import CloudFlags.Proofs.Addressing
import CloudFlags.Proofs.Keeping
import CloudFlags.Proofs.Persistence
import CloudFlags.Proofs.Serving
import CloudFlags.Proofs.Obeying
import CloudFlags.Proofs.Restoring
import CloudFlags.Proofs.Restart
import CloudFlags.Proofs.Carrying
import CloudFlags.Proofs.Mirroring
import CloudFlags.Proofs.Retries
import CloudFlags.Proofs.Footprint
import CloudFlags.Proofs.Encoding
import CloudFlags.Proofs.TwoPaths
import CloudFlags.Proofs.Gating
import CloudFlags.Proofs.Turns
import CloudFlags.Proofs.Warnings
import CloudFlags.Proofs.Waiting
import CloudFlags.Proofs.Json.Texts
import CloudFlags.Proofs.Json.Parts
import CloudFlags.Proofs.Json.ConfigMaps
import CloudFlags.Proofs.Json.RoundTrip
import CloudFlags.Proofs.Json.Nesting
import CloudFlags.Proofs.Json.Numbers
import CloudFlags.Proofs.Sources
import CloudFlags.Proofs.Recording
import CloudFlags.Proofs.Choosing
import CloudFlags.Proofs.AcceptedSettings
import CloudFlags.Proofs.WhollyOrNot
import CloudFlags.Proofs.Writing
import CloudFlags.Proofs.Restriction
import CloudFlags.Proofs.Deciding
import CloudFlags.Proofs.Requests
import CloudFlags.Proofs.Spelling
import CloudFlags.Proofs.Accepting
import CloudFlags.Proofs.Json.Fields
import CloudFlags.Proofs.Relaying
import CloudFlags.Proofs.Timestamps
import CloudFlags.Proofs.Json.Resources
import CloudFlags.Proofs.Attempts
import CloudFlags.Proofs.Counting
