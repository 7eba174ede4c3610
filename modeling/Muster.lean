import Muster.BlobDefaults
import Muster.Blobs
import Muster.Cluster
import Muster.CommandLine
import Muster.ConfigError
import Muster.Console
import Muster.Controller
import Muster.Dispatcher
import Muster.Duration
import Muster.Environment
import Muster.Error
import Muster.FileTree
import Muster.Firewall
import Muster.Handler
import Muster.Handler.Scripted
import Muster.InOrder
import Muster.Instance
import Muster.InstanceGroup
import Muster.Json
import Muster.Launch
import Muster.Launch.Report
import Muster.Launch.Schedule
import Muster.Launch.State
import Muster.LockTable
import Muster.Main
import Muster.Manifest
import Muster.Order
import Muster.Phase
import Muster.Placement
import Muster.Proofs.Launch.Step
import Muster.Provider
import Muster.Provider.Simulated
import Muster.Rehearsal
import Muster.RoleSet
import Muster.Rollout
import Muster.Script
import Muster.Session
import Muster.SortedMap
import Muster.SortedSet
import Muster.StatementQueue
import Muster.Store
import Muster.Store.Container
import Muster.Store.Files
import Muster.Template
import Muster.Text.Blank
import Muster.Text.Digits
import Muster.Text.Quoted
import Muster.Text.Uppercase
import Muster.Timestamp
import Muster.Topology
import Muster.Topology.Draft
import Muster.Yaml.Cursor
import Muster.Yaml.Node
import Muster.Yaml.Scalar
import Muster.Yaml.Token
import Muster.Yaml.Typed
import Muster.Proofs.Launch.Run
import Muster.Proofs.Launch.Accounts
import Muster.Proofs.Launch.Verdict
import Muster.Proofs.Simulation.Books
import Muster.Proofs.Launch.Timing
import Muster.Proofs.Launch.Attempt
import Muster.Proofs.Launch.Completion
import Muster.Proofs.Topology.Groups
import Muster.Proofs.Launch.Retry
import Muster.Proofs.Launch.Forecast
import Muster.Proofs.Launch.Outlook
import Muster.Proofs.Provider.Shown
import Muster.Proofs.Store.Saved
import Muster.Proofs.Launch.Running
import Muster.Proofs.Lifecycle.Steps
import Muster.Proofs.Lifecycle.Spared
import Muster.Proofs.Lifecycle.Bootstrap
import Muster.Proofs.Controller.Steps
import Muster.Proofs.Controller.Remembers
import Muster.Proofs.History
import Muster.Proofs.Store.Drafts
import Muster.Proofs.Lifecycle.Leaving
import Muster.Proofs.Store.Kept
import Muster.Proofs.Json
import Muster.Proofs.Store.Records
import Muster.Proofs.Controller.Checkpoints
import Muster.Proofs.Lifecycle.Checks
import Muster.Proofs.Lifecycle.Deeds
import Muster.Proofs.Lifecycle.Protocol
import Muster.Proofs.Lifecycle.Coverage
import Muster.Proofs.Controller.Forgetting
import Muster.Proofs.Lifecycle.Cleanup
import Muster.Proofs.Controller.Relaunch
import Muster.Proofs.Launch.Crashes
import Muster.Proofs.Launch.Permits
import Muster.Proofs.Launch.Counting
import Muster.Proofs.Launch.Fates
import Muster.Proofs.Launch.Cancellation
import Muster.Proofs.Launch.Aftermath
import Muster.Proofs.Launch.Shape
import Muster.Proofs.Lifecycle.Rollouts
import Muster.Proofs.Lifecycle.Ingress
import Muster.Proofs.Lifecycle.Reconfigure
import Muster.Proofs.Controller.Regranting
import Muster.Proofs.Store.Places
import Muster.Proofs.Store.Rooms
import Muster.Proofs.Store.Entries
import Muster.Proofs.Store.OneMap
import Muster.Proofs.Store.Interrupted
import Muster.Proofs.Store.Clusters
import Muster.Proofs.Controller.OwnEntry
import Muster.Proofs.Store.Paved
import Muster.Proofs.Store.Conversions
import Muster.Proofs.Lifecycle.Reloading
import Muster.Proofs.Lifecycle.KnownNames
import Muster.Proofs.Controller.HostNames
import Muster.Proofs.Lifecycle.Steady
import Muster.Proofs.Lifecycle.Published
import Muster.Proofs.Lifecycle.Repeating
import Muster.Proofs.Controller.Repeating
import Muster.Proofs.LockTable
import Muster.Proofs.Template.Grammar
import Muster.Proofs.Topology.Acceptance
import Muster.Proofs.Topology.Printing
import Muster.Proofs.Topology.Shares
import Muster.Proofs.FirstOccurrences
import Muster.Proofs.Environment
import Muster.Proofs.Firewall.Expansion
import Muster.Proofs.Launch.Bounds
import Muster.Proofs.Script
import Muster.Proofs.StatementQueue
import Muster.Proofs.Lifecycle.Ports
import Muster.Proofs.Lifecycle.Scripted
import Muster.Proofs.Lifecycle.Configure
import Muster.Proofs.Lifecycle.Functions
import Muster.Proofs.Topology.Thresholds
import Muster.Proofs.Store.Locations
import Muster.Proofs.Cluster
import Muster.Proofs.Simulation.Journal
import Muster.Proofs.Simulation.Refusals
import Muster.Proofs.Simulation.Honesty
