import SeriesReplica.Text.Blank
import SeriesReplica.Time.Text
import SeriesReplica.Agent.TimeInput
import SeriesReplica.Numeric.Shortest
import SeriesReplica.Json.Tree
import SeriesReplica.Point.Line
import SeriesReplica.Log
import SeriesReplica.Query.TableJson
import SeriesReplica.Query.Statement
import SeriesReplica.Query.Duration
import SeriesReplica.Schema.DatabaseJson
import SeriesReplica.Concurrent.Machine
import SeriesReplica.Sync.Engine
import SeriesReplica.Unicode.Property
import SeriesReplica.Unicode.Script
import SeriesReplica.Unicode.Fold
import SeriesReplica.Pattern.Size
import SeriesReplica.Schema.Filter
import SeriesReplica.Toml.Document
import SeriesReplica.Url.Basic
import SeriesReplica.Agent.ConfigToml
import SeriesReplica.Agent.LogSettings
import SeriesReplica.Schema.Discovery
import SeriesReplica.Schema.Replication
import SeriesReplica.Cluster.Status
import SeriesReplica.Scenario.World
import SeriesReplica.Scenario.Script
import SeriesReplica.Scenario.Points
import SeriesReplica.Node.Http
import SeriesReplica.Json.Decode
import SeriesReplica.Proofs.Sync.Partition
import SeriesReplica.Proofs.Concurrent.Outcome
import SeriesReplica.Proofs.Concurrent.Schedule
import SeriesReplica.Proofs.Concurrent.Adequacy
import SeriesReplica.Proofs.Node.Rows
import SeriesReplica.Proofs.Node.Reachable
import SeriesReplica.Proofs.Sync.Recovered
import SeriesReplica.Proofs.Cluster.Check
import SeriesReplica.Proofs.Agent.FullCopy
import SeriesReplica.Proofs.Sync.Consistent
import SeriesReplica.Proofs.Node.Contents
import SeriesReplica.Proofs.Sync.Convergence
import SeriesReplica.Proofs.Concurrent.Confluence
import SeriesReplica.Proofs.Sync.Confluence
import SeriesReplica.Proofs.Cluster.Chronicle
import SeriesReplica.Proofs.Concurrent.Fibers
import SeriesReplica.Proofs.Cluster.Interleaving
import SeriesReplica.Proofs.Cluster.Supervision
import SeriesReplica.Proofs.Concurrent.Recording
import SeriesReplica.Proofs.Schema.Asking
import SeriesReplica.Proofs.Agent.Refusal
import SeriesReplica.Proofs.Schema.Conformity
import SeriesReplica.Proofs.Schema.Discovered
import SeriesReplica.Proofs.Agent.Renaming
import SeriesReplica.Proofs.Cluster.Abandonment
import SeriesReplica.Proofs.Schema.Statements
import SeriesReplica.Proofs.Schema.Description
import SeriesReplica.Proofs.Schema.Rediscovery
import SeriesReplica.Proofs.Sync.Undisturbed
import SeriesReplica.Proofs.Agent.Places
import SeriesReplica.Proofs.Node.History
import SeriesReplica.Proofs.Node.ReadBack
import SeriesReplica.Proofs.Point.Ambiguity
import SeriesReplica.Proofs.Sync.Scheduling
import SeriesReplica.Proofs.Query.Statement
import SeriesReplica.Proofs.Agent.FullHistory
import SeriesReplica.Proofs.Cluster.Sampling
import SeriesReplica.Proofs.Sync.Walked
import SeriesReplica.Proofs.Schema.Isolation
import SeriesReplica.Proofs.Concurrent.Stepping
import SeriesReplica.Proofs.Concurrent.Nesting
import SeriesReplica.Proofs.Concurrent.Stopping
import SeriesReplica.Proofs.Concurrent.Roots
import SeriesReplica.Proofs.Cluster.Enlisted
import SeriesReplica.Proofs.Cluster.Guarded
import SeriesReplica.Proofs.Cluster.Watching
import SeriesReplica.Proofs.Agent.Shutdown
import SeriesReplica.Proofs.Cluster.Reactions
import SeriesReplica.Proofs.Cluster.Sequential
import SeriesReplica.Proofs.Cluster.Noninterference
import SeriesReplica.Proofs.Node.Refused
import SeriesReplica.Proofs.Concurrent.Conversation
import SeriesReplica.Proofs.Schema.Account
import SeriesReplica.Proofs.Schema.Idempotence
import SeriesReplica.Proofs.Concurrent.Notes
import SeriesReplica.Proofs.Concurrent.Underway
import SeriesReplica.Proofs.Cluster.Deeds
import SeriesReplica.Proofs.Cluster.Connections
import SeriesReplica.Proofs.Agent.TimeInput
import SeriesReplica.Proofs.Schema.DecodedRows
import SeriesReplica.Proofs.Cluster.Windows
import SeriesReplica.Proofs.Point.Parts
import SeriesReplica.Proofs.Concurrent.Acting
import SeriesReplica.Proofs.Sync.Retrying
