import Rdc.Lib.OrdMap
import Rdc.Lib.Machine
import Rdc.Lib.Partial
import Rdc.Lib.Fair
import Rdc.Lib.Dialogue
import Rdc.Lib.Issue
import Rdc.Lib.Atomic
import Rdc.Lib.Serial
import Rdc.Lib.Lease
import Rdc.Lib.Locks
import Rdc.Lib.LockFiles
import Rdc.Lib.Route
import Rdc.Lib.Slots
import Rdc.Lib.Buffer
import Rdc.Lib.CString
import Rdc.Lib.Json
import Rdc.Lib.Raise
import Rdc.Lib.HighWater
import Rdc.Lib.Independent
import Rdc.Lib.RunningStats
import Rdc.Lib.Extremes
import Rdc.Lib.Window
import Rdc.Lib.RingBuffer
import Rdc.Lib.Batch
import Rdc.Lib.SortedWindow
import Rdc.Types
import Rdc.GroupSettings
import Rdc.Handler
import Rdc.CacheManager
import Rdc.JobStats
import Rdc.JobHistory
import Rdc.Standalone
import Rdc.ReadRequests
import Rdc.Telemetry
import Rdc.WatchTable
import Rdc.Notification
import Rdc.System
import Rdc.Environment
import Rdc.Reader
import Rdc.MetricFetcher
import Rdc.TelemetryModule
import Rdc.SmiLib
import Rdc.PcieCache
import Rdc.WorkerLoop
import Rdc.LockedCalls
import Rdc.Dmon
import Rdc.DmonSession
import Rdc.Diagnostic
import Rdc.Messages
import Rdc.GroupRequests
import Rdc.ClientCalls
import Rdc.ServerMain
import Rdc.MetricsUpdater
import Rdc.RdciGroup
import Rdc.Profiler
import Rdc.RocpTelemetry
import Rdc.Node
import Rdc.MemoryTest
import Rdc.ComputeQueue
import Rdc.Proof.Tables
import Rdc.Proof.Calls
import Rdc.Proof.Groups
import Rdc.Proof.Summary
import Rdc.Proof.Orphan
import Rdc.Proof.Jobs
import Rdc.Proof.Delivery
import Rdc.Proof.Drain
import Rdc.Proof.Footprint
import Rdc.Proof.Untimed
import Rdc.Proof.Races
import Rdc.Proof.Settle
import Rdc.Proof.Linear
import Rdc.Proof.Samples
import Rdc.Proof.Rates
import Rdc.Proof.Retention
import Rdc.Proof.Eviction
import Rdc.Proof.NoLimit
import Rdc.Proof.WatchOrder
import Rdc.Proof.Masks
import Rdc.Proof.Events
import Rdc.Proof.DefaultGroup
import Rdc.Proof.GroupStore
import Rdc.Proof.Report
import Rdc.Proof.ReportBounds
import Rdc.Proof.Statistics
import Rdc.Proof.JobReport
import Rdc.Proof.Energy
import Rdc.Proof.Averages
import Rdc.Proof.Percentage
import Rdc.Proof.EccCounts
import Rdc.Proof.Counters
import Rdc.Proof.Dispatch
import Rdc.Proof.Bulk
import Rdc.Proof.Fetch
import Rdc.Proof.BulkFetch
import Rdc.Proof.Handles
import Rdc.Proof.PcieCache
import Rdc.Proof.WorkerLoop
import Rdc.Proof.WorkerShutdown
import Rdc.Proof.LockOrder
import Rdc.Proof.LockedRefine
import Rdc.Proof.FieldGroups
import Rdc.Proof.Notifs
import Rdc.Proof.Dmon
import Rdc.Proof.DmonWatch
import Rdc.Proof.RemoteReads
import Rdc.Proof.ClientCalls
import Rdc.Proof.ServerMain
import Rdc.Proof.MetricsUpdater
import Rdc.Proof.StaleReplies
import Rdc.Proof.Diagnostics
import Rdc.Proof.Messages
import Rdc.Proof.Profiler
import Rdc.Proof.RocpTelemetry
import Rdc.Proof.NodeFetch
import Rdc.Proof.Node
import Rdc.Proof.Verdict
import Rdc.Proof.Parameters
import Rdc.Proof.Topology
import Rdc.Proof.MemoryTest
import Rdc.Proof.ComputeQueue
import Rdc.Proof.Power
import Rdc.Proof.GroupListing
