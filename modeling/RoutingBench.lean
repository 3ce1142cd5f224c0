import RoutingBench.Runs
import RoutingBench.Outbox
import RoutingBench.Schema
import RoutingBench.Emitter
import RoutingBench.EmitterDelivery
import RoutingBench.EmitterRejection
import RoutingBench.EmitterStop
import RoutingBench.Calendar
import RoutingBench.Aggregate
import RoutingBench.Views
import RoutingBench.Waterfall
import RoutingBench.Milestones
import RoutingBench.Downtime
import RoutingBench.Heartbeat
import RoutingBench.Episodes
import RoutingBench.Detector
import RoutingBench.Segmentation
import RoutingBench.HeartbeatDelivery
import RoutingBench.RunIds
import RoutingBench.Bench
import RoutingBench.Combinations
import RoutingBench.EpisodeTags
import RoutingBench.IterationTags
import RoutingBench.RecoveryWait
import RoutingBench.Firewall
import RoutingBench.NetworkPartition
import RoutingBench.ChangeLog
import RoutingBench.Watcher
import RoutingBench.SqlWatcher
import RoutingBench.PhaseCharts
import RoutingBench.MilestoneAgreement
import RoutingBench.Windowing
import RoutingBench.IterationTable
import RoutingBench.Strptime
import RoutingBench.ComboReport
import RoutingBench.ReportStatus
import RoutingBench.BatchCharts
import RoutingBench.PatroniWatcher
import RoutingBench.KilledLeader
import RoutingBench.FailoverSummary
import RoutingBench.ConsulWatcher
import RoutingBench.HaproxyWatcher
import RoutingBench.LatencyBuckets
import RoutingBench.WatcherStop
import RoutingBench.Errexit
import RoutingBench.FailoverTest
import RoutingBench.FailoverCalls
import RoutingBench.FailoverSteps
import RoutingBench.FailoverResults
import RoutingBench.Tiling
import RoutingBench.PhaseTiling
import RoutingBench.PhaseTotals
import RoutingBench.OverlapPhases
import RoutingBench.RoutingDetection
import RoutingBench.OrderStatistics
import RoutingBench.MedianOrder
import RoutingBench.WaterfallBars
import RoutingBench.ServerSplit
import RoutingBench.RepresentativeRun
import RoutingBench.GanttLanes
import RoutingBench.Timeline
import RoutingBench.JsonText
import RoutingBench.LaneColors
import RoutingBench.PatroniLane
import RoutingBench.HaproxyLane
import RoutingBench.RunLength
import RoutingBench.ClientLane
import RoutingBench.PostgresEvents
import RoutingBench.TextFields
import RoutingBench.VipWatcher
import RoutingBench.Statistics
import RoutingBench.ExchangeSort
import RoutingBench.ComputeStats
import RoutingBench.BatchVerdict
import RoutingBench.WatcherTargets
import RoutingBench.RunnerRows
import RoutingBench.RuntimeTemplate
import RoutingBench.BgpAnycast
import RoutingBench.BatchCsv
import RoutingBench.BatchSelection
import RoutingBench.Dictionary
import RoutingBench.ClientFailures
import RoutingBench.Markup
import RoutingBench.ReportTables
import RoutingBench.EventReplay
import RoutingBench.GcpBatch
import RoutingBench.GcpMeasurement
import RoutingBench.Parts
import RoutingBench.BenchReplay
import RoutingBench.Sampling
import RoutingBench.MeasuredDowntime
import RoutingBench.Polling
import RoutingBench.ObserverDelay
